/-!
# Lines of a text

Line breaks separate the pieces of a text. Its lines are its pieces, but for a last
one in which nothing is written, so that a text whose end is a line break is
followed by the lines of whatever stands behind it (`lines_append`).

A text that is written behind the beginning of a line puts its first line there,
and its further lines behind it (`pieces_behind`). It has further lines exactly if
it holds a line break (`furtherLines_eq_nil_iff`).
-/

set_option autoImplicit false

namespace PluginAudit.Text

/-! ## Texts of one line -/

/-- A text holds no line break. -/
def OneLine (text : String) : Prop := '\n' ∉ text.toList

instance (text : String) : Decidable (OneLine text) :=
  inferInstanceAs (Decidable ('\n' ∉ text.toList))

@[simp] theorem oneLine_append {first second : String} :
    OneLine (first ++ second) ↔ OneLine first ∧ OneLine second := by
  simp [OneLine, not_or]

theorem oneLine_ofList {chars : List Char} : OneLine (String.ofList chars) ↔ '\n' ∉ chars := by
  rw [OneLine, String.toList_ofList]

@[simp] theorem oneLine_toString (n : Nat) : OneLine (toString n) := by
  intro among
  rw [Nat.toString_eq_repr, Nat.toList_repr] at among
  exact absurd (Nat.isDigit_of_mem_toDigits (by decide) (by decide) among) (by decide)

/-- Texts make one line, separated in one, exactly if each of them is one. -/
theorem oneLine_intercalate {separator : String} (separates : OneLine separator)
    {texts : List String} :
    OneLine (separator.intercalate texts) ↔ ∀ text ∈ texts, OneLine text := by
  induction texts with
  | nil => exact iff_of_true List.not_mem_nil (List.forall_mem_nil _)
  | cons text texts ih =>
    cases texts with
    | nil => simp
    | cons next texts =>
      rw [String.intercalate_cons_cons, oneLine_append, oneLine_append, ih]
      simp only [separates, and_true, List.mem_cons, forall_eq_or_imp]

/-! ## Pieces -/

/-- The texts between the line breaks of a text. -/
def pieces (text : String) : List String := (text.toList.splitOn '\n').map String.ofList

/-- What stands before the first line break. -/
def firstLine (text : String) : String := (pieces text).headD ""

/-- What stands behind the first line break, piece by piece. -/
def furtherLines (text : String) : List String := (pieces text).tail

theorem pieces_eq (text : String) : pieces text = firstLine text :: furtherLines text := by
  rw [firstLine, furtherLines]
  cases split : pieces text with
  | nil => exact absurd (List.map_eq_nil_iff.mp split) (List.splitOn_ne_nil _ _)
  | cons first further => rfl

theorem pieces_append (first second : String) :
    pieces (first ++ "\n" ++ second) = pieces first ++ pieces second := by
  rw [pieces, String.toList_append, String.toList_append, List.append_assoc,
    show "\n".toList = ['\n'] from rfl, List.singleton_append, List.splitOn_append_cons_self,
    List.map_append]
  rfl

theorem splitOn_behind {lead text : List Char} (oneLine : '\n' ∉ lead) :
    (lead ++ text).splitOn '\n' = (text.splitOn '\n').modifyHead (lead ++ ·) := by
  induction lead with
  | nil =>
    rw [List.nil_append]
    exact (congrFun List.modifyHead_id _).symm
  | cons c lead ih =>
    obtain ⟨notHere, notBehind⟩ := not_or.mp (mt List.mem_cons.mpr oneLine)
    rw [List.cons_append, List.splitOn_cons_eq_if_modifyHead,
      if_neg (by simpa using Ne.symm notHere), ih notBehind, List.modifyHead_modifyHead]
    rfl

/-- A text puts its first line behind what stands in the line already. -/
theorem pieces_behind {lead : String} (oneLine : OneLine lead) (text : String) :
    pieces (lead ++ text) = (lead ++ firstLine text) :: furtherLines text := by
  have split := pieces_eq text
  rw [pieces] at split ⊢
  rw [String.toList_append, splitOn_behind oneLine]
  cases whole : text.toList.splitOn '\n' with
  | nil => simp [whole] at split
  | cons first further =>
    rw [whole, List.map_cons] at split
    obtain ⟨isFirst, areFurther⟩ := List.cons.inj split
    rw [List.modifyHead_cons, List.map_cons, ← isFirst, ← areFurther, String.ofList_append,
      String.ofList_toList]

/-- A text has further lines exactly if it holds a line break. -/
theorem furtherLines_eq_nil_iff {text : String} : furtherLines text = [] ↔ OneLine text := by
  constructor
  · intro none among
    obtain ⟨before, behind, split⟩ := List.append_of_mem among
    have whole : pieces text = pieces (String.ofList before) ++ pieces (String.ofList behind) := by
      rw [pieces, split, List.splitOn_append_cons_self, List.map_append]
      simp [pieces]
    have length := congrArg List.length whole
    rw [pieces_eq, none, pieces_eq (String.ofList before),
      pieces_eq (String.ofList behind)] at length
    simp at length
  · intro oneLine
    rw [furtherLines, pieces, List.splitOn_eq_singleton oneLine]
    rfl

theorem firstLine_of_oneLine {text : String} (oneLine : OneLine text) : firstLine text = text := by
  rw [firstLine, pieces, List.splitOn_eq_singleton oneLine]
  simp

/-! ## Lines -/

/-- The lines of a text: its pieces, without a last one in which nothing is written. -/
def lines (text : String) : List String :=
  if (pieces text).getLast? = some "" then (pieces text).dropLast else pieces text

/-- **Behind a line break the lines begin anew.** -/
theorem lines_append (first second : String) :
    lines (first ++ "\n" ++ second) = pieces first ++ lines second := by
  have written : pieces second ≠ [] := by
    rw [pieces_eq]
    exact List.cons_ne_nil _ _
  have last : (pieces first ++ pieces second).getLast? = (pieces second).getLast? := by
    rw [List.getLast?_append, Option.or_of_isSome (by simpa using written)]
  rw [lines, lines, pieces_append, last]
  split
  · rw [List.dropLast_append_of_ne_nil written]
  · rfl

end PluginAudit.Text
