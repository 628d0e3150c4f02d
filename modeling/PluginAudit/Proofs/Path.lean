import Mathlib.Tactic.Common
import PluginAudit.FileTree.Resolution

/-!
# Paths beside a path

A path with more written behind its last name leads to a place beside it: all
of its steps but the last are the same (`steps_extended`), and so is the path
of its directory (`parent?_extended`). A name behind a path is one more step
(`steps_join`). The directories above a path are found
by taking parents, as often as there is one (`UpTo`).
-/

set_option autoImplicit false

namespace PluginAudit.Path

/-- From a path upwards: the path itself, its parent, the parent of that, and so on. -/
inductive UpTo (path : Path) : Path → Prop where
  | here : UpTo path path
  | parent {above higher : Path} (below : UpTo path above)
      (isParent : above.parent? = some higher) : UpTo path higher

/-- What is above the parent of a path is above the path. -/
theorem UpTo.of_parent {path above highest : Path} (isParent : path.parent? = some above)
    (up : UpTo above highest) : UpTo path highest := by
  induction up with
  | here => exact .parent .here isParent
  | parent _ isHigher ih => exact .parent ih isHigher

/-! ## Pieces -/

theorem pieces_of_no_slash {text : List Char} (noSlash : '/' ∉ text) : pieces text = [text] := by
  induction text with
  | nil => rfl
  | cons c rest ih =>
    obtain ⟨notHere, notBehind⟩ := not_or.mp (List.mem_cons.not.mp noSlash)
    rw [pieces, if_neg (Ne.symm notHere), ih notBehind]

/-- What is written behind a text goes to its last piece. -/
theorem pieces_append (more : List Char) (noSlash : '/' ∉ more) (text : List Char) :
    ∃ init last, pieces text = init ++ [last] ∧ pieces (text ++ more) = init ++ [last ++ more] := by
  induction text with
  | nil => exact ⟨[], [], rfl, pieces_of_no_slash noSlash⟩
  | cons c rest ih =>
    obtain ⟨init, last, short, long⟩ := ih
    rw [List.cons_append, pieces, pieces, short, long]
    by_cases slash : c = '/'
    · exact ⟨[] :: init, last, by simp [slash], by simp [slash]⟩
    · cases init with
      | nil => exact ⟨[], c :: last, by simp [slash], by simp [slash]⟩
      | cons piece others => exact ⟨(c :: piece) :: others, last, by simp [slash], by simp [slash]⟩

/-- The last piece of a text that does not end in a slash is what the text ends with. -/
theorem last_piece_ne_nil {text last : List Char} {init : List (List Char)}
    (split : pieces text = init ++ [last]) (noSlash : text.getLast? ≠ some '/')
    (written : text ≠ []) : last ≠ [] := by
  induction text generalizing init last with
  | nil => exact absurd rfl written
  | cons c rest ih =>
    rw [pieces] at split
    cases rest with
    | nil =>
      have notSlash : c ≠ '/' := by simpa using noSlash
      have single : [[c]] = init ++ [last] := by simpa [pieces, notSlash] using split
      cases init with
      | nil => simp only [List.nil_append, List.cons.injEq] at single; simp [← single.1]
      | cons piece others => simp at single
    | cons d more =>
      have further : (d :: more).getLast? ≠ some '/' := by simpa using noSlash
      obtain ⟨start, final, whole, -⟩ := pieces_append [] (by simp) (d :: more)
      have finalWritten := ih whole further (by simp)
      rw [whole] at split
      by_cases slash : c = '/'
      · rw [if_pos slash, ← List.cons_append] at split
        obtain ⟨-, equal⟩ := List.append_inj' split rfl
        obtain rfl : final = last := by simpa using equal
        exact finalWritten
      · rw [if_neg slash] at split
        cases start with
        | nil =>
          simp only [List.nil_append] at split
          cases init with
          | nil => simp only [List.nil_append, List.cons.injEq] at split; simp [← split.1]
          | cons piece others => simp at split
        | cons piece others =>
          simp only [List.cons_append] at split
          rw [← List.cons_append] at split
          obtain ⟨-, equal⟩ := List.append_inj' split rfl
          obtain rfl : final = last := by simpa using equal
          exact finalWritten

/-- A slash ends a piece. -/
theorem pieces_append_slash (first second : List Char) :
    pieces (first ++ '/' :: second) = pieces first ++ pieces second := by
  induction first with
  | nil => simp [pieces]
  | cons c rest ih =>
    obtain ⟨init, last, whole, -⟩ := pieces_append [] (by simp) rest
    rw [List.cons_append, pieces, pieces, ih, whole]
    split
    · rfl
    · cases init <;> rfl

/-! ## Something written behind the last name -/

/-- A path ends in a name: its last step is one, and no slash follows it. -/
structure EndsIn (path : Path) (name : String) : Prop where
  last : path.steps.getLast? = some (.name name)
  noSlash : path.endsInSlash = false

section Extended

variable {path : Path} {name : String}

theorem EndsIn.text_ne_nil (ends : path.EndsIn name) : path.text.toList ≠ [] := by
  intro empty
  have last := ends.last
  simp [steps, parts, empty, pieces] at last

theorem EndsIn.getLast_ne_slash (ends : path.EndsIn name) :
    path.text.toList.getLast? ≠ some '/' := by
  have noSlash := ends.noSlash
  simpa [endsInSlash] using noSlash

/-- The steps of a path that ends in a name. -/
theorem EndsIn.steps_eq (ends : path.EndsIn name) :
    path.steps = path.steps.dropLast ++ [.name name] := by
  obtain ⟨init, split⟩ := List.getLast?_eq_some_iff.mp ends.last
  rw [split, List.dropLast_concat]

/-- The name in which a path ends is its file name. -/
theorem EndsIn.fileName?_eq (ends : path.EndsIn name) : path.fileName? = some name := by
  obtain ⟨init, split⟩ := List.getLast?_eq_some_iff.mp ends.last
  have last : path.components.getLast? = some (.name name) := by
    rw [components, split]
    cases path.isAbsolute with
    | true => simp [List.filter_append, List.getLast?_cons]
    | false =>
      rcases init with _ | ⟨_ | _ | _ | _, more⟩ <;> simp [List.filter_append, List.getLast?_cons]
  rw [fileName?, last]

/-- The step that a part stands for is a name only if the part is that name. -/
theorem step_eq_name {part text : String} (isName : step part = .name text) : part = text := by
  unfold step at isName
  split at isName
  · cases isName
  · split at isName
    · cases isName
    · exact Component.name.inj isName

/-- **All steps but the last stay** when more is written behind the last name of a path. -/
theorem EndsIn.steps_extended (ends : path.EndsIn name) {more : String}
    (noSlash : '/' ∉ more.toList) :
    (path.extended more).steps = path.steps.dropLast ++ [step (name ++ more)] := by
  obtain ⟨init, last, short, long⟩ := pieces_append more.toList noSlash path.text.toList
  have written := last_piece_ne_nil short ends.getLast_ne_slash ends.text_ne_nil
  have nonempty : last.isEmpty = false := by simpa using written
  have nonempty' : (last ++ more.toList).isEmpty = false := by simp [written]
  have before : path.steps =
      ((init.filter fun piece => !piece.isEmpty).map String.ofList).map step ++
        [step (String.ofList last)] := by
    simp [steps, parts, short, nonempty, List.filter_append]
  have isName : String.ofList last = name := by
    have final := ends.last
    rw [before, List.getLast?_concat] at final
    exact step_eq_name (Option.some.inj final)
  have behind : String.ofList (last ++ more.toList) = name ++ more := by
    rw [String.ofList_append, isName, String.ofList_toList]
  rw [before, List.dropLast_concat]
  simp [steps, parts, extended, String.toList_append, long, nonempty', List.filter_append, behind]

theorem EndsIn.isAbsolute_extended (ends : path.EndsIn name) (more : String) :
    (path.extended more).isAbsolute = path.isAbsolute := by
  obtain ⟨c, rest, split⟩ := List.exists_cons_of_ne_nil ends.text_ne_nil
  simp [isAbsolute, extended, String.toList_append, split]

/-- Where the components of a path start before its steps are counted. -/
def origin (absolute : Bool) (steps : List Component) : List Component :=
  if absolute then [.root] else if steps.head? = some .here then [.here] else []

/-- The components of a path are its steps that move, behind its origin. -/
theorem components_eq (path : Path) :
    path.components = origin path.isAbsolute path.steps ++ path.steps.filter (· != .here) := by
  unfold components origin
  cases path.isAbsolute with
  | true => rfl
  | false =>
    cases path.steps with
    | nil => rfl
    | cons first rest => cases first <;> simp

/-- Two paths that start alike and differ in the name at their end have the same directory. -/
theorem components_of_steps {path beside : Path} {init : List Component} {name text : String}
    (absolute : beside.isAbsolute = path.isAbsolute) (split : path.steps = init ++ [.name name])
    (split' : beside.steps = init ++ [.name text]) :
    ∃ above, path.components = above ++ [.name name] ∧
      beside.components = above ++ [.name text] := by
  have alike : origin path.isAbsolute (init ++ [.name name]) =
      origin path.isAbsolute (init ++ [.name text]) := by
    cases init <;> simp [origin]
  refine ⟨origin path.isAbsolute (init ++ [.name text]) ++ init.filter (· != .here), ?_, ?_⟩
  · rw [components_eq, split, alike]
    simp [List.filter_append]
  · rw [components_eq, split', absolute]
    simp [List.filter_append]

/-- **The directory stays** when more is written behind the last name of a path. -/
theorem EndsIn.parent?_extended (ends : path.EndsIn name) {more text : String}
    (noSlash : '/' ∉ more.toList) (isName : step (name ++ more) = .name text) :
    (path.extended more).parent? = path.parent? ∧ ∃ above, path.parent? = some above := by
  have beside : (path.extended more).steps = path.steps.dropLast ++ [.name text] := by
    rw [ends.steps_extended noSlash, isName]
  obtain ⟨above, whole, whole'⟩ :=
    components_of_steps (ends.isAbsolute_extended more) ends.steps_eq beside
  simp [parent?, whole, whole']

end Extended

/-! ## A name behind a path -/

section Join

variable {path : Path} {name : String}

/-- A name behind a path that is written. -/
theorem join_eq (written : path.text.toList ≠ []) (noSlash : '/' ∉ name.toList) :
    ∃ front, (path.join name).text.toList = front ++ '/' :: name.toList ∧
      (path.text.toList = front ∧ path.endsInSlash = false ∨
        path.text.toList = front ++ ['/'] ∧ path.endsInSlash = true) := by
  have relative : ¬ name.toList.head? = some '/' := by
    intro first
    exact noSlash (List.mem_of_head? first)
  have notEmpty : path.text.isEmpty = false := by
    simpa [String.isEmpty_iff] using written
  rw [join, if_neg (by simpa using relative), notEmpty, Bool.false_or]
  cases slash : path.endsInSlash with
  | false => exact ⟨path.text.toList, by simp [String.toList_append], .inl ⟨rfl, rfl⟩⟩
  | true =>
    have last : path.text.toList.getLast? = some '/' := by simpa [endsInSlash] using slash
    obtain ⟨front, split⟩ := List.getLast?_eq_some_iff.mp last
    exact ⟨front, by simp [String.toList_append, split], .inr ⟨split, rfl⟩⟩

/-- A name behind a path is one more step. -/
theorem steps_join (written : path.text.toList ≠ []) (noSlash : '/' ∉ name.toList)
    (named : name.toList ≠ []) : (path.join name).steps = path.steps ++ [step name] := by
  have behind : ∀ front, ((pieces (front ++ '/' :: name.toList)).filter
      fun piece => !piece.isEmpty) =
      ((pieces front).filter fun piece => !piece.isEmpty) ++ [name.toList] := by
    intro front
    rw [pieces_append_slash, pieces_of_no_slash noSlash, List.filter_append]
    simp [named]
  obtain ⟨front, joined, alone | slash⟩ := join_eq written noSlash
  · simp [steps, parts, joined, behind, alone.1]
  · have same : ((pieces path.text.toList).filter fun piece => !piece.isEmpty) =
        (pieces front).filter fun piece => !piece.isEmpty := by
      rw [slash.1, pieces_append_slash, List.filter_append]
      simp [pieces]
    simp [steps, parts, joined, behind, same]

theorem isAbsolute_join (written : path.text.toList ≠ []) (noSlash : '/' ∉ name.toList) :
    (path.join name).isAbsolute = path.isAbsolute := by
  obtain ⟨front, joined, ⟨whole, -⟩ | ⟨whole, -⟩⟩ := join_eq written noSlash
  · obtain ⟨c, rest, split⟩ := List.exists_cons_of_ne_nil written
    simp [isAbsolute, joined, ← whole, split]
  · cases front <;> simp [isAbsolute, joined, whole]

theorem endsInSlash_join (written : path.text.toList ≠ []) (noSlash : '/' ∉ name.toList)
    (named : name.toList ≠ []) : (path.join name).endsInSlash = false := by
  obtain ⟨front, joined, -⟩ := join_eq written noSlash
  have last : (front ++ '/' :: name.toList).getLast? = some (name.toList.getLast named) := by
    simp [List.getLast?_append, List.getLast?_cons, List.getLast?_eq_some_getLast named]
  rw [endsInSlash, joined, last]
  simp only [beq_eq_false_iff_ne, ne_eq, Option.some.injEq]
  intro isSlash
  exact noSlash (isSlash ▸ List.getLast_mem named)

end Join

end PluginAudit.Path
