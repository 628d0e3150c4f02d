import PluginAudit.Proofs.Yaml.Cursor

/-!
# Plain scalars that are written

A text that is written without quotes is read back up to the end of its line
(`plain_written`), and so is a name up to the colon behind it (`plain_name`).
-/

set_option autoImplicit false

namespace PluginAudit.Yaml.Lexer

/-! ## Runs -/

/-- Characters without a gap or the mark of a value among them, in front of others. -/
def Unbroken (rest : List Char) : List Char → Prop
  | [] => True
  | c :: run => (isBlank c || isBreak c) = false ∧
      (c = ':' → isGap (run ++ rest).head? = false) ∧ Unbroken rest run

/-- What ends such characters: a gap, or the mark of a value. -/
def EndsRun (rest : List Char) : Prop :=
  ∀ c ∈ rest.head?, (isBlank c || isBreak c) = true ∨ c = ':' ∧ isGap rest[1]? = true

theorem EndsRun.of_gap {rest : List Char}
    (gap : rest.head?.any (fun c => isBlank c || isBreak c) = true) : EndsRun rest := by
  intro c first
  rw [Option.mem_def.mp first, Option.any_some] at gap
  exact .inl gap

theorem plainRun_unbroken (start : Mark) {rest : List Char} (ends : EndsRun rest) (run : List Char)
    (unbroken : Unbroken rest run) (fuel : Nat) (enough : run.length < fuel) (read : List Char)
    (mark : Mark) :
    plainRun false start fuel read ⟨run ++ rest, mark⟩ =
      .ok (run.reverse ++ read, ⟨rest, mark.forward run.length⟩) := by
  induction run generalizing fuel read mark with
  | nil =>
    obtain ⟨fuel, rfl⟩ : ∃ more, fuel = more + 1 := ⟨fuel - 1, by omega⟩
    rw [List.nil_append, plainRun]
    cases rest with
    | nil => rfl
    | cons c more =>
      rcases ends c rfl with gap | ⟨rfl, gap⟩
      · simp [Cursor.next?, gap]
      · simp only [Cursor.next?, List.head?_cons, Cursor.at?, gap]
        rfl
  | cons c run ih =>
    obtain ⟨fuel, rfl⟩ : ∃ more, fuel = more + 1 := ⟨fuel - 1, by omega⟩
    obtain ⟨noGap, noMark, unbroken⟩ := unbroken
    have behind : (⟨c :: (run ++ rest), mark⟩ : Cursor).at? 1 = (run ++ rest).head? := by
      rw [Cursor.at?, List.getElem?_cons_succ, List.head?_eq_getElem?]
    have isNone : (decide (c = ':') && isGap (run ++ rest).head?) = false := by
      by_cases colon : c = ':'
      · rw [noMark colon, Bool.and_false]
      · simp [colon]
    rw [List.cons_append, plainRun]
    simp only [Cursor.next?, List.head?_cons, noGap, behind, isNone, Bool.false_and,
      Bool.false_eq_true, if_false]
    rw [Cursor.skip_cons, ih unbroken fuel (by simpa using enough), Mark.forward_forward]
    simp [Nat.add_comm]

/-! ## A text to the end of its line -/

/-- A text without line breaks and tabs that holds neither the mark of a value nor that of a
comment and does not end in a blank. -/
structure Flat (text : List Char) : Prop where
  noBreak : ∀ c ∈ text, isBreak c = false
  noTab : ∀ c ∈ text, c ≠ '\t'
  noMark : holdsMark text = false
  last : text.getLast? ≠ some ' '

variable {text : List Char}

/-- What is behind the first characters of such a text is such a text. -/
theorem Flat.behind (first : List Char) (flat : Flat (first ++ text)) : Flat text where
  noBreak c among := flat.noBreak c (List.mem_append_right _ among)
  noTab c among := flat.noTab c (List.mem_append_right _ among)
  noMark := anyPair_of_append flat.noMark
  last := by
    have last := flat.last
    rw [List.getLast?_append] at last
    cases isLast : text.getLast? with
    | none => exact nofun
    | some c => simpa [isLast] using last

/-- A word of such a text has neither a gap nor the mark of a value in it. -/
theorem Flat.unbroken {word behind : List Char} (flat : Flat (word ++ behind))
    (noBlank : ∀ c ∈ word, c ≠ ' ') (lines : List Char) :
    Unbroken (behind ++ '\n' :: lines) word := by
  induction word with
  | nil => trivial
  | cons c word ih =>
    refine ⟨?_, fun colon => ?_, ih (flat.behind [c]) fun d among =>
      noBlank d (List.mem_cons_of_mem _ among)⟩
    · have notBlank := noBlank c List.mem_cons_self
      have notTab := flat.noTab c List.mem_cons_self
      simp [isBlank, notBlank, notTab, flat.noBreak c List.mem_cons_self]
    · have noGap : _ = false := anyPair_pair [] (word ++ behind) flat.noMark
      rw [Bool.or_eq_false_iff, colon, beq_self_eq_true, Bool.true_and] at noGap
      rw [← List.append_assoc]
      cases more : word ++ behind with
      | nil =>
        rw [more] at noGap
        cases noGap.1
      | cons d more' =>
        rw [more] at noGap
        exact noGap.1

/-- What has been read of a plain scalar when a text is behind it that ends with its line. -/
def Plain.to (plain : Plain) (text : List Char) (stop : Mark) : Plain where
  read := text.reverse ++ (plain.gap.text.reverse ++ plain.read)
  stop := stop
  gap := { broken := true, first := ['\n'] }

/-- One step of reading: a word, and the gap behind it. -/
theorem plainBody_word {indent : Int} {start : Mark} {rest word : List Char} {c : Char}
    (unbroken : Unbroken rest (c :: word)) (notMark : c ≠ '#')
    (gapBehind : rest.head?.any (fun c => isBlank c || isBreak c) = true) {mark : Mark}
    (inside : 0 < mark.column) {gap : Gap} {after : Cursor}
    (read : Gap.read indent (rest.length + 1) {} ⟨rest, mark.forward (word.length + 1)⟩ =
      .ok (gap, after)) (fuel : Nat) (plain : Plain) :
    plainBody false indent start (fuel + 1) plain ⟨c :: word ++ rest, mark⟩ =
      let plain := { plain with
        read := (c :: word).reverse ++ (plain.gap.text.reverse ++ plain.read)
        stop := mark.forward (word.length + 1)
        gap := gap }
      if (after.mark.column : Int) < indent then .ok (plain, after)
      else plainBody false indent start fuel plain after := by
  have noBoundary : (⟨c :: word ++ rest, mark⟩ : Cursor).atDocumentBoundary = false :=
    Cursor.atDocumentBoundary_of_column inside
  have noComment : (⟨c :: word ++ rest, mark⟩ : Cursor).sees '#' = false := by
    simpa [Cursor.sees, Cursor.next?] using notMark
  have runs := plainRun_unbroken start (EndsRun.of_gap gapBehind) (c :: word) unbroken
    ((c :: word ++ rest).length + 1) (length_lt_fuel (c :: word) rest) [] mark
  have isRun : (c :: word).reverse.isEmpty = false := by simp
  rw [plainBody, noBoundary, noComment, Bool.false_or, if_neg Bool.false_ne_true]
  dsimp only
  rw [runs]
  simp only [bind, Except.bind, List.append_nil]
  rw [isRun, if_neg Bool.false_ne_true, List.length_cons, read, Cursor.next?, if_pos gapBehind]
  simp only [Bool.not_false, Bool.true_and, decide_eq_true_eq]

/-- **A text to the end of its line is read,** and the indentation of the next line is passed. -/
theorem plainBody_flat {indent : Int} {start : Mark} {column : Nat} {more : List Char}
    (next : ∀ c ∈ more.head?, (isBlank c || isBreak c) = false) (shallow : (column : Int) < indent)
    {c : Char} {behind : List Char} (flat : Flat (c :: behind)) (notBlank : c ≠ ' ')
    (notMark : c ≠ '#') (mark : Mark) (inside : 0 < mark.column) (deep : indent ≤ mark.column)
    (fuel : Nat) (enough : behind.length + 1 < fuel) (plain : Plain) :
    ∃ stop, plainBody false indent start fuel plain
        ⟨c :: behind ++ '\n' :: (List.replicate column ' ' ++ more), mark⟩ =
      .ok (plain.to (c :: behind) stop,
        ⟨more, (Cursor.nextLine (mark.forward (behind.length + 1)) 1).forward column⟩) := by
  induction fuel generalizing c behind mark plain with
  | zero => omega
  | succ fuel ih =>
    obtain ⟨word, rest, rfl, noBlanks, stops⟩ := exists_run (· != ' ') behind
    obtain ⟨lines, isLines⟩ : ∃ lines, lines = List.replicate column ' ' ++ more := ⟨_, rfl⟩
    rw [← List.cons_append] at flat ⊢
    have unbroken := flat.unbroken (by simpa [notBlank] using noBlanks) lines
    obtain ⟨count, text, rfl, noBlank⟩ := exists_blanks rest
    have flatBehind : Flat (List.replicate count ' ' ++ text) := flat.behind (c :: word)
    rw [← isLines, List.append_assoc]
    cases text with
    | nil =>
      -- The text does not end in a blank, so the line ends behind the word.
      obtain rfl : count = 0 := by
        by_contra several
        refine flatBehind.last ?_
        rw [List.append_nil, List.getLast?_replicate, if_neg several]
      rw [List.replicate_zero, List.nil_append, List.nil_append] at unbroken ⊢
      refine ⟨mark.forward (word.length + 1), ?_⟩
      have gap := Gap.read_lineEnd indent next column (('\n' :: lines).length + 1)
        (by rw [isLines]; exact Nat.succ_lt_succ (lt_fuel_of_blanks column more))
        (mark.forward (word.length + 1))
      rw [← isLines] at gap
      rw [plainBody_word unbroken notMark (by rfl) inside gap]
      dsimp only
      rw [if_pos (by simpa [Cursor.nextLine] using shallow)]
      simp [Plain.to]
    | cons d rest =>
      obtain ⟨count, rfl⟩ : ∃ fewer, count = fewer + 1 := by
        refine Nat.exists_eq_succ_of_ne_zero ?_
        rintro rfl
        exact noBlank (by simpa using stops d rfl)
      have flatText : Flat (d :: rest) := flatBehind.behind _
      have notBlank : d ≠ ' ' := by simpa using noBlank
      have noGap : (isBlank d || isBreak d) = false := by
        have notTab := flatText.noTab d List.mem_cons_self
        simp [isBlank, notBlank, notTab, flatText.noBreak d List.mem_cons_self]
      have notMark' : d ≠ '#' := by
        rintro rfl
        have noMark := flatBehind.noMark
        rw [List.replicate_succ', List.append_assoc] at noMark
        have pair := anyPair_pair _ _ noMark
        cases pair
      have stops : ∀ c ∈ (d :: rest ++ '\n' :: lines).head?, (isBlank c || isBreak c) = false := by
        simpa using noGap
      have gap := Gap.read_blanks indent stops (count + 1)
        ((List.replicate (count + 1) ' ' ++ (d :: rest ++ '\n' :: lines)).length + 1)
        (lt_fuel_of_blanks (count + 1) _) [] (mark.forward (word.length + 1))
      rw [List.nil_append, Mark.forward_forward] at gap
      obtain ⟨stop, further⟩ := ih flatText notBlank notMark'
        (mark.forward (word.length + 1 + (count + 1)))
        (by rw [Mark.column_forward]; omega) (by rw [Mark.column_forward]; omega)
        (by simp at enough; omega)
        { plain with
          read := (c :: word).reverse ++ (plain.gap.text.reverse ++ plain.read)
          stop := mark.forward (word.length + 1)
          gap := { blanks := List.replicate (count + 1) ' ' } }
      refine ⟨stop, ?_⟩
      rw [List.append_assoc] at unbroken ⊢
      rw [plainBody_word unbroken notMark (by rfl) inside gap]
      dsimp only
      rw [if_neg (by simp; omega), isLines, further]
      simp [Plain.to, Gap.text, Nat.add_assoc, Nat.add_comm, Nat.add_left_comm]

/-- What is written without quotes is flat. -/
theorem flat_of_allowsPlain {text : List Char} (allowed : allowsPlain text = true) : Flat text := by
  simp only [allowsPlain, needsEscapes, Bool.not_eq_true', Bool.or_eq_false_iff] at allowed
  obtain ⟨⟨⟨⟨⟨-, last⟩, -, printable⟩, noBreak⟩, -⟩, noMark⟩ := allowed
  rw [List.any_eq_false] at printable noBreak
  refine ⟨fun c among => by simpa using noBreak c among, ?_, noMark, fun isLast => ?_⟩
  · rintro c among rfl
    exact printable _ among (by decide)
  · rw [isLast] at last
    cases last

/-- **A text that is written without quotes is read back,** with the end of its line and the
indentation of the next, which is lesser than that of the text. -/
theorem plain_written (indent : Int) (column : Nat) {more : List Char}
    (next : ∀ c ∈ more.head?, (isBlank c || isBreak c) = false) (shallow : (column : Int) < indent)
    {text : List Char} (some : text ≠ []) (allowed : allowsPlain text = true) (mark : Mark)
    (inside : 0 < mark.column) (deep : indent ≤ mark.column) :
    ∃ stop, plain false indent ⟨text ++ '\n' :: (List.replicate column ' ' ++ more), mark⟩ =
      .ok (⟨.scalar (String.ofList text) true, mark, stop⟩, true,
        ⟨more, (Cursor.nextLine (mark.forward text.length) 1).forward column⟩) := by
  obtain ⟨c, behind, rfl⟩ := List.exists_cons_of_ne_nil some
  obtain ⟨notBlank, notMark⟩ : c ≠ ' ' ∧ c ≠ '#' := by
    constructor
    · rintro rfl
      simp [allowsPlain, isEdge] at allowed
    · rintro rfl
      simp [allowsPlain, beginsOther, isIndicator] at allowed
  obtain ⟨stop, read⟩ := plainBody_flat next shallow (flat_of_allowsPlain allowed) notBlank notMark
    mark inside deep ((c :: behind ++ '\n' :: (List.replicate column ' ' ++ more)).length + 1)
    (length_lt_fuel (c :: behind) _) ⟨[], mark, {}⟩
  refine ⟨stop, ?_⟩
  rw [plain]
  dsimp only
  rw [read]
  simp [bind, Except.bind, Plain.to, Gap.text]

/-! ## Names -/

/-- Whether a text can be written as the name of a field. -/
def isName (text : List Char) : Bool := !text.isEmpty && text.all fun c => c.isAlphanum || c == '_'

theorem ne_of_isName {text : List Char} (named : isName text = true) {c : Char} (among : c ∈ text)
    {other : Char} (isOther : (other.isAlphanum || other == '_') = false) : c ≠ other := by
  rintro rfl
  rw [isName, Bool.and_eq_true, List.all_eq_true] at named
  exact absurd (named.2 c among) (by simp [isOther])

/-- **The name of a field is read back** up to the colon behind it. -/
theorem plain_name {text rest : List Char} (named : isName text = true)
    (gap : isGap rest.head? = true) (indent : Int) (mark : Mark) :
    plain false indent ⟨text ++ ':' :: rest, mark⟩ =
      .ok (⟨.scalar (String.ofList text) true, mark, mark.forward text.length⟩, false,
        ⟨':' :: rest, mark.forward text.length⟩) := by
  have unbroken (run : List Char) (inside : ∀ c ∈ run, c ∈ text) :
      Unbroken (':' :: rest) run := by
    induction run with
    | nil => trivial
    | cons c run ih =>
      have among := inside c List.mem_cons_self
      refine ⟨?_, fun colon => absurd colon (ne_of_isName named among (by decide)),
        ih fun d among => inside d (List.mem_cons_of_mem _ among)⟩
      simp [isBlank, isBreak, ne_of_isName named among]
  have ends : EndsRun (':' :: rest) := by
    intro c first
    obtain rfl : ':' = c := Option.some.inj first
    exact .inr ⟨rfl, by rwa [List.getElem?_cons_succ, ← List.head?_eq_getElem?]⟩
  have runs := plainRun_unbroken mark ends text (unbroken text fun _ among => among)
    ((text ++ ':' :: rest).length + 1) (length_lt_fuel text _) [] mark
  obtain ⟨c, behind, rfl⟩ : ∃ c behind, text = c :: behind :=
    List.exists_cons_of_ne_nil (by rintro rfl; cases named)
  have isFirst (other : Char) (isOther : (other.isAlphanum || other == '_') = false) :
      c ≠ other := ne_of_isName named List.mem_cons_self isOther
  have noBoundary :
      (⟨c :: behind ++ ':' :: rest, mark⟩ : Cursor).atDocumentBoundary = false := by
    simp [Cursor.atDocumentBoundary, Cursor.atDocumentMark, Cursor.at?,
      isFirst '-' (by decide), isFirst '.' (by decide)]
  have noComment : (⟨c :: behind ++ ':' :: rest, mark⟩ : Cursor).sees '#' = false := by
    simpa [Cursor.sees, Cursor.next?] using isFirst '#' (by decide)
  have isRun : (c :: behind).reverse.isEmpty = false := by simp
  rw [plain]
  dsimp only
  rw [plainBody, noBoundary, noComment, Bool.false_or, if_neg Bool.false_ne_true]
  dsimp only
  rw [runs]
  simp only [bind, Except.bind, List.append_nil]
  rw [isRun, if_neg Bool.false_ne_true, Cursor.next?, List.head?_cons, Option.any_some,
    if_neg (by decide)]
  simp [Gap.text]

end PluginAudit.Yaml.Lexer
