import Mathlib.Tactic.Common
import PluginAudit.Yaml.Lexer.Flow
import PluginAudit.Yaml.Style

/-!
# Passing what is written

The characters that a printer writes as they are: which of them are blanks and
ends of lines, and what is left of a text when some of them have been passed.
-/

set_option autoImplicit false

namespace PluginAudit.Yaml

/-! ## Marks -/

/-- The mark some characters of the same line behind another. -/
def Mark.forward (mark : Mark) (count : Nat) : Mark where
  index := mark.index + count
  line := mark.line
  column := mark.column + count

namespace Mark

@[simp] theorem line_forward (mark : Mark) (count : Nat) : (mark.forward count).line = mark.line :=
  rfl

@[simp] theorem column_forward (mark : Mark) (count : Nat) :
    (mark.forward count).column = mark.column + count := rfl

@[simp] theorem forward_zero (mark : Mark) : mark.forward 0 = mark := rfl

@[simp] theorem forward_forward (mark : Mark) (first second : Nat) :
    (mark.forward first).forward second = mark.forward (first + second) := by
  simp [forward, Nat.add_assoc]

end Mark

/-! ## Cursors -/

namespace Cursor

theorem skip_cons (c : Char) (rest : List Char) (mark : Mark) :
    (⟨c :: rest, mark⟩ : Cursor).skip = ⟨rest, mark.forward 1⟩ := rfl

theorem skip_append (taken rest : List Char) (mark : Mark) :
    (⟨taken ++ rest, mark⟩ : Cursor).skip taken.length = ⟨rest, mark.forward taken.length⟩ := by
  simp [skip, Mark.forward]

/-- Characters are passed up to the first that fails a test. -/
theorem takeWhile_append (test : Char → Bool) (taken : List Char) {rest : List Char}
    (passes : ∀ c ∈ taken, test c = true) (stops : ∀ c ∈ rest.head?, test c = false)
    (mark : Mark) :
    (⟨taken ++ rest, mark⟩ : Cursor).takeWhile test =
      (taken, ⟨rest, mark.forward taken.length⟩) := by
  have isTaken : (taken ++ rest).takeWhile test = taken := by
    rw [List.takeWhile_append_of_pos passes]
    cases rest with
    | nil => simp
    | cons c more => simp [stops c rfl]
  rw [Cursor.takeWhile]
  dsimp only
  rw [isTaken, skip_append]

theorem atDocumentBoundary_of_column {cursor : Cursor} (inside : 0 < cursor.mark.column) :
    cursor.atDocumentBoundary = false := by
  have notFirst : (cursor.mark.column == 0) = false := by
    rw [beq_eq_false_iff_ne]
    omega
  simp [atDocumentBoundary, atDocumentMark, notFirst]

end Cursor

/-! ## Characters that are written as they are -/

section Printable

variable {c : Char} (printable : isPrintable c = true)

include printable

theorem isBlank_iff_of_printable : isBlank c = true ↔ c = ' ' := by
  have notTab : c ≠ '\t' := by
    rintro rfl
    exact absurd printable (by decide)
  simp [isBlank, notTab]

/-- The ends of lines that can be written as they are. -/
theorem isBreak_iff_of_printable :
    isBreak c = true ↔ c = '\n' ∨ c = '\u2028' ∨ c = '\u2029' := by
  have notReturn : c ≠ '\r' := by
    rintro rfl
    exact absurd printable (by decide)
  have notControl : c ≠ '\x85' := by
    rintro rfl
    exact absurd printable (by decide)
  simp [isBreak, notReturn, notControl, or_assoc]

/-- The end of a line that can be written as it is is read as it is. -/
theorem takeBreak_of_printable (ends : isBreak c = true) (rest : List Char) (mark : Mark) :
    (⟨c :: rest, mark⟩ : Cursor).takeBreak = ([c], ⟨rest, Cursor.nextLine mark 1⟩) := by
  rcases (isBreak_iff_of_printable printable).mp ends with rfl | rfl | rfl <;>
    simp [Cursor.takeBreak, isBreak]

/-- What can be written as it is may stand in a text. -/
theorem isAllowed_of_printable : isAllowed c = true := by
  have named (n : Nat) (isN : c.toNat = n) : c = Char.ofNat n := by
    rw [← isN, Char.ofNat_toNat]
  simp only [isPrintable, Bool.or_eq_true, Bool.and_eq_true, beq_iff_eq, decide_eq_true_eq,
    bne_iff_ne] at printable
  simp only [isAllowed, Bool.or_eq_true, Bool.and_eq_true, beq_iff_eq, decide_eq_true_eq]
  rcases printable with (rfl | visible) | ⟨⟨⟨wide, -⟩, notReversed⟩, notLast⟩
  · simp
  · simp [visible]
  · have apart : c.toNat ≠ 0xFFFE ∧ c.toNat ≠ 0xFFFF :=
      ⟨fun same => notReversed (named _ same), fun same => notLast (named _ same)⟩
    by_cases narrow : c.toNat ≤ 0xFFFD
    · exact .inl (.inr ⟨wide, narrow⟩)
    · exact .inr (by omega)

end Printable

/-! ## Pairs of characters -/

section Pairs

variable {test : Char → Option Char → Bool} {first second : List Char}

theorem anyPair_of_append (no : anyPair test (first ++ second) = false) :
    anyPair test second = false := by
  induction first with
  | nil => exact no
  | cons c first ih =>
    rw [List.cons_append, anyPair, Bool.or_eq_false_iff] at no
    exact ih no.2

theorem anyPair_pair {c : Char} (first second : List Char)
    (no : anyPair test (first ++ c :: second) = false) :
    test c second.head? = false := by
  have here := anyPair_of_append no
  rw [anyPair, Bool.or_eq_false_iff] at here
  exact here.1

end Pairs

/-! ## Words and blanks -/

/-- Characters are fewer than the steps that a text with more behind them is given. -/
theorem length_lt_fuel (run rest : List Char) : run.length < (run ++ rest).length + 1 :=
  Nat.lt_succ_of_le (List.prefix_append run rest).length_le

theorem lt_fuel_of_blanks (count : Nat) (rest : List Char) :
    count < (List.replicate count ' ' ++ rest).length + 1 := by
  have fewer := length_lt_fuel (List.replicate count ' ') rest
  rwa [List.length_replicate] at fewer

/-- A text begins with characters that pass a test, up to the first that does not. -/
theorem exists_run (test : Char → Bool) (text : List Char) :
    ∃ run rest, text = run ++ rest ∧ (∀ c ∈ run, test c = true) ∧
      ∀ c ∈ rest.head?, test c = false := by
  refine ⟨text.takeWhile test, text.dropWhile test, List.takeWhile_append_dropWhile.symm, ?_, ?_⟩
  · exact List.all_eq_true.mp List.all_takeWhile
  · intro c first
    have := List.head?_dropWhile_not test text
    rw [Option.mem_def.mp first] at this
    exact this

/-- A text begins with a number of blanks. -/
theorem exists_blanks (text : List Char) :
    ∃ count rest, text = List.replicate count ' ' ++ rest ∧ rest.head? ≠ some ' ' := by
  obtain ⟨run, rest, split, blanks, stops⟩ := exists_run (· == ' ') text
  refine ⟨run.length, rest, ?_, fun first => ?_⟩
  · rw [split, List.eq_replicate_iff.mpr ⟨rfl, fun c among => beq_iff_eq.mp (blanks c among)⟩]
    simp
  · exact absurd (stops ' ' first) (by decide)

/-! ## Gaps -/

namespace Lexer

/-- Blanks inside a line are kept. -/
theorem Gap.read_blanks (limit : Int) {rest : List Char}
    (stops : ∀ c ∈ rest.head?, (isBlank c || isBreak c) = false) (count fuel : Nat)
    (enough : count < fuel) (blanks : List Char) (mark : Mark) :
    Gap.read limit fuel { blanks } ⟨List.replicate count ' ' ++ rest, mark⟩ =
      .ok ({ blanks := blanks ++ List.replicate count ' ' }, ⟨rest, mark.forward count⟩) := by
  induction count generalizing fuel blanks mark with
  | zero =>
    obtain ⟨fuel, rfl⟩ : ∃ more, fuel = more + 1 := ⟨fuel - 1, by omega⟩
    rw [List.replicate_zero, List.nil_append, List.append_nil, Mark.forward_zero, Gap.read]
    cases rest with
    | nil => rfl
    | cons c more =>
      have stop := stops c rfl
      rw [Bool.or_eq_false_iff] at stop
      simp [Cursor.next?, stop]
  | succ count ih =>
    obtain ⟨fuel, rfl⟩ : ∃ more, fuel = more + 1 := ⟨fuel - 1, by omega⟩
    have step : Gap.read limit (fuel + 1) { blanks }
          ⟨' ' :: (List.replicate count ' ' ++ rest), mark⟩ =
        Gap.read limit fuel { blanks := blanks ++ [' '] }
          ⟨List.replicate count ' ' ++ rest, mark.forward 1⟩ := by
      rw [Gap.read]
      rfl
    rw [List.replicate_succ, List.cons_append, step, ih fuel (by omega), Mark.forward_forward]
    simp [Nat.add_comm]

/-- Blanks behind the end of a line are passed. -/
theorem Gap.read_indent (limit : Int) {rest : List Char}
    (stops : ∀ c ∈ rest.head?, (isBlank c || isBreak c) = false) (count : Nat) {fuel : Nat}
    (enough : count < fuel) {gap : Gap} (behind : gap.broken = true) (mark : Mark) :
    Gap.read limit fuel gap ⟨List.replicate count ' ' ++ rest, mark⟩ =
      .ok (gap, ⟨rest, mark.forward count⟩) := by
  induction count generalizing fuel mark with
  | zero =>
    obtain ⟨fuel, rfl⟩ : ∃ more, fuel = more + 1 := ⟨fuel - 1, by omega⟩
    rw [List.replicate_zero, List.nil_append, Mark.forward_zero, Gap.read]
    cases rest with
    | nil => rfl
    | cons c more =>
      have stop := stops c rfl
      rw [Bool.or_eq_false_iff] at stop
      simp [Cursor.next?, stop]
  | succ count ih =>
    obtain ⟨fuel, rfl⟩ : ∃ more, fuel = more + 1 := ⟨fuel - 1, by omega⟩
    have step : Gap.read limit (fuel + 1) gap
          ⟨' ' :: (List.replicate count ' ' ++ rest), mark⟩ =
        Gap.read limit fuel gap ⟨List.replicate count ' ' ++ rest, mark.forward 1⟩ := by
      obtain ⟨broken, blanks, first, more⟩ := gap
      obtain rfl : broken = true := behind
      rw [Gap.read]
      rfl
    rw [List.replicate_succ, List.cons_append, step, ih (by omega), Mark.forward_forward,
      Nat.add_comm]

/-- Ends of lines behind an end of a line are kept. -/
theorem Gap.read_breaks (limit : Int) {rest : List Char}
    (stops : ∀ c ∈ rest.head?, (isBlank c || isBreak c) = false) (count : Nat)
    (breaks : List Char) (written : ∀ c ∈ breaks, isPrintable c = true ∧ isBreak c = true)
    (fuel : Nat) (enough : breaks.length + count < fuel) (gap : Gap) (behind : gap.broken = true)
    (mark : Mark) (begins : mark.column = 0) :
    ∃ stop, mark.line ≤ stop.line ∧ stop.column = count ∧
      Gap.read limit fuel gap ⟨breaks ++ (List.replicate count ' ' ++ rest), mark⟩ =
        .ok ({ gap with more := gap.more ++ breaks }, ⟨rest, stop⟩) := by
  induction breaks generalizing fuel gap mark with
  | nil =>
    refine ⟨mark.forward count, Nat.le_refl _, by simp [begins], ?_⟩
    rw [List.nil_append, Gap.read_indent limit stops count (by simpa using enough) behind,
      List.append_nil]
  | cons c breaks ih =>
    obtain ⟨fuel, rfl⟩ : ∃ more, fuel = more + 1 := ⟨fuel - 1, by omega⟩
    obtain ⟨printable, isEnd⟩ := written c List.mem_cons_self
    have notBlank : isBlank c = false := by
      rw [Bool.eq_false_iff, ne_eq, isBlank_iff_of_printable printable]
      rintro rfl
      cases isEnd
    obtain ⟨broken, blanks, first, more⟩ := gap
    obtain rfl : broken = true := behind
    obtain ⟨stop, later, column, further⟩ := ih
      (fun d among => written d (List.mem_cons_of_mem _ among)) fuel (by simp at enough; omega)
      ⟨true, blanks, first, more ++ [c]⟩ rfl (Cursor.nextLine mark 1) rfl
    refine ⟨stop, Nat.le_trans (Nat.le_succ _) later, column, ?_⟩
    rw [List.cons_append, Gap.read]
    simp only [Cursor.next?, List.head?_cons, notBlank, isEnd,
      takeBreak_of_printable printable isEnd,
      Bool.false_eq_true, if_false, if_true]
    rw [further]
    simp

/-- A line feed and the blanks behind it are passed. -/
theorem Gap.read_lineEnd (limit : Int) {rest : List Char}
    (stops : ∀ c ∈ rest.head?, (isBlank c || isBreak c) = false) (count fuel : Nat)
    (enough : count + 1 < fuel) (mark : Mark) :
    Gap.read limit fuel {} ⟨'\n' :: (List.replicate count ' ' ++ rest), mark⟩ =
      .ok ({ broken := true, first := ['\n'] },
        ⟨rest, (Cursor.nextLine mark 1).forward count⟩) := by
  obtain ⟨fuel, rfl⟩ : ∃ more, fuel = more + 1 := ⟨fuel - 1, by omega⟩
  have step : Gap.read limit (fuel + 1) {} ⟨'\n' :: (List.replicate count ' ' ++ rest), mark⟩ =
      Gap.read limit fuel { broken := true, first := ['\n'] }
        ⟨List.replicate count ' ' ++ rest, Cursor.nextLine mark 1⟩ := by
    rw [Gap.read]
    rfl
  rw [step, Gap.read_indent limit stops count (by omega) rfl]

end Lexer

end PluginAudit.Yaml
