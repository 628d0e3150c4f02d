import PluginAudit.Proofs.Pattern.Continuation

/-!
# What patterns read

The ends of the matches at a place are found by a search. What the search finds
is told here without places and without an order: a text is taken apart into
what comes before a match, the piece that the match takes, and what comes after
it, and a pattern reads the piece or does not (`Reads`). There is one law for
each way to put a pattern together. A sequence reads what its parts read one
after the other (`reads_seq`), a repetition of single characters reads the
pieces of its class of the right lengths (`reads_rounds_one`), and a literal
reads itself, whatever its characters are (`reads_literal`). A text has a match
exactly when it can be taken apart around a piece that the pattern reads
(`isMatch_iff`).
-/

set_option autoImplicit false

namespace PluginAudit.Pattern

/-- Between two texts a pattern reads a piece: of the text that the three make, a match takes the
piece. -/
def Reads (pattern : Pattern) (before piece after : List Char) : Prop :=
  before.length + piece.length ∈ pattern.ends (before ++ piece ++ after).toArray before.length

variable {before piece after : List Char}

theorem mem_distinct {places : List Nat} {place : Nat} :
    place ∈ distinct places ↔ place ∈ places := by
  rw [distinct_eq, List.mem_eraseDups]

/-- A match in a text is a piece that the pattern reads between the rest of the text. -/
theorem exists_reads {pattern : Pattern} {text : Array Char} {place stop : Nat}
    (among : stop ∈ pattern.ends text place) (inside : place ≤ text.size) :
    ∃ before piece after,
      text.toList = before ++ piece ++ after ∧ Reads pattern before piece after := by
  obtain ⟨text⟩ := text
  obtain ⟨onward, within⟩ := reaches_of_mem_ends among
  have stops : stop ≤ text.length := Nat.le_trans within (Nat.max_le.mpr ⟨inside, Nat.le_refl _⟩)
  have apart : text.take place ++ (text.take stop).drop place ++ text.drop stop = text := by
    have first : text.take place = (text.take stop).take place := by
      rw [List.take_take, Nat.min_eq_left onward]
    rw [first, List.take_append_drop, List.take_append_drop]
  refine ⟨_, _, _, apart.symm, ?_⟩
  have starts : (text.take place).length = place := List.length_take_of_le inside
  rw [Reads, apart, starts, List.length_drop, List.length_take_of_le stops,
    Nat.add_sub_cancel' onward]
  exact among

/-- **A text has a match exactly when the pattern reads a piece of it.** -/
theorem isMatch_iff {pattern : Pattern} {text : Array Char} :
    pattern.isMatch text = true ↔ ∃ before piece after,
      text.toList = before ++ piece ++ after ∧ Reads pattern before piece after := by
  simp only [isMatch, List.any_eq_true, List.mem_range, Option.isSome_iff_exists, matchAt?]
  constructor
  · rintro ⟨place, inside, stop, isFirst⟩
    exact exists_reads (List.mem_of_head? isFirst) (Nat.le_of_lt_succ inside)
  · rintro ⟨before, piece, after, apart, reads⟩
    obtain rfl : text = (before ++ piece ++ after).toArray := congrArg List.toArray apart
    refine ⟨before.length, ?_, ?_⟩
    · simp only [List.size_toArray, List.length_append]
      omega
    · exact Option.isSome_iff_exists.mp (List.isSome_head?.mpr (List.ne_nil_of_mem reads))

/-! ## One law for each kind of pattern -/

theorem reads_empty : Reads empty before piece after ↔ piece = [] := by
  simp [Reads, ends]

theorem reads_one {cls : CharClass} :
    Reads (one cls) before piece after ↔ ∃ c, piece = [c] ∧ cls.contains c = true := by
  rw [Reads, ends]
  cases piece with
  | nil =>
    -- A match of one character does not end where it starts.
    split
    · simp
    · split <;> simp
  | cons c piece =>
    have here : (before ++ c :: piece ++ after).toArray[before.length]? = some c := by simp
    rw [here]
    dsimp only
    split
    · next isIn => simpa using fun _ => isIn
    · next notIn => simpa using fun _ => notIn

theorem reads_char {c : Char} : Reads (char c) before piece after ↔ piece = [c] := by
  simp [char, reads_one, CharClass.contains_single]

/-- A condition reads nothing, and only between neighbours for which it holds. -/
theorem reads_assertion {condition : Assertion} :
    Reads (assertion condition) before piece after ↔
      piece = [] ∧ condition.holdsBetween before.getLast? after.head? = true := by
  rw [Reads, ends]
  cases piece with
  | nil =>
    have left : (if before.length = 0 then none
        else (before ++ [] ++ after).toArray[before.length - 1]?) = before.getLast? := by
      rcases List.eq_nil_or_concat before with rfl | ⟨earlier, c, rfl⟩ <;> simp
    have right : (before ++ [] ++ after).toArray[before.length]? = after.head? := by
      simp [List.head?_eq_getElem?, List.getElem?_append_right]
    rw [Assertion.holds, left, right]
    split
    · next isSo => simpa using isSo
    · next notSo => simpa using notSo
  | cons c piece =>
    split <;> simp

theorem reads_seq {first second : Pattern} :
    Reads (seq first second) before piece after ↔ ∃ left right, piece = left ++ right ∧
      Reads first before left (right ++ after) ∧ Reads second (before ++ left) right after := by
  rw [Reads, ends, mem_distinct, List.mem_flatMap]
  constructor
  · rintro ⟨middle, isMiddle, isStop⟩
    have onward := (reaches_of_mem_ends isMiddle).onward
    have further := (reaches_of_mem_ends isStop).onward
    obtain ⟨left, right, rfl, rfl⟩ :
        ∃ left right, piece = left ++ right ∧ middle = before.length + left.length := by
      refine ⟨piece.take (middle - before.length), _, (List.take_append_drop _ piece).symm, ?_⟩
      rw [List.length_take]
      omega
    refine ⟨left, right, rfl, ?_, ?_⟩
    · simpa [Reads] using isMiddle
    · simpa [Reads, Nat.add_assoc] using isStop
  · rintro ⟨left, right, rfl, isLeft, isRight⟩
    refine ⟨before.length + left.length, ?_, ?_⟩
    · simpa [Reads] using isLeft
    · simpa [Reads, Nat.add_assoc] using isRight

theorem reads_choice {first second : Pattern} :
    Reads (choice first second) before piece after ↔
      Reads first before piece after ∨ Reads second before piece after := by
  rw [Reads, ends, mem_distinct, List.mem_append]
  rfl

/-- A piece of a class that fits into the bound of a run is in the run. -/
theorem length_le_runLength {cls : CharClass} {bound : Nat}
    (allIn : ∀ c ∈ piece, cls.contains c = true) (fits : piece.length ≤ bound) :
    piece.length ≤ runLength cls (before ++ piece ++ after).toArray bound before.length := by
  induction piece generalizing before bound with
  | nil => exact Nat.zero_le _
  | cons c piece ih =>
    obtain ⟨isIn, restIn⟩ := List.forall_mem_cons.mp allIn
    cases bound with
    | zero => exact absurd fits (Nat.not_succ_le_zero _)
    | succ bound =>
      have here : (before ++ c :: piece ++ after).toArray[before.length]? = some c := by simp
      have rest : piece.length ≤
          runLength cls (before ++ c :: piece ++ after).toArray bound (before.length + 1) := by
        have shifted : piece.length ≤ runLength cls (before ++ [c] ++ piece ++ after).toArray bound
            (before ++ [c]).length := ih restIn (Nat.le_of_succ_le_succ fits)
        simpa using shifted
      rw [runLength, here]
      simp only [isIn, if_true, List.length_cons]
      exact Nat.succ_le_succ rest

/-- **A repetition of single characters reads the pieces of its class,** of a length between its
bounds. -/
theorem reads_rounds_one {greedy : Bool} {least : Nat} {most : Option Nat} {cls : CharClass} :
    Reads (rounds greedy least most (one cls)) before piece after ↔
      least ≤ piece.length ∧ (∀ limit, most = some limit → piece.length ≤ limit) ∧
        ∀ c ∈ piece, cls.contains c = true := by
  have room : (before ++ piece ++ after).toArray.size - before.length =
      piece.length + after.length := by simp
  rw [Reads, ends, mem_runEnds, Nat.add_le_add_iff_left, Nat.add_le_add_iff_left]
  refine and_congr_right fun _ => ?_
  constructor
  · intro within
    constructor
    · rintro limit rfl
      have bound := Nat.le_trans within (runLength_le _ _ _ _)
      rw [runBound, room, Option.getD_some] at bound
      omega
    · intro c among
      obtain ⟨number, inside, rfl⟩ := List.getElem_of_mem among
      obtain ⟨c, there, isIn⟩ := taken_of_runLength (Nat.le_add_right before.length number)
        (Nat.lt_of_lt_of_le (Nat.add_lt_add_left inside _) (Nat.add_le_add_left within _))
      have same : (before ++ piece ++ after).toArray[before.length + number]? =
          some piece[number] := by
        simp [List.getElem?_append_right, List.getElem?_append_left, inside]
      rw [Option.some.inj (same.symm.trans there)]
      exact isIn
  · rintro ⟨few, allIn⟩
    refine length_le_runLength allIn ?_
    rw [runBound, room]
    cases most with
    | none => simp
    | some limit =>
      have short := few limit rfl
      rw [Option.getD_some]
      omega

/-! ## Sequences and literals -/

theorem reads_sequence_nil : Reads (sequence []) before piece after ↔ piece = [] := reads_empty

theorem reads_sequence_cons {first : Pattern} {rest : List Pattern} :
    Reads (sequence (first :: rest)) before piece after ↔ ∃ left right, piece = left ++ right ∧
      Reads first before left (right ++ after) ∧
        Reads (sequence rest) (before ++ left) right after := by
  cases rest with
  | nil => simp [sequence, reads_empty]
  | cons second rest => exact reads_seq

/-- **A literal reads itself and nothing else.** -/
theorem reads_literal {text : List Char} :
    Reads (literal text) before piece after ↔ piece = text := by
  unfold literal
  induction text generalizing before piece with
  | nil => exact reads_sequence_nil
  | cons c text ih => simp [reads_sequence_cons, reads_char, ih]

end PluginAudit.Pattern
