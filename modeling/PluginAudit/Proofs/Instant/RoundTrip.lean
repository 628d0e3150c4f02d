import PluginAudit.Instant.Reader
import PluginAudit.Proofs.Instant.Calendar

/-!
# Written instants are read again

A number that is padded to a width is read again as a number of that width
(`fullNumber_padded`), and a fraction of a second as its nanoseconds
(`optionalFraction_writeFraction`). The civil time of an instant leads back to
the instant (`toCivil_parts`). Together these give: an instant in the years 0
to 9999 is read from its text (`read_write`).
-/

set_option autoImplicit false

namespace PluginAudit.Instant

/-! ## Padded numbers -/

theorem numberOf_eq (digits : List Char) : numberOf digits = Nat.ofDigitChars 10 digits 0 := by
  rw [numberOf, Nat.ofDigitChars_eq_foldl]
  congr 1
  funext value c
  rw [Nat.mul_comm]

theorem isDigit_padded (width n : Nat) : ∀ c ∈ padded width n, c.isDigit = true := by
  intro c among
  rcases List.mem_append.mp among with zero | digit
  · rw [List.eq_of_mem_replicate zero]
    rfl
  · exact Nat.isDigit_of_mem_toDigits (by decide) (by decide) digit

theorem numberOf_padded (width n : Nat) : numberOf (padded width n) = n := by
  rw [numberOf_eq, padded, Nat.ofDigitChars_append, Nat.ofDigitChars_replicate_zero, Nat.mul_zero,
    Nat.ofDigitChars_ten_toDigits]

theorem length_padded {width n : Nat} (some : 0 < width) (fits : n < 10 ^ width) :
    (padded width n).length = width := by
  have short := (Nat.length_toDigits_le_iff (by decide) some).mpr fits
  rw [padded, List.length_append, List.length_replicate]
  omega

/-- A text that starts with no digit. -/
def NoDigit : List Char → Prop
  | [] => True
  | c :: _ => c.isDigit = false

/-- Digits that are no more than may be read are read up to the first other character. -/
theorem spanDigits_digits {most : Nat} {digits rest : List Char}
    (areDigits : ∀ c ∈ digits, c.isDigit = true) (few : digits.length ≤ most)
    (behind : digits.length = most ∨ NoDigit rest) :
    spanDigits most (digits ++ rest) = (digits, rest) := by
  have taken : ((digits ++ rest).take most).takeWhile Char.isDigit = digits := by
    rw [List.take_append, List.take_of_length_le few, List.takeWhile_append_of_pos areDigits]
    have nothing : (rest.take (most - digits.length)).takeWhile Char.isDigit = [] := by
      rcases behind with full | noDigit
      · simp [full]
      · cases rest with
        | nil => simp
        | cons c rest =>
          cases most - digits.length with
          | zero => rfl
          | succ more =>
            rw [List.take_succ_cons, List.takeWhile_cons, if_neg]
            rw [show c.isDigit = false from noDigit]
            exact Bool.false_ne_true
    rw [nothing, List.append_nil]
  simp only [spanDigits, taken, List.drop_left]

/-- **A padded number is read again.** -/
theorem fullNumber_padded {width n : Nat} (some : 0 < width) (fits : n < 10 ^ width)
    (rest : List Char) : fullNumber width (padded width n ++ rest) = .ok (n, rest) := by
  have length := length_padded some fits
  have span : spanDigits width (padded width n ++ rest) = (padded width n, rest) :=
    spanDigits_digits (isDigit_padded width n) length.le (.inl length)
  rw [fullNumber, span]
  dsimp only
  rw [if_pos length, numberOf_padded]

/-! ## Fractions -/

theorem fraction_padded {width n : Nat} {rest : List Char} (some : 0 < width) (few : width ≤ 9)
    (fits : n < 10 ^ width) (behind : NoDigit rest) :
    fraction (padded width n ++ rest) = .ok (n * 10 ^ (9 - width), rest) := by
  have length := length_padded some fits
  have span : spanDigits 9 (padded width n ++ rest) = (padded width n, rest) :=
    spanDigits_digits (isDigit_padded width n) (by rwa [length]) (.inr behind)
  have written : padded width n ≠ [] := by
    intro empty
    rw [empty] at length
    exact absurd length some.ne
  have read : number 9 (padded width n ++ rest) = .ok (n, rest) := by
    rw [number, span]
    split
    · next same => exact absurd (Prod.mk.inj same).1 written
    · next same => exact absurd (Prod.mk.inj same).1 written
    · next same =>
      obtain ⟨rfl, rfl⟩ := Prod.mk.inj same
      rw [numberOf_padded]
  have digits : (padded width n ++ rest).take ((padded width n ++ rest).length - rest.length) =
      padded width n := by
    rw [List.length_append, Nat.add_sub_cancel, List.take_left]
  have dropped : rest.dropWhile Char.isDigit = rest := by
    cases rest with
    | nil => rfl
    | cons c rest =>
      rw [List.dropWhile_cons, if_neg]
      rw [show c.isDigit = false from behind]
      exact Bool.false_ne_true
  rw [fraction, read]
  simp only [bind, Except.bind, pure, Except.pure, digits, dropped, numberOf_padded, length]
  rfl

/-- **A fraction of a second is read again,** in front of the mark of universal time. -/
theorem optionalFraction_writeFraction {nanos : Nat} (fits : nanos < second) :
    optionalFraction (writeFraction nanos ++ ['Z']) = .ok (nanos, ['Z']) := by
  rw [second] at fits
  have behind : NoDigit ['Z'] := rfl
  unfold writeFraction
  split
  · next none => rw [none]; rfl
  · split
    · rw [List.cons_append, optionalFraction, fraction_padded (by decide) (by decide)
        (by omega) behind]
      congr 2
      omega
    · split
      · rw [List.cons_append, optionalFraction, fraction_padded (by decide) (by decide)
          (by omega) behind]
        congr 2
        omega
      · rw [List.cons_append, optionalFraction, fraction_padded (by decide) (by decide)
          (by omega) behind]
        rw [Nat.sub_self, Nat.pow_zero, Nat.mul_one]

/-! ## Instants -/

/-- An instant that has a text with a year of four digits: only the last second of a minute may be
repeated, and the year is between 0 and 9999. -/
structure Written (instant : Instant) : Prop where
  nanos : instant.nanos < second ∨ instant.seconds % 60 = 59 ∧ instant.nanos < 2 * second
  least : 0 ≤ (Date.ofDays (instant.seconds / day)).year
  most : (Date.ofDays (instant.seconds / day)).year ≤ 9999

theorem ext_parts {first second : Instant} (seconds : first.seconds = second.seconds)
    (nanos : first.nanos = second.nanos) : first = second := by
  cases first
  cases second
  exact congrArg₂ Instant.mk seconds nanos

/-- The civil time of an instant has its parts in range and leads back to the instant. -/
theorem toCivil_parts {instant : Instant} (written : instant.Written) :
    instant.toCivil.hour ≤ 23 ∧ instant.toCivil.minute ≤ 59 ∧ instant.toCivil.second ≤ 60 ∧
      instant.toCivil.nanos < second ∧ ofCivil instant.toCivil 0 = instant := by
  obtain ⟨seconds, nanos⟩ := instant
  have isNanos := written.nanos
  have split : seconds = seconds / day * 86400 + (seconds % day).toNat ∧
      (seconds % day).toNat < 86400 := by
    rw [day]
    omega
  have size : second = 1000000000 := rfl
  simp only [toCivil, ofCivil, Date.toDays_ofDays] at isNanos ⊢
  rw [show day = 86400 from rfl] at split ⊢
  generalize seconds / 86400 = days at split ⊢
  generalize (seconds % 86400).toNat = ofDay at split ⊢
  by_cases leap : second ≤ nanos
  · have last : ofDay % 60 + 1 = 60 := by omega
    simp only [if_pos leap, last, if_true]
    refine ⟨by omega, by omega, by omega, by omega, ext_parts ?_ ?_⟩
    · dsimp only
      omega
    · dsimp only
      omega
  · have notLeap : ofDay % 60 ≠ 60 := by omega
    simp only [if_neg leap, if_neg notLeap]
    refine ⟨by omega, by omega, by omega, by omega, ext_parts ?_ rfl⟩
    dsimp only
    omega

/-- **A written instant is read again.** -/
theorem read_write {instant : Instant} (written : instant.Written) :
    read instant.write = .ok instant := by
  obtain ⟨isHour, isMinute, isSecond, isNanos, same⟩ := toCivil_parts written
  obtain ⟨-, least, most⟩ := written
  have isValid := Date.isValid_ofDays (instant.seconds / day)
  rw [show Date.ofDays (instant.seconds / day) = instant.toCivil.date from rfl]
    at isValid least most
  rw [read, write, String.toList_ofList]
  generalize instant.toCivil = time at *
  have isDate := isValid
  simp only [Date.isValid, Bool.and_eq_true, decide_eq_true_eq] at isDate
  have days := isDate.2.trans (Date.monthLength_le time.date.year time.date.month)
  have year : ∀ rest, fullNumber 4 (padded 4 time.date.year.toNat ++ rest) =
      .ok (time.date.year.toNat, rest) := fullNumber_padded (by decide) (by omega)
  have twoDigits : ∀ {n : Nat}, n ≤ 60 → ∀ rest, fullNumber 2 (padded 2 n ++ rest) =
      .ok (n, rest) := fun small => fullNumber_padded (by decide) (by omega)
  have isYear : ((time.date.year.toNat : Nat) : Int) = time.date.year := by omega
  have inRange : civil (time.date.year.toNat : Nat) time.date.month time.date.day time.hour
      time.minute time.second time.nanos = .ok time := by
    rw [civil, isYear]
    exact if_pos ⟨isValid, by rw [yearRange]; omega, by rw [yearRange]; omega⟩
  have chars : readOffset (writeYear time.date.year ++ '-' :: padded 2 time.date.month ++
      '-' :: padded 2 time.date.day ++ 'T' :: padded 2 time.hour ++ ':' :: padded 2 time.minute ++
      ':' :: padded 2 time.second ++ writeFraction time.nanos ++ ['Z']) = .ok instant := by
    rw [writeYear, if_pos ⟨least, most⟩]
    simp only [List.append_assoc, List.cons_append, readOffset, bind, Except.bind, year,
      twoDigits (show time.date.month ≤ 60 by omega), twoDigits (show time.date.day ≤ 60 by omega),
      twoDigits (show time.hour ≤ 60 by omega), twoDigits (show time.minute ≤ 60 by omega),
      twoDigits isSecond, optionalFraction_writeFraction isNanos, char, timeMark, offset, if_true,
      true_or, within, Nat.zero_le, true_and, if_pos isHour, if_pos isMinute, if_pos isSecond,
      inRange, same]
    rfl
  rw [chars]

end PluginAudit.Instant
