import Mathlib.Data.List.TakeWhile
import PluginAudit.Proofs.Instant.RoundTrip
import PluginAudit.Proofs.Json.Reading

/-!
# Which instants are read

An instant that has been read shows nanoseconds beyond a second only at the end
of a minute (`proper_of_read`): leap seconds are the last of their minute, and
offsets are whole minutes. So an instant that has been read is read again from
its own text exactly if its year in universal time has four digits
(`toOption_read_write`). That year need not: an offset moves a date across the
last year that has four digits.

A year with a sign is refused, since no reading with an offset takes a sign, and
no reading without one takes the mark of universal time behind the seconds
(`not_endsInMark_of_readUniversal`).
-/

set_option autoImplicit false

namespace PluginAudit.Instant

open Json (bind_ok)

/-- The nanoseconds of an instant exceed a second only at the end of a minute, and then by less
than another second. -/
def Proper (instant : Instant) : Prop :=
  instant.nanos < second ∨ instant.seconds % 60 = 59 ∧ instant.nanos < 2 * second

/-- The year of an instant in universal time has four digits and no sign. -/
def InFourDigits (instant : Instant) : Prop :=
  0 ≤ (Date.ofDays (instant.seconds / day)).year ∧ (Date.ofDays (instant.seconds / day)).year ≤ 9999

instance (instant : Instant) : Decidable instant.InFourDigits := instDecidableAnd

theorem written_iff {instant : Instant} :
    instant.Written ↔ instant.Proper ∧ instant.InFourDigits :=
  ⟨fun ⟨nanos, least, most⟩ => ⟨nanos, least, most⟩,
    fun ⟨nanos, least, most⟩ => ⟨nanos, least, most⟩⟩

/-! ## Parts -/

theorem numberOf_lt {digits : List Char} (areDigits : ∀ c ∈ digits, c.isDigit = true) :
    numberOf digits < 10 ^ digits.length := by
  have bound : ∀ start, digits.foldl (fun value c => value * 10 + (c.toNat - '0'.toNat)) start <
      (start + 1) * 10 ^ digits.length := by
    induction digits with
    | nil => intro start; simp
    | cons c digits ih =>
      intro start
      have small : c.toNat - '0'.toNat ≤ 9 := by
        have isDigit := areDigits c List.mem_cons_self
        simp only [Char.isDigit, Bool.and_eq_true, decide_eq_true_eq] at isDigit
        have high : c.toNat ≤ 57 := isDigit.2
        have zero : '0'.toNat = 48 := rfl
        omega
      refine Nat.lt_of_lt_of_le
        (ih (fun c among => areDigits c (List.mem_cons_of_mem _ among)) _) ?_
      rw [List.length_cons, Nat.pow_succ', ← Nat.mul_assoc]
      refine Nat.mul_le_mul_right _ ?_
      dsimp only
      omega
  simpa [numberOf] using bound 0

/-- The digits that are read, and what is behind them. -/
theorem spanDigits_eq (most : Nat) (text : List Char) :
    ∃ digits, spanDigits most text = (digits, text.drop digits.length) ∧
      text = digits ++ text.drop digits.length ∧ (∀ c ∈ digits, c.isDigit = true) ∧
        digits.length ≤ most := by
  refine ⟨(text.take most).takeWhile Char.isDigit, rfl, ?_, ?_, ?_⟩
  · have isPrefix := (List.takeWhile_prefix Char.isDigit).trans (List.take_prefix most text)
    conv_lhs => rw [← List.take_append_drop ((text.take most).takeWhile Char.isDigit).length text]
    rw [← List.prefix_iff_eq_take.mp isPrefix]
  · exact fun c among => List.mem_takeWhile_imp among
  · exact (List.takeWhile_prefix _).length_le.trans (List.length_take_le _ _)

/-- A number that is read is made of digits, and what is behind it is left. -/
theorem number_ok {most value : Nat} {text rest : List Char}
    (read : number most text = .ok (value, rest)) :
    ∃ digits, text = digits ++ rest ∧ (∀ c ∈ digits, c.isDigit = true) ∧ digits.length ≤ most := by
  obtain ⟨digits, span, split, areDigits, few⟩ := spanDigits_eq most text
  unfold number at read
  rw [span] at read
  split at read
  · cases read
  · cases read
  · next same =>
    obtain ⟨rfl, rfl⟩ := Prod.mk.inj same
    obtain ⟨-, rfl⟩ := Prod.mk.inj (Except.ok.inj read)
    exact ⟨_, split, areDigits, few⟩

theorem fraction_lt {text rest : List Char} {nanos : Nat}
    (read : fraction text = .ok (nanos, rest)) : nanos < second := by
  obtain ⟨⟨value, behind⟩, isNumber, read⟩ := bind_ok read
  obtain ⟨digits, rfl, areDigits, few⟩ := number_ok isNumber
  obtain ⟨rfl, -⟩ := Prod.mk.inj (Except.ok.inj read)
  have taken : (digits ++ behind).take ((digits ++ behind).length - behind.length) = digits := by
    simp
  rw [taken]
  have scaled : numberOf digits * 10 ^ (9 - digits.length) <
      10 ^ digits.length * 10 ^ (9 - digits.length) :=
    Nat.mul_lt_mul_of_pos_right (numberOf_lt areDigits) (Nat.pow_pos (by decide))
  rw [← Nat.pow_add, Nat.add_sub_cancel' few] at scaled
  exact scaled

theorem optionalFraction_lt {text rest : List Char} {nanos : Nat}
    (read : optionalFraction text = .ok (nanos, rest)) : nanos < second := by
  unfold optionalFraction at read
  split at read
  · exact fraction_lt read
  · obtain ⟨rfl, -⟩ := Prod.mk.inj (Except.ok.inj read)
    decide

/-- An offset is whole minutes. -/
theorem offset_mod {text rest : List Char} {ahead : Int} (read : offset text = .ok (ahead, rest)) :
    ahead % 60 = 0 := by
  unfold offset at read
  split at read
  · cases read
  · split at read
    · obtain ⟨rfl, -⟩ := Prod.mk.inj (Except.ok.inj read)
      rfl
    · split at read
      · obtain ⟨⟨hours, _⟩, -, read⟩ := bind_ok read
        obtain ⟨_, -, read⟩ := bind_ok read
        obtain ⟨⟨minutes, _⟩, -, read⟩ := bind_ok read
        obtain ⟨_, -, read⟩ := bind_ok read
        obtain ⟨_, -, read⟩ := bind_ok read
        obtain ⟨rfl, -⟩ := Prod.mk.inj (Except.ok.inj read)
        split <;> omega
      · cases read

theorem civil_eq {year : Int} {month day hour minute second nanos : Nat} {time : Civil}
    (accepted : civil year month day hour minute second nanos = .ok time) :
    time = ⟨⟨year, month, day⟩, hour, minute, second, nanos⟩ := by
  unfold civil at accepted
  dsimp only at accepted
  split at accepted
  · exact (Except.ok.inj accepted).symm
  · cases accepted

/-! ## What is read is proper -/

theorem ofCivil_proper {time : Civil} {ahead : Int} (isNanos : time.nanos < second)
    (minutes : ahead % 60 = 0) : (ofCivil time ahead).Proper := by
  have size : second = 1000000000 := rfl
  unfold Proper ofCivil
  rw [show day = 86400 from rfl]
  by_cases leap : time.second = 60
  · right
    simp only [if_pos leap]
    omega
  · left
    simpa only [if_neg leap] using isNanos

theorem proper_of_readOffset {text : List Char} {instant : Instant}
    (read : readOffset text = .ok instant) : instant.Proper := by
  obtain ⟨⟨year, _⟩, -, read⟩ := bind_ok read
  obtain ⟨_, -, read⟩ := bind_ok read
  obtain ⟨⟨month, _⟩, -, read⟩ := bind_ok read
  obtain ⟨_, -, read⟩ := bind_ok read
  obtain ⟨⟨day, _⟩, -, read⟩ := bind_ok read
  obtain ⟨_, -, read⟩ := bind_ok read
  obtain ⟨⟨hour, _⟩, -, read⟩ := bind_ok read
  obtain ⟨_, -, read⟩ := bind_ok read
  obtain ⟨⟨minute, _⟩, -, read⟩ := bind_ok read
  obtain ⟨_, -, read⟩ := bind_ok read
  obtain ⟨⟨seconds, _⟩, -, read⟩ := bind_ok read
  obtain ⟨⟨nanos, _⟩, isNanos, read⟩ := bind_ok read
  obtain ⟨⟨ahead, rest⟩, isOffset, read⟩ := bind_ok read
  dsimp only at read
  split at read
  · cases read
  · obtain ⟨_, -, read⟩ := bind_ok read
    obtain ⟨_, -, read⟩ := bind_ok read
    obtain ⟨_, -, read⟩ := bind_ok read
    obtain ⟨time, isTime, read⟩ := bind_ok read
    obtain rfl := Except.ok.inj read
    obtain rfl := civil_eq isTime
    exact ofCivil_proper (optionalFraction_lt isNanos) (offset_mod isOffset)

theorem proper_of_readUniversal {text : List Char} {instant : Instant}
    (read : readUniversal text = .ok instant) : instant.Proper := by
  obtain ⟨⟨year, _⟩, -, read⟩ := bind_ok read
  obtain ⟨_, -, read⟩ := bind_ok read
  obtain ⟨⟨month, _⟩, -, read⟩ := bind_ok read
  obtain ⟨_, -, read⟩ := bind_ok read
  obtain ⟨⟨day, _⟩, -, read⟩ := bind_ok read
  obtain ⟨_, -, read⟩ := bind_ok read
  obtain ⟨⟨hour, _⟩, -, read⟩ := bind_ok read
  obtain ⟨_, -, read⟩ := bind_ok read
  obtain ⟨⟨minute, _⟩, -, read⟩ := bind_ok read
  obtain ⟨_, -, read⟩ := bind_ok read
  obtain ⟨⟨seconds, _⟩, -, read⟩ := bind_ok read
  obtain ⟨⟨nanos, rest⟩, isNanos, read⟩ := bind_ok read
  dsimp only at read
  split at read
  · cases read
  · obtain ⟨time, isTime, read⟩ := bind_ok read
    obtain rfl := Except.ok.inj read
    obtain rfl := civil_eq isTime
    exact ofCivil_proper (optionalFraction_lt isNanos) rfl

/-- **An instant that is read is proper.** -/
theorem proper_of_read {text : String} {instant : Instant} (read : read text = .ok instant) :
    instant.Proper := by
  unfold Instant.read at read
  split at read
  · next instant' isOffset =>
    obtain rfl := Except.ok.inj read
    exact proper_of_readOffset isOffset
  · exact proper_of_readUniversal read

/-! ## The mark of universal time -/

/-- A text ends with the mark of universal time. -/
def EndsInMark (text : List Char) : Prop := text.getLast? = some 'Z'

/-- What is behind characters that are not the mark still ends with it. -/
theorem EndsInMark.behind {first rest : List Char} (ends : EndsInMark (first ++ rest))
    (noMark : 'Z' ∉ first) : EndsInMark rest := by
  rw [EndsInMark, List.getLast?_append] at ends
  cases last : rest.getLast? with
  | some c =>
    rw [last] at ends
    exact last.trans ends
  | none =>
    rw [last] at ends
    exact absurd (List.mem_of_getLast? ends) noMark

theorem EndsInMark.tail {c : Char} {rest : List Char} (ends : EndsInMark (c :: rest))
    (apart : c ≠ 'Z') : EndsInMark rest :=
  @EndsInMark.behind [c] rest ends (by simpa using apart.symm)

theorem mark_notDigit {digits : List Char} (areDigits : ∀ c ∈ digits, c.isDigit = true) :
    'Z' ∉ digits := fun among => absurd (areDigits 'Z' among) (by decide)

theorem EndsInMark.skipBlanks {text : List Char} (ends : EndsInMark text) :
    EndsInMark (skipBlanks text) := by
  rw [← List.takeWhile_append_dropWhile (p := Unicode.isBlank) (l := text)] at ends
  refine ends.behind fun among => ?_
  exact absurd (List.mem_takeWhile_imp among) (by decide)

theorem EndsInMark.char {expected : Char} (apart : expected ≠ 'Z') {text rest : List Char}
    (ends : EndsInMark text) (read : char expected text = .ok rest) : EndsInMark rest := by
  cases text with
  | nil => cases read
  | cons c text =>
    rw [Instant.char] at read
    split at read
    · next same =>
      obtain rfl := Except.ok.inj read
      exact ends.tail (same ▸ apart)
    · cases read

theorem EndsInMark.number {most value : Nat} {text rest : List Char} (ends : EndsInMark text)
    (read : number most text = .ok (value, rest)) : EndsInMark rest := by
  obtain ⟨digits, rfl, areDigits, -⟩ := number_ok read
  exact ends.behind (mark_notDigit areDigits)

theorem EndsInMark.smallNumber {least most value : Nat} {text rest : List Char}
    (ends : EndsInMark text) (read : smallNumber least most text = .ok (value, rest)) :
    EndsInMark rest := by
  obtain ⟨⟨found, behind⟩, isNumber, read⟩ := bind_ok read
  obtain ⟨_, -, read⟩ := bind_ok read
  obtain ⟨-, rfl⟩ := Prod.mk.inj (Except.ok.inj read)
  exact ends.skipBlanks.number isNumber

theorem EndsInMark.optionalFraction {text rest : List Char} {nanos : Nat} (ends : EndsInMark text)
    (read : optionalFraction text = .ok (nanos, rest)) : EndsInMark rest := by
  unfold Instant.optionalFraction at read
  split at read
  · next text =>
    obtain ⟨⟨value, behind⟩, isNumber, read⟩ := bind_ok read
    obtain ⟨-, rfl⟩ := Prod.mk.inj (Except.ok.inj read)
    have ends : EndsInMark behind := (ends.tail (by decide)).number isNumber
    rw [← List.takeWhile_append_dropWhile (p := Char.isDigit) (l := behind)] at ends
    exact ends.behind (mark_notDigit fun c among => List.mem_takeWhile_imp among)
  · obtain ⟨-, rfl⟩ := Prod.mk.inj (Except.ok.inj read)
    exact ends

theorem EndsInMark.signedYear {text rest : List Char} {year : Int} (ends : EndsInMark text)
    (read : signedYear text = .ok (year, rest)) : EndsInMark rest := by
  have ends := ends.skipBlanks
  -- Whatever stands before the digits, they are read in the same way.
  have onward : ∀ (sign : Nat → Int) {most : Nat} {text : List Char}, EndsInMark text →
      (do
        let digits ← Instant.number most text
        let found ← pure (sign digits.1, digits.2)
        if found.1 < -0x80000000 ∨ 0x7FFFFFFF < found.1 then throw .outOfRange
        pure (found.1, found.2) : Except Fault (Int × List Char)) = .ok (year, rest) →
          EndsInMark rest := by
    intro sign most text ends read
    obtain ⟨⟨value, behind⟩, isNumber, read⟩ := bind_ok read
    dsimp only [bind, Except.bind, pure, Except.pure] at read
    split at read
    · cases read
    · obtain ⟨-, rfl⟩ := Prod.mk.inj (Except.ok.inj read)
      exact ends.number isNumber
  unfold Instant.signedYear at read
  dsimp only at read
  split at read
  · next text shown =>
    rw [shown] at ends
    exact onward (fun value => -value) (ends.tail (by decide)) read
  · next text shown =>
    rw [shown] at ends
    exact onward (fun value => value) (ends.tail (by decide)) read
  · exact onward (fun value => value) ends read

/-- **Without an offset no text is read that ends with the mark of universal time.** -/
theorem not_endsInMark_of_readUniversal {text : List Char} {instant : Instant}
    (read : readUniversal text = .ok instant) : ¬ EndsInMark text := by
  intro ends
  obtain ⟨⟨year, _⟩, isYear, read⟩ := bind_ok read
  replace ends := ends.signedYear isYear
  obtain ⟨_, isDash, read⟩ := bind_ok read
  replace ends := ends.char (by decide) isDash
  obtain ⟨⟨month, _⟩, isMonth, read⟩ := bind_ok read
  replace ends := ends.smallNumber isMonth
  obtain ⟨_, isDash, read⟩ := bind_ok read
  replace ends := ends.char (by decide) isDash
  obtain ⟨⟨day, _⟩, isDay, read⟩ := bind_ok read
  replace ends := ends.smallNumber isDay
  obtain ⟨_, isMark, read⟩ := bind_ok read
  replace ends := ends.char (by decide) isMark
  obtain ⟨⟨hour, _⟩, isHour, read⟩ := bind_ok read
  replace ends := ends.smallNumber isHour
  obtain ⟨_, isColon, read⟩ := bind_ok read
  replace ends := ends.char (by decide) isColon
  obtain ⟨⟨minute, _⟩, isMinute, read⟩ := bind_ok read
  replace ends := ends.smallNumber isMinute
  obtain ⟨_, isColon, read⟩ := bind_ok read
  replace ends := ends.char (by decide) isColon
  obtain ⟨⟨seconds, _⟩, isSecond, read⟩ := bind_ok read
  replace ends := ends.smallNumber isSecond
  obtain ⟨⟨nanos, rest⟩, isNanos, read⟩ := bind_ok read
  replace ends := ends.optionalFraction isNanos
  dsimp only at read
  split at read
  · cases read
  · next noMore =>
    obtain rfl : rest = [] := by simpa using noMore
    cases ends

/-! ## Reading what is written -/

/-- With an offset no text is read that starts with a sign. -/
theorem readOffset_sign {c : Char} (isSign : c = '-' ∨ c = '+') (text : List Char) :
    ∃ fault, readOffset (c :: text) = .error fault := by
  have span : spanDigits 4 (c :: text) = ([], c :: text) := by
    rcases isSign with rfl | rfl <;> rfl
  refine ⟨.invalid, ?_⟩
  rw [readOffset, fullNumber, span]
  rfl

/-- A year that has not four digits is written with a sign. -/
theorem writeYear_signed {year : Int} (outside : ¬ (0 ≤ year ∧ year ≤ 9999)) :
    ∃ c digits, writeYear year = c :: digits ∧ (c = '-' ∨ c = '+') := by
  rw [writeYear, if_neg outside]
  split
  · exact ⟨_, _, rfl, .inl rfl⟩
  · exact ⟨_, _, rfl, .inr rfl⟩

/-- **An instant that is proper is read from its text exactly if its year has four digits.** -/
theorem toOption_read_write {instant : Instant} (proper : instant.Proper) :
    (read instant.write).toOption = if instant.InFourDigits then some instant else none := by
  split
  · next inFourDigits => rw [read_write (written_iff.mpr ⟨proper, inFourDigits⟩)]; rfl
  · next outside =>
    have signed : ∃ c rest, instant.write.toList = c :: rest ∧ (c = '-' ∨ c = '+') := by
      obtain ⟨c, digits, isYear, isSign⟩ := writeYear_signed outside
      obtain ⟨more, isText⟩ : ∃ more, instant.write.toList =
          writeYear (Date.ofDays (instant.seconds / day)).year ++ more := by
        rw [write, String.toList_ofList]
        simp only [List.append_assoc]
        exact ⟨_, rfl⟩
      exact ⟨c, digits ++ more, by rw [isText, isYear]; rfl, isSign⟩
    have ends : EndsInMark instant.write.toList := by
      rw [write, String.toList_ofList, EndsInMark, List.getLast?_append]
      rfl
    obtain ⟨c, rest, text, isSign⟩ := signed
    obtain ⟨fault, refused⟩ := readOffset_sign isSign rest
    cases again : read instant.write with
    | error fault => rfl
    | ok found =>
      rw [read, text, refused] at again
      rw [text] at ends
      exact absurd ends (not_endsInMark_of_readUniversal again)

end PluginAudit.Instant
