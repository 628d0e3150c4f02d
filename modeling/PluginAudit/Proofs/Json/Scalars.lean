import PluginAudit.Json.Printer
import PluginAudit.Json.Typed
import PluginAudit.Proofs.Json.Structure

/-!
# Strings and numbers that are read again

A string is read as it was written, whatever it holds (`quoted_body`). So
is an integer that fits in 64 bits (`readsBack_integer`). Of a floating point
number this is a property that it may have or not (`Number.ReadsBack`), since
the reader rounds more than once. What is read of a number does not depend on
what follows, as long as the number does not go on there (`numberBody_append`).
-/

set_option autoImplicit false

namespace PluginAudit.Json

/-! ## Strings -/

theorem fourHex?_control : ∀ code < 0x20,
    fourHex? '0' '0' (hexDigit (code / 16)) (hexDigit (code % 16)) = some code := by
  decide +kernel

/-- The text of a character in a string is read as that character. -/
theorem stringChars_escape (c : Char) {chars text rest : List Char}
    (read : stringChars chars = .ok (text, rest)) :
    stringChars (escape c ++ chars) = .ok (c :: text, rest) := by
  unfold escape
  split
  case h_8 notQuote notBackslash _ _ _ _ _ =>
    split
    · next control =>
      simp only [List.cons_append, List.nil_append]
      rw [stringChars, fourHex?_control c.toNat control]
      have low : c.toNat < 0xD800 ∨ 0xDFFF < c.toNat := by omega
      simp only [if_pos low, Char.ofNat_toNat, read, bind, Except.bind, pure, Except.pure]
    · next printed =>
      rw [List.singleton_append, stringChars]
      · rw [if_neg printed, read]
        rfl
      all_goals intros; simp_all
  all_goals simp [stringChars, plainEscape?, read, bind, Except.bind, pure, Except.pure]

/-- **A written string is read again,** whatever stands behind it. -/
theorem quoted_body (text : String) :
    ∃ body, quoted text = '"' :: body ∧
      ∀ rest, stringBody (body ++ rest) = .ok (text, rest) := by
  refine ⟨_, rfl, fun rest => ?_⟩
  have chars : ∀ chars : List Char,
      stringChars (chars.flatMap escape ++ (['"'] ++ rest)) = .ok (chars, rest) := by
    intro chars
    induction chars with
    | nil => rfl
    | cons c chars ih =>
      rw [List.flatMap_cons, List.append_assoc]
      exact stringChars_escape c ih
  rw [stringBody, List.append_assoc, chars]
  simp [bind, Except.bind, pure, Except.pure]

/-! ## Numbers -/

/-- Reads a number with its sign. -/
def numberText : List Char → Except Fault (Number × List Char)
  | '-' :: rest => numberBody true rest
  | text => numberBody false text

theorem numberText_negative (rest : List Char) :
    numberText ('-' :: rest) = numberBody true rest := rfl

/-- A number whose text is read as that number. -/
def Number.ReadsBack (number : Number) : Prop := numberText number.print = .ok (number, [])

/-- A text that no number goes on with. -/
def Stops : List Char → Prop
  | [] => True
  | c :: _ => c.isDigit = false ∧ c ≠ '.' ∧ c ≠ 'e' ∧ c ≠ 'E'

section Stops

variable {rest : List Char}

theorem Stops.takeWhile_digits (stops : Stops rest) (text : List Char) :
    (text ++ rest).takeWhile Char.isDigit = text.takeWhile Char.isDigit := by
  induction text with
  | nil =>
    cases rest with
    | nil => rfl
    | cons c rest => simp [stops.1]
  | cons c text ih => simp only [List.cons_append, List.takeWhile_cons, ih]

theorem Stops.dropWhile_digits (stops : Stops rest) (text : List Char) :
    (text ++ rest).dropWhile Char.isDigit = text.dropWhile Char.isDigit ++ rest := by
  induction text with
  | nil =>
    cases rest with
    | nil => rfl
    | cons c rest => simp [stops.1]
  | cons c text ih =>
    simp only [List.cons_append, List.dropWhile_cons, ih]
    split <;> rfl

theorem double_append {negative : Bool} {digits : Nat} {exponent : Int} {text left : List Char}
    {number : Number} (read : double negative digits exponent text = .ok (number, left))
    (rest : List Char) :
    double negative digits exponent (text ++ rest) = .ok (number, left ++ rest) := by
  unfold double at read ⊢
  split at read
  · cases read
  · obtain ⟨rfl, rfl⟩ := Prod.mk.inj (Except.ok.inj read)
    rfl

theorem exponentValue_append {negative below : Bool} {digits : Nat} {start : Int}
    {text left : List Char} {number : Number}
    (read : exponentValue negative digits start below text = .ok (number, left))
    (stops : Stops rest) :
    exponentValue negative digits start below (text ++ rest) = .ok (number, left ++ rest) := by
  cases text with
  | nil => cases read
  | cons c text =>
    have written := stops.takeWhile_digits (c :: text)
    have behind := stops.dropWhile_digits (c :: text)
    rw [List.cons_append] at written behind ⊢
    unfold exponentValue at read ⊢
    dsimp only at read ⊢
    split at read
    · cases read
    · next isDigit =>
      rw [if_neg isDigit, written, behind]
      split at read
      · split at read
        · cases read
        · next noOverflow =>
          obtain ⟨rfl, rfl⟩ := Prod.mk.inj (Except.ok.inj read)
          rw [if_neg noOverflow]
      · exact double_append read rest

theorem exponentPart_append {negative : Bool} {digits : Nat} {start : Int}
    {text left : List Char} {number : Number}
    (read : exponentPart negative digits start text = .ok (number, left)) (stops : Stops rest) :
    exponentPart negative digits start (text ++ rest) = .ok (number, left ++ rest) := by
  unfold exponentPart at read
  split at read
  · exact exponentValue_append read stops
  · exact exponentValue_append read stops
  · next noPlus noMinus =>
    have longer := exponentValue_append read stops
    cases text with
    | nil => cases read
    | cons c text =>
      rw [List.cons_append] at longer ⊢
      rw [exponentPart]
      · exact longer
      · rintro more same
        exact noPlus text (by rw [(List.cons.inj same).1])
      · rintro more same
        exact noMinus text (by rw [(List.cons.inj same).1])

theorem afterDigits_append {negative : Bool} {digits : Nat} {exponent : Int}
    {text left : List Char} {number : Number}
    (read : afterDigits negative digits exponent text = .ok (number, left))
    (stops : Stops rest) :
    afterDigits negative digits exponent (text ++ rest) = .ok (number, left ++ rest) := by
  unfold afterDigits at read
  split at read
  · exact exponentPart_append read stops
  · exact exponentPart_append read stops
  · next noSmall noLarge =>
    have longer := double_append read rest
    cases text with
    | nil =>
      cases rest with
      | nil => exact longer
      | cons c rest =>
        rw [List.nil_append, afterDigits]
        · exact longer
        · rintro more same
          exact stops.2.2.1 (List.cons.inj same).1
        · rintro more same
          exact stops.2.2.2 (List.cons.inj same).1
    | cons c text =>
      rw [List.cons_append] at longer ⊢
      rw [afterDigits]
      · exact longer
      · rintro more same
        exact noSmall text (by rw [(List.cons.inj same).1])
      · rintro more same
        exact noLarge text (by rw [(List.cons.inj same).1])

theorem fractionPart_append {negative : Bool} {digits : Nat} {exponent : Int}
    {text left : List Char} {number : Number}
    (read : fractionPart negative digits exponent text = .ok (number, left))
    (stops : Stops rest) :
    fractionPart negative digits exponent (text ++ rest) = .ok (number, left ++ rest) := by
  unfold fractionPart at read ⊢
  rw [stops.takeWhile_digits, stops.dropWhile_digits]
  dsimp only at read ⊢
  split at read
  · split at read <;> cases read
  · next written =>
    rw [if_neg written]
    exact afterDigits_append read stops

theorem whole_append {negative : Bool} {value : Nat} {dropped text left : List Char}
    {number : Number} (read : whole negative value dropped text = .ok (number, left))
    (rest : List Char) :
    whole negative value dropped (text ++ rest) = .ok (number, left ++ rest) := by
  unfold whole at read ⊢
  split at read
  · next kept =>
    rw [if_pos kept]
    split at read
    · next positive =>
      rw [if_pos positive]
      obtain ⟨rfl, rfl⟩ := Prod.mk.inj (Except.ok.inj read)
      rfl
    · next notPositive =>
      rw [if_neg notPositive]
      split at read
      · next large =>
        rw [if_pos large]
        exact double_append read rest
      · next fits =>
        rw [if_neg fits]
        obtain ⟨rfl, rfl⟩ := Prod.mk.inj (Except.ok.inj read)
        rfl
  · next scaled =>
    rw [if_neg scaled]
    exact double_append read rest

theorem afterInteger_append {negative : Bool} {value : Nat} {dropped text left : List Char}
    {number : Number} (read : afterInteger negative value dropped text = .ok (number, left))
    (stops : Stops rest) :
    afterInteger negative value dropped (text ++ rest) = .ok (number, left ++ rest) := by
  unfold afterInteger at read
  split at read
  · exact fractionPart_append read stops
  · exact exponentPart_append read stops
  · exact exponentPart_append read stops
  · next noPoint noSmall noLarge =>
    have longer := whole_append read rest
    cases text with
    | nil =>
      cases rest with
      | nil => exact longer
      | cons c rest =>
        rw [List.nil_append, afterInteger]
        · exact longer
        · rintro more same
          exact stops.2.1 (List.cons.inj same).1
        · rintro more same
          exact stops.2.2.1 (List.cons.inj same).1
        · rintro more same
          exact stops.2.2.2 (List.cons.inj same).1
    | cons c text =>
      rw [List.cons_append] at longer ⊢
      rw [afterInteger]
      · exact longer
      · rintro more same
        exact noPoint text (by rw [(List.cons.inj same).1])
      · rintro more same
        exact noSmall text (by rw [(List.cons.inj same).1])
      · rintro more same
        exact noLarge text (by rw [(List.cons.inj same).1])

/-- **A number is read in the same way in front of a text that it does not go on with.** -/
theorem numberBody_append {negative : Bool} {text left : List Char} {number : Number}
    (read : numberBody negative text = .ok (number, left)) (stops : Stops rest) :
    numberBody negative (text ++ rest) = .ok (number, left ++ rest) := by
  cases text with
  | nil => cases read
  | cons first more =>
    have written := stops.takeWhile_digits (first :: more)
    have behind := stops.dropWhile_digits (first :: more)
    rw [List.cons_append] at written behind ⊢
    unfold numberBody at read ⊢
    dsimp only at read ⊢
    split at read
    · cases read
    · next isDigit =>
      rw [if_neg isDigit, written, behind]
      split at read
      · cases read
      · next noZero =>
        have noZero' : ¬ (first = '0' ∧ (more ++ rest).head?.any Char.isDigit) := by
          rintro ⟨isZero, digitNext⟩
          cases more with
          | cons c more => exact noZero ⟨isZero, digitNext⟩
          | nil =>
            cases rest with
            | nil => cases digitNext
            | cons c rest => exact absurd digitNext (by simp [stops.1])
        rw [if_neg noZero']
        exact afterInteger_append read stops

end Stops

theorem leadingDigits_eq {digits : List Char} {start : Nat}
    (fits : Nat.ofDigitChars 10 digits start ≤ largestWord) :
    leadingDigits start digits = (Nat.ofDigitChars 10 digits start, []) := by
  induction digits generalizing start with
  | nil => simp [leadingDigits]
  | cons c digits ih =>
    have next : 10 * start + (c.toNat - '0'.toNat) = start * 10 + digitValue c := by
      rw [digitValue, Nat.mul_comm]
    rw [Nat.ofDigitChars_cons, next] at fits ⊢
    have grows : start * 10 + digitValue c ≤
        Nat.ofDigitChars 10 digits (start * 10 + digitValue c) := by
      rw [Nat.ofDigitChars_eq_ofDigitChars_zero]
      have positive : 1 ≤ 10 ^ digits.length := Nat.one_le_pow _ _ (by decide)
      calc start * 10 + digitValue c
          ≤ 10 ^ digits.length * (start * 10 + digitValue c) := Nat.le_mul_of_pos_left _ positive
        _ ≤ _ := Nat.le_add_right _ _
    rw [leadingDigits, if_neg (by omega), ih fits]

/-- No number but zero is written with a zero in front. -/
theorem head?_toDigits {n : Nat} (positive : 0 < n) : (Nat.toDigits 10 n).head? ≠ some '0' := by
  induction n using Nat.strongRecOn with
  | ind n ih =>
    by_cases small : n < 10
    · rw [Nat.toDigits_of_lt_base small]
      have digit : ∀ n < 10, 0 < n → [n.digitChar].head? ≠ some '0' := by decide
      exact digit n small positive
    · have higher := ih (n / 10) (by omega) (by omega)
      rw [Nat.toDigits_of_base_le (by decide) (by omega)]
      rcases written : Nat.toDigits 10 (n / 10) with _ | ⟨first, more⟩
      · exact absurd written Nat.toDigits_ne_nil
      · rwa [written] at higher

/-- The digits of a number that fits in 64 bits are read as that number. -/
theorem numberBody_toDigits (negative : Bool) {n : Nat} (fits : n ≤ largestWord) :
    numberBody negative (Nat.toDigits 10 n) = whole negative n [] [] := by
  have digits : ∀ c ∈ Nat.toDigits 10 n, c.isDigit = true :=
    fun c among => Nat.isDigit_of_mem_toDigits (by decide) (by decide) among
  have taken : (Nat.toDigits 10 n).takeWhile Char.isDigit = Nat.toDigits 10 n := by
    simpa using @List.takeWhile_append_of_pos _ Char.isDigit _ [] digits
  have dropped : (Nat.toDigits 10 n).dropWhile Char.isDigit = [] := by
    simpa using @List.dropWhile_append_of_pos _ Char.isDigit _ [] digits
  have value : leadingDigits 0 (Nat.toDigits 10 n) = (n, []) := by
    have same := Nat.ofDigitChars_ten_toDigits (n := n)
    rw [leadingDigits_eq (by rwa [same]), same]
  have lone : ¬ ((Nat.toDigits 10 n).head? = some '0' ∧
      (Nat.toDigits 10 n).tail.head?.any Char.isDigit) := by
    rintro ⟨isZero, more⟩
    rcases Nat.eq_zero_or_pos n with rfl | positive
    · cases more
    · exact head?_toDigits positive isZero
  rcases written : Nat.toDigits 10 n with _ | ⟨first, more⟩
  · exact absurd written Nat.toDigits_ne_nil
  · rw [written] at digits taken dropped value lone
    have isDigit := digits first List.mem_cons_self
    have lone' : ¬ (first = '0' ∧ more.head?.any Char.isDigit) := by simpa using lone
    unfold numberBody
    dsimp only
    rw [if_neg (by simp [isDigit]), if_neg lone', taken, dropped, value]
    rfl

/-- **An integer that fits in 64 bits, with or without sign, reads back.** -/
theorem readsBack_integer {value : Int} (least : -0x8000000000000000 ≤ value)
    (most : value ≤ 0xFFFFFFFFFFFFFFFF) : (Number.integer value).ReadsBack := by
  have fits : value.natAbs ≤ largestWord := by
    rw [largestWord]
    omega
  by_cases below : value < 0
  · rw [Number.ReadsBack, Number.print, if_pos below]
    rw [numberText_negative, numberBody_toDigits true fits, whole]
    have size : ¬ (value.natAbs = 0 ∨ 0x8000000000000000 < value.natAbs) := by omega
    simp only [List.isEmpty_nil, if_true, Bool.not_true, Bool.false_eq_true, if_false, if_neg size]
    congr 3
    omega
  · rw [Number.ReadsBack, Number.print, if_neg below]
    have unsigned : numberText (Nat.toDigits 10 value.natAbs) =
        numberBody false (Nat.toDigits 10 value.natAbs) := by
      rcases written : Nat.toDigits 10 value.natAbs with _ | ⟨first, more⟩
      · rfl
      · have isDigit : first.isDigit = true :=
          Nat.isDigit_of_mem_toDigits (b := 10) (n := value.natAbs) (by decide) (by decide)
            (by rw [written]; exact List.mem_cons_self)
        rw [numberText]
        rintro rest same
        rw [(List.cons.inj same).1] at isDigit
        exact absurd isDigit (by decide)
    rw [unsigned, numberBody_toDigits false fits, whole]
    simp only [List.isEmpty_nil, if_true, Bool.not_false]
    congr 3
    omega

end PluginAudit.Json
