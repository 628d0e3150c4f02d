import Mathlib.Tactic.IntervalCases
import PluginAudit.Proofs.Yaml.Cursor

/-!
# Escapes

Every character has a form inside double quotes that holds neither a gap nor a
quote of its own, and that is read back as the character (`escape_written`).
-/

set_option autoImplicit false

namespace PluginAudit.Yaml.Lexer

/-! ## Hexadecimal numbers -/

/-- The number that digits write behind another. -/
def codeBehind (first : Nat) (digits : List Char) : Option Nat :=
  digits.foldl (fun code c => do pure ((← code) * 16 + (← hexValue? c))) (some first)

theorem codeBehind_append {first : Nat} {digits : List Char} {code : Nat}
    (read : codeBehind first digits = some code) (more : List Char) :
    codeBehind first (digits ++ more) = codeBehind code more := by
  rw [codeBehind, List.foldl_append, ← codeBehind, read]
  rfl

theorem codeBehind_singleton {digit : Nat} (small : digit < 16) (first : Nat) :
    codeBehind first [digit.digitChar.toUpper] = some (first * 16 + digit) := by
  have value : hexValue? digit.digitChar.toUpper = some digit := by
    interval_cases digit <;> rfl
  simp [codeBehind, value]

theorem codeBehind_zeros (count : Nat) :
    codeBehind 0 (List.replicate count '0') = some 0 := by
  induction count with
  | zero => rfl
  | succ count ih => exact ih

/-- The digits of a number write that number. -/
theorem codeBehind_toDigits (n : Nat) :
    codeBehind 0 ((Nat.toDigits 16 n).map Char.toUpper) = some n := by
  induction n using Nat.strongRecOn with
  | ind n ih =>
    by_cases small : n < 16
    · rw [Nat.toDigits_of_lt_base small, List.map_singleton, codeBehind_singleton small]
      simp
    · rw [Nat.toDigits_of_base_le (by decide) (by omega), List.map_append,
        codeBehind_append (ih (n / 16) (by omega)), List.map_singleton,
        codeBehind_singleton (Nat.mod_lt n (by decide)), Nat.div_add_mod' n 16]

theorem length_toDigits {n width : Nat} (fits : n < 16 ^ width) (some : 0 < width) :
    (Nat.toDigits 16 n).length ≤ width := by
  induction width generalizing n with
  | zero => omega
  | succ width ih =>
    by_cases small : n < 16
    · rw [Nat.toDigits_of_lt_base small]
      simp
    · have fewer : n / 16 < 16 ^ width := by
        rw [Nat.pow_succ] at fits
        omega
      have positive : 0 < width := by
        rcases Nat.eq_zero_or_pos width with rfl | positive
        · omega
        · exact positive
      rw [Nat.toDigits_of_base_le (by decide) (by omega), List.length_append,
        List.length_singleton]
      exact Nat.succ_le_succ (ih fewer positive)

theorem length_hexDigits {n width : Nat} (fits : n < 16 ^ width) (some : 0 < width) :
    (Style.hexDigits width n).length = width := by
  have few := length_toDigits fits some
  simp only [Style.hexDigits, List.length_append, List.length_replicate, List.length_map]
  omega

/-- **A number in sixteens is read back.** -/
theorem code?_hexDigits {n width : Nat} (fits : n < 16 ^ width) (some : 0 < width)
    (more : List Char) : code? (Style.hexDigits width n ++ more) width = Option.some n := by
  have length := length_hexDigits fits some
  have digits : codeBehind 0 (Style.hexDigits width n) = Option.some n := by
    rw [Style.hexDigits, codeBehind_append (codeBehind_zeros _), codeBehind_toDigits]
  have first : (Style.hexDigits width n ++ more).take width = Style.hexDigits width n := by
    rw [List.take_append_of_le_length (by omega), List.take_of_length_le (by omega)]
  rw [code?, if_neg (by rw [List.length_append]; omega), first]
  exact digits

/-! ## Characters -/

/-- Whether a character stands for itself inside double quotes. -/
def isVerbatim (c : Char) : Bool := isPrintable c && !isBreak c && c != '"' && c != '\\'

/-- How a character that does not stand for itself is written. -/
structure Escaped (c : Char) (written : List Char) : Prop where
  begins : ∃ letter behind, written = '\\' :: letter :: behind ∧ isBreak letter = false
  read : ∀ (start mark : Mark) (more : List Char), escape start ⟨written ++ more, mark⟩ =
    .ok (c, ⟨more, mark.forward written.length⟩)

theorem escaped_letter {c letter : Char} (known : Style.shortEscapes.lookup c = some letter) :
    Escaped c ['\\', letter] := by
  have each : ∀ pair ∈ Style.shortEscapes,
      plainEscape? pair.2 = some pair.1 ∧ isBreak pair.2 = false := by decide
  obtain ⟨before, behind, split, -⟩ := List.lookup_eq_some_iff.mp known
  obtain ⟨stands, noBreak⟩ := each (c, letter) (by rw [split]; simp)
  refine ⟨⟨letter, [], rfl, noBreak⟩, fun start mark more => ?_⟩
  simp only [escape, Cursor.at?, List.cons_append, List.getElem?_cons_succ,
    List.getElem?_cons_zero, stands]
  rfl

theorem escaped_code {c letter : Char} {width : Nat} (isLetter : plainEscape? letter = none)
    (isWidth : codeLength? letter = some width) (noBreak : isBreak letter = false)
    (fits : c.toNat < 16 ^ width) (positive : 0 < width) :
    Escaped c ('\\' :: letter :: Style.hexDigits width c.toNat) := by
  refine ⟨⟨letter, _, rfl, noBreak⟩, fun start mark more => ?_⟩
  have valid : c.toNat.isValidChar := c.valid
  have behind : (⟨'\\' :: letter :: Style.hexDigits width c.toNat ++ more, mark⟩ : Cursor).skip 2 =
      ⟨Style.hexDigits width c.toNat ++ more, mark.forward 2⟩ := rfl
  have after := Cursor.skip_append (Style.hexDigits width c.toNat) more (mark.forward 2)
  rw [length_hexDigits fits positive] at after
  simp only [escape, Cursor.at?, List.cons_append, List.getElem?_cons_succ,
    List.getElem?_cons_zero, isLetter, isWidth]
  rw [← List.cons_append, ← List.cons_append, behind]
  simp only [code?_hexDigits fits positive, if_pos valid, after,
    Char.ofNat_toNat, List.length_cons, length_hexDigits fits positive, Mark.forward_forward,
    Nat.add_comm 2]

/-- **A character is read back** that does not stand for itself. -/
theorem escape_written {c : Char} (other : isVerbatim c = false) : Escaped c (Style.escape c) := by
  have small : c.toNat < 0x110000 := by
    have valid : c.toNat.isValidChar := c.valid
    rw [Nat.isValidChar] at valid
    omega
  rw [Style.escape, if_neg (by rw [← isVerbatim, other]; exact Bool.false_ne_true)]
  cases known : Style.shortEscapes.lookup c with
  | some letter => exact escaped_letter known
  | none =>
    dsimp only
    split
    · exact escaped_code rfl rfl rfl (by omega) (by decide)
    · split
      · exact escaped_code rfl rfl rfl (by omega) (by decide)
      · exact escaped_code rfl rfl rfl (by omega) (by decide)

theorem escape_verbatim {c : Char} (verbatim : isVerbatim c = true) : Style.escape c = [c] := by
  exact if_pos verbatim

/-- What a character is written as begins neither with a gap nor with a quote. -/
theorem escape_begins {c : Char} (notBlank : c ≠ ' ') :
    ∃ first behind, Style.escape c = first :: behind ∧ (isBlank first || isBreak first) = false ∧
      first ≠ '"' := by
  cases verbatim : isVerbatim c with
  | true =>
    refine ⟨c, [], escape_verbatim verbatim, ?_⟩
    simp only [isVerbatim, Bool.and_eq_true, bne_iff_ne, Bool.not_eq_true'] at verbatim
    obtain ⟨⟨⟨printable, noBreak⟩, noQuote⟩, -⟩ := verbatim
    refine ⟨?_, noQuote⟩
    rw [noBreak, Bool.or_false, Bool.eq_false_iff]
    exact fun blank => notBlank ((isBlank_iff_of_printable printable).mp blank)
  | false =>
    obtain ⟨letter, behind, begins, -⟩ := (escape_written verbatim).begins
    exact ⟨'\\', _, begins, by decide, by decide⟩

end PluginAudit.Yaml.Lexer
