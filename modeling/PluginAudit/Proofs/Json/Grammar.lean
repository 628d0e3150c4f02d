import Mathlib.Tactic.Common
import PluginAudit.Json.Reader

/-!
# The grammar of JSON

What it means for a text to be JSON, told without a reader. A string stands for
code units of 16 bits, of which any may be written as an escape, so a string need
not be a text: half of a surrogate pair may stand alone. What a text holds is told
by its outline, which says nothing about the values of words and numbers. An
object keeps its members as they are written, a repeated key included.

Every relation is told for a text with more text behind it. Different texts have
different code units (`unitsOf_injective`), so the units of a key tell its name.
-/

set_option autoImplicit false

namespace PluginAudit.Json.Grammar

/-! ## Code units -/

/-- The code units of 16 bits that a character has. -/
def units (c : Char) : List Nat :=
  if c.toNat < 0x10000 then [c.toNat]
  else [0xD800 + (c.toNat - 0x10000) / 0x400, 0xDC00 + (c.toNat - 0x10000) % 0x400]

/-- The code units of characters. -/
def unitsOfChars (chars : List Char) : List Nat := chars.flatMap units

/-- The code units of a text. -/
def unitsOf (text : String) : List Nat := unitsOfChars text.toList

@[simp] theorem unitsOfChars_nil : unitsOfChars [] = [] := rfl

@[simp] theorem unitsOfChars_cons (c : Char) (chars : List Char) :
    unitsOfChars (c :: chars) = units c ++ unitsOfChars chars := List.flatMap_cons

@[simp] theorem unitsOf_ofList (chars : List Char) :
    unitsOf (String.ofList chars) = unitsOfChars chars := by
  rw [unitsOf, String.toList_ofList]

/-- A character is no surrogate. -/
theorem toNat_valid (c : Char) : c.toNat < 0xD800 ∨ 0xDFFF < c.toNat ∧ c.toNat < 0x110000 := c.valid

/-- The units in front tell the character that comes first. -/
theorem units_append_inj {c d : Char} {first second : List Nat}
    (same : units c ++ first = units d ++ second) : c = d ∧ first = second := by
  have hc := toNat_valid c
  have hd := toNat_valid d
  have equal : c.toNat = d.toNat → c = d := fun toNat => Char.ext (UInt32.toNat_inj.mp toNat)
  simp only [units] at same
  split at same <;> split at same <;>
    simp only [List.cons_append, List.nil_append, List.cons.injEq] at same
  · exact ⟨equal same.1, same.2⟩
  · omega
  · omega
  · exact ⟨equal (by omega), same.2.2⟩

theorem unitsOfChars_injective {first second : List Char}
    (same : unitsOfChars first = unitsOfChars second) : first = second := by
  have written : ∀ c, units c ≠ [] := fun c => by
    rw [units]
    split <;> exact List.cons_ne_nil _ _
  induction first generalizing second with
  | nil =>
    cases second with
    | nil => rfl
    | cons d second => simp [written] at same
  | cons c first ih =>
    cases second with
    | nil => simp [written] at same
    | cons d second =>
      obtain ⟨rfl, others⟩ := units_append_inj (by simpa using same)
      rw [ih others]

/-- **Different texts have different code units.** -/
theorem unitsOf_injective {first second : String} (same : unitsOf first = unitsOf second) :
    first = second :=
  String.toList_inj.mp (unitsOfChars_injective same)

/-! ## Tokens -/

/-- A text goes on, behind blanks, with a character and what is left behind it. -/
def Token (c : Char) (text rest : List Char) : Prop :=
  ∃ blanks, (∀ blank ∈ blanks, isSeparator blank = true) ∧ text = blanks ++ c :: rest

/-- The blanks before a token are skipped. -/
theorem skipBlanks_eq (text : List Char) :
    ∃ blanks, (∀ blank ∈ blanks, isSeparator blank = true) ∧ text = blanks ++ skipBlanks text :=
  ⟨text.takeWhile isSeparator, List.all_eq_true.mp List.all_takeWhile,
    List.takeWhile_append_dropWhile.symm⟩

theorem token_of_skipBlanks {c : Char} {text rest : List Char}
    (next : skipBlanks text = c :: rest) : Token c text rest := by
  obtain ⟨blanks, areBlank, split⟩ := skipBlanks_eq text
  exact ⟨blanks, areBlank, next ▸ split⟩

/-! ## Scalars -/

/-- The characters of a string behind its opening quote, with the closing one, stand for code
units. -/
inductive Characters : List Char → List Nat → List Char → Prop where
  | close {rest : List Char} : Characters ('"' :: rest) [] rest
  | plain {c : Char} {text rest : List Char} {more : List Nat} (noQuote : c ≠ '"')
      (noEscape : c ≠ '\\') (noControl : 0x20 ≤ c.toNat) (behind : Characters text more rest) :
      Characters (c :: text) (units c ++ more) rest
  | escape {c d : Char} {text rest : List Char} {more : List Nat}
      (standsFor : plainEscape? c = some d) (behind : Characters text more rest) :
      Characters ('\\' :: c :: text) (units d ++ more) rest
  | unit {a b c d : Char} {text rest : List Char} {unit : Nat} {more : List Nat}
      (standsFor : fourHex? a b c d = some unit) (behind : Characters text more rest) :
      Characters ('\\' :: 'u' :: a :: b :: c :: d :: text) (unit :: more) rest

/-- A text is one or more digits. -/
def IsDigits (text : List Char) : Prop := text ≠ [] ∧ ∀ c ∈ text, c.isDigit = true

/-- A text is a fraction, or nothing in its place. -/
inductive IsFraction : List Char → Prop where
  | absent : IsFraction []
  | digits {digits : List Char} (areDigits : IsDigits digits) : IsFraction ('.' :: digits)

/-- A text is an exponent, or nothing in its place. -/
inductive IsExponent : List Char → Prop where
  | absent : IsExponent []
  | digits {letter : Char} {sign digits : List Char} (isLetter : letter ∈ ['e', 'E'])
      (isSign : sign ∈ [[], ['+'], ['-']]) (areDigits : IsDigits digits) :
      IsExponent (letter :: (sign ++ digits))

/-- A text is a number: a sign, digits without a leading zero, a fraction and an exponent. -/
inductive IsNumber : List Char → Prop where
  | parts {sign whole fraction exponent : List Char} (isSign : sign ∈ [[], ['-']])
      (areDigits : IsDigits whole) (noLeadingZero : whole.head? = some '0' → whole = ['0'])
      (isFraction : IsFraction fraction) (isExponent : IsExponent exponent) :
      IsNumber (sign ++ whole ++ fraction ++ exponent)

/-! ## Values -/

/-- What a text holds, the values of words and numbers apart. -/
inductive Outline where
  | word
  | number
  | string (units : List Nat)
  | list (items : List Outline)
  | object (members : List (List Nat × Outline))

/-- A key stands in front of a member's value: a string and a colon. -/
def Key (text : List Char) (key : List Nat) (rest : List Char) : Prop :=
  ∃ body behind, Token '"' text body ∧ Characters body key behind ∧ Token ':' behind rest

mutual

/-- A text begins with a value. -/
inductive Value : List Char → Outline → List Char → Prop where
  | blank {c : Char} {text rest : List Char} {outline : Outline} (isBlank : isSeparator c = true)
      (behind : Value text outline rest) : Value (c :: text) outline rest
  | word {letters : String} {rest : List Char} (isWord : letters ∈ ["null", "true", "false"]) :
      Value (letters.toList ++ rest) .word rest
  | number {number rest : List Char} (isNumber : IsNumber number) :
      Value (number ++ rest) .number rest
  | string {text rest : List Char} {units : List Nat} (chars : Characters text units rest) :
      Value ('"' :: text) (.string units) rest
  | list {text rest : List Char} {items : List Outline} (inside : Items text items rest) :
      Value ('[' :: text) (.list items) rest
  | object {text rest : List Char} {members : List (List Nat × Outline)}
      (inside : Members text members rest) : Value ('{' :: text) (.object members) rest

/-- A text begins with the items of a list, behind its opening bracket and with the closing one.
-/
inductive Items : List Char → List Outline → List Char → Prop where
  | none {text rest : List Char} (close : Token ']' text rest) : Items text [] rest
  | some {text between rest : List Char} {item : Outline} {items : List Outline}
      (first : Value text item between) (others : MoreItems between items rest) :
      Items text (item :: items) rest

/-- A text begins with the other items of a list, behind one of them and with the closing bracket.
-/
inductive MoreItems : List Char → List Outline → List Char → Prop where
  | close {text rest : List Char} (close : Token ']' text rest) : MoreItems text [] rest
  | next {text behind between rest : List Char} {item : Outline} {items : List Outline}
      (comma : Token ',' text behind) (first : Value behind item between)
      (others : MoreItems between items rest) : MoreItems text (item :: items) rest

/-- A text begins with the members of an object, behind its opening brace and with the closing
one. -/
inductive Members : List Char → List (List Nat × Outline) → List Char → Prop where
  | none {text rest : List Char} (close : Token '}' text rest) : Members text [] rest
  | some {text behind between rest : List Char} {key : List Nat} {value : Outline}
      {members : List (List Nat × Outline)} (isKey : Key text key behind)
      (first : Value behind value between) (others : MoreMembers between members rest) :
      Members text ((key, value) :: members) rest

/-- A text begins with the other members of an object, behind one of them and with the closing
brace. -/
inductive MoreMembers : List Char → List (List Nat × Outline) → List Char → Prop where
  | close {text rest : List Char} (close : Token '}' text rest) : MoreMembers text [] rest
  | next {text start behind between rest : List Char} {key : List Nat} {value : Outline}
      {members : List (List Nat × Outline)} (comma : Token ',' text start)
      (isKey : Key start key behind) (first : Value behind value between)
      (others : MoreMembers between members rest) :
      MoreMembers text ((key, value) :: members) rest

end

/-- A text is one value, with nothing but blanks around it. -/
def Written (text : String) (outline : Outline) : Prop :=
  ∃ rest, Value text.toList outline rest ∧ ∀ c ∈ rest, isSeparator c = true

/-! ## Blanks around values -/

theorem Value.of_blanks {blanks text rest : List Char} {outline : Outline}
    (areBlank : ∀ blank ∈ blanks, isSeparator blank = true) (value : Value text outline rest) :
    Value (blanks ++ text) outline rest := by
  induction blanks with
  | nil => exact value
  | cons blank blanks ih =>
    obtain ⟨isBlank, areBlank⟩ := List.forall_mem_cons.mp areBlank
    exact .blank isBlank (ih areBlank)

/-- A value stands behind the blanks that are skipped. -/
theorem Value.of_skipBlanks {text rest : List Char} {outline : Outline}
    (value : Value (Json.skipBlanks text) outline rest) : Value text outline rest := by
  obtain ⟨blanks, areBlank, split⟩ := skipBlanks_eq text
  rw [split]
  exact value.of_blanks areBlank

theorem Value.of_token {c : Char} {text behind rest : List Char} {outline : Outline}
    (token : Token c text behind) (value : Value (c :: behind) outline rest) :
    Value text outline rest := by
  obtain ⟨blanks, areBlank, rfl⟩ := token
  exact value.of_blanks areBlank

end PluginAudit.Json.Grammar
