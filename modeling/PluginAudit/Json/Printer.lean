import PluginAudit.Json.Basic
import PluginAudit.Decimal.Layout

/-!
# Printed JSON

Two texts of a value: the compact one without any blanks, and the pretty one
with one item a line and two blanks for each level. Strings escape the quote,
the backslash and the control characters below the blank, and nothing else.
-/

set_option autoImplicit false

namespace PluginAudit.Json

/-- A digit below sixteen, in lower case. -/
def hexDigit (n : Nat) : Char :=
  if n < 10 then Char.ofNat ('0'.toNat + n) else Char.ofNat ('a'.toNat + (n - 10))

/-- The text of one character inside a string. -/
def escape (c : Char) : List Char :=
  match c with
  | '"' => ['\\', '"']
  | '\\' => ['\\', '\\']
  | '\x08' => ['\\', 'b']
  | '\x0c' => ['\\', 'f']
  | '\n' => ['\\', 'n']
  | '\r' => ['\\', 'r']
  | '\t' => ['\\', 't']
  | c =>
    if c.toNat < 0x20 then
      ['\\', 'u', '0', '0', hexDigit (c.toNat / 16), hexDigit (c.toNat % 16)]
    else [c]

/-- The text of a string with its quotes. -/
def quoted (text : String) : List Char := '"' :: (text.toList.flatMap escape ++ ['"'])

/-- Doubles are written positionally from 1e-5 up to below 1e16. -/
def doubleLayout : Decimal.Layout := ⟨some (-5), some 15⟩

/-- The text of a number. -/
def Number.print : Number → List Char
  | .integer value =>
    if value < 0 then '-' :: Nat.toDigits 10 value.natAbs else Nat.toDigits 10 value.natAbs
  | .double value => doubleLayout.write value

/-! ## Compact text -/

mutual
/-- The text of a value without blanks. -/
def compactChars : Json → List Char
  | .null => ['n', 'u', 'l', 'l']
  | .bool true => ['t', 'r', 'u', 'e']
  | .bool false => ['f', 'a', 'l', 's', 'e']
  | .number value => value.print
  | .string text => quoted text
  | .array [] => ['[', ']']
  | .array (item :: items) => '[' :: (compactChars item ++ compactItems items)
  | .object [] => ['{', '}']
  | .object ((key, value) :: members) =>
    '{' :: (quoted key ++ ':' :: (compactChars value ++ compactMembers members))

/-- The items after the first, with the closing bracket. -/
def compactItems : List Json → List Char
  | [] => [']']
  | item :: items => ',' :: (compactChars item ++ compactItems items)

/-- The members after the first, with the closing brace. -/
def compactMembers : List (String × Json) → List Char
  | [] => ['}']
  | (key, value) :: members =>
    ',' :: (quoted key ++ ':' :: (compactChars value ++ compactMembers members))
end

/-- The text of a value without blanks. -/
def compact (value : Json) : String := String.ofList (compactChars value)

/-! ## Pretty text -/

/-- A line break and the blanks of a level. -/
def lineBreak (level : Nat) : List Char := '\n' :: List.replicate (2 * level) ' '

mutual
/-- The text of a value with one item a line, begun at a level. -/
def prettyChars (level : Nat) : Json → List Char
  | .null => ['n', 'u', 'l', 'l']
  | .bool true => ['t', 'r', 'u', 'e']
  | .bool false => ['f', 'a', 'l', 's', 'e']
  | .number value => value.print
  | .string text => quoted text
  | .array [] => ['[', ']']
  | .array (item :: items) =>
    '[' :: (lineBreak (level + 1) ++ (prettyChars (level + 1) item ++ prettyItems level items))
  | .object [] => ['{', '}']
  | .object ((key, value) :: members) =>
    '{' :: (lineBreak (level + 1) ++ (quoted key ++ ':' :: ' ' ::
      (prettyChars (level + 1) value ++ prettyMembers level members)))

/-- The items after the first, with the closing bracket on a line of its own. -/
def prettyItems (level : Nat) : List Json → List Char
  | [] => lineBreak level ++ [']']
  | item :: items =>
    ',' :: (lineBreak (level + 1) ++ (prettyChars (level + 1) item ++ prettyItems level items))

/-- The members after the first, with the closing brace on a line of its own. -/
def prettyMembers (level : Nat) : List (String × Json) → List Char
  | [] => lineBreak level ++ ['}']
  | (key, value) :: members =>
    ',' :: (lineBreak (level + 1) ++ (quoted key ++ ':' :: ' ' ::
      (prettyChars (level + 1) value ++ prettyMembers level members)))
end

/-- The text of a value with one item a line and two blanks for each level. -/
def pretty (value : Json) : String := String.ofList (prettyChars 0 value)

end PluginAudit.Json
