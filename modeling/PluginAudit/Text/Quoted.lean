import PluginAudit.Unicode.GeneralCategory
import PluginAudit.Unicode.BinaryProperty

/-!
# Quoted text in messages

A text that a message repeats is put in double quotes. Characters that would
not be seen, or that would join the character before them, are shown by their
code point.
-/

set_option autoImplicit false

namespace PluginAudit.Text

/-- Whether a character is seen on its own: a letter, mark, number, punctuation, symbol, or the
blank, that does not extend the character before it. -/
def isVisible (c : Char) : Bool :=
  if c.toNat < 0x7F then 0x20 ≤ c.toNat
  else
    open Unicode.GeneralCategory in
    !Unicode.BinaryProperty.graphemeExtend.contains c.toNat &&
      (letter ++ mark ++ number ++ punctuation ++ symbol).any (·.contains c.toNat)

/-- A character inside quotes. -/
def quotedChar (c : Char) : List Char :=
  match c with
  | '"' => ['\\', '"']
  | '\\' => ['\\', '\\']
  | '\n' => ['\\', 'n']
  | '\r' => ['\\', 'r']
  | '\t' => ['\\', 't']
  | '\x00' => ['\\', '0']
  | c => if isVisible c then [c] else '\\' :: 'u' :: '{' :: (Nat.toDigits 16 c.toNat ++ ['}'])

/-- A text in quotes. -/
def quoted (text : String) : String :=
  String.ofList ('"' :: (text.toList.flatMap quotedChar ++ ['"']))

/-- A path in quotes, where single quotes are marked as well. -/
def quotedPath (path : String) : String :=
  let shown (c : Char) : List Char := if c = '\'' then ['\\', c] else quotedChar c
  String.ofList ('"' :: (path.toList.flatMap shown ++ ['"']))

end PluginAudit.Text
