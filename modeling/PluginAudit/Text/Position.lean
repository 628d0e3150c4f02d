/-!
# Places in a text

A fault in a document is located by line and column. Lines count from one. A
column counts the bytes of the line, in UTF-8, that come before the place, so
it is zero right after a line break.
-/

set_option autoImplicit false

namespace PluginAudit.Text

/-- The number of bytes that a list of characters takes in UTF-8. -/
def byteLength : List Char → Nat
  | [] => 0
  | c :: rest => c.utf8Size + byteLength rest

/-- A place in a text. -/
structure Position where
  line : Nat
  column : Nat
  deriving DecidableEq, Repr

namespace Position

/-- The place before the first character. -/
def start : Position := ⟨1, 0⟩

/-- The place reached from a place by passing a number of bytes of the text that follows. A place
inside a character counts the bytes that were passed. -/
def advance (place : Position) : List Char → Nat → Position
  | [], _ => place
  | _ :: _, 0 => place
  | c :: rest, bytes + 1 =>
    if c = '\n' then advance ⟨place.line + 1, 0⟩ rest bytes
    else advance ⟨place.line, place.column + min c.utf8Size (bytes + 1)⟩ rest
      (bytes + 1 - c.utf8Size)

/-- The place of a byte offset in a text. -/
def ofByte (text : List Char) (offset : Nat) : Position := start.advance text offset

end Position

end PluginAudit.Text
