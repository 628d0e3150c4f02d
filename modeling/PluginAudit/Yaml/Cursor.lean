/-!
# Places in a YAML text

A cursor is what is left of a text together with the place where it starts.
Lines and columns count from zero. Besides the line feed and the carriage
return, alone or as a pair, three wider characters end a line.

A text is refused with a problem and its place; often a context tells what was
being read, and where that began.
-/

set_option autoImplicit false

namespace PluginAudit.Yaml

/-- A place in a text: the characters before it, its line and its column. -/
structure Mark where
  index : Nat := 0
  line : Nat := 0
  column : Nat := 0
  deriving DecidableEq, Repr

namespace Mark

/-- Whether a mark is at the very start, which messages do not mention. -/
def isOrigin (mark : Mark) : Bool := mark.line == 0 && mark.column == 0

/-- A mark in words, counting from one. -/
def message (mark : Mark) : String :=
  "line " ++ toString (mark.line + 1) ++ " column " ++ toString (mark.column + 1)

/-- How a message names a mark: not at all at the very start. -/
def located (mark : Mark) : String := if mark.isOrigin then "" else " at " ++ mark.message

end Mark

/-- Why a text is refused, where, and what was being read. -/
structure Fault where
  problem : String
  mark : Mark
  context : Option (String × Mark) := none
  deriving DecidableEq, Repr

namespace Fault

/-- A fault in words. The place of the context is left out where it is that of the problem. -/
def message (fault : Fault) : String :=
  fault.problem ++ fault.mark.located ++
    match fault.context with
    | none => ""
    | some (text, mark) =>
      ", " ++ text ++
        if mark.line == fault.mark.line && mark.column == fault.mark.column then ""
        else mark.located

/-- The fault of a character that may not stand in a text, behind a number of bytes. -/
def forbidden (bytes : Nat) : Fault where
  problem := "control characters are not allowed" ++
    if bytes == 0 then "" else " at position " ++ toString bytes
  mark := {}

end Fault

/-! ## Characters -/

/-- Whether a character is a blank inside a line. -/
def isBlank (c : Char) : Bool := c == ' ' || c == '\t'

/-- Whether a character ends a line. -/
def isBreak (c : Char) : Bool :=
  c == '\r' || c == '\n' || c == '\x85' || c == '\u2028' || c == '\u2029'

/-- Whether a blank, the end of a line or the end of the text comes next. -/
def isGap : Option Char → Bool
  | none => true
  | some c => isBlank c || isBreak c

/-- Whether the end of a line or of the text comes next. -/
def isLineEnd : Option Char → Bool
  | none => true
  | some c => isBreak c

/-- Whether a character can stand in a name. -/
def isNameCharacter (c : Char) : Bool := c.isAlphanum || c == '_' || c == '-'

/-! ## Cursors -/

/-- What is left of a text, and where it starts. -/
structure Cursor where
  rest : List Char
  mark : Mark := {}

namespace Cursor

/-- The character some places ahead. -/
def at? (cursor : Cursor) (ahead : Nat) : Option Char := cursor.rest[ahead]?

/-- The next character. -/
def next? (cursor : Cursor) : Option Char := cursor.rest.head?

/-- Whether a character comes next. -/
def sees (cursor : Cursor) (c : Char) : Bool := cursor.next? == some c

/-- Passes characters of a line. -/
def skip (cursor : Cursor) (count : Nat := 1) : Cursor where
  rest := cursor.rest.drop count
  mark := { cursor.mark with
    index := cursor.mark.index + count
    column := cursor.mark.column + count }

/-- Takes characters of a line as long as they satisfy a test. -/
def takeWhile (cursor : Cursor) (test : Char → Bool) : List Char × Cursor :=
  let taken := cursor.rest.takeWhile test
  (taken, cursor.skip taken.length)

/-- Passes characters of a line as long as they satisfy a test. -/
def skipWhile (cursor : Cursor) (test : Char → Bool) : Cursor := (cursor.takeWhile test).2

/-- The mark at the start of the next line. -/
def nextLine (mark : Mark) (characters : Nat) : Mark := ⟨mark.index + characters, mark.line + 1, 0⟩

/-- Takes the end of a line, if it comes next. The pair of a carriage return and a line feed, each
of them alone, and the next-line control are all taken as a line feed. -/
def takeBreak (cursor : Cursor) : List Char × Cursor :=
  match cursor.rest with
  | '\r' :: '\n' :: rest => (['\n'], ⟨rest, nextLine cursor.mark 2⟩)
  | c :: rest =>
    if isBreak c then
      (if c == '\u2028' || c == '\u2029' then [c] else ['\n'], ⟨rest, nextLine cursor.mark 1⟩)
    else ([], cursor)
  | [] => ([], cursor)

/-- Passes the end of a line, if it comes next. -/
def skipBreak (cursor : Cursor) : Cursor := cursor.takeBreak.2

/-- Passes blanks, and a comment behind them. -/
def skipComment (cursor : Cursor) : Cursor :=
  let cursor := cursor.skipWhile isBlank
  if cursor.sees '#' then cursor.skipWhile fun c => !isBreak c else cursor

/-- Whether a line starts here with a mark of three characters that stands alone. -/
def atDocumentMark (cursor : Cursor) (c : Char) : Bool :=
  cursor.mark.column == 0 && cursor.at? 0 == some c && cursor.at? 1 == some c &&
    cursor.at? 2 == some c && isGap (cursor.at? 3)

/-- Whether a document is started or ended here. -/
def atDocumentBoundary (cursor : Cursor) : Bool :=
  cursor.atDocumentMark '-' || cursor.atDocumentMark '.'

/-- A fault here, in a context that began at a mark. -/
def fault (cursor : Cursor) (context : String) (start : Mark) (problem : String) : Fault :=
  ⟨problem, cursor.mark, some (context, start)⟩

/-- A fault here without a context. -/
def bareFault (cursor : Cursor) (problem : String) : Fault := ⟨problem, cursor.mark, none⟩

end Cursor

/-! ## Text -/

/-- Whether a character may stand in a text at all. -/
def isAllowed (c : Char) : Bool :=
  c == '\t' || c == '\n' || c == '\r' || (' ' ≤ c && c ≤ '~') || c == '\x85' ||
    ('\u00A0' ≤ c && c.toNat ≤ 0xFFFD) || 0x10000 ≤ c.toNat

/-- The number of bytes before the first character that may not stand in a text. -/
def firstForbidden? : List Char → Nat → Option Nat
  | [], _ => none
  | c :: rest, bytes =>
    if isAllowed c then firstForbidden? rest (bytes + c.utf8Size) else some bytes

end PluginAudit.Yaml
