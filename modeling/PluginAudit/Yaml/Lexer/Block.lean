import PluginAudit.Yaml.Lexer.Flow

/-!
# Block scalars

A block scalar is indented text under a header. The header tells whether line
breaks are kept or folded, how deep the text is indented, if that is not to be
found from its first line, and what becomes of the line breaks at the end.
-/

set_option autoImplicit false

namespace PluginAudit.Yaml.Lexer

/-- What becomes of the line breaks at the end of a block scalar. -/
inductive Chomp where
  | strip
  | clip
  | keep
  deriving DecidableEq, Repr

/-- The header of a block scalar: its chomping, and the indentation that it names. -/
structure Header where
  chomp : Chomp := .clip
  indent : Option Nat := none

/-- The chomping that a character names. -/
def chomp? : Char → Option Chomp
  | '+' => some .keep
  | '-' => some .strip
  | _ => none

/-- Reads an indentation, if a digit comes next. -/
def headerIndent (start : Mark) (cursor : Cursor) : Except Fault (Option Nat × Cursor) :=
  match cursor.next? with
  | none => .ok (none, cursor)
  | some c =>
    if c = '0' then
      .error (cursor.fault "while scanning a block scalar" start
        "found an indentation indicator equal to 0")
    else if c.isDigit then .ok (some (c.toNat - '0'.toNat), cursor.skip)
    else .ok (none, cursor)

/-- Reads a header behind its mark. Chomping and indentation come in any order. -/
def header (start : Mark) (cursor : Cursor) : Except Fault (Header × Cursor) := do
  match cursor.next?.bind chomp? with
  | some chomp =>
    let (indent, cursor) ← headerIndent start cursor.skip
    .ok (⟨chomp, indent⟩, cursor)
  | none =>
    let (indent, cursor) ← headerIndent start cursor
    match indent, cursor.next?.bind chomp? with
    | some indent, some chomp => .ok (⟨chomp, some indent⟩, cursor.skip)
    | indent, _ => .ok (⟨.clip, indent⟩, cursor)

/-- The blank lines in a block scalar that have been read: their breaks, the place behind the
last, and the widest indentation among them. -/
structure BlankLines where
  breaks : List Char := []
  stop : Mark
  widest : Nat := 0

/-- Reads indentation and blank lines. While the depth of the indentation is not known, every
blank counts towards it. -/
def blankLines (start : Mark) (indent : Option Nat) :
    Nat → BlankLines → Cursor → Except Fault (BlankLines × Cursor)
  | 0, lines, cursor => .ok (lines, cursor)
  | fuel + 1, lines, cursor =>
    let room := match indent with
      | none => cursor.rest.length
      | some indent => indent - cursor.mark.column
    let blanks := ((cursor.rest.take room).takeWhile (· == ' ')).length
    let cursor := cursor.skip blanks
    let lines := { lines with widest := max lines.widest cursor.mark.column }
    if indent.all (fun indent => cursor.mark.column < indent) && cursor.sees '\t' then
      .error (cursor.fault "while scanning a block scalar" start
        "found a tab character where an indentation space is expected")
    else if !cursor.next?.any isBreak then .ok (lines, cursor)
    else
      let (taken, cursor) := cursor.takeBreak
      blankLines start indent fuel
        { lines with breaks := lines.breaks ++ taken, stop := cursor.mark } cursor

/-- What has been read of a block scalar: its characters, last first, the break of the last line,
the breaks of the blank lines behind it, and whether the last line began with a blank. -/
structure Block where
  read : List Char := []
  last : List Char := []
  lines : BlankLines
  indented : Bool := false

/-- Reads the lines of a block scalar. -/
def blockBody (literal : Bool) (start : Mark) (indent : Nat) :
    Nat → Block → Cursor → Except Fault (Block × Cursor)
  | 0, block, cursor => .ok (block, cursor)
  | fuel + 1, block, cursor => do
    if cursor.mark.column ≠ indent || cursor.rest.isEmpty then .ok (block, cursor)
    else
      let indented := cursor.next?.any isBlank
      let joint :=
        if !literal && block.last = ['\n'] && !block.indented && !indented then
          if block.lines.breaks.isEmpty then [' '] else block.lines.breaks
        else block.last ++ block.lines.breaks
      let (line, after) := cursor.takeWhile fun c => !isBreak c
      let (last, after) := after.takeBreak
      let (lines, after) ← blankLines start (some indent) (after.rest.length + 1)
        { stop := after.mark } after
      blockBody literal start indent fuel
        { read := line.reverse ++ (joint.reverse ++ block.read), last, lines, indented } after

/-- Reads a block scalar. `parent` is the indentation around it. -/
def block (literal : Bool) (parent : Int) (cursor : Cursor) : Except Fault (Token × Cursor) := do
  let start := cursor.mark
  let (header, after) ← header start cursor.skip
  let line := after.skipComment
  if !isLineEnd line.next? then
    .error (line.fault "while scanning a block scalar" start
      "did not find expected comment or line break")
  else
    let text := line.skipBreak
    let named := header.indent.map fun indent => (max parent 0).toNat + indent
    let (lines, text) ← blankLines start named (text.rest.length + 1) { stop := text.mark } text
    let indent := named.getD (max (max lines.widest (parent + 1).toNat) 1)
    let (block, text) ← blockBody literal start indent (text.rest.length + 1) { lines } text
    let tail := match header.chomp with
      | .strip => []
      | .clip => block.last
      | .keep => block.last ++ block.lines.breaks
    let read := String.ofList (block.read.reverse ++ tail)
    .ok (⟨.scalar read false, start, block.lines.stop⟩, text)

end PluginAudit.Yaml.Lexer
