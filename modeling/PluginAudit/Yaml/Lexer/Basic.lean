import PluginAudit.Yaml.Lexer.Block

/-!
# The stream of tokens

Tokens are read one after the other. Blocks are started and ended by the
column of what is read: a deeper column starts a block, a lesser one ends every
block that is deeper. Whether a scalar is a key shows only when a colon
follows, on the same line and not too far; until then its place is remembered,
and the key token, with the start of its block, is put in there. So a token is
handed out only when no key can start at it any more.
-/

set_option autoImplicit false

namespace PluginAudit.Yaml

/-- A place where a key without a mark may start: whether it must be one, the number of the token
that starts there, and the place itself. -/
structure Candidate where
  required : Bool
  number : Nat
  mark : Mark
  deriving DecidableEq, Repr

/-- The reading of tokens. -/
structure Lexer where
  cursor : Cursor
  /-- Whether the start of the stream has been read. -/
  started : Bool := false
  /-- The column of the innermost block; −1 outside of all. -/
  indent : Int := -1
  /-- The columns of the blocks around it, the nearest first. -/
  indents : List Int := []
  /-- Whether a key may start here. -/
  keyAllowed : Bool := false
  /-- The candidate of each flow collection, innermost first, and last that of the blocks. -/
  candidates : List (Option Candidate) := []
  /-- The tokens that have been read and not been taken. -/
  queue : List Token := []
  /-- The number of tokens that have been taken. -/
  taken : Nat := 0

namespace Lexer

/-- The reading of a text, at its start. -/
def start (text : List Char) : Lexer := { cursor := { rest := text } }

/-- Whether the place is inside a flow collection. -/
def inFlow (lexer : Lexer) : Bool := 1 < lexer.candidates.length

/-- The column of the place. -/
def column (lexer : Lexer) : Int := lexer.cursor.mark.column

/-- A fault at the place. -/
def fault (lexer : Lexer) (problem : String) : Fault := lexer.cursor.bareFault problem

/-- Appends a token. -/
def push (lexer : Lexer) (token : Token) : Lexer :=
  { lexer with queue := lexer.queue ++ [token] }

/-- Appends a token that is written with some characters at the place, and passes them. -/
def pushMark (lexer : Lexer) (kind : Token.Kind) (characters : Nat) : Lexer :=
  let after := lexer.cursor.skip characters
  { lexer with
    cursor := after
    queue := lexer.queue ++ [⟨kind, lexer.cursor.mark, after.mark⟩] }

/-- Appends a token that is not written, at a mark. -/
def pushAt (lexer : Lexer) (kind : Token.Kind) (mark : Mark) : Lexer :=
  lexer.push ⟨kind, mark, mark⟩

/-- Puts in a token as the one of a number. -/
def insert (lexer : Lexer) (number : Nat) (token : Token) : Lexer :=
  let place := number - lexer.taken
  { lexer with queue := lexer.queue.take place ++ token :: lexer.queue.drop place }

/-! ## Candidates for keys -/

/-- The number of characters within which a key shows. -/
def keyLength : Nat := 1024

/-- The fault of a place where a key had to start. -/
def missingColon (lexer : Lexer) (candidate : Candidate) : Fault :=
  lexer.cursor.fault "while scanning a simple key" candidate.mark "could not find expected ':'"

/-- Whether a candidate is out of reach. -/
def isStale (lexer : Lexer) (candidate : Candidate) : Bool :=
  candidate.mark.line < lexer.cursor.mark.line ||
    candidate.mark.index + keyLength < lexer.cursor.mark.index

/-- The candidates that are still in reach, or the outermost that had to become a key. -/
def keptCandidates (lexer : Lexer) :
    List (Option Candidate) → Except Fault (List (Option Candidate))
  | [] => .ok []
  | none :: outer => do .ok (none :: (← lexer.keptCandidates outer))
  | some candidate :: outer => do
    let outer ← lexer.keptCandidates outer
    if lexer.isStale candidate then
      if candidate.required then .error (lexer.missingColon candidate) else .ok (none :: outer)
    else .ok (some candidate :: outer)

/-- Gives up the candidates that are out of reach. -/
def dropStale (lexer : Lexer) : Except Fault Lexer := do
  .ok { lexer with candidates := ← lexer.keptCandidates lexer.candidates }

/-- The innermost candidate. -/
def candidate? (lexer : Lexer) : Option Candidate := lexer.candidates.head?.join

/-- Replaces the innermost candidate. -/
def setCandidate (lexer : Lexer) (candidate : Option Candidate) : Lexer :=
  { lexer with candidates := candidate :: lexer.candidates.drop 1 }

/-- Gives up the innermost candidate. -/
def dropCandidate (lexer : Lexer) : Except Fault Lexer :=
  match lexer.candidate? with
  | none => .ok lexer
  | some candidate =>
    if candidate.required then .error (lexer.missingColon candidate)
    else .ok (lexer.setCandidate none)

/-- Makes the place a candidate, where a key may start. -/
def noteCandidate (lexer : Lexer) : Except Fault Lexer :=
  if !lexer.keyAllowed then .ok lexer
  else do
    let required := !lexer.inFlow && lexer.indent == lexer.column
    let number := lexer.taken + lexer.queue.length
    .ok ((← lexer.dropCandidate).setCandidate (some ⟨required, number, lexer.cursor.mark⟩))

/-! ## Blocks -/

/-- Starts a block at a column, if that is deeper than the innermost block. The token stands at a
mark, as the one of a number where there is one, or else last. -/
def openBlock (lexer : Lexer) (column : Int) (number : Option Nat) (kind : Token.Kind)
    (mark : Mark) : Lexer :=
  if lexer.inFlow || column ≤ lexer.indent then lexer
  else
    let lexer := { lexer with indents := lexer.indent :: lexer.indents, indent := column }
    match number with
    | none => lexer.pushAt kind mark
    | some number => lexer.insert number ⟨kind, mark, mark⟩

/-- The blocks deeper than a column: how many there are, and what is around them. -/
def deeper (column indent : Int) : List Int → Nat × Int × List Int
  | [] => if column < indent then (1, -1, []) else (0, indent, [])
  | outer :: indents =>
    if column < indent then
      let (count, rest) := deeper column outer indents
      (count + 1, rest)
    else (0, indent, outer :: indents)

/-- Ends the blocks deeper than a column. -/
def closeBlocks (lexer : Lexer) (column : Int) : Lexer :=
  if lexer.inFlow then lexer
  else
    let (count, indent, indents) := deeper column lexer.indent lexer.indents
    let mark := lexer.cursor.mark
    { lexer with
      indent, indents
      queue := lexer.queue ++ List.replicate count ⟨.blockEnd, mark, mark⟩ }

/-! ## Reading a token -/

/-- Passes what stands between tokens: blanks, comments and line breaks. A line break outside of
flow collections lets a key start; a tab is passed only where none may. -/
def skipGap : Nat → Lexer → Lexer
  | 0, lexer => lexer
  | fuel + 1, lexer =>
    let cursor := lexer.cursor
    let cursor := if cursor.mark.index == 0 && cursor.sees '\uFEFF' then cursor.skip else cursor
    let tabs := lexer.inFlow || !lexer.keyAllowed
    let cursor := cursor.skipWhile fun c => c == ' ' || (tabs && c == '\t')
    let cursor := if cursor.sees '#' then cursor.skipWhile fun c => !isBreak c else cursor
    if cursor.next?.any isBreak then
      skipGap fuel { lexer with
        cursor := cursor.skipBreak
        keyAllowed := lexer.keyAllowed || !lexer.inFlow }
    else { lexer with cursor := cursor }

/-- Reads the start of the stream. -/
def streamStart (lexer : Lexer) : Lexer :=
  { lexer with started := true, keyAllowed := true, candidates := [none] }.pushAt .streamStart
    lexer.cursor.mark

/-- Reads the end of the stream, which starts a new line. -/
def streamEnd (lexer : Lexer) : Except Fault Lexer := do
  let mark := lexer.cursor.mark
  let mark := if mark.column == 0 then mark else ⟨mark.index, mark.line + 1, 0⟩
  let lexer := { lexer with cursor := { lexer.cursor with mark := mark } }.closeBlocks (-1)
  .ok ({ ← lexer.dropCandidate with keyAllowed := false }.pushAt .streamEnd mark)

/-- Reads a directive. -/
def readDirective (lexer : Lexer) : Except Fault Lexer := do
  let lexer ← (lexer.closeBlocks (-1)).dropCandidate
  let (token, cursor) ← directive lexer.cursor
  .ok ({ lexer with keyAllowed := false, cursor := cursor }.push token)

/-- Reads the start or the end of a document. -/
def documentMark (lexer : Lexer) (kind : Token.Kind) : Except Fault Lexer := do
  let lexer ← (lexer.closeBlocks (-1)).dropCandidate
  .ok ({ lexer with keyAllowed := false }.pushMark kind 3)

/-- Reads the start of a flow collection. -/
def flowStart (lexer : Lexer) (kind : Token.Kind) : Except Fault Lexer := do
  let lexer ← lexer.noteCandidate
  .ok ({ lexer with keyAllowed := true, candidates := none :: lexer.candidates }.pushMark kind 1)

/-- Reads the end of a flow collection. -/
def flowEnd (lexer : Lexer) (kind : Token.Kind) : Except Fault Lexer := do
  let lexer ← lexer.dropCandidate
  let candidates := if lexer.inFlow then lexer.candidates.drop 1 else lexer.candidates
  .ok ({ lexer with keyAllowed := false, candidates }.pushMark kind 1)

/-- Reads a comma. -/
def flowEntry (lexer : Lexer) : Except Fault Lexer := do
  .ok ({ ← lexer.dropCandidate with keyAllowed := true }.pushMark .flowEntry 1)

/-- Reads the dash of an entry. -/
def blockEntry (lexer : Lexer) : Except Fault Lexer := do
  if !lexer.inFlow && !lexer.keyAllowed then
    .error (lexer.fault "block sequence entries are not allowed in this context")
  else
    let lexer := lexer.openBlock lexer.column none .blockSequenceStart lexer.cursor.mark
    .ok ({ ← lexer.dropCandidate with keyAllowed := true }.pushMark .blockEntry 1)

/-- Reads the question mark of a key. -/
def keyMark (lexer : Lexer) : Except Fault Lexer := do
  if !lexer.inFlow && !lexer.keyAllowed then
    .error (lexer.fault "mapping keys are not allowed in this context")
  else
    let lexer := lexer.openBlock lexer.column none .blockMappingStart lexer.cursor.mark
    .ok ({ ← lexer.dropCandidate with keyAllowed := !lexer.inFlow }.pushMark .key 1)

/-- Reads the colon of a value. Where there is a candidate it is the key of the value. -/
def valueMark (lexer : Lexer) : Except Fault Lexer :=
  match lexer.candidate? with
  | some candidate =>
    let lexer := lexer.insert candidate.number ⟨.key, candidate.mark, candidate.mark⟩
    let lexer := lexer.openBlock candidate.mark.column (some candidate.number) .blockMappingStart
      candidate.mark
    .ok ({ lexer.setCandidate none with keyAllowed := false }.pushMark .value 1)
  | none =>
    if !lexer.inFlow && !lexer.keyAllowed then
      .error (lexer.fault "mapping values are not allowed in this context")
    else
      let lexer := lexer.openBlock lexer.column none .blockMappingStart lexer.cursor.mark
      .ok ({ lexer with keyAllowed := !lexer.inFlow }.pushMark .value 1)

/-- Reads an anchor, an alias or a tag. -/
def property (lexer : Lexer) (read : Cursor → Except Fault (Token.Kind × Cursor)) :
    Except Fault Lexer := do
  let lexer ← lexer.noteCandidate
  let (kind, after) ← read lexer.cursor
  .ok ({ lexer with keyAllowed := false, cursor := after }.push
    ⟨kind, lexer.cursor.mark, after.mark⟩)

/-- Reads an anchor. -/
def anchor (cursor : Cursor) : Except Fault (Token.Kind × Cursor) := do
  let (read, after) ← name "while scanning an anchor" cursor
  .ok (.anchor read, after)

/-- Reads an alias. -/
def aliasMark (cursor : Cursor) : Except Fault (Token.Kind × Cursor) := do
  let (read, after) ← name "while scanning an alias" cursor
  .ok (.aliasOf read, after)

/-- Reads a block scalar. -/
def blockScalar (lexer : Lexer) (literal : Bool) : Except Fault Lexer := do
  let lexer ← lexer.dropCandidate
  let (token, cursor) ← block literal lexer.indent lexer.cursor
  .ok ({ lexer with keyAllowed := true, cursor := cursor }.push token)

/-- Reads a quoted scalar. -/
def quotedScalar (lexer : Lexer) (single : Bool) : Except Fault Lexer := do
  let lexer ← lexer.noteCandidate
  let (token, cursor) ← quoted single lexer.cursor
  .ok ({ lexer with keyAllowed := false, cursor := cursor }.push token)

/-- Reads a plain scalar. A line that ends behind it lets a key start. -/
def plainScalar (lexer : Lexer) : Except Fault Lexer := do
  let lexer ← lexer.noteCandidate
  let (token, broken, cursor) ← plain lexer.inFlow (lexer.indent + 1) lexer.cursor
  .ok ({ lexer with keyAllowed := broken, cursor := cursor }.push token)

/-- The characters that do not begin a plain scalar. -/
def indicators : List Char := "-?:,[]\x7b\x7d#&*!|>'\"%@\x60".toList

/-- Whether a plain scalar begins with two characters. -/
def beginsPlain (inFlow : Bool) (c : Char) (after : Option Char) : Bool :=
  !(isBlank c || isBreak c || indicators.contains c) ||
    (c == '-' && !after.any isBlank) ||
    (!inFlow && (c == '?' || c == ':') && !isGap after)

/-- Reads the next token, with what it brings about. -/
def fetch (lexer : Lexer) : Except Fault Lexer := do
  if !lexer.started then .ok lexer.streamStart
  else
    let lexer ← (skipGap (lexer.cursor.rest.length + 1) lexer).dropStale
    let lexer := lexer.closeBlocks lexer.column
    let cursor := lexer.cursor
    match cursor.next? with
    | none => lexer.streamEnd
    | some c =>
      let alone := isGap (cursor.at? 1)
      let mark := lexer.inFlow || alone
      if cursor.mark.column == 0 && c = '%' then lexer.readDirective
      else if cursor.atDocumentMark '-' then lexer.documentMark .documentStart
      else if cursor.atDocumentMark '.' then lexer.documentMark .documentEnd
      else if c = '[' then lexer.flowStart .flowSequenceStart
      else if c = '\x7b' then lexer.flowStart .flowMappingStart
      else if c = ']' then lexer.flowEnd .flowSequenceEnd
      else if c = '\x7d' then lexer.flowEnd .flowMappingEnd
      else if c = ',' then lexer.flowEntry
      else if c = '-' && alone then lexer.blockEntry
      else if c = '?' && mark then lexer.keyMark
      else if c = ':' && mark then lexer.valueMark
      else if c = '*' then lexer.property aliasMark
      else if c = '&' then lexer.property anchor
      else if c = '!' then lexer.property (tag lexer.inFlow)
      else if c = '|' && !lexer.inFlow then lexer.blockScalar true
      else if c = '>' && !lexer.inFlow then lexer.blockScalar false
      else if c = '\'' then lexer.quotedScalar true
      else if c = '"' then lexer.quotedScalar false
      else if beginsPlain lexer.inFlow c (cursor.at? 1) then lexer.plainScalar
      else
        .error (cursor.fault "while scanning for the next token" cursor.mark
          "found character that cannot start any token")

/-! ## Taking tokens -/

/-- Whether more has to be read before the next token can be handed out. -/
def needsMore (lexer : Lexer) : Bool :=
  lexer.queue.isEmpty ||
    lexer.candidates.any fun candidate => candidate.any fun c => c.number == lexer.taken

/-- Reads until the next token can be handed out. -/
def fill : Nat → Lexer → Except Fault Lexer
  | 0, lexer => .ok lexer
  | fuel + 1, lexer => do
    if lexer.queue.isEmpty then fill fuel (← lexer.fetch)
    else
      let lexer ← lexer.dropStale
      if lexer.needsMore then fill fuel (← lexer.fetch) else .ok lexer

/-- The next token, which stays. -/
def peek (lexer : Lexer) : Except Fault (Token × Lexer) := do
  let lexer ← fill (lexer.cursor.rest.length + 4) lexer
  match lexer.queue with
  | token :: _ => .ok (token, lexer)
  | [] => .error (lexer.fault "did not find a token")

/-- Takes the next token, which has been seen. -/
def drop (lexer : Lexer) : Lexer :=
  { lexer with queue := lexer.queue.drop 1, taken := lexer.taken + 1 }

/-- Takes tokens until the stream ends or a fault stops it. -/
def takeAll : Nat → Lexer → List Token × Option Fault
  | 0, _ => ([], none)
  | fuel + 1, lexer =>
    match lexer.peek with
    | .error fault => ([], some fault)
    | .ok (token, lexer) =>
      if token.kind == .streamEnd then ([token], none)
      else
        let (tokens, fault) := takeAll fuel lexer.drop
        (token :: tokens, fault)

end Lexer

/-- The tokens of a text, and the fault that stops them before the end of the stream. A character
that may not stand in a text stops them at once. -/
def tokens (text : List Char) : List Token × Option Fault :=
  match firstForbidden? text 0 with
  | some bytes => ([], some (Fault.forbidden bytes))
  | none => (Lexer.start text).takeAll (8 * text.length + 8)

end PluginAudit.Yaml
