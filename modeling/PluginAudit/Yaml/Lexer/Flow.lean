import PluginAudit.Yaml.Lexer.Property

/-!
# Plain and quoted scalars

These scalars can span lines. The blanks around a line break fall away; a
single line break becomes a blank, and of several the first falls away.
-/

set_option autoImplicit false

namespace PluginAudit.Yaml.Lexer

/-! ## Gaps -/

/-- The blanks and line breaks between two pieces of a scalar. -/
structure Gap where
  /-- Whether a line has ended. -/
  broken : Bool := false
  blanks : List Char := []
  first : List Char := []
  more : List Char := []

namespace Gap

/-- What a gap stands for. -/
def text (gap : Gap) : List Char :=
  if !gap.broken then gap.blanks
  else if gap.first = ['\n'] then (if gap.more.isEmpty then [' '] else gap.more)
  else gap.first ++ gap.more

/-- Reads on in a gap. Behind a line break a tab before the column `limit` is refused, with the
place where it stands. -/
def read (limit : Int) : Nat → Gap → Cursor → Except Cursor (Gap × Cursor)
  | 0, gap, cursor => .ok (gap, cursor)
  | fuel + 1, gap, cursor =>
    match cursor.next? with
    | none => .ok (gap, cursor)
    | some c =>
      if isBlank c then
        if gap.broken then
          if c = '\t' && cursor.mark.column < limit then .error cursor
          else read limit fuel gap cursor.skip
        else read limit fuel { gap with blanks := gap.blanks ++ [c] } cursor.skip
      else if isBreak c then
        let (taken, cursor) := cursor.takeBreak
        if gap.broken then read limit fuel { gap with more := gap.more ++ taken } cursor
        else read limit fuel { broken := true, first := taken } cursor
      else .ok (gap, cursor)

end Gap

/-! ## Quoted scalars -/

/-- What a letter after a backslash stands for. -/
def plainEscape? : Char → Option Char
  | '0' => some '\x00'
  | 'a' => some '\x07'
  | 'b' => some '\x08'
  | 't' => some '\t'
  | '\t' => some '\t'
  | 'n' => some '\n'
  | 'v' => some '\x0B'
  | 'f' => some '\x0C'
  | 'r' => some '\r'
  | 'e' => some '\x1B'
  | ' ' => some ' '
  | '"' => some '"'
  | '/' => some '/'
  | '\\' => some '\\'
  | 'N' => some '\x85'
  | '_' => some '\u00A0'
  | 'L' => some '\u2028'
  | 'P' => some '\u2029'
  | _ => none

/-- How many hexadecimal digits follow a letter after a backslash. -/
def codeLength? : Char → Option Nat
  | 'x' => some 2
  | 'u' => some 4
  | 'U' => some 8
  | _ => none

/-- The number that digits write; none where one is missing. -/
def code? (digits : List Char) (length : Nat) : Option Nat :=
  if digits.length < length then none
  else (digits.take length).foldl
    (fun code c => do pure ((← code) * 16 + (← hexValue? c))) (some 0)

/-- Reads an escape in a double-quoted scalar, from the backslash on. -/
def escape (start : Mark) (cursor : Cursor) : Except Fault (Char × Cursor) :=
  let context := "while parsing a quoted scalar"
  match cursor.at? 1 with
  | none => .error (cursor.fault context start "found unknown escape character")
  | some letter =>
    match plainEscape? letter with
    | some c => .ok (c, cursor.skip 2)
    | none =>
      match codeLength? letter with
      | none => .error (cursor.fault context start "found unknown escape character")
      | some length =>
        let after := cursor.skip 2
        match code? after.rest length with
        | none => .error (after.fault context start "did not find expected hexdecimal number")
        | some code =>
          if code.isValidChar then .ok (Char.ofNat code, after.skip length)
          else
            .error (after.fault context start "found invalid Unicode character escape code")

/-- Reads characters of a quoted scalar up to a gap or the closing quote. What was read is kept
last first. Answers also whether an escaped line break was passed. -/
def quotedRun (single : Bool) (start : Mark) :
    Nat → List Char → Cursor → Except Fault (List Char × Bool × Cursor)
  | 0, read, cursor => .ok (read, false, cursor)
  | fuel + 1, read, cursor =>
    match cursor.next? with
    | none => .ok (read, false, cursor)
    | some c =>
      if isBlank c || isBreak c then .ok (read, false, cursor)
      else if single && c = '\'' && cursor.at? 1 == some '\'' then
        quotedRun single start fuel ('\'' :: read) (cursor.skip 2)
      else if c = (if single then '\'' else '"') then .ok (read, false, cursor)
      else if !single && c = '\\' then
        if (cursor.at? 1).any isBreak then .ok (read, true, (cursor.skip).skipBreak)
        else do
          let (c, cursor) ← escape start cursor
          quotedRun single start fuel (c :: read) cursor
      else quotedRun single start fuel (c :: read) cursor.skip

/-- Reads the inside of a quoted scalar and its closing quote. -/
def quotedBody (single : Bool) (start : Mark) :
    Nat → List Char → Cursor → Except Fault (List Char × Cursor)
  | 0, read, cursor => .ok (read, cursor)
  | fuel + 1, read, cursor => do
    let context := "while scanning a quoted scalar"
    if cursor.atDocumentBoundary then
      .error (cursor.fault context start "found unexpected document indicator")
    else if cursor.rest.isEmpty then
      .error (cursor.fault context start "found unexpected end of stream")
    else
      let (read, escapedBreak, cursor) ←
        quotedRun single start (cursor.rest.length + 1) read cursor
      if cursor.sees (if single then '\'' else '"') then .ok (read, cursor.skip)
      else
        match Gap.read 0 (cursor.rest.length + 1) { broken := escapedBreak } cursor with
        | .error cursor => .ok (read, cursor)
        | .ok (gap, cursor) => quotedBody single start fuel (gap.text.reverse ++ read) cursor

/-- Reads a quoted scalar. -/
def quoted (single : Bool) (cursor : Cursor) : Except Fault (Token × Cursor) := do
  let (read, after) ← quotedBody single cursor.mark (cursor.rest.length + 1) [] cursor.skip
  .ok (⟨.scalar (String.ofList read.reverse) false, cursor.mark, after.mark⟩, after)

/-! ## Plain scalars -/

/-- Whether a character is a bracket or comma of a flow collection. -/
def isFlowMark (c : Char) : Bool := c == ',' || c == '[' || c == ']' || c == '\x7b' || c == '\x7d'

/-- Reads characters of a plain scalar up to a gap or a mark that ends it; last first. -/
def plainRun (inFlow : Bool) (start : Mark) :
    Nat → List Char → Cursor → Except Fault (List Char × Cursor)
  | 0, read, cursor => .ok (read, cursor)
  | fuel + 1, read, cursor =>
    match cursor.next? with
    | none => .ok (read, cursor)
    | some c =>
      let after := cursor.at? 1
      if isBlank c || isBreak c then .ok (read, cursor)
      else if inFlow && c = ':' && after.any (fun c => isFlowMark c || c == '?') then
        .error (cursor.fault "while scanning a plain scalar" start "found unexpected ':'")
      else if c = ':' && isGap after then .ok (read, cursor)
      else if inFlow && isFlowMark c then .ok (read, cursor)
      else plainRun inFlow start fuel (c :: read) cursor.skip

/-- What has been read of a plain scalar: its characters, last first, the place behind them, and
the gap behind that place. -/
structure Plain where
  read : List Char
  stop : Mark
  gap : Gap

/-- Reads the pieces of a plain scalar. -/
def plainBody (inFlow : Bool) (indent : Int) (start : Mark) :
    Nat → Plain → Cursor → Except Fault (Plain × Cursor)
  | 0, plain, cursor => .ok (plain, cursor)
  | fuel + 1, plain, cursor => do
    if cursor.atDocumentBoundary || cursor.sees '#' then .ok (plain, cursor)
    else
      let (run, after) ← plainRun inFlow start (cursor.rest.length + 1) [] cursor
      let plain :=
        if run.isEmpty then plain
        else ⟨run ++ (plain.gap.text.reverse ++ plain.read), after.mark, {}⟩
      if after.next?.any (fun c => isBlank c || isBreak c) then
        match Gap.read indent (after.rest.length + 1) plain.gap after with
        | .error place =>
          .error (place.fault "while scanning a plain scalar" start
            "found a tab character that violates indentation")
        | .ok (gap, after) =>
          let plain := { plain with gap := gap }
          if !inFlow && after.mark.column < indent then .ok (plain, after)
          else plainBody inFlow indent start fuel plain after
      else .ok (plain, after)

/-- Reads a plain scalar whose lines are indented by at least `indent`. Answers also whether a
line has ended behind it. -/
def plain (inFlow : Bool) (indent : Int) (cursor : Cursor) :
    Except Fault (Token × Bool × Cursor) := do
  let (plain, after) ← plainBody inFlow indent cursor.mark (cursor.rest.length + 1)
    ⟨[], cursor.mark, {}⟩ cursor
  .ok (⟨.scalar (String.ofList plain.read.reverse) true, cursor.mark, plain.stop⟩,
    plain.gap.broken, after)

end PluginAudit.Yaml.Lexer
