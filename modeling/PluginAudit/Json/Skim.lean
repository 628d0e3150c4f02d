import PluginAudit.Json.Reader

/-!
# Skimming JSON

A value that nobody asks for is passed over without being built. Skimming only
checks the notation: there is no bound on the nesting, on the size of numbers
or on the surrogates of strings. Where a value breaks off, the fault is not
always the one that reading it would meet.
-/

set_option autoImplicit false

namespace PluginAudit.Json

/-- Passes over the characters of a string after its opening quote. -/
def skimString : List Char → Except Fault (List Char)
  | [] => .error (.before .endInString [])
  | '"' :: rest => .ok rest
  | ['\\'] => .error (.before .endInString [])
  | '\\' :: 'u' :: a :: b :: c :: d :: rest =>
    match fourHex? a b c d with
    | none => .error (hexFault (a :: b :: c :: d :: rest))
    | some _ => skimString rest
  | '\\' :: 'u' :: rest => .error (hexFault rest)
  | '\\' :: c :: rest =>
    match plainEscape? c with
    | none => .error (.within .invalidEscape (c :: rest))
    | some _ => skimString rest
  | c :: rest =>
    if c.toNat < 0x20 then .error (.before .controlCharacter (c :: rest)) else skimString rest

/-- Passes over an exponent after its letter. -/
def skimExponent (text : List Char) : Except Fault (List Char) :=
  let text := match text with
    | '+' :: rest => rest
    | '-' :: rest => rest
    | rest => rest
  if text.head?.any Char.isDigit then .ok (text.dropWhile Char.isDigit)
  else .error (.within .invalidNumber text)

/-- Passes over what may follow the last digit of a number. -/
def skimScale : List Char → Except Fault (List Char)
  | 'e' :: rest => skimExponent rest
  | 'E' :: rest => skimExponent rest
  | rest => .ok rest

/-- Passes over a number after its sign. -/
def skimNumber (text : List Char) : Except Fault (List Char) :=
  let rest := text.dropWhile Char.isDigit
  if !text.head?.any Char.isDigit then .error (.within .invalidNumber text)
  else if text.head? = some '0' ∧ (text.drop 1).head?.any Char.isDigit then
    .error (.within .invalidNumber (text.drop 1))
  else
    match rest with
    | '.' :: rest =>
      if rest.head?.any Char.isDigit then skimScale (rest.dropWhile Char.isDigit)
      else .error (.within .invalidNumber rest)
    | rest => skimScale rest

/-- A list or object that is open. -/
inductive Frame where
  | list
  | object
  deriving DecidableEq, Repr

/-- What comes next: a value, the first thing inside a list or object, or what follows a value. -/
inductive Stage where
  | value
  | opened
  | closed
  deriving DecidableEq, Repr

/-- Passes over a key and its colon. -/
def skimKey (text : List Char) : Except Fault (List Char) :=
  match skipBlanks text with
  | [] => .error (.before .endInObject [])
  | '"' :: rest => do
    match skipBlanks (← skimString rest) with
    | [] => .error (.before .endInObject [])
    | ':' :: rest => .ok rest
    | rest => .error (.within .expectedColon rest)
  | rest => .error (.within .keyNotString rest)

/-- Passes over what comes before a value in an open list or object. -/
def Frame.enter (text : List Char) : Frame → Except Fault (List Char)
  | list => .ok text
  | object => skimKey text

/-- Passes over the rest of a value. `frames` are the lists and objects that are open, the
innermost first. -/
def skim : Nat → Stage → List Frame → List Char → Except Fault (List Char)
  | 0, _, _, text => .error (.within .endInValue text)
  | fuel + 1, .value, frames, text => do
    match skipBlanks text with
    | [] => .error (.before .endInValue [])
    | '[' :: rest => skim fuel .opened (.list :: frames) rest
    | '{' :: rest => skim fuel .opened (.object :: frames) rest
    | 'n' :: rest =>
      let (_, rest) ← word () ['u', 'l', 'l'] rest
      skim fuel .closed frames rest
    | 't' :: rest =>
      let (_, rest) ← word () ['r', 'u', 'e'] rest
      skim fuel .closed frames rest
    | 'f' :: rest =>
      let (_, rest) ← word () ['a', 'l', 's', 'e'] rest
      skim fuel .closed frames rest
    | '-' :: rest => skim fuel .closed frames (← skimNumber rest)
    | '"' :: rest => skim fuel .closed frames (← skimString rest)
    | c :: rest =>
      if c.isDigit then skim fuel .closed frames (← skimNumber (c :: rest))
      else .error (.within .expectedValue (c :: rest))
  | _ + 1, _, [], text => .ok text
  | fuel + 1, stage, frame :: frames, text => do
    match skipBlanks text, frame with
    | [], .list => .error (.before .endInList [])
    | [], .object => .error (.before .endInObject [])
    | ']' :: rest, .list => skim fuel .closed frames rest
    | '}' :: rest, .object => skim fuel .closed frames rest
    | c :: rest, _ =>
      if stage = .opened then skim fuel .value (frame :: frames) (← frame.enter (c :: rest))
      else if c = ',' then skim fuel .value (frame :: frames) (← frame.enter rest)
      else
        match frame with
        | .list => .error (.within .expectedCommaOrBracket (c :: rest))
        | .object => .error (.within .expectedCommaOrBrace (c :: rest))

/-- Passes over a value. -/
def skimValue (text : List Char) : Except Fault (List Char) :=
  skim (2 * text.length + 2) .value [] text

end PluginAudit.Json
