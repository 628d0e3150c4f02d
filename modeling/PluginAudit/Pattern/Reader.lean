import PluginAudit.Pattern.Class
import PluginAudit.Pattern.Matching

/-!
# Reading patterns

A text is read from left to right into a pattern. Choices are made of
sequences, sequences of parts, and a part may be followed by repetitions. A
group restores the flags that held before it. A pattern that nests too deep or
that grows too large once its counted repetitions are written out is refused.
-/

set_option autoImplicit false

namespace PluginAudit

namespace Pattern

/-! ## Parts -/

/-- A part of a sequence: a pattern with the depth of its nesting, or a change of flags. -/
inductive Part where
  | pattern (pattern : Pattern) (depth : Nat)
  | setting

namespace Part

/-- The pattern of a part. -/
def toPattern : Part → Pattern
  | pattern body _ => body
  | setting => .empty

/-- The depth of a part's nesting. -/
def depth : Part → Nat
  | pattern _ depth => depth
  | setting => 0

/-- The sequence of parts, which are given last first. -/
def sequence : List Part → Part
  | [] => pattern .empty 0
  | [only] => pattern only.toPattern only.depth
  | parts =>
    pattern (.sequence (parts.map toPattern).reverse) ((parts.map depth).foldl max 0 + 1)

/-- The choice between parts, which are given last first. -/
def choice : List Part → Part
  | [] => pattern .empty 0
  | [only] => only
  | parts =>
    pattern (.choices (parts.map toPattern).reverse) ((parts.map depth).foldl max 0 + 1)

end Part

/-! ## Groups -/

/-- What an opening parenthesis begins: a change of flags for the rest of the group around it, or
a group with flags and, perhaps, a name of its own. -/
inductive Opening where
  | setting (flags : Flags)
  | group (flags : Flags) (name : Option (List Char))

/-- Whether a character can stand in a group's name. -/
def isNameCharacter (first : Bool) (c : Char) : Bool :=
  let letter := if c.toNat < 128 then c.isAlpha
    else Unicode.BinaryProperty.alphabetic.contains c.toNat
  if first then c == '_' || letter
  else c == '_' || c == '.' || c == '[' || c == ']' || c.isDigit || letter ||
    Unicode.GeneralCategory.number.any (·.contains c.toNat)

/-- Reads a group's name up to the mark that closes it. -/
def groupName (text : List Char) : Except Fault (List Char × List Char) :=
  let name := text.takeWhile (· != '>')
  match name, text.dropWhile (· != '>') with
  | first :: others, '>' :: rest =>
    if isNameCharacter true first && others.all (isNameCharacter false) then .ok (name, rest)
    else .error .badName
  | _, _ => .error .badName

/-- Reads what follows an opening parenthesis. -/
def opening (flags : Flags) (text : List Char) : Except Fault (Opening × List Char) := do
  match flags.skip text with
  | '?' :: '=' :: _ | '?' :: '!' :: _ | '?' :: '<' :: '=' :: _ | '?' :: '<' :: '!' :: _ =>
    .error .lookAround
  | '?' :: 'P' :: '<' :: rest | '?' :: '<' :: rest =>
    let (name, rest) ← groupName rest
    .ok (.group flags (some name), rest)
  | '?' :: rest =>
    let (inner, seen, rest) ← flags.read [] rest
    match rest with
    | ')' :: rest =>
      if seen.isEmpty then .error .nothingToRepeat else .ok (.setting inner, rest)
    | _ => .ok (.group inner none, rest.drop 1)
  | rest => .ok (.group flags none, rest)

/-! ## Repetitions -/

/-- The largest count of a repetition. -/
def countLimit : Nat := 4294967295

/-- Reads decimal digits, between which blanks may be skipped. -/
def digits (flags : Flags) : Nat → List Char → List Char → List Char × List Char
  | 0, read, text => (read.reverse, text)
  | fuel + 1, read, text =>
    match text with
    | c :: _ => if c.isDigit then digits flags fuel (c :: read) (flags.next text)
      else (read.reverse, text)
    | [] => (read.reverse, text)

/-- Drops blanks. -/
def blanks (text : List Char) : List Char := text.dropWhile Unicode.isBlank

/-- Reads a number between blanks; none where there are no digits. -/
def count (flags : Flags) (text : List Char) : Except Fault (Option Nat × List Char) :=
  let (digits, rest) := digits flags text.length [] (blanks text)
  let rest := flags.skip (blanks rest)
  if digits.isEmpty then .ok (none, rest)
  else
    let number := Nat.ofDigitChars 10 digits 0
    if countLimit < number then .error .badCount else .ok (some number, rest)

/-- Reads the bounds of a counted repetition behind its opening brace, and the closing brace. -/
def bounds (flags : Flags) (text : List Char) :
    Except Fault (Nat × Option Nat × List Char) := do
  let (least, rest) ← count flags (flags.skip text)
  let (least, most, rest) ←
    (match least, rest with
    | none, _ => .error .badCount
    | some least, ',' :: rest => do
      match flags.skip rest with
      | '}' :: rest => .ok (least, none, '}' :: rest)
      | rest =>
        let (most, rest) ← count flags rest
        match most with
        | none => .error .badCount
        | some most => .ok (least, some most, rest)
    | some least, rest => .ok (least, some least, rest) :
      Except Fault (Nat × Option Nat × List Char))
  match rest with
  | '}' :: rest =>
    if most.any (· < least) then .error .badCount else .ok (least, most, flags.skip rest)
  | _ => .error .unclosedCount

/-- Puts a repetition on the part before it. A question mark behind the operator turns its
greed. -/
def repeated (flags : Flags) (least : Nat) (most : Option Nat) (parts : List Part)
    (text : List Char) : Except Fault (List Part × List Char) :=
  let (marked, rest) := match text with
    | '?' :: rest => (true, rest)
    | rest => (false, rest)
  match parts with
  | .pattern pattern depth :: before =>
    .ok (.pattern (.rounds (marked == flags.swapGreed) least most pattern) (depth + 1) :: before,
      rest)
  | _ => .error .nothingToRepeat

/-! ## Patterns -/

/-- The pattern of a part that is no operator. -/
def Primitive.toPattern (flags : Flags) : Primitive → Except Fault Pattern
  | .literal c byte => do .ok (.one (← flags.single c byte))
  | .cls inner => .ok (.one inner)
  | .condition test => .ok (.assertion test)

/-- What the reading of a text has come to: the flags in force, the group names in use, and the
text that is left. -/
structure Progress where
  flags : Flags
  names : List (List Char)
  rest : List Char

/-- Reads choices up to the end of the text or an unpaired closing parenthesis. `finished` holds
the choices before this one and `parts` the parts of this one, each last first. -/
def choicesFrom : Nat → List Part → List Part → Progress → Except Fault (Part × Progress)
  | 0, _, _, _ => .error .unclosedGroup
  | fuel + 1, finished, parts, progress => do
    let flags := progress.flags
    let goOn (parts : List Part) (rest : List Char) :=
      choicesFrom fuel finished parts { progress with rest := rest }
    match flags.skip progress.rest with
    | [] => .ok (.choice (.sequence parts :: finished), { progress with rest := [] })
    | ')' :: rest =>
      .ok (.choice (.sequence parts :: finished), { progress with rest := ')' :: rest })
    | '|' :: rest =>
      choicesFrom fuel (.sequence parts :: finished) [] { progress with rest := rest }
    | '(' :: rest =>
      match ← opening flags rest with
      | (.setting flags, rest) =>
        choicesFrom fuel finished (.setting :: parts) { progress with flags := flags, rest := rest }
      | (.group inner name, rest) =>
        if name.any progress.names.contains then .error .badName
        else
          let names := name.toList ++ progress.names
          let (body, after) ← choicesFrom fuel [] [] ⟨inner, names, rest⟩
          match after.rest with
          | ')' :: rest =>
            choicesFrom fuel finished (.pattern body.toPattern (body.depth + 1) :: parts)
              ⟨flags, after.names, rest⟩
          | _ => .error .unclosedGroup
    | '[' :: rest =>
      let (cls, rest) ← bracketed flags rest
      goOn (.pattern (.one cls.cls) cls.depth :: parts) rest
    | '?' :: rest =>
      let (parts, rest) ← repeated flags 0 (some 1) parts rest
      goOn parts rest
    | '*' :: rest =>
      let (parts, rest) ← repeated flags 0 none parts rest
      goOn parts rest
    | '+' :: rest =>
      let (parts, rest) ← repeated flags 1 none parts rest
      goOn parts rest
    | '{' :: rest =>
      let (least, most, rest) ← bounds flags rest
      let (parts, rest) ← repeated flags least most parts rest
      goOn parts rest
    | '\\' :: rest =>
      let (primitive, rest) ← escape flags rest
      goOn (.pattern (← primitive.toPattern flags) 0 :: parts) rest
    | '.' :: rest => goOn (.pattern (.one (← flags.dot)) 0 :: parts) rest
    | '^' :: rest => goOn (.pattern (.assertion flags.startAnchor) 0 :: parts) rest
    | '$' :: rest => goOn (.pattern (.assertion flags.endAnchor) 0 :: parts) rest
    | c :: rest => goOn (.pattern (.one (← flags.single c false)) 0 :: parts) rest

/-- The deepest nesting of a pattern. -/
def depthLimit : Nat := 250

/-- The least number of bytes that a place of a pattern takes. -/
def placeSize : Nat := 32

/-- The pattern that a text describes. -/
def ofText (text : String) : Except Fault Pattern := do
  let text := text.toList
  let (part, after) ← choicesFrom (text.length + 1) [] [] ⟨{}, [], text⟩
  if !after.rest.isEmpty then .error .unopenedGroup
  else if depthLimit < part.depth then .error .tooDeep
  else if sizeLimit < part.toPattern.extent * placeSize then .error .tooLarge
  else .ok part.toPattern

end Pattern

end PluginAudit
