import PluginAudit.Yaml.Scalar

/-!
# Styles of written scalars

A text is written without quotes where it then reads as itself, in single
quotes where it does not, as a block where it has several lines, and in double
quotes where something has to be escaped.
-/

set_option autoImplicit false

namespace PluginAudit.Yaml

/-- How a text is written. -/
inductive Style where
  | plain
  | single
  | double
  | literal
  deriving DecidableEq, Repr

/-! ## What a text contains -/

/-- Whether a character can be written as it is. -/
def isPrintable (c : Char) : Bool :=
  c == '\n' || (' ' ≤ c && c ≤ '~') ||
    ('\u00A0' ≤ c && c != '\uFEFF' && c != '\uFFFE' && c != '\uFFFF')

/-- Whether a character of a text, with the one behind it, satisfies a test. -/
def anyPair (test : Char → Option Char → Bool) : List Char → Bool
  | [] => false
  | c :: rest => test c rest.head? || anyPair test rest

/-- Whether a character begins something else than a plain scalar. -/
def isIndicator (c : Char) : Bool := "#,[]\x7b\x7d&*!|>'\"%@`".toList.contains c

/-- Whether a text without quotes would be taken for something else by how it begins. -/
def beginsOther (text : List Char) : Bool :=
  match text with
  | [] => false
  | c :: rest =>
    isIndicator c || ((c == '?' || c == '-') && isGap rest.head?) ||
      ['-', '-', '-'].isPrefixOf text || ['.', '.', '.'].isPrefixOf text

/-- Whether a text without quotes would hold the mark of a value or a comment. -/
def holdsMark (text : List Char) : Bool :=
  anyPair (fun c next => (c == ':' && isGap next) || (isGap (some c) && next == some '#')) text

/-- Whether a blank stands before the end of a line, or something that cannot be written as it
is stands anywhere. -/
def needsEscapes (text : List Char) : Bool :=
  anyPair (fun c next => c == ' ' && next.any isBreak) text || text.any fun c => !isPrintable c

/-- Whether a line begins with a blank, the first one apart. -/
def hasIndentedLine (text : List Char) : Bool :=
  anyPair (fun c next => isBreak c && next == some ' ') text

/-- Whether a character is a blank or ends a line. -/
def isEdge (c : Char) : Bool := c == ' ' || isBreak c

/-! ## The choice -/

/-- Whether a text can be written without quotes. -/
def allowsPlain (text : List Char) : Bool :=
  !(text.head?.any isEdge || text.getLast?.any isEdge || needsEscapes text || text.any isBreak ||
    beginsOther text || holdsMark text)

/-- Whether a text can be written in single quotes. -/
def allowsSingle (text : List Char) : Bool := !(needsEscapes text || hasIndentedLine text)

/-- Whether a text can be written as a block. -/
def allowsLiteral (text : List Char) : Bool :=
  !text.isEmpty && !(text.getLast? == some ' ' || needsEscapes text)

namespace Style

/-- The style in which a text is written. -/
def ofText (text : String) : Style :=
  let chars := text.toList
  if chars.contains '\n' then if allowsLiteral chars then literal else double
  else if Scalar.isItself text && !Scalar.isPadded chars && allowsPlain chars then plain
  else if allowsSingle chars then single
  else double

/-! ## Writing -/

/-- The digits of a number in sixteens, in upper case and padded. -/
def hexDigits (width n : Nat) : List Char :=
  let digits := (Nat.toDigits 16 n).map Char.toUpper
  List.replicate (width - digits.length) '0' ++ digits

/-- The letters of characters that have an escape of one letter. -/
def shortEscapes : List (Char × Char) :=
  [('\x00', '0'), ('\x07', 'a'), ('\x08', 'b'), ('\t', 't'), ('\n', 'n'), ('\x0b', 'v'),
    ('\x0c', 'f'), ('\r', 'r'), ('\x1b', 'e'), ('"', '"'), ('\\', '\\'), ('\x85', 'N'),
    ('\u00A0', '_'), ('\u2028', 'L'), ('\u2029', 'P')]

/-- A character inside double quotes. -/
def escape (c : Char) : List Char :=
  if isPrintable c && !isBreak c && c != '"' && c != '\\' then [c]
  else
    match shortEscapes.lookup c with
    | some letter => ['\\', letter]
    | none =>
      if c.toNat ≤ 0xFF then '\\' :: 'x' :: hexDigits 2 c.toNat
      else if c.toNat ≤ 0xFFFF then '\\' :: 'u' :: hexDigits 4 c.toNat
      else '\\' :: 'U' :: hexDigits 8 c.toNat

/-- Blanks of an indentation. -/
def blanks (indent : Nat) : List Char := List.replicate indent ' '

/-- The text inside single quotes. A line feed is no part of it; behind another end of a line the
next line is indented. `broken` tells that a line has just ended. -/
def singleChars (indent : Nat) : Bool → List Char → List Char
  | broken, [] => if broken then blanks indent else []
  | broken, c :: rest =>
    if isBreak c then c :: singleChars indent true rest
    else if c == ' ' then c :: singleChars indent broken rest
    else
      (if broken then blanks indent else []) ++ (if c == '\'' then ['\'', '\''] else [c]) ++
        singleChars indent false rest

/-- The lines of a block, each indented unless it is empty. `broken` tells that a line has just
ended. -/
def literalChars (indent : Nat) : Bool → List Char → List Char
  | _, [] => []
  | broken, c :: rest =>
    if isBreak c then c :: literalChars indent true rest
    else (if broken then blanks indent else []) ++ c :: literalChars indent false rest

/-- What the head of a block says: the indentation where the text begins with a blank or an empty
line, and what becomes of the ends of lines behind the text. -/
def literalHints (text : List Char) : List Char :=
  (if text.head?.any isEdge then ['2'] else []) ++
    match text.reverse with
    | [] => ['-']
    | [last] => if isBreak last then ['+'] else ['-']
    | last :: before :: _ => if !isBreak last then ['-'] else if isBreak before then ['+'] else []

/-- A text in a style. -/
def write (indent : Nat) (text : List Char) : Style → List Char
  | plain => text
  | single => '\'' :: (singleChars indent false text ++ ['\''])
  | double => '"' :: (text.flatMap escape ++ ['"'])
  | literal => '|' :: (literalHints text ++ '\n' :: literalChars indent true text)

end Style

end PluginAudit.Yaml
