import PluginAudit.Pattern.Basic
import PluginAudit.Pattern.Fault

/-!
# Flags of a pattern

Flags change how the rest of a group reads. They say what a character, a
class, the dot, an anchor and a repetition stand for, and whether blanks and
comments between them are skipped. Where the flag for all scripts is off, only
ASCII can be taken, and a class that leaves ASCII is a fault.
-/

set_option autoImplicit false

namespace PluginAudit

namespace Pattern

/-- The flags that hold at a place of a pattern's text. -/
structure Flags where
  /-- `i`: case does not matter. -/
  anyCase : Bool := false
  /-- `m`: the anchors match at lines. -/
  multiLine : Bool := false
  /-- `s`: the dot takes line feeds. -/
  dotAll : Bool := false
  /-- `U`: repetitions are reluctant unless marked. -/
  swapGreed : Bool := false
  /-- `u`: classes reach beyond ASCII. -/
  allScripts : Bool := true
  /-- `R`: a carriage return ends a line too. -/
  anyLineEnd : Bool := false
  /-- `x`: blanks and comments are skipped. -/
  verbose : Bool := false
  deriving DecidableEq, Repr

namespace Flags

/-- Switches the flag of a letter. -/
def set (flags : Flags) (letter : Char) (value : Bool) : Option Flags :=
  match letter with
  | 'i' => some { flags with anyCase := value }
  | 'm' => some { flags with multiLine := value }
  | 's' => some { flags with dotAll := value }
  | 'U' => some { flags with swapGreed := value }
  | 'u' => some { flags with allScripts := value }
  | 'R' => some { flags with anyLineEnd := value }
  | 'x' => some { flags with verbose := value }
  | _ => none

/-- Reads flag letters up to a colon or a closing parenthesis. A dash, at most one and not last,
switches off what follows it; no letter comes twice. `seen` holds what was read, last first.
Answers the flags, what was read, and the rest from the closing mark on. -/
def read (flags : Flags) (seen : List Char) :
    List Char → Except Fault (Flags × List Char × List Char)
  | [] => .error .badFlags
  | c :: rest =>
    if c = ':' || c = ')' then
      if seen.head? = some '-' then .error .badFlags else .ok (flags, seen, c :: rest)
    else if seen.contains c then .error .badFlags
    else if c = '-' then flags.read (c :: seen) rest
    else
      match flags.set c (!seen.contains '-') with
      | none => .error .badFlags
      | some flags => flags.read (c :: seen) rest

/-! ## Blanks and comments -/

/-- Drops blanks and comments; a comment goes from a number sign through the end of the line. -/
def dropBlanks : Bool → List Char → List Char
  | _, [] => []
  | true, c :: rest => dropBlanks (c != '\n') rest
  | false, c :: rest =>
    if Unicode.isBlank c then dropBlanks false rest
    else if c = '#' then dropBlanks true rest
    else c :: rest

/-- What is left once skipped text is dropped. -/
def skip (flags : Flags) (text : List Char) : List Char :=
  if flags.verbose then dropBlanks false text else text

/-- What is left after one character and the skipped text behind it. -/
def next (flags : Flags) (text : List Char) : List Char := flags.skip (text.drop 1)

/-- The first character that is neither a blank nor the first number sign. -/
def firstAfterBlanks : Bool → List Char → Option Char
  | _, [] => none
  | comment, c :: rest =>
    if Unicode.isBlank c then firstAfterBlanks comment rest
    else if !comment && c = '#' then firstAfterBlanks true rest
    else some c

/-- The character that a place is followed by, as seen from a dash in a class. -/
def peek (flags : Flags) (text : List Char) : Option Char :=
  if flags.verbose then (firstAfterBlanks false text).or text.head? else text.head?

/-! ## What the parts of a pattern stand for -/

/-- A class as it is closed over case and negated. -/
def close (flags : Flags) (negated : Bool) (cls : CharClass) : Except Fault CharClass :=
  if flags.allScripts then
    let cls := if flags.anyCase then .anyCase cls else cls
    .ok (if negated then .complement cls else cls)
  else if negated then .error .asciiOnly
  else .ok (if flags.anyCase then .inter (.anyCase cls) .ascii else cls)

/-- The class of a character that stands for itself; `byte` tells that it was written as one byte
in hexadecimal. -/
def single (flags : Flags) (c : Char) (byte : Bool) : Except Fault CharClass :=
  if flags.allScripts || c.toNat < 128 then flags.close false (.single c)
  else if byte || flags.anyCase then .error .asciiOnly
  else .ok (.single c)

/-- The class of the dot. -/
def dot (flags : Flags) : Except Fault CharClass :=
  if !flags.allScripts then .error .asciiOnly
  else if flags.dotAll then .ok .everything
  else if flags.anyLineEnd then
    .ok (.complement (.union (.single '\r') (.single '\n')))
  else .ok (.complement (.single '\n'))

/-- The ranges of ASCII's digits. -/
def asciiDigit : CharClass := .range 0x30 0x39

/-- The blanks of ASCII. -/
def asciiBlank : CharClass := .ofRanges [(0x9, 0xD), (0x20, 0x20)]

/-- The word characters of ASCII. -/
def asciiWord : CharClass := .ofRanges [(0x30, 0x39), (0x41, 0x5A), (0x5F, 0x5F), (0x61, 0x7A)]

/-- One of two classes, by whether it may leave ASCII. -/
def shorthand (flags : Flags) (wide ascii : CharClass) (negated : Bool) :
    Except Fault CharClass :=
  if flags.allScripts then .ok (if negated then .complement wide else wide)
  else if negated then .error .asciiOnly
  else .ok ascii

/-- The start anchor. -/
def startAnchor (flags : Flags) : Assertion :=
  if !flags.multiLine then .textStart
  else if flags.anyLineEnd then .anyLineStart
  else .lineStart

/-- The end anchor. -/
def endAnchor (flags : Flags) : Assertion :=
  if !flags.multiLine then .textEnd
  else if flags.anyLineEnd then .anyLineEnd
  else .lineEnd

end Flags

end Pattern

end PluginAudit
