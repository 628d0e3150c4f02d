import PluginAudit.Pattern.CharClass

/-!
# Patterns

A pattern describes pieces of text. It is built from single characters and
assertions about a place by sequence, choice and repetition. Of two choices
the first is preferred; a greedy repetition prefers more rounds, a reluctant
one fewer. Groups only bracket, since no one asks what they matched.
-/

set_option autoImplicit false

namespace PluginAudit

namespace Pattern

/-- A condition on a place in a text. -/
inductive Assertion where
  | textStart
  | textEnd
  /-- The start of the text or after a line feed. -/
  | lineStart
  /-- The end of the text or before a line feed. -/
  | lineEnd
  /-- Like `lineStart`, but a carriage return and the pair of it with a line feed end a line too.
  -/
  | anyLineStart
  | anyLineEnd
  /-- Exactly one of the neighbours is a word character. -/
  | wordBoundary (ascii : Bool)
  | noWordBoundary (ascii : Bool)
  | wordStart (ascii : Bool)
  | wordEnd (ascii : Bool)
  /-- No word character before the place. -/
  | noWordBefore (ascii : Bool)
  /-- No word character after the place. -/
  | noWordAfter (ascii : Bool)
  deriving DecidableEq, Repr

namespace Assertion

/-- Whether a neighbour of a place is a word character, of ASCII alone or of every script. -/
def isWord (ascii : Bool) : Option Char → Bool
  | none => false
  | some c => if ascii then c.isAlphanum || c == '_' else Unicode.isWordCharacter c

/-- Whether a condition holds between two neighbours; there is none at the ends of the text. -/
def holdsBetween : Assertion → Option Char → Option Char → Bool
  | textStart, before, _ => before.isNone
  | textEnd, _, after => after.isNone
  | lineStart, before, _ => before.isNone || before == some '\n'
  | lineEnd, _, after => after.isNone || after == some '\n'
  | anyLineStart, before, after =>
    before.isNone || before == some '\n' || (before == some '\r' && after != some '\n')
  | anyLineEnd, before, after =>
    after.isNone || after == some '\r' || (after == some '\n' && before != some '\r')
  | wordBoundary ascii, before, after => isWord ascii before != isWord ascii after
  | noWordBoundary ascii, before, after => isWord ascii before == isWord ascii after
  | wordStart ascii, before, after => !isWord ascii before && isWord ascii after
  | wordEnd ascii, before, after => isWord ascii before && !isWord ascii after
  | noWordBefore ascii, before, _ => !isWord ascii before
  | noWordAfter ascii, _, after => !isWord ascii after

/-- Whether a condition holds at a place of a text. -/
def holds (assertion : Assertion) (text : Array Char) (place : Nat) : Bool :=
  assertion.holdsBetween (if place = 0 then none else text[place - 1]?) text[place]?

end Assertion

end Pattern

/-- A pattern. -/
inductive Pattern where
  /-- Takes nothing. -/
  | empty
  /-- Takes one character of a class. -/
  | one (cls : Pattern.CharClass)
  /-- Takes nothing, where a condition holds. -/
  | assertion (condition : Pattern.Assertion)
  | seq (first second : Pattern)
  | choice (first second : Pattern)
  /-- At least `least` and at most `most` rounds of `body`; no bound when `most` is absent. -/
  | rounds (greedy : Bool) (least : Nat) (most : Option Nat) (body : Pattern)

namespace Pattern

/-- The pattern of one character. -/
def char (c : Char) : Pattern := one (.single c)

/-- Patterns one after the other. -/
def sequence : List Pattern → Pattern
  | [] => empty
  | [only] => only
  | first :: rest => seq first (sequence rest)

/-- A choice between patterns, the first preferred. -/
def choices : List Pattern → Pattern
  | [] => empty
  | [only] => only
  | first :: rest => choice first (choices rest)

/-- The pattern that takes a text character for character. -/
def literal (text : List Char) : Pattern := sequence (text.map char)

/-- The number of places in a pattern after its counted repetitions are written out. -/
def extent : Pattern → Nat
  | empty | one _ | assertion _ => 1
  | seq first second => first.extent + second.extent
  | choice first second => first.extent + second.extent + 1
  | rounds _ least most body => (body.extent + 1) * max 1 (most.getD least)

end Pattern

end PluginAudit
