import PluginAudit.Rules.Basic

/-!
# Safe calls

A match is suppressed when it lies among the arguments of a safe call on its
own line: a safe pattern matches before it, an opening parenthesis follows,
after blanks, and that parenthesis is still open where the match starts.
Parentheses inside string literals do not count. Calls that span lines are not
recognised, so that what is in them is reported.
-/

set_option autoImplicit false

namespace PluginAudit

namespace Rules

/-- Whether a character opens, and then closes, a string literal. -/
def isQuote (c : Char) : Bool := c == '\'' || c == '"' || c == '`'

/-- Where the reading of arguments stands: outside string literals, or inside one, perhaps right
behind a backslash. -/
inductive Literal where
  | outside
  | inside (quote : Char)
  | escaped (quote : Char)
  deriving DecidableEq, Repr

/-- Whether a call whose arguments have begun is still open at the end of a text. `inner` counts
the parentheses that were opened inside it and not closed. -/
def staysOpen : Nat → Literal → List Char → Bool
  | _, _, [] => true
  | inner, .escaped quote, _ :: rest => staysOpen inner (.inside quote) rest
  | inner, .inside quote, c :: rest =>
    if c = '\\' then staysOpen inner (.escaped quote) rest
    else if c = quote then staysOpen inner .outside rest
    else staysOpen inner (.inside quote) rest
  | inner, .outside, c :: rest =>
    if isQuote c then staysOpen inner (.inside c) rest
    else if c = '(' then staysOpen (inner + 1) .outside rest
    else if c = ')' then
      match inner with
      | 0 => false
      | inner + 1 => staysOpen inner .outside rest
    else staysOpen inner .outside rest

/-- Whether a text begins with arguments, after blanks, that are still open at its end. -/
def insideArguments (text : List Char) : Bool :=
  match text.dropWhile Unicode.isBlank with
  | '(' :: rest => staysOpen 0 .outside rest
  | _ => false

/-- The place where the line of a place starts. -/
def lineStart (text : Array Char) : Nat → Nat
  | 0 => 0
  | place + 1 => if text[place]? = some '\n' then place + 1 else lineStart text place

/-- The part of its line that comes before a place. -/
def lineBefore (text : Array Char) (place : Nat) : Array Char :=
  text.extract (lineStart text place) place

/-- Whether a place lies among the arguments of a safe call on its line. -/
def isSuppressed (rules : Rules) (text : Array Char) (place : Nat) : Bool :=
  let line := lineBefore text place
  rules.safe.any fun pattern =>
    (pattern.findAll line).any fun call => insideArguments (line.extract call.stop line.size).toList

end Rules

end PluginAudit
