import PluginAudit.Json.Reader
import PluginAudit.Json.Printer
import PluginAudit.Text.Quoted

/-!
# Documents of a fixed shape

Readers for the places of a document whose kind of value is laid down. Where
another kind of value stands, the fault names what was found and what was
wanted; a scalar is read first, so that a fault inside it comes before the
mismatch, and the fault lies after it. A list or an object is named without
being read.
-/

set_option autoImplicit false

namespace PluginAudit.Json

/-- What a message calls a number. -/
def Number.kind : Number → String
  | .integer value => "integer `" ++ toString value ++ "`"
  | .double value => "floating point `" ++ String.ofList (doubleLayout.write value) ++ "`"

/-- The fault of a scalar, read or not, where something else was wanted. -/
def mismatchAfter {α : Type} (kind : α → String) (wanted : String) :
    Except Fault (α × List Char) → Fault
  | .ok (found, rest) => .before (.mismatch (kind found) wanted) rest
  | .error fault => fault

/-- The fault of a text, without leading blanks, that starts with another kind of value than was
wanted. -/
def mismatch (wanted : String) (text : List Char) : Fault :=
  match text with
  | [] => .before .endInValue []
  | 'n' :: rest => mismatchAfter (fun _ => "null") wanted (word () ['u', 'l', 'l'] rest)
  | 't' :: rest => mismatchAfter (fun _ => "boolean `true`") wanted (word () ['r', 'u', 'e'] rest)
  | 'f' :: rest =>
    mismatchAfter (fun _ => "boolean `false`") wanted (word () ['a', 'l', 's', 'e'] rest)
  | '-' :: rest => mismatchAfter Number.kind wanted (numberBody true rest)
  | '"' :: rest =>
    mismatchAfter (fun found => "string " ++ Text.quoted found) wanted (stringBody rest)
  | '[' :: _ => .before (.mismatch "sequence" wanted) text
  | '{' :: _ => .before (.mismatch "map" wanted) text
  | c :: _ =>
    if c.isDigit then mismatchAfter Number.kind wanted (numberBody false text)
    else .within .expectedValue text

/-- Reads a boolean. -/
def booleanValue (text : List Char) : Except Fault (Bool × List Char) :=
  match skipBlanks text with
  | 't' :: rest => word true ['r', 'u', 'e'] rest
  | 'f' :: rest => word false ['a', 'l', 's', 'e'] rest
  | text => .error (mismatch "a boolean" text)

/-- Reads a string. -/
def stringValue (text : List Char) : Except Fault (String × List Char) :=
  match skipBlanks text with
  | '"' :: rest => stringBody rest
  | text => .error (mismatch "a string" text)

/-- Reads an object, member by member. `member` is told how many levels may still be opened. -/
def objectOf {σ : Type} (wanted : String)
    (member : Nat → σ → String → List Char → Except Fault (σ × List Char))
    (start : σ) (levels : Nat) (text : List Char) : Except Fault (σ × List Char) :=
  match skipBlanks text with
  | '{' :: rest =>
    match levels with
    | 0 => .error (.within .tooDeep ('{' :: rest))
    | levels + 1 => members (member levels) (rest.length + 1) true start rest
  | text => .error (mismatch wanted text)

/-- A fault of an object's member that is noticed after its key or value: it lies behind the
blanks that follow and behind the brace that closes the object, if it comes next. -/
def Fault.closing (cause : Cause) (rest : List Char) : Fault :=
  match skipBlanks rest with
  | '}' :: rest => .before cause rest
  | rest => .before cause rest

end PluginAudit.Json
