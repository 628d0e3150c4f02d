import PluginAudit.Text.Position

/-!
# Faults of JSON documents

A fault is a cause and a place. While a document is read the place is kept as
the number of bytes that were still to come; the line and the column are
counted only when the fault is told.
-/

set_option autoImplicit false

namespace PluginAudit.Json

/-- Why a document is refused. -/
inductive Cause where
  | endInValue
  | endInObject
  | endInList
  | endInString
  | expectedValue
  | expectedIdent
  | expectedColon
  | expectedCommaOrBrace
  | expectedCommaOrBracket
  | keyNotString
  | trailingComma
  | trailingCharacters
  | invalidNumber
  | numberOutOfRange
  | invalidEscape
  | loneSurrogate
  | unfinishedEscape
  | controlCharacter
  | tooDeep
  | mismatch (found wanted : String)
  | missingField (name : String)
  | duplicateField (name : String)
  | refused (reason : String)
  deriving DecidableEq, Repr

namespace Cause

/-- What is said about a cause. -/
def message : Cause → String
  | endInValue => "EOF while parsing a value"
  | endInObject => "EOF while parsing an object"
  | endInList => "EOF while parsing a list"
  | endInString => "EOF while parsing a string"
  | expectedValue => "expected value"
  | expectedIdent => "expected ident"
  | expectedColon => "expected `:`"
  | expectedCommaOrBrace => "expected `,` or `\x7d`"
  | expectedCommaOrBracket => "expected `,` or `]`"
  | keyNotString => "key must be a string"
  | trailingComma => "trailing comma"
  | trailingCharacters => "trailing characters"
  | invalidNumber => "invalid number"
  | numberOutOfRange => "number out of range"
  | invalidEscape => "invalid escape"
  | loneSurrogate => "lone leading surrogate in hex escape"
  | unfinishedEscape => "unexpected end of hex escape"
  | controlCharacter => "control character (\\u0000-\\u001F) found while parsing a string"
  | tooDeep => "recursion limit exceeded"
  | mismatch found wanted => "invalid type: " ++ found ++ ", expected " ++ wanted
  | missingField name => "missing field `" ++ name ++ "`"
  | duplicateField name => "duplicate field `" ++ name ++ "`"
  | refused reason => reason

end Cause

/-- A cause, with the number of bytes of the document that come after the place of the fault. -/
structure Fault where
  cause : Cause
  left : Nat
  deriving DecidableEq, Repr

namespace Fault

/-- A fault right before the text that is left. -/
def before (cause : Cause) (rest : List Char) : Fault := ⟨cause, Text.byteLength rest⟩

/-- A fault in the first byte of the text that is left. -/
def within (cause : Cause) (rest : List Char) : Fault := ⟨cause, Text.byteLength rest - 1⟩

/-- What is said about a fault of a document, with its line and column. -/
def message (text : List Char) (fault : Fault) : String :=
  let place := Text.Position.ofByte text (Text.byteLength text - fault.left)
  fault.cause.message ++ " at line " ++ toString place.line ++ " column " ++ toString place.column

end Fault

end PluginAudit.Json
