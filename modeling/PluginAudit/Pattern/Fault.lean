/-!
# Faults in a pattern

Why a text is not a pattern.
-/

set_option autoImplicit false

namespace PluginAudit

namespace Pattern

/-- Why a text is not a pattern. -/
inductive Fault where
  | unopenedGroup
  | unclosedGroup
  | unclosedClass
  | unclosedCount
  | lookAround
  | backReference
  | nothingToRepeat
  | badCount
  | badEscape
  | badClassItem
  | badRange
  | badProperty
  | badFlags
  | badName
  | asciiOnly
  | tooDeep
  | tooLarge
  deriving DecidableEq, Repr

/-- The largest size of a pattern, in bytes. -/
def sizeLimit : Nat := 10485760

/-- A fault in words. All but the last are faults of notation. -/
def Fault.message : Fault → String
  | unopenedGroup => malformed "unopened group"
  | unclosedGroup => malformed "unclosed group"
  | unclosedClass => malformed "unclosed character class"
  | unclosedCount => malformed "unclosed counted repetition"
  | lookAround => malformed "look-around is not supported"
  | backReference => malformed "back-references are not supported"
  | nothingToRepeat => malformed "repetition operator missing expression"
  | badCount => malformed "invalid repetition count"
  | badEscape => malformed "unrecognized escape sequence"
  | badClassItem => malformed "invalid item in a character class"
  | badRange => malformed "invalid character class range"
  | badProperty => malformed "unknown character property"
  | badFlags => malformed "invalid flags"
  | badName => malformed "invalid group name"
  | asciiOnly => malformed "pattern can leave ASCII where only ASCII is allowed"
  | tooDeep => malformed "nesting is too deep"
  | tooLarge => "Compiled regex exceeds size limit of " ++ toString sizeLimit ++ " bytes."
where
  /-- The text of a fault of notation. -/
  malformed (cause : String) : String := "regex parse error: " ++ cause

end Pattern

end PluginAudit
