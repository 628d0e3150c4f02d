import PluginAudit.Finding
import PluginAudit.Rules.Suppression
import PluginAudit.Text.Position

/-!
# Scanning source text

A source text is searched for dangerous patterns. A category is reported at
most once for a text, however many of its patterns match.
-/

set_option autoImplicit false

namespace PluginAudit

namespace Scan

/-- Whether a dangerous pattern has a match that no safe call suppresses. -/
def isDetected (rules : Rules) (text : Array Char) (danger : Rules.Danger) : Bool :=
  (danger.matches text).any fun span => !rules.isSuppressed text span.start

/-- The finding of a category in a file. -/
def detection (category : Rules.Category) (file : String) : Finding where
  severity := .issue
  category := .security
  code := "S001"
  message := "Security issue: " ++ category.name ++ " detected in " ++ file
  file := some file

/-- The findings in a source text: one for each category with a match that counts, in the order of
the rules. -/
def source (rules : Rules) (file : String) (content : String) : List Finding :=
  let text := content.toList.toArray
  (rules.categories.filter fun category => category.dangers.any (isDetected rules text)).map
    fun category => detection category file

/-- A match in a text: where it starts and ends in bytes, what it matches, and whether a safe call
suppresses it. -/
structure Sighting where
  start : Nat
  stop : Nat
  text : String
  suppressed : Bool
  deriving DecidableEq, Repr

/-- The number of bytes before a place. -/
def byteOffset (text : Array Char) (place : Nat) : Nat :=
  Text.byteLength (text.extract 0 place).toList

/-- The matches of a dangerous pattern, suppressed ones included. -/
def sightings (rules : Rules) (text : Array Char) (danger : Rules.Danger) : List Sighting :=
  (danger.matches text).map fun span =>
    ⟨byteOffset text span.start, byteOffset text span.stop,
      String.ofList (span.text text).toList, rules.isSuppressed text span.start⟩

end Scan

end PluginAudit
