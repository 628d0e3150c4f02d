import PluginAudit.Rules.Document
import PluginAudit.Yaml.Typed

/-!
# Rule documents read from YAML

A rule file names every part of a rule document and nothing else. An entry is a
pattern, or a pattern with the guard that excuses its matches.
-/

set_option autoImplicit false

namespace PluginAudit.Rules

open Yaml (Content Decoder Trail Node)
open Yaml.Decoder

/-- The refusal of an entry that is neither a pattern nor a guarded one. -/
def Entry.unfit {α : Type} : Decoder α :=
  problem "data did not match any variant of untagged enum PatternConfig"

namespace Entry

/-- Which field of a guarded entry a key names: the pattern or its guard, by name or by number.
Other names and numbers are passed over; what is neither refuses the entry. -/
def field? : Content → Option (Option Bool)
  | .scalar (.string name) =>
    some (if name == "pattern" then some true else if name == "unless" then some false else none)
  | .scalar (.integer number) =>
    if number < 0 then none
    else some (if number == 0 then some true else if number == 1 then some false else none)
  | _ => none

/-- The pattern and the guard of entries, as far as they have been read. -/
def guardedFields :
    Option String → Option String → List (Content × Content) → Option (String × String)
  | some pattern, some excuse, [] => some (pattern, excuse)
  | _, _, [] => none
  | pattern, excuse, (key, value) :: rest =>
    match field? key, value, pattern, excuse with
    | some none, _, _, _ => guardedFields pattern excuse rest
    | some (some true), .scalar (.string text), none, _ => guardedFields (some text) excuse rest
    | some (some false), .scalar (.string text), _, none => guardedFields pattern (some text) rest
    | _, _, _, _ => none

/-- The entry that a content is. -/
def ofContent? : Content → Option Entry
  | .scalar (.string pattern) => some (plain pattern)
  | .mapping entries =>
    (guardedFields none none entries).map fun (pattern, excuse) => guarded pattern excuse
  | _ => none

/-- Reads an entry. What is wrong with it is told of the list that holds it. -/
def decode (levels : Nat) (trail : Trail) (node : Node) : Decoder Entry := do
  match ofContent? (← Content.decode levels trail node) with
  | some entry => pure entry
  | none => unfit

end Entry

namespace Group

/-- The fields of a category, as far as they have been read. -/
structure Draft where
  name : Option String := none
  patterns : Option (List Entry) := none

/-- Reads a field of a category. -/
def Draft.field (levels : Nat) (draft : Draft) (name : String) (trail : Trail) (node : Node) :
    Decoder Draft := do
  if name == "name" then
    pure { draft with name := ← once name draft.name (text "a string" trail node) }
  else
    let read := listOf Entry.decode levels trail node
    pure { draft with patterns := ← once name draft.patterns read }

/-- The category whose fields have been read. -/
def Draft.finish (draft : Draft) : Decoder Group := do
  pure ⟨← required "name" draft.name, ← required "patterns" draft.patterns⟩

/-- Reads a category. -/
def decode : Nat → Trail → Node → Decoder Group :=
  record "struct CategoryConfig" ["name", "patterns"] Draft.field {} Draft.finish

end Group

namespace Document

/-- The fields of a rule document, as far as they have been read: its categories and its lists of
texts by name. -/
structure Draft where
  categories : Option (List Group) := none
  lists : List (String × List String) := []

/-- The names of the lists of texts. -/
def listNames : List String :=
  ["safe_patterns", "extensions", "dangerous_packages", "core_dependency_prefixes", "known_hooks"]

/-- Reads a field of a rule document. -/
def Draft.field (levels : Nat) (draft : Draft) (name : String) (trail : Trail) (node : Node) :
    Decoder Draft := do
  if name == "categories" then
    let read := listOf Group.decode levels trail node
    pure { draft with categories := ← once name draft.categories read }
  else
    let read := listOf (fun _ trail node => text "a string" trail node) levels trail node
    let items ← once name (draft.lists.lookup name) read
    pure { draft with lists := draft.lists ++ [(name, items.getD [])] }

/-- The rule document whose fields have been read. -/
def Draft.finish (draft : Draft) : Decoder Document := do
  let list (name : String) : Decoder (List String) := required name (draft.lists.lookup name)
  pure {
    categories := ← required "categories" draft.categories
    safePatterns := ← list "safe_patterns"
    extensions := ← list "extensions"
    dangerousPackages := ← list "dangerous_packages"
    corePrefixes := ← list "core_dependency_prefixes"
    knownHooks := ← list "known_hooks" }

/-- Reads a rule document. -/
def decode : Nat → Trail → Node → Decoder Document :=
  record "struct RuleConfig" ("categories" :: listNames) Draft.field {} Draft.finish

/-- The rule document that a text holds. -/
def ofYaml (text : String) : Except Yaml.Refusal Document := Yaml.decode decode text

end Document

end PluginAudit.Rules
