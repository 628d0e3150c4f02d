import PluginAudit.Rules.Document
import PluginAudit.Yaml.Printer

/-!
# Written rule documents

A rule document as a YAML text, the way a rule file is written.
-/

set_option autoImplicit false

namespace PluginAudit.Rules

open Yaml (Tree)

/-- An entry as YAML: the pattern alone where there is no guard. -/
def Entry.toTree : Entry → Tree
  | plain pattern => .text pattern
  | guarded pattern excuse => .record [("pattern", .text pattern), ("unless", .text excuse)]

/-- A category as YAML. -/
def Group.toTree (group : Group) : Tree :=
  .record [("name", .text group.name), ("patterns", .list (group.patterns.map Entry.toTree))]

namespace Document

/-- A rule document as a YAML text. -/
def toYaml (document : Document) : String :=
  let texts (items : List String) : Tree := .list (items.map .text)
  Tree.document [
    ("categories", .list (document.categories.map Group.toTree)),
    ("safe_patterns", texts document.safePatterns),
    ("extensions", texts document.extensions),
    ("dangerous_packages", texts document.dangerousPackages),
    ("core_dependency_prefixes", texts document.corePrefixes),
    ("known_hooks", texts document.knownHooks)]

end Document

end PluginAudit.Rules
