import PluginAudit.Dependencies
import PluginAudit.FileTree.Resolution

/-!
# Dependency manifests in their files

A plugin need not have a dependency manifest. One that cannot be read is
reported once, with the checks of the packages at run time.
-/

set_option autoImplicit false

namespace PluginAudit.Dependencies

/-- The dependencies of a plugin, or why they cannot be read; none where nothing is declared. -/
def ofPlugin? (layout : Layout) (tree : FileTree) (plugin : Path) :
    Option (Except String Dependencies) :=
  let path := plugin.join layout.dependencyManifest
  if !tree.has path then none
  else some ((tree.readText path).mapError FileTree.Fault.message >>= parse)

/-- The findings in the dependencies of a plugin, dangerous packages apart. -/
def audit (layout : Layout) (rules : Rules) (tree : FileTree) (plugin : Path) : List Finding :=
  match ofPlugin? layout tree plugin with
  | none => []
  | some (.error reason) => [malformed layout reason]
  | some (.ok dependencies) => dependencies.coreFindings layout rules

/-- The finding of dangerous packages among the dependencies of a plugin. -/
def auditDangerous (layout : Layout) (rules : Rules) (tree : FileTree) (plugin : Path) :
    List Finding :=
  match ofPlugin? layout tree plugin with
  | some (.ok dependencies) => dependencies.dangerousFindings layout rules
  | _ => []

end PluginAudit.Dependencies
