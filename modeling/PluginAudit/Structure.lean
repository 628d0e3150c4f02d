import PluginAudit.FileTree.Resolution
import PluginAudit.Finding
import PluginAudit.Layout
import PluginAudit.Manifest.Basic

/-!
# The structure of a plugin directory

Which of the well-known files a plugin directory holds. What the manifest says
matters only for the routing module.
-/

set_option autoImplicit false

namespace PluginAudit.Structure

/-- The finding of a file that is missing. -/
def missing (severity : Severity) (code file message : String) : Finding where
  severity := severity
  category := .structural
  code := code
  message := message
  file := some file

/-- The finding of a file that every plugin has. -/
def missingRequired (file : String) : Finding :=
  missing .issue "L001" file ("Missing required file: " ++ file)

/-- The finding of a file that every plugin should have. -/
def missingRecommended (file : String) : Finding :=
  missing .warning "L002" file ("Missing recommended file: " ++ file)

/-- The finding of a routing module that the manifest needs. -/
def missingRouting (file : String) : Finding :=
  missing .issue "L003" file ("Plugin defines routes but " ++ file ++ " is missing")

/-- The findings in a plugin directory. Without a manifest no routing module is needed. -/
def check (layout : Layout) (tree : FileTree) (plugin : Path) (manifest : Option Manifest) :
    List Finding :=
  let absent (file : String) : Bool := !tree.has (plugin.join file)
  (layout.requiredFiles.filter absent).map missingRequired ++
    (layout.recommendedFiles.filter absent).map missingRecommended ++
    if manifest.any (fun manifest => !manifest.routes.isEmpty) && absent layout.routingModule then
      [missingRouting layout.routingModule]
    else []

end PluginAudit.Structure
