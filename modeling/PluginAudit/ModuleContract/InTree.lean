import PluginAudit.FileTree.Resolution
import PluginAudit.ModuleContract

/-!
# The primary module in its file

The contract of the primary module is checked on the text of its file. That the
file is missing is for the structure of the plugin to tell.
-/

set_option autoImplicit false

namespace PluginAudit.ModuleContract

/-- The finding of a primary module that cannot be read. -/
def unreadable (layout : Layout) (fault : FileTree.Fault) : Finding where
  severity := .warning
  category := .scanIo
  code := "IO01"
  message := "Failed to validate " ++ layout.primaryModule ++ ": " ++ fault.message
  file := some layout.primaryModule

/-- The findings in the primary module of a plugin whose manifest declares hooks. -/
def checkPlugin (layout : Layout) (tree : FileTree) (plugin : Path) (hooks : List String) :
    List Finding :=
  let path := plugin.join layout.primaryModule
  if !tree.has path then []
  else
    match tree.readText path with
    | .ok source => check layout hooks source
    | .error fault => [unreadable layout fault]

end PluginAudit.ModuleContract
