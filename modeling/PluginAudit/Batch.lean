import PluginAudit.Validation

/-!
# Validating all plugins

The plugins of a directory are its directories whose names are not reserved. Each
is validated on its own, and the summary tells of them in the order of their
ids.
-/

set_option autoImplicit false

namespace PluginAudit

/-- A plugin with its place. -/
structure Plugin where
  id : String
  path : Path
  deriving DecidableEq, Repr

namespace Plugin

/-- Whether a name is reserved, for templates and what is hidden. -/
def isReserved (name : String) : Bool :=
  name.toList.head? == some '_' || name.toList.head? == some '.'

/-- The plugins in a directory, sorted by id. -/
def discover (tree : FileTree) (plugins : Path) : Except Failure (List Plugin) := do
  let entries ← (tree.list plugins).mapError fun fault => Failure.io fault.message
  let found := (FileTree.Node.byName entries).map fun (name, _) =>
    Plugin.mk name (plugins.join name)
  .ok (found.filter fun plugin => tree.isDirectory plugin.path && !isReserved plugin.id)

end Plugin

namespace Validator

/-- The summary of plugins, in their order. -/
def validateEach (validator : Validator) (tree : FileTree) (plugins : List Plugin) : Summary where
  reports := plugins.filterMap fun plugin =>
    (validator.validate tree plugin.id plugin.path).toOption
  unvalidated := plugins.filterMap fun plugin =>
    match validator.validate tree plugin.id plugin.path with
    | .ok _ => none
    | .error failure => some ⟨plugin.id, failure.message⟩

/-- The summary of the plugins in a directory. -/
def validateAll (validator : Validator) (tree : FileTree) (plugins : Path) :
    Except Failure Summary := do
  .ok (validator.validateEach tree (← Plugin.discover tree plugins))

end Validator

end PluginAudit
