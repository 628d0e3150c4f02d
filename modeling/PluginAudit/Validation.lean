import PluginAudit.Failure
import PluginAudit.Manifest.InTree
import PluginAudit.Manifest.Schema
import PluginAudit.ModuleContract.InTree
import PluginAudit.Report
import PluginAudit.Scan.InTree
import PluginAudit.Structure

/-!
# Validating a plugin

The checks of manifest, structure, sources, contract and dependencies are made
one after the other, and none keeps another from being made. Only a plugin that
is not there cannot be validated.
-/

set_option autoImplicit false

namespace PluginAudit

/-- What plugins are validated against. -/
structure Validator where
  rules : Rules
  layout : Layout := .standard

namespace Validator

/-- The findings in the manifest of a plugin, and what it declares. -/
def checkManifest (validator : Validator) (tree : FileTree) (id : String) (plugin : Path) :
    List Finding × Option Manifest :=
  match Manifest.read tree (plugin.join validator.layout.manifest) with
  | .ok (some members) =>
    (Manifest.check validator.layout validator.rules id members, some (Manifest.ofMembers members))
  | .ok none => ([], none)
  | .error finding => ([finding], none)

/-- All findings in a plugin, in the order of the checks. -/
def findings (validator : Validator) (tree : FileTree) (id : String) (plugin : Path) :
    List Finding :=
  let (departures, manifest) := validator.checkManifest tree id plugin
  let hooks := (manifest.map Manifest.hooks).getD []
  departures ++
    Structure.check validator.layout tree plugin manifest ++
    Scan.checkPlugin validator.layout validator.rules tree plugin ++
    ModuleContract.checkPlugin validator.layout tree plugin hooks ++
    Dependencies.audit validator.layout validator.rules tree plugin

/-- The report of the plugin at a path under an id. -/
def validate (validator : Validator) (tree : FileTree) (id : String) (plugin : Path) :
    Except Failure Report :=
  if tree.isDirectory plugin then
    .ok ⟨id, plugin.text, validator.findings tree id plugin⟩
  else .error (.pluginNotFound plugin.text)

end Validator

namespace Plugin

/-- The id of the plugin at a path: the name to which the path leads, links being followed where
it does not end in a name. -/
def idOfPath (tree : FileTree) (plugin : Path) : String :=
  match plugin.fileName? with
  | some name => name
  | none =>
    match tree.canonical plugin with
    | .ok place => place.getLast?.getD ""
    | .error _ => ""

/-- Whether an id is the name of a single directory. -/
def isName (id : String) : Bool :=
  !(id.isEmpty || id == "." || id == ".." || id.toList.contains '/' || id.toList.contains '\\')

/-- The path of the plugin of an id in the directory of all plugins. -/
def pathOfId (plugins : Path) (id : String) : Except Failure Path :=
  if isName id then .ok (plugins.join id) else .error (.invalidId id)

end Plugin

/-- The report of the plugin at a path under the id that the path tells. -/
def Validator.validatePath (validator : Validator) (tree : FileTree) (plugin : Path) :
    Except Failure Report :=
  validator.validate tree (Plugin.idOfPath tree plugin) plugin

end PluginAudit
