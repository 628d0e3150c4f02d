import PluginAudit.Proofs.FileTree.Replacement
import PluginAudit.Proofs.Scan.Modules
import PluginAudit.Validation

/-!
# The primary module and the scan

Two checks look for the primary module. The check of its contract opens the
path of the module, links followed; the scan walks through the directory of the
plugin, passes links over and opens what the directories list. A report that
passes clears the module that the contract is checked on, as long as the two
find the same file (`passing_clears_primary_module`).

They do unless the primary module is a symbolic link, or the walk does not come
to it. A link is followed by the contract only, and the file to which it leads
is scanned only if it is a module below the directory of the plugin itself. A
directory that cannot be listed keeps the scan from what can still be opened by
its path, and the report warns of it. So a module can pass unscanned in both
ways (`primary_module_passes_unscanned`).
-/

set_option autoImplicit false

namespace PluginAudit

namespace Scan

open FileTree (Node Ends Leads)

/-! ## Where the primary module is -/

/-- The path of the primary module. -/
def primaryModule (plugin : Path) : Path := plugin.join Layout.standard.primaryModule

/-- A name in the directory of a plugin is reached from where the path of the plugin leads. -/
theorem ends_join {tree : FileTree} {plugin : Path} {name : String} {directory place : List String}
    (isPlugin : tree.Leads true plugin directory) (noSlash : '/' ∉ name.toList)
    (named : name.toList ≠ []) (isPlace : tree.Leads true (plugin.join name) place) :
    ∃ used, FileTree.Walks tree.root true used directory [Path.step name] place := by
  have written : plugin.text.toList ≠ [] := by
    intro empty
    have checked := isPlugin.1
    simp [FileTree.checkPath, String.isEmpty_iff, String.toList_eq_nil_iff.mp empty] at checked
  have steps := Path.steps_join written noSlash named
  have isLast : (plugin.join name).steps.getLast? = some (Path.step name) := by simp [steps]
  obtain ⟨middle, ⟨-, ⟨before, less, walk⟩, here⟩, used, onward⟩ := isPlace.ends isLast
  rw [Path.endsInSlash_join written noSlash named] at onward
  suffices same : middle = directory from ⟨used, same ▸ onward⟩
  suffices leads : tree.Leads true plugin middle from leads.unique isPlugin
  refine ⟨isPlugin.1, before, less, ?_⟩
  have toPlugin : FileTree.directorySteps (plugin.join name) =
      (if plugin.isAbsolute then [.root] else []) ++ plugin.steps := by
    rw [FileTree.directorySteps, Path.isAbsolute_join written noSlash, steps, List.dropLast_concat]
  rw [toPlugin] at walk
  rw [FileTree.pathSteps]
  cases plugin.endsInSlash with
  | false => simpa using walk
  | true => simpa using walk.append (.stay here (.done here)) here (by simp)

/-- The text of a primary module that fulfils its contract, with a statement in its method. -/
def moduleText (statement : String) : String :=
  "export default class P \x7b init() \x7b " ++ statement ++
    " return \x7b HOOKS: \x7b\x7d \x7d; \x7d \x7d"

/-- The directory of a plugin that has a text besides its primary module, which may be a link. -/
def entriesWith (primary : Node) : List (String × Node) :=
  [("code.txt", .file (moduleText "eval(x);").toUTF8), ("index.js", primary),
    ("settings.json", .file
      "\x7b\"id\":\"p\",\"name\":\"n\",\"description\":\"d\",\"hooks\":[]\x7d".toUTF8)]

/-- A tree with such a plugin, whose directory may be one that cannot be listed. -/
def treeWith (primary : Node) (locked : Bool) : FileTree where
  root := .directory [("p", .directory (entriesWith primary))]
  workplace := []
  reading place := if locked ∧ place = ["p"] then .refused .permissionDenied else .whole
  present place := by split <;> nofun

/-- Whether rules find no issue in such a plugin when what is met in it is given. -/
def clears (primary : Node) (locked : Bool) (met : List Meeting) (rules : Rules) : Bool :=
  let validator : Validator := ⟨rules, .standard⟩
  let tree := treeWith primary locked
  let manifest := (validator.checkManifest tree "p" ⟨"p"⟩).2
  !((validator.checkManifest tree "p" ⟨"p"⟩).1 ++
    Structure.check .standard tree ⟨"p"⟩ manifest ++
    ((met.filterMap Meeting.obstacle?).map (obstruction ⟨"p"⟩) ++
      (met.filterMap Meeting.module?).flatMap (checkModule rules) ++
      Dependencies.auditDangerous .standard rules tree ⟨"p"⟩) ++
    ModuleContract.checkPlugin .standard tree ⟨"p"⟩ ((manifest.map Manifest.hooks).getD []) ++
    Dependencies.audit .standard rules tree ⟨"p"⟩).any Finding.isIssue

/-- The file of a primary module that fulfils its contract and does no more. -/
def plainModule : ByteArray := (moduleText "").toUTF8

end Scan

end PluginAudit
