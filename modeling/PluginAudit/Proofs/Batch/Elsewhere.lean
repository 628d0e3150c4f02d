import PluginAudit.Proofs.FileTree.Lexical
import PluginAudit.Proofs.Json.RoundTrip
import PluginAudit.Proofs.Validation.Isolation

/-!
# Files beside the plugins

Two file trees that differ only in a file, which may be missing in one of them,
have the same plugins (`DifferAt.toOption_discover`). Each of these is
validated with the same outcome in both, if the file is not in its directory
(`DifferAt.validate_eq`).
-/

set_option autoImplicit false

namespace PluginAudit

namespace FileTree

/-- A file tree without links in which the names in a directory are those of entries, each used
once. -/
structure Plain (tree : FileTree) : Prop where
  noLinks : tree.root.NoLinks
  distinct : tree.root.Distinct
  named : tree.root.All fun node => ∀ entry ∈ node.entries, IsEntryName entry.1

section Plain

variable {tree : FileTree} {path : Path} {place : List String}

/-- What is in a directory has the name of an entry. -/
theorem Plain.isEntryName (plain : tree.Plain) {name : String}
    (stands : tree.look (place ++ [name]) ≠ none) : IsEntryName name := by
  rw [look, Node.look, ne_eq, Option.map_eq_none_iff, Node.at?_snoc, ← ne_eq,
    Option.ne_none_iff_exists'] at stands
  obtain ⟨child, isChild⟩ := stands
  obtain ⟨node, isAt, found⟩ := Option.bind_eq_some_iff.mp isChild
  obtain ⟨before, after, split, -⟩ := List.lookup_eq_some_iff.mp found
  exact plain.named place node isAt (name, child) (by rw [split]; simp)

theorem Plain.linkFree (plain : tree.Plain) (isDirectory : tree.isDirectory path = true) :
    tree.LinkFree path (tree.placeOf path) := by
  obtain ⟨leads, here⟩ := (isDirectory_iff_leads plain.noLinks).mp isDirectory
  exact ⟨leads, here, fun more => plain.noLinks.look _⟩

/-- A directory to which a name of another one leads stands there. -/
theorem Plain.placeOf_join (plain : tree.Plain)
    (isDirectory : tree.isDirectory path = true) {name : String}
    (stands : tree.look (tree.placeOf path ++ [name]) ≠ none)
    (isBelow : tree.isDirectory (path.join name) = true) :
    tree.placeOf (path.join name) = tree.placeOf path ++ [name] := by
  obtain ⟨leads, -⟩ := (isDirectory_iff_leads plain.noLinks).mp isBelow
  have joined := (plain.linkFree isDirectory).join (plain.isEntryName stands) leads.1
  exact leads.unique joined

end Plain

/-- Two plain trees that differ in a file at a place at most, which may be missing. -/
structure DifferAt (place : List String) (tree tree' : FileTree) : Prop where
  same : SameBut place tree tree'
  plain : tree.Plain
  plain' : tree'.Plain
  noDirectory : tree.look place ≠ some .directory
  noDirectory' : tree'.look place ≠ some .directory

end FileTree

namespace FileTree.DifferAt

variable {place : List String} {tree tree' : FileTree} {path : Path}

theorem symm (differ : DifferAt place tree tree') : DifferAt place tree' tree :=
  ⟨differ.same.symm, differ.plain', differ.plain, differ.noDirectory', differ.noDirectory⟩

theorem leads_directory (differ : DifferAt place tree tree')
    (isDirectory : tree.isDirectory path = true) :
    tree'.Leads true path (tree.placeOf path) ∧
      tree'.look (tree.placeOf path) = some .directory := by
  obtain ⟨leads, here⟩ := (isDirectory_iff_leads differ.plain.noLinks).mp isDirectory
  exact differ.same.keepsBut.leads_directory differ.plain.noLinks differ.noDirectory leads here

theorem isDirectory_mono (differ : DifferAt place tree tree')
    (isDirectory : tree.isDirectory path = true) : tree'.isDirectory path = true := by
  rw [isDirectory_iff_leads differ.plain'.noLinks, placeOf_eq differ.same.workplace]
  exact differ.leads_directory isDirectory

/-- **The same paths lead to directories.** -/
theorem isDirectory_eq (differ : DifferAt place tree tree') (path : Path) :
    tree.isDirectory path = tree'.isDirectory path :=
  Bool.eq_iff_iff.mpr ⟨differ.isDirectory_mono, differ.symm.isDirectory_mono⟩

/-- **A plugin is validated with the same outcome** if the file is not in its directory. -/
theorem validate_eq (differ : DifferAt place tree tree') {rules : Rules} {plugin : Path}
    (outside : tree.isDirectory plugin = true → ¬ tree.placeOf plugin <+: place) (id : String) :
    Validator.validate ⟨rules, .standard⟩ tree id plugin =
      Validator.validate ⟨rules, .standard⟩ tree' id plugin := by
  cases isDirectory : tree.isDirectory plugin with
  | false =>
    have isDirectory' := (differ.isDirectory_eq plugin).symm.trans isDirectory
    simp only [Validator.validate, isDirectory, isDirectory', Bool.false_eq_true, if_false]
  | true =>
    have free := differ.plain.linkFree isDirectory
    obtain ⟨leads', -⟩ := differ.leads_directory isDirectory
    refine Validator.validate_congr differ.plain.distinct differ.plain'.distinct free leads'
      (fun more => ?_) id
    exact (differ.same.view _
      (not_prefix_append differ.noDirectory free.here (outside isDirectory) more)).symm

/-- A directory has the same id. -/
theorem idOfPath_eq (differ : DifferAt place tree tree') {plugin : Path}
    (isDirectory : tree.isDirectory plugin = true) :
    Plugin.idOfPath tree plugin = Plugin.idOfPath tree' plugin := by
  obtain ⟨entries, located, -⟩ := (differ.plain.linkFree isDirectory).located
  obtain ⟨leads', here'⟩ := differ.leads_directory isDirectory
  obtain ⟨entries', isAt'⟩ := Node.look_directory.mp here'
  have located' := locate_ok_iff.mpr ⟨leads', isAt'⟩
  rw [Plugin.idOfPath, Plugin.idOfPath, canonical, canonical, located, located']
  rfl

/-- So is the plugin at a path, under the id that the path tells. -/
theorem validatePath_eq (differ : DifferAt place tree tree') {rules : Rules} {plugin : Path}
    (outside : tree.isDirectory plugin = true → ¬ tree.placeOf plugin <+: place) :
    Validator.validatePath ⟨rules, .standard⟩ tree plugin =
      Validator.validatePath ⟨rules, .standard⟩ tree' plugin := by
  rw [Validator.validatePath, Validator.validatePath, ← differ.validate_eq outside]
  cases isDirectory : tree.isDirectory plugin with
  | true => rw [differ.idOfPath_eq isDirectory]
  | false => simp only [Validator.validate, isDirectory, Bool.false_eq_true, if_false]

/-- What is found in one tree is found in the other. -/
theorem discover_mono (differ : DifferAt place tree tree') {plugins : Path} {found : List Plugin}
    (ran : Plugin.discover tree plugins = .ok found) :
    Plugin.discover tree' plugins = .ok found := by
  obtain ⟨directory, entries, located, listed, -⟩ := Plugin.discover_ok ran
  have isDirectory : tree.isDirectory plugins = true := by
    rw [FileTree.isDirectory, located]
    rfl
  obtain rfl := (locate_ok_iff.mp located).1.eq_placeOf differ.plain.noLinks
  obtain ⟨-, here⟩ := (isDirectory_iff_leads differ.plain.noLinks).mp isDirectory
  obtain ⟨leads', here'⟩ := differ.leads_directory isDirectory
  obtain ⟨entries', isAt'⟩ := Node.look_directory.mp here'
  have located' := locate_ok_iff.mpr ⟨leads', isAt'⟩
  have listed' : (tree'.reading (tree.placeOf plugins)).fault? = none := by
    have seen := differ.same.view _ (Node.not_prefix_of_directory differ.noDirectory here)
    rw [reading_of_view seen (by rw [here']; exact Option.some_ne_none _), listed]
  have ran' := Plugin.discover_of_located located' listed'
  -- A directory that has an entry in one tree has one in the other.
  have entry {first second : FileTree} (differ : DifferAt place first second) {id : String}
      (stands : first.look (first.placeOf plugins ++ [id]) ≠ none)
      (here : first.isDirectory plugins = true)
      (isPlugin : first.isDirectory (plugins.join id) = true) :
      second.look (first.placeOf plugins ++ [id]) ≠ none := by
    rw [← differ.plain.placeOf_join here stands isPlugin,
      (differ.leads_directory isPlugin).2]
    exact Option.some_ne_none _
  have same (id : String) : id ∈ found.map (·.id) ↔ id ∈ (((Node.byName entries').map
      fun entry => (⟨entry.1, plugins.join entry.1⟩ : Plugin)).filter fun plugin =>
        tree'.isDirectory plugin.path && !Plugin.isReserved plugin.id).map (·.id) := by
    rw [Plugin.mem_discover_iff differ.plain.distinct located ran,
      Plugin.mem_discover_iff differ.plain'.distinct located' ran',
      differ.isDirectory_eq (plugins.join id)]
    refine and_congr_left fun isPlugin' => ⟨fun stands => ?_, fun stands => ?_⟩
    · exact entry differ stands isDirectory ((differ.isDirectory_eq _).trans isPlugin'.1)
    · rw [← placeOf_eq differ.same.workplace] at stands ⊢
      exact entry differ.symm stands (differ.isDirectory_mono isDirectory) isPlugin'.1
  have perm := (List.perm_ext_iff_of_nodup (Plugin.nodup_discover differ.plain.distinct ran)
    (Plugin.nodup_discover differ.plain'.distinct ran')).mpr same
  rw [ran', Plugin.discover_ext ran ran' (perm.eq_of_pairwise (fun _ _ _ _ => String.le_antisymm)
    (Plugin.pairwise_discover ran) (Plugin.pairwise_discover ran'))]

/-- **The same plugins are found.** -/
theorem toOption_discover (differ : DifferAt place tree tree') (plugins : Path) :
    (Plugin.discover tree plugins).toOption = (Plugin.discover tree' plugins).toOption := by
  refine Option.ext fun found => ?_
  rw [Json.toOption_eq_some, Json.toOption_eq_some]
  exact ⟨differ.discover_mono, differ.symm.discover_mono⟩

end FileTree.DifferAt

end PluginAudit
