import PluginAudit.Proofs.Batch.Summary
import PluginAudit.Proofs.Scan.Locality
import PluginAudit.Proofs.Validation.Codes

/-!
# Plugins are isolated from each other

What validating a plugin depends on is its own directory. The checks open the
well-known names behind the path of the plugin, and the scan walks below it; in
a directory without links none of this leads out of the directory. So two file
trees that have the same below a plugin give the same report of it
(`validate_congr`), and nothing that is done to other plugins changes its report
among those of all plugins (`reports_isolated`).
-/

set_option autoImplicit false

namespace PluginAudit

open FileTree (IsEntryName LinkFree ReadSame)

/-- Each of them is a name that an entry of a directory can have. -/
theorem isEntryName_of_mem {name : String} (among : name ∈ Layout.standard.files) :
    IsEntryName name where
  noSlash := (by decide +kernel : ∀ name ∈ Layout.standard.files, '/' ∉ name.toList) name among
  named := (by decide +kernel : ∀ name ∈ Layout.standard.files, name.toList ≠ []) name among
  isName :=
    (by decide +kernel : ∀ name ∈ Layout.standard.files, Path.step name = .name name) name among
  short :=
    (by decide +kernel : ∀ name ∈ Layout.standard.files,
      name.utf8ByteSize ≤ FileTree.nameLimit) name among

namespace Validator

/-! ## What each check reads -/

section Checks

variable {validator : Validator} {tree tree' : FileTree} {plugin : Path} {id : String}

theorem checkManifest_congr
    (same : ReadSame tree tree' (plugin.join validator.layout.manifest)) :
    validator.checkManifest tree id plugin = validator.checkManifest tree' id plugin := by
  have read : Manifest.read tree (plugin.join validator.layout.manifest) =
      Manifest.read tree' (plugin.join validator.layout.manifest) := by
    rw [Manifest.read, Manifest.read, same.has, same.readText]
  delta checkManifest
  rw [read]

theorem structure_congr {layout : Layout} {manifest : Option Manifest}
    (same : ∀ file ∈ layout.files,
      tree.has (plugin.join file) = tree'.has (plugin.join file)) :
    Structure.check layout tree plugin manifest = Structure.check layout tree' plugin manifest := by
  simp only [Layout.files, List.forall_mem_cons] at same
  obtain ⟨atManifest, primary, routing, description, -⟩ := same
  simp only [Structure.check, Layout.requiredFiles, Layout.recommendedFiles, List.filter_cons,
    List.filter_nil, atManifest, primary, routing, description]

theorem contract_congr {layout : Layout} {hooks : List String}
    (same : ReadSame tree tree' (plugin.join layout.primaryModule)) :
    ModuleContract.checkPlugin layout tree plugin hooks =
      ModuleContract.checkPlugin layout tree' plugin hooks := by
  rw [ModuleContract.checkPlugin, ModuleContract.checkPlugin, same.has, same.readText]

theorem dependencies_congr {layout : Layout} {rules : Rules}
    (same : ReadSame tree tree' (plugin.join layout.dependencyManifest)) :
    Dependencies.audit layout rules tree plugin = Dependencies.audit layout rules tree' plugin ∧
      Dependencies.auditDangerous layout rules tree plugin =
        Dependencies.auditDangerous layout rules tree' plugin := by
  have declared : Dependencies.ofPlugin? layout tree plugin =
      Dependencies.ofPlugin? layout tree' plugin := by
    rw [Dependencies.ofPlugin?, Dependencies.ofPlugin?, same.has, same.readText]
  delta Dependencies.audit Dependencies.auditDangerous
  rw [declared]
  exact ⟨rfl, rfl⟩

/-- **Validation reads no more** than the well-known files and the modules of a scan. -/
theorem findings_congr
    (same : ∀ file ∈ validator.layout.files, ReadSame tree tree' (plugin.join file))
    (modules : Scan.checkModules validator.rules tree plugin =
      Scan.checkModules validator.rules tree' plugin) :
    validator.findings tree id plugin = validator.findings tree' id plugin := by
  have manifest := same validator.layout.manifest (by simp [Layout.files])
  have contract := same validator.layout.primaryModule (by simp [Layout.files])
  have dependencies := same validator.layout.dependencyManifest (by simp [Layout.files])
  rw [findings_eq, findings_eq, checkManifest_congr manifest,
    structure_congr fun file among => (same file among).has, contract_congr contract,
    Scan.checkPlugin, Scan.checkPlugin, modules, (dependencies_congr dependencies).1,
    (dependencies_congr dependencies).2]

end Checks

/-! ## One plugin -/

/-- **What is not below a plugin does not change its report.** -/
theorem validate_congr {rules : Rules} {tree tree' : FileTree} (distinct : tree.root.Distinct)
    (distinct' : tree'.root.Distinct) {plugin : Path} {place place' : List String}
    (free : tree.LinkFree plugin place) (leads : tree'.Leads true plugin place')
    (same : ∀ more, tree.view (place ++ more) = tree'.view (place' ++ more)) (id : String) :
    Validator.validate ⟨rules, .standard⟩ tree id plugin =
      Validator.validate ⟨rules, .standard⟩ tree' id plugin := by
  have free' := free.of_same leads fun more => FileTree.look_of_view (same more)
  have modules : Scan.checkModules rules tree plugin = Scan.checkModules rules tree' plugin := by
    apply Scan.checkModules_congr free free' distinct distinct'
    intro first second isAt isAt' more
    exact .of_view isAt isAt' (same more)
  have findings : Validator.findings ⟨rules, .standard⟩ tree id plugin =
      Validator.findings ⟨rules, .standard⟩ tree' id plugin := by
    refine findings_congr ?_ modules
    intro file among
    exact free.readSame free' (isEntryName_of_mem among) (same [file])
  rw [validate, validate, if_pos free.isDirectory, if_pos free'.isDirectory, findings]

/-! ## All plugins -/

/-- **Plugins are isolated from each other.** A plugin below whose directory there are no links
has the same report in two file trees that have the same below that directory, whatever else is in
them. So if a directory holds plugins of the same ids in two trees, each plugin below which
nothing differs has one report under its id when all plugins are validated, and that is the same
in both, whatever has become of the others. -/
theorem reports_isolated {rules : Rules} {tree tree' : FileTree} (distinct : tree.root.Distinct)
    (distinct' : tree'.root.Distinct) :
    (∀ id plugin place place', tree.LinkFree plugin place → tree'.Leads true plugin place' →
      (∀ more, tree.view (place ++ more) = tree'.view (place' ++ more)) →
        Validator.validate ⟨rules, .standard⟩ tree id plugin =
          Validator.validate ⟨rules, .standard⟩ tree' id plugin) ∧
    ∀ plugins found found', Plugin.discover tree plugins = .ok found →
      Plugin.discover tree' plugins = .ok found' → found.map (·.id) = found'.map (·.id) →
      ∀ plugin ∈ found, ∀ place place', tree.LinkFree plugin.path place →
        tree'.Leads true plugin.path place' →
        (∀ more, tree.view (place ++ more) = tree'.view (place' ++ more)) →
          ∃ report summary summary',
            Validator.validate ⟨rules, .standard⟩ tree plugin.id plugin.path = .ok report ∧
            Validator.validateAll ⟨rules, .standard⟩ tree plugins = .ok summary ∧
            Validator.validateAll ⟨rules, .standard⟩ tree' plugins = .ok summary' ∧
            summary.reports.filter (·.pluginId == plugin.id) = [report] ∧
            summary'.reports.filter (·.pluginId == plugin.id) = [report] := by
  constructor
  · intro id plugin place place' free leads same
    exact validate_congr distinct distinct' free leads same id
  · intro plugins found found' ran ran' ids plugin among place place' free leads same
    obtain rfl := Plugin.discover_ext ran ran' ids
    have nodup := Plugin.nodup_discover distinct ran
    have validated : Validator.validate ⟨rules, .standard⟩ tree plugin.id plugin.path =
        .ok ⟨plugin.id, plugin.path.text,
          Validator.findings ⟨rules, .standard⟩ tree plugin.id plugin.path⟩ := by
      rw [validate, if_pos free.isDirectory]
    refine ⟨_, _, _, validated, congrArg (Except.map _) ran, congrArg (Except.map _) ran',
      reports_of_id nodup among validated, reports_of_id nodup among ?_⟩
    rw [← validate_congr distinct distinct' free leads same]
    exact validated

/-- A directory of two plugins, of which the second one is given. -/
def besidePlugin (second : FileTree.Node) : FileTree :=
  { root := .directory [("ps", .directory
      [("a", .directory [("index.js", .file "eval(x);".toUTF8)]), ("b", second)])]
    workplace := [] }

theorem distinct_besidePlugin {second : FileTree.Node} (distinct : second.Distinct) :
    (besidePlugin second).root.Distinct := by
  refine .of_entries (by simp [besidePlugin, FileTree.Node.entries]) ?_
  simp only [besidePlugin, FileTree.Node.entries, List.forall_mem_singleton]
  refine .of_entries (by simp) ?_
  simp only [FileTree.Node.entries, List.forall_mem_cons]
  refine ⟨.of_entries (by simp) ?_, distinct, List.forall_mem_nil _⟩
  simp only [FileTree.Node.entries, List.forall_mem_singleton]
  exact .of_file List.nodup_nil

theorem leads_besidePlugin (second : FileTree.Node) :
    (besidePlugin second).Leads true ⟨"ps"⟩ ["ps"] ∧
      (besidePlugin second).Leads true ⟨"ps/a"⟩ ["ps", "a"] := by
  have atTop : (besidePlugin second).root.look ([] ++ ["ps"]) = some .directory := rfl
  have below : (besidePlugin second).root.look (["ps"] ++ ["a"]) = some .directory := rfl
  refine ⟨⟨by decide, 0, by decide, ?_⟩, ⟨by decide, 0, by decide, ?_⟩⟩
  · rw [show FileTree.pathSteps ⟨"ps"⟩ = [.name "ps"] by decide]
    exact .enter rfl (by decide) atTop nofun (.done atTop)
  · rw [show FileTree.pathSteps ⟨"ps/a"⟩ = [.name "ps", .name "a"] by decide]
    exact .enter rfl (by decide) atTop nofun (.enter rfl (by decide) below nofun (.done below))

theorem discover_besidePlugin {second : FileTree.Node} (isDirectory :
    (besidePlugin second).isDirectory ⟨"ps/a"⟩ = true ∧
      (besidePlugin second).isDirectory ⟨"ps/b"⟩ = true) :
    Plugin.discover (besidePlugin second) ⟨"ps"⟩ = .ok [⟨"a", ⟨"ps/a"⟩⟩, ⟨"b", ⟨"ps/b"⟩⟩] := by
  have located := FileTree.locate_ok_iff.mpr ⟨(leads_besidePlugin second).1, rfl⟩
  have joined : (⟨"ps"⟩ : Path).join "a" = ⟨"ps/a"⟩ ∧ (⟨"ps"⟩ : Path).join "b" = ⟨"ps/b"⟩ := by
    decide
  rw [← joined.1, ← joined.2] at isDirectory ⊢
  exact Plugin.discover_pair located rfl (by decide) (by decide) isDirectory

/-- **A damaged manifest beside it** does not change what is said about a plugin. -/
theorem damaged_neighbour_changes_nothing :
    ∃ (rules : Rules) (second second' : FileTree.Node) (report : Report)
      (summary summary' : Summary), second.look ["settings.json"] ≠ second'.look ["settings.json"] ∧
      Validator.validateAll ⟨rules, .standard⟩ (besidePlugin second) ⟨"ps"⟩ = .ok summary ∧
      Validator.validateAll ⟨rules, .standard⟩ (besidePlugin second') ⟨"ps"⟩ = .ok summary' ∧
      summary.reports.filter (·.pluginId == "a") = [report] ∧
      summary'.reports.filter (·.pluginId == "a") = [report] := by
  let second : FileTree.Node := .directory []
  let second' : FileTree.Node := .directory [("settings.json", .file "?".toUTF8)]
  have distinct : second.Distinct := .of_entries List.nodup_nil (List.forall_mem_nil _)
  have distinct' : second'.Distinct := by
    refine .of_entries (by simp [second', FileTree.Node.entries]) ?_
    simp only [second', FileTree.Node.entries, List.forall_mem_singleton]
    exact .of_file List.nodup_nil
  have free : (besidePlugin second).LinkFree ⟨"ps/a"⟩ ["ps", "a"] := by
    have noLinks : (FileTree.Node.directory [("index.js", .file "eval(x);".toUTF8)]).NoLinks := by
      refine .of_entries (by simp) ?_
      simp only [FileTree.Node.entries, List.forall_mem_singleton]
      exact .of_file (by simp)
    refine ⟨(leads_besidePlugin second).2, rfl, fun more target => ?_⟩
    have below := @FileTree.Node.look_append (besidePlugin second).root _ ["ps", "a"] rfl more
    rw [FileTree.look, below]
    exact noLinks.look more target
  obtain ⟨-, all⟩ := @reports_isolated ⟨.standard, [], []⟩ _ _ (distinct_besidePlugin distinct)
    (distinct_besidePlugin distinct')
  obtain ⟨report, summary, summary', -, ran, ran', own, own'⟩ :=
    all ⟨"ps"⟩ _ _ (discover_besidePlugin (by decide +kernel))
      (discover_besidePlugin (by decide +kernel)) rfl ⟨"a", ⟨"ps/a"⟩⟩ List.mem_cons_self
      ["ps", "a"] ["ps", "a"] free (leads_besidePlugin second').2 fun more => rfl
  exact ⟨_, second, second', report, summary, summary', by decide, ran, ran', own, own'⟩

end Validator

end PluginAudit
