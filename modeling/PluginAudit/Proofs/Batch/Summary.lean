import PluginAudit.Batch
import PluginAudit.Proofs.FileTree.Below

/-!
# Plugins of a directory and their summary

The plugins of a directory have different ids (`Plugin.nodup_discover`), and their
paths follow from these (`Plugin.discover_ext`).

The summary of plugins tells of each of them once, either in a report or as one
that could not be validated (`total_validateEach`). Its exit status is zero
exactly when every plugin has a report that passes
(`exitCode_validateEach_eq_zero`), and each report stands under the id of its
plugin, whatever becomes of the others (`reports_of_id`).
-/

set_option autoImplicit false

namespace PluginAudit

/-! ## Plugins of a directory -/

namespace Plugin

variable {tree : FileTree} {plugins : Path} {found : List Plugin}

/-- The plugins of a directory that is listed to its end are directories in it. -/
theorem discover_of_located {place : List String} {entries : List (String × FileTree.Node)}
    (located : tree.locate true plugins = .ok (place, .directory entries))
    (listed : (tree.reading place).fault? = none) :
    discover tree plugins = .ok (((FileTree.Node.byName entries).map fun entry =>
      (⟨entry.1, plugins.join entry.1⟩ : Plugin)).filter fun plugin =>
        tree.isDirectory plugin.path && !isReserved plugin.id) := by
  rw [discover, FileTree.list, located]
  simp only [bind, Except.bind, listed]
  rfl

/-- A directory that is not listed to its end has no plugins. -/
theorem discover_of_fault {place : List String} {entries : List (String × FileTree.Node)}
    (located : tree.locate true plugins = .ok (place, .directory entries))
    {fault : FileTree.Fault} (refused : (tree.reading place).fault? = some fault) :
    discover tree plugins = .error (.io fault.message) := by
  rw [discover, FileTree.list, located]
  simp only [bind, Except.bind, refused]
  rfl

/-- Two directories in the order of their names are plugins. -/
theorem discover_pair {place : List String} {id id' : String} {first second : FileTree.Node}
    (located : tree.locate true plugins = .ok (place, .directory [(id, first), (id', second)]))
    (listed : (tree.reading place).fault? = none) (ordered : ¬ id' < id)
    (named : isReserved id = false ∧ isReserved id' = false)
    (isDirectory : tree.isDirectory (plugins.join id) = true ∧
      tree.isDirectory (plugins.join id') = true) :
    discover tree plugins = .ok [⟨id, plugins.join id⟩, ⟨id', plugins.join id'⟩] := by
  rw [discover_of_located located listed, FileTree.Node.byName_pair ordered]
  simp [named, isDirectory]

/-- Only a directory that is listed to its end has plugins. -/
theorem discover_ok (ran : discover tree plugins = .ok found) :
    ∃ place entries, tree.locate true plugins = .ok (place, .directory entries) ∧
      (tree.reading place).fault? = none ∧ found = ((FileTree.Node.byName entries).map fun entry =>
        (⟨entry.1, plugins.join entry.1⟩ : Plugin)).filter fun plugin =>
          tree.isDirectory plugin.path && !isReserved plugin.id := by
  rcases located : tree.locate true plugins with fault | ⟨place, node⟩
  · simp [discover, FileTree.list, located, bind, Except.bind, Except.mapError] at ran
  · cases node with
    | directory entries =>
      cases listed : (tree.reading place).fault? with
      | none =>
        refine ⟨place, entries, rfl, listed, Except.ok.inj (ran.symm.trans ?_)⟩
        exact discover_of_located located listed
      | some fault =>
        rw [discover_of_fault located listed] at ran
        cases ran
    | file bytes =>
      simp [discover, FileTree.list, located, bind, Except.bind, Except.mapError] at ran
    | link target =>
      simp [discover, FileTree.list, located, bind, Except.bind, Except.mapError] at ran

/-- The path of a plugin follows from its id, and leads to a directory. -/
theorem path_of_mem_discover (ran : discover tree plugins = .ok found) {plugin : Plugin}
    (among : plugin ∈ found) :
    plugin.path = plugins.join plugin.id ∧ tree.isDirectory plugin.path = true := by
  obtain ⟨place, entries, -, -, rfl⟩ := discover_ok ran
  obtain ⟨isOne, isDirectory⟩ := List.mem_filter.mp among
  obtain ⟨entry, -, rfl⟩ := List.mem_map.mp isOne
  exact ⟨rfl, (Bool.and_eq_true_iff.mp isDirectory).1⟩

/-- **The plugins of a directory have different ids.** -/
theorem nodup_discover (distinct : tree.root.Distinct)
    (ran : discover tree plugins = .ok found) : (found.map (·.id)).Nodup := by
  obtain ⟨place, entries, located, -, rfl⟩ := discover_ok ran
  obtain ⟨-, isAt⟩ := FileTree.locate_ok_iff.mp located
  have nodup : ((FileTree.Node.byName entries).map (·.1)).Nodup := by
    refine (List.Perm.nodup_iff ?_).mpr (FileTree.Node.Distinct.nodup (distinct.at? isAt))
    exact (List.mergeSort_perm _ _).map _
  refine List.Nodup.sublist (List.filter_sublist.map _) ?_
  rw [List.map_map]
  exact nodup

/-- The plugins of a directory are in the order of their ids. -/
theorem pairwise_discover (ran : discover tree plugins = .ok found) :
    (found.map (·.id)).Pairwise (· ≤ ·) := by
  obtain ⟨place, entries, -, -, rfl⟩ := discover_ok ran
  refine List.Pairwise.sublist (List.filter_sublist.map _) ?_
  rw [List.map_map]
  exact List.pairwise_map.mpr (FileTree.Node.pairwise_byName entries)

/-- A plugin of a directory has an entry there. -/
theorem mem_discover_iff (distinct : tree.root.Distinct) {place : List String}
    {entries : List (String × FileTree.Node)}
    (located : tree.locate true plugins = .ok (place, .directory entries))
    (ran : discover tree plugins = .ok found) {id : String} :
    id ∈ found.map (·.id) ↔ tree.look (place ++ [id]) ≠ none ∧
      tree.isDirectory (plugins.join id) = true ∧ isReserved id = false := by
  obtain ⟨place', entries', located', -, rfl⟩ := discover_ok ran
  obtain ⟨rfl, same⟩ := Prod.mk.inj (Except.ok.inj (located.symm.trans located'))
  obtain rfl := FileTree.Node.directory.inj same
  obtain ⟨-, isAt⟩ := FileTree.locate_ok_iff.mp located
  have isEntry : tree.look (place ++ [id]) ≠ none ↔ ∃ node, (id, node) ∈ entries := by
    have nodup := FileTree.Node.Distinct.nodup (distinct.at? isAt)
    simp only [FileTree.Node.mem_entries_iff nodup, ← Option.ne_none_iff_exists']
    rw [FileTree.look, FileTree.Node.look, FileTree.Node.at?_snoc, isAt]
    exact not_congr Option.map_eq_none_iff
  rw [isEntry]
  simp [FileTree.Node.byName]

/-- **The ids of the plugins of a directory tell the plugins.** -/
theorem discover_ext {tree' : FileTree} {found' : List Plugin}
    (ran : discover tree plugins = .ok found) (ran' : discover tree' plugins = .ok found')
    (same : found.map (·.id) = found'.map (·.id)) : found = found' := by
  have told {tree : FileTree} {found : List Plugin} (ran : discover tree plugins = .ok found) :
      found = (found.map (·.id)).map fun id => ⟨id, plugins.join id⟩ := by
    rw [List.map_map]
    refine (List.map_id' found).symm.trans (List.map_congr_left fun plugin among => ?_)
    obtain ⟨path, -⟩ := path_of_mem_discover ran among
    rw [Function.comp_apply, ← path]
  rw [told ran, told ran', same]

end Plugin

/-! ## Summaries -/

namespace Summary

theorem passed_le_total (summary : Summary) : summary.passed ≤ summary.total :=
  Nat.le_trans (List.length_filter_le _ _) (Nat.le_add_right _ _)

/-- Every plugin of a summary passes or fails. -/
theorem passed_add_failed (summary : Summary) :
    summary.passed + summary.failed = summary.total :=
  Nat.add_sub_cancel' summary.passed_le_total

/-- The exit status is zero when all plugins could be validated and pass. -/
theorem exitCode_eq_zero (summary : Summary) :
    summary.exitCode = 0 ↔
      summary.unvalidated = [] ∧ ∀ report ∈ summary.reports, report.verdict.isPassing := by
  have passing := List.length_filter_eq_length_iff (p := fun report : Report =>
    report.verdict.isPassing) (l := summary.reports)
  have le := List.length_filter_le (fun report : Report => report.verdict.isPassing)
    summary.reports
  have none := List.length_eq_zero_iff (l := summary.unvalidated)
  rw [← passing, ← none, exitCode, failed, total, passed]
  split <;> omega

/-- The exit status is zero or one. -/
theorem exitCode_le_one (summary : Summary) : summary.exitCode ≤ 1 := by
  rw [exitCode]
  split <;> decide

end Summary

namespace Validator

variable (validator : Validator) (tree : FileTree) (plugins : List Plugin)

theorem reports_append (more : List Plugin) :
    (validator.validateEach tree (plugins ++ more)).reports =
      (validator.validateEach tree plugins).reports ++ (validator.validateEach tree more).reports :=
  List.filterMap_append

theorem mem_reports_validateEach {report : Report} :
    report ∈ (validator.validateEach tree plugins).reports ↔
      ∃ plugin ∈ plugins, validator.validate tree plugin.id plugin.path = .ok report := by
  rw [validateEach, List.mem_filterMap]
  refine exists_congr fun plugin => and_congr_right fun _ => ?_
  cases validator.validate tree plugin.id plugin.path <;> simp [Except.toOption]

theorem unvalidated_validateEach_eq_nil :
    (validator.validateEach tree plugins).unvalidated = [] ↔
      ∀ plugin ∈ plugins, ∃ report,
        validator.validate tree plugin.id plugin.path = .ok report := by
  rw [validateEach, List.filterMap_eq_nil_iff]
  refine forall₂_congr fun plugin _ => ?_
  cases validator.validate tree plugin.id plugin.path <;> simp

/-- The plugins that could not be validated stand in their order in the summary. -/
theorem unvalidated_validateEach :
    (validator.validateEach tree plugins).unvalidated.map (·.pluginId) =
      (plugins.filter fun plugin =>
        !(validator.validate tree plugin.id plugin.path).isOk).map (·.id) := by
  induction plugins with
  | nil => rfl
  | cons plugin rest ih =>
    rw [validateEach] at ih ⊢
    dsimp only at ih ⊢
    rw [List.filterMap_cons, List.filter_cons]
    cases validator.validate tree plugin.id plugin.path with
    | ok report => exact ih
    | error failure => exact congrArg (plugin.id :: ·) ih

/-- **A summary tells of every plugin once.** -/
theorem total_validateEach : (validator.validateEach tree plugins).total = plugins.length := by
  induction plugins with
  | nil => rfl
  | cons plugin rest ih =>
    rw [Summary.total, validateEach] at ih ⊢
    dsimp only at ih ⊢
    rw [List.filterMap_cons, List.filterMap_cons, List.length_cons, ← ih]
    cases validator.validate tree plugin.id plugin.path with
    | ok report => exact Nat.add_right_comm _ 1 _
    | error failure => exact (Nat.add_assoc _ _ 1).symm

/-- **The exit status is zero exactly when every plugin has a report that passes.** -/
theorem exitCode_validateEach_eq_zero :
    (validator.validateEach tree plugins).exitCode = 0 ↔
      ∀ plugin ∈ plugins, ∃ report,
        validator.validate tree plugin.id plugin.path = .ok report ∧
          report.verdict.isPassing := by
  simp only [Summary.exitCode_eq_zero, unvalidated_validateEach_eq_nil, mem_reports_validateEach]
  constructor
  · rintro ⟨validated, pass⟩ plugin among
    obtain ⟨report, ran⟩ := validated plugin among
    exact ⟨report, ran, pass report ⟨plugin, among, ran⟩⟩
  · intro all
    constructor
    · intro plugin among
      obtain ⟨report, ran, -⟩ := all plugin among
      exact ⟨report, ran⟩
    · rintro report ⟨plugin, among, ran⟩
      obtain ⟨report', ran', passes⟩ := all plugin among
      rw [ran] at ran'
      rwa [Except.ok.inj ran']

variable {validator tree plugins} in
/-- A report is under the id of its plugin. -/
theorem pluginId_of_validate {id : String} {path : Path} {report : Report}
    (ran : validator.validate tree id path = .ok report) : report.pluginId = id := by
  rw [validate] at ran
  split at ran
  · rw [← Except.ok.inj ran]
  · cases ran

variable {validator tree plugins} in
/-- **The report of a plugin is the one under its id,** whatever becomes of the other plugins. -/
theorem reports_of_id (nodup : (plugins.map (·.id)).Nodup) {plugin : Plugin}
    (among : plugin ∈ plugins) {report : Report}
    (ran : validator.validate tree plugin.id plugin.path = .ok report) :
    (validator.validateEach tree plugins).reports.filter (·.pluginId == plugin.id) = [report] := by
  obtain ⟨before, after, rfl⟩ := List.append_of_mem among
  have others {part : List Plugin} (apart : plugin.id ∉ part.map (·.id)) :
      (validator.validateEach tree part).reports.filter (·.pluginId == plugin.id) = [] := by
    refine List.filter_eq_nil_iff.mpr fun other isOne same => ?_
    obtain ⟨source, isSource, validated⟩ := (mem_reports_validateEach ..).mp isOne
    refine apart (List.mem_map.mpr ⟨source, isSource, ?_⟩)
    rw [← pluginId_of_validate validated]
    simpa using same
  rw [List.map_append, List.map_cons, List.nodup_append, List.nodup_cons] at nodup
  obtain ⟨-, ⟨notAfter, -⟩, apart⟩ := nodup
  have notBefore : plugin.id ∉ before.map (·.id) :=
    fun isBefore => apart _ isBefore _ List.mem_cons_self rfl
  have own : (validator.validateEach tree [plugin]).reports = [report] := by
    simp [validateEach, ran, Except.toOption]
  rw [reports_append, List.filter_append, others notBefore, ← List.singleton_append,
    reports_append, List.filter_append, own, others notAfter]
  simp [pluginId_of_validate ran]

end Validator

end PluginAudit
