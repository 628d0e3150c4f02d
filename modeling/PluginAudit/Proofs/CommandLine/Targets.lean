import PluginAudit.Proofs.CommandLine.Deciding
import PluginAudit.Proofs.FileTree.Naming
import PluginAudit.Proofs.Scan.Occurrences

/-!
# Three ways to a plugin

A plugin that is found in the directory of all plugins can be validated with all
others, at its path or under its id. Its path tells its id
(`idOfPath_of_mem_discover`), and its id tells its path unless a backslash is in
it (`pathOfId_of_mem_discover`). So all three ways give the same report
(`targets_agree`), but for an id with a backslash, which a directory can have as
its name, and which is refused as an id (`backslashed_id_is_refused`).
-/

set_option autoImplicit false

namespace PluginAudit

open FileTree (IsEntryName)

/-! ## Names and ids -/

/-- A name behind a path is the name to which it leads. -/
theorem Path.fileName?_join {path : Path} (written : path.text.toList ≠ []) {name : String}
    (isName : IsEntryName name) : (path.join name).fileName? = some name := by
  have last : (path.join name).components.getLast? = some (.name name) := by
    rw [Path.components_eq, Path.steps_join written isName.noSlash isName.named, isName.isName,
      List.filter_append, ← List.append_assoc]
    exact List.getLast?_concat
  rw [Path.fileName?, last]

namespace Plugin

/-- An entry of a directory has an id that is the name of one, unless a backslash is in it. -/
theorem isName_iff {name : String} (isEntry : IsEntryName name) :
    isName name = true ↔ '\\' ∉ name.toList := by
  have written : name.isEmpty = false := by
    simpa [String.isEmpty_iff] using isEntry.named
  have notHere : name ≠ "." := by
    rintro rfl
    exact nomatch isEntry.isName
  have notUp : name ≠ ".." := by
    rintro rfl
    exact nomatch isEntry.isName
  simp [isName, written, notHere, notUp, isEntry.noSlash]

variable {tree : FileTree} {plugins : Path} {found : List Plugin} {plugin : Plugin}

/-- A plugin that is found has the name of an entry. -/
theorem isEntryName_of_mem_discover (named : tree.WellNamed)
    (ran : discover tree plugins = .ok found) (among : plugin ∈ found) :
    IsEntryName plugin.id := by
  obtain ⟨place, entries, located, -, rfl⟩ := discover_ok ran
  obtain ⟨-, isAt⟩ := FileTree.locate_ok_iff.mp located
  obtain ⟨isOne, -⟩ := List.mem_filter.mp among
  obtain ⟨entry, isEntry, rfl⟩ := List.mem_map.mp isOne
  exact named.isEntryName isAt (List.mem_mergeSort.mp isEntry)

/-- **The path of a plugin that is found tells its id.** -/
theorem idOfPath_of_mem_discover (named : tree.WellNamed)
    (ran : discover tree plugins = .ok found) (among : plugin ∈ found) :
    idOfPath tree plugin.path = plugin.id := by
  obtain ⟨_, _, located, -⟩ := discover_ok ran
  have written := (FileTree.locate_ok_iff.mp located).1.written
  have isEntry := isEntryName_of_mem_discover named ran among
  rw [idOfPath, (path_of_mem_discover ran among).1, Path.fileName?_join written isEntry]

/-- **The id of a plugin that is found tells its path,** unless a backslash is in it. -/
theorem pathOfId_of_mem_discover (named : tree.WellNamed)
    (ran : discover tree plugins = .ok found) (among : plugin ∈ found) :
    pathOfId plugins plugin.id =
      if '\\' ∈ plugin.id.toList then .error (.invalidId plugin.id) else .ok plugin.path := by
  have isEntry := isName_iff (isEntryName_of_mem_discover named ran among)
  rw [pathOfId, (path_of_mem_discover ran among).1]
  by_cases backslash : '\\' ∈ plugin.id.toList <;> simp [isEntry, backslash]

end Plugin

/-! ## Reports -/

namespace CommandLine

variable {validator : Validator} {call : Call} {tree : FileTree} {found : List Plugin}
  {plugin : Plugin}

/-- What is found is a directory, so it has a report, which is under its id in the summary. -/
theorem report_of_mem_discover (distinct : tree.root.Distinct)
    (ran : Plugin.discover tree call.plugins = .ok found) (among : plugin ∈ found) :
    ∃ summary report, validator.validateAll tree call.plugins = .ok summary ∧
      validator.validate tree plugin.id plugin.path = .ok report ∧
      summary.reports.filter (·.pluginId == plugin.id) = [report] := by
  have isDirectory := (Plugin.path_of_mem_discover ran among).2
  have validated : validator.validate tree plugin.id plugin.path =
      .ok ⟨plugin.id, plugin.path.text, validator.findings tree plugin.id plugin.path⟩ := by
    rw [Validator.validate, if_pos isDirectory]
  refine ⟨validator.validateEach tree found, _, ?_, validated, ?_⟩
  · rw [validateAll_eq, ran]
    rfl
  · exact Validator.reports_of_id (Plugin.nodup_discover distinct ran) among validated

/-- **All three ways to a plugin agree.** The path of a plugin that is found tells its id, and a
call for that path decides and shows what its report says, which is the one under its id in the
summary of all plugins. If no backslash is in its id, the id tells the path, and a call for the id
does the same as the call for the path; otherwise the id is refused. -/
theorem targets_agree (named : tree.WellNamed)
    (ran : Plugin.discover tree call.plugins = .ok found) (among : plugin ∈ found) :
    Plugin.idOfPath tree plugin.path = plugin.id ∧
    (∃ summary report, validator.validateAll tree call.plugins = .ok summary ∧
      summary.reports.filter (·.pluginId == plugin.id) = [report] ∧
      validator.validatePath tree plugin.path = .ok report ∧
      ∀ now register,
        ((validateTarget validator now call (.path plugin.path) register).run tree).1.shown =
          (if report.verdict.isPassing then 0 else 1,
            match call.format with
            | .text => report.render
            | .json => printed report.toJson)) ∧
    if '\\' ∈ plugin.id.toList then
      Plugin.pathOfId call.plugins plugin.id = .error (.invalidId plugin.id)
    else
      Plugin.pathOfId call.plugins plugin.id = .ok plugin.path ∧
      ∀ now register, (validateTarget validator now call (.id plugin.id) register).run tree =
        (validateTarget validator now call (.path plugin.path) register).run tree := by
  have isId := Plugin.idOfPath_of_mem_discover named ran among
  obtain ⟨summary, report, all, validated, own⟩ :=
    report_of_mem_discover named.distinct ran among
  refine ⟨isId, ⟨summary, report, all, own, ?_, fun now register => ?_⟩, ?_⟩
  · rw [Validator.validatePath, isId, validated]
  · rw [run_validateTarget]
    dsimp only
    rw [run_validateOne, isId, validated]
    rfl
  · have isPath := Plugin.pathOfId_of_mem_discover named ran among
    split
    · next backslash => rw [isPath, if_pos backslash]
    · next clear =>
      rw [if_neg clear] at isPath
      refine ⟨isPath, fun now register => ?_⟩
      rw [run_validateTarget, run_validateTarget]
      dsimp only
      rw [isPath, isId]

/-! ## A backslash in an id -/

/-- A tree with two plugins, one of which has a backslash in its name. -/
def backslashed : FileTree := .emptyDirectories "ps" ["a", "a\\b"]

theorem discover_backslashed :
    Plugin.discover backslashed ⟨"ps"⟩ = .ok [⟨"a", ⟨"ps/a"⟩⟩, ⟨"a\\b", ⟨"ps/a\\b"⟩⟩] := by
  have located : backslashed.locate true ⟨"ps"⟩ =
      .ok (["ps"], .directory [("a", .directory []), ("a\\b", .directory [])]) := rfl
  exact Plugin.discover_pair located rfl (by decide) (by decide) ⟨rfl, rfl⟩

/-- A call that validates the plugins in that tree. -/
def backslashedCall : Call where
  command := .validate .all false
  plugins := ⟨"ps"⟩
  registry := none
  rules := none
  jobs := none
  format := .json
  verbosity := 0

/-- The plugin without a backslash is reached in all three ways. -/
theorem plain_id_is_accepted :
    ∃ rules, Rules.ofDocument .standard = .ok rules ∧
      Plugin.idOfPath backslashed ⟨"ps/a"⟩ = "a" ∧
      Plugin.pathOfId ⟨"ps"⟩ "a" = .ok ⟨"ps/a"⟩ ∧
      ∃ summary report, Validator.validateAll ⟨rules, .standard⟩ backslashed ⟨"ps"⟩ = .ok summary ∧
        summary.reports.filter (·.pluginId == "a") = [report] ∧
        Validator.validatePath ⟨rules, .standard⟩ backslashed ⟨"ps/a"⟩ = .ok report := by
  obtain ⟨rules, isStandard, -⟩ := Scan.standard_holds (fun _ => true) (by decide +kernel)
  have named : backslashed.WellNamed :=
    FileTree.wellNamed_emptyDirectories (by decide +kernel) (by decide) (by decide +kernel)
  have ran : Plugin.discover backslashed backslashedCall.plugins = _ := discover_backslashed
  obtain ⟨isId, ⟨summary, report, all, own, validated, -⟩, isPath⟩ :=
    @targets_agree ⟨rules, .standard⟩ backslashedCall _ _ _ named ran List.mem_cons_self
  rw [if_neg (by decide +kernel)] at isPath
  exact ⟨rules, isStandard, isId, isPath.1, summary, report, all, own, validated⟩

/-- **A plugin can be found whose id is refused.** -/
theorem backslashed_id_is_refused :
    ∃ found, Plugin.discover backslashed ⟨"ps"⟩ = .ok found ∧
      ⟨"a\\b", ⟨"ps/a\\b"⟩⟩ ∈ found ∧
      Plugin.pathOfId ⟨"ps"⟩ "a\\b" = .error (.invalidId "a\\b") :=
  ⟨_, discover_backslashed, by simp, rfl⟩

end CommandLine

end PluginAudit
