import PluginAudit.Proofs.CommandLine.Deciding
import PluginAudit.Proofs.Registry.Recording
import PluginAudit.Proofs.Registry.Resaving

/-!
# What a validation records

A call that registers puts the plugins that pass into the registry, one after
the other. When it says of each that it has been added, the registry is what
registrations record in turn (`mapM_registerPassing_records`).
-/

set_option autoImplicit false

namespace PluginAudit.CommandLine

open PluginAudit.FileTree (Aside)
open PluginAudit.Registry (Entry Records)

/-! ## One plugin after the other -/

/-- What is said about a plugin that has been registered. -/
def added (registry : Path) (id : String) : String :=
  "Plugin " ++ id ++ " added to registry " ++ registry.text ++ "\n"

section Registering

variable {rules : Rules} {now : Instant} {registry : Path}

theorem run_registerPassing (validator : Validator) (now : Instant) (registry : Path)
    (report : Report) (tree : FileTree) :
    (registerPassing validator now registry report).run tree =
      match (Registry.register registry report.pluginId (Entry.ofPlugin validator.layout tree
        ⟨report.pluginPath⟩ report.pluginId now)).run tree with
      | (.ok _, after) => (added registry report.pluginId, after)
      | (.error failure, after) =>
        (complaint ("failed to register " ++ report.pluginId ++ ": " ++ failure.message),
          after) := by
  unfold registerPassing
  rw [StateT.run_bind, StateT.run_get, pure_bind, StateT.run_bind]
  rcases ran : (Registry.register registry report.pluginId (Entry.ofPlugin validator.layout tree
    ⟨report.pluginPath⟩ report.pluginId now)).run tree with ⟨_ | _, after⟩ <;>
  · rw [StateT.run, ran]
    rfl

theorem run_mapM_cons {σ α β : Type} (doing : α → StateM σ β) (first : α) (rest : List α)
    (state : σ) :
    ((first :: rest).mapM doing).run state =
      let done := (doing first).run state
      let others := (rest.mapM doing).run done.2
      (done.1 :: others.1, others.2) := by
  rw [List.mapM_cons]
  rfl

/-- What is said of a plugin that could not be registered is said of none that has been. -/
theorem complaint_append_ne (message id others rest : String) :
    complaint message ++ others ≠ added registry id ++ rest := by
  intro same
  have first := congrArg (fun text : String => text.toList.head?) same
  simp only [complaint, programName, added, String.toList_append] at first
  simp at first

/-- The entries of plugins, each under its id. -/
def entriesOf (tree : FileTree) (now : Instant) (plugins : List Plugin) : List (String × Entry) :=
  plugins.map fun plugin =>
    (plugin.id, .ofPlugin .standard tree plugin.path plugin.id now)

/-- The entries of plugins with such reports. -/
def callsOf (tree : FileTree) (now : Instant) (reports : List Report) : List (String × Entry) :=
  reports.map fun report =>
    (report.pluginId, .ofPlugin .standard tree ⟨report.pluginPath⟩ report.pluginId now)

/-- **Registrations of which it is said that each has added its plugin record the plugins.** -/
theorem mapM_registerPassing_records {reports : List Report} {tree : FileTree}
    (noLinks : tree.root.NoLinks)
    (noDirectory : tree.look (tree.placeOf registry) ≠ some .directory)
    (aside : ∀ report ∈ reports, Aside (tree.placeOf registry) tree
      ((⟨report.pluginPath⟩ : Path).join Layout.standard.manifest))
    (said :
      String.join ((reports.mapM (registerPassing ⟨rules, .standard⟩ now registry)).run tree).1 =
        String.join (reports.map fun report => added registry report.pluginId)) :
    Records registry (callsOf tree now reports) tree
      ((reports.mapM (registerPassing ⟨rules, .standard⟩ now registry)).run tree).2 := by
  induction reports generalizing tree with
  | nil => exact .refl registry noLinks noDirectory
  | cons report rest ih =>
    rw [run_mapM_cons, run_registerPassing] at said ⊢
    rcases done : (Registry.register registry report.pluginId (Entry.ofPlugin .standard tree
      ⟨report.pluginPath⟩ report.pluginId now)).run tree with ⟨failure | _, between⟩ <;>
      rw [done] at said
    · dsimp only at said
      rw [String.join_cons, List.map_cons, String.join_cons] at said
      exact (complaint_append_ne _ _ _ _ said).elim
    · dsimp only at said ⊢
      rw [String.join_cons, List.map_cons, String.join_cons] at said
      have first := Registry.register_records noLinks done
      have samePlace := FileTree.placeOf_eq first.keeps.workplace registry
      -- The manifests of the other plugins are still read as before.
      have read : ∀ report ∈ rest, Aside (tree.placeOf registry) between
          ((⟨report.pluginPath⟩ : Path).join Layout.standard.manifest) ∧
          between.readText ((⟨report.pluginPath⟩ : Path).join Layout.standard.manifest) =
            tree.readText ((⟨report.pluginPath⟩ : Path).join Layout.standard.manifest) :=
        fun report among => (aside report (List.mem_cons_of_mem _ among)).readText_eq first.keeps
          noLinks noDirectory
      have sameCalls : callsOf between now rest = callsOf tree now rest := by
        refine List.map_congr_left fun report among => ?_
        rw [Entry.ofPlugin, Entry.ofPlugin, (read report among).2]
      rw [← samePlace] at read
      have later := ih first.noLinks (samePlace ▸ first.noDirectory)
        (fun report among => (read report among).1) ((String.append_right_inj _).mp said)
      rw [sameCalls] at later
      exact first.cons later

end Registering

/-! ## Calls that register -/

section Calls

variable {validator : Validator} {rules : Rules} {now : Instant} {call : Call} {tree : FileTree}

theorem run_registerAll (registry : Path) (reports : List Report) :
    (registerAll validator now (some registry) reports).run tree =
      let passing := reports.filter fun report => report.verdict.isPassing
      let registered := (passing.mapM (registerPassing validator now registry)).run tree
      (String.join registered.1, registered.2) := rfl

/-- A call that registers does so with all reports, and says no more than how that went. -/
theorem run_validateTarget_register {target : Target} {plugins : List Plugin}
    (targets : targeted tree call.plugins target = .ok plugins) :
    let reports := (validator.validateEach tree plugins).reports
    let registered := (registerAll validator now (some call.registryPath) reports).run tree
    let ran := (validateTarget validator now call target true).run tree
    ran.2 = registered.2 ∧ (reports ≠ [] → ran.1.errors = registered.1) := by
  have one {id : String} {plugin : Path} :
      let reports := (validator.validateEach tree [⟨id, plugin⟩]).reports
      let registered := (registerAll validator now (some call.registryPath) reports).run tree
      let ran := (validateOne validator now call (some call.registryPath) id plugin).run tree
      ran.2 = registered.2 ∧ (reports ≠ [] → ran.1.errors = registered.1) := by
    dsimp only
    rw [run_validateOne]
    cases ran : validator.validate tree id plugin with
    | error failure =>
      have none : (validator.validateEach tree [⟨id, plugin⟩]).reports = [] := by
        simp [Validator.validateEach, ran, Except.toOption]
      rw [none]
      exact ⟨rfl, fun some => absurd rfl some⟩
    | ok report =>
      have own : (validator.validateEach tree [⟨id, plugin⟩]).reports = [report] := by
        simp [Validator.validateEach, ran, Except.toOption]
      rw [own]
      exact ⟨rfl, fun _ => rfl⟩
  dsimp only
  rw [run_validateTarget]
  cases target with
  | all =>
    rw [targeted] at targets
    dsimp only
    rw [run_validateEvery, validateAll_eq, targets]
    exact ⟨rfl, fun _ => rfl⟩
  | id id =>
    rw [targeted] at targets
    dsimp only
    cases isPath : Plugin.pathOfId call.plugins id with
    | error failure =>
      rw [isPath] at targets
      cases targets
    | ok plugin =>
      rw [isPath] at targets
      obtain rfl := Except.ok.inj targets
      exact one
  | path plugin =>
    obtain rfl := Except.ok.inj targets
    exact one

/-- The manifest of a plugin that is accepted is not at a place outside its directory. -/
theorem aside_of_accepts {plugin : Plugin} {place : List String} (plain : tree.Plain)
    (noDirectory : tree.look place ≠ some .directory)
    (outside : tree.isDirectory plugin.path = true → ¬ tree.placeOf plugin.path <+: place)
    (accepted : Validator.accepts ⟨rules, .standard⟩ tree plugin = true) :
    Aside place tree (plugin.path.join Layout.standard.manifest) := by
  obtain ⟨members, text, read, -⟩ := Validator.manifest_of_accepts accepted
  obtain ⟨goal, bytes, leads, isFile, -⟩ := FileTree.readText_ok_iff.mp read
  have isDirectory := (Validator.accepts_iff_findings.mp accepted).1
  have free := plain.linkFree isDirectory
  have joined := free.join (isEntryName_of_mem (by simp [Layout.files])) leads.1
  obtain rfl := leads.unique joined
  exact ⟨_, bytes, leads, isFile,
    FileTree.not_prefix_append noDirectory free.here (outside isDirectory) _⟩

/-- **A call that registers records the plugins that it accepts,** if it says of each that it has
been added. Without such plugins it changes nothing. -/
theorem records_of_added {target : Target} {plugins : List Plugin} (plain : tree.Plain)
    (noDirectory : tree.look (tree.placeOf call.registryPath) ≠ some .directory)
    (targets : targeted tree call.plugins target = .ok plugins)
    (outside : ∀ plugin ∈ plugins, tree.isDirectory plugin.path = true →
      ¬ tree.placeOf plugin.path <+: tree.placeOf call.registryPath) :
    let passing := plugins.filter (Validator.accepts ⟨rules, .standard⟩ tree)
    let ran := (validateTarget ⟨rules, .standard⟩ now call target true).run tree
    (passing = [] → ran.2 = tree) ∧
      (passing ≠ [] →
        ran.1.errors =
          String.join (passing.map fun plugin => added call.registryPath plugin.id) →
        Records call.registryPath (entriesOf tree now passing) tree ran.2) := by
  have reports : (Validator.validateEach ⟨rules, .standard⟩ tree plugins).reports.filter
      (fun report => report.verdict.isPassing) = _ := Validator.filter_reports_validateEach
  obtain ⟨left, errors⟩ := @run_validateTarget_register ⟨rules, .standard⟩ now call tree target
    plugins targets
  dsimp only at left errors ⊢
  rw [run_registerAll] at left errors
  dsimp only at left errors
  rw [reports] at left errors
  refine ⟨fun none => ?_, fun some said => ?_⟩
  · rw [left, none]
    rfl
  · have someReports : (Validator.validateEach ⟨rules, .standard⟩ tree plugins).reports ≠ [] := by
      intro none
      rw [none] at reports
      exact some (List.map_eq_nil_iff.mp reports.symm)
    have said := (errors someReports).symm.trans said
    have asides : ∀ report ∈ (plugins.filter (Validator.accepts ⟨rules, .standard⟩ tree)).map
        fun plugin => (⟨plugin.id, plugin.path.text,
          Validator.findings ⟨rules, .standard⟩ tree plugin.id plugin.path⟩ : Report),
        Aside (tree.placeOf call.registryPath) tree
          ((⟨report.pluginPath⟩ : Path).join Layout.standard.manifest) := by
      refine List.forall_mem_map.mpr fun plugin among => ?_
      obtain ⟨isTarget, accepted⟩ := List.mem_filter.mp among
      exact aside_of_accepts plain noDirectory (outside plugin isTarget) accepted
    have records := mapM_registerPassing_records plain.noLinks noDirectory asides
      (by rwa [List.map_map])
    rw [callsOf, List.map_map, ← left] at records
    exact records

end Calls

end PluginAudit.CommandLine
