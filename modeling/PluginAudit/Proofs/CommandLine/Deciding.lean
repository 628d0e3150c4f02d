import PluginAudit.CommandLine.Basic
import PluginAudit.Proofs.Batch.Acceptance
import PluginAudit.Proofs.Batch.Elsewhere

/-!
# What a validation decides

A call that validates targets some plugins. Its status follows from their
reports (`status_validateTarget`). Neither status nor output are changed by
registering or by a file beside the plugins (`shown_validateTarget`).
-/

set_option autoImplicit false

namespace PluginAudit.CommandLine

/-- The plugins that a call targets, in the directory of all plugins. -/
def targeted (tree : FileTree) (plugins : Path) : Target → Except Failure (List Plugin)
  | .all => Plugin.discover tree plugins
  | .id id => (Plugin.pathOfId plugins id).map fun path => [⟨id, path⟩]
  | .path path => .ok [⟨Plugin.idOfPath tree path, path⟩]

/-- The status and the output. -/
def Outcome.shown (outcome : Outcome) : Nat × String := (outcome.status, outcome.output)

/-! ## Runs -/

section Runs

variable (validator : Validator) (now : Instant) (call : Call) (registry : Option Path)
  (tree : FileTree)

theorem run_validateOne (id : String) (plugin : Path) :
    (validateOne validator now call registry id plugin).run tree =
      match validator.validate tree id plugin with
      | .error failure => ({ status := 1, errors := complaint failure.message }, tree)
      | .ok report =>
        let registered := (registerAll validator now registry [report]).run tree
        ({ status := if report.verdict.isPassing then 0 else 1
           output := match call.format with
             | .text => report.render
             | .json => printed report.toJson
           errors := registered.1 }, registered.2) := by
  unfold validateOne
  rw [StateT.run_bind, StateT.run_get]
  simp only [pure_bind]
  cases validator.validate tree id plugin <;> rfl

theorem run_validateEvery :
    (validateEvery validator now call registry).run tree =
      match validator.validateAll tree call.plugins with
      | .error failure =>
        ({ status := 1
           errors := complaint ("cannot read plugins directory " ++ call.plugins.text ++ ": " ++
             failure.message) }, tree)
      | .ok summary =>
        let registered := (registerAll validator now registry summary.reports).run tree
        ({ status := summary.exitCode
           output := match call.format with
             | .text =>
               String.join (summary.reports.map fun report => report.render ++ "\n") ++
                 summary.render
             | .json => printed summary.toJson
           errors := registered.1 }, registered.2) := by
  unfold validateEvery
  rw [StateT.run_bind, StateT.run_get]
  simp only [pure_bind]
  cases validator.validateAll tree call.plugins <;> rfl

/-- One plugin is validated at the path of its id or at a given path. -/
theorem run_validateTarget (target : Target) (register : Bool) :
    (validateTarget validator now call target register).run tree =
      let registry := if register then some call.registryPath else none
      match target with
      | .all => (validateEvery validator now call registry).run tree
      | .id id =>
        match Plugin.pathOfId call.plugins id with
        | .ok plugin => (validateOne validator now call registry id plugin).run tree
        | .error failure => ({ status := 1, errors := complaint failure.message }, tree)
      | .path plugin =>
        (validateOne validator now call registry (Plugin.idOfPath tree plugin)
          plugin).run tree := by
  cases target with
  | all => rfl
  | path plugin => rfl
  | id id =>
    unfold validateTarget
    dsimp only
    cases Plugin.pathOfId call.plugins id <;> rfl

end Runs

section Deciding

variable {validator : Validator} {now : Instant} {call : Call} {tree : FileTree}

theorem validateAll_eq (plugins : Path) :
    validator.validateAll tree plugins =
      (Plugin.discover tree plugins).map (validator.validateEach tree) := by
  rw [Validator.validateAll]
  cases Plugin.discover tree plugins <;> rfl

theorem exitCode_singleton (plugin : Plugin) :
    (validator.validateEach tree [plugin]).exitCode =
      match validator.validate tree plugin.id plugin.path with
      | .error _ => 1
      | .ok report => if report.verdict.isPassing then 0 else 1 := by
  rw [Validator.validateEach]
  cases ran : validator.validate tree plugin.id plugin.path with
  | error failure =>
    simp [ran, Except.toOption, Summary.exitCode, Summary.failed, Summary.total, Summary.passed]
  | ok report =>
    cases passes : report.verdict.isPassing <;>
      simp [ran, passes, Except.toOption, Summary.exitCode, Summary.failed, Summary.total,
        Summary.passed]

/-- **The status follows from the plugins that are targeted,** registered or not. -/
theorem status_validateTarget (target : Target) (register : Bool) :
    ((validateTarget validator now call target register).run tree).1.status =
      match targeted tree call.plugins target with
      | .error _ => 1
      | .ok plugins => (validator.validateEach tree plugins).exitCode := by
  rw [run_validateTarget]
  cases target with
  | all =>
    dsimp only [targeted]
    rw [run_validateEvery, validateAll_eq]
    cases Plugin.discover tree call.plugins <;> rfl
  | id id =>
    dsimp only [targeted]
    cases Plugin.pathOfId call.plugins id with
    | error failure => rfl
    | ok plugin =>
      dsimp only [Except.map]
      rw [run_validateOne, exitCode_singleton]
      cases validator.validate tree id plugin <;> rfl
  | path plugin =>
    dsimp only [targeted]
    rw [run_validateOne, exitCode_singleton]
    dsimp only
    cases validator.validate tree (Plugin.idOfPath tree plugin) plugin <;> rfl

/-- **The status is zero or one,** and zero exactly when all targeted plugins are accepted. -/
theorem status_eq_zero_iff (target : Target) (register : Bool) :
    ((validateTarget validator now call target register).run tree).1.status ≤ 1 ∧
      (((validateTarget validator now call target register).run tree).1.status = 0 ↔
        ∃ plugins, targeted tree call.plugins target = .ok plugins ∧
          ∀ plugin ∈ plugins, validator.accepts tree plugin = true) := by
  rw [status_validateTarget]
  cases targets : targeted tree call.plugins target with
  | error failure => simp
  | ok plugins =>
    refine ⟨Summary.exitCode_le_one _, ?_⟩
    simp [Validator.exitCode_eq_zero_iff_accepts]

end Deciding

/-! ## What is shown -/

section Shown

variable {validator : Validator} {now : Instant} {call : Call} {tree tree' : FileTree}
  {registry registry' : Option Path}

theorem shown_validateOne {id id' : String} {plugin : Path}
    (same : validator.validate tree id plugin = validator.validate tree' id' plugin) :
    ((validateOne validator now call registry id plugin).run tree).1.shown =
      ((validateOne validator now call registry' id' plugin).run tree').1.shown := by
  rw [run_validateOne, run_validateOne, ← same]
  cases validator.validate tree id plugin <;> rfl

theorem shown_validateEvery
    (same : (validator.validateAll tree call.plugins).toOption =
      (validator.validateAll tree' call.plugins).toOption) :
    ((validateEvery validator now call registry).run tree).1.shown =
      ((validateEvery validator now call registry').run tree').1.shown := by
  rw [run_validateEvery, run_validateEvery]
  cases ran : validator.validateAll tree call.plugins <;>
    cases ran' : validator.validateAll tree' call.plugins <;> rw [ran, ran'] at same
  · rfl
  · cases same
  · cases same
  · rw [Option.some.inj same]
    rfl

theorem validateEach_congr {plugins : List Plugin}
    (same : ∀ plugin ∈ plugins, validator.validate tree plugin.id plugin.path =
      validator.validate tree' plugin.id plugin.path) :
    validator.validateEach tree plugins = validator.validateEach tree' plugins := by
  rw [Validator.validateEach, Validator.validateEach]
  congr 1
  · exact List.filterMap_congr fun plugin among => by rw [same plugin among]
  · exact List.filterMap_congr fun plugin among => by rw [same plugin among]

/-- **Neither registering nor a file beside the targeted plugins changes what is shown.** -/
theorem shown_validateTarget {rules : Rules} {place : List String}
    (differ : FileTree.DifferAt place tree tree') {target : Target}
    (outside : ∀ plugins, targeted tree call.plugins target = .ok plugins → ∀ plugin ∈ plugins,
      tree.isDirectory plugin.path = true → ¬ tree.placeOf plugin.path <+: place)
    (register register' : Bool) :
    ((validateTarget ⟨rules, .standard⟩ now call target register).run tree).1.shown =
      ((validateTarget ⟨rules, .standard⟩ now call target register').run tree').1.shown := by
  rw [run_validateTarget, run_validateTarget]
  cases target with
  | all =>
    refine shown_validateEvery ?_
    have found := differ.toOption_discover call.plugins
    rw [validateAll_eq, validateAll_eq]
    cases ran : Plugin.discover tree call.plugins <;>
      cases ran' : Plugin.discover tree' call.plugins <;> rw [ran, ran'] at found
    · rfl
    · cases found
    · cases found
    · next plugins plugins' =>
      obtain rfl : plugins = plugins' := Option.some.inj found
      refine congrArg some (validateEach_congr fun plugin among => ?_)
      exact differ.validate_eq (outside plugins ran plugin among) plugin.id
  | id id =>
    rw [targeted] at outside
    dsimp only
    cases isPath : Plugin.pathOfId call.plugins id with
    | error failure => rfl
    | ok plugin =>
      rw [isPath] at outside
      exact shown_validateOne (differ.validate_eq (outside _ rfl _ List.mem_cons_self) id)
  | path plugin =>
    have same : Validator.validatePath ⟨rules, .standard⟩ tree plugin =
        Validator.validatePath ⟨rules, .standard⟩ tree' plugin :=
      differ.validatePath_eq (outside _ rfl ⟨_, plugin⟩ List.mem_cons_self)
    rw [Validator.validatePath, Validator.validatePath] at same
    exact shown_validateOne same

end Shown

end PluginAudit.CommandLine
