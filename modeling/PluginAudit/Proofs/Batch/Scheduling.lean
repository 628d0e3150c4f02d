import Mathlib.Algebra.BigOperators.Group.Finset.Basic
import Mathlib.Data.Fintype.Basic
import Mathlib.Data.List.Nodup
import Mathlib.Data.Multiset.Range
import Mathlib.Logic.Relation
import PluginAudit.Proofs.Batch.Summary

/-!
# Validating plugins on several workers

Workers share the plugins of a list. Each takes the next index from a counter,
validates the plugin there, pushes the outcome to the results and goes on, until
it has taken an index at which there is no plugin. The steps of the workers
interleave in any order (`Step`). Once all workers have stopped, the results are
sorted by their indices and gathered into a summary (`gather`).

At any time each index that the counter has given out is either among the
results or held by exactly one worker (`Consistent.partition`). Hence every plugin
is validated once and its outcome is among the results when all workers have
stopped, and sorting brings the results into the one order that the plugins have
(`sort_results`): the summary is that of validating the plugins one after the
other, in whichever order the outcomes have arrived
(`summary_independent_of_schedule`).
-/

set_option autoImplicit false

namespace PluginAudit.Batch

/-- What validating a plugin yields. -/
abbrev Outcome := Except Failure Report

/-- The number of workers for a number of jobs: at least one, but no more than there are plugins.
-/
def workerCount (jobs plugins : Nat) : Nat := min (max jobs 1) (max plugins 1)

theorem workerCount_pos (jobs plugins : Nat) : 0 < workerCount jobs plugins := by
  rw [workerCount]
  omega

/-! ## The steps of the workers -/

/-- How far a worker has come. -/
inductive Stage where
  /-- It is about to take an index. -/
  | idle
  /-- It has taken an index. -/
  | taken (index : Nat)
  /-- It has validated the plugin of its index. -/
  | validated (index : Nat) (outcome : Outcome)
  /-- It has taken an index at which there is no plugin, and has ended. -/
  | stopped (index : Nat)

namespace Stage

/-- The indices that a worker has taken and that are not among the results. -/
def held : Stage → Multiset Nat
  | idle => 0
  | taken index | validated index _ | stopped index => {index}

/-- The indices of plugins that a worker has validated and that are not among the results. -/
def unpushed : Stage → Multiset Nat
  | idle | taken _ | stopped _ => 0
  | validated index _ => {index}

/-- Whether a worker has ended. -/
def isStopped : Stage → Bool
  | stopped _ => true
  | _ => false

/-- How many steps a worker may still take, if others take the next indices. -/
def stepsLeft (plugins : Nat) : Stage → Nat
  | idle => 2
  | taken index => if index < plugins then 4 else 1
  | validated _ _ => 3
  | stopped _ => 0

end Stage

/-- The state of the workers. -/
structure State (workers : Nat) where
  /-- The index that is given out next. -/
  next : Nat
  stage : Fin workers → Stage
  /-- The outcomes with their indices, in the order in which they have arrived. -/
  results : List (Nat × Outcome)
  /-- The indices of plugins that have been validated, in the order in which they were. -/
  validations : List Nat

namespace State

variable {workers : Nat}

/-- The state before any worker has done anything. -/
def start (workers : Nat) : State workers := ⟨0, fun _ => .idle, [], []⟩

/-- The state with one worker at another stage. -/
def enter (state : State workers) (worker : Fin workers) (stage : Stage) : State workers :=
  { state with stage := Function.update state.stage worker stage }

/-- Whether all workers have ended. -/
def isOver (state : State workers) : Prop := ∀ worker, (state.stage worker).isStopped = true

/-- The indices of the results. -/
def pushed (state : State workers) : List Nat := state.results.map (·.1)

end State

variable (validator : Validator) (tree : FileTree) (plugins : List Plugin)

/-- One step of one worker. -/
inductive Step {workers : Nat} : State workers → State workers → Prop where
  | take {state : State workers} (worker : Fin workers) (idles : state.stage worker = .idle) :
      Step state { state.enter worker (.taken state.next) with next := state.next + 1 }
  | validate {state : State workers} (worker : Fin workers) {index : Nat} {plugin : Plugin}
      (took : state.stage worker = .taken index) (found : plugins[index]? = some plugin) :
      Step state
        { state.enter worker (.validated index (validator.validate tree plugin.id plugin.path)) with
          validations := state.validations ++ [index] }
  | push {state : State workers} (worker : Fin workers) {index : Nat} {outcome : Outcome}
      (done : state.stage worker = .validated index outcome) :
      Step state { state.enter worker .idle with results := state.results ++ [(index, outcome)] }
  | stop {state : State workers} (worker : Fin workers) {index : Nat}
      (took : state.stage worker = .taken index) (none : plugins[index]? = none) :
      Step state (state.enter worker (.stopped index))

/-- The states to which workers may come. -/
def Reachable {workers : Nat} (state : State workers) : Prop :=
  Relation.ReflTransGen (Step validator tree plugins) (State.start workers) state

/-- The summary to which an outcome is added. There is none if the plugin of a failure is not
found. -/
def record (summary : Summary) : Nat × Outcome → Option Summary
  | (_, .ok report) => some { summary with reports := summary.reports ++ [report] }
  | (index, .error failure) => plugins[index]?.map fun plugin =>
      { summary with unvalidated := summary.unvalidated ++ [⟨plugin.id, failure.message⟩] }

/-- The summary of the results, in the order of their indices. -/
def gather (results : List (Nat × Outcome)) : Option Summary :=
  (results.mergeSort fun first second => decide (first.1 ≤ second.1)).foldlM (record plugins)
    ⟨[], []⟩

/-! ## What holds at any time -/

/-- Whether an outcome is that of the plugin at an index. -/
def IsOutcome (index : Nat) (outcome : Outcome) : Prop :=
  ∃ plugin, plugins[index]? = some plugin ∧
    validator.validate tree plugin.id plugin.path = outcome

/-- What holds at any time of a worker at a stage. -/
def Stage.Fits : Stage → Prop
  | .validated index outcome => IsOutcome validator tree plugins index outcome
  | .stopped index => plugins.length ≤ index
  | _ => True

/-- What holds at any time. -/
structure Consistent {workers : Nat} (state : State workers) : Prop where
  fits : ∀ worker, (state.stage worker).Fits validator tree plugins
  /-- Each index that was given out is among the results or with one worker. -/
  partition : (state.pushed : Multiset Nat) + ∑ worker, (state.stage worker).held =
    Multiset.range state.next
  /-- Each plugin that was validated is among the results or with one worker. -/
  once : (state.validations : Multiset Nat) =
    state.pushed + ∑ worker, (state.stage worker).unpushed
  outcomes : ∀ result ∈ state.results, IsOutcome validator tree plugins result.1 result.2

variable {validator tree plugins} {workers : Nat} {state next : State workers}

/-- A sum over the workers is that of the one that goes on and that of the others. -/
theorem sum_update {M : Type} [AddCommMonoid M] (weight : Stage → M) (stages : Fin workers → Stage)
    (worker : Fin workers) :
    ∃ others, ∑ each, weight (stages each) = weight (stages worker) + others ∧
      ∀ stage, ∑ each, weight (Function.update stages worker stage each) =
        weight stage + others := by
  refine ⟨∑ each ∈ Finset.univ.erase worker, weight (stages each), ?_, ?_⟩
  · exact (Finset.add_sum_erase _ _ (Finset.mem_univ worker)).symm
  · intro stage
    rw [← Finset.add_sum_erase _ _ (Finset.mem_univ worker), Function.update_self]
    refine congrArg (weight stage + ·) (Finset.sum_congr rfl ?_)
    intro each among
    rw [Function.update_of_ne (Finset.ne_of_mem_erase among)]

theorem consistent_start : Consistent validator tree plugins (State.start workers) where
  fits _ := trivial
  partition := by
    simp only [State.start, State.pushed, Stage.held, Finset.sum_const_zero]
    rfl
  once := by
    simp only [State.start, State.pushed, Stage.unpushed, Finset.sum_const_zero]
    rfl
  outcomes := List.forall_mem_nil _

/-- What holds of a worker at its stage. -/
theorem Consistent.fits_at {worker : Fin workers} {stage : Stage}
    (consistent : Consistent validator tree plugins state) (isAt : state.stage worker = stage) :
    stage.Fits validator tree plugins :=
  isAt ▸ consistent.fits worker

/-- A worker goes on to another stage, whatever the others hold. -/
theorem Consistent.enter (consistent : Consistent validator tree plugins state)
    {worker : Fin workers} {stage : Stage}
    (moved : next.stage = Function.update state.stage worker stage)
    (fits : stage.Fits validator tree plugins)
    (partition : ∀ others : Multiset Nat,
      (state.pushed : Multiset Nat) + ((state.stage worker).held + others) =
        Multiset.range state.next →
      (next.pushed : Multiset Nat) + (stage.held + others) = Multiset.range next.next)
    (once : ∀ others : Multiset Nat,
      (state.validations : Multiset Nat) =
        state.pushed + ((state.stage worker).unpushed + others) →
      (next.validations : Multiset Nat) = next.pushed + (stage.unpushed + others))
    (outcomes : ∀ result ∈ next.results, IsOutcome validator tree plugins result.1 result.2) :
    Consistent validator tree plugins next := by
  refine ⟨?_, ?_, ?_, outcomes⟩
  · rw [moved]
    exact (Function.forall_update_iff _ fun _ stage => Stage.Fits validator tree plugins stage).mpr
      ⟨fits, fun each _ => consistent.fits each⟩
  · obtain ⟨others, before, after⟩ := sum_update Stage.held state.stage worker
    rw [moved, after]
    apply partition
    rw [← before]
    exact consistent.partition
  · obtain ⟨others, before, after⟩ := sum_update Stage.unpushed state.stage worker
    rw [moved, after]
    apply once
    rw [← before]
    exact consistent.once

/-- **What holds at any time is kept by every step of every worker.** -/
theorem Consistent.step (consistent : Consistent validator tree plugins state)
    (step : Step validator tree plugins state next) :
    Consistent validator tree plugins next := by
  cases step with
  | take worker idles =>
    refine consistent.enter rfl trivial ?_ ?_ consistent.outcomes
    · intro others partition
      rw [idles, Stage.held, zero_add] at partition
      rw [Multiset.range_succ, ← partition, ← Multiset.singleton_add, Stage.held, add_left_comm]
      rfl
    · intro others once
      rw [idles] at once
      exact once
  | @validate worker index plugin took found =>
    refine consistent.enter rfl ⟨plugin, found, rfl⟩ ?_ ?_ consistent.outcomes
    · intro others partition
      rw [took] at partition
      exact partition
    · intro others once
      rw [took, Stage.unpushed, zero_add] at once
      rw [← Multiset.coe_add, once, Stage.unpushed, add_comm {index} others, ← add_assoc]
      rfl
  | @push worker index outcome done =>
    have pushed : ((state.results ++ [(index, outcome)]).map (·.1) : Multiset Nat) =
        state.pushed + {index} := by
      rw [List.map_append, ← Multiset.coe_add]
      rfl
    refine consistent.enter rfl trivial ?_ ?_ ?_
    · intro others partition
      rw [done, Stage.held, ← add_assoc] at partition
      rw [State.pushed, pushed, Stage.held, zero_add]
      exact partition
    · intro others once
      rw [done, Stage.unpushed, ← add_assoc] at once
      rw [State.pushed, pushed, Stage.unpushed, zero_add]
      exact once
    · intro result among
      rcases List.mem_append.mp among with old | new
      · exact consistent.outcomes result old
      · rw [List.mem_singleton.mp new]
        exact consistent.fits_at done
  | @stop worker index took none =>
    refine consistent.enter rfl (List.getElem?_eq_none_iff.mp none) ?_ ?_ consistent.outcomes
    · intro others partition
      rw [took] at partition
      exact partition
    · intro others once
      rw [took] at once
      exact once

/-- **In every interleaving** it holds at any time. -/
theorem consistent_of_reachable (reachable : Reachable validator tree plugins state) :
    Consistent validator tree plugins state := by
  induction reachable with
  | refl => exact consistent_start
  | tail _ step ih => exact ih.step step

/-! ## All workers come to an end -/

/-- A bound of the steps that are left. -/
def State.stepsLeft (plugins : List Plugin) (state : State workers) : Nat :=
  3 * (plugins.length - state.next) +
    ∑ worker, (state.stage worker).stepsLeft plugins.length

theorem Step.stepsLeft_lt (step : Step validator tree plugins state next) :
    next.stepsLeft plugins < state.stepsLeft plugins := by
  have sum := sum_update (Stage.stepsLeft plugins.length) state.stage
  rw [State.stepsLeft, State.stepsLeft]
  cases step with
  | take worker idles =>
    obtain ⟨others, before, after⟩ := sum worker
    rw [before, idles, State.enter, after, Stage.stepsLeft, Stage.stepsLeft]
    dsimp only
    split <;> omega
  | @validate worker index plugin took found =>
    obtain ⟨others, before, after⟩ := sum worker
    have inside : index < plugins.length := (List.getElem?_eq_some_iff.mp found).1
    rw [before, took, State.enter, after, Stage.stepsLeft, Stage.stepsLeft, if_pos inside]
    dsimp only
    omega
  | @push worker index outcome done =>
    obtain ⟨others, before, after⟩ := sum worker
    rw [before, done, State.enter, after, Stage.stepsLeft, Stage.stepsLeft]
    dsimp only
    omega
  | @stop worker index took none =>
    obtain ⟨others, before, after⟩ := sum worker
    have outside : ¬index < plugins.length := (List.getElem?_eq_none_iff.mp none).not_gt
    rw [before, took, State.enter, after, Stage.stepsLeft, Stage.stepsLeft, if_neg outside]
    dsimp only
    omega

/-- **No run goes on forever.** -/
theorem wellFounded_step :
    WellFounded fun after before : State workers => Step validator tree plugins before after :=
  Subrelation.wf Step.stepsLeft_lt (measure (State.stepsLeft plugins)).wf

/-- **Workers that have not ended go on:** none waits for another. -/
theorem stuck_iff_isOver :
    (∀ next, ¬Step validator tree plugins state next) ↔ state.isOver := by
  constructor
  · intro stuck worker
    cases stage : state.stage worker with
    | idle => exact absurd (.take worker stage) (stuck _)
    | taken index =>
      cases found : plugins[index]? with
      | none => exact absurd (.stop worker stage found) (stuck _)
      | some plugin => exact absurd (.validate worker stage found) (stuck _)
    | validated index outcome => exact absurd (.push worker stage) (stuck _)
    | stopped index => rfl
  · intro ended next step
    cases step with
    | take worker idles => exact absurd (ended worker) (by rw [idles]; nofun)
    | validate worker took _ => exact absurd (ended worker) (by rw [took]; nofun)
    | push worker done => exact absurd (ended worker) (by rw [done]; nofun)
    | stop worker took _ => exact absurd (ended worker) (by rw [took]; nofun)

/-! ## What is left -/

/-- What the workers hold at the end are indices at which there is no plugin. -/
theorem Consistent.length_le_of_held (consistent : Consistent validator tree plugins state)
    (ended : state.isOver) {index : Nat}
    (isHeld : index ∈ ∑ worker, (state.stage worker).held) : plugins.length ≤ index := by
  obtain ⟨worker, -, isHeld⟩ := Multiset.mem_sum.mp isHeld
  cases stage : state.stage worker with
  | stopped taken =>
    rw [stage] at isHeld
    rw [Multiset.mem_singleton.mp isHeld]
    exact consistent.fits_at stage
  | _ => exact absurd (ended worker) (by rw [stage]; nofun)

/-- **At the end there is one result for every plugin.** -/
theorem Consistent.pushed_perm (consistent : Consistent validator tree plugins state)
    (ended : state.isOver) (some : 0 < workers) :
    state.pushed.Perm (List.range plugins.length) := by
  have nodup : ((state.pushed : Multiset Nat) + ∑ worker, (state.stage worker).held).Nodup := by
    rw [consistent.partition]
    exact Multiset.nodup_range _
  have given (index : Nat) : index < state.next ↔
      index ∈ state.pushed ∨ index ∈ ∑ worker, (state.stage worker).held := by
    rw [← Multiset.mem_range, ← consistent.partition, Multiset.mem_add, Multiset.mem_coe]
  have all : plugins.length ≤ state.next := by
    cases stage : state.stage ⟨0, some⟩ with
    | stopped index =>
      have outside : plugins.length ≤ index := consistent.fits_at stage
      have isHeld : index ∈ ∑ worker, (state.stage worker).held := by
        refine Multiset.mem_sum.mpr ⟨⟨0, some⟩, Finset.mem_univ _, ?_⟩
        rw [stage]
        exact Multiset.mem_singleton_self index
      exact outside.trans ((given index).mpr (.inr isHeld)).le
    | _ => exact absurd (ended ⟨0, some⟩) (by rw [stage]; nofun)
  refine (List.perm_ext_iff_of_nodup (Multiset.nodup_add.mp nodup).1 List.nodup_range).mpr
    fun index => ?_
  rw [List.mem_range]
  constructor
  · intro isPushed
    obtain ⟨result, among, rfl⟩ := List.mem_map.mp isPushed
    obtain ⟨plugin, found, -⟩ := consistent.outcomes result among
    exact (List.getElem?_eq_some_iff.mp found).1
  · intro inside
    rcases (given index).mp (inside.trans_le all) with isPushed | isHeld
    · exact isPushed
    · exact absurd inside (consistent.length_le_of_held ended isHeld).not_gt

/-- **Every plugin has been validated once** at the end. -/
theorem Consistent.validations_perm (consistent : Consistent validator tree plugins state)
    (ended : state.isOver) (some : 0 < workers) :
    state.validations.Perm (List.range plugins.length) := by
  refine .trans (Multiset.coe_eq_coe.mp ?_) (consistent.pushed_perm ended some)
  rw [consistent.once]
  refine (congrArg (_ + ·) (Finset.sum_eq_zero fun worker _ => ?_)).trans (add_zero _)
  cases stage : state.stage worker with
  | stopped => rfl
  | _ => exact absurd (ended worker) (by rw [stage]; nofun)

variable (validator tree) in
/-- The outcomes of plugins with their indices, in order. -/
def inOrder (plugins : List Plugin) : List (Nat × Outcome) :=
  plugins.zipIdx.map fun (plugin, index) =>
    (index, validator.validate tree plugin.id plugin.path)

theorem mem_inOrder {result : Nat × Outcome} :
    result ∈ inOrder validator tree plugins ↔
      IsOutcome validator tree plugins result.1 result.2 := by
  simp only [inOrder, List.mem_map, Prod.exists, List.mk_mem_zipIdx_iff_getElem?, IsOutcome,
    Prod.ext_iff]
  constructor
  · rintro ⟨plugin, _, found, rfl, ran⟩
    exact ⟨plugin, found, ran⟩
  · rintro ⟨plugin, found, ran⟩
    exact ⟨plugin, _, found, rfl, ran⟩

theorem map_fst_inOrder :
    (inOrder validator tree plugins).map (·.1) = List.range plugins.length := by
  rw [inOrder, List.map_map, List.range_eq_range']
  exact List.zipIdx_map_snd 0 plugins

/-- **Sorting brings the results into order** from any in which they have arrived. -/
theorem Consistent.sort_results (consistent : Consistent validator tree plugins state)
    (ended : state.isOver) (some : 0 < workers) :
    (state.results.mergeSort fun first second => decide (first.1 ≤ second.1)) =
      inOrder validator tree plugins := by
  have pushed := consistent.pushed_perm ended some
  have nodup : (state.results.map (·.1)).Nodup := pushed.nodup_iff.mpr List.nodup_range
  have nodup' : ((inOrder validator tree plugins).map (·.1)).Nodup := by
    rw [map_fst_inOrder]
    exact List.nodup_range
  have perm : state.results.Perm (inOrder validator tree plugins) := by
    refine (List.perm_ext_iff_of_nodup nodup.of_map nodup'.of_map).mpr fun result => ?_
    rw [mem_inOrder]
    refine ⟨consistent.outcomes result, ?_⟩
    rintro ⟨plugin, found, ran⟩
    have inside : result.1 ∈ state.pushed :=
      pushed.mem_iff.mpr (List.mem_range.mpr (List.getElem?_eq_some_iff.mp found).1)
    obtain ⟨other, among, same⟩ := List.mem_map.mp inside
    obtain ⟨plugin', found', ran'⟩ := consistent.outcomes other among
    have : other = result := by
      rw [same, found, Option.some_inj] at found'
      exact Prod.ext same (by rw [← ran', ← ran, found'])
    rwa [← this]
  have increasing : (inOrder validator tree plugins).Pairwise fun first second =>
      first.1 ≤ second.1 := by
    rw [← List.pairwise_map (f := fun result : Nat × Outcome => result.1) (R := fun a b => a ≤ b),
      map_fst_inOrder]
    exact List.pairwise_le_range
  have sorted : (state.results.mergeSort fun first second => decide (first.1 ≤ second.1)).Pairwise
      fun first second => first.1 ≤ second.1 := by
    refine (List.pairwise_mergeSort ?_ ?_ _).imp of_decide_eq_true
    · simp only [decide_eq_true_iff]
      intro first second third le le'
      exact le.trans le'
    · intro first second
      simpa using le_total first.1 second.1
  refine ((List.mergeSort_perm _ _).trans perm).eq_of_pairwise ?_ sorted increasing
  intro first second among among' le ge
  have among := ((List.mergeSort_perm _ _).trans perm).mem_iff.mp among
  exact List.inj_on_of_nodup_map nodup' among among' (le_antisymm le ge)

/-- **Outcomes in order are gathered as plugins are validated one after the other.** -/
theorem gather_inOrder {init rest : List Plugin} (whole : init ++ rest = plugins) :
    (inOrder validator tree init).foldlM (record plugins) ⟨[], []⟩ =
      some (validator.validateEach tree init) := by
  induction init using List.reverseRecOn generalizing rest with
  | nil => rfl
  | append_singleton init plugin ih =>
    rw [List.append_assoc] at whole
    have found : plugins[init.length]? = some plugin := by
      rw [← whole]
      simp
    have last : inOrder validator tree (init ++ [plugin]) = inOrder validator tree init ++
        [(init.length, validator.validate tree plugin.id plugin.path)] := by
      simp [inOrder, List.zipIdx_append]
    rw [last, List.foldlM_append, ih whole, Option.bind_eq_bind, Option.bind_some, List.foldlM_cons]
    simp only [List.foldlM_nil, bind_pure]
    rw [Validator.validateEach, Validator.validateEach, List.filterMap_append,
      List.filterMap_append, List.filterMap_cons, List.filterMap_cons]
    cases validator.validate tree plugin.id plugin.path with
    | ok report => simp [record, Except.toOption]
    | error failure => simp [record, found, Except.toOption]

theorem Consistent.gather_results (consistent : Consistent validator tree plugins state)
    (ended : state.isOver) (some : 0 < workers) :
    gather plugins state.results = Option.some (validator.validateEach tree plugins) := by
  rw [gather, consistent.sort_results ended some]
  exact gather_inOrder (List.append_nil plugins)

/-- **The summary of plugins does not depend on the schedule.** For any number of jobs no run of
the workers goes on forever, and it ends only when all of them have stopped. In whichever order
their steps have come, every plugin has been validated once by then, and the results are gathered
into the summary of validating the plugins one after the other: the reports in the order of the
plugins, in the same order those that could not be validated, each plugin among those that pass or
those that fail, and the exit status zero exactly when every plugin has a report that passes. -/
theorem summary_independent_of_schedule (validator : Validator) (tree : FileTree)
    (plugins : List Plugin) (jobs : Nat) :
    (WellFounded fun after before : State (workerCount jobs plugins.length) =>
      Step validator tree plugins before after) ∧
    (∀ state : State (workerCount jobs plugins.length),
      Reachable validator tree plugins state →
        ((∀ next, ¬Step validator tree plugins state next) ↔ state.isOver) ∧
        (state.isOver → state.validations.Perm (List.range plugins.length) ∧
          gather plugins state.results = some (validator.validateEach tree plugins))) ∧
    (validator.validateEach tree plugins).reports =
      plugins.filterMap (fun plugin =>
        (validator.validate tree plugin.id plugin.path).toOption) ∧
    (validator.validateEach tree plugins).unvalidated.map (·.pluginId) =
      (plugins.filter fun plugin =>
        !(validator.validate tree plugin.id plugin.path).isOk).map (·.id) ∧
    (validator.validateEach tree plugins).total = plugins.length ∧
    (validator.validateEach tree plugins).passed +
      (validator.validateEach tree plugins).failed = plugins.length ∧
    ((validator.validateEach tree plugins).exitCode = 0 ↔
      ∀ plugin ∈ plugins, ∃ report,
        validator.validate tree plugin.id plugin.path = .ok report ∧
          report.verdict.isPassing) := by
  refine ⟨wellFounded_step, ?_, rfl, validator.unvalidated_validateEach tree plugins,
    validator.total_validateEach tree plugins, ?_,
    validator.exitCode_validateEach_eq_zero tree plugins⟩
  · intro state reachable
    have consistent := consistent_of_reachable reachable
    have some := workerCount_pos jobs plugins.length
    refine ⟨stuck_iff_isOver, ?_⟩
    intro ended
    exact ⟨consistent.validations_perm ended some, consistent.gather_results ended some⟩
  · rw [Summary.passed_add_failed]
    exact validator.total_validateEach tree plugins

/-- A plugin that is there, and one that is not. -/
def twoPlugins : List Plugin := [⟨"a", ⟨"a"⟩⟩, ⟨"b", ⟨"b"⟩⟩]

/-- **Five jobs make two workers** of two plugins. The outcome of the second plugin arrives first,
and yet the summary is as it would be if it arrived last. -/
theorem second_outcome_arrives_first :
    ∃ (validator : Validator) (tree : FileTree)
      (state : State (workerCount 5 twoPlugins.length)) (summary : Summary),
      Reachable validator tree twoPlugins state ∧ state.isOver ∧ state.pushed = [1, 0] ∧
        gather twoPlugins state.results = some summary ∧
        summary.reports.length = 1 ∧ summary.unvalidated.map (·.pluginId) = ["b"] ∧
        summary.exitCode = 1 := by
  let validator : Validator := ⟨⟨.standard, [], []⟩, .standard⟩
  let tree : FileTree := { root := .directory [("a", .directory [])], workplace := [] }
  let first : Fin (workerCount 5 twoPlugins.length) := ⟨0, by decide⟩
  let second : Fin (workerCount 5 twoPlugins.length) := ⟨1, by decide⟩
  have reachable : ∃ state : State (workerCount 5 twoPlugins.length),
      Reachable validator tree twoPlugins state ∧ state.isOver ∧ state.pushed = [1, 0] := by
    refine ⟨_, .head (.take first rfl) <| .head (.take second rfl) <|
      .head (.validate second rfl rfl) <| .head (.push second rfl) <|
      .head (.validate first rfl rfl) <| .head (.take second rfl) <|
      .head (.push first rfl) <| .head (.stop second rfl rfl) <|
      .head (.take first rfl) <| .single (.stop first rfl rfl), ?_, rfl⟩
    intro worker
    rcases worker with ⟨_ | _ | worker, inside⟩
    · rfl
    · rfl
    · exact absurd inside (by simp [workerCount, twoPlugins])
  obtain ⟨state, reachable, ended, pushed⟩ := reachable
  obtain ⟨-, runs, -, unvalidated, total, -, -⟩ :=
    summary_independent_of_schedule validator tree twoPlugins 5
  obtain ⟨-, done⟩ := runs state reachable
  obtain ⟨-, gathered⟩ := done ended
  have missing : (validator.validateEach tree twoPlugins).unvalidated.map (·.pluginId) = ["b"] := by
    rw [unvalidated]
    decide +kernel
  have one : (validator.validateEach tree twoPlugins).unvalidated.length = 1 := by
    rw [← List.length_map, missing]
    rfl
  refine ⟨validator, tree, state, _, reachable, ended, pushed, gathered, ?_, missing, ?_⟩
  · rw [Summary.total, one] at total
    exact Nat.add_right_cancel total
  · refine Nat.le_antisymm (Summary.exitCode_le_one _) (Nat.one_le_iff_ne_zero.mpr fun zero => ?_)
    rw [((Summary.exitCode_eq_zero _).mp zero).1] at one
    cases one

end PluginAudit.Batch
