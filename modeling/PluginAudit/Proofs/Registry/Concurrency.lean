import Mathlib.Data.List.Nodup
import Mathlib.Data.List.Perm.Basic
import Mathlib.Logic.Function.Basic
import Mathlib.Logic.Relation
import PluginAudit.Proofs.Registry.Document
import PluginAudit.Proofs.Registry.Persistence

/-!
# Registrations at the same time

Any number of calls register plugins in one registry. Each call takes the lock,
loads the registry, puts its entry, writes the text of the result piece by piece
to a temporary file of its own, renames that to the path of the registry and
gives the lock back, on failure as on success. The steps of the calls interleave
in any order (`Step`).

At any time there is at the path what the calls that have saved so far leave
when they run one after the other, in the order in which they took the lock
(`Consistent.inTurn`). This is an invariant because only the holder of the lock
has a copy of the registry, and its copy is what is at the path (`State.Fits`),
and because whoever saves is the last to have taken the lock
(`Consistent.last`). What calls leave one after the other is what the
registrations leave in a file tree (`registerInTurn_of_registerAll`), and those
that fail there run here as calls that fail (`registerEach_runs`).
-/

set_option autoImplicit false

namespace PluginAudit.Registry

/-! ## What is read at the path -/

/-- What reading at the path of a registry yields. -/
abbrev Content := Except FileTree.Fault String

/-- The registry that is loaded from what is read, unless that fails. -/
def registryOf : Content → Option Registry
  | .ok text => (parse text).toOption
  | .error fault => if fault = .notFound then some {} else none

/-- The registry that is loaded from the text of another one. -/
theorem registryOf_fileText {registry loaded : Registry}
    (read : (Json.document reader (Json.prettyChars 0 registry.toJson ++ ['\n'])).toOption =
      some loaded) : registryOf (.ok registry.fileText) = some loaded := by
  rw [registryOf, parse, toOption_mapError, toList_fileText, read]

theorem toOption_load (tree : FileTree) (path : Path) :
    (load tree path).toOption = registryOf (tree.readText path) := by
  rw [load]
  cases tree.readText path with
  | ok text => exact toOption_mapError _ _
  | error fault =>
    rw [registryOf]
    dsimp only
    split <;> rfl

theorem sorted_registryOf {content : Content} {registry : Registry}
    (found : registryOf content = some registry) : Sorted registry.plugins := by
  cases content with
  | ok text => exact sorted_parse (Json.toOption_eq_some.mp found)
  | error fault =>
    rw [registryOf] at found
    split at found
    · rw [← Option.some.inj found]
      exact sorted_nil
    · cases found

/-! ## One call after the other -/

/-- What a call that runs alone leaves at the path, if it succeeds. -/
def registerOnce (content : Content) (call : String × Entry) : Option Content :=
  (registryOf content).map fun registry => .ok (registry.insert call.1 call.2).fileText

/-- What calls leave that run one after the other, if all succeed. -/
def registerInTurn (content : Content) (calls : List (String × Entry)) : Option Content :=
  calls.foldlM registerOnce content

theorem registerInTurn_cons (content : Content) (call : String × Entry)
    (calls : List (String × Entry)) :
    registerInTurn content (call :: calls) =
      (registerOnce content call).bind fun between => registerInTurn between calls := by
  rw [registerInTurn, List.foldlM_cons]
  rfl

theorem registerInTurn_concat (content : Content) (calls : List (String × Entry))
    (call : String × Entry) :
    registerInTurn content (calls ++ [call]) =
      (registerInTurn content calls).bind fun between => registerOnce between call := by
  rw [registerInTurn, List.foldlM_append, ← registerInTurn]
  simp

/-- Calls in turn leave everything as it is, or the whole text of a registry. -/
theorem registerInTurn_whole {content after : Content} {calls : List (String × Entry)}
    (ran : registerInTurn content calls = some after) :
    calls = [] ∧ after = content ∨ ∃ registry : Registry, after = .ok registry.fileText := by
  rcases List.eq_nil_or_concat calls with rfl | ⟨init, last, rfl⟩
  · exact .inl ⟨rfl, (Option.some.inj ran).symm⟩
  · rw [List.concat_eq_append, registerInTurn_concat] at ran
    obtain ⟨between, -, ran⟩ := Option.bind_eq_some_iff.mp ran
    obtain ⟨registry, -, rfl⟩ := Option.map_eq_some_iff.mp ran
    exact .inr ⟨_, rfl⟩

/-- **Registering alone is what a registration does** where preparing the lock brings no other
registry to light. -/
theorem registerOnce_of_register {path : Path} {id : String} {entry : Entry}
    {before after : FileTree} (settled : Settled path before)
    (ran : (register path id entry).run before = (.ok (), after)) :
    registerOnce (before.readText path) (id, entry) = some (after.readText path) := by
  obtain ⟨registry, loaded, read⟩ := register_settled settled ran
  rw [registerOnce, ← toOption_load, loaded, read]
  rfl

/-- **Registering in turn is what registrations do one after the other.** -/
theorem registerInTurn_of_registerAll {path : Path} {calls : List (String × Entry)}
    {before after : FileTree} (settled : Settled path before)
    (ran : (registerAll path calls).run before = (.ok (), after)) :
    registerInTurn (before.readText path) calls = some (after.readText path) ∧
      Settled path after := by
  induction calls using List.reverseRecOn generalizing after with
  | nil =>
    obtain ⟨-, rfl⟩ := Prod.mk.inj ran
    exact ⟨rfl, settled⟩
  | append_singleton calls call ih =>
    obtain ⟨between, earlier, ran⟩ := registerAll_concat_done ran
    obtain ⟨inTurn, settledBetween⟩ := ih earlier
    obtain ⟨registry, -, read⟩ := register_settled settledBetween ran
    rw [registerInTurn_concat, inTurn]
    exact ⟨registerOnce_of_register settledBetween ran, settled_of_readText read⟩

/-! ## Calls at the same time -/

/-- How far a call has come. -/
inductive Stage where
  /-- It has not tried to take the lock. -/
  | waiting
  /-- It holds the lock. -/
  | holding
  /-- It has loaded the registry. -/
  | loaded (registry : Registry)
  /-- It has put its entry and has written a part of the new text to its temporary file. -/
  | writing (registry : Registry) (written : List Char)
  /-- It has renamed the temporary file to the path of the registry. -/
  | saved
  /-- Something has failed while it held the lock. -/
  | failing
  /-- It has given the lock back after it has saved. -/
  | succeeded
  /-- It has ended without having saved. -/
  | failed
  deriving DecidableEq

namespace Stage

/-- Whether a call at a stage holds the lock. -/
def isInside : Stage → Bool
  | waiting | succeeded | failed => false
  | _ => true

/-- Whether a call at a stage has saved. -/
def hasSaved : Stage → Bool
  | saved | succeeded => true
  | _ => false

/-- Whether a call at a stage has ended. -/
def isOver : Stage → Bool
  | succeeded | failed => true
  | _ => false

end Stage

/-- The state of calls on one registry. -/
structure State (ι : Type) where
  /-- What is at the path of the registry. -/
  content : Content
  /-- The call that holds the lock. -/
  lock : Option ι
  stage : ι → Stage
  /-- The calls that have taken the lock, in the order in which they did. -/
  holders : List ι

variable {ι : Type}

namespace State

/-- The state before any call has done anything. -/
def start (ι : Type) (content : Content) : State ι := ⟨content, none, fun _ => .waiting, []⟩

/-- The state with one call at another stage. -/
def enter [DecidableEq ι] (state : State ι) (i : ι) (stage : Stage) : State ι :=
  { state with stage := Function.update state.stage i stage }

/-- The calls that have saved, in the order in which they took the lock. -/
def saved (state : State ι) : List ι := state.holders.filter fun i => (state.stage i).hasSaved

end State

/-- One step of one call. -/
inductive Step [DecidableEq ι] (calls : ι → String × Entry) : State ι → State ι → Prop where
  /-- The lock file cannot be made or opened. -/
  | refuse {state : State ι} {i : ι} (waits : state.stage i = .waiting) :
      Step calls state (state.enter i .failed)
  | acquire {state : State ι} {i : ι} (waits : state.stage i = .waiting)
      (free : state.lock = none) :
      Step calls state
        { state.enter i .holding with lock := some i, holders := state.holders ++ [i] }
  | load {state : State ι} {i : ι} {registry : Registry} (holds : state.stage i = .holding)
      (found : registryOf state.content = some registry) :
      Step calls state (state.enter i (.loaded registry))
  | merge {state : State ι} {i : ι} {registry : Registry}
      (isLoaded : state.stage i = .loaded registry) :
      Step calls state
        (state.enter i (.writing (registry.insert (calls i).1 (calls i).2) []))
  | write {state : State ι} {i : ι} {registry : Registry} {written : List Char}
      (writes : state.stage i = .writing registry written) (piece : List Char)
      (fits : written ++ piece <+: registry.fileText.toList) :
      Step calls state (state.enter i (.writing registry (written ++ piece)))
  | rename {state : State ι} {i : ι} {registry : Registry} {written : List Char}
      (writes : state.stage i = .writing registry written)
      (complete : written = registry.fileText.toList) :
      Step calls state { state.enter i .saved with content := .ok (String.ofList written) }
  /-- The registry cannot be loaded, its directory or the temporary file cannot be made, something
  cannot be written or the rename is refused. -/
  | fail {state : State ι} {i : ι} (inside : (state.stage i).isInside = true)
      (unsaved : (state.stage i).hasSaved = false) : Step calls state (state.enter i .failing)
  | release {state : State ι} {i : ι} (isSaved : state.stage i = .saved) :
      Step calls state { state.enter i .succeeded with lock := none }
  | giveUp {state : State ι} {i : ι} (fails : state.stage i = .failing) :
      Step calls state { state.enter i .failed with lock := none }

/-- The states that calls may come to. -/
def Reachable [DecidableEq ι] (calls : ι → String × Entry) (content : Content)
    (state : State ι) : Prop :=
  Relation.ReflTransGen (Step calls) (State.start ι content) state

/-! ## What holds at any time -/

/-- What holds at any time of a call at a stage: it holds the lock between taking it and giving it
back, its copy of the registry is what is at the path, and it has taken the lock if it has saved,
but not if it waits. -/
def State.Fits (state : State ι) (call : String × Entry) (i : ι) : Stage → Prop
  | .waiting => state.lock ≠ some i ∧ i ∉ state.holders
  | .loaded registry => state.lock = some i ∧ registryOf state.content = some registry
  | .writing registry _ => state.lock = some i ∧
      ∃ old, registryOf state.content = some old ∧ registry = old.insert call.1 call.2
  | .holding | .saved | .failing => state.lock = some i
  | .succeeded => state.lock ≠ some i ∧ i ∈ state.holders
  | .failed => state.lock ≠ some i

/-- What holds at any time of calls that started from a content. -/
structure Consistent (calls : ι → String × Entry) (content : Content) (state : State ι) :
    Prop where
  fits : ∀ i, state.Fits (calls i) i (state.stage i)
  /-- No call takes the lock twice. -/
  once : state.holders.Nodup
  /-- The holder of the lock is the last to have taken it. -/
  last : ∀ i, state.lock = some i → ∃ earlier, state.holders = earlier ++ [i]
  /-- At the path is what the calls that have saved leave when they run one after the other. -/
  inTurn : registerInTurn content (state.saved.map calls) = some state.content

theorem consistent_start (calls : ι → String × Entry) (content : Content) :
    Consistent calls content (State.start ι content) where
  fits _ := ⟨nofun, List.not_mem_nil⟩
  once := List.nodup_nil
  last _ locked := nomatch locked
  inTurn := rfl

/-- What holds of a call at its stage. -/
theorem Consistent.fits_at {calls : ι → String × Entry} {content : Content}
    {state : State ι} {i : ι} {stage : Stage} (consistent : Consistent calls content state)
    (isAt : state.stage i = stage) : state.Fits (calls i) i stage :=
  isAt ▸ consistent.fits i

section Fits

variable {state next : State ι} {call : String × Entry} {i : ι} {stage : Stage}

/-- A call holds the lock as long as its stage says so. -/
theorem State.Fits.locked_iff (fits : state.Fits call i stage) :
    state.lock = some i ↔ stage.isInside = true := by
  cases stage with
  | waiting => exact iff_of_false fits.1 nofun
  | holding => exact iff_of_true fits rfl
  | loaded _ => exact iff_of_true fits.1 rfl
  | writing _ _ => exact iff_of_true fits.1 rfl
  | saved => exact iff_of_true fits rfl
  | failing => exact iff_of_true fits rfl
  | succeeded => exact iff_of_false fits.1 nofun
  | failed => exact iff_of_false fits nofun

/-- Two calls do not hold the lock together. -/
theorem State.lock_other {i j : ι} (locked : state.lock = some i) (apart : j ≠ i) :
    state.lock ≠ some j := by
  rw [locked]
  exact fun same => apart (Option.some.inj same).symm

/-- What other calls do with the lock and at the path does not matter to a call without the lock.
-/
theorem State.Fits.elsewhere (fits : state.Fits call i stage) (outside : state.lock ≠ some i)
    (still : next.lock ≠ some i) (same : i ∈ next.holders ↔ i ∈ state.holders) :
    next.Fits call i stage := by
  have notInside := fits.locked_iff.not.mp outside
  cases stage with
  | waiting => exact ⟨still, same.not.mpr fits.2⟩
  | succeeded => exact ⟨still, same.mpr fits.2⟩
  | failed => exact still
  | holding => exact absurd rfl notInside
  | loaded _ => exact absurd rfl notInside
  | writing _ _ => exact absurd rfl notInside
  | saved => exact absurd rfl notInside
  | failing => exact absurd rfl notInside

end Fits

/-! ## Step by step -/

variable [DecidableEq ι] {calls : ι → String × Entry} {content : Content} {state : State ι} {i : ι}

theorem State.enter_self (state : State ι) (i : ι) (stage : Stage) :
    (state.enter i stage).stage i = stage := Function.update_self ..

theorem State.enter_other (state : State ι) {i j : ι} (apart : j ≠ i) (stage : Stage) :
    (state.enter i stage).stage j = state.stage j := Function.update_of_ne apart ..

/-- What holds of every call still does if it holds of the one that goes on. -/
theorem State.forall_enter {stage : Stage} {holds : ι → Stage → Prop} (self : holds i stage)
    (others : ∀ j, j ≠ i → holds j (state.stage j)) :
    ∀ j, holds j ((state.enter i stage).stage j) :=
  (Function.forall_update_iff state.stage holds).mpr ⟨self, others⟩

/-- A call that saves no more and no less leaves those that have saved as they are. -/
theorem State.saved_enter {stage : Stage} (same : stage.hasSaved = (state.stage i).hasSaved) :
    (state.enter i stage).saved = state.saved := by
  refine List.filter_congr fun j _ => ?_
  by_cases here : j = i
  · rw [here, State.enter_self, same]
  · rw [State.enter_other state here]

/-- A call goes on to another stage without taking the lock, giving it back or saving. -/
theorem Consistent.enter (consistent : Consistent calls content state) {stage : Stage}
    (fits : state.Fits (calls i) i stage)
    (saves : stage.hasSaved = (state.stage i).hasSaved) :
    Consistent calls content (state.enter i stage) where
  fits := State.forall_enter fits fun j _ => consistent.fits j
  once := consistent.once
  last := consistent.last
  inTurn := by
    rw [State.saved_enter saves]
    exact consistent.inTurn

/-- A call takes the lock. -/
theorem Consistent.acquire (consistent : Consistent calls content state)
    (waits : state.stage i = .waiting) (free : state.lock = none) :
    Consistent calls content
      { state.enter i .holding with lock := some i, holders := state.holders ++ [i] } := by
  have new : i ∉ state.holders := (consistent.fits_at waits).2
  refine ⟨State.forall_enter rfl fun j apart => ?_, ?_, fun j locked => ?_, ?_⟩
  · refine (consistent.fits j).elsewhere (by rw [free]; nofun)
      (fun same => apart (Option.some.inj same).symm) ?_
    simp [apart]
  · rw [← List.concat_eq_append]
    exact List.Nodup.concat new consistent.once
  · exact ⟨state.holders, by rw [Option.some.inj locked]⟩
  · have unsaved : Stage.holding.hasSaved = (state.stage i).hasSaved := by rw [waits]; rfl
    have same : (state.holders ++ [i]).filter
        (fun j => ((state.enter i .holding).stage j).hasSaved) = state.saved := by
      rw [List.filter_append, List.filter_cons_of_neg (by rw [State.enter_self]; nofun),
        List.filter_nil, List.append_nil]
      exact State.saved_enter unsaved
    rw [State.saved]
    dsimp only
    rw [same]
    exact consistent.inTurn

/-- **The holder of the lock saves:** it comes last of those that have saved. -/
theorem Consistent.rename (consistent : Consistent calls content state) {registry : Registry}
    {written : List Char} (writes : state.stage i = .writing registry written) :
    Consistent calls content { state.enter i .saved with content := .ok registry.fileText } := by
  obtain ⟨locked, old, found, rfl⟩ := consistent.fits_at writes
  obtain ⟨earlier, holders⟩ := consistent.last i locked
  refine ⟨State.forall_enter locked fun j apart => ?_, consistent.once, consistent.last, ?_⟩
  · have outside := State.lock_other locked apart
    exact (consistent.fits j).elsewhere outside outside Iff.rfl
  · have once := consistent.once
    rw [holders, ← List.concat_eq_append, List.nodup_concat] at once
    have before : state.saved = earlier.filter fun j => (state.stage j).hasSaved := by
      rw [State.saved, holders, List.filter_append,
        List.filter_cons_of_neg (by rw [writes]; nofun), List.filter_nil, List.append_nil]
    have after : (state.enter i .saved).saved = state.saved ++ [i] := by
      have others : earlier.filter (fun j => ((state.enter i .saved).stage j).hasSaved) =
          earlier.filter fun j => (state.stage j).hasSaved := by
        refine List.filter_congr fun j among => ?_
        rw [State.enter_other state fun here : j = i => once.1 (here ▸ among)]
      rw [before, State.saved, State.enter]
      dsimp only
      rw [holders, List.filter_append, ← others, List.filter_cons_of_pos, List.filter_nil]
      · rfl
      · rw [Function.update_self]
        rfl
    have once : registerOnce state.content (calls i) =
        some (.ok (old.insert (calls i).1 (calls i).2).fileText) := by
      rw [registerOnce, found]
      rfl
    refine Eq.trans ?_ once
    refine (congrArg (fun saved => registerInTurn content (saved.map calls)) after).trans ?_
    rw [List.map_append, List.map_singleton, registerInTurn_concat, consistent.inTurn]
    rfl

/-- A call gives the lock back. -/
theorem Consistent.leave (consistent : Consistent calls content state) {stage : Stage}
    (locked : state.lock = some i)
    (fits : State.Fits { state with lock := none } (calls i) i stage)
    (saves : stage.hasSaved = (state.stage i).hasSaved) :
    Consistent calls content { state.enter i stage with lock := none } := by
  refine ⟨State.forall_enter fits fun j apart => ?_, consistent.once, nofun, ?_⟩
  · have outside := State.lock_other locked apart
    exact (consistent.fits j).elsewhere outside nofun Iff.rfl
  · refine (congrArg (fun saved => registerInTurn content (saved.map calls))
      (State.saved_enter saves)).trans ?_
    exact consistent.inTurn

/-- **What holds at any time is kept by every step of every call.** -/
theorem Consistent.step (consistent : Consistent calls content state) {next : State ι}
    (step : Step calls state next) : Consistent calls content next := by
  cases step with
  | @refuse i waits =>
    have fits := consistent.fits_at waits
    exact consistent.enter fits.1 (by rw [waits]; rfl)
  | @acquire i waits free => exact consistent.acquire waits free
  | @load i registry holds found =>
    have fits := consistent.fits_at holds
    exact consistent.enter ⟨fits, found⟩ (by rw [holds]; rfl)
  | @merge i registry isLoaded =>
    have fits := consistent.fits_at isLoaded
    exact consistent.enter ⟨fits.1, registry, fits.2, rfl⟩ (by rw [isLoaded]; rfl)
  | @write i registry written writes piece _ =>
    have fits := consistent.fits_at writes
    exact consistent.enter fits (by rw [writes]; rfl)
  | @rename i registry written writes complete =>
    rw [complete, String.ofList_toList]
    exact consistent.rename writes
  | @fail i inside unsaved =>
    exact consistent.enter ((consistent.fits i).locked_iff.mpr inside) unsaved.symm
  | @release i isSaved =>
    have fits := consistent.fits_at isSaved
    obtain ⟨earlier, holders⟩ := consistent.last i fits
    refine consistent.leave fits ⟨nofun, ?_⟩ (by rw [isSaved]; rfl)
    exact holders ▸ List.mem_append_right _ List.mem_cons_self
  | @giveUp i fails =>
    have fits := consistent.fits_at fails
    exact consistent.leave fits nofun (by rw [fails]; rfl)

/-- **In every interleaving** it holds at any time. -/
theorem consistent_of_reachable (reachable : Reachable calls content state) :
    Consistent calls content state := by
  induction reachable with
  | refl => exact consistent_start calls content
  | tail _ step ih => exact ih.step step

/-! ## A call on its own -/

/-- **A call that nothing disturbs succeeds** as soon as the lock is free. -/
theorem runs_alone (calls : ι → String × Entry) {registry : Registry}
    (waits : state.stage i = .waiting) (free : state.lock = none)
    (found : registryOf state.content = some registry) :
    ∃ next, Relation.ReflTransGen (Step calls) state next ∧ next.lock = none ∧
      next.stage = Function.update state.stage i .succeeded ∧
      next.content = .ok (registry.insert (calls i).1 (calls i).2).fileText ∧
      next.holders = state.holders ++ [i] := by
  -- The whole text is written in one piece.
  have piece : [] ++ (registry.insert (calls i).1 (calls i).2).fileText.toList <+:
      (registry.insert (calls i).1 (calls i).2).fileText.toList := List.prefix_refl _
  refine ⟨_, .head (.acquire waits free) <| .head (.load (State.enter_self ..) found) <|
    .head (.merge (State.enter_self ..)) <| .head (.write (State.enter_self ..) _ piece) <|
    .head (.rename (State.enter_self ..) (List.nil_append _)) <|
    .single (.release (State.enter_self ..)), rfl, ?_, ?_, rfl⟩
  · simp [State.enter]
  · simp [State.enter]

/-! ## What is left -/

/-- A registry into which calls have put their entries is read again from its text. -/
def LastSaveLoads (calls : ι → String × Entry) (start : Registry) : Prop :=
  ∀ order : List ι, order ≠ [] →
    parse (start.insertAll (order.map calls)).fileText = .ok (start.insertAll (order.map calls))

omit [DecidableEq ι] in
/-- It is, if nothing there is blurred by its document or nested too deeply. -/
theorem LastSaveLoads.of_readable {start : Registry} (readable : start.Readable)
    (fits : start.toJson.depth ≤ Json.openLimit) (entries : ∀ i, (calls i).2.Readable)
    (shallow : ∀ i, (calls i).2.toJson.depth + 2 ≤ Json.openLimit) : LastSaveLoads calls start := by
  intro order _
  have fits := (depth_le_iff start).mp fits
  have among : ∀ call ∈ order.map calls, ∃ i, calls i = call := by
    intro call among
    obtain ⟨i, -, same⟩ := List.mem_map.mp among
    exact ⟨i, same⟩
  have all : (start.insertAll (order.map calls)).Readable :=
    readable.insertAll fun call isCall => by
    obtain ⟨i, rfl⟩ := among call isCall
    exact entries i
  rw [← Json.toOption_eq_some, toOption_parse_fileText all, if_pos]
  rw [depth_le_iff, extra_insertAll]
  refine ⟨fun plugin isPlugin => ?_, fits.2⟩
  rcases mem_insertAll isPlugin with isCall | isOld
  · obtain ⟨i, rfl⟩ := among plugin isCall
    exact shallow i
  · exact fits.1 plugin isOld

omit [DecidableEq ι] in
/-- **What calls leave in turn is the registry with their entries,** if what is saved is loaded.
-/
theorem registryOf_inTurn {start : Registry} (found : registryOf content = some start)
    (loads : LastSaveLoads calls start) {order : List ι} {after : Content}
    (ran : registerInTurn content (order.map calls) = some after) :
    registryOf after = some (start.insertAll (order.map calls)) ∧
      (order ≠ [] → after = .ok (start.insertAll (order.map calls)).fileText) := by
  induction order using List.reverseRecOn generalizing after with
  | nil =>
    obtain rfl := Option.some.inj ran
    exact ⟨found, fun some => absurd rfl some⟩
  | append_singleton order i ih =>
    rw [List.map_append, List.map_singleton, registerInTurn_concat] at ran
    obtain ⟨between, earlier, once⟩ := Option.bind_eq_some_iff.mp ran
    rw [registerOnce, (ih earlier).1] at once
    obtain rfl := (Option.some.inj once).symm
    have whole : (start.insertAll (order.map calls)).insert (calls i).1 (calls i).2 =
        start.insertAll ((order ++ [i]).map calls) := by
      rw [List.map_append, List.map_singleton, insertAll_concat]
    dsimp only
    rw [whole]
    refine ⟨?_, fun _ => rfl⟩
    rw [registryOf, loads _ (by simp)]
    rfl

/-- The calls that have succeeded, in the order in which they took the lock. -/
def State.succeeded (state : State ι) : List ι :=
  state.holders.filter fun i => state.stage i = .succeeded

theorem Stage.of_isOver {stage : Stage} (ended : stage.isOver = true) :
    stage = .succeeded ∨ stage = .failed := by
  cases stage with
  | succeeded => exact .inl rfl
  | failed => exact .inr rfl
  | _ => cases ended

omit [DecidableEq ι] in
/-- Once all calls are over, those that have saved are those that have succeeded. -/
theorem State.saved_over (ended : ∀ i, (state.stage i).isOver = true) :
    state.saved = state.succeeded := by
  refine List.filter_congr fun j _ => ?_
  rcases Stage.of_isOver (ended j) with stage | stage
  · rw [stage]
    rfl
  · rw [stage]
    rfl

omit [DecidableEq ι] in
/-- Once all calls are over, the lock is free. -/
theorem Consistent.free_over (consistent : Consistent calls content state)
    (ended : ∀ i, (state.stage i).isOver = true) : state.lock = none := by
  cases locked : state.lock with
  | none => rfl
  | some i =>
    have inside := (consistent.fits i).locked_iff.mp locked
    rcases Stage.of_isOver (ended i) with stage | stage
    · rw [stage] at inside
      cases inside
    · rw [stage] at inside
      cases inside

omit [DecidableEq ι] in
theorem Consistent.mem_succeeded (consistent : Consistent calls content state) :
    i ∈ state.succeeded ↔ state.stage i = .succeeded := by
  rw [State.succeeded, List.mem_filter, decide_eq_true_iff]
  refine and_iff_right_of_imp fun succeeds => ?_
  have fits := consistent.fits_at succeeds
  exact fits.2

omit [DecidableEq ι] in
/-- **Calls on different ids leave the same in any order,** if what is saved is loaded. -/
theorem registerInTurn_perm {start : Registry} (found : registryOf content = some start)
    (loads : LastSaveLoads calls start) (distinct : (fun i => (calls i).1).Injective)
    {order order' : List ι} (perm : order.Perm order') (once : order.Nodup)
    {after after' : Content} (ran : registerInTurn content (order.map calls) = some after)
    (ran' : registerInTurn content (order'.map calls) = some after') : after = after' := by
  rcases List.eq_nil_or_concat order with rfl | ⟨init, last, rfl⟩
  · obtain rfl := perm.nil_eq
    exact Option.some.inj (ran.symm.trans ran')
  · have some : init.concat last ≠ [] := by simp
    have some' : order' ≠ [] := fun none => some (perm.trans (by rw [none])).eq_nil
    have ids : (((init.concat last).map calls).map (·.1)).Nodup := by
      rw [List.map_map]
      exact once.map distinct
    rw [(registryOf_inTurn found loads ran).2 some, (registryOf_inTurn found loads ran').2 some',
      insertAll_perm (perm.map calls) (sorted_registryOf found) ids]

/-- **No registration is lost or mixed,** however the steps of the calls interleave: at any time
there is at the path what was there at first or the whole text of a registry. Once all calls are
over, the lock is free and there is what the calls that have succeeded leave one after the other,
in the order in which they took the lock, as they do in any file tree where they run in that
order: each of their ids has the entry of the last of them, all other ids and keys are as they
were, and where the ids differ and all calls succeed it is the same text in every interleaving. -/
theorem concurrent_registrations_serialize (reachable : Reachable calls content state) :
    (state.content = content ∨ ∃ registry : Registry, state.content = .ok registry.fileText) ∧
    ((∀ i, (state.stage i).isOver = true) →
      state.lock = none ∧ (∀ i, i ∈ state.succeeded ↔ state.stage i = .succeeded) ∧
      registerInTurn content (state.succeeded.map calls) = some state.content ∧
      (∀ path before after, before.readText path = content → Settled path before →
        (registerAll path (state.succeeded.map calls)).run before = (.ok (), after) →
          after.readText path = state.content) ∧
      ∀ start, registryOf content = some start → LastSaveLoads calls start →
        (∃ final, registryOf state.content = some final ∧ final.extra = start.extra ∧
          (∀ id, id ∈ final.ids ↔
            (∃ i, state.stage i = .succeeded ∧ (calls i).1 = id) ∨ id ∈ start.ids) ∧
          ∀ id, final.get? id =
            ((state.succeeded.map calls).reverse.lookup id).or (start.get? id)) ∧
        ∀ other, Reachable calls content other → (∀ i, state.stage i = .succeeded) →
          (∀ i, other.stage i = .succeeded) → (fun i => (calls i).1).Injective →
            other.content = state.content) := by
  have consistent := consistent_of_reachable reachable
  refine ⟨?_, fun ended => ?_⟩
  · rcases registerInTurn_whole consistent.inTurn with ⟨-, same⟩ | whole
    · exact .inl same
    · exact .inr whole
  have inTurn := consistent.inTurn
  rw [State.saved_over ended] at inTurn
  refine ⟨consistent.free_over ended, fun i => consistent.mem_succeeded, inTurn, ?_,
    fun start found loads => ⟨?_, ?_⟩⟩
  · rintro path before after rfl settled ran
    have inTree := (registerInTurn_of_registerAll settled ran).1
    exact Option.some.inj (inTree.symm.trans inTurn)
  · refine ⟨_, (registryOf_inTurn found loads inTurn).1, extra_insertAll .., fun id => ?_,
      get?_insertAll _ _⟩
    rw [mem_ids_insertAll, List.map_map, List.mem_map]
    simp only [consistent.mem_succeeded, Function.comp_apply]
  · intro other reachable' all all' distinct
    have consistent' := consistent_of_reachable reachable'
    have inTurn' := consistent'.inTurn
    rw [State.saved_over fun i => by rw [all' i]; rfl] at inTurn'
    have once := consistent.once.filter fun i => state.stage i = .succeeded
    have once' := consistent'.once.filter fun i => other.stage i = .succeeded
    have perm : other.succeeded.Perm state.succeeded :=
      (List.perm_ext_iff_of_nodup once' once).mpr fun i =>
        iff_of_true (consistent'.mem_succeeded.mpr (all' i)) (consistent.mem_succeeded.mpr (all i))
    exact registerInTurn_perm found loads distinct perm once' inTurn' inTurn

/-- Two calls on different ids. -/
def twoCalls (second : Bool) : String × Entry := (if second then "q" else "p", ⟨[], true, ⟨0, 0⟩⟩)

theorem lastSaveLoads_twoCalls : LastSaveLoads twoCalls {} := by
  have entry : Entry.Readable ⟨[], true, ⟨0, 0⟩⟩ :=
    ⟨⟨List.nodup_nil, List.not_mem_nil, List.not_mem_nil, nofun, .inl (by decide)⟩, by decide⟩
  have depth : (Entry.toJson ⟨[], true, ⟨0, 0⟩⟩).depth = 1 := depth_entry _
  have fits : (Registry.toJson {}).depth ≤ Json.openLimit :=
    (depth_le_iff {}).mpr ⟨List.forall_mem_nil _, List.forall_mem_nil _⟩
  refine .of_readable readable_empty fits (fun _ => entry) fun second => ?_
  rw [twoCalls, depth]
  decide

/-- Two calls come to an end, and both of their ids are there. -/
theorem two_calls_serialize :
    ∃ (state : State Bool) (final : Registry), Reachable twoCalls (.error .notFound) state ∧
      (∀ i, (state.stage i).isOver = true) ∧ LastSaveLoads twoCalls {} ∧
      registryOf state.content = some final ∧ "p" ∈ final.ids ∧ "q" ∈ final.ids := by
  have empty : registryOf (.error .notFound) = some {} := rfl
  obtain ⟨middle, first, free, stage, content, -⟩ :=
    @runs_alone Bool _ (State.start Bool (.error .notFound)) false twoCalls _ rfl rfl empty
  have loaded : registryOf middle.content = some (insertAll {} ([false].map twoCalls)) := by
    rw [content, registryOf]
    exact Json.toOption_eq_some.mpr (lastSaveLoads_twoCalls [false] (by decide))
  obtain ⟨state, second, -, stage', -⟩ :=
    @runs_alone Bool _ middle true twoCalls _ (by rw [stage]; rfl) free loaded
  have reachable : Reachable twoCalls (.error .notFound) state := first.trans second
  have succeeded : ∀ i, state.stage i = .succeeded := by
    rw [stage', stage]
    decide
  have ended : ∀ i, (state.stage i).isOver = true := fun i => by rw [succeeded i]; rfl
  obtain ⟨-, atEnd⟩ := concurrent_registrations_serialize reachable
  obtain ⟨-, -, -, -, left⟩ := atEnd ended
  obtain ⟨⟨final, found, -, ids, -⟩, -⟩ := left {} empty lastSaveLoads_twoCalls
  exact ⟨state, final, reachable, ended, lastSaveLoads_twoCalls, found,
    (ids "p").mpr (.inl ⟨false, succeeded false, rfl⟩),
    (ids "q").mpr (.inl ⟨true, succeeded true, rfl⟩)⟩

end PluginAudit.Registry
