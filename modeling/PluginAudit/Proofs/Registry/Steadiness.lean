import PluginAudit.Proofs.Registry.Concurrency
import PluginAudit.Proofs.Registry.FailedRegistration
import PluginAudit.Proofs.Registry.Saving

/-!
# Registrations of which some fail

A registration that fails leaves files behind at most where the directory of the
registry is there, and none of them under the registry's name
(`register_failed_beside`). So what is read at the path stays as it is
(`Steady.register_failed`), which is what the machine of concurrent calls says of
a call that fails.

Calls that are made one after the other in a file tree, whether they succeed or
not, are a run of that machine (`registerEach_runs`), and those that fail make no
difference to what is left (`registerInTurn_of_registerEach`).
-/

set_option autoImplicit false

namespace PluginAudit

/-! ## Files beside a place -/

namespace FileTree

/-- A tree is kept, and what is new are files, none of them at a place. -/
structure FilesBeside (place : List String) (before after : FileTree) : Prop where
  keeps : Keeps before after
  new : ∀ other shape, before.look other = none → after.look other = some shape →
    (∃ bytes, shape = .file bytes) ∧ other ≠ place

namespace FilesBeside

variable {place : List String} {before after : FileTree}

theorem of_same (place : List String) (same : Same before after) :
    FilesBeside place before after := by
  refine ⟨same.keeps, fun other shape missing stands => ?_⟩
  rw [same.look, missing] at stands
  cases stands

theorem of_put {source : List String} {fresh : String} (bytes : ByteArray)
    (here : before.look source = some .directory) (free : before.look (source ++ [fresh]) = none)
    (apart : source ++ [fresh] ≠ place) :
    FilesBeside place before (before.withNode (source ++ [fresh]) (.file bytes)) := by
  obtain ⟨keeps, new⟩ := withNode_leaf (.file bytes) here free (by simp)
  refine ⟨keeps, fun other shape missing stands => ?_⟩
  obtain ⟨rfl, rfl⟩ := new other shape missing stands
  exact ⟨⟨bytes, rfl⟩, apart⟩

theorem trans {between : FileTree} (earlier : FilesBeside place before between)
    (later : FilesBeside place between after) : FilesBeside place before after := by
  refine ⟨earlier.keeps.trans later.keeps, fun other shape missing stands => ?_⟩
  cases stood : between.look other with
  | none => exact later.new other shape stood stands
  | some first =>
    have still := later.keeps.look other first stood
    obtain rfl : first = shape := Option.some.inj (still.symm.trans stands)
    exact earlier.new other first missing stood

variable (beside : FilesBeside place before after)

include beside

/-- Nothing stands at the place where nothing stood. -/
theorem vacant (free : before.look place = none) : after.look place = none := by
  cases stands : after.look place with
  | none => rfl
  | some shape => exact absurd rfl (beside.new place shape free stands).2

/-- Paths lead where they led. -/
theorem leads {follow : Bool} {path : Path} {goal : List String}
    (leads : after.Leads follow path goal) : before.Leads follow path goal := by
  obtain ⟨checked, used, bound, walk⟩ := leads
  rw [beside.keeps.workplace] at walk
  refine ⟨checked, used, bound, walk.of_files beside.keeps.look
    (fun other shape missing stands => (beside.new other shape missing stands).1) ?_⟩
  -- A walk with steps starts from a directory, and no directory is new.
  intro missing
  obtain ⟨step, rest, split⟩ := List.exists_cons_of_ne_nil
    (pathSteps_ne_nil (Path.checkPath_ok_iff.mp checked).2.1)
  rw [split] at walk
  obtain ⟨⟨bytes, isFile⟩, -⟩ := beside.new _ _ missing walk.starts_directory
  cases isFile

end FilesBeside

end FileTree

namespace Registry

open FileTree (FilesBeside Keeps)

/-! ## What a failing registration leaves -/

section Beside

variable {path : Path} {name : String} {directory : List String} {tree after : FileTree}
  {failure : Failure}

/-- Preparing the lock makes at most a file elsewhere, unless the lock's path leads to the
registry. -/
theorem prepareLock_beside (ends : tree.Ends path directory) (named : path.EndsIn name)
    (apart : ¬ tree.Leads true (lockPath path) (directory ++ [name])) :
    FilesBeside (directory ++ [name]) tree ((prepareLock path).run tree).2 := by
  rw [run_prepareLock_there named (leads_directoryOf ends named) ends.here]
  rcases openLock_cases path tree with same | ⟨above, last, leads, here, free, put⟩
  · rw [same]
    exact .of_same _ (.refl tree)
  · rw [put]
    refine .of_put _ here free fun same => apart ?_
    rwa [same] at leads

/-- A save that fails leaves at most its temporary file, which has another name. -/
theorem save_beside (ends : tree.Ends path directory) (named : path.EndsIn name)
    {registry : Registry} (ran : (save path registry).run tree = (.error failure, after)) :
    FilesBeside (directory ++ [name]) tree after := by
  rw [run_save, FileTree.makeDirectories_there (leads_directoryOf ends named) ends.here] at ran
  dsimp only at ran
  split at ran
  · next replaced =>
    obtain ⟨-, rfl⟩ := Prod.mk.inj ran
    rcases FileTree.replaceFile_failed replaced with
      same | ⟨source, fresh, written, spare, -, rfl⟩
    · exact .of_same _ same
    · refine .of_put written spare.here spare.free fun same => ?_
      obtain ⟨-, last⟩ := List.append_inj' same rfl
      exact spare.other (List.singleton_inj.mp last ▸ named.fileName?_eq)
  · cases (Prod.mk.inj ran).1

variable {id : String} {entry : Entry}

theorem register_failed_keeps (ran : (register path id entry).run tree = (.error failure, after)) :
    Keeps tree after := by
  have keeps := prepareLock_keeps path tree
  rcases register_failed_cases ran with rfl | ⟨_, saved⟩
  · exact keeps
  · exact keeps.trans (save_failed saved).keeps

/-- **A registration that fails leaves files elsewhere at most** where the directory of the
registry is there. -/
theorem register_failed_beside (ends : tree.Ends path directory) (named : path.EndsIn name)
    (apart : ¬ tree.Leads true (lockPath path) (directory ++ [name]))
    (ran : (register path id entry).run tree = (.error failure, after)) :
    FilesBeside (directory ++ [name]) tree after := by
  have prepared := prepareLock_beside ends named apart
  rcases register_failed_cases ran with rfl | ⟨_, saved⟩
  · exact prepared
  · exact prepared.trans (save_beside (ends.mono prepared.keeps) named saved)

end Beside

/-! ## Where failing registrations change nothing that is read -/

/-- What is read at the path of a registry does not depend on its lock nor on temporary files. The
path leads to something, or to a missing name in a directory that is there, and then the path of
the lock does not lead to that name. There a call that fails would leave an empty file under it.
That is read but is no registry, and so a tree can be `Settled` without this. -/
inductive Steady (path : Path) (tree : FileTree) : Prop where
  | stands {place : List String} (leads : tree.Leads true path place)
      (found : tree.look place ≠ none)
  | vacant {directory : List String} {name : String} (ends : tree.Ends path directory)
      (named : path.EndsIn name) (short : name.utf8ByteSize ≤ FileTree.nameLimit)
      (free : tree.look (directory ++ [name]) = none)
      (apart : ¬ tree.Leads true (lockPath path) (directory ++ [name]))

section Steady

variable {path : Path} {before after : FileTree}

theorem steady_of_readText {text : String} (read : before.readText path = .ok text) :
    Steady path before := by
  obtain ⟨place, bytes, leads, isFile, -⟩ := FileTree.readText_ok_iff.mp read
  exact .stands leads (by rw [isFile]; simp)

/-- What is read stays as it is in a tree that is kept, if what is new are files elsewhere
wherever nothing stands at the path. -/
theorem Steady.kept (steady : Steady path before) (keeps : Keeps before after)
    (beside : ∀ directory name, before.Ends path directory → path.EndsIn name →
      ¬ before.Leads true (lockPath path) (directory ++ [name]) →
        FilesBeside (directory ++ [name]) before after) :
    after.readText path = before.readText path ∧ Steady path after := by
  cases steady with
  | stands leads found =>
    refine ⟨leads.readText_mono keeps found, .stands (leads.mono keeps found) ?_⟩
    obtain ⟨shape, stood⟩ := Option.ne_none_iff_exists'.mp found
    rw [keeps.look _ _ stood]
    exact Option.some_ne_none _
  | @vacant directory name ends named short free apart =>
    have beside := beside directory name ends named apart
    have free' := beside.vacant free
    have leads := ends.leads named short (fun _ linked => by rw [free] at linked; cases linked) true
    have leads' := (ends.mono keeps).leads named short
      (fun _ linked => by rw [free'] at linked; cases linked) true
    refine ⟨?_, .vacant (ends.mono keeps) named short free' fun led => apart (beside.leads led)⟩
    rw [leads'.readText_vacant free', leads.readText_vacant free]

/-- Preparing the lock brings no other registry to light there. -/
theorem Steady.settled (steady : Steady path before) : Settled path before := by
  intro between registry prepared loaded
  have keeps := prepareLock_keeps path before
  rw [prepared] at keeps
  obtain ⟨read, -⟩ := steady.kept keeps fun directory name ends named apart => by
    have beside := prepareLock_beside ends named apart
    rwa [prepared] at beside
  rw [← load_congr read, loaded]

variable {id : String} {entry : Entry}

/-- **A registration that fails leaves what is read at the path as it is.** -/
theorem Steady.register_failed (steady : Steady path before) {failure : Failure}
    (ran : (register path id entry).run before = (.error failure, after)) :
    after.readText path = before.readText path ∧ Steady path after :=
  steady.kept (register_failed_keeps ran) fun _ _ ends named apart =>
    register_failed_beside ends named apart ran

/-- **A registration that succeeds** leaves what a call leaves that runs alone. -/
theorem Steady.register_done (steady : Steady path before)
    (ran : (register path id entry).run before = (.ok (), after)) :
    registerOnce (before.readText path) (id, entry) = some (after.readText path) ∧
      Steady path after := by
  obtain ⟨registry, -, read⟩ := register_settled steady.settled ran
  exact ⟨registerOnce_of_register steady.settled ran, steady_of_readText read⟩

end Steady

/-! ## Runs of the machine -/

section Runs

variable {ι : Type} {calls : ι → String × Entry} {path : Path} {tree : FileTree}

/-- **A registration in a file tree is a run of the machine,** in which nothing else happens. A
call that fails is refused the lock, or takes it and gives it back. -/
theorem register_runs [DecidableEq ι] {state : State ι} {i : ι} (waits : state.stage i = .waiting)
    (free : state.lock = none) (steady : Steady path tree)
    (reads : state.content = tree.readText path) {result : Except Failure Unit} {after : FileTree}
    (ran : (register path (calls i).1 (calls i).2).run tree = (result, after)) :
    ∃ next, Relation.ReflTransGen (Step calls) state next ∧ next.lock = none ∧
      next.content = after.readText path ∧
      next.stage = Function.update state.stage i (if result.isOk then .succeeded else .failed) ∧
      next.holders =
        if ((prepareLock path).run tree).1.isOk then state.holders ++ [i] else state.holders := by
  cases result with
  | error failure =>
    have same := (steady.register_failed ran).1
    cases locked : ((prepareLock path).run tree).1 with
    | error reason =>
      exact ⟨_, .single (.refuse waits), free, reads.trans same.symm, rfl, rfl⟩
    | ok _ =>
      refine ⟨_, .head (.acquire waits free) <| .head (.fail (i := i) ?_ ?_) <|
        .single (.giveUp (State.enter_self ..)), rfl, reads.trans same.symm, ?_, rfl⟩
      · exact congrArg Stage.isInside (State.enter_self ..)
      · exact congrArg Stage.hasSaved (State.enter_self ..)
      · simp [State.enter, Except.isOk, Except.toBool]
  | ok _ =>
    obtain ⟨between, registry, prepared, -, -⟩ := register_saved ran
    obtain ⟨once, -⟩ := steady.register_done ran
    obtain ⟨registry, found, isText⟩ := Option.map_eq_some_iff.mp once
    rw [← reads] at found
    obtain ⟨next, run, isFree, stage, content, holders⟩ := runs_alone calls waits free found
    refine ⟨next, run, isFree, content.trans isText, stage, ?_⟩
    rw [holders, prepared]
    rfl

/-- The calls that succeed among calls that are made one after the other, whether they succeed or
not. -/
def succeeding (path : Path) (calls : ι → String × Entry) : List ι → FileTree → List ι
  | [], _ => []
  | i :: rest, tree =>
    let (result, after) := (register path (calls i).1 (calls i).2).run tree
    if result.isOk then i :: succeeding path calls rest after else succeeding path calls rest after

theorem succeeding_cons {i : ι} {rest : List ι} {result : Except Failure Unit} {after : FileTree}
    (ran : (register path (calls i).1 (calls i).2).run tree = (result, after)) :
    succeeding path calls (i :: rest) tree =
      if result.isOk then i :: succeeding path calls rest after
      else succeeding path calls rest after := by
  rw [succeeding, ran]

theorem registerEach_cons {i : ι} {rest : List ι} {result : Except Failure Unit} {after : FileTree}
    (ran : (register path (calls i).1 (calls i).2).run tree = (result, after)) :
    registerEach path ((i :: rest).map calls) tree = registerEach path (rest.map calls) after := by
  rw [List.map_cons, registerEach, List.foldl_cons, ran, ← registerEach]

theorem succeeding_subset {order : List ι} : succeeding path calls order tree ⊆ order := by
  induction order generalizing tree with
  | nil => exact List.Subset.refl []
  | cons i rest ih =>
    rw [succeeding_cons rfl]
    split
    · exact List.cons_subset_cons i ih
    · exact List.subset_cons_of_subset i ih

/-- **Calls that fail make no difference:** calls that are made one after the other, whether they
succeed or not, leave what those that succeed leave in turn. -/
theorem registerInTurn_of_registerEach (steady : Steady path tree) (order : List ι) :
    registerInTurn (tree.readText path) ((succeeding path calls order tree).map calls) =
      some ((registerEach path (order.map calls) tree).readText path) := by
  induction order generalizing tree with
  | nil => rfl
  | cons i rest ih =>
    rcases ran : (register path (calls i).1 (calls i).2).run tree with ⟨failure | _, after⟩
    · obtain ⟨same, steady'⟩ := steady.register_failed ran
      rw [succeeding_cons ran, registerEach_cons ran, ← same]
      exact ih steady'
    · obtain ⟨once, steady'⟩ := steady.register_done ran
      rw [succeeding_cons ran, registerEach_cons ran]
      change registerInTurn _ (calls i :: (succeeding path calls rest after).map calls) = _
      rw [registerInTurn_cons, once]
      exact ih steady'

/-- Calls that wait go on, one after the other, in a run of the machine. -/
theorem registerEach_goes_on [DecidableEq ι] {order : List ι} (once : order.Nodup)
    {state : State ι} (waits : ∀ i ∈ order, state.stage i = .waiting) (free : state.lock = none)
    (steady : Steady path tree) (reads : state.content = tree.readText path) :
    ∃ next, Relation.ReflTransGen (Step calls) state next ∧ next.lock = none ∧
      next.content = (registerEach path (order.map calls) tree).readText path ∧
      ∀ i, next.stage i =
        if i ∈ succeeding path calls order tree then .succeeded
        else if i ∈ order then .failed else state.stage i := by
  induction order generalizing state tree with
  | nil => exact ⟨state, .refl, free, reads, fun i => by simp [succeeding]⟩
  | cons i rest ih =>
    obtain ⟨apart, once⟩ := List.nodup_cons.mp once
    rcases ran : (register path (calls i).1 (calls i).2).run tree with ⟨result, after⟩
    obtain ⟨middle, first, isFree, content, stage, -⟩ :=
      register_runs (waits i List.mem_cons_self) free steady reads ran
    have steady' : Steady path after := by
      cases result with
      | error failure => exact (steady.register_failed ran).2
      | ok _ => exact (steady.register_done ran).2
    have others {j : ι} (other : j ≠ i) : middle.stage j = state.stage j := by
      rw [stage, Function.update_of_ne other]
    obtain ⟨next, further, isFree', content', stages⟩ := ih once
      (fun j among => by
        rw [others (ne_of_mem_of_not_mem among apart)]
        exact waits j (List.mem_cons_of_mem i among)) isFree steady' content
    refine ⟨next, first.trans further, isFree', ?_, fun j => ?_⟩
    · rw [content', registerEach_cons ran]
    · rw [stages, succeeding_cons ran]
      by_cases here : j = i
      · subst here
        have notLater : j ∉ succeeding path calls rest after := fun among =>
          apart (succeeding_subset among)
        rw [if_neg notLater, if_neg apart, stage, Function.update_self]
        cases result <;> simp [notLater, Except.isOk, Except.toBool]
      · rw [others here]
        cases result <;> simp [here, Except.isOk, Except.toBool]

/-- **Calls that are made one after the other in a file tree are a run of the machine,** whether
they succeed or not: at the end the lock is free, at the path is what is read in the tree, and
each call has come to the end to which it has come there. -/
theorem registerEach_runs [DecidableEq ι] {order : List ι} (once : order.Nodup)
    (steady : Steady path tree) :
    ∃ state, Reachable calls (tree.readText path) state ∧ state.lock = none ∧
      state.content = (registerEach path (order.map calls) tree).readText path ∧
      ∀ i, state.stage i =
        if i ∈ succeeding path calls order tree then .succeeded
        else if i ∈ order then .failed else .waiting :=
  registerEach_goes_on once (fun _ _ => rfl) rfl steady rfl

end Runs

end Registry

end PluginAudit
