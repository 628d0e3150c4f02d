import PluginAudit.Proofs.FileTree.Replacement
import PluginAudit.Registry.InTree

/-!
# Registering, step by step

A registration prepares the lock, loads the registry and saves it. What it does
to a tree is told by one equation for each of these. Preparing the lock keeps
the tree and adds directories and the lock file at most (`prepareLock_prepared`);
saving makes the directory of the registry, which adds at most directories, and
then replaces the file, or fails and leaves everything looking as before, but
for a temporary file that cannot be removed (`save_failed`). A registration
under the lock (`registerLocked`) does to the tree what a registration does, and
gives the lock back however it ends (`run_registerLocked`).
-/

set_option autoImplicit false

namespace PluginAudit.Registry

open PluginAudit.FileTree (run_bind run_get run_result run_finally_modify Keeps DirectoriesMade
  FileMade Same makeDirectories replaceFile openFile)

/-! ## Running operations -/

section Attempts

variable {ε α : Type} (path : Path) (describe : ε → String)
  (change : ExceptT ε (StateM FileTree) α) (tree : FileTree)

theorem run_attempt :
    (attempt path describe change).run tree =
      match change.run tree with
      | (.ok value, after) => (.ok value, after)
      | (.error fault, after) => (.error (.registry path.text (describe fault)), after) := by
  rw [attempt, FileTree.run_adapt]
  rcases change.run tree with ⟨_ | _, after⟩ <;> rfl

/-- An attempt ends in the tree in which the change ends. -/
theorem attempt_tree :
    ((attempt path describe change).run tree).2 = (change.run tree).2 := by
  rw [run_attempt]
  rcases change.run tree with ⟨_ | _, after⟩ <;> rfl

end Attempts

/-- A registration loads and saves once the lock is prepared. -/
theorem run_register (path : Path) (id : String) (entry : Entry) (tree : FileTree) :
    (register path id entry).run tree =
      match (prepareLock path).run tree with
      | (.error failure, after) => (.error failure, after)
      | (.ok _, between) =>
        match load between path with
        | .error failure => (.error failure, between)
        | .ok registry => (save path (registry.insert id entry)).run between := by
  unfold register
  rw [run_bind]
  rcases (prepareLock path).run tree with ⟨_ | _, between⟩
  · rfl
  · simp only [run_bind, run_get, run_result]
    cases load between path <;> rfl

/-! ## What may be new -/

/-- A tree is kept, and what is new are directories to which the directory of a registry or one
above it leads, and an empty file to which the path of its lock leads. -/
structure Prepared (path : Path) (before after : FileTree) : Prop where
  keeps : Keeps before after
  new : ∀ place shape, before.look place = none → after.look place = some shape →
    (shape = .directory ∧ ∃ above, (directoryOf path).UpTo above ∧ after.Leads true above place) ∨
      (shape = .file ByteArray.empty ∧ after.Leads true (lockPath path) place)

theorem Prepared.of_directories {path : Path} {before after : FileTree}
    (made : DirectoriesMade (directoryOf path) before after) : Prepared path before after :=
  ⟨made.keeps, fun place shape missing stands => .inl (made.new place shape missing stands)⟩

theorem Prepared.of_lock {path : Path} {before after : FileTree}
    (made : FileMade (lockPath path) before after) : Prepared path before after :=
  ⟨made.keeps, fun place shape missing stands => .inr (made.new place shape missing stands)⟩

theorem Prepared.refl (path : Path) (tree : FileTree) : Prepared path tree tree :=
  .of_directories (.refl _ tree)

theorem Prepared.trans {path : Path} {first second third : FileTree}
    (earlier : Prepared path first second) (later : Prepared path second third) :
    Prepared path first third := by
  refine ⟨earlier.keeps.trans later.keeps, ?_⟩
  intro place shape missing stands
  cases between : second.look place with
  | none => exact later.new place shape between stands
  | some earlierShape =>
    have still := later.keeps.look place _ between
    obtain rfl : earlierShape = shape := Option.some.inj (still.symm.trans stands)
    have found : second.look place ≠ none := by rw [between]; simp
    rcases earlier.new place earlierShape missing between with
      ⟨isDirectory, above, isAbove, leads⟩ | ⟨isEmpty, leads⟩
    · exact .inl ⟨isDirectory, above, isAbove, leads.mono later.keeps found⟩
    · exact .inr ⟨isEmpty, leads.mono later.keeps found⟩

/-! ## Preparing the lock -/

/-- Behind a name, the end of a lock makes another name. -/
theorem step_lock (name : String) : Path.step (name ++ ".lock") = .name (name ++ ".lock") := by
  have long : 5 ≤ (name ++ ".lock").length := by
    rw [String.length_append]
    exact Nat.le_add_left 5 _
  have notHere : name ++ ".lock" ≠ "." := by
    intro same
    rw [same] at long
    exact absurd long (by decide)
  have notUp : name ++ ".lock" ≠ ".." := by
    intro same
    rw [same] at long
    exact absurd long (by decide)
  rw [Path.step, if_neg notHere, if_neg notUp]

/-- The lock is in the directory of the registry. -/
theorem parent?_lockPath {path : Path} {name : String} (named : path.EndsIn name) :
    (lockPath path).parent? = path.parent? ∧ ∃ above, path.parent? = some above :=
  named.parent?_extended (by decide) (step_lock name)

/-- Making the parent of a registry is making its directory. -/
theorem makeParent_made {path parent : Path} (isParent : path.parent? = some parent)
    (tree : FileTree) :
    DirectoriesMade (directoryOf path) tree ((makeDirectories parent).run tree).2 := by
  have isDirectory : directoryOf path = if parent.text.isEmpty then ⟨"."⟩ else parent := by
    rw [directoryOf, isParent]
  cases unnamed : parent.text.isEmpty with
  | true =>
    rw [makeDirectories, unnamed]
    exact .refl _ tree
  | false =>
    rw [isDirectory, unnamed]
    exact FileTree.makeDirectories_made parent tree

/-- Opening the lock file and taking its lock. -/
def openLock (path : Path) : Operation Unit := do
  attempt path (FileTree.Fault.during "failed to open lock file") (openFile (lockPath path))
  attempt path (FileTree.Fault.during "failed to acquire exclusive lock")
    (FileTree.lockFile (lockPath path))

theorem prepareLock_eq (path : Path) :
    prepareLock path =
      match (lockPath path).parent? with
      | some parent => do
        attempt path (FileTree.Fault.during "failed to create lock directory")
          (makeDirectories parent)
        openLock path
      | none => openLock path := by
  unfold prepareLock openLock
  cases (lockPath path).parent? <;> rfl

/-- Taking the lock changes no more than opening its file does. -/
theorem openLock_tree (path : Path) (tree : FileTree) :
    ((openLock path).run tree).2 = ((openFile (lockPath path)).run tree).2 := by
  unfold openLock
  rw [run_bind, run_attempt]
  rcases (openFile (lockPath path)).run tree with ⟨fault | _, after⟩
  · rfl
  · dsimp only
    rw [attempt_tree, FileTree.run_lockFile]

/-- Opening the lock changes nothing, or it makes an empty file under a missing name to which the
path of the lock leads. -/
theorem openLock_cases (path : Path) (tree : FileTree) :
    ((openLock path).run tree).2 = tree ∨
      ∃ directory name, tree.Leads true (lockPath path) (directory ++ [name]) ∧
        tree.look directory = some .directory ∧ tree.look (directory ++ [name]) = none ∧
        ((openLock path).run tree).2 =
          tree.withNode (directory ++ [name]) (.file ByteArray.empty) := by
  rw [openLock_tree, FileTree.run_openFile]
  split
  · exact .inl rfl
  · exact .inl rfl
  · split <;> exact .inl rfl
  · next directory name resolved =>
    obtain ⟨leads, walked⟩ := FileTree.walked_of_resolve resolved
    obtain ⟨here, vacant⟩ := FileTree.vacant_of_walkLinks walked
    split
    · exact .inl rfl
    · exact .inr ⟨directory, name, leads, here, vacant, rfl⟩

/-- Opening the lock makes the lock file at most; if its lock is taken, the path leads to
something that is no directory. -/
theorem openLock_made (path : Path) (tree : FileTree) :
    FileMade (lockPath path) tree ((openLock path).run tree).2 ∧
      (((openLock path).run tree).1 = .ok () →
        ∃ place shape, ((openLock path).run tree).2.Leads true (lockPath path) place ∧
          ((openLock path).run tree).2.look place = some shape ∧ shape ≠ .directory) := by
  obtain ⟨made, leads⟩ := FileTree.openFile_made (lockPath path) tree
  rw [openLock_tree]
  refine ⟨made, fun ok => leads ?_⟩
  unfold openLock at ok
  rw [run_bind, run_attempt] at ok
  rcases ran : (openFile (lockPath path)).run tree with ⟨fault | _, after⟩
  · rw [ran] at ok
    cases ok
  · rfl

/-- Preparing the lock keeps the tree, whatever the path. -/
theorem prepareLock_keeps (path : Path) (tree : FileTree) :
    Keeps tree ((prepareLock path).run tree).2 := by
  rw [prepareLock_eq]
  cases (lockPath path).parent? with
  | none => exact (openLock_made path tree).1.keeps
  | some parent =>
    have made := (FileTree.makeDirectories_made parent tree).keeps
    dsimp only
    rw [run_bind, run_attempt]
    rcases result : (makeDirectories parent).run tree with ⟨_ | _, between⟩
    · rw [result] at made
      exact made
    · rw [result] at made
      exact made.trans (openLock_made path between).1.keeps

/-- **Preparing the lock adds directories and the lock file at most,** however it ends; if it
succeeds, the lock's path leads to something that is no directory. -/
theorem prepareLock_prepared {path : Path} {name : String} (named : path.EndsIn name)
    (tree : FileTree) :
    Prepared path tree ((prepareLock path).run tree).2 ∧
      (((prepareLock path).run tree).1 = .ok () →
        ∃ place shape, ((prepareLock path).run tree).2.Leads true (lockPath path) place ∧
          ((prepareLock path).run tree).2.look place = some shape ∧ shape ≠ .directory) := by
  obtain ⟨sameParent, parent, isParent⟩ := parent?_lockPath named
  have made := makeParent_made isParent tree
  rw [prepareLock_eq, sameParent, isParent]
  dsimp only
  rw [run_bind, run_attempt]
  rcases result : (makeDirectories parent).run tree with ⟨_ | _, between⟩
  · rw [result] at made
    exact ⟨.of_directories made, fun ok => nomatch ok⟩
  · rw [result] at made
    obtain ⟨opened, leads⟩ := openLock_made path between
    exact ⟨(Prepared.of_directories made).trans (.of_lock opened), leads⟩

/-! ## Saving -/

theorem run_save (path : Path) (registry : Registry) (tree : FileTree) :
    (save path registry).run tree =
      match (makeDirectories (directoryOf path)).run tree with
      | (.error fault, after) =>
        (.error (.registry path.text (fault.during "failed to create directory")), after)
      | (.ok _, between) =>
        match (replaceFile (directoryOf path) path registry.fileText.toUTF8).run between with
        | (.error (step, fault), after) =>
          (.error (.registry path.text
            (replacing (between.temporaryPath (directoryOf path) path) step fault)), after)
        | (.ok (), after) => (.ok (), after) := by
  unfold save
  rw [run_bind, run_attempt]
  rcases (makeDirectories (directoryOf path)).run tree with ⟨_ | _, between⟩
  · rfl
  · dsimp only
    rw [run_bind, run_get]
    dsimp only
    rw [run_attempt]
    rcases (replaceFile (directoryOf path) path registry.fileText.toUTF8).run between with
      ⟨_ | _, _⟩ <;> rfl

/-- A save that succeeds has made the directory and has replaced the file. -/
theorem save_ok {path : Path} {registry : Registry} {before after : FileTree}
    (ran : (save path registry).run before = (.ok (), after)) :
    ∃ between, DirectoriesMade (directoryOf path) before between ∧
      (replaceFile (directoryOf path) path registry.fileText.toUTF8).run between =
        (.ok (), after) := by
  have made := FileTree.makeDirectories_made (directoryOf path) before
  rw [run_save] at ran
  rcases result : (makeDirectories (directoryOf path)).run before with ⟨_ | _, between⟩
  · rw [result] at ran
    cases (Prod.mk.inj ran).1
  · rw [result] at ran made
    refine ⟨between, made, ?_⟩
    dsimp only at ran
    split at ran
    · cases (Prod.mk.inj ran).1
    · next replaced =>
      rw [replaced, (Prod.mk.inj ran).2]

theorem save_named {path : Path} {registry : Registry} {before after : FileTree}
    (ran : (save path registry).run before = (.ok (), after)) : ∃ name, path.EndsIn name := by
  obtain ⟨_, -, replaced⟩ := save_ok ran
  exact FileTree.replaceFile_named replaced

/-- A tree is kept, and what is new has been added before a registration failed: directories, the
lock file, or the temporary file if the file system refuses to remove it. That is in the directory
of the registry, under another name than the last one of the registry's path. -/
structure LeftBehind (path : Path) (before after : FileTree) : Prop where
  keeps : Keeps before after
  new : ∀ place shape, before.look place = none → after.look place = some shape →
    (shape = .directory ∧ ∃ above, (directoryOf path).UpTo above ∧ after.Leads true above place) ∨
      (shape = .file ByteArray.empty ∧ after.Leads true (lockPath path) place) ∨
      ∃ directory fresh bytes, place = directory ++ [fresh] ∧ shape = .file bytes ∧
        after.Leads true (directoryOf path) directory ∧ path.fileName? ≠ some fresh ∧
        before.refuses .remove place ≠ none

theorem LeftBehind.of_prepared {path : Path} {before after : FileTree}
    (prepared : Prepared path before after) : LeftBehind path before after :=
  ⟨prepared.keeps, fun place shape missing stands =>
    (prepared.new place shape missing stands).imp_right .inl⟩

/-- What has been added before stands among what is left behind. -/
theorem LeftBehind.after_prepared {path : Path} {before between after : FileTree}
    (prepared : Prepared path before between) (left : LeftBehind path between after) :
    LeftBehind path before after := by
  refine ⟨prepared.keeps.trans left.keeps, ?_⟩
  intro place shape missing stands
  cases stood : between.look place with
  | none =>
    have new := left.new place shape stood stands
    rwa [prepared.keeps.refuses] at new
  | some earlier =>
    have still := left.keeps.look place _ stood
    obtain rfl : earlier = shape := Option.some.inj (still.symm.trans stands)
    have found : between.look place ≠ none := by rw [stood]; simp
    rcases prepared.new place earlier missing stood with
      ⟨isDirectory, above, isAbove, leads⟩ | ⟨isEmpty, leads⟩
    · exact .inl ⟨isDirectory, above, isAbove, leads.mono left.keeps found⟩
    · exact .inr (.inl ⟨isEmpty, leads.mono left.keeps found⟩)

/-- A replacement that fails leaves the temporary file behind at most. -/
theorem replaceFile_leftBehind {path : Path} {bytes : ByteArray} {before after : FileTree}
    {failure : FileTree.ReplacementStep × FileTree.Fault}
    (ran : (replaceFile (directoryOf path) path bytes).run before = (.error failure, after)) :
    LeftBehind path before after := by
  rcases FileTree.replaceFile_failed ran with
    same | ⟨source, fresh, written, spare, refused, rfl⟩
  · refine ⟨same.keeps, fun place shape missing stands => ?_⟩
    rw [same.look, missing] at stands
    cases stands
  · obtain ⟨keeps, new⟩ :=
      FileTree.withNode_leaf (.file written) spare.here spare.free (by simp)
    refine ⟨keeps, fun place shape missing stands => ?_⟩
    obtain ⟨rfl, rfl⟩ := new place shape missing stands
    exact .inr (.inr ⟨source, fresh, written, rfl, rfl,
      spare.leads.mono keeps (by rw [spare.here]; simp), spare.other, refused⟩)

/-- **A save that fails adds directories at most,** and a temporary file that cannot be removed.
-/
theorem save_failed {path : Path} {registry : Registry} {before after : FileTree}
    {failure : Failure} (ran : (save path registry).run before = (.error failure, after)) :
    LeftBehind path before after := by
  have made := FileTree.makeDirectories_made (directoryOf path) before
  rw [run_save] at ran
  rcases between : (makeDirectories (directoryOf path)).run before with ⟨_ | _, middle⟩
  · rw [between] at ran made
    obtain ⟨-, rfl⟩ := Prod.mk.inj ran
    exact .of_prepared (.of_directories made)
  · rw [between] at ran made
    dsimp only at ran
    split at ran
    · next replaced =>
      obtain ⟨-, rfl⟩ := Prod.mk.inj ran
      exact (replaceFile_leftBehind replaced).after_prepared (.of_directories made)
    · cases (Prod.mk.inj ran).1

/-- Saving does not change what the file system refuses. -/
theorem refuses_save (path : Path) (registry : Registry) (tree : FileTree) :
    ((save path registry).run tree).2.refuses = tree.refuses := by
  have made := (FileTree.makeDirectories_made (directoryOf path) tree).keeps.refuses
  rw [run_save]
  rcases ran : (makeDirectories (directoryOf path)).run tree with ⟨_ | _, between⟩
  · rw [ran] at made
    exact made
  · rw [ran] at made
    have replaced := FileTree.refuses_replaceFile (directoryOf path) path
      registry.fileText.toUTF8 between
    dsimp only
    rcases moved : (replaceFile (directoryOf path) path registry.fileText.toUTF8).run between with
      ⟨_ | _, after⟩ <;> (rw [moved] at replaced; exact replaced.trans made)

/-- Registering does not change what the file system refuses. -/
theorem refuses_register (path : Path) (id : String) (entry : Entry) (tree : FileTree) :
    ((register path id entry).run tree).2.refuses = tree.refuses := by
  have prepared := (prepareLock_keeps path tree).refuses
  rw [run_register]
  rcases ran : (prepareLock path).run tree with ⟨_ | _, between⟩
  · rw [ran] at prepared
    exact prepared
  · rw [ran] at prepared
    dsimp only
    cases load between path with
    | error failure => exact prepared
    | ok registry => exact (refuses_save path _ between).trans prepared

/-- **A save that succeeds makes directories and replaces one file.** -/
theorem save_done {path : Path} {name : String} {registry : Registry} {before after : FileTree}
    (named : path.EndsIn name) (ran : (save path registry).run before = (.ok (), after)) :
    ∃ between place, DirectoriesMade (directoryOf path) before between ∧
      between.Ends path place ∧ name.utf8ByteSize ≤ FileTree.nameLimit ∧
      FileTree.Replaced place name registry.fileText.toUTF8 between after := by
  obtain ⟨between, made, replaced⟩ := save_ok ran
  obtain ⟨place, ends, short, changed⟩ := FileTree.replaceFile_done named replaced
  exact ⟨between, place, made, ends, short, changed⟩

/-! ## Under the lock -/

/-- A file tree with the places of the files that are locked. -/
structure Guarded where
  tree : FileTree
  locked : List (List String)

/-- An operation on the tree while locks are held. -/
def guarded {α : Type} (operation : Operation α) : ExceptT Failure (StateM Guarded) α :=
  ExceptT.mk fun state =>
    let (result, after) := operation.run state.tree
    (result, { state with tree := after })

/-- Locks the file to which the path of the lock of a registry leads. -/
def acquire (path : Path) : ExceptT Failure (StateM Guarded) (List String) := do
  guarded (prepareLock path)
  match (← get).tree.canonical (lockPath path) with
  | .error fault =>
    throw (.registry path.text ("failed to acquire exclusive lock: " ++ fault.message))
  | .ok place =>
    modify fun state => { state with locked := place :: state.locked }
    pure place

/-- Registers a plugin under the lock, which is given back however that ends. -/
def registerLocked (path : Path) (id : String) (entry : Entry) :
    ExceptT Failure (StateM Guarded) Unit := do
  let place ← acquire path
  try
    let registry ← ExceptT.mk (pure (load (← get).tree path))
    guarded (save path (registry.insert id entry))
  finally
    modify fun state => { state with locked := state.locked.erase place }

theorem run_guarded {α : Type} (operation : Operation α) (tree : FileTree)
    (locked : List (List String)) :
    (guarded operation).run ⟨tree, locked⟩ =
      ((operation.run tree).1, ⟨(operation.run tree).2, locked⟩) := rfl

theorem run_acquire {path : Path} {name : String} (named : path.EndsIn name) (tree : FileTree)
    (locked : List (List String)) :
    (∃ failure after, (prepareLock path).run tree = (.error failure, after) ∧
        (acquire path).run ⟨tree, locked⟩ = (.error failure, ⟨after, locked⟩)) ∨
      ∃ place after, (prepareLock path).run tree = (.ok (), after) ∧
        (acquire path).run ⟨tree, locked⟩ = (.ok place, ⟨after, place :: locked⟩) := by
  unfold acquire
  rw [run_bind, run_guarded]
  have leads := (prepareLock_prepared named tree).2
  rcases ran : (prepareLock path).run tree with ⟨failure | _, after⟩
  · exact .inl ⟨failure, after, rfl, rfl⟩
  · rw [ran] at leads
    obtain ⟨place, shape, leads, stands, -⟩ := leads rfl
    obtain ⟨node, isAt, -⟩ := FileTree.Node.look_eq_some.mp stands
    refine .inr ⟨place, after, rfl, ?_⟩
    have found : after.canonical (lockPath path) = .ok place := by
      rw [FileTree.canonical, FileTree.locate_ok_iff.mpr ⟨leads, isAt⟩]
      rfl
    dsimp only
    rw [run_bind, run_get]
    dsimp only
    rw [found]
    rfl

/-- **Under the lock a registration does to the tree what it does without,** and the lock is free
afterwards, however it ends. -/
theorem run_registerLocked {path : Path} {name : String} (named : path.EndsIn name) (id : String)
    (entry : Entry) (tree : FileTree) (locked : List (List String)) :
    (registerLocked path id entry).run ⟨tree, locked⟩ =
      (((register path id entry).run tree).1, ⟨((register path id entry).run tree).2, locked⟩) := by
  unfold registerLocked
  rw [run_bind, run_register]
  rcases run_acquire named tree locked with
    ⟨failure, after, prepared, acquired⟩ | ⟨place, after, prepared, acquired⟩
  · rw [prepared, acquired]
  · rw [prepared, acquired]
    dsimp only
    rw [run_finally_modify, run_bind, run_get]
    dsimp only
    rw [run_bind]
    cases loaded : load after path with
    | error failure =>
      rw [run_result]
      simp
    | ok registry =>
      rw [run_result]
      dsimp only
      rw [run_guarded]
      simp

end PluginAudit.Registry
