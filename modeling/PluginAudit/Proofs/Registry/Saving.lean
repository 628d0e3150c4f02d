import PluginAudit.Proofs.FileTree.Overwriting
import PluginAudit.Proofs.Registry.Persistence

/-!
# A registry that has been read can be saved

Where a text is read, the directory of the path is there (`leads_directoryOf`)
and the name in it can be given to another file, so a save succeeds if the file
system lets it (`save_succeeds`). Where the text was that of a registry, the path then leads to
the text of the registry that was saved (`saved_text`).
-/

set_option autoImplicit false

namespace PluginAudit.Registry

section Directory

variable {path : Path} {name : String} {tree : FileTree} {place : List String}

/-- The path of the directory of a registry is made of steps of a path that can be one. -/
theorem directoryOf_moving {whole : Path} {moving : List Path.Component}
    (isParent : path.parent? = some (.ofComponents (Path.rooted whole.isAbsolute moving)))
    (sub : moving.Sublist whole.steps) (checked : FileTree.checkPath whole = .ok ()) :
    FileTree.checkPath (directoryOf path) = .ok () ∧
      (FileTree.pathSteps (directoryOf path)).filter (· != .here) =
        Path.rooted whole.isAbsolute (moving.filter (· != .here)) := by
  rw [directoryOf, isParent]
  cases moving with
  | nil => cases whole.isAbsolute <;> decide
  | cons first rest =>
    obtain ⟨checked', steps'⟩ := Path.directory_of_sublist sub (by simp) checked
    have written : (Path.ofComponents (Path.rooted whole.isAbsolute (first :: rest))).text.isEmpty =
        false := by
      rw [← Bool.not_eq_true, String.isEmpty_iff]
      intro empty
      exact (Path.checkPath_ok_iff.mp checked').2.1 (by rw [empty]; rfl)
    dsimp only
    rw [written, if_neg Bool.false_ne_true]
    refine ⟨checked', ?_⟩
    rw [steps', Path.rooted, Path.rooted]
    cases whole.isAbsolute <;> rfl

/-- A path leads to a directory where its steps do, those left out that stay where they are. -/
theorem leads_of_moving {steps : List Path.Component} {used : Nat}
    (checked : FileTree.checkPath path = .ok ()) (bound : used ≤ FileTree.linkLimit)
    (walk : FileTree.Walks tree.root true used tree.workplace steps place)
    (here : tree.look place = some .directory)
    (same : (FileTree.pathSteps path).filter (· != .here) = steps.filter (· != .here)) :
    tree.Leads true path place := by
  have start : tree.root.look tree.workplace = some .directory := by
    cases steps with
    | nil =>
      cases walk with
      | done _ => exact here
    | cons step rest => exact walk.starts_directory
  refine ⟨checked, used, bound, ?_⟩
  rwa [← FileTree.walks_moving_iff start here, same, FileTree.walks_moving_iff start here]

/-- The directory of a registry goes the way of the registry's path, but for the last step and
those that stay where they are. -/
theorem directoryOf_steps (named : path.EndsIn name)
    (checked : FileTree.checkPath path = .ok ()) :
    FileTree.checkPath (directoryOf path) = .ok () ∧
      (FileTree.pathSteps (directoryOf path)).filter (· != .here) =
        (FileTree.directorySteps path).filter (· != .here) := by
  obtain ⟨moving, isParent, sub, same⟩ := named.parent?_eq
  have steps : (FileTree.directorySteps path).filter (· != .here) =
      Path.rooted path.isAbsolute (moving.filter (· != .here)) := by
    rw [FileTree.directorySteps, List.filter_append, ← same, Path.rooted]
    cases path.isAbsolute <;> rfl
  rw [steps]
  exact directoryOf_moving isParent (sub.trans (List.dropLast_sublist _)) checked

/-- The directory in which the path of a registry ends is where the path of its directory leads.
-/
theorem leads_directoryOf (ends : tree.Ends path place) (named : path.EndsIn name) :
    tree.Leads true (directoryOf path) place := by
  obtain ⟨checked, ⟨used, bound, walk⟩, here⟩ := ends
  obtain ⟨checked', steps⟩ := directoryOf_steps named checked
  exact leads_of_moving checked' bound walk here steps

/-- Preparing the lock of a registry whose directory is there is opening it. -/
theorem run_prepareLock_there (named : path.EndsIn name)
    (leads : tree.Leads true (directoryOf path) place) (here : tree.look place = some .directory) :
    (prepareLock path).run tree = (openLock path).run tree := by
  obtain ⟨sameParent, parent, isParent⟩ := parent?_lockPath named
  have there : (FileTree.makeDirectories parent).run tree = (.ok (), tree) := by
    cases unnamed : parent.text.isEmpty with
    | true =>
      rw [FileTree.makeDirectories, unnamed]
      rfl
    | false =>
      rw [directoryOf, isParent] at leads
      dsimp only at leads
      rw [unnamed, if_neg Bool.false_ne_true] at leads
      exact FileTree.makeDirectories_there leads here
  rw [prepareLock_eq, sameParent, isParent]
  dsimp only
  rw [FileTree.run_bind, run_attempt, there]

end Directory

section Saving

variable {path : Path} {tree : FileTree} {text : String}

/-- **Where a text is read, a registry can be saved,** if the file system lets the file be
replaced. -/
theorem save_succeeds (read : tree.readText path = .ok text)
    (lets : tree.LetsReplace (directoryOf path) path) (registry : Registry) :
    ∃ after, (save path registry).run tree = (.ok (), after) := by
  obtain ⟨directory, name, ends, named, short, -, noDirectory⟩ := FileTree.readText_ends read
  have made := FileTree.makeDirectories_there (leads_directoryOf ends named) ends.here
  obtain ⟨after, replaced⟩ := FileTree.replaceFile_succeeds registry.fileText.toUTF8 lets ends
    named short noDirectory
  refine ⟨after, ?_⟩
  rw [run_save, made]
  dsimp only
  rw [replaced]

/-- **What has been saved where a registry was read is read again.** -/
theorem saved_text {old registry : Registry} {after : FileTree}
    (read : tree.readText path = .ok text) (loaded : load tree path = .ok old)
    (ran : (save path registry).run tree = (.ok (), after)) :
    after.readText path = .ok registry.fileText := by
  obtain ⟨directory, name, ends, named, -⟩ := FileTree.readText_ends read
  exact readText_of_save loaded ends named ran

/-- **A registration succeeds where a registry is read,** once its lock has been taken and if the
file system lets the file be replaced. -/
theorem register_succeeds {registry : Registry} (read : tree.readText path = .ok text)
    (parsed : parse text = .ok registry) {between : FileTree}
    (locked : (prepareLock path).run tree = (.ok (), between))
    (lets : between.LetsReplace (directoryOf path) path) (id : String) (entry : Entry) :
    ∃ after, (register path id entry).run tree = (.ok (), after) := by
  have keeps := prepareLock_keeps path tree
  rw [locked] at keeps
  have read := keeps.readText read
  obtain ⟨after, saved⟩ := save_succeeds read lets (registry.insert id entry)
  refine ⟨after, ?_⟩
  rw [run_register, locked]
  dsimp only
  rw [load_of_readText read, parsed]
  exact saved

end Saving

end PluginAudit.Registry
