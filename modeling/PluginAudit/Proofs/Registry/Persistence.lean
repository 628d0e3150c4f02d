import PluginAudit.Proofs.Path.Directory
import PluginAudit.Proofs.Registry.Registering

/-!
# A registration that succeeds can be seen

After a registration that succeeds, the path of the registry leads to a file
with the text of the new registry (`register_done`). That takes an argument: the
path may run through the very name that is replaced. It then follows a link
there, and the registry could not have been loaded through that link
(`no_way_through`).
-/

set_option autoImplicit false

namespace PluginAudit.FileTree

open PluginAudit.Path (Component)

/-! ## Where one path ends -/

theorem not_prefix_parent (directory : List String) (name : String) :
    ¬ directory ++ [name] <+: directory := by
  intro isPrefix
  have longer := isPrefix.length_le
  rw [List.length_append, List.length_singleton] at longer
  omega

/-- A path ends in one directory at most. -/
theorem Ends.unique {tree : FileTree} {path : Path} {directory other : List String}
    (ends : tree.Ends path directory) (ends' : tree.Ends path other) : directory = other := by
  obtain ⟨-, ⟨used, bound, walk⟩, here⟩ := ends
  obtain ⟨-, ⟨used', bound', walk'⟩, here'⟩ := ends'
  obtain ⟨entries, isAt⟩ := Node.look_directory.mp here
  obtain ⟨entries', isAt'⟩ := Node.look_directory.mp here'
  have walked := walk.walkLinks_eq linkLimit
  rw [walk'.walkLinks_eq linkLimit, if_pos bound, if_pos bound', Node.spot_found isAt,
    Node.spot_found isAt'] at walked
  exact (Spot.found.inj (Except.ok.inj walked)).1.symm

/-- Nothing is read at a path that a link at its end leads to a directory, and it is not told to
be missing. -/
theorem readText_of_link {tree : FileTree} {path : Path} {name target : String}
    {directory middle : List String} {before : Nat} (ends : tree.Ends path directory)
    (named : path.EndsIn name) (short : name.utf8ByteSize ≤ nameLimit)
    (linked : tree.look (directory ++ [name]) = some (.link target))
    (leads : target.isEmpty = false)
    (walk : Walks tree.root true before directory (pathSteps ⟨target⟩) middle)
    (isDirectory : tree.look middle = some .directory) :
    ∃ fault, tree.readText path = .error fault ∧ fault ≠ .notFound := by
  obtain ⟨checked, ⟨used, bound, toDirectory⟩, here⟩ := ends
  have last : Walks tree.root true (before + 1) directory [.name name] middle :=
    .link here short linked leads (fun _ => rfl) (by rwa [List.append_nil])
  have whole := toDirectory.append last here (by simp)
  have steps : pathSteps path = directorySteps path ++ [.name name] := by
    rw [pathSteps_eq named.last, named.noSlash]
    rfl
  by_cases few : used + (before + 1) ≤ linkLimit
  · have leads : tree.Leads true path middle := ⟨checked, _, few, steps ▸ whole⟩
    rw [leads.readText_eq]
    exact textOf_directory isDirectory
  · refine ⟨.tooManyLinks, ?_, by decide⟩
    rw [readText_eq, resolve_eq, checked, steps]
    dsimp only
    rw [whole.walkLinks_eq linkLimit, if_neg few]
    rfl

end PluginAudit.FileTree

namespace PluginAudit.Registry

open PluginAudit.FileTree (Keeps Ends Walks Node)

/-! ## Loading -/

theorem load_of_readText {tree : FileTree} {path : Path} {text : String}
    (read : tree.readText path = .ok text) :
    load tree path = (parse text).mapError fun reason =>
      .registry path.text ("failed to parse: " ++ reason) := by
  rw [load, read]

/-- A registry that is loaded is read from a text, or nothing is there. -/
theorem load_ok {tree : FileTree} {path : Path} {registry : Registry}
    (loaded : load tree path = .ok registry) :
    tree.readText path = .error .notFound ∧ registry = {} ∨
      ∃ text, tree.readText path = .ok text ∧ parse text = .ok registry := by
  unfold load at loaded
  split at loaded
  · next fault failed =>
    split at loaded
    · next missing =>
      rw [missing] at failed
      exact .inl ⟨failed, (Except.ok.inj loaded).symm⟩
    · cases loaded
  · next text read =>
    right
    cases parsed : parse text with
    | error reason => simp [parsed, Except.mapError] at loaded
    | ok found =>
      simp only [parsed, Except.mapError, Except.ok.injEq] at loaded
      exact ⟨text, read, loaded ▸ parsed⟩

/-! ## The lock beside the registry -/

section Beside

variable {path : Path} {name : String}

theorem steps_lockPath (named : path.EndsIn name) :
    (lockPath path).steps = path.steps.dropLast ++ [.name (name ++ ".lock")] := by
  rw [lockPath, named.steps_extended (by decide), step_lock]

theorem directorySteps_lockPath (named : path.EndsIn name) :
    FileTree.directorySteps (lockPath path) = FileTree.directorySteps path := by
  rw [FileTree.directorySteps, FileTree.directorySteps, steps_lockPath named,
    List.dropLast_concat, lockPath, named.isAbsolute_extended]

theorem checkPath_of_lockPath (named : path.EndsIn name)
    (checked : FileTree.checkPath (lockPath path) = .ok ()) : FileTree.checkPath path = .ok () := by
  refine Path.checkPath_of_sublist ?_ named.text_ne_nil checked
  rw [lockPath, Path.extended, String.toList_append]
  exact List.sublist_append_left _ _

/-- Once the lock is prepared, the registry's path ends in the directory of the lock. -/
theorem ends_of_prepareLock (named : path.EndsIn name) {tree between : FileTree}
    (prepared : (prepareLock path).run tree = (.ok (), between)) :
    ∃ directory, between.Ends path directory := by
  obtain ⟨-, leads⟩ := prepareLock_prepared named tree
  rw [prepared] at leads
  obtain ⟨place, shape, leads, stands, -⟩ := leads rfl
  have isLast : (lockPath path).steps.getLast? = some (.name (name ++ ".lock")) := by
    rw [steps_lockPath named, List.getLast?_concat]
  obtain ⟨directory, ⟨checked, walk, here⟩, -⟩ := leads.ends isLast
  rw [directorySteps_lockPath named] at walk
  exact ⟨directory, checkPath_of_lockPath named checked, walk, here⟩

end Beside

/-! ## What a registration leaves -/

/-- **The way to the registry does not lead through the registry.** Where a registry is loaded,
its path ends in a directory with a link under the registry's own name only if that link leads to
no directory. -/
theorem no_way_through {path : Path} {name target : String} {tree : FileTree} {registry : Registry}
    {directory : List String} {rest : List Path.Component} {before : Nat}
    (loaded : load tree path = .ok registry) (ends : tree.Ends path directory)
    (named : path.EndsIn name) (short : name.utf8ByteSize ≤ FileTree.nameLimit)
    (linked : tree.look (directory ++ [name]) = some (.link target))
    (leads : target.isEmpty = false)
    (walk : Walks tree.root true before directory (FileTree.pathSteps ⟨target⟩ ++ rest)
      directory) : False := by
  obtain ⟨before, -, middle, -, walk, isDirectory, -⟩ := walk.split_directory ends.here
  obtain ⟨fault, unread, other⟩ :=
    FileTree.readText_of_link ends named short linked leads walk isDirectory
  rcases load_ok loaded with ⟨missing, -⟩ | ⟨text, read, -⟩
  · rw [missing] at unread
    exact other (Except.error.inj unread).symm
  · rw [read] at unread
    cases unread

/-- A path from which a registry is loaded still ends in its directory once the registry has been
replaced: the walk there is the same, or it would follow a link under the registry's name. -/
theorem ends_replaced {path : Path} {name : String} {between middle after : FileTree}
    {registry : Registry} {directory : List String} {bytes : ByteArray}
    (loaded : load between path = .ok registry) (ends : between.Ends path directory)
    (named : path.EndsIn name) (short : name.utf8ByteSize ≤ FileTree.nameLimit)
    (keeps : Keeps between middle)
    (replaced : FileTree.Replaced directory name bytes middle after) :
    after.Ends path directory := by
  obtain ⟨checked, ⟨used, bound, walk⟩, here⟩ := ends
  have kept : ∀ place shape, ¬ directory ++ [name] <+: place →
      between.root.look place = some shape → after.root.look place = some shape :=
    fun place shape outside stands =>
      (replaced.look_elsewhere outside).trans (keeps.look place shape stands)
  have noDirectory : between.root.look (directory ++ [name]) ≠ some .directory :=
    fun isDirectory => replaced.noDirectory (keeps.look _ _ isDirectory)
  have hereAfter : after.look directory = some .directory :=
    kept _ _ (FileTree.not_prefix_parent directory name) here
  have workplace : after.workplace = between.workplace :=
    replaced.workplace.trans keeps.workplace
  rcases walk.elsewhere kept noDirectory here with
    still | ⟨target, rest, before, linked, leads, _, onward⟩
  · exact ⟨checked, ⟨used, bound, workplace ▸ still⟩, hereAfter⟩
  · exact (no_way_through loaded ⟨checked, ⟨used, bound, walk⟩, here⟩ named short linked leads
      onward).elim

/-- A save that succeeds replaces the file under the registry's name in the directory in which the
path ends. -/
theorem save_replaces {path : Path} {name : String} {registry : Registry}
    {before after : FileTree} {directory : List String} (ends : before.Ends path directory)
    (named : path.EndsIn name) (ran : (save path registry).run before = (.ok (), after)) :
    ∃ between, FileTree.DirectoriesMade (directoryOf path) before between ∧
      name.utf8ByteSize ≤ FileTree.nameLimit ∧
      FileTree.Replaced directory name registry.fileText.toUTF8 between after := by
  obtain ⟨between, place, made, endsAt, short, replaced⟩ := save_done named ran
  obtain rfl := (ends.mono made.keeps).unique endsAt
  exact ⟨between, made, short, replaced⟩

/-- A registry that has been saved is read at its path, if one was loaded there before. -/
theorem readText_of_save {path : Path} {name : String} {old registry : Registry}
    {before after : FileTree} {directory : List String} (loaded : load before path = .ok old)
    (ends : before.Ends path directory) (named : path.EndsIn name)
    (ran : (save path registry).run before = (.ok (), after)) :
    after.readText path = .ok registry.fileText := by
  obtain ⟨between, made, short, replaced⟩ := save_replaces ends named ran
  have leads := (ends_replaced loaded ends named short made.keeps replaced).leads named short
    (fun target linked => by rw [replaced.look_put] at linked; cases linked) true
  rw [leads.readText_eq, replaced.put]
  exact FileTree.text_toUTF8 registry.fileText

/-- A registration that succeeds has prepared the lock, has loaded a registry and has saved it
with the entry. -/
theorem register_saved {path : Path} {id : String} {entry : Entry} {before after : FileTree}
    (ran : (register path id entry).run before = (.ok (), after)) :
    ∃ between registry, (prepareLock path).run before = (.ok (), between) ∧
      load between path = .ok registry ∧
      (save path (registry.insert id entry)).run between = (.ok (), after) := by
  rw [run_register] at ran
  rcases prepared : (prepareLock path).run before with ⟨_ | _, between⟩
  · rw [prepared] at ran
    cases (Prod.mk.inj ran).1
  rw [prepared] at ran
  dsimp only at ran
  cases loaded : load between path with
  | error failure =>
    rw [loaded] at ran
    cases (Prod.mk.inj ran).1
  | ok registry =>
    rw [loaded] at ran
    exact ⟨between, registry, rfl, loaded, ran⟩

/-- A registration that fails leaves what preparing the lock leaves, or what a save that fails
leaves after that. -/
theorem register_failed_cases {path : Path} {id : String} {entry : Entry} {before after : FileTree}
    {failure : Failure} (ran : (register path id entry).run before = (.error failure, after)) :
    after = ((prepareLock path).run before).2 ∨
      ∃ registry, (save path registry).run ((prepareLock path).run before).2 =
        (.error failure, after) := by
  rw [run_register] at ran
  rcases prepared : (prepareLock path).run before with ⟨_ | _, between⟩
  · rw [prepared] at ran
    exact .inl (Prod.mk.inj ran).2.symm
  · rw [prepared] at ran
    dsimp only at ran
    cases loaded : load between path with
    | error reason =>
      rw [loaded] at ran
      exact .inl (Prod.mk.inj ran).2.symm
    | ok registry =>
      rw [loaded] at ran
      exact .inr ⟨_, ran⟩

/-- **After a registration that succeeds, the path leads to the text of the new registry:** the
one that was loaded under the lock, with the entry. -/
theorem register_done {path : Path} {id : String} {entry : Entry} {before after : FileTree}
    (ran : (register path id entry).run before = (.ok (), after)) :
    ∃ between registry, (prepareLock path).run before = (.ok (), between) ∧
      load between path = .ok registry ∧
      after.readText path = .ok (registry.insert id entry).fileText := by
  obtain ⟨between, registry, prepared, loaded, saved⟩ := register_saved ran
  obtain ⟨name, named⟩ := save_named saved
  refine ⟨between, registry, prepared, loaded, ?_⟩
  obtain ⟨directory, ends⟩ := ends_of_prepareLock named prepared
  exact readText_of_save loaded ends named saved

/-- Preparing the lock of a registry brings no other registry to light at the path, as it may
behind a step upwards from a directory that was missing. -/
def Settled (path : Path) (tree : FileTree) : Prop :=
  ∀ between registry, (prepareLock path).run tree = (.ok (), between) →
    load between path = .ok registry → load tree path = .ok registry

/-- It brings none to light where a text is. -/
theorem settled_of_readText {path : Path} {tree : FileTree} {text : String}
    (read : tree.readText path = .ok text) : Settled path tree := by
  intro between registry prepared loaded
  have keeps := prepareLock_keeps path tree
  rw [prepared] at keeps
  rw [load_of_readText (keeps.readText read)] at loaded
  rw [load_of_readText read, loaded]

/-- There the new registry is the one that was loaded before the registration, with the entry. -/
theorem register_settled {path : Path} {id : String} {entry : Entry} {before after : FileTree}
    (settled : Settled path before)
    (ran : (register path id entry).run before = (.ok (), after)) :
    ∃ registry, load before path = .ok registry ∧
      after.readText path = .ok (registry.insert id entry).fileText := by
  obtain ⟨between, registry, prepared, loaded, read⟩ := register_done ran
  exact ⟨registry, settled between registry prepared loaded, read⟩

/-! ## One registration after the other -/

/-- Registers plugins one after the other, as long as that succeeds. -/
def registerAll (path : Path) (calls : List (String × Entry)) : Operation Unit :=
  forM calls fun call => register path call.1 call.2

/-- What registrations at a path leave behind, one made after the other, whether they succeed or
not. -/
def registerEach (path : Path) (entries : List (String × Entry)) (tree : FileTree) : FileTree :=
  entries.foldl (fun tree call => ((register path call.1 call.2).run tree).2) tree

/-- The last of them comes after all others have succeeded. -/
theorem registerAll_concat_done {path : Path} {calls : List (String × Entry)}
    {call : String × Entry} {before after : FileTree}
    (ran : (registerAll path (calls ++ [call])).run before = (.ok (), after)) :
    ∃ between, (registerAll path calls).run before = (.ok (), between) ∧
      (register path call.1 call.2).run between = (.ok (), after) := by
  rw [registerAll, List.forM_append, FileTree.run_bind, ← registerAll] at ran
  rcases earlier : (registerAll path calls).run before with ⟨_ | _, between⟩
  · rw [earlier] at ran
    cases (Prod.mk.inj ran).1
  · rw [earlier] at ran
    exact ⟨between, rfl, by simpa using ran⟩

end PluginAudit.Registry
