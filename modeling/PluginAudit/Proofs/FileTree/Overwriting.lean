import PluginAudit.Proofs.FileTree.Replacement
import PluginAudit.Proofs.Path.Directory

/-!
# Writing over what can be read

A text is read only at a path that ends in a name under which something stands
that is no directory (`readText_ends`). Making a directory that is there changes
nothing (`makeDirectories_there`), and a file can be replaced wherever its path
ends in such a name and the file system lets it be (`replaceFile_succeeds`).
-/

set_option autoImplicit false

namespace PluginAudit.FileTree

open PluginAudit.Path (Component)

/-! ## Where a text is read -/

section Reading

variable {tree : FileTree} {path : Path}

/-- The last step of a walk to a file is a name under which something stands that is no directory.
-/
theorem Walks.last_name {root : Node} {used : Nat} {place goal : List String} {last : Component}
    {bytes : ByteArray} (walk : Walks root true used place [last] goal)
    (isFile : root.look goal = some (.file bytes)) :
    ∃ name, last = .name name ∧ name.utf8ByteSize ≤ nameLimit ∧
      root.look (place ++ [name]) ≠ none ∧ root.look (place ++ [name]) ≠ some .directory := by
  have here := walk.starts_directory
  -- A directory has only directories above it.
  have above : ∀ higher more, place = higher ++ more → root.look higher = some .directory := by
    rintro higher more rfl
    cases more with
    | nil => rwa [List.append_nil] at here
    | cons name names => exact Node.look_directory_of_append here (by simp)
  cases walk with
  | fromRoot _ more =>
    cases more with
    | done there => rw [above [] place rfl] at isFile; cases isFile
  | stay _ more =>
    cases more with
    | done there => rw [here] at isFile; cases isFile
  | back _ more =>
    cases more with
    | done there =>
      rcases List.eq_nil_or_concat place with rfl | ⟨init, last, rfl⟩
      · rw [List.dropLast_nil, here] at isFile
        cases isFile
      · rw [List.concat_eq_append, List.dropLast_concat,
          above init [last] (List.concat_eq_append)] at isFile
        cases isFile
  | @enter _ _ _ name _ _ _ short there _ more =>
    cases more with
    | done stands => exact ⟨name, rfl, short, by simp [stands], by simp [isFile]⟩
  | stop _ _ _ stays => cases stays
  | gap _ _ there => rw [there] at isFile; cases isFile
  | @link _ _ _ name _ _ _ short there => exact ⟨name, rfl, short, by simp [there], by simp [there]⟩

/-- A path that is written has a step. -/
theorem pathSteps_ne_nil (written : path.text.toList ≠ []) : pathSteps path ≠ [] := by
  intro none
  obtain ⟨relative, steps, -⟩ : path.isAbsolute = false ∧ path.steps = [] ∧
      path.endsInSlash = false := by simpa [pathSteps] using none
  obtain ⟨c, rest, split⟩ := List.exists_cons_of_ne_nil written
  obtain ⟨init, last, whole, -⟩ := Path.pieces_append [] (by simp) rest
  have notSlash : c ≠ '/' := by simpa [Path.isAbsolute, split] using relative
  have parts : path.parts = [] := List.map_eq_nil_iff.mp steps
  rw [Path.parts, List.map_eq_nil_iff, split, Path.pieces, if_neg notSlash, whole] at parts
  cases init <;> simp at parts

/-- The steps of a path after those to its directory: the last one, and one that stays there
behind a slash. -/
theorem pathSteps_split (path : Path) :
    pathSteps path = directorySteps path ++
      (path.steps.getLast?.toList ++ if path.endsInSlash then [.here] else []) := by
  cases last : path.steps.getLast? with
  | some step => exact pathSteps_eq last
  | none => simp [pathSteps, directorySteps, List.getLast?_eq_none_iff.mp last]

/-- A path ends in a name when that is the last of all its steps. -/
theorem endsIn_of_pathSteps {name : String}
    (last : (pathSteps path).getLast? = some (.name name)) : path.EndsIn name := by
  rw [pathSteps_split] at last
  cases slash : path.endsInSlash with
  | true => simp [slash] at last
  | false =>
    cases isLast : path.steps.getLast? with
    | none =>
      rw [directorySteps, List.getLast?_eq_none_iff.mp isLast] at last
      cases absolute : path.isAbsolute <;> simp [slash, absolute] at last
    | some step =>
      refine ⟨?_, slash⟩
      simpa [slash, isLast] using last

/-- **A text is read only where a name is** under which something stands that is no directory. -/
theorem readText_ends {text : String} (read : tree.readText path = .ok text) :
    ∃ directory name, tree.Ends path directory ∧ path.EndsIn name ∧
      name.utf8ByteSize ≤ nameLimit ∧ tree.look (directory ++ [name]) ≠ none ∧
        tree.look (directory ++ [name]) ≠ some .directory := by
  obtain ⟨place, bytes, leads, isFile, -⟩ := readText_ok_iff.mp read
  obtain ⟨checked, used, -, walk⟩ := id leads
  obtain ⟨init, last, split⟩ := (List.eq_nil_or_concat (pathSteps path)).resolve_left
    (pathSteps_ne_nil (Path.checkPath_ok_iff.mp checked).2.1)
  rw [List.concat_eq_append] at split
  rw [split] at walk
  obtain ⟨_, _, _, _, _, _, onward⟩ := walk.split (by simp)
  obtain ⟨name, rfl, -⟩ := onward.last_name isFile
  have named : path.EndsIn name := endsIn_of_pathSteps (by rw [split, List.getLast?_concat])
  obtain ⟨directory, ends, _, further⟩ := leads.ends named.last
  rw [named.noSlash] at further
  obtain ⟨_, same, short, stands, noDirectory⟩ := further.last_name isFile
  obtain rfl := Component.name.inj same
  exact ⟨directory, name, ends, named, short, stands, noDirectory⟩

end Reading

/-! ## Directories that are there -/

/-- The directory in which a path ends, with its entries. -/
theorem Ends.ending {tree : FileTree} {path : Path} {directory : List String}
    (ends : tree.Ends path directory) :
    ∃ entries, tree.root.at? directory = some (.directory entries) ∧
      tree.ending path = .ok (directory, entries, path.steps.getLast?) := by
  obtain ⟨checked, ⟨used, bound, walk⟩, here⟩ := ends
  obtain ⟨entries, isAt⟩ := Node.look_directory.mp here
  refine ⟨entries, isAt, ?_⟩
  rw [ending_eq, checked]
  dsimp only
  rw [walk.walkLinks_eq, if_pos bound, Node.spot_found isAt]

section There

variable {tree : FileTree} {path : Path} {place : List String}
  (leads : tree.Leads true path place) (here : tree.look place = some .directory)

include leads here

theorem makeDirectory_there :
    (makeDirectory path).run tree = (.error .alreadyThere, tree) := by
  obtain ⟨checked, used, bound, walk⟩ := leads
  rw [pathSteps_split] at walk
  obtain ⟨before, after, directory, rfl, toDirectory, isDirectory, onward⟩ :=
    walk.split_directory here
  have ends : tree.Ends path directory :=
    ⟨checked, ⟨before, by omega, toDirectory⟩, isDirectory⟩
  obtain ⟨entries, isAt, ending⟩ := ends.ending
  rw [run_makeDirectory, ending]
  generalize path.steps.getLast? = last at onward
  rcases last with _ | (_ | _ | _ | name)
  · rfl
  · rfl
  · rfl
  · rfl
  · have found : tree.root.look place ≠ none := by
      rw [show tree.root.look place = _ from here]
      simp
    obtain ⟨short, stands⟩ := Walks.first_name onward found
    have isEntry : (entries.lookup name).isSome = true := by
      rw [Option.isSome_iff_ne_none]
      intro absent
      refine stands (Node.look_eq_none.mpr ?_)
      rw [Node.at?_snoc, isAt]
      exact absent
    have limit : ¬ nameLimit < name.utf8ByteSize := by omega
    simp only [limit, if_false, isEntry, if_true]

/-- **Making a directory that is there changes nothing.** -/
theorem makeDirectories_there : (makeDirectories path).run tree = (.ok (), tree) := by
  have isDirectory : tree.isDirectory path = true := by
    obtain ⟨entries, isAt⟩ := Node.look_directory.mp here
    rw [FileTree.isDirectory, locate_ok_iff.mpr ⟨leads, isAt⟩]
    rfl
  have checks : (unlessDirectory path .alreadyThere).run tree = (.ok (), tree) := by
    unfold unlessDirectory
    rw [run_bind, run_get]
    dsimp only
    rw [isDirectory]
    rfl
  unfold makeDirectories
  split
  · rfl
  · cases path.components.length <;>
      (rw [makeDirectoriesWithin, run_tryCatch, makeDirectory_there leads here]; exact checks)

end There

/-! ## Replacing what is there -/

/-- The file system lets the file at a path be replaced: a temporary file can be made in the
directory, and writing it, waiting for it and moving it is refused nowhere. -/
structure LetsReplace (tree : FileTree) (directory path : Path) : Prop where
  makes : ∃ place after, (makeTemporary directory path).run tree = (.ok place, after)
  writes : ∀ place, tree.refuses .write place = none
  syncs : ∀ place, tree.refuses .sync place = none
  replaces : ∀ place, tree.refuses .replace place = none

/-- The first name that is tried for a temporary file. -/
def firstName : String := temporaryName (temporaryLimit - 1)

/-- The file system lets a file be replaced that refuses nothing, if nothing has the first name
that is tried and the path of the directory leaves room for it. -/
theorem LetsReplace.of_free {tree : FileTree} {directory path : Path} {source : List String}
    {entries : List (String × Node)}
    (located : tree.locate true directory = .ok (source, .directory entries))
    (unused : firstName ∉ path.fileName?.toList ++ entries.map (·.1))
    (checked : checkPath (tree.pathFromRoot directory firstName) = .ok ())
    (permits : ∀ deed place, tree.refuses deed place = none) :
    tree.LetsReplace directory path := by
  have first : unusedName? (path.fileName?.toList ++ entries.map (·.1)) temporaryLimit =
      some firstName := by
    have taken : (path.fileName?.toList ++ entries.map (·.1)).contains firstName = false := by
      simpa using unused
    change (if List.contains _ firstName = true then _ else some firstName) = some firstName
    rw [taken]
    rfl
  refine ⟨?_, permits .write, permits .sync, permits .replace⟩
  unfold makeTemporary
  simp only [run_bind, run_get, run_lift, located, first, checked, run_permit, permits]
  exact ⟨_, _, rfl⟩

/-- Whether the first name that is tried for a temporary file can be used in a directory. -/
def hasRoom (tree : FileTree) (directory path : Path) : Bool :=
  match tree.locate true directory with
  | .ok (_, .directory entries) =>
    !(path.fileName?.toList ++ entries.map (·.1)).contains firstName &&
      (checkPath (tree.pathFromRoot directory firstName)).isOk
  | _ => false

theorem LetsReplace.of_hasRoom {tree : FileTree} {directory path : Path}
    (room : tree.hasRoom directory path = true)
    (permits : ∀ deed place, tree.refuses deed place = none) : tree.LetsReplace directory path := by
  unfold hasRoom at room
  split at room
  · next source entries located =>
    simp only [Bool.and_eq_true, Bool.not_eq_true', List.contains_eq_mem, decide_eq_false_iff_not]
      at room
    cases checked : checkPath (tree.pathFromRoot directory firstName) with
    | ok _ => exact .of_free located room.1 checked permits
    | error fault =>
      rw [checked] at room
      cases room.2
  · cases room

/-- A file is moved to where a path ends in a name that no directory has, unless that is refused.
-/
theorem moveFile_succeeds {tree : FileTree} {path : Path} {source place : List String}
    {name : String} {file : Node} (isFile : tree.root.at? source = some file)
    (ends : tree.Ends path place) (named : path.EndsIn name)
    (short : name.utf8ByteSize ≤ nameLimit)
    (noDirectory : tree.look (place ++ [name]) ≠ some .directory)
    (permits : tree.refuses .replace (place ++ [name]) = none) :
    ∃ after, (moveFile source path).run tree = (.ok (), after) := by
  obtain ⟨entries, isPlace, ending⟩ := ends.ending
  have other : (entries.lookup name).any Node.isDirectory = false := by
    rw [Option.any_eq_false]
    intro node isEntry
    rw [← Bool.not_eq_true]
    intro isDirectory
    refine noDirectory (Node.look_eq_some.mpr ⟨node, ?_, Node.isDirectory_iff.mp isDirectory⟩)
    rw [Node.at?_snoc, isPlace]
    exact isEntry
  have limit : ¬ nameLimit < name.utf8ByteSize := by omega
  rw [run_moveFile, ending, named.last, isFile]
  simp only [limit, if_false, named.noSlash, other, permits, Bool.false_eq_true]
  exact ⟨_, rfl⟩

/-- **A file can be replaced** where its path ends in a name that no directory has, if the file
system lets it be. -/
theorem replaceFile_succeeds {tree : FileTree} {directory path : Path} {place : List String}
    {name : String} (bytes : ByteArray) (lets : tree.LetsReplace directory path)
    (ends : tree.Ends path place) (named : path.EndsIn name)
    (short : name.utf8ByteSize ≤ nameLimit)
    (noDirectory : tree.look (place ++ [name]) ≠ some .directory) :
    ∃ after, (replaceFile directory path bytes).run tree = (.ok (), after) := by
  rcases makeTemporary_cases directory path tree with
    ⟨fault, refused⟩ | ⟨source, fresh, spare, made⟩
  · obtain ⟨_, _, made⟩ := lets.makes
    rw [refused] at made
    cases (Prod.mk.inj made).1
  have temporary := Node.at?_set (.file bytes) spare.here fresh []
  rw [Node.at?_nil] at temporary
  obtain ⟨keeps, new⟩ := withNode_leaf (.file bytes) spare.here spare.free (by simp)
  -- What stands under the name is no directory once the temporary file is there either.
  have noDirectory' : (tree.withNode (source ++ [fresh]) (.file bytes)).look (place ++ [name]) ≠
      some .directory := by
    intro isDirectory
    cases before : tree.look (place ++ [name]) with
    | none => exact nomatch (new _ _ before isDirectory).2
    | some shape =>
      have still := keeps.look _ _ before
      exact noDirectory (before.trans (still.symm.trans isDirectory))
  obtain ⟨after, moves⟩ :=
    moveFile_succeeds temporary (ends.mono keeps) named short noDirectory' (lets.replaces _)
  refine ⟨after, ?_⟩
  rw [run_replaceFile, made]
  dsimp only
  rw [show (tree.withNode (source ++ [fresh]) (.file ByteArray.empty)).refuses .write _ = none
    from lets.writes _, withNode_withNode]
  dsimp only
  rw [show (tree.withNode (source ++ [fresh]) (.file bytes)).refuses .sync _ = none
    from lets.syncs _]
  dsimp only
  rw [moves]

end PluginAudit.FileTree
