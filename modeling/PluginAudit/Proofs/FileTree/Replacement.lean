import Mathlib.Data.String.Basic
import PluginAudit.Proofs.FileTree.Growth

/-!
# Replacing a file

The new content of a file is written under a name that nothing has and that is
not the last one of the path (`makeTemporary_cases`), and then moved over the
old one. If that fails in any of its steps, everything looks as it did, unless
the temporary file cannot be removed again (`replaceFile_failed`). If it
succeeds, only what stands at the name in which the path ends has changed
(`replaceFile_done`).
-/

set_option autoImplicit false

namespace PluginAudit.FileTree

open PluginAudit.Path (Component)

/-! ## Names of temporary files -/

/-- A name that an entry of a directory can have. -/
structure IsEntryName (name : String) : Prop where
  noSlash : '/' ∉ name.toList
  named : name.toList ≠ []
  isName : Path.step name = .name name
  short : name.utf8ByteSize ≤ nameLimit

/-- A character is written with four bytes at most. -/
theorem utf8Len_le (chars : List Char) : String.utf8Len chars ≤ 4 * chars.length := by
  induction chars with
  | nil => exact Nat.le_refl 0
  | cons c rest ih =>
    have size := c.utf8Size_le_four
    rw [String.utf8Len_cons, List.length_cons]
    omega

/-- The letters in the names of temporary files are no slashes. -/
theorem temporary_letter (digit : Nat) : ¬ '/' = Char.ofNat (97 + digit % 16) := by
  have few : digit % 16 < 16 := Nat.mod_lt _ (by decide)
  generalize digit % 16 = letter at few
  revert letter
  decide

theorem isEntryName_temporaryName (number : Nat) : IsEntryName (temporaryName number) := by
  have long : (temporaryName number).toList.length = 10 := by simp [temporaryName]
  have notHere : temporaryName number ≠ "." := fun same => absurd (same ▸ long) (by decide)
  have notUp : temporaryName number ≠ ".." := fun same => absurd (same ▸ long) (by decide)
  refine ⟨by simp [temporaryName, temporary_letter], by simp [temporaryName],
    by rw [Path.step, if_neg notHere, if_neg notUp], ?_⟩
  have bytes := utf8Len_le (temporaryName number).toList
  rw [long] at bytes
  rw [← String.ofList_toList (s := temporaryName number), String.utf8ByteSize_ofList]
  exact bytes.trans (by decide)

theorem unusedName?_some {taken : List String} {number : Nat} {name : String}
    (found : unusedName? taken number = some name) : name ∉ taken ∧ IsEntryName name := by
  induction number with
  | zero => cases found
  | succ number ih =>
    rw [unusedName?] at found
    split at found
    · exact ih found
    · next free =>
      obtain rfl := Option.some.inj found
      exact ⟨by simpa using free, isEntryName_temporaryName number⟩

/-! ## Looking the same -/

/-- Two trees look the same everywhere. -/
structure Same (before after : FileTree) : Prop where
  workplace : after.workplace = before.workplace
  refuses : after.refuses = before.refuses
  view : ∀ place, after.view place = before.view place

theorem Same.refl (tree : FileTree) : Same tree tree := ⟨rfl, rfl, fun _ => rfl⟩

theorem Same.keeps {before after : FileTree} (same : Same before after) : Keeps before after :=
  ⟨same.workplace, same.refuses, fun place _ stands => (same.view place).trans stands⟩

theorem Same.look {before after : FileTree} (same : Same before after) (place : List String) :
    after.look place = before.look place := look_of_view (same.view place)

/-- What is put under a free name and taken away again has never been there. -/
theorem same_without {tree : FileTree} {place : List String} {name : String} (node : Node)
    (free : tree.look (place ++ [name]) = none) :
    Same tree ((tree.withNode (place ++ [name]) node).without (place ++ [name])) := by
  refine ⟨rfl, rfl, fun other => ?_⟩
  by_cases within : place ++ [name] <+: other
  · obtain ⟨more, rfl⟩ := within
    have never : tree.look (place ++ [name] ++ more) = none := by
      cases more with
      | nil => rw [List.append_nil, free]
      | cons next more =>
        refine Node.look_none_below next ?_ more
        rw [show tree.root.look (place ++ [name]) = none from free]
        simp
    rw [view_eq_none.mpr never, List.append_assoc]
    exact view_without_self _ place name more
  · exact (view_without _ within).trans (view_withNode tree node within)

/-- What is stored twice at a place is what has been stored last. -/
theorem withNode_withNode (tree : FileTree) (place : List String) (old new : Node) :
    (tree.withNode place old).withNode place new = tree.withNode place new := by
  have reading : (fun other => if other = place then Reading.whole
      else if other = place then .whole else tree.reading other) =
      fun other => if other = place then .whole else tree.reading other := by
    funext other
    split <;> rfl
  simp only [withNode, Node.set_set, reading]

/-! ## Where paths end -/

/-- A path ends in a directory of a tree: all of its steps but the last lead there. -/
structure Ends (tree : FileTree) (path : Path) (directory : List String) : Prop where
  checked : checkPath path = .ok ()
  walk : ∃ used ≤ linkLimit,
    Walks tree.root true used tree.workplace (directorySteps path) directory
  here : tree.look directory = some .directory

theorem Ends.mono {before after : FileTree} {path : Path} {directory : List String}
    (ends : before.Ends path directory) (keeps : Keeps before after) :
    after.Ends path directory := by
  obtain ⟨checked, ⟨used, bound, walk⟩, here⟩ := ends
  refine ⟨checked, ⟨used, bound, ?_⟩, keeps.look _ _ here⟩
  rw [keeps.workplace]
  exact walk.mono keeps.look (by rw [show before.root.look directory = _ from here]; simp)

/-- A path that ends in a directory has ended there before a file was put under a free name. -/
theorem Ends.of_put {tree : FileTree} {path : Path} {directory place : List String}
    {name : String} {bytes : ByteArray}
    (ends : (tree.withNode (place ++ [name]) (.file bytes)).Ends path directory)
    (above : tree.look place = some .directory) (free : tree.look (place ++ [name]) = none) :
    tree.Ends path directory := by
  obtain ⟨checked, ⟨used, bound, walk⟩, here⟩ := ends
  have put := Node.look_set_self (.file bytes) above name
  have kept : ∀ other shape, ¬ place ++ [name] <+: other →
      (tree.withNode (place ++ [name]) (.file bytes)).root.look other = some shape →
        tree.root.look other = some shape :=
    fun other shape outside stands => (Node.look_set _ _ outside).symm.trans stands
  have noDirectory : (tree.withNode (place ++ [name]) (.file bytes)).root.look (place ++ [name]) ≠
      some .directory := by
    rw [show (tree.withNode (place ++ [name]) (.file bytes)).root.look _ = _ from put]
    simp
  rcases walk.elsewhere kept noDirectory here with before | ⟨_, _, _, linked, _⟩
  · refine ⟨checked, ⟨used, bound, before⟩, ?_⟩
    cases stands : tree.look directory with
    | none =>
      obtain ⟨rfl, isFile⟩ := (withNode_leaf _ above free (by simp)).2 _ _ stands here
      cases isFile
    | some shape =>
      have still := (withNode_leaf (.file bytes) above free (by simp)).1.look _ _ stands
      exact still.symm.trans here
  · rw [show (tree.withNode (place ++ [name]) (.file bytes)).root.look _ = _ from put] at linked
    cases linked

/-- A path that ends in a name leads to that name in the directory, unless a link stands there. -/
theorem Ends.leads {tree : FileTree} {path : Path} {directory : List String} {name : String}
    (ends : tree.Ends path directory) (named : path.EndsIn name)
    (short : name.utf8ByteSize ≤ nameLimit)
    (noLink : ∀ target, tree.look (directory ++ [name]) ≠ some (.link target)) (follow : Bool) :
    tree.Leads follow path (directory ++ [name]) := by
  obtain ⟨checked, ⟨used, bound, walk⟩, here⟩ := ends
  refine ⟨checked, used, bound, ?_⟩
  rw [pathSteps_eq named.last, named.noSlash, ← Nat.add_zero used]
  refine walk.append ?_ here (by simp)
  cases there : tree.look (directory ++ [name]) with
  | none => exact .gap here short there
  | some shape =>
    exact .enter here short there (fun target isLink => noLink target (isLink ▸ there))
      (.done there)

/-- The path has been followed to its directory before its last step. -/
theorem Leads.ends {tree : FileTree} {follow : Bool} {path : Path} {place : List String}
    {last : Component} (leads : tree.Leads follow path place)
    (isLast : path.steps.getLast? = some last) :
    ∃ directory, tree.Ends path directory ∧ ∃ used, Walks tree.root follow used directory
      (last :: if path.endsInSlash then [.here] else []) place := by
  obtain ⟨checked, used, bound, walk⟩ := leads
  rw [pathSteps_eq isLast] at walk
  obtain ⟨before, after, middle, rfl, walked, here, onward⟩ := walk.split (by simp)
  exact ⟨middle, ⟨checked, ⟨before, by omega, walked⟩, here⟩, after, onward⟩

/-! ## Moving -/

theorem run_moveFile (source : List String) (path : Path) (tree : FileTree) :
    (moveFile source path).run tree =
      match tree.ending path with
      | .error fault => (.error fault, tree)
      | .ok (place, entries, last) =>
        match last, tree.root.at? source with
        | some (.name name), some file =>
          if nameLimit < name.utf8ByteSize then (.error .nameTooLong, tree)
          else if path.endsInSlash then (.error .notDirectory, tree)
          else if (entries.lookup name).any Node.isDirectory then (.error .isDirectory, tree)
          else
            match tree.refuses .replace (place ++ [name]) with
            | some fault => (.error fault, tree)
            | none => (.ok (), (tree.withNode (place ++ [name]) file).without source)
        | _, _ => (.error .busy, tree) := by
  unfold moveFile
  simp only [run_bind, run_get, run_lift]
  rcases tree.ending path with fault | ⟨place, entries, last⟩
  · rfl
  · rcases last with _ | (_ | _ | _ | name)
    · rfl
    · rfl
    · rfl
    · rfl
    · cases tree.root.at? source with
      | none => rfl
      | some file =>
        have moves : (permit .replace (place ++ [name]) >>= fun _ =>
            set ((tree.withNode (place ++ [name]) file).without source) : Change Unit).run tree =
            match tree.refuses .replace (place ++ [name]) with
            | some fault => (.error fault, tree)
            | none => (.ok (), (tree.withNode (place ++ [name]) file).without source) := by
          rw [run_bind, run_permit]
          cases tree.refuses .replace (place ++ [name]) <;> rfl
        dsimp only
        split
        · rfl
        · split
          · rfl
          · rcases entries.lookup name with _ | (_ | _ | _)
            · exact moves
            · exact moves
            · exact moves
            · rfl

/-- A move that fails changes nothing; one that succeeds puts the file into the directory in which
the path ends. -/
theorem moveFile_cases (source : List String) (path : Path) (tree : FileTree) :
    (∃ fault, (moveFile source path).run tree = (.error fault, tree)) ∨
      ∃ place name file, tree.Ends path place ∧ path.EndsIn name ∧
        name.utf8ByteSize ≤ nameLimit ∧ tree.root.at? source = some file ∧
        tree.look (place ++ [name]) ≠ some .directory ∧
        (moveFile source path).run tree =
          (.ok (), (tree.withNode (place ++ [name]) file).without source) := by
  rw [run_moveFile]
  rcases ends : tree.ending path with fault | ⟨place, entries, last⟩
  · exact .inl ⟨fault, rfl⟩
  · obtain ⟨checked, walk, isAt, isLast⟩ := ending_ok ends
    dsimp only
    split
    · next _ _ name file isFile =>
      have stands : tree.look (place ++ [name]) = (entries.lookup name).map Node.shape := by
        rw [look, Node.look, Node.at?_snoc, isAt]
        rfl
      split
      · exact .inl ⟨_, rfl⟩
      · next short =>
        split
        · exact .inl ⟨_, rfl⟩
        · next noSlash =>
          split
          · exact .inl ⟨_, rfl⟩
          · next noDirectory =>
            split
            · exact .inl ⟨_, rfl⟩
            · refine .inr ⟨place, name, file, ⟨checked, walk, Node.look_directory.mpr ⟨_, isAt⟩⟩,
                ⟨isLast.symm, by simpa using noSlash⟩, by omega, isFile, ?_, rfl⟩
              rw [stands]
              intro isDirectory
              obtain ⟨node, old, shape⟩ := Option.map_eq_some_iff.mp isDirectory
              rw [old] at noDirectory
              exact noDirectory (Node.isDirectory_iff.mpr shape)
    · exact .inl ⟨_, rfl⟩

/-! ## Making the temporary file -/

/-- A name for a temporary file in a directory to which a path leads: nothing has it, and it is
not the last one of the path of the file that is replaced. -/
structure Spare (tree : FileTree) (directory path : Path) (source : List String)
    (fresh : String) : Prop where
  leads : tree.Leads true directory source
  here : tree.look source = some .directory
  free : tree.look (source ++ [fresh]) = none
  other : path.fileName? ≠ some fresh
  isName : IsEntryName fresh

/-- A temporary file is made under a spare name, or nothing changes. -/
theorem makeTemporary_cases (directory path : Path) (tree : FileTree) :
    (∃ fault, (makeTemporary directory path).run tree = (.error fault, tree)) ∨
      ∃ source fresh, tree.Spare directory path source fresh ∧
        (makeTemporary directory path).run tree =
          (.ok (source ++ [fresh]),
            tree.withNode (source ++ [fresh]) (.file ByteArray.empty)) := by
  unfold makeTemporary
  simp only [run_bind, run_get, run_lift]
  rcases located : tree.locate true directory with fault | ⟨source, _ | _ | entries⟩
  · exact .inl ⟨fault, rfl⟩
  · exact .inl ⟨_, rfl⟩
  · exact .inl ⟨_, rfl⟩
  · dsimp only
    rcases unused : unusedName? (path.fileName?.toList ++ entries.map (·.1)) temporaryLimit with
      _ | fresh
    · exact .inl ⟨_, rfl⟩
    · obtain ⟨leads, isAt⟩ := locate_ok_iff.mp located
      obtain ⟨isNew, isName⟩ := unusedName?_some unused
      rw [List.mem_append, not_or] at isNew
      have free : tree.look (source ++ [fresh]) = none := by
        rw [look, Node.look_eq_none, Node.at?_snoc, isAt]
        refine List.lookup_eq_none_iff.mpr fun entry among => ?_
        rw [bne_iff_ne]
        rintro rfl
        exact isNew.2 (List.mem_map.mpr ⟨entry, among, rfl⟩)
      have spare : tree.Spare directory path source fresh :=
        ⟨leads, Node.look_directory.mpr ⟨_, isAt⟩, free,
          fun same => isNew.1 (by rw [same]; simp), isName⟩
      dsimp only
      rw [run_bind, run_lift]
      cases checkPath (tree.pathFromRoot directory fresh) with
      | error fault => exact .inl ⟨fault, rfl⟩
      | ok _ =>
        dsimp only
        rw [run_bind, run_permit]
        cases tree.refuses .make (source ++ [fresh]) with
        | some fault => exact .inl ⟨fault, rfl⟩
        | none => exact .inr ⟨source, fresh, spare, rfl⟩

/-! ## Replacing -/

section Replacing

variable {directory path : Path} {bytes : ByteArray} {before after : FileTree}

theorem run_writeTemporary (temporary : List String) (bytes : ByteArray) (tree : FileTree) :
    (writeTemporary temporary bytes).run tree =
      match tree.refuses .write temporary with
      | some fault => (.error fault, tree)
      | none => (.ok (), tree.withNode temporary (.file bytes)) := by
  unfold writeTemporary
  rw [run_bind, run_permit]
  cases tree.refuses .write temporary <;> rfl

/-- What is done with a temporary file that has been made: it is written and moved, or it is taken
away again where a step fails. -/
theorem run_replaceFile (directory path : Path) (bytes : ByteArray) (tree : FileTree) :
    (replaceFile directory path bytes).run tree =
      match (makeTemporary directory path).run tree with
      | (.error fault, after) => (.error (.make, fault), after)
      | (.ok temporary, made) =>
        match made.refuses .write temporary with
        | some fault => (.error (.write, fault), made.withoutTemporary temporary)
        | none =>
          let written := made.withNode temporary (.file bytes)
          match written.refuses .sync temporary with
          | some fault => (.error (.sync, fault), written.withoutTemporary temporary)
          | none =>
            match (moveFile temporary path).run written with
            | (.ok (), after) => (.ok (), after)
            | (.error fault, after) =>
                (.error (.move, fault), after.withoutTemporary temporary) := by
  unfold replaceFile
  rw [run_bind, run_adapt]
  rcases (makeTemporary directory path).run tree with ⟨fault | temporary, made⟩
  · rfl
  · dsimp only [Except.mapError]
    rw [run_tryCatch, run_bind, run_adapt, run_writeTemporary]
    cases made.refuses .write temporary with
    | some fault => rfl
    | none =>
      dsimp only [Except.mapError]
      rw [run_bind, run_adapt, run_permit]
      cases (made.withNode temporary (.file bytes)).refuses .sync temporary with
      | some fault => rfl
      | none =>
        dsimp only [Except.mapError]
        rw [run_adapt]
        rcases (moveFile temporary path).run (made.withNode temporary (.file bytes)) with
          ⟨_ | _, _⟩ <;> rfl

/-- A replacement ends in one of three ways: no temporary file has been made and nothing has
changed; a step after that has failed, and the temporary file has been taken away as far as that
is possible; or the file has been moved to where the path ends. -/
theorem replaceFile_cases (directory path : Path) (bytes : ByteArray) (before : FileTree) :
    (∃ failure, (replaceFile directory path bytes).run before = (.error failure, before)) ∨
      ∃ source fresh, before.Spare directory path source fresh ∧
        ((∃ failure written, (replaceFile directory path bytes).run before = (.error failure,
            (before.withNode (source ++ [fresh]) (.file written)).withoutTemporary
              (source ++ [fresh]))) ∨
          ∃ place name,
            (before.withNode (source ++ [fresh]) (.file bytes)).Ends path place ∧
            path.EndsIn name ∧ name.utf8ByteSize ≤ nameLimit ∧
            (before.withNode (source ++ [fresh]) (.file bytes)).look (place ++ [name]) ≠
              some .directory ∧
            (replaceFile directory path bytes).run before =
              (.ok (), ((before.withNode (source ++ [fresh]) (.file bytes)).withNode
                (place ++ [name]) (.file bytes)).without (source ++ [fresh]))) := by
  rw [run_replaceFile]
  rcases makeTemporary_cases directory path before with
    ⟨fault, refused⟩ | ⟨source, fresh, spare, made⟩
  · rw [refused]
    exact .inl ⟨_, rfl⟩
  · rw [made]
    refine .inr ⟨source, fresh, spare, ?_⟩
    dsimp only
    split
    · exact .inl ⟨_, _, rfl⟩
    · rw [withNode_withNode]
      split
      · exact .inl ⟨_, _, rfl⟩
      · rcases moveFile_cases (source ++ [fresh]) path
            (before.withNode (source ++ [fresh]) (.file bytes)) with
          ⟨reason, failed⟩ | ⟨place, name, file, ends, named, short, isFile, noDirectory, done⟩
        · rw [failed]
          exact .inl ⟨_, _, rfl⟩
        · obtain rfl : Node.file bytes = file := by
            have put := Node.at?_set (.file bytes) spare.here fresh []
            rw [Node.at?_nil] at put
            exact Option.some.inj (put.symm.trans isFile)
          rw [done]
          exact .inr ⟨place, name, ends, named, short, noDirectory, rfl⟩

/-- A replacement does not change what is refused. -/
theorem refuses_replaceFile (directory path : Path) (bytes : ByteArray) (tree : FileTree) :
    ((replaceFile directory path bytes).run tree).2.refuses = tree.refuses := by
  rcases replaceFile_cases directory path bytes tree with
    ⟨_, failed⟩ | ⟨_, _, -, ⟨_, _, failed⟩ | ⟨_, _, _, _, _, _, done⟩⟩
  · rw [failed]
  · rw [failed, withoutTemporary]
    split <;> rfl
  · rw [done]
    rfl

/-- Only a path that ends in a name can be replaced. -/
theorem replaceFile_named
    (ran : (replaceFile directory path bytes).run before = (.ok (), after)) :
    ∃ name, path.EndsIn name := by
  rcases replaceFile_cases directory path bytes before with
    ⟨_, failed⟩ | ⟨_, _, -, ⟨_, _, failed⟩ | ⟨_, name, -, named, -⟩⟩
  · rw [failed] at ran
    cases (Prod.mk.inj ran).1
  · rw [failed] at ran
    cases (Prod.mk.inj ran).1
  · exact ⟨name, named⟩

/-- **A replacement that fails leaves everything looking as it did,** whichever step has failed.
Only where the file system refuses to remove the temporary file is this left. -/
theorem replaceFile_failed {failure : ReplacementStep × Fault}
    (ran : (replaceFile directory path bytes).run before = (.error failure, after)) :
    Same before after ∨
      ∃ source fresh written, before.Spare directory path source fresh ∧
        before.refuses .remove (source ++ [fresh]) ≠ none ∧
        after = before.withNode (source ++ [fresh]) (.file written) := by
  rcases replaceFile_cases directory path bytes before with
    ⟨_, failed⟩ | ⟨source, fresh, spare, ⟨_, written, failed⟩ | ⟨_, _, _, _, _, _, done⟩⟩
  · rw [failed] at ran
    exact .inl ((Prod.mk.inj ran).2 ▸ .refl before)
  · rw [failed] at ran
    obtain ⟨-, rfl⟩ := Prod.mk.inj ran
    unfold withoutTemporary
    split
    · next fault stuck =>
      have refused : before.refuses .remove (source ++ [fresh]) = some fault := stuck
      exact .inr ⟨source, fresh, written, spare, by rw [refused]; simp, rfl⟩
    · exact .inl (same_without _ spare.free)
  · rw [done] at ran
    cases (Prod.mk.inj ran).1

/-- Only what stands at a name of a directory has changed: it is a file with the given content,
which can be read, and it has not been a directory. -/
structure Replaced (directory : List String) (name : String) (bytes : ByteArray)
    (before after : FileTree) : Prop where
  workplace : after.workplace = before.workplace
  refuses : after.refuses = before.refuses
  noDirectory : before.look (directory ++ [name]) ≠ some .directory
  put : after.view (directory ++ [name]) = some (.file bytes, .whole)
  elsewhere : ∀ other, ¬ directory ++ [name] <+: other → after.view other = before.view other

section Replaced

variable {place : List String} {name : String}

theorem Replaced.look_put (replaced : Replaced place name bytes before after) :
    after.look (place ++ [name]) = some (.file bytes) := (view_eq_some.mp replaced.put).1

theorem Replaced.look_elsewhere (replaced : Replaced place name bytes before after)
    {other : List String} (outside : ¬ place ++ [name] <+: other) :
    after.look other = before.look other := look_of_view (replaced.elsewhere other outside)

end Replaced

/-- A file with a new name that is moved over another name of a directory. -/
theorem replaced_of_move {tree : FileTree} {source place : List String} {fresh name : String}
    (bytes : ByteArray) (here : tree.look source = some .directory)
    (free : tree.look (source ++ [fresh]) = none)
    (there : tree.look place = some .directory)
    (noDirectory : tree.look (place ++ [name]) ≠ some .directory)
    (apart : place ++ [name] ≠ source ++ [fresh]) :
    Replaced place name bytes tree
      (((tree.withNode (source ++ [fresh]) (.file bytes)).withNode (place ++ [name])
        (.file bytes)).without (source ++ [fresh])) := by
  -- Neither of the two places is below the other, as neither is a directory.
  have notBelow : ¬ source ++ [fresh] <+: place ++ [name] := by
    intro isPrefix
    rcases List.prefix_concat_iff.mp isPrefix with equal | above
    · exact apart equal.symm
    · refine Node.not_prefix_of_directory ?_ there above
      rw [show tree.root.look (source ++ [fresh]) = none from free]
      simp
  have still : (tree.withNode (source ++ [fresh]) (.file bytes)).look place =
      some .directory := (withNode_leaf _ here free (by simp)).1.look _ _ there
  refine ⟨rfl, rfl, noDirectory, ?_, ?_⟩
  · exact (view_without _ notBelow).trans (view_withNode_self _ still name)
  · intro other outside
    have aside : (((tree.withNode (source ++ [fresh]) (.file bytes)).withNode (place ++ [name])
        (.file bytes)).without (source ++ [fresh])).view other =
        ((tree.withNode (source ++ [fresh]) (.file bytes)).without (source ++ [fresh])).view
          other := by
      by_cases within : source ++ [fresh] <+: other
      · obtain ⟨more, rfl⟩ := within
        rw [List.append_assoc]
        exact (view_without_self _ source fresh more).trans
          (view_without_self _ source fresh more).symm
      · exact ((view_without _ within).trans (view_withNode _ _ outside)).trans
          (view_without _ within).symm
    exact aside.trans ((same_without _ free).view other)

/-- **A replacement that succeeds changes only what it replaces.** -/
theorem replaceFile_done {name : String} (named : path.EndsIn name)
    (ran : (replaceFile directory path bytes).run before = (.ok (), after)) :
    ∃ place, before.Ends path place ∧ name.utf8ByteSize ≤ nameLimit ∧
      Replaced place name bytes before after := by
  rcases replaceFile_cases directory path bytes before with
    ⟨_, failed⟩ | ⟨source, fresh, spare, ⟨_, _, failed⟩ |
      ⟨place, last, ends, named', short, noDirectory, done⟩⟩
  · rw [failed] at ran
    cases (Prod.mk.inj ran).1
  · rw [failed] at ran
    cases (Prod.mk.inj ran).1
  · obtain rfl : last = name := by simpa using named'.last.symm.trans named.last
    rw [done] at ran
    obtain ⟨-, rfl⟩ := Prod.mk.inj ran
    have endsBefore := ends.of_put spare.here spare.free
    have apart : place ++ [last] ≠ source ++ [fresh] := by
      intro equal
      obtain ⟨-, same⟩ := List.append_inj' equal rfl
      exact spare.other (List.singleton_inj.mp same ▸ named.fileName?_eq)
    have untouched : before.look (place ++ [last]) ≠ some .directory := by
      intro isDirectory
      exact noDirectory
        ((withNode_leaf _ spare.here spare.free (by simp)).1.look _ _ isDirectory)
    exact ⟨place, endsBefore, short,
      replaced_of_move bytes spare.here spare.free endsBefore.here untouched apart⟩

end Replacing

end PluginAudit.FileTree
