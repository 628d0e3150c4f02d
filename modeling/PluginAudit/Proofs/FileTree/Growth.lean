import PluginAudit.Proofs.FileTree.Walking
import PluginAudit.Proofs.Path

/-!
# Trees that grow

Most changes only put something where nothing was. A tree keeps another one
when everything that stands in the other stands in it too, in the same shape and
as far to be read (`Keeps`); what a path leads to in a tree it leads to in every tree that keeps
it (`Leads.mono`). Making directories keeps the tree, however it ends, and what
is new are directories to which the path or one above it leads
(`makeDirectories_made`). Opening a file keeps the tree as well, and what is new
is the empty file to which the path leads (`openFile_made`).
-/

set_option autoImplicit false

namespace PluginAudit.FileTree

open PluginAudit.Path (Component)

/-! ## Running changes -/

section Running

variable {ε σ α β : Type}

theorem run_bind (first : ExceptT ε (StateM σ) α) (next : α → ExceptT ε (StateM σ) β)
    (state : σ) :
    (first >>= next).run state =
      match first.run state with
      | (.ok value, after) => (next value).run after
      | (.error fault, after) => (.error fault, after) := by
  simp only [ExceptT.run, bind, ExceptT.bind, ExceptT.mk, StateT.bind, ExceptT.bindCont]
  rcases first state with ⟨_ | _, after⟩ <;> rfl

theorem run_tryCatch (first : ExceptT ε (StateM σ) α)
    (handler : ε → ExceptT ε (StateM σ) α) (state : σ) :
    (tryCatch first handler).run state =
      match first.run state with
      | (.ok value, after) => (.ok value, after)
      | (.error fault, after) => (handler fault).run after := by
  simp only [ExceptT.run, tryCatch, tryCatchThe, MonadExceptOf.tryCatch, ExceptT.tryCatch,
    ExceptT.mk, bind, StateT.bind]
  rcases first state with ⟨_ | _, after⟩ <;> rfl

theorem run_get (state : σ) :
    (get : ExceptT ε (StateM σ) σ).run state = (.ok state, state) := rfl

theorem run_lift (result : Except ε α) (state : σ) :
    (liftM result : ExceptT ε (StateM σ) α).run state = (result, state) := rfl

theorem run_result (result : Except ε α) (state : σ) :
    (ExceptT.mk (pure result) : ExceptT ε (StateM σ) α).run state = (result, state) := rfl

theorem run_adapt {δ : Type} (describe : ε → δ) (change : ExceptT ε (StateM σ) α) (state : σ) :
    (change.adapt describe).run state =
      ((change.run state).1.mapError describe, (change.run state).2) := rfl

/-- What is done finally is done however the first part ends. -/
theorem run_finally_modify (first : ExceptT ε (StateM σ) α) (change : σ → σ) (state : σ) :
    (tryFinally first (modify change)).run state =
      ((first.run state).1, change (first.run state).2) := by
  simp only [tryFinally, tryFinally', ExceptT.run, ExceptT.mk, Functor.map, ExceptT.map, bind,
    StateT.bind]
  rcases first state with ⟨_ | _, after⟩ <;> rfl

end Running

/-! ## Where paths lead -/

/-- A path leads to a place of a tree: to something that stands there, or to a name that is
missing in a directory. -/
def Leads (tree : FileTree) (follow : Bool) (path : Path) (place : List String) : Prop :=
  checkPath path = .ok () ∧
    ∃ used ≤ linkLimit, Walks tree.root follow used tree.workplace (pathSteps path) place

theorem resolve_eq (tree : FileTree) (follow : Bool) (path : Path) :
    tree.resolve follow path =
      match checkPath path with
      | .ok () => walkLinks tree.root follow linkLimit tree.workplace (pathSteps path)
      | .error fault => .error fault := by
  unfold resolve
  cases checkPath path <;> rfl

theorem Leads.resolve_eq {tree : FileTree} {follow : Bool} {path : Path} {place : List String}
    (leads : tree.Leads follow path place) :
    tree.resolve follow path = .ok (tree.root.spot place) := by
  obtain ⟨checked, used, bound, walk⟩ := leads
  rw [FileTree.resolve_eq, checked]
  simp only [walk.walkLinks_eq linkLimit, if_pos bound]

/-- What a path is resolved to it leads to. -/
theorem walked_of_resolve {tree : FileTree} {follow : Bool} {path : Path} {spot : Spot}
    (resolved : tree.resolve follow path = .ok spot) :
    tree.Leads follow path spot.place ∧
      walkLinks tree.root follow linkLimit tree.workplace (pathSteps path) = .ok spot := by
  rw [FileTree.resolve_eq] at resolved
  cases checked : checkPath path with
  | error fault => simp [checked] at resolved
  | ok _ =>
    simp only [checked] at resolved
    exact ⟨⟨checked, walks_of_walkLinks resolved⟩, resolved⟩

theorem locate_eq (tree : FileTree) (follow : Bool) (path : Path) :
    tree.locate follow path =
      match tree.resolve follow path with
      | .ok (.found place node) => .ok (place, node)
      | .ok (.vacant _ _) => .error .notFound
      | .error fault => .error fault := by
  unfold locate
  rcases tree.resolve follow path with _ | (_ | _) <;> rfl

/-- A path leads to one place. -/
theorem Leads.unique {tree : FileTree} {follow : Bool} {path : Path} {place other : List String}
    (leads : tree.Leads follow path place) (leads' : tree.Leads follow path other) :
    place = other := by
  have same : tree.root.spot place = tree.root.spot other :=
    Except.ok.inj (leads.resolve_eq.symm.trans leads'.resolve_eq)
  rw [← tree.root.place_spot place, same, tree.root.place_spot]

/-- What is found at the end of a path is what stands where the path leads. -/
theorem locate_ok_iff {tree : FileTree} {follow : Bool} {path : Path} {place : List String}
    {node : Node} :
    tree.locate follow path = .ok (place, node) ↔
      tree.Leads follow path place ∧ tree.root.at? place = some node := by
  rw [locate_eq]
  constructor
  · intro located
    split at located
    · next resolved =>
      obtain ⟨rfl, rfl⟩ := Prod.mk.inj (Except.ok.inj located)
      obtain ⟨leads, walked⟩ := walked_of_resolve resolved
      exact ⟨leads, at?_of_walkLinks walked⟩
    · cases located
    · cases located
  · rintro ⟨leads, found⟩
    rw [leads.resolve_eq, Node.spot_found found]

/-- What is read at a path is what is seen where the path leads. -/
theorem readText_eq (tree : FileTree) (path : Path) :
    tree.readText path = (tree.resolve true path).bind fun spot =>
      textOf (tree.view spot.place) := by
  have located := locate_eq tree true path
  cases resolved : tree.resolve true path with
  | error fault =>
    rw [resolved] at located
    rw [readText, located]
    rfl
  | ok spot =>
    have isSpot := spot_of_walkLinks (walked_of_resolve resolved).2
    rw [resolved, ← isSpot, Node.spot] at located
    rw [readText, located]
    simp only [Except.bind, bind, view, look, Node.look]
    cases tree.root.at? spot.place with
    | none => rfl
    | some node =>
      cases node with
      | file bytes => rfl
      | link target =>
        dsimp only [Option.map_some]
        cases tree.reading spot.place <;> rfl
      | directory entries =>
        dsimp only [Option.map_some]
        cases tree.reading spot.place <;> rfl

theorem Leads.readText_eq {tree : FileTree} {path : Path} {place : List String}
    (leads : tree.Leads true path place) : tree.readText path = textOf (tree.view place) := by
  rw [FileTree.readText_eq, leads.resolve_eq]
  exact congrArg (fun place => textOf (tree.view place)) (tree.root.place_spot place)

/-- A text is read where a path leads to a file of which it is read. -/
theorem readText_ok_iff {tree : FileTree} {path : Path} {text : String} :
    tree.readText path = .ok text ↔
      ∃ place bytes, tree.Leads true path place ∧ tree.look place = some (.file bytes) ∧
        (tree.reading place).text bytes = .ok text := by
  constructor
  · intro read
    rw [readText_eq] at read
    cases resolved : tree.resolve true path with
    | error fault => rw [resolved] at read; cases read
    | ok spot =>
      rw [resolved] at read
      obtain ⟨bytes, reading, seen, isRead⟩ := textOf_ok_iff.mp read
      obtain ⟨isFile, rfl⟩ := view_eq_some.mp seen
      exact ⟨spot.place, bytes, (walked_of_resolve resolved).1, isFile, isRead⟩
  · rintro ⟨place, bytes, leads, isFile, isRead⟩
    rw [leads.readText_eq, view_of_look isFile]
    exact isRead

/-- Nothing is read where a path leads to a name that nothing has. -/
theorem Leads.readText_vacant {tree : FileTree} {path : Path} {place : List String}
    (leads : tree.Leads true path place) (vacant : tree.look place = none) :
    tree.readText path = .error .notFound := by
  rw [leads.readText_eq, view_eq_none.mpr vacant]
  rfl

/-! ## Keeping -/

/-- Everything that stands in a tree stands in another one, in the same shape and as far to be
read, and the same is refused there. -/
structure Keeps (before after : FileTree) : Prop where
  workplace : after.workplace = before.workplace
  refuses : after.refuses = before.refuses
  view : ∀ place seen, before.view place = some seen → after.view place = some seen

theorem Keeps.refl (tree : FileTree) : Keeps tree tree := ⟨rfl, rfl, fun _ _ => id⟩

theorem Keeps.trans {first second third : FileTree} (earlier : Keeps first second)
    (later : Keeps second third) : Keeps first third :=
  ⟨later.workplace.trans earlier.workplace, later.refuses.trans earlier.refuses,
    fun place seen stands => later.view place seen (earlier.view place seen stands)⟩

theorem Keeps.look {before after : FileTree} (keeps : Keeps before after) (place : List String)
    (shape : Shape) (stands : before.look place = some shape) : after.look place = some shape :=
  (view_eq_some.mp (keeps.view place _ (view_of_look stands))).1

/-- **What a path leads to it still leads to in a tree that keeps it.** -/
theorem Leads.mono {before after : FileTree} {follow : Bool} {path : Path} {place : List String}
    (leads : before.Leads follow path place) (keeps : Keeps before after)
    (found : before.look place ≠ none) : after.Leads follow path place := by
  obtain ⟨checked, used, bound, walk⟩ := leads
  exact ⟨checked, used, bound, keeps.workplace ▸ walk.mono keeps.look found⟩

/-- **What is read somewhere is read there still.** -/
theorem Leads.readText_mono {before after : FileTree} {path : Path} {place : List String}
    (leads : before.Leads true path place) (keeps : Keeps before after)
    (found : before.look place ≠ none) : after.readText path = before.readText path := by
  obtain ⟨shape, stands⟩ := Option.ne_none_iff_exists'.mp found
  have seen := view_of_look stands
  rw [(leads.mono keeps found).readText_eq, leads.readText_eq, seen, keeps.view _ _ seen]

/-- **Texts that could be read still can.** -/
theorem Keeps.readText {before after : FileTree} {path : Path} {text : String}
    (keeps : Keeps before after) (read : before.readText path = .ok text) :
    after.readText path = .ok text := by
  obtain ⟨place, bytes, leads, stands, -⟩ := readText_ok_iff.mp read
  exact (leads.readText_mono keeps (by rw [stands]; simp)).trans read

/-- Putting something that holds nothing under a free name of a directory. -/
theorem withNode_leaf {tree : FileTree} {place : List String} {name : String} (node : Node)
    (here : tree.look place = some .directory) (free : tree.look (place ++ [name]) = none)
    (leaf : ∀ name, node.child? name = none) :
    Keeps tree (tree.withNode (place ++ [name]) node) ∧
      ∀ other shape, tree.look other = none →
        (tree.withNode (place ++ [name]) node).look other = some shape →
          other = place ++ [name] ∧ shape = node.shape := by
  refine ⟨⟨rfl, rfl, ?_⟩, ?_⟩
  · intro other seen stands
    have elsewhere : ¬ place ++ [name] <+: other := by
      rintro ⟨more, rfl⟩
      have noDirectory : tree.root.look (place ++ [name]) ≠ some .directory := by
        rw [show tree.root.look (place ++ [name]) = none from free]
        simp
      cases more with
      | nil => rw [List.append_nil, view_eq_none.mpr free] at stands; cases stands
      | cons next more =>
        rw [view_eq_none.mpr (Node.look_none_below next noDirectory more)] at stands
        cases stands
    exact (tree.view_withNode node elsewhere).trans stands
  · intro other shape missing stands
    by_cases within : place ++ [name] <+: other
    · obtain ⟨more, rfl⟩ := within
      rw [List.append_assoc] at stands
      obtain ⟨found, isAt, isShape⟩ := Node.look_eq_some.mp stands
      rw [withNode, List.singleton_append, Node.at?_set node here name more] at isAt
      cases more with
      | nil =>
        rw [Node.at?_nil] at isAt
        have same : node.shape = found.shape := congrArg Node.shape (Option.some.inj isAt)
        exact ⟨List.append_nil _, isShape.symm.trans same.symm⟩
      | cons next more => simp [leaf] at isAt
    · rw [look_of_view (tree.view_withNode node within), missing] at stands
      cases stands

/-! ## Making directories -/

/-- The steps of a path that lead to the directory of its last one. -/
def directorySteps (path : Path) : List Component :=
  (if path.isAbsolute then [.root] else []) ++ path.steps.dropLast

theorem pathSteps_eq {path : Path} {last : Component} (isLast : path.steps.getLast? = some last) :
    pathSteps path =
      directorySteps path ++ last :: if path.endsInSlash then [.here] else [] := by
  obtain ⟨init, split⟩ := List.getLast?_eq_some_iff.mp isLast
  simp [pathSteps, directorySteps, split]

theorem ending_eq (tree : FileTree) (path : Path) :
    tree.ending path =
      match checkPath path with
      | .error fault => .error fault
      | .ok () =>
        match walkLinks tree.root true linkLimit tree.workplace (directorySteps path) with
        | .ok (.found place (.directory entries)) => .ok (place, entries, path.steps.getLast?)
        | .ok (.found _ _) => .error .notDirectory
        | .ok (.vacant _ _) => .error .notFound
        | .error fault => .error fault := by
  unfold ending directorySteps
  cases checkPath path with
  | error fault => rfl
  | ok _ =>
    simp only [bind, Except.bind]
    generalize walkLinks _ _ _ _ _ = walked
    rcases walked with _ | (⟨_, _ | _ | _⟩ | _) <;> rfl

/-- The directory in which a path ends. -/
theorem ending_ok {tree : FileTree} {path : Path} {place : List String}
    {entries : List (String × Node)} {last : Option Component}
    (ends : tree.ending path = .ok (place, entries, last)) :
    checkPath path = .ok () ∧
      (∃ used ≤ linkLimit, Walks tree.root true used tree.workplace (directorySteps path) place) ∧
        tree.root.at? place = some (.directory entries) ∧ last = path.steps.getLast? := by
  rw [ending_eq] at ends
  split at ends
  · cases ends
  · next checked =>
    split at ends
    · next walked =>
      obtain ⟨rfl, same⟩ := Prod.mk.inj (Except.ok.inj ends)
      obtain ⟨rfl, rfl⟩ := Prod.mk.inj same
      exact ⟨checked, walks_of_walkLinks walked, at?_of_walkLinks walked, rfl⟩
    · cases ends
    · cases ends
    · cases ends

/-- What is permitted goes on, and nothing changes. -/
theorem run_permit (deed : Deed) (place : List String) (tree : FileTree) :
    (permit deed place).run tree =
      match tree.refuses deed place with
      | some fault => (.error fault, tree)
      | none => (.ok (), tree) := by
  rw [permit, run_bind, run_get]
  dsimp only
  cases tree.refuses deed place <;> rfl

theorem run_makeDirectory (path : Path) (tree : FileTree) :
    (makeDirectory path).run tree =
      match tree.ending path with
      | .error fault => (.error fault, tree)
      | .ok (place, entries, last) =>
        match last with
        | some (.name name) =>
          if nameLimit < name.utf8ByteSize then (.error .nameTooLong, tree)
          else if (entries.lookup name).isSome then (.error .alreadyThere, tree)
          else
            match tree.refuses .make (place ++ [name]) with
            | some fault => (.error fault, tree)
            | none => (.ok (), tree.withNode (place ++ [name]) (.directory []))
        | _ => (.error .alreadyThere, tree) := by
  unfold makeDirectory
  simp only [run_bind, run_get, run_lift]
  rcases tree.ending path with fault | ⟨place, entries, last⟩
  · rfl
  · rcases last with _ | (_ | _ | _ | name)
    · rfl
    · rfl
    · rfl
    · rfl
    · dsimp only
      split
      · rfl
      · split
        · rfl
        · rw [run_bind, run_permit]
          cases tree.refuses .make (place ++ [name]) <;> rfl

/-- A tree is kept, and what is new are directories to which a path or one above it leads. -/
structure DirectoriesMade (path : Path) (before after : FileTree) : Prop where
  keeps : Keeps before after
  new : ∀ place shape, before.look place = none → after.look place = some shape →
    shape = .directory ∧ ∃ above, path.UpTo above ∧ after.Leads true above place

theorem DirectoriesMade.refl (path : Path) (tree : FileTree) : DirectoriesMade path tree tree :=
  ⟨.refl tree, fun place shape missing stands => by rw [missing] at stands; cases stands⟩

theorem DirectoriesMade.trans {path : Path} {first second third : FileTree}
    (earlier : DirectoriesMade path first second) (later : DirectoriesMade path second third) :
    DirectoriesMade path first third := by
  refine ⟨earlier.keeps.trans later.keeps, ?_⟩
  intro place shape missing stands
  cases between : second.look place with
  | none => exact later.new place shape between stands
  | some earlierShape =>
    obtain ⟨rfl, above, isAbove, leads⟩ := earlier.new place earlierShape missing between
    have still := later.keeps.look place _ between
    obtain rfl : Shape.directory = shape := Option.some.inj (still.symm.trans stands)
    exact ⟨rfl, above, isAbove, leads.mono later.keeps (by rw [between]; simp)⟩

theorem DirectoriesMade.of_parent {path parent : Path} {before after : FileTree}
    (isParent : path.parent? = some parent) (made : DirectoriesMade parent before after) :
    DirectoriesMade path before after := by
  refine ⟨made.keeps, ?_⟩
  intro place shape missing stands
  obtain ⟨isDirectory, above, isAbove, leads⟩ := made.new place shape missing stands
  exact ⟨isDirectory, above, isAbove.of_parent isParent, leads⟩

theorem makeDirectory_made (path : Path) (tree : FileTree) :
    DirectoriesMade path tree ((makeDirectory path).run tree).2 := by
  rw [run_makeDirectory]
  rcases ends : tree.ending path with fault | ⟨place, entries, last⟩
  · exact .refl path tree
  · obtain ⟨checked, ⟨used, bound, walk⟩, isAt, isLast⟩ := ending_ok ends
    have here : tree.look place = some .directory := Node.look_directory.mpr ⟨entries, isAt⟩
    dsimp only
    split
    · next name =>
      split
      · exact .refl path tree
      · next limit =>
        split
        · exact .refl path tree
        · next absent =>
          split
          · exact .refl path tree
          · have free : tree.look (place ++ [name]) = none := by
              rw [look, Node.look_eq_none, Node.at?_snoc, isAt]
              exact Option.not_isSome_iff_eq_none.mp absent
            obtain ⟨keeps, new⟩ := withNode_leaf (.directory []) here free (by simp)
            refine ⟨keeps, ?_⟩
            intro other shape missing stands
            obtain ⟨rfl, rfl⟩ := new other shape missing stands
            refine ⟨rfl, path, .here, checked, used, bound, ?_⟩
            have walk' := walk.mono keeps.look
              (by rw [show tree.root.look place = _ from here]; simp)
            have here' := keeps.look place _ here
            rw [pathSteps_eq isLast.symm, ← Nat.add_zero used, keeps.workplace]
            refine walk'.append (.enter here' (by omega) stands (by simp) ?_) here' (by simp)
            split
            · exact .stay stands (.done stands)
            · exact .done stands
    · exact .refl path tree

/-- Checking for a directory changes nothing. -/
theorem run_unlessDirectory (path : Path) (fault : Fault) (tree : FileTree) :
    ((unlessDirectory path fault).run tree).2 = tree := by
  unfold unlessDirectory
  simp only [run_bind, run_get]
  split <;> rfl

/-- A directory is made, or found to be there. -/
theorem ensureDirectory_made (path : Path) (tree : FileTree) :
    DirectoriesMade path tree
      ((tryCatch (makeDirectory path) (unlessDirectory path)).run tree).2 := by
  have made := makeDirectory_made path tree
  rw [run_tryCatch]
  rcases ran : (makeDirectory path).run tree with ⟨_ | _, after⟩
  · rw [ran] at made
    rwa [run_unlessDirectory]
  · rwa [ran] at made

theorem makeDirectoriesWithin_made (above : Nat) (path : Path) (tree : FileTree) :
    DirectoriesMade path tree ((makeDirectoriesWithin above path).run tree).2 := by
  induction above generalizing path tree with
  | zero =>
    have made := makeDirectory_made path tree
    rw [makeDirectoriesWithin, run_tryCatch]
    rcases ran : (makeDirectory path).run tree with ⟨fault | _, after⟩
    · rw [ran] at made
      dsimp only
      split
      · exact made
      · rwa [run_unlessDirectory]
    · rwa [ran] at made
  | succ above ih =>
    have made := makeDirectory_made path tree
    rw [makeDirectoriesWithin, run_tryCatch]
    rcases ran : (makeDirectory path).run tree with ⟨fault | _, after⟩
    · rw [ran] at made
      dsimp only
      split
      · cases isParent : path.parent? with
        | none => exact made
        | some parent =>
          dsimp only
          by_cases named : parent.text.isEmpty = true
          · simp only [named, Bool.not_true, Bool.false_eq_true, if_false]
            exact made.trans (ensureDirectory_made path after)
          · simp only [named, Bool.not_false, if_true, run_bind]
            have higher := made.trans ((ih parent after).of_parent isParent)
            rcases ranHigher : (makeDirectoriesWithin above parent).run after with ⟨_ | _, further⟩
            · rwa [ranHigher] at higher
            · rw [ranHigher] at higher
              exact higher.trans (ensureDirectory_made path further)
      · rwa [run_unlessDirectory]
    · rwa [ran] at made

/-- **Making directories only makes directories,** however it ends: the path or one above it leads
to each of them. -/
theorem makeDirectories_made (path : Path) (tree : FileTree) :
    DirectoriesMade path tree ((makeDirectories path).run tree).2 := by
  unfold makeDirectories
  split
  · exact .refl path tree
  · exact makeDirectoriesWithin_made _ path tree

/-! ## Opening a file -/

theorem run_openFile (path : Path) (tree : FileTree) :
    (openFile path).run tree =
      match tree.resolve true path with
      | .error fault => (.error fault, tree)
      | .ok (.found _ (.directory _)) => (.error .isDirectory, tree)
      | .ok (.found place _) =>
        match tree.refuses .reopen place with
        | some fault => (.error fault, tree)
        | none => (.ok (), tree)
      | .ok (.vacant place name) =>
        match tree.refuses .make (place ++ [name]) with
        | some fault => (.error fault, tree)
        | none => (.ok (), tree.withNode (place ++ [name]) (.file ByteArray.empty)) := by
  unfold openFile
  simp only [run_bind, run_get, run_lift]
  rcases tree.resolve true path with _ | (⟨place, _ | _ | _⟩ | ⟨place, name⟩)
  · rfl
  · exact run_permit .reopen place tree
  · exact run_permit .reopen place tree
  · rfl
  · dsimp only
    rw [run_bind, run_permit]
    cases tree.refuses .make (place ++ [name]) <;> rfl

/-- A tree is kept, and what is new is an empty file to which a path leads. -/
structure FileMade (path : Path) (before after : FileTree) : Prop where
  keeps : Keeps before after
  new : ∀ place shape, before.look place = none → after.look place = some shape →
    shape = .file ByteArray.empty ∧ after.Leads true path place

theorem FileMade.refl (path : Path) (tree : FileTree) : FileMade path tree tree :=
  ⟨.refl tree, fun place shape missing stands => by rw [missing] at stands; cases stands⟩

/-- **Opening a file only makes the file,** and if it succeeds the path leads to something that is
no directory. -/
theorem openFile_made (path : Path) (tree : FileTree) :
    FileMade path tree ((openFile path).run tree).2 ∧
      (((openFile path).run tree).1 = .ok () →
        ∃ place shape, ((openFile path).run tree).2.Leads true path place ∧
          ((openFile path).run tree).2.look place = some shape ∧ shape ≠ .directory) := by
  rw [run_openFile]
  rcases resolved : tree.resolve true path with fault | (⟨place, node⟩ | ⟨place, name⟩)
  · exact ⟨.refl path tree, by simp⟩
  · obtain ⟨leads, walked⟩ := walked_of_resolve resolved
    have isAt := at?_of_walkLinks walked
    have stands : tree.look place = some node.shape := Node.look_eq_some.mpr ⟨node, isAt, rfl⟩
    cases node with
    | directory entries => exact ⟨.refl path tree, by simp⟩
    | file bytes =>
      dsimp only
      split
      · exact ⟨.refl path tree, by simp⟩
      · exact ⟨.refl path tree, fun _ => ⟨place, _, leads, stands, by simp⟩⟩
    | link target =>
      dsimp only
      split
      · exact ⟨.refl path tree, by simp⟩
      · exact ⟨.refl path tree, fun _ => ⟨place, _, leads, stands, by simp⟩⟩
  · dsimp only
    split
    · exact ⟨.refl path tree, by simp⟩
    · obtain ⟨⟨checked, used, bound, walk⟩, walked⟩ := walked_of_resolve resolved
      obtain ⟨here, free⟩ := vacant_of_walkLinks walked
      obtain ⟨keeps, new⟩ := withNode_leaf (.file ByteArray.empty) here free (by simp)
      have put : (tree.withNode (place ++ [name]) (.file ByteArray.empty)).look (place ++ [name]) =
          some (.file ByteArray.empty) := Node.look_set_self _ here name
      have leads : (tree.withNode (place ++ [name]) (.file ByteArray.empty)).Leads true path
          (place ++ [name]) :=
        ⟨checked, used, bound, walk.fill keeps.look free put (by simp)⟩
      refine ⟨⟨keeps, ?_⟩, fun _ => ⟨_, _, leads, put, by simp⟩⟩
      intro other shape missing stands
      obtain ⟨rfl, rfl⟩ := new other shape missing stands
      exact ⟨rfl, leads⟩

/-- Taking the lock of a file changes nothing. -/
theorem run_lockFile (path : Path) (tree : FileTree) :
    ((lockFile path).run tree).2 = tree := by
  unfold lockFile
  simp only [run_bind, run_get, run_lift]
  cases tree.canonical path with
  | error fault => rfl
  | ok place =>
    dsimp only
    rw [run_permit]
    cases tree.refuses .lock place <;> rfl

end PluginAudit.FileTree
