import PluginAudit.Proofs.FileTree.Below

/-!
# Places that paths tell

Where there are no links, the place to which a path leads is told by its steps
alone (`Leads.eq_placeOf`), whether or not something stands there.

Only what stands at one place may change, and what is below it. Then every path
that leads elsewhere still leads there (`KeepsBut.leads`), and what is read
there is the same (`Aside.readText_eq`).
-/

set_option autoImplicit false

namespace PluginAudit.FileTree

open PluginAudit.Path (Component)

/-! ## Places without links -/

/-- The place to which steps lead where there are no links. -/
def lexical (place : List String) : List Component → List String
  | [] => place
  | .root :: rest => lexical [] rest
  | .here :: rest => lexical place rest
  | .up :: rest => lexical place.dropLast rest
  | .name name :: rest => lexical (place ++ [name]) rest

/-- The place of a path where there are no links. -/
def placeOf (tree : FileTree) (path : Path) : List String :=
  lexical tree.workplace (pathSteps path)

theorem placeOf_eq {tree tree' : FileTree} (workplace : tree'.workplace = tree.workplace)
    (path : Path) : tree'.placeOf path = tree.placeOf path := by
  rw [placeOf, workplace, placeOf]

theorem lexical_append (place : List String) (first second : List Component) :
    lexical place (first ++ second) = lexical (lexical place first) second := by
  induction first generalizing place with
  | nil => rfl
  | cons step rest ih => cases step <;> exact ih _

/-- Nothing that is looked at is a link. -/
theorem Node.NoLinks.of_look {root : Node}
    (noLink : ∀ place target, root.look place ≠ some (.link target)) : root.NoLinks := by
  intro place node found target isLink
  apply noLink place target
  rw [Node.look, found, isLink]
  rfl

/-- A file that takes the place of what was there is no link, and has none below it. -/
theorem Replaced.noLinks {directory : List String} {name : String} {bytes : ByteArray}
    {before after : FileTree} (replaced : Replaced directory name bytes before after)
    (noLinks : before.root.NoLinks) : after.root.NoLinks := by
  have put : after.root.look (directory ++ [name]) = some (.file bytes) := replaced.look_put
  refine .of_look fun other target isLink => ?_
  by_cases within : directory ++ [name] <+: other
  · obtain ⟨more, rfl⟩ := within
    cases more with
    | nil =>
      rw [List.append_nil, put] at isLink
      cases isLink
    | cons next more =>
      have above := Node.look_directory_of_append isLink (List.cons_ne_nil next more)
      rw [put] at above
      cases above
  · exact noLinks.look other target ((replaced.look_elsewhere within).symm.trans isLink)

section Lexical

variable {root : Node} {tree : FileTree} {follow : Bool} {path : Path}
  {place directory : List String}

/-- **A walk without links ends where its steps tell.** -/
theorem Walks.eq_lexical {used : Nat} {goal : List String} {steps : List Component}
    (noLinks : root.NoLinks) (walk : Walks root follow used place steps goal) :
    goal = lexical place steps := by
  induction walk with
  | done _ => rfl
  | fromRoot _ _ ih => exact ih
  | stay _ _ ih => exact ih
  | back _ _ ih => exact ih
  | enter _ _ _ _ _ ih => exact ih
  | stop _ _ there _ => exact absurd there (noLinks.look _ _)
  | gap _ _ _ => rfl
  | link _ _ there _ _ _ _ => exact absurd there (noLinks.look _ _)

/-- **Where there are no links, a path leads to its place** if it leads anywhere. -/
theorem Leads.eq_placeOf (noLinks : tree.root.NoLinks) (leads : tree.Leads follow path place) :
    place = tree.placeOf path := by
  obtain ⟨-, used, -, walk⟩ := leads
  exact walk.eq_lexical noLinks

/-- The place of a path whose last step is a name is under that name in the place of the steps
before it. -/
theorem placeOf_of_last (tree : FileTree) {name : String}
    (last : path.steps.getLast? = some (.name name)) :
    tree.placeOf path = lexical tree.workplace (directorySteps path) ++ [name] := by
  rw [placeOf, pathSteps_eq last, lexical_append]
  cases path.endsInSlash <;> rfl

/-- It is in the directory in which the path ends. -/
theorem Ends.placeOf_eq (noLinks : tree.root.NoLinks) (ends : tree.Ends path directory)
    {name : String} (named : path.EndsIn name) : tree.placeOf path = directory ++ [name] := by
  obtain ⟨-, ⟨used, -, walk⟩, -⟩ := ends
  rw [tree.placeOf_of_last named.last, ← walk.eq_lexical noLinks]

/-- A directory is found at the place of its path. -/
theorem isDirectory_iff_leads (noLinks : tree.root.NoLinks) :
    tree.isDirectory path = true ↔ tree.Leads true path (tree.placeOf path) ∧
      tree.look (tree.placeOf path) = some .directory := by
  rw [FileTree.isDirectory]
  constructor
  · intro isDirectory
    split at isDirectory
    · next place node located =>
      obtain ⟨leads, isAt⟩ := locate_ok_iff.mp located
      obtain rfl := leads.eq_placeOf noLinks
      exact ⟨leads, Node.look_eq_some.mpr ⟨node, isAt, Node.isDirectory_iff.mp isDirectory⟩⟩
    · cases isDirectory
  · rintro ⟨leads, here⟩
    obtain ⟨entries, isAt⟩ := Node.look_directory.mp here
    rw [locate_ok_iff.mpr ⟨leads, isAt⟩]
    rfl

end Lexical

/-! ## Changes at one place -/

/-- What is seen elsewhere than at a place or below it is seen there still. -/
structure KeepsBut (place : List String) (before after : FileTree) : Prop where
  workplace : after.workplace = before.workplace
  view : ∀ other seen, ¬ place <+: other → before.view other = some seen →
    after.view other = some seen

/-- In two trees the same is seen everywhere but at a place and below it. -/
structure SameBut (place : List String) (before after : FileTree) : Prop where
  workplace : after.workplace = before.workplace
  view : ∀ other, ¬ place <+: other → after.view other = before.view other

section Changing

variable {place : List String} {before after : FileTree} {path : Path}

theorem KeepsBut.refl (place : List String) (tree : FileTree) : KeepsBut place tree tree :=
  ⟨rfl, fun _ _ _ => id⟩

theorem KeepsBut.trans {between : FileTree} (earlier : KeepsBut place before between)
    (later : KeepsBut place between after) : KeepsBut place before after :=
  ⟨later.workplace.trans earlier.workplace, fun other seen apart stands =>
    later.view other seen apart (earlier.view other seen apart stands)⟩

theorem KeepsBut.look (keeps : KeepsBut place before after) (other : List String) (shape : Shape)
    (apart : ¬ place <+: other) (stands : before.look other = some shape) :
    after.look other = some shape :=
  (view_eq_some.mp (keeps.view other _ apart (view_of_look stands))).1

theorem Keeps.keepsBut (keeps : Keeps before after) (place : List String) :
    KeepsBut place before after :=
  ⟨keeps.workplace, fun other seen _ => keeps.view other seen⟩

theorem SameBut.symm (same : SameBut place before after) : SameBut place after before :=
  ⟨same.workplace.symm, fun other apart => (same.view other apart).symm⟩

theorem SameBut.look (same : SameBut place before after) {other : List String}
    (apart : ¬ place <+: other) : after.look other = before.look other :=
  look_of_view (same.view other apart)

theorem SameBut.keepsBut (same : SameBut place before after) : KeepsBut place before after :=
  ⟨same.workplace, fun other _ apart stands => (same.view other apart).trans stands⟩

/-- What is below a directory is not below a place where no directory stands, unless that place is
below the directory itself. -/
theorem not_prefix_append {root : Node} {directory : List String}
    (noDirectory : root.look place ≠ some .directory)
    (here : root.look directory = some .directory) (outside : ¬ directory <+: place)
    (more : List String) : ¬ place <+: directory ++ more := by
  intro isPrefix
  rcases List.prefix_or_prefix_of_prefix isPrefix (List.prefix_append directory more) with
    above | below
  · exact Node.not_prefix_of_directory noDirectory here above
  · exact outside below

/-- **A walk to what stands elsewhere remains** when something changes where no directory
stands. -/
theorem Walks.keepsBut {root after : Node} {follow : Bool} {used : Nat} {start goal : List String}
    {steps : List Component}
    (kept : ∀ other shape, ¬ place <+: other → root.look other = some shape →
      after.look other = some shape)
    (noLinks : root.NoLinks) (noDirectory : root.look place ≠ some .directory)
    (walk : Walks root follow used start steps goal) (stands : root.look goal ≠ none)
    (apart : ¬ place <+: goal) : Walks after follow used start steps goal := by
  have keptDirectory : ∀ other, root.look other = some .directory →
      after.look other = some .directory := fun other here =>
    kept other _ (Node.not_prefix_of_directory noDirectory here) here
  induction walk with
  | done here => exact .done (kept _ _ apart here)
  | fromRoot here _ ih => exact .fromRoot (keptDirectory _ here) (ih stands apart)
  | stay here _ ih => exact .stay (keptDirectory _ here) (ih stands apart)
  | back here _ ih => exact .back (keptDirectory _ here) (ih stands apart)
  | @enter _ above _ name shape rest here short there noLink more ih =>
    -- The walk ends at what it enters, or that is a directory.
    have outside : ¬ place <+: above ++ [name] := by
      cases rest with
      | nil =>
        cases more with
        | done _ => exact apart
      | cons step rest => exact Node.not_prefix_of_directory noDirectory more.starts_directory
    exact .enter (keptDirectory _ here) short (kept _ _ outside there) noLink (ih stands apart)
  | stop _ _ there _ => exact absurd there (noLinks.look _ _)
  | gap _ _ there => exact absurd there stands
  | link _ _ there _ _ _ _ => exact absurd there (noLinks.look _ _)

/-- **A path that leads to something elsewhere still leads there.** -/
theorem KeepsBut.leads (keeps : KeepsBut place before after) (noLinks : before.root.NoLinks)
    (noDirectory : before.look place ≠ some .directory) {follow : Bool} {goal : List String}
    (leads : before.Leads follow path goal) (stands : before.look goal ≠ none)
    (apart : ¬ place <+: goal) : after.Leads follow path goal := by
  obtain ⟨checked, used, bound, walk⟩ := leads
  exact ⟨checked, used, bound,
    keeps.workplace ▸ walk.keepsBut keeps.look noLinks noDirectory stands apart⟩

/-- A path that leads to a directory still does. -/
theorem KeepsBut.leads_directory (keeps : KeepsBut place before after)
    (noLinks : before.root.NoLinks) (noDirectory : before.look place ≠ some .directory)
    {follow : Bool} {directory : List String} (leads : before.Leads follow path directory)
    (here : before.look directory = some .directory) :
    after.Leads follow path directory ∧ after.look directory = some .directory := by
  have apart := Node.not_prefix_of_directory noDirectory here
  refine ⟨keeps.leads noLinks noDirectory leads ?_ apart, keeps.look _ _ apart here⟩
  rw [here]
  exact Option.some_ne_none _

/-- A path leads to a file that is not at a place nor below it. -/
def Aside (place : List String) (tree : FileTree) (path : Path) : Prop :=
  ∃ goal bytes, tree.Leads true path goal ∧ tree.look goal = some (.file bytes) ∧
    ¬ place <+: goal

/-- **What is read elsewhere is still read.** -/
theorem Aside.readText_eq (aside : Aside place before path) (keeps : KeepsBut place before after)
    (noLinks : before.root.NoLinks) (noDirectory : before.look place ≠ some .directory) :
    Aside place after path ∧ after.readText path = before.readText path := by
  obtain ⟨goal, bytes, leads, isFile, apart⟩ := aside
  have seen := view_of_look isFile
  have leads' := keeps.leads noLinks noDirectory leads (by rw [isFile]; simp) apart
  exact ⟨⟨goal, bytes, leads', keeps.look _ _ apart isFile, apart⟩,
    by rw [leads'.readText_eq, leads.readText_eq, seen, keeps.view _ _ apart seen]⟩

end Changing

end PluginAudit.FileTree
