import Mathlib.Data.List.Nodup
import Mathlib.Data.String.Basic
import PluginAudit.Proofs.FileTree.Replacement

/-!
# Below a directory

A name behind the path of a directory is looked up in that directory. Unless a
link stands there, nothing else in the tree matters: whether the name is there,
and what is read under it, depends on what is seen there alone (`LinkFree.has_join`,
`LinkFree.readText_join`).

In a directory no name is used twice (`Node.Distinct`). The order in which the
entries of a directory are listed is lost when they are sorted by their names
(`Node.byName_eq_of_perm`), so that all of a directory can be told by looking at
places.
-/

set_option autoImplicit false

namespace PluginAudit

namespace FileTree

/-! ## Names are used once, links are not there -/

namespace Node

/-- What stands below a place is what stands below its node. -/
theorem look_append {root node : Node} {place : List String} (found : root.at? place = some node)
    (more : List String) : root.look (place ++ more) = node.look more := by
  rw [look, at?_append, found]
  rfl

/-- A property of every node of a tree. -/
def All (holds : Node → Prop) (root : Node) : Prop :=
  ∀ place node, root.at? place = some node → holds node

/-- What holds at the top and below every entry holds everywhere. -/
theorem All.of_entries {holds : Node → Prop} {root : Node} (atRoot : holds root)
    (below : ∀ entry ∈ root.entries, entry.2.All holds) : root.All holds := by
  intro place node found
  cases place with
  | nil =>
    rw [at?_nil, Option.some_inj] at found
    exact found ▸ atRoot
  | cons name names =>
    rw [at?_cons] at found
    obtain ⟨child, isChild, found⟩ := Option.bind_eq_some_iff.mp found
    obtain ⟨_, _, split, -⟩ := List.lookup_eq_some_iff.mp isChild
    exact below (name, child) (by simp [split]) names node found

/-- Below a file there is nothing. -/
theorem All.of_file {holds : Node → Prop} {bytes : ByteArray} (atFile : holds (file bytes)) :
    (file bytes).All holds := .of_entries atFile (List.forall_mem_nil _)

theorem All.at? {holds : Node → Prop} {root node : Node} {place : List String}
    (all : root.All holds) (found : root.at? place = some node) : node.All holds := by
  intro more below isBelow
  apply all (place ++ more)
  rw [at?_append, found]
  exact isBelow

/-- In no directory is a name used twice. -/
def Distinct : Node → Prop := All fun node => (node.entries.map (·.1)).Nodup

theorem Distinct.nodup {entries : List (String × Node)} (distinct : (directory entries).Distinct) :
    (entries.map (·.1)).Nodup :=
  distinct [] _ (at?_nil _)

/-- There are no links. -/
def NoLinks : Node → Prop := All fun node => ∀ target, node ≠ link target

theorem NoLinks.look {root : Node} (noLinks : root.NoLinks) (place : List String)
    (target : String) : root.look place ≠ some (.link target) := by
  intro isLink
  obtain ⟨node, found, shape⟩ := look_eq_some.mp isLink
  exact noLinks place node found target (shape_eq_link.mp shape)

/-- An entry is what is found under its name. -/
theorem mem_entries_iff {α : Type} {entries : List (String × α)} (nodup : (entries.map (·.1)).Nodup)
    {name : String} {content : α} :
    (name, content) ∈ entries ↔ entries.lookup name = some content := by
  constructor
  · intro among
    cases found : entries.lookup name with
    | none =>
      rw [List.lookup_eq_none_iff] at found
      exact absurd (found _ among) (by simp)
    | some other =>
      obtain ⟨_, _, split, -⟩ := List.lookup_eq_some_iff.mp found
      have isOther : (name, other) ∈ entries := by simp [split]
      have same := List.inj_on_of_nodup_map nodup isOther among rfl
      rw [(Prod.mk.inj same).2]
  · intro found
    obtain ⟨_, _, split, -⟩ := List.lookup_eq_some_iff.mp found
    simp [split]

/-- Sorted by their names, things stand in the order of these. -/
theorem pairwise_byName {α : Type} (named : List (String × α)) :
    (byName named).Pairwise fun first second => first.1 ≤ second.1 := by
  have before (first second : String × α) :
      (!decide (second.1 < first.1)) = true ↔ first.1 ≤ second.1 := by
    rw [Bool.not_eq_true', decide_eq_false_iff_not]
    exact String.not_lt
  refine (List.pairwise_mergeSort (fun first second third => ?_) (fun first second => ?_) named).imp
    (before _ _).mp
  · rw [before, before, before]
    exact String.le_trans
  · rw [Bool.or_eq_true, before, before]
    exact String.le_total _ _

/-- Names that are used once ascend strictly. -/
theorem pairwise_byName_lt {α : Type} {named : List (String × α)}
    (nodup : (named.map (·.1)).Nodup) :
    (byName named).Pairwise fun first second => first.1 < second.1 := by
  have once : (byName named).Pairwise fun first second => first.1 ≠ second.1 := by
    have perm : ((byName named).map (·.1)).Perm (named.map (·.1)) :=
      (List.mergeSort_perm named _).map (·.1)
    exact List.pairwise_map.mp (perm.nodup_iff.mpr nodup)
  refine ((pairwise_byName named).and once).imp fun ⟨le, ne⟩ => ?_
  exact lt_of_le_of_ne le ne

/-- Two things that are in order stay so. -/
theorem byName_pair {α : Type} {name name' : String} {first second : α} (ordered : ¬ name' < name) :
    byName [(name, first), (name', second)] = [(name, first), (name', second)] := by
  refine List.mergeSort_of_pairwise (List.pairwise_pair.mpr ?_)
  rw [decide_eq_false ordered]
  rfl

/-- **The order of entries is lost** when they are sorted by names that are used once. -/
theorem byName_eq_of_perm {α : Type} {named other : List (String × α)} (perm : named.Perm other)
    (nodup : (named.map (·.1)).Nodup) : byName named = byName other := by
  have whole : (byName named).Perm (byName other) :=
    ((List.mergeSort_perm _ _).trans perm).trans (List.mergeSort_perm _ _).symm
  refine whole.eq_of_pairwise ?_ (pairwise_byName named) (pairwise_byName other)
  intro first second among among' le ge
  have isFirst : first ∈ named := List.mem_mergeSort.mp among
  have isSecond : second ∈ named := perm.mem_iff.mpr (List.mem_mergeSort.mp among')
  exact List.inj_on_of_nodup_map nodup isFirst isSecond (String.le_antisymm le ge)

end Node

/-! ## A name behind the path of a directory -/

/-- A path leads to a directory below which there are no links. -/
structure LinkFree (tree : FileTree) (path : Path) (place : List String) : Prop where
  leads : tree.Leads true path place
  here : tree.look place = some .directory
  noLink : ∀ more target, tree.look (place ++ more) ≠ some (.link target)

section Join

variable {tree : FileTree} {path : Path} {place : List String} {name : String}

/-- A path that leads anywhere is written. -/
theorem Leads.written {follow : Bool} (leads : tree.Leads follow path place) :
    path.text.toList ≠ [] := by
  intro empty
  have checked := leads.1
  simp [checkPath, String.isEmpty_iff, String.toList_eq_nil_iff.mp empty] at checked

/-- A name behind the path of a directory ends there. -/
theorem Leads.ends_join (leads : tree.Leads true path place)
    (here : tree.look place = some .directory) (isName : IsEntryName name)
    (checked : checkPath (path.join name) = .ok ()) : tree.Ends (path.join name) place := by
  have written := leads.written
  obtain ⟨-, used, bound, walk⟩ := leads
  refine ⟨checked, ?_, here⟩
  rw [directorySteps, Path.isAbsolute_join written isName.noSlash,
    Path.steps_join written isName.noSlash isName.named, List.dropLast_concat]
  rw [pathSteps] at walk
  obtain ⟨before, after, middle, rfl, first, atMiddle, last⟩ := walk.split_directory here
  suffices same : middle = place from ⟨before, by omega, same ▸ first⟩
  -- Behind a slash at its end a path goes nowhere.
  cases slash : path.endsInSlash with
  | false =>
    rw [slash] at last
    cases last
    rfl
  | true =>
    rw [slash] at last
    cases last with
    | stay _ more =>
      cases more
      rfl

theorem LinkFree.join (free : tree.LinkFree path place) (isName : IsEntryName name)
    (checked : checkPath (path.join name) = .ok ()) :
    tree.Leads true (path.join name) (place ++ [name]) := by
  have written := free.leads.written
  have ends := free.leads.ends_join free.here isName checked
  refine ends.leads ⟨?_, ?_⟩ isName.short (free.noLink [name]) true
  · rw [Path.steps_join written isName.noSlash isName.named, List.getLast?_concat, isName.isName]
  · exact Path.endsInSlash_join written isName.noSlash isName.named

theorem LinkFree.located (free : tree.LinkFree path place) :
    ∃ entries, tree.locate true path = .ok (place, .directory entries) ∧
      tree.root.at? place = some (.directory entries) := by
  obtain ⟨entries, isAt⟩ := Node.look_directory.mp free.here
  exact ⟨entries, locate_ok_iff.mpr ⟨free.leads, isAt⟩, isAt⟩

/-- Where a path leads, links followed, is told by what stands there. -/
theorem Leads.isOk_locate (leads : tree.Leads true path place) :
    (tree.locate true path).isOk = (tree.look place).isSome := by
  rw [locate_eq, leads.resolve_eq, Node.spot, look, Node.look]
  cases tree.root.at? place <;> rfl

theorem resolve_of_checkPath {follow : Bool} {fault : Fault}
    (refused : checkPath path = .error fault) : tree.resolve follow path = .error fault := by
  rw [resolve_eq, refused]

/-- **Whether a name is in a directory** is told by the entry. -/
theorem LinkFree.has_join (free : tree.LinkFree path place) (isName : IsEntryName name) :
    tree.has (path.join name) =
      ((checkPath (path.join name)).isOk && (tree.look (place ++ [name])).isSome) := by
  cases checked : checkPath (path.join name) with
  | ok _ => exact (free.join isName checked).isOk_locate
  | error fault =>
    rw [has, locate_eq, resolve_of_checkPath checked]
    rfl

/-- **What is read under a name of a directory** is told by the entry. -/
theorem LinkFree.readText_join (free : tree.LinkFree path place) (isName : IsEntryName name) :
    tree.readText (path.join name) =
      (checkPath (path.join name)).bind fun _ => textOf (tree.view (place ++ [name])) := by
  cases checked : checkPath (path.join name) with
  | ok _ => exact (free.join isName checked).readText_eq
  | error fault =>
    rw [readText_eq, resolve_of_checkPath checked]
    rfl

end Join

/-- Two trees read the same at a path. -/
structure ReadSame (tree tree' : FileTree) (path : Path) : Prop where
  has : tree.has path = tree'.has path
  readText : tree.readText path = tree'.readText path

/-! ## Two trees that have the same below a directory -/

section Same

variable {tree tree' : FileTree} {path : Path} {place place' : List String}

/-- Without links below a directory there are none where the same stands. -/
theorem LinkFree.of_same (free : tree.LinkFree path place)
    (leads : tree'.Leads true path place')
    (same : ∀ more, tree.look (place ++ more) = tree'.look (place' ++ more)) :
    tree'.LinkFree path place' where
  leads := leads
  here := by simpa [free.here] using (same []).symm
  noLink more target := by
    rw [← same]
    exact free.noLink more target

/-- A name is in both directories if something stands there in both. -/
theorem LinkFree.has_eq (free : tree.LinkFree path place) (free' : tree'.LinkFree path place')
    {name : String} (isName : IsEntryName name)
    (same : (tree.look (place ++ [name])).isSome = (tree'.look (place' ++ [name])).isSome) :
    tree.has (path.join name) = tree'.has (path.join name) := by
  rw [free.has_join isName, free'.has_join isName, same]

/-- The same is read under a name at which the same is seen. -/
theorem LinkFree.readSame (free : tree.LinkFree path place)
    (free' : tree'.LinkFree path place') {name : String} (isName : IsEntryName name)
    (same : tree.view (place ++ [name]) = tree'.view (place' ++ [name])) :
    ReadSame tree tree' (path.join name) where
  has := free.has_eq free' isName (congrArg Option.isSome (look_of_view same))
  readText := by rw [free.readText_join isName, free'.readText_join isName, same]

theorem LinkFree.isDirectory (free : tree.LinkFree path place) :
    tree.isDirectory path = true := by
  obtain ⟨entries, located, -⟩ := free.located
  rw [FileTree.isDirectory, located]
  rfl

end Same

end FileTree

end PluginAudit
