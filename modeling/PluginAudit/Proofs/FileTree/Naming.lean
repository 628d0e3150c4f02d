import PluginAudit.Proofs.FileTree.Below

/-!
# Names in directories

In the directories of a file tree no name is used twice, and each is one that an
entry can have (`WellNamed`). Storing a node whose own names are distinct keeps
them so (`Node.Distinct.set`), and so do taking a node away
(`Node.Distinct.erase`) and replacing a file (`distinct_replaceFile`).
-/

set_option autoImplicit false

namespace PluginAudit.FileTree

/-! ## Distinct names -/

namespace Node

variable {name : String} {new root : Node} {entries : List (String × Node)}

/-- The names of the entries after one is set: a new name stands behind the others. -/
theorem names_setEntry (name : String) (node : Node) (entries : List (String × Node)) :
    (setEntry name node entries).map (·.1) =
      if name ∈ entries.map (·.1) then entries.map (·.1) else entries.map (·.1) ++ [name] := by
  induction entries with
  | nil => rfl
  | cons entry rest ih =>
    obtain ⟨other, old⟩ := entry
    rw [setEntry]
    by_cases same : other = name
    · simp [same]
    · rw [if_neg same, List.map_cons, ih]
      have differ : name ≠ other := Ne.symm same
      by_cases among : name ∈ rest.map (·.1) <;> simp [differ, among]

theorem nodup_setEntry (node : Node) (nodup : (entries.map (·.1)).Nodup) :
    ((setEntry name node entries).map (·.1)).Nodup := by
  rw [names_setEntry]
  split
  · exact nodup
  · next absent =>
    refine List.nodup_append.mpr ⟨nodup, List.nodup_singleton name, ?_⟩
    rintro other among _ isName rfl
    exact absent (List.mem_singleton.mp isName ▸ among)

theorem mem_setEntry {node : Node} {entry : String × Node}
    (among : entry ∈ setEntry name node entries) : entry = (name, node) ∨ entry ∈ entries := by
  induction entries with
  | nil => exact .inl (List.mem_singleton.mp among)
  | cons first rest ih =>
    obtain ⟨other, old⟩ := first
    rw [setEntry] at among
    split at among
    · rcases List.mem_cons.mp among with isNew | isOld
      · exact .inl isNew
      · exact .inr (List.mem_cons_of_mem _ isOld)
    · rcases List.mem_cons.mp among with isFirst | behind
      · exact .inr (List.mem_cons.mpr (.inl isFirst))
      · exact (ih behind).imp_right (List.mem_cons_of_mem _)

/-- Below each entry names are distinct too. -/
theorem Distinct.below (distinct : (directory entries).Distinct) {entry : String × Node}
    (among : entry ∈ entries) : entry.2.Distinct := by
  have found : (directory entries).at? [entry.1] = some entry.2 := by
    rw [at?_cons, child?_directory, (mem_entries_iff distinct.nodup).mp among]
    exact at?_nil _
  exact All.at? distinct found

@[simp] theorem distinct_file (bytes : ByteArray) : (file bytes).Distinct := .of_file List.nodup_nil

@[simp] theorem distinct_link (target : String) : (link target).Distinct :=
  .of_entries List.nodup_nil (List.forall_mem_nil _)

theorem distinct_directory_iff :
    (directory entries).Distinct ↔
      (entries.map (·.1)).Nodup ∧ ∀ entry ∈ entries, entry.2.Distinct :=
  ⟨fun distinct => ⟨distinct.nodup, fun _ => distinct.below⟩,
    fun ⟨nodup, below⟩ => .of_entries nodup below⟩

theorem Distinct.setEntry (distinct : (directory entries).Distinct) (isNew : new.Distinct) :
    (directory (Node.setEntry name new entries)).Distinct := by
  refine .of_entries (nodup_setEntry new distinct.nodup) fun entry among => ?_
  rcases mem_setEntry among with rfl | old
  · exact isNew
  · exact distinct.below old

/-- **Storing a node keeps names distinct.** -/
theorem Distinct.set (isNew : new.Distinct) (place : List String) (distinct : root.Distinct) :
    (Node.set new place root).Distinct := by
  fun_induction Node.set new place root with
  | case1 => exact isNew
  | case2 name entries => exact distinct.setEntry isNew
  | case3 name names entries _ child found ih =>
    exact distinct.setEntry (ih (distinct.below ((mem_entries_iff distinct.nodup).mpr found)))
  | case4 => exact distinct
  | case5 => exact distinct

/-- **Taking a node away keeps names distinct.** -/
theorem Distinct.erase (place : List String) (distinct : root.Distinct) :
    (Node.erase place root).Distinct := by
  fun_induction Node.erase place root with
  | case1 name entries =>
    have sub : (entries.filter fun entry => entry.1 != name).Sublist entries := List.filter_sublist
    refine .of_entries (distinct.nodup.sublist (sub.map _)) fun entry among => ?_
    exact distinct.below (sub.subset among)
  | case2 name names entries _ child found ih =>
    exact distinct.setEntry (ih (distinct.below ((mem_entries_iff distinct.nodup).mpr found)))
  | case3 => exact distinct
  | case4 => exact distinct

end Node

variable {tree : FileTree}

/-- **Replacing a file keeps names distinct,** however it ends. -/
theorem distinct_replaceFile (directory path : Path) (bytes : ByteArray)
    (distinct : tree.root.Distinct) :
    ((replaceFile directory path bytes).run tree).2.root.Distinct := by
  have put (place : List String) (written : ByteArray) :
      (tree.withNode place (.file written)).root.Distinct :=
    .set (.of_file List.nodup_nil) _ distinct
  rcases replaceFile_cases directory path bytes tree with
    ⟨_, failed⟩ | ⟨source, fresh, -, ⟨_, written, failed⟩ | ⟨_, _, _, _, _, _, done⟩⟩
  · rw [failed]
    exact distinct
  · rw [failed, withoutTemporary]
    split
    · exact put _ written
    · exact .erase _ (put _ written)
  · rw [done]
    exact .erase _ (.set (.of_file List.nodup_nil) _ (put _ bytes))

/-! ## Names of entries -/

theorem isEntryName_iff {name : String} :
    IsEntryName name ↔ '/' ∉ name.toList ∧ name.toList ≠ [] ∧ Path.step name = .name name ∧
      name.utf8ByteSize ≤ nameLimit :=
  ⟨fun isName => ⟨isName.noSlash, isName.named, isName.isName, isName.short⟩,
    fun ⟨noSlash, named, isName, short⟩ => ⟨noSlash, named, isName, short⟩⟩

instance : DecidablePred IsEntryName := fun _ => decidable_of_iff _ isEntryName_iff.symm

/-- A file tree in which the names in a directory are those of entries, each used once. -/
structure WellNamed (tree : FileTree) : Prop where
  distinct : tree.root.Distinct
  named : ∀ place name, tree.look (place ++ [name]) ≠ none → IsEntryName name

/-- Names are told to be those of entries, each used once, by the directories themselves. -/
theorem WellNamed.of_entries
    (all : tree.root.All fun node =>
      (node.entries.map (·.1)).Nodup ∧ ∀ entry ∈ node.entries, IsEntryName entry.1) :
    tree.WellNamed where
  distinct place node isAt := (all place node isAt).1
  named place name stands := by
    rw [look, Node.look, ne_eq, Option.map_eq_none_iff, Node.at?_snoc, ← ne_eq,
      Option.ne_none_iff_exists'] at stands
    obtain ⟨child, isChild⟩ := stands
    obtain ⟨node, isAt, found⟩ := Option.bind_eq_some_iff.mp isChild
    obtain ⟨before, after, split, -⟩ := List.lookup_eq_some_iff.mp found
    exact (all place node isAt).2 (name, child) (by rw [split]; simp)

/-- An entry of the directory at a place stands there under its name. -/
theorem WellNamed.look_entry (named : tree.WellNamed) {place : List String}
    {entries : List (String × Node)} (isAt : tree.root.at? place = some (.directory entries))
    {entry : String × Node} (among : entry ∈ entries) :
    tree.look (place ++ [entry.1]) = some entry.2.shape := by
  have nodup := (Node.Distinct.nodup (named.distinct.at? isAt))
  rw [look, Node.look, Node.at?_snoc, isAt]
  exact congrArg (Option.map Node.shape) ((Node.mem_entries_iff nodup).mp among)

theorem WellNamed.isEntryName (named : tree.WellNamed) {place : List String}
    {entries : List (String × Node)} (isAt : tree.root.at? place = some (.directory entries))
    {entry : String × Node} (among : entry ∈ entries) : IsEntryName entry.1 :=
  named.named place entry.1 (by rw [named.look_entry isAt among]; exact Option.some_ne_none _)

/-! ## Empty directories in a directory -/

/-- A tree with empty directories in one directory. -/
def emptyDirectories (above : String) (names : List String) : FileTree :=
  { root := .directory [(above, .directory (names.map fun name => (name, .directory [])))]
    workplace := [] }

section EmptyDirectories

variable {above : String} {names : List String}

theorem all_emptyDirectories {holds : Node → Prop}
    (atTop : holds (emptyDirectories above names).root)
    (atDirectory : holds (.directory (names.map fun name => (name, .directory []))))
    (atEmpty : holds (.directory [])) : (emptyDirectories above names).root.All holds := by
  refine .of_entries atTop ?_
  simp only [emptyDirectories, Node.entries, List.forall_mem_singleton]
  refine .of_entries atDirectory fun entry among => ?_
  obtain ⟨name, -, rfl⟩ := List.mem_map.mp among
  exact .of_entries atEmpty (List.forall_mem_nil _)

theorem wellNamed_emptyDirectories (isAbove : IsEntryName above) (nodup : names.Nodup)
    (areNames : ∀ name ∈ names, IsEntryName name) : (emptyDirectories above names).WellNamed := by
  have same : (names.map fun name => (name, Node.directory [])).map (·.1) = names := by
    rw [List.map_map]
    exact List.map_id names
  refine .of_entries (all_emptyDirectories ?_ ?_ ?_)
  · simp [emptyDirectories, Node.entries, isAbove]
  · refine ⟨same.symm ▸ nodup, fun entry among => ?_⟩
    obtain ⟨name, isOne, rfl⟩ := List.mem_map.mp among
    exact areNames name isOne
  · simp [Node.entries]

theorem noLinks_emptyDirectories : (emptyDirectories above names).root.NoLinks :=
  all_emptyDirectories (fun _ => nofun) (fun _ => nofun) (fun _ => nofun)

end EmptyDirectories

end PluginAudit.FileTree
