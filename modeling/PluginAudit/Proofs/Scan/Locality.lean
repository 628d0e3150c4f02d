import PluginAudit.Proofs.FileTree.Below
import PluginAudit.Proofs.Scan.Modules

/-!
# What a scan depends on

What a scan meets below a directory is told by what is seen at the places below
it, and not by the order in which directories list their entries. A file that is
no module does not matter at all (`meetingsBelow_congr`).
-/

set_option autoImplicit false

namespace PluginAudit.Scan

open FileTree (Node Reading)

/-- What stands at a place of two directories is the same, as far to be read in both, or it is a
file that is no module. -/
inductive SameModule (rules : Rules) (first second : Node)
    (reading reading' : List String → Reading) (place : List String) : Prop where
  | same (equal : first.look place = second.look place)
      (readable : first.look place ≠ none → reading place = reading' place)
  | passedOver {name : String} {bytes bytes' : ByteArray} (last : place.getLast? = some name)
      (noModule : isModuleName rules name = false) (isFile : first.look place = some (.file bytes))
      (isFile' : second.look place = some (.file bytes'))

section Same

variable {rules : Rules} {first second : Node} {reading reading' : List String → Reading}
  {place more : List String}

/-- Something stands in one of the directories where it does in the other. -/
theorem SameModule.isSome (same : SameModule rules first second reading reading' place) :
    (first.at? place).isSome = (second.at? place).isSome := by
  have shapes : (first.look place).isSome = (second.look place).isSome := by
    cases same with
    | same equal => rw [equal]
    | passedOver _ _ isFile isFile' => rw [isFile, isFile']; rfl
  simpa [Node.look] using shapes

theorem SameModule.below {node node' : Node}
    (same : SameModule rules first second reading reading' (place ++ more))
    (found : first.at? place = some node) (found' : second.at? place = some node')
    (further : more ≠ []) :
    SameModule rules node node' (fun names => reading (place ++ names))
      (fun names => reading' (place ++ names)) more := by
  have look := Node.look_append found more
  have look' := Node.look_append found' more
  cases same with
  | same equal readable => exact .same (by rw [← look, ← look', equal]) (look ▸ readable)
  | passedOver last noModule isFile isFile' =>
    refine .passedOver ?_ noModule (look ▸ isFile) (look' ▸ isFile')
    rw [← last, List.getLast?_append_of_ne_nil _ further]

/-- A directory is the same in both as far as it can be read. -/
theorem SameModule.readable_directory (same : SameModule rules first second reading reading' place)
    (here : first.look place = some .directory) : reading place = reading' place := by
  cases same with
  | same _ readable => exact readable (by rw [here]; simp)
  | passedOver _ _ isFile _ => rw [here] at isFile; cases isFile

end Same

section Below

variable {rules : Rules} {reading reading' : List String → Reading}

/-- What is met below a directory is told by what is met at the entries under each name. -/
theorem meetingsBelow_of_lookup {entries entries' : List (String × Node)}
    (nodup : (entries.map (·.1)).Nodup) (nodup' : (entries'.map (·.1)).Nodup)
    (here : reading [] = reading' [])
    (same : ∀ name, (entries.lookup name).map (meetingsAt rules reading name) =
      (entries'.lookup name).map (meetingsAt rules reading' name)) :
    meetingsBelow rules reading (.directory entries) =
      meetingsBelow rules reading' (.directory entries') := by
  have keys (reading : List String → Reading) (list : List (String × Node)) :
      (list.map fun entry => (entry.1, meetingsAt rules reading entry.1 entry.2)).map (·.1) =
        list.map (·.1) := by
    simp
  have among (reading : List String → Reading) {list : List (String × Node)}
      (nodup : (list.map (·.1)).Nodup) (name : String) (found : List Meeting) :
      (name, found) ∈ (list.map fun entry => (entry.1, meetingsAt rules reading entry.1 entry.2)) ↔
        (list.lookup name).map (meetingsAt rules reading name) = some found := by
    simp only [List.mem_map, Prod.exists, Prod.mk.injEq, Option.map_eq_some_iff]
    constructor
    · rintro ⟨_, node, isEntry, rfl, rfl⟩
      exact ⟨node, (Node.mem_entries_iff nodup).mp isEntry, rfl⟩
    · rintro ⟨node, isEntry, rfl⟩
      exact ⟨name, node, (Node.mem_entries_iff nodup).mpr isEntry, rfl, rfl⟩
  have perm : (entries.map fun entry => (entry.1, meetingsAt rules reading entry.1 entry.2)).Perm
      (entries'.map fun entry => (entry.1, meetingsAt rules reading' entry.1 entry.2)) := by
    refine (List.perm_ext_iff_of_nodup ?_ ?_).mpr ?_
    · exact List.Nodup.of_map (·.1) (by rwa [keys])
    · exact List.Nodup.of_map (·.1) (by rwa [keys])
    · rintro ⟨name, found⟩
      rw [among _ nodup, among _ nodup', same]
  rw [meetingsBelow, meetingsBelow, entryMeetings_eq, entryMeetings_eq, here,
    Node.byName_eq_of_perm perm (by rwa [keys])]

/-- **What is no module does not matter to a scan,** nor does the order of entries: it meets the
same below directories in which the same modules are. -/
theorem meetingsBelow_congr {entries entries' : List (String × Node)}
    {reading reading' : List String → Reading}
    (distinct : (Node.directory entries).Distinct) (distinct' : (Node.directory entries').Distinct)
    (same : ∀ place, SameModule rules (.directory entries) (.directory entries') reading reading'
      place) :
    meetingsBelow rules reading (.directory entries) =
      meetingsBelow rules reading' (.directory entries') := by
  have here : reading [] = reading' [] := (same []).readable_directory rfl
  apply meetingsBelow_of_lookup distinct.nodup distinct'.nodup here
  intro name
  have isSome := (same [name]).isSome
  cases found : entries.lookup name with
  | none =>
    cases found' : entries'.lookup name with
    | none => rfl
    | some node' => simp [found, found'] at isSome
  | some node =>
    cases found' : entries'.lookup name with
    | none => simp [found, found'] at isSome
    | some node' =>
      have isAt : (Node.directory entries).at? [name] = some node := by simp [found]
      have isAt' : (Node.directory entries').at? [name] = some node' := by simp [found']
      apply congrArg some
      cases same [name] with
      | passedOver last noModule isFile isFile' =>
        obtain rfl : name = _ := Option.some.inj last
        have isFile := Node.shape_eq_file.mp (by simpa [Node.look, found] using isFile)
        have isFile' := Node.shape_eq_file.mp (by simpa [Node.look, found'] using isFile')
        simp [isFile, isFile', meetingsAt, noModule]
      | same equal readable =>
        have shape : node.shape = node'.shape := by simpa [Node.look, found, found'] using equal
        have readable : reading [name] = reading' [name] := readable (by simp [Node.look, found])
        cases node with
        | file bytes =>
          obtain rfl := Node.shape_eq_file.mp shape.symm
          rw [meetingsAt, meetingsAt, here, readable]
        | link target =>
          obtain rfl := Node.shape_eq_link.mp shape.symm
          rfl
        | directory below =>
          obtain ⟨below', rfl⟩ := Node.shape_eq_directory.mp shape.symm
          have within : ∀ more, SameModule rules (.directory below) (.directory below')
              (fun names => reading (name :: names)) (fun names => reading' (name :: names))
              more := by
            intro more
            cases more with
            | nil => exact .same rfl fun _ => readable
            | cons next more =>
              exact (same ([name] ++ next :: more)).below isAt isAt' (List.cons_ne_nil next more)
          rw [meetingsAt, meetingsAt, here,
            meetingsBelow_congr (distinct.at? isAt) (distinct'.at? isAt') within]
termination_by sizeOf entries
decreasing_by
  have isEntry := (Node.mem_entries_iff distinct.nodup).mpr found
  have smaller := List.sizeOf_lt_of_mem isEntry
  simp only [Prod.mk.sizeOf_spec, Node.directory.sizeOf_spec] at smaller
  omega

end Below

/-- What is read below a place by a path is told by how far it can be read there. -/
theorem readingBelow_congr {tree tree' : FileTree} {plugin : Path}
    {place place' names : List String}
    (same : tree.reading (place ++ names) = tree'.reading (place' ++ names)) :
    readingBelow tree plugin place names = readingBelow tree' plugin place' names := by
  rw [readingBelow, readingBelow, same]

/-- Where the same is seen, no module differs. -/
theorem SameModule.of_view {rules : Rules} {tree tree' : FileTree} {place place' more : List String}
    {first second : Node} (isAt : tree.root.at? place = some first)
    (isAt' : tree'.root.at? place' = some second)
    (same : tree.view (place ++ more) = tree'.view (place' ++ more)) :
    SameModule rules first second (fun names => tree.reading (place ++ names))
      (fun names => tree'.reading (place' ++ names)) more := by
  have look := Node.look_append isAt more
  have look' := Node.look_append isAt' more
  refine .same ?_ fun stands => ?_
  · rw [← look, ← look']
    exact FileTree.look_of_view same
  · exact FileTree.reading_of_view same (by rwa [FileTree.look, look])

/-- **What a scan finds in a plugin is told by its own directory.** -/
theorem checkModules_congr {rules : Rules} {tree tree' : FileTree} {plugin : Path}
    {place place' : List String} (free : tree.LinkFree plugin place)
    (free' : tree'.LinkFree plugin place') (distinct : tree.root.Distinct)
    (distinct' : tree'.root.Distinct)
    (same : ∀ first second, tree.root.at? place = some first → tree'.root.at? place' = some second →
      ∀ more, SameModule rules first second (fun names => tree.reading (place ++ names))
        (fun names => tree'.reading (place' ++ names)) more) :
    checkModules rules tree plugin = checkModules rules tree' plugin := by
  obtain ⟨entries, located, isAt⟩ := free.located
  obtain ⟨entries', located', isAt'⟩ := free'.located
  have met : meetingsBelow rules (readingBelow tree plugin place) (.directory entries) =
      meetingsBelow rules (readingBelow tree' plugin place') (.directory entries') := by
    refine meetingsBelow_congr (distinct.at? isAt) (distinct'.at? isAt') fun more => ?_
    cases same _ _ isAt isAt' more with
    | same equal readable => exact .same equal fun stands => readingBelow_congr (readable stands)
    | passedOver last noModule isFile isFile' => exact .passedOver last noModule isFile isFile'
  rw [checkModules, checkModules, meetings_eq located, meetings_eq located', met]

end PluginAudit.Scan
