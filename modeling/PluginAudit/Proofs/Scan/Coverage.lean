import PluginAudit.Proofs.FileTree.Naming
import PluginAudit.Proofs.Scan.Modules

/-!
# What a scan covers

The walk of a scan sorts the names in each directory and passes over some of
them. Here its result is told by places alone: the modules that are scanned are
the files at the places below the directory of the plugin to which the names of
a module lead, each listed in the directory before it (`Covers`), and the
directories that are told are those to which names lead that are entered and
listed, and that cannot be listed to the end (`Bars`). Both come in the order of
these names, compared one by one. So none comes twice, and neither what the
directory of the plugin is called nor where its path goes through links matters.

Each of them is reported by itself. The findings of a scan are a warning for
each of these directories and those in one module after the other
(`scan_covers_modules`), and where a module cannot be read as a text a single
warning stands for it. A module in a directory that cannot be listed is not
scanned (`locked_directory_hides_module`).
-/

set_option autoImplicit false

namespace PluginAudit.Scan

open FileTree (Node Reading)

/-! ## What is met -/

section Met

variable {rules : Rules} {reading : List String → Reading} {entries : List (String × Node)}

/-- The names that lead to what is met at an entry begin with that of the entry. -/
theorem below_of_mem_meetingsAt {name : String} {node : Node} {met : Meeting}
    (isMet : met ∈ meetingsAt rules reading name node) : ∃ more, met = Meeting.below name more := by
  cases node with
  | file bytes =>
    simp only [meetingsAt, List.mem_ite_nil_right, List.mem_singleton] at isMet
    exact ⟨.module ⟨[], _⟩, isMet.2⟩
  | link target => cases isMet
  | directory below =>
    simp only [meetingsAt, List.mem_ite_nil_right, List.mem_map] at isMet
    obtain ⟨-, further, -, rfl⟩ := isMet
    exact ⟨further, rfl⟩

theorem names_below (name : String) (met : Meeting) :
    (met.below name).names = name :: met.names := by
  cases met <;> rfl

/-- What is met at an entry is not the directory itself. -/
theorem names_ne_nil_of_mem_meetingsAt {name : String} {node : Node} {met : Meeting}
    (isMet : met ∈ meetingsAt rules reading name node) : met.names ≠ [] := by
  obtain ⟨more, rfl⟩ := below_of_mem_meetingsAt isMet
  rw [names_below]
  exact List.cons_ne_nil _ _

/-- What is met below an entry is met at the entry under that name. -/
theorem below_mem_meetingsBelow {name : String} {met : Meeting}
    (isMet : met.below name ∈ meetingsBelow rules reading (.directory entries)) :
    ∃ node, (name, node) ∈ entries ∧ met.below name ∈ meetingsAt rules reading name node := by
  rcases mem_meetingsBelow_iff.mp isMet with
    ⟨found, isObstacle, same⟩ | ⟨other, node, isEntry, isAt⟩
  · have here : found.names = [] := by
      cases reading : reading [] <;> rw [reading] at isObstacle <;> cases isObstacle <;> rfl
    have names := congrArg Meeting.names same
    rw [names_below, Meeting.names, here] at names
    cases names
  · obtain ⟨more, same⟩ := below_of_mem_meetingsAt isAt
    have names := congrArg Meeting.names same
    rw [names_below, names_below] at names
    obtain ⟨rfl, -⟩ := List.cons.inj names
    exact ⟨node, isEntry, isAt⟩

theorem LeadToModule.cons {name : String} {names : List String} (leads : LeadToModule rules names)
    (entered : name ∉ skippedDirectories) : LeadToModule rules (name :: names) := by
  obtain ⟨⟨last, isLast, isModule⟩, enteredBelow⟩ := leads
  cases names with
  | nil => cases isLast
  | cons next names =>
    refine ⟨⟨last, by simpa using isLast, isModule⟩, ?_⟩
    rw [List.dropLast_cons_cons]
    exact List.forall_mem_cons.mpr ⟨entered, enteredBelow⟩

/-- **Only modules are met as such,** each at its place and as far as it can be read there. -/
theorem leads_of_module_met {names : List String} {text : Except FileTree.Fault String}
    (distinct : (Node.directory entries).Distinct)
    (isMet : .module ⟨names, text⟩ ∈ meetingsBelow rules reading (.directory entries)) :
    ∃ bytes, (Node.directory entries).at? names = some (.file bytes) ∧
      LeadToModule rules names ∧ Listed reading names ∧ text = (reading names).text bytes := by
  induction names generalizing entries reading with
  | nil =>
    rcases mem_meetingsBelow_iff.mp isMet with ⟨_, _, same⟩ | ⟨name, node, -, isAt⟩
    · cases same
    · exact absurd rfl (names_ne_nil_of_mem_meetingsAt isAt)
  | cons name names ih =>
    have isBelow : Meeting.below name (.module ⟨names, text⟩) ∈
        meetingsBelow rules reading (.directory entries) := isMet
    obtain ⟨node, isEntry, isAt⟩ := below_mem_meetingsBelow isBelow
    have isChild := (Node.mem_entries_iff distinct.nodup).mp isEntry
    rw [Node.at?_cons, Node.child?_directory, isChild]
    cases node with
    | file bytes =>
      simp only [meetingsAt, Meeting.below, List.mem_ite_nil_right, List.mem_singleton,
        Meeting.module.injEq, Module.mk.injEq, List.cons.injEq, true_and, Bool.and_eq_true] at isAt
      obtain ⟨⟨here, isModule⟩, rfl, rfl⟩ := isAt
      exact ⟨bytes, rfl, ⟨⟨name, rfl, isModule⟩, List.forall_mem_nil _⟩,
        listed_cons_iff.mpr ⟨here, listed_nil⟩, rfl⟩
    | link target => cases isAt
    | directory below =>
      obtain ⟨⟨here, entered⟩, further⟩ := below_mem_meetingsAt.mp isAt
      obtain ⟨bytes, isThere, leads, listed, isRead⟩ := ih (distinct.below isEntry) further
      exact ⟨bytes, isThere, leads.cons entered, listed_cons_iff.mpr ⟨here, listed⟩, isRead⟩

/-- The obstacle that a directory is has the fault and tells whether listing has begun. -/
theorem obstacle?_eq_some {names : List String} {fault : FileTree.Fault} {begun : Bool}
    {reading : Reading} :
    obstacle? reading = some ⟨names, fault, begun⟩ ↔
      names = [] ∧ (reading = .refused fault ∧ begun = false ∨
        ∃ listed, reading = .broken fault listed ∧ begun = true) := by
  cases reading <;> simp [obstacle?]

/-- A directory that stands behind a name stands in the directory under that name, or is it. -/
theorem directory_of_look_cons {name : String} {names : List String}
    (isThere : (Node.directory entries).look (name :: names) = some .directory) :
    ∃ below, entries.lookup name = some (.directory below) ∧
      (Node.directory below).look names = some .directory := by
  rw [Node.look, Node.at?_cons, Node.child?_directory] at isThere
  cases isChild : entries.lookup name with
  | none =>
    rw [isChild] at isThere
    cases isThere
  | some node =>
    rw [isChild, Option.bind_some] at isThere
    have above : node.look [] = some .directory := by
      cases names with
      | nil => exact isThere
      | cons next names =>
        have further : node.look ([] ++ next :: names) = some .directory := isThere
        exact Node.look_directory_of_append further (List.cons_ne_nil next names)
    obtain ⟨below, isDirectory⟩ := Node.look_directory.mp above
    obtain rfl : node = .directory below := by simpa using isDirectory
    exact ⟨below, rfl, isThere⟩

/-- The directory itself is met if it cannot be listed to the end. -/
theorem obstacle_met_here_iff {fault : FileTree.Fault} {begun : Bool} :
    .obstacle ⟨[], fault, begun⟩ ∈ meetingsBelow rules reading (.directory entries) ↔
      (reading [] = .refused fault ∧ begun = false ∨
        ∃ listed, reading [] = .broken fault listed ∧ begun = true) := by
  rw [mem_meetingsBelow_iff]
  constructor
  · rintro (⟨_, isObstacle, same⟩ | ⟨name, node, -, isAt⟩)
    · cases same
      exact (obstacle?_eq_some.mp isObstacle).2
    · exact absurd rfl (names_ne_nil_of_mem_meetingsAt isAt)
  · exact fun isBarred => .inl ⟨_, obstacle?_eq_some.mpr ⟨rfl, isBarred⟩, rfl⟩

/-- A directory below is met in the directory that stands under the first name, if that is listed
and entered. -/
theorem obstacle_met_below_iff {name : String} {names : List String} {fault : FileTree.Fault}
    {begun : Bool} (distinct : (Node.directory entries).Distinct) :
    .obstacle ⟨name :: names, fault, begun⟩ ∈ meetingsBelow rules reading (.directory entries) ↔
      ∃ below, entries.lookup name = some (.directory below) ∧
        ((reading []).lists name = true ∧ name ∉ skippedDirectories) ∧
        .obstacle ⟨names, fault, begun⟩ ∈
          meetingsBelow rules (fun more => reading (name :: more)) (.directory below) := by
  have same : Meeting.obstacle ⟨name :: names, fault, begun⟩ =
      Meeting.below name (.obstacle ⟨names, fault, begun⟩) := rfl
  rw [same]
  constructor
  · intro isMet
    obtain ⟨node, isEntry, isAt⟩ := below_mem_meetingsBelow isMet
    cases node with
    | file bytes => simp [meetingsAt, Meeting.below] at isAt
    | link target => cases isAt
    | directory below =>
      exact ⟨below, (Node.mem_entries_iff distinct.nodup).mp isEntry,
        below_mem_meetingsAt.mp isAt⟩
  · rintro ⟨below, isChild, further⟩
    have isEntry := (Node.mem_entries_iff distinct.nodup).mpr isChild
    exact mem_meetingsBelow_iff.mpr
      (.inr ⟨name, _, isEntry, below_mem_meetingsAt.mpr further⟩)

/-- **The obstacles that are met** are the directories that a walk comes to and cannot list to the
end. -/
theorem obstacle_met_iff {names : List String} {fault : FileTree.Fault} {begun : Bool}
    (distinct : (Node.directory entries).Distinct) :
    .obstacle ⟨names, fault, begun⟩ ∈ meetingsBelow rules reading (.directory entries) ↔
      (Node.directory entries).look names = some .directory ∧
        (∀ name ∈ names, name ∉ skippedDirectories) ∧ Listed reading names ∧
        (reading names = .refused fault ∧ begun = false ∨
          ∃ listed, reading names = .broken fault listed ∧ begun = true) := by
  induction names generalizing entries reading with
  | nil =>
    have here : (Node.directory entries).look [] = some .directory := rfl
    rw [obstacle_met_here_iff, and_iff_right here, and_iff_right (List.forall_mem_nil _),
      and_iff_right listed_nil]
  | cons name names ih =>
    rw [obstacle_met_below_iff distinct, List.forall_mem_cons, listed_cons_iff]
    constructor
    · rintro ⟨below, isChild, ⟨here, entered⟩, further⟩
      have isEntry := (Node.mem_entries_iff distinct.nodup).mpr isChild
      obtain ⟨isThere, enteredBelow, listed, isBarred⟩ :=
        (ih (distinct.below isEntry)).mp further
      refine ⟨?_, ⟨entered, enteredBelow⟩, ⟨here, listed⟩, isBarred⟩
      rw [Node.look, Node.at?_cons, Node.child?_directory, isChild]
      exact isThere
    · rintro ⟨isThere, ⟨entered, enteredBelow⟩, ⟨here, listed⟩, isBarred⟩
      obtain ⟨below, isChild, isThere⟩ := directory_of_look_cons isThere
      have isEntry := (Node.mem_entries_iff distinct.nodup).mpr isChild
      exact ⟨below, isChild, ⟨here, entered⟩,
        (ih (distinct.below isEntry)).mpr ⟨isThere, enteredBelow, listed, isBarred⟩⟩

/-! ## The order -/

/-- What comes in order below an entry comes in order. -/
theorem pairwise_map_below (name : String) {met : List Meeting}
    (ordered : met.Pairwise fun first second => first.names < second.names) :
    (met.map (Meeting.below name)).Pairwise fun first second => first.names < second.names := by
  refine List.pairwise_map.mpr (ordered.imp fun before => ?_)
  rw [names_below, names_below]
  exact List.cons_lt_cons_iff.mpr (.inr ⟨rfl, before⟩)

/-- What is met at one entry comes before what is met at an entry with a greater name. -/
theorem names_lt_of_entries {name name' : String} {node node' : Node} {one other : Meeting}
    (isOne : one ∈ meetingsAt rules reading name node)
    (isOther : other ∈ meetingsAt rules reading name' node') (before : name < name') :
    one.names < other.names := by
  obtain ⟨more, rfl⟩ := below_of_mem_meetingsAt isOne
  obtain ⟨more', rfl⟩ := below_of_mem_meetingsAt isOther
  rw [names_below, names_below]
  exact List.cons_lt_cons_iff.mpr (.inl before)

/-- **What is met comes in the order of the names that lead to it.** -/
theorem ordered_meetingsBelow {entries : List (String × Node)} {reading : List String → Reading}
    (distinct : (Node.directory entries).Distinct) :
    (meetingsBelow rules reading (.directory entries)).Pairwise fun first second =>
      first.names < second.names := by
  rw [meetingsBelow, List.pairwise_append, List.pairwise_flatMap]
  refine ⟨?_, ⟨?_, ?_⟩, ?_⟩
  · cases obstacle? (reading []) with
    | none => exact .nil
    | some found => exact List.pairwise_singleton _ _
  · intro named among
    obtain ⟨name, node, isEntry, rfl⟩ := mem_byName_entryMeetings.mp among
    cases node with
    | file bytes =>
      dsimp only [meetingsAt]
      split
      · exact List.pairwise_singleton _ _
      · exact .nil
    | link target => exact .nil
    | directory below =>
      have further : (meetingsBelow rules (fun more => reading (name :: more))
          (.directory below)).Pairwise fun first second => first.names < second.names :=
        ordered_meetingsBelow (distinct.below isEntry)
      dsimp only [meetingsAt]
      split
      · exact pairwise_map_below name further
      · exact .nil
  · have nodup : ((entryMeetings rules reading entries).map (·.1)).Nodup := by
      rw [names_entryMeetings]
      exact distinct.nodup
    refine (Node.pairwise_byName_lt nodup).imp_of_mem fun isFirst isSecond before => ?_
    intro one isOne other isOther
    obtain ⟨name, node, -, rfl⟩ := mem_byName_entryMeetings.mp isFirst
    obtain ⟨name', node', -, rfl⟩ := mem_byName_entryMeetings.mp isSecond
    exact names_lt_of_entries isOne isOther before
  · -- The directory itself comes before everything in it.
    intro first isFirst second isSecond
    obtain ⟨⟨names, fault, begun⟩, isObstacle, rfl⟩ := List.mem_map.mp isFirst
    obtain ⟨rfl, -⟩ := obstacle?_eq_some.mp (Option.mem_toList.mp isObstacle)
    obtain ⟨named, among, isMet⟩ := List.mem_flatMap.mp isSecond
    obtain ⟨name, node, -, rfl⟩ := mem_byName_entryMeetings.mp among
    obtain ⟨more, rfl⟩ := below_of_mem_meetingsAt isMet
    rw [names_below]
    exact List.nil_lt_cons _ _
termination_by sizeOf entries
decreasing_by
  have smaller := List.sizeOf_lt_of_mem isEntry
  simp only [Prod.mk.sizeOf_spec, Node.directory.sizeOf_spec] at smaller
  omega

end Met

/-! ## What a scan reports -/

/-- Modules cover a directory: they are the files below it to which the names of a module lead,
each listed in the directory before it, with the text that is read there, in the order of these
names. No link stands on the way to one of them. -/
structure Covers (rules : Rules) (reading : List String → Reading) (directory : Node)
    (scanned : List Module) : Prop where
  exactly : ∀ names text, ⟨names, text⟩ ∈ scanned ↔
    ∃ bytes, directory.at? names = some (.file bytes) ∧ LeadToModule rules names ∧
      Listed reading names ∧ text = (reading names).text bytes
  ordered : scanned.Pairwise fun first second => first.names < second.names
  unlinked : ∀ one ∈ scanned, ∀ part, part <+: one.names →
    ∀ target, directory.at? part ≠ some (.link target)

/-- Obstacles bar a directory: they are the directories to which names lead that are entered and
listed, itself among them, that cannot be listed or where listing breaks off, in the order of
these names. -/
structure Bars (reading : List String → Reading) (directory : Node) (obstacles : List Obstacle) :
    Prop where
  exactly : ∀ names fault begun, ⟨names, fault, begun⟩ ∈ obstacles ↔
    directory.look names = some .directory ∧ (∀ name ∈ names, name ∉ skippedDirectories) ∧
      Listed reading names ∧
      (reading names = .refused fault ∧ begun = false ∨
        ∃ listed, reading names = .broken fault listed ∧ begun = true)
  ordered : obstacles.Pairwise fun first second => first.names < second.names

/-- On the way to a file there is no link. -/
theorem not_link_of_at? {root : Node} {part names : List String} {bytes : ByteArray}
    (isFile : root.at? names = some (.file bytes)) (onTheWay : part <+: names) (target : String) :
    root.at? part ≠ some (.link target) := by
  intro isLink
  obtain ⟨more, rfl⟩ := onTheWay
  rw [Node.at?_append, isLink, Option.bind_some] at isFile
  cases more with
  | nil => cases isFile
  | cons name more => cases isFile

section Covering

variable {reading : List String → Reading} {entries : List (String × Node)}
  (distinct : (Node.directory entries).Distinct)

include distinct

theorem covers_meetingsBelow (rules : Rules) : Covers rules reading (.directory entries)
    ((meetingsBelow rules reading (.directory entries)).filterMap Meeting.module?) where
  exactly names text := by
    rw [mem_modules_iff]
    refine ⟨leads_of_module_met distinct, ?_⟩
    rintro ⟨bytes, isAt, leads, listed, rfl⟩
    exact module_met isAt leads listed
  ordered := by
    rw [List.pairwise_filterMap]
    refine (ordered_meetingsBelow distinct).imp fun before => ?_
    rintro one isOne other isOther
    cases Meeting.eq_of_module? isOne
    cases Meeting.eq_of_module? isOther
    exact before
  unlinked one isOne _ onTheWay := by
    obtain ⟨bytes, isAt, -⟩ := leads_of_module_met distinct (mem_modules_iff.mp isOne)
    exact not_link_of_at? isAt onTheWay

theorem bars_meetingsBelow (rules : Rules) : Bars reading (.directory entries)
    ((meetingsBelow rules reading (.directory entries)).filterMap Meeting.obstacle?) where
  exactly names fault begun := by
    rw [mem_obstacles_iff]
    exact obstacle_met_iff distinct
  ordered := by
    rw [List.pairwise_filterMap]
    refine (ordered_meetingsBelow distinct).imp fun before => ?_
    rintro one isOne other isOther
    cases Meeting.eq_of_obstacle? isOne
    cases Meeting.eq_of_obstacle? isOther
    exact before

end Covering

/-- Findings in a module name it. -/
theorem file_of_mem_checkModule {rules : Rules} {one : Module} {finding : Finding}
    (among : finding ∈ checkModule rules one) : finding.file = some one.file := by
  unfold checkModule at among
  split at among
  · obtain ⟨category, -, rfl⟩ := List.mem_map.mp among
    rfl
  · rw [List.mem_singleton.mp among]
    rfl

/-- What a scan reports of the directories that bar it and of the modules that it has met: a
warning for each of these directories, and then the findings in the modules one after the other,
each naming its module. A module that cannot be read as a text has one warning and nothing else.
-/
structure Reports (rules : Rules) (plugin : Path) (obstacles : List Obstacle)
    (scanned : List Module) (findings : List Finding) : Prop where
  inOrder : findings =
    obstacles.map (obstruction plugin) ++ scanned.flatMap (checkModule rules)
  warned : ∀ one ∈ obstacles, (obstruction plugin one).severity = .warning ∧
    (obstruction plugin one).code = "IO01" ∧
    (obstruction plugin one).file = some (if one.begun then "." else fileOf one.names)
  named : ∀ one ∈ scanned, ∀ finding ∈ checkModule rules one, finding.file = some one.file
  read : ∀ one ∈ scanned, ∀ content, one.text = .ok content →
    checkModule rules one = source rules one.file content
  unread : ∀ one ∈ scanned, ∀ fault, one.text = .error fault →
    checkModule rules one =
      [{ severity := .warning, category := .scanIo, code := "IO01",
         message := "Failed to scan " ++ one.file ++ " for security issues: " ++ fault.message,
         file := some one.file }]

theorem reports_append (rules : Rules) (plugin : Path) (obstacles : List Obstacle)
    (scanned : List Module) : Reports rules plugin obstacles scanned
      (obstacles.map (obstruction plugin) ++ scanned.flatMap (checkModule rules)) where
  inOrder := rfl
  warned one _ := by
    rw [obstruction]
    split <;> exact ⟨rfl, rfl, rfl⟩
  named _ _ _ := file_of_mem_checkModule
  read one _ content isText := by rw [checkModule, isText]
  unread one _ fault noText := by
    rw [checkModule, noText]
    rfl

/-- **A scan covers the modules of a plugin that it can come to,** each once and in order,
wherever the directory of the plugin is and whatever it is called: only the names below it count,
and which of them are listed. What it reports besides the findings in these modules are warnings
of the directories that could not be listed, and findings that concern the packages that the
plugin declares. -/
theorem scan_covers_modules (layout : Layout) (rules : Rules) {tree : FileTree} {plugin : Path}
    {place : List String} {entries : List (String × Node)} (distinct : tree.root.Distinct)
    (located : tree.locate true plugin = .ok (place, .directory entries)) :
    ∃ scanned obstacles findings, modules rules tree plugin = .ok scanned ∧
      Covers rules (readingBelow tree plugin place) (.directory entries) scanned ∧
      Bars (readingBelow tree plugin place) (.directory entries) obstacles ∧
      Reports rules plugin obstacles scanned findings ∧
      checkPlugin layout rules tree plugin =
        findings ++ Dependencies.auditDangerous layout rules tree plugin := by
  have isAt := (FileTree.locate_ok_iff.mp located).2
  have distinctBelow : (Node.directory entries).Distinct := distinct.at? isAt
  refine ⟨_, _, _, modules_eq located, covers_meetingsBelow distinctBelow rules,
    bars_meetingsBelow distinctBelow rules, reports_append rules plugin _ _, ?_⟩
  rw [checkPlugin, checkModules, meetings_eq located]

/-! ## A plugin among packages -/

/-- A plugin with a module whose bytes are no text, a module in a directory, one among the
packages that are installed there, a link to each of the two directories and to a module, and a
module in a directory that can be locked. -/
def packagedEntries : List (String × Node) :=
  [("src", .directory
      [("node_modules", .directory [("installed.js", .file "eval(x);".toUTF8)]),
        ("packages", .link "node_modules"), ("entry.js", .file "eval(x);".toUTF8)]),
    ("index.js", .file ⟨#[0xff]⟩), ("again.js", .link "index.js"), ("lib", .link "src"),
    ("locked", .directory [("hidden.js", .file "eval(x);".toUTF8)]),
    ("notes.txt", .file "eval(x);".toUTF8)]

/-- A tree in which that plugin is itself an installed package, and one of its directories cannot
be listed. -/
def packagedPlugin : FileTree where
  root := .directory [("node_modules", .directory packagedEntries)]
  workplace := []
  reading place :=
    if place = ["node_modules", "locked"] then .refused .permissionDenied else .whole
  present place := by split <;> nofun

theorem distinct_packagedPlugin : packagedPlugin.root.Distinct := by
  simp [packagedPlugin, packagedEntries, Node.distinct_directory_iff]

theorem locate_packagedPlugin :
    packagedPlugin.locate true ⟨"node_modules"⟩ =
      .ok (["node_modules"], .directory packagedEntries) := by
  refine FileTree.locate_ok_iff.mpr ⟨⟨by decide, 0, by decide, ?_⟩, rfl⟩
  rw [show FileTree.pathSteps ⟨"node_modules"⟩ = [.name "node_modules"] by decide]
  have below : packagedPlugin.root.look ["node_modules"] = some .directory := rfl
  exact .enter rfl (by decide) below nofun (.done below)

/-- How far that plugin can be read. -/
theorem readingBelow_packagedPlugin {names : List String}
    (checked : FileTree.checkPath (Path.under ⟨"node_modules"⟩ names) = .ok ()) :
    readingBelow packagedPlugin ⟨"node_modules"⟩ ["node_modules"] names =
      if names = ["locked"] then .refused .permissionDenied else .whole := by
  rw [readingBelow_eq checked]
  simp [packagedPlugin]

/-- Rules by which a module of that plugin is one. -/
theorem leadToModule_of_scans {rules : Rules} (scansModules : rules.scansExtension "js" = true)
    {directory name : String} (entered : directory ∉ skippedDirectories)
    (isJs : Path.nameExtension? name = some "js") : LeadToModule rules [directory, name] := by
  have isModule : isModuleName rules name = true := by simp [isModuleName, isJs, scansModules]
  exact ⟨⟨_, rfl, isModule⟩, by simpa using entered⟩

/-- **An installed plugin is scanned, what is installed in it is not.** -/
theorem packaged_plugin_is_covered : packagedPlugin.root.Distinct ∧
    packagedPlugin.locate true ⟨"node_modules"⟩ =
      .ok (["node_modules"], .directory packagedEntries) ∧
    ∃ rules scanned obstacles findings, Rules.ofDocument .standard = .ok rules ∧
      modules rules packagedPlugin ⟨"node_modules"⟩ = .ok scanned ∧
      Covers rules (readingBelow packagedPlugin ⟨"node_modules"⟩ ["node_modules"])
        (.directory packagedEntries) scanned ∧
      Bars (readingBelow packagedPlugin ⟨"node_modules"⟩ ["node_modules"])
        (.directory packagedEntries) obstacles ∧
      Reports rules ⟨"node_modules"⟩ obstacles scanned findings ∧
      checkPlugin .standard rules packagedPlugin ⟨"node_modules"⟩ =
        findings ++ Dependencies.auditDangerous .standard rules packagedPlugin ⟨"node_modules"⟩ ∧
      ⟨["src", "entry.js"], .ok "eval(x);"⟩ ∈ scanned ∧
      ⟨["locked"], .permissionDenied, false⟩ ∈ obstacles ∧
      ∀ one ∈ scanned, one.names ≠ ["src", "node_modules", "installed.js"] := by
  obtain ⟨rules, isStandard, scansModules⟩ :=
    standard_holds (·.scansExtension "js") (by decide +kernel)
  obtain ⟨scanned, obstacles, findings, found, covers, bars, reports, checked⟩ :=
    scan_covers_modules .standard rules distinct_packagedPlugin locate_packagedPlugin
  have top : readingBelow packagedPlugin ⟨"node_modules"⟩ ["node_modules"] [] = .whole :=
    readingBelow_packagedPlugin (by decide +kernel)
  have inside : readingBelow packagedPlugin ⟨"node_modules"⟩ ["node_modules"] ["src"] = .whole :=
    readingBelow_packagedPlugin (by decide +kernel)
  have entry : readingBelow packagedPlugin ⟨"node_modules"⟩ ["node_modules"] ["src", "entry.js"] =
      .whole := readingBelow_packagedPlugin (by decide +kernel)
  have locked : readingBelow packagedPlugin ⟨"node_modules"⟩ ["node_modules"] ["locked"] =
      .refused .permissionDenied := readingBelow_packagedPlugin (by decide +kernel)
  have leads := leadToModule_of_scans scansModules (by decide : "src" ∉ skippedDirectories)
    (by decide : Path.nameExtension? "entry.js" = some "js")
  refine ⟨distinct_packagedPlugin, locate_packagedPlugin, rules, scanned, obstacles, findings,
    isStandard, found, covers, bars, reports, checked,
    (covers.exactly _ _).mpr ⟨"eval(x);".toUTF8, rfl, leads, ?_, ?_⟩,
    (bars.exactly _ _ _).mpr ⟨rfl, by decide, ?_, .inl ⟨locked, rfl⟩⟩, ?_⟩
  · rw [listed_cons_iff, listed_cons_iff, top, inside]
    exact ⟨rfl, rfl, listed_nil⟩
  · rw [entry]
    decide +kernel
  · rw [listed_cons_iff, top]
    exact ⟨rfl, listed_nil⟩
  · rintro ⟨names, text⟩ isOne rfl
    obtain ⟨-, -, leads, -⟩ := (covers.exactly _ text).mp isOne
    exact leads.entered "node_modules" (by decide) (by decide)

/-- **A module in a directory that cannot be listed is not scanned.** -/
theorem locked_directory_hides_module : ∃ rules scanned,
    Rules.ofDocument .standard = .ok rules ∧
    packagedPlugin.locate true ⟨"node_modules"⟩ =
      .ok (["node_modules"], .directory packagedEntries) ∧
    (Node.directory packagedEntries).at? ["locked", "hidden.js"] =
      some (.file "eval(x);".toUTF8) ∧
    LeadToModule rules ["locked", "hidden.js"] ∧
    modules rules packagedPlugin ⟨"node_modules"⟩ = .ok scanned ∧
    ∀ one ∈ scanned, one.names ≠ ["locked", "hidden.js"] := by
  obtain ⟨rules, isStandard, scansModules⟩ :=
    standard_holds (·.scansExtension "js") (by decide +kernel)
  have leads := leadToModule_of_scans scansModules (by decide : "locked" ∉ skippedDirectories)
    (by decide : Path.nameExtension? "hidden.js" = some "js")
  have distinct : (Node.directory packagedEntries).Distinct :=
    distinct_packagedPlugin.at? (FileTree.locate_ok_iff.mp locate_packagedPlugin).2
  have locked : readingBelow packagedPlugin ⟨"node_modules"⟩ ["node_modules"] ["locked"] =
      .refused .permissionDenied := readingBelow_packagedPlugin (by decide +kernel)
  refine ⟨rules, _, isStandard, locate_packagedPlugin, rfl, leads,
    modules_eq locate_packagedPlugin, ?_⟩
  rintro ⟨names, text⟩ isOne rfl
  obtain ⟨-, -, -, listed, -⟩ := leads_of_module_met distinct (mem_modules_iff.mp isOne)
  have lists := listed ["locked"] "hidden.js" [] rfl
  rw [locked] at lists
  cases lists

end PluginAudit.Scan
