import PluginAudit.Proofs.Path.Directory
import PluginAudit.Proofs.Scan.Coverage
import PluginAudit.Proofs.Validation.Codes

/-!
# One issue for each file and category

A module has at most one issue of each category, and the issue names the file of
the module. So a scan has one issue for each file and category as long as the
files of its modules differ.

They do not always. The file of a module is its path with slashes for
backslashes, and where a backslash is part of a name, two modules have one file
exactly if their places have the same parts once backslashes separate names too
(`file_eq_iff`). The issues of such modules are told apart by their categories
alone (`one_issue_per_file_and_category`), and nothing tells apart those of one
category (`backslash_merges_files`).
-/

set_option autoImplicit false

namespace PluginAudit

/-! ## Backslashes as separators -/

namespace Path

/-- The pieces of a text determine it. -/
theorem pieces_inj {first second : List Char} : pieces first = pieces second ↔ first = second := by
  refine ⟨fun same => ?_, congrArg pieces⟩
  have whole := flatMap_pieces first
  rw [same, flatMap_pieces] at whole
  exact (List.append_cancel_right whole).symm

/-- A backslash counts as a slash. -/
def slashed (c : Char) : Char := if c = '\\' then '/' else c

/-- Where backslashes count as slashes, they separate the pieces of a name. -/
theorem pieces_map_slashed {name : List Char} (noSlash : '/' ∉ name) :
    pieces (name.map slashed) = name.splitOn '\\' := by
  induction name with
  | nil => rfl
  | cons c rest ih =>
    obtain ⟨notHere, notBehind⟩ := not_or.mp (List.mem_cons.not.mp noSlash)
    rw [List.splitOn_cons_eq_if_modifyHead, ← ih notBehind, List.map_cons, pieces]
    by_cases backslash : c = '\\'
    · simp [slashed, backslash]
    · rw [slashed, if_neg backslash, if_neg (Ne.symm notHere), if_neg (by simpa using backslash)]
      obtain ⟨init, last, whole, -⟩ := pieces_append [] (by simp) (rest.map slashed)
      rw [whole]
      cases init <;> rfl

end Path

namespace Scan

open FileTree (IsEntryName Node)
open PluginAudit.Path (pieces slashed)

/-! ## Files of modules -/

/-- The parts of the place of a module when backslashes separate names as slashes do. -/
def Module.parts (one : Module) : List (List Char) :=
  one.names.flatMap fun name => name.toList.splitOn '\\'

/-- A module stands below a directory, under names in which no slash is written. -/
structure Placed (one : Module) : Prop where
  below : one.names ≠ []
  noSlash : ∀ name ∈ one.names, '/' ∉ name.toList

/-- The pieces of the file of a module are its parts. -/
theorem pieces_file {one : Module} (placed : Placed one) : pieces one.file.toList = one.parts := by
  obtain ⟨names, text⟩ := one
  obtain ⟨below, noSlash⟩ := placed
  rw [Module.file, fileOf, String.toList_ofList, String.toList_intercalate,
    show "/".toList = ['/'] from rfl]
  change pieces (List.map slashed _) = _
  simp only [Module.parts] at below noSlash ⊢
  induction names with
  | nil => exact absurd rfl below
  | cons first rest ih =>
    have here := Path.pieces_map_slashed (noSlash first List.mem_cons_self)
    cases rest with
    | nil => simpa using here
    | cons second rest =>
      have behind := ih (by simp) fun name among => noSlash name (List.mem_cons_of_mem _ among)
      rw [List.map_cons, List.map_cons, List.intercalate_cons_cons, List.append_assoc,
        List.map_append, List.singleton_append, List.map_cons, show slashed '/' = '/' from rfl,
        Path.pieces_append_slash, here, ← List.map_cons, behind]
      rfl

/-- **Two modules have one file exactly if their places have the same parts** once backslashes
separate names too. -/
theorem file_eq_iff {first second : Module} (isFirst : Placed first) (isSecond : Placed second) :
    first.file = second.file ↔ first.parts = second.parts := by
  rw [← pieces_file isFirst, ← pieces_file isSecond, Path.pieces_inj, String.toList_inj]

/-- Without backslashes the parts of a place are its names. -/
theorem parts_of_plain {one : Module} (plain : ∀ name ∈ one.names, '\\' ∉ name.toList) :
    one.parts = one.names.map String.toList := by
  rw [Module.parts, List.map_eq_flatMap]
  exact List.flatMap_congr fun name among => List.splitOn_eq_singleton (plain name among)

/-- The names that lead from a directory to what stands below it are those of entries. -/
theorem isEntryName_of_at? {tree : FileTree} {place names : List String} {directory node : Node}
    (named : tree.WellNamed) (isAt : tree.root.at? place = some directory)
    (stands : directory.at? names = some node) : ∀ name ∈ names, IsEntryName name := by
  intro name among
  obtain ⟨before, after, rfl⟩ := List.append_of_mem among
  refine named.named (place ++ before) name fun nothing => ?_
  have isThere : tree.root.at? (place ++ (before ++ name :: after)) = some node := by
    rw [Node.at?_append, isAt]
    exact stands
  rw [← List.append_assoc, ← List.singleton_append, ← List.append_assoc, Node.at?_append,
    Node.look_eq_none.mp nothing] at isThere
  cases isThere

/-! ## Issues in modules -/

/-- The categories that are detected in a module, in the order of the rules. -/
def detectedIn (rules : Rules) (one : Module) : List Rules.Category :=
  match one.text with
  | .ok content =>
    rules.categories.filter fun category =>
      category.dangers.any (isDetected rules content.toList.toArray)
  | .error _ => []

/-- The issues in a module: one for each category that is detected there. -/
def issuesIn (rules : Rules) (one : Module) : List Finding :=
  (detectedIn rules one).map (detection · one.file)

/-- The issues that a scan of a plugin reports of its modules. -/
def securityIssues (layout : Layout) (rules : Rules) (tree : FileTree) (plugin : Path) :
    List Finding :=
  (checkPlugin layout rules tree plugin).filter (·.code == "S001")

theorem detectedIn_sublist (rules : Rules) (one : Module) :
    (detectedIn rules one).Sublist rules.categories := by
  unfold detectedIn
  split
  · exact List.filter_sublist
  · exact List.nil_sublist _

theorem filter_checkModule (rules : Rules) (one : Module) :
    (checkModule rules one).filter (·.code == "S001") = issuesIn rules one := by
  rw [checkModule, issuesIn, detectedIn]
  cases one.text with
  | ok content =>
    refine List.filter_eq_self.mpr fun finding among => ?_
    obtain ⟨category, -, rfl⟩ := List.mem_map.mp among
    rfl
  | error fault => rfl

/-- The warnings of directories that bar a scan are no security issues. -/
theorem filter_obstructions (plugin : Path) (obstacles : List Obstacle) :
    (obstacles.map (obstruction plugin)).filter (·.code == "S001") = [] := by
  refine List.filter_eq_nil_iff.mpr fun finding among => ?_
  obtain ⟨found, -, rfl⟩ := List.mem_map.mp among
  rw [code_obstruction]
  decide

theorem securityIssues_eq (layout : Layout) {rules : Rules} {tree : FileTree} {plugin : Path}
    {scanned : List Module} (found : modules rules tree plugin = .ok scanned) :
    securityIssues layout rules tree plugin = scanned.flatMap (issuesIn rules) := by
  have noPackages : (Dependencies.auditDangerous layout rules tree plugin).filter
      (·.code == "S001") = [] := by
    refine List.filter_eq_nil_iff.mpr fun finding among => ?_
    rw [List.mem_singleton.mp (Dependencies.code_of_mem_auditDangerous among)]
    decide
  cases isMet : meetings rules tree plugin with
  | error fault =>
    rw [modules, isMet] at found
    cases found
  | ok met =>
    rw [modules, isMet] at found
    obtain rfl : met.filterMap Meeting.module? = scanned := Except.ok.inj found
    rw [securityIssues, checkPlugin, checkModules, isMet]
    dsimp only
    rw [List.filter_append, List.filter_append, noPackages, filter_obstructions, List.append_nil,
      List.nil_append, List.filter_flatMap]
    simp only [filter_checkModule]

/-! ## One for each file and category -/

/-- A finding is about a category, which its message names, in a file. -/
structure IsAbout (finding : Finding) (category file : String) : Prop where
  message : finding.message = "Security issue: " ++ category ++ " detected in " ++ file
  file : finding.file = some file

/-- No two findings are about the same category in the same file. -/
def OneEach (findings : List Finding) : Prop :=
  findings.Pairwise fun first second =>
    ∀ category file, IsAbout first category file → ¬ IsAbout second category file

theorem isAbout_detection_iff {category : Rules.Category} {file name other : String} :
    IsAbout (detection category file) name other ↔ category.name = name ∧ file = other := by
  constructor
  · rintro ⟨message, same⟩
    obtain rfl : file = other := Option.some.inj same
    simpa [detection] using message
  · rintro ⟨rfl, rfl⟩
    exact ⟨rfl, rfl⟩

/-- In which case two detections are about different things. -/
theorem apart_iff {category other : Rules.Category} {file second : String} :
    (∀ name place, IsAbout (detection category file) name place →
        ¬ IsAbout (detection other second) name place) ↔
      (file = second → category.name ≠ other.name) := by
  simp only [isAbout_detection_iff]
  grind

section Distinct

variable {rules : Rules} (distinct : (rules.categories.map (·.name)).Nodup)

include distinct

/-- **A module has at most one issue of each category.** -/
theorem oneEach_issuesIn (one : Module) : OneEach (issuesIn rules one) := by
  rw [OneEach, issuesIn, List.pairwise_map]
  simp only [apart_iff]
  have nodup := distinct.sublist ((detectedIn_sublist rules one).map _)
  exact (List.pairwise_map.mp nodup).imp fun differ _ => differ

/-- The issues in two modules are about different things if the modules have different files or no
category in common. -/
theorem apart_issuesIn_iff (first second : Module) :
    (∀ finding ∈ issuesIn rules first, ∀ other ∈ issuesIn rules second, ∀ name place,
        IsAbout finding name place → ¬ IsAbout other name place) ↔
      (first.file = second.file → (detectedIn rules first).Disjoint (detectedIn rules second)) := by
  simp only [issuesIn, List.forall_mem_map, apart_iff]
  constructor
  · intro apart same category isFirst isSecond
    exact apart category isFirst category isSecond same rfl
  · intro disjoint category isFirst other isSecond same sameName
    obtain rfl := List.inj_on_of_nodup_map distinct
      ((detectedIn_sublist rules first).subset isFirst)
      ((detectedIn_sublist rules second).subset isSecond) sameName
    exact disjoint same isFirst isSecond

/-- **There is one issue for each file and category exactly if modules with the same file have no
category in common.** -/
theorem oneEach_iff (scanned : List Module) :
    OneEach (scanned.flatMap (issuesIn rules)) ↔ scanned.Pairwise fun first second =>
      first.file = second.file → (detectedIn rules first).Disjoint (detectedIn rules second) := by
  rw [OneEach, List.pairwise_flatMap]
  simp only [apart_issuesIn_iff distinct]
  exact and_iff_right fun one _ => oneEach_issuesIn distinct one

end Distinct

/-- What the issues of a scan are, and when no two of them are about the same category in the same
file. -/
structure Granular (rules : Rules) (scanned : List Module) (issues : List Finding) : Prop where
  inOrder : issues = scanned.flatMap (issuesIn rules)
  once : ∀ one ∈ scanned, OneEach (issuesIn rules one)
  apart : (scanned.map (·.names)).Nodup
  sameFile : ∀ first ∈ scanned, ∀ second ∈ scanned,
    first.file = second.file ↔ first.parts = second.parts
  oneEach : OneEach issues ↔ scanned.Pairwise fun first second =>
    first.parts = second.parts → (detectedIn rules first).Disjoint (detectedIn rules second)
  plain : (∀ one ∈ scanned, ∀ name ∈ one.names, '\\' ∉ name.toList) →
    (scanned.map Module.file).Nodup ∧ OneEach issues

/-- The modules that cover a directory stand below it. -/
theorem placed_of_covers {rules : Rules} {reading : List String → FileTree.Reading}
    {tree : FileTree} {place : List String} {entries : List (String × Node)}
    {scanned : List Module} (named : tree.WellNamed)
    (isAt : tree.root.at? place = some (.directory entries))
    (covers : Covers rules reading (.directory entries) scanned) : ∀ one ∈ scanned, Placed one := by
  rintro ⟨names, text⟩ isOne
  obtain ⟨bytes, isFile, -⟩ := (covers.exactly names text).mp isOne
  refine ⟨?_, fun name among => (isEntryName_of_at? named isAt isFile name among).noSlash⟩
  rintro rfl
  cases isFile

theorem granular_of_covers {rules : Rules} {reading : List String → FileTree.Reading}
    {directory : Node} {scanned : List Module} {issues : List Finding}
    (distinct : (rules.categories.map (·.name)).Nodup) (placed : ∀ one ∈ scanned, Placed one)
    (covers : Covers rules reading directory scanned)
    (inOrder : issues = scanned.flatMap (issuesIn rules)) : Granular rules scanned issues := by
  have differ : scanned.Pairwise fun first second => first.names ≠ second.names :=
    covers.ordered.imp fun before => ne_of_lt before
  have sameFile : ∀ first ∈ scanned, ∀ second ∈ scanned,
      first.file = second.file ↔ first.parts = second.parts :=
    fun first isFirst second isSecond => file_eq_iff (placed first isFirst) (placed second isSecond)
  have oneEach : OneEach issues ↔ scanned.Pairwise fun first second =>
      first.parts = second.parts →
        (detectedIn rules first).Disjoint (detectedIn rules second) := by
    rw [inOrder, oneEach_iff distinct]
    exact List.Pairwise.iff_of_mem fun isFirst isSecond => by rw [sameFile _ isFirst _ isSecond]
  refine ⟨inOrder, fun one _ => oneEach_issuesIn distinct one, List.pairwise_map.mpr differ,
    sameFile, oneEach, fun plain => ?_⟩
  -- Without backslashes, different names make different parts.
  have apart : scanned.Pairwise fun first second => first.parts ≠ second.parts := by
    refine differ.imp_of_mem fun isFirst isSecond differ same => differ ?_
    rw [parts_of_plain (plain _ isFirst), parts_of_plain (plain _ isSecond)] at same
    exact List.map_injective_iff.mpr (fun _ _ => String.toList_inj.mp) same
  refine ⟨List.pairwise_map.mpr ?_, oneEach.mpr (apart.imp fun differ same => absurd same differ)⟩
  exact apart.imp_of_mem fun isFirst isSecond differ same =>
    differ ((sameFile _ isFirst _ isSecond).mp same)

/-- **One issue for each file and category,** as long as no two modules of a plugin with the same
file have a category in common. Two modules have the same file only through a backslash that one
has where the other has a slash or a backslash, so without backslashes no two have. -/
theorem one_issue_per_file_and_category (layout : Layout) {rules : Rules} {tree : FileTree}
    {plugin : Path} {place : List String} {entries : List (String × Node)}
    (named : tree.WellNamed) (distinct : (rules.categories.map (·.name)).Nodup)
    (located : tree.locate true plugin = .ok (place, .directory entries)) :
    ∃ scanned, modules rules tree plugin = .ok scanned ∧
      Covers rules (readingBelow tree plugin place) (.directory entries) scanned ∧
      Granular rules scanned (securityIssues layout rules tree plugin) := by
  have isAt := (FileTree.locate_ok_iff.mp located).2
  have covers : Covers rules (readingBelow tree plugin place) (.directory entries) _ :=
    covers_meetingsBelow (named.distinct.at? isAt) rules
  exact ⟨_, modules_eq located, covers,
    granular_of_covers distinct (placed_of_covers named isAt covers) covers
      (securityIssues_eq layout (modules_eq located))⟩

/-! ## Two modules with one file -/

/-- A plugin with one module in a directory and another whose name has a backslash in the place of
that slash. -/
def mergedEntries (inside beside : String) : List (String × Node) :=
  [("a", .directory [("b.js", .file inside.toUTF8)]), ("a\\b.js", .file beside.toUTF8)]

/-- A tree with that plugin. -/
def mergedPlugin (inside beside : String) : FileTree :=
  { root := .directory [("p", .directory (mergedEntries inside beside))], workplace := [] }

section Merged

variable (inside beside : String)

theorem wellNamed_mergedPlugin : (mergedPlugin inside beside).WellNamed := by
  have areNames : ∀ name ∈ ["p", "a", "a\\b.js", "b.js"], IsEntryName name := by decide +kernel
  simp only [List.forall_mem_cons] at areNames
  obtain ⟨plugin, directory, other, name, -⟩ := areNames
  refine .of_entries (.of_entries ?_ ?_)
  · simp [mergedPlugin, Node.entries, plugin]
  · simp only [mergedPlugin, Node.entries, List.forall_mem_singleton]
    refine .of_entries ?_ ?_
    · simp [mergedEntries, directory, other]
    · simp only [mergedEntries, Node.entries, List.forall_mem_cons]
      refine ⟨.of_entries ?_ ?_, .of_file ?_, List.forall_mem_nil _⟩
      · simp [name]
      · simp only [Node.entries, List.forall_mem_singleton]
        exact .of_file ⟨List.nodup_nil, List.forall_mem_nil _⟩
      · exact ⟨List.nodup_nil, List.forall_mem_nil _⟩

theorem locate_mergedPlugin : (mergedPlugin inside beside).locate true ⟨"p"⟩ =
    .ok (["p"], .directory (mergedEntries inside beside)) := rfl

/-- Everything in that plugin can be read. -/
theorem readingBelow_mergedPlugin {names : List String}
    (checked : FileTree.checkPath (Path.under ⟨"p"⟩ names) = .ok ()) :
    readingBelow (mergedPlugin inside beside) ⟨"p"⟩ ["p"] names = .whole :=
  readingBelow_eq checked

theorem modules_mergedPlugin {rules : Rules} (scansModules : rules.scansExtension "js" = true) :
    modules rules (mergedPlugin inside beside) ⟨"p"⟩ =
      .ok [⟨["a", "b.js"], .ok inside⟩, ⟨["a\\b.js"], .ok beside⟩] := by
  have isModule (name : String) (isJs : Path.nameExtension? name = some "js") :
      isModuleName rules name = true := by
    simp [isModuleName, isJs, scansModules]
  -- Each place of the plugin is read by a path of its own.
  have top := readingBelow_mergedPlugin inside beside
    (by decide +kernel : FileTree.checkPath (Path.under ⟨"p"⟩ []) = .ok ())
  have directory := readingBelow_mergedPlugin inside beside
    (by decide +kernel : FileTree.checkPath (Path.under ⟨"p"⟩ ["a"]) = .ok ())
  have nested := readingBelow_mergedPlugin inside beside
    (by decide +kernel : FileTree.checkPath (Path.under ⟨"p"⟩ ["a", "b.js"]) = .ok ())
  have plain := readingBelow_mergedPlugin inside beside
    (by decide +kernel : FileTree.checkPath (Path.under ⟨"p"⟩ ["a\\b.js"]) = .ok ())
  have below : meetingsBelow rules
      (fun more => readingBelow (mergedPlugin inside beside) ⟨"p"⟩ ["p"] ("a" :: more))
      (.directory [("b.js", .file inside.toUTF8)]) = [.module ⟨["b.js"], .ok inside⟩] := by
    rw [meetingsBelow_of_ascending (List.pairwise_singleton _ _), directory]
    simpa [meetingsAt, obstacle?, directory, nested, FileTree.Reading.lists,
      isModule "b.js" (by decide)] using FileTree.text_toUTF8 inside
  have ascending : ((mergedEntries inside beside).map (·.1)).Pairwise (· ≤ ·) :=
    (by decide : ["a", "a\\b.js"].Pairwise (· ≤ ·))
  have entered : "a" ∉ skippedDirectories := by decide
  rw [modules_eq (locate_mergedPlugin inside beside), meetingsBelow_of_ascending ascending, top]
  simp only [mergedEntries, List.flatMap_cons, List.flatMap_nil, meetingsAt, below, top, plain]
  simpa [entered, obstacle?, FileTree.Reading.lists, isModule "a\\b.js" (by decide),
    Meeting.below, Meeting.module?] using FileTree.text_toUTF8 beside

end Merged

/-- What rules make of two texts: each has a category of its own, and the categories of the rules
differ in their names. -/
def tellsApart (rules : Rules) : Bool :=
  let detected (text : String) := (detectedIn rules ⟨[], .ok text⟩).map (·.name)
  rules.scansExtension "js" && decide ((rules.categories.map (·.name)).Nodup) &&
    detected "eval(x);" == ["arbitrary_code_execution"] &&
    detected "spawn(x);" == ["command_execution"]

theorem standard_tellsApart : ∃ rules, Rules.ofDocument .standard = .ok rules ∧
    tellsApart rules = true := standard_holds tellsApart (by decide +kernel)

/-- **Modules with one file are told apart by their categories.** -/
theorem merged_modules_are_told_apart : ∃ rules scanned,
    Rules.ofDocument .standard = .ok rules ∧ (rules.categories.map (·.name)).Nodup ∧
    (mergedPlugin "eval(x);" "spawn(x);").WellNamed ∧
    (mergedPlugin "eval(x);" "spawn(x);").locate true ⟨"p"⟩ =
      .ok (["p"], .directory (mergedEntries "eval(x);" "spawn(x);")) ∧
    modules rules (mergedPlugin "eval(x);" "spawn(x);") ⟨"p"⟩ = .ok scanned ∧
    Covers rules (readingBelow (mergedPlugin "eval(x);" "spawn(x);") ⟨"p"⟩ ["p"])
      (.directory (mergedEntries "eval(x);" "spawn(x);")) scanned ∧
    Granular rules scanned
      (securityIssues .standard rules (mergedPlugin "eval(x);" "spawn(x);") ⟨"p"⟩) ∧
    ¬ (scanned.map Module.file).Nodup ∧
    OneEach (securityIssues .standard rules (mergedPlugin "eval(x);" "spawn(x);") ⟨"p"⟩) := by
  obtain ⟨rules, isStandard, facts⟩ := standard_tellsApart
  simp only [tellsApart, Bool.and_eq_true, decide_eq_true_eq, beq_iff_eq] at facts
  obtain ⟨⟨⟨scansModules, distinct⟩, evaluates⟩, spawns⟩ := facts
  have named := wellNamed_mergedPlugin "eval(x);" "spawn(x);"
  have located := locate_mergedPlugin "eval(x);" "spawn(x);"
  obtain ⟨scanned, found, covers, granular⟩ :=
    one_issue_per_file_and_category .standard named distinct located
  have both := Except.ok.inj
    (found.symm.trans (modules_mergedPlugin "eval(x);" "spawn(x);" scansModules))
  refine ⟨rules, scanned, isStandard, distinct, named, located, found, covers, granular, ?_, ?_⟩
  · rw [both]
    decide
  · rw [granular.oneEach, both, List.pairwise_pair]
    intro _ category isFirst isSecond
    have first : category.name ∈ ["arbitrary_code_execution"] :=
      evaluates ▸ List.mem_map_of_mem isFirst
    have second : category.name ∈ ["command_execution"] := spawns ▸ List.mem_map_of_mem isSecond
    rw [List.mem_singleton.mp first, List.mem_singleton] at second
    exact absurd second (by decide)

/-- **A backslash in a name merges two files:** two modules have one file, and two issues are
about the same category in it. -/
theorem backslash_merges_files : ∃ rules first second,
    Rules.ofDocument .standard = .ok rules ∧ (rules.categories.map (·.name)).Nodup ∧
    (mergedPlugin "eval(x);" "eval(x);").WellNamed ∧
    (mergedPlugin "eval(x);" "eval(x);").locate true ⟨"p"⟩ =
      .ok (["p"], .directory (mergedEntries "eval(x);" "eval(x);")) ∧
    modules rules (mergedPlugin "eval(x);" "eval(x);") ⟨"p"⟩ = .ok [first, second] ∧
    first.names ≠ second.names ∧ first.file = second.file ∧
    ¬ OneEach (securityIssues .standard rules (mergedPlugin "eval(x);" "eval(x);") ⟨"p"⟩) := by
  obtain ⟨rules, isStandard, facts⟩ := standard_tellsApart
  simp only [tellsApart, Bool.and_eq_true, decide_eq_true_eq, beq_iff_eq] at facts
  obtain ⟨⟨⟨scansModules, distinct⟩, evaluates⟩, -⟩ := facts
  have found := modules_mergedPlugin "eval(x);" "eval(x);" scansModules
  refine ⟨rules, _, _, isStandard, distinct, wellNamed_mergedPlugin _ _, locate_mergedPlugin _ _,
    found, by decide, by decide, ?_⟩
  rw [securityIssues_eq .standard found, oneEach_iff distinct, List.pairwise_pair]
  intro disjoint
  have isDetected : "arbitrary_code_execution" ∈
      (detectedIn rules ⟨[], .ok "eval(x);"⟩).map (·.name) := by
    rw [evaluates]
    exact List.mem_singleton_self _
  obtain ⟨category, among, -⟩ := List.mem_map.mp isDetected
  exact disjoint (by decide) among among

end Scan

end PluginAudit
