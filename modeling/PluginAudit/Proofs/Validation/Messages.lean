import PluginAudit.Proofs.Dependencies.Messages
import PluginAudit.Proofs.Manifest.Lowering
import PluginAudit.Proofs.Manifest.Messages
import PluginAudit.Proofs.Report.Rendering
import PluginAudit.Proofs.Rules.Compilation
import PluginAudit.Proofs.Scan.PrimaryModule
import PluginAudit.Proofs.Validation.Codes
import PluginAudit.Proofs.Validation.Confinement
import PluginAudit.Proofs.Validation.Independence

/-!
# What the text of a report tells of a plugin

Messages repeat only some texts of a plugin, and they are in one line each exactly
if these texts hold no line break (`Validator.oneLine_findings_iff`). Then the text
of the report tells it, whatever else the manifest, the packages and the names of
files are (`Validator.report_text_tells`). A text that is repeated with a line
break can add a line that looks like one of the report's own
(`Validator.hook_forges_verdict`).
-/

set_option autoImplicit false

namespace PluginAudit

open Text

/-! ## Names of the rules -/

/-- The names that rules bring into messages hold no line break. -/
structure Rules.NamesOneLine (rules : Rules) : Prop where
  categories : ∀ category ∈ rules.categories, OneLine category.name
  hooks : ∀ hook ∈ rules.document.knownHooks, OneLine hook
  packages : ∀ name ∈ rules.document.dangerousPackages, OneLine name

theorem Rules.standard_namesOneLine {rules : Rules}
    (isStandard : ofDocument .standard = .ok rules) : rules.NamesOneLine := by
  obtain ⟨isDocument, areCategories, -⟩ := ofDocument_ok_iff.mp isStandard
  refine ⟨fun category among => ?_, ?_, ?_⟩
  · obtain ⟨group, isGroup, isRead⟩ := (mem_of_mapM_ok areCategories).mp among
    have groups : ∀ group ∈ Document.standard.categories, OneLine group.name := by decide
    rw [(readGroup_ok_iff.mp isRead).2.1]
    exact groups group isGroup
  · rw [isDocument]
    decide
  · rw [isDocument]
    decide

/-! ## Manifest -/

namespace Manifest

theorem oneLine_faultMessage {text : String} {fault : Fault} (refused : parse text = .error fault) :
    OneLine fault.message := by
  cases fault with
  | notObject => decide
  | notJson reason =>
    have isReason : OneLine reason := by
      rw [parse] at refused
      split at refused
      · cases refused
      · cases refused
      · next invalid =>
        cases refused
        exact Json.oneLine_parse invalid
    exact oneLine_placed (by decide) isReason (by decide)

/-- Why a manifest cannot be put to use is told in one line, as the name of its file is. -/
theorem oneLine_read {tree : FileTree} {path : Path} {name : String} {finding : Finding}
    (named : path.fileName? = some name) (isName : OneLine name)
    (refused : read tree path = .error finding) : OneLine finding.message := by
  rw [read, named] at refused
  dsimp only [Option.getD_some] at refused
  split at refused
  · cases refused
  · split at refused
    · next fault _ =>
      cases refused
      change OneLine ("Failed to read " ++ name ++ ": " ++ fault.message)
      exact oneLine_append.mpr
        ⟨oneLine_placed (by decide) isName (by decide), fault.oneLine_message⟩
    · split at refused
      · next fault invalid =>
        cases refused
        change OneLine (fault.message ++ " in " ++ name)
        exact oneLine_placed (oneLine_faultMessage invalid) (by decide) isName
      · cases refused

/-- The hooks that a manifest declares are texts of it. -/
theorem RepeatsOneLine.hooks_ofMembers {members : Json.Members} (oneLine : RepeatsOneLine members) :
    ∀ hook ∈ (ofMembers members).hooks, OneLine hook := by
  intro hook among
  rw [Manifest.hooks_ofMembers, List.mem_eraseDups] at among
  exact oneLine.hooks hook (mem_filterMap_asString?.mp among)

end Manifest

/-! ## The other checks -/

theorem Structure.oneLine_check {tree : FileTree} {plugin : Path} {manifest : Option Manifest}
    {finding : Finding} (among : finding ∈ check .standard tree plugin manifest) :
    OneLine finding.message := by
  rw [check, List.mem_append, List.mem_append, List.mem_map, List.mem_map] at among
  rcases among with (⟨file, isFile, rfl⟩ | ⟨file, isFile, rfl⟩) | among
  · have files : ∀ file ∈ Layout.standard.requiredFiles, OneLine file := by decide
    exact oneLine_append.mpr ⟨by decide, files file (List.mem_filter.mp isFile).1⟩
  · have files : ∀ file ∈ Layout.standard.recommendedFiles, OneLine file := by decide
    exact oneLine_append.mpr ⟨by decide, files file (List.mem_filter.mp isFile).1⟩
  · split at among
    · rw [List.mem_singleton.mp among]
      decide
    · cases among

/-- A path that goes on with names is in one line if the path and the names are. -/
theorem Path.oneLine_under {path : Path} {names : List String} (isPath : OneLine path.text)
    (areNames : ∀ name ∈ names, OneLine name) : OneLine (path.under names).text := by
  induction names generalizing path with
  | nil => exact isPath
  | cons name names ih =>
    obtain ⟨isName, areNames⟩ := List.forall_mem_cons.mp areNames
    refine ih ?_ areNames
    rw [join]
    split
    · exact isName
    · split
      · exact oneLine_append.mpr ⟨isPath, isName⟩
      · exact oneLine_append.mpr ⟨oneLine_append.mpr ⟨isPath, by decide⟩, isName⟩

namespace Scan

variable {rules : Rules} {tree : FileTree} {plugin : Path} {found : Module}

/-- What names lead to is named in one line exactly if they are in one line each. -/
theorem oneLine_fileOf_iff {names : List String} :
    OneLine (fileOf names) ↔ ∀ name ∈ names, OneLine name := by
  have slashes (c : Char) : (if c = '\\' then '/' else c) = '\n' ↔ c = '\n' := by
    split
    · next isBackslash => simp [isBackslash]
    · exact Iff.rfl
  have separates : OneLine "/" := by decide
  rw [← oneLine_intercalate separates, fileOf, oneLine_ofList, OneLine]
  simp [slashes]

/-- What keeps a place from being scanned is told in one line exactly if the place is named in
one. -/
theorem oneLine_unreadable_iff {file reason : String} (isReason : OneLine reason) :
    OneLine (unreadable file reason).message ↔ OneLine file :=
  Manifest.oneLine_found (by decide) (by decide) isReason

/-- A directory that is not listed is told in one line exactly if the names that lead to it are in
one line each. Where listing breaks off, they are not repeated. -/
theorem oneLine_obstruction_iff (isPath : OneLine plugin.text) {found : Obstacle} :
    OneLine (obstruction plugin found).message ↔
      (found.begun = false → ∀ name ∈ found.names, OneLine name) := by
  rw [obstruction, ← oneLine_fileOf_iff]
  cases found.begun with
  | true =>
    have isPoint : OneLine "." := by decide
    refine iff_of_true ((oneLine_unreadable_iff found.fault.oneLine_message).mpr isPoint) ?_
    rintro ⟨⟩
  | false =>
    rw [if_neg Bool.false_ne_true, eq_self, true_imp_iff]
    change OneLine ("Failed to scan " ++ fileOf found.names ++ " for security issues: " ++
      ("IO error for operation on " ++ (plugin.under found.names).text ++ ": " ++
        found.fault.message)) ↔ _
    constructor
    · intro oneLine
      simp only [oneLine_append] at oneLine
      exact oneLine.1.1.2
    · intro isFile
      have isPlace := Path.oneLine_under isPath (oneLine_fileOf_iff.mp isFile)
      refine (Manifest.oneLine_found (by decide) (by decide) ?_).mpr isFile
      exact oneLine_append.mpr ⟨Manifest.oneLine_placed (by decide) isPlace (by decide),
        found.fault.oneLine_message⟩

theorem oneLine_checkModule_iff (named : ∀ category ∈ rules.categories, OneLine category.name) :
    (∀ finding ∈ checkModule rules found, OneLine finding.message) ↔
      (checkModule rules found ≠ [] → ∀ name ∈ found.names, OneLine name) := by
  have each : ∀ finding ∈ checkModule rules found,
      (OneLine finding.message ↔ OneLine found.file) := by
    intro finding among
    rw [checkModule] at among
    split at among
    · obtain ⟨category, isDetected, rfl⟩ := List.mem_map.mp among
      have isName : OneLine category.name := named category (List.mem_filter.mp isDetected).1
      change OneLine ("Security issue: " ++ category.name ++ " detected in " ++ found.file) ↔ _
      rw [oneLine_append]
      exact and_iff_right (oneLine_append.mpr ⟨oneLine_append.mpr ⟨by decide, isName⟩, by decide⟩)
    · rw [List.mem_singleton.mp among]
      exact oneLine_unreadable_iff (FileTree.Fault.oneLine_message _)
  rw [← oneLine_fileOf_iff]
  constructor
  · intro all written
    obtain ⟨finding, among⟩ := List.exists_mem_of_ne_nil _ written
    exact (each finding among).mp (all finding among)
  · intro isFile finding among
    exact (each finding among).mpr (isFile (List.ne_nil_of_mem among))

/-- The messages of a scan are in one line each exactly if the names are that lead to directories
which are not listed and to modules in which something is found. -/
theorem oneLine_checkModules_iff (named : ∀ category ∈ rules.categories, OneLine category.name)
    (isPath : OneLine plugin.text) :
    (∀ finding ∈ checkModules rules tree plugin, OneLine finding.message) ↔
      ∀ met, meetings rules tree plugin = .ok met →
        (∀ found, .obstacle found ∈ met → found.begun = false →
          ∀ name ∈ found.names, OneLine name) ∧
        ∀ found, .module found ∈ met → checkModule rules found ≠ [] →
          ∀ name ∈ found.names, OneLine name := by
  rw [checkModules]
  cases walked : meetings rules tree plugin with
  | error fault =>
    refine iff_of_true (List.forall_mem_singleton.mpr ?_) ?_
    · exact (oneLine_obstruction_iff isPath).mpr fun _ => List.forall_mem_nil _
    · rintro met ⟨⟩
  | ok met =>
    simp only [List.forall_mem_append, List.forall_mem_map, List.forall_mem_flatMap,
      mem_obstacles_iff, mem_modules_iff, oneLine_obstruction_iff isPath,
      oneLine_checkModule_iff named, Except.ok.injEq, forall_eq']

end Scan

theorem ModuleContract.oneLine_checkPlugin {tree : FileTree} {plugin : Path} {hooks : List String}
    (areHooks : ∀ hook ∈ hooks, OneLine hook) {finding : Finding}
    (among : finding ∈ checkPlugin .standard tree plugin hooks) : OneLine finding.message := by
  have missing {holds : Bool} {other : Finding} (isOne : OneLine other.message)
      (among : finding ∈ if holds then [] else [other]) : OneLine finding.message := by
    split at among
    · cases among
    · rwa [List.mem_singleton.mp among]
  rw [checkPlugin] at among
  split at among
  · cases among
  · split at among
    · simp only [check, List.mem_append, List.mem_map] at among
      rcases among with ((among | among) | among) | ⟨hook, isMissing, rfl⟩
      · exact missing (by decide) among
      · exact missing (by decide) among
      · exact missing (by decide) among
      · have isHook : OneLine hook := areHooks hook (List.mem_filter.mp isMissing).1
        change OneLine ("Hook '" ++ hook ++ "' declared in " ++ Layout.standard.manifest ++
          " but not implemented in " ++ Layout.standard.primaryModule)
        refine oneLine_append.mpr ⟨oneLine_append.mpr ⟨?_, by decide⟩, by decide⟩
        exact (Manifest.oneLine_found (by decide) (by decide) (by decide)).mpr isHook
    · next fault _ =>
      rw [List.mem_singleton.mp among]
      exact oneLine_append.mpr ⟨by decide, fault.oneLine_message⟩

/-! ## The findings of a plugin -/

namespace Validator

/-- The texts of a plugin that messages repeat hold no line break. These are, of the manifest,
those that the schema repeats; of the packages for use at run time, the names of those that the
host provides; and of what a scan meets, the names that lead to a directory of which no listing is
begun and those that lead to a module in which something is found, or which cannot be read. -/
structure RepeatsOneLine (rules : Rules) (tree : FileTree) (plugin : Path) : Prop where
  manifest : ∀ members,
    Manifest.read tree (plugin.join Layout.standard.manifest) = .ok (some members) →
      Manifest.RepeatsOneLine members
  packages : ∀ dependencies,
    Dependencies.ofPlugin? .standard tree plugin = some (.ok dependencies) →
      ∀ package ∈ dependencies.runtime, (rules.corePrefix? package.1).isSome = true →
        OneLine package.1
  scanned : ∀ met, Scan.meetings rules tree plugin = .ok met →
    (∀ found, .obstacle found ∈ met → found.begun = false → ∀ name ∈ found.names, OneLine name) ∧
    ∀ found, .module found ∈ met → Scan.checkModule rules found ≠ [] →
      ∀ name ∈ found.names, OneLine name

section Findings

variable {rules : Rules} {tree : FileTree} {id : String} {plugin : Path}

/-- What is said about a manifest is in one line exactly if what is repeated of it is. -/
theorem oneLine_checkManifest_iff (known : ∀ hook ∈ rules.document.knownHooks, OneLine hook)
    (isId : OneLine id) :
    (∀ finding ∈ (checkManifest ⟨rules, .standard⟩ tree id plugin).1, OneLine finding.message) ↔
      ∀ members, Manifest.read tree (plugin.join Layout.standard.manifest) = .ok (some members) →
        Manifest.RepeatsOneLine members := by
  have isName : (plugin.join Layout.standard.manifest).fileName? =
      some Layout.standard.manifest := by
    rw [Path.fileName?, Path.components_join plugin (by decide) (by decide) (by decide),
      List.getLast?_concat]
  delta checkManifest
  dsimp only
  cases isRead : Manifest.read tree (plugin.join Layout.standard.manifest) with
  | error finding =>
    have isOne : OneLine finding.message := Manifest.oneLine_read isName (by decide) isRead
    simp [isOne]
  | ok read =>
    cases read with
    | none => simp
    | some members =>
      have isFile : OneLine Layout.standard.manifest := by decide
      simp only [Except.ok.injEq, Option.some.injEq, forall_eq',
        ← Manifest.oneLine_departures_iff known isFile isId]
      exact List.forall_mem_map

/-- The hooks that are looked for in the primary module are texts of the manifest. -/
theorem oneLine_hooks (repeats : ∀ members,
      Manifest.read tree (plugin.join Layout.standard.manifest) = .ok (some members) →
        Manifest.RepeatsOneLine members) :
    ∀ hook ∈ ((checkManifest ⟨rules, .standard⟩ tree id plugin).2.map Manifest.hooks).getD [],
      OneLine hook := by
  delta checkManifest
  dsimp only
  split
  · next members isRead => exact (repeats members isRead).hooks_ofMembers
  · exact List.forall_mem_nil _
  · exact List.forall_mem_nil _

/-- **The messages about a plugin are in one line each exactly if what they repeat of it is.** -/
theorem oneLine_findings_iff (named : rules.NamesOneLine) (isId : OneLine id)
    (isPath : OneLine plugin.text) :
    (∀ finding ∈ findings ⟨rules, .standard⟩ tree id plugin, OneLine finding.message) ↔
      RepeatsOneLine rules tree plugin := by
  have isFile : OneLine Layout.standard.dependencyManifest := by decide
  rw [findings_eq, Scan.checkPlugin, List.forall_mem_append, List.forall_mem_append,
    List.forall_mem_append, List.forall_mem_append, List.forall_mem_append,
    oneLine_checkManifest_iff named.hooks isId,
    Scan.oneLine_checkModules_iff named.categories isPath, Dependencies.oneLine_audit_iff isFile]
  constructor
  · rintro ⟨⟨⟨⟨manifest, -⟩, scanned, -⟩, -⟩, packages⟩
    exact ⟨manifest, packages, scanned⟩
  · rintro ⟨manifest, packages, scanned⟩
    refine ⟨⟨⟨⟨manifest, ?_⟩, scanned, ?_⟩, ?_⟩, packages⟩
    · exact fun _ => Structure.oneLine_check
    · exact fun _ => Dependencies.oneLine_auditDangerous named.packages
    · exact fun _ => ModuleContract.oneLine_checkPlugin (oneLine_hooks manifest)

/-- The codes of findings are in one line each. -/
theorem oneLine_code {finding : Finding}
    (among : finding ∈ findings ⟨rules, .standard⟩ tree id plugin) : OneLine finding.code := by
  have coded {codes : List String} (oneLine : ∀ code ∈ codes, OneLine code)
      (isCode : finding.code ∈ codes) : OneLine finding.code := oneLine _ isCode
  rw [findings_eq, Scan.checkPlugin] at among
  simp only [List.mem_append] at among
  rcases among with (((among | among) | among | among) | among) | among
  · exact coded (by decide) (code_of_mem_checkManifest among)
  · exact coded (by decide) (Structure.code_of_mem_check among)
  · exact coded (by decide) (Scan.code_of_mem_checkModules among)
  · exact coded (by decide) (Dependencies.code_of_mem_auditDangerous among)
  · exact coded (by decide) (ModuleContract.code_of_mem_checkPlugin among)
  · exact coded (by decide) (Dependencies.code_of_mem_audit among)

/-- What is written around the messages is in one line where the id and the path are. -/
theorem framedInLines (isId : OneLine id) (isPath : OneLine plugin.text) :
    Report.FramedInLines ⟨id, plugin.text, findings ⟨rules, .standard⟩ tree id plugin⟩ :=
  ⟨isId, isPath, fun _ => oneLine_code⟩

/-- **What the text of a report tells.** Its last line is that of the verdict, and every finding
has its numbered line, whatever the plugin holds. The text tells the report, with no other line
that begins as that of the verdict does and none that is numbered but those of the findings,
exactly if no message goes on with such a line behind a line break. A message has a line break
exactly if it repeats one of the plugin, and so the text tells the report wherever the texts that
messages repeat hold none. -/
theorem report_text_tells {rules : Rules} (isStandard : Rules.ofDocument .standard = .ok rules)
    {tree : FileTree} {id : String} {plugin : Path} (isId : OneLine id)
    (isPath : OneLine plugin.text) (isDirectory : tree.isDirectory plugin = true) :
    ∃ report, validate ⟨rules, .standard⟩ tree id plugin = .ok report ∧
      (lines report.render).getLast? = some (Report.resultLine report.verdict) ∧
      report.findingLines.Sublist (lines report.render) ∧
      (Report.Tells report.render report ↔ ∀ finding ∈ report.findings,
        ∀ line ∈ furtherLines finding.message,
          Report.isResultLine line = false ∧ Report.isNumbered line = false) ∧
      ((∀ finding ∈ report.findings, furtherLines finding.message = []) ↔
        RepeatsOneLine rules tree plugin) ∧
      (RepeatsOneLine rules tree plugin → Report.Tells report.render report) := by
  have named := Rules.standard_namesOneLine isStandard
  refine ⟨⟨id, plugin.text, findings ⟨rules, .standard⟩ tree id plugin⟩, ?_, ?_⟩
  · rw [validate, if_pos isDirectory]
  · have framed : Report.FramedInLines
        ⟨id, plugin.text, findings ⟨rules, .standard⟩ tree id plugin⟩ := framedInLines isId isPath
    have repeats : (∀ finding ∈ findings ⟨rules, .standard⟩ tree id plugin,
        furtherLines finding.message = []) ↔ RepeatsOneLine rules tree plugin := by
      simp only [furtherLines_eq_nil_iff]
      exact oneLine_findings_iff named isId isPath
    refine ⟨Report.getLast?_render _, Report.findingLines_sublist framed,
      Report.tells_render_iff framed, repeats, fun oneLine => ?_⟩
    refine (Report.tells_render_iff framed).mpr fun finding among line further => ?_
    rw [repeats.mpr oneLine finding among] at further
    cases further

end Findings

/-! ## Two plugins -/

/-- What is found in a plugin of two manifests, neither of which is scanned. -/
def foundIn (manifest dependencies : String) (rules : Rules) : List Finding :=
  let tree := withManifests manifest.toUTF8 dependencies.toUTF8
  let (departures, declared) := checkManifest ⟨rules, .standard⟩ tree "p" ⟨"p"⟩
  departures ++ Structure.check .standard tree ⟨"p"⟩ declared ++
    Dependencies.auditDangerous .standard rules tree ⟨"p"⟩ ++
    ModuleContract.checkPlugin .standard tree ⟨"p"⟩ ((declared.map Manifest.hooks).getD []) ++
    Dependencies.audit .standard rules tree ⟨"p"⟩

theorem validate_withManifests {rules : Rules} (noJson : rules.scansExtension "json" = false)
    (manifest dependencies : String) :
    validate ⟨rules, .standard⟩ (withManifests manifest.toUTF8 dependencies.toUTF8) "p" ⟨"p"⟩ =
      .ok ⟨"p", "p", foundIn manifest dependencies rules⟩ := by
  obtain ⟨free, -⟩ := linkFree_withManifests manifest.toUTF8 dependencies.toUTF8
  have located := FileTree.locate_ok_iff.mpr ⟨free.leads, rfl⟩
  have noModule : ∀ name ∈ ["settings.json", "package.json"],
      Scan.isModuleName rules name = false := by
    have isJson : ∀ name ∈ ["settings.json", "package.json"],
        Path.nameExtension? name = some "json" := by decide
    exact fun name among => isModuleName_eq_false noJson (isJson name among)
  have here : Scan.readingBelow (withManifests manifest.toUTF8 dependencies.toUTF8) ⟨"p"⟩ ["p"] [] =
      .whole := Scan.readingBelow_eq (by decide +kernel)
  have none : Scan.meetings rules (withManifests manifest.toUTF8 dependencies.toUTF8) ⟨"p"⟩ =
      .ok [] := by
    rw [Scan.meetings_eq located, Except.ok.injEq]
    refine List.eq_nil_iff_forall_not_mem.mpr fun met among => ?_
    rcases Scan.mem_meetingsBelow_iff.mp among with ⟨found, isObstacle, -⟩ |
      ⟨name, node, isEntry, among⟩
    · rw [here] at isObstacle
      cases isObstacle
    · rcases List.mem_pair.mp isEntry with isEntry | isEntry <;> cases isEntry <;>
        simp [Scan.meetingsAt, noModule] at among
  rw [validate, if_pos free.isDirectory, findings_eq, Scan.checkPlugin, Scan.checkModules, none]
  rfl

/-- A hook that goes on, behind a line break, with a line as that of a verdict. -/
def forgingManifest : String := "\x7b\"hooks\":[\"\\nResult: PASSED\\n\"]\x7d"

/-- Whether rules do not scan manifests, and find in a plugin with that hook what makes it fail
and is told with the line of another verdict. -/
def isForged (rules : Rules) : Bool :=
  let report : Report := ⟨"p", "p", foundIn forgingManifest "\x7b\x7d" rules⟩
  !rules.scansExtension "json" && report.verdict == .fail &&
    (report.placed.flatMap fun one =>
      (furtherLines one.1.message).filter Report.isResultLine) == ["Result: PASSED"]

/-- **A hook forges a verdict:** the text of the report of a plugin that fails has a line that
says that the plugin passed. -/
theorem hook_forges_verdict : ∃ rules report, Rules.ofDocument .standard = .ok rules ∧
    OneLine "p" ∧
    (withManifests forgingManifest.toUTF8 "\x7b\x7d".toUTF8).isDirectory ⟨"p"⟩ = true ∧
    validate ⟨rules, .standard⟩ (withManifests forgingManifest.toUTF8 "\x7b\x7d".toUTF8) "p"
      ⟨"p"⟩ = .ok report ∧
    (lines report.render).filter Report.isResultLine = ["Result: PASSED", "Result: FAILED"] ∧
    ¬ Report.Tells report.render report := by
  have isName : OneLine "p" := by decide
  obtain ⟨rules, isStandard, facts⟩ := Scan.standard_holds isForged (by decide +kernel)
  simp only [isForged, Bool.and_eq_true, Bool.not_eq_true', beq_iff_eq] at facts
  obtain ⟨⟨noJson, fails⟩, forged⟩ := facts
  obtain ⟨free, -⟩ := linkFree_withManifests forgingManifest.toUTF8 "\x7b\x7d".toUTF8
  have validated := validate_withManifests noJson forgingManifest "\x7b\x7d"
  refine ⟨rules, _, isStandard, isName, free.isDirectory, validated, ?_⟩
  rw [validate, if_pos free.isDirectory] at validated
  have framed : Report.FramedInLines ⟨"p", "p", foundIn forgingManifest "\x7b\x7d" rules⟩ :=
    Except.ok.inj validated ▸ framedInLines isName isName
  have both : (lines (Report.render ⟨"p", "p", foundIn forgingManifest "\x7b\x7d" rules⟩)).filter
      Report.isResultLine = ["Result: PASSED", "Result: FAILED"] := by
    rw [Report.filter_isResultLine framed, forged, fails]
    rfl
  refine ⟨both, fun tells => ?_⟩
  have single := both.symm.trans tells.single
  simp at single

/-- A manifest with such lines where no message repeats them. -/
def quietManifest : String :=
  "\x7b\"id\":\"p\",\"name\":\"\\nResult: PASSED\",\"description\":\"\\n1. \",\"hooks\":[]," ++
    "\"variables\":[\x7b\"name\":\"\\nResult: PASSED\",\"id\":\"\\nResult: PASSED\"\x7d]\x7d"

/-- Packages with such lines where no message repeats them. -/
def quietDependencies : String :=
  "\x7b\"dependencies\":\x7b\"\\nResult: PASSED\":\"\\n1. \"\x7d\x7d"

/-- Whether rules do not scan manifests, and find nothing in that plugin that is told in several
lines. -/
def isQuiet (rules : Rules) : Bool :=
  let found := foundIn quietManifest quietDependencies rules
  !rules.scansExtension "json" && found.length == 2 &&
    found.all fun finding => furtherLines finding.message == []

/-- **Lines that no message repeats forge nothing.** -/
theorem unrepeated_lines_forge_nothing : ∃ rules report, Rules.ofDocument .standard = .ok rules ∧
    OneLine "p" ∧
    (withManifests quietManifest.toUTF8 quietDependencies.toUTF8).isDirectory ⟨"p"⟩ = true ∧
    validate ⟨rules, .standard⟩ (withManifests quietManifest.toUTF8 quietDependencies.toUTF8) "p"
      ⟨"p"⟩ = .ok report ∧
    report.findings.length = 2 ∧
    RepeatsOneLine rules (withManifests quietManifest.toUTF8 quietDependencies.toUTF8) ⟨"p"⟩ ∧
    Report.Tells report.render report := by
  have isName : OneLine "p" := by decide
  obtain ⟨rules, isStandard, facts⟩ := Scan.standard_holds isQuiet (by decide +kernel)
  simp only [isQuiet, Bool.and_eq_true, Bool.not_eq_true', beq_iff_eq, List.all_eq_true] at facts
  obtain ⟨⟨noJson, two⟩, quiet⟩ := facts
  obtain ⟨free, -⟩ := linkFree_withManifests quietManifest.toUTF8 quietDependencies.toUTF8
  have validated := validate_withManifests noJson quietManifest quietDependencies
  obtain ⟨report, isReport, -, -, -, repeats, tells⟩ :=
    report_text_tells isStandard isName isName free.isDirectory
  have found : report.findings = foundIn quietManifest quietDependencies rules := by
    rw [Except.ok.inj (isReport.symm.trans validated)]
  rw [found] at repeats
  have oneLine := repeats.mp quiet
  exact ⟨rules, report, isStandard, isName, free.isDirectory, isReport, found ▸ two, oneLine,
    tells oneLine⟩

end Validator

end PluginAudit
