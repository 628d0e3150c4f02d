import PluginAudit.Proofs.Scan.Modules
import PluginAudit.Validation

/-!
# The codes of findings

Each check has codes of its own. Those of the schema of manifests begin with an
M (`Manifest.codedBy_departures`), and no other check uses them
(`Validator.filter_manifestCodes`), so that the findings of a report tell what
has been found in the manifest. What the manifest declares only adds findings to
the checks of structure and contract, with a code of their own
(`Structure.check_eq_append`, `ModuleContract.checkPlugin_eq_append`).
-/

set_option autoImplicit false

namespace PluginAudit

/-! ## Departures from the schema -/

namespace Manifest

/-- The codes of departures from the schema. -/
def schemaCodes : List String :=
  ["M002", "M003", "M004", "M005", "M006", "M007", "M008", "M009", "M010", "M011", "M012", "M013",
    "M014", "M015", "M016"]

/-- The codes of departures are among some codes. -/
def CodedBy (codes : List String) (departures : List Departure) : Prop :=
  ∀ departure ∈ departures, departure.code ∈ codes

section CodedBy

variable {codes : List String}

@[simp] theorem codedBy_nil : CodedBy codes [] := List.forall_mem_nil _

@[simp] theorem codedBy_append {first second : List Departure} :
    CodedBy codes (first ++ second) ↔ CodedBy codes first ∧ CodedBy codes second :=
  List.forall_mem_append

variable {severity : Severity} {code message : String}

theorem codedBy_singleton (isCode : code ∈ codes) : CodedBy codes [⟨severity, code, message⟩] :=
  List.forall_mem_singleton.mpr isCode

theorem codedBy_when {condition : Bool} (isCode : code ∈ codes) :
    CodedBy codes (when condition ⟨severity, code, message⟩) := by
  cases condition
  · exact codedBy_nil
  · exact codedBy_singleton isCode

theorem codedBy_map {items : List String} {message : String → String} (isCode : code ∈ codes) :
    CodedBy codes (items.map fun item => ⟨severity, code, message item⟩) :=
  List.forall_mem_map.mpr fun _ _ => isCode

theorem codedBy_mapIdx {items : List Json} {check : Nat → Json → List Departure}
    (coded : ∀ place item, CodedBy codes (check place item)) :
    CodedBy codes (items.mapIdx check).flatten := by
  intro departure among
  obtain ⟨list, isList, among⟩ := List.mem_flatten.mp among
  obtain ⟨place, inside, rfl⟩ := List.mem_mapIdx.mp isList
  exact coded _ _ departure among

end CodedBy

theorem codedBy_checkFields (file pluginId : String) (members : Json.Members) :
    CodedBy schemaCodes (checkFields file pluginId members) := by
  rw [checkFields, codedBy_append, codedBy_append]
  refine ⟨⟨codedBy_map (by decide), ?_⟩, codedBy_map (by decide)⟩
  split
  · exact codedBy_nil
  · exact codedBy_when (by decide)

theorem codedBy_checkHook (rules : Rules) (place : String) (hook : Json) :
    CodedBy schemaCodes (checkHook rules place hook) := by
  rw [checkHook]
  split
  · exact codedBy_when (by decide)
  · exact codedBy_singleton (by decide)

theorem codedBy_checkVariable (repeated : Bool) (place : String) (declared : Json) :
    CodedBy schemaCodes (checkVariable repeated place declared) := by
  rw [checkVariable]
  split
  · exact codedBy_singleton (by decide)
  · rw [codedBy_append, codedBy_append]
    refine ⟨⟨codedBy_map (by decide), ?_⟩, ?_⟩
    · split
      · exact codedBy_nil
      · exact codedBy_when (by decide)
    · split
      · exact codedBy_nil
      · exact codedBy_append.mpr ⟨codedBy_when (by decide), codedBy_when (by decide)⟩

theorem codedBy_checkAction (routes : Option (List String)) (place : String) (action : Json) :
    CodedBy schemaCodes (checkAction routes place action) := by
  rw [checkAction]
  split
  · exact codedBy_singleton (by decide)
  · rw [codedBy_append]
    refine ⟨codedBy_map (by decide), ?_⟩
    split
    · exact codedBy_nil
    · rw [codedBy_append]
      constructor
      · split
        · exact codedBy_when (by decide)
        · exact codedBy_singleton (by decide)
      · split
        · exact codedBy_when (by decide)
        · exact codedBy_nil

theorem codedBy_checkDynamicVariable (place : String) (declared : Json) :
    CodedBy schemaCodes (checkDynamicVariable place declared) := by
  rw [checkDynamicVariable]
  split
  · exact codedBy_singleton (by decide)
  · rw [codedBy_append]
    refine ⟨codedBy_map (by decide), ?_⟩
    split
    · exact codedBy_nil
    · exact codedBy_when (by decide)

/-- **Every departure from the schema has a code of the schema.** -/
theorem codedBy_departures (rules : Rules) (file pluginId : String) (members : Json.Members) :
    CodedBy schemaCodes (departures rules file pluginId members) := by
  simp only [departures, codedBy_append, checkVariables, eachItem]
  refine ⟨⟨⟨⟨codedBy_checkFields file pluginId members, ?_⟩, ?_⟩, ?_⟩, ?_⟩
  · exact codedBy_mapIdx fun place hook => codedBy_checkHook rules _ hook
  · exact codedBy_mapIdx fun place declared => codedBy_checkVariable _ _ declared
  · exact codedBy_mapIdx fun place action => codedBy_checkAction _ _ action
  · exact codedBy_mapIdx fun place declared => codedBy_checkDynamicVariable _ declared

theorem code_of_mem_check {layout : Layout} {rules : Rules} {pluginId : String}
    {members : Json.Members} {finding : Finding}
    (among : finding ∈ check layout rules pluginId members) : finding.code ∈ schemaCodes := by
  obtain ⟨departure, isOne, rfl⟩ := List.mem_map.mp among
  exact codedBy_departures _ _ _ _ departure isOne

end Manifest

/-! ## The other checks -/

namespace Structure

variable {layout : Layout} {tree : FileTree} {plugin : Path} {manifest : Option Manifest}

/-- The manifest only adds to what is said about the structure. -/
theorem check_eq_append (layout : Layout) (tree : FileTree) (plugin : Path)
    (manifest : Option Manifest) :
    ∃ more, check layout tree plugin manifest = check layout tree plugin none ++ more ∧
      ∀ finding ∈ more, finding.code = "L003" := by
  refine ⟨_, congrArg (· ++ _) (List.append_nil _).symm, ?_⟩
  intro finding among
  split at among
  · rw [List.mem_singleton.mp among]
    rfl
  · cases among

theorem code_of_mem_check {finding : Finding}
    (among : finding ∈ check layout tree plugin manifest) :
    finding.code ∈ ["L001", "L002", "L003"] := by
  rw [check, List.mem_append, List.mem_append, List.mem_map, List.mem_map] at among
  rcases among with (⟨file, -, rfl⟩ | ⟨file, -, rfl⟩) | among
  · simp [missingRequired, missing]
  · simp [missingRecommended, missing]
  · split at among
    · rw [List.mem_singleton.mp among]
      simp [missingRouting, missing]
    · cases among

end Structure

namespace Scan

theorem code_obstruction (plugin : Path) (found : Obstacle) :
    (obstruction plugin found).code = "IO01" := by
  rw [obstruction]
  split <;> rfl

theorem code_of_mem_checkModules {rules : Rules} {tree : FileTree} {plugin : Path}
    {finding : Finding} (among : finding ∈ checkModules rules tree plugin) :
    finding.code ∈ ["S001", "IO01"] := by
  rw [checkModules] at among
  split at among
  · rcases List.mem_append.mp among with among | among
    · obtain ⟨found, -, rfl⟩ := List.mem_map.mp among
      simp [code_obstruction]
    · obtain ⟨found, -, among⟩ := List.mem_flatMap.mp among
      rw [checkModule] at among
      split at among
      · obtain ⟨category, -, rfl⟩ := List.mem_map.mp among
        simp [detection]
      · rw [List.mem_singleton.mp among]
        simp [unreadable]
  · rw [List.mem_singleton.mp among]
    simp [code_obstruction]

end Scan

namespace ModuleContract

variable {layout : Layout} {tree : FileTree} {plugin : Path} {hooks : List String}

/-- The hooks of a manifest only add to what is said about the primary module. -/
theorem checkPlugin_eq_append (layout : Layout) (tree : FileTree) (plugin : Path)
    (hooks : List String) :
    ∃ more, checkPlugin layout tree plugin hooks = checkPlugin layout tree plugin [] ++ more ∧
      ∀ finding ∈ more, finding.code = "C004" := by
  rw [checkPlugin, checkPlugin]
  split
  · exact ⟨[], rfl, List.forall_mem_nil _⟩
  · split
    · refine ⟨_, congrArg (· ++ _) (List.append_nil _).symm, ?_⟩
      intro finding among
      obtain ⟨hook, -, rfl⟩ := List.mem_map.mp among
      rfl
    · exact ⟨[], rfl, List.forall_mem_nil _⟩

theorem code_of_mem_checkPlugin {finding : Finding}
    (among : finding ∈ checkPlugin layout tree plugin hooks) :
    finding.code ∈ ["C001", "C002", "C003", "C004", "IO01"] := by
  have missing {holds : Bool} {other : Finding} (among : finding ∈ if holds then [] else [other]) :
      finding = other := by
    split at among
    · cases among
    · exact List.mem_singleton.mp among
  rw [checkPlugin] at among
  split at among
  · cases among
  · split at among
    · simp only [check, List.mem_append, List.mem_map] at among
      rcases among with ((among | among) | among) | ⟨hook, -, rfl⟩
      · simp [missing among]
      · simp [missing among]
      · simp [missing among]
      · simp
    · rw [List.mem_singleton.mp among]
      simp [unreadable]

end ModuleContract

namespace Dependencies

variable {layout : Layout} {rules : Rules} {tree : FileTree} {plugin : Path}

theorem code_of_mem_audit {finding : Finding} (among : finding ∈ audit layout rules tree plugin) :
    finding.code ∈ ["D001", "D002"] := by
  delta audit at among
  split at among
  · cases among
  · rw [List.mem_singleton.mp among]
    simp [malformed]
  · obtain ⟨name, -, rfl⟩ := List.mem_map.mp among
    simp

theorem code_of_mem_auditDangerous {finding : Finding}
    (among : finding ∈ auditDangerous layout rules tree plugin) : finding.code ∈ ["S002"] := by
  delta auditDangerous at among
  split at among
  · rw [dangerousFindings] at among
    split at among
    · cases among
    · rw [List.mem_singleton.mp among]
      simp
  · cases among

end Dependencies

namespace Validator

variable {validator : Validator} {tree : FileTree} {id : String} {plugin : Path}

/-- The findings in a plugin, check by check. -/
theorem findings_eq :
    validator.findings tree id plugin =
      (validator.checkManifest tree id plugin).1 ++
        Structure.check validator.layout tree plugin (validator.checkManifest tree id plugin).2 ++
        Scan.checkPlugin validator.layout validator.rules tree plugin ++
        ModuleContract.checkPlugin validator.layout tree plugin
          (((validator.checkManifest tree id plugin).2.map Manifest.hooks).getD []) ++
        Dependencies.audit validator.layout validator.rules tree plugin := by
  rw [findings]

/-- The codes of findings in the manifest. -/
def manifestCodes : List String := "M001" :: Manifest.schemaCodes

/-- **What the manifest check yields follows from what is read:** nothing without a manifest, one
finding for a manifest that cannot be put to use, and otherwise the departures from the schema. -/
theorem checkManifest_cases (validator : Validator) (tree : FileTree) (id : String)
    (plugin : Path) :
    tree.has (plugin.join validator.layout.manifest) = false ∧
        (validator.checkManifest tree id plugin).1 = [] ∨
      tree.has (plugin.join validator.layout.manifest) = true ∧
        (∃ file message,
          (validator.checkManifest tree id plugin).1 = [Manifest.unusable file message]) ∨
      tree.has (plugin.join validator.layout.manifest) = true ∧
        ∃ text members, tree.readText (plugin.join validator.layout.manifest) = .ok text ∧
          Manifest.parse text = .ok members ∧
          (validator.checkManifest tree id plugin).1 =
            Manifest.check validator.layout validator.rules id members := by
  delta checkManifest
  rw [Manifest.read]
  cases has : tree.has (plugin.join validator.layout.manifest) with
  | false => exact .inl ⟨rfl, rfl⟩
  | true =>
    cases read : tree.readText (plugin.join validator.layout.manifest) with
    | error fault => exact .inr (.inl ⟨rfl, _, _, rfl⟩)
    | ok text =>
      cases parsed : Manifest.parse text with
      | error fault =>
        refine .inr (.inl ⟨rfl, ?_⟩)
        simp only [Bool.not_true, Bool.false_eq_true, if_false, parsed]
        exact ⟨_, _, rfl⟩
      | ok members =>
        refine .inr (.inr ⟨rfl, text, members, rfl, parsed, ?_⟩)
        simp only [Bool.not_true, Bool.false_eq_true, if_false, parsed]

theorem code_of_mem_checkManifest {finding : Finding}
    (among : finding ∈ (validator.checkManifest tree id plugin).1) :
    finding.code ∈ manifestCodes := by
  rcases validator.checkManifest_cases tree id plugin with
    ⟨-, none⟩ | ⟨-, file, message, one⟩ | ⟨-, text, members, -, -, checked⟩
  · rw [none] at among
    cases among
  · rw [one, List.mem_singleton] at among
    rw [among]
    exact List.mem_cons_self
  · rw [checked] at among
    exact List.mem_cons_of_mem _ (Manifest.code_of_mem_check among)

/-- **The findings with codes of the manifest** are those in the manifest. -/
theorem filter_manifestCodes (validator : Validator) (tree : FileTree) (id : String)
    (plugin : Path) :
    (validator.findings tree id plugin).filter
        (fun finding => manifestCodes.contains finding.code) =
      (validator.checkManifest tree id plugin).1 := by
  have others {codes : List String} {findings : List Finding}
      (coded : ∀ finding ∈ findings, finding.code ∈ codes)
      (apart : ∀ code ∈ codes, manifestCodes.contains code = false) :
      findings.filter (fun finding => manifestCodes.contains finding.code) = [] := by
    refine List.filter_eq_nil_iff.mpr fun finding among => ?_
    rw [apart _ (coded finding among)]
    exact Bool.false_ne_true
  have own : ((validator.checkManifest tree id plugin).1).filter
      (fun finding => manifestCodes.contains finding.code) =
        (validator.checkManifest tree id plugin).1 := by
    refine List.filter_eq_self.mpr fun finding among => ?_
    exact List.contains_iff_mem.mpr (code_of_mem_checkManifest among)
  rw [findings_eq, Scan.checkPlugin]
  simp only [List.filter_append]
  rw [own, others (fun _ => Structure.code_of_mem_check) (by decide),
    others (fun _ => Scan.code_of_mem_checkModules) (by decide),
    others (fun _ => Dependencies.code_of_mem_auditDangerous) (by decide),
    others (fun _ => ModuleContract.code_of_mem_checkPlugin) (by decide),
    others (fun _ => Dependencies.code_of_mem_audit) (by decide)]
  simp

/-- A manifest that is not found is missing. -/
theorem missingRequired_mem_findings {validator : Validator} {tree : FileTree} {plugin : Path}
    (absent : tree.has (plugin.join validator.layout.manifest) = false) (id : String) :
    Structure.missingRequired validator.layout.manifest ∈ validator.findings tree id plugin := by
  rw [findings_eq, Structure.check]
  simp [Layout.requiredFiles, absent]

/-- **A report says that the manifest is missing** exactly when it is not found. -/
theorem exists_missing_iff (validator : Validator) (tree : FileTree) (id : String)
    (plugin : Path) :
    (∃ finding ∈ validator.findings tree id plugin, finding.code = "L001" ∧
      finding.file = some validator.layout.manifest) ↔
      tree.has (plugin.join validator.layout.manifest) = false := by
  have inStructure {finding : Finding} (among : finding ∈ validator.findings tree id plugin)
      (code : finding.code = "L001") :
      finding ∈ Structure.check validator.layout tree plugin none := by
    have apart {codes : List String} {findings : List Finding}
        (coded : ∀ finding ∈ findings, finding.code ∈ codes) (other : "L001" ∉ codes) :
        finding ∉ findings := fun isOne => other (code ▸ coded finding isOne)
    obtain ⟨more, whole, coded⟩ := Structure.check_eq_append validator.layout tree plugin
      (validator.checkManifest tree id plugin).2
    rw [findings_eq, Scan.checkPlugin, whole] at among
    simp only [List.mem_append] at among
    rcases among with (((isOne | isOne | isOne) | isOne | isOne) | isOne) | isOne
    · exact absurd isOne (apart (fun _ => code_of_mem_checkManifest) (by decide))
    · exact isOne
    · rw [coded finding isOne] at code
      exact absurd code (by decide)
    · exact absurd isOne (apart (fun _ => Scan.code_of_mem_checkModules) (by decide))
    · exact absurd isOne (apart (fun _ => Dependencies.code_of_mem_auditDangerous) (by decide))
    · exact absurd isOne (apart (fun _ => ModuleContract.code_of_mem_checkPlugin) (by decide))
    · exact absurd isOne (apart (fun _ => Dependencies.code_of_mem_audit) (by decide))
  constructor
  · rintro ⟨finding, among, code, file⟩
    have among := inStructure among code
    simp only [Structure.check, Option.any_none, Bool.false_and, Bool.false_eq_true, if_false,
      List.append_nil, List.mem_append, List.mem_map, List.mem_filter] at among
    rcases among with ⟨name, ⟨-, absent⟩, rfl⟩ | ⟨name, -, rfl⟩
    · obtain rfl : name = validator.layout.manifest := Option.some.inj file
      simpa using absent
    · exact absurd code (by simp [Structure.missingRecommended, Structure.missing])
  · intro absent
    exact ⟨_, missingRequired_mem_findings absent id, rfl, rfl⟩

end Validator

end PluginAudit
