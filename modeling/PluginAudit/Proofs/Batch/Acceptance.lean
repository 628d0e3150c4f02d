import PluginAudit.Proofs.Batch.Summary
import PluginAudit.Proofs.Registry.Reloading
import PluginAudit.Proofs.Validation.Codes

/-!
# Accepted plugins

A plugin is accepted when it can be validated and its report has no issue. Those
are the plugins whose reports pass (`filter_reports_validateEach`), and the exit
status is zero when all are (`exitCode_eq_zero_iff_accepts`).

An accepted plugin has a manifest that is a JSON object
(`manifest_of_accepts`), so its entry in the registry is always made from the
fields of its manifest (`DeclaresMembers.ofPlugin_eq`).
-/

set_option autoImplicit false

namespace PluginAudit

/-- A report passes when it has no issue. -/
theorem Report.isPassing_iff {report : Report} :
    report.verdict.isPassing = true ↔ report.issues = [] := by
  have noIssue : report.issues = [] ↔ report.findings.any Finding.isIssue = false := by
    simp [issues, List.filter_eq_nil_iff]
  rw [noIssue, verdict, Verdict.ofFindings]
  cases report.findings.any Finding.isIssue with
  | true => simp [Verdict.isPassing]
  | false => cases report.findings.any Finding.isWarning <;> simp [Verdict.isPassing]

/-- The file of the manifest of a plugin holds a text that is a JSON object with these members. -/
def Plugin.DeclaresMembers (plugin : Plugin) (tree : FileTree) (members : Json.Members) : Prop :=
  ∃ text, tree.readText (plugin.path.join Layout.standard.manifest) = .ok text ∧
    Json.parse text = .ok (.object members)

namespace Validator

/-- Whether a plugin can be validated and its report has no issue. -/
def accepts (validator : Validator) (tree : FileTree) (plugin : Plugin) : Bool :=
  match validator.validate tree plugin.id plugin.path with
  | .ok report => report.issues.isEmpty
  | .error _ => false

section Accepting

variable {validator : Validator} {tree : FileTree} {plugin : Plugin} {plugins : List Plugin}

theorem accepts_iff :
    validator.accepts tree plugin = true ↔
      ∃ report, validator.validate tree plugin.id plugin.path = .ok report ∧
        report.issues = [] := by
  rw [accepts]
  cases validator.validate tree plugin.id plugin.path <;> simp

/-- A plugin that is accepted is a directory in which nothing is an issue. -/
theorem accepts_iff_findings :
    validator.accepts tree plugin = true ↔
      tree.isDirectory plugin.path = true ∧
        ∀ finding ∈ validator.findings tree plugin.id plugin.path, finding.isIssue = false := by
  rw [accepts_iff, validate]
  cases tree.isDirectory plugin.path <;> simp [Report.issues, List.filter_eq_nil_iff]

/-- **The exit status is zero when every plugin is accepted.** -/
theorem exitCode_eq_zero_iff_accepts :
    (validator.validateEach tree plugins).exitCode = 0 ↔
      ∀ plugin ∈ plugins, validator.accepts tree plugin = true := by
  simp only [exitCode_validateEach_eq_zero, accepts_iff, Report.isPassing_iff]

/-- **The reports that pass are those of accepted plugins.** -/
theorem filter_reports_validateEach :
    (validator.validateEach tree plugins).reports.filter (fun report => report.verdict.isPassing) =
      (plugins.filter (validator.accepts tree)).map fun plugin =>
        ⟨plugin.id, plugin.path.text, validator.findings tree plugin.id plugin.path⟩ := by
  have each (plugin : Plugin) :
      ((validator.validate tree plugin.id plugin.path).toOption.filter fun report =>
        report.verdict.isPassing) =
          if validator.accepts tree plugin then
            some ⟨plugin.id, plugin.path.text, validator.findings tree plugin.id plugin.path⟩
          else none := by
    cases isDirectory : tree.isDirectory plugin.path with
    | false => simp [accepts, validate, isDirectory, Except.toOption]
    | true =>
      simp [accepts, validate, isDirectory, Except.toOption, Option.filter, Report.isPassing_iff]
  rw [validateEach, List.filter_filterMap, ← List.filterMap_eq_map, List.filterMap_filter]
  exact List.filterMap_congr fun plugin _ => each plugin

/-- **An accepted plugin has a manifest that is a JSON object.** -/
theorem manifest_of_accepts {rules : Rules}
    (accepted : Validator.accepts ⟨rules, .standard⟩ tree plugin = true) :
    ∃ members, plugin.DeclaresMembers tree members := by
  obtain ⟨-, noIssue⟩ := accepts_iff_findings.mp accepted
  have inManifest : ∀ finding ∈
      (checkManifest ⟨rules, .standard⟩ tree plugin.id plugin.path).1, finding.isIssue = false := by
    intro finding among
    exact noIssue finding (by rw [findings_eq]; simp [among])
  rcases checkManifest_cases ⟨rules, .standard⟩ tree plugin.id plugin.path with
    ⟨absent, -⟩ | ⟨-, file, message, one⟩ | ⟨-, text, members, read, parsed, -⟩
  · cases noIssue _ (missingRequired_mem_findings absent plugin.id)
  · rw [one] at inManifest
    cases inManifest _ List.mem_cons_self
  · refine ⟨members, text, read, ?_⟩
    rw [Manifest.parse] at parsed
    split at parsed
    · next isObject => rw [isObject, Except.ok.inj parsed]
    · cases parsed
    · cases parsed

end Accepting

end Validator

/-- **The entry of a plugin with such a manifest is made from its members.** -/
theorem Plugin.DeclaresMembers.ofPlugin_eq {plugin : Plugin} {tree : FileTree}
    {members : Json.Members} (declares : plugin.DeclaresMembers tree members) (now : Instant) :
    Registry.Entry.ofPlugin .standard tree plugin.path plugin.id now =
      .ofManifest members now := by
  obtain ⟨text, read, parsed⟩ := declares
  rw [Registry.Entry.ofPlugin, read, Registry.Entry.ofManifestText]
  simp [Except.toOption, parsed]

end PluginAudit
