import PluginAudit.Proofs.Dependencies.Malformed

/-!
# Findings about packages

Packages are kept by name, each name once (`ofList_names`), and so are the
names of both sections (`names_ascending`). So what is said about packages is
exact (`package_findings_exact`): the packages that must not be declared are named
in one issue, in ascending order and each once, and every package at run time that
the host provides has a warning of its own, whatever is declared for development.
-/

set_option autoImplicit false

namespace PluginAudit

/-! ## Names in their order -/

/-- Names in ascending order, each once. -/
abbrev Ascending (names : List String) : Prop := names.Pairwise (· < ·)

namespace Dependencies

theorem mem_insertName {name other : String} {names : List String} :
    other ∈ mergeNames.insertName name names ↔ other = name ∨ other ∈ names := by
  induction names with
  | nil => simp [mergeNames.insertName]
  | cons first rest ih =>
    rw [mergeNames.insertName]
    split
    · simp
    · split
      · next same => simp [same]
      · simp only [List.mem_cons, ih]
        tauto

/-- A name that is put in its place among ascending names, or is there, leaves them ascending. -/
theorem ascending_insertName {names : List String} (ascending : Ascending names) (name : String) :
    Ascending (mergeNames.insertName name names) := by
  induction names with
  | nil => exact List.pairwise_singleton _ _
  | cons first rest ih =>
    obtain ⟨isFirst, isAscending⟩ := List.pairwise_cons.mp ascending
    rw [mergeNames.insertName]
    split
    · next before =>
      refine List.pairwise_cons.mpr ⟨fun other among => ?_, ascending⟩
      rcases List.mem_cons.mp among with rfl | among
      · exact before
      · exact String.lt_trans before (isFirst other among)
    · next notBefore =>
      split
      · exact ascending
      · next apart =>
        refine List.pairwise_cons.mpr ⟨fun other among => ?_, ih isAscending⟩
        rcases mem_insertName.mp among with rfl | among
        · exact Std.lt_of_le_of_ne notBefore (Ne.symm apart)
        · exact isFirst other among

/-- **Names are merged into ascending names,** each once. -/
theorem mergeNames_names (packages : Packages) {names : List String} (ascending : Ascending names) :
    Ascending (mergeNames packages names) ∧
      ∀ name, name ∈ mergeNames packages names ↔ name ∈ packages.map (·.1) ∨ name ∈ names := by
  induction packages generalizing names with
  | nil => exact ⟨ascending, by simp [mergeNames]⟩
  | cons package packages ih =>
    obtain ⟨isAscending, mem⟩ := ih (ascending_insertName ascending package.1)
    refine ⟨isAscending, fun name => (mem name).trans ?_⟩
    rw [mem_insertName, List.map_cons, List.mem_cons]
    tauto

end Dependencies

namespace Packages

/-- The names of packages. -/
def names (packages : Packages) : List String := packages.map (·.1)

/-- A package that is declared is put in its place by its name. -/
theorem names_insert (packages : Packages) (name version : String) :
    (packages.insert name version).names =
      Dependencies.mergeNames.insertName name packages.names := by
  induction packages with
  | nil => rfl
  | cons package rest ih =>
    obtain ⟨first, known⟩ := package
    simp only [names] at ih ⊢
    rw [insert, List.map_cons, Dependencies.mergeNames.insertName, ← ih]
    by_cases before : name < first
    · simp [before]
    · by_cases same : first = name
      · simp [same]
      · simp [before, same, Ne.symm same]

/-- Packages that are declared one after the other have their names merged. -/
theorem names_declareAll (list : List (String × String)) (packages : Packages) :
    (packages.declareAll list).names = Dependencies.mergeNames list packages.names := by
  induction list generalizing packages with
  | nil => rfl
  | cons package list ih =>
    refine (ih (packages.insert package.1 package.2)).trans ?_
    rw [names_insert]
    rfl

/-- **Packages are kept by name,** each name once, whatever is declared. -/
theorem ofList_names (list : List (String × String)) :
    Ascending (ofList list).names ∧
      ∀ name, name ∈ (ofList list).names ↔ name ∈ list.map (·.1) := by
  obtain ⟨ascending, mem⟩ := Dependencies.mergeNames_names list List.Pairwise.nil
  rw [ofList, names_declareAll]
  exact ⟨ascending, fun name => (mem name).trans (by simp)⟩

end Packages

namespace Dependencies

open Json.Grammar

/-! ## Names that are declared -/

/-- A name is declared in one of the sections. -/
def DeclaredIn (sections : List Section) (outline : Outline) (name : String) : Prop :=
  ∃ kind ∈ sections, ∃ packages, Declares kind outline packages ∧ name ∈ packages.map (·.1)

theorem written_injective {packages others : List (String × String)}
    (same : written packages = written others) : packages = others := by
  refine List.map_injective_iff.mpr (fun package other same => ?_) (Outline.object.inj same)
  obtain ⟨sameName, sameVersion⟩ := Prod.mk.inj same
  exact Prod.ext (unitsOf_injective sameName) (unitsOf_injective (Outline.string.inj sameVersion))

/-- An outline declares in a section one list of packages at most. -/
theorem Declares.unique {kind : Section} {outline : Outline}
    {packages others : List (String × String)}
    (declares : Declares kind outline packages) (declares' : Declares kind outline others) :
    packages = others := by
  cases declares with
  | field once =>
    cases declares' with
    | field once' => exact written_injective (by simpa [once] using once')
    | noField absent => simp [once] at absent
  | noField absent =>
    cases declares' with
    | field once => simp [absent] at once
    | noField _ => rfl
  | item inPlace =>
    cases declares' with
    | item inPlace' => exact written_injective (by simpa [inPlace] using inPlace')
    | noItem absent => simp [inPlace] at absent
  | noItem absent =>
    cases declares' with
    | item inPlace => simp [absent] at inPlace
    | noItem _ => rfl

/-- The packages of a section are those that are declared in it. -/
theorem section_names {dependencies : Dependencies} {outline : Outline}
    (declares : DeclaresAll dependencies outline) (kind : Section) :
    Ascending (kind.packages dependencies).names ∧
      ∀ name, name ∈ (kind.packages dependencies).names ↔ DeclaredIn [kind] outline name := by
  obtain ⟨packages, declared, isList⟩ := declares kind
  rw [isList]
  obtain ⟨ascending, mem⟩ := Packages.ofList_names packages
  refine ⟨ascending, fun name => (mem name).trans ?_⟩
  constructor
  · exact fun among => ⟨kind, List.mem_singleton_self kind, packages, declared, among⟩
  · rintro ⟨other, isKind, others, declared', among⟩
    obtain rfl := List.mem_singleton.mp isKind
    rwa [declared.unique declared']

/-- **The names of both sections are those that are declared,** each once, in ascending order. -/
theorem names_ascending {dependencies : Dependencies} {outline : Outline}
    (declares : DeclaresAll dependencies outline) :
    Ascending dependencies.names ∧
      ∀ name, name ∈ dependencies.names ↔ DeclaredIn [.runtime, .development] outline name := by
  obtain ⟨-, mem⟩ := section_names declares .runtime
  obtain ⟨ascending, mem'⟩ := section_names declares .development
  obtain ⟨merged, memMerged⟩ := mergeNames_names dependencies.runtime ascending
  refine ⟨merged, fun name => (memMerged name).trans ((or_congr (mem name) (mem' name)).trans ?_)⟩
  simp [DeclaredIn]

/-! ## Findings -/

/-- The issue of packages that must not be declared. -/
def suspicious (layout : Layout) (names : List String) : Finding where
  severity := .issue
  category := .security
  code := "S002"
  message := "Suspicious dependencies found: " ++ String.intercalate ", " names
  file := some layout.dependencyManifest

/-- The warning of a package at run time that the host provides. -/
def provided (layout : Layout) (name : String) : Finding where
  severity := .warning
  category := .dependency
  code := "D002"
  message := "Plugin should use " ++ name ++
    " from the parent project, not as a direct dependency"
  file := some layout.dependencyManifest

theorem corePrefix?_isSome {rules : Rules} {name : String} :
    (rules.corePrefix? name).isSome = true ↔
      ∃ beginning ∈ rules.document.corePrefixes, beginning.toList <+: name.toList := by
  simp [Rules.corePrefix?]

/-- **What is said about packages is exact.** Let a dependency manifest be read. Then there is an
issue exactly if a package that must not be declared is declared in one of the sections; there is
one at most, which lists exactly those packages, in ascending order and each once. And there are
the warnings of exactly those packages at run time whose names have one of the beginnings that the
host reserves, in ascending order and each once. -/
theorem package_findings_exact (layout : Layout) (rules : Rules) (tree : FileTree) (plugin : Path)
    {text : String} {dependencies : Dependencies}
    (read : tree.readText (plugin.join layout.dependencyManifest) = .ok text)
    (accepted : parse text = .ok dependencies) :
    ∃ outline, Written text outline ∧ DeclaresAll dependencies outline ∧
      ((∃ finding ∈ auditDangerous layout rules tree plugin, finding.code = "S002") ↔
        ∃ name, DeclaredIn [.runtime, .development] outline name ∧
          name ∈ rules.document.dangerousPackages) ∧
      (auditDangerous layout rules tree plugin).length ≤ 1 ∧
      (∀ finding ∈ auditDangerous layout rules tree plugin, ∃ names,
        finding = suspicious layout names ∧ Ascending names ∧
          ∀ name, name ∈ names ↔ DeclaredIn [.runtime, .development] outline name ∧
            name ∈ rules.document.dangerousPackages) ∧
      ∃ names, audit layout rules tree plugin = names.map (provided layout) ∧ Ascending names ∧
        ∀ name, name ∈ names ↔ DeclaredIn [.runtime] outline name ∧
          ∃ beginning ∈ rules.document.corePrefixes, beginning.toList <+: name.toList := by
  obtain ⟨outline, isWritten, -, declares⟩ := parse_written accepted
  have found := ofPlugin?_of_readText read
  rw [accepted] at found
  obtain ⟨ascending, mem⟩ := names_ascending declares
  obtain ⟨atRunTime, memRunTime⟩ := section_names declares .runtime
  have memListed : ∀ name, name ∈ dependencies.names.filter rules.isDangerousPackage ↔
      DeclaredIn [.runtime, .development] outline name ∧
        name ∈ rules.document.dangerousPackages := by
    simp [List.mem_filter, mem, Rules.isDangerousPackage]
  have isDangerous : auditDangerous layout rules tree plugin =
      if (dependencies.names.filter rules.isDangerousPackage).isEmpty then []
      else [suspicious layout (dependencies.names.filter rules.isDangerousPackage)] := by
    delta auditDangerous
    rw [found]
    rfl
  have isAudit : audit layout rules tree plugin =
      (dependencies.runtime.names.filter fun name => (rules.corePrefix? name).isSome).map
        (provided layout) := by
    delta audit
    rw [found]
    rfl
  refine ⟨outline, isWritten, declares, ?_, ?_, fun finding among => ?_,
    _, isAudit, atRunTime.filter _, fun name => ?_⟩
  · simp only [isDangerous, ← memListed]
    cases dependencies.names.filter rules.isDangerousPackage with
    | nil => simp
    | cons first rest => simp [suspicious]
  · rw [isDangerous]
    split <;> simp
  · rw [isDangerous] at among
    split at among
    · cases among
    · exact ⟨_, List.mem_singleton.mp among, ascending.filter _, memListed⟩
  · rw [List.mem_filter, corePrefix?_isSome]
    exact and_congr_left' (memRunTime name)

/-- A manifest with packages in both sections, one of them in both. -/
def overlappingManifest : String :=
  "\x7b\"dependencies\": \x7b\"vm2\": \"^3\", \"@glaze/core\": \"1\"\x7d,
    \"devDependencies\": \x7b\"vm2\": \"2\", \"@glaze/cli\": \"1\"\x7d\x7d"

/-- **A package in both sections is listed once,** and the host is asked for none of development.
-/
theorem overlapping_packages_listed_once :
    (treeWithPackages overlappingManifest).readText ⟨"p/package.json"⟩ = .ok overlappingManifest ∧
      parse overlappingManifest =
        .ok ⟨[("@glaze/core", "1"), ("vm2", "^3")], [("@glaze/cli", "1"), ("vm2", "2")]⟩ ∧
      auditDangerous .standard ⟨.standard, [], []⟩ (treeWithPackages overlappingManifest) ⟨"p"⟩ =
        [suspicious .standard ["vm2"]] ∧
      audit .standard ⟨.standard, [], []⟩ (treeWithPackages overlappingManifest) ⟨"p"⟩ =
        [provided .standard "@glaze/core"] ∧
      ∃ outline, Written overlappingManifest outline ∧
        ∃ name, DeclaredIn [.runtime, .development] outline name ∧
          name ∈ Rules.Document.standard.dangerousPackages := by
  have read : (treeWithPackages overlappingManifest).readText ⟨"p/package.json"⟩ =
      .ok overlappingManifest := by decide +kernel
  have accepted : parse overlappingManifest =
      .ok ⟨[("@glaze/core", "1"), ("vm2", "^3")], [("@glaze/cli", "1"), ("vm2", "2")]⟩ := by
    decide +kernel
  have listed : auditDangerous .standard ⟨.standard, [], []⟩ (treeWithPackages overlappingManifest)
      ⟨"p"⟩ = [suspicious .standard ["vm2"]] := by decide +kernel
  refine ⟨read, accepted, listed, by decide +kernel, ?_⟩
  obtain ⟨outline, isWritten, -, issue, -⟩ :=
    package_findings_exact .standard ⟨.standard, [], []⟩ _ ⟨"p"⟩ read accepted
  exact ⟨outline, isWritten, issue.mp ⟨_, listed ▸ List.mem_singleton_self _, rfl⟩⟩

end Dependencies

end PluginAudit
