import PluginAudit.Dependencies.InTree
import PluginAudit.Proofs.Dependencies.Reading
import PluginAudit.Proofs.Validation.Codes

/-!
# Malformed dependency manifests

A dependency manifest that cannot be read is reported, and then nothing else is
said about dependencies (`malformed_alone`). So what is not reported is JSON. It
is an object whose sections are objects of strings, unless it is a list, which no
manifest should be (`malformed_reported_unless_listed`,
`list_passes_as_manifest`).
-/

set_option autoImplicit false

namespace PluginAudit

/-! ## Objects and lists are told apart -/

namespace Json.Grammar

/-- What the first character of a value is, blanks apart. -/
def StartsWith (first : Char) (text : List Char) : Prop := (skipBlanks text).head? = some first

instance (first : Char) (text : List Char) : Decidable (StartsWith first text) :=
  inferInstanceAs (Decidable (_ = _))

theorem startsWith_cons {c first : Char} {text : List Char} (isBlank : isSeparator c = true) :
    StartsWith first (c :: text) ↔ StartsWith first text := by
  rw [StartsWith, StartsWith, skipBlanks, List.dropWhile_cons_of_pos isBlank, skipBlanks]

/-- Objects and lists begin with their brackets. -/
theorem Value.startsWith {text rest : List Char} {outline : Outline}
    (value : Value text outline rest) :
    (∀ members, outline = .object members → StartsWith '{' text) ∧
      ∀ items, outline = .list items → StartsWith '[' text := by
  induction length : text.length using Nat.strongRecOn generalizing text with
  | ind _ ih =>
    cases value with
    | blank isBlank behind =>
      rw [startsWith_cons isBlank, startsWith_cons isBlank]
      exact ih _ (by simp [← length]) behind rfl
    | word _ => exact ⟨nofun, nofun⟩
    | number _ => exact ⟨nofun, nofun⟩
    | string _ => exact ⟨nofun, nofun⟩
    | list _ => exact ⟨nofun, fun _ _ => rfl⟩
    | object _ => exact ⟨fun _ _ => rfl, nofun⟩

end Json.Grammar

namespace Dependencies

open Json.Grammar

/-- No text is both a manifest and a list. -/
theorem not_isListed_of_isManifest {text : String} {outline other : Outline}
    (isWritten : Written text outline) (isManifest : IsManifest outline)
    (isWritten' : Written text other) : ¬ IsListed other := by
  rintro ⟨items, isList, -⟩
  obtain ⟨members, isObject, -⟩ := isManifest
  obtain ⟨_, value, -⟩ := isWritten
  obtain ⟨_, value', -⟩ := isWritten'
  have starts := value.startsWith.1 members isObject
  have starts' := value'.startsWith.2 items isList
  exact absurd (Option.some.inj (starts.symm.trans starts')) (by decide)

/-! ## What is reported -/

variable {layout : Layout} {rules : Rules} {tree : FileTree} {plugin : Path}

/-- What stands in the place of the dependency manifest is read as one, or a reason is told. -/
theorem ofPlugin?_eq (layout : Layout) (tree : FileTree) (plugin : Path) :
    ofPlugin? layout tree plugin =
      if tree.has (plugin.join layout.dependencyManifest) then
        some ((tree.readText (plugin.join layout.dependencyManifest)).mapError
          FileTree.Fault.message >>= parse)
      else none := by
  rw [ofPlugin?]
  cases tree.has (plugin.join layout.dependencyManifest) <;> rfl

/-- What can be read stands there. -/
theorem has_of_readText {path : Path} {text : String} (read : tree.readText path = .ok text) :
    tree.has path = true := by
  rw [FileTree.has]
  cases located : tree.locate true path with
  | error fault =>
    rw [FileTree.readText, located] at read
    cases read
  | ok found => rfl

/-- The dependencies of a plugin are those of the text in the place of the manifest. -/
theorem ofPlugin?_of_readText {text : String}
    (read : tree.readText (plugin.join layout.dependencyManifest) = .ok text) :
    ofPlugin? layout tree plugin = some (parse text) := by
  rw [ofPlugin?_eq, if_pos (has_of_readText read), read]
  rfl

theorem ofPlugin?_eq_ok_iff {dependencies : Dependencies} :
    ofPlugin? layout tree plugin = some (.ok dependencies) ↔
      ∃ text, tree.readText (plugin.join layout.dependencyManifest) = .ok text ∧
        parse text = .ok dependencies := by
  cases read : tree.readText (plugin.join layout.dependencyManifest) with
  | ok text => simp [ofPlugin?_of_readText read]
  | error fault =>
    rw [ofPlugin?_eq, read]
    refine ⟨fun same => ?_, fun ⟨_, isRead, _⟩ => nomatch isRead⟩
    split at same
    · cases Option.some.inj same
    · cases same

/-- A dependency manifest is reported as malformed if it is there and is not read. -/
theorem malformed_iff :
    (∃ finding ∈ audit layout rules tree plugin, finding.code = "D001") ↔
      ∃ reason, ofPlugin? layout tree plugin = some (.error reason) := by
  delta audit
  constructor
  · rintro ⟨finding, among, code⟩
    split at among
    · cases among
    · next reason found => exact ⟨reason, found⟩
    · obtain ⟨name, -, rfl⟩ := List.mem_map.mp among
      simp at code
  · rintro ⟨reason, found⟩
    rw [found]
    exact ⟨_, List.mem_singleton_self _, rfl⟩

/-- **A malformed dependency manifest is all that is reported** about dependencies. -/
theorem malformed_alone {reason : String}
    (broken : ofPlugin? layout tree plugin = some (.error reason)) :
    audit layout rules tree plugin ++ auditDangerous layout rules tree plugin =
      [malformed layout reason] := by
  delta audit auditDangerous
  rw [broken]
  rfl

/-- **A malformed dependency manifest is reported, unless it is a list.** It is reported if
something stands in its place whose text is not read as dependencies, and then nothing else is
said about dependencies. A text that is not reported is an object whose sections are objects of
strings, or it is a list of at most two such objects, and never both. -/
theorem malformed_reported_unless_listed (layout : Layout) (rules : Rules) (tree : FileTree)
    (plugin : Path) :
    ((∃ finding ∈ audit layout rules tree plugin, finding.code = "D001") ↔
      tree.has (plugin.join layout.dependencyManifest) = true ∧
        ¬ ∃ text dependencies, tree.readText (plugin.join layout.dependencyManifest) = .ok text ∧
          parse text = .ok dependencies) ∧
    (∀ finding ∈ audit layout rules tree plugin ++ auditDangerous layout rules tree plugin,
      finding.code = "D001" →
        audit layout rules tree plugin ++ auditDangerous layout rules tree plugin = [finding]) ∧
    ∀ text, tree.readText (plugin.join layout.dependencyManifest) = .ok text →
      (∀ finding ∈ audit layout rules tree plugin, finding.code ≠ "D001") →
        ((∃ outline, Written text outline ∧ IsManifest outline) ↔
          ¬ ∃ outline, Written text outline ∧ IsListed outline) := by
  refine ⟨?_, fun finding among code => ?_, fun text read unreported => ?_⟩
  · rw [malformed_iff, exists_comm]
    simp only [← ofPlugin?_eq_ok_iff]
    rw [ofPlugin?_eq]
    cases tree.has (plugin.join layout.dependencyManifest) with
    | false => simp
    | true =>
      generalize ((tree.readText (plugin.join layout.dependencyManifest)).mapError
        FileTree.Fault.message >>= parse) = result
      cases result <;> simp
  · rcases List.mem_append.mp among with isAudit | isDangerous
    · obtain ⟨reason, broken⟩ := malformed_iff.mp ⟨finding, isAudit, code⟩
      rw [malformed_alone broken] at among ⊢
      rw [List.mem_singleton.mp among]
    · have isCode := code_of_mem_auditDangerous isDangerous
      rw [code] at isCode
      simp at isCode
  · cases accepted : parse text with
    | error reason =>
      have broken := ofPlugin?_of_readText read
      rw [accepted] at broken
      obtain ⟨finding, among, code⟩ := malformed_iff.mpr ⟨reason, broken⟩
      exact absurd code (unreported finding among)
    | ok dependencies =>
      obtain ⟨outline, isWritten, shape, -⟩ := parse_written accepted
      constructor
      · rintro ⟨other, isWritten', isManifest⟩ ⟨another, isWritten'', isListed⟩
        exact not_isListed_of_isManifest isWritten' isManifest isWritten'' isListed
      · intro notListed
        rcases shape with isManifest | isListed
        · exact ⟨outline, isWritten, isManifest⟩
        · exact absurd ⟨outline, isWritten, isListed⟩ notListed

/-! ## Lists in place of manifests -/

/-- A plugin of which nothing is known but its dependency manifest. -/
def treeWithPackages (manifest : String) : FileTree :=
  { root := .directory [("p", .directory [("package.json", .file manifest.toUTF8)])]
    workplace := [] }

/-- A manifest with a package of each kind, and with a number that no reader could read. -/
def declaringManifest : String :=
  "\x7b\"size\": 1e999, \"devDependencies\": \x7b\"vm2\": \"^3\"\x7d,
    \"dependencies\": \x7b\"pg\": \"^8\"\x7d\x7d"

/-- **A manifest is not reported** for what nobody asks it. -/
theorem declaring_manifest_unreported :
    (treeWithPackages declaringManifest).readText ⟨"p/package.json"⟩ = .ok declaringManifest ∧
      (∀ finding ∈ audit .standard ⟨.standard, [], []⟩ (treeWithPackages declaringManifest) ⟨"p"⟩,
        finding.code ≠ "D001") ∧
      ((∃ outline, Written declaringManifest outline ∧ IsManifest outline) ↔
        ¬ ∃ outline, Written declaringManifest outline ∧ IsListed outline) := by
  have read : (treeWithPackages declaringManifest).readText ⟨"p/package.json"⟩ =
      .ok declaringManifest := by decide +kernel
  have unreported : ∀ finding ∈ audit .standard ⟨.standard, [], []⟩
      (treeWithPackages declaringManifest) ⟨"p"⟩, finding.code ≠ "D001" := by decide +kernel
  exact ⟨read, unreported,
    (malformed_reported_unless_listed .standard ⟨.standard, [], []⟩ _ ⟨"p"⟩).2.2 _ read unreported⟩

/-- **An empty list passes for a manifest,** although it is no object. -/
theorem list_passes_as_manifest :
    (treeWithPackages "[]").readText ⟨"p/package.json"⟩ = .ok "[]" ∧
      audit .standard ⟨.standard, [], []⟩ (treeWithPackages "[]") ⟨"p"⟩ = [] ∧
      ¬ ∃ outline, Written "[]" outline ∧ IsManifest outline := by
  refine ⟨by decide +kernel, by decide +kernel, ?_⟩
  rintro ⟨outline, ⟨_, value, -⟩, members, isObject, -⟩
  exact absurd (value.startsWith.1 members isObject) (by decide)

end Dependencies

end PluginAudit
