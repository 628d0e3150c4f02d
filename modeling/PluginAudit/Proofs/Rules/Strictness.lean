import Mathlib.Tactic.Common
import PluginAudit.Proofs.Yaml.Decoding
import PluginAudit.Rules.Basic
import PluginAudit.Rules.Document.Reader

/-!
# Keys of rule files

Every mapping of a rule file stands in one of its parts (`Located`), and each part
has the keys that are documented for it (`Part.names`). A file that is accepted
has no other keys, except in guarded patterns and in what stands there under an
unknown key (`stray_keys_only_in_guards`): what a guarded pattern holds besides
its two fields is passed over (`Entry.ofContent?_filter`,
`stray_key_in_guard_accepted`).
-/

set_option autoImplicit false

namespace PluginAudit.Rules

open Yaml (Anchors Content Decoder Denotes Gives Mark Node Properties Readable Scalar Trail)
open Yaml.Decoder (listOf)

/-! ## Parts -/

/-- The parts of a rule file: the whole, the lists in it and what they hold, single texts, and
what stands where no part is. -/
inductive Part where
  | document
  | categories
  | category
  | patterns
  | entry
  | texts
  | text
  | unknown
  deriving DecidableEq, Repr

namespace Part

/-- The keys that are documented for a part. -/
def names : Part → List String
  | document =>
    ["categories", "safe_patterns", "extensions", "dangerous_packages", "core_dependency_prefixes",
      "known_hooks"]
  | category => ["name", "patterns"]
  | entry => ["pattern", "unless"]
  | _ => []

/-- The part that an item of a part is. -/
def item : Part → Part
  | categories => category
  | patterns => entry
  | texts => text
  | _ => unknown

/-- The part that a key in a part is. -/
def key : Part → Part
  | unknown => unknown
  | _ => text

/-- The part that the value of a key in a part is. -/
def value : Part → Option String → Part
  | document, some name =>
    if name = "categories" then categories else if name ∈ document.names then texts else unknown
  | category, some name =>
    if name = "patterns" then patterns else if name ∈ category.names then text else unknown
  | entry, some name => if name ∈ entry.names then text else unknown
  | _, _ => unknown

end Part

/-- A node stands in a part of the file with this root. -/
inductive Located (root : Node) : Part → Node → Prop
  | root : Located root .document root
  | item {part : Part} {node found : Node} {properties : Properties} {items : List Node}
      (outer : Located root part node)
      (isList : node.resolve root.anchored = some (.sequence properties items))
      (among : found ∈ items) : Located root part.item found
  | key {part : Part} {node : Node} {properties : Properties} {entries : List (Node × Node)}
      {entry : Node × Node} (outer : Located root part node)
      (isMapping : node.resolve root.anchored = some (.mapping properties entries))
      (among : entry ∈ entries) : Located root part.key entry.1
  | value {part : Part} {node : Node} {properties : Properties} {entries : List (Node × Node)}
      {entry : Node × Node} (outer : Located root part node)
      (isMapping : node.resolve root.anchored = some (.mapping properties entries))
      (among : entry ∈ entries) :
      Located root (part.value (entry.1.name? root.anchored)) entry.2

/-- All keys of a mapping are documented for a part. -/
def Part.Names (known : List (Nat × Node)) (part : Part) (entries : List (Node × Node)) : Prop :=
  ∀ entry ∈ entries, ∃ name ∈ part.names, entry.1.name? known = some name

/-- **Each mapping in a part of a rule file has only keys that are documented** for the part. -/
def Part.Documented (text : String) (part : Part) : Prop :=
  ∀ node properties entries, Located (Yaml.Document.ofText text).root part node →
    node.resolve (Yaml.Document.ofText text).root.anchored = some (.mapping properties entries) →
      part.Names (Yaml.Document.ofText text).root.anchored entries

/-! ## Guarded patterns -/

namespace Entry

/-- What a guarded pattern is read from has strings and numbers for keys, and strings for fields.
-/
theorem guardedFields_some {pattern excuse : Option String} {entries : List (Content × Content)}
    {found : String × String} (read : guardedFields pattern excuse entries = some found) :
    ∀ entry ∈ entries, field? entry.1 ≠ none ∧
      (field? entry.1 ≠ some none → ∃ text, entry.2 = .scalar (.string text)) := by
  fun_induction guardedFields pattern excuse entries with
  | case1 | case2 => exact fun _ among => nomatch among
  | case3 _ _ key value entries isOther ih =>
    exact List.forall_mem_cons.mpr ⟨⟨by simp [isOther], absurd isOther⟩, ih read⟩
  | case4 _ key entries text isPattern ih =>
    exact List.forall_mem_cons.mpr ⟨⟨by simp [isPattern], fun _ => ⟨text, rfl⟩⟩, ih read⟩
  | case5 _ key entries text isExcuse ih =>
    exact List.forall_mem_cons.mpr ⟨⟨by simp [isExcuse], fun _ => ⟨text, rfl⟩⟩, ih read⟩
  | case6 => cases read

/-- What names a field, or is passed over for one, is a scalar. -/
theorem scalar_of_field? {content : Content} (named : field? content ≠ none) :
    ∃ value, content = .scalar value ∧ value ≠ .nothing := by
  cases content with
  | scalar value =>
    refine ⟨value, rfl, ?_⟩
    rintro rfl
    exact named rfl
  | sequence items => exact absurd rfl named
  | mapping entries => exact absurd rfl named

theorem guardedFields_filter (pattern excuse : Option String) (entries : List (Content × Content)) :
    guardedFields pattern excuse (entries.filter fun entry => field? entry.1 ≠ some none) =
      guardedFields pattern excuse entries := by
  fun_induction guardedFields pattern excuse entries with
  | case1 => rfl
  | case2 _ _ notBoth => exact guardedFields.eq_2 _ _ notBoth
  | case3 _ _ key value entries isOther ih =>
    rw [List.filter_cons_of_neg (by simpa using isOther)]
    exact ih
  | case4 _ key entries text isPattern ih =>
    rw [List.filter_cons_of_pos (by simp [isPattern]), guardedFields.eq_4 _ _ _ _ isPattern]
    exact ih
  | case5 _ key entries text isExcuse ih =>
    rw [List.filter_cons_of_pos (by simp [isExcuse]), guardedFields.eq_5 _ _ _ _ isExcuse]
    exact ih
  | case6 _ _ key value entries notOther notPattern notExcuse =>
    rw [List.filter_cons_of_pos (by simpa using notOther)]
    exact guardedFields.eq_6 _ _ _ _ _ notOther notPattern notExcuse

/-- A scalar that is written as the name of a field is that name. -/
theorem ofTagged_name {tag : Option String} {name : String} {plain : Bool} {value : Scalar}
    (isName : name ∈ Part.names .entry) (isScalar : Scalar.ofTagged tag name plain = .ok value) :
    value = .string name := by
  have spelling : ∀ name ∈ Part.names .entry, Scalar.ofPlain name = .string name ∧
      Scalar.boolean? name = none ∧ Scalar.integer? name.toList = none ∧
      Scalar.floating? name.toList = none ∧ Scalar.spellsNothing name = false := by decide
  obtain ⟨isText, noBoolean, noInteger, noDouble, something⟩ := spelling name isName
  simp only [Scalar.ofTagged, isText, noBoolean, noInteger, noDouble, something, ite_self,
    Option.map_none, Bool.false_eq_true, if_false] at isScalar
  split at isScalar <;> first
    | exact (Except.ok.inj isScalar).symm
    | cases isScalar

/-- **What stands in a guarded pattern under an unknown key is passed over.** -/
theorem ofContent?_filter (entries : List (Content × Content)) :
    ofContent? (.mapping (entries.filter fun entry => field? entry.1 ≠ some none)) =
      ofContent? (.mapping entries) :=
  congrArg (Option.map _) (guardedFields_filter none none entries)

end Entry

/-! ## Parts that are accepted -/

variable {anchors : Anchors} {node : Node} {properties : Properties}

namespace Part

/-- A node is accepted as what a part of a rule file has to be. -/
def Accepts (anchors : Anchors) (node : Node) : Part → Prop
  | document => Readable anchors Document.decode node
  | categories => Readable anchors (listOf Group.decode) node
  | category => Readable anchors Group.decode node
  | patterns => Readable anchors (listOf Entry.decode) node
  | entry => Readable anchors Entry.decode node
  | texts =>
    Readable anchors (listOf fun _ trail node => Decoder.text "a string" trail node) node
  | text => ∃ name, node.name? anchors.nodes = some name
  | unknown => True

theorem value_unknown (name : Option String) : value unknown name = unknown := by
  cases name <;> rfl

/-- The values of documented keys are parts of a rule file. -/
theorem value_ne_unknown {part : Part} : ∀ name ∈ part.names, part.value (some name) ≠ unknown := by
  cases part <;> decide

end Part

/-- A field of a category is accepted as the part that it is. -/
theorem Group.accepts_field {before : Group.Draft} {name : String}
    (isKnown : name ∈ Part.names .category)
    (readable : Readable anchors
      (fun levels trail node => Group.Draft.field levels before name trail node) node) :
    (Part.value .category (some name)).Accepts anchors node := by
  obtain ⟨levels, trail, after, gives⟩ := readable
  unfold Group.Draft.field at gives
  split at gives
  · next isName =>
    obtain rfl := beq_iff_eq.mp isName
    obtain ⟨text, isText⟩ := gives.once
    exact ⟨text, isText.text⟩
  · next notName =>
    obtain rfl : name = "patterns" := by simpa [Part.names, mt beq_iff_eq.mpr notName] using isKnown
    obtain ⟨patterns, arePatterns⟩ := gives.once
    exact ⟨levels, trail, patterns, arePatterns⟩

/-- A field of a rule document is accepted as the part that it is. -/
theorem Document.accepts_field {before : Document.Draft} {name : String}
    (isKnown : name ∈ Part.names .document)
    (readable : Readable anchors
      (fun levels trail node => Document.Draft.field levels before name trail node) node) :
    (Part.value .document (some name)).Accepts anchors node := by
  obtain ⟨levels, trail, after, gives⟩ := readable
  unfold Document.Draft.field at gives
  split at gives
  · next isName =>
    obtain rfl := beq_iff_eq.mp isName
    obtain ⟨categories, areCategories⟩ := gives.once
    exact ⟨levels, trail, categories, areCategories⟩
  · next notName =>
    have isTexts : Part.value .document (some name) = .texts := by
      rw [Part.value, if_neg (mt beq_iff_eq.mpr notName), if_pos isKnown]
    obtain ⟨texts, areTexts⟩ := gives.once
    rw [isTexts]
    exact ⟨levels, trail, texts, areTexts⟩

/-- An entry is read from a content that is one. -/
theorem Entry.denotes_of_readable (readable : Readable anchors Entry.decode node) :
    ∃ content entry, Denotes anchors node content ∧ Entry.ofContent? content = some entry := by
  obtain ⟨levels, trail, value, gives⟩ := readable
  obtain ⟨content, isContent, gives⟩ := Gives.bind gives
  split at gives
  · next entry isEntry => exact ⟨content, entry, ⟨levels, trail, isContent⟩, isEntry⟩
  · exact absurd gives Gives.not_problem

/-- What stands in a guarded pattern is accepted: its keys are scalars, and so are its fields. -/
theorem Entry.accepts_entry (readable : Readable anchors Entry.decode node)
    {entries : List (Node × Node)}
    (isMapping : node.resolve anchors.nodes = some (.mapping properties entries))
    {entry : Node × Node} (among : entry ∈ entries) :
    Part.Accepts anchors entry.1 .text ∧
      (Part.value .entry (entry.1.name? anchors.nodes)).Accepts anchors entry.2 := by
  obtain ⟨content, found, denotes, isEntry⟩ := denotes_of_readable readable
  obtain ⟨contents, rfl, each⟩ := denotes.of_mapping isMapping
  obtain ⟨fields, areFields, -⟩ := Option.map_eq_some_iff.mp isEntry
  obtain ⟨pair, isPair, isKey, isValue⟩ := each entry among
  obtain ⟨named, isText⟩ := guardedFields_some areFields pair isPair
  obtain ⟨value, isScalar, something⟩ := scalar_of_field? named
  rw [isScalar] at isKey
  obtain ⟨_, name, plain, isKey, stands⟩ := isKey.scalar something
  have isName : entry.1.name? anchors.nodes = some name := Node.name?_eq_some.mpr ⟨_, _, isKey⟩
  refine ⟨⟨name, isName⟩, ?_⟩
  rw [isName, Part.value]
  split
  · next isField =>
    obtain rfl := ofTagged_name isField stands
    have noOther : ∀ name ∈ Part.names .entry, field? (.scalar (.string name)) ≠ some none := by
      decide
    obtain ⟨text, isString⟩ := isText (isScalar ▸ noOther name isField)
    rw [isString] at isValue
    obtain ⟨_, text, _, isValue, -⟩ := isValue.scalar nofun
    exact ⟨text, Node.name?_eq_some.mpr ⟨_, _, isValue⟩⟩
  · trivial

namespace Part

/-- What is in a list is accepted as the part that it is, which is unknown only in unknown ones.
-/
theorem accepts_item {part : Part} (accepts : part.Accepts anchors node) {items : List Node}
    (isList : node.resolve anchors.nodes = some (.sequence properties items)) {found : Node}
    (among : found ∈ items) :
    part.item.Accepts anchors found ∧ (part ≠ .unknown → part.item ≠ .unknown) := by
  cases part with
  | document | category =>
    obtain ⟨_, _, _, gives⟩ := accepts
    exact absurd isList (Gives.record_no_sequence gives)
  | categories | patterns =>
    obtain ⟨_, _, _, gives⟩ := accepts
    exact ⟨gives.listOf_item isList found among, fun _ => nofun⟩
  | texts =>
    obtain ⟨_, _, _, gives⟩ := accepts
    obtain ⟨_, _, text, gives⟩ := gives.listOf_item isList found among
    exact ⟨⟨text, gives.text⟩, fun _ => nofun⟩
  | entry =>
    obtain ⟨content, _, denotes, isEntry⟩ := Entry.denotes_of_readable accepts
    obtain ⟨contents, rfl⟩ := denotes.of_sequence isList
    cases isEntry
  | text =>
    obtain ⟨name, isName⟩ := accepts
    obtain ⟨_, _, isScalar⟩ := Node.name?_eq_some.mp isName
    cases isScalar.symm.trans isList
  | unknown => exact ⟨trivial, absurd rfl⟩

/-- What is in a mapping is accepted as the part that it is, and its keys are documented outside
of guarded patterns. -/
theorem accepts_entry {part : Part} (accepts : part.Accepts anchors node)
    {entries : List (Node × Node)}
    (isMapping : node.resolve anchors.nodes = some (.mapping properties entries))
    {entry : Node × Node} (among : entry ∈ entries) :
    part.key.Accepts anchors entry.1 ∧
      (part.value (entry.1.name? anchors.nodes)).Accepts anchors entry.2 ∧
      (part ≠ .entry → part ≠ .unknown →
        ∃ name ∈ part.names, entry.1.name? anchors.nodes = some name) := by
  cases part with
  | document =>
    obtain ⟨_, _, _, gives⟩ := accepts
    obtain ⟨name, isKnown, isName, _, readable⟩ := Gives.record_entry gives isMapping entry among
    refine ⟨⟨name, isName⟩, ?_, fun _ _ => ⟨name, isKnown, isName⟩⟩
    rw [isName]
    exact Document.accepts_field isKnown readable
  | category =>
    obtain ⟨_, _, _, gives⟩ := accepts
    obtain ⟨name, isKnown, isName, _, readable⟩ := Gives.record_entry gives isMapping entry among
    refine ⟨⟨name, isName⟩, ?_, fun _ _ => ⟨name, isKnown, isName⟩⟩
    rw [isName]
    exact Group.accepts_field isKnown readable
  | categories | patterns | texts =>
    obtain ⟨_, _, _, gives⟩ := accepts
    exact absurd isMapping gives.listOf_no_mapping
  | entry =>
    obtain ⟨isKey, isValue⟩ := Entry.accepts_entry accepts isMapping among
    exact ⟨isKey, isValue, absurd rfl⟩
  | text =>
    obtain ⟨name, isName⟩ := accepts
    obtain ⟨_, _, isScalar⟩ := Node.name?_eq_some.mp isName
    cases isScalar.symm.trans isMapping
  | unknown => exact ⟨trivial, by rw [value_unknown]; trivial, fun _ => absurd rfl⟩

end Part

/-! ## Whole files -/

variable {text : String} {document : Document}

/-- What stands in a part of an accepted file is accepted as that part. -/
theorem accepts_of_located (accepted : Document.ofYaml text = .ok document) {part : Part}
    (located : Located (Yaml.Document.ofText text).root part node) :
    part.Accepts (Yaml.anchorsOf text) node := by
  induction located with
  | root => exact Yaml.readable_root accepted
  | item _ isList among ih => exact (Part.accepts_item ih isList among).1
  | key _ isMapping among ih => exact (Part.accepts_entry ih isMapping among).1
  | value _ isMapping among ih => exact (Part.accepts_entry ih isMapping among).2.1

/-- Outside of guarded patterns, the keys of an accepted file are documented. -/
theorem documented_of_ne (accepted : Document.ofYaml text = .ok document) {part : Part}
    (notEntry : part ≠ .entry) (isKnown : part ≠ .unknown) : part.Documented text := by
  intro node properties entries located isMapping entry among
  have accepts := accepts_of_located accepted located
  exact (Part.accepts_entry accepts isMapping among).2.2 notEntry isKnown

/-- Nothing unknown stands in a file all of whose guarded patterns have documented keys only. -/
theorem ne_unknown_of_documented (accepted : Document.ofYaml text = .ok document)
    (documented : Part.Documented text .entry) {part : Part}
    (located : Located (Yaml.Document.ofText text).root part node) : part ≠ .unknown := by
  induction located with
  | root => exact nofun
  | item outer isList among ih =>
    exact (Part.accepts_item (accepts_of_located accepted outer) isList among).2 ih
  | @key part _ _ _ _ _ _ _ ih =>
    cases part with
    | unknown => exact absurd rfl ih
    | _ => exact nofun
  | @value part _ _ _ entry outer isMapping among ih =>
    have names : ∃ name ∈ part.names,
        entry.1.name? (Yaml.Document.ofText text).root.anchored = some name := by
      by_cases isEntry : part = .entry
      · subst isEntry
        exact documented _ _ _ outer isMapping entry among
      · exact documented_of_ne accepted isEntry ih _ _ _ outer isMapping entry among
    obtain ⟨name, isName, same⟩ := names
    rw [same]
    exact Part.value_ne_unknown name isName

/-- **Rule files are read strictly, guarded patterns apart.** In a rule file that is accepted,
each mapping in a part has only keys that are documented for the part, unless it is a guarded
pattern or stands under an unknown key. So no key at all is unknown if and only if none is in a
guarded pattern. -/
theorem stray_keys_only_in_guards (accepted : Document.ofYaml text = .ok document) :
    (∀ part : Part, part ≠ .entry → part ≠ .unknown → part.Documented text) ∧
      ((∀ part : Part, part.Documented text) ↔ Part.Documented text .entry) := by
  refine ⟨fun part => documented_of_ne accepted, fun all => all .entry, fun documented part => ?_⟩
  by_cases isEntry : part = .entry
  · rwa [isEntry]
  · intro node properties entries located
    have isKnown := ne_unknown_of_documented accepted documented located
    exact documented_of_ne accepted isEntry isKnown node properties entries located

/-- A rule file with a key in its guarded pattern that is not documented. -/
def strayFile : String :=
  "categories:
- name: code
  patterns:
  - \x7bpattern: eval, unless: ok, severity: high\x7d
safe_patterns: []
extensions: [js]
dangerous_packages: []
core_dependency_prefixes: []
known_hooks: []
"

/-- The rule document that is read from that file. -/
def strayDocument : Document where
  categories := [⟨"code", [.guarded "eval" "ok"]⟩]
  safePatterns := []
  extensions := ["js"]
  dangerousPackages := []
  corePrefixes := []
  knownHooks := []

theorem ofYaml_strayFile : Document.ofYaml strayFile = .ok strayDocument := by decide +kernel

/-- All that is stray in that file is in its guarded pattern. -/
theorem stray_key_is_in_guard : Document.ofYaml strayFile = .ok strayDocument ∧
    (∀ part : Part, part ≠ .entry → part ≠ .unknown → part.Documented strayFile) ∧
      ((∀ part : Part, part.Documented strayFile) ↔ Part.Documented strayFile .entry) :=
  ⟨ofYaml_strayFile, stray_keys_only_in_guards ofYaml_strayFile⟩

/-! ## Ways into a file -/

/-- The part and the node of the item or of the value in some place of a node. -/
def descend (root : Node) (outer : Part × Node) (place : Nat) : Option (Part × Node) :=
  match outer.2.resolve root.anchored with
  | some (.sequence _ items) => items[place]?.map fun found => (outer.1.item, found)
  | some (.mapping _ entries) =>
    entries[place]?.map fun entry => (outer.1.value (entry.1.name? root.anchored), entry.2)
  | _ => none

/-- The keys of a mapping. -/
def keysOf (root node : Node) : List (Option String) :=
  match node.resolve root.anchored with
  | some (.mapping _ entries) => entries.map fun entry => entry.1.name? root.anchored
  | _ => []

theorem located_descend {root : Node} {outer inner : Part × Node} {place : Nat}
    (located : Located root outer.1 outer.2) (isInner : descend root outer place = some inner) :
    Located root inner.1 inner.2 := by
  unfold descend at isInner
  split at isInner
  · next isList =>
    obtain ⟨found, isThere, rfl⟩ := Option.map_eq_some_iff.mp isInner
    exact located.item isList (List.mem_of_getElem? isThere)
  · next isMapping =>
    obtain ⟨entry, isThere, rfl⟩ := Option.map_eq_some_iff.mp isInner
    exact located.value isMapping (List.mem_of_getElem? isThere)
  · cases isInner

theorem located_foldlM {root : Node} (way : List Nat) {outer inner : Part × Node}
    (located : Located root outer.1 outer.2)
    (isInner : way.foldlM (descend root) outer = some inner) :
    Located root inner.1 inner.2 := by
  induction way generalizing outer with
  | nil =>
    obtain rfl := Option.some.inj isInner
    exact located
  | cons place way ih =>
    obtain ⟨next, isNext, isInner⟩ := Option.bind_eq_some_iff.mp isInner
    exact ih (located_descend located isNext) isInner

/-- A way from the root leads into a part of the file. -/
theorem located_of_way {root node : Node} {part : Part} {way : List Nat}
    (leads : way.foldlM (descend root) (.document, root) = some (part, node)) :
    Located root part node :=
  located_foldlM way .root leads

theorem Part.Documented.mem_names {part : Part} (documented : part.Documented text)
    (located : Located (Yaml.Document.ofText text).root part node) :
    ∀ key ∈ keysOf (Yaml.Document.ofText text).root node, ∃ name ∈ part.names, key = some name := by
  intro key among
  unfold keysOf at among
  split at among
  · next isMapping =>
    obtain ⟨entry, isEntry, rfl⟩ := List.mem_map.mp among
    exact documented node _ _ located isMapping entry isEntry
  · cases among

/-- **A key in a guarded pattern that nobody knows is passed over:** the file is accepted, and its
patterns can be read. -/
theorem stray_key_in_guard_accepted :
    Document.ofYaml strayFile = .ok strayDocument ∧ (ofDocument strayDocument).isOk = true ∧
      ¬ ∀ part : Part, part.Documented strayFile := by
  refine ⟨ofYaml_strayFile, by decide +kernel, fun documented => ?_⟩
  have isStray : (([0, 0, 1, 0].foldlM (descend (Yaml.Document.ofText strayFile).root)
      (Part.document, (Yaml.Document.ofText strayFile).root)).map fun inner =>
        (inner.1, keysOf (Yaml.Document.ofText strayFile).root inner.2)) =
      some (.entry, [some "pattern", some "unless", some "severity"]) := by decide +kernel
  obtain ⟨⟨part, node⟩, leads, same⟩ := Option.map_eq_some_iff.mp isStray
  obtain ⟨rfl, areKeys⟩ := Prod.mk.inj same
  have known := (documented .entry).mem_names (located_of_way leads) (some "severity")
    (areKeys ▸ by decide)
  exact absurd known (by decide)

end PluginAudit.Rules
