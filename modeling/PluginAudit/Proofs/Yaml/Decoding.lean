import PluginAudit.Yaml.Typed

/-!
# What a document of a fixed shape holds

A reader that gives a value has found what it wants: a list is a sequence each of
whose items is read (`Gives.listOf_item`), and a record is a mapping that has
known names for keys, and each of whose values is read as the field of its name
(`Gives.record_entry`). Content of any shape has the shape of its node
(`Denotes.of_mapping`, `Denotes.scalar`).

A node that is an alias is the node that it stands for (`Node.resolve`).
-/

set_option autoImplicit false

namespace PluginAudit.Yaml

/-! ## Nodes and what they stand for -/

namespace Node

/-- The node that a node stands for, where `known` are the nodes with their anchors. -/
def resolve (known : List (Nat × Node)) : Node → Option Node
  | aliasOf _ anchor => ((known.filter (·.1 == anchor)).getLast?).map (·.2)
  | node => some node

/-- The text of a node that is a scalar. -/
def text? : Node → Option String
  | scalar _ text _ => some text
  | _ => none

/-- The text of a node that stands for a scalar. -/
def name? (known : List (Nat × Node)) (node : Node) : Option String :=
  (node.resolve known).bind text?

theorem name?_eq_some {known : List (Nat × Node)} {node : Node} {name : String} :
    node.name? known = some name ↔
      ∃ properties plain, node.resolve known = some (.scalar properties name plain) := by
  rw [name?, Option.bind_eq_some_iff]
  constructor
  · rintro ⟨found, isFound, isText⟩
    cases found with
    | scalar properties text plain =>
      obtain rfl := Option.some.inj isText
      exact ⟨properties, plain, isFound⟩
    | _ => cases isText
  · rintro ⟨properties, plain, isScalar⟩
    exact ⟨_, isScalar, rfl⟩

end Node

/-! ## Values that are given -/

/-- A reader gives a value, after it has followed some number of aliases. -/
def Gives {α : Type} (anchors : Anchors) (decoder : Decoder α) (value : α) : Prop :=
  ∃ before after, decoder anchors before = .ok (value, after)

/-- A reader of nodes gives a value at a node, in some place and with some levels left. -/
def Readable {α : Type} (anchors : Anchors) (decoder : Nat → Trail → Node → Decoder α)
    (node : Node) : Prop :=
  ∃ levels trail value, Gives anchors (decoder levels trail node) value

variable {α β σ : Type} {anchors : Anchors} {trail : Trail} {node : Node} {levels : Nat}

namespace Gives

open Decoder

theorem bind {decoder : Decoder α} {next : α → Decoder β} {value : β}
    (gives : Gives anchors (decoder >>= next) value) :
    ∃ first, Gives anchors decoder first ∧ Gives anchors (next first) value := by
  obtain ⟨before, after, ran⟩ := gives
  have onward : (decoder >>= next) anchors before =
      (decoder anchors before).bind fun given => next given.1 anchors given.2 := rfl
  rw [onward] at ran
  cases ran' : decoder anchors before with
  | error refusal =>
    rw [ran'] at ran
    cases ran
  | ok given =>
    rw [ran'] at ran
    exact ⟨given.1, ⟨before, given.2, ran'⟩, ⟨given.2, after, ran⟩⟩

theorem pure_eq {value other : α} (gives : Gives anchors (pure value) other) : other = value := by
  obtain ⟨_, _, ran⟩ := gives
  exact (Prod.mk.inj (Except.ok.inj ran)).1.symm

theorem read_eq {known : Anchors} (gives : Gives anchors read known) : known = anchors := by
  obtain ⟨_, _, ran⟩ := gives
  exact (Prod.mk.inj (Except.ok.inj ran)).1.symm

theorem map {decoder : Decoder α} {f : α → β} {value : β}
    (gives : Gives anchors (f <$> decoder) value) : ∃ first, Gives anchors decoder first := by
  rw [map_eq_pure_bind] at gives
  exact gives.bind.imp fun _ => And.left

/-- What refuses gives nothing. -/
theorem not_refuse {refusal : Refusal} {value : α} : ¬ Gives anchors (refuse refusal) value := by
  rintro ⟨_, _, ran⟩
  cases ran

theorem not_problem {text : String} {value : α} : ¬ Gives anchors (problem text) value := not_refuse

theorem not_cut {value : α} : ¬ Gives anchors cut value := by
  intro gives
  obtain ⟨known, -, gives⟩ := gives.bind
  split at gives
  · exact not_refuse gives
  · exact not_problem gives

theorem not_mismatch {wanted : String} {value : α} :
    ¬ Gives anchors (mismatch wanted node) value := by
  intro gives
  unfold mismatch at gives
  split at gives
  · split at gives <;> exact not_problem gives
  all_goals first
    | exact not_problem gives
    | exact not_cut gives

theorem placed {mark : Mark} {decoder : Decoder α} {value : α}
    (gives : Gives anchors (Decoder.placed mark trail decoder) value) :
    Gives anchors decoder value := by
  obtain ⟨before, after, ran⟩ := gives
  refine ⟨before, after, ?_⟩
  rw [Decoder.placed] at ran
  cases ran' : decoder anchors before with
  | error refusal =>
    rw [ran'] at ran
    cases ran
  | ok pair => rwa [ran'] at ran

/-- The node that is followed is the one that a node stands for. -/
theorem follow {found : Node} (gives : Gives anchors (Decoder.follow node) found) :
    node.resolve anchors.nodes = some found := by
  cases node with
  | aliasOf mark anchor =>
    obtain ⟨followed, -, gives⟩ := gives.bind
    obtain ⟨known, isKnown, gives⟩ := gives.bind
    obtain rfl := read_eq isKnown
    split at gives
    · exact absurd gives not_refuse
    · obtain ⟨_, -, gives⟩ := gives.bind
      rw [Node.resolve]
      split at gives
      · next found' isFound =>
        rw [isFound, pure_eq gives]
        rfl
      · exact absurd gives not_cut
  | _ => exact congrArg some (pure_eq gives).symm

/-- Reading goes on at the node that a node stands for. -/
theorem followed {next : Node → Decoder α} {value : α}
    (gives : Gives anchors (Decoder.follow node >>= next) value) {found : Node}
    (isFound : node.resolve anchors.nodes = some found) : Gives anchors (next found) value := by
  obtain ⟨other, isOther, gives⟩ := gives.bind
  obtain rfl := Option.some.inj (isOther.follow.symm.trans isFound)
  exact gives

/-! ## Lists -/

theorem exists_mapM {list : List α} {decoder : α → Decoder β} {values : List β}
    (gives : Gives anchors (list.mapM decoder) values) :
    ∀ item ∈ list, ∃ value ∈ values, Gives anchors (decoder item) value := by
  induction list generalizing values with
  | nil => exact fun _ among => nomatch among
  | cons item list ih =>
    rw [List.mapM_cons] at gives
    obtain ⟨first, isFirst, gives⟩ := gives.bind
    obtain ⟨others, areOthers, gives⟩ := gives.bind
    obtain rfl := pure_eq gives
    refine List.forall_mem_cons.mpr ⟨⟨first, List.mem_cons_self, isFirst⟩, fun other among => ?_⟩
    obtain ⟨value, isOther, reads⟩ := ih areOthers other among
    exact ⟨value, List.mem_cons_of_mem first isOther, reads⟩

theorem exists_foldlM {list : List α} {decoder : σ → α → Decoder σ} {start final : σ}
    (gives : Gives anchors (list.foldlM decoder start) final) :
    ∀ item ∈ list, ∃ before after, Gives anchors (decoder before item) after := by
  induction list generalizing start with
  | nil => exact fun _ among => nomatch among
  | cons first list ih =>
    rw [List.foldlM_cons] at gives
    obtain ⟨next, isFirst, gives⟩ := gives.bind
    exact List.forall_mem_cons.mpr ⟨⟨start, next, isFirst⟩, ih gives⟩

section

variable {item : Nat → Trail → Node → Decoder α} {values : List α}

/-- **Each item of a list is read.** -/
theorem listOf_item (gives : Gives anchors (listOf item levels trail node) values)
    {properties : Properties} {items : List Node}
    (isList : node.resolve anchors.nodes = some (.sequence properties items)) :
    ∀ found ∈ items, Readable anchors item found := by
  intro found among
  have gives := gives.followed isList
  cases levels with
  | zero => exact absurd gives.placed not_refuse
  | succ levels =>
    obtain ⟨index, isThere⟩ := List.mem_iff_getElem?.mp among
    obtain ⟨value, -, reads⟩ := gives.placed.exists_mapM (found, index)
      (List.mem_zipIdx_iff_getElem?.mpr isThere)
    exact ⟨levels, _, value, reads⟩

/-- A list is no mapping. -/
theorem listOf_no_mapping (gives : Gives anchors (listOf item levels trail node) values)
    {properties : Properties} {entries : List (Node × Node)} :
    node.resolve anchors.nodes ≠ some (.mapping properties entries) := by
  intro isMapping
  have gives := gives.followed isMapping
  have gives : Gives anchors (mismatch "a sequence" (.mapping properties entries)) values := by
    cases levels <;> exact gives.placed
  exact not_mismatch gives

end

/-! ## Records -/

theorem knownField_mem {known : List String} {name : String}
    (gives : Gives anchors (knownField known trail node) name) :
    name ∈ known ∧ node.name? anchors.nodes = some name := by
  obtain ⟨found, isFound, gives⟩ := gives.bind
  rw [Node.name?, isFound.follow]
  cases found with
  | scalar properties text plain =>
    have gives := gives.placed
    dsimp only at gives
    split at gives
    · next isKnown =>
      obtain rfl := pure_eq gives
      exact ⟨List.contains_iff_mem.mp isKnown, rfl⟩
    · exact absurd gives not_problem
  | _ => exact absurd gives.placed not_mismatch

section

variable {wanted : String} {known : List String}
  {field : Nat → σ → String → Trail → Node → Decoder σ} {start : σ} {finish : σ → Decoder α}
  {value : α}

/-- **Each key of a record is a known name, and its value is read** as the field of that name. -/
theorem record_entry
    (gives : Gives anchors (record wanted known field start finish levels trail node) value)
    {properties : Properties} {entries : List (Node × Node)}
    (isMapping : node.resolve anchors.nodes = some (.mapping properties entries)) :
    ∀ entry ∈ entries, ∃ name ∈ known,
      entry.1.name? anchors.nodes = some name ∧
      ∃ before, Readable anchors (fun levels trail node => field levels before name trail node)
        entry.2 := by
  intro entry among
  have gives := gives.followed isMapping
  cases levels with
  | zero => exact absurd gives.placed not_refuse
  | succ levels =>
    obtain ⟨fields, areFields, -⟩ := gives.placed.bind
    obtain ⟨before, after, gives⟩ := areFields.exists_foldlM entry among
    obtain ⟨name, isName, gives⟩ := gives.bind
    obtain ⟨isKnown, isText⟩ := isName.knownField_mem
    exact ⟨name, isKnown, isText, before, levels, _, after, gives⟩

/-- A record is no sequence. -/
theorem record_no_sequence
    (gives : Gives anchors (record wanted known field start finish levels trail node) value)
    {properties : Properties} {items : List Node} :
    node.resolve anchors.nodes ≠ some (.sequence properties items) := by
  intro isList
  have gives := gives.followed isList
  have gives : Gives anchors (mismatch wanted (.sequence properties items)) value := by
    cases levels <;> exact gives.placed
  exact not_mismatch gives

end

/-- A field is read where it goes on with a field that is read once. -/
theorem once {name : String} {before : Option α} {decoder : Decoder α} {next : Option α → Decoder β}
    {value : β} (gives : Gives anchors (Decoder.once name before decoder >>= next) value) :
    ∃ read, Gives anchors decoder read := by
  obtain ⟨after, gives, -⟩ := gives.bind
  unfold Decoder.once at gives
  split at gives
  · exact absurd gives not_problem
  · exact gives.map

/-- A text is a scalar. -/
theorem text {wanted value : String}
    (gives : Gives anchors (Decoder.text wanted trail node) value) :
    node.name? anchors.nodes = some value := by
  obtain ⟨found, isFound, gives⟩ := gives.bind
  rw [Node.name?, isFound.follow]
  cases found with
  | scalar properties text plain => exact congrArg some (pure_eq gives.placed).symm
  | _ => exact absurd gives.placed not_mismatch

end Gives

/-! ## Content of any shape -/

namespace Content

open Decoder

/-- Reads a node of any shape that is no alias. -/
def shaped : Nat → Trail → Node → Decoder Content
  | _, _, .scalar properties text plain =>
    untagged properties (ofScalar properties.tag text plain)
  | levels + 1, trail, .sequence properties items =>
    untagged properties do
      let items ← items.zipIdx.mapM fun item => decode levels (.item trail item.2) item.1
      pure (sequence items)
  | levels + 1, trail, .mapping properties entries =>
    untagged properties do
      let entries ← entries.mapM fun entry => do
        let first ← decode levels trail entry.1
        let second ← decode levels (trail.ofKey entry.1) entry.2
        pure (first, second)
      pure (mapping entries)
  | 0, _, .sequence properties _ => untagged properties (refuse (.tooDeep properties.mark))
  | 0, _, .mapping properties _ => untagged properties (refuse (.tooDeep properties.mark))
  | _, _, .void _ => pure (scalar .nothing)
  | _, _, _ => cut

theorem decode_eq (levels : Nat) (trail : Trail) (node : Node) :
    decode levels trail node =
      follow node >>= fun node => placed node.mark trail (shaped levels trail node) := by
  delta decode
  cases levels with
  | zero => exact bind_congr fun node => by cases node <;> rfl
  | succ levels =>
    refine bind_congr fun node => ?_
    cases node <;> delta shaped decode <;> rfl

end Content

theorem Gives.untagged {properties : Properties} {decoder : Decoder α} {value : α}
    (gives : Gives anchors (Content.untagged properties decoder) value) :
    Gives anchors decoder value := by
  unfold Content.untagged at gives
  split at gives
  · exact absurd gives not_problem
  · exact gives

theorem Gives.ofScalar {tag : Option String} {text : String} {plain : Bool} {content : Content}
    (gives : Gives anchors (Content.ofScalar tag text plain) content) :
    ∃ value, content = .scalar value ∧ Scalar.ofTagged tag text plain = .ok value := by
  unfold Content.ofScalar at gives
  split at gives
  · exact absurd gives not_problem
  · next value isInteger =>
    split at gives
    · exact absurd gives not_problem
    · exact ⟨_, pure_eq gives, isInteger⟩
  · next value _ isScalar => exact ⟨value, pure_eq gives, isScalar⟩

/-- A node is read as a content, in some place and with some levels left. -/
def Denotes (anchors : Anchors) (node : Node) (content : Content) : Prop :=
  ∃ levels trail, Gives anchors (Content.decode levels trail node) content

namespace Denotes

variable {content : Content} {properties : Properties}

theorem shaped (denotes : Denotes anchors node content) :
    ∃ levels trail found, node.resolve anchors.nodes = some found ∧
      Gives anchors (Content.shaped levels trail found) content := by
  obtain ⟨levels, trail, gives⟩ := denotes
  rw [Content.decode_eq] at gives
  obtain ⟨found, isFound, gives⟩ := gives.bind
  exact ⟨levels, trail, found, isFound.follow, gives.placed⟩

theorem of_sequence (denotes : Denotes anchors node content) {items : List Node}
    (isList : node.resolve anchors.nodes = some (.sequence properties items)) :
    ∃ contents, content = .sequence contents := by
  obtain ⟨levels, trail, found, isFound, gives⟩ := denotes.shaped
  obtain rfl := Option.some.inj (isFound.symm.trans isList)
  cases levels with
  | zero => exact absurd gives.untagged Gives.not_refuse
  | succ levels =>
    obtain ⟨contents, -, gives⟩ := gives.untagged.bind
    exact ⟨contents, gives.pure_eq⟩

/-- **Content of a mapping has the contents of its entries.** -/
theorem of_mapping (denotes : Denotes anchors node content) {entries : List (Node × Node)}
    (isMapping : node.resolve anchors.nodes = some (.mapping properties entries)) :
    ∃ contents, content = .mapping contents ∧
      ∀ entry ∈ entries, ∃ pair ∈ contents,
        Denotes anchors entry.1 pair.1 ∧ Denotes anchors entry.2 pair.2 := by
  obtain ⟨levels, trail, found, isFound, gives⟩ := denotes.shaped
  obtain rfl := Option.some.inj (isFound.symm.trans isMapping)
  cases levels with
  | zero => exact absurd gives.untagged Gives.not_refuse
  | succ levels =>
    obtain ⟨contents, areContents, gives⟩ := gives.untagged.bind
    refine ⟨contents, gives.pure_eq, fun entry among => ?_⟩
    obtain ⟨pair, isPair, gives⟩ := areContents.exists_mapM entry among
    obtain ⟨key, isKey, gives⟩ := gives.bind
    obtain ⟨value, isValue, gives⟩ := gives.bind
    obtain rfl := gives.pure_eq
    exact ⟨_, isPair, ⟨levels, _, isKey⟩, levels, _, isValue⟩

/-- **Content that is a scalar** is what a scalar stands for, unless it is nothing. -/
theorem scalar {value : Scalar} (denotes : Denotes anchors node (.scalar value))
    (something : value ≠ .nothing) :
    ∃ properties text plain, node.resolve anchors.nodes = some (.scalar properties text plain) ∧
      Scalar.ofTagged properties.tag text plain = .ok value := by
  obtain ⟨levels, trail, found, isFound, gives⟩ := denotes.shaped
  cases found with
  | scalar properties text plain =>
    obtain ⟨_, same, isScalar⟩ := gives.untagged.ofScalar
    obtain rfl := Content.scalar.inj same
    exact ⟨properties, text, plain, isFound, isScalar⟩
  | sequence properties items =>
    obtain ⟨_, same⟩ := denotes.of_sequence isFound
    cases same
  | mapping properties entries =>
    obtain ⟨_, same, -⟩ := denotes.of_mapping isFound
    cases same
  | void mark => exact absurd (Content.scalar.inj gives.pure_eq) something
  | aliasOf mark anchor => exact absurd gives Gives.not_cut
  | cut => exact absurd gives Gives.not_cut

end Denotes

/-! ## Whole documents -/

/-- What is known while the document of a text is read. -/
def anchorsOf (text : String) : Anchors :=
  ⟨(Document.ofText text).root.anchored, (Document.ofText text).root.size * 100,
    (Document.ofText text).fault⟩

/-- A document that is read is read at its root. -/
theorem readable_root {decoder : Nat → Trail → Node → Decoder α} {text : String} {value : α}
    (accepted : decode decoder text = .ok value) :
    Readable (anchorsOf text) decoder (Document.ofText text).root := by
  cases ran : decoder mostLevels .root (Document.ofText text).root (anchorsOf text) 0 with
  | error refusal =>
    have refused : decode decoder text = .error refusal := by
      rw [decode]
      exact congrArg (Except.bind · _) ran
    rw [refused] at accepted
    cases accepted
  | ok read => exact ⟨mostLevels, .root, read.1, 0, read.2, ran⟩

end PluginAudit.Yaml
