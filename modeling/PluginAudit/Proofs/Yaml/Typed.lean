import PluginAudit.Proofs.Yaml.Nodes
import PluginAudit.Yaml.Typed

/-!
# Readers at nodes that hold a tree

A reader reads a node that holds a tree without looking at what surrounds it,
and refuses nothing: it is the reader that gives a value. A list is read when
each of its items is (`listOf_holds`), and a record when each of its fields is
(`record_holds`).
-/

set_option autoImplicit false

namespace PluginAudit.Yaml

namespace Decoder

variable {trail : Trail} {node : Node} {levels : Nat}

/-- A text is read from a node that holds it. -/
theorem text_holds {value : String} (holds : (Tree.text value).Holds node) (wanted : String) :
    text wanted trail node = pure value := by
  obtain ⟨mark, rfl⟩ := holds
  rfl

/-! ## Lists -/

section

variable {α : Type} {toTree : α → Tree} {item : Nat → Trail → Node → Decoder α}

theorem mapM_zipIdx_holds {values : List α} {nodes : List Node}
    (each : ∀ value ∈ values, ∀ trail node, (toTree value).Holds node →
      item levels trail node = pure value)
    (hold : Tree.ItemsHold (values.map toTree) nodes) (first : Nat) :
    (nodes.zipIdx first).mapM (fun (node, index) => item levels (.item trail index) node) =
      (pure values : Decoder (List α)) := by
  induction values generalizing nodes first with
  | nil =>
    obtain rfl := hold
    rfl
  | cons value values ih =>
    obtain ⟨node, rest, rfl, holds, hold⟩ := hold
    have others := ih (fun value among => each value (List.mem_cons_of_mem _ among))
      hold (first + 1)
    rw [List.zipIdx_cons, List.mapM_cons]
    dsimp only
    rw [each value List.mem_cons_self _ node holds, pure_bind, others, pure_bind]

/-- **A list is read** from a node that holds it when each of its items is. -/
theorem listOf_holds {values : List α}
    (each : ∀ value ∈ values, ∀ trail node, (toTree value).Holds node →
      item levels trail node = pure value)
    (holds : (Tree.list (values.map toTree)).Holds node) :
    listOf item (levels + 1) trail node = pure values := by
  obtain ⟨mark, nodes, rfl, hold⟩ := holds
  exact (congrArg (placed mark trail) (mapM_zipIdx_holds each hold 0)).trans rfl

end

/-! ## Records -/

section

variable {σ α : Type} {field : Nat → σ → String → Trail → Node → Decoder σ}

/-- Fields are read one after the other. -/
inductive Takes (field : Nat → σ → String → Trail → Node → Decoder σ) (levels : Nat) :
    σ → List (String × Tree) → σ → Prop
  | nil {draft : σ} : Takes field levels draft [] draft
  | cons {draft last : σ} {name : String} {value : Tree} {fields : List (String × Tree)} (next : σ)
      (first : ∀ trail node, value.Holds node → field levels draft name trail node = pure next)
      (others : Takes field levels next fields last) :
      Takes field levels draft ((name, value) :: fields) last

theorem knownField_scalar {known : List String} {name : String} (isKnown : name ∈ known)
    (mark : Mark) : knownField known trail (.scalar { mark } name true) = pure name := by
  have found : known.contains name = true := List.contains_iff_mem.mpr isKnown
  simp only [knownField, follow, pure_bind, found, if_true]
  rfl

theorem foldlM_takes {known : List String} {draft last : σ} {fields : List (String × Tree)}
    (isKnown : ∀ pair ∈ fields, pair.1 ∈ known) (takes : Takes field levels draft fields last)
    {entries : List (Node × Node)} (hold : Tree.FieldsHold fields entries) :
    entries.foldlM (fun fields (key, value) => do
      let name ← knownField known trail key
      field levels fields name (trail.ofKey key) value) draft = (pure last : Decoder σ) := by
  induction takes generalizing entries with
  | nil =>
    obtain rfl := hold
    rfl
  | cons next first others ih =>
    obtain ⟨mark, node, rest, rfl, holds, hold⟩ := hold
    obtain ⟨isName, isKnown⟩ := List.forall_mem_cons.mp isKnown
    rw [List.foldlM_cons]
    dsimp only
    rw [knownField_scalar isName, pure_bind, first _ node holds, pure_bind]
    exact ih isKnown hold

/-- **A record is read** from a node that holds it when each of its fields is. -/
theorem record_holds {known : List String} (draft last : σ) {fields : List (String × Tree)}
    (isKnown : ∀ pair ∈ fields, pair.1 ∈ known) (takes : Takes field levels draft fields last)
    {finish : σ → Decoder α} {value : α} (finished : finish last = pure value) (wanted : String)
    (holds : (Tree.record fields).Holds node) :
    record wanted known field draft finish (levels + 1) trail node = pure value := by
  obtain ⟨mark, entries, rfl, hold⟩ := holds
  simp only [record, follow, pure_bind, foldlM_takes isKnown takes hold, finished]
  rfl

end

end Decoder

/-! ## Content of any shape -/

namespace Content

open Decoder

variable {trail : Trail} {node : Node}

/-! The reading of a node is opened where it is known what the node is. -/

theorem decode_scalar_eq (levels : Nat) (mark : Mark) (text : String) (plain : Bool) :
    decode levels trail (.scalar { mark } text plain) =
      placed mark trail (ofScalar none text plain) := by
  delta decode
  cases levels <;> rfl

theorem decode_mapping_eq (levels : Nat) (mark : Mark) (entries : List (Node × Node)) :
    decode (levels + 1) trail (.mapping { mark } entries) =
      placed mark trail (do
        let entries ← entries.mapM fun (key, value) => do
          let first ← decode levels trail key
          let second ← decode levels (trail.ofKey key) value
          pure (first, second)
        pure (mapping entries)) := by
  delta decode
  rfl

theorem decode_scalar {text : String} (plain : Bool)
    (isText : (if plain then Scalar.ofPlain text else .string text) = .string text) (mark : Mark)
    (levels : Nat) :
    decode levels trail (.scalar { mark } text plain) = pure (scalar (.string text)) := by
  have read : Scalar.ofTagged none text plain = .ok (.string text) := congrArg Except.ok isText
  rw [decode_scalar_eq, ofScalar, read]
  rfl

/-- **A written text is content that is a text**, since it is written without quotes only where it
then stands for itself. -/
theorem decode_text {value : String} (holds : (Tree.text value).Holds node) (levels : Nat) :
    decode levels trail node = pure (scalar (.string value)) := by
  obtain ⟨mark, rfl⟩ := holds
  refine decode_scalar _ ?_ mark levels
  rcases Style.ofText_cases value with ⟨style, -⟩ | style | ⟨-, ⟨style, isItself, -⟩ | ⟨style, -⟩⟩
  · rw [style]
    rfl
  · rw [style]
    rfl
  · rw [style]
    exact beq_iff_eq.mp isItself
  · rw [style]
    rfl

/-- The content of a record of texts. -/
theorem decode_record {fields : List (String × String)}
    (isText : ∀ pair ∈ fields, Scalar.ofPlain pair.1 = .string pair.1) (levels : Nat)
    (holds : (Tree.record (fields.map fun (name, value) => (name, .text value))).Holds node) :
    decode (levels + 1) trail node = pure (mapping
      (fields.map fun (name, value) => (scalar (.string name), scalar (.string value)))) := by
  obtain ⟨mark, entries, rfl, hold⟩ := holds
  have read : entries.mapM (fun (key, value) => do
      let first ← decode levels trail key
      let second ← decode levels (trail.ofKey key) value
      pure (first, second)) = (pure (fields.map fun (name, value) =>
        (scalar (.string name), scalar (.string value))) : Decoder _) := by
    induction fields generalizing entries with
    | nil =>
      obtain rfl := hold
      rfl
    | cons field fields ih =>
      obtain ⟨mark, node, rest, rfl, holds, hold⟩ := hold
      obtain ⟨isName, isText⟩ := List.forall_mem_cons.mp isText
      have others := ih isText rest hold
      rw [List.mapM_cons]
      dsimp only
      rw [decode_scalar true isName, pure_bind, decode_text holds, pure_bind, pure_bind, others]
      rfl
  rw [decode_mapping_eq, read]
  rfl

end Content

end PluginAudit.Yaml
