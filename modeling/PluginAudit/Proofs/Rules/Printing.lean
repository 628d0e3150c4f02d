import PluginAudit.Proofs.Yaml.Typed
import PluginAudit.Rules.Document.Printer
import PluginAudit.Rules.Document.Reader

/-!
# Written rule documents are read back

Whatever texts a rule document holds, the text that it is written as holds the
same document (`ofYaml_toYaml`): a pattern that looks like a number, like
nothing, or like a mark of the notation comes back as itself, and a guarded
pattern is never taken for a plain one.
-/

set_option autoImplicit false

namespace PluginAudit.Rules

open Yaml (Content Decoder Trail Node Tree)
open Yaml.Decoder

variable {trail : Trail} {node : Node}

/-! ## What is written -/

namespace Document

/-- The lists of a document by name. -/
def lists (document : Document) : List (String × List String) :=
  [("safe_patterns", document.safePatterns), ("extensions", document.extensions),
    ("dangerous_packages", document.dangerousPackages),
    ("core_dependency_prefixes", document.corePrefixes), ("known_hooks", document.knownHooks)]

/-- The fields of a written document. -/
def fields (document : Document) : List (String × Tree) :=
  ("categories", .list (document.categories.map Group.toTree)) ::
    document.lists.map fun (name, items) => (name, .list (items.map .text))

theorem toYaml_eq (document : Document) : document.toYaml = Tree.document document.fields := rfl

end Document

/-! ## Entries -/

/-- An entry is read back. -/
theorem Entry.decode_holds {entry : Entry} (holds : entry.toTree.Holds node) (levels : Nat) :
    Entry.decode (levels + 1) trail node = pure entry := by
  cases entry with
  | plain pattern =>
    rw [Entry.decode, Content.decode_text holds, pure_bind]
    rfl
  | guarded pattern excuse =>
    have names : ∀ pair ∈ [("pattern", pattern), ("unless", excuse)],
        Yaml.Scalar.ofPlain pair.1 = .string pair.1 := by
      have fixed : Yaml.Scalar.ofPlain "pattern" = .string "pattern" ∧
          Yaml.Scalar.ofPlain "unless" = .string "unless" := by decide
      simpa using fixed
    rw [Entry.decode, Content.decode_record names levels holds, pure_bind]
    rfl

/-! ## Categories -/

/-- A category is read back. -/
theorem Group.decode_holds {group : Group} (holds : group.toTree.Holds node) (levels : Nat) :
    Group.decode (levels + 3) trail node = pure group := by
  unfold decode
  refine record_holds {} (⟨some group.name, some group.patterns⟩ : Draft) ?_
    (.cons ⟨some group.name, none⟩ (fun trail node holds => ?_)
      (.cons _ (fun trail node holds => ?_) .nil)) ?_ _ holds
  · simp
  · simp only [Draft.field, text_holds holds]
    rfl
  · have read : listOf Entry.decode (levels + 2) trail node = pure group.patterns :=
      listOf_holds (fun entry _ trail node holds => Entry.decode_holds holds levels) holds
    simp only [Draft.field, read]
    rfl
  · rfl

/-! ## Names of fields -/

theorem Entry.toTree_named (entry : Entry) : entry.toTree.Named := by
  cases entry with
  | plain pattern => trivial
  | guarded pattern excuse => exact ⟨by decide, trivial, by decide, trivial, trivial⟩

theorem Group.toTree_named (group : Group) : group.toTree.Named :=
  ⟨by decide, trivial, by decide, Tree.itemsNamed_map Entry.toTree_named group.patterns, trivial⟩

/-- The fields of a written rule document have names that need no quotes. -/
theorem Document.fields_named (document : Document) : Tree.FieldsNamed document.fields := by
  have text (value : String) : (Tree.text value).Named := trivial
  exact ⟨by decide, Tree.itemsNamed_map Group.toTree_named _, by decide, Tree.itemsNamed_map text _,
    by decide, Tree.itemsNamed_map text _, by decide, Tree.itemsNamed_map text _, by decide,
    Tree.itemsNamed_map text _, by decide, Tree.itemsNamed_map text _, trivial⟩

/-! ## Documents -/

namespace Document

theorem takes_lists (levels : Nat) (draft : Draft) {lists : List (String × List String)}
    (apart : ∀ pair ∈ lists, pair.1 ≠ "categories")
    (fresh : ((draft.lists ++ lists).map Prod.fst).Nodup) :
    Takes Draft.field (levels + 1) draft
      (lists.map fun (name, items) => (name, .list (items.map .text)))
      { draft with lists := draft.lists ++ lists } := by
  induction lists generalizing draft with
  | nil => simpa using Takes.nil
  | cons pair lists ih =>
    obtain ⟨name, items⟩ := pair
    obtain ⟨isList, apart⟩ := List.forall_mem_cons.mp apart
    -- No name is met twice, so no field is refused as a second one.
    have unread : draft.lists.lookup name = none := by
      rw [List.map_append, List.nodup_append] at fresh
      refine List.lookup_eq_none_iff.mpr fun pair among => bne_iff_ne.mpr fun same => ?_
      exact fresh.2.2 pair.1 (List.mem_map_of_mem among) name List.mem_cons_self same.symm
    have others := ih { draft with lists := draft.lists ++ [(name, items)] } apart
      (by simpa using fresh)
    refine .cons { draft with lists := draft.lists ++ [(name, items)] }
      (fun trail node holds => ?_) (by simpa using others)
    have read : listOf (fun _ trail node => text "a string" trail node) (levels + 1) trail node =
        pure items :=
      listOf_holds (fun _ _ trail node holds => text_holds holds _) holds
    have isOther : (name == "categories") = false := by simpa using isList
    simp only [Draft.field, isOther, unread, read]
    rfl

/-- A rule document is read back. -/
theorem decode_holds {document : Document} (holds : (Tree.record document.fields).Holds node)
    (levels : Nat) : decode (levels + 6) trail node = pure document := by
  unfold decode
  refine record_holds {} (⟨some document.categories, document.lists⟩ : Draft) ?_
    (.cons ⟨some document.categories, []⟩ (fun trail node holds => ?_)
      (takes_lists _ _ ?_ ?_)) ?_ _ holds
  · simp [listNames]
  · have read : listOf Group.decode (levels + 5) trail node = pure document.categories :=
      listOf_holds (fun group _ trail node holds => Group.decode_holds holds _) holds
    simp only [Draft.field, read]
    rfl
  · simp
  · simp
  · rfl

/-- **A written rule document holds the document.** -/
theorem ofYaml_toYaml (document : Document) : ofYaml document.toYaml = .ok document := by
  have some : document.fields ≠ [] := List.cons_ne_nil _ _
  obtain ⟨root, isRoot, holds⟩ := Yaml.ofText_document some document.fields_named
  have read : decode Yaml.mostLevels .root root = pure document := decode_holds holds 122
  rw [ofYaml, toYaml_eq, Yaml.decode, isRoot]
  simp only [read]
  rfl

end Document

end PluginAudit.Rules
