import Mathlib.Data.List.Forall2
import PluginAudit.Rules.Basic

/-!
# Rules that are made of a document

Reading a document is reading each of its patterns by itself. So the rules of a
document hold, category by category, what each entry is read as
(`mem_dangers_iff`, `mem_safe_iff`), and a document has rules exactly if no
category is empty and every pattern can be read (`exists_ofDocument_iff`).
Neither depends on the order of patterns.
-/

set_option autoImplicit false

namespace PluginAudit.Rules

/-! ## Items read one by one -/

section Reading

variable {ε α β : Type} {read : α → Except ε β} {items : List α} {results : List β}

theorem mapM_ok_iff :
    items.mapM read = .ok results ↔
      List.Forall₂ (fun item result => read item = .ok result) items results := by
  induction items generalizing results with
  | nil => cases results <;> simp [pure, Except.pure]
  | cons item items ih =>
    rw [List.mapM_cons]
    cases first : read item with
    | error fault => cases results <;> simp [bind, Except.bind, first]
    | ok result =>
      cases others : items.mapM read with
      | error fault => cases results <;> simp [bind, Except.bind, first, ← ih, others]
      | ok more => cases results <;>
        simp [bind, Except.bind, pure, Except.pure, first, ← ih, others]

/-- What has been read is what one of the items is read as. -/
theorem mem_of_mapM_ok (ran : items.mapM read = .ok results) {result : β} :
    result ∈ results ↔ ∃ item ∈ items, read item = .ok result := by
  induction mapM_ok_iff.mp ran with
  | nil => simp
  | @cons item first items results isFirst each ih =>
    rw [List.mem_cons, ih (mapM_ok_iff.mpr each)]
    simp [isFirst, eq_comm]

/-- Items can be read where each can. -/
theorem exists_mapM_ok_iff :
    (∃ results, items.mapM read = .ok results) ↔
      ∀ item ∈ items, ∃ result, read item = .ok result := by
  constructor
  · rintro ⟨results, ran⟩ item among
    obtain ⟨place, bound, rfl⟩ := List.getElem_of_mem among
    obtain ⟨same, each⟩ := List.forall₂_iff_get.mp (mapM_ok_iff.mp ran)
    exact ⟨_, each place bound (same ▸ bound)⟩
  · intro all
    induction items with
    | nil => exact ⟨[], rfl⟩
    | cons item items ih =>
      obtain ⟨result, isFirst⟩ := all item List.mem_cons_self
      obtain ⟨results, ran⟩ := ih fun item among => all item (List.mem_cons_of_mem _ among)
      exact ⟨result :: results, mapM_ok_iff.mpr (.cons isFirst (mapM_ok_iff.mp ran))⟩

end Reading

/-! ## Categories -/

theorem readGroup_ok_iff {group : Group} {category : Category} :
    readGroup group = .ok category ↔
      group.patterns ≠ [] ∧ category.name = group.name ∧
        group.patterns.mapM readEntry = .ok category.dangers := by
  obtain ⟨name, dangers⟩ := category
  rw [readGroup]
  split
  · next empty => simp [List.isEmpty_iff.mp empty]
  · next written =>
    rw [List.isEmpty_iff] at written
    cases group.patterns.mapM readEntry with
    | error fault => simp [bind, Except.bind]
    | ok found => simp [bind, Except.bind, pure, Except.pure, written, eq_comm]

/-- The dangerous patterns of a category are what the entries of its group are read as. -/
theorem mem_dangers_iff {group : Group} {category : Category}
    (isRead : readGroup group = .ok category) {danger : Danger} :
    danger ∈ category.dangers ↔ ∃ entry ∈ group.patterns, readEntry entry = .ok danger :=
  mem_of_mapM_ok (readGroup_ok_iff.mp isRead).2.2

/-- A group that has entries can be read where each of them can. -/
theorem exists_readGroup_iff {group : Group} :
    (∃ category, readGroup group = .ok category) ↔
      group.patterns ≠ [] ∧ ∀ entry ∈ group.patterns, ∃ danger, readEntry entry = .ok danger := by
  rw [← exists_mapM_ok_iff]
  constructor
  · rintro ⟨category, isRead⟩
    obtain ⟨written, -, dangers⟩ := readGroup_ok_iff.mp isRead
    exact ⟨written, _, dangers⟩
  · rintro ⟨written, dangers, areRead⟩
    exact ⟨⟨group.name, dangers⟩, readGroup_ok_iff.mpr ⟨written, rfl, areRead⟩⟩

/-! ## Documents -/

section Document

variable {document : Document} {rules : Rules}

theorem ofDocument_ok_iff :
    ofDocument document = .ok rules ↔
      rules.document = document ∧ document.categories.mapM readGroup = .ok rules.categories ∧
        document.safePatterns.mapM readPattern = .ok rules.safe := by
  obtain ⟨source, categories, safe⟩ := rules
  rw [ofDocument]
  cases document.categories.mapM readGroup with
  | error fault => simp [bind, Except.bind]
  | ok found =>
    cases document.safePatterns.mapM readPattern with
    | error fault => simp [bind, Except.bind]
    | ok patterns => simp [bind, Except.bind, pure, Except.pure, eq_comm]

/-- The safe patterns of rules are what those of the document are read as. -/
theorem mem_safe_iff (compiles : ofDocument document = .ok rules) {pattern : Pattern} :
    pattern ∈ rules.safe ↔ ∃ source ∈ document.safePatterns, readPattern source = .ok pattern :=
  mem_of_mapM_ok (ofDocument_ok_iff.mp compiles).2.2

/-- **A document has rules** exactly if none of its categories is empty and each pattern can be
read. -/
theorem exists_ofDocument_iff :
    (∃ rules, ofDocument document = .ok rules) ↔
      (∀ group ∈ document.categories,
          group.patterns ≠ [] ∧ ∀ entry ∈ group.patterns, ∃ danger, readEntry entry = .ok danger) ∧
        ∀ source ∈ document.safePatterns, ∃ pattern, readPattern source = .ok pattern := by
  have categories : (∀ group ∈ document.categories, group.patterns ≠ [] ∧
        ∀ entry ∈ group.patterns, ∃ danger, readEntry entry = .ok danger) ↔
      ∃ categories, document.categories.mapM readGroup = .ok categories := by
    rw [exists_mapM_ok_iff]
    exact forall₂_congr fun group _ => exists_readGroup_iff.symm
  rw [categories, ← exists_mapM_ok_iff]
  constructor
  · rintro ⟨rules, compiles⟩
    obtain ⟨-, areRead, isRead⟩ := ofDocument_ok_iff.mp compiles
    exact ⟨⟨_, areRead⟩, _, isRead⟩
  · rintro ⟨⟨categories, areRead⟩, safe, isRead⟩
    exact ⟨⟨document, categories, safe⟩, ofDocument_ok_iff.mpr ⟨rfl, areRead, isRead⟩⟩

/-- What is computed of the rules of a document holds of them. -/
theorem exists_of_computed {holds : Rules → Bool}
    (computed : (ofDocument document).toOption.any holds = true) :
    ∃ rules, ofDocument document = .ok rules ∧ holds rules = true := by
  generalize ofDocument document = read at computed
  cases read with
  | error fault => cases computed
  | ok rules => exact ⟨rules, rfl, computed⟩

end Document

end PluginAudit.Rules
