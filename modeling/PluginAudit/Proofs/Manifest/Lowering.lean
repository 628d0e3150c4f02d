import Mathlib.Data.List.Forall2
import PluginAudit.Proofs.Manifest.Acceptance

/-!
# What the model of a manifest keeps

The schema and the model of a manifest look at the same document in different
ways. The schema asks whether an entry has its keys, the model whether what is
under them is a text. A manifest in which the schema finds nothing can still
hold a number where a name belongs, and then the model has lost the entry.

For a manifest without findings this is the only loss
(`clean_manifest_kept_iff`): its id and its hooks are kept, and all that it
declares is kept exactly if every value is a text that the model reads as one
(`ReadsTexts`). Such losses go unnoticed (`clean_manifest_loses_entries`).
-/

set_option autoImplicit false

namespace PluginAudit

/-! ## Members -/

namespace Json.Members

variable {members : Members} {key : String}

/-- What is under a key is a text, if anything is. -/
def HoldsText (members : Members) (key : String) : Prop :=
  ∀ value, members.get? key = some value → ∃ text, value = .string text

/-- A present key has a text exactly if what is under it is one. -/
theorem exists_string?_iff (present : members.contains key = true) :
    (∃ text, members.string? key = some text) ↔ members.HoldsText key := by
  obtain ⟨value, isValue⟩ := contains_iff.mp present
  simp only [string?_eq_some, HoldsText, isValue, Option.some.injEq]
  exact ⟨fun ⟨text, same⟩ _ isOther => ⟨text, isOther ▸ same⟩, fun holds => holds value rfl⟩

end Json.Members

namespace Manifest

/-! ## What is declared and what is kept -/

/-- A model keeps all that a manifest declares: it has an id, a name and a description, the hooks
without later repetitions, and an entry for each item of the other lists, in their order. -/
structure Keeps (members : Json.Members) (manifest : Manifest) : Prop where
  id : ∃ text, manifest.id = some text
  name : ∃ text, manifest.name = some text
  description : ∃ text, manifest.description = some text
  hooks : ∃ texts : List String, declared members "hooks" = texts.map Json.string ∧
    manifest.hooks = texts.eraseDups
  routes : declared members "routes" = manifest.routes.map Json.string
  staticVariables : List.Forall₂
    (fun item kept => HasTexts item [("name", kept.name), ("id", kept.id)])
    (declared members "variables") manifest.staticVariables
  actions : List.Forall₂
    (fun item kept => HasTexts item [("label", kept.label), ("type", kept.kind.name)])
    (declared members "actions") manifest.actions
  dynamicVariables : List.Forall₂
    (fun item kept => HasTexts item [("name", kept.name), ("id", kept.id)])
    (declared members "dynamic_variables") manifest.dynamicVariables

/-- The objects in a field of a manifest hold texts under given keys, where they hold anything. -/
def EntriesHoldTexts (members : Json.Members) (field : String) (keys : List String) : Prop :=
  ∀ entry : Json.Members, .object entry ∈ declared members field → ∀ key ∈ keys, entry.HoldsText key

/-- Where the model of a manifest reads a text that it cannot do without, the manifest holds one.
-/
structure ReadsTexts (members : Json.Members) : Prop where
  name : members.HoldsText "name"
  description : members.HoldsText "description"
  routes : ∀ item ∈ declared members "routes", ∃ text, item = .string text
  staticVariables : EntriesHoldTexts members "variables" ["name", "id"]
  actions : EntriesHoldTexts members "actions" ["label", "type"]
  dynamicVariables : EntriesHoldTexts members "dynamic_variables" ["name", "id"]

/-! ## Lists that lose nothing -/

/-- A list is kept item by item exactly if no item is left out. -/
theorem forall₂_filterMap_iff {α β : Type} {keep : α → Option β} {related : α → β → Prop}
    {list : List α} (sound : ∀ item ∈ list, ∀ kept, keep item = some kept → related item kept)
    (complete : ∀ item ∈ list, ∀ kept, related item kept → ∃ kept, keep item = some kept) :
    List.Forall₂ related list (list.filterMap keep) ↔
      ∀ item ∈ list, ∃ kept, keep item = some kept := by
  constructor
  · intro pairs item among
    obtain ⟨place, bound, rfl⟩ := List.getElem_of_mem among
    obtain ⟨same, each⟩ := List.forall₂_iff_get.mp pairs
    exact complete _ among _ (each place bound (same ▸ bound))
  · intro all
    induction list with
    | nil => exact .nil
    | cons item list ih =>
      obtain ⟨kept, isKept⟩ := all item List.mem_cons_self
      rw [List.filterMap_cons_some isKept]
      refine .cons (sound item List.mem_cons_self kept isKept) (ih ?_ ?_ ?_)
      · exact fun item among => sound item (List.mem_cons_of_mem _ among)
      · exact fun item among => complete item (List.mem_cons_of_mem _ among)
      · exact fun item among => all item (List.mem_cons_of_mem _ among)

/-- What is kept of a list without repetitions of what has been seen are the first occurrences of
the rest. -/
theorem withoutRepetitions_eq (seen items : List String) :
    withoutRepetitions seen items = (items.filter fun item => !seen.contains item).eraseDups := by
  induction items generalizing seen with
  | nil => rfl
  | cons item rest ih =>
    rw [withoutRepetitions]
    split
    · next isSeen => rw [ih, List.filter_cons_of_neg (by rw [isSeen]; exact Bool.false_ne_true)]
    · next isNew =>
      rw [Bool.not_eq_true] at isNew
      rw [ih, List.filter_cons_of_pos (by rw [isNew]; rfl), List.eraseDups_cons,
        List.filter_filter]
      simp only [List.contains_cons, Bool.not_or]

theorem hooks_ofMembers (members : Json.Members) :
    (ofMembers members).hooks = (members.strings "hooks").eraseDups := by
  rw [ofMembers, withoutRepetitions_eq]
  simp

/-! ## What a clean check tells -/

/-- What a manifest without findings has: its own id, arrays in the fields for them, and the keys
that the schema asks for. -/
structure Conforms (pluginId : String) (members : Json.Members) : Prop where
  present : ∀ field ∈ requiredFields, members.contains field = true
  id : members.string? "id" = some pluginId
  arrays : ∀ field ∈ arrayFields, members.get? field = none ∨
    members.get? field = some (.array (declared members field))
  hooks : ∀ item ∈ declared members "hooks", ∃ text, item = .string text
  staticVariables : ∀ item ∈ declared members "variables", HasKeys item ["name", "id"]
  actions : ∀ item ∈ declared members "actions", HasKeys item ["label", "type"] ∧
    ∀ (entry : Json.Members) (kind : String), item = .object entry →
      entry.string? "type" = some kind → ∃ known, ActionKind.ofName? kind = some known
  dynamicVariables : ∀ item ∈ declared members "dynamic_variables", HasKeys item ["name", "id"]

theorem conforms_of_clean {layout : Layout} {rules : Rules} {pluginId : String}
    {members : Json.Members} (clean : check layout rules pluginId members = []) :
    Conforms pluginId members := by
  obtain ⟨accepted, unremarkable⟩ := check_eq_nil_iff.mp clean
  refine ⟨accepted.required, ?_, ?_, accepted.hooks, fun item among => ?_, fun item among => ?_,
    accepted.dynamicVariables⟩
  · obtain ⟨value, isValue⟩ := Json.Members.contains_iff.mp (accepted.required "id" (by simp))
    exact Json.Members.string?_eq_some.mpr (unremarkable.id value isValue ▸ isValue)
  · intro field isField
    cases found : members.get? field with
    | none => exact .inl rfl
    | some value =>
      obtain ⟨items, rfl⟩ := accepted.arrays field isField value found
      right
      rw [declared, Json.Members.array?_eq_some.mpr found]
      rfl
  · exact (accepted.staticVariables item among).1
  · refine ⟨(accepted.actions item among).1, ?_⟩
    rintro entry kind rfl isKind
    obtain ⟨known, isKnown⟩ := unremarkable.actionTypes _ among kind (by simp [isKind])
    exact ⟨known, ActionKind.ofName?_eq_some.mpr isKnown⟩

/-! ## Entries -/

/-- The entries of a field are all kept exactly if the keys that they have hold texts. `lower`
makes an entry of the model from an object, which it can where the texts are there, and `texts`
are those that the entry has from it. -/
theorem entries_kept_iff {α : Type} {items : List Json} {keys : List String}
    {lower : Json.Members → Option α} {texts : α → List (String × String)}
    (named : ∀ kept, (texts kept).map (·.1) = keys)
    (sound : ∀ entry kept, lower entry = some kept →
      ∀ pair ∈ texts kept, entry.string? pair.1 = some pair.2)
    (complete : ∀ entry : Json.Members, .object entry ∈ items →
      (∀ key ∈ keys, ∃ text, entry.string? key = some text) → ∃ kept, lower entry = some kept)
    (present : ∀ item ∈ items, HasKeys item keys) :
    List.Forall₂ (fun item kept => HasTexts item (texts kept)) items
        ((items.filterMap Json.asObject?).filterMap lower) ↔
      ∀ entry : Json.Members, .object entry ∈ items → ∀ key ∈ keys, entry.HoldsText key := by
  have lowered : ∀ item ∈ items, ∀ kept, HasTexts item (texts kept) →
      ∃ kept, item.asObject?.bind lower = some kept := by
    rintro - among kept ⟨entry, rfl, holds⟩
    refine complete entry among fun key isKey => ?_
    rw [← named kept] at isKey
    obtain ⟨pair, isPair, rfl⟩ := List.mem_map.mp isKey
    exact ⟨pair.2, holds pair isPair⟩
  have hasTexts : ∀ item ∈ items, ∀ kept, item.asObject?.bind lower = some kept →
      HasTexts item (texts kept) := by
    intro item _ kept isKept
    obtain ⟨entry, isEntry, isKept⟩ := Option.bind_eq_some_iff.mp isKept
    exact ⟨entry, asObject?_eq_some.mp isEntry, sound entry kept isKept⟩
  rw [List.filterMap_filterMap, forall₂_filterMap_iff hasTexts lowered]
  constructor
  · intro all entry among key isKey
    obtain ⟨_, same, has⟩ := present _ among
    obtain rfl := Json.object.inj same
    obtain ⟨kept, isKept⟩ := all _ among
    rw [← named kept] at isKey
    obtain ⟨pair, isPair, rfl⟩ := List.mem_map.mp isKey
    refine (Json.Members.exists_string?_iff (has _ ?_)).mp ⟨pair.2, sound _ kept isKept pair isPair⟩
    rw [← named kept]
    exact List.mem_map_of_mem isPair
  · intro hold item among
    obtain ⟨entry, rfl, has⟩ := present item among
    exact complete entry among fun key isKey =>
      (Json.Members.exists_string?_iff (has key isKey)).mpr (hold entry among key isKey)

section Kept

variable {pluginId : String} {members : Json.Members}

theorem Conforms.staticVariables_kept_iff (conforms : Conforms pluginId members) :
    List.Forall₂ (fun item kept => HasTexts item [("name", kept.name), ("id", kept.id)])
        (declared members "variables") (ofMembers members).staticVariables ↔
      EntriesHoldTexts members "variables" ["name", "id"] := by
  refine entries_kept_iff (fun _ => rfl) ?_ ?_ conforms.staticVariables
  · intro entry kept isKept
    simp only [Variable.ofMembers?, Option.bind_eq_bind, Option.bind_eq_some_iff, Option.pure_def,
      Option.some.injEq] at isKept
    obtain ⟨name, isName, id, isId, rfl⟩ := isKept
    simp [isName, isId]
  · intro entry _ holds
    obtain ⟨name, isName⟩ := holds "name" (by simp)
    obtain ⟨id, isId⟩ := holds "id" (by simp)
    simp [Variable.ofMembers?, isName, isId]

theorem Conforms.dynamicVariables_kept_iff (conforms : Conforms pluginId members) :
    List.Forall₂ (fun item kept => HasTexts item [("name", kept.name), ("id", kept.id)])
        (declared members "dynamic_variables") (ofMembers members).dynamicVariables ↔
      EntriesHoldTexts members "dynamic_variables" ["name", "id"] := by
  refine entries_kept_iff (fun _ => rfl) ?_ ?_ conforms.dynamicVariables
  · intro entry kept isKept
    simp only [DynamicVariable.ofMembers?, Option.bind_eq_bind, Option.bind_eq_some_iff,
      Option.pure_def, Option.some.injEq] at isKept
    obtain ⟨name, isName, id, isId, rfl⟩ := isKept
    simp [isName, isId]
  · intro entry _ holds
    obtain ⟨name, isName⟩ := holds "name" (by simp)
    obtain ⟨id, isId⟩ := holds "id" (by simp)
    simp [DynamicVariable.ofMembers?, isName, isId]

theorem Conforms.actions_kept_iff (conforms : Conforms pluginId members) :
    List.Forall₂ (fun item kept => HasTexts item [("label", kept.label), ("type", kept.kind.name)])
        (declared members "actions") (ofMembers members).actions ↔
      EntriesHoldTexts members "actions" ["label", "type"] := by
  refine entries_kept_iff (fun _ => rfl) ?_ ?_ fun item among => (conforms.actions item among).1
  · intro entry kept isKept
    simp only [Action.ofMembers?, Option.bind_eq_bind, Option.bind_eq_some_iff, Option.pure_def,
      Option.some.injEq] at isKept
    obtain ⟨known, ⟨kind, isKind, isKnown⟩, label, isLabel, rfl⟩ := isKept
    simp [isLabel, isKind, ActionKind.ofName?_eq_some.mp isKnown]
  · intro entry among holds
    obtain ⟨label, isLabel⟩ := holds "label" (by simp)
    obtain ⟨kind, isKind⟩ := holds "type" (by simp)
    -- The check lets no type pass that is a text but not a known one.
    obtain ⟨known, isKnown⟩ := (conforms.actions _ among).2 entry kind rfl isKind
    simp [Action.ofMembers?, isLabel, isKind, isKnown]

/-- The texts in a field are all that it declares exactly if it declares only texts. -/
theorem strings_kept_iff {field : String} :
    declared members field = (members.strings field).map Json.string ↔
      ∀ item ∈ declared members field, ∃ text, item = .string text := by
  constructor
  · intro same item among
    rw [same] at among
    obtain ⟨text, -, isText⟩ := List.mem_map.mp among
    exact ⟨text, isText.symm⟩
  · intro all
    have each : ∀ item ∈ declared members field, item.asString?.map Json.string = some item := by
      intro item among
      obtain ⟨text, rfl⟩ := all item among
      rfl
    rw [Json.Members.strings, ← declared, List.map_filterMap, List.filterMap_congr each,
      List.filterMap_some]

/-- Hooks that are all texts are kept but for their repetitions. -/
theorem Conforms.hooks_kept (conforms : Conforms pluginId members) :
    ∃ texts : List String, declared members "hooks" = texts.map Json.string ∧
      (ofMembers members).hooks = texts.eraseDups :=
  ⟨members.strings "hooks", strings_kept_iff.mpr conforms.hooks, hooks_ofMembers members⟩

/-- **A manifest without findings is kept but for values that are no texts.** Its fields for lists
are arrays, its id and its hooks are kept; and all that it declares is kept exactly if what the
model reads as a text is one. -/
theorem clean_manifest_kept_iff {layout : Layout} {rules : Rules}
    (clean : check layout rules pluginId members = []) :
    (∀ field ∈ arrayFields, members.get? field = none ∨
        members.get? field = some (.array (declared members field))) ∧
      (ofMembers members).id = some pluginId ∧
      (∃ texts : List String, declared members "hooks" = texts.map Json.string ∧
        (ofMembers members).hooks = texts.eraseDups) ∧
      (Keeps members (ofMembers members) ↔ ReadsTexts members) := by
  have conforms := conforms_of_clean clean
  have name := Json.Members.exists_string?_iff (conforms.present "name" (by decide))
  have description :=
    Json.Members.exists_string?_iff (conforms.present "description" (by decide))
  refine ⟨conforms.arrays, conforms.id, conforms.hooks_kept, ?_, ?_⟩
  · intro keeps
    exact ⟨name.mp keeps.name, description.mp keeps.description, strings_kept_iff.mp keeps.routes,
      conforms.staticVariables_kept_iff.mp keeps.staticVariables,
      conforms.actions_kept_iff.mp keeps.actions,
      conforms.dynamicVariables_kept_iff.mp keeps.dynamicVariables⟩
  · intro reads
    exact ⟨⟨pluginId, conforms.id⟩, name.mpr reads.name, description.mpr reads.description,
      conforms.hooks_kept, strings_kept_iff.mpr reads.routes,
      conforms.staticVariables_kept_iff.mpr reads.staticVariables,
      conforms.actions_kept_iff.mpr reads.actions,
      conforms.dynamicVariables_kept_iff.mpr reads.dynamicVariables⟩

end Kept

/-! ## Two manifests -/

/-- A manifest with one item in each list, which holds given values for what the model reads. -/
def sample (value : Json) : Json.Members :=
  [("id", .string "p"), ("name", value), ("description", .string ""), ("hooks", .array []),
    ("routes", .array [value]),
    ("variables", .array [.object [("name", value), ("id", .string "v")]]),
    ("actions", .array [.object [("label", value), ("type", .string "function")]]),
    ("dynamic_variables", .array [.object [("name", .string "d"), ("id", value)]])]

/-- The check looks at none of the values. -/
theorem check_sample (layout : Layout) (rules : Rules) (value : Json) :
    check layout rules "p" (sample value) = [] := by
  rfl

/-- **A manifest of texts is kept.** -/
theorem manifest_of_texts_is_kept :
    check .standard ⟨.standard, [], []⟩ "p" (sample (.string "a")) = [] ∧
      Keeps (sample (.string "a")) (ofMembers (sample (.string "a"))) := by
  have clean := check_sample .standard ⟨.standard, [], []⟩ (.string "a")
  refine ⟨clean, (clean_manifest_kept_iff clean).2.2.2.mpr ?_⟩
  constructor <;>
    simp [sample, declared, EntriesHoldTexts, Json.Members.HoldsText, Json.Members.get?,
      Json.Members.array?, Json.asArray?]

/-- **A manifest without findings can lose its name and all its entries.** -/
theorem clean_manifest_loses_entries :
    (∀ layout rules, check layout rules "p" (sample .null) = []) ∧
      (ofMembers (sample .null)).name = none ∧ (ofMembers (sample .null)).routes = [] ∧
      (ofMembers (sample .null)).staticVariables = [] ∧
      (ofMembers (sample .null)).actions = [] ∧ (ofMembers (sample .null)).dynamicVariables = [] ∧
      ¬ Keeps (sample .null) (ofMembers (sample .null)) := by
  refine ⟨fun layout rules => check_sample layout rules .null, rfl, rfl, rfl, rfl, rfl, ?_⟩
  intro keeps
  obtain ⟨text, isText⟩ := keeps.name
  cases isText

end Manifest

end PluginAudit
