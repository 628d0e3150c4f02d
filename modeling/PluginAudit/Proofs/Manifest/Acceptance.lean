import PluginAudit.Manifest.Schema
import PluginAudit.Proofs.Lookup

/-!
# What the schema accepts

The schema of manifests is told without the check: which keys a manifest and its
entries have, and of which kind the values are that matter (`Accepted`), and
which names in it are known and agree with one another (`Unremarkable`).

The check finds no issue exactly in a manifest that is accepted, and it warns of
nothing exactly in one that is unremarkable (`schema_check_exact`). Neither
depends on the other: an accepted manifest may be warned about, and a manifest
with issues may be unremarkable.
-/

set_option autoImplicit false

namespace PluginAudit

/-! ## Members -/

namespace Json.Members

variable {members : Members} {key : String}

theorem contains_iff : members.contains key = true ↔ ∃ value, members.get? key = some value := by
  simp only [contains, get?, Option.map_eq_some_iff, List.any_eq_true]
  constructor
  · rintro ⟨member, among, isKey⟩
    have isThere : (members.find? (·.1 == key)).isSome = true :=
      List.find?_isSome.mpr ⟨member, among, isKey⟩
    obtain ⟨found, isFound⟩ := Option.isSome_iff_exists.mp isThere
    exact ⟨found.2, found, isFound, rfl⟩
  · rintro ⟨-, found, isFound, -⟩
    have isKey := List.find?_some isFound
    exact ⟨found, List.mem_of_find?_eq_some isFound, isKey⟩

theorem string?_eq_some {text : String} :
    members.string? key = some text ↔ members.get? key = some (.string text) := by
  rw [string?, Option.bind_eq_some_iff]
  constructor
  · rintro ⟨value, isValue, isText⟩
    cases value <;> cases isText
    exact isValue
  · intro isText
    exact ⟨_, isText, rfl⟩

theorem array?_eq_some {items : List Json} :
    members.array? key = some items ↔ members.get? key = some (.array items) := by
  rw [array?, Option.bind_eq_some_iff]
  constructor
  · rintro ⟨value, isValue, isArray⟩
    cases value <;> cases isArray
    exact isValue
  · intro isArray
    exact ⟨_, isArray, rfl⟩

end Json.Members

namespace Manifest

theorem asObject?_eq_some {item : Json} {entry : Json.Members} :
    item.asObject? = some entry ↔ item = .object entry := by
  cases item <;> simp [Json.asObject?]

theorem asString?_eq_some {item : Json} {text : String} :
    item.asString? = some text ↔ item = .string text := by
  cases item <;> simp [Json.asString?]

theorem asArray?_eq_some {item : Json} {items : List Json} :
    item.asArray? = some items ↔ item = .array items := by
  cases item <;> simp [Json.asArray?]

/-- The texts of some items are those that items are. -/
theorem mem_filterMap_asString? {items : List Json} {text : String} :
    text ∈ items.filterMap Json.asString? ↔ .string text ∈ items := by
  simp [List.mem_filterMap, asString?_eq_some]

/-! ## The schema -/

/-- The items that a manifest declares in a field, none where there is no such field. -/
def declared (members : Json.Members) (field : String) : List Json :=
  (members.array? field).getD []

/-- An item is an object that has given keys. -/
def HasKeys (item : Json) (keys : List String) : Prop :=
  ∃ entry : Json.Members, item = .object entry ∧ ∀ key ∈ keys, entry.contains key = true

/-- An item is an object with given texts under given keys. -/
def HasTexts (item : Json) (texts : List (String × String)) : Prop :=
  ∃ entry : Json.Members, item = .object entry ∧ ∀ pair ∈ texts, entry.string? pair.1 = some pair.2

/-- A variable has options to select from. -/
def HasOptions (item : Json) : Prop :=
  ∃ (entry : Json.Members) (options : List Json), item = .object entry ∧
    entry.get? "options" = some (.array options) ∧ options ≠ []

/-- A manifest has all that the schema asks for: the fields that every manifest has, arrays in the
fields for lists, and in these lists items with the keys that they need. -/
structure Accepted (members : Json.Members) : Prop where
  required : ∀ field ∈ ["id", "name", "description", "hooks"], members.contains field = true
  arrays : ∀ field ∈ ["hooks", "variables", "routes", "actions", "dynamic_variables"],
    ∀ value, members.get? field = some value → ∃ items, value = .array items
  hooks : ∀ item ∈ declared members "hooks", ∃ text, item = .string text
  staticVariables : ∀ item ∈ declared members "variables",
    HasKeys item ["name", "id"] ∧ (HasTexts item [("type", "select")] → HasOptions item)
  actions : ∀ item ∈ declared members "actions", HasKeys item ["label", "type"] ∧
    (HasTexts item [("type", "popup")] ∨ HasTexts item [("type", "redirect")] →
      HasKeys item ["route"])
  dynamicVariables : ∀ item ∈ declared members "dynamic_variables", HasKeys item ["name", "id"]

/-- The names in a manifest are known and agree: its id is that of the plugin, the host
understands its hooks, the types of its entries are types of them, no two variables have an id in
common, and its actions lead to routes that it declares, if it declares any. -/
structure Unremarkable (rules : Rules) (pluginId : String) (members : Json.Members) : Prop where
  id : ∀ value, members.get? "id" = some value → value = .string pluginId
  hooks : ∀ text : String, .string text ∈ declared members "hooks" →
    text ∈ rules.document.knownHooks
  variableTypes : ∀ item ∈ declared members "variables", ∀ kind,
    HasTexts item [("type", kind)] → ∃ known : VariableKind, known.name = kind
  actionTypes : ∀ item ∈ declared members "actions", ∀ kind,
    HasTexts item [("type", kind)] → ∃ known : ActionKind, known.name = kind
  displayTypes : ∀ item ∈ declared members "dynamic_variables", ∀ kind,
    HasTexts item [("type", kind)] → ∃ known : DisplayKind, known.name = kind
  ids : (declared members "variables").Pairwise fun first second =>
    ∀ id, HasTexts first [("id", id)] → ¬ HasTexts second [("id", id)]
  routes : ∀ routes, members.get? "routes" = some (.array routes) →
    ∀ item ∈ declared members "actions", ∀ kind route,
      HasTexts item [("type", kind), ("route", route)] → .string route ∈ routes

/-! ## Items -/

@[simp] theorem hasKeys_object {entry : Json.Members} {keys : List String} :
    HasKeys (.object entry) keys ↔ ∀ key ∈ keys, entry.contains key = true := by
  simp [HasKeys]

@[simp] theorem hasTexts_object {entry : Json.Members} {texts : List (String × String)} :
    HasTexts (.object entry) texts ↔ ∀ pair ∈ texts, entry.string? pair.1 = some pair.2 := by
  simp [HasTexts]

theorem not_hasKeys {item : Json} {keys : List String} (noObject : item.asObject? = none) :
    ¬ HasKeys item keys := by
  rintro ⟨entry, rfl, -⟩
  cases noObject

theorem not_hasTexts {item : Json} {texts : List (String × String)}
    (noObject : item.asObject? = none) : ¬ HasTexts item texts := by
  rintro ⟨entry, rfl, -⟩
  cases noObject

@[simp] theorem hasOptions_object {entry : Json.Members} :
    HasOptions (.object entry) ↔ ((entry.array? "options").getD []).isEmpty = false := by
  simp only [HasOptions, Json.object.injEq, ← Json.Members.array?_eq_some]
  cases isArray : entry.array? "options" with
  | none => simp [isArray]
  | some options => cases options <;> simp [isArray]

/-- A declared item is one of an array in the field. -/
theorem mem_declared_iff {members : Json.Members} {field : String} {item : Json} :
    item ∈ declared members field ↔
      ∃ items, members.get? field = some (.array items) ∧ item ∈ items := by
  simp only [declared, ← Json.Members.array?_eq_some]
  cases members.array? field <;> simp

/-! ## Departures of one severity -/

/-- Among departures there is none of a severity. -/
def Lacks (severity : Severity) (departures : List Departure) : Prop :=
  ∀ departure ∈ departures, departure.severity ≠ severity

section Lacks

variable {severity : Severity}

@[simp] theorem lacks_nil : Lacks severity [] := List.forall_mem_nil _

@[simp] theorem lacks_cons {departure : Departure} {rest : List Departure} :
    Lacks severity (departure :: rest) ↔ departure.severity ≠ severity ∧ Lacks severity rest :=
  List.forall_mem_cons

@[simp] theorem lacks_append {first second : List Departure} :
    Lacks severity (first ++ second) ↔ Lacks severity first ∧ Lacks severity second :=
  List.forall_mem_append

@[simp] theorem lacks_when {condition : Bool} {departure : Departure} :
    Lacks severity (when condition departure) ↔
      (departure.severity = severity → condition = false) := by
  cases condition <;> simp [when]

@[simp] theorem lacks_map_issue {code : String} {items : List String} {message : String → String} :
    Lacks severity (items.map fun item => .issue code (message item)) ↔
      (severity = .issue → items = []) := by
  simp only [Lacks, List.forall_mem_map, Departure.issue, ne_eq, List.eq_nil_iff_forall_not_mem]
  exact ⟨fun all same item among => all item among same.symm,
    fun none item among same => none same.symm item among⟩

@[simp] theorem severity_issue (code message : String) :
    (Departure.issue code message).severity = .issue := rfl

@[simp] theorem severity_warning (code message : String) :
    (Departure.warning code message).severity = .warning := rfl

@[simp] theorem lacks_missingKeys {code what place : String} {keys : List String}
    {entry : Json.Members} :
    Lacks severity (missingKeys code what place keys entry) ↔
      (severity = .issue → ∀ key ∈ keys, entry.contains key = true) := by
  simp [missingKeys, List.filter_eq_nil_iff]

/-- There are no departures exactly if there is neither an issue nor a warning. -/
theorem eq_nil_iff_lacks {departures : List Departure} :
    departures = [] ↔ Lacks .issue departures ∧ Lacks .warning departures := by
  constructor
  · rintro rfl
    exact ⟨lacks_nil, lacks_nil⟩
  · rintro ⟨noIssue, noWarning⟩
    refine List.eq_nil_iff_forall_not_mem.mpr fun departure among => ?_
    cases isOne : departure.severity with
    | issue => exact noIssue departure among isOne
    | warning => exact noWarning departure among isOne

/-- What holds of the departures of items holds of those of each item at its place. -/
theorem forall_mem_mapIdx_flatten {holds : Departure → Prop} {items : List Json}
    {check : Nat → Json → List Departure} :
    (∀ departure ∈ (items.mapIdx check).flatten, holds departure) ↔
      ∀ place item, items[place]? = some item →
        ∀ departure ∈ check place item, holds departure := by
  simp only [List.mem_flatten, List.mem_mapIdx]
  constructor
  · intro all place item isItem departure among
    obtain ⟨bound, rfl⟩ := List.getElem?_eq_some_iff.mp isItem
    exact all departure ⟨_, ⟨place, bound, rfl⟩, among⟩
  · rintro each departure ⟨-, ⟨place, bound, rfl⟩, among⟩
    exact each place _ (List.getElem?_eq_getElem bound) departure among

/-- Where what is asked of an item does not depend on its place, it is asked of all items. -/
theorem forall_mem_mapIdx_flatten_iff {holds : Departure → Prop} {items : List Json}
    {check : Nat → Json → List Departure} {asked : Json → Prop}
    (each : ∀ place item, (∀ departure ∈ check place item, holds departure) ↔ asked item) :
    (∀ departure ∈ (items.mapIdx check).flatten, holds departure) ↔
      ∀ item ∈ items, asked item := by
  rw [forall_mem_mapIdx_flatten]
  constructor
  · intro all item among
    obtain ⟨place, isItem⟩ := List.mem_iff_getElem?.mp among
    exact (each place item).mp (all place item isItem)
  · intro all place item isItem
    exact (each place item).mpr (all item (List.mem_of_getElem? isItem))

/-- A check of each item lacks a severity where the check of every item at its place does. -/
theorem lacks_mapIdx_flatten {items : List Json} {check : Nat → Json → List Departure} :
    Lacks severity (items.mapIdx check).flatten ↔
      ∀ place item, items[place]? = some item → Lacks severity (check place item) :=
  forall_mem_mapIdx_flatten

/-- A severity that checks of items lack irrespective of their places is lacking in all of them.
-/
theorem lacks_mapIdx_flatten_iff {items : List Json} {check : Nat → Json → List Departure}
    {holds : Json → Prop} (each : ∀ place item, Lacks severity (check place item) ↔ holds item) :
    Lacks severity (items.mapIdx check).flatten ↔ ∀ item ∈ items, holds item :=
  forall_mem_mapIdx_flatten_iff each

theorem lacks_eachItem_iff {items : List Json} (check : String → Json → List Departure)
    {holds : Json → Prop} (each : ∀ place item, Lacks severity (check place item) ↔ holds item) :
    Lacks severity (eachItem items check) ↔ ∀ item ∈ items, holds item :=
  lacks_mapIdx_flatten_iff fun place item => each (toString place) item

end Lacks

/-! ## Types -/

section Types

variable {α : Type} {named : List (String × α)} {name : α → String} {kind : String}

/-- A list that names each of some types once knows a type by its name. -/
theorem lookup_eq_some_iff_name (sound : ∀ pair ∈ named, name pair.2 = pair.1)
    (complete : ∀ known, named.lookup (name known) = some known) {known : α} :
    named.lookup kind = some known ↔ name known = kind := by
  constructor
  · intro found
    obtain ⟨before, after, split, -⟩ := List.lookup_eq_some_iff.mp found
    exact sound (kind, known) (by simp [split])
  · rintro rfl
    exact complete known

end Types

theorem VariableKind.ofName?_eq_some {kind : String} {known : VariableKind} :
    VariableKind.ofName? kind = some known ↔ known.name = kind :=
  lookup_eq_some_iff_name (by decide) (by rintro ⟨⟩ <;> decide)

theorem ActionKind.ofName?_eq_some {kind : String} {known : ActionKind} :
    ActionKind.ofName? kind = some known ↔ known.name = kind :=
  lookup_eq_some_iff_name (by decide) (by rintro ⟨⟩ <;> decide)

theorem DisplayKind.ofName?_eq_some {kind : String} {known : DisplayKind} :
    DisplayKind.ofName? kind = some known ↔ known.name = kind :=
  lookup_eq_some_iff_name (by decide) (by rintro ⟨⟩ <;> decide)

/-! ## Departures of items -/

section Items

variable {place : String} {item : Json}

theorem lacks_issue_checkHook {rules : Rules} :
    Lacks .issue (checkHook rules place item) ↔ ∃ text, item = .string text := by
  cases item <;> simp [checkHook, Json.asString?]

theorem lacks_warning_checkHook {rules : Rules} :
    Lacks .warning (checkHook rules place item) ↔
      ∀ text, item = .string text → text ∈ rules.document.knownHooks := by
  cases item <;> simp [checkHook, Json.asString?, Rules.knowsHook]

theorem lacks_issue_checkVariable {repeated : Bool} :
    Lacks .issue (checkVariable repeated place item) ↔
      HasKeys item ["name", "id"] ∧ (HasTexts item [("type", "select")] → HasOptions item) := by
  rw [checkVariable]
  cases isObject : item.asObject? with
  | none => simp [not_hasKeys isObject]
  | some entry =>
    obtain rfl := asObject?_eq_some.mp isObject
    dsimp only
    cases isId : entry.string? "id" <;> cases isKind : entry.string? "type" <;> simp [isKind]

theorem lacks_warning_checkVariable {repeated : Bool} :
    Lacks .warning (checkVariable repeated place item) ↔
      (∀ kind, HasTexts item [("type", kind)] → ∃ known : VariableKind, known.name = kind) ∧
        (∀ id, HasTexts item [("id", id)] → repeated = false) := by
  rw [checkVariable]
  cases isObject : item.asObject? with
  | none => simp [not_hasTexts isObject]
  | some entry =>
    obtain rfl := asObject?_eq_some.mp isObject
    dsimp only
    cases isId : entry.string? "id" <;> cases isKind : entry.string? "type" <;>
      simp [isId, isKind, Option.isSome_iff_exists, VariableKind.ofName?_eq_some, and_comm]

/-- The names of the types of actions that lead to a route. -/
theorem leadsToRoute_iff {kind : String} :
    (∃ known, ActionKind.ofName? kind = some known ∧ known.needsRoute = true) ↔
      kind = "popup" ∨ kind = "redirect" := by
  simp only [ActionKind.ofName?_eq_some]
  constructor
  · rintro ⟨_ | _ | _, rfl, leads⟩
    · exact .inl rfl
    · exact .inr rfl
    · cases leads
  · rintro (rfl | rfl)
    · exact ⟨.popup, rfl, rfl⟩
    · exact ⟨.redirect, rfl, rfl⟩

theorem lacks_issue_checkAction {routes : Option (List String)} :
    Lacks .issue (checkAction routes place item) ↔ HasKeys item ["label", "type"] ∧
      (HasTexts item [("type", "popup")] ∨ HasTexts item [("type", "redirect")] →
        HasKeys item ["route"]) := by
  rw [checkAction]
  cases isObject : item.asObject? with
  | none => simp [not_hasKeys isObject]
  | some entry =>
    obtain rfl := asObject?_eq_some.mp isObject
    dsimp only
    cases isKind : entry.string? "type" with
    | none => simp [isKind]
    | some kind =>
      cases entry.string? "route" <;> cases routes <;>
        cases isKnown : ActionKind.ofName? kind <;>
        simp [isKind, isKnown, ← leadsToRoute_iff]

theorem lacks_warning_checkAction {routes : Option (List String)} :
    Lacks .warning (checkAction routes place item) ↔
      (∀ kind, HasTexts item [("type", kind)] → ∃ known : ActionKind, known.name = kind) ∧
        ∀ kind route, HasTexts item [("type", kind), ("route", route)] →
          ∀ declared, routes = some declared → route ∈ declared := by
  rw [checkAction]
  cases isObject : item.asObject? with
  | none => simp [not_hasTexts isObject]
  | some entry =>
    obtain rfl := asObject?_eq_some.mp isObject
    dsimp only
    cases isKind : entry.string? "type" with
    | none => simp [isKind]
    | some kind =>
      cases isRoute : entry.string? "route" <;> cases routes <;>
        cases isKnown : ActionKind.ofName? kind <;> 
        simp [isKind, isRoute, ← ActionKind.ofName?_eq_some, isKnown]

theorem lacks_issue_checkDynamicVariable :
    Lacks .issue (checkDynamicVariable place item) ↔ HasKeys item ["name", "id"] := by
  rw [checkDynamicVariable]
  cases isObject : item.asObject? with
  | none => simp [not_hasKeys isObject]
  | some entry =>
    obtain rfl := asObject?_eq_some.mp isObject
    dsimp only
    cases isKind : entry.string? "type" <;> simp

theorem lacks_warning_checkDynamicVariable :
    Lacks .warning (checkDynamicVariable place item) ↔
      ∀ kind, HasTexts item [("type", kind)] → ∃ known : DisplayKind, known.name = kind := by
  rw [checkDynamicVariable]
  cases isObject : item.asObject? with
  | none => simp [not_hasTexts isObject]
  | some entry =>
    obtain rfl := asObject?_eq_some.mp isObject
    dsimp only
    cases isKind : entry.string? "type" <;>
      simp [isKind, Option.isSome_iff_exists, DisplayKind.ofName?_eq_some]

end Items

/-! ## Departures of a manifest -/

section Whole

variable {layout : Layout} {rules : Rules} {file pluginId : String} {members : Json.Members}

theorem lacks_issue_checkFields :
    Lacks .issue (checkFields file pluginId members) ↔
      (∀ field ∈ requiredFields, members.contains field = true) ∧
        ∀ field ∈ arrayFields, ∀ value, members.get? field = some value →
          ∃ items, value = .array items := by
  have isArray : ∀ found : Option Json, found.any (fun value => value.asArray?.isNone) = false ↔
      ∀ value, found = some value → ∃ items, value = .array items := by
    rintro (_ | value)
    · simp
    · simp [Option.isSome_iff_exists, asArray?_eq_some]
  rw [checkFields, lacks_append, lacks_append]
  cases members.get? "id" <;> simp [List.filter_eq_nil_iff, isArray]

theorem lacks_warning_checkFields :
    Lacks .warning (checkFields file pluginId members) ↔
      ∀ value, members.get? "id" = some value → value = .string pluginId := by
  rw [checkFields, lacks_append, lacks_append]
  cases isId : members.get? "id" <;> simp [asString?_eq_some]

theorem entryId?_eq_some {item : Json} {id : String} :
    entryId? item = some id ↔ HasTexts item [("id", id)] := by
  rw [entryId?, Option.bind_eq_some_iff]
  simp [HasTexts, asObject?_eq_some]

/-- An id is repeated where an item before has the same. -/
theorem repeated_eq_false_iff {items : List Json} {place : Nat} {item : Json} :
    ((entryId? item).any fun id => ((items.take place).filterMap entryId?).contains id) = false ↔
      ∀ id, HasTexts item [("id", id)] →
        ∀ earlier ∈ items.take place, ¬ HasTexts earlier [("id", id)] := by
  simp only [← entryId?_eq_some]
  cases entryId? item <;> simp

theorem lacks_issue_checkVariables {items : List Json} :
    Lacks .issue (checkVariables items) ↔ ∀ item ∈ items,
      HasKeys item ["name", "id"] ∧ (HasTexts item [("type", "select")] → HasOptions item) :=
  lacks_mapIdx_flatten_iff fun _ _ => lacks_issue_checkVariable

theorem lacks_warning_checkVariables {items : List Json} :
    Lacks .warning (checkVariables items) ↔
      (∀ item ∈ items, ∀ kind, HasTexts item [("type", kind)] →
          ∃ known : VariableKind, known.name = kind) ∧
        items.Pairwise fun first second =>
          ∀ id, HasTexts first [("id", id)] → ¬ HasTexts second [("id", id)] := by
  rw [checkVariables, lacks_mapIdx_flatten]
  simp only [lacks_warning_checkVariable, repeated_eq_false_iff]
  constructor
  · intro each
    refine ⟨fun item among => ?_, List.pairwise_iff_getElem.mpr ?_⟩
    · obtain ⟨place, isItem⟩ := List.mem_iff_getElem?.mp among
      exact (each place item isItem).1
    · intro place other bound bound' before id isFirst isSecond
      refine (each other _ (List.getElem?_eq_getElem bound')).2 id isSecond id isSecond _ ?_ isFirst
      exact List.mem_take_iff_getElem.mpr ⟨place, by omega, rfl⟩
  · rintro ⟨types, apart⟩ place item isItem
    refine ⟨types item (List.mem_of_getElem? isItem), ?_⟩
    intro _ _ id isId earlier isEarlier isEarlierId
    obtain ⟨other, before, rfl⟩ := List.mem_take_iff_getElem.mp isEarlier
    obtain ⟨bound, rfl⟩ := List.getElem?_eq_some_iff.mp isItem
    exact List.pairwise_iff_getElem.mp apart other place (by omega) bound (by omega) id
      isEarlierId isId

/-- The routes of actions are declared, if any are. -/
theorem routes_declared_iff {items : List Json} :
    (∀ item ∈ items, ∀ kind route, HasTexts item [("type", kind), ("route", route)] →
        ∀ routes, (members.array? "routes").map (List.filterMap Json.asString?) = some routes →
          route ∈ routes) ↔
      ∀ routes, members.get? "routes" = some (.array routes) →
        ∀ item ∈ items, ∀ kind route, HasTexts item [("type", kind), ("route", route)] →
          .string route ∈ routes := by
  simp only [← Json.Members.array?_eq_some, ← mem_filterMap_asString?]
  cases members.array? "routes" with
  | none => simp
  | some routes =>
    simp only [Option.map_some, Option.some.injEq, forall_eq']

theorem departures_eq : departures rules file pluginId members =
    checkFields file pluginId members ++
      eachItem (declared members "hooks") (checkHook rules) ++
      checkVariables (declared members "variables") ++
      eachItem (declared members "actions")
        (checkAction ((members.array? "routes").map (List.filterMap Json.asString?))) ++
      eachItem (declared members "dynamic_variables") checkDynamicVariable := rfl

theorem lacks_issue_departures :
    Lacks .issue (departures rules file pluginId members) ↔ Accepted members := by
  rw [departures_eq, lacks_append, lacks_append, lacks_append, lacks_append,
    lacks_issue_checkFields, lacks_issue_checkVariables,
    lacks_eachItem_iff (checkHook rules) fun _ _ => lacks_issue_checkHook,
    lacks_eachItem_iff (checkAction _) fun _ _ => lacks_issue_checkAction,
    lacks_eachItem_iff checkDynamicVariable fun _ _ => lacks_issue_checkDynamicVariable]
  constructor
  · rintro ⟨⟨⟨⟨⟨required, arrays⟩, hooks⟩, staticVariables⟩, actions⟩, dynamicVariables⟩
    exact ⟨required, arrays, hooks, staticVariables, actions, dynamicVariables⟩
  · rintro ⟨required, arrays, hooks, staticVariables, actions, dynamicVariables⟩
    exact ⟨⟨⟨⟨⟨required, arrays⟩, hooks⟩, staticVariables⟩, actions⟩, dynamicVariables⟩

theorem lacks_warning_departures :
    Lacks .warning (departures rules file pluginId members) ↔
      Unremarkable rules pluginId members := by
  rw [departures_eq, lacks_append, lacks_append, lacks_append, lacks_append,
    lacks_warning_checkFields, lacks_warning_checkVariables,
    lacks_eachItem_iff (checkHook rules) fun _ _ => lacks_warning_checkHook,
    lacks_eachItem_iff (checkAction _) fun _ _ => lacks_warning_checkAction,
    lacks_eachItem_iff checkDynamicVariable fun _ _ => lacks_warning_checkDynamicVariable,
    forall₂_and, routes_declared_iff]
  constructor
  · rintro ⟨⟨⟨⟨id, hooks⟩, variableTypes, ids⟩, actionTypes, routes⟩, displayTypes⟩
    exact ⟨id, fun text among => hooks _ among text rfl, variableTypes, actionTypes, displayTypes,
      ids, routes⟩
  · rintro ⟨id, hooks, variableTypes, actionTypes, displayTypes, ids, routes⟩
    refine ⟨⟨⟨⟨id, ?_⟩, variableTypes, ids⟩, actionTypes, routes⟩, displayTypes⟩
    rintro _ among text rfl
    exact hooks text among

/-- Findings of the schema are of the severity of departures. -/
theorem forall_mem_check_iff {severity : Severity} :
    (∀ finding ∈ check layout rules pluginId members, finding.severity ≠ severity) ↔
      Lacks severity (departures rules layout.manifest pluginId members) :=
  List.forall_mem_map

/-- The check finds nothing exactly in a manifest that is accepted and unremarkable. -/
theorem check_eq_nil_iff :
    check layout rules pluginId members = [] ↔
      Accepted members ∧ Unremarkable rules pluginId members := by
  rw [check, List.map_eq_nil_iff, eq_nil_iff_lacks, lacks_issue_departures,
    lacks_warning_departures]

/-- **The check of the schema is exact.** It finds no issue in a manifest exactly if the manifest
has all that the schema asks for, and it warns of nothing exactly if the names in the manifest are
known and agree. -/
theorem schema_check_exact (layout : Layout) (rules : Rules) (pluginId : String)
    (members : Json.Members) :
    ((∀ finding ∈ check layout rules pluginId members, finding.isIssue = false) ↔
        Accepted members) ∧
      ((∀ finding ∈ check layout rules pluginId members, finding.isWarning = false) ↔
        Unremarkable rules pluginId members) := by
  simp only [Finding.isIssue, Finding.isWarning, beq_eq_false_iff_ne, forall_mem_check_iff]
  exact ⟨lacks_issue_departures, lacks_warning_departures⟩

/-- A manifest without fields lacks all that the schema asks for, and nothing in it is remarkable.
-/
example : (check .standard ⟨.standard, [], []⟩ "p" []).map
    (fun finding => (finding.isIssue, finding.code)) = List.replicate 4 (true, "M002") := by
  decide

end Whole

end Manifest

end PluginAudit
