import PluginAudit.Proofs.Json.Messages
import PluginAudit.Proofs.Manifest.Acceptance

/-!
# What the schema says about a manifest

Messages of the schema repeat texts of the manifest. A message is in one line
exactly if what it repeats is, and only a few texts are repeated as they stand
(`RepeatsOneLine`): whatever else a manifest holds, the messages about it are in
one line each (`oneLine_departures_iff`).
-/

set_option autoImplicit false

namespace PluginAudit.Manifest

open Text

/-- The texts of a manifest that messages repeat hold no line break. These are its id and its
hooks, the types of its entries, an id that two variables have in common, and the route of an
action where the manifest declares routes and this is none of them. -/
structure RepeatsOneLine (members : Json.Members) : Prop where
  id : ∀ text, members.get? "id" = some (.string text) → OneLine text
  hooks : ∀ text : String, .string text ∈ declared members "hooks" → OneLine text
  variableTypes : ∀ item ∈ declared members "variables", ∀ kind,
    HasTexts item [("type", kind)] → OneLine kind
  actionTypes : ∀ item ∈ declared members "actions", ∀ kind,
    HasTexts item [("type", kind)] → OneLine kind
  displayTypes : ∀ item ∈ declared members "dynamic_variables", ∀ kind,
    HasTexts item [("type", kind)] → OneLine kind
  ids : (declared members "variables").Pairwise fun first second =>
    ∀ id, HasTexts first [("id", id)] → HasTexts second [("id", id)] → OneLine id
  routes : ∀ routes, members.get? "routes" = some (.array routes) →
    ∀ item ∈ declared members "actions", ∀ kind route,
      HasTexts item [("type", kind), ("route", route)] → .string route ∉ routes → OneLine route

/-! ## Messages in one line -/

/-- The messages of departures are in one line each. -/
def InLines (departures : List Departure) : Prop :=
  ∀ departure ∈ departures, OneLine departure.message

section InLines

variable {departure : Departure} {code message place : String}

@[simp] theorem inLines_nil : InLines [] := List.forall_mem_nil _

@[simp] theorem inLines_cons {rest : List Departure} :
    InLines (departure :: rest) ↔ OneLine departure.message ∧ InLines rest :=
  List.forall_mem_cons

theorem inLines_singleton : InLines [departure] ↔ OneLine departure.message :=
  List.forall_mem_singleton

@[simp] theorem inLines_append {first second : List Departure} :
    InLines (first ++ second) ↔ InLines first ∧ InLines second :=
  List.forall_mem_append

@[simp] theorem inLines_when {condition : Bool} :
    InLines (when condition departure) ↔ (condition = true → OneLine departure.message) := by
  cases condition <;> simp [when]

@[simp] theorem message_issue : (Departure.issue code message).message = message := rfl

@[simp] theorem message_warning : (Departure.warning code message).message = message := rfl

/-- A message that tells where a text was found is in one line exactly if the text is. -/
theorem oneLine_found {before text behind : String} (isBefore : OneLine before)
    (isBehind : OneLine behind) (isPlace : OneLine place) :
    OneLine (before ++ text ++ behind ++ place) ↔ OneLine text := by
  simp only [oneLine_append, isBefore, isBehind, isPlace, true_and, and_true]

theorem oneLine_placed {before behind : String} (isBefore : OneLine before)
    (isPlace : OneLine place) (isBehind : OneLine behind) : OneLine (before ++ place ++ behind) :=
  oneLine_append.mpr ⟨oneLine_append.mpr ⟨isBefore, isPlace⟩, isBehind⟩

/-- Messages about the items of a field are in one line each if those about every item are. -/
theorem inLines_eachItem_iff {items : List Json} (check : String → Json → List Departure)
    {holds : Json → Prop}
    (each : ∀ place item, OneLine place → (InLines (check place item) ↔ holds item)) :
    InLines (eachItem items check) ↔ ∀ item ∈ items, holds item :=
  forall_mem_mapIdx_flatten_iff fun place item => each _ item (oneLine_toString place)

/-- An item that is no object is told by its place alone. -/
theorem inLines_noObject {before : String} (isBefore : OneLine before) (isPlace : OneLine place) :
    InLines [.issue code (before ++ place ++ " must be an object")] :=
  inLines_singleton.mpr (oneLine_placed isBefore isPlace (by decide))

theorem inLines_missingKeys {what : String} {keys : List String} (isWhat : OneLine what)
    (isPlace : OneLine place) (areKeys : ∀ key ∈ keys, OneLine key) (entry : Json.Members) :
    InLines (missingKeys code what place keys entry) := by
  refine List.forall_mem_map.mpr fun key among => ?_
  have isKey : OneLine key := areKeys key (List.mem_filter.mp among).1
  rw [message_issue, oneLine_append, oneLine_append, oneLine_append, oneLine_append, oneLine_append]
  exact ⟨⟨⟨⟨⟨by decide, isKey⟩, by decide⟩, isWhat⟩, by decide⟩, isPlace⟩

end InLines

/-! ## Messages about items -/

theorem VariableKind.oneLine_name (known : VariableKind) : OneLine known.name := by
  cases known <;> decide

theorem ActionKind.oneLine_name (known : ActionKind) : OneLine known.name := by
  cases known <;> decide

theorem DisplayKind.oneLine_name (known : DisplayKind) : OneLine known.name := by
  cases known <;> decide

section Items

variable {place : String} {item : Json} {rules : Rules}

theorem inLines_checkHook (known : ∀ hook ∈ rules.document.knownHooks, OneLine hook)
    (isPlace : OneLine place) :
    InLines (checkHook rules place item) ↔ ∀ text, item = .string text → OneLine text := by
  rw [checkHook]
  cases isText : item.asString? with
  | none =>
    refine iff_of_true (inLines_singleton.mpr (oneLine_placed (by decide) isPlace (by decide))) ?_
    rintro text rfl
    cases isText
  | some text =>
    obtain rfl := asString?_eq_some.mp isText
    dsimp only
    rw [inLines_when, message_warning, oneLine_found (by decide) (by decide) isPlace]
    constructor
    · rintro unknown _ ⟨⟩
      by_cases knows : rules.knowsHook text = true
      · exact known text (List.contains_iff_mem.mp knows)
      · exact unknown (by simpa using knows)
    · intro all _
      exact all text rfl

/-- A type is told where it is the name of none. The names of types are in one line each, and so
nothing is told in several lines exactly if the type is in one. -/
theorem unknown_oneLine_iff {α : Type} {found : Option α} {name : α → String} {kind : String}
    (names : ∀ known, OneLine (name known))
    (named : ∀ known, found = some known → name known = kind) :
    (found.isNone = true → OneLine kind) ↔ OneLine kind := by
  cases found with
  | none => simp
  | some known =>
    have isKind : OneLine kind := named known rfl ▸ names known
    simp [isKind]

theorem inLines_checkVariable {repeated : Bool} (isPlace : OneLine place) :
    InLines (checkVariable repeated place item) ↔
      (∀ kind, HasTexts item [("type", kind)] → OneLine kind) ∧
        (repeated = true → ∀ id, HasTexts item [("id", id)] → OneLine id) := by
  rw [checkVariable]
  cases isObject : item.asObject? with
  | none =>
    exact iff_of_true (inLines_noObject (by decide) isPlace) (by simp [not_hasTexts isObject])
  | some entry =>
    obtain rfl := asObject?_eq_some.mp isObject
    dsimp only
    have lacking : InLines (missingKeys "M007" "variable" place ["name", "id"] entry) :=
      inLines_missingKeys (by decide) isPlace (by decide) entry
    have options : OneLine ("Select variable at index " ++ place ++ " missing 'options'") :=
      oneLine_placed (by decide) isPlace (by decide)
    have kinds : ∀ kind,
        ((VariableKind.ofName? kind).isNone = true → OneLine kind) ↔ OneLine kind :=
      fun kind => unknown_oneLine_iff VariableKind.oneLine_name
        fun _ => VariableKind.ofName?_eq_some.mp
    have ids : ∀ id, OneLine ("Duplicate variable id '" ++ id ++ "' at index " ++ place) ↔
        OneLine id :=
      fun id => oneLine_found (by decide) (by decide) isPlace
    have types : ∀ kind, OneLine ("Unknown type '" ++ kind ++ "' in variable at index " ++ place) ↔
        OneLine kind :=
      fun kind => oneLine_found (by decide) (by decide) isPlace
    cases isId : entry.string? "id" <;> cases isKind : entry.string? "type" <;>
      simp only [inLines_append, inLines_when, inLines_nil, lacking, message_warning, message_issue,
        ids, types, kinds, options, hasTexts_object, isId, isKind, List.forall_mem_singleton,
        Option.some.injEq, reduceCtorEq] <;>
      simp [and_comm]

theorem inLines_checkAction {routes : Option (List String)} (isPlace : OneLine place) :
    InLines (checkAction routes place item) ↔
      (∀ kind, HasTexts item [("type", kind)] → OneLine kind) ∧
        ∀ kind route, HasTexts item [("type", kind), ("route", route)] →
          ∀ declared, routes = some declared → route ∉ declared → OneLine route := by
  rw [checkAction]
  cases isObject : item.asObject? with
  | none =>
    exact iff_of_true (inLines_noObject (by decide) isPlace) (by simp [not_hasTexts isObject])
  | some entry =>
    obtain rfl := asObject?_eq_some.mp isObject
    dsimp only
    have lacking : InLines (missingKeys "M011" "action" place ["label", "type"] entry) :=
      inLines_missingKeys (by decide) isPlace (by decide) entry
    cases isKind : entry.string? "type" with
    | none => simp [lacking, isKind]
    | some kind =>
      have unknown : OneLine ("Unknown type '" ++ kind ++ "' in action at index " ++ place) ↔
          OneLine kind :=
        oneLine_found (by decide) (by decide) isPlace
      have missing : OneLine ("Action of type " ++ kind ++ " at index " ++ place ++
          " missing 'route'") ↔ OneLine kind := by
        rw [oneLine_append, oneLine_found (by decide) (by decide) isPlace]
        exact and_iff_left (by decide)
      have leads : ∀ route, OneLine ("Action at index " ++ place ++ " uses route '" ++ route ++
          "' not declared in routes") ↔ OneLine route := by
        intro route
        rw [oneLine_append, oneLine_append,
          and_iff_right (oneLine_placed (by decide) isPlace (by decide))]
        exact and_iff_left (by decide)
      have isName : ∀ known, ActionKind.ofName? kind = some known → OneLine kind :=
        fun known isKnown => ActionKind.ofName?_eq_some.mp isKnown ▸ ActionKind.oneLine_name known
      -- What is said of the type and of the route are told apart by the same cases as in the check.
      cases isRoute : entry.string? "route" <;> cases routes <;>
        cases isKnown : ActionKind.ofName? kind <;>
        simp [lacking, isKind, isRoute, isKnown, unknown, missing, leads, isName, -oneLine_append]

theorem inLines_checkDynamicVariable (isPlace : OneLine place) :
    InLines (checkDynamicVariable place item) ↔
      ∀ kind, HasTexts item [("type", kind)] → OneLine kind := by
  rw [checkDynamicVariable]
  cases isObject : item.asObject? with
  | none =>
    exact iff_of_true (inLines_noObject (by decide) isPlace) (by simp [not_hasTexts isObject])
  | some entry =>
    obtain rfl := asObject?_eq_some.mp isObject
    dsimp only
    have lacking : InLines (missingKeys "M015" "dynamic variable" place ["name", "id"] entry) :=
      inLines_missingKeys (by decide) isPlace (by decide) entry
    cases isKind : entry.string? "type" with
    | none => simp [lacking, isKind]
    | some kind =>
      rw [inLines_append, inLines_when, message_warning,
        oneLine_found (by decide) (by decide) isPlace,
        unknown_oneLine_iff DisplayKind.oneLine_name fun _ => DisplayKind.ofName?_eq_some.mp]
      simp [lacking, isKind]

end Items

/-! ## Messages about a manifest -/

section Whole

variable {rules : Rules} {file pluginId : String} {members : Json.Members}

theorem inLines_checkFields (isFile : OneLine file) (isId : OneLine pluginId) :
    InLines (checkFields file pluginId members) ↔
      ∀ text, members.get? "id" = some (.string text) → OneLine text := by
  have required : InLines ((requiredFields.filter fun field => !members.contains field).map
      fun field => .issue "M002" ("Missing required field in " ++ file ++ ": " ++ field)) := by
    refine List.forall_mem_map.mpr fun field among => ?_
    have isField : OneLine field :=
      (by decide : ∀ field ∈ requiredFields, OneLine field) field (List.mem_filter.mp among).1
    exact oneLine_append.mpr ⟨oneLine_placed (by decide) isFile (by decide), isField⟩
  have arrays : InLines ((arrayFields.filter fun field =>
      (members.get? field).any fun value => value.asArray?.isNone).map
      fun field => .issue "M004" ("Field '" ++ field ++ "' must be an array in " ++ file)) := by
    refine List.forall_mem_map.mpr fun field among => ?_
    have isField : OneLine field :=
      (by decide : ∀ field ∈ arrayFields, OneLine field) field (List.mem_filter.mp among).1
    exact oneLine_append.mpr ⟨oneLine_placed (by decide) isField (by decide), isFile⟩
  have mismatch : ∀ text, OneLine ("Plugin ID in " ++ file ++ " (" ++ text ++
      ") doesn't match directory name (" ++ pluginId ++ ")") ↔ OneLine text := by
    intro text
    have leads : OneLine ("Plugin ID in " ++ file ++ " (") :=
      oneLine_placed (by decide) isFile (by decide)
    rw [oneLine_append, oneLine_found leads (by decide) isId]
    exact and_iff_left (by decide)
  rw [checkFields, inLines_append, inLines_append]
  cases found : members.get? "id" with
  | none => simp [required, arrays]
  | some value =>
    dsimp only
    rw [inLines_when, message_warning, mismatch]
    cases isText : value.asString? with
    | none =>
      have noText : ∀ text, value ≠ .string text := by
        rintro text rfl
        cases isText
      simp [required, arrays, noText, Json.oneLine_compact]
    | some text =>
      obtain rfl := asString?_eq_some.mp isText
      by_cases same : text = pluginId
      · simp [required, arrays, same, isId]
      · simp [required, arrays, same]

/-- A variable repeats an id where a variable before it has the same. -/
theorem repeats_iff {items : List Json} {place : Nat} {item : Json} :
    (((entryId? item).any fun id => ((items.take place).filterMap entryId?).contains id) = true →
        ∀ id, HasTexts item [("id", id)] → OneLine id) ↔
      ∀ earlier ∈ items.take place, ∀ id, HasTexts earlier [("id", id)] →
        HasTexts item [("id", id)] → OneLine id := by
  simp only [← entryId?_eq_some]
  cases isId : entryId? item with
  | none => simp
  | some id =>
    simp only [Option.any_some, List.contains_iff_mem, List.mem_filterMap, Option.some.injEq,
      forall_eq']
    constructor
    · rintro once earlier among _ isEarlierId rfl
      exact once ⟨earlier, among, isEarlierId⟩
    · rintro each ⟨earlier, among, isEarlierId⟩
      exact each earlier among id isEarlierId rfl

theorem inLines_checkVariables {items : List Json} :
    InLines (checkVariables items) ↔
      (∀ item ∈ items, ∀ kind, HasTexts item [("type", kind)] → OneLine kind) ∧
        items.Pairwise fun first second =>
          ∀ id, HasTexts first [("id", id)] → HasTexts second [("id", id)] → OneLine id := by
  have each : InLines (checkVariables items) ↔ ∀ place item, items[place]? = some item →
      (∀ kind, HasTexts item [("type", kind)] → OneLine kind) ∧
        ∀ earlier ∈ items.take place, ∀ id, HasTexts earlier [("id", id)] →
          HasTexts item [("id", id)] → OneLine id := by
    refine forall_mem_mapIdx_flatten.trans ?_
    refine forall₃_congr fun place item isItem => ?_
    exact (inLines_checkVariable (oneLine_toString place)).trans (and_congr_right' repeats_iff)
  rw [each]
  constructor
  · intro each
    refine ⟨fun item among => ?_, List.pairwise_iff_getElem.mpr ?_⟩
    · obtain ⟨place, isItem⟩ := List.mem_iff_getElem?.mp among
      exact (each place item isItem).1
    · intro place other bound bound' before
      refine (each other _ (List.getElem?_eq_getElem bound')).2 _ ?_
      exact List.mem_take_iff_getElem.mpr ⟨place, by omega, rfl⟩
  · rintro ⟨types, apart⟩ place item isItem
    refine ⟨types item (List.mem_of_getElem? isItem), ?_⟩
    intro earlier isEarlier
    obtain ⟨other, before, rfl⟩ := List.mem_take_iff_getElem.mp isEarlier
    obtain ⟨bound, rfl⟩ := List.getElem?_eq_some_iff.mp isItem
    exact List.pairwise_iff_getElem.mp apart other place (by omega) bound (by omega)

/-- The routes of actions that are told are those which are not declared where routes are. -/
theorem routes_oneLine_iff {items : List Json} :
    (∀ item ∈ items, ∀ kind route, HasTexts item [("type", kind), ("route", route)] →
        ∀ routes, (members.array? "routes").map (List.filterMap Json.asString?) = some routes →
          route ∉ routes → OneLine route) ↔
      ∀ routes, members.get? "routes" = some (.array routes) →
        ∀ item ∈ items, ∀ kind route, HasTexts item [("type", kind), ("route", route)] →
          .string route ∉ routes → OneLine route := by
  simp only [← Json.Members.array?_eq_some, ← mem_filterMap_asString?]
  cases members.array? "routes" with
  | none => simp
  | some routes => simp only [Option.map_some, Option.some.injEq, forall_eq']

/-- **The messages of the schema are in one line each** exactly if what they repeat of a manifest
is. -/
theorem oneLine_departures_iff (known : ∀ hook ∈ rules.document.knownHooks, OneLine hook)
    (isFile : OneLine file) (isId : OneLine pluginId) :
    InLines (departures rules file pluginId members) ↔ RepeatsOneLine members := by
  rw [departures_eq, inLines_append, inLines_append, inLines_append, inLines_append,
    inLines_checkFields isFile isId, inLines_checkVariables,
    inLines_eachItem_iff (checkHook rules) fun _ _ => inLines_checkHook known,
    inLines_eachItem_iff (checkAction _) fun _ _ => inLines_checkAction,
    inLines_eachItem_iff checkDynamicVariable fun _ _ => inLines_checkDynamicVariable,
    forall₂_and, routes_oneLine_iff]
  constructor
  · rintro ⟨⟨⟨⟨id, hooks⟩, variableTypes, ids⟩, actionTypes, routes⟩, displayTypes⟩
    exact ⟨id, fun text among => hooks _ among text rfl, variableTypes, actionTypes, displayTypes,
      ids, routes⟩
  · rintro ⟨id, hooks, variableTypes, actionTypes, displayTypes, ids, routes⟩
    refine ⟨⟨⟨⟨id, ?_⟩, variableTypes, ids⟩, actionTypes, routes⟩, displayTypes⟩
    rintro _ among text rfl
    exact hooks text among

end Whole

end PluginAudit.Manifest
