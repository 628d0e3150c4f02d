import PluginAudit.Finding
import PluginAudit.Json.Printer
import PluginAudit.Layout
import PluginAudit.Manifest.Basic
import PluginAudit.Rules.Basic

/-!
# The schema of manifests

The schema says which fields a manifest has, of which type they are, and what
the entries of its lists look like. Every departure is a finding; those that
leave the meaning of the manifest clear are warnings.
-/

set_option autoImplicit false

namespace PluginAudit

namespace Manifest

/-- The fields that every manifest has. -/
def requiredFields : List String := ["id", "name", "description", "hooks"]

/-- The fields that are arrays. -/
def arrayFields : List String := ["hooks", "variables", "routes", "actions", "dynamic_variables"]

/-- A departure from the schema: its severity, its code and what is said about it. -/
structure Departure where
  severity : Severity
  code : String
  message : String
  deriving DecidableEq, Repr

namespace Departure

/-- A departure that blocks the plugin. -/
def issue (code message : String) : Departure := ⟨.issue, code, message⟩

/-- A departure that only earns a warning. -/
def warning (code message : String) : Departure := ⟨.warning, code, message⟩

/-- A departure as a finding in the manifest. -/
def toFinding (file : String) (departure : Departure) : Finding where
  severity := departure.severity
  category := .manifestSchema
  code := departure.code
  message := departure.message
  file := some file

end Departure

/-- A departure where a condition holds. -/
def when (condition : Bool) (departure : Departure) : List Departure :=
  if condition then [departure] else []

/-- The departures of a list's items, each told its place. -/
def eachItem (items : List Json) (check : String → Json → List Departure) : List Departure :=
  (items.mapIdx fun place item => check (toString place) item).flatten

/-- The departures for keys that an entry lacks. -/
def missingKeys (code what place : String) (keys : List String) (entry : Json.Members) :
    List Departure :=
  (keys.filter fun key => !entry.contains key).map fun key =>
    .issue code ("Missing '" ++ key ++ "' in " ++ what ++ " at index " ++ place)

/-- Departures of the top level. -/
def checkFields (file pluginId : String) (members : Json.Members) : List Departure :=
  ((requiredFields.filter fun field => !members.contains field).map fun field =>
      .issue "M002" ("Missing required field in " ++ file ++ ": " ++ field)) ++
    (match members.get? "id" with
    | none => []
    | some id =>
      when (id.asString? != some pluginId)
        (.warning "M003" ("Plugin ID in " ++ file ++ " (" ++ id.asString?.getD id.compact ++
          ") doesn't match directory name (" ++ pluginId ++ ")"))) ++
    (arrayFields.filter fun field =>
        (members.get? field).any fun value => value.asArray?.isNone).map
      fun field => .issue "M004" ("Field '" ++ field ++ "' must be an array in " ++ file)

/-- Departures of a hook. -/
def checkHook (rules : Rules) (place : String) (hook : Json) : List Departure :=
  match hook.asString? with
  | some name =>
    when (!rules.knowsHook name)
      (.warning "M005" ("Unknown hook '" ++ name ++ "' at index " ++ place))
  | none => [.issue "M006" ("Hook at index " ++ place ++ " must be a string")]

/-- Departures of a variable; `repeated` tells that a variable before it has its id. -/
def checkVariable (repeated : Bool) (place : String) (declared : Json) : List Departure :=
  match declared.asObject? with
  | none => [.issue "M007" ("Variable at index " ++ place ++ " must be an object")]
  | some entry =>
    missingKeys "M007" "variable" place ["name", "id"] entry ++
      (match entry.string? "id" with
      | none => []
      | some id =>
        when repeated
          (.warning "M010" ("Duplicate variable id '" ++ id ++ "' at index " ++ place))) ++
      (match entry.string? "type" with
      | none => []
      | some kind =>
        when (VariableKind.ofName? kind).isNone
            (.warning "M008" ("Unknown type '" ++ kind ++ "' in variable at index " ++ place)) ++
          when (kind == "select" && ((entry.array? "options").getD []).isEmpty)
            (.issue "M009" ("Select variable at index " ++ place ++ " missing 'options'")))

/-- The string id of an entry. -/
def entryId? (entry : Json) : Option String :=
  entry.asObject?.bind fun members => members.string? "id"

/-- Departures of the variables. -/
def checkVariables (declarations : List Json) : List Departure :=
  (declarations.mapIdx fun place declared =>
    let repeated := (entryId? declared).any fun id =>
      ((declarations.take place).filterMap entryId?).contains id
    checkVariable repeated (toString place) declared).flatten

/-- Departures of an action; `routes` are the declared routes, if the field is an array. -/
def checkAction (routes : Option (List String)) (place : String) (action : Json) : List Departure :=
  match action.asObject? with
  | none => [.issue "M011" ("Action at index " ++ place ++ " must be an object")]
  | some entry =>
    missingKeys "M011" "action" place ["label", "type"] entry ++
      match entry.string? "type" with
      | none => []
      | some kind =>
        (match ActionKind.ofName? kind with
        | some known =>
          when (known.needsRoute && !entry.contains "route")
            (.issue "M012" ("Action of type " ++ kind ++ " at index " ++ place ++
              " missing 'route'"))
        | none =>
          [.warning "M013" ("Unknown type '" ++ kind ++ "' in action at index " ++ place)]) ++
          match entry.string? "route", routes with
          | some route, some routes =>
            when (!routes.contains route)
              (.warning "M014" ("Action at index " ++ place ++ " uses route '" ++ route ++
                "' not declared in routes"))
          | _, _ => []

/-- Departures of a dynamic variable. -/
def checkDynamicVariable (place : String) (declared : Json) : List Departure :=
  match declared.asObject? with
  | none => [.issue "M015" ("Dynamic variable at index " ++ place ++ " must be an object")]
  | some entry =>
    missingKeys "M015" "dynamic variable" place ["name", "id"] entry ++
      match entry.string? "type" with
      | none => []
      | some kind =>
        when (DisplayKind.ofName? kind).isNone
          (.warning "M016" ("Unknown type '" ++ kind ++ "' in dynamic variable at index " ++ place))

/-- Every departure of a manifest document from the schema. -/
def departures (rules : Rules) (file pluginId : String) (members : Json.Members) :
    List Departure :=
  let list (field : String) : List Json := (members.array? field).getD []
  let routes := (members.array? "routes").map fun items => items.filterMap Json.asString?
  checkFields file pluginId members ++
    eachItem (list "hooks") (checkHook rules) ++
    checkVariables (list "variables") ++
    eachItem (list "actions") (checkAction routes) ++
    eachItem (list "dynamic_variables") checkDynamicVariable

/-- The findings of the schema in a manifest document. -/
def check (layout : Layout) (rules : Rules) (pluginId : String) (members : Json.Members) :
    List Finding :=
  (departures rules layout.manifest pluginId members).map (Departure.toFinding layout.manifest)

end Manifest

end PluginAudit
