import PluginAudit.Json.Reader

/-!
# Manifests

A manifest is a JSON object. What it declares is kept in a model that holds only
what conforms to the schema: values of another type, entries without their
names, and actions of an unknown type are left out, and a hook is kept once.
-/

set_option autoImplicit false

namespace PluginAudit

/-- The type of a variable. -/
inductive VariableKind where
  | string
  | number
  | select
  | boolean
  | model
  | object
  deriving DecidableEq, Repr

namespace VariableKind

/-- The types of variables by name. -/
def named : List (String × VariableKind) :=
  [("string", string), ("number", number), ("select", select), ("boolean", boolean),
    ("model", model), ("object", object)]

/-- The type of a name. -/
def ofName? (name : String) : Option VariableKind := named.lookup name

/-- The name of a type. -/
def name : VariableKind → String
  | string => "string"
  | number => "number"
  | select => "select"
  | boolean => "boolean"
  | model => "model"
  | object => "object"

end VariableKind

/-- What an action does. -/
inductive ActionKind where
  | popup
  | redirect
  | function
  deriving DecidableEq, Repr

namespace ActionKind

/-- The types of actions by name. -/
def named : List (String × ActionKind) :=
  [("popup", popup), ("redirect", redirect), ("function", function)]

/-- The type of a name. -/
def ofName? (name : String) : Option ActionKind := named.lookup name

/-- The name of a type. -/
def name : ActionKind → String
  | popup => "popup"
  | redirect => "redirect"
  | function => "function"

/-- Whether an action leads to a route. -/
def needsRoute : ActionKind → Bool
  | popup => true
  | redirect => true
  | function => false

end ActionKind

/-- How a dynamic variable is shown. -/
inductive DisplayKind where
  | string
  | badge
  | slider
  | logs
  deriving DecidableEq, Repr

namespace DisplayKind

/-- The types of dynamic variables by name. -/
def named : List (String × DisplayKind) :=
  [("string", string), ("badge", badge), ("slider", slider), ("logs", logs)]

/-- The type of a name. -/
def ofName? (name : String) : Option DisplayKind := named.lookup name

/-- The name of a type. -/
def name : DisplayKind → String
  | string => "string"
  | badge => "badge"
  | slider => "slider"
  | logs => "logs"

end DisplayKind

/-- A variable that can be configured. -/
structure Variable where
  name : String
  id : String
  description : Option String
  kind : Option VariableKind
  perContext : Bool
  default : Option Json
  secret : Bool
  options : List String
  deriving DecidableEq

/-- An action that a user can trigger. -/
structure Action where
  label : String
  kind : ActionKind
  route : Option String
  deriving DecidableEq, Repr

/-- A value that changes at run time. -/
structure DynamicVariable where
  name : String
  id : String
  kind : Option DisplayKind
  deriving DecidableEq, Repr

/-- What a manifest declares. -/
structure Manifest where
  id : Option String := none
  name : Option String := none
  description : Option String := none
  fullDescription : Option String := none
  hooks : List String := []
  staticVariables : List Variable := []
  routes : List String := []
  actions : List Action := []
  dynamicVariables : List DynamicVariable := []
  deriving DecidableEq

/-! ## Lowering -/

namespace Json.Members

/-- The text of a string member. -/
def string? (members : Members) (key : String) : Option String :=
  (members.get? key).bind asString?

/-- The items of an array member. -/
def array? (members : Members) (key : String) : Option (List Json) :=
  (members.get? key).bind asArray?

/-- The texts of the strings in an array member. -/
def strings (members : Members) (key : String) : List String :=
  ((members.array? key).getD []).filterMap asString?

/-- The objects in an array member. -/
def objects (members : Members) (key : String) : List Members :=
  ((members.array? key).getD []).filterMap asObject?

/-- Whether a member is true. -/
def isTrue (members : Members) (key : String) : Bool :=
  ((members.get? key).bind asBool?).getD false

end Json.Members

/-- The variable that an object declares. -/
def Variable.ofMembers? (members : Json.Members) : Option Variable := do
  let name ← members.string? "name"
  let id ← members.string? "id"
  pure {
    name, id
    description := members.string? "description"
    kind := (members.string? "type").bind VariableKind.ofName?
    perContext := members.isTrue "per_context"
    default := members.get? "default"
    secret := members.isTrue "secret"
    options := members.strings "options" }

/-- The action that an object declares. -/
def Action.ofMembers? (members : Json.Members) : Option Action := do
  let kind ← (members.string? "type").bind ActionKind.ofName?
  let label ← members.string? "label"
  pure { label, kind, route := members.string? "route" }

/-- The dynamic variable that an object declares. -/
def DynamicVariable.ofMembers? (members : Json.Members) : Option DynamicVariable := do
  let name ← members.string? "name"
  let id ← members.string? "id"
  pure { name, id, kind := (members.string? "type").bind DisplayKind.ofName? }

namespace Manifest

/-- A list without the later repetitions of an item. `seen` holds the items that came before. -/
def withoutRepetitions (seen : List String) : List String → List String
  | [] => []
  | item :: rest =>
    if seen.contains item then withoutRepetitions seen rest
    else item :: withoutRepetitions (item :: seen) rest

/-- What a manifest document declares. -/
def ofMembers (members : Json.Members) : Manifest where
  id := members.string? "id"
  name := members.string? "name"
  description := members.string? "description"
  fullDescription := members.string? "full_description"
  hooks := withoutRepetitions [] (members.strings "hooks")
  staticVariables := (members.objects "variables").filterMap Variable.ofMembers?
  routes := members.strings "routes"
  actions := (members.objects "actions").filterMap Action.ofMembers?
  dynamicVariables := (members.objects "dynamic_variables").filterMap DynamicVariable.ofMembers?

/-! ## Reading and writing -/

/-- Why a text is no manifest document. -/
inductive Fault where
  | notObject
  | notJson (reason : String)
  deriving DecidableEq, Repr

/-- What is said about a text that is no manifest document. -/
def Fault.message : Fault → String
  | notObject => "Manifest root is not an object"
  | notJson reason => "Invalid JSON (" ++ reason ++ ")"

/-- The members of a manifest document. -/
def parse (text : String) : Except Fault Json.Members :=
  match Json.parse text with
  | .ok (.object members) => .ok members
  | .ok _ => .error .notObject
  | .error reason => .error (.notJson reason)

/-- A text, or null where there is none. -/
def optional (text : Option String) : Json := (text.map Json.string).getD .null

/-- A list of texts. -/
def texts (items : List String) : Json := .array (items.map .string)

/-- A variable as JSON. -/
def variableJson (declared : Variable) : Json :=
  .object [("name", .string declared.name), ("id", .string declared.id),
    ("description", optional declared.description),
    ("type", optional (declared.kind.map VariableKind.name)),
    ("per_context", .bool declared.perContext), ("default", declared.default.getD .null),
    ("secret", .bool declared.secret), ("options", texts declared.options)]

/-- An action as JSON. -/
def actionJson (action : Action) : Json :=
  .object [("label", .string action.label), ("type", .string action.kind.name),
    ("route", optional action.route)]

/-- A dynamic variable as JSON. -/
def dynamicVariableJson (declared : DynamicVariable) : Json :=
  .object [("name", .string declared.name), ("id", .string declared.id),
    ("type", optional (declared.kind.map DisplayKind.name))]

/-- A manifest's model as JSON. -/
def toJson (manifest : Manifest) : Json :=
  .object [("id", optional manifest.id), ("name", optional manifest.name),
    ("description", optional manifest.description),
    ("full_description", optional manifest.fullDescription), ("hooks", texts manifest.hooks),
    ("variables", .array (manifest.staticVariables.map variableJson)),
    ("routes", texts manifest.routes), ("actions", .array (manifest.actions.map actionJson)),
    ("dynamic_variables", .array (manifest.dynamicVariables.map dynamicVariableJson))]

end Manifest

end PluginAudit
