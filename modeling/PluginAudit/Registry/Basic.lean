import PluginAudit.Instant.Reader
import PluginAudit.Json.Printer
import PluginAudit.Json.Typed

/-!
# The registry of validated plugins

The registry keeps, for each plugin, the fields of its manifest with the time
of its validation. Plugins are sorted by id. Other keys at the top of the
document belong to others and are kept as they are.
-/

set_option autoImplicit false

namespace PluginAudit

namespace Registry

/-- What the registry keeps of a plugin. -/
structure Entry where
  /-- The fields of the manifest, without the two below. -/
  metadata : Json.Members
  validated : Bool
  validatedAt : Instant
  deriving DecidableEq

/-- The key of the flag in an entry. -/
def flagKey : String := "validated"

/-- The key of the time in an entry. -/
def timeKey : String := "validation_date"

/-- The key of the plugins in the document. -/
def pluginsKey : String := "plugins"

namespace Entry

/-- The entry of a plugin that was validated at an instant. Fields of the manifest under the keys
of the flag and the time give way. -/
def ofManifest (metadata : Json.Members) (instant : Instant) : Entry :=
  ⟨(metadata.remove flagKey).remove timeKey, true, instant⟩

/-- The fields of a plugin whose manifest cannot be read. -/
def unknownMetadata (id : String) : Json.Members :=
  [("id", .string id), ("name", .string id), ("description", .string "No description available")]

/-- The entry of a plugin with the text of its manifest, where there is one. -/
def ofManifestText (text : Option String) (id : String) (instant : Instant) : Entry :=
  let members := match text.map Json.parse with
    | some (.ok (.object members)) => members
    | _ => unknownMetadata id
  ofManifest members instant

/-- An entry as JSON. -/
def toJson (entry : Entry) : Json :=
  .object (entry.metadata ++
    [(flagKey, .bool entry.validated), (timeKey, .string entry.validatedAt.write)])

end Entry

end Registry

/-- The registry. -/
structure Registry where
  /-- The entries with their plugins' ids, sorted by id, each id once. -/
  plugins : List (String × Registry.Entry) := []
  /-- The other keys at the top of the document. -/
  extra : Json.Members := []
  deriving DecidableEq

namespace Registry

/-- Puts an entry under an id among sorted ids, in the place of the one that it replaces. -/
def insertEntry (id : String) (entry : Entry) :
    List (String × Entry) → List (String × Entry)
  | [] => [(id, entry)]
  | (other, old) :: rest =>
    if id < other then (id, entry) :: (other, old) :: rest
    else if other = id then (id, entry) :: rest
    else (other, old) :: insertEntry id entry rest

/-- The registry with an entry under an id. -/
def insert (registry : Registry) (id : String) (entry : Entry) : Registry :=
  { registry with plugins := insertEntry id entry registry.plugins }

/-- The entry under an id. -/
def get? (registry : Registry) (id : String) : Option Entry := registry.plugins.lookup id

/-- The ids of the plugins. -/
def ids (registry : Registry) : List String := registry.plugins.map (·.1)

/-- The registry as JSON. -/
def toJson (registry : Registry) : Json :=
  .object ((pluginsKey, .object (registry.plugins.map fun (id, entry) => (id, entry.toJson))) ::
    registry.extra)

/-! ## Reading -/

open Json

/-- The members of an entry that have been read. -/
structure EntryFields where
  metadata : Members := []
  validated : Option Bool := none
  validatedAt : Option Instant := none

/-- Reads a member of an entry after its key. -/
def entryMember (levels : Nat) (fields : EntryFields) (key : String) (text : List Char) :
    Except Json.Fault (EntryFields × List Char) := do
  if key == flagKey then
    if fields.validated.isSome then .error (.closing (.duplicateField key) text)
    else
      let (flag, rest) ← booleanValue (← colon text)
      pure ({ fields with validated := some flag }, rest)
  else if key == timeKey then
    if fields.validatedAt.isSome then .error (.closing (.duplicateField key) text)
    else
      let (written, rest) ← stringValue (← colon text)
      match Instant.read written with
      | .ok instant => pure ({ fields with validatedAt := some instant }, rest)
      | .error fault => .error (.closing (.refused fault.message) rest)
  else
    let (item, rest) ← value levels (← colon text)
    pure ({ fields with metadata := fields.metadata.insert key item }, rest)

/-- Reads an entry. -/
def entryReader (levels : Nat) (text : List Char) : Except Json.Fault (Entry × List Char) := do
  let (fields, rest) ← objectOf "struct RegistryEntry" entryMember {} levels text
  match fields.validated, fields.validatedAt with
  | some validated, some validatedAt => pure (⟨fields.metadata, validated, validatedAt⟩, rest)
  | none, _ => .error (.before (.missingField flagKey) rest)
  | some _, none => .error (.before (.missingField timeKey) rest)

/-- Reads the object of plugins. -/
def pluginsReader (levels : Nat) (text : List Char) :
    Except Json.Fault (List (String × Entry) × List Char) :=
  objectOf "a map"
    (fun levels plugins id text => do
      let (entry, rest) ← entryReader levels (← colon text)
      pure (insertEntry id entry plugins, rest))
    ([] : List (String × Entry)) levels text

/-- The members of the registry that have been read. -/
structure Fields where
  plugins : Option (List (String × Entry)) := none
  extra : Members := []

/-- Reads a member of the registry after its key. -/
def member (levels : Nat) (fields : Fields) (key : String) (text : List Char) :
    Except Json.Fault (Fields × List Char) := do
  if key == pluginsKey then
    if fields.plugins.isSome then .error (.closing (.duplicateField key) text)
    else
      let (plugins, rest) ← pluginsReader levels (← colon text)
      pure ({ fields with plugins := some plugins }, rest)
  else
    let (item, rest) ← value levels (← colon text)
    pure ({ fields with extra := fields.extra.insert key item }, rest)

/-- Reads the registry. Plugins that are absent are none. -/
def reader (text : List Char) : Except Json.Fault (Registry × List Char) := do
  let (fields, rest) ← objectOf "struct Registry" member {} openLimit text
  pure (⟨fields.plugins.getD [], fields.extra⟩, rest)

/-- The registry of a document. -/
def parse (text : String) : Except String Registry :=
  (document reader text.toList).mapError (Json.Fault.message text.toList)

/-- The entry of a document. -/
def Entry.parse (text : String) : Except String Entry :=
  (document (entryReader openLimit) text.toList).mapError (Json.Fault.message text.toList)

/-- The text of the registry in its file. -/
def fileText (registry : Registry) : String := registry.toJson.pretty ++ "\n"

end Registry

end PluginAudit
