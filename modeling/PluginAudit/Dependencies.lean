import PluginAudit.Finding
import PluginAudit.Json.Skim
import PluginAudit.Json.Typed
import PluginAudit.Layout
import PluginAudit.Rules.Basic

/-!
# Dependencies

A dependency manifest declares packages with their versions, for use at run time
and for development. It is an object whose two fields are objects of strings;
what else it holds is passed over. A list in place of the object gives the two
fields by position.
-/

set_option autoImplicit false

namespace PluginAudit

/-- Packages with their versions, sorted by name, each name once. -/
abbrev Packages := List (String × String)

/-- Declares a package; an earlier version under its name is replaced. -/
def Packages.insert : Packages → String → String → Packages
  | [], name, version => [(name, version)]
  | (n, v) :: rest, name, version =>
    if name < n then (name, version) :: (n, v) :: rest
    else if n = name then (name, version) :: rest
    else (n, v) :: Packages.insert rest name version

/-- The packages that a plugin declares. -/
structure Dependencies where
  runtime : Packages := []
  development : Packages := []
  deriving DecidableEq, Repr

namespace Dependencies

open Json

/-! ## Reading -/

/-- Reads an object of strings. -/
def packages (levels : Nat) (text : List Char) : Except Json.Fault (Packages × List Char) :=
  objectOf "a map"
    (fun _ declared name text => do
      let (version, rest) ← stringValue (← colon text)
      pure (declared.insert name version, rest))
    ([] : Packages) levels text

/-- The fields that have been read. -/
structure Fields where
  runtime : Option Packages := none
  development : Option Packages := none

/-- The dependencies of fields; a field that is absent declares nothing. -/
def Fields.toDependencies (fields : Fields) : Dependencies :=
  ⟨fields.runtime.getD [], fields.development.getD []⟩

/-- Reads a member after its key. -/
def member (levels : Nat) (fields : Fields) (key : String) (text : List Char) :
    Except Json.Fault (Fields × List Char) := do
  if key == "dependencies" then
    if fields.runtime.isSome then .error (.closing (.duplicateField key) text)
    else
      let (declared, rest) ← packages levels (← colon text)
      pure ({ fields with runtime := some declared }, rest)
  else if key == "devDependencies" then
    if fields.development.isSome then .error (.closing (.duplicateField key) text)
    else
      let (declared, rest) ← packages levels (← colon text)
      pure ({ fields with development := some declared }, rest)
  else
    pure (fields, ← skimValue (← colon text))

/-- The text of the next item of a list, or none at the end of the list, which is not passed. -/
def nextItem (first : Bool) (text : List Char) : Except Json.Fault (Option (List Char)) :=
  match skipBlanks text, first with
  | [], _ => .error (.before .endInList [])
  | ']' :: _, _ => .ok none
  | ',' :: rest, false =>
    match skipBlanks rest with
    | [] => .error (.before .endInValue [])
    | ']' :: rest => .error (.within .trailingComma (']' :: rest))
    | rest => .ok (some rest)
  | rest, true => .ok (some rest)
  | rest, false => .error (.within .expectedCommaOrBracket rest)

/-- Passes the end of a list all of whose fields have been read. -/
def listEnd (text : List Char) : Except Json.Fault (List Char) :=
  match skipBlanks text with
  | [] => .error (.before .endInList [])
  | ']' :: rest => .ok rest
  | ',' :: rest =>
    match skipBlanks rest with
    | ']' :: rest => .error (.within .trailingComma (']' :: rest))
    | rest => .error (.within .trailingCharacters rest)
  | rest => .error (.within .trailingCharacters rest)

/-- Reads the fields from a list after its opening bracket. -/
def listed (levels : Nat) (text : List Char) : Except Json.Fault (Dependencies × List Char) := do
  match ← nextItem true text with
  | none => pure ({}, ← listEnd text)
  | some item =>
    let (runtime, rest) ← packages levels item
    match ← nextItem false rest with
    | none => pure ({ runtime }, ← listEnd rest)
    | some item =>
      let (development, rest) ← packages levels item
      pure ({ runtime, development }, ← listEnd rest)

/-- Reads a dependency manifest. -/
def reader (text : List Char) : Except Json.Fault (Dependencies × List Char) :=
  match skipBlanks text with
  | '[' :: rest => listed (openLimit - 1) rest
  | text => do
    let (fields, rest) ← objectOf "struct DependencyManifest" member {} openLimit text
    pure (fields.toDependencies, rest)

/-- The dependencies of a manifest's text. -/
def parse (text : String) : Except String Dependencies :=
  (document reader text.toList).mapError (Json.Fault.message text.toList)

/-! ## Names and findings -/

/-- The names of two sorted lists, sorted, each once. -/
def mergeNames : Packages → List String → List String
  | [], names => names
  | (name, _) :: rest, names => mergeNames rest (insertName name names)
where
  /-- Puts a name in its place among sorted names, unless it is there. -/
  insertName (name : String) : List String → List String
    | [] => [name]
    | other :: rest =>
      if name < other then name :: other :: rest
      else if name = other then other :: rest
      else other :: insertName name rest

/-- The names of all declared packages, sorted, each once. -/
def names (dependencies : Dependencies) : List String :=
  mergeNames dependencies.runtime (dependencies.development.map (·.1))

/-- The finding of a dependency manifest that cannot be read. -/
def malformed (layout : Layout) (reason : String) : Finding where
  severity := .issue
  category := .dependency
  code := "D001"
  message := "Invalid " ++ layout.dependencyManifest ++ ": " ++ reason
  file := some layout.dependencyManifest

/-- Warnings for packages at run time that the host provides. -/
def coreFindings (layout : Layout) (rules : Rules) (dependencies : Dependencies) : List Finding :=
  ((dependencies.runtime.map (·.1)).filter fun name => (rules.corePrefix? name).isSome).map
    fun name => {
      severity := .warning
      category := .dependency
      code := "D002"
      message := "Plugin should use " ++ name ++
        " from the parent project, not as a direct dependency"
      file := some layout.dependencyManifest }

/-- The finding of packages that must not be declared, if there are any. -/
def dangerousFindings (layout : Layout) (rules : Rules) (dependencies : Dependencies) :
    List Finding :=
  let dangerous := dependencies.names.filter rules.isDangerousPackage
  if dangerous.isEmpty then []
  else [{
    severity := .issue
    category := .security
    code := "S002"
    message := "Suspicious dependencies found: " ++ String.intercalate ", " dangerous
    file := some layout.dependencyManifest }]

end Dependencies

end PluginAudit
