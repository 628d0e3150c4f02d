import PluginAudit.Batch
import PluginAudit.CommandLine.Arguments
import PluginAudit.Registry.InTree
import PluginAudit.Rules.Document.Printer
import PluginAudit.Rules.Document.Reader

/-!
# The program

What a call of the program does. Results go to the output and what went wrong to
the error output. The exit status tells whether every plugin passed; whether a
plugin could be registered does not change it.
-/

set_option autoImplicit false

namespace PluginAudit.CommandLine

/-- What a call leaves behind, besides the file tree. -/
structure Outcome where
  status : Nat
  output : String := ""
  errors : String := ""
  deriving DecidableEq, Repr

/-- The name under which the program speaks. -/
def programName : String := "plugcheck"

/-- The version of the program. -/
def version : String := "0.3.2"

/-- The status of a call whose arguments or rules cannot be put to use. -/
def misuseStatus : Nat := 2

/-- What is said about something that went wrong. -/
def complaint (message : String) : String := programName ++ ": " ++ message ++ "\n"

/-- The name under which the environment tells the directory of all plugins. -/
def environmentName : String := "PLUGCHECK_PLUGINS_DIR"

/-- How the program is called. -/
def usage : String :=
  "Usage: " ++ programName ++ " [OPTIONS] <COMMAND>\n\n" ++
    "Commands:\n" ++
    "  validate  Validate one plugin or every plugin under the plugins directory\n" ++
    "  rules     Print the active rule set as YAML\n"

/-! ## Rules -/

/-- The rules of a call: those of its rule file, or the standard ones. -/
def rulesOf (tree : FileTree) : Option Path → Except Failure Rules
  | none => (Rules.ofDocument .standard).mapError .rules
  | some path => do
    let text ← (tree.readText path).mapError fun fault => Failure.io fault.message
    let document ← (Rules.Document.ofYaml text).mapError fun refusal => Failure.yaml refusal.message
    (Rules.ofDocument document).mapError .rules

/-! ## Validation -/

/-- The path of the registry that a call writes to. -/
def Call.registryPath (call : Call) : Path := call.registry.getD (call.plugins.join "registry.json")

/-- The paths that a call reads. -/
def Call.paths (call : Call) : List Path :=
  let targets := match call.command with
    | .validate (.id id) _ => (Plugin.pathOfId call.plugins id).toOption.toList
    | .validate (.path plugin) _ => [plugin]
    | .validate .all _ => [call.plugins]
    | .rules => []
  call.rules.toList ++ targets ++ [call.registryPath, Registry.lockPath call.registryPath]

/-- Registers the plugin of a report that passes, and says how that went. -/
def registerPassing (validator : Validator) (now : Instant) (registry : Path) (report : Report) :
    StateM FileTree String := do
  let entry :=
    Registry.Entry.ofPlugin validator.layout (← get) ⟨report.pluginPath⟩ report.pluginId now
  match ← (Registry.register registry report.pluginId entry).run with
  | .ok _ =>
    pure ("Plugin " ++ report.pluginId ++ " added to registry " ++ registry.text ++ "\n")
  | .error failure =>
    pure (complaint ("failed to register " ++ report.pluginId ++ ": " ++ failure.message))

/-- Registers the plugins of the reports that pass, one after the other, where a call asks for it.
-/
def registerAll (validator : Validator) (now : Instant) (registry : Option Path)
    (reports : List Report) : StateM FileTree String :=
  match registry with
  | none => pure ""
  | some registry => do
    let passing := reports.filter fun report => report.verdict.isPassing
    pure (String.join (← passing.mapM (registerPassing validator now registry)))

/-- A document in the output. -/
def printed (document : Json) : String := document.pretty ++ "\n"

/-- Validates one plugin. -/
def validateOne (validator : Validator) (now : Instant) (call : Call) (registry : Option Path)
    (id : String) (plugin : Path) : StateM FileTree Outcome := do
  match validator.validate (← get) id plugin with
  | .error failure => pure { status := 1, errors := complaint failure.message }
  | .ok report =>
    let output := match call.format with
      | .text => report.render
      | .json => printed report.toJson
    let errors ← registerAll validator now registry [report]
    pure { status := if report.verdict.isPassing then 0 else 1, output, errors }

/-- Validates every plugin. -/
def validateEvery (validator : Validator) (now : Instant) (call : Call) (registry : Option Path) :
    StateM FileTree Outcome := do
  match validator.validateAll (← get) call.plugins with
  | .error failure =>
    pure {
      status := 1
      errors := complaint ("cannot read plugins directory " ++ call.plugins.text ++ ": " ++
        failure.message) }
  | .ok summary =>
    let output := match call.format with
      | .text =>
        String.join (summary.reports.map fun report => report.render ++ "\n") ++ summary.render
      | .json => printed summary.toJson
    let errors ← registerAll validator now registry summary.reports
    pure { status := summary.exitCode, output, errors }

/-- Validates the target of a call. -/
def validateTarget (validator : Validator) (now : Instant) (call : Call) (target : Target)
    (register : Bool) : StateM FileTree Outcome := do
  let registry := if register then some call.registryPath else none
  match target with
  | .all => validateEvery validator now call registry
  | .id id =>
    match Plugin.pathOfId call.plugins id with
    | .ok plugin => validateOne validator now call registry id plugin
    | .error failure => pure { status := 1, errors := complaint failure.message }
  | .path plugin =>
    validateOne validator now call registry (Plugin.idOfPath (← get) plugin) plugin

/-! ## Calls -/

/-- Does what a call asks for. Its rules are read first. -/
def runCall (now : Instant) (call : Call) : StateM FileTree Outcome := do
  match rulesOf (← get) call.rules with
  | .error failure => pure { status := misuseStatus, errors := complaint failure.message }
  | .ok rules =>
    match call.command with
    | .rules => pure { status := 0, output := rules.document.toYaml }
    | .validate target register => validateTarget ⟨rules, .standard⟩ now call target register

/-- Runs the program at an instant. -/
def run (now : Instant) (environment : Option String) (arguments : List String) :
    StateM FileTree Outcome :=
  match parse environment arguments with
  | .ok call => runCall now call
  | .error .version => pure { status := 0, output := programName ++ " " ++ version ++ "\n" }
  | .error .help => pure { status := 0, output := usage }
  | .error .misuse => pure { status := misuseStatus, errors := usage }

end PluginAudit.CommandLine
