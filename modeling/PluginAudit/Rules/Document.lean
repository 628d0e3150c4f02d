import PluginAudit.Json.Basic

/-!
# Rule documents

What a scan looks for is laid down in a document: categories of dangerous
patterns, patterns of safe calls, the extensions of the files to scan, and the
names that the checks of packages and hooks know. The standard document holds
the rules that apply unless others are given.
-/

set_option autoImplicit false

namespace PluginAudit

namespace Rules

/-- A dangerous pattern as a document writes it. -/
inductive Entry where
  /-- Every match counts. -/
  | plain (pattern : String)
  /-- A match does not count when `excuse` matches the rest of its line. -/
  | guarded (pattern excuse : String)
  deriving DecidableEq, Repr

/-- The patterns of one kind of danger. -/
structure Group where
  name : String
  patterns : List Entry
  deriving DecidableEq, Repr

/-- A rule document. -/
structure Document where
  /-- The kinds of danger, in the order in which they are reported. -/
  categories : List Group
  /-- The calls whose arguments are safe. -/
  safePatterns : List String
  /-- The extensions of implementation modules. -/
  extensions : List String
  /-- The packages that must not be declared. -/
  dangerousPackages : List String
  /-- How the names of packages begin that the host provides. -/
  corePrefixes : List String
  /-- The hooks that the host understands. -/
  knownHooks : List String
  deriving DecidableEq, Repr

namespace Entry

/-- An entry as JSON: the pattern alone where there is no guard. -/
def toJson : Entry → Json
  | plain pattern => .string pattern
  | guarded pattern excuse => .object [("pattern", .string pattern), ("unless", .string excuse)]

end Entry

namespace Document

/-- A document as JSON. -/
def toJson (document : Document) : Json :=
  let strings (items : List String) : Json := .array (items.map .string)
  .object [
    ("categories", .array (document.categories.map fun group =>
      .object [("name", .string group.name),
        ("patterns", .array (group.patterns.map Entry.toJson))])),
    ("safe_patterns", strings document.safePatterns),
    ("extensions", strings document.extensions),
    ("dangerous_packages", strings document.dangerousPackages),
    ("core_dependency_prefixes", strings document.corePrefixes),
    ("known_hooks", strings document.knownHooks)]

/-- The rules that apply unless others are given. -/
def standard : Document where
  categories := [
    { name := "arbitrary_code_execution"
      patterns := [
        .plain "eval\\s*\\(",
        .plain "new\\s+Function\\s*\\(",
        .plain "setTimeout\\s*\\(\\s*['\"](.*?)['\"]",
        .plain "setInterval\\s*\\(\\s*['\"](.*?)['\"]"] },
    { name := "command_execution"
      patterns := [
        .plain "exec\\s*\\(",
        .plain "execSync\\s*\\(",
        .plain "spawn\\s*\\(",
        .plain "spawnSync\\s*\\(",
        .plain "child_process",
        .plain "execFile\\s*\\("] },
    { name := "file_system_access"
      patterns := [
        .plain "fs\\.(write|append|create|unlink|rm|mkdir|rmdir|chmod|chown)",
        .guarded "fs\\.(read|readFile)" "['\"]package\\.json['\"]",
        .plain "path\\.resolve\\s*\\([^)]*\\.\\.[^)]*\\)"] },
    { name := "network_access"
      patterns := [
        .plain "http\\.(request|get)\\s*\\(",
        .plain "https\\.(request|get)\\s*\\(",
        .plain "net\\.(connect|createConnection|createServer)",
        .plain "axios\\.(get|post|put|delete|patch)"] }]
  safePatterns := ["logger\\.(info|debug|warn|error)", "console\\.(log|info|warn|error)"]
  extensions := ["js", "ts", "jsx", "tsx"]
  dangerousPackages := ["shelljs", "vm2", "node-gyp"]
  corePrefixes :=
    ["@ceramicnetwork", "ceramic-http-client", "@composedb", "@glaze", "@didtools", "dids"]
  knownHooks :=
    ["connect", "query", "generate", "process", "auth", "storage", "notification", "trigger",
      "schedule", "transform"]

end Document

end Rules

end PluginAudit
