import PluginAudit.Json.Basic

/-!
# Findings

What a check reports: a severity, the kind of problem, a stable code, a message
and, where it concerns one, a file of the plugin. Issues block a plugin,
warnings advise.
-/

set_option autoImplicit false

namespace PluginAudit

/-- How grave a finding is. -/
inductive Severity where
  | issue
  | warning
  deriving DecidableEq, Repr

/-- Which kind of problem a finding reports. -/
inductive Category where
  | manifestParse
  | manifestSchema
  | structural
  | security
  | consistency
  | dependency
  | scanIo
  deriving DecidableEq, Repr

namespace Category

/-- The name of a kind in documents. -/
def key : Category → String
  | manifestParse => "manifest_parse"
  | manifestSchema => "manifest_schema"
  | structural => "structural"
  | security => "security"
  | consistency => "consistency"
  | dependency => "dependency"
  | scanIo => "scan_io"

/-- The name of a kind in listings. -/
def title : Category → String
  | manifestParse => "ManifestParseError"
  | manifestSchema => "ManifestSchemaError"
  | structural => "StructuralError"
  | security => "SecurityFinding"
  | consistency => "ConsistencyError"
  | dependency => "DependencyError"
  | scanIo => "ScanIOError"

end Category

/-- The name of a severity in documents. -/
def Severity.key : Severity → String
  | issue => "issue"
  | warning => "warning"

/-- A reported problem. -/
structure Finding where
  severity : Severity
  category : Category
  code : String
  message : String
  file : Option String := none
  deriving DecidableEq, Repr

namespace Finding

/-- Whether a finding blocks the plugin. -/
def isIssue (finding : Finding) : Bool := finding.severity == .issue

/-- Whether a finding only advises. -/
def isWarning (finding : Finding) : Bool := finding.severity == .warning

/-- The line of a finding outside a report: a warning says that it is one. -/
def line (finding : Finding) : String :=
  match finding.severity with
  | .issue => finding.message
  | .warning => "warning: " ++ finding.message

/-- A finding as a document. -/
def toJson (finding : Finding) : Json :=
  .object ([("severity", .string finding.severity.key), ("category", .string finding.category.key),
    ("code", .string finding.code), ("message", .string finding.message)] ++
    match finding.file with
    | none => []
    | some file => [("file", .string file)])

end Finding

end PluginAudit
