import PluginAudit.Finding

/-!
# Reports

The report of one plugin gathers its findings in the order in which the checks
made them; the verdict follows from their severities. A summary rolls up the
reports of many plugins, with those that could not be validated at all.
-/

set_option autoImplicit false

namespace PluginAudit

/-- The outcome of validating one plugin. -/
inductive Verdict where
  | pass
  | passWithWarnings
  | fail
  deriving DecidableEq, Repr

namespace Verdict

/-- A plugin fails when there is an issue; otherwise warnings are noted. -/
def ofFindings (findings : List Finding) : Verdict :=
  if findings.any Finding.isIssue then .fail
  else if findings.any Finding.isWarning then .passWithWarnings
  else .pass

/-- Whether the plugin passes. -/
def isPassing (verdict : Verdict) : Bool := verdict != .fail

/-- The verdict on the result line of a report. -/
def label : Verdict → String
  | pass => "PASSED"
  | passWithWarnings => "PASSED WITH WARNINGS"
  | fail => "FAILED"

/-- The name of a verdict in documents. -/
def key : Verdict → String
  | pass => "pass"
  | passWithWarnings => "pass_with_warnings"
  | fail => "fail"

end Verdict

/-- The result of validating one plugin. -/
structure Report where
  pluginId : String
  pluginPath : String
  findings : List Finding
  deriving DecidableEq, Repr

namespace Report

/-- The verdict of the findings. -/
def verdict (report : Report) : Verdict := .ofFindings report.findings

/-- The findings that block the plugin. -/
def issues (report : Report) : List Finding := report.findings.filter Finding.isIssue

/-- The findings that advise. -/
def warnings (report : Report) : List Finding := report.findings.filter Finding.isWarning

/-- The lines of a section of a report: a heading with the number of findings, and the findings
numbered from one. No findings, no section. -/
def listing (heading : String) (findings : List Finding) : String :=
  if findings.isEmpty then ""
  else
    "\n" ++ heading ++ " (" ++ toString findings.length ++ "):\n" ++
      String.join (findings.mapIdx fun index finding =>
        "  " ++ toString (index + 1) ++ ". [" ++ finding.code ++ "] " ++ finding.message ++ "\n")

/-- The report as text. The last line tells the verdict. -/
def render (report : Report) : String :=
  "=== Plugin Validation Results ===\n" ++
    "Plugin ID: " ++ report.pluginId ++ "\n" ++
    "Plugin Path: " ++ report.pluginPath ++ "\n" ++
    (if report.findings.isEmpty then "\nPlugin passed all validation checks.\n"
      else listing "Issues Found" report.issues ++ listing "Warnings" report.warnings) ++
    "\nResult: " ++ report.verdict.label ++ "\n"

/-- The report as a document. -/
def toJson (report : Report) : Json :=
  .object [("plugin_id", .string report.pluginId), ("plugin_path", .string report.pluginPath),
    ("verdict", .string report.verdict.key),
    ("issues", .number (.integer report.issues.length)),
    ("warnings", .number (.integer report.warnings.length)),
    ("findings", .array (report.findings.map Finding.toJson))]

end Report

/-- A plugin that could not be validated at all, with the reason. -/
structure Unvalidated where
  pluginId : String
  error : String
  deriving DecidableEq, Repr

/-- The outcome of validating many plugins. -/
structure Summary where
  reports : List Report
  unvalidated : List Unvalidated
  deriving DecidableEq, Repr

namespace Summary

/-- The number of plugins. -/
def total (summary : Summary) : Nat := summary.reports.length + summary.unvalidated.length

/-- The number of plugins that pass. -/
def passed (summary : Summary) : Nat := (summary.reports.filter (·.verdict.isPassing)).length

/-- The number of plugins that do not pass, those that could not be validated included. -/
def failed (summary : Summary) : Nat := summary.total - summary.passed

/-- The exit status: zero when nothing failed. -/
def exitCode (summary : Summary) : Nat := if 0 < summary.failed then 1 else 0

/-- The summary as text. -/
def render (summary : Summary) : String :=
  "=== Validation Summary ===\n" ++
    "Total plugins: " ++ toString summary.total ++ "\n" ++
    "Passed: " ++ toString summary.passed ++ "\n" ++
    "Failed: " ++ toString summary.failed ++ "\n" ++
    String.join (summary.unvalidated.map fun plugin =>
      "  " ++ plugin.pluginId ++ ": " ++ plugin.error ++ "\n")

/-- The summary as a document. -/
def toJson (summary : Summary) : Json :=
  .object ([("total", .number (.integer summary.total)),
    ("passed", .number (.integer summary.passed)), ("failed", .number (.integer summary.failed)),
    ("reports", .array (summary.reports.map Report.toJson))] ++
    if summary.unvalidated.isEmpty then []
    else [("unvalidated", .array (summary.unvalidated.map fun plugin =>
      .object [("plugin_id", .string plugin.pluginId), ("error", .string plugin.error)]))])

end Summary

end PluginAudit
