import PluginAudit.Rules.Basic

/-!
# Failures

What can keep an operation from giving an answer at all. A problem inside a
plugin is never a failure: it is a finding on the plugin's report.
-/

set_option autoImplicit false

namespace PluginAudit

/-- Why an operation gives no answer. -/
inductive Failure where
  /-- There is no directory at the path of a plugin. -/
  | pluginNotFound (path : String)
  /-- An id that is not the name of a directory. -/
  | invalidId (id : String)
  /-- The file system refuses. -/
  | io (reason : String)
  /-- A JSON document cannot be read. -/
  | json (reason : String)
  /-- A YAML document cannot be read. -/
  | yaml (reason : String)
  /-- A rule document cannot be put to use. -/
  | rules (fault : Rules.Fault)
  /-- The registry at a path cannot be read, locked or written. -/
  | registry (path reason : String)
  deriving DecidableEq, Repr

namespace Failure

/-- A failure in words. -/
def message : Failure → String
  | pluginNotFound path => "plugin not found at path: " ++ path
  | invalidId id => "invalid plugin id '" ++ id ++ "': must be a single directory name"
  | io reason => "IO error: " ++ reason
  | json reason => "JSON error: " ++ reason
  | yaml reason => "YAML error: " ++ reason
  | rules fault => "invalid rule set: " ++ fault.message
  | registry path reason => "registry error at " ++ path ++ ": " ++ reason

end Failure

end PluginAudit
