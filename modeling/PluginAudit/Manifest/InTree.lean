import PluginAudit.FileTree.Resolution
import PluginAudit.Finding
import PluginAudit.Manifest.Basic

/-!
# Manifest files

A manifest is read from its file. A file that is missing is no finding here; one
that cannot be read, or whose text is no manifest document, is.
-/

set_option autoImplicit false

namespace PluginAudit.Manifest

/-- The finding of a manifest file that cannot be put to use. -/
def unusable (file message : String) : Finding where
  severity := .issue
  category := .manifestParse
  code := "M001"
  message := message
  file := some file

/-- The members of the manifest in a file, none if there is no file. -/
def read (tree : FileTree) (path : Path) : Except Finding (Option Json.Members) :=
  let file := path.fileName?.getD ""
  if !tree.has path then .ok none
  else
    match tree.readText path with
    | .error fault => .error (unusable file ("Failed to read " ++ file ++ ": " ++ fault.message))
    | .ok text =>
      match parse text with
      | .error fault => .error (unusable file (fault.message ++ " in " ++ file))
      | .ok members => .ok (some members)

end PluginAudit.Manifest
