import PluginAudit.Failure
import PluginAudit.FileTree.Change
import PluginAudit.Layout
import PluginAudit.Registry.Basic
import PluginAudit.Text.Quoted

/-!
# The registry in its file

The registry is read, changed and written as a whole, and only by whoever holds
its lock, a file beside it. A registry that is not there is an empty one; one
that cannot be read is never replaced.
-/

set_option autoImplicit false

namespace PluginAudit.Registry

/-- A change of a file tree that may fail as an operation. -/
abbrev Operation := ExceptT Failure (StateM FileTree)

/-- A change of the tree whose failure is one of the registry at a path. -/
def attempt {ε α : Type} (path : Path) (describe : ε → String)
    (change : ExceptT ε (StateM FileTree) α) : Operation α :=
  change.adapt fun fault => .registry path.text (describe fault)

/-- The registry at a path. -/
def load (tree : FileTree) (path : Path) : Except Failure Registry :=
  match tree.readText path with
  | .error fault =>
    if fault = .notFound then .ok {}
    else .error (.registry path.text ("failed to read: " ++ fault.message))
  | .ok text =>
    (parse text).mapError fun reason => .registry path.text ("failed to parse: " ++ reason)

/-- The directory of a registry. -/
def directoryOf (path : Path) : Path :=
  match path.parent? with
  | some parent => if parent.text.isEmpty then ⟨"."⟩ else parent
  | none => ⟨"."⟩

/-- What is said of a fault in a step of replacing a registry. Of the temporary file the path is
told as well; where its name is there already whatever is tried, there are too many. -/
def replacing (temporary : Path) : FileTree.ReplacementStep → FileTree.Fault → String
  | .make, .alreadyThere =>
    "failed to create temp file for atomic write: too many temporary files exist at path " ++
      Text.quotedPath temporary.text
  | .make, fault =>
    fault.during "failed to create temp file for atomic write" ++ " at path " ++
      Text.quotedPath temporary.text
  | .write, fault =>
    fault.during "failed to write temp registry" ++ " at path " ++ Text.quotedPath temporary.text
  | .sync, fault => fault.during "failed to sync temp registry"
  | .move, fault => fault.during "failed to replace registry: failed to persist temporary file"

/-- Writes the registry to a path, as a whole or not at all. -/
def save (path : Path) (registry : Registry) : Operation Unit := do
  let directory := directoryOf path
  attempt path (FileTree.Fault.during "failed to create directory")
    (FileTree.makeDirectories directory)
  let temporary := (← get).temporaryPath directory path
  attempt path (fun (step, fault) => replacing temporary step fault)
    (FileTree.replaceFile directory path registry.fileText.toUTF8)

/-- The path of the lock of a registry. -/
def lockPath (path : Path) : Path := path.extended ".lock"

/-- Makes sure that the lock of a registry can be taken. -/
def prepareLock (path : Path) : Operation Unit := do
  match (lockPath path).parent? with
  | some parent =>
    attempt path (FileTree.Fault.during "failed to create lock directory")
      (FileTree.makeDirectories parent)
  | none => pure ()
  attempt path (FileTree.Fault.during "failed to open lock file")
    (FileTree.openFile (lockPath path))
  attempt path (FileTree.Fault.during "failed to acquire exclusive lock")
    (FileTree.lockFile (lockPath path))

/-- Registers a plugin: its entry is put into the registry under its id. -/
def register (path : Path) (id : String) (entry : Entry) : Operation Unit := do
  prepareLock path
  let registry ← ExceptT.mk (pure (load (← get) path))
  save path (registry.insert id entry)

/-- The entry of the plugin in a directory that was validated at an instant. -/
def Entry.ofPlugin (layout : Layout) (tree : FileTree) (plugin : Path) (id : String)
    (instant : Instant) : Entry :=
  ofManifestText (tree.readText (plugin.join layout.manifest)).toOption id instant

end PluginAudit.Registry
