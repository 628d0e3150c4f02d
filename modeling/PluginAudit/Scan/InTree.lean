import PluginAudit.Dependencies.InTree
import PluginAudit.Scan

/-!
# Scanning a plugin

The implementation modules of a plugin are the files below its directory whose
extension is scanned. Packages that are installed and the history of versions
are passed over, and so are symbolic links. A walk that takes the names in each
directory in their order meets modules, and directories that it cannot list:
these are told first, and then each module is scanned as far as it can be read.
-/

set_option autoImplicit false

namespace PluginAudit.Scan

open FileTree (Node Reading)

/-- The names of directories that are not entered. -/
def skippedDirectories : List String := ["node_modules", ".git"]

/-- An implementation module: the names that lead to it from the directory of the plugin, and what
reading it yields. -/
structure Module where
  names : List String
  text : Except FileTree.Fault String

/-- A directory that is not listed, or not to its end: the names that lead to it from the
directory of the plugin, and why. -/
structure Obstacle where
  names : List String
  fault : FileTree.Fault
  /-- Whether some entries may have been listed. -/
  begun : Bool
  deriving DecidableEq, Repr

/-- What a walk meets. -/
inductive Meeting where
  | module (found : Module)
  | obstacle (found : Obstacle)

namespace Meeting

/-- The module that is met. -/
def module? : Meeting → Option Module
  | module found => some found
  | obstacle _ => none

/-- The directory that is met and not listed to its end. -/
def obstacle? : Meeting → Option Obstacle
  | module _ => none
  | obstacle found => some found

/-- The names that lead to what is met. -/
def names : Meeting → List String
  | module found => found.names
  | obstacle found => found.names

/-- What is met, seen from the directory above. -/
def below (name : String) : Meeting → Meeting
  | module found => module { found with names := name :: found.names }
  | obstacle found => obstacle { found with names := name :: found.names }

end Meeting

/-- The obstacle that a directory is. -/
def obstacle? : Reading → Option Obstacle
  | .whole => none
  | .refused fault => some ⟨[], fault, false⟩
  | .broken fault _ => some ⟨[], fault, true⟩

/-- Whether a file with a name is an implementation module. -/
def isModuleName (rules : Rules) (name : String) : Bool :=
  (Path.nameExtension? name).any rules.scansExtension

mutual

/-- What a walk meets in a directory. How far the directory and what is below it can be read is
told by the names that lead there. -/
def meetingsBelow (rules : Rules) (reading : List String → Reading) : Node → List Meeting
  | .directory entries =>
    (obstacle? (reading [])).toList.map .obstacle ++
      (Node.byName (entryMeetings rules reading entries)).flatMap (·.2)
  | _ => []

/-- The names of entries, each with what is met at the entry or below it. -/
def entryMeetings (rules : Rules) (reading : List String → Reading) :
    List (String × Node) → List (String × List Meeting)
  | [] => []
  | (name, .file bytes) :: rest =>
    (name,
      if (reading []).lists name && isModuleName rules name then
        [.module ⟨[name], (reading [name]).text bytes⟩]
      else []) :: entryMeetings rules reading rest
  | (name, .directory entries) :: rest =>
    (name,
      if (reading []).lists name && !skippedDirectories.contains name then
        (meetingsBelow rules (fun more => reading (name :: more)) (.directory entries)).map
          (Meeting.below name)
      else []) :: entryMeetings rules reading rest
  | (name, .link _) :: rest => (name, []) :: entryMeetings rules reading rest

end

/-- How far what stands below a place can be read by a path that leads to the place. -/
def readingBelow (tree : FileTree) (path : Path) (place names : List String) : Reading :=
  match FileTree.checkPath (path.under names) with
  | .ok _ => tree.reading (place ++ names)
  | .error fault => .refused fault

/-- What a walk through a plugin meets, or why there is nothing to walk. A link to the directory
of the plugin is followed; a plugin that is a file is its own module. -/
def meetings (rules : Rules) (tree : FileTree) (plugin : Path) :
    Except FileTree.Fault (List Meeting) := do
  match ← tree.locate false plugin with
  | (place, .directory entries) =>
    .ok (meetingsBelow rules (readingBelow tree plugin place) (.directory entries))
  | (place, .file bytes) =>
    .ok (if plugin.extension?.any rules.scansExtension then
      [.module ⟨[], (tree.reading place).text bytes⟩] else [])
  | (_, .link _) =>
    match ← tree.locate true plugin with
    | (place, .directory entries) =>
      .ok (meetingsBelow rules (readingBelow tree plugin place) (.directory entries))
    | _ => .ok []

/-- The modules of a plugin, as far as they are met. -/
def modules (rules : Rules) (tree : FileTree) (plugin : Path) :
    Except FileTree.Fault (List Module) := do
  .ok ((← meetings rules tree plugin).filterMap Meeting.module?)

/-- How findings name what names lead to: by its path from the directory of the plugin. -/
def fileOf (names : List String) : String :=
  String.ofList (("/".intercalate names).toList.map fun c => if c = '\\' then '/' else c)

/-- How findings name a module. -/
def Module.file (found : Module) : String := fileOf found.names

/-- The finding of a place that cannot be scanned. -/
def unreadable (file reason : String) : Finding where
  severity := .warning
  category := .scanIo
  code := "IO01"
  message := "Failed to scan " ++ file ++ " for security issues: " ++ reason
  file := some file

/-- The finding of a directory that is not listed to its end. Where listing breaks off, it does
not tell where. -/
def obstruction (plugin : Path) (found : Obstacle) : Finding :=
  if found.begun then unreadable "." found.fault.message
  else
    unreadable (fileOf found.names)
      (found.fault.during ("IO error for operation on " ++ (plugin.under found.names).text))

/-- The findings in a module. -/
def checkModule (rules : Rules) (found : Module) : List Finding :=
  match found.text with
  | .ok content => source rules found.file content
  | .error fault => [unreadable found.file fault.message]

/-- The findings of a walk through a plugin: the directories that could not be listed, and those
in the modules. -/
def checkModules (rules : Rules) (tree : FileTree) (plugin : Path) : List Finding :=
  match meetings rules tree plugin with
  | .ok met =>
    (met.filterMap Meeting.obstacle?).map (obstruction plugin) ++
      (met.filterMap Meeting.module?).flatMap (checkModule rules)
  | .error fault => [obstruction plugin ⟨[], fault, false⟩]

/-- The findings of a scan of a plugin: its modules, and dangerous packages. -/
def checkPlugin (layout : Layout) (rules : Rules) (tree : FileTree) (plugin : Path) :
    List Finding :=
  checkModules rules tree plugin ++ Dependencies.auditDangerous layout rules tree plugin

end PluginAudit.Scan
