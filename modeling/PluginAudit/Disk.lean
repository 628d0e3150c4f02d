import PluginAudit.FileTree.Difference
import PluginAudit.FileTree.Resolution
import PluginAudit.Instant.Basic
import PluginAudit.Layout
import PluginAudit.Scan.InTree
import Std.Time.DateTime.Timestamp

/-!
# The disk

Takes a picture of a part of the disk as a file tree, and brings the disk up to
date with a tree that has more.
-/

set_option autoImplicit false

namespace PluginAudit.Disk

open FileTree (Node)

/-- The path that names lead along from the root. -/
def pathOf (place : List String) : String := "/" ++ "/".intercalate place

/-- The names that lead from the root to where a path really leads, if there is anything. -/
def realPlace? (path : String) : IO (Option (List String)) := do
  match ← (IO.FS.realPath path).toBaseIO with
  | .ok real => return some (Path.mk (toString real)).parts
  | .error _ => return none

/-- Why something that stands somewhere cannot be read. -/
abbrev Unreadable := { fault : FileTree.Fault // fault ≠ .notFound }

/-- What the file system says by an error. -/
def faultOf : IO.Error → Unreadable
  | .permissionDenied _ code _ =>
    if code = 1 then ⟨.notPermitted, nofun⟩ else ⟨.permissionDenied, nofun⟩
  | .resourceExhausted _ code _ =>
    if code = 24 then ⟨.tooManyOpen, nofun⟩ else ⟨.noMemory, nofun⟩
  | _ => ⟨.inputOutput, nofun⟩

/-- Looking at the disk, with the places at which something stands that cannot be read. -/
abbrev Look := StateT (List (List String × Unreadable)) IO

/-- What reading at a place yields, or nothing where it is refused. -/
def read? {α : Type} (place : List String) (action : IO α) : Look (Option α) := do
  match ← action.toBaseIO with
  | .ok value => return some value
  | .error error =>
    modify ((place, faultOf error) :: ·)
    return none

/-- The names of the entries of a directory. Where they are not listed, only names that checks
open are tried. -/
def entryNames (place : List String) : Look (List String) := do
  match ← read? place do (← IO.FS.realPath (pathOf place)).readDir with
  | some entries => return entries.toList.map (·.fileName)
  | none =>
    Layout.standard.files.filterM fun name => do
      return (← realPlace? (pathOf (place ++ [name]))).isSome

/-- What stands at a place, with everything below it but for what is in directories that no scan
enters. Links are not followed; one that leads nowhere has no target. -/
partial def nodeAt (place : List String) : Look Node := do
  if !(← (← IO.FS.realPath (pathOf place)).isDir) then
    return .file ((← read? place (IO.FS.readBinFile (pathOf place))).getD ByteArray.empty)
  let entries ← (← entryNames place).mapM fun name => do
    let below := place ++ [name]
    match ← realPlace? (pathOf below) with
    | none => return (name, Node.link "")
    | some target =>
      if target != below then return (name, .link (pathOf target))
      else if Scan.skippedDirectories.contains name then return (name, .directory [])
      else return (name, ← nodeAt below)
  return .directory entries

/-- The places to which the links in a directory lead. -/
def linkedPlaces : Node → List (List String)
  | .directory entries => entries.filterMap fun
    | (_, .link target) => if target.isEmpty then none else some (Path.mk target).parts
    | _ => none
  | _ => []

/-- The directories in a directory. -/
def directoriesIn : Node → List Node
  | .directory entries => (entries.map (·.2)).filter Node.isDirectory
  | _ => []

/-- A picture with what stands at a place, and with what the links lead to that are directly in it
or directly in a directory in it. -/
def withPlace (picture : Node) (place : List String) : Look Node := do
  let node ← nodeAt place
  let mut picture := node.graft picture place
  for linked in (node :: directoriesIn node).flatMap linkedPlaces do
    if (picture.at? linked).isNone then
      picture := (← nodeAt linked).graft picture linked
  return picture

/-- A picture with what stands where steps lead from a place, and with the links on the way. -/
def withSteps (picture : Node) (place : List String) : List Path.Component → Look Node
  | [] => withPlace picture place
  | .root :: rest => withSteps picture [] rest
  | .here :: rest => withSteps picture place rest
  | .up :: rest => withSteps picture place.dropLast rest
  | .name name :: rest => do
    let below := place ++ [name]
    match ← realPlace? (pathOf below) with
    | none => return picture
    | some target =>
      let known (picture : Node) (place : List String) : Node :=
        if (picture.at? place).isSome then picture else Node.graft (.directory []) picture place
      let picture := known (known picture place) target
      let picture :=
        if target = below then picture else Node.graft (.link (pathOf target)) picture below
      withSteps picture target rest

/-- The tree with a root in which some places cannot be read. -/
def treeOf (root : Node) (workplace : List String) (unread : List (List String × Unreadable)) :
    FileTree where
  root := root
  workplace := workplace
  reading place := ((unread.lookup place).map fun why => .refused why.1).getD .whole
  present place := by
    cases unread.lookup place with
    | none => nofun
    | some why => exact fun same => why.2 (Option.some.inj same)

/-- A picture of what stands at paths. -/
def picture (paths : List Path) : IO FileTree := do
  let workplace := ((← realPlace? ".").getD [])
  let start := Node.graft (.directory []) (.directory []) workplace
  let look := paths.foldlM (fun root path =>
    withSteps root workplace (FileTree.pathSteps path)) start
  let (root, unread) ← look.run []
  return treeOf root workplace unread

/-- Makes an addition. A file is replaced as a whole. -/
def add : FileTree.Addition → IO Unit
  | .directory place => IO.FS.createDirAll (pathOf place)
  | .file place bytes => do
    let temporary := pathOf place ++ ".new"
    IO.FS.writeBinFile temporary bytes
    IO.FS.rename temporary (pathOf place)

/-- Acts while holding the lock that is the file at a path, where such a file can be made. -/
def holding {α : Type} (lock : Path) (action : IO α) : IO α := do
  if let some parent := lock.parent? then
    discard (IO.FS.createDirAll parent.text).toBaseIO
  match ← (IO.FS.Handle.mk lock.text .append).toBaseIO with
  | .error _ => action
  | .ok file =>
    file.lock
    try action finally file.unlock

/-- The present instant. -/
def now : IO Instant := do
  let nanos := (← Std.Time.Timestamp.now).toNanosecondsSinceUnixEpoch.val
  return ⟨nanos / 1000000000, (nanos % 1000000000).toNat⟩

end PluginAudit.Disk
