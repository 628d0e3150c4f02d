import PluginAudit.FileTree.Basic
import PluginAudit.Path

/-!
# Where paths lead

A path is followed step by step from the root or from the place of work.
Symbolic links on the way are followed; one at the end is followed when asked
for. Every step needs a directory to start from, and only the last name may be
missing.
-/

set_option autoImplicit false

namespace PluginAudit

namespace FileTree

open PluginAudit.Path (Component)

/-- Where a path leads. -/
inductive Spot where
  /-- To a node. -/
  | found (place : List String) (node : Node)
  /-- To a name that is missing in a directory. -/
  | vacant (directory : List String) (name : String)

/-- The number of bytes that a name may have. -/
def nameLimit : Nat := 255

/-- The number of bytes that a path may have. -/
def pathLimit : Nat := 4095

/-- The number of links that may be followed on a way. -/
def linkLimit : Nat := 40

/-- Takes steps from a place. `follow` says whether a link at the end is followed, and `onLink`
goes on from a directory with the target of a link and the steps behind it. -/
def walk (root : Node) (follow : Bool)
    (onLink : List String → String → List Component → Except Fault Spot) :
    List String → List Component → Except Fault Spot
  | place, [] =>
    match root.at? place with
    | some node => .ok (.found place node)
    | none => .error .notFound
  | place, step :: rest =>
    match root.at? place with
    | none => .error .notFound
    | some node =>
      if !node.isDirectory then .error .notDirectory
      else
        match step with
        | .root => walk root follow onLink [] rest
        | .here => walk root follow onLink place rest
        | .up => walk root follow onLink place.dropLast rest
        | .name name =>
          if nameLimit < name.utf8ByteSize then .error .nameTooLong
          else
            match node.child? name with
            | none => if rest.isEmpty then .ok (.vacant place name) else .error .notFound
            | some (.link target) =>
              if rest.isEmpty && !follow then .ok (.found (place ++ [name]) (.link target))
              else onLink place target rest
            | some _ => walk root follow onLink (place ++ [name]) rest

/-- The steps of a path, which must stay at its end when that is a slash. -/
def pathSteps (path : Path) : List Component :=
  (if path.isAbsolute then [.root] else []) ++ path.steps ++
    if path.endsInSlash then [.here] else []

/-- Takes steps, following at most so many links. -/
def walkLinks (root : Node) (follow : Bool) :
    Nat → List String → List Component → Except Fault Spot
  | 0 => walk root follow fun _ _ _ => .error .tooManyLinks
  | links + 1 =>
    walk root follow fun place target rest =>
      if target.isEmpty then .error .notFound
      else walkLinks root follow links place (pathSteps ⟨target⟩ ++ rest)

/-- Checks that a path can be one. -/
def checkPath (path : Path) : Except Fault Unit :=
  if path.text.toList.contains '\x00' then .error .nulInPath
  else if path.text.isEmpty then .error .notFound
  else if pathLimit < path.text.utf8ByteSize then .error .nameTooLong
  else .ok ()

/-- Where a path leads. -/
def resolve (tree : FileTree) (follow : Bool) (path : Path) : Except Fault Spot := do
  checkPath path
  walkLinks tree.root follow linkLimit tree.workplace (pathSteps path)

/-- The node to which a path leads, with its place. -/
def locate (tree : FileTree) (follow : Bool) (path : Path) :
    Except Fault (List String × Node) := do
  match ← tree.resolve follow path with
  | .found place node => .ok (place, node)
  | .vacant _ _ => .error .notFound

/-! ## Reading -/

/-- Whether a path leads to anything, links followed. -/
def has (tree : FileTree) (path : Path) : Bool := (tree.locate true path).isOk

/-- Whether a path leads to a directory, links followed. -/
def isDirectory (tree : FileTree) (path : Path) : Bool :=
  match tree.locate true path with
  | .ok (_, node) => node.isDirectory
  | .error _ => false

/-- The text of the file to which a path leads. -/
def readText (tree : FileTree) (path : Path) : Except Fault String := do
  let (place, node) ← tree.locate true path
  match node, tree.reading place with
  | .file bytes, reading => reading.text bytes
  | _, .refused fault => .error fault
  | _, _ => .error .isDirectory

/-- The entries of the directory to which a path leads. -/
def list (tree : FileTree) (path : Path) : Except Fault (List (String × Node)) := do
  let (place, node) ← tree.locate true path
  match node, (tree.reading place).fault? with
  | .directory entries, none => .ok entries
  | .directory _, some fault => .error fault
  | _, _ => .error .notDirectory

/-- The names from the root to where a path leads. -/
def canonical (tree : FileTree) (path : Path) : Except Fault (List String) := do
  .ok (← tree.locate true path).1

end FileTree

end PluginAudit
