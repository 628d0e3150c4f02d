/-!
# File trees

A file system as a value: files, symbolic links and directories below a root,
with the directory in which work is done. A place is given by the names that
lead to it from the root. What stands at a place may be there and yet not be
read, or not to its end, and what is to be done at a place may be refused.
-/

set_option autoImplicit false

namespace PluginAudit

namespace FileTree

/-- What stands under a name. -/
inductive Node where
  | file (bytes : ByteArray)
  | link (target : String)
  | directory (entries : List (String × Node))

namespace Node

/-- Whether a node is a directory. -/
def isDirectory : Node → Bool
  | directory _ => true
  | _ => false

/-- The entries of a directory; nothing else has any. -/
def entries : Node → List (String × Node)
  | directory entries => entries
  | _ => []

/-- The node of a name in a directory. -/
def child? (node : Node) (name : String) : Option Node := node.entries.lookup name

/-- The node at a place below a node. -/
def at? : Node → List String → Option Node
  | node, [] => some node
  | node, name :: names => (node.child? name).bind fun child => child.at? names

/-- The entries with a node under a name, in the place of the one that it replaces. -/
def setEntry (name : String) (node : Node) : List (String × Node) → List (String × Node)
  | [] => [(name, node)]
  | (other, old) :: rest =>
    if other = name then (name, node) :: rest else (other, old) :: setEntry name node rest

/-- The tree with a node at a place. The directory of the place has to be there; otherwise nothing
changes. -/
def set (new : Node) : List String → Node → Node
  | [], _ => new
  | [name], directory entries => directory (setEntry name new entries)
  | name :: names, directory entries =>
    match entries.lookup name with
    | some child => directory (setEntry name (set new names child) entries)
    | none => directory entries
  | _, node => node

/-- The tree without the node at a place. -/
def erase : List String → Node → Node
  | [name], directory entries => directory (entries.filter fun entry => entry.1 != name)
  | name :: names, directory entries =>
    match entries.lookup name with
    | some child => directory (setEntry name (erase names child) entries)
    | none => directory entries
  | _, node => node

/-- Things with names, in the order of their names. -/
def byName {α : Type} (named : List (String × α)) : List (String × α) :=
  named.mergeSort fun first second => !decide (second.1 < first.1)

mutual

/-- The paths of everything below a node: the names in a directory in their order, a directory
with a slash behind it before what it holds. -/
def paths : Node → List String
  | directory entries => (byName (entryPaths entries)).flatMap (·.2)
  | _ => []

/-- The names of entries, each with the paths of the entry and of what is below it. -/
def entryPaths : List (String × Node) → List (String × List String)
  | [] => []
  | (name, directory entries) :: rest =>
    (name, (name ++ "/") :: (paths (directory entries)).map fun path => name ++ "/" ++ path) ::
      entryPaths rest
  | (name, _) :: rest => (name, [name]) :: entryPaths rest

end

end Node

/-- Why the file system refuses. -/
inductive Fault where
  | notFound
  | alreadyThere
  | notDirectory
  | isDirectory
  | busy
  | nameTooLong
  | tooManyLinks
  | permissionDenied
  | notPermitted
  | inputOutput
  | readOnly
  | noSpace
  | quotaExceeded
  | fileTooLarge
  | tooManyOpen
  | noMemory
  | noLocks
  /-- The bytes of a file are no text. -/
  | notText
  /-- A path holds a character that no path can hold. -/
  | nulInPath
  deriving DecidableEq, Repr

/-- What the file system says. -/
def Fault.message : Fault → String
  | notFound => "No such file or directory (os error 2)"
  | alreadyThere => "File exists (os error 17)"
  | notDirectory => "Not a directory (os error 20)"
  | isDirectory => "Is a directory (os error 21)"
  | busy => "Device or resource busy (os error 16)"
  | nameTooLong => "File name too long (os error 36)"
  | tooManyLinks => "Too many levels of symbolic links (os error 40)"
  | permissionDenied => "Permission denied (os error 13)"
  | notPermitted => "Operation not permitted (os error 1)"
  | inputOutput => "Input/output error (os error 5)"
  | readOnly => "Read-only file system (os error 30)"
  | noSpace => "No space left on device (os error 28)"
  | quotaExceeded => "Disk quota exceeded (os error 122)"
  | fileTooLarge => "File too large (os error 27)"
  | tooManyOpen => "Too many open files (os error 24)"
  | noMemory => "Cannot allocate memory (os error 12)"
  | noLocks => "No locks available (os error 37)"
  | notText => "stream did not contain valid UTF-8"
  | nulInPath => "file name contained an unexpected NUL byte"

/-- What the file system says to what is being done. -/
def Fault.during (doing : String) (fault : Fault) : String := doing ++ ": " ++ fault.message

/-- How far what stands at a place can be read: the bytes of a file, or the names in a directory.
-/
inductive Reading where
  | whole
  /-- Reading is not begun. -/
  | refused (fault : Fault)
  /-- Reading breaks off. Of a directory these names are listed before. -/
  | broken (fault : Fault) (listed : List String)
  deriving DecidableEq, Repr

namespace Reading

/-- What keeps reading from coming to the end. -/
def fault? : Reading → Option Fault
  | whole => none
  | refused fault => some fault
  | broken fault _ => some fault

/-- Whether a name that is in a directory is listed. -/
def lists (name : String) : Reading → Bool
  | whole => true
  | refused _ => false
  | broken _ listed => listed.contains name

/-- The text that is read of the bytes of a file. -/
def text (reading : Reading) (bytes : ByteArray) : Except Fault String :=
  match reading.fault? with
  | some fault => .error fault
  | none =>
    match String.fromUTF8? bytes with
    | some text => .ok text
    | none => .error .notText

theorem present_whole (_place : List String) : whole.fault? ≠ some .notFound := nofun

end Reading

/-- What can be done at a place besides reading. -/
inductive Deed where
  /-- Making a directory or a file under a new name. -/
  | make
  /-- Opening a file that is there. -/
  | reopen
  | lock
  | write
  /-- Waiting until what is written is on the disk. -/
  | sync
  /-- Putting a file under a name in the place of what has it. -/
  | replace
  | remove
  deriving DecidableEq, Repr

end FileTree

/-- A file system with the place in which work is done. -/
structure FileTree where
  root : FileTree.Node
  workplace : List String
  /-- How far what stands at a place can be read. -/
  reading : List String → FileTree.Reading := fun _ => .whole
  /-- What stands somewhere is not missing when it is read. -/
  present : ∀ place, (reading place).fault? ≠ some .notFound := by
    exact FileTree.Reading.present_whole
  /-- Why something cannot be done at a place. -/
  refuses : FileTree.Deed → List String → Option FileTree.Fault := fun _ _ => none

end PluginAudit
