import PluginAudit.FileTree.Resolution

/-!
# Changing a file tree

A change that fails half-way leaves what it has done so far. A file is replaced
as a whole: the new content is written to a temporary file under a name that
nothing has, and this then takes the place of the old file in one step. Where
that comes to nothing, the temporary file is removed.
-/

set_option autoImplicit false

namespace PluginAudit

namespace FileTree

/-- A change of a file tree, which may fail. -/
abbrev Change := ExceptT Fault (StateM FileTree)

open PluginAudit.Path (Component)

/-- What is put to a place can be read, whatever stood there. -/
theorem present_put (tree : FileTree) (place other : List String) :
    (if other = place then Reading.whole else tree.reading other).fault? ≠ some .notFound := by
  split
  · nofun
  · exact tree.present other

/-- The tree with a new node at a place. -/
def withNode (tree : FileTree) (place : List String) (node : Node) : FileTree :=
  { tree with
    root := Node.set node place tree.root
    reading := fun other => if other = place then .whole else tree.reading other
    present := tree.present_put place }

/-- The tree without the node at a place. -/
def without (tree : FileTree) (place : List String) : FileTree :=
  { tree with root := tree.root.erase place }

/-- Fails where something is refused. -/
def permit (deed : Deed) (place : List String) : Change Unit := do
  match (← get).refuses deed place with
  | some fault => throw fault
  | none => pure ()

/-- The directory in which a path ends, and its last step, where there is one. -/
def ending (tree : FileTree) (path : Path) :
    Except Fault (List String × List (String × Node) × Option Component) := do
  checkPath path
  let start := if path.isAbsolute then [Component.root] else []
  match ← walkLinks tree.root true linkLimit tree.workplace (start ++ path.steps.dropLast) with
  | .found place (.directory entries) => .ok (place, entries, path.steps.getLast?)
  | .found _ _ => .error .notDirectory
  | .vacant _ _ => .error .notFound

/-! ## Directories -/

/-- Makes a directory in one that is there. -/
def makeDirectory (path : Path) : Change Unit := do
  let tree ← get
  let (place, entries, last) ← tree.ending path
  match last with
  | some (.name name) =>
    if nameLimit < name.utf8ByteSize then throw .nameTooLong
    else if (entries.lookup name).isSome then throw .alreadyThere
    else
      permit .make (place ++ [name])
      set (tree.withNode (place ++ [name]) (.directory []))
  | _ => throw .alreadyThere

/-- Fails unless there is a directory at a path. -/
def unlessDirectory (path : Path) (fault : Fault) : Change Unit := do
  if (← get).isDirectory path then pure () else throw fault

/-- Makes a directory with those above it, as far as they are missing. `above` bounds how many
these are. -/
def makeDirectoriesWithin (above : Nat) (path : Path) : Change Unit :=
  tryCatch (makeDirectory path) fun fault => do
    if fault = .notFound then
      match above, path.parent? with
      | above + 1, some parent =>
        if !parent.text.isEmpty then makeDirectoriesWithin above parent
        tryCatch (makeDirectory path) (unlessDirectory path)
      | _, _ => throw fault
    else unlessDirectory path fault

/-- Makes a directory with those above it, as far as they are missing. -/
def makeDirectories (path : Path) : Change Unit :=
  if path.text.isEmpty then pure ()
  else makeDirectoriesWithin path.components.length path

/-! ## Files and links -/

/-- Makes sure that a path leads to a file, which is empty when it is new. -/
def openFile (path : Path) : Change Unit := do
  let tree ← get
  match ← tree.resolve true path with
  | .found _ (.directory _) => throw .isDirectory
  | .found place _ => permit .reopen place
  | .vacant place name =>
    permit .make (place ++ [name])
    set (tree.withNode (place ++ [name]) (.file ByteArray.empty))

/-- Takes the lock of the file to which a path leads, as far as the file system is concerned. -/
def lockFile (path : Path) : Change Unit := do
  permit .lock (← (← get).canonical path)

/-- Writes the file to which a path leads. -/
def writeFile (path : Path) (bytes : ByteArray) : Change Unit := do
  openFile path
  let tree ← get
  let (place, _) ← tree.locate true path
  permit .write place
  set { tree with root := Node.set (.file bytes) place tree.root }

/-- Makes a symbolic link. -/
def makeLink (path : Path) (target : String) : Change Unit := do
  let tree ← get
  match ← tree.resolve false path with
  | .found _ _ => throw .alreadyThere
  | .vacant place name =>
    permit .make (place ++ [name])
    set (tree.withNode (place ++ [name]) (.link target))

/-- Removes what is at a path, whatever it is. -/
def remove (path : Path) : Change Unit := do
  let tree ← get
  let (place, _) ← tree.locate false path
  permit .remove place
  set (tree.without place)

/-! ## Replacement -/

/-- The number of names that are tried for a temporary file. -/
def temporaryLimit : Nat := 65536

/-- One of the names that temporary files can have. -/
def temporaryName (number : Nat) : String :=
  let letter (digit : Nat) : Char := Char.ofNat ('a'.toNat + digit % 16)
  String.ofList ['.', 't', 'm', 'p', letter (number / 1048576), letter (number / 65536),
    letter (number / 4096), letter (number / 256), letter (number / 16), letter number]

/-- A name of a temporary file that is not among others, if there is one among so many. -/
def unusedName? (taken : List String) : Nat → Option String
  | 0 => none
  | number + 1 =>
    if taken.contains (temporaryName number) then unusedName? taken number
    else some (temporaryName number)

/-- A path from the root. -/
def fromRoot (tree : FileTree) (path : Path) : Path :=
  (Path.mk ("/" ++ "/".intercalate tree.workplace)).join path.text

/-- The path of a name in a directory from the root. -/
def pathFromRoot (tree : FileTree) (directory : Path) (name : String) : Path :=
  (tree.fromRoot directory).join name

/-- The path that is told of a temporary file: that of an unused name in the directory, or of the
directory itself where there is none. -/
def temporaryPath (tree : FileTree) (directory path : Path) : Path :=
  let used :=
    match tree.locate true directory with
    | .ok (_, .directory entries) => entries.map (·.1)
    | _ => []
  match unusedName? (path.fileName?.toList ++ used) temporaryLimit with
  | some name => tree.pathFromRoot directory name
  | none => tree.fromRoot directory

/-- Makes an empty file in a directory under a name that is neither used there nor the last one of
a path, and answers its place. -/
def makeTemporary (directory path : Path) : Change (List String) := do
  let tree ← get
  match ← tree.locate true directory with
  | (place, .directory entries) =>
    match unusedName? (path.fileName?.toList ++ entries.map (·.1)) temporaryLimit with
    | none => throw .alreadyThere
    | some name =>
      checkPath (tree.pathFromRoot directory name)
      permit .make (place ++ [name])
      set (tree.withNode (place ++ [name]) (.file ByteArray.empty))
      pure (place ++ [name])
  | _ => throw .notDirectory

/-- Writes a temporary file. -/
def writeTemporary (temporary : List String) (bytes : ByteArray) : Change Unit := do
  permit .write temporary
  modify (·.withNode temporary (.file bytes))

/-- Moves the file at a place to a path, over what is there. A directory is not replaced. -/
def moveFile (source : List String) (path : Path) : Change Unit := do
  let tree ← get
  let (place, entries, last) ← tree.ending path
  match last, tree.root.at? source with
  | some (.name name), some file =>
    if nameLimit < name.utf8ByteSize then throw .nameTooLong
    else if path.endsInSlash then throw .notDirectory
    else
      match entries.lookup name with
      | some (.directory _) => throw .isDirectory
      | _ =>
        permit .replace (place ++ [name])
        set ((tree.withNode (place ++ [name]) file).without source)
  | _, _ => throw .busy

/-- The tree without a temporary file, unless removing it is refused. -/
def withoutTemporary (tree : FileTree) (temporary : List String) : FileTree :=
  match tree.refuses .remove temporary with
  | some _ => tree
  | none => tree.without temporary

/-- The steps in which a file is replaced. -/
inductive ReplacementStep where
  /-- Making the temporary file. -/
  | make
  | write
  | sync
  /-- Moving the temporary file over the old one. -/
  | move
  deriving DecidableEq, Repr

/-- Replaces the file at a path by one with new content, which is written to a temporary file in
the given directory first. A step that fails is told with its fault, and what has been there
before is left as it is. -/
def replaceFile (directory path : Path) (bytes : ByteArray) :
    ExceptT (ReplacementStep × Fault) (StateM FileTree) Unit := do
  let temporary ← (makeTemporary directory path).adapt (Prod.mk .make)
  tryCatch
    (do
      (writeTemporary temporary bytes).adapt (Prod.mk .write)
      (permit .sync temporary).adapt (Prod.mk .sync)
      (moveFile temporary path).adapt (Prod.mk .move))
    fun failure => do
      modify (·.withoutTemporary temporary)
      throw failure

end FileTree

end PluginAudit
