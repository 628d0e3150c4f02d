import PluginAudit.FileTree.Basic

/-!
# What a file tree has more than another

The steps that bring a directory up to date after a change: the directories
that are new, each before what it holds, and the files that are new or hold
something else. Links are made by nobody and are passed over.
-/

set_option autoImplicit false

namespace PluginAudit

namespace FileTree

/-- One step of bringing a directory up to date. -/
inductive Addition where
  | directory (place : List String)
  | file (place : List String) (bytes : ByteArray)

namespace Node

mutual

/-- What a node at a place has more than the one that was there. -/
def additions (place : List String) (old : Option Node) : Node → List Addition
  | directory entries =>
    match old with
    | some (directory before) => entryAdditions place before entries
    | _ => .directory place :: entryAdditions place [] entries
  | file bytes =>
    match old with
    | some (file before) => if before == bytes then [] else [.file place bytes]
    | _ => [.file place bytes]
  | link _ => []

/-- What the entries of the directory at a place have more than those that were there. -/
def entryAdditions (place : List String) (before : List (String × Node)) :
    List (String × Node) → List Addition
  | [] => []
  | (name, node) :: rest =>
    additions (place ++ [name]) (before.lookup name) node ++ entryAdditions place before rest

end

end Node

/-- What the second of two trees has more than the first. -/
def additions (before after : FileTree) : List Addition :=
  after.root.additions [] (some before.root)

/-- The node with another one at a place below it, and with directories on the way to it where
there are none. -/
def Node.graft (new : Node) : Node → List String → Node
  | _, [] => new
  | node, name :: names =>
    directory (setEntry name (graft new ((node.child? name).getD (directory [])) names)
      node.entries)

end FileTree

end PluginAudit
