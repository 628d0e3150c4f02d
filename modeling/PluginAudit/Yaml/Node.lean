import PluginAudit.Yaml.Cursor

/-!
# Trees of nodes

What a document holds. A node keeps the place where it starts, its tag, and the
number of its anchor, by which aliases refer to it.

A document that is broken off still has a tree: a cut stands where the next
node would have followed, and a list of items or of entries that is broken off
ends in one.
-/

set_option autoImplicit false

namespace PluginAudit.Yaml

/-- What can be said about any node. -/
structure Properties where
  /-- The place where the node starts. -/
  mark : Mark
  /-- The number of its anchor. -/
  anchor : Option Nat := none
  /-- Its tag in full. -/
  tag : Option String := none
  deriving DecidableEq, Repr

/-- A node of a document. -/
inductive Node where
  /-- A text; `plain` says that it is written without quotes and not as a block. -/
  | scalar (properties : Properties) (text : String) (plain : Bool)
  | sequence (properties : Properties) (items : List Node)
  | mapping (properties : Properties) (entries : List (Node × Node))
  /-- The node of an anchor once more. -/
  | aliasOf (mark : Mark) (anchor : Nat)
  /-- The root of a stream without a document. -/
  | void (mark : Mark)
  /-- The end of what could be read. -/
  | cut

namespace Node

/-- The node where nothing is written. -/
def empty (mark : Mark) : Node := .scalar { mark } "" true

/-- Whether a node is nothing written, or nothing at all. -/
def isBlank : Node → Bool
  | scalar _ text plain => plain && text.isEmpty
  | void _ => true
  | _ => false

/-- The node with the number of its anchor, if it has one. -/
def ownAnchor (node : Node) (properties : Properties) : List (Nat × Node) :=
  match properties.anchor with
  | none => []
  | some anchor => [(anchor, node)]

mutual

/-- The nodes with an anchor, in the order in which they start. -/
def anchored : Node → List (Nat × Node)
  | scalar properties text plain => ownAnchor (scalar properties text plain) properties
  | sequence properties items =>
    ownAnchor (sequence properties items) properties ++ anchoredItems items
  | mapping properties entries =>
    ownAnchor (mapping properties entries) properties ++ anchoredEntries entries
  | aliasOf _ _ => []
  | void _ => []
  | cut => []

/-- The nodes with an anchor below a list of items. -/
def anchoredItems : List Node → List (Nat × Node)
  | [] => []
  | item :: items => anchored item ++ anchoredItems items

/-- The nodes with an anchor below a list of entries. -/
def anchoredEntries : List (Node × Node) → List (Nat × Node)
  | [] => []
  | (key, value) :: entries => anchored key ++ anchored value ++ anchoredEntries entries

end

mutual

/-- The number of marks that a tree consists of: one for a scalar or an alias, two for a
collection, unless it is broken off. -/
def size : Node → Nat
  | scalar _ _ _ => 1
  | sequence _ items => 1 + sizeItems items
  | mapping _ entries => 1 + sizeEntries entries
  | aliasOf _ _ => 1
  | void _ => 1
  | cut => 0

/-- The number of marks of a list of items, with its end. -/
def sizeItems : List Node → Nat
  | [] => 1
  | cut :: _ => 0
  | item :: items => size item + sizeItems items

/-- The number of marks of a list of entries, with its end. -/
def sizeEntries : List (Node × Node) → Nat
  | [] => 1
  | (cut, _) :: _ => 0
  | (key, cut) :: _ => size key
  | (key, value) :: entries => size key + size value + sizeEntries entries

end

end Node

end PluginAudit.Yaml
