import PluginAudit.Yaml.Document
import PluginAudit.Yaml.Scalar

/-!
# Documents of a fixed shape

Readers for the nodes of a document whose kind is laid down. A refusal names
the path to the node and its place. Aliases are followed where they stand; how
deep collections may lie in each other and how often aliases may be followed is
limited, so that a small document cannot stand for a huge one.
-/

set_option autoImplicit false

namespace PluginAudit.Yaml

/-- The way from the root of a document to a node. -/
inductive Trail where
  | root
  | item (parent : Trail) (index : Nat)
  | field (parent : Trail) (name : String)
  /-- The value of a key that is no scalar. -/
  | unnamed (parent : Trail)
  deriving DecidableEq, Repr

namespace Trail

/-- A path in words; the root is not named. -/
def message : Trail → String
  | root => "."
  | item parent index => parent.message ++ "[" ++ toString index ++ "]"
  | field root name => name
  | field parent name => parent.message ++ "." ++ name
  | unnamed root => "?"
  | unnamed parent => parent.message ++ ".?"

end Trail

/-- Why a document is refused. -/
inductive Refusal where
  /-- A node is not what it has to be. The place is known once a node around the problem is. -/
  | shape (problem : String) (place : Option (Mark × Trail))
  /-- The text is no document. -/
  | broken (fault : Fault)
  /-- Collections lie too deep in each other. -/
  | tooDeep (mark : Mark)
  /-- Aliases are followed too often. -/
  | tooManyAliases
  /-- Something follows the document. -/
  | continued
  deriving DecidableEq, Repr

namespace Refusal

/-- A refusal in words. -/
def message : Refusal → String
  | shape problem none => problem
  | shape problem (some (mark, .root)) => problem ++ mark.located
  | shape problem (some (mark, trail)) => trail.message ++ ": " ++ problem ++ mark.located
  | broken fault => fault.message
  | tooDeep mark => "recursion limit exceeded" ++ mark.located
  | tooManyAliases => "repetition limit exceeded"
  | continued => "deserializing from YAML containing more than one document is not supported"

/-- A refusal that lies at a node, unless it has a place already. -/
def located (mark : Mark) (trail : Trail) : Refusal → Refusal
  | shape problem none => shape problem (some (mark, trail))
  | other => other

end Refusal

/-- What is known while a document is read. -/
structure Anchors where
  /-- The nodes with their anchors, in the order in which they start. -/
  nodes : List (Nat × Node)
  /-- How often aliases may be followed. -/
  limit : Nat
  /-- The fault behind a cut. -/
  fault : Option Fault

/-- A reader of nodes, which counts the aliases that it follows. -/
abbrev Decoder := ReaderT Anchors (StateT Nat (Except Refusal))

namespace Decoder

/-- Refuses. -/
def refuse {α : Type} (refusal : Refusal) : Decoder α := throw refusal

/-- Refuses because of what a node is not, at a place that is still to be told. -/
def problem {α : Type} (text : String) : Decoder α := refuse (.shape text none)

/-- Refuses because the document is cut here. -/
def cut {α : Type} : Decoder α := do
  match (← read).fault with
  | some fault => refuse (.broken fault)
  | none => problem "EOF while parsing a value"

/-- Tells the place of a refusal that has none. -/
def placed {α : Type} (mark : Mark) (trail : Trail) (decoder : Decoder α) : Decoder α :=
  fun anchors followed => (decoder anchors followed).mapError (Refusal.located mark trail)

/-- The node that a node stands for. -/
def follow : Node → Decoder Node
  | .aliasOf _ anchor => do
    let followed ← get
    let anchors ← read
    if anchors.limit < followed + 1 then refuse .tooManyAliases
    else
      set (followed + 1)
      match (anchors.nodes.filter fun known => known.1 == anchor).getLast? with
      | some (_, node) => pure node
      | none => cut
  | node => pure node

end Decoder

/-- The place where a node starts. -/
def Node.mark : Node → Mark
  | scalar properties _ _ => properties.mark
  | sequence properties _ => properties.mark
  | mapping properties _ => properties.mark
  | aliasOf mark _ => mark
  | void mark => mark
  | cut => {}

/-- The path to the value of a key. -/
def Trail.ofKey (trail : Trail) : Node → Trail
  | .scalar _ text _ => .field trail text
  | _ => .unnamed trail

namespace Decoder

/-! ## Nodes of a kind -/

/-- Refuses a node that is not what was wanted. -/
def mismatch {α : Type} (wanted : String) (node : Node) : Decoder α :=
  let found (kind : String) := problem ("invalid type: " ++ kind ++ ", expected " ++ wanted)
  match node with
  | .scalar properties text plain =>
    match Scalar.ofTagged properties.tag text plain with
    | .ok scalar => found scalar.kind
    | .error refusal => problem refusal
  | .sequence _ _ => found "sequence"
  | .mapping _ _ => found "map"
  | .void _ => found "unit value"
  | _ => cut

/-- Reads the text of any scalar, whatever it stands for. -/
def text (wanted : String) (trail : Trail) (node : Node) : Decoder String := do
  let node ← follow node
  placed node.mark trail
    (match node with
    | .scalar _ text _ => pure text
    | node => mismatch wanted node)

/-- Reads a sequence, item by item. A node where nothing is written is an empty one. `item` is
told how many levels may still be opened. -/
def listOf {α : Type} (item : Nat → Trail → Node → Decoder α) (levels : Nat) (trail : Trail)
    (node : Node) : Decoder (List α) := do
  let node ← follow node
  placed node.mark trail
    (match node, levels with
    | .sequence properties _, 0 => refuse (.tooDeep properties.mark)
    | .sequence _ items, levels + 1 =>
      items.zipIdx.mapM fun (node, index) => item levels (.item trail index) node
    | node, _ => if node.isBlank then pure [] else mismatch "a sequence" node)

/-! ## Records -/

/-- The name of a field in a message. -/
def fieldName (name : String) : String := "`" ++ name ++ "`"

/-- Names of fields in a message. -/
def fieldNames : List String → String
  | [] => "no fields"
  | [name] => fieldName name
  | [first, second] => fieldName first ++ " or " ++ fieldName second
  | names => "one of " ++ ", ".intercalate (names.map fieldName)

/-- Reads the name of a field, which has to be known. -/
def knownField (known : List String) (trail : Trail) (key : Node) : Decoder String := do
  let node ← follow key
  placed node.mark trail
    (match node with
    | .scalar _ text _ =>
      if known.contains text then pure text
      else problem ("unknown field " ++ fieldName text ++ ", expected " ++ fieldNames known)
    | node => mismatch "field identifier" node)

/-- Reads a mapping with known fields. `field` takes one of them and is told how many levels may
still be opened; `finish` makes the record of the fields, or says which is missing. -/
def record {σ α : Type} (wanted : String) (known : List String)
    (field : Nat → σ → String → Trail → Node → Decoder σ) (start : σ) (finish : σ → Decoder α)
    (levels : Nat) (trail : Trail) (node : Node) : Decoder α := do
  let node ← follow node
  placed node.mark trail
    (match node, levels with
    | .mapping properties _, 0 => refuse (.tooDeep properties.mark)
    | .mapping _ entries, levels + 1 => do
      let fields ← entries.foldlM (fun fields (key, value) => do
        let name ← knownField known trail key
        field levels fields name (trail.ofKey key) value) start
      finish fields
    | node, _ => if node.isBlank then finish start else mismatch wanted node)

/-- Reads a field that has not been read before. -/
def once {α : Type} (name : String) (before : Option α) (decoder : Decoder α) :
    Decoder (Option α) :=
  match before with
  | some _ => problem ("duplicate field " ++ fieldName name)
  | none => some <$> decoder

/-- A field that has to be there. -/
def required {α : Type} (name : String) : Option α → Decoder α
  | some value => pure value
  | none => problem ("missing field " ++ fieldName name)

end Decoder

/-! ## Content of any shape -/

/-- What a node holds, of whatever shape. -/
inductive Content where
  | scalar (value : Scalar)
  | sequence (items : List Content)
  | mapping (entries : List (Content × Content))

namespace Content

open Decoder

/-- Reads a node that has no tag of its own, with which it could stand for anything. -/
def untagged {α : Type} (properties : Properties) (decoder : Decoder α) : Decoder α :=
  if properties.tag.any fun tag => tag.front == '!' then
    problem "untagged and internally tagged enums do not support enum input"
  else decoder

/-- Reads what a scalar stands for. -/
def ofScalar (tag : Option String) (text : String) (plain : Bool) : Decoder Content :=
  match Scalar.ofTagged tag text plain with
  | .error refusal => problem refusal
  | .ok (.integer value) =>
    if Scalar.isWide value then
      problem ("invalid type: " ++ (Scalar.integer value).kind ++ ", expected any value")
    else pure (scalar (.integer value))
  | .ok value => pure (scalar value)

/-- Reads a node of any shape. `levels` is the number of levels that may still be opened. -/
def decode : Nat → Trail → Node → Decoder Content
  | levels, trail, node => do
    let node ← follow node
    placed node.mark trail
      (match node, levels with
      | .scalar properties text plain, _ =>
        untagged properties (ofScalar properties.tag text plain)
      | .sequence properties items, levels + 1 =>
        untagged properties do
          let items ← items.zipIdx.mapM fun (item, index) => decode levels (.item trail index) item
          pure (sequence items)
      | .mapping properties entries, levels + 1 =>
        untagged properties do
          let entries ← entries.mapM fun (key, value) => do
            let first ← decode levels trail key
            let second ← decode levels (trail.ofKey key) value
            pure (first, second)
          pure (mapping entries)
      | .sequence properties _, 0 => untagged properties (refuse (.tooDeep properties.mark))
      | .mapping properties _, 0 => untagged properties (refuse (.tooDeep properties.mark))
      | .void _, _ => pure (scalar .nothing)
      | _, _ => cut)

end Content

/-! ## Whole documents -/

/-- The number of levels that may be opened in a document. -/
def mostLevels : Nat := 128

/-- Reads the document of a text. What is wrong with its shape is told before the fault that
breaks it off behind. -/
def decode {α : Type} (decoder : Nat → Trail → Node → Decoder α) (text : String) :
    Except Refusal α := do
  let document := Document.ofText text
  let anchors : Anchors :=
    ⟨document.root.anchored, document.root.size * 100, document.fault⟩
  let (value, _) ← (decoder mostLevels .root document.root).run anchors |>.run 0
  match document.fault with
  | some fault => .error (.broken fault)
  | none => if document.continued then .error .continued else .ok value

end PluginAudit.Yaml
