import PluginAudit.Proofs.Yaml.Tokens
import PluginAudit.Yaml.Document

/-!
# Nodes of written documents

The tokens of a tree are read into nodes that hold what the tree holds, without
anchors and tags (`node_kinds`), and a written document is one that holds its
record and nothing else (`ofText_document`).
-/

set_option autoImplicit false

namespace PluginAudit.Yaml

namespace Tree

/-! ## Nodes that hold a tree -/

mutual

/-- A node holds what a tree does. A text is written without quotes only where it then stands for
itself. -/
def Holds : Tree → Node → Prop
  | text value, node => ∃ mark, node = .scalar { mark } value (Style.ofText value == .plain)
  | list items, node => ∃ mark nodes, node = .sequence { mark } nodes ∧ ItemsHold items nodes
  | record fields, node =>
    ∃ mark entries, node = .mapping { mark } entries ∧ FieldsHold fields entries

/-- Nodes hold what items do. -/
def ItemsHold : List Tree → List Node → Prop
  | [], nodes => nodes = []
  | item :: items, nodes =>
    ∃ node rest, nodes = node :: rest ∧ item.Holds node ∧ ItemsHold items rest

/-- The entries of a mapping hold what fields do. -/
def FieldsHold : List (String × Tree) → List (Node × Node) → Prop
  | [], entries => entries = []
  | (name, value) :: fields, entries =>
    ∃ mark node rest, entries = (.scalar { mark } name true, node) :: rest ∧ value.Holds node ∧
      FieldsHold fields rest

end

end Tree

namespace TokenReader

/-! ## Steps -/

/-- The reader in front of given tokens. -/
def before (reader : TokenReader) (tokens : List Token) : TokenReader := { reader with tokens }

variable {reader : TokenReader} {token : Token} {more : List Token} {fuel : Nat} {block bare : Bool}

@[simp] theorem peek_before : (reader.before (token :: more)).peek = .ok token := rfl

@[simp] theorem drop_before : (reader.before (token :: more)).drop = reader.before more := rfl

@[simp] theorem withNext_before {α : Type} {cut : α} {read : Token → α × Onward} :
    (reader.before (token :: more)).withNext cut read = read token := rfl

@[simp] theorem andThen_ok {α : Type} {cut first : α} {more : TokenReader → List α × Onward} :
    andThen cut (first, .ok reader) more = (first :: (more reader).1, (more reader).2) := rfl

@[simp] theorem entry_ok {key : Node} {value : TokenReader → Node × Onward} :
    entry (key, .ok reader) value = ((key, (value reader).1), (value reader).2) := rfl

section

variable (reader more fuel)

theorem node_scalar {text : String} {plain : Bool} (kind : token.kind = .scalar text plain) :
    node (fuel + 1) block bare (reader.before (token :: more)) =
      (.scalar { mark := token.start } text plain, .ok (reader.before more)) := by
  simp only [node, head, bind, Except.bind, peek_before, kind, declare, drop_before]
  rfl

theorem node_emptySequence {last : Token} (kind : token.kind = .flowSequenceStart)
    (isLast : last.kind = .flowSequenceEnd) :
    node (fuel + 2) block bare (reader.before (token :: last :: more)) =
      (.sequence { mark := token.start } [], .ok (reader.before more)) := by
  simp only [node, head, bind, Except.bind, peek_before, kind, declare, drop_before, flowItems,
    withNext_before, isLast]
  rfl

theorem node_emptyMapping {last : Token} (kind : token.kind = .flowMappingStart)
    (isLast : last.kind = .flowMappingEnd) :
    node (fuel + 2) block bare (reader.before (token :: last :: more)) =
      (.mapping { mark := token.start } [], .ok (reader.before more)) := by
  simp only [node, head, bind, Except.bind, peek_before, kind, declare, drop_before, flowEntries,
    withNext_before, isLast]
  rfl

theorem node_blockSequence (kind : token.kind = .blockSequenceStart) :
    node (fuel + 1) true bare (reader.before (token :: more)) =
      (blockItems fuel token.start (reader.before more)).map (.sequence { mark := token.start })
        id := by
  simp only [node, head, bind, Except.bind, peek_before, kind, declare, drop_before]
  rfl

theorem node_blockMapping (kind : token.kind = .blockMappingStart) :
    node (fuel + 1) true bare (reader.before (token :: more)) =
      (blockEntries fuel token.start (reader.before more)).map (.mapping { mark := token.start })
        id := by
  simp only [node, head, bind, Except.bind, peek_before, kind, declare, drop_before]
  rfl

theorem node_bareSequence (kind : token.kind = .blockEntry) :
    node (fuel + 1) block true (reader.before (token :: more)) =
      (bareItems fuel (reader.before (token :: more))).map (.sequence { mark := token.start })
        id := by
  simp only [node, head, bind, Except.bind, peek_before, kind, declare]
  rfl

end

/-! ## Trees -/

theorem blockPart_node (reader : TokenReader) (indicator : Token) (fuel : Nat) {next : Token}
    (isPart : next.kind ∉ [Token.Kind.key, .value, .blockEnd]) (more : List Token) :
    blockPart (fuel + 1) indicator (reader.before (next :: more)) =
      node fuel true true (reader.before (next :: more)) := by
  rw [blockPart, withNext_before, if_neg (by simpa using isPart)]

/-- What the tokens of a tree begin with. -/
theorem exists_next (tree : Tree) (bare : Bool) {tokens : List Token}
    (isTree : tokens.map Token.kind = tree.kinds bare) (more : List Token) :
    ∃ next rest, tokens ++ more = next :: rest ∧
      next.kind ∉ [Token.Kind.key, .value, .blockEnd] ∧
      (bare = false → next.kind ≠ .blockEntry) := by
  have begins : ∃ kind kinds, tree.kinds bare = kind :: kinds ∧
      kind ∉ [Token.Kind.key, .value, .blockEnd] ∧ (bare = false → kind ≠ .blockEntry) := by
    rcases tree with value | (_ | ⟨item, items⟩) | (_ | ⟨field, fields⟩) <;> cases bare <;>
      simp [Tree.kinds, Tree.itemKinds]
  obtain ⟨kind, kinds, isKinds, apart⟩ := begins
  obtain ⟨next, rest, rfl, isNext, -⟩ := List.map_eq_cons_iff.mp (isTree.trans isKinds)
  exact ⟨next, rest ++ more, rfl, isNext ▸ apart⟩

/-- Tokens between two that belong together. -/
theorem exists_bracketed {tokens : List Token} {first last : Token.Kind} (kinds : List Token.Kind)
    (isAll : tokens.map Token.kind = first :: (kinds ++ [last])) :
    ∃ start inside stop, tokens = start :: (inside ++ [stop]) ∧ start.kind = first ∧
      inside.map Token.kind = kinds ∧ stop.kind = last := by
  obtain ⟨start, behind, rfl, isStart, isBehind⟩ := List.map_eq_cons_iff.mp isAll
  obtain ⟨inside, stop, rfl, isInside, isStop⟩ := List.map_eq_append_iff.mp isBehind
  obtain ⟨stop, rfl, isEnd⟩ := List.map_eq_singleton_iff.mp isStop
  exact ⟨start, inside, stop, rfl, isStart, isInside, isEnd⟩

mutual

/-- **The tokens of a tree are read into a node that holds the tree.** -/
theorem node_kinds (tree : Tree) (bare : Bool) {tokens : List Token}
    (isTree : tokens.map Token.kind = tree.kinds bare) (more : List Token)
    (apart : bare = true → ∃ next ∈ more.head?, next.kind ≠ .blockEntry) (reader : TokenReader)
    (fuel : Nat) (enough : 4 * tokens.length + 2 ≤ fuel) :
    ∃ read, node fuel true bare (reader.before (tokens ++ more)) =
        (read, .ok (reader.before more)) ∧
      tree.Holds read := by
  obtain ⟨fuel, rfl⟩ := Nat.exists_eq_add_of_le' (show 2 ≤ fuel by omega)
  match tree with
  | .text value =>
    rw [Tree.kinds] at isTree
    obtain ⟨token, rfl, kind⟩ := List.map_eq_singleton_iff.mp isTree
    exact ⟨_, node_scalar reader more (fuel + 1) kind, token.start, rfl⟩
  | .list [] =>
    rw [Tree.kinds] at isTree
    obtain ⟨start, inside, stop, rfl, isStart, isInside, isStop⟩ :=
      exists_bracketed [] isTree
    obtain rfl := List.map_eq_nil_iff.mp isInside
    exact ⟨_, node_emptySequence reader more fuel isStart isStop, start.start, [], rfl, rfl⟩
  | .record [] =>
    rw [Tree.kinds] at isTree
    obtain ⟨start, inside, stop, rfl, isStart, isInside, isStop⟩ :=
      exists_bracketed [] isTree
    obtain rfl := List.map_eq_nil_iff.mp isInside
    exact ⟨_, node_emptyMapping reader more fuel isStart isStop, start.start, [], rfl, rfl⟩
  | .list (item :: items) =>
    cases bare with
    | true =>
      have isItems : tokens.map Token.kind = Tree.itemKinds (item :: items) := isTree
      obtain ⟨nodes, isNodes, hold⟩ := bareItems_kinds (item :: items) isItems (apart rfl) reader
        (fuel + 1) (by omega)
      obtain ⟨first, behind, rfl, isFirst, -⟩ := List.map_eq_cons_iff.mp isItems
      refine ⟨.sequence { mark := first.start } nodes, ?_, first.start, nodes, rfl, hold⟩
      rw [List.cons_append] at isNodes ⊢
      rw [node_bareSequence reader _ _ isFirst, isNodes]
      rfl
    | false =>
      obtain ⟨start, inside, stop, rfl, isStart, isInside, isStop⟩ := exists_bracketed _ isTree
      obtain ⟨nodes, isNodes, hold⟩ := blockItems_kinds (item :: items) isInside isStop more reader
        start.start (fuel + 1) (by simp at enough; omega)
      refine ⟨.sequence { mark := start.start } nodes, ?_, start.start, nodes, rfl, hold⟩
      simp [node_blockSequence reader _ _ isStart, isNodes]
  | .record (field :: fields) =>
    obtain ⟨start, inside, stop, rfl, isStart, isInside, isStop⟩ := exists_bracketed _ isTree
    obtain ⟨entries, isEntries, hold⟩ := blockEntries_kinds (field :: fields) isInside isStop more
      reader start.start (fuel + 1) (by simp at enough; omega)
    refine ⟨.mapping { mark := start.start } entries, ?_, start.start, entries, rfl, hold⟩
    simp [node_blockMapping reader _ _ isStart, isEntries]

theorem blockItems_kinds (items : List Tree) {tokens : List Token}
    (isItems : tokens.map Token.kind = Tree.itemKinds items) {last : Token}
    (isLast : last.kind = .blockEnd) (more : List Token) (reader : TokenReader) (start : Mark)
    (fuel : Nat) (enough : 4 * tokens.length + 1 ≤ fuel) :
    ∃ nodes, blockItems fuel start (reader.before (tokens ++ last :: more)) =
      (nodes, .ok (reader.before more)) ∧ Tree.ItemsHold items nodes := by
  obtain ⟨fuel, rfl⟩ := Nat.exists_eq_add_of_le' (show 1 ≤ fuel by omega)
  match items with
  | [] =>
    obtain rfl := List.map_eq_nil_iff.mp isItems
    exact ⟨[], by simp [blockItems, isLast], rfl⟩
  | item :: items =>
    obtain ⟨dash, behind, rfl, isDash, isBehind⟩ := List.map_eq_cons_iff.mp isItems
    obtain ⟨first, others, rfl, isFirst, isOthers⟩ := List.map_eq_append_iff.mp isBehind
    simp only [List.length_cons, List.length_append] at enough
    obtain ⟨read, isRead, holds⟩ := node_kinds item false isFirst (others ++ last :: more)
      nofun reader fuel (by omega)
    obtain ⟨nodes, isNodes, hold⟩ := blockItems_kinds items isOthers isLast more reader start
      fuel (by omega)
    obtain ⟨next, rest, isNext, noPart, noDash⟩ :=
      exists_next item false isFirst (others ++ last :: more)
    have isItem : (next.kind == .blockEntry || next.kind == .blockEnd) = false := by
      simpa [noDash rfl] using fun isEnd => noPart (by simp [isEnd])
    refine ⟨read :: nodes, ?_, read, nodes, rfl, holds, hold⟩
    rw [isNext] at isRead
    simp only [blockItems, List.cons_append, List.append_assoc, withNext_before, isDash,
      drop_before, isNext, isItem, isRead, andThen_ok, isNodes, Bool.false_eq_true, if_false]

theorem bareItems_kinds (items : List Tree) {tokens : List Token}
    (isItems : tokens.map Token.kind = Tree.itemKinds items) {more : List Token}
    (apart : ∃ next ∈ more.head?, next.kind ≠ .blockEntry) (reader : TokenReader)
    (fuel : Nat) (enough : 4 * tokens.length + 1 ≤ fuel) :
    ∃ nodes, bareItems fuel (reader.before (tokens ++ more)) = (nodes, .ok (reader.before more)) ∧
      Tree.ItemsHold items nodes := by
  obtain ⟨fuel, rfl⟩ := Nat.exists_eq_add_of_le' (show 1 ≤ fuel by omega)
  match items with
  | [] =>
    obtain rfl := List.map_eq_nil_iff.mp isItems
    obtain ⟨next, isNext, noDash⟩ := apart
    obtain ⟨rest, rfl⟩ := List.head?_eq_some_iff.mp isNext
    exact ⟨[], by simp [bareItems, noDash], rfl⟩
  | item :: items =>
    obtain ⟨dash, behind, rfl, isDash, isBehind⟩ := List.map_eq_cons_iff.mp isItems
    obtain ⟨first, others, rfl, isFirst, isOthers⟩ := List.map_eq_append_iff.mp isBehind
    simp only [List.length_cons, List.length_append] at enough
    obtain ⟨read, isRead, holds⟩ := node_kinds item false isFirst (others ++ more) nofun reader
      fuel (by omega)
    obtain ⟨nodes, isNodes, hold⟩ := bareItems_kinds items isOthers apart reader
      fuel (by omega)
    obtain ⟨next, rest, isNext, noPart, noDash⟩ := exists_next item false isFirst (others ++ more)
    have isItem : [Token.Kind.blockEntry, .key, .value, .blockEnd].contains next.kind = false := by
      simpa [noDash rfl] using noPart
    refine ⟨read :: nodes, ?_, read, nodes, rfl, holds, hold⟩
    rw [isNext] at isRead
    simp only [bareItems, List.cons_append, List.append_assoc, withNext_before, isDash,
      drop_before, isNext, isItem, isRead, andThen_ok, isNodes, Bool.false_eq_true, if_false,
      bne_self_eq_false]

theorem blockEntries_kinds (fields : List (String × Tree)) {tokens : List Token}
    (isFields : tokens.map Token.kind = Tree.fieldKinds fields) {last : Token}
    (isLast : last.kind = .blockEnd) (more : List Token) (reader : TokenReader) (start : Mark)
    (fuel : Nat) (enough : 4 * tokens.length + 1 ≤ fuel) :
    ∃ entries, blockEntries fuel start (reader.before (tokens ++ last :: more)) =
      (entries, .ok (reader.before more)) ∧ Tree.FieldsHold fields entries := by
  obtain ⟨fuel, rfl⟩ := Nat.exists_eq_add_of_le' (show 1 ≤ fuel by omega)
  match fields with
  | [] =>
    obtain rfl := List.map_eq_nil_iff.mp isFields
    exact ⟨[], by simp [blockEntries, isLast], rfl⟩
  | (name, value) :: fields =>
    rw [Tree.fieldKinds] at isFields
    obtain ⟨key, behind, rfl, isKey, isBehind⟩ := List.map_eq_cons_iff.mp isFields
    obtain ⟨label, behind, rfl, isLabel, isBehind⟩ := List.map_eq_cons_iff.mp isBehind
    obtain ⟨colon, behind, rfl, isColon, isBehind⟩ := List.map_eq_cons_iff.mp isBehind
    obtain ⟨first, others, rfl, isFirst, isOthers⟩ := List.map_eq_append_iff.mp isBehind
    simp only [List.length_cons, List.length_append] at enough
    obtain ⟨fuel, rfl⟩ := Nat.exists_eq_add_of_le' (show 2 ≤ fuel by omega)
    -- The value may be a list without a block: what follows it must not look like one more item.
    have apart : ∃ next ∈ (others ++ last :: more).head?, next.kind ≠ .blockEntry := by
      cases fields with
      | nil =>
        obtain rfl := List.map_eq_nil_iff.mp isOthers
        exact ⟨last, rfl, by simp [isLast]⟩
      | cons field fields =>
        obtain ⟨next, rest, rfl, isNext, -⟩ := List.map_eq_cons_iff.mp isOthers
        exact ⟨next, rfl, by simp [isNext]⟩
    obtain ⟨read, isRead, holds⟩ := node_kinds value true isFirst _ (fun _ => apart) reader
      (fuel + 1) (by omega)
    obtain ⟨entries, isEntries, hold⟩ := blockEntries_kinds fields isOthers isLast more reader start
      (fuel + 2) (by omega)
    obtain ⟨next, rest, isNext, noPart, -⟩ :=
      exists_next value true isFirst (others ++ last :: more)
    refine ⟨(.scalar { mark := label.start } name true, read) :: entries, ?_, label.start, read,
      entries, rfl, holds, hold⟩
    rw [isNext] at isRead
    have isPart : label.kind ∉ [Token.Kind.key, .value, .blockEnd] := by simp [isLabel]
    have isLabelRead := blockPart_node reader key (fuel + 1) isPart (colon :: next :: rest)
    have isValueRead := blockPart_node reader colon (fuel + 1) noPart rest
    rw [blockEntries]
    simp [isKey, isNext, isLabelRead, isValueRead, isRead, isColon,
      node_scalar reader _ _ isLabel, isEntries]

end

/-! ## Documents -/

/-- A document that starts with a block and ends with the stream is its root. -/
theorem document_of_node {first last : Token} {rest : List Token} {broken : Fault} {root : Node}
    (isStart : first.kind = .blockMappingStart) (isLast : last.kind = .streamEnd)
    (isRoot : node (4 * (first :: rest).length + 4) true false
      { tokens := first :: rest, broken, handles := standardHandles } =
        (root, .ok { tokens := [last], broken, handles := standardHandles })) :
    document { tokens := first :: rest, broken } = ⟨root, none, false⟩ := by
  have opens : documentStart { tokens := first :: rest, broken } =
      .ok { tokens := first :: rest, broken, handles := standardHandles } := by
    simp [documentStart, peek, bind, Except.bind, isStart, isDirective]
  have isRead : TokenReader.root false (4 * (first :: rest).length + 4)
      { tokens := first :: rest, broken, handles := standardHandles } =
        (root, .ok { tokens := [last], broken, handles := standardHandles }) := isRoot
  have notEnd : (first.kind == .streamEnd) = false := by simp [isStart]
  have behind : passEnds [last] = [last] := by simp [passEnds, isLast]
  simp only [document, peek, notEnd, opens, Nat.lt_irrefl, decide_false, isRead, behind,
    List.head?_cons, Option.any_some, isLast]
  rfl

/-- A record that is followed by nothing is read as a whole document. -/
theorem document_kinds {fields : List (String × Tree)} (some : fields ≠ []) {tokens : List Token}
    (isAll : tokens.map Token.kind = Tree.documentKinds fields) (broken : Fault) :
    ∃ root, document { tokens, broken } = ⟨root, none, false⟩ ∧
      (Tree.record fields).Holds root := by
  have isTree : Tree.documentKinds fields = (Tree.record fields).kinds false ++ [.streamEnd] := by
    cases fields with
    | nil => contradiction
    | cons field fields => simp [Tree.documentKinds, Tree.kinds]
  obtain ⟨inside, behind, rfl, isInside, isBehind⟩ := List.map_eq_append_iff.mp (isAll.trans isTree)
  obtain ⟨last, rfl, isLast⟩ := List.map_eq_singleton_iff.mp isBehind
  obtain ⟨root, isRoot, holds⟩ := node_kinds (.record fields) false isInside [last] nofun
    { tokens := [], broken, handles := standardHandles } (4 * (inside ++ [last]).length + 4)
    (by rw [List.length_append, List.length_singleton]; omega)
  obtain ⟨first, rest, isFirst, isStart, -⟩ := List.map_eq_cons_iff.mp isAll
  refine ⟨root, ?_, holds⟩
  rw [isFirst] at isRoot ⊢
  exact document_of_node isStart isLast isRoot

end TokenReader

/-- **A written document is read as its record**, and as nothing else. -/
theorem ofText_document {fields : List (String × Tree)} (some : fields ≠ [])
    (named : Tree.FieldsNamed fields) :
    ∃ root, Document.ofText (Tree.document fields) = ⟨root, none, false⟩ ∧
      (Tree.record fields).Holds root := by
  obtain ⟨first, tokens, isTokens, isAll⟩ := Tree.tokens_document some named
  obtain ⟨root, isRoot, holds⟩ := TokenReader.document_kinds some isAll
    ⟨"did not find a token", {}, none⟩
  refine ⟨root, ?_, holds⟩
  rw [← isRoot, Document.ofText, isTokens]
  rfl

end PluginAudit.Yaml
