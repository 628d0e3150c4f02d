import PluginAudit.Yaml.Node
import PluginAudit.Yaml.Lexer.Basic

/-!
# Documents

The first document of a text. Tokens are read into a tree of nodes; where they
do not fit, or end early, the tree is cut, and the fault is kept beside it, so
that a reader of the tree meets what is wrong with the shape of the document
before the fault if it comes first.

An anchor is numbered by how many names of anchors there were before it, and
an alias refers to the last node of its number.
-/

set_option autoImplicit false

namespace PluginAudit.Yaml

/-- The first document of a text. -/
structure Document where
  root : Node
  /-- Why the document is broken off, if it is. -/
  fault : Option Fault
  /-- Whether anything but the end of the stream follows. -/
  continued : Bool

/-- What is left of the tokens of a document, and what has been named in it. -/
structure TokenReader where
  tokens : List Token
  /-- The fault behind the last token. -/
  broken : Fault
  /-- The tags that the handles stand for. -/
  handles : List (String × String) := []
  /-- The names of anchors with their numbers. -/
  names : List (String × Nat) := []

/-- How reading goes on: what is left, or the fault that stops it. -/
abbrev Onward := Except Fault TokenReader

namespace TokenReader

/-- The next token. -/
def peek (reader : TokenReader) : Except Fault Token :=
  match reader.tokens with
  | [] => .error reader.broken
  | token :: _ => .ok token

/-- What is left behind the next token. -/
def drop (reader : TokenReader) : TokenReader := { reader with tokens := reader.tokens.drop 1 }

/-- The number of the next anchor. -/
def nextAnchor (reader : TokenReader) : Nat := reader.names.length

/-- Notes the name of an anchor. -/
def noteAnchor (reader : TokenReader) (name : String) : TokenReader :=
  { reader with
    names := (name, reader.nextAnchor) :: reader.names.filter fun known => known.1 != name }

/-! ## Properties -/

/-- The tag that a handle and what follows it stand for. -/
def fullTag (reader : TokenReader) (start : Mark) (token : Token) (handle suffix : String) :
    Except Fault String :=
  if handle.isEmpty then .ok suffix
  else
    match reader.handles.lookup handle with
    | some full => .ok (full ++ suffix)
    | none =>
      .error ⟨"found undefined tag handle", token.start, some ("while parsing a node", start)⟩

/-- What stands before the content of a node. -/
structure Head where
  start : Mark
  stop : Mark
  anchor : Option String := none
  tag : Option String := none

/-- Whether nothing stands before the content. -/
def Head.isEmpty (head : Head) : Bool := head.anchor.isNone && head.tag.isNone

/-- Reads an anchor, a tag, or both in either order, and the token that follows. A handle is
looked up only when the token that follows is known. -/
def head (reader : TokenReader) : Except Fault (Head × Token × TokenReader) := do
  let first ← reader.peek
  match first.kind with
  | .anchor name =>
    let reader := reader.drop
    let second ← reader.peek
    match second.kind with
    | .tag handle suffix =>
      let reader := reader.drop
      let content ← reader.peek
      let tag ← reader.fullTag first.start second handle suffix
      .ok (⟨first.start, second.stop, some name, some tag⟩, content, reader)
    | _ => .ok (⟨first.start, first.stop, some name, none⟩, second, reader)
  | .tag handle suffix =>
    let reader := reader.drop
    let second ← reader.peek
    match second.kind with
    | .anchor name =>
      let reader := reader.drop
      let content ← reader.peek
      let tag ← reader.fullTag first.start first handle suffix
      .ok (⟨first.start, second.stop, some name, some tag⟩, content, reader)
    | _ =>
      let tag ← reader.fullTag first.start first handle suffix
      .ok (⟨first.start, first.stop, none, some tag⟩, second, reader)
  | _ => .ok (⟨first.start, first.start, none, none⟩, first, reader)

/-- The properties of a node with a head, and the reader that knows its anchor. -/
def declare (reader : TokenReader) (head : Head) : Properties × TokenReader :=
  match head.anchor with
  | none => ({ mark := head.start, tag := head.tag }, reader)
  | some name =>
    ({ mark := head.start, anchor := some reader.nextAnchor, tag := head.tag },
      reader.noteAnchor name)

/-! ## Nodes -/

/-- Looks at the next token; without one, the answer is a cut. -/
def withNext {α : Type} (reader : TokenReader) (cut : α) (read : Token → α × Onward) : α × Onward :=
  match reader.peek with
  | .ok token => read token
  | .error fault => (cut, .error fault)

/-- A list that goes on behind what was read, or ends in a cut. -/
def andThen {α : Type} (cut : α) (first : α × Onward) (more : TokenReader → List α × Onward) :
    List α × Onward :=
  match first.2 with
  | .error fault => ([first.1, cut], .error fault)
  | .ok reader =>
    let (rest, onward) := more reader
    (first.1 :: rest, onward)

/-- An entry whose value is read behind its key. -/
def entry (key : Node × Onward) (value : TokenReader → Node × Onward) : (Node × Node) × Onward :=
  match key.2 with
  | .error fault => ((key.1, .cut), .error fault)
  | .ok reader =>
    let (read, onward) := value reader
    ((key.1, read), onward)

/-- The entry that stands for a mapping that is broken off. -/
def cutEntry : Node × Node := (.cut, .cut)

/-- A fault at a token. -/
def misplaced (token : Token) (context : String) (start : Mark) (problem : String) : Fault :=
  ⟨problem, token.start, some (context, start)⟩

mutual

/-- Reads a node. `block` allows block collections; `bare` allows the entries of a sequence at the
column of the mapping around it. -/
def node : Nat → Bool → Bool → TokenReader → Node × Onward
  | 0, _, _, reader => (.cut, .error reader.broken)
  | fuel + 1, block, bare, reader =>
    match reader.head with
    | .error fault => (.cut, .error fault)
    | .ok (head, token, reader) =>
      let (properties, declared) := reader.declare head
      let collection := fun (kind : Token.Kind) =>
        match kind with
        | .flowSequenceStart =>
          let (items, onward) := flowItems fuel token.start true declared.drop
          some (Node.sequence properties items, onward)
        | .flowMappingStart =>
          let (entries, onward) := flowEntries fuel token.start true declared.drop
          some (.mapping properties entries, onward)
        | .blockSequenceStart =>
          if !block then none
          else
            let (items, onward) := blockItems fuel token.start declared.drop
            some (.sequence properties items, onward)
        | .blockMappingStart =>
          if !block then none
          else
            let (entries, onward) := blockEntries fuel token.start declared.drop
            some (.mapping properties entries, onward)
        | .blockEntry =>
          if !bare then none
          else
            let (items, onward) := bareItems fuel declared
            some (.sequence properties items, onward)
        | .scalar text plain =>
          let tag := if head.tag == some "!" then none else head.tag
          some (.scalar { properties with tag } text plain, .ok declared.drop)
        | _ => none
      match collection token.kind, token.kind with
      | some read, _ => read
      | none, .aliasOf name =>
        if !head.isEmpty then (.scalar properties "" true, .ok declared)
        else
          match reader.names.lookup name with
          | some number => (.aliasOf token.start number, .ok reader.drop)
          | none => (.cut, .error ⟨"unknown anchor", token.start, none⟩)
      | none, _ =>
        if !head.isEmpty then (.scalar properties "" true, .ok declared)
        else
          (.cut, .error (misplaced token
            (if block then "while parsing a block node" else "while parsing a flow node")
            head.start "did not find expected node content"))

/-- Reads the items of a block sequence. -/
def blockItems : Nat → Mark → TokenReader → List Node × Onward
  | 0, _, reader => ([.cut], .error reader.broken)
  | fuel + 1, start, reader =>
    reader.withNext [.cut] fun token =>
      match token.kind with
      | .blockEnd => ([], .ok reader.drop)
      | .blockEntry =>
        let reader := reader.drop
        reader.withNext [.cut] fun following =>
          let item :=
            if following.kind == .blockEntry || following.kind == .blockEnd then
              (.empty token.stop, .ok reader)
            else node fuel true false reader
          andThen .cut item fun reader => blockItems fuel start reader
      | _ =>
        ([.cut], .error (misplaced token "while parsing a block collection" start
          "did not find expected '-' indicator"))

/-- Reads the items of a sequence at the column of the mapping around it. -/
def bareItems : Nat → TokenReader → List Node × Onward
  | 0, reader => ([.cut], .error reader.broken)
  | fuel + 1, reader =>
    reader.withNext [.cut] fun token =>
      if token.kind != .blockEntry then ([], .ok reader)
      else
        let reader := reader.drop
        reader.withNext [.cut] fun following =>
          let item :=
            if [.blockEntry, .key, .value, .blockEnd].contains following.kind then
              (.empty token.stop, .ok reader)
            else node fuel true false reader
          andThen .cut item fun reader => bareItems fuel reader

/-- Reads what stands behind the mark of a key or of a value in a block mapping. -/
def blockPart : Nat → Token → TokenReader → Node × Onward
  | 0, _, reader => (.cut, .error reader.broken)
  | fuel + 1, indicator, reader =>
    reader.withNext .cut fun following =>
      if [.key, .value, .blockEnd].contains following.kind then
        (.empty indicator.stop, .ok reader)
      else node fuel true true reader

/-- Reads the entries of a block mapping. -/
def blockEntries : Nat → Mark → TokenReader → List (Node × Node) × Onward
  | 0, _, reader => ([cutEntry], .error reader.broken)
  | fuel + 1, start, reader =>
    reader.withNext [cutEntry] fun token =>
      match token.kind with
      | .blockEnd => ([], .ok reader.drop)
      | .key =>
        let read := entry (blockPart fuel token reader.drop) fun reader =>
          reader.withNext .cut fun following =>
            if following.kind == .value then blockPart fuel following reader.drop
            else (.empty following.start, .ok reader)
        andThen cutEntry read fun reader => blockEntries fuel start reader
      | _ =>
        ([cutEntry], .error (misplaced token "while parsing a block mapping" start
          "did not find expected key"))

/-- Reads the items of a flow sequence. An item with the mark of a key or of a value is a mapping
of its own, with one entry. -/
def flowItems : Nat → Mark → Bool → TokenReader → List Node × Onward
  | 0, _, _, reader => ([.cut], .error reader.broken)
  | fuel + 1, start, first, reader =>
    reader.withNext [.cut] fun token =>
      if token.kind == .flowSequenceEnd then ([], .ok reader.drop)
      else if !first && token.kind != .flowEntry then
        ([.cut], .error (misplaced token "while parsing a flow sequence" start
          "did not find expected ',' or ']'"))
      else
        let reader := if first then reader else reader.drop
        reader.withNext [.cut] fun token =>
          if token.kind == .flowSequenceEnd then ([], .ok reader.drop)
          else
            let item :=
              if token.kind == .key then singleEntry fuel token.start reader.drop
              else node fuel false false reader
            andThen .cut item fun reader => flowItems fuel start false reader

/-- Reads a mapping with one entry behind the mark of its key. A mark that stands where the key is
missing is passed with it. -/
def singleEntry : Nat → Mark → TokenReader → Node × Onward
  | 0, _, reader => (.cut, .error reader.broken)
  | fuel + 1, start, reader =>
    let key := reader.withNext .cut fun token =>
      if [.value, .flowEntry, .flowSequenceEnd].contains token.kind then
        (.empty token.stop, .ok reader.drop)
      else node fuel false false reader
    let read := entry key fun reader =>
      reader.withNext .cut fun token =>
        if token.kind == .value then
          let reader := reader.drop
          reader.withNext .cut fun following =>
            if [.flowEntry, .flowSequenceEnd].contains following.kind then
              (.empty following.start, .ok reader)
            else node fuel false false reader
        else (.empty token.start, .ok reader)
    let (entries, onward) := andThen cutEntry read fun reader =>
      reader.withNext [cutEntry] fun _ => ([], .ok reader)
    (.mapping { mark := start } entries, onward)

/-- Reads the entries of a flow mapping. -/
def flowEntries : Nat → Mark → Bool → TokenReader → List (Node × Node) × Onward
  | 0, _, _, reader => ([cutEntry], .error reader.broken)
  | fuel + 1, start, first, reader =>
    reader.withNext [cutEntry] fun token =>
      if token.kind == .flowMappingEnd then ([], .ok reader.drop)
      else if !first && token.kind != .flowEntry then
        ([cutEntry], .error (misplaced token "while parsing a flow mapping" start
          "did not find expected ',' or '\x7d'"))
      else
        let reader := if first then reader else reader.drop
        reader.withNext [cutEntry] fun token =>
          if token.kind == .flowMappingEnd then ([], .ok reader.drop)
          else
            let read :=
              if token.kind == .key then
                let reader := reader.drop
                let key := reader.withNext .cut fun following =>
                  if [.value, .flowEntry, .flowMappingEnd].contains following.kind then
                    (.empty following.start, .ok reader)
                  else node fuel false false reader
                entry key fun reader =>
                  reader.withNext .cut fun token =>
                    if token.kind == .value then
                      let reader := reader.drop
                      reader.withNext .cut fun following =>
                        if [.flowEntry, .flowMappingEnd].contains following.kind then
                          (.empty following.start, .ok reader)
                        else node fuel false false reader
                    else (.empty token.start, .ok reader)
              else
                entry (node fuel false false reader) fun reader =>
                  reader.withNext .cut fun token => (.empty token.start, .ok reader)
            andThen cutEntry read fun reader => flowEntries fuel start false reader

end

/-! ## The document -/

/-- The tags that handles stand for where no directive says otherwise. -/
def standardHandles : List (String × String) :=
  [("!", "!"), ("!!", "tag:yaml.org,2002:")]

/-- Whether a token is a directive. -/
def isDirective : Token.Kind → Bool
  | .version _ _ => true
  | .tagHandle _ _ => true
  | _ => false

/-- Reads the directives before a document. -/
def directives (versioned : Bool) (handles : List (String × String)) (broken : Fault) :
    List Token → Except Fault (List (String × String) × List Token)
  | [] => .error broken
  | token :: tokens =>
    match token.kind with
    | .version major minor =>
      if versioned then .error ⟨"found duplicate %YAML directive", token.start, none⟩
      else if major != 1 || (minor != 1 && minor != 2) then
        .error ⟨"found incompatible YAML document", token.start, none⟩
      else directives true handles broken tokens
    | .tagHandle handle full =>
      if (handles.lookup handle).isSome then
        .error ⟨"found duplicate %TAG directive", token.start, none⟩
      else directives versioned (handles ++ [(handle, full)]) broken tokens
    | _ => .ok (handles ++ standardHandles, token :: tokens)

/-- Reads the start of a document. -/
def documentStart (reader : TokenReader) : Except Fault TokenReader := do
  let token ← reader.peek
  if isDirective token.kind || token.kind == .documentStart then
    let (handles, tokens) ← directives false [] reader.broken reader.tokens
    let reader := { reader with tokens, handles }
    let token ← reader.peek
    if token.kind == .documentStart then .ok reader.drop
    else .error ⟨"did not find expected <document start>", token.start, none⟩
  else .ok { reader with handles := standardHandles }

/-- Whether a token ends a document that has no content. -/
def endsDocument (kind : Token.Kind) : Bool :=
  isDirective kind || kind == .documentStart || kind == .documentEnd || kind == .streamEnd

/-- Reads the root of a document. -/
def root (marked : Bool) (fuel : Nat) (reader : TokenReader) : Node × Onward :=
  reader.withNext .cut fun token =>
    if marked && endsDocument token.kind then (.empty token.start, .ok reader)
    else node fuel true false reader

/-- Passes the marks that end a document. -/
def passEnds : List Token → List Token
  | [] => []
  | token :: tokens => if token.kind == .documentEnd then passEnds tokens else token :: tokens

/-- Reads a document, after which only the end of the stream should come. -/
def document (reader : TokenReader) : Document :=
  match reader.peek with
  | .error fault => ⟨.cut, some fault, false⟩
  | .ok token =>
    if token.kind == .streamEnd then ⟨.void token.start, none, false⟩
    else
      match reader.documentStart with
      | .error fault => ⟨.cut, some fault, false⟩
      | .ok opened =>
        let marked := opened.tokens.length < reader.tokens.length
        let (node, onward) := root marked (4 * reader.tokens.length + 4) opened
        match onward with
        | .error fault => ⟨node, some fault, false⟩
        | .ok reader =>
          match reader.peek with
          | .error fault => ⟨node, some fault, false⟩
          | .ok _ =>
            let next := (passEnds reader.tokens).head?
            ⟨node, none, !next.any fun token => token.kind == .streamEnd⟩

end TokenReader

/-- The first document of a text. -/
def Document.ofText (text : String) : Document :=
  let (tokens, fault) := tokens text.toList
  let broken := fault.getD ⟨"did not find a token", {}, none⟩
  TokenReader.document { tokens := tokens.drop 1, broken }

end PluginAudit.Yaml
