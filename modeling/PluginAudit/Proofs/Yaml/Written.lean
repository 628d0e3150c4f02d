import PluginAudit.Proofs.Yaml.Values

/-!
# Written documents

The tokens of a written document follow its tree (`tokens_document`). Each
piece of the document adds its tokens and leads to the line behind it; a block
ends where a line of a lesser column begins.
-/

set_option autoImplicit false

namespace PluginAudit.Yaml

open Lexer (Begins)

namespace Tree

/-! ## The tokens of a tree -/

mutual

/-- The tokens of a tree. The items of a list have no block of their own where `bare`. -/
def kinds (bare : Bool) : Tree → List Token.Kind
  | text value => [.scalar value (Style.ofText value == .plain)]
  | list [] => [.flowSequenceStart, .flowSequenceEnd]
  | list (item :: items) =>
    if bare then itemKinds (item :: items)
    else .blockSequenceStart :: (itemKinds (item :: items) ++ [.blockEnd])
  | record [] => [.flowMappingStart, .flowMappingEnd]
  | record (field :: fields) => .blockMappingStart :: (fieldKinds (field :: fields) ++ [.blockEnd])

/-- The tokens of items. -/
def itemKinds : List Tree → List Token.Kind
  | [] => []
  | item :: items => .blockEntry :: (kinds false item ++ itemKinds items)

/-- The tokens of fields. -/
def fieldKinds : List (String × Tree) → List Token.Kind
  | [] => []
  | (name, value) :: fields =>
    .key :: .scalar name true :: .value :: (kinds true value ++ fieldKinds fields)

end

mutual

/-- The names of all fields can be written, and are short enough to be keys. -/
def Named : Tree → Prop
  | text _ => True
  | list items => ItemsNamed items
  | record fields => FieldsNamed fields

/-- The names of all fields below items can be written. -/
def ItemsNamed : List Tree → Prop
  | [] => True
  | item :: items => item.Named ∧ ItemsNamed items

/-- The names of fields can be written, and those below them. -/
def FieldsNamed : List (String × Tree) → Prop
  | [] => True
  | (name, value) :: fields =>
    (Lexer.isName name.toList = true ∧ name.toList.length ≤ Lexer.keyLength) ∧
      value.Named ∧ FieldsNamed fields

end

theorem itemsNamed_map {α : Type} {toTree : α → Tree} (named : ∀ value, (toTree value).Named)
    (values : List α) : ItemsNamed (values.map toTree) := by
  induction values with
  | nil => trivial
  | cons value values ih => exact ⟨named value, ih⟩

/-! ## What values begin with -/

theorem isGap_afterName (indent : Nat) (value : Tree) (more : List Char) :
    isGap (afterName indent value ++ more).head? = true := by
  rcases value with value | (_ | ⟨item, items⟩) | (_ | ⟨field, fields⟩) <;> rw [afterName] <;>
    first | rfl | simp

theorem isGap_afterDash (indent : Nat) (item : Tree) (more : List Char) :
    isGap (afterDash indent item ++ more).head? = true := by
  rcases item with value | (_ | ⟨item, items⟩) | (_ | ⟨⟨name, value⟩, fields⟩)
      <;> rw [afterDash] <;> rfl

end Tree

/-! ## From line to line -/

/-- What is left of a text behind the start of a line, where a block is around. -/
structure Line where
  column : Nat
  rest : List Char
  begins : Begins rest

/-- The text from the start of a line on. -/
def Line.text (line : Line) : List Char := List.replicate line.column ' ' ++ line.rest

/-- From a line on, behind tokens of some kinds, the reading leads to tokens of given kinds. -/
def Line.Leads (all : List Token.Kind) (line : Line) (indent : Int) (indents : List Int)
    (kinds : List Token.Kind) : Prop :=
  Yaml.Leads all ⟨line.rest, line.column, indent, indents⟩ true kinds

variable {all : List Token.Kind}

/-- The end of a block in front of a line that leaves its column. -/
theorem Line.Leads.of_close {line : Line} {indent : Nat} {outer : Int} {indents : List Int}
    {kinds : List Token.Kind} (left : line.column < indent)
    (leads : line.Leads all outer indents (kinds ++ [.blockEnd])) :
    line.Leads all indent (outer :: indents) kinds :=
  Yaml.Leads.of_close line.begins (Int.ofNat_lt.mpr left) leads

namespace Leads

variable {column : Nat} {indent : Int} {indents : List Int} {kinds : List Token.Kind} {line : Line}

/-- The dash of an item, with the start of its list. -/
theorem of_item {item : Tree} (inside : indent ≤ column)
    (leads : Leads all ⟨Tree.afterDash column item ++ line.text, column + 1, column,
      opened column indent indents⟩ true
      (kinds ++ (opening column indent .blockSequenceStart ++ [.blockEntry]))) :
    Leads all ⟨'-' :: (Tree.afterDash column item ++ line.text), column, indent, indents⟩ true
      kinds :=
  of_dash (Tree.isGap_afterDash column item line.text) inside leads

/-- The name of a field, with the start of its record. -/
theorem of_field {name : String} {value : Tree}
    (named : Lexer.isName name.toList = true ∧ name.toList.length ≤ Lexer.keyLength)
    (inside : indent ≤ column)
    (leads : Leads all ⟨Tree.afterName column value ++ line.text,
      column + name.toList.length + 1, column, opened column indent indents⟩ false
      (kinds ++ (opening column indent .blockMappingStart ++
        [.key, .scalar name true, .value]))) :
    Leads all ⟨name.toList ++ ':' :: (Tree.afterName column value ++ line.text), column, indent,
      indents⟩ true kinds :=
  of_name named.1 named.2 (Tree.isGap_afterName column value line.text) inside
    (by rwa [String.ofList_toList])

end Leads

mutual

/-- What stands behind a dash adds the tokens of its item. -/
theorem leads_afterDash (item : Tree) (named : item.Named) {indent : Nat} {line : Line}
    (shallow : line.column ≤ indent) {indents : List Int} {kinds : List Token.Kind}
    (leads : line.Leads all indent indents (kinds ++ item.kinds false)) :
    Leads all ⟨Tree.afterDash indent item ++ line.text, indent + 1, indent, indents⟩ true
      kinds := by
  match item with
  | .text value =>
    rw [Tree.afterDash]
    exact Leads.of_text value line.begins shallow (Nat.le_succ _) leads
  | .list [] =>
    rw [Tree.afterDash]
    exact Leads.of_empty true line.begins (by omega) leads
  | .list (item :: items) =>
    -- The items stand two columns deeper, so their block ends in front of the next line.
    have deeper : (indent : Int) < (indent + 2 : Nat) := by omega
    obtain ⟨first, isText, shallow', leads⟩ := leads_itemLines items named.2 (indent + 2) line
      (by omega) (kinds ++ [.blockSequenceStart, .blockEntry] ++ item.kinds false)
      (Line.Leads.of_close (by omega) (by simpa [Tree.kinds, Tree.itemKinds] using leads))
    have behind := leads_afterDash item named.1 shallow' leads
    have entry : Leads all ⟨'-' :: (Tree.afterDash (indent + 2) item ++ first.text), indent + 2,
        indent, indents⟩ true kinds :=
      .of_item (by omega) (by rwa [opened_of_lt deeper, opening_of_lt deeper])
    rw [isText] at entry
    rw [Tree.afterDash]
    simpa using Leads.of_blank (Lexer.begins_cons (by decide) (by decide) (by decide) _) entry
  | .record [] =>
    rw [Tree.afterDash]
    exact Leads.of_empty false line.begins (by omega) leads
  | .record ((name, value) :: fields) =>
    have deeper : (indent : Int) < (indent + 2 : Nat) := by omega
    have record := leads_fields named (indent + 2) deeper line (by omega) kinds
      (Line.Leads.of_close (by omega) (by simpa [Tree.kinds] using leads))
    rw [Tree.afterDash]
    simpa using Leads.of_blank (Leads.begins_of_isName named.1.1 _) record
termination_by sizeOf item

/-- What stands behind the name of a field adds the tokens of its value. -/
theorem leads_afterName (value : Tree) (named : value.Named) {indent : Nat} {line : Line}
    (shallow : line.column ≤ indent) {indents : List Int} {kinds : List Token.Kind} (column : Nat)
    (inside : indent ≤ column)
    (leads : line.Leads all indent indents (kinds ++ value.kinds true)) :
    Leads all ⟨Tree.afterName indent value ++ line.text, column, indent, indents⟩ false kinds := by
  match value with
  | .text value =>
    rw [Tree.afterName]
    exact Leads.of_text value line.begins shallow inside leads
  | .list [] =>
    rw [Tree.afterName]
    exact Leads.of_empty true line.begins (by omega) leads
  | .list (item :: items) =>
    -- The items stand at the column of the field: no block starts or ends with them.
    obtain ⟨first, isText, -, leads⟩ := leads_itemLines (item :: items) named indent line shallow
      kinds (by simpa [Tree.kinds] using leads)
    rw [Tree.afterName, List.cons_append, ← isText]
    · exact Leads.of_lineEnd first.begins leads column
    · simp
  | .record [] =>
    rw [Tree.afterName]
    exact Leads.of_empty false line.begins (by omega) leads
  | .record ((name, value) :: fields) =>
    have deeper : (indent : Int) < (indent + 2 : Nat) := by omega
    have record := leads_fields named (indent + 2) deeper line (by omega) kinds
      (Line.Leads.of_close (by omega) (by simpa [Tree.kinds] using leads))
    rw [Tree.afterName, Tree.fieldLines]
    · simpa [Style.blanks] using
        Leads.of_lineEnd (Leads.begins_of_isName named.1.1 _) record column
    · simp
termination_by sizeOf value

/-- Fields at a column deeper than the block around start a block of their own. -/
theorem leads_fields {name : String} {value : Tree} {fields : List (String × Tree)}
    (named : Tree.FieldsNamed ((name, value) :: fields)) (column : Nat) {indent : Int}
    (deeper : indent < column) (line : Line) (shallow : line.column ≤ column) {indents : List Int}
    (kinds : List Token.Kind)
    (leads : line.Leads all column (indent :: indents)
      (kinds ++ .blockMappingStart :: Tree.fieldKinds ((name, value) :: fields))) :
    Leads all ⟨name.toList ++ ':' :: (Tree.afterName column value ++
      (Tree.fieldLines column fields ++ line.text)), column, indent, indents⟩ true kinds := by
  obtain ⟨nameNamed, valueNamed, fieldsNamed⟩ := named
  obtain ⟨first, isText, shallow', leads⟩ := leads_fieldLines fields fieldsNamed column line shallow
    (kinds ++ [.blockMappingStart, .key, .scalar name true, .value] ++ value.kinds true)
    (by simpa [Tree.fieldKinds] using leads)
  have behind := leads_afterName value valueNamed shallow' (column + name.toList.length + 1)
    (by omega) leads
  rw [← isText]
  exact Leads.of_field nameNamed (Int.le_of_lt deeper)
    (by rwa [opened_of_lt deeper, opening_of_lt deeper])
termination_by sizeOf value + sizeOf fields + 1

/-- The lines of items add the tokens of the items. -/
theorem leads_itemLines (items : List Tree) (named : Tree.ItemsNamed items) (indent : Nat)
    (line : Line) (shallow : line.column ≤ indent) {indents : List Int} (kinds : List Token.Kind)
    (leads : line.Leads all indent indents (kinds ++ Tree.itemKinds items)) :
    ∃ first : Line, first.text = Tree.itemLines indent items ++ line.text ∧
      first.column ≤ indent ∧ first.Leads all indent indents kinds := by
  match items with
  | [] => exact ⟨line, by simp [Tree.itemLines], shallow, by simpa [Tree.itemKinds] using leads⟩
  | item :: items =>
    obtain ⟨next, isText, shallow', leads⟩ := leads_itemLines items named.2 indent line shallow
      (kinds ++ [.blockEntry] ++ item.kinds false) (by simpa [Tree.itemKinds] using leads)
    have behind := leads_afterDash item named.1 shallow' leads
    refine ⟨⟨indent, '-' :: (Tree.afterDash indent item ++ next.text),
      Lexer.begins_cons (by decide) (by decide) (by decide) _⟩, ?_, Nat.le_refl _, ?_⟩
    · simpa [Line.text, Tree.itemLines, Style.blanks] using isText
    · exact Leads.of_item (Int.le_refl _) (by rwa [opened_self, opening_self])
termination_by sizeOf items

/-- The lines of fields add the tokens of the fields. -/
theorem leads_fieldLines (fields : List (String × Tree)) (named : Tree.FieldsNamed fields)
    (indent : Nat) (line : Line) (shallow : line.column ≤ indent) {indents : List Int}
    (kinds : List Token.Kind)
    (leads : line.Leads all indent indents (kinds ++ Tree.fieldKinds fields)) :
    ∃ first : Line, first.text = Tree.fieldLines indent fields ++ line.text ∧
      first.column ≤ indent ∧ first.Leads all indent indents kinds := by
  match fields with
  | [] => exact ⟨line, by simp [Tree.fieldLines], shallow, by simpa [Tree.fieldKinds] using leads⟩
  | (name, value) :: fields =>
    obtain ⟨nameNamed, valueNamed, fieldsNamed⟩ := named
    obtain ⟨next, isText, shallow', leads⟩ := leads_fieldLines fields fieldsNamed indent
      line shallow (kinds ++ [.key, .scalar name true, .value] ++ value.kinds true)
      (by simpa [Tree.fieldKinds] using leads)
    have behind := leads_afterName value valueNamed shallow' (indent + name.toList.length + 1)
      (by omega) leads
    refine ⟨⟨indent, name.toList ++ ':' :: (Tree.afterName indent value ++ next.text),
      Leads.begins_of_isName nameNamed.1 _⟩, ?_, Nat.le_refl _, ?_⟩
    · simpa [Line.text, Tree.fieldLines, Style.blanks] using isText
    · exact Leads.of_field nameNamed (Int.le_refl _) (by rwa [opened_self, opening_self])
termination_by sizeOf fields

end

end PluginAudit.Yaml
