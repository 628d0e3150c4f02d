import PluginAudit.Proofs.Yaml.Allowed

/-!
# Tokens of written documents

The tokens of a written document are those of its tree, between the start and
the end of the stream (`tokens_document`).
-/

set_option autoImplicit false

namespace PluginAudit.Yaml

namespace Tree

/-! ## The end of the stream -/

mutual

theorem streamEnd_notMem_kinds (bare : Bool) (tree : Tree) : .streamEnd ∉ tree.kinds bare := by
  match tree with
  | text value => simp [kinds]
  | list [] => simp [kinds]
  | list (item :: items) =>
    have inside := streamEnd_notMem_itemKinds (item :: items)
    cases bare <;> simp [kinds, inside]
  | record [] => simp [kinds]
  | record (field :: fields) => simp [kinds, streamEnd_notMem_fieldKinds (field :: fields)]

theorem streamEnd_notMem_itemKinds (items : List Tree) : .streamEnd ∉ itemKinds items := by
  match items with
  | [] => simp [itemKinds]
  | item :: items =>
    simp [itemKinds, streamEnd_notMem_kinds false item, streamEnd_notMem_itemKinds items]

theorem streamEnd_notMem_fieldKinds (fields : List (String × Tree)) :
    .streamEnd ∉ fieldKinds fields := by
  match fields with
  | [] => simp [fieldKinds]
  | (name, value) :: fields =>
    simp [fieldKinds, streamEnd_notMem_kinds true value, streamEnd_notMem_fieldKinds fields]

end

/-! ## The number of tokens -/

mutual

theorem length_kinds_afterDash (item : Tree) (indent : Nat) :
    (item.kinds false).length ≤ 4 * (afterDash indent item).length := by
  match item with
  | text value => simp [kinds, afterDash, textLine]; omega
  | list [] => simp [kinds, afterDash]
  | list (item :: items) =>
    have first := length_kinds_afterDash item (indent + 2)
    have others := length_itemKinds items (indent + 2)
    simp [kinds, itemKinds, afterDash]
    omega
  | record [] => simp [kinds, afterDash]
  | record ((name, value) :: fields) =>
    have first := length_kinds_afterName value (indent + 2)
    have others := length_fieldKinds fields (indent + 2)
    simp [kinds, fieldKinds, afterDash]
    omega

theorem length_kinds_afterName (value : Tree) (indent : Nat) :
    (value.kinds true).length ≤ 4 * (afterName indent value).length := by
  match value with
  | text value => simp [kinds, afterName, textLine]; omega
  | list [] => simp [kinds, afterName]
  | list (item :: items) =>
    have inside := length_itemKinds (item :: items) indent
    simp [kinds, afterName]
    omega
  | record [] => simp [kinds, afterName]
  | record (field :: fields) =>
    have inside := length_fieldKinds (field :: fields) (indent + 2)
    simp [kinds, afterName]
    omega

theorem length_itemKinds (items : List Tree) (indent : Nat) :
    (itemKinds items).length ≤ 4 * (itemLines indent items).length := by
  match items with
  | [] => simp [itemKinds]
  | item :: items =>
    have first := length_kinds_afterDash item indent
    have others := length_itemKinds items indent
    simp [itemKinds, itemLines]
    omega

/-- A field is written in more characters than a quarter of its tokens. -/
theorem length_fieldKinds (fields : List (String × Tree)) (indent : Nat) :
    (fieldKinds fields).length ≤ 4 * (fieldLines indent fields).length := by
  match fields with
  | [] => simp [fieldKinds]
  | (name, value) :: fields =>
    have first := length_kinds_afterName value indent
    have others := length_fieldKinds fields indent
    simp [fieldKinds, fieldLines]
    omega

end

/-! ## The document -/

/-- Tokens are complete when nothing but the last is the end of the stream. -/
theorem complete_of_kinds {tokens : List Token} {kinds : List Token.Kind}
    (isAll : tokens.map Token.kind = kinds ++ [.streamEnd]) (others : .streamEnd ∉ kinds) :
    Scan.Complete tokens := by
  obtain ⟨init, behind, rfl, isInit, isLast⟩ := List.map_eq_append_iff.mp isAll
  obtain ⟨last, rfl, isEnd⟩ := List.map_eq_singleton_iff.mp isLast
  refine ⟨init, last, rfl, isEnd, fun token among another => others ?_⟩
  rw [← isInit, ← another]
  exact List.mem_map_of_mem among

/-- The tokens of a record that is a document. -/
def documentKinds (fields : List (String × Tree)) : List Token.Kind :=
  .blockMappingStart :: (fieldKinds fields ++ [.blockEnd, .streamEnd])

/-- The reading of a written document leads to the tokens of its tree. -/
theorem reads_document {fields : List (String × Tree)} (some : fields ≠ [])
    (named : FieldsNamed fields) :
    ∃ tokens, (Scan.opened (fieldLines 0 fields)).Reads tokens ∧
      tokens.map Token.kind = .streamStart :: documentKinds fields := by
  obtain _ | ⟨⟨name, value⟩, fields⟩ := fields
  · contradiction
  · have outer : (-1 : Int) < (0 : Nat) := by decide
    have leads := leads_fields named 0 outer ⟨0, [], nofun⟩ (Nat.le_refl 0) [.streamStart]
      (Leads.of_end rfl)
    have written : fieldLines 0 ((name, value) :: fields) = name.toList ++ ':' ::
        (afterName 0 value ++ (fieldLines 0 fields ++ Line.text ⟨0, [], nofun⟩)) := by
      simp [fieldLines, Style.blanks, Line.text]
    obtain ⟨tokens, reads, isAll⟩ := leads {} [⟨.streamStart, {}, {}⟩] rfl rfl
    refine ⟨tokens, ?_, by simpa [documentKinds] using isAll⟩
    rwa [written]

/-- **The tokens of a written document** are those of its tree. -/
theorem tokens_document {fields : List (String × Tree)} (some : fields ≠ [])
    (named : FieldsNamed fields) :
    ∃ first tokens, Yaml.tokens (document fields).toList = (first :: tokens, none) ∧
      tokens.map Token.kind = documentKinds fields := by
  obtain ⟨tokens, reads, isAll⟩ := reads_document some named
  obtain ⟨first, tokens, rfl⟩ : ∃ first rest, tokens = first :: rest := by
    cases tokens with
    | nil => cases isAll
    | cons first tokens => exact ⟨first, tokens, rfl⟩
  obtain ⟨-, behind⟩ := List.cons.inj isAll
  refine ⟨first, tokens, ?_, behind⟩
  rw [document, String.toList_ofList]
  refine tokens_of_reads (firstForbidden?_eq_none (allowed_fieldLines fields named 0) 0) reads ?_ ?_
  · have others : .streamEnd ∉ Token.Kind.streamStart :: .blockMappingStart ::
        (fieldKinds fields ++ [.blockEnd]) := by simp [streamEnd_notMem_fieldKinds]
    exact complete_of_kinds (by simpa [documentKinds] using isAll) others
  · have short := length_fieldKinds fields 0
    have length := congrArg List.length isAll
    simp [documentKinds] at length ⊢
    omega

end Tree

end PluginAudit.Yaml
