import PluginAudit.Proofs.Yaml.Written

/-!
# Characters of written documents

Whatever the texts in it hold, a written document consists of characters that
may stand in a document (`allowed_fieldLines`).
-/

set_option autoImplicit false

namespace PluginAudit.Yaml

/-- All characters may stand in a document. -/
def Allowed (text : List Char) : Prop := ∀ c ∈ text, isAllowed c = true

section

variable {c : Char} {first second : List Char}

theorem allowed_nil : Allowed [] := nofun

@[simp] theorem allowed_cons : Allowed (c :: second) ↔ isAllowed c = true ∧ Allowed second :=
  List.forall_mem_cons

@[simp] theorem allowed_append : Allowed (first ++ second) ↔ Allowed first ∧ Allowed second :=
  List.forall_mem_append

theorem allowed_replicate (count : Nat) (allowed : isAllowed c = true) :
    Allowed (List.replicate count c) := by
  intro d among
  rwa [(List.mem_replicate.mp among).2]

theorem firstForbidden?_eq_none (allowed : Allowed first) (bytes : Nat) :
    firstForbidden? first bytes = none := by
  induction first generalizing bytes with
  | nil => rfl
  | cons c first ih =>
    obtain ⟨isAllowed, behind⟩ := allowed_cons.mp allowed
    rw [firstForbidden?, if_pos isAllowed, ih behind]

end

/-! ## Styles -/

theorem allowed_of_printable {text : List Char} (printable : ∀ c ∈ text, isPrintable c = true) :
    Allowed text := fun c among => isAllowed_of_printable (printable c among)

theorem allowed_toDigits (n : Nat) : Allowed ((Nat.toDigits 16 n).map Char.toUpper) := by
  have digit : ∀ d < 16, isAllowed d.digitChar.toUpper = true := by decide
  induction n using Nat.strongRecOn with
  | ind n ih =>
    by_cases small : n < 16
    · rw [Nat.toDigits_of_lt_base small]
      exact allowed_cons.mpr ⟨digit n small, allowed_nil⟩
    · rw [Nat.toDigits_of_base_le (by decide) (by omega), List.map_append]
      exact allowed_append.mpr ⟨ih (n / 16) (by omega),
        allowed_cons.mpr ⟨digit _ (Nat.mod_lt n (by decide)), allowed_nil⟩⟩

theorem allowed_hexDigits (width n : Nat) : Allowed (Style.hexDigits width n) :=
  allowed_append.mpr ⟨allowed_replicate _ (by decide), allowed_toDigits n⟩

theorem allowed_escape (c : Char) : Allowed (Style.escape c) := by
  cases verbatim : Lexer.isVerbatim c with
  | true =>
    rw [Lexer.escape_verbatim verbatim]
    simp only [Lexer.isVerbatim, Bool.and_eq_true] at verbatim
    exact allowed_cons.mpr ⟨isAllowed_of_printable verbatim.1.1.1, allowed_nil⟩
  | false =>
    have letters : ∀ pair ∈ Style.shortEscapes, isAllowed pair.2 = true := by decide
    rw [Style.escape, if_neg (by rw [← Lexer.isVerbatim, verbatim]; exact Bool.false_ne_true)]
    cases known : Style.shortEscapes.lookup c with
    | some letter =>
      obtain ⟨before, behind, split, -⟩ := List.lookup_eq_some_iff.mp known
      have isLetter := letters (c, letter) (by rw [split]; simp)
      exact allowed_cons.mpr ⟨by decide, allowed_cons.mpr ⟨isLetter, allowed_nil⟩⟩
    | none =>
      have code (letter : Char) (isLetter : isAllowed letter = true) (width : Nat) :
          Allowed ('\\' :: letter :: Style.hexDigits width c.toNat) :=
        allowed_cons.mpr ⟨by decide, allowed_cons.mpr ⟨isLetter, allowed_hexDigits width _⟩⟩
      dsimp only
      split
      · exact code 'x' (by decide) 2
      · split
        · exact code 'u' (by decide) 4
        · exact code 'U' (by decide) 8

theorem allowed_singleChars (indent : Nat) {text : List Char} (allowed : Allowed text)
    (broken : Bool) : Allowed (Style.singleChars indent broken text) := by
  have blanks (broken : Bool) : Allowed (if broken then Style.blanks indent else []) := by
    cases broken
    · exact allowed_nil
    · exact allowed_replicate indent (by decide)
  induction text generalizing broken with
  | nil => exact blanks broken
  | cons c text ih =>
    obtain ⟨isAllowed, behind⟩ := allowed_cons.mp allowed
    rw [Style.singleChars]
    split
    · exact allowed_cons.mpr ⟨isAllowed, ih behind true⟩
    · split
      · exact allowed_cons.mpr ⟨isAllowed, ih behind broken⟩
      · have written : Allowed (if c == '\'' then ['\'', '\''] else [c]) := by
          split
          · simp [allowed_nil, Yaml.isAllowed]
          · exact allowed_cons.mpr ⟨isAllowed, allowed_nil⟩
        exact allowed_append.mpr ⟨allowed_append.mpr ⟨blanks broken, written⟩, ih behind false⟩

theorem allowed_literalChars (indent : Nat) {text : List Char} (allowed : Allowed text)
    (broken : Bool) : Allowed (Style.literalChars indent broken text) := by
  induction text generalizing broken with
  | nil => exact allowed_nil
  | cons c text ih =>
    obtain ⟨isAllowed, behind⟩ := allowed_cons.mp allowed
    rw [Style.literalChars]
    split
    · exact allowed_cons.mpr ⟨isAllowed, ih behind true⟩
    · refine allowed_append.mpr ⟨?_, allowed_cons.mpr ⟨isAllowed, ih behind false⟩⟩
      split
      · exact allowed_replicate indent (by decide)
      · exact allowed_nil

theorem allowed_literalHints (text : List Char) : Allowed (Style.literalHints text) := by
  have hint (c : Char) (isAllowed : isAllowed c = true) : Allowed [c] :=
    allowed_cons.mpr ⟨isAllowed, allowed_nil⟩
  refine allowed_append.mpr ⟨?_, ?_⟩
  · split
    · exact hint '2' (by decide)
    · exact allowed_nil
  · split
    · exact hint '-' (by decide)
    · split
      · exact hint '+' (by decide)
      · exact hint '-' (by decide)
    · split
      · exact hint '-' (by decide)
      · split
        · exact hint '+' (by decide)
        · exact allowed_nil

/-- A text is written in allowed characters in whatever style it is written. -/
theorem allowed_textLine (indent : Nat) (value : String) :
    Allowed (Tree.textLine indent value) := by
  have written : Allowed ((Style.ofText value).write indent value.toList) := by
    have printable (escapes : needsEscapes value.toList = false) : Allowed value.toList := by
      simp only [needsEscapes, Bool.or_eq_false_iff, List.any_eq_false] at escapes
      exact allowed_of_printable fun c among => by simpa using escapes.2 c among
    rcases Style.ofText_cases value with ⟨style, isLiteral⟩ | style |
      ⟨-, ⟨style, -, isPlain⟩ | ⟨style, isSingle⟩⟩
    · simp only [allowsLiteral, Bool.and_eq_true, Bool.not_eq_true', Bool.or_eq_false_iff]
        at isLiteral
      rw [style]
      exact allowed_cons.mpr ⟨by decide, allowed_append.mpr ⟨allowed_literalHints _,
        allowed_cons.mpr ⟨by decide, allowed_literalChars indent (printable isLiteral.2.2) true⟩⟩⟩
    · rw [style]
      refine allowed_cons.mpr ⟨by decide, allowed_append.mpr ⟨fun c among => ?_,
        allowed_cons.mpr ⟨by decide, allowed_nil⟩⟩⟩
      obtain ⟨d, -, inside⟩ := List.mem_flatMap.mp among
      exact allowed_escape d c inside
    · rw [style]
      simp only [allowsPlain, Bool.not_eq_true', Bool.or_eq_false_iff] at isPlain
      exact printable isPlain.1.1.1.2
    · rw [style]
      simp only [allowsSingle, Bool.not_eq_true', Bool.or_eq_false_iff] at isSingle
      exact allowed_cons.mpr ⟨by decide, allowed_append.mpr
        ⟨allowed_singleChars indent (printable isSingle.1) false,
          allowed_cons.mpr ⟨by decide, allowed_nil⟩⟩⟩
  refine allowed_cons.mpr ⟨by decide, allowed_append.mpr ⟨written, ?_⟩⟩
  split
  · exact allowed_nil
  · exact allowed_cons.mpr ⟨by decide, allowed_nil⟩

/-! ## Trees -/

/-- Letters and digits lie between the blank and the tilde. -/
theorem isAscii_of_isAlphanum {c : Char} (isAlphanum : c.isAlphanum = true) :
    ' ' ≤ c ∧ c ≤ '~' := by
  have between {first last : Char} (first_le : ' ' ≤ first) (le_last : last ≤ '~')
      (inside : first ≤ c ∧ c ≤ last) : ' ' ≤ c ∧ c ≤ '~' :=
    ⟨Nat.le_trans first_le inside.1, Nat.le_trans inside.2 le_last⟩
  rcases Bool.or_eq_true_iff.mp isAlphanum with isAlpha | isDigit
  · rcases Bool.or_eq_true_iff.mp isAlpha with isUpper | isLower
    · have inside : 'A' ≤ c ∧ c ≤ 'Z' := of_decide_eq_true isUpper
      exact between (by decide) (by decide) inside
    · obtain ⟨above, below⟩ := Bool.and_eq_true_iff.mp isLower
      have inside : 'a' ≤ c ∧ c ≤ 'z' := ⟨of_decide_eq_true above, of_decide_eq_true below⟩
      exact between (by decide) (by decide) inside
  · obtain ⟨above, below⟩ := Bool.and_eq_true_iff.mp isDigit
    have inside : '0' ≤ c ∧ c ≤ '9' := ⟨of_decide_eq_true above, of_decide_eq_true below⟩
    exact between (by decide) (by decide) inside

theorem allowed_of_isName {text : List Char} (named : Lexer.isName text = true) : Allowed text := by
  intro c among
  have isKnown := List.all_eq_true.mp (Bool.and_eq_true_iff.mp named).2 c among
  rcases Bool.or_eq_true_iff.mp isKnown with isAlphanum | isUnderscore
  · simp [isAllowed, isAscii_of_isAlphanum isAlphanum]
  · obtain rfl := beq_iff_eq.mp isUnderscore
    decide

mutual

theorem allowed_afterDash (item : Tree) (named : item.Named) (indent : Nat) :
    Allowed (Tree.afterDash indent item) := by
  match item with
  | .text value =>
    rw [Tree.afterDash]
    exact allowed_textLine _ value
  | .list [] => simp [Tree.afterDash, allowed_nil, isAllowed]
  | .list (item :: items) =>
    simp [Tree.afterDash, isAllowed, allowed_afterDash item named.1 (indent + 2),
      allowed_itemLines items named.2 (indent + 2)]
  | .record [] => simp [Tree.afterDash, allowed_nil, isAllowed]
  | .record ((name, value) :: fields) =>
    obtain ⟨nameNamed, valueNamed, fieldsNamed⟩ := named
    simp [Tree.afterDash, isAllowed, allowed_of_isName nameNamed.1,
      allowed_afterName value valueNamed (indent + 2),
      allowed_fieldLines fields fieldsNamed (indent + 2)]

theorem allowed_afterName (value : Tree) (named : value.Named) (indent : Nat) :
    Allowed (Tree.afterName indent value) := by
  match value with
  | .text value =>
    rw [Tree.afterName]
    exact allowed_textLine _ value
  | .list [] => simp [Tree.afterName, allowed_nil, isAllowed]
  | .list (item :: items) =>
    simp [Tree.afterName, isAllowed, allowed_itemLines (item :: items) named indent]
  | .record [] => simp [Tree.afterName, allowed_nil, isAllowed]
  | .record (field :: fields) =>
    simp [Tree.afterName, isAllowed, allowed_fieldLines (field :: fields) named (indent + 2)]

theorem allowed_itemLines (items : List Tree) (named : Tree.ItemsNamed items) (indent : Nat) :
    Allowed (Tree.itemLines indent items) := by
  match items with
  | [] => exact allowed_nil
  | item :: items =>
    simp [Tree.itemLines, Style.blanks, isAllowed, allowed_replicate,
      allowed_afterDash item named.1 indent, allowed_itemLines items named.2 indent]

theorem allowed_fieldLines (fields : List (String × Tree)) (named : Tree.FieldsNamed fields)
    (indent : Nat) : Allowed (Tree.fieldLines indent fields) := by
  match fields with
  | [] => exact allowed_nil
  | (name, value) :: fields =>
    obtain ⟨nameNamed, valueNamed, fieldsNamed⟩ := named
    simp [Tree.fieldLines, Style.blanks, isAllowed, allowed_replicate,
      allowed_of_isName nameNamed.1, allowed_afterName value valueNamed indent,
      allowed_fieldLines fields fieldsNamed indent]

end

end PluginAudit.Yaml
