import PluginAudit.Proofs.Yaml.Cursor
import PluginAudit.Proofs.Yaml.Taking

/-!
# What a token begins with

How the next token is read shows in its first character, and sometimes in the
one behind it.
-/

set_option autoImplicit false

namespace PluginAudit.Yaml

namespace Cursor

variable {cursor : Cursor} {c : Char} {more : List Char}

theorem next?_of_rest (here : cursor.rest = c :: more) : cursor.next? = some c := by
  rw [next?, here, List.head?_cons]

theorem behind_of_rest (here : cursor.rest = c :: more) : cursor.at? 1 = more.head? := by
  rw [at?, here, List.getElem?_cons_succ, List.head?_eq_getElem?]

/-- A mark of a document consists of one character only. -/
theorem atDocumentMark_of_ne (here : cursor.rest = c :: more) {other : Char} (ne : c ≠ other) :
    cursor.atDocumentMark other = false := by
  simp [atDocumentMark, at?, here, ne]

end Cursor

namespace Lexer

theorem beginsPlain_of_notIndicator {c : Char} {behind : Option Char}
    (noGap : (isBlank c || isBreak c) = false) (notIndicator : isIndicator c = false)
    (notMark : c = '-' ∨ c = '?' ∨ c = ':' → isGap behind = false) :
    beginsPlain false c behind = true := by
  have known : indicators.all (fun d => ['-', '?', ':'].contains d || isIndicator d) = true := by
    decide
  by_cases among : c ∈ indicators
  · have isMark := List.all_eq_true.mp known c among
    rw [notIndicator, Bool.or_false, List.contains_iff_mem] at isMark
    simp only [List.mem_cons, List.not_mem_nil, or_false] at isMark
    rcases isMark with rfl | rfl | rfl
    · have stays := notMark (.inl rfl)
      cases behind with
      | none => cases stays
      | some d => simp [beginsPlain, (Bool.or_eq_false_iff.mp stays).1]
    · simp [beginsPlain, notMark (.inr (.inl rfl))]
    · simp [beginsPlain, notMark (.inr (.inr rfl))]
  · simp [beginsPlain, noGap, among]

/-- The reading stands at the start of a token. -/
structure Ready (lexer : Lexer) : Prop where
  started : lexer.started = true
  settled : lexer.settle = .ok lexer

section

variable {lexer : Lexer} (ready : lexer.Ready) {more : List Char}

include ready

theorem Ready.reached :
    ∃ dropped, (skipGap (lexer.cursor.rest.length + 1) lexer).dropStale = .ok dropped ∧
      dropped.closeBlocks dropped.column = lexer := by
  have settled := ready.settled
  rw [settle] at settled
  cases ran : (skipGap (lexer.cursor.rest.length + 1) lexer).dropStale with
  | error fault =>
    rw [ran] at settled
    cases settled
  | ok dropped =>
    rw [ran] at settled
    exact ⟨dropped, rfl, Except.ok.inj settled⟩

/-- The end of the text. -/
theorem fetch_end (here : lexer.cursor.rest = []) : lexer.fetch = lexer.streamEnd := by
  obtain ⟨dropped, ran, closed⟩ := ready.reached
  have next : lexer.cursor.next? = none := by rw [Cursor.next?, here, List.head?_nil]
  rw [fetch, ready.started, ran]
  simp [bind, Except.bind, closed, next]

/-- The dash of an entry. -/
theorem fetch_dash (here : lexer.cursor.rest = '-' :: more) (alone : isGap more.head? = true) :
    lexer.fetch = lexer.blockEntry := by
  obtain ⟨dropped, ran, closed⟩ := ready.reached
  have noStart : lexer.cursor.atDocumentMark '-' = false := by
    have other : more.head? ≠ some '-' := by
      intro dash
      rw [dash] at alone
      cases alone
    simp [Cursor.atDocumentMark, Cursor.behind_of_rest here, other]
  rw [fetch, ready.started, ran]
  simp [bind, Except.bind, closed, Cursor.next?_of_rest here, Cursor.behind_of_rest here, alone,
    noStart, Cursor.atDocumentMark_of_ne here]

/-- The colon of a value. -/
theorem fetch_colon (here : lexer.cursor.rest = ':' :: more) (alone : isGap more.head? = true) :
    lexer.fetch = lexer.valueMark := by
  obtain ⟨dropped, ran, closed⟩ := ready.reached
  rw [fetch, ready.started, ran]
  simp [bind, Except.bind, closed, Cursor.next?_of_rest here, Cursor.behind_of_rest here, alone,
    Cursor.atDocumentMark_of_ne here]

/-- The bar of a block. -/
theorem fetch_bar (here : lexer.cursor.rest = '|' :: more) (outside : lexer.inFlow = false) :
    lexer.fetch = lexer.blockScalar true := by
  obtain ⟨dropped, ran, closed⟩ := ready.reached
  rw [fetch, ready.started, ran]
  simp [bind, Except.bind, closed, Cursor.next?_of_rest here, outside,
    Cursor.atDocumentMark_of_ne here]

/-- The quote of a quoted scalar. -/
theorem fetch_quote (single : Bool)
    (here : lexer.cursor.rest = (if single then '\'' else '"') :: more) :
    lexer.fetch = lexer.quotedScalar single := by
  obtain ⟨dropped, ran, closed⟩ := ready.reached
  rw [fetch, ready.started, ran]
  cases single <;>
    simp [bind, Except.bind, closed, Cursor.next?_of_rest here, Cursor.atDocumentMark_of_ne here]

/-- The start of a list or of a record between brackets. -/
theorem fetch_open (isList : Bool)
    (here : lexer.cursor.rest = (if isList then '[' else '\x7b') :: more) :
    lexer.fetch =
      lexer.flowStart (if isList then .flowSequenceStart else .flowMappingStart) := by
  obtain ⟨dropped, ran, closed⟩ := ready.reached
  rw [fetch, ready.started, ran]
  cases isList <;>
    simp [bind, Except.bind, closed, Cursor.next?_of_rest here, Cursor.atDocumentMark_of_ne here]

/-- The end of a list or of a record between brackets. -/
theorem fetch_close (isList : Bool)
    (here : lexer.cursor.rest = (if isList then ']' else '\x7d') :: more) :
    lexer.fetch = lexer.flowEnd (if isList then .flowSequenceEnd else .flowMappingEnd) := by
  obtain ⟨dropped, ran, closed⟩ := ready.reached
  rw [fetch, ready.started, ran]
  cases isList <;>
    simp [bind, Except.bind, closed, Cursor.next?_of_rest here, Cursor.atDocumentMark_of_ne here]

/-- The start of a scalar without quotes. -/
theorem fetch_plain {c : Char} (here : lexer.cursor.rest = c :: more)
    (noBoundary : lexer.cursor.atDocumentBoundary = false)
    (noGap : (isBlank c || isBreak c) = false) (notIndicator : isIndicator c = false)
    (notMark : c = '-' ∨ c = '?' ∨ c = ':' → isGap more.head? = false)
    (outside : lexer.inFlow = false) : lexer.fetch = lexer.plainScalar := by
  obtain ⟨dropped, ran, closed⟩ := ready.reached
  rw [Cursor.atDocumentBoundary, Bool.or_eq_false_iff] at noBoundary
  have noMark (other : Char) (isMark : other = '-' ∨ other = '?' ∨ other = ':') :
      (decide (c = other) && isGap more.head?) = false := by
    by_cases same : c = other
    · rw [notMark (same ▸ isMark), Bool.and_false]
    · simp [same]
  have begins := beginsPlain_of_notIndicator noGap notIndicator notMark
  have apart (other : Char) (isOther : isIndicator other = true) : c ≠ other := by
    rintro rfl
    rw [notIndicator] at isOther
    cases isOther
  rw [fetch, ready.started, ran]
  simp only [bind, Except.bind, closed, Cursor.next?_of_rest here, Cursor.behind_of_rest here,
    noBoundary, outside, begins, Bool.false_or, apart '%' (by decide),
    apart '[' (by decide), apart '\x7b' (by decide), apart ']' (by decide),
    apart '\x7d' (by decide), apart ',' (by decide), apart '*' (by decide), apart '&' (by decide),
    apart '!' (by decide), apart '|' (by decide), apart '>' (by decide), apart '\'' (by decide),
    apart '"' (by decide)]
  simp [noMark]

end

end Lexer

end PluginAudit.Yaml
