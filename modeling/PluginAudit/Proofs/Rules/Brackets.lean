import PluginAudit.Proofs.Suppression

/-!
# Open brackets before a place

A safe call suppresses what is among its arguments. Here that is told without
reading the line character by character: string literals are described by how
they are written (`LiteralBody`), what is outside them is what remains when they
are taken away (`Outside`), and a call is open as long as no beginning of its
arguments has more closing parentheses outside literals than opening ones
(`NeverClosed`). A literal that does not end on the line goes on to its end.

A place is suppressed exactly when a safe match before it on its line is
followed, after blanks, by a parenthesis that is never closed up to the place
(`suppressed_iff_bracket_open`). On the way the parentheses that are open are
counted, and the count is always the number of those opened less the number of
those closed: it never has to go below zero, since the reading ends with the
parenthesis that closes the call.
-/

set_option autoImplicit false

namespace PluginAudit.Rules

/-! ## String literals -/

/-- What is inside a string literal: characters other than its quote and the backslash, and
backslashes, each with the character behind it. -/
inductive LiteralBody (quote : Char) : List Char → Prop where
  | nil : LiteralBody quote []
  | plain {c : Char} {rest : List Char} (notBackslash : c ≠ '\\') (notQuote : c ≠ quote)
      (more : LiteralBody quote rest) : LiteralBody quote (c :: rest)
  | escape {c : Char} {rest : List Char} (more : LiteralBody quote rest) :
      LiteralBody quote ('\\' :: c :: rest)

/-- `kept` are the characters of a text outside its string literals. The last literal may lack its
closing quote, and then it may end in a backslash with nothing behind it. -/
inductive Outside : List Char → List Char → Prop where
  | nil : Outside [] []
  | bare {c : Char} {text kept : List Char} (noQuote : isQuote c = false)
      (more : Outside text kept) : Outside (c :: text) (c :: kept)
  | literal {quote : Char} {body text kept : List Char} (opens : isQuote quote = true)
      (inside : LiteralBody quote body) (more : Outside text kept) :
      Outside (quote :: body ++ quote :: text) kept
  | unclosed {quote : Char} {body : List Char} (opens : isQuote quote = true)
      (inside : LiteralBody quote body) : Outside (quote :: body) []
  | broken {quote : Char} {body : List Char} (opens : isQuote quote = true)
      (inside : LiteralBody quote body) : Outside (quote :: body ++ ['\\']) []

/-- A quote is no backslash. -/
theorem ne_backslash_of_isQuote {quote : Char} (opens : isQuote quote = true) : quote ≠ '\\' := by
  rintro rfl
  exact absurd opens (by decide)

/-- Nothing inside a literal is bare. -/
theorem LiteralBody.bare_append {quote : Char} {body : List Char} (inside : LiteralBody quote body)
    (rest : List Char) :
    Rules.bare (.inside quote) (body ++ rest) = Rules.bare (.inside quote) rest := by
  induction inside with
  | nil => rfl
  | plain notBackslash notQuote _ ih =>
    simpa [Rules.bare, Literal.next, notBackslash, notQuote] using ih
  | escape _ ih => simpa [Rules.bare, Literal.next] using ih

/-- What follows an opening quote is a literal that is closed, or one that goes on to the end. -/
theorem literalBody_cases (quote : Char) : ∀ text : List Char,
    (∃ body rest, LiteralBody quote body ∧ text = body ++ quote :: rest) ∨
      LiteralBody quote text ∨ ∃ body, LiteralBody quote body ∧ text = body ++ ['\\']
  | [] => .inr (.inl .nil)
  | c :: rest => by
    by_cases isBackslash : c = '\\'
    · subst isBackslash
      match rest with
      | [] => exact .inr (.inr ⟨[], .nil, rfl⟩)
      | next :: rest =>
        rcases literalBody_cases quote rest with
          ⟨body, behind, inside, rfl⟩ | inside | ⟨body, inside, rfl⟩
        · exact .inl ⟨'\\' :: next :: body, behind, .escape inside, rfl⟩
        · exact .inr (.inl (.escape inside))
        · exact .inr (.inr ⟨'\\' :: next :: body, .escape inside, rfl⟩)
    · by_cases isClosing : c = quote
      · subst isClosing
        exact .inl ⟨[], rest, .nil, rfl⟩
      · rcases literalBody_cases quote rest with
          ⟨body, behind, inside, rfl⟩ | inside | ⟨body, inside, rfl⟩
        · exact .inl ⟨c :: body, behind, .plain isBackslash isClosing inside, rfl⟩
        · exact .inr (.inl (.plain isBackslash isClosing inside))
        · exact .inr (.inr ⟨c :: body, .plain isBackslash isClosing inside, rfl⟩)

/-- The reading of a text keeps the opening quotes of literals, which are not outside of them. -/
def unquoted (text : List Char) : List Char := (bare .outside text).filter fun c => !isQuote c

theorem unquoted_cons_of_not_isQuote {c : Char} {rest : List Char} (noQuote : isQuote c = false) :
    unquoted (c :: rest) = c :: unquoted rest := by
  simp [unquoted, bare, Literal.next, noQuote]

/-- Behind an opening quote the reading goes on behind the body of the literal. -/
theorem unquoted_cons_append {quote : Char} {body : List Char} (opens : isQuote quote = true)
    (inside : LiteralBody quote body) (rest : List Char) :
    unquoted (quote :: body ++ rest) =
      (bare (.inside quote) rest).filter fun c => !isQuote c := by
  simp [unquoted, bare, Literal.next, opens, inside.bare_append]

theorem unquoted_literal {quote : Char} {body : List Char} (opens : isQuote quote = true)
    (inside : LiteralBody quote body) (rest : List Char) :
    unquoted (quote :: body ++ quote :: rest) = unquoted rest := by
  rw [unquoted_cons_append opens inside]
  simp [unquoted, bare, Literal.next, ne_backslash_of_isQuote opens]

theorem Outside.eq_unquoted {text kept : List Char} (outside : Outside text kept) :
    kept = unquoted text := by
  induction outside with
  | nil => rfl
  | bare noQuote _ ih => rw [unquoted_cons_of_not_isQuote noQuote, ih]
  | literal opens inside _ ih => rw [unquoted_literal opens inside, ih]
  | unclosed opens inside =>
    rw [← List.append_nil (_ :: _), unquoted_cons_append opens inside]
    rfl
  | broken opens inside =>
    rw [unquoted_cons_append opens inside]
    simp [Rules.bare]

theorem outside_unquoted (text : List Char) : Outside text (unquoted text) := by
  match text with
  | [] => exact .nil
  | c :: rest =>
    cases opens : isQuote c with
    | false =>
      rw [unquoted_cons_of_not_isQuote opens]
      exact .bare opens (outside_unquoted rest)
    | true =>
      rcases literalBody_cases c rest with
        ⟨body, behind, inside, rfl⟩ | inside | ⟨body, inside, rfl⟩
      · rw [← List.cons_append, unquoted_literal opens inside]
        exact .literal opens inside (outside_unquoted behind)
      · have nothing := (Outside.unclosed opens inside).eq_unquoted
        exact nothing ▸ .unclosed opens inside
      · have nothing := (Outside.broken opens inside).eq_unquoted
        exact nothing ▸ .broken opens inside
termination_by text.length

/-- **Each text has one reading,** told by the characters one after the other. -/
theorem outside_iff {text kept : List Char} : Outside text kept ↔ kept = unquoted text :=
  ⟨Outside.eq_unquoted, fun same => same ▸ outside_unquoted text⟩

theorem count_unquoted {c : Char} (noQuote : isQuote c = false) (text : List Char) :
    (unquoted text).count c = (bare .outside text).count c :=
  List.count_filter (by rw [noQuote]; rfl)

/-! ## Calls that are never closed -/

@[simp] theorem isQuote_opening : isQuote '(' = false := by decide

@[simp] theorem isQuote_closing : isQuote ')' = false := by decide

/-- No beginning of a text has more closing parentheses outside its string literals than opening
ones. -/
def NeverClosed (text : List Char) : Prop :=
  ∀ part, part <+: text → ∀ kept, Outside part kept → kept.count ')' ≤ kept.count '('

theorem neverClosed_iff {text : List Char} : NeverClosed text ↔ NeverCloses 0 .outside text := by
  simp only [NeverClosed, NeverCloses, outside_iff, forall_eq, count_unquoted isQuote_closing,
    count_unquoted isQuote_opening, Nat.zero_add]

/-- The parentheses that are open behind one more character, none if it closes the call. -/
def openBehind (inner : Nat) (state : Literal) (c : Char) : Option Nat :=
  if state = .outside ∧ c = '(' then some (inner + 1)
  else if state = .outside ∧ c = ')' then if inner = 0 then none else some (inner - 1)
  else some inner

theorem staysOpen_cons (inner : Nat) (state : Literal) (c : Char) (rest : List Char) :
    staysOpen inner state (c :: rest) =
      (openBehind inner state c).any fun more => staysOpen more (state.next c) rest := by
  cases state with
  | escaped quote => simp [staysOpen, openBehind, Literal.next]
  | inside quote =>
    simp only [staysOpen, openBehind, Literal.next]
    split
    · simp
    · split <;> simp
  | outside =>
    simp only [staysOpen, openBehind, Literal.next]
    by_cases opens : c = '('
    · simp [opens]
    · by_cases closes : c = ')'
      · cases inner <;> simp [closes]
      · split <;> simp [opens, closes]

theorem count_bare_cons (state : Literal) (c x : Char) (part : List Char) :
    (bare state (c :: part)).count x =
      (bare (state.next c) part).count x + if state = .outside ∧ c = x then 1 else 0 := by
  rw [bare]
  split
  · next isOutside => simp [List.count_cons, isOutside]
  · next notOutside => simp [notOutside]

/-- **One character changes the count by the parentheses in it.** -/
theorem openBehind_eq_some {inner more : Nat} {state : Literal} {c : Char}
    (isOpen : openBehind inner state c = some more) :
    more + (if state = .outside ∧ c = ')' then 1 else 0) =
      inner + (if state = .outside ∧ c = '(' then 1 else 0) := by
  unfold openBehind at isOpen
  split at isOpen
  · next opens =>
    obtain ⟨rfl, rfl⟩ := opens
    simp [← Option.some.inj isOpen]
  · next notOpening =>
    split at isOpen
    · next closes =>
      split at isOpen
      · cases isOpen
      · next isSome =>
        obtain ⟨rfl, rfl⟩ := closes
        obtain rfl := Option.some.inj isOpen
        have positive : inner - 1 + 1 = inner := Nat.succ_pred isSome
        simp [positive]
    · next notClosing =>
      rw [if_neg notOpening, if_neg notClosing, Option.some.inj isOpen]

/-- Where a call is still open behind a part of its arguments, the reading goes on with the
parentheses that were opened in the part and not closed. -/
theorem staysOpen_append {inner : Nat} {state : Literal} {part : List Char}
    (isOpen : staysOpen inner state part = true) :
    ∃ depth, depth + (bare state part).count ')' = inner + (bare state part).count '(' ∧
      ∀ rest, staysOpen inner state (part ++ rest) = staysOpen depth (state.after part) rest := by
  induction part generalizing inner state with
  | nil => exact ⟨inner, rfl, fun rest => rfl⟩
  | cons c part ih =>
    rw [staysOpen_cons] at isOpen
    cases isMore : openBehind inner state c with
    | none => simp [isMore] at isOpen
    | some more =>
      rw [isMore, Option.any_some] at isOpen
      obtain ⟨depth, counts, onward⟩ := ih isOpen
      refine ⟨depth, ?_, fun rest => ?_⟩
      · have step := openBehind_eq_some isMore
        rw [count_bare_cons, count_bare_cons]
        omega
      · rw [List.cons_append, staysOpen_cons, isMore, Option.any_some, Literal.after_cons]
        exact onward rest

/-- A call that is closed stays so. -/
theorem staysOpen_append_of_closed {inner : Nat} {state : Literal} {part : List Char}
    (isClosed : staysOpen inner state part = false) (rest : List Char) :
    staysOpen inner state (part ++ rest) = false := by
  rw [Bool.eq_false_iff, ne_eq, staysOpen_iff] at isClosed ⊢
  intro never
  exact isClosed fun beginning isBeginning =>
    never beginning (isBeginning.trans (List.prefix_append part rest))

/-! ## Lines -/

/-- A line is what a text has between the last line break before a place and the place. -/
structure IsLineBefore (text : Array Char) (place : Nat) (line : List Char) : Prop where
  splits : ∃ before, text.toList.take place = before ++ line ∧
    (before = [] ∨ before.getLast? = some '\n')
  noBreak : '\n' ∉ line

theorem toList_lineBefore (text : Array Char) (place : Nat) :
    (lineBefore text place).toList = (text.toList.take place).drop (lineStart text place) := by
  rw [lineBefore, Array.toList_extract, List.extract_eq_take_drop, List.drop_take]

theorem lineStart_le (text : Array Char) (place : Nat) : lineStart text place ≤ place := by
  fun_induction lineStart text place with
  | case1 => exact Nat.le_refl 0
  | case2 place => exact Nat.le_refl (place + 1)
  | case3 place _ ih => exact Nat.le_succ_of_le ih

/-- A line goes on with a character that is no line break. -/
theorem IsLineBefore.extend {text : Array Char} {place : Nat} {line : List Char} {c : Char}
    (isLine : IsLineBefore text place line) (next : text.toList[place]? = some c)
    (noBreak : c ≠ '\n') : IsLineBefore text (place + 1) (line ++ [c]) := by
  obtain ⟨⟨before, splits, ends⟩, within⟩ := isLine
  refine ⟨⟨before, ?_, ends⟩, ?_⟩
  · rw [List.take_add_one, next, splits, List.append_assoc]
    rfl
  · simpa using ⟨within, noBreak.symm⟩

theorem isLineBefore_lineBefore (text : Array Char) (place : Nat) :
    IsLineBefore text place (lineBefore text place).toList := by
  rw [toList_lineBefore]
  fun_induction lineStart text place with
  | case1 => exact ⟨⟨[], rfl, .inl rfl⟩, by simp⟩
  | case2 place isBreak =>
    rw [← Array.getElem?_toList] at isBreak
    have nothing : (text.toList.take (place + 1)).drop (place + 1) = [] :=
      List.drop_eq_nil_of_le (List.length_take_le _ _)
    rw [nothing]
    refine ⟨⟨_, (List.append_nil _).symm, .inr ?_⟩, List.not_mem_nil⟩
    rw [List.take_add_one, isBreak, Option.toList_some, List.getLast?_concat]
  | case3 place noBreak ih =>
    rw [← Array.getElem?_toList] at noBreak
    cases next : text.toList[place]? with
    | none =>
      have same : text.toList.take (place + 1) = text.toList.take place := by
        rw [List.take_add_one, next, Option.toList_none, List.append_nil]
      obtain ⟨⟨before, splits, ends⟩, within⟩ := ih
      rw [same]
      exact ⟨⟨before, same.trans splits, ends⟩, within⟩
    | some c =>
      have inside : place < text.toList.length := (List.getElem?_eq_some_iff.mp next).1
      have grows : (text.toList.take (place + 1)).drop (lineStart text place) =
          (text.toList.take place).drop (lineStart text place) ++ [c] := by
        rw [List.take_add_one, next, Option.toList_some, List.drop_append_of_le_length]
        rw [List.length_take_of_le inside.le]
        exact lineStart_le text place
      rw [grows]
      exact ih.extend next fun isBreak => noBreak (isBreak ▸ next)

theorem IsLineBefore.unique {text : Array Char} {place : Nat} {line other : List Char}
    (isLine : IsLineBefore text place line) (isOther : IsLineBefore text place other) :
    line = other := by
  have last : ∀ {line : List Char}, IsLineBefore text place line →
      line = ((text.toList.take place).reverse.takeWhile (· != '\n')).reverse := by
    rintro line ⟨⟨before, splits, ends⟩, noBreak⟩
    have within : ∀ c ∈ line.reverse, (c != '\n') = true := by
      intro c among
      simp only [bne_iff_ne]
      rintro rfl
      exact noBreak (List.mem_reverse.mp among)
    rw [splits, List.reverse_append, List.takeWhile_append_of_pos within]
    rcases ends with rfl | isBreak
    · simp
    · obtain ⟨earlier, rfl⟩ := List.getLast?_eq_some_iff.mp isBreak
      simp
  rw [last isLine, last isOther]

/-- **A place is suppressed exactly when a call before it on its line is never closed:** a safe
pattern matches on the line up to the place, behind the match and blanks a parenthesis opens, and
in no beginning of what follows more parentheses are closed than opened. While the call is open
the count of its inner parentheses is the number of those opened less the number of those closed,
which is never below zero; once it is closed, nothing that follows matters. -/
theorem suppressed_iff_bracket_open (rules : Rules) :
    (∀ text place, rules.isSuppressed text place = true ↔
        ∃ line, IsLineBefore text place line ∧
          ∃ pattern ∈ rules.safe, ∃ call ∈ pattern.findAll line.toArray, ∃ before arguments,
            OpensBehind line call.stop before arguments ∧ NeverClosed arguments) ∧
      ∀ part kept, Outside part kept →
        (staysOpen 0 .outside part = true → ∃ (depth : Nat) (state : Literal),
          (depth : Int) = kept.count '(' - kept.count ')' ∧
            ∀ rest, staysOpen 0 .outside (part ++ rest) = staysOpen depth state rest) ∧
        (staysOpen 0 .outside part = false →
          ∀ rest, staysOpen 0 .outside (part ++ rest) = false) := by
  constructor
  · intro text place
    have isLine := isLineBefore_lineBefore text place
    simp only [isSuppressed_iff, insideArguments_iff, neverClosed_iff]
    constructor
    · rintro ⟨pattern, isSafe, call, isCall, opens⟩
      exact ⟨_, isLine, pattern, isSafe, call, isCall, opens⟩
    · rintro ⟨line, isOther, pattern, isSafe, call, isCall, opens⟩
      obtain rfl := isOther.unique isLine
      exact ⟨pattern, isSafe, call, isCall, opens⟩
  · rintro part kept outside
    obtain rfl := outside_iff.mp outside
    refine ⟨fun isOpen => ?_, staysOpen_append_of_closed⟩
    obtain ⟨depth, counts, onward⟩ := staysOpen_append isOpen
    refine ⟨depth, _, ?_, onward⟩
    rw [count_unquoted isQuote_closing, count_unquoted isQuote_opening]
    omega

/-- A literal that does not end keeps a call open. An escaped quote does not end one. -/
example : staysOpen 0 .outside "a, '), b)".toList = true ∧
    staysOpen 0 .outside "a, '\')', b)".toList = false := by decide

end PluginAudit.Rules
