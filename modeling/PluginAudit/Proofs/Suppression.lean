import Mathlib.Data.List.TakeWhile
import Mathlib.Tactic.Tauto
import PluginAudit.Rules.Suppression

/-!
# Suppression and the line as a whole

A match is suppressed when a safe call before it on its line is still open. The
call is read from the end of the safe match on, as if every safe match stood
outside string literals. A reader of the whole line knows better: read from its
first character, the text of a safe call may lie inside a literal, and then
its parenthesis opens nothing.

The parentheses of a text that count are those among its *bare* characters,
the ones that are read outside string literals. A call stays open exactly when
no beginning of its arguments has more bare closing parentheses than opening
ones (`staysOpen_iff`). The two readings agree from a parenthesis on that is
itself bare, so that suppression by such a call is right for the whole line,
and every call that is open on the whole line suppresses
(`openOnLine_iff`). What is left is exact: a suppressed match without an open
call is one of which every suppressing call has its parenthesis inside a
literal (`suppression_sound_unless_quoted`). Such matches exist
(`quoted_call_suppresses`).
-/

set_option autoImplicit false

namespace PluginAudit.Rules

/-! ## Reading literals -/

/-- Where the reading of a text stands after one more character. -/
def Literal.next : Literal → Char → Literal
  | outside, c => if isQuote c then inside c else outside
  | inside quote, c =>
    if c = '\\' then escaped quote else if c = quote then outside else inside quote
  | escaped quote, _ => inside quote

/-- Where the reading of a text stands at its end. -/
def Literal.after (state : Literal) (text : List Char) : Literal := text.foldl next state

@[simp] theorem Literal.after_nil (state : Literal) : state.after [] = state := rfl

@[simp] theorem Literal.after_cons (state : Literal) (c : Char) (rest : List Char) :
    state.after (c :: rest) = (state.next c).after rest := rfl

theorem Literal.after_append (state : Literal) (first second : List Char) :
    state.after (first ++ second) = (state.after first).after second :=
  List.foldl_append

/-- A parenthesis opens no literal. -/
theorem Literal.outside_next_parenthesis : outside.next '(' = outside := rfl

/-- The characters of a text that are read outside string literals. -/
def bare : Literal → List Char → List Char
  | _, [] => []
  | state, c :: rest =>
    if state = .outside then c :: bare (state.next c) rest else bare (state.next c) rest

/-- No beginning of a text has more bare closing parentheses than bare opening ones, beyond those
that were open before it. -/
def NeverCloses (inner : Nat) (state : Literal) (text : List Char) : Prop :=
  ∀ part, part <+: text → (bare state part).count ')' ≤ inner + (bare state part).count '('

/-- Behind a character that changes the count of neither kind the count goes on as before. -/
theorem neverCloses_cons_of_neutral {inner : Nat} {state : Literal} {c : Char} {rest : List Char}
    (neutral : state = .outside → c ≠ '(' ∧ c ≠ ')') :
    NeverCloses inner state (c :: rest) ↔ NeverCloses inner (state.next c) rest := by
  have counts : ∀ part x, x = '(' ∨ x = ')' →
      (bare state (c :: part)).count x = (bare (state.next c) part).count x := by
    intro part x parenthesis
    rw [bare]
    split
    · next isOutside =>
      refine List.count_cons_of_ne ?_
      rcases parenthesis with rfl | rfl
      · exact (neutral isOutside).1
      · exact (neutral isOutside).2
    · rfl
  constructor
  · intro never part isPart
    have bound := never (c :: part) (List.cons_prefix_cons.mpr ⟨rfl, isPart⟩)
    rwa [counts part _ (.inr rfl), counts part _ (.inl rfl)] at bound
  · intro never part isPart
    rcases List.prefix_cons_iff.mp isPart with rfl | ⟨more, rfl, within⟩
    · simp [bare]
    · rw [counts more _ (.inr rfl), counts more _ (.inl rfl)]
      exact never more within

/-- Behind a bare opening parenthesis one more is open. -/
theorem neverCloses_open {inner : Nat} {rest : List Char} :
    NeverCloses inner .outside ('(' :: rest) ↔ NeverCloses (inner + 1) .outside rest := by
  constructor
  · intro never part isPart
    have bound := never ('(' :: part) (List.cons_prefix_cons.mpr ⟨rfl, isPart⟩)
    simp only [bare, if_true, Literal.outside_next_parenthesis] at bound
    rw [List.count_cons_self, List.count_cons_of_ne (by decide)] at bound
    omega
  · intro never part isPart
    rcases List.prefix_cons_iff.mp isPart with rfl | ⟨more, rfl, within⟩
    · simp [bare]
    · have bound := never more within
      simp only [bare, if_true, Literal.outside_next_parenthesis]
      rw [List.count_cons_self, List.count_cons_of_ne (by decide)]
      omega

/-- A bare closing parenthesis takes one of those that are open, and there must be one. -/
theorem neverCloses_close {inner : Nat} {rest : List Char} :
    NeverCloses inner .outside (')' :: rest) ↔
      ∃ fewer, inner = fewer + 1 ∧ NeverCloses fewer .outside rest := by
  have next : Literal.outside.next ')' = .outside := rfl
  constructor
  · intro never
    have first := never [')'] (List.cons_prefix_cons.mpr ⟨rfl, List.nil_prefix⟩)
    simp [bare] at first
    obtain ⟨fewer, rfl⟩ : ∃ fewer, inner = fewer + 1 := ⟨inner - 1, by omega⟩
    refine ⟨fewer, rfl, ?_⟩
    intro part isPart
    have bound := never (')' :: part) (List.cons_prefix_cons.mpr ⟨rfl, isPart⟩)
    simp only [bare, if_true, next] at bound
    rw [List.count_cons_self, List.count_cons_of_ne (by decide)] at bound
    omega
  · rintro ⟨fewer, rfl, never⟩ part isPart
    rcases List.prefix_cons_iff.mp isPart with rfl | ⟨more, rfl, within⟩
    · simp [bare]
    · have bound := never more within
      simp only [bare, if_true, next]
      rw [List.count_cons_self, List.count_cons_of_ne (by decide)]
      omega

/-- **A call stays open exactly when none of its beginnings closes it.** -/
theorem staysOpen_iff (inner : Nat) (state : Literal) (text : List Char) :
    staysOpen inner state text = true ↔ NeverCloses inner state text := by
  fun_induction staysOpen inner state text with
  | case1 inner state =>
    simp only [true_iff]
    intro part isPart
    rw [List.prefix_nil.mp isPart]
    simp [bare]
  | case2 inner quote c rest ih =>
    rw [ih, neverCloses_cons_of_neutral (by simp)]
    rfl
  | case3 inner quote rest ih =>
    rw [ih, neverCloses_cons_of_neutral (by simp)]
    simp [Literal.next]
  | case4 inner quote rest notBackslash ih =>
    rw [ih, neverCloses_cons_of_neutral (by simp)]
    simp [Literal.next, notBackslash]
  | case5 inner quote c rest notBackslash notQuote ih =>
    rw [ih, neverCloses_cons_of_neutral (by simp)]
    simp [Literal.next, notBackslash, notQuote]
  | case6 inner c rest opens ih =>
    have neutral : c ≠ '(' ∧ c ≠ ')' := by
      constructor <;> (rintro rfl; exact absurd opens (by decide))
    rw [ih, neverCloses_cons_of_neutral fun _ => neutral]
    simp [Literal.next, opens]
  | case7 inner rest notQuote ih => rw [ih, neverCloses_open]
  | case8 rest notQuote notOpen =>
    rw [neverCloses_close]
    simp
  | case9 rest notQuote notOpen fewer ih =>
    rw [ih, neverCloses_close]
    simp
  | case10 inner c rest notQuote notOpen notClose ih =>
    rw [ih, neverCloses_cons_of_neutral fun _ => ⟨notOpen, notClose⟩]
    simp [Literal.next, notQuote]

/-! ## Calls on a line -/

/-- On a line a parenthesis opens behind a place with nothing but blanks between. `before` is the
line up to the parenthesis, `arguments` what follows it. -/
structure OpensBehind (line : List Char) (stop : Nat) (before arguments : List Char) : Prop where
  splits : line = before ++ '(' :: arguments
  reaches : stop ≤ before.length
  blank : ∀ c ∈ before.drop stop, Unicode.isBlank c = true

/-- A parenthesis is no blank. -/
theorem parenthesis_not_blank : ¬ Unicode.isBlank '(' = true := by decide

/-- The parenthesis is where the blanks behind the place end. -/
theorem opensBehind_iff {line before arguments : List Char} {stop : Nat} :
    OpensBehind line stop before arguments ↔
      (line.drop stop).dropWhile Unicode.isBlank = '(' :: arguments ∧
        before = line.take stop ++ (line.drop stop).takeWhile Unicode.isBlank := by
  constructor
  · rintro ⟨rfl, reaches, blank⟩
    rw [List.drop_append_of_le_length reaches, List.take_append_of_le_length reaches,
      List.dropWhile_append_of_pos blank, List.takeWhile_append_of_pos blank,
      List.dropWhile_cons_of_neg parenthesis_not_blank,
      List.takeWhile_cons_of_neg parenthesis_not_blank]
    simp
  · rintro ⟨opens, rfl⟩
    have within : stop ≤ line.length := by
      by_contra beyond
      rw [List.drop_eq_nil_of_le (by omega)] at opens
      simp at opens
    have reaches : (line.take stop).length = stop := by simp [within]
    refine ⟨?_, by simp [within], ?_⟩
    · rw [List.append_assoc, ← opens, List.takeWhile_append_dropWhile, List.take_append_drop]
    · intro c member
      rw [List.drop_append_of_le_length (by omega), List.drop_eq_nil_of_le (by omega),
        List.nil_append] at member
      exact List.mem_takeWhile_imp member

/-- There is at most one such parenthesis. -/
theorem OpensBehind.unique {line before before' arguments arguments' : List Char} {stop : Nat}
    (first : OpensBehind line stop before arguments)
    (second : OpensBehind line stop before' arguments') :
    before = before' ∧ arguments = arguments' := by
  obtain ⟨opens, rfl⟩ := opensBehind_iff.mp first
  obtain ⟨opens', rfl⟩ := opensBehind_iff.mp second
  exact ⟨rfl, (List.cons.inj (opens.symm.trans opens')).2⟩

/-- Arguments that are still open at the end of a line, read from their parenthesis on. -/
theorem insideArguments_iff {line : List Char} {stop : Nat} :
    insideArguments (line.drop stop) = true ↔
      ∃ before arguments, OpensBehind line stop before arguments ∧
        NeverCloses 0 .outside arguments := by
  constructor
  · intro inside
    unfold insideArguments at inside
    split at inside
    · next arguments opens =>
      exact ⟨_, arguments, opensBehind_iff.mpr ⟨opens, rfl⟩, (staysOpen_iff _ _ _).mp inside⟩
    · exact absurd inside Bool.false_ne_true
  · rintro ⟨before, arguments, behind, never⟩
    obtain ⟨opens, -⟩ := opensBehind_iff.mp behind
    rw [insideArguments, opens]
    exact (staysOpen_iff _ _ _).mpr never

/-- Behind a place of a line a call is open: its parenthesis is bare when the line is read from
its first character, and so read nothing up to the end of the line closes it. -/
def OpenOnLine (line : List Char) (stop : Nat) : Prop :=
  ∃ before arguments, OpensBehind line stop before arguments ∧
    Literal.outside.after before = .outside ∧
      NeverCloses 0 (Literal.outside.after (before ++ ['('])) arguments

/-- Behind a place of a line a parenthesis opens inside a string literal, the line being read from
its first character. -/
def QuotedOnLine (line : List Char) (stop : Nat) : Prop :=
  ∃ before arguments, OpensBehind line stop before arguments ∧
    Literal.outside.after before ≠ .outside

/-- **The two readings agree but for parentheses inside string literals.** -/
theorem openOnLine_iff {line : List Char} {stop : Nat} :
    OpenOnLine line stop ↔
      insideArguments (line.drop stop) = true ∧ ¬ QuotedOnLine line stop := by
  have behindBare : ∀ before, Literal.outside.after before = .outside →
      Literal.outside.after (before ++ ['(']) = .outside := by
    intro before isOutside
    rw [Literal.after_append, isOutside]
    rfl
  rw [insideArguments_iff]
  constructor
  · rintro ⟨before, arguments, behind, isOutside, never⟩
    rw [behindBare before isOutside] at never
    refine ⟨⟨before, arguments, behind, never⟩, ?_⟩
    rintro ⟨before', arguments', behind', quoted⟩
    obtain ⟨rfl, -⟩ := behind.unique behind'
    exact quoted isOutside
  · rintro ⟨⟨before, arguments, behind, never⟩, notQuoted⟩
    have isOutside : Literal.outside.after before = .outside := by
      by_contra quoted
      exact notQuoted ⟨before, arguments, behind, quoted⟩
    exact ⟨before, arguments, behind, isOutside, by rwa [behindBare before isOutside]⟩

/-! ## Suppression -/

/-- On the line of a place a safe call that begins before the place is open at it. -/
def OpenBefore (rules : Rules) (text : Array Char) (place : Nat) : Prop :=
  ∃ pattern ∈ rules.safe, ∃ call ∈ pattern.findAll (lineBefore text place),
    OpenOnLine (lineBefore text place).toList call.stop

/-- Whatever safe match suppresses at a place has its parenthesis inside a string literal of the
line. -/
def OnlyQuoted (rules : Rules) (text : Array Char) (place : Nat) : Prop :=
  ∀ pattern ∈ rules.safe, ∀ call ∈ pattern.findAll (lineBefore text place),
    insideArguments ((lineBefore text place).toList.drop call.stop) = true →
      QuotedOnLine (lineBefore text place).toList call.stop

/-- A place is suppressed by a safe match whose arguments are open at it. -/
theorem isSuppressed_iff {rules : Rules} {text : Array Char} {place : Nat} :
    rules.isSuppressed text place = true ↔
      ∃ pattern ∈ rules.safe, ∃ call ∈ pattern.findAll (lineBefore text place),
        insideArguments ((lineBefore text place).toList.drop call.stop) = true := by
  simp only [isSuppressed, List.any_eq_true]
  have drops : ∀ (line : Array Char) (stop : Nat),
      (line.extract stop line.size).toList = line.toList.drop stop := by
    intro line stop
    rw [Array.toList_extract, List.extract_eq_take_drop]
    exact List.take_of_length_le (by simp)
  simp only [drops]

/-- **Suppression is right for the line as a whole, but for calls inside string literals.** A
place has an open safe call before it exactly when it is suppressed by one whose parenthesis is
bare; and a suppressed place has none exactly when all that suppresses it is quoted. -/
theorem suppression_sound_unless_quoted (rules : Rules) (text : Array Char) (place : Nat) :
    (OpenBefore rules text place ↔
        rules.isSuppressed text place = true ∧ ¬ OnlyQuoted rules text place) ∧
      (rules.isSuppressed text place = true ∧ ¬ OpenBefore rules text place ↔
        rules.isSuppressed text place = true ∧ OnlyQuoted rules text place) := by
  have opens : OpenBefore rules text place ↔
      rules.isSuppressed text place = true ∧ ¬ OnlyQuoted rules text place := by
    rw [isSuppressed_iff]
    constructor
    · rintro ⟨pattern, isSafe, call, isCall, isOpen⟩
      obtain ⟨inside, notQuoted⟩ := openOnLine_iff.mp isOpen
      refine ⟨⟨pattern, isSafe, call, isCall, inside⟩, ?_⟩
      intro onlyQuoted
      exact notQuoted (onlyQuoted pattern isSafe call isCall inside)
    · rintro ⟨-, notOnly⟩
      simp only [OnlyQuoted, not_forall] at notOnly
      obtain ⟨pattern, isSafe, call, isCall, inside, notQuoted⟩ := notOnly
      exact ⟨pattern, isSafe, call, isCall, openOnLine_iff.mpr ⟨inside, notQuoted⟩⟩
  refine ⟨opens, ?_⟩
  rw [opens]
  tauto

/-! ## A call that is only quoted -/

/-- A line on which the text of a safe call is inside a string literal and a dangerous call
follows the literal. -/
def quotedLog : Array Char := "\"console.log(\"; eval(x)".toList.toArray

/-- What the standard rules make of that line: the dangerous call is found, it is suppressed, and
the safe matches before it all end right before the quoted parenthesis. -/
def QuotedLogIsSuppressed (rules : Rules) : Bool :=
  rules.categories.any (fun category => category.dangers.any fun danger =>
      (danger.matches quotedLog).any (·.start == 16)) &&
    rules.isSuppressed quotedLog 16 &&
    rules.safe.all fun pattern =>
      (pattern.findAll (lineBefore quotedLog 16)).all fun call => call.stop == 12

/-- **The text of a safe call inside a string literal suppresses a call behind the literal.** -/
theorem quoted_call_suppresses :
    ∃ rules, ofDocument .standard = .ok rules ∧
      (∃ category ∈ rules.categories, ∃ danger ∈ category.dangers,
        ∃ span ∈ danger.matches quotedLog, span.start = 16) ∧
      Literal.outside.after (lineBefore quotedLog 16).toList = .outside ∧
      rules.isSuppressed quotedLog 16 = true ∧ ¬ OpenBefore rules quotedLog 16 := by
  have facts : (ofDocument .standard).toOption.any QuotedLogIsSuppressed = true := by
    decide +kernel
  obtain ⟨rules, isStandard⟩ : ∃ rules, ofDocument .standard = .ok rules := by
    cases read : ofDocument .standard with
    | error fault => simp [read, Except.toOption] at facts
    | ok rules => exact ⟨rules, rfl⟩
  simp only [isStandard, Except.toOption, Option.any_some, QuotedLogIsSuppressed, Bool.and_eq_true,
    List.any_eq_true, List.all_eq_true, beq_iff_eq] at facts
  obtain ⟨⟨dangerous, suppressed⟩, ends⟩ := facts
  refine ⟨rules, isStandard, dangerous, by decide, suppressed, ?_⟩
  rintro ⟨pattern, isSafe, call, isCall, isOpen⟩
  refine (openOnLine_iff.mp isOpen).2 ?_
  rw [ends pattern isSafe call isCall]
  have nothing : "\"console.log".toList.drop 12 = [] := by decide
  have behind : OpensBehind (lineBefore quotedLog 16).toList 12 "\"console.log".toList
      "\"; ".toList := ⟨by decide, by decide, nothing ▸ List.forall_mem_nil _⟩
  exact ⟨_, _, behind, by decide⟩

end PluginAudit.Rules
