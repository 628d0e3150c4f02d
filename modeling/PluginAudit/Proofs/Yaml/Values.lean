import PluginAudit.Proofs.Yaml.Scalar.Literal
import PluginAudit.Proofs.Yaml.Scalar.Quoted
import PluginAudit.Proofs.Yaml.Steps
import PluginAudit.Yaml.Printer

/-!
# Values that are written in one piece

A text is read back in whichever style it is written (`Leads.of_text`), and so
are an empty list and an empty record (`Leads.of_empty`).
-/

set_option autoImplicit false

namespace PluginAudit.Yaml

open Lexer (Begins)

/-! ## Styles -/

namespace Style

variable {value : String}

theorem ofText_cases (value : String) :
    (ofText value = literal ∧ allowsLiteral value.toList = true) ∨
    ofText value = double ∨
    '\n' ∉ value.toList ∧
      ((ofText value = plain ∧ Scalar.isItself value = true ∧ allowsPlain value.toList = true) ∨
        (ofText value = single ∧ allowsSingle value.toList = true)) := by
  unfold ofText
  dsimp only
  by_cases feeds : value.toList.contains '\n' = true
  · rw [if_pos feeds]
    by_cases allowed : allowsLiteral value.toList = true
    · exact .inl ⟨if_pos allowed, allowed⟩
    · exact .inr (.inl (if_neg allowed))
  · have noFeed : '\n' ∉ value.toList := by simpa using feeds
    rw [if_neg feeds]
    by_cases isPlain : (Scalar.isItself value && !Scalar.isPadded value.toList &&
        allowsPlain value.toList) = true
    · rw [if_pos isPlain]
      simp only [Bool.and_eq_true] at isPlain
      exact .inr (.inr ⟨noFeed, .inl ⟨rfl, isPlain.1.1, isPlain.2⟩⟩)
    · rw [if_neg isPlain]
      by_cases allowed : allowsSingle value.toList = true
      · exact .inr (.inr ⟨noFeed, .inr ⟨if_pos allowed, allowed⟩⟩)
      · exact .inr (.inl (if_neg allowed))

end Style

/-- What may be a key inside a block need not be one, and is given up on a later line. -/
theorem Place.candidate_passed {place : Place} {allowed : Bool}
    (inside : place.indent < place.column)
    {mark : Mark} {line : Nat} (later : mark.line < line) {number : Nat} (known : Candidate)
    (among : known ∈ place.candidate mark allowed number) :
    known.required = false ∧ known.mark.line < line := by
  simp only [Place.candidate, Option.mem_def] at among
  split at among
  · obtain rfl := Option.some.inj among
    refine ⟨?_, later⟩
    simp only [beq_eq_false_iff_ne]
    omega
  · cases among

namespace Leads

variable {all kinds : List Token.Kind} {rest : List Char} {column next : Nat} {indent : Int}
  {indents : List Int} {allowed : Bool}

/-- **Behind a scalar** that may be a key the reading goes on at the next line, and gives it up.
-/
theorem of_noted {place : Place} {token : Token}
    (leads : Leads all ⟨rest, next, place.indent, place.indents⟩ true (kinds ++ [token.kind]))
    (inside : place.indent < place.column) {mark : Mark} {read : List Token}
    {cursor behind : Cursor} {after : Bool}
    (fetch : ∀ taken ≤ read.length, ((place.scan mark allowed read).lexer taken).fetch =
      .ok ((place.noted mark allowed read token cursor after).lexer taken))
    (begins : Begins rest) (passes : Lexer.Passes cursor after behind) (isRest : behind.rest = rest)
    (isNext : behind.mark.column = next) (later : mark.line < behind.mark.line)
    (shorter : cursor.rest.length < place.rest.length)
    (fewer : behind.rest.length ≤ cursor.rest.length) (isRead : read.map Token.kind = kinds) :
    ∃ tokens, (place.scan mark allowed read).Reads tokens ∧ tokens.map Token.kind = all := by
  obtain ⟨tokens, reads, isAll⟩ := leads.of_passes
    (place.noted mark allowed read token cursor after) begins passes isRest isNext rfl rfl rfl
    (Place.candidate_passed inside later) fewer (by simp [Place.noted, isRead])
  exact ⟨tokens, .step (fetches_noted fetch) shorter reads, isAll⟩

/-- What a text that is written without quotes begins with. -/
structure PlainStart (c : Char) (behind : List Char) : Prop where
  noGap : (isBlank c || isBreak c) = false
  notIndicator : isIndicator c = false
  notMark : c = '-' ∨ c = '?' ∨ c = ':' → isGap behind.head? = false
  printable : isPrintable c = true

theorem plainStart_of_allowsPlain {c : Char} {behind : List Char}
    (allowed : allowsPlain (c :: behind) = true) : PlainStart c behind := by
  simp only [allowsPlain, needsEscapes, Bool.not_eq_true', Bool.or_eq_false_iff] at allowed
  obtain ⟨⟨⟨⟨⟨noEdge, -⟩, -, printable⟩, -⟩, noOther⟩, noMark⟩ := allowed
  have noEdge : isEdge c = false := noEdge
  have isPrintable' : isPrintable c = true := by
    simpa using List.any_eq_false.mp printable c List.mem_cons_self
  have pair := anyPair_pair [] behind noMark
  simp only [beginsOther, isEdge, Bool.or_eq_false_iff, Bool.and_eq_false_imp, Bool.or_eq_true,
    beq_iff_eq, beq_eq_false_iff_ne] at noOther noEdge pair
  refine ⟨?_, noOther.1.1.1, ?_, isPrintable'⟩
  · rw [noEdge.2, Bool.or_false, Bool.eq_false_iff]
    exact fun blank => noEdge.1 ((isBlank_iff_of_printable isPrintable').mp blank)
  · rintro (rfl | rfl | rfl)
    · exact noOther.1.1.2 (.inr rfl)
    · exact noOther.1.1.2 (.inl rfl)
    · exact pair.1 rfl

theorem PlainStart.begins {c : Char} {behind : List Char} (starts : PlainStart c behind)
    (rest : List Char) : Begins (c :: rest) := by
  refine Lexer.begins_cons starts.noGap ?_ ?_ rest
  · rintro rfl
    exact absurd starts.notIndicator (by decide)
  · rintro rfl
    exact absurd starts.printable (by decide)

/-- A text without quotes is read back. -/
theorem of_plain {value : List Char} (some : value ≠ []) (isPlain : allowsPlain value = true)
    (begins : Begins rest) (shallow : (next : Int) ≤ indent) (inside : indent < column)
    (leads : Leads all ⟨rest, next, indent, indents⟩ true
      (kinds ++ [.scalar (String.ofList value) true])) :
    Leads all ⟨value ++ '\n' :: (List.replicate next ' ' ++ rest), column, indent, indents⟩ allowed
      kinds := by
  intro mark read isColumn isRead
  have isColumn : mark.column = column := isColumn
  obtain ⟨c, behind, rfl⟩ := List.exists_cons_of_ne_nil some
  have starts := plainStart_of_allowsPlain isPlain
  obtain ⟨stop, isScalar⟩ := Lexer.plain_written (indent + 1) next
    (fun c first => (begins c first).1) (by omega) some isPlain mark (by omega) (by omega)
  obtain ⟨place, isPlace⟩ : ∃ place : Place, place =
    ⟨c :: behind ++ '\n' :: (List.replicate next ' ' ++ rest), column, indent, indents⟩ := ⟨_, rfl⟩
  have fetch : ∀ taken ≤ read.length, ((place.scan mark allowed read).lexer taken).fetch =
      .ok ((place.noted mark allowed read
        ⟨.scalar (String.ofList (c :: behind)) true, mark, stop⟩
        ⟨rest, (Cursor.nextLine (mark.forward (c :: behind).length) 1).forward next⟩
        true).lexer taken) := by
    intro taken few
    have isReady : ((place.scan mark allowed read).lexer taken).Ready := by
      refine ready _ ?_ ?_ ?_ allowed read taken
      · rw [isPlace]
        exact starts.begins _
      · rw [isPlace]
        exact Int.le_of_lt inside
      · rw [isPlace]
        exact isColumn
    have here : ((place.scan mark allowed read).lexer taken).cursor.rest =
        c :: (behind ++ '\n' :: (List.replicate next ' ' ++ rest)) := by
      rw [isPlace]
      rfl
    have noBoundary : ((place.scan mark allowed read).lexer taken).cursor.atDocumentBoundary =
        false := by
      have positive : 0 < mark.column := by omega
      exact Cursor.atDocumentBoundary_of_column positive
    rw [Lexer.fetch_plain isReady here noBoundary starts.noGap starts.notIndicator ?_ rfl]
    · refine plainScalar_place ?_ ?_ few
      · rw [isPlace]
        exact isColumn
      · rw [isPlace]
        exact isScalar
    · intro isMark
      have goesOn := starts.notMark isMark
      cases behind with
      | nil => cases goesOn
      | cons d behind => exact goesOn
  have onward : Leads all ⟨rest, next, place.indent, place.indents⟩ true
      (kinds ++ [.scalar (String.ofList (c :: behind)) true]) := by rwa [isPlace]
  rw [← isPlace]
  refine onward.of_noted ?_ fetch begins (Lexer.passes_here begins) rfl ?_ ?_ ?_ (Nat.le_refl _)
    isRead
  · rwa [isPlace]
  · simp [Cursor.nextLine]
  · simp [Cursor.nextLine]
  · rw [isPlace]
    simp
    omega

theorem begins_quote (single : Bool) (rest : List Char) : Begins (Lexer.quote single :: rest) := by
  cases single <;> exact Lexer.begins_cons (by decide) (by decide) (by decide) rest

/-- A quoted text is read back. -/
theorem of_quoted (single : Bool) {value written : List Char}
    (isWritten : ∀ (more : List Char) (mark : Mark), more.head? ≠ some '\'' →
      ∃ stop : Mark, mark.line ≤ stop.line ∧
        Lexer.quoted single ⟨Lexer.quote single :: (written ++ Lexer.quote single :: more), mark⟩ =
          .ok (⟨.scalar (String.ofList value) false, mark, stop⟩, ⟨more, stop⟩))
    (begins : Begins rest) (inside : indent < column)
    (leads : Leads all ⟨rest, next, indent, indents⟩ true
      (kinds ++ [.scalar (String.ofList value) false])) :
    Leads all ⟨Lexer.quote single :: (written ++ Lexer.quote single ::
      '\n' :: (List.replicate next ' ' ++ rest)), column, indent, indents⟩ allowed kinds := by
  intro mark read isColumn isRead
  have isColumn : mark.column = column := isColumn
  obtain ⟨stop, later, isScalar⟩ :=
    isWritten ('\n' :: (List.replicate next ' ' ++ rest)) mark (by simp)
  obtain ⟨place, isPlace⟩ : ∃ place : Place, place = ⟨Lexer.quote single ::
    (written ++ Lexer.quote single :: '\n' :: (List.replicate next ' ' ++ rest)), column, indent,
      indents⟩ := ⟨_, rfl⟩
  have fetch : ∀ taken ≤ read.length, ((place.scan mark allowed read).lexer taken).fetch =
      .ok ((place.noted mark allowed read ⟨.scalar (String.ofList value) false, mark, stop⟩
        ⟨'\n' :: (List.replicate next ' ' ++ rest), stop⟩ false).lexer taken) := by
    intro taken few
    have isReady : ((place.scan mark allowed read).lexer taken).Ready := by
      refine ready _ ?_ ?_ ?_ allowed read taken
      · rw [isPlace]
        exact begins_quote single _
      · rw [isPlace]
        exact Int.le_of_lt inside
      · rw [isPlace]
        exact isColumn
    rw [Lexer.fetch_quote isReady single (by rw [isPlace]; rfl)]
    refine quotedScalar_place ?_ ?_ few
    · rw [isPlace]
      exact isColumn
    · rw [isPlace]
      exact isScalar
  have onward : Leads all ⟨rest, next, place.indent, place.indents⟩ true
      (kinds ++ [.scalar (String.ofList value) false]) := by rwa [isPlace]
  rw [← isPlace]
  refine onward.of_noted ?_ fetch begins (Lexer.passes_lineEnd begins next false) rfl ?_ ?_ ?_ ?_
    isRead
  · rwa [isPlace]
  · simp [Cursor.nextLine]
  · simp [Cursor.nextLine]
    omega
  · rw [isPlace]
    simp
    omega
  · simp
    omega

/-- A text in a block is read back. -/
theorem of_literal {parent : Nat} {value : List Char} (some : value ≠ [])
    (printable : ∀ c ∈ value, isPrintable c = true) (begins : Begins rest) (shallow : next ≤ parent)
    (inside : parent < column)
    (leads : Leads all ⟨rest, next, parent, indents⟩ true
      (kinds ++ [.scalar (String.ofList value) false])) :
    Leads all ⟨Style.write (parent + 2) value .literal ++
      (Lexer.ending value ++ (List.replicate next ' ' ++ rest)), column, parent, indents⟩ allowed
      kinds := by
  intro mark read isColumn isRead
  obtain ⟨stop, final, isNext, isScalar⟩ := Lexer.literal_written parent next
    (by omega) (fun c first => (begins c first).1) some printable mark
  obtain ⟨tokens, reads, isAll⟩ := leads final
    (read ++ [⟨.scalar (String.ofList value) false, mark, stop⟩]) isNext (by simp [isRead])
  refine ⟨tokens, .step (.of_grows (fun taken few => ?_) (List.prefix_append _ _) ?_) ?_ reads,
    isAll⟩
  · have isReady : ((Place.scan ⟨Style.write (parent + 2) value .literal ++
        (Lexer.ending value ++ (List.replicate next ' ' ++ rest)), column, parent, indents⟩ mark
        allowed read).lexer taken).Ready := by
      refine ready _ ?_ ?_ isColumn allowed read taken
      · exact Lexer.begins_cons (by decide) (by decide) (by decide) _
      · simp only
        omega
    have queue (new : List Token) : (read ++ new).drop taken = read.drop taken ++ new :=
      List.drop_append_of_le_length few
    rw [Lexer.fetch_bar isReady rfl rfl]
    simp [Lexer.blockScalar, Lexer.dropCandidate, Lexer.candidate?, Lexer.push, Scan.lexer,
      Place.scan, bind, Except.bind, isScalar, queue]
  · simp [Place.scan]
  · simp [Place.scan, Style.write]
    omega

theorem getLast?_literalChars (indent : Nat) (broken : Bool) {text : List Char} (some : text ≠ []) :
    (Style.literalChars indent broken text).getLast? = text.getLast? := by
  induction text generalizing broken with
  | nil => exact absurd rfl some
  | cons c text ih =>
    have behind (broken : Bool) : (c :: Style.literalChars indent broken text).getLast? =
        (c :: text).getLast? := by
      cases text with
      | nil => rfl
      | cons d text =>
        rw [List.getLast?_cons, List.getLast?_cons, ih broken (List.cons_ne_nil d text)]
    rw [Style.literalChars]
    split
    · exact behind true
    · rw [List.getLast?_append, behind false,
        List.getLast?_eq_some_getLast (List.cons_ne_nil c text)]
      rfl

/-- A block is ended if its text does not end a line. -/
theorem textLine_literal {indent : Nat} {value : String} (style : Style.ofText value = .literal)
    (some : value.toList ≠ []) :
    Tree.textLine indent value =
      ' ' :: (Style.write indent value.toList .literal ++ Lexer.ending value.toList) := by
  have last : (Style.write indent value.toList .literal).getLast? = value.toList.getLast? := by
    rw [Style.write, ← List.cons_append, ← getLast?_literalChars indent true some]
    obtain ⟨c, text, isText⟩ : ∃ c text,
        Style.literalChars indent true value.toList = c :: text := by
      refine List.exists_cons_of_ne_nil fun none => ?_
      have few := Lexer.length_le_literalChars indent value.toList true
      rw [none] at few
      exact some (List.length_eq_zero_iff.mp (Nat.le_zero.mp few))
    rw [isText]
    simp [List.getLast?_append, List.getLast?_cons]
  simp only [Tree.textLine, style, last]
  rfl

/-- What ends a text that is written in another style than as a block. -/
theorem textLine_eq {indent : Nat} {value : String} {style : Style}
    (isStyle : Style.ofText value = style) {init : List Char} {last : Char}
    (written : style.write indent value.toList = init ++ [last]) (noBreak : isBreak last = false) :
    Tree.textLine indent value = ' ' :: (init ++ [last] ++ ['\n']) := by
  rw [Tree.textLine, isStyle]
  simp [written, noBreak]

theorem textLine_quoted {single : Bool} {indent : Nat} {value : String} {style : Style}
    (isStyle : Style.ofText value = style) {inside : List Char}
    (written : style.write indent value.toList =
      Lexer.quote single :: (inside ++ [Lexer.quote single])) (more : List Char) :
    Tree.textLine indent value ++ more =
      ' ' :: Lexer.quote single :: (inside ++ Lexer.quote single :: '\n' :: more) := by
  have noBreak : isBreak (Lexer.quote single) = false := by cases single <;> rfl
  rw [textLine_eq isStyle (written.trans (List.cons_append ..).symm) noBreak]
  simp

/-- **A text is read back** in whatever style it is written. -/
theorem of_text {parent : Nat} (value : String) (begins : Begins rest) (shallow : next ≤ parent)
    (inside : parent ≤ column)
    (leads : Leads all ⟨rest, next, parent, indents⟩ true
      (kinds ++ [.scalar value (Style.ofText value == .plain)])) :
    Leads all ⟨Tree.textLine (parent + 2) value ++ (List.replicate next ' ' ++ rest),
      column, parent, indents⟩ allowed kinds := by
  have isValue : String.ofList value.toList = value := String.ofList_toList
  rcases Style.ofText_cases value with ⟨style, isLiteral⟩ | style |
    ⟨noFeed, ⟨style, isItself, isPlain⟩ | ⟨style, isSingle⟩⟩
  · have some : value.toList ≠ [] := by
      intro none
      simp [allowsLiteral, none] at isLiteral
    have printable (c : Char) (among : c ∈ value.toList) : isPrintable c = true := by
      simp only [allowsLiteral, needsEscapes, Bool.and_eq_true, Bool.not_eq_true',
        Bool.or_eq_false_iff, List.any_eq_false] at isLiteral
      simpa using isLiteral.2.2.2 c among
    rw [style] at leads
    rw [textLine_literal style some, List.cons_append, List.append_assoc]
    refine of_blank ?_ (of_literal some printable begins shallow
      (Nat.lt_succ_of_le inside) (by rw [isValue]; exact leads))
    exact Lexer.begins_cons (by decide) (by decide) (by decide) _
  · have written : Style.double.write (parent + 2) value.toList =
        Lexer.quote false :: (value.toList.flatMap Style.escape ++ [Lexer.quote false]) := rfl
    rw [style] at leads
    rw [textLine_quoted style written]
    exact of_blank (begins_quote false _) (of_quoted false
      (fun more mark _ => Lexer.double_written value.toList more mark) begins (by omega)
      (by rw [isValue]; exact leads))
  · have some : value.toList ≠ [] := by
      intro none
      obtain rfl : value = "" := String.toList_eq_nil_iff.mp none
      exact absurd isItself (by decide)
    obtain ⟨init, last, split⟩ : ∃ init last, value.toList = init ++ [last] :=
      ⟨_, _, (List.dropLast_concat_getLast some).symm⟩
    have noBreak : isBreak last = false := by
      simp only [allowsPlain, split, List.getLast?_append, Bool.not_eq_true',
        Bool.or_eq_false_iff] at isPlain
      have noEdge := isPlain.1.1.1.1.2
      simp only [List.getLast?_singleton, Option.some_or, Option.any_some, isEdge,
        Bool.or_eq_false_iff] at noEdge
      exact noEdge.2
    have written : Style.plain.write (parent + 2) value.toList = init ++ [last] := split
    obtain ⟨c, behind, isText⟩ := List.exists_cons_of_ne_nil some
    have starts := plainStart_of_allowsPlain (isText ▸ isPlain)
    rw [style] at leads
    rw [textLine_eq style written noBreak, ← split, List.cons_append, List.append_assoc]
    exact of_blank (isText ▸ starts.begins _)
      (of_plain some isPlain begins (by omega) (by omega) (by rw [isValue]; exact leads))
  · have written : Style.single.write (parent + 2) value.toList = Lexer.quote true ::
        (Style.singleChars (parent + 2) false value.toList ++ [Lexer.quote true]) := rfl
    rw [style] at leads
    rw [textLine_quoted style written]
    exact of_blank (begins_quote true _) (of_quoted true
      (fun more mark noQuote => Lexer.single_written (Nat.succ_pos (parent + 1))
        (Lexer.lined_of_allowsSingle isSingle noFeed) noQuote mark) begins (by omega)
      (by rw [isValue]; exact leads))

/-! ## Empty lists and records -/

/-- The token of the bracket before the items of a list or the fields of a record. -/
def startKind (isList : Bool) : Token.Kind :=
  if isList then .flowSequenceStart else .flowMappingStart

/-- The token of the bracket behind the items of a list or the fields of a record. -/
def stopKind (isList : Bool) : Token.Kind := if isList then .flowSequenceEnd else .flowMappingEnd

/-- The brackets of an empty list or record. -/
def brackets (isList : Bool) (more : List Char) : List Char :=
  (if isList then '[' else '\x7b') :: (if isList then ']' else '\x7d') :: more

/-- The reading between the brackets. -/
def bracketScan (isList : Bool) (more : List Char) (place : Place) (mark : Mark) (allowed : Bool)
    (read : List Token) : Scan where
  cursor := ⟨(if isList then ']' else '\x7d') :: more, mark.forward 1⟩
  indent := place.indent
  indents := place.indents
  keyAllowed := true
  candidates := [none, place.candidate mark allowed read.length]
  read := read ++ [⟨startKind isList, mark, mark.forward 1⟩]

/-- The reading behind the brackets. -/
def closedScan (isList : Bool) (more : List Char) (place : Place) (mark : Mark) (allowed : Bool)
    (read : List Token) : Scan where
  cursor := ⟨more, (mark.forward 1).forward 1⟩
  indent := place.indent
  indents := place.indents
  keyAllowed := false
  candidates := [place.candidate mark allowed read.length]
  read := read ++ [⟨startKind isList, mark, mark.forward 1⟩,
    ⟨stopKind isList, mark.forward 1, (mark.forward 1).forward 1⟩]

section Brackets

variable {isList : Bool} {more : List Char} {place : Place} {mark : Mark} {read : List Token}

theorem fetches_open (isPlace : place.rest = brackets isList more)
    (inside : place.indent ≤ place.column) (isColumn : mark.column = place.column) :
    (place.scan mark allowed read).Fetches
      (bracketScan isList more place mark allowed read) := by
  refine .of_grows (fun taken (few : taken ≤ read.length) => ?_) (List.prefix_append _ _)
    fun candidate among => .inl ?_
  · have begins : Begins place.rest := by
      rw [isPlace]
      cases isList <;> exact Lexer.begins_cons (by decide) (by decide) (by decide) _
    have isReady := ready _ begins inside isColumn allowed read taken
    have queue (new : List Token) : (read ++ new).drop taken = read.drop taken ++ new :=
      List.drop_append_of_le_length few
    rw [Lexer.fetch_open isReady isList isPlace, Lexer.flowStart,
      noteCandidate_place isColumn few]
    simp only [bind, Except.bind]
    simp [Lexer.pushMark, bracketScan, Scan.lexer, Place.scan, queue, isPlace, brackets,
      Cursor.skip_cons, startKind]
  · simp only [bracketScan, Place.candidate, List.mem_cons, List.not_mem_nil, or_false,
      reduceCtorEq, false_or] at among
    split at among
    · obtain rfl := Option.some.inj among
      exact Nat.le_refl _
    · cases among

theorem fetches_close :
    (bracketScan isList more place mark allowed read).Fetches
      (closedScan isList more place mark allowed read) := by
  refine .of_grows (fun taken few => ?_)
    ⟨[⟨stopKind isList, mark.forward 1, (mark.forward 1).forward 1⟩],
      by simp [bracketScan, closedScan]⟩
    fun candidate among => .inr ⟨?_, Nat.le_refl _, Nat.le_succ _⟩
  · have isReady : ((bracketScan isList more place mark allowed read).lexer taken).Ready := by
      refine ⟨rfl, Lexer.settle_here ?_ (fun candidate among => ?_) nofun⟩
      · cases isList <;> exact Lexer.begins_cons (by decide) (by decide) (by decide) _
      · simp only [bracketScan, Scan.lexer, Place.candidate, List.mem_cons, List.not_mem_nil,
          or_false, reduceCtorEq, false_or] at among
        split at among
        · obtain rfl := Option.some.inj among
          simp [bracketScan, Scan.lexer, Lexer.isStale, Mark.forward, Lexer.keyLength]
        · cases among
    have few : taken ≤ (read ++ [(⟨startKind isList, mark, mark.forward 1⟩ : Token)]).length := few
    have queue : (read ++ [(⟨startKind isList, mark, mark.forward 1⟩ : Token),
          ⟨stopKind isList, mark.forward 1, (mark.forward 1).forward 1⟩]).drop taken =
        (read ++ [(⟨startKind isList, mark, mark.forward 1⟩ : Token)]).drop taken ++
          [⟨stopKind isList, mark.forward 1, (mark.forward 1).forward 1⟩] := by
      rw [← List.drop_append_of_le_length few]
      simp
    rw [Lexer.fetch_close isReady isList rfl, Lexer.flowEnd]
    simp [Lexer.dropCandidate, Lexer.candidate?, Lexer.inFlow, Lexer.pushMark, bracketScan,
      closedScan, Scan.lexer, bind, Except.bind, Cursor.skip_cons]
    simpa [stopKind] using queue.symm
  · exact List.mem_cons_of_mem _ among

end Brackets

/-- **An empty list or record is read back.** -/
theorem of_empty (isList : Bool) (begins : Begins rest) (inside : indent ≤ column)
    (leads : Leads all ⟨rest, next, indent, indents⟩ true
      (kinds ++ [startKind isList, stopKind isList])) :
    Leads all ⟨' ' :: brackets isList ('\n' :: (List.replicate next ' ' ++ rest)), column, indent,
      indents⟩ allowed kinds := by
  have bracketed : Leads all ⟨brackets isList ('\n' :: (List.replicate next ' ' ++ rest)),
      column + 1, indent, indents⟩ allowed kinds := by
    intro mark read isColumn isRead
    obtain ⟨place, isPlace⟩ : ∃ place : Place, place = ⟨brackets isList
      ('\n' :: (List.replicate next ' ' ++ rest)), column + 1, indent, indents⟩ := ⟨_, rfl⟩
    have isColumn : mark.column = place.column := by rw [isPlace]; exact isColumn
    have inside : place.indent < place.column := by
      rw [isPlace]
      exact Int.lt_add_one_of_le inside
    have isRest : place.rest = brackets isList ('\n' :: (List.replicate next ' ' ++ rest)) := by
      rw [isPlace]
    have opens : (place.scan mark allowed read).Fetches (bracketScan isList
        ('\n' :: (List.replicate next ' ' ++ rest)) place mark allowed read) :=
      fetches_open isRest (Int.le_of_lt inside) isColumn
    obtain ⟨tokens, reads, isAll⟩ := leads.of_passes
      (closedScan isList ('\n' :: (List.replicate next ' ' ++ rest)) place mark allowed read)
      begins (Lexer.passes_lineEnd begins next false) rfl (by simp [Cursor.nextLine])
      (by rw [isPlace]; rfl) (by rw [isPlace]; rfl) rfl
      (Place.candidate_passed inside (Nat.lt_succ_self mark.line)) (by simp [closedScan]; omega)
      (by simp [closedScan, isRead])
    rw [← isPlace]
    refine ⟨tokens, .step opens ?_ (.step fetches_close ?_ reads), isAll⟩
    · simp [bracketScan, Place.scan, isPlace, brackets]
    · simp [bracketScan, closedScan]
  refine of_blank ?_ bracketed
  cases isList <;> exact Lexer.begins_cons (by decide) (by decide) (by decide) _

end Leads

end PluginAudit.Yaml
