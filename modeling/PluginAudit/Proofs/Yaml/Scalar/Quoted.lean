import PluginAudit.Proofs.Yaml.Scalar.Escape

/-!
# Quoted scalars that are written

Inside double quotes every text is read back (`double_written`); inside single
quotes every text is that is written in them (`single_written`). The inside is
read in pieces without gaps, with the gaps between them: blanks, which are
kept, or in single quotes the ends of lines, behind which the indentation
falls away.
-/

set_option autoImplicit false

namespace PluginAudit.Yaml.Lexer

/-- The quote of a quoted scalar. -/
def quote (single : Bool) : Char := if single then '\'' else '"'

/-! ## Pieces -/

section Pieces

variable {single : Bool} {start : Mark} {read run : List Char} {cursor behind : Cursor}

/-- The closing quote ends the reading. -/
theorem quotedBody_end (inside : 0 < cursor.mark.column) (some : cursor.rest ≠ [])
    (runs : quotedRun single start (cursor.rest.length + 1) read cursor = .ok (run, false, behind))
    (ends : behind.sees (quote single) = true) (fuel : Nat) :
    quotedBody single start (fuel + 1) read cursor = .ok (run, behind.skip) := by
  rw [quotedBody, Cursor.atDocumentBoundary_of_column inside, if_neg Bool.false_ne_true,
    if_neg (by simpa using some), runs]
  exact if_pos ends

/-- A gap between two pieces is read on. -/
theorem quotedBody_gap (inside : 0 < cursor.mark.column) (some : cursor.rest ≠ [])
    (runs : quotedRun single start (cursor.rest.length + 1) read cursor = .ok (run, false, behind))
    (goesOn : behind.sees (quote single) = false) {gap : Gap} {next : Cursor}
    (gapRead : Gap.read 0 (behind.rest.length + 1) {} behind = .ok (gap, next)) (fuel : Nat) :
    quotedBody single start (fuel + 1) read cursor =
      quotedBody single start fuel (gap.text.reverse ++ run) next := by
  rw [quotedBody, Cursor.atDocumentBoundary_of_column inside, if_neg Bool.false_ne_true,
    if_neg (by simpa using some), runs]
  simp only [bind, Except.bind]
  rw [← quote, goesOn, if_neg Bool.false_ne_true, gapRead]

end Pieces

/-! ## Double quotes -/

/-- A character is read that is no blank. -/
theorem quotedRun_escape {c : Char} (notBlank : c ≠ ' ') (start : Mark) (fuel : Nat)
    (read rest : List Char) (mark : Mark) :
    quotedRun false start (fuel + 1) read ⟨Style.escape c ++ rest, mark⟩ =
      quotedRun false start fuel (c :: read)
        ⟨rest, mark.forward (Style.escape c).length⟩ := by
  cases verbatim : isVerbatim c with
  | true =>
    obtain ⟨first, behind, begins, noGap, -⟩ := escape_begins notBlank
    rw [escape_verbatim verbatim] at begins ⊢
    obtain ⟨rfl, -⟩ := List.cons.inj begins
    simp only [isVerbatim, Bool.and_eq_true, bne_iff_ne] at verbatim
    obtain ⟨⟨-, noQuote⟩, noSlash⟩ := verbatim
    rw [List.singleton_append, quotedRun]
    simp [Cursor.next?, noGap, noQuote, noSlash, Cursor.skip_cons]
  | false =>
    obtain ⟨⟨letter, behind, begins, noBreak⟩, escapes⟩ := escape_written verbatim
    have escaped := escapes start mark rest
    rw [begins] at escaped ⊢
    rw [List.cons_append, List.cons_append] at escaped ⊢
    have noGap : (isBlank '\\' || isBreak '\\') = false := by decide
    have next : ((⟨'\\' :: letter :: (behind ++ rest), mark⟩ : Cursor).at? 1).any isBreak =
        false := noBreak
    rw [quotedRun, Cursor.next?]
    simp [noGap, next, escaped, bind, Except.bind]

/-- A piece is read up to a blank or the closing quote. -/
theorem quotedRun_double (start : Mark) {rest : List Char}
    (ends : rest.head? = some ' ' ∨ rest.head? = some '"') (word : List Char)
    (noBlank : ∀ c ∈ word, c ≠ ' ') (fuel : Nat) (enough : word.length < fuel) (read : List Char)
    (mark : Mark) :
    quotedRun false start fuel read ⟨word.flatMap Style.escape ++ rest, mark⟩ =
      .ok (word.reverse ++ read, false,
        ⟨rest, mark.forward (word.flatMap Style.escape).length⟩) := by
  induction word generalizing fuel read mark with
  | nil =>
    obtain ⟨fuel, rfl⟩ : ∃ more, fuel = more + 1 := ⟨fuel - 1, by omega⟩
    rw [List.flatMap_nil, List.nil_append, quotedRun, Cursor.next?]
    rcases ends with blank | quote
    · simp only [blank]
      rfl
    · simp only [quote]
      rfl
  | cons c word ih =>
    obtain ⟨fuel, rfl⟩ : ∃ more, fuel = more + 1 := ⟨fuel - 1, by omega⟩
    rw [List.flatMap_cons, List.append_assoc,
      quotedRun_escape (noBlank c List.mem_cons_self),
      ih (fun d among => noBlank d (List.mem_cons_of_mem _ among)) fuel (by simpa using enough),
      Mark.forward_forward, List.length_append, List.reverse_cons, List.append_assoc]
    rfl

theorem length_le_escape (text : List Char) :
    text.length ≤ (text.flatMap Style.escape).length := by
  induction text with
  | nil => exact Nat.le_refl 0
  | cons c text ih =>
    obtain ⟨first, behind, begins⟩ : ∃ first behind, Style.escape c = first :: behind := by
      by_cases blank : c = ' '
      · exact ⟨' ', [], by rw [blank]; decide⟩
      · obtain ⟨first, behind, begins, -⟩ := escape_begins blank
        exact ⟨first, behind, begins⟩
    rw [List.flatMap_cons, begins, List.length_append, List.length_cons, List.length_cons]
    omega

theorem escape_blanks (count : Nat) :
    (List.replicate count ' ').flatMap Style.escape = List.replicate count ' ' := by
  induction count with
  | zero => rfl
  | succ count ih =>
    rw [List.replicate_succ, List.flatMap_cons, ih]
    rfl

/-- The inside of double quotes is read up to the closing quote. -/
theorem quotedBody_double {start : Mark} {more : List Char} (text : List Char) (mark : Mark)
    (inside : 0 < mark.column) (fuel : Nat) (enough : text.length < fuel) (read : List Char) :
    ∃ stop, mark.line ≤ stop.line ∧
      quotedBody false start fuel read ⟨text.flatMap Style.escape ++ '"' :: more, mark⟩ =
        .ok (text.reverse ++ read, ⟨more, stop⟩) := by
  induction fuel generalizing text mark read with
  | zero => omega
  | succ fuel ih =>
    obtain ⟨word, rest, rfl, noBlanks, stops⟩ := exists_run (· != ' ') text
    obtain ⟨count, text, rfl, noBlank⟩ := exists_blanks rest
    have words (c : Char) (among : c ∈ word) : c ≠ ' ' := by simpa using noBlanks c among
    have few := length_le_escape word
    rw [List.flatMap_append, List.flatMap_append, escape_blanks, List.append_assoc,
      List.append_assoc]
    rcases Nat.eq_zero_or_pos count with rfl | several
    · obtain rfl : text = [] := by
        cases text with
        | nil => rfl
        | cons c text => exact absurd (by simpa using stops c rfl) noBlank
      have closes : ('"' :: more).head? = some ' ' ∨ ('"' :: more).head? = some '"' := .inr rfl
      have runs := quotedRun_double start closes word words
        ((word.flatMap Style.escape ++ '"' :: more).length + 1)
        (by rw [List.length_append]; omega) read mark
      refine ⟨(mark.forward (word.flatMap Style.escape).length).forward 1, Nat.le_refl _, ?_⟩
      have ended := quotedBody_end inside (by simp) runs (by rfl) fuel
      rw [Cursor.skip_cons] at ended
      simpa using ended
    · obtain ⟨behind, isBehind⟩ :
          ∃ behind, behind = text.flatMap Style.escape ++ '"' :: more := ⟨_, rfl⟩
      have ends : ∀ c ∈ behind.head?, (isBlank c || isBreak c) = false := by
        intro c first
        rw [isBehind] at first
        cases text with
        | nil =>
          obtain rfl : '"' = c := Option.some.inj first
          decide
        | cons d text =>
          obtain ⟨letter, written, begins, noGap, -⟩ :=
            escape_begins (c := d) (by simpa using noBlank)
          rw [List.flatMap_cons, begins] at first
          obtain rfl : letter = c := Option.some.inj first
          exact noGap
      obtain ⟨count, rfl⟩ := Nat.exists_eq_succ_of_ne_zero (Nat.ne_of_gt several)
      have blank : (List.replicate (count + 1) ' ' ++ behind).head? = some ' ' := rfl
      have runs := quotedRun_double start (.inl blank) word words
        ((word.flatMap Style.escape ++ (List.replicate (count + 1) ' ' ++ behind)).length + 1)
        (by rw [List.length_append]; omega) read mark
      have gap := Gap.read_blanks 0 ends (count + 1)
        ((List.replicate (count + 1) ' ' ++ behind).length + 1)
        (lt_fuel_of_blanks (count + 1) behind) []
        (mark.forward (word.flatMap Style.escape).length)
      obtain ⟨stop, later, further⟩ := ih text
        ((mark.forward (word.flatMap Style.escape).length).forward (count + 1))
        (by simp) (by simp at enough; omega)
        (List.replicate (count + 1) ' ' ++ (word.reverse ++ read))
      refine ⟨stop, later, ?_⟩
      have step := quotedBody_gap inside (by simp) runs (by rfl) gap fuel
      rw [← isBehind] at further ⊢
      rw [step]
      simpa [Gap.text] using further

/-- **A text in double quotes is read back.** -/
theorem double_written (text more : List Char) (mark : Mark) :
    ∃ stop, mark.line ≤ stop.line ∧
      quoted false ⟨'"' :: (text.flatMap Style.escape ++ '"' :: more), mark⟩ =
        .ok (⟨.scalar (String.ofList text) false, mark, stop⟩, ⟨more, stop⟩) := by
  have few := length_le_escape text
  obtain ⟨stop, later, read⟩ := quotedBody_double text (mark.forward 1) (Nat.succ_pos _)
    (('"' :: (text.flatMap Style.escape ++ '"' :: more)).length + 1)
    (by simp only [List.length_cons, List.length_append]; omega) []
  refine ⟨stop, later, ?_⟩
  rw [quoted, Cursor.skip_cons, read]
  simp [bind, Except.bind]

/-! ## Single quotes -/

/-- A text that can be written in single quotes: what cannot be written as it is is missing, and
so are line feeds and the blanks around the ends of lines. -/
structure Lined (text : List Char) : Prop where
  printable : ∀ c ∈ text, isPrintable c = true
  noFeed : '\n' ∉ text
  noTrailing : anyPair (fun c next => c == ' ' && next.any isBreak) text = false
  noLeading : hasIndentedLine text = false

theorem lined_of_allowsSingle {text : List Char} (allowed : allowsSingle text = true)
    (noFeed : '\n' ∉ text) : Lined text := by
  simp only [allowsSingle, needsEscapes, Bool.not_eq_true', Bool.or_eq_false_iff] at allowed
  obtain ⟨⟨noTrailing, printable⟩, noLeading⟩ := allowed
  rw [List.any_eq_false] at printable
  exact ⟨fun c among => by simpa using printable c among, noFeed, noTrailing, noLeading⟩

theorem Lined.behind (first : List Char) {text : List Char} (lined : Lined (first ++ text)) :
    Lined text where
  printable c among := lined.printable c (List.mem_append_right _ among)
  noFeed among := lined.noFeed (List.mem_append_right _ among)
  noTrailing := anyPair_of_append lined.noTrailing
  noLeading := anyPair_of_append lined.noLeading

/-- A character inside single quotes. -/
def doubled (c : Char) : List Char := if c == '\'' then ['\'', '\''] else [c]

theorem singleChars_word (indent : Nat) (word rest : List Char)
    (noGap : ∀ c ∈ word, (isBlank c || isBreak c) = false) :
    Style.singleChars indent false (word ++ rest) =
      word.flatMap doubled ++ Style.singleChars indent false rest := by
  induction word with
  | nil => rfl
  | cons c word ih =>
    have first := noGap c List.mem_cons_self
    simp only [isBlank, Bool.or_eq_false_iff] at first
    rw [List.cons_append, Style.singleChars, first.2, first.1.1,
      ih fun d among => noGap d (List.mem_cons_of_mem _ among), List.flatMap_cons]
    simp [doubled]

theorem singleChars_blanks (indent count : Nat) (rest : List Char) :
    Style.singleChars indent false (List.replicate count ' ' ++ rest) =
      List.replicate count ' ' ++ Style.singleChars indent false rest := by
  induction count with
  | zero => rfl
  | succ count ih =>
    rw [List.replicate_succ, List.cons_append, Style.singleChars, ih]
    rfl

theorem singleChars_breaks (indent : Nat) (breaks rest : List Char)
    (ends : ∀ c ∈ breaks, isBreak c = true)
    (stops : ∀ c ∈ rest.head?, (isBlank c || isBreak c) = false) :
    Style.singleChars indent true (breaks ++ rest) =
      breaks ++ (List.replicate indent ' ' ++ Style.singleChars indent false rest) := by
  induction breaks with
  | nil =>
    cases rest with
    | nil => simp [Style.singleChars, Style.blanks]
    | cons c rest =>
      have first := stops c rfl
      simp only [isBlank, Bool.or_eq_false_iff] at first
      simp [Style.singleChars, Style.blanks, first]
  | cons c breaks ih =>
    rw [List.cons_append, Style.singleChars, if_pos (ends c List.mem_cons_self),
      ih fun d among => ends d (List.mem_cons_of_mem _ among)]
    rfl

/-- A piece is read up to a gap or the closing quote. -/
theorem quotedRun_single (start : Mark) {rest : List Char}
    (ends : rest.head?.any (fun c => isBlank c || isBreak c) = true ∨
      ∃ more, rest = '\'' :: more ∧ more.head? ≠ some '\'') (word : List Char)
    (noGap : ∀ c ∈ word, (isBlank c || isBreak c) = false) (fuel : Nat)
    (enough : word.length < fuel) (read : List Char) (mark : Mark) :
    quotedRun true start fuel read ⟨word.flatMap doubled ++ rest, mark⟩ =
      .ok (word.reverse ++ read, false, ⟨rest, mark.forward (word.flatMap doubled).length⟩) := by
  induction word generalizing fuel read mark with
  | nil =>
    obtain ⟨fuel, rfl⟩ : ∃ more, fuel = more + 1 := ⟨fuel - 1, by omega⟩
    rw [List.flatMap_nil, List.nil_append, quotedRun]
    rcases ends with gap | ⟨more, rfl, noQuote⟩
    · cases rest with
      | nil => rfl
      | cons c rest =>
        rw [List.head?_cons, Option.any_some] at gap
        simp [Cursor.next?, gap]
    · have alone : ((⟨'\'' :: more, mark⟩ : Cursor).at? 1 == some '\'') = false := by
        rw [Cursor.at?, List.getElem?_cons_succ, ← List.head?_eq_getElem?]
        simpa using noQuote
      simp [Cursor.next?, isBlank, isBreak, alone]
  | cons c word ih =>
    obtain ⟨fuel, rfl⟩ : ∃ more, fuel = more + 1 := ⟨fuel - 1, by omega⟩
    have further := ih (fun d among => noGap d (List.mem_cons_of_mem _ among)) fuel
      (by simpa using enough) (c :: read) (mark.forward (doubled c).length)
    rw [Mark.forward_forward] at further
    have noGap := noGap c List.mem_cons_self
    rw [List.flatMap_cons, List.append_assoc, List.length_append, List.reverse_cons,
      List.append_assoc, List.singleton_append, ← further, quotedRun]
    by_cases isQuote : c = '\''
    · subst isQuote
      rfl
    · have once : doubled c = [c] := if_neg (by simpa using isQuote)
      rw [once]
      simp [Cursor.next?, noGap, isQuote, Cursor.skip_cons]

theorem length_le_doubled (word : List Char) : word.length ≤ (word.flatMap doubled).length := by
  induction word with
  | nil => exact Nat.le_refl 0
  | cons c word ih =>
    have some : 1 ≤ (doubled c).length := by
      unfold doubled
      split <;> simp
    rw [List.flatMap_cons, List.length_append, List.length_cons]
    omega

/-- What follows a gap inside single quotes, or the closing quote, is no gap. -/
theorem singleChars_stops {indent : Nat} {text more : List Char}
    (stops : ∀ c ∈ text.head?, (isBlank c || isBreak c) = false) :
    ∀ c ∈ (Style.singleChars indent false text ++ '\'' :: more).head?,
      (isBlank c || isBreak c) = false := by
  intro c first
  cases text with
  | nil =>
    obtain rfl : '\'' = c := Option.some.inj first
    decide
  | cons d text =>
    have noGap := stops d rfl
    rw [← List.singleton_append, singleChars_word indent [d] text (by simpa using noGap)] at first
    by_cases isQuote : d = '\''
    · subst isQuote
      obtain rfl : '\'' = c := Option.some.inj first
      decide
    · rw [List.flatMap_singleton, doubled, if_neg (by simpa using isQuote)] at first
      obtain rfl : d = c := Option.some.inj first
      exact noGap

/-- How a gap is written, and read back in front of what is no gap. -/
structure GapWritten (gap written : List Char) : Prop where
  begins : written.head?.any (fun c => isBlank c || isBreak c) = true
  read : ∀ rest : List Char, (∀ c ∈ rest.head?, (isBlank c || isBreak c) = false) →
    ∀ mark : Mark, ∃ (read : Gap) (stop : Mark), read.text = gap ∧ mark.line ≤ stop.line ∧
      0 < stop.column ∧
      Gap.read 0 ((written ++ rest).length + 1) {} ⟨written ++ rest, mark⟩ =
        .ok (read, ⟨rest, stop⟩)

theorem gapWritten_blanks (count : Nat) :
    GapWritten (List.replicate (count + 1) ' ') (List.replicate (count + 1) ' ') where
  begins := rfl
  read rest stops mark := by
    refine ⟨{ blanks := [] ++ List.replicate (count + 1) ' ' }, mark.forward (count + 1), rfl,
      Nat.le_refl _, by simp, ?_⟩
    exact Gap.read_blanks 0 stops (count + 1) _ (lt_fuel_of_blanks (count + 1) rest) [] mark

theorem gapWritten_breaks {indent : Nat} (deep : 0 < indent) {c : Char} {breaks : List Char}
    (written : ∀ d ∈ c :: breaks, isPrintable d = true ∧ isBreak d = true) (noFeed : c ≠ '\n') :
    GapWritten (c :: breaks) (c :: breaks ++ List.replicate indent ' ') := by
  obtain ⟨printable, isEnd⟩ := written c List.mem_cons_self
  have notBlank : isBlank c = false := by
    rw [Bool.eq_false_iff, ne_eq, isBlank_iff_of_printable printable]
    rintro rfl
    cases isEnd
  refine ⟨by simp [isEnd], fun rest stops mark => ?_⟩
  obtain ⟨stop, later, column, read⟩ := Gap.read_breaks 0 stops indent breaks
    (fun d among => written d (List.mem_cons_of_mem _ among))
    (c :: breaks ++ List.replicate indent ' ' ++ rest).length
    (by simp only [List.length_append, List.length_cons, List.length_replicate]; omega)
    { broken := true, first := [c] } rfl (Cursor.nextLine mark 1) rfl
  refine ⟨{ broken := true, first := [c], more := [] ++ breaks }, stop, ?_,
    Nat.le_trans (Nat.le_succ _) later, by omega, ?_⟩
  · simp [Gap.text, noFeed]
  · rw [← read, Gap.read]
    simp [Cursor.next?, notBlank, isEnd, takeBreak_of_printable printable isEnd]

/-- A text in single quotes that begins with a gap has blanks there, or ends of lines. -/
theorem Lined.exists_gap {indent : Nat} (deep : 0 < indent) {c : Char} {rest : List Char}
    (lined : Lined (c :: rest)) (isGap : (isBlank c || isBreak c) = true) :
    ∃ gap text written, c :: rest = gap ++ text ∧ gap ≠ [] ∧
      (∀ c ∈ text.head?, (isBlank c || isBreak c) = false) ∧ GapWritten gap written ∧
      Style.singleChars indent false (c :: rest) =
        written ++ Style.singleChars indent false text := by
  have printable := lined.printable
  cases isEnd : isBreak c with
  | false =>
    obtain rfl : c = ' ' :=
      (isBlank_iff_of_printable (printable c List.mem_cons_self)).mp (by simpa [isEnd] using isGap)
    obtain ⟨count, text, rfl, noBlank⟩ := exists_blanks rest
    refine ⟨List.replicate (count + 1) ' ', text, _, rfl, by simp, ?_, gapWritten_blanks count,
      singleChars_blanks indent (count + 1) text⟩
    intro d first
    have among : d ∈ ' ' :: (List.replicate count ' ' ++ text) :=
      List.mem_cons_of_mem _ (List.mem_append_right _ (List.mem_of_head? first))
    have noTrailing := lined.noTrailing
    rw [← List.cons_append, ← List.replicate_succ, List.replicate_succ', List.append_assoc]
      at noTrailing
    have pair := anyPair_pair _ text noTrailing
    rw [Option.mem_def.mp first] at pair noBlank
    rw [Bool.or_eq_false_iff, Bool.eq_false_iff, ne_eq,
      isBlank_iff_of_printable (printable d among)]
    exact ⟨fun blank => noBlank (by rw [blank]), by simpa using pair⟩
  | true =>
    obtain ⟨breaks, text, rfl, ends, noBreak⟩ := exists_run isBreak rest
    have stops : ∀ d ∈ text.head?, (isBlank d || isBreak d) = false := by
      intro d first
      have among : d ∈ c :: (breaks ++ text) :=
        List.mem_cons_of_mem _ (List.mem_append_right _ (List.mem_of_head? first))
      rw [Bool.or_eq_false_iff, Bool.eq_false_iff, ne_eq,
        isBlank_iff_of_printable (printable d among)]
      refine ⟨?_, noBreak d first⟩
      rintro rfl
      obtain ⟨init, last, split⟩ : ∃ init last, c :: breaks = init ++ [last] :=
        ⟨_, _, (List.dropLast_concat_getLast (List.cons_ne_nil c breaks)).symm⟩
      have isBreak' : isBreak last = true := by
        have among : last ∈ c :: breaks := by rw [split]; simp
        rcases List.mem_cons.mp among with rfl | among
        · exact isEnd
        · exact ends last among
      have noLeading := lined.noLeading
      rw [← List.cons_append, split, List.append_assoc] at noLeading
      have pair := anyPair_pair _ text noLeading
      rw [Option.mem_def.mp first, isBreak'] at pair
      cases pair
    have each (d : Char) (among : d ∈ c :: breaks) : isPrintable d = true ∧ isBreak d = true := by
      refine ⟨printable d (List.mem_append_left text among), ?_⟩
      rcases List.mem_cons.mp among with rfl | among
      · exact isEnd
      · exact ends d among
    refine ⟨c :: breaks, text, _, rfl, by simp, stops, gapWritten_breaks deep each ?_, ?_⟩
    · rintro rfl
      exact lined.noFeed List.mem_cons_self
    · rw [Style.singleChars, if_pos isEnd, singleChars_breaks indent breaks text ends stops]
      simp

/-- The inside of single quotes is read up to the closing quote. -/
theorem quotedBody_single {indent : Nat} (deep : 0 < indent) {start : Mark} {more : List Char}
    (noQuote : more.head? ≠ some '\'') {text : List Char} (lined : Lined text) (mark : Mark)
    (inside : 0 < mark.column) (fuel : Nat) (enough : text.length < fuel) (read : List Char) :
    ∃ stop, mark.line ≤ stop.line ∧
      quotedBody true start fuel read
          ⟨Style.singleChars indent false text ++ '\'' :: more, mark⟩ =
        .ok (text.reverse ++ read, ⟨more, stop⟩) := by
  induction fuel generalizing text mark read with
  | zero => omega
  | succ fuel ih =>
    obtain ⟨word, rest, rfl, noGap, stops⟩ := exists_run (fun c => !(isBlank c || isBreak c)) text
    have noGap : ∀ c ∈ word, (isBlank c || isBreak c) = false := fun c among => by
      simpa using noGap c among
    have few := length_le_doubled word
    rw [singleChars_word indent word rest noGap, List.append_assoc]
    cases rest with
    | nil =>
      have runs := quotedRun_single start (.inr ⟨more, rfl, noQuote⟩) word noGap
        ((word.flatMap doubled ++ '\'' :: more).length + 1)
        (by rw [List.length_append]; omega) read mark
      refine ⟨(mark.forward (word.flatMap doubled).length).forward 1, Nat.le_refl _, ?_⟩
      have ended := quotedBody_end inside (by simp) runs (by rfl) fuel
      rw [Cursor.skip_cons] at ended
      simpa [Style.singleChars] using ended
    | cons c rest =>
      obtain ⟨gap, text, written, split, some, stops, isWritten, chars⟩ :=
        Lined.exists_gap deep (lined.behind word)
          (by simpa only [Bool.not_eq_false'] using stops c rfl)
      rw [split] at lined enough ⊢
      rw [← split, chars, List.append_assoc]
      obtain ⟨gapRead, stop, isText, later, inside', reads⟩ := isWritten.read
        (Style.singleChars indent false text ++ '\'' :: more) (singleChars_stops stops)
        (mark.forward (word.flatMap doubled).length)
      obtain ⟨behind, isBehind⟩ : ∃ behind,
          behind = written ++ (Style.singleChars indent false text ++ '\'' :: more) := ⟨_, rfl⟩
      have begins : behind.head?.any (fun c => isBlank c || isBreak c) = true := by
        have begins := isWritten.begins
        cases written with
        | nil => cases begins
        | cons d written => rwa [isBehind]
      have runs := quotedRun_single start (.inl begins) word noGap
        ((word.flatMap doubled ++ behind).length + 1) (by rw [List.length_append]; omega) read mark
      have goesOn : (⟨behind, mark.forward (word.flatMap doubled).length⟩ : Cursor).sees '\'' =
          false := by
        rw [Cursor.sees, Cursor.next?]
        cases first : behind.head? with
        | none => rfl
        | some d =>
          rw [first] at begins
          have isGap : (isBlank d || isBreak d) = true := begins
          rw [Option.some_beq_some, beq_eq_false_iff_ne]
          rintro rfl
          cases isGap
      obtain ⟨final, later', further⟩ := ih ((lined.behind word).behind gap) stop inside'
        (by
          have positive := List.length_pos_iff.mpr some
          simp only [List.length_append] at enough
          omega)
        (gap.reverse ++ (word.reverse ++ read))
      refine ⟨final, Nat.le_trans later later', ?_⟩
      rw [← isBehind] at reads ⊢
      rw [quotedBody_gap inside ?_ runs goesOn reads fuel, isText, further]
      · rw [split]
        simp
      · rintro none
        rw [(List.append_eq_nil_iff.mp none).2] at begins
        cases begins

theorem length_le_singleChars (indent : Nat) (text : List Char) (broken : Bool) :
    text.length ≤ (Style.singleChars indent broken text).length := by
  induction text generalizing broken with
  | nil => exact Nat.zero_le _
  | cons c text ih =>
    rw [Style.singleChars]
    split
    · simpa using ih true
    · split
      · simpa using ih broken
      · have further := ih false
        have some : 1 ≤ (if c == '\'' then ['\'', '\''] else [c]).length := by
          split <;> simp
        simp only [List.length_cons, List.length_append]
        omega

/-- **A text in single quotes is read back,** where it is written in them. -/
theorem single_written {indent : Nat} (deep : 0 < indent) {text more : List Char}
    (lined : Lined text) (noQuote : more.head? ≠ some '\'') (mark : Mark) :
    ∃ stop, mark.line ≤ stop.line ∧
      quoted true ⟨'\'' :: (Style.singleChars indent false text ++ '\'' :: more), mark⟩ =
        .ok (⟨.scalar (String.ofList text) false, mark, stop⟩, ⟨more, stop⟩) := by
  have few := length_le_singleChars indent text false
  obtain ⟨stop, later, read⟩ := quotedBody_single deep noQuote lined (mark.forward 1)
    (Nat.succ_pos _) (('\'' :: (Style.singleChars indent false text ++ '\'' :: more)).length + 1)
    (by simp only [List.length_cons, List.length_append]; omega) []
  refine ⟨stop, later, ?_⟩
  rw [quoted, Cursor.skip_cons, read]
  simp [bind, Except.bind]

end PluginAudit.Yaml.Lexer
