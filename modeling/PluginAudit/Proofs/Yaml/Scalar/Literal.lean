import PluginAudit.Proofs.Yaml.Cursor
import PluginAudit.Yaml.Lexer.Block

/-!
# Block scalars that are written

A text that is written as a block is read back (`literal_written`): the blank
lines that it begins with, its lines with the blank lines behind each of them,
and what the head of the block says about the ends of lines at its end.
-/

set_option autoImplicit false

namespace PluginAudit.Yaml.Lexer

/-! ## The head -/

/-- How a head names a chomping. -/
def Chomp.written : Chomp → List Char
  | strip => ['-']
  | clip => []
  | keep => ['+']

/-- The chomping under which a text is written. -/
def chompOf (text : List Char) : Chomp :=
  match text.reverse with
  | [] => .strip
  | [last] => if isBreak last then .keep else .strip
  | last :: before :: _ => if !isBreak last then .strip else if isBreak before then .keep else .clip

/-- How a head names an indentation. -/
def named (edged : Bool) : List Char := if edged then ['2'] else []

theorem literalHints_eq (text : List Char) :
    Style.literalHints text = named (text.head?.any isEdge) ++ (chompOf text).written := by
  unfold Style.literalHints chompOf named
  congr 1
  rcases text.reverse with _ | ⟨last, _ | ⟨before, more⟩⟩
  · rfl
  · dsimp only
    split <;> rfl
  · dsimp only
    split
    · rfl
    · split <;> rfl

/-- **A head is read back.** -/
theorem header_written (start : Mark) (edged : Bool) (chomp : Chomp) (more : List Char)
    (mark : Mark) :
    header start ⟨named edged ++ chomp.written ++ '\n' :: more, mark⟩ =
      .ok (⟨chomp, if edged then some 2 else none⟩,
        ⟨'\n' :: more, mark.forward (named edged ++ chomp.written).length⟩) := by
  cases edged <;> cases chomp <;> rfl

/-! ## Blank lines -/

/-- The blanks at the start of a line, as far as there is room for them. -/
theorem length_blanks (count room : Nat) {rest : List Char} (enough : count ≤ room)
    (ends : room = count ∨ rest.head? ≠ some ' ') :
    (((List.replicate count ' ' ++ rest).take room).takeWhile (· == ' ')).length = count := by
  obtain ⟨more, rfl⟩ : ∃ more, room = count + more := ⟨room - count, by omega⟩
  have taken : (List.replicate count ' ' ++ rest).take (count + more) =
      List.replicate count ' ' ++ rest.take more := by
    rw [List.take_append, List.take_of_length_le (by simp), List.length_replicate,
      Nat.add_sub_cancel_left]
  have stops : (rest.take more).takeWhile (· == ' ') = [] := by
    cases rest with
    | nil => simp
    | cons c rest =>
      rcases ends with none | other
      · obtain rfl : more = 0 := by omega
        rfl
      · cases more with
        | zero => rfl
        | succ more =>
          rw [List.take_succ_cons, List.takeWhile_cons, if_neg]
          simpa using other
  rw [taken, List.takeWhile_append_of_pos (by simp), stops, List.append_nil,
    List.length_replicate]

/-- The indentation of a line that is not blank is passed, as far as it belongs to the block. -/
theorem blankLines_stop {start : Mark} {indent : Option Nat} {count : Nat} {mark : Mark}
    {rest : List Char} (enough : ∀ depth ∈ indent, count ≤ depth - mark.column)
    (ends : indent = some (mark.column + count) ∨ rest.head? ≠ some ' ')
    (stops : ∀ c ∈ rest.head?, c ≠ '\t' ∧ isBreak c = false) (fuel : Nat) (lines : BlankLines) :
    blankLines start indent (fuel + 1) lines ⟨List.replicate count ' ' ++ rest, mark⟩ =
      .ok ({ lines with widest := max lines.widest (mark.column + count) },
        ⟨rest, mark.forward count⟩) := by
  have passed : (⟨List.replicate count ' ' ++ rest, mark⟩ : Cursor).skip count =
      ⟨rest, mark.forward count⟩ := by
    simpa using Cursor.skip_append (List.replicate count ' ') rest mark
  have noTab : (⟨rest, mark.forward count⟩ : Cursor).sees '\t' = false := by
    cases rest with
    | nil => rfl
    | cons c rest => simpa [Cursor.sees, Cursor.next?] using (stops c rfl).1
  have noBreak : (⟨rest, mark.forward count⟩ : Cursor).next?.any isBreak = false := by
    cases rest with
    | nil => rfl
    | cons c rest => exact (stops c rfl).2
  cases indent with
  | none =>
    have length := length_blanks count (List.replicate count ' ' ++ rest).length (by simp)
      (.inr (ends.resolve_left (by simp)))
    rw [blankLines]
    simp only [length, passed, noTab, noBreak]
    simp
  | some depth =>
    have length := length_blanks count _ (enough depth rfl) (ends.imp_left fun same => by
      rw [Option.some.inj same, Nat.add_sub_cancel_left])
    rw [blankLines]
    simp only [length, passed, noTab, noBreak]
    simp

/-- An empty line is passed. -/
theorem blankLines_break {start : Mark} {indent : Option Nat} {c : Char}
    (printable : isPrintable c = true) (isEnd : isBreak c = true) (fuel : Nat) (lines : BlankLines)
    (rest : List Char) (mark : Mark) :
    blankLines start indent (fuel + 1) lines ⟨c :: rest, mark⟩ =
      blankLines start indent fuel
        { breaks := lines.breaks ++ [c]
          stop := Cursor.nextLine mark 1
          widest := max lines.widest mark.column } ⟨rest, Cursor.nextLine mark 1⟩ := by
  have notBlank : c ≠ ' ' := by
    rintro rfl
    cases isEnd
  have notTab : c ≠ '\t' := by
    rintro rfl
    cases isEnd
  have noBlanks (room : Nat) : (((c :: rest).take room).takeWhile (· == ' ')).length = 0 := by
    have other : (c :: rest).head? ≠ some ' ' := by simpa using notBlank
    exact length_blanks 0 room (Nat.zero_le _) (.inr other)
  have stays : (⟨c :: rest, mark⟩ : Cursor).skip 0 = ⟨c :: rest, mark⟩ := rfl
  rw [blankLines.eq_def]
  simp only [noBlanks, stays]
  simp [Cursor.sees, Cursor.next?, notTab, isEnd, takeBreak_of_printable printable isEnd]

/-- **Empty lines are read back,** with the indentation of the line behind them. -/
theorem blankLines_written (start : Mark) {indent count : Nat} {rest : List Char}
    (enough : count ≤ indent) (ends : indent = count ∨ rest.head? ≠ some ' ')
    (stops : ∀ c ∈ rest.head?, c ≠ '\t' ∧ isBreak c = false) (breaks : List Char)
    (written : ∀ c ∈ breaks, isPrintable c = true ∧ isBreak c = true) (fuel : Nat)
    (fuelled : breaks.length < fuel) (lines : BlankLines) (mark : Mark) (begins : mark.column = 0) :
    ∃ read stop, read.breaks = lines.breaks ++ breaks ∧ stop.column = count ∧
      blankLines start (some indent) fuel lines
          ⟨breaks ++ (List.replicate count ' ' ++ rest), mark⟩ =
        .ok (read, ⟨rest, stop⟩) := by
  induction breaks generalizing fuel lines mark with
  | nil =>
    obtain ⟨fuel, rfl⟩ : ∃ more, fuel = more + 1 := ⟨fuel - 1, by omega⟩
    refine ⟨_, _, ?_, ?_, blankLines_stop (by simpa [begins] using enough)
      (by simpa [begins] using ends) stops fuel lines⟩
    · simp
    · simp [begins]
  | cons c breaks ih =>
    obtain ⟨fuel, rfl⟩ : ∃ more, fuel = more + 1 := ⟨fuel - 1, by omega⟩
    obtain ⟨printable, isEnd⟩ := written c List.mem_cons_self
    obtain ⟨read, stop, isRead, column, further⟩ := ih
      (fun d among => written d (List.mem_cons_of_mem _ among)) fuel (by simpa using fuelled)
      { breaks := lines.breaks ++ [c]
        stop := Cursor.nextLine mark 1
        widest := max lines.widest mark.column } (Cursor.nextLine mark 1) rfl
    refine ⟨read, stop, by simp [isRead], column, ?_⟩
    rw [List.cons_append, blankLines_break printable isEnd, further]

/-! ## Lines -/

/-- **One line is read,** with the empty lines and the indentation behind it. -/
theorem blockBody_line {start : Mark} {indent count : Nat} {line breaks rest : List Char} {c : Char}
    (noBreak : ∀ d ∈ line, isBreak d = false)
    (written : ∀ d ∈ c :: breaks, isPrintable d = true ∧ isBreak d = true)
    (enough : count ≤ indent) (ends : indent = count ∨ rest.head? ≠ some ' ')
    (stops : ∀ c ∈ rest.head?, c ≠ '\t' ∧ isBreak c = false) (fuel : Nat) (block : Block)
    {mark : Mark} (inside : mark.column = indent) :
    ∃ (read : Block) (stop : Mark),
      read.read = line.reverse ++ ((block.last ++ block.lines.breaks).reverse ++ block.read) ∧
      read.last = [c] ∧ read.lines.breaks = breaks ∧ stop.column = count ∧
      blockBody true start indent (fuel + 1) block
          ⟨line ++ c :: (breaks ++ (List.replicate count ' ' ++ rest)), mark⟩ =
        blockBody true start indent fuel read ⟨rest, stop⟩ := by
  obtain ⟨printable, isEnd⟩ := written c List.mem_cons_self
  have ended : ∀ d ∈ (c :: (breaks ++ (List.replicate count ' ' ++ rest))).head?,
      (!isBreak d) = false := fun d first => by simpa [← Option.some.inj first] using isEnd
  have taken := Cursor.takeWhile_append (fun c => !isBreak c) line
    (fun d among => by simpa using noBreak d among) ended mark
  have some : (⟨line ++ c :: (breaks ++ (List.replicate count ' ' ++ rest)), mark⟩ :
      Cursor).rest.isEmpty = false := by simp
  obtain ⟨lines, stop, isRead, column, read⟩ := blankLines_written start enough ends stops
    breaks (fun d among => written d (List.mem_cons_of_mem _ among))
    ((breaks ++ (List.replicate count ' ' ++ rest)).length + 1) (length_lt_fuel breaks _)
    { stop := Cursor.nextLine (mark.forward line.length) 1 }
    (Cursor.nextLine (mark.forward line.length) 1) rfl
  refine ⟨{
      read := line.reverse ++ ((block.last ++ block.lines.breaks).reverse ++ block.read)
      last := [c]
      lines := lines
      indented := (line ++ c :: (breaks ++ (List.replicate count ' ' ++ rest))).head?.any isBlank },
    stop, rfl, rfl, by simpa using isRead, column, ?_⟩
  rw [blockBody, if_neg (by simp [inside])]
  simp only [taken, takeBreak_of_printable printable isEnd, read, bind, Except.bind,
    Bool.not_true, Bool.false_and, Bool.false_eq_true, if_false]
  rfl

theorem literalChars_line (indent : Nat) (line rest : List Char)
    (noBreak : ∀ c ∈ line, isBreak c = false) :
    Style.literalChars indent false (line ++ rest) =
      line ++ Style.literalChars indent false rest := by
  induction line with
  | nil => rfl
  | cons c line ih =>
    rw [List.cons_append, Style.literalChars, noBreak c List.mem_cons_self,
      ih fun d among => noBreak d (List.mem_cons_of_mem _ among)]
    rfl

theorem literalChars_break (indent : Nat) (broken : Bool) {c : Char} (isEnd : isBreak c = true)
    (breaks rest : List Char) :
    Style.literalChars indent broken (c :: breaks ++ rest) =
      c :: Style.literalChars indent true (breaks ++ rest) := if_pos isEnd

theorem literalChars_breaks (indent : Nat) (breaks rest : List Char)
    (ends : ∀ c ∈ breaks, isBreak c = true) :
    Style.literalChars indent true (breaks ++ rest) =
      breaks ++ Style.literalChars indent true rest := by
  induction breaks with
  | nil => rfl
  | cons c breaks ih =>
    rw [literalChars_break indent true (ends c List.mem_cons_self),
      ih fun d among => ends d (List.mem_cons_of_mem _ among), List.cons_append]

theorem literalChars_indented (indent : Nat) {c : Char} (noBreak : isBreak c = false)
    (rest : List Char) :
    Style.literalChars indent true (c :: rest) =
      List.replicate indent ' ' ++ Style.literalChars indent false (c :: rest) := by
  simp [Style.literalChars, noBreak, Style.blanks]

/-- What ends a block that does not end with its text. -/
def ending (text : List Char) : List Char := if text.getLast?.any isBreak then [] else ['\n']

/-- What has been read of a block: its lines, up to the last that is not empty, and the ends of
lines behind them, if there are any in the text. -/
structure Block.Holds (block : Block) (lines trail : List Char) : Prop where
  read : block.read.reverse = lines
  last : block.last = [trail.headD '\n']
  breaks : block.lines.breaks = trail.tail

/-- Whether a text ends in something else than the end of a line. -/
def EndsInside (lines : List Char) : Prop :=
  ∃ init last, lines = init ++ [last] ∧ isBreak last = false

theorem ending_append (first : List Char) {c : Char} {rest : List Char} :
    ending (first ++ c :: rest) = ending (c :: rest) := by
  have last : (first ++ c :: rest).getLast? = (c :: rest).getLast? := by
    rw [List.getLast?_append, List.getLast?_eq_some_getLast (List.cons_ne_nil c rest)]
    rfl
  rw [ending, ending, last]

theorem ending_of_endsInside {lines : List Char} (inside : EndsInside lines) :
    ending lines = ['\n'] := by
  obtain ⟨init, last, rfl, noBreak⟩ := inside
  simp [ending, noBreak]

theorem ending_of_breaks {c : Char} {breaks : List Char}
    (ends : ∀ d ∈ c :: breaks, isBreak d = true) : ending (c :: breaks) = [] := by
  have last := ends _ (List.getLast_mem (List.cons_ne_nil c breaks))
  rw [ending, List.getLast?_eq_some_getLast (List.cons_ne_nil c breaks), Option.any_some,
    if_pos last]

theorem endsInside_of_noBreak {c : Char} {line : List Char}
    (noBreak : ∀ d ∈ c :: line, isBreak d = false) : EndsInside (c :: line) :=
  ⟨_, _, (List.dropLast_concat_getLast (List.cons_ne_nil c line)).symm,
    noBreak _ (List.getLast_mem _)⟩

/-- The last line of a block with what ends it. -/
theorem literalChars_last {indent : Nat} {line trail : List Char}
    (noBreak : ∀ c ∈ line, isBreak c = false) (inside : EndsInside line)
    (ends : ∀ c ∈ trail, isBreak c = true) (behind : List Char) :
    Style.literalChars indent false (line ++ trail) ++ (ending (line ++ trail) ++ behind) =
      line ++ trail.headD '\n' :: (trail.tail ++ behind) := by
  rw [literalChars_line indent line trail noBreak]
  cases trail with
  | nil =>
    rw [List.append_nil, ending_of_endsInside inside]
    simp [Style.literalChars]
  | cons c trail =>
    have chars := literalChars_breaks indent trail []
      fun d among => ends d (List.mem_cons_of_mem _ among)
    rw [ending_append, ending_of_breaks ends, Style.literalChars,
      if_pos (ends c List.mem_cons_self)]
    rw [List.append_nil] at chars
    simp [chars, Style.literalChars]

/-- **The lines of a block are read back.** -/
theorem blockBody_written {start : Mark} {indent column : Nat} (shallow : column < indent)
    {tail : List Char} (stops : ∀ c ∈ tail.head?, (isBlank c || isBreak c) = false)
    {c : Char} {rest : List Char} (printable : ∀ d ∈ c :: rest, isPrintable d = true)
    (noBreak : isBreak c = false) (fuel : Nat) (enough : rest.length + 1 < fuel) (block : Block)
    {mark : Mark} (inside : mark.column = indent) :
    ∃ (lines trail : List Char) (read : Block) (stop : Mark),
      c :: rest = lines ++ trail ∧ EndsInside lines ∧ (∀ d ∈ trail, isBreak d = true) ∧
      read.Holds (block.read.reverse ++ (block.last ++ block.lines.breaks) ++ lines) trail ∧
      stop.column = column ∧
      blockBody true start indent fuel block
          ⟨Style.literalChars indent false (c :: rest) ++
            (ending (c :: rest) ++ (List.replicate column ' ' ++ tail)), mark⟩ =
        .ok (read, ⟨tail, stop⟩) := by
  induction fuel generalizing c rest block mark with
  | zero => omega
  | succ fuel ih =>
    obtain ⟨line, behind, rfl, noBreaks, stops'⟩ := exists_run (fun c => !isBreak c) rest
    obtain ⟨breaks, text, rfl, ends, noBreak'⟩ := exists_run isBreak behind
    have noBreaks : ∀ d ∈ c :: line, isBreak d = false := by
      simpa [noBreak] using noBreaks
    have isInside := endsInside_of_noBreak noBreaks
    cases text with
    | nil =>
      have written : ∀ d ∈ breaks.headD '\n' :: breaks.tail,
          isPrintable d = true ∧ isBreak d = true := by
        cases breaks with
        | nil => simp [isPrintable, isBreak]
        | cons b breaks =>
          exact fun d among => ⟨printable d (by
            simpa using .inr (.inr (by simpa using among))), ends d among⟩
      obtain ⟨read, stop, isRead, isLast, isBreaks, isColumn, step⟩ := blockBody_line
        noBreaks written (Nat.le_of_lt shallow)
        (.inr (by rintro first; exact absurd (stops ' ' first) (by decide)))
        (fun d first => by
          have stop := stops d first
          simp only [isBlank, Bool.or_eq_false_iff, beq_eq_false_iff_ne] at stop
          exact ⟨stop.1.2, stop.2⟩) fuel block inside
      refine ⟨c :: line, breaks, read, stop, by simp, isInside, ends, ⟨?_, isLast, isBreaks⟩,
        isColumn, ?_⟩
      · simp [isRead]
      · obtain ⟨fuel, rfl⟩ : ∃ more, fuel = more + 1 := ⟨fuel - 1, by simp at enough; omega⟩
        rw [List.append_nil, ← List.cons_append, literalChars_last noBreaks isInside ends, step,
          blockBody, if_pos]
        simp [isColumn]
        omega
    | cons d text =>
      obtain ⟨b, breaks, rfl⟩ : ∃ b more, breaks = b :: more := by
        refine List.exists_cons_of_ne_nil ?_
        rintro rfl
        have isEnd := stops' d rfl
        simp [noBreak' d rfl] at isEnd
      have among (e : Char) (inside : e ∈ (b :: breaks) ++ d :: text) :
          e ∈ c :: (line ++ (b :: breaks ++ d :: text)) :=
        List.mem_cons_of_mem _ (List.mem_append_right _ inside)
      have notTab : d ≠ '\t' := by
        rintro rfl
        exact absurd (printable '\t' (among _ (by simp))) (by decide)
      have isFirst (e : Char) (behind : List Char)
          (first : e ∈ (Style.literalChars indent false (d :: text) ++ behind).head?) : d = e := by
        simpa [Style.literalChars, noBreak' d rfl] using first
      obtain ⟨read, stop, isRead, isLast, isBreaks, isColumn, step⟩ := blockBody_line
        (c := b) noBreaks
        (fun e inside => ⟨printable e (among e (List.mem_append_left _ inside)), ends e inside⟩)
        (Nat.le_refl indent) (.inl rfl)
        (fun e first => isFirst e _ first ▸ ⟨notTab, noBreak' d rfl⟩) fuel block inside
      obtain ⟨lines, trail, final, stop', split, isInside', ends', holds, isColumn', further⟩ :=
        ih (fun e inside => printable e (among e (List.mem_append_right _ inside)))
          (noBreak' d rfl) (by simp at enough; omega) read isColumn
      refine ⟨c :: line ++ (b :: breaks ++ lines), trail, final, stop', by simp [split],
        ?_, ends', ?_, isColumn', ?_⟩
      · obtain ⟨init, last, rfl, noBreak⟩ := isInside'
        exact ⟨c :: line ++ (b :: breaks ++ init), last, by simp, noBreak⟩
      · simpa [isRead, isLast, isBreaks] using holds
      · have chars : Style.literalChars indent false (c :: (line ++ (b :: breaks ++ d :: text))) =
            c :: line ++ b :: (breaks ++ (List.replicate indent ' ' ++
              Style.literalChars indent false (d :: text))) := by
          rw [← List.cons_append, literalChars_line indent (c :: line) _ noBreaks,
            literalChars_break indent false (ends b List.mem_cons_self) breaks,
            literalChars_breaks indent breaks _
              fun e among => ends e (List.mem_cons_of_mem _ among),
            literalChars_indented indent (noBreak' d rfl)]
        have isEnding : ending (c :: (line ++ (b :: breaks ++ d :: text))) =
            ending (d :: text) := by
          have whole : c :: (line ++ (b :: breaks ++ d :: text)) =
              c :: line ++ b :: breaks ++ d :: text := by simp
          rw [whole, ending_append]
        rw [chars, isEnding, ← further, ← step]
        simp

/-! ## Ends of texts -/

/-- What a chomping leaves of the ends of lines behind a block. -/
def Block.kept (block : Block) : Chomp → List Char
  | .strip => []
  | .clip => block.last
  | .keep => block.last ++ block.lines.breaks

/-- **The ends of lines behind a text** are kept as they are in it. -/
theorem Block.Holds.kept {block : Block} {lines trail : List Char} (holds : block.Holds lines trail)
    (inside : EndsInside lines) (ends : ∀ c ∈ trail, isBreak c = true) :
    block.kept (chompOf (lines ++ trail)) = trail := by
  obtain ⟨init, last, rfl, noBreak⟩ := inside
  obtain ⟨-, isLast, isBreaks⟩ := holds
  have whole : (init ++ [last] ++ trail).reverse = trail.reverse ++ last :: init.reverse := by simp
  have isEnd (c : Char) (among : c ∈ trail.reverse) : isBreak c = true :=
    ends c (List.mem_reverse.mp among)
  unfold chompOf
  rw [whole]
  rcases reversed : trail.reverse with _ | ⟨final, _ | ⟨before, more⟩⟩
  · obtain rfl := List.reverse_eq_nil_iff.mp reversed
    rcases init.reverse with _ | ⟨other, init⟩ <;> simp [noBreak, Block.kept]
  · obtain rfl : trail = [final] := by simpa using congrArg List.reverse reversed
    simp [noBreak, isEnd final (by simp), Block.kept, isLast]
  · rw [reversed] at isEnd
    have keeps : block.last ++ block.lines.breaks = trail := by
      rw [isLast, isBreaks]
      cases trail with
      | nil => cases reversed
      | cons c trail => rfl
    simpa [isEnd final (by simp), isEnd before (by simp), Block.kept] using keeps

/-! ## Blocks -/

/-- **The start of a block is read back:** its empty lines, and the indentation of its text. -/
theorem blankLines_begins {start : Mark} {indent : Nat} {breaks : List Char} {c : Char}
    {rest : List Char} (written : ∀ d ∈ breaks, isPrintable d = true ∧ isBreak d = true)
    (notTab : c ≠ '\t') (noBreak : isBreak c = false) {depth : Option Nat}
    (isDepth : depth = if (breaks ++ c :: rest).head?.any isEdge then some indent else none)
    (fuel : Nat) (enough : breaks.length < fuel) (mark : Mark) (begins : mark.column = 0)
    (behind : List Char) :
    ∃ (lines : BlankLines) (stop : Mark), lines.breaks = breaks ∧ stop.column = indent ∧
      (depth = none → lines.widest = indent) ∧
      blankLines start depth fuel { stop := mark }
          ⟨Style.literalChars indent true (breaks ++ c :: rest) ++ behind, mark⟩ =
        .ok (lines, ⟨Style.literalChars indent false (c :: rest) ++ behind, stop⟩) := by
  have chars : Style.literalChars indent true (breaks ++ c :: rest) ++ behind =
      breaks ++ (List.replicate indent ' ' ++
        (Style.literalChars indent false (c :: rest) ++ behind)) := by
    rw [literalChars_breaks indent breaks _ fun d among => (written d among).2,
      literalChars_indented indent noBreak]
    simp
  have stops : ∀ d ∈ (Style.literalChars indent false (c :: rest) ++ behind).head?,
      d ≠ '\t' ∧ isBreak d = false := by
    intro d first
    obtain rfl : c = d := by simpa [Style.literalChars, noBreak] using first
    exact ⟨notTab, noBreak⟩
  rw [chars]
  cases edged : (breaks ++ c :: rest).head?.any isEdge with
  | true =>
    rw [edged, if_pos rfl] at isDepth
    subst isDepth
    obtain ⟨lines, stop, isRead, column, read⟩ := blankLines_written start
      (Nat.le_refl indent) (.inl rfl) stops breaks written fuel enough { stop := mark } mark begins
    exact ⟨lines, stop, by simpa using isRead, column, by simp, read⟩
  | false =>
    rw [edged, if_neg Bool.false_ne_true] at isDepth
    subst isDepth
    obtain rfl : breaks = [] := by
      cases breaks with
      | nil => rfl
      | cons b breaks =>
        have isEnd := (written b List.mem_cons_self).2
        simp [isEdge, isEnd] at edged
    have notBlank : c ≠ ' ' := by
      rintro rfl
      simp [isEdge] at edged
    obtain ⟨fuel, rfl⟩ : ∃ more, fuel = more + 1 := ⟨fuel - 1, by omega⟩
    refine ⟨_, _, ?_, ?_, ?_, blankLines_stop (by simp) (.inr ?_) stops fuel { stop := mark }⟩
    · rfl
    · simp [begins]
    · simp [begins]
    · simpa [Style.literalChars, noBreak] using notBlank

/-- Where the lines of a block begin. -/
def Mark.belowHead (mark : Mark) (edged : Bool) (chomp : Chomp) : Mark :=
  Cursor.nextLine (mark.forward (1 + (named edged ++ chomp.written).length)) 1

/-- A block scalar is read from its head, its empty lines and its lines. -/
theorem block_eq {parent : Nat} {chomp : Chomp} {edged : Bool} {text rest : List Char}
    {mark stop : Mark} {lines : BlankLines} {block : Block} {behind : Cursor}
    (blanks : blankLines mark (if edged then some (parent + 2) else none) (text.length + 1)
      { stop := Mark.belowHead mark edged chomp } ⟨text, Mark.belowHead mark edged chomp⟩ =
      .ok (lines, ⟨rest, stop⟩))
    (widest : edged = false → lines.widest = parent + 2)
    (body : blockBody true mark (parent + 2) (rest.length + 1) { lines } ⟨rest, stop⟩ =
      .ok (block, behind)) :
    Lexer.block true parent ⟨'|' :: (named edged ++ chomp.written ++ '\n' :: text), mark⟩ =
      .ok (⟨.scalar (String.ofList (block.read.reverse ++ block.kept chomp)) false, mark,
        block.lines.stop⟩, behind) := by
  obtain ⟨head, isHead⟩ :
      ∃ head, head = mark.forward (1 + (named edged ++ chomp.written).length) := ⟨_, rfl⟩
  rw [Mark.belowHead, ← isHead] at blanks
  have isHeader := header_written mark edged chomp text (mark.forward 1)
  rw [Mark.forward_forward, ← isHead] at isHeader
  have comment : (⟨'\n' :: text, head⟩ : Cursor).skipComment = ⟨'\n' :: text, head⟩ := rfl
  have atEnd : isLineEnd (⟨'\n' :: text, head⟩ : Cursor).next? = true := rfl
  have next : (⟨'\n' :: text, head⟩ : Cursor).skipBreak = ⟨text, Cursor.nextLine head 1⟩ := rfl
  have depth : (if edged then some 2 else none).map
      (fun indent => (max (parent : Int) 0).toNat + indent) =
      if edged then some (parent + 2) else none := by
    cases edged <;> simp
  have isIndent : (if edged then some (parent + 2) else none).getD
      (max (max lines.widest ((parent : Int) + 1).toNat) 1) = parent + 2 := by
    cases edged with
    | true => rfl
    | false =>
      rw [widest rfl]
      simp
  rw [Lexer.block]
  dsimp only
  rw [Cursor.skip_cons, isHeader]
  simp only [bind, Except.bind, comment, atEnd, next, depth, blanks, isIndent, body]
  cases chomp <;> rfl

theorem length_le_literalChars (indent : Nat) (text : List Char) (broken : Bool) :
    text.length ≤ (Style.literalChars indent broken text).length := by
  induction text generalizing broken with
  | nil => exact Nat.le_refl 0
  | cons c text ih =>
    rw [Style.literalChars]
    split
    · simpa using ih true
    · have further := ih false
      simp only [List.length_append, List.length_cons]
      omega

/-- Behind a text of nothing but ends of lines they are all kept. -/
theorem chompOf_breaks {text : List Char} (some : text ≠ [])
    (ends : ∀ c ∈ text, isBreak c = true) : chompOf text = .keep := by
  have isEnd (c : Char) (among : c ∈ text.reverse) : isBreak c = true :=
    ends c (List.mem_reverse.mp among)
  unfold chompOf
  rcases reversed : text.reverse with _ | ⟨last, _ | ⟨before, more⟩⟩
  · exact absurd (List.reverse_eq_nil_iff.mp reversed) some
  · rw [reversed] at isEnd
    simp [isEnd last (by simp)]
  · rw [reversed] at isEnd
    simp [isEnd last (by simp), isEnd before (by simp)]

/-- **A text in a block is read back,** with the indentation of the next line, which is lesser. -/
theorem literal_written (parent column : Nat) (shallow : column < parent + 2) {tail : List Char}
    (stops : ∀ c ∈ tail.head?, (isBlank c || isBreak c) = false) {text : List Char}
    (some : text ≠ []) (printable : ∀ c ∈ text, isPrintable c = true) (mark : Mark) :
    ∃ stop final : Mark, final.column = column ∧
      block true parent ⟨Style.write (parent + 2) text .literal ++
          (ending text ++ (List.replicate column ' ' ++ tail)), mark⟩ =
        .ok (⟨.scalar (String.ofList text) false, mark, stop⟩, ⟨tail, final⟩) := by
  obtain ⟨behind, isBehind⟩ : ∃ behind, behind = List.replicate column ' ' ++ tail := ⟨_, rfl⟩
  have whole : Style.write (parent + 2) text .literal ++ (ending text ++ behind) =
      '|' :: (named (text.head?.any isEdge) ++ (chompOf text).written ++
        '\n' :: (Style.literalChars (parent + 2) true text ++ (ending text ++ behind))) := by
    rw [Style.write, literalHints_eq]
    simp
  rw [← isBehind, whole]
  obtain ⟨breaks, lines, rfl, ends, noBreak⟩ := exists_run isBreak text
  have written (d : Char) (among : d ∈ breaks) : isPrintable d = true ∧ isBreak d = true :=
    ⟨printable d (List.mem_append_left _ among), ends d among⟩
  cases lines with
  | nil =>
    rw [List.append_nil] at some printable ⊢
    obtain ⟨b, more, rfl⟩ := List.exists_cons_of_ne_nil some
    have edged : (b :: more).head?.any isEdge = true := by
      simp [isEdge, ends b List.mem_cons_self]
    have chars : Style.literalChars (parent + 2) true (b :: more) = b :: more := by
      simpa [Style.literalChars] using literalChars_breaks (parent + 2) (b :: more) [] ends
    have keeps := chompOf_breaks some ends
    have deep : column ≤ parent + 2 := by omega
    obtain ⟨lines, stop, isRead, column', read⟩ := blankLines_written mark deep
      (.inr fun first => absurd (stops ' ' first) (by decide))
      (fun d first => by
        have stop := stops d first
        simp only [isBlank, Bool.or_eq_false_iff, beq_eq_false_iff_ne] at stop
        exact ⟨stop.1.2, stop.2⟩)
      (b :: more) written ((b :: more ++ behind).length + 1) (length_lt_fuel (b :: more) behind)
      { stop := Mark.belowHead mark true .keep } (Mark.belowHead mark true .keep) rfl
    rw [ending_of_breaks ends, List.nil_append, chars, edged, keeps]
    rw [← isBehind] at read
    have outside : stop.column ≠ parent + 2 := by omega
    have body : blockBody true mark (parent + 2) (tail.length + 1) { lines } ⟨tail, stop⟩ =
        .ok ({ lines }, ⟨tail, stop⟩) := by
      rw [blockBody, if_pos (by simp [outside])]
    refine ⟨lines.stop, stop, column', (block_eq read (by simp) body).trans ?_⟩
    simp [Block.kept, isRead]
  | cons c rest =>
    have notTab : c ≠ '\t' := by
      rintro rfl
      exact absurd (printable '\t' (by simp)) (by decide)
    have longer := length_le_literalChars (parent + 2) (breaks ++ c :: rest) true
    have longer' := length_le_literalChars (parent + 2) (c :: rest) false
    obtain ⟨blanks, stop, isBlanks, column', widest, read⟩ := blankLines_begins
      written notTab (noBreak c rfl) rfl
      ((Style.literalChars (parent + 2) true (breaks ++ c :: rest) ++
        (ending (breaks ++ c :: rest) ++ behind)).length + 1)
      (by simp only [List.length_append, List.length_cons] at longer ⊢; omega)
      (Mark.belowHead mark ((breaks ++ c :: rest).head?.any isEdge)
        (chompOf (breaks ++ c :: rest))) rfl
      (ending (breaks ++ c :: rest) ++ behind)
    obtain ⟨lines, trail, final, stop', split, inside, ends', holds, column'', body⟩ :=
      blockBody_written shallow stops
        (fun d among => printable d (List.mem_append_right _ among)) (noBreak c rfl)
        ((Style.literalChars (parent + 2) false (c :: rest) ++
          (ending (breaks ++ c :: rest) ++ behind)).length + 1)
        (by simp only [List.length_append, List.length_cons] at longer' ⊢; omega)
        { lines := blanks } column'
    rw [← ending_append breaks, ← isBehind] at body
    refine ⟨final.lines.stop, stop', column'', ?_⟩
    rw [block_eq read (fun notEdged => widest (by rw [notEdged]; rfl)) body]
    have holds' : final.Holds (breaks ++ lines) trail := by simpa [isBlanks] using holds
    have inside' : EndsInside (breaks ++ lines) := by
      obtain ⟨init, last, rfl, isLast⟩ := inside
      exact ⟨breaks ++ init, last, by simp, isLast⟩
    have whole : breaks ++ c :: rest = breaks ++ lines ++ trail := by
      rw [split, List.append_assoc]
    rw [whole, holds'.kept inside' ends', holds'.read]

end PluginAudit.Yaml.Lexer
