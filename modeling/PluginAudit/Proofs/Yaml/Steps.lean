import PluginAudit.Proofs.Yaml.Fetching
import PluginAudit.Proofs.Yaml.Places
import PluginAudit.Proofs.Yaml.Scalar.Plain

/-!
# Steps from place to place

What each piece of a written document adds to the tokens, and the place to
which it leads: the dash of an entry, the name of a field with its colon, an
empty list or record, and the end of the text.
-/

set_option autoImplicit false

namespace PluginAudit.Yaml

open Lexer (Begins)

/-- Tokens that are appended can be, whatever has been taken. -/
theorem Scan.Fetches.of_grows {scan after : Scan}
    (fetch : ∀ taken ≤ scan.read.length, (scan.lexer taken).fetch = .ok (after.lexer taken))
    (grows : scan.read <+: after.read)
    (candidates : ∀ candidate, some candidate ∈ after.candidates →
      scan.read.length ≤ candidate.number ∨
        some candidate ∈ scan.candidates ∧ Lexer.Onward scan.cursor.mark after.cursor.mark) :
    scan.Fetches after where
  fetch taken settled := fetch taken settled.1
  settled number settled := by
    refine ⟨Nat.le_trans settled.1 grows.length_le, fun candidate among fresh => ?_⟩
    rcases candidates candidate among with new | ⟨known, onward⟩
    · exact Nat.le_trans settled.1 new
    · refine settled.2 candidate known ?_
      cases stale : (scan.lexer 0).isStale candidate with
      | false => rfl
      | true =>
        have later : (after.lexer 0).isStale candidate = true := Lexer.isStale_onward onward stale
        rw [fresh] at later
        cases later
  keeps number settled := by
    obtain ⟨more, isRead⟩ := grows
    rw [← isRead, List.take_append_of_le_length settled.1]

/-- The blocks around a place at a column, if a block is started there. -/
def opened (column : Nat) (indent : Int) (indents : List Int) : List Int :=
  if indent < column then indent :: indents else indents

/-- The token that starts a block at a column, if one is started there. -/
def opening {α : Type} (column : Nat) (indent : Int) (start : α) : List α :=
  if indent < column then [start] else []

section

variable {column : Nat} {indent : Int} {indents : List Int} {α : Type} {start : α}

theorem opened_of_lt (deeper : indent < column) :
    opened column indent indents = indent :: indents :=
  if_pos deeper

theorem opening_of_lt (deeper : indent < column) : opening column indent start = [start] :=
  if_pos deeper

theorem opened_self : opened column column indents = indents := if_neg (Int.lt_irrefl _)

theorem opening_self : opening column column start = [] := if_neg (Int.lt_irrefl _)

end

/-- Where a token of a block is put in: at the end, or as the one of a number. -/
theorem Lexer.openBlock_eq {lexer : Lexer} (outside : lexer.inFlow = false) {column : Nat}
    (inside : lexer.indent ≤ column) (number : Option Nat) (kind : Token.Kind) (mark : Mark) :
    lexer.openBlock column number kind mark =
      { lexer with
        indent := column
        indents := opened column lexer.indent lexer.indents
        queue := match number with
          | none => lexer.queue ++ opening column lexer.indent ⟨kind, mark, mark⟩
          | some number => lexer.queue.take (number - lexer.taken) ++
              (opening column lexer.indent ⟨kind, mark, mark⟩ ++
                lexer.queue.drop (number - lexer.taken)) } := by
  unfold openBlock opened opening
  rw [outside, Bool.false_or]
  by_cases deeper : lexer.indent < column
  · have notInside : decide ((column : Int) ≤ lexer.indent) = false := by simpa using deeper
    rw [notInside, if_neg Bool.false_ne_true, if_pos deeper, if_pos deeper]
    cases number <;> rfl
  · have same : (column : Int) = lexer.indent := by omega
    rw [decide_eq_true (Int.le_of_eq same), if_pos rfl, if_neg deeper, if_neg deeper, same]
    cases number <;> simp

namespace Place

/-- The candidate that a place is made, if a key may start there. -/
def candidate (place : Place) (mark : Mark) (allowed : Bool) (number : Nat) :
    Option Candidate :=
  if allowed then some ⟨place.indent == place.column, number, mark⟩ else none

/-- The reading behind a scalar at a place, which may be a key. -/
def noted (place : Place) (mark : Mark) (allowed : Bool) (read : List Token) (token : Token)
    (cursor : Cursor) (after : Bool) : Scan where
  cursor := cursor
  indent := place.indent
  indents := place.indents
  keyAllowed := after
  candidates := [place.candidate mark allowed read.length]
  read := read ++ [token]

end Place

namespace Leads

variable {all kinds : List Token.Kind} {more : List Char} {column : Nat} {indent : Int}
  {indents : List Int} {allowed : Bool}

theorem ready (place : Place) (begins : Begins place.rest) (inside : place.indent ≤ place.column)
    {mark : Mark} (isColumn : mark.column = place.column) (allowed : Bool) (read : List Token)
    (taken : Nat) : ((place.scan mark allowed read).lexer taken).Ready where
  started := rfl
  settled := by
    refine Lexer.settle_here begins (fun candidate among => ?_) fun _ => ?_
    · simp [Scan.lexer, Place.scan] at among
    · simpa [Scan.lexer, Place.scan, Lexer.column, isColumn] using inside

/-- **The dash of an entry** is read, with the start of its block. -/
theorem of_dash (alone : isGap more.head? = true) (inside : indent ≤ column)
    (leads : Leads all ⟨more, column + 1, column, opened column indent indents⟩ true
      (kinds ++ (opening column indent .blockSequenceStart ++ [.blockEntry]))) :
    Leads all ⟨'-' :: more, column, indent, indents⟩ true kinds := by
  intro mark read isColumn isRead
  have begins : Begins ('-' :: more) :=
    Lexer.begins_cons (by decide) (by decide) (by decide) more
  obtain ⟨tokens, reads, isAll⟩ := leads (mark.forward 1)
    (read ++ (opening column indent ⟨.blockSequenceStart, mark, mark⟩ ++
      [⟨.blockEntry, mark, mark.forward 1⟩])) (by simp [isColumn])
    (by simp only [List.map_append, isRead, opening]; split <;> rfl)
  refine ⟨tokens, .step (.of_grows (fun taken few => ?_) (List.prefix_append _ _) ?_) ?_
    reads, isAll⟩
  · rw [Lexer.fetch_dash (ready _ begins inside isColumn true read taken) rfl alone]
    have dropped (new : List Token) : (read ++ new).drop taken = read.drop taken ++ new :=
      List.drop_append_of_le_length few
    have isAt : ((Place.scan ⟨'-' :: more, column, indent, indents⟩ mark true read).lexer
        taken).column = column := congrArg Nat.cast isColumn
    rw [Lexer.blockEntry, if_neg (by simp [Scan.lexer, Place.scan])]
    dsimp only
    rw [isAt, Lexer.openBlock_eq rfl inside]
    simp [Scan.lexer, Place.scan, dropped, Lexer.dropCandidate, Lexer.candidate?, Lexer.pushMark,
      bind, Except.bind, Cursor.skip_cons]
  · simp [Place.scan]
  · simp [Place.scan]

/-! ## Scalars -/

section Noted

variable {place : Place} {mark : Mark} {read : List Token} {token : Token} {cursor : Cursor}
  {after : Bool}

theorem noteCandidate_place (isColumn : mark.column = place.column) {taken : Nat}
    (few : taken ≤ read.length) :
    ((place.scan mark allowed read).lexer taken).noteCandidate =
      .ok { (place.scan mark allowed read).lexer taken with
        candidates := [place.candidate mark allowed read.length] } := by
  have number : taken + (read.length - taken) = read.length := Nat.add_sub_of_le few
  cases allowed <;>
    simp [Lexer.noteCandidate, Lexer.dropCandidate, Lexer.candidate?, Lexer.setCandidate,
      Lexer.inFlow, Lexer.column, Scan.lexer, Place.scan, Place.candidate, bind, Except.bind,
      isColumn, number]

/-- A scalar without quotes is read at a place. -/
theorem plainScalar_place (isColumn : mark.column = place.column)
    (isPlain : Lexer.plain false (place.indent + 1) ⟨place.rest, mark⟩ = .ok (token, after, cursor))
    {taken : Nat} (few : taken ≤ read.length) :
    ((place.scan mark allowed read).lexer taken).plainScalar =
      .ok ((place.noted mark allowed read token cursor after).lexer taken) := by
  have queue : (read ++ [token]).drop taken = read.drop taken ++ [token] :=
    List.drop_append_of_le_length few
  rw [Lexer.plainScalar, noteCandidate_place isColumn few]
  simp only [bind, Except.bind, Scan.lexer, Place.scan, Lexer.inFlow, List.length_singleton,
    Nat.lt_irrefl, decide_false, isPlain]
  simp [Place.noted, Lexer.push, queue]

/-- A quoted scalar is read at a place. -/
theorem quotedScalar_place (isColumn : mark.column = place.column) {single : Bool}
    (isQuoted : Lexer.quoted single ⟨place.rest, mark⟩ = .ok (token, cursor))
    {taken : Nat} (few : taken ≤ read.length) :
    ((place.scan mark allowed read).lexer taken).quotedScalar single =
      .ok ((place.noted mark allowed read token cursor false).lexer taken) := by
  have queue : (read ++ [token]).drop taken = read.drop taken ++ [token] :=
    List.drop_append_of_le_length few
  rw [Lexer.quotedScalar, noteCandidate_place isColumn few]
  simp only [bind, Except.bind, Scan.lexer, Place.scan, isQuoted]
  simp [Place.noted, Lexer.push, queue]

theorem fetches_noted
    (fetch : ∀ taken ≤ read.length, ((place.scan mark allowed read).lexer taken).fetch =
      .ok ((place.noted mark allowed read token cursor after).lexer taken)) :
    (place.scan mark allowed read).Fetches
      (place.noted mark allowed read token cursor after) := by
  refine .of_grows fetch (List.prefix_append _ _) fun candidate among => .inl ?_
  simp only [Place.noted, Place.candidate, List.mem_singleton] at among
  split at among
  · obtain rfl := Option.some.inj among
    exact Nat.le_refl _
  · cases among

end Noted

/-! ## Names of fields -/

variable {text : List Char}

/-- The reading behind a name, in front of its colon. -/
def nameScan (text more : List Char) (place : Place) (mark : Mark) (read : List Token) : Scan :=
  place.noted mark true read
    ⟨.scalar (String.ofList text) true, mark, mark.forward text.length⟩
    ⟨':' :: more, mark.forward text.length⟩ false

theorem begins_of_isName (named : Lexer.isName text = true) (rest : List Char) :
    Begins (text ++ rest) := by
  cases text with
  | nil => cases named
  | cons c text =>
    have apart {other : Char} (isOther : (other.isAlphanum || other == '_') = false) : c ≠ other :=
      Lexer.ne_of_isName named List.mem_cons_self isOther
    exact Lexer.begins_cons (by simp [isBlank, isBreak, apart]) (apart (by decide))
      (apart (by decide)) (text ++ rest)

/-- The name of a field is read as a scalar, which may be a key. -/
theorem fetches_name (named : Lexer.isName text = true) (gap : isGap more.head? = true)
    (inside : indent ≤ column) {mark : Mark} (isColumn : mark.column = column)
    (read : List Token) :
    (Place.scan ⟨text ++ ':' :: more, column, indent, indents⟩ mark true read).Fetches
      (nameScan text more ⟨text ++ ':' :: more, column, indent, indents⟩ mark read) := by
  refine fetches_noted fun taken few => ?_
  obtain ⟨c, rest, isText⟩ : ∃ c rest, text = c :: rest :=
    List.exists_cons_of_ne_nil (by rintro rfl; cases named)
  have apart {other : Char} (isOther : (other.isAlphanum || other == '_') = false) : c ≠ other :=
    Lexer.ne_of_isName named (isText ▸ List.mem_cons_self) isOther
  have isReady := ready ⟨text ++ ':' :: more, column, indent, indents⟩
    (begins_of_isName named _) inside isColumn true read taken
  have here : ((Place.scan ⟨text ++ ':' :: more, column, indent, indents⟩ mark true read).lexer
      taken).cursor.rest = c :: (rest ++ ':' :: more) := by
    simp [Scan.lexer, Place.scan, isText]
  have noBoundary : ((Place.scan ⟨text ++ ':' :: more, column, indent, indents⟩ mark true
      read).lexer taken).cursor.atDocumentBoundary = false := by
    rw [Cursor.atDocumentBoundary,
      Cursor.atDocumentMark_of_ne here (apart (by decide)),
      Cursor.atDocumentMark_of_ne here (apart (by decide))]
    rfl
  rw [Lexer.fetch_plain isReady here noBoundary (by simp [isBlank, isBreak, apart])
    (by simp [isIndicator, apart]) (by simp [apart]) rfl]
  refine plainScalar_place ?_ ?_ few
  · exact isColumn
  · exact Lexer.plain_name named gap (indent + 1) mark

/-- The colon behind a name makes it a key. -/
theorem fetches_colon (gap : isGap more.head? = true) (short : text.length ≤ Lexer.keyLength)
    (inside : indent ≤ column) {mark : Mark} (isColumn : mark.column = column)
    (read : List Token) :
    (nameScan text more ⟨text ++ ':' :: more, column, indent, indents⟩ mark read).Fetches
      (Place.scan ⟨more, column + text.length + 1, column, opened column indent indents⟩
        ((mark.forward text.length).forward 1) false
        (read ++ (opening column indent ⟨.blockMappingStart, mark, mark⟩ ++
          [⟨.key, mark, mark⟩,
            ⟨.scalar (String.ofList text) true, mark, mark.forward text.length⟩,
            ⟨.value, mark.forward text.length, (mark.forward text.length).forward 1⟩]))) := by
  obtain ⟨middle, isMiddle⟩ : ∃ middle, middle =
    nameScan text more ⟨text ++ ':' :: more, column, indent, indents⟩ mark read := ⟨_, rfl⟩
  have fresh (taken : Nat) (candidate : Candidate) (among : some candidate ∈ middle.candidates) :
      candidate = ⟨indent == column, read.length, mark⟩ ∧
        (middle.lexer taken).isStale candidate = false := by
    simp only [isMiddle, nameScan, Place.noted, Place.candidate, if_true, List.mem_singleton,
      Option.some.injEq] at among
    subst among
    simpa [isMiddle, nameScan, Place.noted, Scan.lexer, Lexer.isStale, Mark.forward] using short
  have before (taken : Nat) (settled : middle.Settled taken) : taken ≤ read.length := by
    have among : some ⟨indent == column, read.length, mark⟩ ∈ middle.candidates := by
      simp [isMiddle, nameScan, Place.noted, Place.candidate]
    exact settled.2 _ among (fresh 0 _ among).2
  rw [← isMiddle]
  refine ⟨fun taken settled => ?_, fun number settled => ⟨?_, ?_⟩, fun number settled => ?_⟩
  · have few := before taken settled
    have isReady : (middle.lexer taken).Ready := by
      refine ⟨rfl, Lexer.settle_here ?_ (fun candidate among => (fresh taken candidate among).2)
        fun _ => ?_⟩
      · rw [isMiddle]
        exact Lexer.begins_cons (by decide) (by decide) (by decide) more
      · simp only [isMiddle, nameScan, Place.noted, Scan.lexer, Lexer.column, Mark.column_forward,
          isColumn]
        omega
    have queue (new : List Token) : (read ++ new).drop taken = read.drop taken ++ new :=
      List.drop_append_of_le_length few
    have length : (read.drop taken).length = read.length - taken := List.length_drop
    have isTaken (new : List Token) : (read.drop taken ++ new).take (read.length - taken) =
        read.drop taken := List.take_left' length
    have isLeft (new : List Token) : (read.drop taken ++ new).drop (read.length - taken) = new :=
      List.drop_left' length
    rw [Lexer.fetch_colon isReady (by rw [isMiddle]; rfl) gap, isMiddle,
      Lexer.valueMark]
    simp only [nameScan, Place.noted, Place.candidate, if_true, Scan.lexer, Lexer.candidate?,
      List.head?_cons, Option.join_some, Lexer.insert, queue, isTaken, isLeft, isColumn]
    rw [Lexer.openBlock_eq rfl inside]
    simp [isTaken, isLeft, queue, Lexer.setCandidate, Lexer.pushMark, Place.scan, Cursor.skip_cons]
  · have few := before number settled
    simp [Place.scan]
    omega
  · simp [Place.scan]
  · have few := before number settled
    rw [isMiddle]
    simp only [Place.scan, nameScan, Place.noted]
    rw [List.take_append_of_le_length few, List.take_append_of_le_length few]

/-- **The name of a field with its colon** is read, with the start of its block. -/
theorem of_name (named : Lexer.isName text = true) (short : text.length ≤ Lexer.keyLength)
    (gap : isGap more.head? = true) (inside : indent ≤ column)
    (leads : Leads all ⟨more, column + text.length + 1, column, opened column indent indents⟩ false
      (kinds ++ (opening column indent .blockMappingStart ++
        [.key, .scalar (String.ofList text) true, .value]))) :
    Leads all ⟨text ++ ':' :: more, column, indent, indents⟩ true kinds := by
  intro mark read isColumn isRead
  obtain ⟨tokens, reads, isAll⟩ := leads ((mark.forward text.length).forward 1)
    (read ++ (opening column indent ⟨.blockMappingStart, mark, mark⟩ ++
      [⟨.key, mark, mark⟩,
        ⟨.scalar (String.ofList text) true, mark, mark.forward text.length⟩,
        ⟨.value, mark.forward text.length, (mark.forward text.length).forward 1⟩]))
    (by simp [isColumn]; omega)
    (by simp only [List.map_append, isRead, opening]; split <;> rfl)
  have some : 0 < text.length := List.length_pos_iff.mpr (by rintro rfl; cases named)
  refine ⟨tokens, .step (fetches_name named gap inside isColumn read) ?_
    (.step (fetches_colon gap short inside isColumn read) ?_ reads), isAll⟩
  · simp [nameScan, Place.noted, Place.scan]
    omega
  · simp [nameScan, Place.noted, Place.scan]

/-! ## The end -/

/-- **The end of the text** ends the outermost block and the stream. -/
theorem of_end (isAll : all = kinds ++ [.blockEnd, .streamEnd]) :
    Leads all ⟨[], 0, 0, [-1]⟩ true kinds := by
  intro mark read isColumn isRead
  refine ⟨(Place.scan ⟨[], 0, -1, []⟩ mark false
    (read ++ [⟨.blockEnd, mark, mark⟩, ⟨.streamEnd, mark, mark⟩])).read,
    .last (.of_grows (fun taken few => ?_) (List.prefix_append _ _) ?_) ?_, ?_⟩
  · have isReady := ready ⟨[], 0, 0, [-1]⟩ nofun (by simp) isColumn true read taken
    have queue (new : List Token) : (read ++ new).drop taken = read.drop taken ++ new :=
      List.drop_append_of_le_length few
    rw [Lexer.fetch_end isReady rfl]
    simp [Lexer.streamEnd, Scan.lexer, Place.scan, isColumn, Lexer.closeBlocks, Lexer.inFlow,
      Lexer.deeper, Lexer.dropCandidate, Lexer.candidate?, Lexer.pushAt, Lexer.push, queue, bind,
      Except.bind]
  · simp [Place.scan]
  · simp [Place.scan]
  · simp [Place.scan, isRead, isAll]

end Leads

end PluginAudit.Yaml
