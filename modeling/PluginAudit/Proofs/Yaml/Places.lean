import PluginAudit.Proofs.Yaml.Cursor
import PluginAudit.Proofs.Yaml.Taking

/-!
# Places between tokens

Where nothing has been begun that could turn out to be a key, how the reading
goes on depends on what is left of the text, on the column, and on the blocks
around (`Place`), and the places of what has been read so far have no part in
it. The blanks and the end of a line in front of a token can be passed
beforehand (`Leads.of_blank`, `Leads.of_lineEnd`), and so can the end of a
block whose column is left (`Leads.of_close`).
-/

set_option autoImplicit false

namespace PluginAudit.Yaml

namespace Lexer

/-! ## Passing gaps -/

/-- What a token can begin with. -/
def Begins (rest : List Char) : Prop :=
  ∀ c ∈ rest.head?, (isBlank c || isBreak c) = false ∧ c ≠ '#' ∧ c ≠ '\uFEFF'

theorem begins_cons {c : Char} (noGap : (isBlank c || isBreak c) = false) (noComment : c ≠ '#')
    (noMark : c ≠ '\uFEFF') (rest : List Char) : Begins (c :: rest) := by
  intro d first
  obtain rfl : c = d := Option.some.inj first
  exact ⟨noGap, noComment, noMark⟩

variable {lexer : Lexer} {rest : List Char} {mark : Mark}

/-- The blanks in front of a token are passed. -/
theorem skipGap_blanks (begins : Begins rest) (count : Nat)
    (here : lexer.cursor = ⟨List.replicate count ' ' ++ rest, mark⟩) (fuel : Nat) :
    skipGap (fuel + 1) lexer = { lexer with cursor := ⟨rest, mark.forward count⟩ } := by
  have noMark : lexer.cursor.sees '\uFEFF' = false := by
    rw [here, Cursor.sees, Cursor.next?]
    cases count with
    | zero =>
      cases rest with
      | nil => rfl
      | cons c rest => simpa using (begins c rfl).2.2
    | succ count => rfl
  have passed (tabs : Bool) :
      lexer.cursor.skipWhile (fun c => c == ' ' || (tabs && c == '\t')) =
        ⟨rest, mark.forward count⟩ := by
    have taken := Cursor.takeWhile_append (fun c => c == ' ' || (tabs && c == '\t'))
      (List.replicate count ' ')
      (fun c among => by simp [(List.mem_replicate.mp among).2])
      (fun c first => by
        have noGap := (begins c first).1
        simp only [isBlank, Bool.or_eq_false_iff] at noGap
        simp [noGap]) mark
    rw [here, Cursor.skipWhile, taken, List.length_replicate]
  have noComment : (⟨rest, mark.forward count⟩ : Cursor).sees '#' = false := by
    cases rest with
    | nil => rfl
    | cons c rest => simpa [Cursor.sees, Cursor.next?] using (begins c rfl).2.1
  have noBreak : (⟨rest, mark.forward count⟩ : Cursor).next?.any isBreak = false := by
    cases rest with
    | nil => rfl
    | cons c rest => exact (Bool.or_eq_false_iff.mp (begins c rfl).1).2
  rw [skipGap]
  simp only [noMark, Bool.and_false, Bool.false_eq_true, if_false, passed, noComment, noBreak]

/-- The end of a line in front of a token is passed, with the indentation of the next. -/
theorem skipGap_lineEnd (begins : Begins rest) (outside : lexer.inFlow = false) {count : Nat}
    (here : lexer.cursor = ⟨'\n' :: (List.replicate count ' ' ++ rest), mark⟩) (fuel : Nat) :
    skipGap (fuel + 2) lexer =
      { lexer with
        cursor := ⟨rest, (Cursor.nextLine mark 1).forward count⟩
        keyAllowed := true } := by
  have noMark : lexer.cursor.sees '\uFEFF' = false := by
    rw [here]
    rfl
  have stays (tabs : Bool) :
      lexer.cursor.skipWhile (fun c => c == ' ' || (tabs && c == '\t')) = lexer.cursor := by
    cases tabs <;> rw [here] <;> rfl
  have noComment : lexer.cursor.sees '#' = false := by
    rw [here]
    rfl
  have isEnd : lexer.cursor.next?.any isBreak = true := by
    rw [here]
    rfl
  have behind : lexer.cursor.skipBreak =
      ⟨List.replicate count ' ' ++ rest, Cursor.nextLine mark 1⟩ := by
    rw [here]
    rfl
  rw [skipGap]
  simp only [noMark, Bool.and_false, Bool.false_eq_true, if_false, stays, noComment, isEnd, if_true,
    behind, outside, Bool.not_false, Bool.or_true]
  rw [skipGap_blanks begins count rfl]

/-! ## Coming to the next token -/

/-- The reading brought to a place behind a gap, where no key has been begun any more. -/
theorem settle_of_skipGap {cursor : Cursor} {allowed : Bool}
    (passed : skipGap (lexer.cursor.rest.length + 1) lexer =
      { lexer with cursor := cursor, keyAllowed := allowed })
    {candidate : Option Candidate} (one : lexer.candidates = [candidate])
    (given : ∀ known ∈ candidate, known.required = false ∧ known.mark.line < cursor.mark.line) :
    lexer.settle = .ok (({ lexer with
      cursor := cursor
      keyAllowed := allowed
      candidates := [none] } : Lexer).closeBlocks cursor.mark.column) := by
  have dropped : ({ lexer with cursor := cursor, keyAllowed := allowed } : Lexer).dropStale =
      .ok { lexer with cursor := cursor, keyAllowed := allowed, candidates := [none] } := by
    refine dropStale_ok_iff.mpr ⟨fun known among _ => ?_, ?_⟩
    · rw [one, List.mem_singleton] at among
      exact (given known among.symm).1
    · rw [one, List.map_singleton]
      cases candidate with
      | none => rfl
      | some known =>
        simp [Option.filter_some, isStale, (given known rfl).2]
  rw [settle, passed, dropped]
  rfl

/-- The reading stands at the start of a token, and nothing has to be given up or closed. -/
theorem settle_here (begins : Begins lexer.cursor.rest)
    (fresh : ∀ candidate, some candidate ∈ lexer.candidates → lexer.isStale candidate = false)
    (inside : lexer.inFlow = false → lexer.indent ≤ lexer.column) :
    lexer.settle = .ok lexer := by
  have stays : skipGap (lexer.cursor.rest.length + 1) lexer = lexer :=
    skipGap_blanks begins 0 rfl _
  have kept : lexer.dropStale = .ok lexer := by
    refine dropStale_ok_iff.mpr ⟨fun candidate among stale => ?_, ?_⟩
    · rw [fresh candidate among] at stale
      cases stale
    · have same : lexer.candidates.map (Option.filter fun candidate => !lexer.isStale candidate) =
          lexer.candidates := by
        refine (List.map_congr_left fun first among => ?_).trans (List.map_id _)
        cases first with
        | none => rfl
        | some candidate => simp [Option.filter_some, fresh candidate among]
      rw [same]
  have closed : lexer.closeBlocks lexer.column = lexer := by
    unfold closeBlocks
    split
    · rfl
    · next outside =>
      have notDeeper : deeper lexer.column lexer.indent lexer.indents =
          (0, lexer.indent, lexer.indents) := by
        have shallow := inside (by simpa using outside)
        cases lexer.indents <;> simp [deeper, shallow]
      rw [notDeeper]
      simp
  rw [settle, stays, kept]
  exact congrArg Except.ok closed

/-- Between two places there is nothing but a gap with the start of a line, where a key may start.
-/
def Passes (first : Cursor) (allowed : Bool) (behind : Cursor) : Prop :=
  ∀ lexer : Lexer, lexer.cursor = first → lexer.keyAllowed = allowed → lexer.inFlow = false →
    skipGap (first.rest.length + 1) lexer =
      { lexer with cursor := behind, keyAllowed := true }

theorem passes_here (begins : Begins rest) : Passes ⟨rest, mark⟩ true ⟨rest, mark⟩ := by
  intro lexer here isAllowed _
  rw [skipGap_blanks begins 0 here, ← isAllowed]
  rfl

theorem passes_lineEnd (begins : Begins rest) (count : Nat) (allowed : Bool) :
    Passes ⟨'\n' :: (List.replicate count ' ' ++ rest), mark⟩ allowed
      ⟨rest, (Cursor.nextLine mark 1).forward count⟩ := by
  intro lexer here _ outside
  exact skipGap_lineEnd begins outside here _

end Lexer

/-! ## Places -/

/-- Where the reading stands when no key has been begun: what is left of the text, the column, and
the columns of the blocks around. -/
structure Place where
  rest : List Char
  column : Nat
  indent : Int
  indents : List Int

/-- The reading that stands at a place. -/
def Place.scan (place : Place) (mark : Mark) (allowed : Bool) (read : List Token) : Scan where
  cursor := ⟨place.rest, mark⟩
  indent := place.indent
  indents := place.indents
  keyAllowed := allowed
  candidates := [none]
  read := read

namespace Scan

variable {scan other : Scan} {tokens : List Token}

/-- **Reading goes on from another place alike** if the next token starts alike there. -/
theorem Reads.of_settle (reads : other.Reads tokens) (noCandidate : other.candidates = [none])
    (grows : scan.read <+: other.read)
    (shorter : other.cursor.rest.length ≤ scan.cursor.rest.length)
    (settles : ∀ taken ≤ scan.read.length,
      (scan.lexer taken).settle = (other.lexer taken).settle) : scan.Reads tokens := by
  have settled (number : Nat) (settled : scan.Settled number) : other.Settled number := by
    refine ⟨Nat.le_trans settled.1 grows.length_le, fun candidate among => ?_⟩
    rw [noCandidate, List.mem_singleton] at among
    cases among
  have fetches {after : Scan} (fetches : other.Fetches after) : scan.Fetches after := by
    refine ⟨fun taken ready => ?_,
      fun number ready => fetches.settled number (settled number ready),
      fun number ready => ?_⟩
    · rw [← fetches.fetch taken (settled taken ready)]
      exact Lexer.fetch_congr rfl rfl (settles taken ready.1)
    · obtain ⟨more, isRead⟩ := grows
      rw [fetches.keeps number (settled number ready), ← isRead,
        List.take_append_of_le_length ready.1]
  cases reads with
  | last first none => exact .last (fetches first) none
  | step first fewer more => exact .step (fetches first) (by omega) more

end Scan

/-- From a place, behind tokens of some kinds, the reading leads to tokens of given kinds. -/
def Leads (all : List Token.Kind) (place : Place) (allowed : Bool) (kinds : List Token.Kind) :
    Prop :=
  ∀ (mark : Mark) (read : List Token), mark.column = place.column →
    read.map Token.kind = kinds →
      ∃ tokens, (place.scan mark allowed read).Reads tokens ∧ tokens.map Token.kind = all

namespace Leads

open Lexer (Begins)

variable {all kinds : List Token.Kind} {rest : List Char} {column : Nat} {indent : Int}
  {indents : List Int} {allowed : Bool}

/-- A blank in front of a token is passed. -/
theorem of_blank (begins : Begins rest)
    (leads : Leads all ⟨rest, column + 1, indent, indents⟩ allowed kinds) :
    Leads all ⟨' ' :: rest, column, indent, indents⟩ allowed kinds := by
  intro mark read isColumn isRead
  obtain ⟨tokens, reads, isAll⟩ := leads (mark.forward 1) read (by simp [isColumn]) isRead
  refine ⟨tokens, reads.of_settle rfl (List.prefix_refl _) (by simp [Place.scan]) fun taken _ => ?_,
    isAll⟩
  rw [Lexer.settle_of_skipGap (Lexer.skipGap_blanks begins 1 rfl _) rfl (by simp),
    Lexer.settle_of_skipGap (Lexer.skipGap_blanks begins 0 rfl _) rfl (by simp)]
  rfl

/-- **A gap with the start of a line** in front of a token is passed, and a key that was begun
before is given up. -/
theorem of_passes (scan : Scan) (leads : Leads all ⟨rest, column, indent, indents⟩ true kinds)
    (begins : Begins rest) {behind : Cursor}
    (passes : Lexer.Passes scan.cursor scan.keyAllowed behind) (isRest : behind.rest = rest)
    (isColumn : behind.mark.column = column) (isIndent : scan.indent = indent)
    (isIndents : scan.indents = indents) {candidate : Option Candidate}
    (one : scan.candidates = [candidate])
    (given : ∀ known ∈ candidate, known.required = false ∧ known.mark.line < behind.mark.line)
    (shorter : behind.rest.length ≤ scan.cursor.rest.length)
    (isRead : scan.read.map Token.kind = kinds) :
    ∃ tokens, scan.Reads tokens ∧ tokens.map Token.kind = all := by
  obtain ⟨rest, mark⟩ := behind
  obtain rfl := isRest
  obtain rfl := isIndent
  obtain rfl := isIndents
  obtain ⟨tokens, reads, isAll⟩ := leads mark scan.read isColumn isRead
  have outside (taken : Nat) : (scan.lexer taken).inFlow = false := by
    simp [Scan.lexer, Lexer.inFlow, one]
  refine ⟨tokens, reads.of_settle rfl (List.prefix_refl _) shorter fun taken _ => ?_, isAll⟩
  rw [Lexer.settle_of_skipGap (passes _ rfl rfl (outside taken)) one given,
    Lexer.settle_of_skipGap (Lexer.passes_here begins _ rfl rfl rfl) rfl (by simp)]
  rfl

/-- The end of a line in front of a token is passed. -/
theorem of_lineEnd (begins : Begins rest)
    (leads : Leads all ⟨rest, column, indent, indents⟩ true kinds) (before : Nat) :
    Leads all ⟨'\n' :: (List.replicate column ' ' ++ rest), before, indent, indents⟩ allowed
      kinds := by
  intro mark read _ isRead
  refine leads.of_passes _ begins (Lexer.passes_lineEnd begins column _)
      rfl ?_ rfl rfl rfl (by simp)
    (by simp [Place.scan]; omega) isRead
  simp [Cursor.nextLine]

/-- **The end of a block** whose column is left can be read beforehand. -/
theorem of_close (begins : Begins rest) {outer : Int} {indents : List Int}
    (left : (column : Int) < indent)
    (leads : Leads all ⟨rest, column, outer, indents⟩ true (kinds ++ [.blockEnd])) :
    Leads all ⟨rest, column, indent, outer :: indents⟩ true kinds := by
  intro mark read isColumn isRead
  obtain ⟨tokens, reads, isAll⟩ := leads mark (read ++ [⟨.blockEnd, mark, mark⟩]) isColumn
    (by simp [isRead])
  refine ⟨tokens, reads.of_settle rfl (List.prefix_append _ _) (Nat.le_refl _) fun taken few => ?_,
    isAll⟩
  rw [Lexer.settle_of_skipGap (Lexer.passes_here begins _ rfl rfl rfl) rfl (by simp),
    Lexer.settle_of_skipGap (Lexer.passes_here begins _ rfl rfl rfl) rfl (by simp)]
  have dropped : (read ++ [(⟨.blockEnd, mark, mark⟩ : Token)]).drop taken =
      read.drop taken ++ [⟨.blockEnd, mark, mark⟩] := List.drop_append_of_le_length few
  simp [Lexer.closeBlocks, Lexer.inFlow, Scan.lexer, Place.scan, Lexer.deeper, isColumn, left,
    dropped, List.replicate_succ]

end Leads

end PluginAudit.Yaml
