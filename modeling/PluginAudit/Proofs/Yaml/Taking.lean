import Mathlib.Tactic.Common
import PluginAudit.Yaml.Lexer.Basic

/-!
# Tokens that are taken one by one

Tokens are handed out as soon as no key can be put in before them any more, and
only then is the next one read. What has been handed out has no influence on
what is read, so the reading can be told without it, by the tokens that have
been read so far (`Scan`), and the tokens of a text are those that have been
read at its end (`tokens_of_reads`).
-/

set_option autoImplicit false

namespace PluginAudit.Yaml

namespace Lexer

/-! ## Candidates that are out of reach -/

theorem keptCandidates_cons {lexer : Lexer} {first : Option Candidate}
    {outer kept : List (Option Candidate)} :
    lexer.keptCandidates (first :: outer) = .ok kept ↔
      ∃ rest, lexer.keptCandidates outer = .ok rest ∧
        (∀ candidate ∈ first, lexer.isStale candidate = true → candidate.required = false) ∧
        kept = first.filter (fun candidate => !lexer.isStale candidate) :: rest := by
  cases first with
  | none =>
    rw [keptCandidates]
    cases lexer.keptCandidates outer with
    | error fault => simp [bind, Except.bind]
    | ok rest => simpa [bind, Except.bind] using eq_comm
  | some candidate =>
    rw [keptCandidates]
    cases lexer.keptCandidates outer with
    | error fault => simp [bind, Except.bind]
    | ok rest =>
      cases stale : lexer.isStale candidate <;> cases required : candidate.required <;>
        simp [bind, Except.bind, Option.filter_some, stale, required, @eq_comm _ kept]

/-- **The candidates in reach are kept,** if none had to become a key of those that are not. -/
theorem keptCandidates_ok_iff {lexer : Lexer} {candidates kept : List (Option Candidate)} :
    lexer.keptCandidates candidates = .ok kept ↔
      (∀ candidate, some candidate ∈ candidates → lexer.isStale candidate = true →
        candidate.required = false) ∧
      kept = candidates.map (Option.filter fun candidate => !lexer.isStale candidate) := by
  induction candidates generalizing kept with
  | nil =>
    rw [keptCandidates, Except.ok.injEq]
    constructor
    · rintro rfl
      exact ⟨nofun, rfl⟩
    · rintro ⟨-, rfl⟩
      rfl
  | cons first outer ih =>
    rw [keptCandidates_cons]
    simp only [ih, List.mem_cons, List.map_cons]
    constructor
    · rintro ⟨rest, ⟨behind, rfl⟩, here, rfl⟩
      refine ⟨?_, rfl⟩
      rintro candidate (isFirst | among)
      · exact here candidate isFirst.symm
      · exact behind candidate among
    · rintro ⟨all, rfl⟩
      exact ⟨_, ⟨fun candidate among => all candidate (.inr among), rfl⟩,
        fun candidate isFirst => all candidate (.inl isFirst.symm), rfl⟩

/-- Whether one mark is not before another. -/
def Onward (earlier later : Mark) : Prop :=
  earlier.line ≤ later.line ∧ earlier.index ≤ later.index

theorem Onward.trans {first second third : Mark} (earlier : Onward first second)
    (later : Onward second third) : Onward first third :=
  ⟨Nat.le_trans earlier.1 later.1, Nat.le_trans earlier.2 later.2⟩

theorem onward_skip (cursor : Cursor) (count : Nat) :
    Onward cursor.mark (cursor.skip count).mark := ⟨Nat.le_refl _, Nat.le_add_right _ _⟩

theorem onward_skipBreak (cursor : Cursor) : Onward cursor.mark cursor.skipBreak.mark := by
  unfold Cursor.skipBreak Cursor.takeBreak
  split
  · exact ⟨Nat.le_succ _, Nat.le_add_right _ _⟩
  · split
    · exact ⟨Nat.le_succ _, Nat.le_add_right _ _⟩
    · exact ⟨Nat.le_refl _, Nat.le_refl _⟩
  · exact ⟨Nat.le_refl _, Nat.le_refl _⟩

/-- What is out of reach stays so. -/
theorem isStale_onward {earlier later : Lexer} {candidate : Candidate}
    (onward : Onward earlier.cursor.mark later.cursor.mark)
    (stale : earlier.isStale candidate = true) : later.isStale candidate = true := by
  obtain ⟨line, index⟩ := onward
  simp only [isStale, Bool.or_eq_true, decide_eq_true_eq] at stale ⊢
  omega

/-! ## Coming to the next token -/

/-- What is left of a line behind blanks and a comment. -/
def lineRest (cursor : Cursor) (inFlow keyAllowed : Bool) : Cursor :=
  let cursor := if cursor.mark.index == 0 && cursor.sees '\uFEFF' then cursor.skip else cursor
  let cursor := cursor.skipWhile fun c => c == ' ' || ((inFlow || !keyAllowed) && c == '\t')
  if cursor.sees '#' then cursor.skipWhile fun c => !isBreak c else cursor

theorem onward_lineRest (cursor : Cursor) (inFlow keyAllowed : Bool) :
    Onward cursor.mark (lineRest cursor inFlow keyAllowed).mark := by
  have passed (cursor : Cursor) (test : Char → Bool) :
      Onward cursor.mark (cursor.skipWhile test).mark := onward_skip cursor _
  have start : Onward cursor.mark
      (if cursor.mark.index == 0 && cursor.sees '\uFEFF' then cursor.skip else cursor).mark := by
    split
    · exact onward_skip cursor 1
    · exact ⟨Nat.le_refl _, Nat.le_refl _⟩
  unfold lineRest
  dsimp only
  refine start.trans ?_
  generalize (if cursor.mark.index == 0 && cursor.sees '\uFEFF' then cursor.skip else cursor)
    = first
  refine (passed first fun c => c == ' ' || ((inFlow || !keyAllowed) && c == '\t')).trans ?_
  split
  · exact passed _ _
  · exact ⟨Nat.le_refl _, Nat.le_refl _⟩

/-- What stands between tokens is passed alike whatever has been read and taken. -/
theorem skipGap_eq (fuel : Nat) (lexer : Lexer) :
    ∃ cursor allowed, Onward lexer.cursor.mark cursor.mark ∧ ∀ other : Lexer,
      other.cursor = lexer.cursor → other.keyAllowed = lexer.keyAllowed →
      other.inFlow = lexer.inFlow →
      skipGap fuel other = { other with cursor := cursor, keyAllowed := allowed } := by
  induction fuel generalizing lexer with
  | zero =>
    refine ⟨lexer.cursor, lexer.keyAllowed, ⟨Nat.le_refl _, Nat.le_refl _⟩, ?_⟩
    intro other sameCursor sameAllowed _
    rw [skipGap, ← sameCursor, ← sameAllowed]
  | succ fuel ih =>
    obtain ⟨cursor, isCursor⟩ :
        ∃ cursor, cursor = lineRest lexer.cursor lexer.inFlow lexer.keyAllowed :=
      ⟨_, rfl⟩
    have onward : Onward lexer.cursor.mark cursor.mark := isCursor ▸ onward_lineRest _ _ _
    have step (other : Lexer) (sameCursor : other.cursor = lexer.cursor)
        (sameAllowed : other.keyAllowed = lexer.keyAllowed)
        (sameFlow : other.inFlow = lexer.inFlow) :
        skipGap (fuel + 1) other =
          if cursor.next?.any isBreak then
            skipGap fuel { other with
              cursor := cursor.skipBreak
              keyAllowed := other.keyAllowed || !other.inFlow }
          else { other with cursor := cursor } := by
      rw [skipGap, isCursor, ← sameCursor, ← sameAllowed, ← sameFlow]
      rfl
    cases ends : cursor.next?.any isBreak with
    | false =>
      refine ⟨cursor, lexer.keyAllowed, onward, fun other sameCursor sameAllowed sameFlow => ?_⟩
      rw [step other sameCursor sameAllowed sameFlow, ends, ← sameAllowed]
      rfl
    | true =>
      obtain ⟨goal, allowed, further, same⟩ := ih { lexer with
        cursor := cursor.skipBreak
        keyAllowed := lexer.keyAllowed || !lexer.inFlow }
      refine ⟨goal, allowed, onward.trans ((onward_skipBreak cursor).trans further), ?_⟩
      intro other sameCursor sameAllowed sameFlow
      rw [step other sameCursor sameAllowed sameFlow, ends, if_pos rfl]
      refine same _ rfl ?_ sameFlow
      dsimp only
      rw [sameAllowed, sameFlow]

/-- The reading brought to the start of the next token. -/
def settle (lexer : Lexer) : Except Fault Lexer :=
  (skipGap (lexer.cursor.rest.length + 1) lexer).dropStale.map fun lexer =>
    lexer.closeBlocks lexer.column

/-- What is read next depends on the start of the next token alone. -/
theorem fetch_congr {lexer other : Lexer} (started : lexer.started = true)
    (started' : other.started = true) (same : lexer.settle = other.settle) :
    lexer.fetch = other.fetch := by
  unfold fetch
  unfold settle at same
  rw [started, started']
  simp only [Bool.not_true, Bool.false_eq_true, if_false]
  cases here : (skipGap (lexer.cursor.rest.length + 1) lexer).dropStale <;>
    cases there : (skipGap (other.cursor.rest.length + 1) other).dropStale <;>
    rw [here, there] at same
  · rw [Except.error.inj same]
  · cases same
  · cases same
  · have equal := Except.ok.inj same
    dsimp only at equal
    simp only [bind, Except.bind, equal]

theorem dropStale_ok_iff {lexer dropped : Lexer} :
    lexer.dropStale = .ok dropped ↔
      (∀ candidate, some candidate ∈ lexer.candidates → lexer.isStale candidate = true →
        candidate.required = false) ∧
      dropped = { lexer with
        candidates := lexer.candidates.map (Option.filter fun candidate =>
          !lexer.isStale candidate) } := by
  rw [dropStale]
  cases kept : lexer.keptCandidates lexer.candidates with
  | error fault =>
    have refused : ¬ ∃ kept, lexer.keptCandidates lexer.candidates = .ok kept := by simp [kept]
    simp only [keptCandidates_ok_iff] at refused
    simp only [bind, Except.bind, reduceCtorEq, false_iff, not_and]
    exact fun all => absurd ⟨_, all, rfl⟩ refused
  | ok candidates =>
    obtain ⟨all, rfl⟩ := keptCandidates_ok_iff.mp kept
    simp only [bind, Except.bind, Except.ok.injEq]
    exact ⟨fun same => ⟨all, same.symm⟩, fun both => both.2.symm⟩

/-- Giving up candidates that are out of reach twice is giving them up once. -/
theorem dropStale_dropStale {lexer dropped : Lexer} (ran : lexer.dropStale = .ok dropped) :
    dropped.dropStale = .ok dropped := by
  obtain ⟨-, rfl⟩ := dropStale_ok_iff.mp ran
  refine dropStale_ok_iff.mpr ⟨fun candidate among stale => ?_, ?_⟩
  · obtain ⟨first, -, isKept⟩ := List.mem_map.mp among
    have fresh := (Option.filter_eq_some_iff.mp isKept).2
    rw [Bool.not_eq_true'] at fresh
    exact absurd (stale.symm.trans fresh) (by decide)
  · rw [List.map_map]
    congr 1
    refine List.map_congr_left fun candidate _ => ?_
    cases candidate with
    | none => rfl
    | some candidate =>
      cases stale : lexer.isStale candidate <;> simp [Option.filter_some, stale]
      exact stale

/-- **Candidates can be given up before the next token is read** as well as when it is. -/
theorem fetch_of_dropStale {lexer after : Lexer} (started : lexer.started = true)
    (ran : lexer.fetch = .ok after) :
    ∃ dropped, lexer.dropStale = .ok dropped ∧ dropped.fetch = .ok after := by
  obtain ⟨cursor, allowed, onward, skips⟩ := skipGap_eq (lexer.cursor.rest.length + 1) lexer
  have skipped := skips lexer rfl rfl rfl
  have later {candidate : Candidate} (stale : lexer.isStale candidate = true) :
      (skipGap (lexer.cursor.rest.length + 1) lexer).isStale candidate = true := by
    refine isStale_onward ?_ stale
    rw [skipped]
    exact onward
  obtain ⟨reached, isReached⟩ :
      ∃ reached, (skipGap (lexer.cursor.rest.length + 1) lexer).dropStale = .ok reached := by
    cases result : (skipGap (lexer.cursor.rest.length + 1) lexer).dropStale with
    | ok reached => exact ⟨reached, rfl⟩
    | error fault =>
      rw [fetch, started] at ran
      simp [result, bind, Except.bind] at ran
  obtain ⟨all, rfl⟩ := dropStale_ok_iff.mp isReached
  have dropped : lexer.dropStale = _ := dropStale_ok_iff.mpr
    ⟨fun candidate among stale => all candidate (by rwa [skipped]) (later stale), rfl⟩
  refine ⟨_, dropped, ran ▸ fetch_congr started started ?_⟩
  unfold settle
  refine congrArg (Except.map _) ((dropStale_ok_iff.mpr ?_).trans isReached.symm)
  rw [skips { lexer with candidates := lexer.candidates.map (Option.filter fun candidate =>
    !lexer.isStale candidate) } rfl rfl (by simp [inFlow]), skipped]
  rw [skipped] at all later
  dsimp only
  refine ⟨fun candidate among stale => ?_, ?_⟩
  · obtain ⟨first, isFirst, isKept⟩ := List.mem_map.mp among
    obtain ⟨rfl, -⟩ := Option.filter_eq_some_iff.mp isKept
    exact all candidate isFirst stale
  · rw [List.map_map]
    congr 1
    refine List.map_congr_left fun candidate _ => ?_
    cases candidate with
    | none => rfl
    | some candidate =>
      cases stale : lexer.isStale candidate with
      | false =>
        have kept : Option.filter (fun candidate => !lexer.isStale candidate) (some candidate) =
            some candidate := by
          rw [Option.filter_some, stale]
          rfl
        rw [Function.comp_apply, kept]
        rfl
      | true =>
        have := later stale
        simp [Option.filter_some, stale, this]

end Lexer

/-! ## Reading without taking -/

/-- Where the reading of a text stands, told by all tokens that have been read. -/
structure Scan where
  cursor : Cursor
  indent : Int
  indents : List Int
  keyAllowed : Bool
  candidates : List (Option Candidate)
  read : List Token

namespace Scan

/-- The reading in which so many of the tokens have been taken. -/
def lexer (scan : Scan) (taken : Nat) : Lexer where
  cursor := scan.cursor
  started := true
  indent := scan.indent
  indents := scan.indents
  keyAllowed := scan.keyAllowed
  candidates := scan.candidates
  queue := scan.read.drop taken
  taken := taken

/-- So many tokens can be taken: no key can be put in before them any more. -/
def Settled (scan : Scan) (number : Nat) : Prop :=
  number ≤ scan.read.length ∧ ∀ candidate, some candidate ∈ scan.candidates →
    (scan.lexer 0).isStale candidate = false → number ≤ candidate.number

/-- The next token is read, whatever has been taken. -/
structure Fetches (scan after : Scan) : Prop where
  fetch : ∀ taken, scan.Settled taken → (scan.lexer taken).fetch = .ok (after.lexer taken)
  settled : ∀ number, scan.Settled number → after.Settled number
  keeps : ∀ number, scan.Settled number → after.read.take number = scan.read.take number

/-- The tokens that have been read at the end of the text. -/
inductive Reads : Scan → List Token → Prop where
  | last {scan after : Scan} (fetches : scan.Fetches after)
      (noCandidate : ∀ candidate, some candidate ∉ after.candidates) : Reads scan after.read
  | step {scan after : Scan} {tokens : List Token} (fetches : scan.Fetches after)
      (shorter : after.cursor.rest.length < scan.cursor.rest.length) (more : Reads after tokens) :
      Reads scan tokens

/-- The reading has come to the end of the text, or will. -/
def Ends (scan : Scan) (tokens : List Token) : Prop :=
  scan.Reads tokens ∨ scan.read = tokens ∧ ∀ candidate, some candidate ∉ scan.candidates

/-- The reading stands somewhere, perhaps with candidates given up already. -/
def Stands (scan : Scan) (taken : Nat) (lexer : Lexer) : Prop :=
  lexer = scan.lexer taken ∨ (scan.lexer taken).dropStale = .ok lexer

variable {scan : Scan} {tokens : List Token} {taken : Nat} {lexer : Lexer}

theorem Ends.keeps (ends : scan.Ends tokens) {number : Nat} (settled : scan.Settled number) :
    tokens.take number = scan.read.take number ∧ number ≤ tokens.length := by
  rcases ends with reads | ⟨rfl, -⟩
  · induction reads with
    | last fetches _ => exact ⟨fetches.keeps _ settled, (fetches.settled _ settled).1⟩
    | step fetches _ _ ih =>
      obtain ⟨same, bound⟩ := ih (fetches.settled _ settled)
      exact ⟨same.trans (fetches.keeps _ settled), bound⟩
  · exact ⟨rfl, settled.1⟩

/-- The candidates that are in reach can be told, since none that is not had to become a key. -/
theorem Ends.dropStale (ends : scan.Ends tokens) (settled : scan.Settled taken)
    (stands : scan.Stands taken lexer) :
    ∃ dropped, (scan.lexer taken).dropStale = .ok dropped ∧ lexer.dropStale = .ok dropped := by
  obtain ⟨dropped, ran⟩ : ∃ dropped, (scan.lexer taken).dropStale = .ok dropped := by
    rcases ends with (⟨fetches, -⟩ | ⟨fetches, -, -⟩) | ⟨-, noCandidate⟩
    · obtain ⟨dropped, ran, -⟩ := Lexer.fetch_of_dropStale rfl (fetches.fetch taken settled)
      exact ⟨dropped, ran⟩
    · obtain ⟨dropped, ran, -⟩ := Lexer.fetch_of_dropStale rfl (fetches.fetch taken settled)
      exact ⟨dropped, ran⟩
    · exact ⟨_, Lexer.dropStale_ok_iff.mpr
        ⟨fun candidate among => absurd among (noCandidate candidate), rfl⟩⟩
  rcases stands with rfl | given
  · exact ⟨dropped, ran, ran⟩
  · obtain rfl := Except.ok.inj (given.symm.trans ran)
    exact ⟨lexer, ran, Lexer.dropStale_dropStale ran⟩

/-- The next token is read alike with candidates given up already. -/
theorem Fetches.of_stands {after : Scan} (fetches : scan.Fetches after)
    (settled : scan.Settled taken) (stands : scan.Stands taken lexer) :
    lexer.fetch = .ok (after.lexer taken) := by
  have ran := fetches.fetch taken settled
  rcases stands with rfl | given
  · exact ran
  · obtain ⟨dropped, isDropped, same⟩ := Lexer.fetch_of_dropStale rfl ran
    obtain rfl := Except.ok.inj (given.symm.trans isDropped)
    exact same

theorem Stands.queue_eq (stands : scan.Stands taken lexer) :
    lexer.queue = scan.read.drop taken := by
  rcases stands with rfl | given
  · rfl
  · obtain ⟨-, rfl⟩ := Lexer.dropStale_ok_iff.mp given
    rfl

/-- A token that is not asked for more can be taken. -/
theorem Settled.succ (settled : scan.Settled taken) {dropped : Lexer}
    (ran : (scan.lexer taken).dropStale = .ok dropped) (enough : dropped.needsMore = false) :
    scan.Settled (taken + 1) := by
  obtain ⟨-, rfl⟩ := Lexer.dropStale_ok_iff.mp ran
  simp only [Lexer.needsMore, Bool.or_eq_false_iff, lexer, List.isEmpty_eq_false_iff,
    List.any_eq_false, ne_eq, List.drop_eq_nil_iff, Nat.not_le] at enough
  refine ⟨enough.1, fun candidate among fresh => ?_⟩
  have kept : Option.filter (fun candidate => !(scan.lexer taken).isStale candidate)
      (some candidate) = some candidate := by
    rw [Option.filter_some, show (scan.lexer taken).isStale candidate = false from fresh]
    rfl
  have other := enough.2 (some candidate) (List.mem_map.mpr ⟨_, among, kept⟩)
  simp only [Option.any_some, beq_iff_eq] at other
  have reached := settled.2 candidate among fresh
  omega

/-- The next token is handed out at once, or one more has to be read before. -/
theorem Ends.fill_cases (ends : scan.Ends tokens) (settled : scan.Settled taken)
    (stands : scan.Stands taken lexer) (fuel : Nat) :
    (∃ filled, Lexer.fill (fuel + 1) lexer = .ok filled ∧ scan.Stands taken filled ∧
      scan.Settled (taken + 1)) ∨
    ((scan.read.length ≤ taken ∨ ∃ candidate, some candidate ∈ scan.candidates) ∧
      ∃ other, scan.Stands taken other ∧
        Lexer.fill (fuel + 1) lexer = other.fetch.bind (Lexer.fill fuel)) := by
  obtain ⟨dropped, ran, same⟩ := ends.dropStale settled stands
  cases empty : lexer.queue.isEmpty with
  | true =>
    refine .inr ⟨.inl ?_, lexer, stands, ?_⟩
    · rwa [stands.queue_eq, List.isEmpty_iff, List.drop_eq_nil_iff] at empty
    · rw [Lexer.fill, empty]
      rfl
  | false =>
    cases more : dropped.needsMore with
    | false =>
      refine .inl ⟨dropped, ?_, .inr ran, settled.succ ran more⟩
      simp [Lexer.fill, empty, same, more, bind, Except.bind]
    | true =>
      refine .inr ⟨?_, dropped, .inr ran, ?_⟩
      · obtain ⟨-, rfl⟩ := Lexer.dropStale_ok_iff.mp ran
        simp only [Lexer.needsMore, Bool.or_eq_true, Scan.lexer, List.isEmpty_iff,
          List.drop_eq_nil_iff, List.any_eq_true, List.mem_map] at more
        refine more.imp_right ?_
        rintro ⟨_, ⟨candidate, among, rfl⟩, isNumber⟩
        cases candidate with
        | none => cases isNumber
        | some candidate => exact ⟨candidate, among⟩
      · simp [Lexer.fill, empty, same, more, bind, Except.bind]

/-- **What is read before a token is handed out** leads on to the same end. -/
theorem Ends.fill (ends : scan.Ends tokens) (settled : scan.Settled taken)
    (stands : scan.Stands taken lexer) (notAll : taken < tokens.length) {fuel : Nat}
    (enough : scan.cursor.rest.length + 2 ≤ fuel) :
    ∃ (after : Scan) (filled : Lexer), Lexer.fill fuel lexer = .ok filled ∧ after.Ends tokens ∧
      after.Stands taken filled ∧ after.Settled (taken + 1) := by
  obtain ⟨fuel, rfl⟩ : ∃ more, fuel = more + 1 := ⟨fuel - 1, by omega⟩
  have atEnd {scan : Scan} {lexer : Lexer} (settled : scan.Settled taken)
      (stands : scan.Stands taken lexer) (isEnd : scan.read = tokens)
      (noCandidate : ∀ candidate, some candidate ∉ scan.candidates) (fuel : Nat) :
      ∃ (after : Scan) (filled : Lexer), Lexer.fill (fuel + 1) lexer = .ok filled ∧
        after.Ends tokens ∧ after.Stands taken filled ∧ after.Settled (taken + 1) := by
    have ends : scan.Ends tokens := .inr ⟨isEnd, noCandidate⟩
    rcases ends.fill_cases settled stands fuel with ⟨filled, ran, still, next⟩ | ⟨reason, -⟩
    · exact ⟨scan, filled, ran, ends, still, next⟩
    · rcases reason with all | ⟨candidate, among⟩
      · rw [isEnd] at all
        omega
      · exact absurd among (noCandidate candidate)
  rcases ends with reads | ⟨isEnd, noCandidate⟩
  · induction reads generalizing fuel lexer with
    | @last scan after fetches noCandidate =>
      have ends : scan.Ends after.read := .inl (.last fetches noCandidate)
      rcases ends.fill_cases settled stands fuel with
        ⟨filled, ran, still, next⟩ | ⟨-, other, still, ran⟩
      · exact ⟨scan, filled, ran, ends, still, next⟩
      · rw [ran, fetches.of_stands settled still]
        obtain ⟨fuel, rfl⟩ : ∃ more, fuel = more + 1 := ⟨fuel - 1, by omega⟩
        exact atEnd (fetches.settled _ settled) (.inl rfl) rfl noCandidate fuel
    | @step scan after tokens fetches shorter more ih =>
      have ends : scan.Ends tokens := .inl (.step fetches shorter more)
      rcases ends.fill_cases settled stands fuel with
        ⟨filled, ran, still, next⟩ | ⟨-, other, still, ran⟩
      · exact ⟨scan, filled, ran, ends, still, next⟩
      · rw [ran, fetches.of_stands settled still]
        obtain ⟨fuel, rfl⟩ : ∃ more, fuel = more + 1 := ⟨fuel - 1, by omega⟩
        exact ih (fetches.settled _ settled) (.inl rfl) notAll fuel (by omega) atEnd
  · exact atEnd settled stands isEnd noCandidate fuel

/-- What is left behind the next token. -/
theorem Stands.drop (stands : scan.Stands taken lexer) :
    scan.Stands (taken + 1) lexer.drop := by
  rcases stands with rfl | given
  · left
    simp [Scan.lexer, Lexer.drop]
  · right
    obtain ⟨all, rfl⟩ := Lexer.dropStale_ok_iff.mp given
    refine Lexer.dropStale_ok_iff.mpr ⟨all, ?_⟩
    simp only [Scan.lexer, Lexer.drop, List.drop_drop]
    rfl

/-- Tokens that end where the stream does. -/
def Complete (tokens : List Token) : Prop :=
  ∃ init last, tokens = init ++ [last] ∧ last.kind = .streamEnd ∧
    ∀ token ∈ init, token.kind ≠ .streamEnd

theorem Complete.kind_eq_iff (complete : Complete tokens) {number : Nat} {token : Token}
    (isToken : tokens[number]? = some token) :
    token.kind = .streamEnd ↔ number + 1 = tokens.length := by
  obtain ⟨init, last, rfl, isEnd, others⟩ := complete
  rw [List.length_append, List.length_singleton, Nat.add_right_cancel_iff]
  rcases Nat.lt_trichotomy number init.length with before | same | behind
  · rw [List.getElem?_append_left before] at isToken
    exact iff_of_false (others token (List.mem_of_getElem? isToken)) (by omega)
  · rw [same, List.getElem?_concat_length, Option.some_inj] at isToken
    exact iff_of_true (isToken ▸ isEnd) same
  · rw [List.getElem?_eq_none (by simp; omega)] at isToken
    cases isToken

/-- The next token is handed out as it stands at the end, and the reading goes on from there. -/
def Hands (lexer : Lexer) (taken : Nat) (tokens : List Token) : Prop :=
  ∀ token, tokens[taken]? = some token →
    ∃ (after : Scan) (filled : Lexer), lexer.peek = .ok (token, filled) ∧ after.Ends tokens ∧
      after.Stands taken filled ∧ after.Settled (taken + 1)

theorem hands_of_fill (filled : taken < tokens.length →
    ∃ (after : Scan) (filled : Lexer), Lexer.fill (lexer.cursor.rest.length + 4) lexer =
      .ok filled ∧ after.Ends tokens ∧ after.Stands taken filled ∧ after.Settled (taken + 1)) :
    Hands lexer taken tokens := by
  intro token isToken
  obtain ⟨after, filled, ran, ends, stands, next⟩ :=
    filled (List.getElem?_eq_some_iff.mp isToken).1
  refine ⟨after, filled, ?_, ends, stands, next⟩
  have same : after.read[taken]? = some token := by
    have prefixes := congrArg (·[taken]?) (ends.keeps next).1
    simpa [List.getElem?_take, isToken] using prefixes.symm
  obtain ⟨inside, isAt⟩ := List.getElem?_eq_some_iff.mp same
  rw [Lexer.peek, ran]
  simp only [bind, Except.bind]
  rw [stands.queue_eq, List.drop_eq_getElem_cons inside, isAt]

theorem Ends.hands (ends : scan.Ends tokens) (settled : scan.Settled taken)
    (stands : scan.Stands taken lexer) : Hands lexer taken tokens := by
  refine hands_of_fill fun notAll => ends.fill settled stands notAll ?_
  rcases stands with rfl | given
  · exact Nat.le_add_right (scan.cursor.rest.length + 2) 2
  · obtain ⟨-, rfl⟩ := Lexer.dropStale_ok_iff.mp given
    exact Nat.le_add_right (scan.cursor.rest.length + 2) 2

/-- **Taking tokens gives what has been read at the end,** behind what has been taken before. -/
theorem takeAll_of_hands (hands : Hands lexer taken tokens) (complete : Complete tokens)
    (notAll : taken < tokens.length) {fuel : Nat} (enough : tokens.length ≤ taken + fuel) :
    lexer.takeAll fuel = (tokens.drop taken, none) := by
  induction fuel generalizing taken lexer with
  | zero => omega
  | succ fuel ih =>
    have isToken : tokens[taken]? = some tokens[taken] := List.getElem?_eq_getElem notAll
    obtain ⟨after, filled, ran, ends, stands, next⟩ := hands _ isToken
    have isLast := complete.kind_eq_iff isToken
    rw [Lexer.takeAll, ran, List.drop_eq_getElem_cons notAll]
    dsimp only
    by_cases last : taken + 1 = tokens.length
    · rw [isLast.mpr last, List.drop_eq_nil_of_le (by omega)]
      rfl
    · have goesOn : (tokens[taken].kind == Token.Kind.streamEnd) = false := by
        rw [beq_eq_false_iff_ne]
        exact fun isEnd => last (isLast.mp isEnd)
      rw [goesOn, if_neg Bool.false_ne_true, ih (ends.hands next stands.drop) (by omega) (by omega)]

/-- Where the reading of a text stands behind the start of the stream. -/
def opened (text : List Char) : Scan where
  cursor := { rest := text }
  indent := -1
  indents := []
  keyAllowed := true
  candidates := [none]
  read := [⟨.streamStart, {}, {}⟩]

end Scan

/-- **The tokens of a text are those that have been read at its end.** -/
theorem tokens_of_reads {text : List Char} {tokens : List Token}
    (allowed : firstForbidden? text 0 = none) (reads : (Scan.opened text).Reads tokens)
    (complete : Scan.Complete tokens) (few : tokens.length ≤ 8 * text.length + 8) :
    Yaml.tokens text = (tokens, none) := by
  have settled : (Scan.opened text).Settled 0 := ⟨Nat.zero_le _, by simp [Scan.opened]⟩
  have some : 0 < tokens.length := by
    obtain ⟨init, last, rfl, -⟩ := complete
    simp
  have hands : Scan.Hands (Lexer.start text) 0 tokens := by
    refine Scan.hands_of_fill fun notAll => ?_
    have filled := Scan.Ends.fill (.inl reads) settled (.inl rfl) notAll
      (Nat.le_add_right (text.length + 2) 1)
    have first : Lexer.fill ((Lexer.start text).cursor.rest.length + 4) (Lexer.start text) =
        Lexer.fill (text.length + 2 + 1) ((Scan.opened text).lexer 0) := rfl
    rwa [first]
  rw [Yaml.tokens, allowed]
  exact Scan.takeAll_of_hands hands complete some (by omega)

end PluginAudit.Yaml
