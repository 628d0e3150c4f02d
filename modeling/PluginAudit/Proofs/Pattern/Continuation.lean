import Mathlib.Data.List.Basic
import Mathlib.Tactic.Common
import PluginAudit.Proofs.Pattern.Matches

/-!
# Matches in a text that goes on

When a text goes on, a match may go on with it, and then it may take the place
of matches that were found before. This module says for which patterns that
cannot happen when the text goes on with a new line.

A pattern without assertions looks at nothing but the characters that it takes.
So the ends of its matches in a text are those of its matches in any longer
text, in the same order, as far as they lie in the shorter one
(`filter_ends_append`). What is left to exclude is a match that crosses the end
of the text. A pattern is linewise when its matches stay on a line, or when
they end in a mark that no match takes before a line break: a match that
crosses a line break then starts behind every match that ends before it
(`IsLinewise.not_crossing`). The matches of a linewise pattern in a text are all
found again in the text with more lines behind it (`mem_findAll_append`).
-/

set_option autoImplicit false

namespace PluginAudit.Pattern

/-! ## Lists without repetitions -/

theorem Search.hasPassed_pass (search : Search) (place other : Nat) :
    (search.pass place).hasPassed other = (other == place || search.hasPassed other) := by
  simp only [pass, hasPassed, Std.TreeSet.contains_insert, Bool.beq_eq_decide_eq,
    Std.LawfulEqCmp.compare_eq_iff_eq]
  simp only [eq_comm]

theorem distinct_eq (places : List Nat) : distinct places = places.eraseDups := by
  have general : ∀ (places : List Nat) (search : Search),
      (places.foldl (fun search place =>
        if search.hasPassed place then search else (search.pass place).find place) search).ends =
      search.ends ++ (places.filter fun place => !search.hasPassed place).eraseDups := by
    intro places
    induction places with
    | nil => simp
    | cons place places ih =>
      intro search
      rw [List.foldl_cons, ih]
      by_cases again : search.hasPassed place
      · simp [again]
      · have noted : ∀ other, ((search.pass place).find place).hasPassed other =
            (other == place || search.hasPassed other) := search.hasPassed_pass place
        simp only [again, Bool.false_eq_true, if_false, noted, Bool.not_false, if_true,
          List.filter_cons, List.eraseDups_cons, List.filter_filter, Bool.not_or]
        simp [Search.ends, Search.find, Search.pass]
  unfold distinct
  split
  · rfl
  · rfl
  · rw [general]
    simp [Search.ends, Search.start, Search.hasPassed]

theorem filter_eraseDups (test : Nat → Bool) (places : List Nat) :
    places.eraseDups.filter test = (places.filter test).eraseDups := by
  cases places with
  | nil => rfl
  | cons place places =>
    have rest := filter_eraseDups test (places.filter fun other => !other == place)
    rw [List.eraseDups_cons, List.filter_cons, rest, List.filter_cons]
    by_cases passes : test place
    · simp only [passes, if_true, List.eraseDups_cons, List.filter_filter, Bool.and_comm]
    · -- What the test refuses is not in the filtered list anyway.
      have refused : ∀ other, (test other && !other == place) = test other := by
        intro other
        by_cases same : other = place
        · simp [same, passes]
        · simp [same]
      simp only [passes, Bool.false_eq_true, if_false, List.filter_filter, refused]
termination_by places.length
decreasing_by
  have bound := List.length_filter_le (fun other => !other == place) places
  simp only [List.length_cons]
  omega

theorem filter_distinct (test : Nat → Bool) (places : List Nat) :
    (distinct places).filter test = distinct (places.filter test) := by
  rw [distinct_eq, distinct_eq, filter_eraseDups]

/-! ## Runs of single characters -/

/-- A run in a text is the run in a longer text, as far as it lies in the text. -/
theorem runLength_append (cls : CharClass) (text more : Array Char) (bound : Nat) {place : Nat}
    (inside : place ≤ text.size) :
    runLength cls text (min bound (text.size - place)) place =
      min (runLength cls (text ++ more) bound place) (text.size - place) := by
  induction bound generalizing place with
  | zero => simp [runLength]
  | succ bound ih =>
    rcases Nat.eq_or_lt_of_le inside with rfl | before
    · simp [runLength]
    · have room : min (bound + 1) (text.size - place) =
          min bound (text.size - (place + 1)) + 1 := by omega
      rw [room, runLength, runLength, Array.getElem?_append_left before]
      cases there : text[place]? with
      | none => simp
      | some c =>
        dsimp only
        split
        · have behind : place + 1 ≤ text.size := before
          rw [ih behind]
          omega
        · simp

/-- The characters of a run are in its class. -/
theorem taken_of_runLength {cls : CharClass} {text : Array Char} {bound place between : Nat}
    (behind : place ≤ between) (before : between < place + runLength cls text bound place) :
    ∃ c, text[between]? = some c ∧ cls.contains c = true := by
  induction bound generalizing place with
  | zero => simp [runLength] at before; omega
  | succ bound ih =>
    rw [runLength] at before
    cases there : text[place]? with
    | none => simp [there] at before; omega
    | some c =>
      simp only [there] at before
      split at before
      · next isIn =>
        rcases Nat.eq_or_lt_of_le behind with rfl | further
        · exact ⟨c, there, isIn⟩
        · have behind : place + 1 ≤ between := further
          exact ih behind (by omega)
      · omega

/-- The bound of a run: the room that is left, or the number of rounds if that is less. -/
def runBound (text : Array Char) (most : Option Nat) (place : Nat) : Nat :=
  min (text.size - place) (most.getD (text.size - place))

theorem mem_runEnds {cls : CharClass} {text : Array Char} {greedy : Bool} {least : Nat}
    {most : Option Nat} {place stop : Nat} :
    stop ∈ runEnds cls text greedy least most place ↔
      place + least ≤ stop ∧
        stop ≤ place + runLength cls text (runBound text most place) place := by
  have ends : stop ∈ runEnds cls text greedy least most place ↔
      stop ∈ (List.range (runLength cls text (runBound text most place) place + 1 - least)).map
        fun more => place + least + more := by
    unfold runEnds runBound
    cases greedy <;> simp
  rw [ends, List.mem_map]
  constructor
  · rintro ⟨more, isMore, rfl⟩
    have := List.mem_range.mp isMore
    omega
  · rintro ⟨enough, within⟩
    exact ⟨stop - (place + least), List.mem_range.mpr (by omega), by omega⟩

theorem filter_range_le (count start limit : Nat) :
    ((List.range count).map (start + ·)).filter (· ≤ limit) =
      (List.range (min count (limit + 1 - start))).map (start + ·) := by
  induction count with
  | zero => simp
  | succ count ih =>
    rw [List.range_succ, List.map_append, List.filter_append, ih]
    by_cases within : start + count ≤ limit
    · have both : min (count + 1) (limit + 1 - start) = count + 1 := by omega
      have one : min count (limit + 1 - start) = count := by omega
      simp [within, both, one, List.range_succ]
    · have same : min (count + 1) (limit + 1 - start) = min count (limit + 1 - start) := by omega
      simp [within, same]

theorem filter_runEnds_append (cls : CharClass) (text more : Array Char) (greedy : Bool)
    (least : Nat) (most : Option Nat) {place : Nat} (inside : place ≤ text.size) :
    (runEnds cls (text ++ more) greedy least most place).filter (· ≤ text.size) =
      runEnds cls text greedy least most place := by
  have bound : runBound text most place =
      min (runBound (text ++ more) most place) (text.size - place) := by
    unfold runBound
    cases most <;> simp only [Array.size_append, Option.getD] <;> omega
  have length := runLength_append cls text more (runBound (text ++ more) most place) inside
  rw [← bound] at length
  have few :
      min (runLength cls (text ++ more) (runBound (text ++ more) most place) place + 1 - least)
        (text.size + 1 - (place + least)) =
      runLength cls text (runBound text most place) place + 1 - least := by omega
  have ends := filter_range_le
    (runLength cls (text ++ more) (runBound (text ++ more) most place) place + 1 - least)
    (place + least) text.size
  rw [few] at ends
  cases greedy with
  | false => exact ends
  | true => exact (List.filter_reverse ..).trans (congrArg List.reverse ends)

/-! ## Patterns without assertions -/

/-- A pattern that looks at nothing but the characters that it takes: it has no assertions. Only
single characters are repeated. -/
def isLocal : Pattern → Bool
  | empty => true
  | one _ => true
  | assertion _ => false
  | seq first second => first.isLocal && second.isLocal
  | choice first second => first.isLocal && second.isLocal
  | rounds _ _ _ (one _) => true
  | rounds _ _ _ _ => false

/-- **The ends of matches in a text are those in a longer text that lie in the text.** -/
theorem filter_ends_append {pattern : Pattern} (looksNowhere : pattern.isLocal = true)
    {text : Array Char} (more : Array Char) {place : Nat} (inside : place ≤ text.size) :
    (pattern.ends (text ++ more) place).filter (· ≤ text.size) = pattern.ends text place := by
  fun_induction isLocal pattern generalizing place with
  | case1 => simp [ends, inside]
  | case2 cls =>
    rcases Nat.eq_or_lt_of_le inside with rfl | before
    · have beyond : text[text.size]? = none := by simp
      simp only [ends, beyond]
      split
      · rfl
      · split <;> simp
    · rw [ends, ends, Array.getElem?_append_left before]
      cases text[place]? with
      | none => rfl
      | some c =>
        dsimp only
        split
        · simp; omega
        · rfl
  | case3 => cases looksNowhere
  | case4 first second ihFirst ihSecond =>
    obtain ⟨firstLocal, secondLocal⟩ := Bool.and_eq_true_iff.mp looksNowhere
    rw [ends, ends, filter_distinct, List.filter_flatMap, ← ihFirst firstLocal inside]
    congr 1
    induction first.ends (text ++ more) place with
    | nil => rfl
    | cons middle middles ih =>
      rw [List.flatMap_cons, ih, List.filter_cons]
      by_cases within : middle ≤ text.size
      · simp [within, ihSecond secondLocal within]
      · -- From behind the text nothing ends in it.
        have none : (second.ends (text ++ more) middle).filter (· ≤ text.size) = [] := by
          rw [List.filter_eq_nil_iff]
          intro stop among
          have onward := (reaches_of_mem_ends among).onward
          simp
          omega
        simp [within, none]
  | case5 first second ihFirst ihSecond =>
    obtain ⟨firstLocal, secondLocal⟩ := Bool.and_eq_true_iff.mp looksNowhere
    rw [ends, ends, filter_distinct, List.filter_append, ihFirst firstLocal inside,
      ihSecond secondLocal inside]
  | case6 greedy least most cls =>
    simp only [ends]
    exact filter_runEnds_append cls text more greedy least most inside
  | case7 => cases looksNowhere

/-! ## What matches take -/

/-- The classes in a pattern. -/
def classes : Pattern → List CharClass
  | empty => []
  | one cls => [cls]
  | assertion _ => []
  | seq first second => first.classes ++ second.classes
  | choice first second => first.classes ++ second.classes
  | rounds _ _ _ body => body.classes

/-- Every character that a match takes is in a class of the pattern. -/
theorem taken_of_mem_ends {pattern : Pattern} (looksNowhere : pattern.isLocal = true)
    {text : Array Char} {place stop between : Nat} (among : stop ∈ pattern.ends text place)
    (behind : place ≤ between) (before : between < stop) :
    ∃ cls ∈ pattern.classes, ∃ c, text[between]? = some c ∧ cls.contains c = true := by
  fun_induction isLocal pattern generalizing place stop with
  | case1 =>
    rw [ends, List.mem_singleton] at among
    omega
  | case2 cls =>
    rw [ends] at among
    split at among
    · cases among
    · next c there =>
      split at among
      · next isIn =>
        obtain rfl := List.mem_singleton.mp among
        obtain rfl : place = between := by omega
        exact ⟨cls, List.mem_singleton_self cls, c, there, isIn⟩
      · cases among
  | case3 => cases looksNowhere
  | case4 first second ihFirst ihSecond =>
    obtain ⟨firstLocal, secondLocal⟩ := Bool.and_eq_true_iff.mp looksNowhere
    obtain ⟨middle, isMiddle, isStop⟩ := List.mem_flatMap.mp (mem_of_mem_distinct among)
    rcases Nat.lt_or_ge between middle with inFirst | inSecond
    · obtain ⟨cls, isOne, taken⟩ := ihFirst firstLocal isMiddle behind inFirst
      exact ⟨cls, List.mem_append_left _ isOne, taken⟩
    · obtain ⟨cls, isOne, taken⟩ := ihSecond secondLocal isStop inSecond before
      exact ⟨cls, List.mem_append_right _ isOne, taken⟩
  | case5 first second ihFirst ihSecond =>
    obtain ⟨firstLocal, secondLocal⟩ := Bool.and_eq_true_iff.mp looksNowhere
    rcases List.mem_append.mp (mem_of_mem_distinct among) with isFirst | isSecond
    · obtain ⟨cls, isOne, taken⟩ := ihFirst firstLocal isFirst behind before
      exact ⟨cls, List.mem_append_left _ isOne, taken⟩
    · obtain ⟨cls, isOne, taken⟩ := ihSecond secondLocal isSecond behind before
      exact ⟨cls, List.mem_append_right _ isOne, taken⟩
  | case6 greedy least most cls =>
    obtain ⟨-, within⟩ := mem_runEnds.mp among
    have taken := taken_of_runLength behind (Nat.lt_of_lt_of_le before within)
    exact ⟨cls, List.mem_singleton_self cls, taken⟩
  | case7 => cases looksNowhere

/-- Whether no class of a pattern has one of some characters. -/
def avoids (pattern : Pattern) (marks : List Char) : Bool :=
  pattern.classes.all fun cls => marks.all fun c => !cls.contains c

theorem notMem_of_avoids {pattern : Pattern} (looksNowhere : pattern.isLocal = true)
    {marks : List Char} (avoids : pattern.avoids marks = true) {text : Array Char}
    {place stop between : Nat} (among : stop ∈ pattern.ends text place)
    (behind : place ≤ between) (before : between < stop) {c : Char}
    (there : text[between]? = some c) : c ∉ marks := by
  obtain ⟨cls, isOne, other, there', isIn⟩ := taken_of_mem_ends looksNowhere among behind before
  obtain rfl : c = other := Option.some.inj (there.symm.trans there')
  intro isMark
  have outside := List.all_eq_true.mp (List.all_eq_true.mp avoids cls isOne) c isMark
  simp [isIn] at outside

/-! ## Patterns that end in a mark -/

/-- Whether all members of a class are among some characters, as far as its shape tells. -/
def CharClass.isWithin (marks : List Char) : CharClass → Bool
  | range low high => high < low || (low == high && marks.any fun c => c.toNat == low)
  | union first second => first.isWithin marks && second.isWithin marks
  | _ => false

theorem CharClass.mem_of_isWithin {marks : List Char} {cls : CharClass}
    (within : cls.isWithin marks = true) {c : Char} (isIn : cls.contains c = true) :
    c ∈ marks := by
  induction cls with
  | range low high =>
    simp only [isWithin, Bool.or_eq_true, decide_eq_true_eq, Bool.and_eq_true, beq_iff_eq,
      List.any_eq_true] at within
    simp only [contains, containsCode, Bool.and_eq_true, decide_eq_true_eq] at isIn
    rcases within with isEmpty | ⟨single, mark, isMark, same⟩
    · omega
    · obtain rfl : c = mark := Char.toNat_inj.mp (by omega)
      exact isMark
  | union first second ihFirst ihSecond =>
    obtain ⟨firstWithin, secondWithin⟩ := Bool.and_eq_true_iff.mp within
    rw [contains_union, Bool.or_eq_true] at isIn
    exact isIn.elim (ihFirst firstWithin) (ihSecond secondWithin)
  | _ => cases within

/-- Whether every match of a pattern ends in one of some characters, as far as its shape tells. -/
def closesWith (marks : List Char) : Pattern → Bool
  | one cls => cls.isWithin marks
  | seq _ second => second.closesWith marks
  | choice first second => first.closesWith marks && second.closesWith marks
  | _ => false

theorem last_of_closesWith {pattern : Pattern} {marks : List Char}
    (closes : pattern.closesWith marks = true) {text : Array Char} {place stop : Nat}
    (among : stop ∈ pattern.ends text place) :
    ∃ last c, stop = last + 1 ∧ place ≤ last ∧ text[last]? = some c ∧ c ∈ marks := by
  fun_induction closesWith marks pattern generalizing place stop with
  | case1 cls =>
    rw [ends] at among
    split at among
    · cases among
    · next c there =>
      split at among
      · next isIn =>
        obtain rfl := List.mem_singleton.mp among
        exact ⟨place, c, rfl, Nat.le_refl place, there, CharClass.mem_of_isWithin closes isIn⟩
      · cases among
  | case2 first second ih =>
    obtain ⟨middle, isMiddle, isStop⟩ := List.mem_flatMap.mp (mem_of_mem_distinct among)
    obtain ⟨last, c, isLast, behind, there, isMark⟩ := ih closes isStop
    have onward := (reaches_of_mem_ends isMiddle).onward
    exact ⟨last, c, isLast, Nat.le_trans onward behind, there, isMark⟩
  | case3 first second ihFirst ihSecond =>
    obtain ⟨firstCloses, secondCloses⟩ := Bool.and_eq_true_iff.mp closes
    exact (List.mem_append.mp (mem_of_mem_distinct among)).elim (ihFirst firstCloses)
      (ihSecond secondCloses)
  | case4 => cases closes

/-- Whether no match of a pattern takes one of some characters before a line break, as far as its
shape tells. -/
def breaksFirst (marks : List Char) : Pattern → Bool
  | empty => true
  | one _ => true
  | assertion _ => true
  | seq first second =>
    first.breaksFirst marks && second.breaksFirst marks &&
      (first.avoids marks || second.avoids ['\n'])
  | choice first second => first.breaksFirst marks && second.breaksFirst marks
  | rounds _ _ _ body => body.avoids marks || body.avoids ['\n']

theorem notMem_of_breaksFirst {pattern : Pattern} (looksNowhere : pattern.isLocal = true)
    {marks : List Char} (breaksFirst : pattern.breaksFirst marks = true) {text : Array Char}
    {place stop earlier later : Nat} (among : stop ∈ pattern.ends text place)
    (behind : place ≤ earlier) (ordered : earlier < later) (before : later < stop)
    (isBreak : text[later]? = some '\n') {c : Char} (there : text[earlier]? = some c) :
    c ∉ marks := by
  fun_induction isLocal pattern generalizing place stop with
  | case1 =>
    rw [ends, List.mem_singleton] at among
    omega
  | case2 cls =>
    have single : stop ≤ place + 1 := by
      rw [ends] at among
      split at among
      · cases among
      · split at among
        · exact Nat.le_of_eq (List.mem_singleton.mp among)
        · cases among
    omega
  | case3 => cases looksNowhere
  | case4 first second ihFirst ihSecond =>
    obtain ⟨firstLocal, secondLocal⟩ := Bool.and_eq_true_iff.mp looksNowhere
    simp only [Pattern.breaksFirst, Bool.and_eq_true, Bool.or_eq_true] at breaksFirst
    obtain ⟨⟨firstBreaks, secondBreaks⟩, apart⟩ := breaksFirst
    obtain ⟨middle, isMiddle, isStop⟩ := List.mem_flatMap.mp (mem_of_mem_distinct among)
    rcases Nat.lt_or_ge later middle with bothFirst | laterSecond
    · exact ihFirst firstLocal firstBreaks isMiddle behind bothFirst
    · rcases Nat.lt_or_ge earlier middle with earlierFirst | bothSecond
      · rcases apart with noMark | noBreak
        · exact notMem_of_avoids firstLocal noMark isMiddle behind earlierFirst there
        · exact absurd (List.mem_singleton_self _)
            (notMem_of_avoids secondLocal noBreak isStop laterSecond before isBreak)
      · exact ihSecond secondLocal secondBreaks isStop bothSecond before
  | case5 first second ihFirst ihSecond =>
    obtain ⟨firstLocal, secondLocal⟩ := Bool.and_eq_true_iff.mp looksNowhere
    obtain ⟨firstBreaks, secondBreaks⟩ := Bool.and_eq_true_iff.mp breaksFirst
    rcases List.mem_append.mp (mem_of_mem_distinct among) with isFirst | isSecond
    · exact ihFirst firstLocal firstBreaks isFirst behind before
    · exact ihSecond secondLocal secondBreaks isSecond behind before
  | case6 greedy least most cls =>
    have roundsLocal : (rounds greedy least most (one cls)).isLocal = true := rfl
    rcases Bool.or_eq_true_iff.mp breaksFirst with noMark | noBreak
    · exact notMem_of_avoids roundsLocal noMark among behind (Nat.lt_trans ordered before) there
    · exact absurd (List.mem_singleton_self _)
        (notMem_of_avoids roundsLocal noBreak among
          (Nat.le_trans behind (Nat.le_of_lt ordered)) before isBreak)
  | case7 => cases looksNowhere

/-! ## Linewise patterns -/

/-- The marks in which patterns of calls end: a parenthesis, opening or closing, or a quote. -/
def closingMarks : List (List Char) := [['('], [')'], ['\'', '"']]

/-- Whether a pattern is linewise: it looks at nothing but what it takes, and its matches stay on
a line, or they end in a mark that they do not take before a line break. -/
def isLinewise (pattern : Pattern) : Bool :=
  pattern.isLocal && (pattern.avoids ['\n'] ||
    closingMarks.any fun marks => pattern.closesWith marks && pattern.breaksFirst marks)

/-- **A match that crosses a line break starts behind every match that ends before it.** -/
theorem not_crossing {pattern : Pattern} (linewise : pattern.isLinewise = true)
    {text : Array Char} {place stop other beyond line : Nat} (behind : other ≤ place)
    (ends : stop ∈ pattern.ends text place) (crosses : beyond ∈ pattern.ends text other)
    (before : stop ≤ line) (across : line < beyond) :
    text[line]? ≠ some '\n' := by
  intro isBreak
  simp only [isLinewise, Bool.and_eq_true, Bool.or_eq_true, List.any_eq_true] at linewise
  obtain ⟨looksNowhere, inLine | ⟨marks, -, closes, breaksFirst⟩⟩ := linewise
  · have onward := (reaches_of_mem_ends ends).onward
    exact notMem_of_avoids looksNowhere inLine crosses (by omega) across isBreak
      (List.mem_singleton_self _)
  · obtain ⟨last, c, rfl, isLast, there, isMark⟩ := last_of_closesWith closes ends
    exact notMem_of_breaksFirst looksNowhere breaksFirst crosses (Nat.le_trans behind isLast)
      (Nat.lt_of_succ_le before) across isBreak there isMark

/-! ## Matches that follow one another -/

section FindAll

variable {pattern : Pattern} {text more : Array Char}

/-- A match in a longer text that lies in the text is the match in the text. -/
theorem matchAt?_of_append (looksNowhere : pattern.isLocal = true) {place stop : Nat}
    (inside : place ≤ text.size) (within : stop ≤ text.size)
    (isMatch : pattern.matchAt? (text ++ more) place = some stop) :
    pattern.matchAt? text place = some stop := by
  rw [matchAt?, List.head?_eq_some_iff] at isMatch
  obtain ⟨others, ends⟩ := isMatch
  rw [matchAt?, ← filter_ends_append looksNowhere more inside, ends]
  simp [within]

/-- The match in a text is the match in the text with more lines, where the pattern is linewise.
-/
theorem matchAt?_append (linewise : pattern.isLinewise = true) (nextLine : more[0]? = some '\n')
    {place stop : Nat} (inside : place ≤ text.size)
    (isMatch : pattern.matchAt? text place = some stop) :
    pattern.matchAt? (text ++ more) place = some stop := by
  have looksNowhere := (Bool.and_eq_true_iff.mp linewise).1
  have isEnd := List.mem_of_head? isMatch
  rw [← filter_ends_append looksNowhere more inside, List.mem_filter, decide_eq_true_iff] at isEnd
  obtain ⟨isEnd, within⟩ := isEnd
  have isBreak : (text ++ more)[text.size]? = some '\n' := by
    rw [Array.getElem?_append_right (Nat.le_refl _), Nat.sub_self, nextLine]
  have allWithin : ∀ other ∈ pattern.ends (text ++ more) place,
      decide (other ≤ text.size) = true := by
    intro other among
    rw [decide_eq_true_iff]
    by_contra beyond
    exact not_crossing linewise (Nat.le_refl place) isEnd among within (Nat.lt_of_not_le beyond)
      isBreak
  rw [matchAt?, ← isMatch, matchAt?, ← filter_ends_append looksNowhere more inside,
    List.filter_eq_self.mpr allWithin]

/-- **The matches in a text are those in the text with more lines that end in the text.** -/
theorem mem_findAll_append (linewise : pattern.isLinewise = true)
    (nextLine : more[0]? = some '\n') {span : Span} (within : span.stop ≤ text.size) :
    span ∈ pattern.findAll (text ++ more) ↔ span ∈ pattern.findAll text := by
  have looksNowhere := (Bool.and_eq_true_iff.mp linewise).1
  have isBreak : (text ++ more)[text.size]? = some '\n' := by
    rw [Array.getElem?_append_right (Nat.le_refl _), Nat.sub_self, nextLine]
  have longer : text.size ≤ (text ++ more).size := by simp
  induction before : span.start using Nat.strongRecOn generalizing span with
  | _ place ih =>
    subst before
    constructor
    · intro isFound
      obtain ⟨-, isMatch, free⟩ := mem_findAll_iff.mp isFound
      have inside := Nat.le_trans (le_of_matchAt? isMatch) within
      refine mem_findAll_iff.mpr
        ⟨inside, matchAt?_of_append looksNowhere inside within isMatch, ?_⟩
      rintro earlier isEarlier ⟨starts, goesOn⟩
      obtain ⟨inside', isMatch', -⟩ := mem_findAll_iff.mp isEarlier
      have within' := (reaches_of_mem_ends (List.mem_of_head? isMatch')).within
      refine free earlier ((ih _ starts (by omega) rfl).mpr isEarlier) ⟨starts, ?_⟩
      exact goesOn.imp_right fun ⟨same, isEmpty⟩ =>
        ⟨same, matchAt?_append linewise nextLine inside isEmpty⟩
    · intro isFound
      obtain ⟨inside, isMatch, free⟩ := mem_findAll_iff.mp isFound
      have isMatch' := matchAt?_append linewise nextLine inside isMatch
      refine mem_findAll_iff.mpr ⟨Nat.le_trans inside longer, isMatch', ?_⟩
      rintro earlier isEarlier ⟨starts, goesOn⟩
      obtain ⟨-, isEarlierMatch, -⟩ := mem_findAll_iff.mp isEarlier
      -- A match that takes the place does not cross the end of the text, so it is found there.
      have stays : earlier.stop ≤ text.size := by
        by_contra beyond
        exact not_crossing linewise (Nat.le_of_lt starts) (List.mem_of_head? isMatch')
          (List.mem_of_head? isEarlierMatch) within (Nat.lt_of_not_le beyond) isBreak
      refine free earlier ((ih _ starts stays rfl).mp isEarlier) ⟨starts, ?_⟩
      exact goesOn.imp_right fun ⟨same, isEmpty⟩ =>
        ⟨same, matchAt?_of_append looksNowhere inside inside isEmpty⟩

end FindAll

end PluginAudit.Pattern
