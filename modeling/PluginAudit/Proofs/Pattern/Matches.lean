import Mathlib.Data.List.Basic
import Mathlib.Tactic.Common
import PluginAudit.Pattern.Matching

/-!
# Matches in a text

A match never ends before it starts, and a match that starts in a text ends in
it (`reaches_of_mem_ends`). This holds of every pattern: whatever is searched,
a search only ever goes on from a place to places behind it.

The matches that follow one another in a text are told without the loop that
finds them: a match is among them exactly when no other one of them takes its
place (`mem_findAll_iff`). A match takes a place when it starts before the place
and goes on beyond it, or ends right there while the match at the place is
empty (`Takes`).
-/

set_option autoImplicit false

namespace PluginAudit.Pattern

/-! ## Where matches end -/

/-- A place is reached from another one in a text of a size: it does not come before it, and it is
in the text if the other one is. -/
structure Reaches (size place stop : Nat) : Prop where
  onward : place ≤ stop
  within : stop ≤ max place size

theorem Reaches.refl (size place : Nat) : Reaches size place place :=
  ⟨Nat.le_refl place, Nat.le_max_left place size⟩

theorem Reaches.trans {size first second third : Nat} (earlier : Reaches size first second)
    (later : Reaches size second third) : Reaches size first third := by
  obtain ⟨onward, within⟩ := earlier
  obtain ⟨onward', within'⟩ := later
  exact ⟨by omega, by omega⟩

/-- A character further in the text. -/
theorem Reaches.next {text : Array Char} {place : Nat} {c : Char}
    (here : text[place]? = some c) : Reaches text.size place (place + 1) := by
  obtain ⟨inside, -⟩ := Array.getElem?_eq_some_iff.mp here
  exact ⟨by omega, by omega⟩

/-! ## Searching -/

/-- Every end that a search has found has a property. -/
def Search.Finds (holds : Nat → Prop) (search : Search) : Prop :=
  ∀ place ∈ search.found, holds place

section Finds

variable {holds : Nat → Prop} {search : Search}

theorem Search.finds_start : start.Finds holds := fun _ among => nomatch among

theorem Search.Finds.pass (finds : search.Finds holds) (place : Nat) :
    (search.pass place).Finds holds := finds

theorem Search.Finds.find (finds : search.Finds holds) {place : Nat} (isSo : holds place) :
    (search.find place).Finds holds :=
  List.forall_mem_cons.mpr ⟨isSo, finds⟩

theorem Search.Finds.ends (finds : search.Finds holds) : ∀ place ∈ search.ends, holds place :=
  fun place among => finds place (List.mem_reverse.mp among)

/-- What each step of a search over a list keeps, the search keeps. -/
theorem Search.finds_foldl {step : Search → Nat → Search} {list : List Nat}
    (each : ∀ search, ∀ place ∈ list, search.Finds holds → (step search place).Finds holds)
    (finds : search.Finds holds) : (list.foldl step search).Finds holds := by
  induction list generalizing search with
  | nil => exact finds
  | cons place list ih =>
    refine ih (fun search other among => each search other (List.mem_cons_of_mem _ among)) ?_
    exact each search place List.mem_cons_self finds

end Finds

theorem mem_of_mem_distinct {places : List Nat} {place : Nat} (among : place ∈ distinct places) :
    place ∈ places := by
  unfold distinct at among
  split at among
  · exact among
  · exact among
  · refine Search.Finds.ends (?_ : Search.Finds (· ∈ _) _) place among
    refine Search.finds_foldl ?_ Search.finds_start
    intro search other isOther finds
    split
    · exact finds
    · exact (finds.pass other).find isOther

/-! ## Rounds -/

section Rounds

variable {size : Nat} {step : Nat → List Nat}

theorem atMostFrom_finds (onward : ∀ place, ∀ next ∈ step place, Reaches size place next)
    (greedy : Bool) {left start place : Nat} {search : Search} (reached : Reaches size start place)
    (finds : search.Finds (Reaches size start)) :
    (atMostFrom step greedy size left place search).Finds (Reaches size start) := by
  induction left generalizing place search with
  | zero => exact finds.find reached
  | succ left ih =>
    have further : ∀ {search : Search}, search.Finds (Reaches size start) →
        ((step place).foldl (fun search next => atMostFrom step greedy size left next search)
          search).Finds (Reaches size start) :=
      Search.finds_foldl fun search next isNext finds =>
        ih (reached.trans (onward place next isNext)) finds
    rw [atMostFrom]
    dsimp only
    split
    · exact finds
    · split
      · exact (further (finds.pass _)).find reached
      · exact further ((finds.pass _).find reached)

theorem atMost_reaches (onward : ∀ place, ∀ next ∈ step place, Reaches size place next)
    (greedy : Bool) (most place : Nat) :
    ∀ stop ∈ atMost step greedy size most place, Reaches size place stop := by
  intro stop among
  exact (atMostFrom_finds onward greedy (.refl size place) Search.finds_start).ends stop
    (mem_of_mem_distinct among)

theorem exactly_reaches (onward : ∀ place, ∀ next ∈ step place, Reaches size place next)
    (count place : Nat) : ∀ stop ∈ exactly step count place, Reaches size place stop := by
  induction count generalizing place with
  | zero =>
    intro stop among
    rw [List.mem_singleton.mp among]
    exact .refl size place
  | succ count ih =>
    intro stop among
    cases count with
    | zero => exact onward place stop among
    | succ count =>
      obtain ⟨next, isNext, isStop⟩ := List.mem_flatMap.mp (mem_of_mem_distinct among)
      exact (onward place next isNext).trans (ih next stop isStop)

theorem repetition_reaches (onward : ∀ place, ∀ next ∈ step place, Reaches size place next)
    (greedy : Bool) (least most place : Nat) :
    ∀ stop ∈ repetition step greedy least most size place, Reaches size place stop := by
  intro stop among
  unfold repetition at among
  split at among
  · exact exactly_reaches onward least place stop among
  · obtain ⟨next, isNext, isStop⟩ := List.mem_flatMap.mp (mem_of_mem_distinct among)
    exact (exactly_reaches onward least place next isNext).trans
      (atMost_reaches onward greedy _ next stop isStop)

end Rounds

theorem runLength_le (cls : CharClass) (text : Array Char) (bound place : Nat) :
    runLength cls text bound place ≤ bound := by
  induction bound generalizing place with
  | zero => exact Nat.le_refl 0
  | succ bound ih =>
    unfold runLength
    split
    · exact Nat.zero_le _
    · split
      · exact Nat.succ_le_succ (ih (place + 1))
      · exact Nat.zero_le _

theorem runEnds_reaches (cls : CharClass) (text : Array Char) (greedy : Bool) (least : Nat)
    (most : Option Nat) (place : Nat) :
    ∀ stop ∈ runEnds cls text greedy least most place, Reaches text.size place stop := by
  intro stop among
  have bound := runLength_le cls text
    (min (text.size - place) (most.getD (text.size - place))) place
  have isEnd : stop ∈ (List.range (runLength cls text
      (min (text.size - place) (most.getD (text.size - place))) place + 1 - least)).map
        fun more => place + least + more := by
    unfold runEnds at among
    cases greedy with
    | false => exact among
    | true => exact List.mem_reverse.mp among
  obtain ⟨more, isMore, rfl⟩ := List.mem_map.mp isEnd
  have few := List.mem_range.mp isMore
  exact ⟨by omega, by omega⟩

/-! ## Graphs -/

/-- A search in a graph goes on from the places from which it is to go on. -/
theorem Graph.search_finds {graph : Graph} {text : Array Char} {start fuel : Nat}
    {next : List (Nat × Nat)} {search : Search}
    (reached : ∀ one ∈ next, Reaches text.size start one.2)
    (finds : search.Finds (Reaches text.size start)) :
    (Graph.search graph text fuel next search).Finds (Reaches text.size start) := by
  induction fuel generalizing next search with
  | zero =>
    rw [Graph.search.eq_def]
    exact finds
  | succ fuel ih =>
    cases next with
    | nil =>
      rw [Graph.search.eq_def]
      exact finds
    | cons first rest =>
      obtain ⟨number, place⟩ := first
      obtain ⟨here, behind⟩ := List.forall_mem_cons.mp reached
      have noted := finds.pass (number * (text.size + 1) + place)
      rw [Graph.search]
      dsimp only
      split
      · exact ih behind finds
      · split
        · exact ih behind noted
        · exact ih behind (noted.find here)
        · split
          · next takes =>
            cases there : text[place]? with
            | none => simp [there] at takes
            | some c =>
              exact ih (List.forall_mem_cons.mpr ⟨here.trans (.next there), behind⟩) noted
          · exact ih behind noted
        · split
          · exact ih (List.forall_mem_cons.mpr ⟨here, behind⟩) noted
          · exact ih behind noted
        · exact ih (List.forall_mem_cons.mpr ⟨here, List.forall_mem_cons.mpr ⟨here, behind⟩⟩) noted

theorem Graph.ends_reaches (pattern : Pattern) (text : Array Char) (place : Nat) :
    ∀ stop ∈ Graph.ends pattern text place, Reaches text.size place stop := by
  unfold Graph.ends
  exact (Graph.search_finds (List.forall_mem_singleton.mpr (.refl text.size place))
    Search.finds_start).ends

/-! ## Matches -/

/-- **A match ends where it starts or behind, and in the text if it starts there.** -/
theorem reaches_of_mem_ends {pattern : Pattern} {text : Array Char} {place stop : Nat}
    (among : stop ∈ pattern.ends text place) : Reaches text.size place stop := by
  induction pattern generalizing place stop with
  | empty =>
    rw [List.mem_singleton.mp among]
    exact .refl text.size place
  | one cls =>
    rw [Pattern.ends] at among
    split at among
    · cases among
    · next c here =>
      split at among
      · rw [List.mem_singleton.mp among]
        exact .next here
      · cases among
  | assertion condition =>
    rw [Pattern.ends] at among
    split at among
    · rw [List.mem_singleton.mp among]
      exact .refl text.size place
    · cases among
  | seq first second ihFirst ihSecond =>
    obtain ⟨middle, isMiddle, isStop⟩ := List.mem_flatMap.mp (mem_of_mem_distinct among)
    exact (ihFirst isMiddle).trans (ihSecond isStop)
  | choice first second ihFirst ihSecond =>
    exact (List.mem_append.mp (mem_of_mem_distinct among)).elim ihFirst ihSecond
  | rounds greedy least most body ih =>
    rw [Pattern.ends.eq_def] at among
    -- Of the equations of `ends` only the three of a repetition are about one.
    split at among <;> rename_i same <;> cases same
    · exact runEnds_reaches _ _ greedy least most _ stop among
    · exact repetition_reaches (fun place next => ih) greedy least _ _ stop among
    · exact Graph.ends_reaches _ _ _ stop among

/-- The match at a place ends there or behind it. -/
theorem le_of_matchAt? {pattern : Pattern} {text : Array Char} {place stop : Nat}
    (isMatch : pattern.matchAt? text place = some stop) : place ≤ stop :=
  (reaches_of_mem_ends (List.mem_of_head? isMatch)).onward

/-! ## Matches that follow one another -/

/-- A match takes a place from the matches that start there: it starts before the place and goes
on beyond it, or it ends right there and the match at the place is empty. -/
def Takes (pattern : Pattern) (text : Array Char) (earlier : Span) (place : Nat) : Prop :=
  earlier.start < place ∧
    (place < earlier.stop ∨ earlier.stop = place ∧ pattern.matchAt? text place = some place)

section FindAll

variable {pattern : Pattern} {text : Array Char}

/-- What is found from a place on is a match at that place or behind it; at the end of the match
before it is no empty one. -/
theorem matchesFrom_sound {fuel place : Nat} {last : Option Nat} {span : Span}
    (among : span ∈ pattern.matchesFrom text fuel place last) :
    place ≤ span.start ∧ span.start ≤ text.size ∧
      pattern.matchAt? text span.start = some span.stop ∧
      (span.start = place → last = some place → span.stop ≠ place) := by
  induction fuel generalizing place last with
  | zero => cases among
  | succ fuel ih =>
    rw [matchesFrom] at among
    split at among
    · cases among
    · next inside =>
      split at among
      · obtain ⟨behind, within, isMatch, -⟩ := ih among
        exact ⟨by omega, within, isMatch, by omega⟩
      · next stop isMatch =>
        have onward := le_of_matchAt? isMatch
        split at among
        · next noFurther =>
          obtain rfl : stop = place := by omega
          split at among
          · obtain ⟨behind, within, isMatch, -⟩ := ih among
            exact ⟨by omega, within, isMatch, by omega⟩
          · next apart =>
            rcases List.mem_cons.mp among with rfl | among
            · exact ⟨Nat.le_refl _, Nat.le_of_not_lt inside, isMatch,
                fun _ same => absurd same apart⟩
            · obtain ⟨behind, within, isMatch, -⟩ := ih among
              exact ⟨by omega, within, isMatch, by omega⟩
        · next further =>
          rcases List.mem_cons.mp among with rfl | among
          · exact ⟨Nat.le_refl _, Nat.le_of_not_lt inside, isMatch,
              fun _ _ => Nat.ne_of_gt (Nat.lt_of_not_le further)⟩
          · obtain ⟨behind, within, isMatch, -⟩ := ih among
            exact ⟨by omega, within, isMatch, by omega⟩

/-- Of two matches that are found the first takes no place from the second. -/
theorem matchesFrom_pairwise (fuel place : Nat) (last : Option Nat) :
    (pattern.matchesFrom text fuel place last).Pairwise fun earlier later =>
      earlier.start < later.start ∧ ¬ Takes pattern text earlier later.start := by
  induction fuel generalizing place last with
  | zero => exact .nil
  | succ fuel ih =>
    rw [matchesFrom]
    split
    · exact .nil
    · split
      · exact ih _ _
      · next stop isMatch =>
        have onward := le_of_matchAt? isMatch
        split
        · split
          · exact ih _ _
          · refine .cons (fun later isLater => ?_) (ih _ _)
            obtain ⟨behind, -⟩ := matchesFrom_sound isLater
            refine ⟨behind, ?_⟩
            rintro ⟨-, beyond | ⟨same, -⟩⟩
            · exact absurd beyond (Nat.not_lt_of_gt behind)
            · exact absurd same (Nat.ne_of_lt behind)
        · next further =>
          refine .cons (fun later isLater => ?_) (ih _ _)
          obtain ⟨behind, -, isMatch', notEmpty⟩ := matchesFrom_sound isLater
          refine ⟨Nat.lt_of_lt_of_le (Nat.lt_of_not_le further) behind, ?_⟩
          rintro ⟨-, beyond | ⟨same, isEmpty⟩⟩
          · exact absurd behind (Nat.not_le_of_gt beyond)
          · rw [isEmpty] at isMatch'
            exact notEmpty same.symm rfl ((Option.some.inj isMatch').symm.trans same.symm)

/-- A match that none of those that are found takes the place from is found. -/
theorem matchesFrom_complete {fuel place stop start : Nat} {last : Option Nat}
    (enough : text.size < place + fuel) (behind : place ≤ start) (inside : start ≤ text.size)
    (isMatch : pattern.matchAt? text start = some stop)
    (follows : last = some start → stop ≠ start)
    (free : ∀ earlier ∈ pattern.matchesFrom text fuel place last,
      ¬ Takes pattern text earlier start) :
    ⟨start, stop⟩ ∈ pattern.matchesFrom text fuel place last := by
  induction fuel generalizing place last with
  | zero => omega
  | succ fuel ih =>
    rw [matchesFrom, if_neg (by omega)] at free ⊢
    have onward := le_of_matchAt? isMatch
    by_cases isHere : place = start
    · subst isHere
      rw [isMatch]
      dsimp only
      by_cases further : stop ≤ place
      · obtain rfl : stop = place := by omega
        rw [if_pos further, if_neg fun same => follows same rfl]
        exact List.mem_cons_self
      · rw [if_neg further]
        exact List.mem_cons_self
    · have later : place + 1 ≤ start := by omega
      split at free
      · exact ih (by omega) later (by simp) free
      · next between _ =>
        split at free
        · next noFurther =>
          rw [if_pos noFurther]
          split at free
          · next again =>
            rw [if_pos again]
            exact ih (by omega) later (by simp) free
          · next apart =>
            rw [if_neg apart]
            exact List.mem_cons_of_mem _ (ih (by omega) later (by simp)
              (List.forall_mem_cons.mp free).2)
        · next further =>
          rw [if_neg further]
          obtain ⟨notTaken, free⟩ := List.forall_mem_cons.mp free
          have before : between ≤ start := by
            by_contra beyond
            exact notTaken ⟨later, .inl (Nat.lt_of_not_le beyond)⟩
          refine List.mem_cons_of_mem _ (ih (by omega) before ?_ free)
          rintro same rfl
          exact notTaken ⟨later, .inr ⟨Option.some.inj same, isMatch⟩⟩

/-- **The matches that follow one another are those whose place no other one of them takes.** -/
theorem mem_findAll_iff {span : Span} :
    span ∈ pattern.findAll text ↔
      span.start ≤ text.size ∧ pattern.matchAt? text span.start = some span.stop ∧
        ∀ earlier ∈ pattern.findAll text, ¬ Takes pattern text earlier span.start := by
  constructor
  · intro isFound
    obtain ⟨-, inside, isMatch, -⟩ := matchesFrom_sound isFound
    refine ⟨inside, isMatch, fun earlier isEarlier takes => ?_⟩
    have before := takes.1
    obtain ⟨place, bound, rfl⟩ := List.getElem_of_mem isEarlier
    obtain ⟨other, bound', rfl⟩ := List.getElem_of_mem isFound
    have pairwise : (pattern.findAll text).Pairwise _ :=
      matchesFrom_pairwise (text.size + 1) 0 none
    have ordered := List.pairwise_iff_getElem.mp pairwise
    rcases Nat.lt_trichotomy place other with less | rfl | more
    · exact (ordered place other bound bound' less).2 takes
    · exact absurd before (Nat.lt_irrefl _)
    · exact absurd before (Nat.lt_asymm (ordered other place bound' bound more).1)
  · rintro ⟨inside, isMatch, free⟩
    exact matchesFrom_complete (by omega) (Nat.zero_le _) inside isMatch (by simp) free

end FindAll

end PluginAudit.Pattern
