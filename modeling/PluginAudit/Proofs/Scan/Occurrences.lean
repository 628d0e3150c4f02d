import PluginAudit.Proofs.Pattern.Matches
import PluginAudit.Proofs.Rules.Compilation
import PluginAudit.Scan

/-!
# Which occurrences a scan reports

An occurrence of a dangerous pattern counts when nothing excuses it and no safe
call on its line suppresses it (`Exposed`). A scan looks at the matches that
follow one another, and only then drops those that do not count. An occurrence
that begins inside such a match is never looked at, whether the match counts
or not.

So a category is reported exactly when one of its patterns has an exposed
occurrence whose place no match takes, and it is left out exactly when every
exposed occurrence is hidden by a match that does not count
(`reported_iff_exposed_in_reach`). Hidden occurrences exist, and not only in
theory: a call that starts among the arguments of a safe call on one line
hides a dangerous call on the next line, which no safe call covers
(`suppressed_match_hides_next_line`).
-/

set_option autoImplicit false

namespace PluginAudit

namespace Scan

open Pattern (Span)

/-! ## Occurrences -/

/-- The rest of its line excuses a match. -/
def Excused (danger : Rules.Danger) (text : Array Char) (span : Span) : Prop :=
  ∃ excuse, danger.excuse = some excuse ∧
    excuse.isMatch (Rules.restOfLine text span.stop).toArray = true

/-- An occurrence of a dangerous pattern that counts: the pattern matches at a place of the text,
whatever matches before it, the rest of the line does not excuse the match, and no safe call on
the line suppresses the place. -/
structure Exposed (rules : Rules) (text : Array Char) (danger : Rules.Danger) (span : Span) :
    Prop where
  inside : span.start ≤ text.size
  isMatch : danger.pattern.matchAt? text span.start = some span.stop
  notExcused : ¬ Excused danger text span
  notSuppressed : rules.isSuppressed text span.start = false

/-- A match does not count. -/
def Discarded (rules : Rules) (text : Array Char) (danger : Rules.Danger) (span : Span) : Prop :=
  Excused danger text span ∨ rules.isSuppressed text span.start = true

/-- A match that is found takes the place of an occurrence. -/
def Hides (text : Array Char) (danger : Rules.Danger) (earlier span : Span) : Prop :=
  earlier ∈ danger.pattern.findAll text ∧ danger.pattern.Takes text earlier span.start

/-- What is found either counts or is discarded. -/
theorem exposed_iff_of_mem_findAll {rules : Rules} {text : Array Char} {danger : Rules.Danger}
    {span : Span} (isFound : span ∈ danger.pattern.findAll text) :
    Exposed rules text danger span ↔ ¬ Discarded rules text danger span := by
  obtain ⟨inside, isMatch, -⟩ := Pattern.mem_findAll_iff.mp isFound
  rw [Discarded, not_or, Bool.not_eq_true]
  constructor
  · rintro ⟨-, -, notExcused, notSuppressed⟩
    exact ⟨notExcused, notSuppressed⟩
  · rintro ⟨notExcused, notSuppressed⟩
    exact ⟨inside, isMatch, notExcused, notSuppressed⟩

theorem mem_matches_iff {danger : Rules.Danger} {text : Array Char} {span : Span} :
    span ∈ danger.matches text ↔
      span ∈ danger.pattern.findAll text ∧ ¬ Excused danger text span := by
  rw [Rules.Danger.matches, List.mem_filter, Excused]
  cases danger.excuse with
  | none => simp
  | some excuse => simp

/-! ## Detection -/

/-- A pattern is detected where an occurrence of it counts that nothing hides. -/
theorem isDetected_iff {rules : Rules} {text : Array Char} {danger : Rules.Danger} :
    isDetected rules text danger = true ↔
      ∃ span, Exposed rules text danger span ∧ ∀ earlier, ¬ Hides text danger earlier span := by
  simp only [isDetected, List.any_eq_true, mem_matches_iff, Bool.not_eq_true']
  constructor
  · rintro ⟨span, ⟨isFound, notExcused⟩, notSuppressed⟩
    obtain ⟨inside, isMatch, inReach⟩ := Pattern.mem_findAll_iff.mp isFound
    refine ⟨span, ⟨inside, isMatch, notExcused, notSuppressed⟩, ?_⟩
    rintro earlier ⟨isEarlier, takes⟩
    exact inReach earlier isEarlier takes
  · rintro ⟨span, ⟨inside, isMatch, notExcused, notSuppressed⟩, inReach⟩
    have isFound : span ∈ danger.pattern.findAll text :=
      Pattern.mem_findAll_iff.mpr
        ⟨inside, isMatch, fun earlier isEarlier takes => inReach earlier ⟨isEarlier, takes⟩⟩
    exact ⟨span, ⟨isFound, notExcused⟩, notSuppressed⟩

/-- A pattern is not detected where something that does not count hides each of its occurrences
that do. -/
theorem not_isDetected_iff {rules : Rules} {text : Array Char} {danger : Rules.Danger} :
    ¬ isDetected rules text danger = true ↔
      ∀ span, Exposed rules text danger span →
        ∃ earlier, Hides text danger earlier span ∧ Discarded rules text danger earlier := by
  constructor
  · intro missed span exposed
    by_contra uncovered
    simp only [not_exists, not_and] at uncovered
    by_cases hidden : ∃ earlier, Hides text danger earlier span
    · -- What hides the occurrence is found, and so detected unless it is discarded.
      obtain ⟨earlier, hides⟩ := hidden
      have counts := (exposed_iff_of_mem_findAll hides.1).mpr (uncovered earlier hides)
      obtain ⟨-, -, inReach⟩ := Pattern.mem_findAll_iff.mp hides.1
      exact missed (isDetected_iff.mpr
        ⟨earlier, counts, fun other hidesIt => inReach other hidesIt.1 hidesIt.2⟩)
    · exact missed (isDetected_iff.mpr
        ⟨span, exposed, fun earlier hides => hidden ⟨earlier, hides⟩⟩)
  · intro covered isDetected
    obtain ⟨span, exposed, inReach⟩ := isDetected_iff.mp isDetected
    obtain ⟨earlier, hides, -⟩ := covered span exposed
    exact inReach earlier hides

/-! ## Reports -/

/-- Findings in the same file tell their categories apart. -/
theorem detection_inj {category other : Rules.Category} {file : String} :
    detection category file = detection other file ↔ category.name = other.name := by
  simp [detection]

/-- A category is reported when a pattern of a category of that name is detected. -/
theorem mem_source_iff {rules : Rules} {file content : String} {category : Rules.Category} :
    detection category file ∈ source rules file content ↔
      ∃ other ∈ rules.categories, other.name = category.name ∧
        ∃ danger ∈ other.dangers, isDetected rules content.toList.toArray danger = true := by
  simp only [source, List.mem_map, List.mem_filter, List.any_eq_true, detection_inj]
  constructor
  · rintro ⟨other, ⟨isOne, detected⟩, sameName⟩
    exact ⟨other, isOne, sameName, detected⟩
  · rintro ⟨other, isOne, sameName, detected⟩
    exact ⟨other, ⟨isOne, detected⟩, sameName⟩

/-- **A category is reported exactly when an exposed occurrence of one of its patterns is in
reach**, one whose place no match of the pattern takes. It is not reported exactly when every
exposed occurrence of its patterns is hidden by a match that is suppressed or excused itself. -/
theorem reported_iff_exposed_in_reach (rules : Rules) (file content : String)
    (category : Rules.Category) :
    (detection category file ∈ source rules file content ↔
        ∃ other ∈ rules.categories, other.name = category.name ∧ ∃ danger ∈ other.dangers,
          ∃ span, Exposed rules content.toList.toArray danger span ∧
            ∀ earlier, ¬ Hides content.toList.toArray danger earlier span) ∧
      (detection category file ∉ source rules file content ↔
        ∀ other ∈ rules.categories, other.name = category.name → ∀ danger ∈ other.dangers,
          ∀ span, Exposed rules content.toList.toArray danger span →
            ∃ earlier, Hides content.toList.toArray danger earlier span ∧
              Discarded rules content.toList.toArray danger earlier) := by
  refine ⟨?_, ?_⟩
  · rw [mem_source_iff]
    simp only [isDetected_iff]
  · rw [mem_source_iff]
    simp only [not_exists, not_and, not_isDetected_iff]

/-! ## An occurrence that is hidden -/

/-- A safe call that spans two lines. The dangerous call among its arguments that starts on the
first line goes on to the second, where another one starts. -/
def spanningLog : String := "console.log(path.resolve('..',\n  path.resolve('../x')));\n"

/-- What is computed of the standard rules holds of them. -/
theorem standard_holds (holds : Rules → Bool)
    (computed : (Rules.ofDocument .standard).toOption.any holds = true) :
    ∃ rules, Rules.ofDocument .standard = .ok rules ∧ holds rules = true :=
  Rules.exists_of_computed computed

/-- What the standard rules make of that text: the pattern of the outer call matches at the inner
one too, which nothing excuses or suppresses, and no category is detected. -/
def HidesInnerCall (rules : Rules) : Bool :=
  rules.categories.any (fun category => category.dangers.any fun danger =>
      danger.pattern.matchAt? spanningLog.toList.toArray 33 == some 53 && danger.excuse.isNone) &&
    !rules.isSuppressed spanningLog.toList.toArray 33 &&
    rules.categories.all fun category =>
      !category.dangers.any (isDetected rules spanningLog.toList.toArray)

/-- **A suppressed match that runs over two lines hides a call that nothing suppresses.** -/
theorem suppressed_match_hides_next_line :
    ∃ rules, Rules.ofDocument .standard = .ok rules ∧
      (∃ category ∈ rules.categories, ∃ danger ∈ category.dangers, ∃ span,
        Exposed rules spanningLog.toList.toArray danger span) ∧
      ∀ file, source rules file spanningLog = [] := by
  obtain ⟨rules, isStandard, facts⟩ := standard_holds HidesInnerCall (by decide +kernel)
  simp only [HidesInnerCall, Bool.and_eq_true, List.any_eq_true, List.all_eq_true, beq_iff_eq,
    Bool.not_eq_true', Option.isNone_iff_eq_none] at facts
  obtain ⟨⟨⟨category, isCategory, danger, isDanger, isMatch, noExcuse⟩, notSuppressed⟩, missed⟩ :=
    facts
  refine ⟨rules, isStandard, ⟨category, isCategory, danger, isDanger, ⟨33, 53⟩, ?_⟩, fun file => ?_⟩
  · have notExcused : ¬ Excused danger spanningLog.toList.toArray ⟨33, 53⟩ := by
      rintro ⟨excuse, isExcuse, -⟩
      rw [noExcuse] at isExcuse
      cases isExcuse
    exact ⟨by decide, isMatch, notExcused, notSuppressed⟩
  · rw [source, List.map_eq_nil_iff, List.filter_eq_nil_iff]
    intro category isCategory
    rw [Bool.not_eq_true]
    exact missed category isCategory

end Scan

end PluginAudit
