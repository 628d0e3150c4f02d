import PluginAudit.Proofs.Pattern.Continuation
import PluginAudit.Proofs.Rules.Brackets
import PluginAudit.Proofs.Scan.Occurrences

/-!
# Texts that go on with new lines

What a scan reports in a text it reports in the text with more lines behind it.
A match is excused by the rest of its own line and suppressed by what stands on
its own line before it, and neither changes (`excused_append`,
`isSuppressed_append`). So it comes down to the matches themselves, which are
found again where the patterns are linewise. The standard ones are
(`source_append_standard`). A pattern with an anchor at the end of the text is
not, and what it reports can be lost.
-/

set_option autoImplicit false

namespace PluginAudit

namespace Scan

open Pattern (Span)

variable {text more : Array Char}

/-! ## Lines -/

/-- The rest of a line ends where more lines begin. -/
theorem restOfLine_append (nextLine : more[0]? = some '\n') {place : Nat}
    (inside : place ≤ text.size) :
    Rules.restOfLine (text ++ more) place = Rules.restOfLine text place := by
  obtain ⟨lines, rfl⟩ : ∃ lines : List Char, more = ('\n' :: lines).toArray := by
    obtain ⟨list⟩ := more
    cases list with
    | nil => simp at nextLine
    | cons c lines =>
      obtain rfl : c = '\n' := by simpa using nextLine
      exact ⟨lines, rfl⟩
  have rest : ((text ++ ('\n' :: lines).toArray).extract place
      (text ++ ('\n' :: lines).toArray).size).toList =
        (text.extract place text.size).toList ++ '\n' :: lines := by
    simp [Nat.sub_eq_zero_of_le inside, List.take_of_length_le]
  rw [Rules.restOfLine, Rules.restOfLine, rest, List.takeWhile_append]
  split
  · next all =>
    rw [List.takeWhile_cons_of_neg (by decide), List.append_nil]
    exact ((List.takeWhile_prefix _).eq_of_length all).symm
  · rfl

theorem lineStart_append {place : Nat} (inside : place ≤ text.size) :
    Rules.lineStart (text ++ more) place = Rules.lineStart text place := by
  induction place with
  | zero => rfl
  | succ place ih =>
    rw [Rules.lineStart, Rules.lineStart, Array.getElem?_append_left inside, ih (by omega)]

/-! ## Matches that count -/

/-- The same safe calls suppress a place, whatever follows the text. -/
theorem isSuppressed_append (rules : Rules) {place : Nat} (inside : place ≤ text.size) :
    rules.isSuppressed (text ++ more) place = rules.isSuppressed text place := by
  have line : Rules.lineBefore (text ++ more) place = Rules.lineBefore text place := by
    have before := Rules.lineStart_le text place
    rw [Rules.lineBefore, Rules.lineBefore, lineStart_append inside, Array.extract_append,
      Nat.sub_eq_zero_of_le inside]
    simp
  rw [Rules.isSuppressed, Rules.isSuppressed, line]

theorem excused_append (nextLine : more[0]? = some '\n') (danger : Rules.Danger) {span : Span}
    (within : span.stop ≤ text.size) :
    Excused danger (text ++ more) span ↔ Excused danger text span := by
  rw [Excused, Excused, restOfLine_append nextLine within]

/-- What is detected in a text is detected in the text with more lines, where the pattern is
linewise. -/
theorem isDetected_append {rules : Rules} {danger : Rules.Danger}
    (linewise : danger.pattern.isLinewise = true) (nextLine : more[0]? = some '\n')
    (isDetected : isDetected rules text danger = true) :
    Scan.isDetected rules (text ++ more) danger = true := by
  simp only [Scan.isDetected, List.any_eq_true, mem_matches_iff] at isDetected ⊢
  obtain ⟨span, ⟨isFound, notExcused⟩, exposed⟩ := isDetected
  obtain ⟨inside, isMatch, -⟩ := Pattern.mem_findAll_iff.mp isFound
  have within : span.stop ≤ text.size := by
    have := (Pattern.reaches_of_mem_ends (List.mem_of_head? isMatch)).within
    omega
  refine ⟨span, ⟨(Pattern.mem_findAll_append linewise nextLine within).mpr isFound, ?_⟩, ?_⟩
  · rwa [excused_append nextLine danger within]
  · rwa [isSuppressed_append rules inside]

/-! ## Reports -/

/-- Two lists that are filtered in step give parts in step, where the second filter lets pass what
the first does. -/
theorem sublist_map_filter {α β : Type} {first second : List α} {test test' : α → Bool}
    {label : α → β}
    (inStep : List.Forall₂ (fun item other => label item = label other ∧
      (test item = true → test' other = true)) first second) :
    ((first.filter test).map label).Sublist ((second.filter test').map label) := by
  induction inStep with
  | nil => exact .slnil
  | @cons item other first second isFirst _ ih =>
    obtain ⟨sameLabel, implies⟩ := isFirst
    cases passes : test item with
    | false =>
      rw [List.filter_cons_of_neg (by simp [passes])]
      exact ih.trans (((List.sublist_cons_self other second).filter test').map label)
    | true =>
      rw [List.filter_cons_of_pos passes, List.filter_cons_of_pos (implies passes), List.map_cons,
        List.map_cons, sameLabel]
      exact ih.cons_cons _

/-- Rules all of whose dangerous patterns are linewise. -/
def Linewise (rules : Rules) : Bool :=
  rules.categories.all fun category => category.dangers.all fun danger => danger.pattern.isLinewise

/-- What is found in a text is found, in the same order, in the text with more lines. -/
theorem source_append_sublist {rules : Rules} (linewise : Linewise rules = true)
    (file content more : String) :
    (source rules file content).Sublist (source rules file (content ++ "\n" ++ more)) := by
  have longer : (content ++ "\n" ++ more).toList.toArray =
      content.toList.toArray ++ ('\n' :: more.toList).toArray := by
    simp [String.toList_append]
  rw [source, source, longer]
  refine sublist_map_filter (List.forall₂_same.mpr fun category isCategory => ⟨rfl, ?_⟩)
  intro reported
  obtain ⟨danger, isDanger, detected⟩ := List.any_eq_true.mp reported
  have each := List.all_eq_true.mp (List.all_eq_true.mp linewise category isCategory)
  exact List.any_eq_true.mpr
    ⟨danger, isDanger, isDetected_append (each danger isDanger) rfl detected⟩

/-- **Appending lines never hides a finding of the standard rules.** Whatever lines follow a text,
all that the standard rules report in the text they report in the whole, in the same order. -/
theorem source_append_standard :
    ∃ rules, Rules.ofDocument .standard = .ok rules ∧ ∀ file content more : String,
      (source rules file content).Sublist (source rules file (content ++ "\n" ++ more)) := by
  obtain ⟨rules, isStandard, linewise⟩ := standard_holds Linewise (by decide +kernel)
  exact ⟨rules, isStandard, source_append_sublist linewise⟩

/-- What a pattern that asks for the end of the text reports is lost when a line follows. -/
example :
    let document := { Rules.Document.standard with categories := [⟨"last", [.plain "eval$"]⟩] }
    (Rules.ofDocument document).toOption.any (fun rules =>
      !(source rules "index.js" "eval").isEmpty && (source rules "index.js" "eval\n").isEmpty) :=
  by decide +kernel

end Scan

end PluginAudit
