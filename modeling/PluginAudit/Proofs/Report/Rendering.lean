import PluginAudit.Proofs.Text.Lines
import PluginAudit.Report

/-!
# What the text of a report tells

The text of a report numbers its findings and ends with the line of its verdict
(`getLast?_render`). Messages are written into it as they stand, and a message of
several lines goes on in lines of its own (`filter_lines_render`). The text tells the
report (`Tells`) exactly if none of these further lines looks like one of the
report's own (`tells_render_iff`).
-/

set_option autoImplicit false

namespace PluginAudit.Report

open Text

/-! ## Lines of a report's own -/

/-- Whether a line begins as the one with the verdict does. -/
def isResultLine (line : String) : Bool := "Result: ".toList.isPrefixOf line.toList

/-- Whether a line begins with a number and a point, blanks before them apart. -/
def isNumbered (line : String) : Bool :=
  let written := line.toList.dropWhile (· == ' ')
  written.head?.any Char.isDigit && (written.dropWhile Char.isDigit).head? == some '.'

/-- The line with a verdict. -/
def resultLine (verdict : Verdict) : String := "Result: " ++ verdict.label

/-- What stands before the message of a finding: its number, which counts from one, and its code.
-/
def mark (index : Nat) (code : String) : String :=
  "  " ++ toString (index + 1) ++ ". [" ++ code ++ "] "

/-- The line of a finding, with the first line of its message. -/
def findingLine (index : Nat) (finding : Finding) : String :=
  mark index finding.code ++ firstLine finding.message

/-- The lines of findings: those of the issues, numbered from one, then those of the warnings. -/
def findingLines (report : Report) : List String :=
  report.issues.mapIdx findingLine ++ report.warnings.mapIdx findingLine

/-- A text tells a report: it has one line that begins as the one with the verdict does, this is
the last line, and it tells the verdict; and the lines that are numbered are those of the
findings. -/
structure Tells (text : String) (report : Report) : Prop where
  single : (lines text).filter isResultLine = [resultLine report.verdict]
  last : (lines text).getLast? = some (resultLine report.verdict)
  numbered : (lines text).filter isNumbered = report.findingLines

theorem isResultLine_resultLine (verdict : Verdict) : isResultLine (resultLine verdict) = true := by
  cases verdict <;> decide

theorem isNumbered_resultLine (verdict : Verdict) : isNumbered (resultLine verdict) = false := by
  cases verdict <;> decide

theorem pieces_resultLine (verdict : Verdict) :
    pieces (resultLine verdict) = [resultLine verdict] := by
  cases verdict <;> decide

theorem isResultLine_findingLine (index : Nat) (finding : Finding) :
    isResultLine (findingLine index finding) = false := by
  simp [isResultLine, findingLine, mark, List.isPrefixOf]

/-- The digits of a number are followed by a point. -/
theorem isNumbered_findingLine (index : Nat) (finding : Finding) :
    isNumbered (findingLine index finding) = true := by
  have digits : ∀ c ∈ Nat.toDigits 10 (index + 1), c.isDigit = true := by
    intro c among
    exact Nat.isDigit_of_mem_toDigits (by decide) (by decide) among
  cases written : Nat.toDigits 10 (index + 1) with
  | nil => exact absurd written Nat.toDigits_ne_nil
  | cons first more =>
    rw [written] at digits
    obtain ⟨isDigit, areDigits⟩ := List.forall_mem_cons.mp digits
    have noBlank : first ≠ ' ' := by
      rintro rfl
      exact absurd isDigit (by decide)
    have point (rest : List Char) :
        (more ++ '.' :: rest).dropWhile Char.isDigit = '.' :: rest := by
      rw [List.dropWhile_append_of_pos areDigits, List.dropWhile_cons_of_neg (by decide)]
    simp [isNumbered, findingLine, mark, written, noBlank, isDigit, point]

/-! ## Parts of the text -/

/-- Texts, each with a line break behind it. -/
def ended (texts : List String) : String := String.join (texts.map (· ++ "\n"))

/-- Each of these texts has lines of its own. -/
theorem lines_ended (texts : List String) : lines (ended texts) = texts.flatMap pieces := by
  induction texts with
  | nil => decide
  | cons text texts ih =>
    rw [ended, List.map_cons, String.join_cons, lines_append, List.flatMap_cons, ← ih]
    rfl

/-- A finding as a report has it, told its place among those of its severity. -/
def entry (placed : Finding × Nat) : String := mark placed.2 placed.1.code ++ placed.1.message

/-- The parts of a section: a heading, and the findings. -/
def sectionParts (heading : String) (findings : List Finding) : List String :=
  if findings.isEmpty then []
  else "" :: (heading ++ " (" ++ toString findings.length ++ "):") :: findings.zipIdx.map entry

/-- The parts of a report's text. -/
def parts (report : Report) : List String :=
  "=== Plugin Validation Results ===" :: ("Plugin ID: " ++ report.pluginId) ::
    ("Plugin Path: " ++ report.pluginPath) ::
    ((if report.findings.isEmpty then ["", "Plugin passed all validation checks."]
      else sectionParts "Issues Found" report.issues ++ sectionParts "Warnings" report.warnings) ++
    ["", resultLine report.verdict])

theorem listing_eq (heading : String) (findings : List Finding) :
    listing heading findings = ended (sectionParts heading findings) := by
  rw [listing, sectionParts, ← String.toList_inj]
  split
  · rfl
  · simp [ended, List.mapIdx_eq_zipIdx_map, List.flatMap_map, mark, entry]

/-- Each part of a report's text ends with a line break. -/
theorem render_eq (report : Report) : report.render = ended report.parts := by
  delta render
  rw [parts, listing_eq, listing_eq, ← String.toList_inj]
  split <;> simp [ended, resultLine]

/-! ## Lines of the text -/

/-- What a report writes around its messages is in one line: its id, its path, and the codes of
its findings. -/
structure FramedInLines (report : Report) : Prop where
  id : OneLine report.pluginId
  path : OneLine report.pluginPath
  codes : ∀ finding ∈ report.findings, OneLine finding.code

/-- The findings in the order of the text, each with its place among those of its severity. -/
def placed (report : Report) : List (Finding × Nat) :=
  report.issues.zipIdx ++ report.warnings.zipIdx

/-- Whether nothing is in a line, or its first character is that of a heading. -/
def isHeading (line : String) : Bool := line.toList.head?.all "=PIW".toList.contains

theorem isResultLine_of_isHeading {line : String} (heading : isHeading line = true) :
    isResultLine line = false := by
  rw [isHeading] at heading
  rw [isResultLine]
  cases written : line.toList with
  | nil => rfl
  | cons first more =>
    rw [written] at heading
    have noHeading : "=PIW".toList.contains 'R' = false := by decide
    have other : 'R' ≠ first := by
      rintro rfl
      exact absurd (noHeading.symm.trans heading) Bool.false_ne_true
    simp [List.isPrefixOf, other]

theorem isNumbered_of_isHeading {line : String} (heading : isHeading line = true) :
    isNumbered line = false := by
  have letters : ∀ c ∈ "=PIW".toList, (c == ' ') = false ∧ c.isDigit = false := by simp
  rw [isHeading] at heading
  rw [isNumbered]
  cases written : line.toList with
  | nil => rfl
  | cons first more =>
    rw [written] at heading
    obtain ⟨noBlank, noDigit⟩ := letters first (List.contains_iff_mem.mp heading)
    simp [List.dropWhile, noBlank, noDigit]

section Lines

variable {report : Report}

/-- A finding is an issue or a warning, so that every finding has its place in the text. -/
theorem forall_placed_iff {holds : Finding → Prop} :
    (∀ one ∈ report.placed, holds one.1) ↔ ∀ finding ∈ report.findings, holds finding := by
  have listed : report.placed.map (·.1) = report.issues ++ report.warnings := by
    rw [placed, List.map_append]
    simp
  rw [← List.forall_mem_map, listed]
  simp only [issues, warnings, List.mem_append, List.mem_filter]
  constructor
  · intro each finding among
    cases severity : finding.severity with
    | issue => exact each finding (.inl ⟨among, by simp [Finding.isIssue, severity]⟩)
    | warning => exact each finding (.inr ⟨among, by simp [Finding.isWarning, severity]⟩)
  · rintro each finding (⟨among, -⟩ | ⟨among, -⟩) <;> exact each finding among

section Filter

variable {keeps : String → Bool} (apart : ∀ line, isHeading line = true → keeps line = false)

include apart

theorem filter_pieces_heading {part : String} (oneLine : OneLine part)
    (heading : isHeading part = true) : (pieces part).filter keeps = [] := by
  rw [pieces_eq, furtherLines_eq_nil_iff.mpr oneLine, firstLine_of_oneLine oneLine]
  simp [apart part heading]

theorem filter_sectionParts {heading : String} (oneLine : OneLine heading)
    (begins : ∀ more, isHeading (heading ++ more) = true) (findings : List Finding) :
    (sectionParts heading findings).flatMap (fun part => (pieces part).filter keeps) =
      findings.zipIdx.flatMap fun one => (pieces (entry one)).filter keeps := by
  have count : OneLine (heading ++ " (" ++ toString findings.length ++ "):") := by
    simp only [oneLine_append, oneLine, oneLine_toString]
    decide
  rw [sectionParts]
  split
  · next none =>
    rw [List.isEmpty_iff.mp none]
    rfl
  · rw [List.flatMap_cons, List.flatMap_cons, filter_pieces_heading apart (by decide) (by decide),
      filter_pieces_heading apart count
        (by rw [String.append_assoc, String.append_assoc]; exact begins _), List.flatMap_map]
    rfl

/-- **What is kept of the lines of a report,** where no heading is: lines of the findings, and the
line of the verdict. -/
theorem filter_lines_render (framed : report.FramedInLines) :
    (lines report.render).filter keeps =
      (report.placed.flatMap fun one => (pieces (entry one)).filter keeps) ++
        [resultLine report.verdict].filter keeps := by
  have body : (if report.findings.isEmpty then ["", "Plugin passed all validation checks."]
        else sectionParts "Issues Found" report.issues ++
          sectionParts "Warnings" report.warnings).flatMap
            (fun part => (pieces part).filter keeps) =
      report.placed.flatMap fun one => (pieces (entry one)).filter keeps := by
    split
    · next none =>
      have isEmpty : report.placed = [] := by
        rw [placed, issues, warnings, List.isEmpty_iff.mp none]
        rfl
      rw [isEmpty, List.flatMap_cons, List.flatMap_cons,
        filter_pieces_heading apart (by decide) (by decide),
        filter_pieces_heading apart (by decide) (by decide)]
      rfl
    · rw [List.flatMap_append, placed, List.flatMap_append,
        filter_sectionParts apart (by decide) (fun more => by simp [isHeading]),
        filter_sectionParts apart (by decide) (fun more => by simp [isHeading])]
  rw [render_eq, lines_ended, List.filter_flatMap, parts, List.flatMap_cons, List.flatMap_cons,
    List.flatMap_cons, List.flatMap_append, body, List.flatMap_cons, List.flatMap_singleton,
    pieces_resultLine,
    filter_pieces_heading apart (by decide) (by decide),
    filter_pieces_heading apart (oneLine_append.mpr ⟨by decide, framed.id⟩) (by simp [isHeading]),
    filter_pieces_heading apart (oneLine_append.mpr ⟨by decide, framed.path⟩) (by simp [isHeading]),
    filter_pieces_heading apart (by decide) (by decide)]
  rfl

end Filter

/-! ## What the lines tell -/

/-- A finding has a line of the report's own, and its message goes on behind it. -/
theorem pieces_entry (framed : report.FramedInLines) :
    ∀ one ∈ report.placed, pieces (entry one) =
      findingLine one.2 one.1 :: furtherLines one.1.message := by
  have codes : ∀ one ∈ report.placed, OneLine one.1.code := forall_placed_iff.mpr framed.codes
  intro one among
  refine pieces_behind ?_ one.1.message
  simp only [mark, oneLine_append, oneLine_toString, codes one among]
  decide

/-- Lines that are put behind others are not there exactly if the others are left alone. -/
theorem flatMap_cons_eq_map_iff {α β : Type} {items : List α} {first : α → β}
    {further : α → List β} :
    (items.flatMap fun item => first item :: further item) = items.map first ↔
      ∀ item ∈ items, further item = [] := by
  constructor
  · intro same
    have length := congrArg List.length same
    have count : (items.flatMap fun item => first item :: further item).length =
        items.length + (items.flatMap further).length := by
      clear same length
      induction items with
      | nil => rfl
      | cons item items ih =>
        simp only [List.flatMap_cons, List.length_append, List.length_cons] at ih ⊢
        omega
    rw [count, List.length_map] at length
    exact List.flatMap_eq_nil_iff.mp (List.eq_nil_of_length_eq_zero (by omega))
  · intro none
    induction items with
    | nil => rfl
    | cons item items ih =>
      rw [List.flatMap_cons, none item List.mem_cons_self, List.map_cons,
        ih fun item among => none item (List.mem_cons_of_mem _ among)]
      rfl

/-- The lines that begin as the one with the verdict does are those of messages, and that line. -/
theorem filter_isResultLine (framed : report.FramedInLines) :
    (lines report.render).filter isResultLine =
      (report.placed.flatMap fun one => (furtherLines one.1.message).filter isResultLine) ++
        [resultLine report.verdict] := by
  rw [filter_lines_render (fun _ => isResultLine_of_isHeading) framed,
    List.filter_cons_of_pos (isResultLine_resultLine _), List.filter_nil]
  refine congrArg (· ++ _) (congrArg List.flatten (List.map_congr_left fun one among => ?_))
  rw [pieces_entry framed one among, List.filter_cons_of_neg (by simp [isResultLine_findingLine])]

/-- The line of the verdict stands alone if no message has a line that begins like it. -/
theorem single_iff (framed : report.FramedInLines) :
    (lines report.render).filter isResultLine = [resultLine report.verdict] ↔
      ∀ finding ∈ report.findings, (furtherLines finding.message).filter isResultLine = [] := by
  rw [filter_isResultLine framed, List.append_left_eq_self, List.flatMap_eq_nil_iff,
    ← forall_placed_iff]

theorem findingLines_eq (report : Report) :
    report.findingLines = report.placed.map fun one => findingLine one.2 one.1 := by
  rw [findingLines, placed, List.map_append, List.mapIdx_eq_zipIdx_map, List.mapIdx_eq_zipIdx_map]

/-- The lines that are numbered are those of the findings, each with those of its message. -/
theorem filter_isNumbered (framed : report.FramedInLines) :
    (lines report.render).filter isNumbered = report.placed.flatMap fun one =>
      findingLine one.2 one.1 :: (furtherLines one.1.message).filter isNumbered := by
  rw [filter_lines_render (fun _ => isNumbered_of_isHeading) framed,
    List.filter_cons_of_neg (by simp [isNumbered_resultLine]), List.filter_nil, List.append_nil]
  refine congrArg List.flatten (List.map_congr_left fun one among => ?_)
  rw [pieces_entry framed one among, List.filter_cons_of_pos (isNumbered_findingLine _ _)]

/-- The findings' own lines are all that are numbered if no message has a line that is. -/
theorem numbered_iff (framed : report.FramedInLines) :
    (lines report.render).filter isNumbered = report.findingLines ↔
      ∀ finding ∈ report.findings, (furtherLines finding.message).filter isNumbered = [] := by
  rw [filter_isNumbered framed, findingLines_eq, flatMap_cons_eq_map_iff, ← forall_placed_iff]

/-- **Every finding has its line,** in the order of the numbers, whatever messages hold. -/
theorem findingLines_sublist (framed : report.FramedInLines) :
    report.findingLines.Sublist (lines report.render) := by
  refine List.Sublist.trans ?_ (List.filter_sublist (p := isNumbered))
  rw [filter_isNumbered framed, findingLines_eq]
  induction report.placed with
  | nil => exact .slnil
  | cons one others ih =>
    rw [List.map_cons, List.flatMap_cons, List.cons_append]
    exact (ih.trans (List.sublist_append_right _ _)).cons_cons _

/-- **The last line of a report's text is that of its verdict,** whatever the report holds. -/
theorem getLast?_render (report : Report) :
    (lines report.render).getLast? = some (resultLine report.verdict) := by
  have ends : ∃ before, report.parts = before ++ [resultLine report.verdict] :=
    ⟨_, (List.append_assoc (_ :: _ :: _ :: _) [""] [resultLine report.verdict]).symm⟩
  obtain ⟨before, split⟩ := ends
  rw [render_eq, lines_ended, split, List.flatMap_append, List.flatMap_singleton,
    pieces_resultLine, List.getLast?_concat]

/-- **The text of a report tells it** exactly if no line of a message, the first apart, begins as
the one with the verdict does or is numbered. -/
theorem tells_render_iff (framed : report.FramedInLines) :
    Tells report.render report ↔ ∀ finding ∈ report.findings,
      ∀ line ∈ furtherLines finding.message,
        isResultLine line = false ∧ isNumbered line = false := by
  have none {keeps : String → Bool} {message : String} :
      (furtherLines message).filter keeps = [] ↔
        ∀ line ∈ furtherLines message, keeps line = false := by
    simp [List.filter_eq_nil_iff]
  have single := single_iff framed
  have numbered := numbered_iff framed
  simp only [none] at single numbered
  constructor
  · intro tells finding among line further
    exact ⟨single.mp tells.single finding among line further,
      numbered.mp tells.numbered finding among line further⟩
  · intro each
    refine ⟨single.mpr ?_, getLast?_render report, numbered.mpr ?_⟩
    · intro finding among line further
      exact (each finding among line further).1
    · intro finding among line further
      exact (each finding among line further).2

end Lines

end PluginAudit.Report
