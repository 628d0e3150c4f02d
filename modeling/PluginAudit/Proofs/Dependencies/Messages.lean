import PluginAudit.Dependencies.InTree
import PluginAudit.Proofs.Json.Messages

/-!
# What is said about dependencies

Why a dependency manifest cannot be read is told in one line, whatever it holds
(`oneLine_parse`). Of the packages themselves messages repeat only names: of those
that the host provides and that are declared for use at run time
(`oneLine_audit_iff`), and of those that must not be declared, which the rules
name as well (`oneLine_auditDangerous`).
-/

set_option autoImplicit false

namespace PluginAudit

open Text

theorem FileTree.Fault.oneLine_message (fault : Fault) : OneLine fault.message := by
  cases fault <;> decide

namespace Dependencies

open Json

/-! ## Reading -/

theorem told_packages (levels : Nat) (text : List Char) : Told (packages levels text) := by
  refine told_objectOf (by decide) (fun _ declared name text => ?_) _ _ _
  exact (told_colon text).bind fun text => (told_stringValue text).bind fun _ => told_pure _

theorem cause_closing (cause : Cause) (rest : List Char) :
    (Fault.closing cause rest).cause = cause := by
  rw [Fault.closing]
  split <;> rfl

theorem told_duplicate {key : String} (isKey : OneLine key) (text : List Char) :
    Told (.error (.closing (.duplicateField key) text) : Except Fault (Fields × List Char)) := by
  rw [told_error, cause_closing]
  change OneLine ("duplicate field `" ++ key ++ "`")
  rw [oneLine_append, oneLine_append]
  exact ⟨⟨by decide, isKey⟩, by decide⟩

/-- Only a key of the two fields can be told as one that is there twice. -/
theorem told_member (levels : Nat) (fields : Fields) (key : String) (text : List Char) :
    Told (member levels fields key text) := by
  rw [member]
  split
  · next isKey =>
    obtain rfl := beq_iff_eq.mp isKey
    refine told_ite (told_duplicate (by decide) text) ?_
    exact (told_colon text).bind fun text => (told_packages levels text).bind fun _ => told_pure _
  · split
    · next isKey =>
      obtain rfl := beq_iff_eq.mp isKey
      refine told_ite (told_duplicate (by decide) text) ?_
      exact (told_colon text).bind fun text => (told_packages levels text).bind fun _ => told_pure _
    · exact (told_colon text).bind fun text => (told_skimValue text).bind fun _ => told_pure _

theorem told_nextItem (first : Bool) (text : List Char) : Told (nextItem first text) := by
  unfold nextItem
  split
  · exact told_fixed rfl
  · exact told_ok _
  · split
    · exact told_fixed rfl
    · exact told_fixed rfl
    · exact told_ok _
  · exact told_ok _
  · exact told_fixed rfl

theorem told_listEnd (text : List Char) : Told (listEnd text) := by
  unfold listEnd
  split
  · exact told_fixed rfl
  · exact told_ok _
  · split
    · exact told_fixed rfl
    · exact told_fixed rfl
  · exact told_fixed rfl

theorem told_listed (levels : Nat) (text : List Char) : Told (listed levels text) := by
  refine (told_nextItem true text).bind fun first => ?_
  cases first with
  | none => exact (told_listEnd text).bind fun _ => told_pure _
  | some item =>
    refine (told_packages levels item).bind fun runtime => ?_
    refine (told_nextItem false runtime.2).bind fun second => ?_
    cases second with
    | none => exact (told_listEnd runtime.2).bind fun _ => told_pure _
    | some item =>
      exact (told_packages levels item).bind fun development =>
        (told_listEnd development.2).bind fun _ => told_pure _

theorem told_reader (text : List Char) : Told (reader text) := by
  rw [reader.eq_def]
  split
  · exact told_listed _ _
  · exact (told_objectOf (by decide) told_member _ _ _).bind fun _ => told_pure _

/-- **Why a text is no dependency manifest is told in one line.** -/
theorem oneLine_parse {text reason : String} (refused : parse text = .error reason) :
    OneLine reason :=
  oneLine_refusal told_reader refused

/-! ## Findings -/

section Findings

variable {layout : Layout} {rules : Rules} {tree : FileTree} {plugin : Path}

/-- Why nothing is declared, though there is a manifest, is told in one line. -/
theorem oneLine_reason {reason : String}
    (unread : ofPlugin? layout tree plugin = some (.error reason)) : OneLine reason := by
  delta ofPlugin? at unread
  dsimp only at unread
  split at unread
  · cases unread
  · cases read : tree.readText (plugin.join layout.dependencyManifest) with
    | error fault =>
      rw [read] at unread
      obtain rfl := Except.error.inj (Option.some.inj unread)
      exact fault.oneLine_message
    | ok text =>
      rw [read] at unread
      exact oneLine_parse (Option.some.inj unread)

/-- Of the packages that can be declared, messages repeat the names of those that the host
provides and that are declared for use at run time. -/
theorem oneLine_audit_iff (isFile : OneLine layout.dependencyManifest) :
    (∀ finding ∈ audit layout rules tree plugin, OneLine finding.message) ↔
      ∀ dependencies, ofPlugin? layout tree plugin = some (.ok dependencies) →
        ∀ package ∈ dependencies.runtime, (rules.corePrefix? package.1).isSome = true →
          OneLine package.1 := by
  delta audit
  split
  · next none => simp [none]
  · next reason unread =>
    have isReason : OneLine reason := oneLine_reason unread
    have isMalformed : OneLine (malformed layout reason).message := by
      change OneLine ("Invalid " ++ layout.dependencyManifest ++ ": " ++ reason)
      rw [oneLine_append, oneLine_append, oneLine_append]
      exact ⟨⟨⟨by decide, isFile⟩, by decide⟩, isReason⟩
    simp [unread, isMalformed]
  · next dependencies found =>
    have isNamed (name : String) : OneLine ("Plugin should use " ++ name ++
        " from the parent project, not as a direct dependency") ↔ OneLine name := by
      rw [oneLine_append, oneLine_append]
      exact (and_iff_left (by decide)).trans (and_iff_right (by decide))
    simp only [found, coreFindings, List.forall_mem_map, List.mem_filter, isNamed,
      Option.some.injEq, Except.ok.injEq, forall_eq', and_imp]

/-- A package that must not be declared has its name in the rules. -/
theorem oneLine_auditDangerous (named : ∀ name ∈ rules.document.dangerousPackages, OneLine name)
    {finding : Finding} (among : finding ∈ auditDangerous layout rules tree plugin) :
    OneLine finding.message := by
  delta auditDangerous at among
  split at among
  · next dependencies _ =>
    rw [dangerousFindings] at among
    split at among
    · cases among
    · rw [List.mem_singleton.mp among]
      refine oneLine_append.mpr ⟨by decide, (oneLine_intercalate (by decide)).mpr ?_⟩
      intro name isDangerous
      exact named name (List.contains_iff_mem.mp (List.mem_filter.mp isDangerous).2)
  · cases among

end Findings

end Dependencies

end PluginAudit
