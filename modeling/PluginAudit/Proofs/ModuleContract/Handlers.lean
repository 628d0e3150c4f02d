import PluginAudit.ModuleContract
import PluginAudit.Proofs.Manifest.Lowering
import PluginAudit.Proofs.Pattern.Pieces

/-!
# Handlers of hooks

For each hook a pattern is put together from the hook itself, and the source of
the primary module is searched with it. What the search looks for is told here
without patterns: the hook as it is written, apart from the name before it and
followed by a colon (`IsKey`). This holds of every hook, whatever its characters
are, also where they are those that stand around it in the source: a hook may be
empty, begin with a character that no name goes on with, or end in a quote,
blanks or a colon (`hasHandler_iff`).

The hooks that a manifest declares are checked in the order in which they are
declared first, and a hook that is declared again is not reported again
(`missing_handlers_exact`).
-/

set_option autoImplicit false

namespace PluginAudit.ModuleContract

open Pattern

/-! ## Keys -/

/-- Where a hook stands in a text as a key: at the very start or right behind a character that no
name goes on with, and before a quote, if any, blanks and a colon. -/
structure KeyBetween (hook before quote blanks after text : List Char) : Prop where
  text : text = before ++ hook ++ quote ++ blanks ++ ':' :: after
  apart : ∀ c, before.getLast? = some c → Unicode.isWordCharacter c = false ∧ c ≠ '$'
  quoted : quote = [] ∨ quote = ['\''] ∨ quote = ['"']
  blank : ∀ c ∈ blanks, Unicode.isBlank c = true

/-- A hook stands in a source as a key. -/
def IsKey (hook source : String) : Prop :=
  ∃ before quote blanks after, KeyBetween hook.toList before quote blanks after source.toList

/-! ## The parts of the pattern -/

theorem contains_blank (c : Char) : CharClass.blank.contains c = Unicode.isBlank c := by
  rw [Bool.eq_iff_iff]
  simp [CharClass.contains, CharClass.blank, CharClass.ofRanges, CharClass.unions,
    CharClass.nothing, CharClass.containsCode, Unicode.isBlank, Unicode.isBlankCode]
  omega

variable {before piece after : List Char}

theorem reads_blanks :
    Reads ModuleContract.blanks before piece after ↔ ∀ c ∈ piece, Unicode.isBlank c = true := by
  simp [ModuleContract.blanks, reads_rounds_one, contains_blank]

theorem reads_quote :
    Reads (rounds true 0 (some 1) (one (.union (.single '\'') (.single '"')))) before piece after ↔
      piece = [] ∨ piece = ['\''] ∨ piece = ['"'] := by
  rw [reads_rounds_one]
  match piece with
  | [] => simp
  | [c] => simp [CharClass.contains_union, CharClass.contains_single]
  | first :: second :: rest => simp

/-- What comes before the hook is nothing, at the start of the text, or one character. -/
theorem reads_apart :
    Reads (choice (assertion .textStart) (one (.complement (.union .word (.single '$'))))) before
        piece after ↔
      (before = [] ∧ piece = []) ∨
        ∃ c, piece = [c] ∧ Unicode.isWordCharacter c = false ∧ c ≠ '$' := by
  rw [reads_choice, reads_assertion, reads_one]
  simp [Assertion.holdsBetween, CharClass.contains_complement, CharClass.contains_union,
    CharClass.contains_single, CharClass.contains_word, and_comm]

theorem reads_handler {hook : String} :
    Reads (handler hook) before piece after ↔ ∃ lead quote blanks,
      piece = lead ++ (hook.toList ++ (quote ++ (blanks ++ [':']))) ∧
        ((before = [] ∧ lead = []) ∨
          ∃ c, lead = [c] ∧ Unicode.isWordCharacter c = false ∧ c ≠ '$') ∧
        (quote = [] ∨ quote = ['\''] ∨ quote = ['"']) ∧
        ∀ c ∈ blanks, Unicode.isBlank c = true := by
  simp only [handler, reads_sequence_cons, reads_sequence_nil, reads_apart, reads_literal,
    reads_quote, reads_blanks, reads_char]
  constructor
  · rintro ⟨lead, -, rfl, isLead, -, -, rfl, rfl, quote, -, rfl, isQuote, blanks, -, rfl, areBlank,
      -, -, rfl, rfl, rfl⟩
    exact ⟨lead, quote, blanks, rfl, isLead, isQuote, areBlank⟩
  · rintro ⟨lead, quote, blanks, rfl, isLead, isQuote, areBlank⟩
    exact ⟨lead, _, rfl, isLead, _, _, rfl, rfl, quote, _, rfl, isQuote, blanks, _, rfl, areBlank,
      _, _, rfl, rfl, rfl⟩

/-- **A source has a handler for a hook exactly when the hook is a key in it.** -/
theorem hasHandler_iff {hook source : String} :
    hasHandler source.toList.toArray hook = true ↔ IsKey hook source := by
  simp only [hasHandler, isMatch_iff, reads_handler]
  constructor
  · rintro ⟨before, -, after, text, lead, quote, blanks, rfl, isLead, isQuote, areBlank⟩
    refine ⟨before ++ lead, quote, blanks, after, ?_, ?_, isQuote, areBlank⟩
    · simpa using text
    · rcases isLead with ⟨rfl, rfl⟩ | ⟨c, rfl, isApart⟩
      · simp
      · simpa using isApart
  · rintro ⟨before, quote, blanks, after, text, apart, isQuote, areBlank⟩
    rcases List.eq_nil_or_concat' before with rfl | ⟨earlier, c, rfl⟩
    · exact ⟨[], _, after, by simpa using text, [], quote, blanks, rfl, .inl ⟨rfl, rfl⟩, isQuote,
        areBlank⟩
    · have isApart := apart c List.getLast?_concat
      exact ⟨earlier, _, after, by simpa using text, [c], quote, blanks, rfl,
        .inr ⟨c, rfl, isApart⟩, isQuote, areBlank⟩

instance (hook source : String) : Decidable (IsKey hook source) :=
  decidable_of_iff _ hasHandler_iff

/-- A hook may end like what follows it, and be part of a longer text in quotes. -/
example : IsKey "on.'" "('on.'': f)" ∧ ¬ IsKey "on" "('on.'': f, $on: f)" := by decide +kernel

/-! ## Hooks without a handler -/

/-- The finding of a hook without a handler. -/
def missingHandler (layout : Layout) (hook : String) : Finding where
  severity := .issue
  category := .consistency
  code := "C004"
  message := "Hook '" ++ hook ++ "' declared in " ++ layout.manifest ++
    " but not implemented in " ++ layout.primaryModule
  file := some layout.primaryModule

/-- The hooks only add to what is said about a module. -/
theorem check_eq_append (layout : Layout) (hooks : List String) (source : String) :
    check layout hooks source = check layout [] source ++
      (hooks.filter fun hook => ¬ IsKey hook source).map (missingHandler layout) := by
  have missing : (fun hook => !hasHandler source.toList.toArray hook) =
      fun hook => decide ¬ IsKey hook source := by
    funext hook
    rw [Bool.eq_iff_iff, decide_eq_true_iff, ← hasHandler_iff, Bool.not_eq_true']
    exact Bool.eq_false_iff
  rw [← missing, check, check, List.filter_nil, List.map_nil, List.append_nil]
  rfl

/-- What is said about the shape of a module has other codes. -/
theorem code_ne_of_mem_check_nil {layout : Layout} {source : String} {finding : Finding}
    (among : finding ∈ check layout [] source) : finding.code ≠ "C004" := by
  simp only [check, List.mem_append, List.mem_ite_nil_left, List.mem_singleton, List.filter_nil,
    List.map_nil, List.not_mem_nil, or_false] at among
  rcases among with (⟨-, rfl⟩ | ⟨-, rfl⟩) | ⟨-, rfl⟩ <;> simp

/-- **The hooks that are reported are those that are no key in the source,** each once, in the
order in which the manifest declares them first. -/
theorem missing_handlers_exact (layout : Layout) (members : Json.Members) (source : String) :
    (check layout (Manifest.ofMembers members).hooks source).filter (·.code == "C004") =
      ((members.strings "hooks").eraseDups.filter fun hook => ¬ IsKey hook source).map
        (missingHandler layout) := by
  have noneOfShape : (check layout [] source).filter (·.code == "C004") = [] := by
    rw [List.filter_eq_nil_iff]
    intro finding among
    simpa using code_ne_of_mem_check_nil among
  rw [check_eq_append, List.filter_append, noneOfShape, List.nil_append,
    Manifest.hooks_ofMembers, List.filter_eq_self]
  intro finding among
  obtain ⟨hook, -, rfl⟩ := List.mem_map.mp among
  rfl

end PluginAudit.ModuleContract
