import PluginAudit.Proofs.Rules.Compilation
import PluginAudit.Proofs.Scan.Continuation

/-!
# Reports under other rules

A category is reported in a text if one of its patterns has a match there that
counts, whichever pattern and whichever match it is (`CountsIn`). So a report
does not depend on the order of the patterns in a category. A document that has
all the dangerous patterns of another, and no safe pattern that the other lacks,
reports all that the other reports, in the same order
(`source_sublist_of_asStrict`): one more dangerous pattern never removes a
finding, and one more safe pattern never adds one.

Documents are compared as they are written. The rules that are made of them hold
the patterns that are read from them, and nothing else counts for a scan.
-/

set_option autoImplicit false

namespace PluginAudit

/-! ## Changes of a document -/

namespace Rules.Document

/-- A document is at least as strict as another: its categories have the same names in the same
order, none of their patterns is missing, and it has no safe pattern that the other lacks. -/
structure AsStrict (stricter document : Document) : Prop where
  categories : List.Forall₂ (fun group wider => group.name = wider.name ∧
    group.patterns ⊆ wider.patterns) document.categories stricter.categories
  safePatterns : stricter.safePatterns ⊆ document.safePatterns

/-- A document has the categories and the safe patterns of another, but for the order of the
patterns in each category. -/
structure Reorders (reordered document : Document) : Prop where
  categories : List.Forall₂ (fun group other => group.name = other.name ∧
    group.patterns.Perm other.patterns) document.categories reordered.categories
  safePatterns : reordered.safePatterns = document.safePatterns

/-- A document has the categories and the safe patterns of another, and perhaps more dangerous
patterns in the categories. -/
structure AddsDangers (more document : Document) : Prop where
  categories : List.Forall₂ (fun group wider => group.name = wider.name ∧
    group.patterns ⊆ wider.patterns) document.categories more.categories
  safePatterns : more.safePatterns = document.safePatterns

/-- A document has the categories and the safe patterns of another, and perhaps more safe
patterns. -/
structure AddsSafe (more document : Document) : Prop where
  categories : more.categories = document.categories
  safePatterns : document.safePatterns ⊆ more.safePatterns

variable {document other : Document}

theorem Reorders.symm (reorders : other.Reorders document) : document.Reorders other where
  categories := (reorders.categories.flip).imp fun _ _ ⟨name, perm⟩ => ⟨name.symm, perm.symm⟩
  safePatterns := reorders.safePatterns.symm

theorem Reorders.asStrict (reorders : other.Reorders document) : other.AsStrict document where
  categories := reorders.categories.imp fun _ _ ⟨name, perm⟩ => ⟨name, perm.subset⟩
  safePatterns := reorders.safePatterns ▸ List.Subset.refl _

theorem AddsDangers.asStrict (adds : other.AddsDangers document) : other.AsStrict document where
  categories := adds.categories
  safePatterns := adds.safePatterns ▸ List.Subset.refl _

/-- With more safe patterns a document is less strict. -/
theorem AddsSafe.asStrict (adds : other.AddsSafe document) : document.AsStrict other where
  categories := by
    rw [adds.categories]
    exact List.forall₂_same.mpr fun _ _ => ⟨rfl, List.Subset.refl _⟩
  safePatterns := adds.safePatterns

/-- A document whose patterns are in another order has rules if the document itself has some. -/
theorem Reorders.exists_ofDocument {rules : Rules} (reorders : other.Reorders document)
    (compiles : ofDocument document = .ok rules) : ∃ rules, ofDocument other = .ok rules := by
  obtain ⟨groups, safe⟩ := exists_ofDocument_iff.mp ⟨rules, compiles⟩
  refine exists_ofDocument_iff.mpr ⟨?_, reorders.safePatterns ▸ safe⟩
  intro group among
  obtain ⟨place, bound, rfl⟩ := List.getElem_of_mem among
  obtain ⟨same, each⟩ := List.forall₂_iff_get.mp reorders.categories
  obtain ⟨-, perm⟩ := each place (same ▸ bound) bound
  obtain ⟨written, areRead⟩ := groups _ (List.get_mem _ ⟨place, same ▸ bound⟩)
  exact ⟨fun empty => written (List.Perm.eq_nil (empty ▸ perm)),
    fun entry isEntry => areRead entry (perm.mem_iff.mpr isEntry)⟩

end Rules.Document

namespace Scan

open Rules (ofDocument Document)

/-! ## Categories that count -/

/-- A category counts in a text: one of its dangerous patterns is found there in a match that the
rest of its line does not excuse and no safe call suppresses. -/
def CountsIn (rules : Rules) (content : String) (category : Rules.Category) : Prop :=
  ∃ danger ∈ category.dangers, ∃ span ∈ danger.pattern.findAll content.toList.toArray,
    ¬ Excused danger content.toList.toArray span ∧
      rules.isSuppressed content.toList.toArray span.start = false

theorem any_isDetected_iff {rules : Rules} {content : String} {category : Rules.Category} :
    category.dangers.any (isDetected rules content.toList.toArray) = true ↔
      CountsIn rules content category := by
  simp only [List.any_eq_true, isDetected, mem_matches_iff, Bool.not_eq_true', and_assoc, CountsIn]

/-- What one pattern makes a category count in does not depend on the other patterns, and with
fewer safe patterns no match stops counting. -/
theorem CountsIn.mono {rules stricter : Rules} {content : String}
    {category wider : Rules.Category} (dangers : category.dangers ⊆ wider.dangers)
    (safe : stricter.safe ⊆ rules.safe) (counts : CountsIn rules content category) :
    CountsIn stricter content wider := by
  obtain ⟨danger, isDanger, span, isFound, notExcused, exposed⟩ := counts
  refine ⟨danger, dangers isDanger, span, isFound, notExcused, ?_⟩
  rw [Rules.isSuppressed, List.any_eq_false] at exposed ⊢
  exact fun pattern isSafe => exposed pattern (safe isSafe)

/-! ## Stricter documents -/

section Stricter

variable {document stricter : Document} {rules rules' : Rules}

/-- The categories of a stricter document have at least the patterns of the other. -/
theorem dangers_subset (compiles : ofDocument document = .ok rules)
    (compiles' : ofDocument stricter = .ok rules') (asStrict : stricter.AsStrict document) :
    List.Forall₂ (fun category wider : Rules.Category =>
        category.name = wider.name ∧ category.dangers ⊆ wider.dangers)
      rules.categories rules'.categories := by
  have areRead := Rules.mapM_ok_iff.mp (Rules.ofDocument_ok_iff.mp compiles).2.1
  have areRead' := Rules.mapM_ok_iff.mp (Rules.ofDocument_ok_iff.mp compiles').2.1
  obtain ⟨length, read⟩ := List.forall₂_iff_get.mp areRead
  obtain ⟨length', read'⟩ := List.forall₂_iff_get.mp areRead'
  obtain ⟨same, wider⟩ := List.forall₂_iff_get.mp asStrict.categories
  refine List.forall₂_iff_get.mpr ⟨length.symm.trans (same.trans length'),
    fun place bound bound' => ?_⟩
  have isRead := read place (length ▸ bound) bound
  have isRead' := read' place (length' ▸ bound') bound'
  obtain ⟨sameName, patterns⟩ := wider place (length ▸ bound) (length' ▸ bound')
  refine ⟨?_, fun danger isDanger => ?_⟩
  · rw [(Rules.readGroup_ok_iff.mp isRead).2.1, (Rules.readGroup_ok_iff.mp isRead').2.1, sameName]
  · obtain ⟨entry, isEntry, same⟩ := (Rules.mem_dangers_iff isRead).mp isDanger
    exact (Rules.mem_dangers_iff isRead').mpr ⟨entry, patterns isEntry, same⟩

theorem safe_subset (compiles : ofDocument document = .ok rules)
    (compiles' : ofDocument stricter = .ok rules') (asStrict : stricter.AsStrict document) :
    rules'.safe ⊆ rules.safe := by
  intro pattern isSafe
  obtain ⟨source, isSource, same⟩ := (Rules.mem_safe_iff compiles').mp isSafe
  exact (Rules.mem_safe_iff compiles).mpr ⟨source, asStrict.safePatterns isSource, same⟩

/-- **A stricter document reports at least as much,** in the same order. -/
theorem source_sublist_of_asStrict (compiles : ofDocument document = .ok rules)
    (compiles' : ofDocument stricter = .ok rules') (asStrict : stricter.AsStrict document)
    (file content : String) :
    (source rules file content).Sublist (source rules' file content) := by
  refine sublist_map_filter ((dangers_subset compiles compiles' asStrict).imp ?_)
  rintro category wider ⟨sameName, dangers⟩
  refine ⟨detection_inj.mpr sameName, fun detected => ?_⟩
  have counts := any_isDetected_iff.mp detected
  exact any_isDetected_iff.mpr (counts.mono dangers (safe_subset compiles compiles' asStrict))

/-- The order of patterns does not matter, neither to whether a document has rules nor to what
these report. -/
theorem source_of_reorders {document reordered : Document} (reorders : reordered.Reorders document)
    (file content : String) :
    (ofDocument reordered).toOption.map (fun rules => source rules file content) =
      (ofDocument document).toOption.map fun rules => source rules file content := by
  cases compiles : ofDocument document with
  | error fault =>
    cases compiles' : ofDocument reordered with
    | error fault' => rfl
    | ok rules' =>
      obtain ⟨rules, same⟩ := reorders.symm.exists_ofDocument compiles'
      rw [compiles] at same
      cases same
  | ok rules =>
    obtain ⟨rules', compiles'⟩ := reorders.exists_ofDocument compiles
    have less := source_sublist_of_asStrict compiles compiles' reorders.asStrict file content
    have more := source_sublist_of_asStrict compiles' compiles reorders.symm.asStrict file content
    rw [compiles']
    exact congrArg some (more.antisymm less)

end Stricter

/-! ## Reports -/

/-- **A report names the categories that count, in the order of the rules.** It is the same in
whatever order the patterns of each category are written; more dangerous patterns in a category
never take a finding away, and more safe patterns never bring one about. -/
theorem source_by_categories (file content : String) :
    (∀ rules : Rules, ∃ counts : Rules.Category → Bool,
        (∀ category, counts category = true ↔ CountsIn rules content category) ∧
          source rules file content =
            (rules.categories.filter counts).map fun category => detection category file) ∧
      (∀ document reordered : Document, reordered.Reorders document →
        (ofDocument reordered).toOption.map (fun rules => source rules file content) =
          (ofDocument document).toOption.map fun rules => source rules file content) ∧
      (∀ (document more : Document) (rules rules' : Rules), more.AddsDangers document →
        ofDocument document = .ok rules → ofDocument more = .ok rules' →
          (source rules file content).Sublist (source rules' file content)) ∧
      ∀ (document more : Document) (rules rules' : Rules), more.AddsSafe document →
        ofDocument document = .ok rules → ofDocument more = .ok rules' →
          (source rules' file content).Sublist (source rules file content) := by
  refine ⟨fun rules => ⟨_, fun _ => any_isDetected_iff, rfl⟩, ?_, ?_, ?_⟩
  · exact fun document reordered reorders => source_of_reorders reorders file content
  · intro document more rules rules' adds compiles compiles'
    exact source_sublist_of_asStrict compiles compiles' adds.asStrict file content
  · intro document more rules rules' adds compiles compiles'
    exact source_sublist_of_asStrict compiles' compiles adds.asStrict file content

/-! ## Three changes of a document -/

/-- A document with two categories and a safe pattern. -/
def smallDocument : Document :=
  { Document.standard with
    categories := [⟨"evaluation", [.plain "eval\\(", .plain "Function\\("]⟩,
      ⟨"network", [.guarded "http" "localhost"]⟩]
    safePatterns := ["log"] }

/-- That document with the patterns of each category the other way round. -/
def reversedDocument : Document :=
  { smallDocument with
    categories := smallDocument.categories.map fun group =>
      { group with patterns := group.patterns.reverse } }

/-- That document with one more dangerous pattern in each category. -/
def cautiousDocument : Document :=
  { smallDocument with
    categories := smallDocument.categories.map fun group =>
      { group with patterns := .plain "fetch" :: group.patterns } }

/-- That document with one more safe pattern. -/
def lenientDocument : Document := { smallDocument with safePatterns := ["log", "audit"] }

/-- A text with a dangerous call among the arguments of another call. -/
def auditedCall : String := "audit(eval(x + fetch(y)));"

theorem reorders_reversedDocument : reversedDocument.Reorders smallDocument where
  categories := List.forall₂_map_right_iff.mpr <| List.forall₂_same.mpr fun _ _ =>
    ⟨rfl, (List.reverse_perm _).symm⟩
  safePatterns := rfl

theorem addsDangers_cautiousDocument : cautiousDocument.AddsDangers smallDocument where
  categories := List.forall₂_map_right_iff.mpr <| List.forall₂_same.mpr fun _ _ =>
    ⟨rfl, List.subset_cons_self _ _⟩
  safePatterns := rfl

theorem addsSafe_lenientDocument : lenientDocument.AddsSafe smallDocument where
  categories := rfl
  safePatterns := List.subset_append_left ["log"] ["audit"]

/-- Whether rules report so many findings in that text. -/
def reportsMany (number : Nat) (rules : Rules) : Bool :=
  (source rules "index.js" auditedCall).length == number

/-- **Each change has its effect and no other:** the call that is reported is reported whatever
the order of patterns, there is one finding more with the dangerous patterns, and none with the
safe one. -/
theorem changed_rules_report : ∃ rules cautious lenient,
    ofDocument smallDocument = .ok rules ∧ ofDocument cautiousDocument = .ok cautious ∧
      ofDocument lenientDocument = .ok lenient ∧
      reversedDocument.Reorders smallDocument ∧ cautiousDocument.AddsDangers smallDocument ∧
      lenientDocument.AddsSafe smallDocument ∧
      (source rules "index.js" auditedCall).length = 1 ∧
      (source cautious "index.js" auditedCall).length = 2 ∧
      (source lenient "index.js" auditedCall).length = 0 ∧
      (ofDocument reversedDocument).toOption.map
          (fun rules => source rules "index.js" auditedCall) =
        some (source rules "index.js" auditedCall) ∧
      (source rules "index.js" auditedCall).Sublist (source cautious "index.js" auditedCall) ∧
      (source lenient "index.js" auditedCall).Sublist (source rules "index.js" auditedCall) := by
  obtain ⟨rules, compiles, one⟩ :
      ∃ rules, ofDocument smallDocument = .ok rules ∧ reportsMany 1 rules = true :=
    Rules.exists_of_computed (by decide +kernel)
  obtain ⟨cautious, compiles', two⟩ :
      ∃ rules, ofDocument cautiousDocument = .ok rules ∧ reportsMany 2 rules = true :=
    Rules.exists_of_computed (by decide +kernel)
  obtain ⟨lenient, compiles'', none⟩ :
      ∃ rules, ofDocument lenientDocument = .ok rules ∧ reportsMany 0 rules = true :=
    Rules.exists_of_computed (by decide +kernel)
  rw [reportsMany, beq_iff_eq] at one two none
  obtain ⟨-, order, dangers, safe⟩ := source_by_categories "index.js" auditedCall
  refine ⟨rules, cautious, lenient, compiles, compiles', compiles'', reorders_reversedDocument,
    addsDangers_cautiousDocument, addsSafe_lenientDocument, one, two, none, ?_, ?_, ?_⟩
  · rw [order _ _ reorders_reversedDocument, compiles]
    rfl
  · exact dangers _ _ _ _ addsDangers_cautiousDocument compiles compiles'
  · exact safe _ _ _ _ addsSafe_lenientDocument compiles compiles''

end Scan

end PluginAudit
