import PluginAudit.CommandLine.Basic
import PluginAudit.Proofs.Registry.Persistence
import PluginAudit.Proofs.Rules.Compilation
import PluginAudit.Proofs.Rules.Printing

/-!
# Printed rules load back

Rules that are printed into a file are the rules of a call that names the file
(`printed_rules_load`), whatever texts they are made of.
-/

set_option autoImplicit false

namespace PluginAudit

namespace Rules

/-- Rules keep the document that they are made of. -/
theorem document_of_ofDocument {document : Document} {rules : Rules}
    (compiles : ofDocument document = .ok rules) : rules.document = document :=
  (ofDocument_ok_iff.mp compiles).1

end Rules

namespace CommandLine

/-- **Printed rules load back.** Where a path leads to a file that holds exactly the text as which
the rules of a document are printed, a call that names the path has these rules, and they are made
of the same document, if the file can be read. -/
theorem printed_rules_load {document : Rules.Document} {rules : Rules}
    (compiles : Rules.ofDocument document = .ok rules) {tree : FileTree} {path : Path}
    {place : List String}
    (holds : tree.locate true path = .ok (place, .file rules.document.toYaml.toUTF8))
    (readable : tree.reading place = .whole) :
    rulesOf tree (some path) = .ok rules ∧ rules.document = document := by
  have isOwn := Rules.document_of_ofDocument compiles
  have read : tree.readText path = .ok document.toYaml := by
    rw [FileTree.readText, holds, isOwn]
    simp only [bind, Except.bind, readable]
    exact FileTree.text_toUTF8 document.toYaml
  refine ⟨?_, isOwn⟩
  rw [rulesOf, read]
  simp only [bind, Except.bind, Except.mapError, Rules.Document.ofYaml_toYaml, compiles]

/-- A rule document of texts that a careless writer would spoil: texts that look like something
else, empty ones and blank ones, and texts with marks of the notation, control characters or ends
of lines. -/
def oddDocument : Rules.Document where
  categories := [
    ⟨"null", [.plain "1", .plain "", .guarded "a: 'b'" "true", .guarded "- \"x\"\n\n" " #"]⟩,
    ⟨"", [.plain "0x1F", .plain "\x07|", .plain "a\n b \nc"]⟩]
  safePatterns := ["~", "  lead", "\n", "trail ", "[a]: b"]
  extensions := ["", "no", "1e3", "01"]
  dangerousPackages := ["---", "\u2028", "\uFEFF", "a: b", "%x", "@x"]
  corePrefixes := []
  knownHooks := ["\r\n", "\t", "é", "\x85"]

/-- A tree with a file in which that document is printed. -/
def oddTree : FileTree where
  root := .directory [("rules.yml", .file oddDocument.toYaml.toUTF8)]
  workplace := []

/-- That document compiles, and its rules load back from the file. -/
theorem odd_rules_load : ∃ rules, Rules.ofDocument oddDocument = .ok rules ∧
    rulesOf oddTree (some ⟨"rules.yml"⟩) = .ok rules ∧ rules.document = oddDocument := by
  obtain ⟨rules, compiles⟩ : ∃ rules, Rules.ofDocument oddDocument = .ok rules := by
    have computed : (Rules.ofDocument oddDocument).isOk = true := by decide +kernel
    generalize Rules.ofDocument oddDocument = read at computed
    cases read with
    | error fault => cases computed
    | ok rules => exact ⟨rules, rfl⟩
  have holds : oddTree.locate true ⟨"rules.yml"⟩ =
      .ok (["rules.yml"], .file rules.document.toYaml.toUTF8) := by
    rw [Rules.document_of_ofDocument compiles]
    rfl
  exact ⟨rules, compiles, printed_rules_load compiles holds rfl⟩

end CommandLine

end PluginAudit
