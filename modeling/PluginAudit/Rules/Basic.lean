import PluginAudit.Pattern.Reader
import PluginAudit.Rules.Document

/-!
# Rules

A rule document is put to use by reading its patterns. The patterns are read in
the order of the document, a guard before the pattern that it guards, and the
first that cannot be read refuses the document; so does a category without
patterns.
-/

set_option autoImplicit false

namespace PluginAudit

namespace Rules

/-- Why a rule document is refused. -/
inductive Fault where
  | noPatterns (category : String)
  | badPattern (pattern : String) (fault : Pattern.Fault)
  deriving DecidableEq, Repr

/-- What is said about a refused document. -/
def Fault.message : Fault → String
  | noPatterns category => "category '" ++ category ++ "' has no patterns"
  | badPattern pattern fault => "invalid pattern '" ++ pattern ++ "': " ++ fault.message

/-- A dangerous pattern with the pattern that excuses a match when it matches behind it. -/
structure Danger where
  source : String
  pattern : Pattern
  excuse : Option Pattern

/-- The dangerous patterns of one kind. -/
structure Category where
  name : String
  dangers : List Danger

end Rules

/-- The rules that checks follow. -/
structure Rules where
  document : Rules.Document
  categories : List Rules.Category
  safe : List Pattern

namespace Rules

/-- Reads a pattern. -/
def readPattern (source : String) : Except Fault Pattern :=
  (Pattern.ofText source).mapError (.badPattern source)

/-- Reads an entry, its guard first. -/
def readEntry : Entry → Except Fault Danger
  | .plain source => do pure ⟨source, ← readPattern source, none⟩
  | .guarded source excuse => do
    let excuse ← readPattern excuse
    pure ⟨source, ← readPattern source, some excuse⟩

/-- Reads the patterns of a category. -/
def readGroup (group : Group) : Except Fault Category :=
  if group.patterns.isEmpty then .error (.noPatterns group.name)
  else do pure ⟨group.name, ← group.patterns.mapM readEntry⟩

/-- The rules of a document. -/
def ofDocument (document : Document) : Except Fault Rules := do
  let categories ← document.categories.mapM readGroup
  let safe ← document.safePatterns.mapM readPattern
  pure ⟨document, categories, safe⟩

/-! ## Look-up -/

/-- Whether files with an extension are scanned. -/
def scansExtension (rules : Rules) (extension : String) : Bool :=
  rules.document.extensions.contains extension

/-- Whether a package must not be declared. -/
def isDangerousPackage (rules : Rules) (name : String) : Bool :=
  rules.document.dangerousPackages.contains name

/-- The first of the known beginnings with which a package's name begins. -/
def corePrefix? (rules : Rules) (name : String) : Option String :=
  rules.document.corePrefixes.find? fun beginning => beginning.toList.isPrefixOf name.toList

/-- Whether the host understands a hook. -/
def knowsHook (rules : Rules) (hook : String) : Bool := rules.document.knownHooks.contains hook

/-! ## Matches -/

/-- The characters from a place to the end of its line. -/
def restOfLine (text : Array Char) (place : Nat) : List Char :=
  (text.extract place text.size).toList.takeWhile (· != '\n')

/-- The matches of a dangerous pattern that are not excused by the rest of their line. -/
def Danger.matches (danger : Danger) (text : Array Char) : List Pattern.Span :=
  (danger.pattern.findAll text).filter fun span =>
    match danger.excuse with
    | none => true
    | some excuse => !excuse.isMatch (restOfLine text span.stop).toArray

end Rules

end PluginAudit
