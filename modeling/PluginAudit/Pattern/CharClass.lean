import PluginAudit.Unicode.Blank
import PluginAudit.Unicode.CaseOrbit
import PluginAudit.Unicode.DecimalDigit
import PluginAudit.Unicode.WordCharacter

/-!
# Character classes

A class is the set of characters that one place of a pattern takes. It is kept
as it was put together, from ranges and tables by union, intersection and
complement; membership follows that structure. Closing a class over case adds
every character of the case orbits that the class meets.
-/

set_option autoImplicit false

namespace PluginAudit

/-- The orbit of a character under change of case. A character without case is alone in it. -/
def Unicode.caseOrbit (code : Nat) : List Nat :=
  if code < 0x41 then [code] else (caseOrbits.find? (·.contains code)).getD [code]

namespace Pattern

/-- A set of characters. -/
inductive CharClass where
  /-- The code points between two, both included. -/
  | range (low high : Nat)
  /-- The code points of a table. -/
  | tabled (table : Unicode.RangeTable)
  /-- The decimal digits of every script. -/
  | digit
  /-- The characters of words in every script. -/
  | word
  | union (first second : CharClass)
  | inter (first second : CharClass)
  | complement (inner : CharClass)
  /-- The characters that differ from a member at most in case. -/
  | anyCase (inner : CharClass)

namespace CharClass

/-- Whether a code point is a member. -/
def containsCode : CharClass → Nat → Bool
  | range low high, code => low ≤ code && code ≤ high
  | tabled table, code => table.contains code
  | digit, code => Unicode.isDecimalDigit (Char.ofNat code)
  | word, code => Unicode.isWordCharacter (Char.ofNat code)
  | union first second, code => first.containsCode code || second.containsCode code
  | inter first second, code => first.containsCode code && second.containsCode code
  | complement inner, code => !inner.containsCode code
  | anyCase inner, code => (Unicode.caseOrbit code).any fun other => inner.containsCode other

/-- Whether a character is a member. -/
def contains (cls : CharClass) (c : Char) : Bool := cls.containsCode c.toNat

/-- The class of one character. -/
def single (c : Char) : CharClass := range c.toNat c.toNat

/-- The class without members. -/
def nothing : CharClass := range 1 0

/-- The class of all characters. -/
def everything : CharClass := range 0 0x10FFFF

/-- The union of classes. -/
def unions (classes : List CharClass) : CharClass := classes.foldr union nothing

/-- The class of the ranges of a list. -/
def ofRanges (ranges : List (Nat × Nat)) : CharClass :=
  unions (ranges.map fun (low, high) => range low high)

/-- The blanks. -/
def blank : CharClass :=
  ofRanges [(0x9, 0xD), (0x20, 0x20), (0x85, 0x85), (0xA0, 0xA0), (0x1680, 0x1680),
    (0x2000, 0x200A), (0x2028, 0x2029), (0x202F, 0x202F), (0x205F, 0x205F), (0x3000, 0x3000)]

/-- The characters of ASCII. -/
def ascii : CharClass := range 0 0x7F

/-- The first class without the second. -/
def difference (first second : CharClass) : CharClass := inter first (complement second)

/-- The characters that are in exactly one of two classes. -/
def symmetricDifference (first second : CharClass) : CharClass :=
  union (difference first second) (difference second first)

/-! ## Membership -/

theorem contains_single (a c : Char) : (single a).contains c = decide (c = a) := by
  rw [Bool.eq_iff_iff, decide_eq_true_iff]
  simp only [single, contains, containsCode, Bool.and_eq_true, decide_eq_true_eq]
  constructor
  · intro bounds
    exact Char.toNat_inj.mp (Nat.le_antisymm bounds.2 bounds.1)
  · rintro rfl
    exact ⟨Nat.le_refl _, Nat.le_refl _⟩

theorem contains_union (a b : CharClass) (c : Char) :
    (union a b).contains c = (a.contains c || b.contains c) := rfl

theorem contains_complement (a : CharClass) (c : Char) :
    (complement a).contains c = !a.contains c := rfl

theorem contains_word (c : Char) : word.contains c = Unicode.isWordCharacter c := by
  simp [contains, containsCode]

end CharClass

end Pattern

end PluginAudit
