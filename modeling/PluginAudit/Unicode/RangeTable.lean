/-!
# Tables of code point ranges

A property of characters is kept as the sorted list of the ranges of code
points that have it. The text of a table is a list of hexadecimal ranges such
as `41-5A 61-7A`; a range of one code point is written once. Membership is
decided by bisection.
-/

set_option autoImplicit false

namespace PluginAudit.Unicode

/-- Closed ranges of code points, disjoint and in increasing order. -/
structure RangeTable where
  ranges : Array (Nat × Nat)

namespace RangeTable

/-- The value of a hexadecimal digit in upper case. -/
def hexDigit (c : Char) : Nat :=
  if c.isDigit then c.toNat - '0'.toNat else c.toNat - 'A'.toNat + 10

/-- Reads ranges; `low` is the lower end once its dash has been passed, `code` the number that is
being read, if one is. Blanks and line breaks end a range. -/
def read : List Char → Option Nat → Option Nat → Array (Nat × Nat) → Array (Nat × Nat)
  | [], low, code, ranges => close low code ranges
  | c :: rest, low, code, ranges =>
    if c = ' ' || c = '\n' then read rest none none (close low code ranges)
    else if c = '-' then read rest code none ranges
    else read rest low (some (code.getD 0 * 16 + hexDigit c)) ranges
where
  /-- Ends a range, if one has been begun. -/
  close (low code : Option Nat) (ranges : Array (Nat × Nat)) : Array (Nat × Nat) :=
    match code with
    | none => ranges
    | some code => ranges.push (low.getD code, code)

/-- The table that a text of hexadecimal ranges describes. -/
def ofText (text : String) : RangeTable := ⟨read text.toList none none #[]⟩

/-- Looks for the range of a code point between two indices; `steps` bounds the number of
halvings. -/
def search (ranges : Array (Nat × Nat)) (code : Nat) : Nat → Nat → Nat → Bool
  | 0, _, _ => false
  | steps + 1, low, high =>
    if low < high then
      let middle := (low + high) / 2
      match ranges[middle]? with
      | none => false
      | some (first, last) =>
        if code < first then search ranges code steps low middle
        else if last < code then search ranges code steps (middle + 1) high
        else true
    else false

/-- Whether a code point lies in one of the ranges. -/
def contains (table : RangeTable) (code : Nat) : Bool :=
  search table.ranges code (table.ranges.size + 1) 0 table.ranges.size

end RangeTable

end PluginAudit.Unicode
