import PluginAudit.Binary64

/-!
# Shortest decimals

The decimal of a binary number is the one with the fewest digits that rounds
back to the number and, among those, the nearest to it. The decimals with a
given last place form a grid; the grids are tried from the coarsest on, and on
each grid only the two neighbours of the number can qualify.
-/

set_option autoImplicit false

namespace PluginAudit.Decimal

/-- The size `digits * 10 ^ exponent`. -/
structure Size where
  digits : Nat
  exponent : Int
  deriving DecidableEq, Repr

/-- Four times the ends of the interval of sizes that round to a number, as multiples of
`2 ^ (exponent - 2)` of that number. Below a power of two the grid of binary numbers is twice as
fine. -/
def roundingInterval (x : Binary64) : Nat × Nat :=
  let centre := 4 * x.significand
  if x.significand = Nat.pow 2 52 ∧ Binary64.leastExponent < x.exponent then
    (centre - 1, centre + 2)
  else (centre - 2, centre + 2)

/-- A multiple of `2 ^ (exponent - 2)` and a multiple of `10 ^ place` brought to one unit. -/
def commonUnit (exponent place : Int) (binary decimal : Nat) : Nat × Nat :=
  let shift := exponent - 2
  (binary * Nat.pow 2 shift.toNat * Nat.pow 10 (-place).toNat,
    decimal * Nat.pow 10 place.toNat * Nat.pow 2 (-shift).toNat)

/-- Whether a decimal rounds to a number. The ends of the interval count when the significand is
even. -/
def roundsTo (x : Binary64) (place : Int) (digits : Nat) : Bool :=
  let (low, high) := roundingInterval x
  let (lowSize, size) := commonUnit x.exponent place low digits
  let (highSize, _) := commonUnit x.exponent place high digits
  if x.significand % 2 = 0 then lowSize ≤ size && size ≤ highSize
  else lowSize < size && size < highSize

/-- The better of the two neighbours of a number on the grid of a place. -/
def onGrid? (x : Binary64) (place : Int) : Option Nat :=
  let (size, unit) := commonUnit x.exponent place (4 * x.significand) 1
  let below := size / unit
  let above := below + 1
  match roundsTo x place below, roundsTo x place above with
  | true, true => some (if size - below * unit ≤ above * unit - size then below else above)
  | true, false => some below
  | false, true => some above
  | false, false => none

/-- Tries the grids from a place downwards. -/
def search (x : Binary64) : Nat → Int → Option Size
  | 0, _ => none
  | grids + 1, place =>
    match onGrid? x place with
    | some digits => some ⟨digits, place⟩
    | none => search x grids (place - 1)

/-- A place at or above the first digit of a number. -/
def topPlace (x : Binary64) : Int :=
  ((x.significand.log2 : Int) + x.exponent + 1) * 30103 / 100000 + 1

/-- The shortest decimal that rounds to a number. -/
def shortest (x : Binary64) : Size :=
  if x.isZero then ⟨0, 0⟩ else (search x 40 (topPlace x)).getD ⟨0, 0⟩

end PluginAudit.Decimal
