import PluginAudit.Decimal.Shortest

/-!
# Written decimals

How a decimal size is laid out as text: which exponents are written with the
point in place and how the others are written. A positional text always shows
the point, with a zero after it when the size is whole.
-/

set_option autoImplicit false

namespace PluginAudit.Decimal

/-- The exponents of the first digit that are written positionally. -/
structure Layout where
  least : Option Int
  most : Option Int

/-- The digits of a size, most significant first. -/
def Size.digitList (size : Size) : List Char := Nat.toDigits 10 size.digits

/-- The exponent of the first digit. -/
def Size.leading (size : Size) : Int := size.exponent + size.digitList.length - 1

/-- The text with the point in place. -/
def positional (size : Size) : List Char :=
  let digits := size.digitList
  if 0 ≤ size.exponent then digits ++ List.replicate size.exponent.toNat '0' ++ ['.', '0']
  else
    let places := (-size.exponent).toNat
    if places < digits.length then
      digits.take (digits.length - places) ++ '.' :: digits.drop (digits.length - places)
    else '0' :: '.' :: (List.replicate (places - digits.length) '0' ++ digits)

/-- The text with one digit before the point and an exponent, whose sign is always written. -/
def exponential (size : Size) : List Char :=
  let mantissa := match size.digitList with
    | first :: second :: rest => first :: '.' :: second :: rest
    | digits => digits
  let leading := size.leading
  mantissa ++ 'e' :: (if leading < 0 then '-' else '+') :: Nat.toDigits 10 leading.natAbs

/-- Whether a size is written positionally. -/
def Layout.isPositional (layout : Layout) (size : Size) : Bool :=
  layout.least.all (· ≤ size.leading) && layout.most.all (size.leading ≤ ·)

/-- The text of a number: its shortest decimal, laid out. -/
def Layout.write (layout : Layout) (x : Binary64) : List Char :=
  let size := shortest x
  let text := if layout.isPositional size then positional size else exponential size
  if x.negative then '-' :: text else text

end PluginAudit.Decimal
