import PluginAudit.Instant.Calendar

/-!
# Instants

An instant of universal time. A leap second repeats the second before it: its
nanoseconds count on from one thousand million.
-/

set_option autoImplicit false

namespace PluginAudit

/-- Seconds since the start of 1970, and nanoseconds, which exceed a second in a leap second. -/
structure Instant where
  seconds : Int
  nanos : Nat
  deriving DecidableEq, Repr

namespace Instant

/-- The nanoseconds of a second. -/
def second : Nat := 1000000000

/-- The seconds of a day. -/
def day : Int := 86400

/-- A date with a time of day. Second 60 is a leap second. -/
structure Civil where
  date : Date
  hour : Nat
  minute : Nat
  second : Nat
  nanos : Nat
  deriving DecidableEq, Repr

/-- The instant of a civil time that is some seconds ahead of universal time. -/
def ofCivil (civil : Civil) (ahead : Int) : Instant :=
  let leap := civil.second = 60
  let secondOfDay : Int :=
    civil.hour * 3600 + civil.minute * 60 + (if leap then 59 else civil.second : Nat)
  ⟨civil.date.toDays * day + secondOfDay - ahead,
    if leap then civil.nanos + second else civil.nanos⟩

/-- The civil time of an instant. -/
def toCivil (instant : Instant) : Civil :=
  let secondOfDay := (instant.seconds % day).toNat
  let leap := second ≤ instant.nanos
  { date := .ofDays (instant.seconds / day)
    hour := secondOfDay / 3600
    minute := secondOfDay / 60 % 60
    second := if leap then secondOfDay % 60 + 1 else secondOfDay % 60
    nanos := if leap then instant.nanos - second else instant.nanos }

/-! ## Written instants -/

/-- A number with at least so many digits. -/
def padded (width n : Nat) : List Char :=
  let digits := Nat.toDigits 10 n
  List.replicate (width - digits.length) '0' ++ digits

/-- A year: four digits from 0 to 9999, and with its sign outside. -/
def writeYear (year : Int) : List Char :=
  if 0 ≤ year ∧ year ≤ 9999 then padded 4 year.toNat
  else (if year < 0 then '-' else '+') :: padded 4 year.natAbs

/-- A fraction of a second with the fewest of 0, 3, 6 and 9 digits that are exact. -/
def writeFraction (nanos : Nat) : List Char :=
  if nanos = 0 then []
  else if nanos % 1000000 = 0 then '.' :: padded 3 (nanos / 1000000)
  else if nanos % 1000 = 0 then '.' :: padded 6 (nanos / 1000)
  else '.' :: padded 9 nanos

/-- The text of an instant, in universal time. -/
def write (instant : Instant) : String :=
  let civil := instant.toCivil
  String.ofList (writeYear civil.date.year ++ '-' :: padded 2 civil.date.month ++
    '-' :: padded 2 civil.date.day ++ 'T' :: padded 2 civil.hour ++ ':' :: padded 2 civil.minute ++
    ':' :: padded 2 civil.second ++ writeFraction civil.nanos ++ ['Z'])

end Instant

end PluginAudit
