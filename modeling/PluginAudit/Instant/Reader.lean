import PluginAudit.Instant.Basic
import PluginAudit.Unicode.Blank

/-!
# Reading instants

A text is read as a date and time with an offset from universal time, written
in full. Where that fails it is read without an offset and taken as universal
time; numbers may then be short and may follow blanks, and a year may carry a
sign. The faults that are told are those of the second reading.
-/

set_option autoImplicit false

namespace PluginAudit.Instant

/-- Why a text is no instant. -/
inductive Fault where
  | invalid
  | outOfRange
  | tooShort
  | tooLong
  deriving DecidableEq, Repr

/-- What is said about a fault. -/
def Fault.message : Fault → String
  | .invalid => "input contains invalid characters"
  | .outOfRange => "input is out of range"
  | .tooShort => "premature end of input"
  | .tooLong => "trailing input"

/-- The number that digits write. -/
def numberOf (digits : List Char) : Nat :=
  digits.foldl (fun value c => value * 10 + (c.toNat - '0'.toNat)) 0

/-- The digits at the start of a text, at most so many, and the text after them. -/
def spanDigits (most : Nat) (text : List Char) : List Char × List Char :=
  let digits := (text.take most).takeWhile Char.isDigit
  (digits, text.drop digits.length)

/-- Reads a number with at least one digit and at most so many. -/
def number (most : Nat) (text : List Char) : Except Fault (Nat × List Char) :=
  match spanDigits most text with
  | ([], []) => .error .tooShort
  | ([], _ :: _) => .error .invalid
  | (digits, rest) => .ok (numberOf digits, rest)

/-- Reads a number with exactly so many digits. -/
def fullNumber (width : Nat) (text : List Char) : Except Fault (Nat × List Char) :=
  match spanDigits width text with
  | (digits, rest) =>
    if digits.length = width then .ok (numberOf digits, rest)
    else .error (if rest.isEmpty then .tooShort else .invalid)

/-- Reads one character. -/
def char (expected : Char) : List Char → Except Fault (List Char)
  | [] => .error .tooShort
  | c :: rest => if c = expected then .ok rest else .error .invalid

/-- Reads a fraction after its point, as nanoseconds. Digits after the ninth are dropped. -/
def fraction (text : List Char) : Except Fault (Nat × List Char) := do
  let (_, rest) ← number 9 text
  let digits := text.take (text.length - rest.length)
  pure (numberOf digits * Nat.pow 10 (9 - digits.length), rest.dropWhile Char.isDigit)

/-- Reads a fraction if there is one. -/
def optionalFraction : List Char → Except Fault (Nat × List Char)
  | '.' :: rest => fraction rest
  | rest => .ok (0, rest)

/-- Accepts a number in a range. -/
def within (least most value : Nat) : Except Fault Unit :=
  if least ≤ value ∧ value ≤ most then .ok () else .error .outOfRange

/-- The first and the last year. -/
def yearRange : Int × Int := (-262143, 262142)

/-- A civil time whose parts are in range. -/
def civil (year : Int) (month day hour minute second nanos : Nat) : Except Fault Civil :=
  let date : Date := ⟨year, month, day⟩
  if date.isValid ∧ yearRange.1 ≤ year ∧ year ≤ yearRange.2 then
    .ok ⟨date, hour, minute, second, nanos⟩
  else .error .outOfRange

/-! ## With an offset -/

/-- Reads an offset, in seconds: a letter for universal time, or a sign, two digits, a colon and
two digits below sixty, less than a day in all. -/
def offset : List Char → Except Fault (Int × List Char)
  | [] => .error .tooShort
  | c :: rest =>
    if c = 'Z' ∨ c = 'z' then .ok (0, rest)
    else if c = '+' ∨ c = '-' ∨ c = '\u2212' then do
      let (hours, rest) ← fullNumber 2 rest
      let rest ← char ':' rest
      let (minutes, rest) ← fullNumber 2 rest
      within 0 59 minutes
      within 0 23 hours
      let seconds : Int := hours * 3600 + minutes * 60
      pure (if c = '+' then seconds else -seconds, rest)
    else .error .invalid

/-- Reads the mark between date and time. -/
def timeMark : List Char → Except Fault (List Char)
  | [] => .error .tooShort
  | c :: rest => if c = 'T' ∨ c = 't' ∨ c = ' ' then .ok rest else .error .invalid

/-- Reads an instant with an offset. -/
def readOffset (text : List Char) : Except Fault Instant := do
  let (year, rest) ← fullNumber 4 text
  let rest ← char '-' rest
  let (month, rest) ← fullNumber 2 rest
  let rest ← char '-' rest
  let (day, rest) ← fullNumber 2 rest
  let rest ← timeMark rest
  let (hour, rest) ← fullNumber 2 rest
  let rest ← char ':' rest
  let (minute, rest) ← fullNumber 2 rest
  let rest ← char ':' rest
  let (second, rest) ← fullNumber 2 rest
  let (nanos, rest) ← optionalFraction rest
  let (ahead, rest) ← offset rest
  if !rest.isEmpty then throw .tooLong
  within 0 23 hour
  within 0 59 minute
  within 0 60 second
  let civil ← civil year month day hour minute second nanos
  pure (ofCivil civil ahead)

/-! ## Without an offset -/

/-- Drops blanks. -/
def skipBlanks (text : List Char) : List Char := text.dropWhile Unicode.isBlank

/-- Reads a number with at most two digits, in a range, after blanks. -/
def smallNumber (least most : Nat) (text : List Char) : Except Fault (Nat × List Char) := do
  let (value, rest) ← number 2 (skipBlanks text)
  within least most value
  pure (value, rest)

/-- Reads a year after blanks: at most four digits, or any number of them after a sign. -/
def signedYear (text : List Char) : Except Fault (Int × List Char) := do
  let (value, rest) ← match skipBlanks text with
    | '-' :: rest => do
      let (value, rest) ← number rest.length rest
      pure (-(value : Int), rest)
    | '+' :: rest => do
      let (value, rest) ← number rest.length rest
      pure ((value : Int), rest)
    | rest => do
      let (value, rest) ← number 4 rest
      pure ((value : Int), rest)
  if value < -0x80000000 ∨ 0x7FFFFFFF < value then throw .outOfRange
  pure (value, rest)

/-- Reads an instant without an offset. -/
def readUniversal (text : List Char) : Except Fault Instant := do
  let (year, rest) ← signedYear text
  let rest ← char '-' rest
  let (month, rest) ← smallNumber 1 12 rest
  let rest ← char '-' rest
  let (day, rest) ← smallNumber 1 31 rest
  let rest ← char 'T' rest
  let (hour, rest) ← smallNumber 0 23 rest
  let rest ← char ':' rest
  let (minute, rest) ← smallNumber 0 59 rest
  let rest ← char ':' rest
  let (second, rest) ← smallNumber 0 60 rest
  let (nanos, rest) ← optionalFraction rest
  if !rest.isEmpty then throw .tooLong
  let civil ← civil year month day hour minute second nanos
  pure (ofCivil civil 0)

/-- Reads an instant. -/
def read (text : String) : Except Fault Instant :=
  match readOffset text.toList with
  | .ok instant => .ok instant
  | .error _ => readUniversal text.toList

end PluginAudit.Instant
