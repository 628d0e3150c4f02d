import PluginAudit.Decimal.Layout
import PluginAudit.Text.Quoted
import PluginAudit.Yaml.Node

/-!
# What scalars stand for

A scalar that is written without quotes may stand for nothing, for a truth
value or for a number; every other scalar stands for its text. A tag can ask
for one of these kinds, and then a text of another kind is refused.
-/

set_option autoImplicit false

namespace PluginAudit.Yaml

/-- What a scalar stands for. -/
inductive Scalar where
  | nothing
  | boolean (value : Bool)
  | integer (value : Int)
  | double (value : Binary64)
  | infinity (negative : Bool)
  | notANumber
  | string (value : String)
  deriving DecidableEq, Repr

namespace Scalar

/-! ## Integers -/

/-- The value of a digit of a base up to sixteen. -/
def digit? (base : Nat) (c : Char) : Option Nat :=
  let value? :=
    if c.isDigit then some (c.toNat - '0'.toNat)
    else if 'a' ≤ c && c ≤ 'f' then some (c.toNat - 'a'.toNat + 10)
    else if 'A' ≤ c && c ≤ 'F' then some (c.toNat - 'A'.toNat + 10)
    else none
  value?.filter (· < base)

/-- The number that digits write, at least one. -/
def number? (base : Nat) (digits : List Char) : Option Nat :=
  if digits.isEmpty then none
  else digits.foldlM (fun value c => (digit? base c).map fun digit => value * base + digit) 0

/-- A text without its sign. -/
def unsigned : List Char → List Char
  | '-' :: rest => rest
  | '+' :: rest => rest
  | text => text

/-- Whether a text consists of digits with a zero ahead of them that a number would not have. -/
def isPadded (text : List Char) : Bool :=
  match unsigned text with
  | '0' :: second :: rest => (second :: rest).all (·.isDigit)
  | _ => false

/-- The size that a text without a sign writes, in one of four bases. -/
def magnitude? (text : List Char) : Option Nat :=
  match text with
  | '0' :: 'x' :: digits => number? 16 digits
  | '0' :: 'o' :: digits => number? 8 digits
  | '0' :: 'b' :: digits => number? 2 digits
  | _ => if isPadded text then none else number? 10 text

/-- The integer that a text writes, within the range of 128 bits. -/
def integer? : List Char → Option Int
  | '-' :: rest =>
    (magnitude? rest).bind fun size => if size ≤ Nat.pow 2 127 then some (-size) else none
  | text =>
    let rest := match text with
      | '+' :: rest => rest
      | _ => text
    (magnitude? rest).bind fun size => if size < Nat.pow 2 128 then some (size : Int) else none

/-! ## Floating point numbers -/

/-- The exponent that stands behind a decimal, none being zero. -/
def exponent? : List Char → Option Int
  | [] => some 0
  | mark :: rest =>
    if mark != 'e' && mark != 'E' then none
    else
      match rest with
      | '-' :: digits => (number? 10 digits).map fun size => -size
      | '+' :: digits => (number? 10 digits).map Int.ofNat
      | digits => (number? 10 digits).map Int.ofNat

/-- The finite number that a decimal without a sign writes. Digits may be missing on one side of
the point. -/
def decimal? (negative : Bool) (text : List Char) : Option Binary64 := do
  let whole := text.takeWhile (·.isDigit)
  let rest := text.dropWhile (·.isDigit)
  let (places, rest) := match rest with
    | '.' :: rest => (rest.takeWhile (·.isDigit), rest.dropWhile (·.isDigit))
    | _ => ([], rest)
  let significand ← number? 10 (whole ++ places)
  Binary64.ofDecimal negative significand ((← exponent? rest) - places.length)

/-- The floating point number that a text writes. -/
def floating? (text : List Char) : Option Scalar :=
  let named (spellings : List String) (text : List Char) := spellings.any fun s => s.toList == text
  let infinities := [".inf", ".Inf", ".INF"]
  match text with
  | '+' :: rest =>
    if named infinities rest then some (infinity false)
    else if rest.head? == some '-' || rest.head? == some '+' then none
    else (decimal? false rest).map double
  | '-' :: rest =>
    if named infinities rest then some (infinity true) else (decimal? true rest).map double
  | _ =>
    if named infinities text then some (infinity false)
    else if named [".nan", ".NaN", ".NAN"] text then some notANumber
    else (decimal? false text).map double

/-! ## Resolution -/

/-- Whether a text spells out nothing. -/
def spellsNothing (text : String) : Bool := ["null", "Null", "NULL", "~"].contains text

/-- The truth value that a text spells out. -/
def boolean? (text : String) : Option Bool :=
  if ["true", "True", "TRUE"].contains text then some true
  else if ["false", "False", "FALSE"].contains text then some false
  else none

/-- What a text without quotes stands for. -/
def ofPlain (value : String) : Scalar :=
  if value.isEmpty || spellsNothing value then nothing
  else
    match boolean? value with
    | some truth => boolean truth
    | none =>
      match integer? value.toList with
      | some size => integer size
      | none =>
        if isPadded value.toList then string value
        else (floating? value.toList).getD (string value)

/-- Whether a text without quotes stands for itself. -/
def isItself (value : String) : Bool := ofPlain value == string value

/-- What is said about a text that is not of the kind that its tag asks for. -/
def refusal (value wanted : String) : String :=
  "invalid value: string " ++ Text.quoted value ++ ", expected " ++ wanted

/-- What a scalar stands for, or why its tag refuses it. -/
def ofTagged (tag : Option String) (value : String) (plain : Bool) : Except String Scalar :=
  let kept := if plain then ofPlain value else string value
  let require (wanted : String) (read : Option Scalar) : Except String Scalar :=
    match read with
    | some scalar => .ok scalar
    | none => .error (refusal value wanted)
  match tag with
  | none => .ok kept
  | some "tag:yaml.org,2002:bool" => require "a boolean" ((boolean? value).map boolean)
  | some "tag:yaml.org,2002:int" => require "an integer" ((integer? value.toList).map integer)
  | some "tag:yaml.org,2002:float" => require "a float" (floating? value.toList)
  | some "tag:yaml.org,2002:null" =>
    require "null" (if spellsNothing value then some nothing else none)
  | some other => .ok (if other.front == '!' then kept else string value)

/-! ## Words -/

/-- Numbers in messages are never written with an exponent. -/
def doubleLayout : Decimal.Layout := ⟨none, none⟩

/-- Whether an integer is outside of the ranges of 64 bits. -/
def isWide (value : Int) : Bool := value < -0x8000000000000000 || 0xFFFFFFFFFFFFFFFF < value

/-- What a message calls what a scalar stands for. -/
def kind : Scalar → String
  | nothing => "unit value"
  | boolean value => "boolean `" ++ toString value ++ "`"
  | integer value =>
    "integer `" ++ toString value ++ "`" ++
      if !isWide value then "" else if value < 0 then " as i128" else " as u128"
  | double value => "floating point `" ++ String.ofList (doubleLayout.write value) ++ "`"
  | infinity negative => "floating point `" ++ (if negative then "-inf" else "inf") ++ "`"
  | notANumber => "floating point `NaN`"
  | string value => "string " ++ Text.quoted value

end Scalar

end PluginAudit.Yaml
