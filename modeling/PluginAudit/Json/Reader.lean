import PluginAudit.Json.Basic
import PluginAudit.Json.Fault

/-!
# Reading JSON

A reader takes the text that is left and answers what it read with the text
that follows, or a fault. Lists and objects are read by loops that are the same
for every kind of item and member, so that a document of a fixed shape reads
its members in place. At most 127 lists and objects may be open at one time.
-/

set_option autoImplicit false

namespace PluginAudit.Json

/-- The number of lists and objects that may be open at one time. -/
def openLimit : Nat := 127

/-- Whether a character is a blank between tokens. -/
def isSeparator (c : Char) : Bool := c == ' ' || c == '\n' || c == '\t' || c == '\r'

/-- Drops the blanks before a token. -/
def skipBlanks (text : List Char) : List Char := text.dropWhile isSeparator

/-- Reads the rest of a word whose first letter has been read. -/
def word {α : Type} (value : α) : List Char → List Char → Except Fault (α × List Char)
  | [], rest => .ok (value, rest)
  | _ :: _, [] => .error (.before .endInValue [])
  | c :: cs, d :: rest =>
    if c = d then word value cs rest else .error (.within .expectedIdent (d :: rest))

/-! ## Strings -/

/-- The value of a hexadecimal digit. -/
def hexValue? (c : Char) : Option Nat :=
  if '0' ≤ c ∧ c ≤ '9' then some (c.toNat - '0'.toNat)
  else if 'a' ≤ c ∧ c ≤ 'f' then some (c.toNat - 'a'.toNat + 10)
  else if 'A' ≤ c ∧ c ≤ 'F' then some (c.toNat - 'A'.toNat + 10)
  else none

/-- The value of four hexadecimal digits. -/
def fourHex? (a b c d : Char) : Option Nat := do
  let a ← hexValue? a
  let b ← hexValue? b
  let c ← hexValue? c
  let d ← hexValue? d
  pure (((a * 16 + b) * 16 + c) * 16 + d)

/-- The fault of an escape whose four bytes are not hexadecimal digits or not there. -/
def hexFault (rest : List Char) : Fault :=
  if Text.byteLength rest < 4 then ⟨.endInString, 0⟩
  else ⟨.invalidEscape, Text.byteLength rest - 4⟩

/-- The character that a letter after a backslash stands for. -/
def plainEscape? : Char → Option Char
  | '"' => some '"'
  | '\\' => some '\\'
  | '/' => some '/'
  | 'b' => some '\x08'
  | 'f' => some '\x0c'
  | 'n' => some '\n'
  | 'r' => some '\r'
  | 't' => some '\t'
  | _ => none

/-- Reads the characters of a string after its opening quote. A code unit below the surrogates
stands for itself; a leading surrogate needs a trailing one right after it. -/
def stringChars : List Char → Except Fault (List Char × List Char)
  | [] => .error (.before .endInString [])
  | '"' :: rest => .ok ([], rest)
  | ['\\'] => .error (.before .endInString [])
  | '\\' :: 'u' :: a :: b :: c :: d :: rest =>
    match fourHex? a b c d with
    | none => .error (hexFault (a :: b :: c :: d :: rest))
    | some unit =>
      if unit < 0xD800 ∨ 0xDFFF < unit then do
        let (text, rest) ← stringChars rest
        pure (Char.ofNat unit :: text, rest)
      else if 0xDC00 ≤ unit then .error (.before .loneSurrogate rest)
      else
        match rest with
        | '\\' :: 'u' :: e :: f :: g :: h :: more =>
          match fourHex? e f g h with
          | none => .error (hexFault (e :: f :: g :: h :: more))
          | some trail =>
            if 0xDC00 ≤ trail ∧ trail ≤ 0xDFFF then do
              let (text, rest) ← stringChars more
              pure (Char.ofNat ((unit - 0xD800) * 0x400 + (trail - 0xDC00) + 0x10000) :: text, rest)
            else .error (.before .loneSurrogate more)
        | '\\' :: 'u' :: more => .error (hexFault more)
        | '\\' :: c :: more => .error (.within .unfinishedEscape (c :: more))
        | ['\\'] => .error (.before .endInString [])
        | [] => .error (.before .endInString [])
        | c :: more => .error (.within .unfinishedEscape (c :: more))
  | '\\' :: 'u' :: rest => .error (hexFault rest)
  | '\\' :: c :: rest =>
    match plainEscape? c with
    | none => .error (.within .invalidEscape (c :: rest))
    | some d => do
      let (text, rest) ← stringChars rest
      pure (d :: text, rest)
  | c :: rest =>
    if c.toNat < 0x20 then .error (.before .controlCharacter rest)
    else do
      let (text, rest) ← stringChars rest
      pure (c :: text, rest)

/-- Reads a string after its opening quote. -/
def stringBody (text : List Char) : Except Fault (String × List Char) := do
  let (chars, rest) ← stringChars text
  pure (String.ofList chars, rest)

/-! ## Numbers -/

/-- The largest number of 64 bits. -/
def largestWord : Nat := 0xFFFFFFFFFFFFFFFF

/-- The digit that a character stands for. -/
def digitValue (c : Char) : Nat := c.toNat - '0'.toNat

/-- The leading digits that fit in 64 bits, with the digits that are left over. -/
def leadingDigits : Nat → List Char → Nat × List Char
  | value, [] => (value, [])
  | value, c :: rest =>
    if largestWord < value * 10 + digitValue c then (value, c :: rest)
    else leadingDigits (value * 10 + digitValue c) rest

/-- Digits and exponent put together in floating point arithmetic: one product or quotient with a
power of ten that is itself rounded. An exponent below −308 is divided out in steps, each of
which rounds; three steps reach zero from any 64-bit number. -/
def scaleDouble : Nat → Binary64 → Int → Option Binary64
  | steps, x, exponent =>
    if exponent.natAbs ≤ 308 then do
      let power ← Binary64.ofNat (Nat.pow 10 exponent.natAbs)
      if 0 ≤ exponent then x.mul power else x.div power
    else if x.isZero then some x
    else if 0 ≤ exponent then none
    else
      match steps with
      | 0 => some (Binary64.zero x.negative)
      | steps + 1 => do
        let power ← Binary64.ofNat (Nat.pow 10 308)
        let x ← x.div power
        scaleDouble steps x (exponent + 308)

/-- The floating point number of a sign, digits and an exponent, which ends where the text that is
left begins. -/
def double (negative : Bool) (digits : Nat) (exponent : Int) (rest : List Char) :
    Except Fault (Number × List Char) :=
  match (Binary64.ofNat digits).bind fun x => scaleDouble 3 x exponent with
  | none => .error (.before .numberOutOfRange rest)
  | some x => .ok (.double (if negative then x.neg else x), rest)

/-- The value of exponent digits, or the text right after the digit with which they pass the range
of 31 bits. -/
def exponentDigits : Nat → List Char → Except (List Char) Nat
  | value, [] => .ok value
  | value, c :: rest =>
    if 0x7FFFFFFF < value * 10 + digitValue c then .error rest
    else exponentDigits (value * 10 + digitValue c) rest

/-- Reads the digits of an exponent after its sign. -/
def exponentValue (negative : Bool) (digits : Nat) (start : Int) (below : Bool)
    (text : List Char) : Except Fault (Number × List Char) :=
  match text with
  | [] => .error (.before .endInValue [])
  | c :: _ =>
    if !c.isDigit then .error (.within .invalidNumber text)
    else
      let written := text.takeWhile Char.isDigit
      let rest := text.dropWhile Char.isDigit
      match exponentDigits 0 written with
      | .error more =>
        if digits ≠ 0 ∧ !below then .error (.before .numberOutOfRange (more ++ rest))
        else .ok (.double (Binary64.zero negative), rest)
      | .ok exponent =>
        double negative digits (if below then start - exponent else start + exponent) rest

/-- Reads an exponent after its letter. -/
def exponentPart (negative : Bool) (digits : Nat) (start : Int) :
    List Char → Except Fault (Number × List Char)
  | '+' :: rest => exponentValue negative digits start false rest
  | '-' :: rest => exponentValue negative digits start true rest
  | text => exponentValue negative digits start false text

/-- Reads what may follow the last digit: an exponent or nothing. -/
def afterDigits (negative : Bool) (digits : Nat) (exponent : Int) :
    List Char → Except Fault (Number × List Char)
  | 'e' :: rest => exponentPart negative digits exponent rest
  | 'E' :: rest => exponentPart negative digits exponent rest
  | rest => double negative digits exponent rest

/-- Reads a fraction after its point. Digits that no longer fit in 64 bits are dropped. -/
def fractionPart (negative : Bool) (digits : Nat) (exponent : Int) (text : List Char) :
    Except Fault (Number × List Char) :=
  let written := text.takeWhile Char.isDigit
  let rest := text.dropWhile Char.isDigit
  let (value, dropped) := leadingDigits digits written
  if written.isEmpty then
    match rest with
    | [] => .error (.before .endInValue [])
    | rest => .error (.within .invalidNumber rest)
  else afterDigits negative value (exponent - (written.length - dropped.length : Nat)) rest

/-- The number of a sign and integer digits, of which some may have been dropped. It stays an
integer where it fits in 64 bits, with the sign if there is one. -/
def whole (negative : Bool) (value : Nat) (dropped : List Char) (rest : List Char) :
    Except Fault (Number × List Char) :=
  if dropped.isEmpty then
    if !negative then .ok (.integer value, rest)
    else if value = 0 ∨ 0x8000000000000000 < value then double true value 0 rest
    else .ok (.integer (-value), rest)
  else double negative value dropped.length rest

/-- Reads what may follow the integer digits: a fraction, an exponent or nothing. -/
def afterInteger (negative : Bool) (value : Nat) (dropped : List Char) :
    List Char → Except Fault (Number × List Char)
  | '.' :: rest => fractionPart negative value dropped.length rest
  | 'e' :: rest => exponentPart negative value dropped.length rest
  | 'E' :: rest => exponentPart negative value dropped.length rest
  | rest => whole negative value dropped rest

/-- Reads a number after its sign. Integer digits that no longer fit in 64 bits only scale. -/
def numberBody (negative : Bool) (text : List Char) : Except Fault (Number × List Char) :=
  match text with
  | [] => .error (.before .endInValue [])
  | first :: more =>
    if !first.isDigit then .error (.within .invalidNumber text)
    else if first = '0' ∧ (more.head?.any Char.isDigit) then .error (.within .invalidNumber more)
    else
      let (value, dropped) := leadingDigits 0 (text.takeWhile Char.isDigit)
      afterInteger negative value dropped (text.dropWhile Char.isDigit)

/-! ## Lists and objects -/

/-- Reads the items of a list after its opening bracket, with the closing one. `steps` bounds the
number of items, `first` tells that none has been read. -/
def items {α : Type} (item : List Char → Except Fault (α × List Char)) :
    Nat → Bool → List Char → Except Fault (List α × List Char)
  | 0, _, text => .error (.within .endInList text)
  | steps + 1, first, text =>
    match skipBlanks text, first with
    | [], _ => .error (.before .endInList [])
    | ']' :: rest, _ => .ok ([], rest)
    | ',' :: rest, false =>
      match skipBlanks rest with
      | [] => .error (.before .endInValue [])
      | ']' :: rest => .error (.within .trailingComma (']' :: rest))
      | rest => do
        let (value, rest) ← item rest
        let (values, rest) ← items item steps false rest
        pure (value :: values, rest)
    | rest, true => do
      let (value, rest) ← item rest
      let (values, rest) ← items item steps false rest
      pure (value :: values, rest)
    | rest, false => .error (.within .expectedCommaOrBracket rest)

/-- Reads the members of an object after its opening brace, with the closing one. `member` is
given what has been gathered so far, a key and the text after it. -/
def members {σ : Type} (member : σ → String → List Char → Except Fault (σ × List Char)) :
    Nat → Bool → σ → List Char → Except Fault (σ × List Char)
  | 0, _, _, text => .error (.within .endInObject text)
  | steps + 1, first, gathered, text =>
    match skipBlanks text, first with
    | [], _ => .error (.before .endInObject [])
    | '}' :: rest, _ => .ok (gathered, rest)
    | ',' :: rest, false =>
      match skipBlanks rest with
      | [] => .error (.before .endInValue [])
      | '"' :: rest => do
        let (key, rest) ← stringBody rest
        let (gathered, rest) ← member gathered key rest
        members member steps false gathered rest
      | '}' :: rest => .error (.within .trailingComma ('}' :: rest))
      | rest => .error (.within .keyNotString rest)
    | '"' :: rest, true => do
      let (key, rest) ← stringBody rest
      let (gathered, rest) ← member gathered key rest
      members member steps false gathered rest
    | rest, true => .error (.within .keyNotString rest)
    | rest, false => .error (.within .expectedCommaOrBrace rest)

/-- Reads the colon after a key. -/
def colon (text : List Char) : Except Fault (List Char) :=
  match skipBlanks text with
  | [] => .error (.before .endInObject [])
  | ':' :: rest => .ok rest
  | rest => .error (.within .expectedColon rest)

/-! ## Values -/

/-- Reads a value inside which so many lists and objects may still be opened. -/
def value : Nat → List Char → Except Fault (Json × List Char)
  | levels, text =>
    match skipBlanks text with
    | [] => .error (.before .endInValue [])
    | 'n' :: rest => word .null ['u', 'l', 'l'] rest
    | 't' :: rest => word (.bool true) ['r', 'u', 'e'] rest
    | 'f' :: rest => word (.bool false) ['a', 'l', 's', 'e'] rest
    | '-' :: rest => do
      let (read, rest) ← numberBody true rest
      pure (.number read, rest)
    | '"' :: rest => do
      let (text, rest) ← stringBody rest
      pure (.string text, rest)
    | '[' :: rest =>
      match levels with
      | 0 => .error (.within .tooDeep ('[' :: rest))
      | levels + 1 => do
        let (list, rest) ← items (value levels) (rest.length + 1) true rest
        pure (.array list, rest)
    | '{' :: rest =>
      match levels with
      | 0 => .error (.within .tooDeep ('{' :: rest))
      | levels + 1 => do
        let (gathered, rest) ← members
          (fun (gathered : Members) key text => do
            let text ← colon text
            let (item, rest) ← value levels text
            pure (Members.insert gathered key item, rest))
          (rest.length + 1) true ([] : Members) rest
        pure (.object gathered, rest)
    | c :: rest =>
      if c.isDigit then do
        let (read, rest) ← numberBody false (c :: rest)
        pure (.number read, rest)
      else .error (.within .expectedValue (c :: rest))

/-- Reads a document: what a reader takes, and then nothing but blanks. -/
def document {α : Type} (reader : List Char → Except Fault (α × List Char)) (text : List Char) :
    Except Fault α := do
  let (read, rest) ← reader text
  match skipBlanks rest with
  | [] => pure read
  | rest => throw (.within .trailingCharacters rest)

/-- Reads the text of one value. A fault is told with its line and column. -/
def parse (text : String) : Except String Json :=
  (document (value openLimit) text.toList).mapError (Fault.message text.toList)

end PluginAudit.Json
