import PluginAudit.Yaml.Token

/-!
# Directives, anchors and tags

What stands before a document or a node and says something about it. A reader
takes the cursor at the first character of the token and answers what it read
with the cursor behind it.
-/

set_option autoImplicit false

namespace PluginAudit.Yaml.Lexer

/-! ## Anchors and aliases -/

/-- Whether a character may follow the name of an anchor or alias. -/
def endsName : Option Char → Bool
  | none => true
  | some c => isGap (some c) || "?:,]\x7d%@\x60".toList.contains c

/-- Reads the name of an anchor or an alias behind its mark. -/
def name (context : String) (cursor : Cursor) : Except Fault (String × Cursor) :=
  let (read, after) := (cursor.skip).takeWhile isNameCharacter
  if read.isEmpty || !endsName after.next? then
    .error (after.fault context cursor.mark "did not find expected alphabetic or numeric character")
  else .ok (String.ofList read, after)

/-! ## Tags -/

/-- The value of a hexadecimal digit. -/
def hexValue? (c : Char) : Option Nat :=
  if c.isDigit then some (c.toNat - '0'.toNat)
  else if 'a' ≤ c && c ≤ 'f' then some (c.toNat - 'a'.toNat + 10)
  else if 'A' ≤ c && c ≤ 'F' then some (c.toNat - 'A'.toNat + 10)
  else none

/-- The length of the UTF-8 form that a byte begins; none if no form begins with it. -/
def formLength? (byte : Nat) : Option Nat :=
  if byte < 0x80 then some 1
  else if byte / 0x20 = 0x6 then some 2
  else if byte / 0x10 = 0xE then some 3
  else if byte / 0x8 = 0x1E then some 4
  else none

/-- Reads the bytes of a character that are written as escapes. `left` is the number of bytes that
are still to come, none before the first. -/
def escapedBytes (context : String) (start : Mark) :
    Nat → Option Nat → List UInt8 → Cursor → Except Fault (List UInt8 × Cursor)
  | 0, _, bytes, cursor => .ok (bytes, cursor)
  | fuel + 1, left, bytes, cursor =>
    match cursor.rest with
    | '%' :: high :: low :: _ =>
      match hexValue? high, hexValue? low with
      | some high, some low =>
        let byte := high * 16 + low
        match left with
        | none =>
          match formLength? byte with
          | none => .error (cursor.fault context start "found an incorrect leading UTF-8 octet")
          | some length =>
            if length = 1 then .ok (byte.toUInt8 :: bytes, cursor.skip 3)
            else escapedBytes context start fuel (some (length - 1)) (byte.toUInt8 :: bytes)
              (cursor.skip 3)
        | some left =>
          if byte / 0x40 ≠ 2 then
            .error (cursor.fault context start "found an incorrect trailing UTF-8 octet")
          else if left ≤ 1 then .ok (byte.toUInt8 :: bytes, cursor.skip 3)
          else escapedBytes context start fuel (some (left - 1)) (byte.toUInt8 :: bytes)
            (cursor.skip 3)
      | _, _ => .error (cursor.fault context start "did not find URI escaped octet")
    | _ => .error (cursor.fault context start "did not find URI escaped octet")

/-- Whether a character can stand in a tag; inside angle brackets some more can. -/
def isTagCharacter (wide : Bool) (c : Char) : Bool :=
  isNameCharacter c || ";/?:@&=+$.%!~*'()".toList.contains c ||
    (wide && (c == ',' || c == '[' || c == ']'))

/-- Reads the characters of a tag. -/
def tagCharacters (wide : Bool) (context : String) (start : Mark) :
    Nat → List UInt8 → Cursor → Except Fault (List UInt8 × Cursor)
  | 0, bytes, cursor => .ok (bytes, cursor)
  | fuel + 1, bytes, cursor =>
    match cursor.next? with
    | none => .ok (bytes, cursor)
    | some c =>
      if c = '%' then do
        let (bytes, cursor) ← escapedBytes context start 4 none bytes cursor
        tagCharacters wide context start fuel bytes cursor
      else if isTagCharacter wide c then
        tagCharacters wide context start fuel (c.toNat.toUInt8 :: bytes) cursor.skip
      else .ok (bytes, cursor)

/-- The text of bytes that are given last first. Bytes that are no text show as one replacement
character. -/
def textOfBytes (bytes : List UInt8) : String :=
  (String.fromUTF8? bytes.reverse.toByteArray).getD "\uFFFD"

/-- Reads the rest of a tag behind `head`, which was read as a handle and is part of it but for
its mark. -/
def tagText (wide directive : Bool) (head : List Char) (start : Mark) (cursor : Cursor) :
    Except Fault (String × Cursor) := do
  let context := if directive then "while parsing a %TAG directive" else "while parsing a tag"
  let begun := ((head.drop 1).map fun c => c.toNat.toUInt8).reverse
  let (bytes, after) ← tagCharacters wide context start (cursor.rest.length + 1) begun cursor
  if head.isEmpty && after.mark.index == cursor.mark.index then
    .error (after.fault context start "did not find expected tag URI")
  else .ok (textOfBytes bytes, after)

/-- Reads a handle: an exclamation mark, letters, and perhaps another exclamation mark. -/
def tagHandle (directive : Bool) (start : Mark) (cursor : Cursor) :
    Except Fault (List Char × Cursor) :=
  if !cursor.sees '!' then
    .error (cursor.fault
      (if directive then "while scanning a tag directive" else "while scanning a tag") start
      "did not find expected '!'")
  else
    let (letters, after) := (cursor.skip).takeWhile isNameCharacter
    if after.sees '!' then .ok ('!' :: (letters ++ ['!']), after.skip)
    else if directive && !letters.isEmpty then
      .error (after.fault "while parsing a tag directive" start "did not find expected '!'")
    else .ok ('!' :: letters, after)

/-- Reads the handle and the suffix of a tag. -/
def tagParts (cursor : Cursor) : Except Fault (String × String × Cursor) := do
  let start := cursor.mark
  if cursor.at? 1 == some '<' then
    let (suffix, after) ← tagText true false [] start (cursor.skip 2)
    if !after.sees '>' then
      .error (after.fault "while scanning a tag" start "did not find the expected '>'")
    else .ok ("", suffix, after.skip)
  else
    let (handle, after) ← tagHandle false start cursor
    if 2 ≤ handle.length && handle.getLast? == some '!' then
      let (suffix, after) ← tagText false false [] start after
      .ok (String.ofList handle, suffix, after)
    else
      let (suffix, after) ← tagText false false handle start after
      if suffix.isEmpty then .ok ("", "!", after) else .ok ("!", suffix, after)

/-- Reads a tag. -/
def tag (inFlow : Bool) (cursor : Cursor) : Except Fault (Token.Kind × Cursor) := do
  let (handle, suffix, after) ← tagParts cursor
  if isGap after.next? || (inFlow && after.sees ',') then .ok (.tag handle suffix, after)
  else
    .error (after.fault "while scanning a tag" cursor.mark
      "did not find expected whitespace or line break")

/-! ## Directives -/

/-- Reads a number of a version. -/
def versionNumber (start : Mark) (cursor : Cursor) : Except Fault (Nat × Cursor) :=
  let context := "while scanning a %YAML directive"
  let (digits, after) := cursor.takeWhile Char.isDigit
  if digits.isEmpty then
    .error (cursor.fault context start "did not find expected version number")
  else if 9 < digits.length then
    .error ((cursor.skip 9).fault context start "found extremely long version number")
  else .ok (Nat.ofDigitChars 10 digits 0, after)

/-- Reads the value of a version directive. -/
def versionValue (start : Mark) (cursor : Cursor) : Except Fault (Token.Kind × Cursor) := do
  let (major, cursor) ← versionNumber start (cursor.skipWhile isBlank)
  if !cursor.sees '.' then
    .error (cursor.fault "while scanning a %YAML directive" start
      "did not find expected digit or '.' character")
  else
    let (minor, cursor) ← versionNumber start cursor.skip
    .ok (.version major minor, cursor)

/-- Reads the value of a tag directive. -/
def tagHandleValue (start : Mark) (cursor : Cursor) : Except Fault (Token.Kind × Cursor) := do
  let (handle, cursor) ← tagHandle true start (cursor.skipWhile isBlank)
  if !cursor.next?.any isBlank then
    .error (cursor.fault "while scanning a %TAG directive" start
      "did not find expected whitespace")
  else
    let (full, cursor) ← tagText true true [] start (cursor.skipWhile isBlank)
    if !isGap cursor.next? then
      .error (cursor.fault "while scanning a %TAG directive" start
        "did not find expected whitespace or line break")
    else .ok (.tagHandle (String.ofList handle) full, cursor)

/-- Reads a directive with the end of its line; the token ends before what follows the value. -/
def directive (cursor : Cursor) : Except Fault (Token × Cursor) := do
  let context := "while scanning a directive"
  let start := cursor.mark
  let (name, after) := (cursor.skip).takeWhile isNameCharacter
  if name.isEmpty then
    .error (after.fault context start "could not find expected directive name")
  else if !isGap after.next? then
    .error (after.fault context start "found unexpected non-alphabetical character")
  else
    let (kind, after) ←
      (if name = "YAML".toList then versionValue start after
      else if name = "TAG".toList then tagHandleValue start after
      else .error (after.fault context start "found unknown directive name") :
        Except Fault (Token.Kind × Cursor))
    let line := after.skipComment
    if !isLineEnd line.next? then
      .error (line.fault context start "did not find expected comment or line break")
    else .ok (⟨kind, start, after.mark⟩, line.skipBreak)

end PluginAudit.Yaml.Lexer
