import PluginAudit.Pattern.Flags
import PluginAudit.Pattern.Property

/-!
# Reading escapes and bracketed classes

An escape stands for a character, a class or an assertion. A bracketed class
is a union of characters, ranges, escapes, named classes and further bracketed
classes; two ampersands, dashes or tildes combine the union before them with
the one after them, from left to right. Each part is read together with the
depth of its nesting.
-/

set_option autoImplicit false

namespace PluginAudit

namespace Pattern

/-! ## Escapes -/

/-- What a part that is no operator stands for. -/
inductive Primitive where
  | literal (c : Char) (byte : Bool)
  | cls (cls : CharClass)
  | condition (assertion : Assertion)

/-- The value of a hexadecimal digit. -/
def hexValue? (c : Char) : Option Nat :=
  if c.isDigit then some (c.toNat - '0'.toNat)
  else if 'a' ≤ c && c ≤ 'f' then some (c.toNat - 'a'.toNat + 10)
  else if 'A' ≤ c && c ≤ 'F' then some (c.toNat - 'A'.toNat + 10)
  else none

/-- The character with a code, if there is one. -/
def charOfCode (code : Nat) : Except Fault Char :=
  if code.isValidChar then .ok (Char.ofNat code) else .error .badEscape

/-- Reads a fixed number of hexadecimal digits. -/
def fixedHex (flags : Flags) : Nat → Nat → List Char → Except Fault (Nat × List Char)
  | 0, code, text => .ok (code, text)
  | digits + 1, code, text =>
    match text with
    | [] => .error .badEscape
    | c :: _ =>
      match hexValue? c with
      | none => .error .badEscape
      | some digit => fixedHex flags digits (code * 16 + digit) (flags.next text)

/-- Reads characters up to a closing brace, which is passed. -/
def braced (flags : Flags) : Nat → List Char → List Char → Except Fault (List Char × List Char)
  | 0, _, _ => .error .badEscape
  | fuel + 1, read, text =>
    match text with
    | [] => .error .badEscape
    | '}' :: rest => .ok (read.reverse, rest)
    | c :: _ => braced flags fuel (c :: read) (flags.next text)

/-- The number that hexadecimal digits write. -/
def hexNumber (code : Nat) : List Char → Except Fault Nat
  | [] => .ok code
  | c :: rest =>
    match hexValue? c with
    | none => .error .badEscape
    | some digit => hexNumber (code * 16 + digit) rest

/-- Reads a character by its code: a fixed number of digits, or any number in braces. -/
def hexEscape (flags : Flags) (digits : Nat) (text : List Char) :
    Except Fault (Primitive × List Char) := do
  match flags.next text with
  | [] => .error .badEscape
  | '{' :: rest =>
    let (name, rest) ← braced flags (rest.length + 1) [] (flags.skip rest)
    if name.isEmpty then .error .badEscape
    else
      let c ← charOfCode (← hexNumber 0 name)
      .ok (.literal c false, flags.skip rest)
  | text =>
    let (code, rest) ← fixedHex flags digits 0 text
    let c ← charOfCode code
    .ok (.literal c (digits == 2), rest)

/-- The parts of a text before and after the first place where a mark stands. -/
def splitAt? (mark : List Char) : List Char → Option (List Char × List Char)
  | [] => none
  | c :: rest =>
    if mark.isPrefixOf (c :: rest) then some ([], (c :: rest).drop mark.length)
    else (splitAt? mark rest).map fun (before, after) => (c :: before, after)

/-- The class that a name in braces stands for: a property, or a property and a value. -/
def propertyClass? (name : List Char) : Option CharClass :=
  match splitAt? ['!', '='] name with
  | some (property, value) => CharClass.ofPropertyValue? property value
  | none =>
    match splitAt? [':'] name with
    | some (property, value) => CharClass.ofPropertyValue? property value
    | none =>
      match splitAt? ['='] name with
      | some (property, value) => CharClass.ofPropertyValue? property value
      | none => CharClass.ofProperty? name

/-- Reads a class by property. -/
def propertyEscape (flags : Flags) (negated : Bool) (text : List Char) :
    Except Fault (Primitive × List Char) := do
  let (name, rest) ←
    (match flags.next text with
    | [] => .error .badEscape
    | '{' :: rest => braced flags (rest.length + 1) [] (flags.skip rest)
    | '\\' :: _ => .error .badProperty
    | c :: rest => .ok ([c], flags.skip rest) : Except Fault (List Char × List Char))
  if !flags.allScripts then .error .asciiOnly
  else
    match propertyClass? name with
    | none => .error .badProperty
    | some cls => .ok (.cls (← flags.close negated cls), rest)

/-- Reads letters and dashes up to a closing brace, which is passed. -/
def boundaryName (flags : Flags) : Nat → List Char → List Char →
    Except Fault (List Char × List Char)
  | 0, _, _ => .error .badEscape
  | fuel + 1, read, text =>
    match text with
    | [] => .error .badEscape
    | '}' :: rest => .ok (read.reverse, rest)
    | c :: _ =>
      if c.isAlpha || c = '-' then boundaryName flags fuel (c :: read) (flags.next text)
      else .error .badEscape

/-- Reads what follows the escape of a word boundary: nothing, or the name of a kind of boundary
in braces. Braces that do not open with a letter or a dash belong to a repetition. -/
def boundary (flags : Flags) (text : List Char) : Except Fault (Primitive × List Char) := do
  let ascii := !flags.allScripts
  match text with
  | '{' :: rest =>
    match flags.skip rest with
    | [] => .error .badEscape
    | c :: inner =>
      if c.isAlpha || c = '-' then
        let (name, rest) ← boundaryName flags (inner.length + 2) [] (c :: inner)
        if name = "start".toList then .ok (.condition (.wordStart ascii), rest)
        else if name = "end".toList then .ok (.condition (.wordEnd ascii), rest)
        else if name = "start-half".toList then .ok (.condition (.noWordBefore ascii), rest)
        else if name = "end-half".toList then .ok (.condition (.noWordAfter ascii), rest)
        else .error .badEscape
      else .ok (.condition (.wordBoundary ascii), text)
  | _ => .ok (.condition (.wordBoundary ascii), text)

/-- Whether a character that no escape gives a meaning stands for itself behind a backslash. -/
def isEscapable (c : Char) : Bool :=
  c.toNat < 128 && !c.isAlphanum && c != '<' && c != '>'

/-- Reads an escape, from the character behind the backslash on. -/
def escape (flags : Flags) (text : List Char) : Except Fault (Primitive × List Char) := do
  let ascii := !flags.allScripts
  match text with
  | [] => .error .badEscape
  | c :: rest =>
    if c.isDigit then .error .backReference
    else if isEscapable c then .ok (.literal c false, rest)
    else
      match c with
      | 'x' => hexEscape flags 2 text
      | 'u' => hexEscape flags 4 text
      | 'U' => hexEscape flags 8 text
      | 'p' => propertyEscape flags false text
      | 'P' => propertyEscape flags true text
      | 'd' => .ok (.cls (← flags.shorthand .digit Flags.asciiDigit false), rest)
      | 'D' => .ok (.cls (← flags.shorthand .digit Flags.asciiDigit true), rest)
      | 's' => .ok (.cls (← flags.shorthand .blank Flags.asciiBlank false), rest)
      | 'S' => .ok (.cls (← flags.shorthand .blank Flags.asciiBlank true), rest)
      | 'w' => .ok (.cls (← flags.shorthand .word Flags.asciiWord false), rest)
      | 'W' => .ok (.cls (← flags.shorthand .word Flags.asciiWord true), rest)
      | 'a' => .ok (.literal '\x07' false, rest)
      | 'f' => .ok (.literal '\x0C' false, rest)
      | 't' => .ok (.literal '\t' false, rest)
      | 'n' => .ok (.literal '\n' false, rest)
      | 'r' => .ok (.literal '\r' false, rest)
      | 'v' => .ok (.literal '\x0B' false, rest)
      | 'A' => .ok (.condition .textStart, rest)
      | 'z' => .ok (.condition .textEnd, rest)
      | 'b' => boundary flags rest
      | 'B' => .ok (.condition (.noWordBoundary ascii), rest)
      | '<' => .ok (.condition (.wordStart ascii), rest)
      | '>' => .ok (.condition (.wordEnd ascii), rest)
      | _ => .error .badEscape

/-! ## Bracketed classes -/

/-- A part of a class with the depth of its nesting. -/
structure ClassPart where
  cls : CharClass
  depth : Nat

/-- The union of the parts of a class, which are given last first. -/
def ClassPart.join : List ClassPart → ClassPart
  | [] => ⟨.nothing, 0⟩
  | [only] => only
  | parts => ⟨.unions (parts.map (·.cls)).reverse, (parts.map (·.depth)).foldl max 0 + 1⟩

/-- How two unions of a class are combined. -/
inductive SetOperator where
  | intersection
  | difference
  | symmetricDifference

/-- Combines the class before an operator with the class after it. -/
def ClassPart.combine (flags : Flags) (left : Option (ClassPart × SetOperator))
    (right : ClassPart) : Except Fault ClassPart := do
  match left with
  | none => .ok right
  | some (left, operator) =>
    let first ← flags.close false left.cls
    let second ← flags.close false right.cls
    let cls := match operator with
      | .intersection => CharClass.inter first second
      | .difference => .difference first second
      | .symmetricDifference => .symmetricDifference first second
    .ok ⟨cls, max left.depth right.depth + 1⟩

/-- The classes of ASCII that have a name in brackets and colons. -/
def asciiClasses : List (String × CharClass) :=
  [("alnum", .ofRanges [(0x30, 0x39), (0x41, 0x5A), (0x61, 0x7A)]),
   ("alpha", .ofRanges [(0x41, 0x5A), (0x61, 0x7A)]),
   ("ascii", .ascii),
   ("blank", .ofRanges [(0x9, 0x9), (0x20, 0x20)]),
   ("cntrl", .ofRanges [(0x0, 0x1F), (0x7F, 0x7F)]),
   ("digit", Flags.asciiDigit),
   ("graph", .range 0x21 0x7E),
   ("lower", .range 0x61 0x7A),
   ("print", .range 0x20 0x7E),
   ("punct", .ofRanges [(0x21, 0x2F), (0x3A, 0x40), (0x5B, 0x60), (0x7B, 0x7E)]),
   ("space", Flags.asciiBlank),
   ("upper", .range 0x41 0x5A),
   ("word", Flags.asciiWord),
   ("xdigit", .ofRanges [(0x30, 0x39), (0x41, 0x46), (0x61, 0x66)])]

/-- Reads a named class of ASCII behind its opening bracket: whether it is negated, the class and
the rest. Anything else is no named class, and no fault. -/
def namedClass? (text : List Char) : Option (Bool × CharClass × List Char) :=
  match text with
  | ':' :: text =>
    let (negated, text) := match text with
      | '^' :: text => (true, text)
      | text => (false, text)
    let name := text.takeWhile (· != ':')
    match text.dropWhile (· != ':') with
    | ':' :: ']' :: rest =>
      (asciiClasses.find? (·.1.toList == name)).map fun (_, cls) => (negated, cls, rest)
    | _ => none
  | _ => none

/-- Reads dashes right behind the opening of a class; each stands for itself. -/
def openingDashes (flags : Flags) : Nat → List ClassPart → List Char → List ClassPart × List Char
  | 0, parts, text => (parts, text)
  | fuel + 1, parts, text =>
    match text with
    | '-' :: _ => openingDashes flags fuel (⟨.single '-', 0⟩ :: parts) (flags.next text)
    | _ => (parts, text)

/-- Reads the opening of a class behind its bracket: whether the class is negated, the dashes and
the closing bracket that stand for themselves, and the rest. -/
def openClass (flags : Flags) (text : List Char) : Bool × List ClassPart × List Char :=
  let text := flags.skip text
  let (negated, text) := match text with
    | '^' :: _ => (true, flags.next text)
    | text => (false, text)
  let (parts, text) := openingDashes flags text.length [] text
  match parts, text with
  | [], ']' :: _ => (negated, [⟨.single ']', 0⟩], flags.next text)
  | _, _ => (negated, parts, text)

/-- Reads one end of a range, or a part that is no range. -/
def classItem (flags : Flags) (text : List Char) : Except Fault (Primitive × List Char) :=
  match text with
  | [] => .error .unclosedClass
  | '\\' :: rest => escape flags rest
  | c :: rest => .ok (.literal c false, rest)

/-- The class of a part that is no range. -/
def Primitive.toClass (flags : Flags) : Primitive → Except Fault CharClass
  | .literal c _ =>
    if flags.allScripts || c.toNat < 128 then .ok (.single c) else .error .asciiOnly
  | .cls inner => .ok inner
  | .condition _ => .error .badClassItem

/-- The class of a range. -/
def rangeClass (flags : Flags) : Primitive → Primitive → Except Fault CharClass
  | .literal low _, .literal high _ =>
    if high < low then .error .badRange
    else if flags.allScripts || high.toNat < 128 then .ok (.range low.toNat high.toNat)
    else .error .asciiOnly
  | _, _ => .error .badRange

/-- Reads a character, an escape or a range. -/
def classRange (flags : Flags) (text : List Char) : Except Fault (ClassPart × List Char) := do
  let (first, rest) ← classItem flags text
  match flags.skip rest with
  | [] => .error .unclosedClass
  | '-' :: after =>
    let follower := flags.peek after
    if follower = some ']' || follower = some '-' then
      .ok (⟨← first.toClass flags, 0⟩, '-' :: after)
    else
      let (second, rest) ← classItem flags (flags.skip after)
      .ok (⟨← rangeClass flags first second, 0⟩, rest)
  | rest => .ok (⟨← first.toClass flags, 0⟩, rest)

/-- Reads the inside of a class up to its closing bracket, which is passed. `left` is what stands
before the last operator, `parts` the union behind it, last part first. -/
def classBody (flags : Flags) : Nat → Option (ClassPart × SetOperator) → List ClassPart →
    List Char → Except Fault (ClassPart × List Char)
  | 0, _, _, _ => .error .unclosedClass
  | fuel + 1, left, parts, text => do
    match flags.skip text with
    | [] => .error .unclosedClass
    | '[' :: rest =>
      match namedClass? rest with
      | some (negated, cls, rest) =>
        classBody flags fuel left (⟨← flags.close negated cls, 0⟩ :: parts) rest
      | none =>
        let (negated, opening, rest) := openClass flags rest
        let (inner, rest) ← classBody flags fuel none opening rest
        classBody flags fuel left (⟨← flags.close negated inner.cls, inner.depth + 1⟩ :: parts) rest
    | ']' :: rest => .ok (← ClassPart.combine flags left (.join parts), rest)
    | '&' :: '&' :: rest =>
      let combined ← ClassPart.combine flags left (.join parts)
      classBody flags fuel (some (combined, .intersection)) [] rest
    | '-' :: '-' :: rest =>
      let combined ← ClassPart.combine flags left (.join parts)
      classBody flags fuel (some (combined, .difference)) [] rest
    | '~' :: '~' :: rest =>
      let combined ← ClassPart.combine flags left (.join parts)
      classBody flags fuel (some (combined, .symmetricDifference)) [] rest
    | text =>
      let (part, rest) ← classRange flags text
      classBody flags fuel left (part :: parts) rest

/-- Reads a bracketed class behind its opening bracket. -/
def bracketed (flags : Flags) (text : List Char) : Except Fault (ClassPart × List Char) := do
  let (negated, opening, rest) := openClass flags text
  let (inner, rest) ← classBody flags (rest.length + 1) none opening rest
  .ok (⟨← flags.close negated inner.cls, inner.depth + 1⟩, rest)

end Pattern

end PluginAudit
