import PluginAudit.Pattern.Graph

/-!
# Matching

A text is an array of characters; a place is the number of characters before
it. The meaning of a pattern is the list of the places where a match that
starts at a given place can end, in order of preference and without
repetition. The first of them is the match. A repetition without a bound is
searched as a graph, unless each of its rounds takes a single character.

The matches in a text follow one another from left to right without overlap;
an empty match right at the end of the match before it does not count.
-/

set_option autoImplicit false

namespace PluginAudit

namespace Pattern

/-! ## Rounds -/

/-- A list without what was in it before. -/
def distinct : List Nat → List Nat
  | [] => []
  | [only] => [only]
  | places =>
    (places.foldl (fun search place =>
      if search.hasPassed place then search else (search.pass place).find place) Search.start).ends

/-- Goes on with at most `left` rounds; what was passed is kept for each number of rounds. -/
def atMostFrom (step : Nat → List Nat) (greedy : Bool) (size : Nat) : Nat → Nat → Search → Search
  | 0, place, search => search.find place
  | left + 1, place, search =>
    let key := left * (size + 1) + place
    if search.hasPassed key then search
    else
      let search := search.pass key
      if greedy then
        ((step place).foldl (fun search next => atMostFrom step greedy size left next search)
          search).find place
      else
        (step place).foldl (fun search next => atMostFrom step greedy size left next search)
          (search.find place)

/-- The ends of at most `most` rounds. -/
def atMost (step : Nat → List Nat) (greedy : Bool) (size most place : Nat) : List Nat :=
  distinct (atMostFrom step greedy size most place Search.start).ends

/-- The ends of exactly as many rounds. -/
def exactly (step : Nat → List Nat) : Nat → Nat → List Nat
  | 0, place => [place]
  | 1, place => step place
  | count + 1, place => distinct ((step place).flatMap (exactly step count))

/-- The ends of at least `least` and at most `most` rounds. -/
def repetition (step : Nat → List Nat) (greedy : Bool) (least most size place : Nat) : List Nat :=
  if most = least then exactly step least place
  else distinct ((exactly step least place).flatMap (atMost step greedy size (most - least)))

/-- How many characters of a class follow a place, up to a bound. -/
def runLength (cls : CharClass) (text : Array Char) : Nat → Nat → Nat
  | 0, _ => 0
  | bound + 1, place =>
    match text[place]? with
    | none => 0
    | some c => if cls.contains c then runLength cls text bound (place + 1) + 1 else 0

/-- The ends of rounds of one character each: every length of the run, from the longest to the
shortest or the other way round. -/
def runEnds (cls : CharClass) (text : Array Char) (greedy : Bool) (least : Nat) (most : Option Nat)
    (place : Nat) : List Nat :=
  let room := text.size - place
  let length := runLength cls text (min room (most.getD room)) place
  let ends := (List.range (length + 1 - least)).map fun more => place + least + more
  if greedy then ends.reverse else ends

/-! ## Matches -/

/-- The places where a match from a place can end, in order of preference. -/
def ends : Pattern → Array Char → Nat → List Nat
  | empty, _, place => [place]
  | one cls, text, place =>
    match text[place]? with
    | none => []
    | some c => if cls.contains c then [place + 1] else []
  | assertion condition, text, place => if condition.holds text place then [place] else []
  | seq first second, text, place => distinct ((first.ends text place).flatMap (second.ends text))
  | choice first second, text, place => distinct (first.ends text place ++ second.ends text place)
  | rounds greedy least most (one cls), text, place => runEnds cls text greedy least most place
  | rounds greedy least (some most) body, text, place =>
    repetition (body.ends text) greedy least most text.size place
  | rounds greedy least none body, text, place =>
    Graph.ends (rounds greedy least none body) text place

/-- Where the match that starts at a place ends, if one does. -/
def matchAt? (pattern : Pattern) (text : Array Char) (place : Nat) : Option Nat :=
  (pattern.ends text place).head?

/-- A piece of a text, from one place up to another. -/
structure Span where
  start : Nat
  stop : Nat
  deriving DecidableEq, Repr

/-- The characters of a span. -/
def Span.text (span : Span) (text : Array Char) : Array Char := text.extract span.start span.stop

/-- The matches from a place on. `last` is the end of the match before; `fuel` bounds the number
of places that are left. -/
def matchesFrom (pattern : Pattern) (text : Array Char) : Nat → Nat → Option Nat → List Span
  | 0, _, _ => []
  | fuel + 1, place, last =>
    if text.size < place then []
    else
      match pattern.matchAt? text place with
      | none => matchesFrom pattern text fuel (place + 1) none
      | some stop =>
        if stop ≤ place then
          if last = some place then matchesFrom pattern text fuel (place + 1) none
          else ⟨place, place⟩ :: matchesFrom pattern text fuel (place + 1) none
        else ⟨place, stop⟩ :: matchesFrom pattern text fuel stop (some stop)

/-- The matches in a text that follow one another from left to right. -/
def findAll (pattern : Pattern) (text : Array Char) : List Span :=
  matchesFrom pattern text (text.size + 1) 0 none

/-- Whether a text has a match. -/
def isMatch (pattern : Pattern) (text : Array Char) : Bool :=
  (List.range (text.size + 1)).any fun place => (pattern.matchAt? text place).isSome

end Pattern

end PluginAudit
