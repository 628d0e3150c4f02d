import Std.Data.TreeSet
import PluginAudit.Pattern.Basic

/-!
# Patterns as graphs

A repetition whose rounds may take nothing leads back to where it is without
getting on in the text. Such a pattern is searched as a graph: its nodes take a
character, check a place or fork, and the search is depth first with the
preferred side of a fork first. What was reached once at a place is not entered
there again, as nothing new can come of it. So the order in which ends are
found depends on the whole way to them, not only on the rounds.
-/

set_option autoImplicit false

namespace PluginAudit.Pattern

/-! ## Search -/

/-- The ends that a search has found so far, last first, and the places that it has been at. -/
structure Search where
  passed : Std.TreeSet Nat
  found : List Nat

namespace Search

/-- Nothing found, nowhere been. -/
def start : Search := ⟨∅, []⟩

/-- Whether the search has been at a place. -/
def hasPassed (search : Search) (place : Nat) : Bool := search.passed.contains place

/-- Notes that the search is at a place. -/
def pass (search : Search) (place : Nat) : Search :=
  { search with passed := search.passed.insert place }

/-- Notes an end. -/
def find (search : Search) (place : Nat) : Search := { search with found := place :: search.found }

/-- The ends found, first to last. -/
def ends (search : Search) : List Nat := search.found.reverse

end Search

/-! ## Graphs -/

/-- A node of a graph. Nodes are named by numbers. -/
inductive GraphNode where
  /-- A match ends here. -/
  | goal
  | take (cls : CharClass) (next : Nat)
  | check (condition : Assertion) (next : Nat)
  | fork (preferred other : Nat)

/-- The nodes of a graph in the order of their numbers. -/
abbrev Graph := Array GraphNode

namespace Graph

/-- What adds nodes to a graph from where one leads to a given node, and tells the first of them.
-/
abbrev Part := Nat → Graph → Nat × Graph

/-- Adds a node. -/
def add (node : GraphNode) (graph : Graph) : Nat × Graph := (graph.size, graph.push node)

/-- A fork whose first way is preferred if it is greedy, and else the second. -/
def forkOf (greedy : Bool) (more enough : Nat) : GraphNode :=
  if greedy then .fork more enough else .fork enough more

/-- A part so many times in sequence. -/
def times (part : Part) : Nat → Part
  | 0, next, graph => (next, graph)
  | count + 1, next, graph =>
    let (rest, graph) := times part count next graph
    part rest graph

/-- A part at most so many times in sequence. -/
def atMost (part : Part) (greedy : Bool) : Nat → Part
  | 0, next, graph => (next, graph)
  | count + 1, next, graph =>
    let (rest, graph) := atMost part greedy count next graph
    let (first, graph) := part rest graph
    add (forkOf greedy first next) graph

/-- Whether a pattern can take nothing, by its shape. -/
def mayTakeNothing : Pattern → Bool
  | empty | assertion _ => true
  | one _ => false
  | seq first second => mayTakeNothing first && mayTakeNothing second
  | choice first second => mayTakeNothing first || mayTakeNothing second
  | rounds _ least most body => least == 0 || most == some 0 || mayTakeNothing body

/-- A part that takes something, any number of times in sequence: a fork leads to it, and it leads
back. -/
def anyNumber (part : Part) (greedy : Bool) : Part := fun next graph =>
  let (back, graph) := add .goal graph
  let (first, graph) := part back graph
  (back, graph.set! back (forkOf greedy first next))

/-- A part once or more in sequence: behind it a fork leads back. -/
def oneOrMore (part : Part) (greedy : Bool) : Part := fun next graph =>
  let (back, graph) := add .goal graph
  let (first, graph) := part back graph
  (first, graph.set! back (forkOf greedy first next))

/-- The part that a pattern stands for. -/
def ofPattern : Pattern → Part
  | empty, next, graph => (next, graph)
  | one cls, next, graph => add (.take cls next) graph
  | assertion condition, next, graph => add (.check condition next) graph
  | seq first second, next, graph =>
    let (rest, graph) := ofPattern second next graph
    ofPattern first rest graph
  | choice first second, next, graph =>
    let (other, graph) := ofPattern second next graph
    let (preferred, graph) := ofPattern first next graph
    add (.fork preferred other) graph
  | rounds greedy least most body, next, graph =>
    let part := ofPattern body
    match most, least with
    | some most, least =>
      let (rest, graph) := atMost part greedy (most - least) next graph
      times part least rest graph
    | none, 0 =>
      if mayTakeNothing body then
        let (first, graph) := oneOrMore part greedy next graph
        add (forkOf greedy first next) graph
      else anyNumber part greedy next graph
    | none, before + 1 =>
      let (rest, graph) := oneOrMore part greedy next graph
      times part before rest graph

/-- Searches from nodes at places, the first of them first. -/
def search (graph : Graph) (text : Array Char) : Nat → List (Nat × Nat) → Search → Search
  | 0, _, found => found
  | _, [], found => found
  | fuel + 1, (number, place) :: rest, found =>
    let key := number * (text.size + 1) + place
    if found.hasPassed key then search graph text fuel rest found
    else
      let found := found.pass key
      match graph[number]? with
      | none => search graph text fuel rest found
      | some .goal => search graph text fuel rest (found.find place)
      | some (.take cls next) =>
        if text[place]?.any cls.contains then
          search graph text fuel ((next, place + 1) :: rest) found
        else search graph text fuel rest found
      | some (.check condition next) =>
        if condition.holds text place then search graph text fuel ((next, place) :: rest) found
        else search graph text fuel rest found
      | some (.fork preferred other) =>
        search graph text fuel ((preferred, place) :: (other, place) :: rest) found

/-- The places where a match of a pattern from a place can end, in order of preference. Each node
is entered at most once at each place, and at most two are noted from there. -/
def ends (pattern : Pattern) (text : Array Char) (place : Nat) : List Nat :=
  let (first, graph) := ofPattern pattern 0 #[.goal]
  (search graph text (2 * graph.size * (text.size + 1) + 1) [(first, place)] .start).ends

end Graph

end PluginAudit.Pattern
