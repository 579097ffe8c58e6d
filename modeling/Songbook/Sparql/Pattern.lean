import Songbook.Graph

/-!
# Patterns

A pattern is a triple with unknown places. A list of patterns is matched against a graph by
rows, which say what the unknowns stand for. The order of the rows is fixed: patterns that
promise few triples are matched first, each one after the patterns with which it shares an
unknown, and newer triples of the graph come before older ones.

## Main definitions

* `Pattern.extend`: the rows that one more pattern makes of a row.
* `Component`: patterns that are connected by their unknowns, in the order of matching.
* `rowsOf`: the rows of a list of patterns.
-/

namespace Songbook.Sparql

open Rdf

/-- An unknown of a query. Blank nodes of a query are unknowns without a name. -/
inductive Variable
  | named (name : String)
  | labelled (label : String)
  | fresh (number : Nat)
  deriving DecidableEq, Repr

/-- One place of a pattern. -/
inductive Slot
  | unknown (v : Variable)
  | known (t : Term)
  deriving DecidableEq

/-- A triple with unknown places. -/
structure Pattern where
  subject : Slot
  property : Slot
  object : Slot
  deriving DecidableEq

/-- What the unknowns of a query stand for. -/
abbrev Row := List (Variable × Term)

/-- What an unknown stands for. -/
def Row.get? (row : Row) (v : Variable) : Option Term := List.lookup v row

/-- The row cut down to some unknowns, in their order. -/
def Row.restrict (vs : List Variable) (row : Row) : Row :=
  vs.filterMap fun v => (row.get? v).map (v, ·)

/-- The row extended so that a place stands for a term, if that is possible. -/
def Slot.bind (s : Slot) (t : Term) (row : Row) : Option Row :=
  match s with
  | known u => if u = t then some row else none
  | unknown v =>
    match row.get? v with
    | some u => if u = t then some row else none
    | none => some (row ++ [(v, t)])

/-- The row extended so that a pattern becomes a triple, if that is possible. -/
def Pattern.bind (p : Pattern) (t : Triple) (row : Row) : Option Row := do
  let row ← p.subject.bind (.node t.subject) row
  let row ← p.property.bind (.node (.iri t.predicate)) row
  p.object.bind t.object row

/-- All extensions of a row that make a pattern a triple of a graph, the newest triple first. -/
def Pattern.extend (p : Pattern) (g : Graph) (row : Row) : List Row :=
  g.triples.reverse.filterMap fun t => p.bind t row

/-- The unknowns of a pattern. -/
def Pattern.unknowns (p : Pattern) : List Variable :=
  [p.subject, p.property, p.object].filterMap fun s =>
    match s with
    | .unknown v => some v
    | .known _ => none

/-! ### The order of matching -/

/-- Whether a place is known once some unknowns stand for something. -/
def Slot.isKnown (bound : List Variable) : Slot → Bool
  | unknown v => bound.contains v
  | known _ => true

/-- How many triples a pattern promises, by its places that are known. -/
def Pattern.estimate (bound : List Variable) (p : Pattern) : Nat :=
  match p.subject.isKnown bound, p.property.isKnown bound, p.object.isKnown bound with
  | true, true, true => 1
  | true, false, true => 2
  | true, true, false => 10
  | true, false, false => 100
  | false, true, true => 10000
  | false, false, true => 100000
  | false, true, false => 1000000
  | false, false, false => 1000000000

/-- Estimates are words of 64 bits; larger ones count as the greatest of these. -/
def capped (n : Nat) : Nat := min n 0xFFFFFFFFFFFFFFFF

/-- Take the first pattern whose cost is least out of a list. Patterns without a cost are not
considered. -/
def takeLeast (cost : Pattern → Option Nat) : List Pattern → Option (Pattern × List Pattern)
  | [] => none
  | p :: rest =>
    match cost p, takeLeast cost rest with
    | none, none => none
    | none, some (q, others) => some (q, p :: others)
    | some _, none => some (p, rest)
    | some n, some (q, others) =>
        if (cost q).any (· < n) then some (q, p :: others) else some (p, rest)

/-- Patterns in the order of matching, each connected with those before it. -/
structure Component where
  patterns : List Pattern
  /-- How many rows the patterns promise. -/
  size : Nat

namespace Component

/-- The unknowns of a component. -/
def unknowns (c : Component) : List Variable := c.patterns.flatMap Pattern.unknowns

/-- The cost of one more pattern, if it shares an unknown with the component. -/
def cost? (c : Component) (p : Pattern) : Option Nat :=
  if p.unknowns.any c.unknowns.contains then some (capped (c.size * p.estimate c.unknowns))
  else none

/-- Add patterns out of a list as long as one is connected. -/
def grow : Nat → Component → List Pattern → Component × List Pattern
  | 0, c, rest => (c, rest)
  | fuel + 1, c, rest =>
    match takeLeast c.cost? rest with
    | none => (c, rest)
    | some (p, others) =>
        grow fuel
          { patterns := c.patterns ++ [p], size := capped (c.size * p.estimate c.unknowns) } others

/-- The components of a list of patterns. Each begins with a pattern that promises least among
those that are left. -/
def split : Nat → List Pattern → List Component
  | 0, _ => []
  | fuel + 1, patterns =>
    match takeLeast (fun p => some (p.estimate [])) patterns with
    | none => []
    | some (p, others) =>
      let (c, rest) := grow others.length { patterns := [p], size := p.estimate [] } others
      c :: split fuel rest

/-- All rows that make every pattern of a component a triple of a graph. -/
def rows (g : Graph) (c : Component) : List Row :=
  c.patterns.foldl (fun rows p => rows.flatMap (p.extend g)) [[]]

end Component

/-- Rows of patterns, with the number of rows that the patterns promised. -/
structure Joined where
  rows : List Row
  size : Nat

/-- All pairs of rows without a common unknown. The side that promises fewer rows is gone
through backwards for each row of the other side. -/
def Joined.join (a b : Joined) : Joined where
  rows :=
    let (inner, outer) := if a.size ≤ b.size then (a, b) else (b, a)
    outer.rows.flatMap fun row => inner.rows.reverse.map (row ++ ·)
  size := capped (a.size * b.size)

/-- All rows that make every pattern a triple of a graph. -/
def rowsOf (g : Graph) (patterns : List Pattern) : List Row :=
  match (Component.split patterns.length patterns).map fun c => Joined.mk (c.rows g) c.size with
  | [] => [[]]
  | first :: rest => (rest.foldl Joined.join first).rows

end Songbook.Sparql
