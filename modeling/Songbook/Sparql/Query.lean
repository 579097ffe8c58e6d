import Songbook.Sparql.Expression

/-!
# Queries

A query matches patterns against a graph and keeps the rows of which its conditions are true.
Rows may then be grouped and counted, and the answer is sorted, cut down to its columns, freed
of repetitions and limited, in this order.
-/

namespace Songbook.Sparql

open Rdf

/-! ### Groups of rows -/

/-- A number that is computed from a group of rows. -/
inductive Aggregate
  /-- How many rows have a value for an expression, or how many different values there are. -/
  | count (distinct : Bool) (e : Expression)
  /-- The sum of the values of an expression. -/
  | sum (e : Expression)
  /-- An aggregate that is read but never has a value, with the unknowns that it depends on. -/
  | other (mentioned : List Variable)
  deriving DecidableEq

/-- The sum of whole numbers, which must fit into a word at every step. -/
def sumWords (ns : List Int64) : Option Int64 :=
  ns.foldlM (fun total n =>
    let next := total.toInt + n.toInt
    if Literal.fitsWord next then some (Int64.ofInt next) else none) 0

/-- The whole number that a term is. -/
def wordOf? : Term → Option Int64
  | .literal (.integer n) => some n
  | _ => none

/-- A number of rows as a term. -/
def countTerm (n : Nat) : Term := .literal (.integer (Int64.ofNat n))

/-- The value of an aggregate over a group, if it has one. -/
def Aggregate.value? (rows : List Row) : Aggregate → Option Term
  | count false e => some (countTerm (rows.filterMap fun row => e.value? row).length)
  | count true e => some (countTerm (rows.filterMap fun row => e.value? row).eraseDups.length)
  | sum e => do
      let words ← (rows.filterMap fun row => e.value? row).mapM wordOf?
      let total ← sumWords words
      return .literal (.integer total)
  | other _ => none

/-- How rows are grouped, and what is computed from each group. -/
structure Grouping where
  /-- Unknowns that are computed from each row before it is put into its group. -/
  computed : List (Variable × Expression) := []
  key : List Variable
  aggregates : List (Variable × Aggregate)
  deriving DecidableEq

/-- A row with one more unknown, if its value can be told. -/
def Row.extend (row : Row) (v : Variable) (value : Option Term) : Row :=
  match value with
  | some t => row ++ [(v, t)]
  | none => row

/-- Rows with the same key, in the order in which the keys first occur. -/
def groupRows (key : List Variable) (rows : List Row) : List (Row × List Row) :=
  (rows.map (Row.restrict key)).eraseDups.map fun k =>
    (k, rows.filter fun row => row.restrict key == k)

namespace Grouping

/-- The row of a group: its key and what is computed from it. -/
def summary (grouping : Grouping) (group : Row × List Row) : Row :=
  grouping.aggregates.foldl (fun row (v, a) => row.extend v (a.value? group.2)) group.1

/-- One row for each group. Without a key there is one group, even if there is no row. -/
def apply (grouping : Grouping) (rows : List Row) : List Row :=
  let rows := rows.map fun row =>
    grouping.computed.foldl (fun row (v, e) => row.extend v (e.value? row)) row
  if grouping.key = [] then [grouping.summary ([], rows)]
  else (groupRows grouping.key rows).map grouping.summary

end Grouping

/-! ### Sorting -/

/-- The direction of a sort key. -/
inductive Direction
  | ascending
  | descending
  deriving DecidableEq, Repr

/-- The order of two rows by one key. -/
def Direction.orderBy (d : Direction) (e : Expression) (a b : Row) : Ordering :=
  let o := Term.orderMissing (e.value? a) (e.value? b)
  match d with
  | ascending => o
  | descending => o.swap

/-- The order of two rows by several keys, the first of which decides first. -/
def orderRows (keys : List (Direction × Expression)) (a b : Row) : Ordering :=
  match keys with
  | [] => .eq
  | (d, e) :: rest => (d.orderBy e a b).then (orderRows rest a b)

/-- Put a row into sorted rows, which are given backwards: it goes behind the last row that it
does not come before. -/
def insertRow (order : Row → Row → Ordering) (row : Row) : List Row → List Row
  | [] => [row]
  | last :: rest =>
    if order row last = .lt then last :: insertRow order row rest else row :: last :: rest

/-- Rows in an order; rows that it does not tell apart stay as they are. Few rows are inserted
one after the other, which decides the outcome where comparisons contradict each other. -/
def sortRows (order : Row → Row → Ordering) (rows : List Row) : List Row :=
  if rows.length ≤ 20 then (rows.foldl (fun sorted row => insertRow order row sorted) []).reverse
  else rows.mergeSort fun a b => order a b != .gt

/-! ### Queries -/

/-- One column of an answer: an unknown, and the expression that it stands for unless it is
matched. -/
structure Column where
  name : Variable
  source : Option Expression := none
  deriving DecidableEq

/-- What becomes of rows that are the same. -/
inductive Repetition
  | kept
  /-- Only the first of them stays. -/
  | removed
  /-- Only the first of several in a row stays. -/
  | reduced
  deriving DecidableEq, Repr

/-- The rows that stay. -/
def Repetition.apply : Repetition → List Row → List Row
  | kept, rows => rows
  | removed, rows => rows.eraseDups
  | reduced, rows => rows.eraseReps

/-- A query for rows. -/
structure Query where
  columns : List Column
  repetition : Repetition := .kept
  /-- Graphs with a name of which the query is asked. -/
  graphs : List Iri := []
  patterns : List Pattern
  conditions : List Expression := []
  grouping : Option Grouping := none
  /-- Conditions on the rows of groups. -/
  having : List Expression := []
  orderBy : List (Direction × Expression) := []
  offset : Nat := 0
  limit : Option Nat := none
  deriving DecidableEq

namespace Query

/-- The graph of which a query is asked. No graph has a name, so one that is asked for by name
is empty. -/
def asked (q : Query) (g : Graph) : Graph := if q.graphs.isEmpty then g else .empty

/-- The rows that match the patterns and are kept by the conditions. -/
def matching (q : Query) (g : Graph) : List Row :=
  (rowsOf (q.asked g) q.patterns).filter fun row => q.conditions.all (·.keeps row)

/-- The matching rows, or one row for each group of them. -/
def collected (q : Query) (g : Graph) : List Row :=
  let rows := match q.grouping with
    | some grouping => grouping.apply (q.matching g)
    | none => q.matching g
  rows.filter fun row => q.having.all (·.keeps row)

/-- A row with the columns that are expressions. -/
def withColumns (q : Query) (row : Row) : Row :=
  q.columns.foldl (fun row c =>
    match c.source with
    | some e => row.extend c.name (e.value? row)
    | none => row) row

/-- Rows in the order of the query. -/
def sorted (q : Query) (rows : List Row) : List Row :=
  if q.orderBy = [] then rows else sortRows (orderRows q.orderBy) rows

/-- The rows cut down to the columns. -/
def projected (q : Query) (rows : List Row) : List Row :=
  q.repetition.apply (rows.map (Row.restrict (q.columns.map Column.name)))

/-- The rows for which the query asks. -/
def limited (q : Query) (rows : List Row) : List Row :=
  match q.limit with
  | some n => (rows.drop q.offset).take n
  | none => rows.drop q.offset

/-- The answer of a query. -/
def run (q : Query) (g : Graph) : List Row :=
  q.limited (q.projected (q.sorted ((q.collected g).map q.withColumns)))

end Query

end Songbook.Sparql
