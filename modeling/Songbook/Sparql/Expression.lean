import Songbook.Sparql.Order
import Songbook.Sparql.Pattern

/-!
# Expressions

An expression has a term as its value in a row, or no value where it cannot be told. A condition
is an expression that keeps the rows in which its value counts as true.
-/

namespace Songbook.Sparql

open Rdf

/-- How two terms are compared. -/
inductive Comparison
  | equal
  | above
  | atLeast
  deriving DecidableEq, Repr

/-- The outcome of a comparison, if there is one. -/
def Comparison.test (c : Comparison) (a b : Term) : Option Bool :=
  match c with
  | equal => a.equal? b
  | above =>
    match a, b with
    | .literal x, .literal y => (x.compare? y).map (· == .gt)
    | _, _ => none
  | atLeast =>
    match a, b with
    | .literal x, .literal y => (x.compare? y).map (· != .lt)
    | _, _ => none

/-- What has a value in a row. -/
inductive Expression
  | term (t : Term)
  | unknown (v : Variable)
  /-- The datatype of a literal. -/
  | datatype (e : Expression)
  | compare (left : Expression) (comparison : Comparison) (right : Expression)
  | both (first second : Expression)
  /-- An expression that is read but never has a value, with the unknowns that it depends on. -/
  | other (mentioned : List Variable)
  deriving DecidableEq

namespace Expression

/-- A truth value as a term. -/
def ofTruth (b : Bool) : Term := .literal (.boolean b)

/-- Whether a term counts as true. Texts count as true unless they are empty, and numbers unless
they are zero or no number. -/
def truth? : Term → Option Bool
  | .literal (.boolean b) => some b
  | .literal (.plain s) => some (s != "")
  | .literal (.integer n) => some (n != 0)
  | .literal (.decimal d) => some (d.units != 0)
  | .literal (.double b) => some b.isNonzero
  | .literal (.single b) => some b.isNonzero
  | _ => none

/-- Both of two truth values, of which one that is false decides alone. -/
def conjunction? : Option Bool → Option Bool → Option Bool
  | some false, _ => some false
  | _, some false => some false
  | some true, some true => some true
  | _, _ => none

/-- The value of an expression in a row, if it has one. -/
def value? (row : Row) : Expression → Option Term
  | term t => some t
  | unknown v => row.get? v
  | datatype e =>
    match e.value? row with
    | some (.literal l) => some (.node (.iri l.datatype))
    | _ => none
  | compare left c right => do
      let a ← left.value? row
      let b ← right.value? row
      return ofTruth (← c.test a b)
  | both first second =>
      (conjunction? ((first.value? row).bind truth?) ((second.value? row).bind truth?)).map ofTruth
  | other _ => none

/-- A condition keeps the rows in which it is known to be true. -/
def keeps (e : Expression) (row : Row) : Bool := (e.value? row).bind truth? == some true

/-- The unknowns on which the value of an expression depends. -/
def mentions : Expression → List Variable
  | term _ => []
  | unknown v => [v]
  | datatype e => e.mentions
  | compare left _ right => left.mentions ++ right.mentions
  | both first second => first.mentions ++ second.mentions
  | other mentioned => mentioned

end Expression

end Songbook.Sparql
