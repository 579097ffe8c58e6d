import Songbook.Rdf.Term

/-!
# The order of terms

Comparison operators compare values where both are texts of one language, numbers, periods of
time, or moments of one kind; any other pair cannot be compared. Sorting needs an answer for
every pair: what is missing comes first, then blank nodes, identifiers and literals, and
literals that cannot be compared are ordered by spelling, datatype and language.
-/

namespace Songbook.Rdf

namespace Literal

/-- The number of 64 bits that a literal is, if it is a number. -/
def asDouble? : Literal → Option Binary
  | integer n => some (Binary.ofInt .double n.toInt)
  | decimal d => some (Binary.ofDecimal .double d)
  | single b => some b
  | double b => some b
  | _ => none

/-- The number of 32 bits that a literal is, if it is a number of no more than 32 bits. -/
def asSingle? : Literal → Option Binary
  | integer n => some (Binary.ofInt .single n.toInt)
  | decimal d => some ((Binary.ofDecimal .double d).round .single)
  | single b => some b
  | _ => none

/-- The decimal that a literal is, if it is one. -/
def asDecimal? : Literal → Option Decimal
  | integer n => some (Decimal.ofInt n.toInt)
  | decimal d => some d
  | _ => none

/-- The order of two numbers in the narrowest kind that holds them both. -/
def compareNumbers? (a b : Literal) : Option Ordering :=
  match a.asDecimal?, b.asDecimal? with
  | some x, some y => some (compare x.units y.units)
  | _, _ =>
    match a.asSingle?, b.asSingle? with
    | some x, some y => Binary.compare? x y
    | _, _ =>
      match a.asDouble?, b.asDouble? with
      | some x, some y => Binary.compare? x y
      | _, _ => none

/-- The order of two literals by value, if they have values that can be compared. -/
def compare? : Literal → Literal → Option Ordering
  | plain s, plain t => some (compare s t)
  | tagged s k, tagged t l => if k = l then some (compare s t) else none
  | integer m, integer n => some (compare m.toInt n.toInt)
  | period p, period q => p.compare? q
  | moment m, moment n => m.compare? n
  | a, b => compareNumbers? a b

/-- The order of two languages; no language comes before any. -/
def compareLanguages : Option String → Option String → Ordering
  | none, none => .eq
  | none, some _ => .lt
  | some _, none => .gt
  | some k, some l => compare k l

/-- The order of two literals by spelling, datatype and language. -/
def compareSpellings (a b : Literal) : Ordering :=
  (compare a.text b.text).then
    ((compare a.datatype.text b.datatype.text).then
      (compareLanguages a.language? b.language?))

/-- The order of two literals when every pair must have one. -/
def order (a b : Literal) : Ordering := (compare? a b).getD (compareSpellings a b)

end Literal

/-- The order of two terms when every pair must have one. Blank nodes are all alike. -/
def Term.order : Term → Term → Ordering
  | .node (.blank _), .node (.blank _) => .eq
  | .node (.blank _), _ => .lt
  | _, .node (.blank _) => .gt
  | .node (.iri i), .node (.iri j) => compare i.text j.text
  | .node (.iri _), .literal _ => .lt
  | .literal _, .node (.iri _) => .gt
  | .literal a, .literal b => a.order b

/-- The order of two values that may be missing. -/
def Term.orderMissing : Option Term → Option Term → Ordering
  | none, none => .eq
  | none, some _ => .lt
  | some _, none => .gt
  | some a, some b => a.order b

/-- Whether two terms are equal as values, if that can be told. -/
def Term.equal? : Term → Term → Option Bool
  | .literal a, .literal b =>
    match a.compare? b with
    | some o => some (o == .eq)
    | none =>
      if a = b then some true
      else match a, b with
        | .typed _ _, _ => none
        | _, .typed _ _ => none
        | _, _ => some false
  | a, b => some (a == b)

end Songbook.Rdf
