import Songbook.Sparql.Reader.Triples

/-!
# Reading expressions

Expressions are read in full, but only those that have a value here are kept as they are. Of the
others it is kept which unknowns they depend on. An aggregate is kept with the query around it
and stands in the expression as an unknown.
-/

namespace Songbook.Sparql

open Rdf Reader

/-- How the parts of an expression that stand in parentheses or braces are read. -/
structure Inner where
  expression : Reader Expression
  group : Reader Unit

/-- An expression that depends on others. -/
def Expression.of (parts : List Expression) : Expression := .other (parts.flatMap mentions)

/-- Operands with operators of some kinds between them. -/
def readChain (operand : Reader Expression) (signs : List String) : Reader Expression := do
  let first ← operand
  let more ← many do
    blanks
    spaced ((signs.map mark).foldr (· <|> ·) failure)
    operand
  return if more.isEmpty then first else .of (first :: more)

namespace Inner

variable (inner : Inner)

/-- An expression in parentheses. -/
def readParenthesized : Reader Expression := between "(" inner.expression ")"

/-- Arguments in parentheses with commas between them. -/
def readArguments : Reader (List Expression) :=
  between "(" (separated (spaced inner.expression) (spaced (mark ","))) ")"

/-- Arguments in parentheses, of which there may be none. -/
def readList : Reader (List Expression) :=
  inner.readArguments <|> (do readEmpty "(" ")"; return [])

/-- Arguments of a function that has no name of its own. -/
def readCallArguments : Reader (List Expression) :=
  between "(" (do
    let _ ← optional (spaced (keyword "distinct"))
    separated (spaced inner.expression) (spaced (mark ","))) ")" <|>
  (do readEmpty "(" ")"; return [])

/-! ### Aggregates -/

/-- Keep an aggregate with the innermost query that is being read. -/
def keepAggregate (a : Aggregate) : Reader Expression := do
  match (← scope).aggregates with
  | [] => failure
  | known :: outer =>
    match known.find? (·.2 = a) with
    | some (v, _) => return .unknown v
    | none =>
      let v ← freshVariable
      setScope fun s => { s with aggregates := (known ++ [(v, a)]) :: outer }
      return .unknown v

/-- The word in front of an argument of which repetitions do not count. -/
def readDistinct : Reader Bool := do return (← optional (spaced (keyword "distinct"))).isSome

/-- The number of rows or of values. -/
def readCount : Reader Aggregate := do
  spaced (keyword "count")
  between "(" (do
    let distinct ← readDistinct
    (do mark "*"; return .other []) <|>
      (do return .count distinct (← inner.expression))) ")"

/-- The sum of values. -/
def readSum : Reader Aggregate := do
  spaced (keyword "sum")
  between "(" (do
    let distinct ← readDistinct
    let e ← inner.expression
    return if distinct then .other e.mentions else .sum e) ")"

/-- A text that is put between the values of a group. -/
def readSeparator : Reader Unit := do
  spaced (mark ";")
  spaced (keyword "separator")
  spaced (mark "=")
  let _ ← readText

/-- An aggregate without a value here. -/
def readOtherAggregate : Reader Aggregate := do
  spaced ((["min", "max", "avg", "sample"].map keyword).foldl (· <|> ·) failure)
  between "(" (do
    let _ ← readDistinct
    return .other (← inner.expression).mentions) ")"

/-- The values of a group put together. -/
def readConcatenation : Reader Aggregate := do
  spaced (keyword "group_concat")
  between "(" (do
    let _ ← readDistinct
    let e ← spaced inner.expression
    let _ ← optional readSeparator
    return .other e.mentions) ")"

/-- An aggregate. -/
def readAggregate : Reader Expression := do
  keepAggregate (← inner.readCount <|> inner.readSum <|> inner.readOtherAggregate <|>
    inner.readConcatenation)

/-! ### Functions -/

/-- The functions with their least and greatest number of arguments. -/
def functions : List (String × Nat × Nat) :=
  [("strlen", 1, 1), ("strlang", 2, 2), ("strdt", 2, 2), ("strstarts", 2, 2), ("strends", 2, 2),
   ("strbefore", 2, 2), ("strafter", 2, 2), ("str", 1, 1), ("langmatches", 2, 2),
   ("lang", 1, 1), ("iri", 1, 1), ("uri", 1, 1), ("abs", 1, 1), ("ceil", 1, 1),
   ("floor", 1, 1), ("round", 1, 1), ("substr", 2, 3), ("replace", 3, 4), ("regex", 2, 3),
   ("ucase", 1, 1), ("lcase", 1, 1), ("encode_for_uri", 1, 1), ("contains", 2, 2),
   ("year", 1, 1), ("month", 1, 1), ("day", 1, 1), ("hours", 1, 1), ("minutes", 1, 1),
   ("seconds", 1, 1), ("timezone", 1, 1), ("tz", 1, 1), ("md5", 1, 1), ("sha1", 1, 1),
   ("sha256", 1, 1), ("sha384", 1, 1), ("sha512", 1, 1), ("if", 3, 3), ("sameterm", 2, 2),
   ("isiri", 1, 1), ("isuri", 1, 1), ("isblank", 1, 1), ("isliteral", 1, 1),
   ("isnumeric", 1, 1), ("bnode", 1, 1), ("triple", 3, 3), ("subject", 1, 1),
   ("predicate", 1, 1), ("object", 1, 1), ("istriple", 1, 1), ("adjust", 2, 2)]

/-- A function with its arguments. -/
def readFunction (f : String × Nat × Nat) : Reader Expression := do
  spaced (keyword f.1)
  let parts ← inner.readArguments
  if f.2.1 ≤ parts.length ∧ parts.length ≤ f.2.2 then return .of parts else failure

/-- A function without arguments. -/
def readConstant (word : String) : Reader Expression := do
  spaced (keyword word)
  readEmpty "(" ")"
  return .other []

/-- A function of any number of arguments. -/
def readVariadic : Reader Expression :=
  (do
    spaced (keyword "concat")
    return .of (← inner.readList)) <|>
  (do
    spaced (keyword "coalesce")
    let _ ← inner.readList
    return .other [])

/-- Whether braces match, or whether they do not. -/
def readExistence : Reader Expression := do
  let _ ← optional (spaced (keyword "not"))
  spaced (keyword "exists")
  inner.group
  return .other []

/-- A function that the language knows. -/
def readBuiltIn : Reader Expression :=
  inner.readAggregate <|>
  (do
    spaced (keyword "datatype")
    return .datatype (← inner.readParenthesized)) <|>
  (do
    spaced (keyword "bound")
    let _ ← between "(" readVariable ")"
    return .other []) <|>
  (functions.map inner.readFunction).foldr (· <|> ·) failure <|>
  (["bnode", "rand", "now", "uuid", "struuid"].map readConstant).foldr (· <|> ·) failure <|>
  inner.readVariadic <|>
  inner.readExistence

/-! ### Operators -/

/-- An identifier, or a function that it names. -/
def readIriOrCall : Reader Expression := do
  let i ← readIri
  match ← optional (do blanks; inner.readCallArguments) with
  | some parts => return .of parts
  | none => return .term (.node (.iri i))

/-- An expression without operators. -/
def readPrimary : Reader Expression :=
  inner.readParenthesized <|>
  inner.readIriOrCall <|>
  (do return .unknown (← readVariable)) <|>
  (do return .term (.literal (← readLiteral))) <|>
  inner.readBuiltIn

/-- An expression that an operator may stand in front of. -/
def readUnary : Reader Expression :=
  (do
    spaced (mark "!" <|> mark "+" <|> mark "-")
    return .of [← inner.readPrimary]) <|>
  inner.readPrimary

/-- A number that is computed by multiplications and additions. -/
def readNumeric : Reader Expression :=
  readChain (readChain inner.readUnary ["*", "/"]) ["+", "-"]

/-- The sign of a comparison; not all of them have an outcome here. -/
def readComparisonSign : Reader (Option Comparison) :=
  (do mark "="; return some .equal) <|>
  (do mark "!="; return none) <|>
  (do mark ">="; return some .atLeast) <|>
  (do mark ">"; return some .above) <|>
  (do mark "<="; return none) <|>
  (do mark "<"; return none)

/-- A comparison, a look into a list, or just a number. -/
def readRelation : Reader Expression := do
  let left ← spaced inner.readNumeric
  (do
    let sign ← spaced readComparisonSign
    let right ← inner.readNumeric
    return match sign with
      | some c => .compare left c right
      | none => .of [left, right]) <|>
  (do
    let _ ← optional (spaced (keyword "not"))
    spaced (keyword "in")
    return .of (left :: (← inner.readList))) <|>
  pure left

/-- Several conditions of which all must hold. -/
def readConjunction : Reader Expression := do
  let parts ← separated (spaced inner.readRelation) (spaced (mark "&&"))
  match parts with
  | first :: more => return more.foldl .both first
  | [] => failure

/-- An expression. -/
def readExpression : Reader Expression := do
  let parts ← separated (spaced inner.readConjunction) (spaced (mark "||"))
  match parts with
  | [only] => return only
  | _ => return .of parts

/-- An expression where it needs no parentheses only if it is a function. -/
def readConstraint : Reader Expression :=
  inner.readParenthesized <|>
  (do
    let _ ← spaced readIri
    return .of (← inner.readCallArguments)) <|>
  inner.readBuiltIn

end Inner

end Songbook.Sparql
