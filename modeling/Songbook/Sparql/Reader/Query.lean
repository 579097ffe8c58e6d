import Songbook.Sparql.Reader.Group

/-!
# Reading queries

A query text declares names and then asks for rows, for an answer yes or no, or for triples.
Queries for rows are read into a `Query`; the others are recognized only. What a query asks for
must be known where rows are grouped, and no column may be given twice.

## Main definitions

* `Projection`: what a query asks for, in front of its braces.
* `Modifiers`: grouping, order and limits, behind its braces.
* `select`: the query that these make together.
* `readQuery?`: the query that a text spells.
-/

namespace Songbook.Sparql

open Rdf Reader

/-! ### Behind the braces -/

/-- What follows the braces of a query. -/
structure Modifiers where
  groupBy : Option (List (Expression × Option Variable)) := none
  having : List Expression := []
  orderBy : List (Direction × Expression) := []
  offset : Nat := 0
  limit : Option Nat := none
  /-- The names of a table of values at the end. -/
  table : Option (List Variable) := none

namespace Inner

variable (inner : Inner)

/-- What rows are grouped by. -/
def readGroupKey : Reader (Expression × Option Variable) :=
  (do return (← inner.readBuiltIn, none)) <|>
  (do
    let _ ← spaced readIri
    return (.of (← inner.readCallArguments), none)) <|>
  between "(" (do
    let e ← spaced inner.expression
    let name? ← optional (do spaced (keyword "as"); readVariable)
    return (e, name?)) ")" <|>
  (do return (.unknown (← readVariable), none))

/-- What rows are sorted by. -/
def readSortKey : Reader (Direction × Expression) :=
  (do
    spaced (keyword "asc")
    return (.ascending, ← inner.readParenthesized)) <|>
  (do
    spaced (keyword "desc")
    return (.descending, ← inner.readParenthesized)) <|>
  (do return (.ascending, ← inner.readConstraint)) <|>
  (do return (.ascending, .unknown (← readVariable)))

/-- A number behind a word. -/
def readBound (word : String) : Reader Nat := do
  spaced (keyword word)
  let digits ← someChars Char.isDigit
  let n := Nat.ofDigitChars 10 digits 0
  if n < 0x10000000000000000 then return n else failure

/-- The first row and the number of rows, in any order. -/
def readBounds : Reader (Nat × Option Nat) :=
  (do
    let limit ← spaced (readBound "limit")
    return ((← optional (readBound "offset")).getD 0, some limit)) <|>
  (do
    let offset ← spaced (readBound "offset")
    return (offset, ← optional (readBound "limit")))

/-- What follows the braces of a query. -/
def readModifiers : Reader Modifiers := do
  let groupBy ← optional do
    spaced (keyword "group")
    spaced (keyword "by")
    some1 (spaced inner.readGroupKey)
  blanks
  let having ← optional do
    spaced (keyword "having")
    some1 (spaced inner.readConstraint)
  blanks
  let orderBy ← optional do
    spaced (keyword "order")
    spaced (keyword "by")
    some1 (spaced inner.readSortKey)
  blanks
  let bounds ← optional readBounds
  blanks
  let table ← optional do
    spaced (keyword "values")
    readTable
  return {
    groupBy, having := having.getD [], orderBy := orderBy.getD []
    offset := (bounds.map (·.1)).getD 0, limit := bounds.bind (·.2), table }

end Inner

/-! ### In front of the braces -/

/-- What a query asks for. -/
inductive Projection
  /-- Every name that occurs. -/
  | all
  /-- Names, and names for expressions. -/
  | columns (cs : List Column)
  /-- Nothing that would have to be checked. -/
  | unchecked

/-- The grouping that modifiers and aggregates make, if there is one. -/
def Modifiers.grouping? (m : Modifiers) (aggregates : List (Variable × Aggregate)) :
    Reader (Option Grouping) := do
  match m.groupBy with
  | none => return if aggregates.isEmpty then none else some { key := [], aggregates }
  | some keys =>
    let named ← keys.mapM fun (e, name?) => do
      match e, name? with
      | .unknown v, _ => return (v, none)
      | e, some v => return (v, some (v, e))
      | e, none =>
        let v ← freshVariable
        return (v, some (v, e))
    return some { computed := named.filterMap (·.2), key := named.map (·.1), aggregates }

/-- Check columns one after the other. A name with an expression must be new, a name must not
be given twice, and in grouped rows everything that is asked for must be known. -/
def checkColumns (grouped : Bool) (names : List Variable) :
    List Column → List Variable → Option Unit
  | [], _ => some ()
  | c :: rest, seen =>
    let admitted :=
      match c.source with
      | none => !grouped || names.contains c.name
      | some e => !names.contains c.name && (!grouped || e.mentions.all names.contains)
    if admitted && !seen.contains c.name then checkColumns grouped names rest (c.name :: seen)
    else none

/-- A name as text, for sorting names. -/
def Variable.text : Variable → String
  | named name => name
  | labelled label => label
  | fresh n => toString n

/-- The query that its parts make, whose aggregates are no longer kept, and whether it can be
answered. -/
def select (projection : Projection) (repetition : Repetition) (g : GroupPattern)
    (m : Modifiers) : Reader (Query × Bool) := do
  let kept := (← scope).aggregates
  setScope fun known => { known with aggregates := kept.tail }
  let grouping ← m.grouping? (kept.head?.getD [])
  let names :=
    (match grouping with
      | some grouping => grouping.key ++ grouping.aggregates.map (·.1)
      | none => g.names) ++ m.table.getD []
  let columns ← match projection with
    | .all =>
      if grouping.isSome then failure
      else
        let sorted := names.eraseDups.mergeSort fun a b => compare a.text b.text != .gt
        pure (sorted.map fun v => { name := v })
    | .columns cs =>
      match checkColumns grouping.isSome names cs [] with
      | some () => pure cs
      | none => failure
    | .unchecked => pure []
  let query : Query :=
    { columns, repetition, grouping
      patterns := g.triples.patterns
      conditions := g.conditions
      having := m.having
      orderBy := m.orderBy
      offset := m.offset
      limit := m.limit }
  return (query, g.triples.complete && m.table.isNone)

namespace Inner

variable (inner : Inner)

/-- A column: a name, or an expression with a name in parentheses. -/
def readColumn : Reader Column :=
  (do return { name := ← readVariable }) <|>
  between "(" (do
    let e ← spaced inner.expression
    spaced (keyword "as")
    return { name := ← readVariable, source := some e }) ")"

/-- The word for what becomes of rows that are the same. -/
def readRepetition : Reader Repetition :=
  (do keyword "distinct"; return .removed) <|>
  (do keyword "reduced"; return .reduced) <|>
  pure .kept

/-- What a query for rows asks for. -/
def readProjection : Reader (Projection × Repetition) := do
  spaced (keyword "select")
  setScope fun known => { known with aggregates := [] :: known.aggregates }
  let repetition ← spaced readRepetition
  let projection ←
    (do mark "*"; return .all) <|>
    (do return .columns (← some1 (spaced inner.readColumn)))
  return (projection, repetition)

/-- The identifiers of the graphs that a query is asked of. -/
def readDataset : Reader (List Iri) :=
  many <| spaced do
    spaced (keyword "from")
    let _ ← optional (spaced (keyword "named"))
    readIri

end Inner

/-- The braces of a query, in front of which a word may stand. -/
def readWhere (group : Reader GroupPattern) : Reader GroupPattern := do
  let _ ← optional (spaced (keyword "where"))
  group

/-- A query for rows, and whether it can be answered. -/
def readSelect (inner : Inner) (group : Reader GroupPattern) (dataset : Reader (List Iri)) :
    Reader (Query × Bool) := do
  let (projection, repetition) ← spaced inner.readProjection
  let graphs ← spaced dataset
  let g ← spaced (readWhere group)
  let (q, answered) ← select projection repetition g (← inner.readModifiers)
  return ({ q with graphs }, answered)

/-! ### Nesting -/

/-- Readers of what may stand inside itself, up to a depth. -/
structure Nested where
  path : Reader PropertyPath
  node : Reader Described
  template : Reader Described
  expression : Reader Expression
  group : Reader GroupPattern

namespace Nested

/-- Nodes and statements of patterns. -/
def patterns (n : Nested) : Manner := { property := readPatternProperty n.path, node := n.node }

/-- Nodes and statements of templates. -/
def templates (n : Nested) : Manner := { property := readTemplateProperty, node := n.template }

/-- Expressions. -/
def expressions (n : Nested) : Inner :=
  { expression := n.expression, group := do let _ ← n.group }

/-- Groups. -/
def groups (n : Nested) : GroupInner where
  statement := n.patterns.readStatement
  expressions := n.expressions
  group := n.group
  query := do
    let (q, _) ← readSelect n.expressions n.group (pure [])
    return q.columns.map Column.name

/-- Nothing can be read where the depth is exhausted. -/
def bottom : Nested where
  path := failure
  node := failure
  template := failure
  expression := failure
  group := failure

/-- What may stand around something nested. -/
def around (n : Nested) : Nested where
  path := readPath n.path
  node := n.patterns.readNode
  template := n.templates.readNode
  expression := n.expressions.readExpression
  group := n.groups.readGroup

/-- Readers up to a depth. -/
def ofDepth : Nat → Nested
  | 0 => bottom
  | depth + 1 => (ofDepth depth).around

end Nested

/-! ### Queries -/

/-- What was read: a query for rows, or one that answers something else. Of some queries for
rows nothing is known but that they are well formed. -/
inductive Form
  | rows (q : Query)
  | unanswered
  | other
  deriving DecidableEq

/-- The declarations at the front. -/
def readDeclarations : Reader Unit := do
  let _ ← many <| spaced <|
    (do
      spaced (keyword "base")
      let i ← readReference
      setScope fun known => { known with base := some i }) <|>
    (do
      spaced (keyword "prefix")
      let space ← spaced readSpace
      let i ← readReference
      setScope fun known => { known with spaces := (space, i) :: known.spaces })

namespace Nested

variable (n : Nested)

/-- The rest of a query that does not ask for rows. -/
def readRest (projection : Projection) (g : GroupPattern) : Reader Form := do
  blanks
  let m ← n.expressions.readModifiers
  let _ ← select projection .kept g m
  return .other

/-- A template in its braces. -/
def readTemplate : Reader Unit := do
  let _ ← between "\x7b" (do
    let _ ← optional (separated (spaced n.templates.readStatement) (spaced (mark ".")))
    optional (mark ".")) "\x7d"

/-- A query for triples that are made of a template. Triples alone may be their own template. -/
def readConstruct : Reader Form :=
  (do
    spaced (keyword "construct")
    spaced n.readTemplate
    let _ ← spaced Inner.readDataset
    n.readRest .unchecked (← readWhere n.group)) <|>
  (do
    spaced (keyword "construct")
    let _ ← spaced Inner.readDataset
    spaced (keyword "where")
    n.readTemplate
    n.readRest .unchecked {})

/-- What is to be described. -/
def readDescribed : Reader Column := do
  match ← readVariableOrIri with
  | .unknown v => return { name := v }
  | .known t => return { name := ← freshVariable, source := some (.term t) }

/-- A query for what is known of some things. -/
def readDescribe : Reader Form :=
  (do
    spaced (keyword "describe")
    spaced (mark "*")
    let _ ← spaced Inner.readDataset
    n.readRest .all (← readWhere n.group)) <|>
  (do
    spaced (keyword "describe")
    let columns ← some1 (spaced readDescribed)
    let _ ← spaced Inner.readDataset
    let g ← optional (readWhere n.group)
    n.readRest (.columns columns) (g.getD {}))

/-- A query for yes or no. -/
def readAsk : Reader Form := do
  spaced (keyword "ask")
  let _ ← spaced Inner.readDataset
  n.readRest .unchecked (← readWhere n.group)

/-- A query. -/
def readForm : Reader Form := do
  blanks
  readDeclarations
  blanks
  let form ←
    (do
      let (q, answered) ← readSelect n.expressions n.group Inner.readDataset
      return if answered then .rows q else .unanswered) <|>
    n.readConstruct <|> n.readDescribe <|> n.readAsk
  blanks
  return form

end Nested

/-- The depth to which a text can be nested: everything that stands inside something else
stands in brackets. -/
def depthOf (cs : List Char) : Nat :=
  (cs.filter fun c => c == '(' || c == '[' || c == '\x7b').length + 1

/-- The query that a text spells. -/
def readQuery? (text : String) : Option Form :=
  match (Nested.ofDepth (depthOf text.toList)).readForm { rest := text.toList } with
  | some (form, { rest := [], .. }) => some form
  | _ => none

end Songbook.Sparql
