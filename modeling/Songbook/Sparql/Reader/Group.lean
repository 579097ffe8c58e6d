import Songbook.Sparql.Reader.Expression

/-!
# Reading groups

A group stands in braces and holds statements, conditions and further groups. Groups that hold
nothing but statements and conditions can be answered; of the others it is kept which names
occur in them, since a name must not be given a value twice.
-/

namespace Songbook.Sparql

open Rdf Reader

/-- What stands in braces. -/
structure GroupPattern where
  triples : Triples := {}
  conditions : List Expression := []
  /-- The names that may stand for something in the rows of the group. -/
  names : List Variable := []
  deriving Inhabited

namespace GroupPattern

/-- A part of a group of which only names are kept. -/
def ofNames (names : List Variable) : GroupPattern := { triples := { complete := false }, names }

/-- A group with one more part. -/
def add (g part : GroupPattern) : GroupPattern where
  triples := g.triples ++ part.triples
  conditions := g.conditions ++ part.conditions
  names := g.names ++ part.names

/-- A part of a group that is made of triples. -/
def ofTriples (t : Triples) : GroupPattern := { triples := t, names := t.names }

end GroupPattern

/-- One part of a group. -/
inductive GroupPart
  | group (g : GroupPattern)
  /-- A name that is given the value of an expression. -/
  | binding (v : Variable)

/-- A group with one more part. A name that the group has already must not be given a value. -/
def GroupPattern.addPart (g : GroupPattern) : GroupPart → Reader GroupPattern
  | .group part => return g.add part
  | .binding v => if v ∈ g.names then failure else return g.add (.ofNames [v])

/-- How the parts of a group are read that stand in braces, in parentheses or in brackets. -/
structure GroupInner where
  statement : Reader Triples
  expressions : Inner
  group : Reader GroupPattern
  /-- A query in place of the parts of a group, by the names of its columns. -/
  query : Reader (List Variable)

/-- From here on the labels that were used so far are spent. -/
def spendLabels : Reader Unit :=
  setScope fun known => { known with labels := [], spent := known.labels ++ known.spent }

/-- The names of an unknown place. -/
def Slot.names : Slot → List Variable
  | unknown v => [v]
  | known _ => []

/-! ### Tables of values -/

/-- A value of a table, which may be missing. -/
def readCell : Reader Unit :=
  (do let _ ← readIri; return) <|> (do let _ ← readLiteral; return) <|> keyword "undef"

/-- A table of values for one name or for several. Every row has a value for each name. -/
def readTable : Reader (List Variable) :=
  (do
    let v ← spaced readVariable
    between "\x7b" (many (spaced readCell)) "\x7d" *> return [v]) <|>
  (do
    let vs ← between "(" (many (spaced readVariable)) ")"
    blanks
    let rows ← between "\x7b" (many (spaced (between "(" (many (spaced readCell)) ")"))) "\x7d"
    if rows.all (·.length = vs.length) then return vs else failure)

namespace GroupInner

variable (inner : GroupInner)

/-! ### Parts of a group -/

/-- A group, or several groups of which rows may come. -/
def readAlternatives : Reader GroupPattern := do
  let groups ← separated (spaced inner.group) (spaced (keyword "union"))
  return .ofNames (groups.flatMap (·.names))

/-- A group behind a word. -/
def readAfter (word : String) : Reader GroupPattern := do
  spaced (keyword word)
  inner.group

/-- A group that is matched somewhere else. -/
def readElsewhere : Reader GroupPattern :=
  (do
    spaced (keyword "graph")
    let place ← spaced readVariableOrIri
    return .ofNames (place.names ++ (← inner.group).names)) <|>
  (do
    spaced (keyword "service")
    let _ ← optional (spaced (keyword "silent"))
    let place ← spaced readVariableOrIri
    return .ofNames (place.names ++ (← inner.group).names))

/-- A name for the value of an expression. -/
def readBinding : Reader Variable := do
  spaced (keyword "bind")
  between "(" (do
    let _ ← spaced inner.expressions.expression
    spaced (keyword "as")
    readVariable) ")"

/-- A part of a group that is not made of triples. -/
def readPart : Reader GroupPart :=
  (do return .group (← inner.readAlternatives)) <|>
  (do
    let g ← inner.readAfter "optional" <|> inner.readAfter "lateral"
    return .group (.ofNames g.names)) <|>
  (do let _ ← inner.readAfter "minus"; return .group (.ofNames [])) <|>
  (do return .group (← inner.readElsewhere)) <|>
  (do
    spaced (keyword "filter")
    return .group { conditions := [← inner.expressions.readConstraint] }) <|>
  (do return .binding (← inner.readBinding)) <|>
  (do
    spaced (keyword "values")
    return .group (.ofNames (← readTable)))

/-- Statements with points between them. -/
def readStatements : Reader GroupPattern := do
  let parts ← separated (spaced inner.statement) (spaced (mark "."))
  let _ ← optional (spaced (mark "."))
  return .ofTriples (.join parts)

/-- The parts between braces. -/
def readParts : Reader GroupPattern := do
  let first ← optional inner.readStatements
  blanks
  let more ← many do
    let part ← spaced inner.readPart
    let _ ← optional (spaced (mark "."))
    let statements ← optional inner.readStatements
    blanks
    return (part, statements)
  more.foldlM (fun g (part, statements) => do
    return (← g.addPart part).add (statements.getD {})) (first.getD {})

/-- A group in its braces. Labels of blank nodes belong to one group, and only as long as no
other braces come between. -/
def readGroup : Reader GroupPattern :=
  between "\x7b" (do
    spendLabels
    let g ← inner.readParts
    spendLabels
    return g) "\x7d" <|>
  between "\x7b" (do
    spendLabels
    let names ← inner.query
    spendLabels
    return .ofNames names) "\x7d"

end GroupInner

end Songbook.Sparql
