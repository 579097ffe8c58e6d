import Songbook.Sparql.Reader.Term

/-!
# Reading triples

A statement of a query gives a node properties with values. A property may be a path, which
leads over several triples. Nodes may be described in brackets and listed in parentheses; both
stand for unknowns, with patterns of their own. Patterns of nodes inside a statement come before
the patterns of the statement itself.
-/

namespace Songbook.Sparql

open Rdf Reader

/-! ### Paths -/

/-- A property, or a way from node to node that is made of properties. -/
inductive PropertyPath
  | iri (i : Iri)
  | inverse (p : PropertyPath)
  | sequence (first second : PropertyPath)
  /-- A path that is no fixed number of triples. -/
  | other

/-- The property that gives the class of a node, by its short name. -/
def readClassProperty : Reader Iri := do
  mark "a"
  return Vocabulary.rdfType

/-- A property that must not occur, possibly backwards. -/
def readExcluded : Reader Unit := do
  let _ ← optional (spaced (mark "^"))
  let _ ← readIri <|> readClassProperty

/-- A property, what must not occur, or a path in parentheses. -/
def readPathPrimary (inner : Reader PropertyPath) : Reader PropertyPath :=
  (do return .iri (← readIri <|> readClassProperty)) <|>
  (do
    spaced (mark "!")
    (do let _ ← between "(" (separated (spaced readExcluded) (spaced (mark "|"))) ")"; return) <|>
      readExcluded
    return .other) <|>
  between "(" inner ")"

/-- A path that may be repeated or left out. A question mark in front of a name belongs to an
unknown. -/
def readPathElement (inner : Reader PropertyPath) : Reader PropertyPath := do
  let p ← readPathPrimary inner
  let repeated ← optional <| mark "*" <|> mark "+" <|>
    (do mark "?"; notBefore fun c => isNameStart c || c.isDigit)
  return if repeated.isSome then .other else p

/-- A path that may be gone backwards. -/
def readPathStep (inner : Reader PropertyPath) : Reader PropertyPath :=
  readPathElement inner <|>
  (do
    spaced (mark "^")
    return .inverse (← readPathElement inner))

/-- Paths one after the other. -/
def readPathSequence (inner : Reader PropertyPath) : Reader PropertyPath := do
  let first ← spaced (readPathStep inner)
  let more ← many (do spaced (mark "/"); spaced (readPathStep inner))
  return more.foldl .sequence first

/-- A path. -/
def readPath (inner : Reader PropertyPath) : Reader PropertyPath := do
  let first ← spaced (readPathSequence inner)
  let more ← many (do spaced (mark "|"); spaced (readPathSequence inner))
  return if more.isEmpty then first else .other

/-! ### Patterns -/

/-- Patterns, and whether they say everything that was read. -/
structure Triples where
  patterns : List Pattern := []
  complete : Bool := true

namespace Triples

/-- Patterns behind each other. -/
def append (a b : Triples) : Triples :=
  { patterns := a.patterns ++ b.patterns, complete := a.complete && b.complete }

instance : Append Triples := ⟨append⟩

/-- Patterns of several parts. -/
def join (parts : List Triples) : Triples := parts.foldl (· ++ ·) {}

/-- The unknowns with a name. -/
def names (t : Triples) : List Variable :=
  (t.patterns.flatMap Pattern.unknowns).filter fun v =>
    match v with
    | .named _ => true
    | _ => false

end Triples

/-- What stands where a property is awaited. -/
inductive Property
  | path (p : PropertyPath)
  | unknown (v : Variable)

/-- The patterns of a path from one place to another. -/
def PropertyPath.triples (subject : Slot) (p : PropertyPath) (object : Slot) : Reader Triples :=
  match p with
  | iri i => return { patterns := [⟨subject, .ofIri i, object⟩] }
  | inverse p => p.triples object subject
  | sequence first second => do
      let middle := Slot.unknown (← freshVariable)
      return (← first.triples subject middle) ++ (← second.triples middle object)
  | other =>
      -- The unknowns at both ends are kept, so that it is known which names occur.
      return { patterns := [⟨subject, .ofIri Vocabulary.rdfNil, object⟩], complete := false }

/-- The patterns of a property from one place to another. -/
def Property.triples (subject : Slot) (p : Property) (object : Slot) : Reader Triples :=
  match p with
  | path p => p.triples subject object
  | unknown v => return { patterns := [⟨subject, .unknown v, object⟩] }

/-- A node with the patterns that describe it. -/
structure Described where
  node : Slot
  triples : Triples := {}

/-- Properties with their values, and the patterns of the values. -/
structure Properties where
  pairs : List (Property × List Slot) := []
  triples : Triples := {}

/-- The patterns that give a node its properties. -/
def Properties.of (properties : Properties) (subject : Slot) : Reader Triples := do
  let parts ← properties.pairs.mapM fun (p, objects) => do
    return Triples.join (← objects.mapM (p.triples subject))
  return properties.triples ++ .join parts

/-! ### Statements -/

/-- How properties and nodes are read, which differs between patterns and templates. -/
structure Manner where
  property : Reader Property
  /-- A node between brackets or parentheses. -/
  node : Reader Described

namespace Manner

variable (manner : Manner)

/-- A property with its values. -/
def readPair (node : Reader Described) : Reader Properties := do
  let p ← spaced manner.property
  let objects ← separated (spaced node) (spaced (mark ","))
  return { pairs := [(p, objects.map Described.node)], triples := .join (objects.map (·.triples)) }

/-- Properties with their values. Semicolons stand between them and may be repeated. -/
def readProperties (node : Reader Described) : Reader Properties := do
  let first ← manner.readPair node
  let more ← many do
    spaced (mark ";")
    return (← optional (spaced (manner.readPair node))).getD {}
  return {
    pairs := (first :: more).flatMap (·.pairs)
    triples := .join ((first :: more).map (·.triples)) }

/-- A node that is described in brackets. -/
def readBracket : Reader Described := do
  let properties ← between "[" (manner.readProperties manner.node) "]"
  let node := Slot.unknown (← freshVariable)
  return { node, triples := ← properties.of node }

/-- Cells of a collection in front of a rest of it, from the last cell to the first. -/
def collect (tail : Described) : List Described → Reader Described
  | [] => return tail
  | item :: before => do
    let cell := Slot.unknown (← freshVariable)
    let patterns :=
      [⟨cell, .ofIri Vocabulary.rdfFirst, item.node⟩,
       ⟨cell, .ofIri Vocabulary.rdfRest, tail.node⟩]
    collect { node := cell, triples := tail.triples ++ { patterns } ++ item.triples } before

/-- A node that is a collection. -/
def readCollection : Reader Described := do
  let items ← between "(" (some1 (spaced manner.node)) ")"
  collect { node := .ofIri Vocabulary.rdfNil } items.reverse

/-- A node that is a bracket or a collection. -/
def readCompound : Reader Described := manner.readCollection <|> manner.readBracket

/-- A node. -/
def readNode : Reader Described :=
  (do return { node := ← readSlot }) <|> manner.readCompound

/-- A node with its properties. A bracket or a collection may stand alone. -/
def readStatement : Reader Triples :=
  (do
    let subject ← spaced readSlot
    (← manner.readProperties manner.readNode).of subject) <|>
  (do
    let subject ← spaced manner.readCompound
    let properties ← optional (manner.readProperties manner.readNode)
    return subject.triples ++ (← (properties.getD {}).of subject.node))

end Manner

/-- A property of a pattern: a path or an unknown. -/
def readPatternProperty (path : Reader PropertyPath) : Reader Property :=
  (do return .path (← readPath path)) <|> (do return .unknown (← readVariable))

/-- A property of a template: an identifier or an unknown. -/
def readTemplateProperty : Reader Property :=
  (do return .unknown (← readVariable)) <|>
  (do return .path (.iri (← readIri))) <|>
  (do return .path (.iri (← readClassProperty)))

end Songbook.Sparql
