import Songbook.Iri.Reference
import Songbook.Sparql.Query
import Songbook.Text.Escape

/-!
# Readers of query texts

A reader takes something off the front of a text or fails. Of two readers the first that
succeeds is taken, and what the first had taken off is put back before the second is tried. A
reader also knows the names that were declared so far, the labels of blank nodes that are spent,
and the aggregates of the query that is being read.
-/

namespace Songbook.Sparql

/-- What is known while a query text is read. -/
structure Scope where
  base : Option Iri := none
  spaces : List (List Char × Iri) := []
  /-- Labels of blank nodes in the braces that are being read. -/
  labels : List (List Char) := []
  /-- Labels that must not be used again, because their braces ended or were interrupted. -/
  spent : List (List Char) := []
  /-- The number of unknowns that were made up. -/
  fresh : Nat := 0
  /-- The aggregates of each query whose reading has begun, the innermost query first. -/
  aggregates : List (List (Variable × Aggregate)) := []

/-- The text that is left, and what is known. -/
structure Source where
  rest : List Char
  scope : Scope := {}

/-- Takes something off the front of a text, or fails. -/
abbrev Reader := StateT Source Option

namespace Reader

variable {α β : Type}

/-- A reader that knows nothing but the text. -/
def ofChars (f : List Char → Option (α × List Char)) : Reader α := fun s =>
  (f s.rest).map fun (a, rest) => (a, { s with rest })

/-- What is known. -/
def scope : Reader Scope := do return (← get).scope

/-- Change what is known. -/
def setScope (f : Scope → Scope) : Reader Unit := modify fun s => { s with scope := f s.scope }

/-- One character of a class. -/
def char (test : Char → Bool) : Reader Char := ofChars fun cs =>
  match cs with
  | c :: r => if test c then some (c, r) else none
  | [] => none

/-- The characters of a class at the front. -/
def chars (test : Char → Bool) : Reader (List Char) := ofChars fun cs => some (cs.span test)

/-- The characters of a class at the front, at least one. -/
def someChars (test : Char → Bool) : Reader (List Char) := do
  let c ← char test
  return c :: (← chars test)

/-- A text exactly as it is. -/
def mark (text : String) : Reader Unit := ofChars fun cs =>
  if text.toList.isPrefixOf cs then some ((), cs.drop text.length) else none

/-- A word in any case, which is given in lower case. What follows is not looked at. -/
def keyword (word : String) : Reader Unit := ofChars fun cs =>
  if (cs.take word.length).map Char.toLower = word.toList then some ((), cs.drop word.length)
  else none

/-- White space and comments, if there are any. -/
def blanks : Reader Unit := ofChars fun cs => some ((), Text.skipSpace false cs)

/-- Succeed if no character of a class is at the front. -/
def notBefore (test : Char → Bool) : Reader Unit := ofChars fun cs =>
  if cs.head?.any test then none else some ((), cs)

/-- Something as often as it can be read, within a bound. -/
def manyWithin (p : Reader α) : Nat → Reader (List α)
  | 0 => pure []
  | n + 1 => (do
      let a ← p
      let more ← manyWithin p n
      return a :: more) <|> pure []

/-- Something as often as it can be read. It must take off a character each time. -/
def many (p : Reader α) : Reader (List α) := fun s => manyWithin p s.rest.length s

/-- Something as often as it can be read, at least once. -/
def some1 (p : Reader α) : Reader (List α) := do
  let a ← p
  return a :: (← many p)

/-- Several things with something between them, at least one. -/
def separated (p : Reader α) (between : Reader β) : Reader (List α) := do
  let a ← p
  return a :: (← many (between *> p))

/-- Something, and the blanks behind it. -/
def spaced (p : Reader α) : Reader α := p <* blanks

/-- Something between two marks. -/
def between (opening : String) (p : Reader α) (closing : String) : Reader α := do
  spaced (mark opening)
  let a ← spaced p
  mark closing
  return a

/-- The characters that a reader takes off. -/
def taken (p : Reader α) : Reader (List Char) := do
  let before := (← get).rest
  let _ ← p
  return before.take (before.length - (← get).rest.length)

/-- An unknown that is not used anywhere else. -/
def freshVariable : Reader Variable := do
  let n := (← scope).fresh
  setScope fun known => { known with fresh := n + 1 }
  return .fresh n

end Reader

end Songbook.Sparql
