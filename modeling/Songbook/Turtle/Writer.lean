import Songbook.Graph
import Songbook.Turtle.Lexeme

/-!
# Writing Turtle documents

A graph is written from its newest triple to its oldest. Triples that share their subject, or
their subject and their property, are joined, and identifiers of two namespaces are
abbreviated. The graph without triples is written as the empty document.
-/

namespace Songbook.Turtle

open Rdf

/-- The prefixes that documents bind, with their namespaces. -/
def boundPrefixes : List (String × String) :=
  [("schema", Vocabulary.schemaNamespace), ("spotify", Vocabulary.spotifyNamespace)]

/-- A character of a local name that needs no backslash, by its place in the name. -/
def standsPlain (first last : Bool) (c : Char) : Bool :=
  c == ':' || if first then Text.isNameStart c || c.isDigit
    else Text.isNameChar c || (c == '.' && !last)

/-- A local name, or nothing if one of its characters cannot be written. -/
def writeLocal (first : Bool) : List Char → Option (List Char)
  | [] => some []
  | c :: r =>
    if standsPlain first r.isEmpty c then (writeLocal false r).map (c :: ·)
    else if Text.isLocalEscape c then (writeLocal false r).map ('\\' :: c :: ·)
    else none

/-- The part of an identifier behind a namespace. -/
def localPart? (namespaceText : String) (i : Iri) : Option (List Char) :=
  if namespaceText.toList.isPrefixOf i.text.toList then
    some (i.text.toList.drop namespaceText.toList.length)
  else none

/-- An identifier under a prefix, if it can be abbreviated so. -/
def writeAbbreviated? (i : Iri) (bound : String × String) : Option (List Char) := do
  let part ← localPart? bound.2 i
  let written ← writeLocal true part
  some (bound.1.toList ++ ':' :: written)

/-- An identifier, abbreviated under the first prefix that allows it. -/
def writeName (i : Iri) : List Char :=
  (boundPrefixes.findSome? (writeAbbreviated? i)).getD (writeIri i)

/-- A property; the class of a node has a name of its own. -/
def writeProperty (i : Iri) : List Char :=
  if i = Vocabulary.rdfType then ['a'] else writeName i

/-- Whether a literal is written without quotes: its spelling alone tells its datatype. -/
def isBare (l : Literal) : Bool :=
  match Lexeme.readNumber l.text.toList with
  | some (.whole, _, []) => l.datatype == Vocabulary.xsdInteger
  | some (.pointed, _, []) => l.datatype == Vocabulary.xsdDecimal
  | some (.scientific, _, []) => l.datatype == Vocabulary.xsdDouble
  | _ => l.datatype == Vocabulary.xsdBoolean && (l.text == "true" || l.text == "false")

/-- A literal. -/
def writeLiteral (l : Literal) : List Char :=
  if isBare l then l.text.toList else l.writeWith writeName

/-- A node. -/
def writeNode : Node → List Char
  | .iri i => writeName i
  | .blank n => writeBlank n

/-- A term. -/
def writeTerm : Term → List Char
  | .node n => writeNode n
  | .literal l => writeLiteral l

/-- A property and its value. -/
def writePair (t : Triple) : List Char := writeProperty t.predicate ++ ' ' :: writeTerm t.object

/-- A whole statement without its point. -/
def writeStatement (t : Triple) : List Char := writeNode t.subject ++ ' ' :: writePair t

/-- The statements behind a triple, which is not ended yet. -/
def writeAfter (previous : Triple) : List Triple → List Char
  | [] => " .\n".toList
  | t :: rest =>
    if t.subject = previous.subject then
      if t.predicate = previous.predicate then
        " , ".toList ++ writeTerm t.object ++ writeAfter t rest
      else " ;\n\t".toList ++ writePair t ++ writeAfter t rest
    else " .\n".toList ++ writeStatement t ++ writeAfter t rest

/-- The directive that binds a prefix. -/
def writeDirective (bound : String × String) : List Char :=
  "@prefix ".toList ++ bound.1.toList ++ ": <".toList ++ bound.2.toList ++ "> .\n".toList

/-- A document that states triples in the given order. -/
def writeTriples : List Triple → List Char
  | [] => []
  | t :: rest => boundPrefixes.flatMap writeDirective ++ writeStatement t ++ writeAfter t rest

end Songbook.Turtle

namespace Songbook.Graph

/-- The document that states a graph, the newest triple first. -/
def document (g : Graph) : String := String.ofList (Turtle.writeTriples g.triples.reverse)

end Songbook.Graph
