import Songbook.Rdf.Literal
import Songbook.Text.Hex

/-!
# Terms and triples

A node is an identifier or a blank node, a term is a node or a literal, and a triple says of
a node that it has a property with a term as its value. A literal is written between quotes;
its language or its datatype follows, where the datatype of a plain text is left out.
-/

namespace Songbook.Rdf

/-- What a triple can be about. Blank nodes are numbered within one document. -/
inductive Node
  | iri (name : Iri)
  | blank (number : Nat)
  deriving DecidableEq

/-- What can be the value of a property. -/
inductive Term
  | node (n : Node)
  | literal (l : Literal)
  deriving DecidableEq

/-- One statement of a graph. -/
structure Triple where
  subject : Node
  predicate : Iri
  object : Term
  deriving DecidableEq

/-- How one character is written between quotes. -/
def escapeChar (c : Char) : List Char :=
  if c = '\x08' then ['\\', 'b']
  else if c = '\t' then ['\\', 't']
  else if c = '\n' then ['\\', 'n']
  else if c = '\x0c' then ['\\', 'f']
  else if c = '\r' then ['\\', 'r']
  else if c = '"' then ['\\', '"']
  else if c = '\\' then ['\\', '\\']
  else if c.toNat < 0x20 ∨ c.toNat = 0x7F then
    ['\\', 'u', '0', '0', Text.upperHexDigit (c.toNat / 16), Text.upperHexDigit (c.toNat % 16)]
  else [c]

/-- A text between quotes. -/
def writeQuoted (s : String) : List Char :=
  '"' :: s.toList.flatMap escapeChar ++ ['"']

/-- An identifier between angle brackets. -/
def writeIri (i : Iri) : List Char := '<' :: i.text.toList ++ ['>']

/-- A literal whose datatype is written by a given function. -/
def Literal.writeWith (datatypeText : Iri → List Char) (l : Literal) : List Char :=
  writeQuoted l.text ++
    match l.language? with
    | some language => '@' :: language.toList
    | none =>
      if l.datatype = Vocabulary.xsdString then []
      else '^' :: '^' :: datatypeText l.datatype

/-- A literal with its full datatype. -/
def Literal.write (l : Literal) : List Char := l.writeWith writeIri

/-- A blank node by its number. -/
def writeBlank (number : Nat) : List Char := '_' :: ':' :: 'b' :: Nat.toDigits 10 number

/-- A node without abbreviation. -/
def Node.write : Node → List Char
  | .iri i => writeIri i
  | .blank n => writeBlank n

/-- A term without abbreviation. -/
def Term.write : Term → List Char
  | .node n => n.write
  | .literal l => l.write

end Songbook.Rdf
