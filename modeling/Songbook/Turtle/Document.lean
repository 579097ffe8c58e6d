import Songbook.Graph
import Songbook.Error
import Songbook.Iri.Reference
import Songbook.Rdf.LanguageTag
import Songbook.Turtle.Comment
import Songbook.Turtle.Lexeme

/-!
# Reading Turtle documents

A document is read lexeme by lexeme. The state of the reader says what is awaited next and
what is awaited after each bracket that is still open; a lexeme that does not fit ends the
reading. Because the reading is a fold over the lexemes, the meaning of a document is composed
of the meanings of its parts.
-/

namespace Songbook.Turtle

open Rdf

/-- What else than a property may stand where a property is awaited. -/
inductive Alternative
  /-- Nothing else. -/
  | nothing
  /-- The end of the statement or of the bracket. -/
  | close
  /-- The end, or one more semicolon. -/
  | closeOrSemicolon
  deriving DecidableEq

/-- What may come next. -/
inductive Awaited
  /-- A statement or a directive. -/
  | subject
  /-- A property of a node. -/
  | property (about : Node) (otherwise : Alternative)
  /-- A value of a property of a node. -/
  | object (about : Node) (property : Iri)
  /-- A comma, a semicolon or the end, behind a value. -/
  | more (about : Node) (property : Iri)
  /-- An item of a collection or its end, behind the last cell if there is one. -/
  | item (last : Option Node)
  /-- The item of a cell of a collection. -/
  | cell (cell : Node)
  /-- The prefix that a directive binds; the flag tells whether a point ends it. -/
  | space (dotted : Bool)
  /-- The namespace of a prefix. -/
  | namespaceOf (dotted : Bool) (space : List Char)
  /-- The base that a directive sets. -/
  | base (dotted : Bool)
  /-- The point at the end of a directive. -/
  | point

/-- A text whose language or datatype may still follow. -/
inductive Pending
  /-- A text behind which a language or two carets may come. -/
  | text (value : List Char)
  /-- A text whose datatype must come. -/
  | datatype (value : List Char)

/-- The state of the reader. -/
structure Reading where
  base : Option Iri := none
  spaces : List (List Char × Iri) := []
  labels : List (List Char × Nat) := []
  blanks : Nat := 0
  awaited : Awaited := .subject
  outer : List Awaited := []
  pending : Option Pending := none
  /-- The triples found so far, the newest first. -/
  found : List Triple := []

namespace Reading

/-- The state with one more triple. -/
def emit (st : Reading) (subject : Node) (predicate : Iri) (object : Term) : Reading :=
  { st with found := ⟨subject, predicate, object⟩ :: st.found }

/-- A blank node that was not used before. -/
def fresh (st : Reading) : Node × Reading :=
  (.blank st.blanks, { st with blanks := st.blanks + 1 })

/-- The blank node with a label, which is new where the label is. -/
def labelled (st : Reading) (label : List Char) : Node × Reading :=
  match st.labels.lookup label with
  | some n => (.blank n, st)
  | none =>
      (.blank st.blanks,
        { st with blanks := st.blanks + 1, labels := (label, st.blanks) :: st.labels })

/-- The identifier that a reference or an abbreviated name stands for. A name is put behind its
namespace, and the whole is looked at only if the name is doubtful or could be read as a host. -/
def iri? (st : Reading) : Lexeme → Option Iri
  | .reference text => Iri.refer? st.base text
  | .abbreviation space name doubtful => do
      let namespaceIri ← st.spaces.lookup space
      let text := namespaceIri.text ++ String.ofList name
      if doubtful || (Iri.Parts.ofChars namespaceIri.text.toList).path.isEmpty then
        Iri.ofString? text
      else some ⟨text⟩
  | _ => none

/-- Put a term where one is awaited. -/
def deliver (st : Reading) (term : Term) : Option Reading :=
  match st.awaited with
  | .subject =>
    match term with
    | .node n => some { st with awaited := .property n .nothing }
    | .literal _ => none
  | .object about property =>
      some { st.emit about property term with awaited := .more about property }
  | .cell cell =>
      some { st.emit cell Vocabulary.rdfFirst term with awaited := .item (some cell) }
  | _ => none

/-- Open a bracket: a new node whose properties may follow. -/
def openBracket (st : Reading) : Reading :=
  let outer := st.awaited :: st.outer
  let (node, st) := st.fresh
  { st with awaited := .property node .close, outer := outer }

/-- Close a bracket and put its node where it belongs. As a subject it may stand alone if it
has properties. -/
def closeBracket (st : Reading) (node : Node) (hasProperties : Bool) : Option Reading :=
  match st.outer with
  | [] => none
  | .subject :: outer =>
      let otherwise := if hasProperties then Alternative.close else .nothing
      some { st with awaited := .property node otherwise, outer := outer }
  | awaited :: outer => { st with awaited := awaited, outer := outer }.deliver (.node node)

/-- Open a collection. -/
def openCollection (st : Reading) : Reading :=
  { st with awaited := .item none, outer := st.awaited :: st.outer }

/-- Begin a cell for the next item of a collection. The first cell is put where the collection
belongs before the items are read. -/
def openCell (st : Reading) (last : Option Node) : Option Reading :=
  let (cell, st) := st.fresh
  match last, st.outer with
  | some last, _ => some { st.emit last Vocabulary.rdfRest (.node cell) with awaited := .cell cell }
  | none, [] => none
  | none, awaited :: outer => do
      let st ← { st with awaited := awaited }.deliver (.node cell)
      return { st with awaited := .cell cell, outer := st.awaited :: outer }

/-- Close a collection. One without items is put where it belongs. -/
def closeCollection (st : Reading) (last : Option Node) : Option Reading :=
  match st.outer with
  | [] => none
  | awaited :: outer =>
      let st := { st with awaited := awaited, outer := outer }
      match last with
      | none => st.deliver (.node (.iri Vocabulary.rdfNil))
      | some last => some (st.emit last Vocabulary.rdfRest (.node (.iri Vocabulary.rdfNil)))

/-- The end of the properties of a node: a point for a statement, a bracket inside one. -/
def closeProperties (st : Reading) (about : Node) (hasProperties : Bool) (sign : String) :
    Option Reading :=
  match st.outer with
  | [] => if sign = "." then some { st with awaited := .subject } else none
  | _ => if sign = "]" then st.closeBracket about hasProperties else none

/-- A lexeme where a node may stand. -/
def readNode (st : Reading) (lexeme : Lexeme) : Option Reading :=
  match lexeme with
  | .blank label =>
      let (node, st) := st.labelled label
      st.deliver (.node node)
  | .mark "[" => some st.openBracket
  | .mark "(" => some st.openCollection
  | _ => (st.iri? lexeme).bind fun i => st.deliver (.node (.iri i))

/-- A lexeme where a term may stand. -/
def readTerm (st : Reading) (lexeme : Lexeme) : Option Reading :=
  match lexeme with
  | .quoted text => some { st with pending := some (.text text) }
  | .number kind spelling =>
      st.deliver (.literal (.ofNumber kind spelling))
  | .word spelling =>
      if spelling = "true".toList then st.deliver (.literal (.boolean true))
      else if spelling = "false".toList then st.deliver (.literal (.boolean false))
      else none
  | _ => st.readNode lexeme

/-- A lexeme where a statement or a directive may begin. -/
def readStatement (st : Reading) (lexeme : Lexeme) : Option Reading :=
  match lexeme with
  | .marked word =>
      if word = "prefix".toList then some { st with awaited := .space true }
      else if word = "base".toList then some { st with awaited := .base true }
      else none
  | .word spelling =>
      let lower := spelling.map Char.toLower
      if lower = "prefix".toList then some { st with awaited := .space false }
      else if lower = "base".toList then some { st with awaited := .base false }
      else none
  | _ => st.readNode lexeme

/-- A lexeme where a property may stand. -/
def readProperty (st : Reading) (about : Node) (otherwise : Alternative) (lexeme : Lexeme) :
    Option Reading :=
  match lexeme with
  | .word ['a'] => some { st with awaited := .object about Vocabulary.rdfType }
  | .mark sign =>
    match otherwise with
    | .nothing => none
    | .close => st.closeProperties about false sign
    | .closeOrSemicolon =>
        if sign = ";" then some st else st.closeProperties about true sign
  | _ => (st.iri? lexeme).map fun property => { st with awaited := .object about property }

/-- A lexeme behind a value. -/
def readMore (st : Reading) (about : Node) (property : Iri) (lexeme : Lexeme) :
    Option Reading :=
  match lexeme with
  | .mark "," => some { st with awaited := .object about property }
  | .mark ";" => some { st with awaited := .property about .closeOrSemicolon }
  | .mark sign => st.closeProperties about true sign
  | _ => none

/-- What is awaited behind a directive, which may need its point. -/
def afterDirective (dotted : Bool) : Awaited := if dotted then .point else .subject

/-- A lexeme when no text is pending. -/
def readPlain (st : Reading) (lexeme : Lexeme) : Option Reading :=
  match st.awaited with
  | .subject => st.readStatement lexeme
  | .property about otherwise => st.readProperty about otherwise lexeme
  | .object _ _ => st.readTerm lexeme
  | .more about property => st.readMore about property lexeme
  | .cell _ => st.readTerm lexeme
  | .item last =>
      if lexeme = .mark ")" then st.closeCollection last
      else do (← st.openCell last).readTerm lexeme
  | .space dotted =>
    match lexeme with
    | .abbreviation space [] _ => some { st with awaited := .namespaceOf dotted space }
    | _ => none
  | .namespaceOf dotted space =>
    match lexeme with
    | .reference text => do
        let i ← Iri.refer? st.base text
        some { st with awaited := afterDirective dotted, spaces := (space, i) :: st.spaces }
    | _ => none
  | .base dotted =>
    match lexeme with
    | .reference text => do
        let i ← Iri.refer? st.base text
        some { st with awaited := afterDirective dotted, base := some i }
    | _ => none
  | .point => if lexeme = .mark "." then some { st with awaited := .subject } else none

/-- Put a text whose language or datatype is settled where a term is awaited. -/
def settle (st : Reading) (l : Literal) : Option Reading :=
  { st with pending := none }.deliver (.literal l)

/-- One lexeme. -/
def read (st : Reading) (lexeme : Lexeme) : Option Reading :=
  match st.pending with
  | none => st.readPlain lexeme
  | some (.text value) =>
    match lexeme with
    | .marked word => do
        let language ← LanguageTag.read? word
        st.settle (.tagged (String.ofList value) language)
    | .mark "^^" => some { st with pending := some (.datatype value) }
    | _ => do
        let st ← st.settle (.plain (String.ofList value))
        st.readPlain lexeme
  | some (.datatype value) => do
      let datatype ← st.iri? lexeme
      st.settle (.ofLexical (String.ofList value) datatype)

/-- Whether the document may end here. -/
def finished (st : Reading) : Bool :=
  st.pending.isNone && match st.awaited with
    | .subject => true
    | _ => false

end Reading

/-- The triples of a document, in the order in which it states them. -/
def readTriples? (cs : List Char) : Option (List Triple) := do
  let lexemes ← Lexeme.readAll cs
  let st ← lexemes.foldlM Reading.read {}
  if st.finished then some st.found.reverse else none

end Songbook.Turtle

namespace Songbook.Graph

/-- The graph that a document states. -/
def ofDocument (document : ByteArray) : Except Error Graph :=
  let bytes := Turtle.withoutComments .plain document.toList
  match (String.fromUTF8? ⟨bytes.toArray⟩).bind fun s => Turtle.readTriples? s.toList with
  | some triples => .ok (ofTriples triples)
  | none => .error .document

end Songbook.Graph
