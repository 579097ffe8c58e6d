import Songbook.Rdf.LanguageTag
import Songbook.Sparql.Reader.Basic
import Songbook.Text.NameChar

/-!
# Reading terms

The smallest parts of a query: identifiers in full or abbreviated, unknowns, literals and blank
nodes. An abbreviated name must be an absolute identifier when it is put behind its namespace.
A label of a blank node belongs to one pair of braces.
-/

namespace Songbook.Sparql

open Rdf Reader

/-! ### Names -/

/-- Characters that may begin the short name of a namespace. -/
def isNameBase (c : Char) : Bool := Text.isNameBase c && c.toNat ≤ 0xFFFF

/-- Characters that may begin the name of an unknown. -/
def isNameStart (c : Char) : Bool := isNameBase c || c == '_'

/-- Characters that may follow in a name. -/
def isNameChar (c : Char) : Bool := Text.isNameChar c && c.toNat ≤ 0xFFFF

/-- Characters that may follow in the name of an unknown. -/
def isVariableChar (c : Char) : Bool := isNameChar c && c != '-'

/-- Points, and behind them something. -/
def dotted (p : Reader (List Char)) : Reader (List Char) := do
  let points ← someChars (· == '.')
  return points ++ (← p)

/-- The short name of a namespace and the colon behind it. The name may be empty. -/
def readSpace : Reader (List Char) := do
  let name ← (do
      let first ← char isNameBase
      let run ← chars isNameChar
      let more ← many (dotted (someChars isNameChar))
      return first :: run ++ more.flatten) <|> pure []
  mark ":"
  return name

/-- A character of a local name that is written with a percent sign or a backslash. -/
def readLocalEscape : Reader (List Char) :=
  (do
    mark "%"
    let a ← char Text.isHexDigit
    let b ← char Text.isHexDigit
    return ['%', a, b]) <|>
  (do
    mark "\\"
    return [← char Text.isLocalEscape])

/-- A character of a local name, which is of a class or escaped. -/
def readLocalChar (test : Char → Bool) : Reader (List Char) :=
  (do return [← char fun c => test c || c == ':']) <|> readLocalEscape

/-- Several characters of a local name behind the first one. -/
def readLocalRun : Reader (List Char) := do
  return (← many (readLocalChar isNameChar)).flatten

/-- A local name. Points may stand in one place of it. -/
def readLocal : Reader (List Char) := do
  let first ← readLocalChar fun c => isNameStart c || c.isDigit
  let run ← readLocalRun
  let more ← optional <| dotted do
    let part ← readLocalRun
    if part = [] then failure else return part
  return first ++ run ++ more.getD []

/-- The namespace with a short name. -/
def namespaceOf (space : List Char) : Reader Iri := do
  match (← scope).spaces.lookup space with
  | some i => return i
  | none => failure

/-- A text as an identifier. -/
def identifier (text : String) : Reader Iri :=
  match Iri.ofString? text with
  | some i => pure i
  | none => failure

/-- A reference between angle brackets. -/
def readReference : Reader Iri := do
  mark "<"
  let text ← ofChars Text.readReference
  match Iri.refer? (← scope).base text with
  | some i => return i
  | none => failure

/-- An identifier, in full or abbreviated. -/
def readIri : Reader Iri :=
  readReference <|>
  (do
    let space ← readSpace
    let name ← readLocal
    identifier ((← namespaceOf space).text ++ String.ofList name)) <|>
  (do
    let space ← readSpace
    identifier (← namespaceOf space).text)

/-- An unknown. -/
def readVariable : Reader Variable := do
  let _ ← char fun c => c == '?' || c == '$'
  let first ← char fun c => isNameStart c || c.isDigit
  return .named (String.ofList (first :: (← chars isVariableChar)))

/-! ### Literals -/

/-- A text between quotes of a kind. -/
def readTextIn (quote : Char) : Reader (List Char) :=
  (do
    mark (String.ofList [quote, quote, quote])
    ofChars (Text.readLong Text.strictCode? quote)) <|>
  (do
    let _ ← char (· == quote)
    ofChars (Text.readShort Text.strictCode? quote))

/-- A text between quotes. -/
def readText : Reader (List Char) := readTextIn '\'' <|> readTextIn '"'

/-- A language behind a text. -/
def readLanguage : Reader String := do
  mark "@"
  let tag ← taken do
    let _ ← someChars Char.isAlpha
    many do
      mark "-"
      someChars Char.isAlphanum
  match LanguageTag.read? tag with
  | some language => return language
  | none => failure

/-- A text with its datatype or its language, if one follows. -/
def readTextLiteral : Reader Literal := do
  let text := String.ofList (← readText)
  (do
    blanks
    spaced (mark "^^")
    return .ofLexical text (← readIri)) <|>
  (do
    blanks
    return .tagged text (← readLanguage)) <|>
  pure (.plain text)

/-- An exponent. -/
def readExponent : Reader Unit := do
  let _ ← char fun c => c == 'e' || c == 'E'
  let _ ← optional (char fun c => c == '+' || c == '-')
  let _ ← someChars Char.isDigit

/-- Digits with a point behind them or between them. -/
def readPointed : Reader Unit := do
  let _ ← chars Char.isDigit
  mark "."
  let _ ← someChars Char.isDigit

/-- An unsigned number. -/
def readUnsigned : Reader NumberKind :=
  (do
    readPointed <|> (do let _ ← someChars Char.isDigit; let _ ← optional (mark "."); return)
    readExponent
    return .scientific) <|>
  (do
    readPointed
    return .pointed) <|>
  (do
    let _ ← someChars Char.isDigit
    return .whole)

/-- A number of a kind with its whole spelling. -/
def readNumberOf (number : Reader NumberKind) : Reader Literal := do
  let before := (← get).rest
  let kind ← number
  return .ofNumber kind (before.take (before.length - (← get).rest.length))

/-- A number. A sign may be followed by blanks, which belong to the spelling. -/
def readNumber : Reader Literal :=
  readNumberOf do
    let sign ← optional (char fun c => c == '+' || c == '-')
    if sign.isSome then blanks
    readUnsigned

/-- A truth value. -/
def readBoolean : Reader Literal :=
  (do mark "true"; return .boolean true) <|> (do mark "false"; return .boolean false)

/-- A literal. -/
def readLiteral : Reader Literal := readTextLiteral <|> readNumber <|> readBoolean

/-! ### Nodes -/

/-- A blank node with a label, which must not be spent. -/
def readLabelled : Reader Variable := do
  mark "_:"
  let label ← taken do
    let _ ← char fun c => isNameStart c || c.isDigit
    let _ ← chars isNameChar
    many (dotted (someChars isNameChar))
  if label ∈ (← scope).spent then failure
  else
    setScope fun known => { known with labels := label :: known.labels }
    return .labelled (String.ofList label)

/-- An empty pair of marks, with nothing but white space between them. -/
def readEmpty (opening closing : String) : Reader Unit := do
  mark opening
  let _ ← chars Text.isSpace
  mark closing

/-- A blank node. -/
def readBlank : Reader Variable :=
  readLabelled <|> (do readEmpty "[" "]"; freshVariable)

/-- An identifier as a known place. -/
def Slot.ofIri (i : Iri) : Slot := .known (.node (.iri i))

/-- A term or an unknown. -/
def readSlot : Reader Slot :=
  (do return .unknown (← readVariable)) <|>
  (do return .ofIri (← readIri)) <|>
  (do return .known (.literal (← readLiteral))) <|>
  (do return .unknown (← readBlank)) <|>
  (do readEmpty "(" ")"; return .ofIri Vocabulary.rdfNil)

/-- An identifier or an unknown. -/
def readVariableOrIri : Reader Slot :=
  (do return .unknown (← readVariable)) <|> (do return .ofIri (← readIri))

end Songbook.Sparql
