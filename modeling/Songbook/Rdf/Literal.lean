import Songbook.Number.Binary
import Songbook.Rdf.Period
import Songbook.Rdf.Vocabulary

/-!
# Literals

A literal whose datatype is understood is kept as its value, so that `7`, `+7` and `007` are
one literal. Whole numbers are kept in signed words of 64 bits; a spelling that does not fit,
or that is no number at all, is kept as it is together with its datatype.
-/

namespace Songbook.Rdf

/-- The spelling of a number decides its datatype. -/
inductive NumberKind
  | whole
  | pointed
  | scientific
  deriving DecidableEq, Repr

/-- The datatype that the spelling of a number has. -/
def NumberKind.datatype : NumberKind → Iri
  | whole => Vocabulary.xsdInteger
  | pointed => Vocabulary.xsdDecimal
  | scientific => Vocabulary.xsdDouble

/-- A literal, by what is known of its value. -/
inductive Literal
  /-- A text without a language. -/
  | plain (text : String)
  /-- A text in a language. -/
  | tagged (text : String) (language : String)
  /-- A whole number. -/
  | integer (value : Int64)
  /-- A truth value. -/
  | boolean (value : Bool)
  /-- A decimal number. -/
  | decimal (value : Decimal)
  /-- A floating-point number of 64 bits. -/
  | double (value : Binary)
  /-- A floating-point number of 32 bits. -/
  | single (value : Binary)
  /-- A period of time. -/
  | period (value : Period)
  /-- A moment of the calendar. -/
  | moment (value : Moment)
  /-- A spelling with a datatype, of which no value is known. -/
  | typed (text : String) (datatype : Iri)
  deriving DecidableEq

namespace Literal

/-- The whole numbers that fit into a signed word of 64 bits. -/
def fitsWord (n : Int) : Bool := -0x8000000000000000 ≤ n && n < 0x8000000000000000

/-- The whole number that a spelling stands for, if it fits into a word. -/
def readInteger? (cs : List Char) : Option Int64 :=
  let (negative, digits) := Decimal.splitSign cs
  if digits ≠ [] ∧ digits.all Char.isDigit then
    let magnitude : Int := Nat.ofDigitChars 10 digits 0
    let n := if negative then -magnitude else magnitude
    if fitsWord n then some (Int64.ofInt n) else none
  else none

/-- The truth value that a spelling stands for. -/
def readBoolean? (s : String) : Option Bool :=
  if s = "true" ∨ s = "1" then some true
  else if s = "false" ∨ s = "0" then some false
  else none

/-- Whether the values of a datatype are whole numbers. -/
def isIntegerDatatype (datatype : Iri) : Bool :=
  Vocabulary.integerDatatypes.any fun n => datatype.text == Vocabulary.xsdNamespace ++ n

/-- What a table says of a datatype of XML Schema. -/
def lookupDatatype? {α : Type} (table : List (String × α)) (datatype : Iri) : Option α :=
  (table.find? fun (n, _) => datatype.text == Vocabulary.xsdNamespace ++ n).map (·.2)

/-- The period or the moment that a spelling with a datatype stands for. -/
def readTemporal? (text : String) (datatype : Iri) : Option Literal :=
  match lookupDatatype? Vocabulary.periodDatatypes datatype with
  | some kind => (Period.read? kind text.toList).map period
  | none => do
    let kind ← lookupDatatype? Vocabulary.momentDatatypes datatype
    (Moment.read? kind text.toList).map moment

/-- The literal with a spelling and a datatype. -/
def ofLexical (text : String) (datatype : Iri) : Literal :=
  let kept := typed text datatype
  if datatype = Vocabulary.xsdString then plain text
  else if isIntegerDatatype datatype then ((readInteger? text.toList).map integer).getD kept
  else if datatype = Vocabulary.xsdBoolean then ((readBoolean? text).map boolean).getD kept
  else if datatype = Vocabulary.xsdDecimal then
    ((Decimal.read? text.toList).map decimal).getD kept
  else if datatype = Vocabulary.xsdDouble then
    ((Binary.read? .double text.toList).map double).getD kept
  else if datatype = Vocabulary.xsdFloat then
    ((Binary.read? .single text.toList).map single).getD kept
  else (readTemporal? text datatype).getD kept

/-- The literal that the spelling of a number stands for. -/
def ofNumber (kind : NumberKind) (spelling : List Char) : Literal :=
  ofLexical (String.ofList spelling) kind.datatype

/-- The spelling of a literal, which for a known value is the canonical one. -/
def text : Literal → String
  | plain s => s
  | tagged s _ => s
  | integer n => toString n.toInt
  | boolean b => if b then "true" else "false"
  | decimal d => String.ofList d.write
  | double b => String.ofList (b.write .double)
  | single b => String.ofList (b.write .single)
  | period p => String.ofList p.write
  | moment m => String.ofList m.write
  | typed s _ => s

/-- The datatype of a literal. -/
def datatype : Literal → Iri
  | plain _ => Vocabulary.xsdString
  | tagged _ _ => Vocabulary.rdfLangString
  | integer _ => Vocabulary.xsdInteger
  | boolean _ => Vocabulary.xsdBoolean
  | decimal _ => Vocabulary.xsdDecimal
  | double _ => Vocabulary.xsdDouble
  | single _ => Vocabulary.xsdFloat
  | period p => ⟨Vocabulary.xsdNamespace ++ Vocabulary.periodDatatype p.kind⟩
  | moment m => ⟨Vocabulary.xsdNamespace ++ Vocabulary.momentDatatype m.kind⟩
  | typed _ d => d

/-- The language of a literal, if it has one. -/
def language? : Literal → Option String
  | tagged _ l => some l
  | _ => none

end Literal

end Songbook.Rdf
