import Mathlib.Data.List.Basic
import Songbook.Proofs.Iri.Alphabet
import Songbook.Turtle.Writer

/-!
# Triples that documents keep

A triple is writable if its identifiers are absolute and its value is an identifier, a text or a
whole number. Graphs that describe tracks hold nothing else. `Triple.Writable` is the hypothesis
under which a written triple is read back; it leaves out blank nodes, whose labels a document
does not keep.
-/

namespace Songbook

open Rdf

/-- An identifier that follows the grammar of absolute identifiers. -/
def Iri.Absolute (i : Iri) : Prop := Iri.isAbsolute i.text.toList = true

instance (i : Iri) : Decidable i.Absolute := inferInstanceAs (Decidable (_ = _))

namespace Rdf

/-- A node that is an absolute identifier. -/
def Node.Writable : Node → Prop
  | .iri i => i.Absolute
  | .blank _ => False

/-- A text without a language, or a whole number. -/
def Literal.Writable : Literal → Prop
  | .plain _ => True
  | .integer _ => True
  | _ => False

/-- A writable node or a writable literal. -/
def Term.Writable : Term → Prop
  | .node n => n.Writable
  | .literal l => l.Writable

/-- A triple of writable parts. -/
structure Triple.Writable (t : Triple) : Prop where
  subject : t.subject.Writable
  predicate : t.predicate.Absolute
  object : t.object.Writable

end Rdf

namespace Iri.Absolute

/-- Angle brackets and what delimits texts do not occur in an absolute identifier. -/
theorem not_mem {i : Iri} (h : i.Absolute) {c : Char} (hc : Iri.isLetter c = false) :
    c ∉ i.text.toList :=
  Iri.not_mem_of_isAbsolute h hc

end Iri.Absolute

namespace Rdf.Literal

/-- A whole number is spelt with digits, behind a minus sign if it is negative. -/
theorem toList_text_integer (n : Int64) :
    (integer n).text.toList =
      (if n.toInt < 0 then ['-'] else []) ++ Nat.toDigits 10 n.toInt.natAbs := by
  simp only [text]
  cases h : n.toInt with
  | ofNat m => simp [toString, Int.repr]
  | negSucc m => simp [toString, Int.repr]

end Rdf.Literal

end Songbook
