import Songbook.Sparql.Expression

/-!
# Conditions

A condition keeps a row only if its value is known to be true. Here this is said of the
conditions that the catalog uses: two conditions at once, and the comparison of two values.
-/

namespace Songbook

open Rdf

namespace Sparql.Expression

variable {row : Row} {left right : Expression} {a b : Term}

theorem conjunction?_eq_some_true_iff {x y : Option Bool} :
    conjunction? x y = some true ↔ x = some true ∧ y = some true := by
  rcases x with _ | _ | _ <;> rcases y with _ | _ | _ <;> simp [conjunction?]

theorem keeps_both (first second : Expression) (row : Row) :
    (both first second).keeps row = (first.keeps row && second.keeps row) := by
  have htruth (o : Option Bool) : (o.map ofTruth).bind truth? = o := by
    cases o <;> rfl
  rw [Bool.eq_iff_iff]
  simp only [keeps, value?, htruth, beq_iff_eq, Bool.and_eq_true]
  exact conjunction?_eq_some_true_iff

/-- A comparison keeps a row if its outcome is known to be true. -/
theorem keeps_compare (c : Comparison) (hleft : left.value? row = some a)
    (hright : right.value? row = some b) :
    (compare left c right).keeps row = (c.test a b == some true) := by
  simp only [keeps, value?, hleft, hright, Option.bind_eq_bind, Option.bind_some]
  cases c.test a b <;> rfl

/-- A comparison with something that has no value keeps no row. -/
theorem keeps_compare_of_none (c : Comparison) (hleft : left.value? row = none) :
    (compare left c right).keeps row = false := by
  simp [keeps, value?, hleft]

end Sparql.Expression

namespace Rdf.Literal

theorem compare?_integer (m n : Int64) :
    (integer m).compare? (integer n) = some (compare m.toInt n.toInt) := rfl

/-- A spelling without a value cannot be compared with a whole number. -/
theorem compare?_typed (n : Int64) (spelling : String) (datatype : Iri) :
    (integer n).compare? (typed spelling datatype) = none := rfl

/-- Only whole numbers and spellings without a value have the datatype of whole numbers. -/
theorem eq_of_datatype_eq_xsdInteger {l : Literal} (h : l.datatype = Vocabulary.xsdInteger) :
    (∃ n, l = integer n) ∨ ∃ spelling, l = typed spelling Vocabulary.xsdInteger := by
  have hne : ∀ i ∈ [Vocabulary.xsdString, Vocabulary.rdfLangString, Vocabulary.xsdBoolean,
      Vocabulary.xsdDecimal, Vocabulary.xsdDouble, Vocabulary.xsdFloat],
      i ≠ Vocabulary.xsdInteger := by decide
  cases l with
  | integer n => exact .inl ⟨n, rfl⟩
  | typed s d =>
    obtain rfl : d = Vocabulary.xsdInteger := h
    exact .inr ⟨s, rfl⟩
  -- periods and moments have one datatype for each of their kinds
  | period p =>
    have hkind : ∀ kind, Iri.mk (Vocabulary.xsdNamespace ++ Vocabulary.periodDatatype kind) ≠
        Vocabulary.xsdInteger := by
      intro kind
      cases kind <;> decide
    exact absurd h (hkind p.kind)
  | moment m =>
    have hkind : ∀ kind, Iri.mk (Vocabulary.xsdNamespace ++ Vocabulary.momentDatatype kind) ≠
        Vocabulary.xsdInteger := by
      intro kind
      cases kind <;> decide
    exact absurd h (hkind m.kind)
  | _ => exact absurd h (hne _ (by simp [datatype]))

/-- No literal but a whole number has both the datatype of whole numbers and a place among
them. -/
theorem datatype_ne_or_compare?_eq_none {l : Literal} (h : ∀ n, l ≠ integer n) (m : Int64) :
    l.datatype ≠ Vocabulary.xsdInteger ∨ l.compare? (integer m) = none := by
  by_cases hdatatype : l.datatype = Vocabulary.xsdInteger
  · rcases eq_of_datatype_eq_xsdInteger hdatatype with ⟨n, rfl⟩ | ⟨s, rfl⟩
    · exact absurd rfl (h n)
    · exact .inr rfl
  · exact .inl hdatatype

end Rdf.Literal

end Songbook
