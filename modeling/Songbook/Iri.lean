import Songbook.Iri.Grammar

/-!
# Internationalized resource identifiers

An `Iri` names a thing by its text. Nothing is normalized: two identifiers are the same exactly
when their texts are. `Iri.ofString?` admits the texts that are absolute identifiers by the
grammar. A document may also put an identifier together from a namespace and a name, whose
characters alone are looked at, so that not every `Iri` follows the grammar.
-/

namespace Songbook

/-- An internationalized resource identifier. -/
structure Iri where
  text : String
  deriving DecidableEq

namespace Iri

/-- A text as an identifier, if it is absolute. -/
def ofString? (s : String) : Option Iri :=
  if isAbsolute s.toList then some ⟨s⟩ else none

/-- An identifier is determined by its text. -/
@[ext] theorem ext {a b : Iri} (h : a.text = b.text) : a = b := by
  cases a; cases b; simp_all

/-- What is read as an identifier is its text, and it is absolute. -/
theorem ofString?_eq_some_iff {s : String} {i : Iri} :
    ofString? s = some i ↔ i.text = s ∧ isAbsolute s.toList = true := by
  constructor
  · intro h
    unfold ofString? at h
    split at h
    · cases h; exact ⟨rfl, by assumption⟩
    · cases h
  · rintro ⟨rfl, h⟩
    simp [ofString?, h]

/-- The text of an absolute identifier is read back as that identifier. -/
theorem ofString?_text {i : Iri} (h : isAbsolute i.text.toList = true) :
    ofString? i.text = some i :=
  ofString?_eq_some_iff.2 ⟨rfl, h⟩

/-- A text is an identifier exactly when it is absolute. -/
theorem isSome_ofString?_iff {s : String} :
    (ofString? s).isSome ↔ isAbsolute s.toList = true := by
  unfold ofString?
  split <;> simp_all

end Iri

end Songbook
