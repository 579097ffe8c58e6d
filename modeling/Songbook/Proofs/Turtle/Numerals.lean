import Mathlib.Algebra.Group.Nat.Defs
import Songbook.Proofs.Turtle.Writable

/-!
# Whole numbers in documents

A whole number is written bare: its digits tell that it is one. Here the spelling of a whole
number is read as a number without a point or an exponent, which is the same literal again, and
a text is never written bare.
-/

namespace Songbook.Turtle

open Rdf

theorem all_isDigit_toDigits (n : Nat) : (Nat.toDigits 10 n).all Char.isDigit = true := by
  rw [List.all_eq_true]
  exact fun c hc => Nat.isDigit_of_mem_toDigits (by decide) (by decide) hc

/-- A character that goes on with a number. -/
def continuesNumber (c : Char) : Bool := c.isDigit || c == '.' || c == 'e' || c == 'E'

/-- A number that has ended: nothing follows that goes on with it. -/
def Ended (rest : List Char) : Prop := ∀ c ∈ rest.head?, continuesNumber c = false

theorem Ended.nil : Ended [] := by simp [Ended]

theorem Ended.cons {c : Char} {r : List Char} (h : continuesNumber c = false) : Ended (c :: r) := by
  simpa [Ended] using h

theorem span_isDigit {ds rest : List Char} (hds : ds.all Char.isDigit = true) (h : Ended rest) :
    (ds ++ rest).takeWhile Char.isDigit = ds ∧ (ds ++ rest).dropWhile Char.isDigit = rest := by
  have hrest : rest.takeWhile Char.isDigit = [] ∧ rest.dropWhile Char.isDigit = rest := by
    cases rest with
    | nil => exact ⟨rfl, rfl⟩
    | cons c r =>
      have hc : c.isDigit = false := by
        have := h c rfl
        simp only [continuesNumber, Bool.or_eq_false_iff] at this
        exact this.1.1.1
      simp [hc]
  have hall : ∀ c ∈ ds, c.isDigit = true := List.all_eq_true.mp hds
  rw [List.takeWhile_append_of_pos hall, List.dropWhile_append_of_pos hall, hrest.1, hrest.2]
  exact ⟨List.append_nil ds, rfl⟩

/-- No exponent stands behind an ended number. -/
theorem readExponent_of_ended {rest : List Char} (h : Ended rest) :
    Lexeme.readExponent rest = none := by
  cases rest with
  | nil => rfl
  | cons c r =>
    have hc := h c rfl
    simp only [continuesNumber, Bool.or_eq_false_iff, beq_eq_false_iff_ne] at hc
    simp [Lexeme.readExponent, hc]

theorem ne_cons_of_all_isDigit {ds : List Char} (hds : ds.all Char.isDigit = true) {c : Char}
    (hc : c.isDigit = false) (r : List Char) : ds ≠ c :: r := by
  rintro rfl
  simp [hc] at hds

/-- Digits behind an optional sign are read as a number without a point. -/
theorem readNumber_digits {sign ds rest : List Char} (hsign : sign = [] ∨ sign = ['-'])
    (hds : ds.all Char.isDigit = true) (hne : ds ≠ []) (h : Ended rest) :
    Lexeme.readNumber (sign ++ ds ++ rest) = some (.whole, sign ++ ds, rest) := by
  obtain ⟨htake, hdrop⟩ := span_isDigit hds h
  unfold Lexeme.readNumber
  split
  rename_i read unread heq
  -- the sign is taken off first; without one the first digit must not be mistaken for it
  have hsplit : (read, unread) = (sign, ds ++ rest) := by
    rw [← heq]
    rcases hsign with rfl | rfl
    · have hfirst (c : Char) (hc : c.isDigit = false) (r : List Char) : ds ++ rest ≠ c :: r := by
        cases ds with
        | nil => exact absurd rfl hne
        | cons d ds =>
          rintro heq
          exact ne_cons_of_all_isDigit hds hc ds (by rw [(List.cons.inj heq).1])
      split
      · exact absurd (by assumption) (hfirst '+' (by decide) _)
      · exact absurd (by assumption) (hfirst '-' (by decide) _)
      · rfl
    · rfl
  obtain ⟨rfl, rfl⟩ := Prod.mk.inj hsplit
  have hexponent := readExponent_of_ended h
  simp only [htake, hdrop]
  cases rest with
  | nil => simp [hexponent, hne]
  | cons c r =>
    have hc : c ≠ '.' := by
      rintro rfl
      exact absurd (h '.' rfl) (by decide)
    simp [hc, hexponent, hne]

/-- The sign in the spelling of a whole number. -/
def signOf (n : Int64) : List Char := if n.toInt < 0 then ['-'] else []

theorem signOf_cases (n : Int64) : signOf n = [] ∨ signOf n = ['-'] := by
  unfold signOf
  split
  · exact Or.inr rfl
  · exact Or.inl rfl

/-- The spelling of a whole number is read as a number without a point. -/
theorem readNumber_text (n : Int64) {rest : List Char} (h : Ended rest) :
    Lexeme.readNumber ((Literal.integer n).text.toList ++ rest) =
      some (.whole, (Literal.integer n).text.toList, rest) := by
  rw [Literal.toList_text_integer]
  exact readNumber_digits (signOf_cases n) (all_isDigit_toDigits _) Nat.toDigits_ne_nil h

theorem readInteger?_text (n : Int64) :
    Literal.readInteger? (Literal.integer n).text.toList = some n := by
  have hsplit : Decimal.splitSign (signOf n ++ Nat.toDigits 10 n.toInt.natAbs) =
      (decide (n.toInt < 0), Nat.toDigits 10 n.toInt.natAbs) := by
    have hdigits := all_isDigit_toDigits n.toInt.natAbs
    unfold signOf
    split
    · simp [Decimal.splitSign, *]
    · unfold Decimal.splitSign
      split
      · rename_i heq
        exact absurd heq (ne_cons_of_all_isDigit hdigits (by decide) _)
      · rename_i heq
        exact absurd heq (ne_cons_of_all_isDigit hdigits (by decide) _)
      · simp [*]
  have hfits : Literal.fitsWord n.toInt = true := by
    have hle := n.le_toInt
    have hlt := n.toInt_lt
    simp only [Literal.fitsWord, Bool.and_eq_true, decide_eq_true_eq]
    omega
  have hvalue : (if n.toInt < 0 then -(n.toInt.natAbs : Int) else n.toInt.natAbs) = n.toInt := by
    split <;> omega
  rw [Literal.toList_text_integer, ← signOf, Literal.readInteger?, hsplit]
  simp only [ne_eq, Nat.toDigits_ne_nil, not_false_eq_true, all_isDigit_toDigits, and_self, if_true,
    decide_eq_true_eq, Nat.reduceLT, Std.le_refl, Nat.ofDigitChars_toDigits, hvalue, hfits,
    Int64.ofInt_toInt]

theorem ofNumber_text (n : Int64) :
    Literal.ofNumber .whole (Literal.integer n).text.toList = .integer n := by
  have hstring : Vocabulary.xsdInteger ≠ Vocabulary.xsdString := by decide
  have hinteger : Literal.isIntegerDatatype Vocabulary.xsdInteger = true := by decide
  simp only [Literal.ofNumber, NumberKind.datatype, Literal.ofLexical, hstring, hinteger, if_false,
    if_true, String.toList_ofList, readInteger?_text]
  rfl

theorem writeLiteral_integer (n : Int64) :
    writeLiteral (.integer n) = (Literal.integer n).text.toList := by
  have hread := readNumber_text n Ended.nil
  rw [List.append_nil] at hread
  have hbare : isBare (.integer n) = true := by
    simp [isBare, hread, Literal.datatype]
  simp [writeLiteral, hbare]

theorem writeLiteral_plain (s : String) : writeLiteral (.plain s) = writeQuoted s := by
  have hbare : isBare (.plain s) = false := by
    unfold isBare
    split <;> rfl
  have hstring : (Literal.plain s).datatype = Vocabulary.xsdString := rfl
  simp [writeLiteral, hbare, Literal.writeWith, Literal.language?, hstring, Literal.text]

end Songbook.Turtle

namespace Songbook.Rdf.Literal

/-- A whole number that fits into a word is the literal with its spelling. -/
theorem ofLexical_toString {n : Nat} (h : n < 2 ^ 63) :
    ofLexical (toString n) Vocabulary.xsdInteger = integer (Int64.ofNat n) := by
  have hvalue : (Int64.ofNat n).toInt = n := Int64.toInt_ofNat_of_lt h
  have htext : (toString n).toList = (integer (Int64.ofNat n)).text.toList := by
    rw [text, hvalue]
    rfl
  have hnumber := Turtle.ofNumber_text (Int64.ofNat n)
  rw [ofNumber, ← htext, String.ofList_toList] at hnumber
  exact hnumber

/-- The spelling of a larger number has no value. -/
theorem ofLexical_toString_of_le {n : Nat} (h : 2 ^ 63 ≤ n) :
    ofLexical (toString n) Vocabulary.xsdInteger = typed (toString n) Vocabulary.xsdInteger := by
  have hdigits := Turtle.all_isDigit_toDigits n
  have hsplit : Decimal.splitSign (Nat.toDigits 10 n) = (false, Nat.toDigits 10 n) := by
    unfold Decimal.splitSign
    split
    · rename_i heq
      exact absurd heq (Turtle.ne_cons_of_all_isDigit hdigits (by decide) _)
    · rename_i heq
      exact absurd heq (Turtle.ne_cons_of_all_isDigit hdigits (by decide) _)
    · rfl
  have hfits : fitsWord n = false := by
    simp only [fitsWord, Bool.and_eq_false_iff, decide_eq_false_iff_not]
    omega
  have htext : (toString n).toList = Nat.toDigits 10 n := by simp [toString]
  have hread : readInteger? (toString n).toList = none := by
    rw [htext, readInteger?, hsplit]
    simp [Nat.ofDigitChars_toDigits, hfits]
  have hstring : Vocabulary.xsdInteger ≠ Vocabulary.xsdString := by decide
  have hinteger : isIntegerDatatype Vocabulary.xsdInteger = true := by decide
  simp only [ofLexical, hstring, hinteger, if_false, if_true, hread, Option.map_none,
    Option.getD_none]

end Songbook.Rdf.Literal
