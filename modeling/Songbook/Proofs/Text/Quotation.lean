import Mathlib.Data.List.Basic
import Songbook.Rdf.Term
import Songbook.Text.Escape

/-!
# Quoted texts are read back

A character stands between quotes as itself, behind a backslash by a letter, or by a code of
four hexadecimal digits. `escapeChar_cases` tells these three spellings apart, and
`readShort_flatMap_escapeChar` says that a reader of quoted texts undoes all of them, however
strict it is about codes.
-/

namespace Songbook.Text

open Rdf

theorem escapeChar_cases (c : Char) :
    (∃ letter, escaped? letter = some c ∧ escapeChar c = ['\\', letter]) ∨
    (c.toNat < 256 ∧ escapeChar c = ['\\', 'u', '0', '0', upperHexDigit (c.toNat / 16),
      upperHexDigit (c.toNat % 16)]) ∨
    (c ≠ '"' ∧ c ≠ '\\' ∧ isLineEnd c = false ∧ escapeChar c = [c]) := by
  by_cases h1 : c = '\x08'
  · exact Or.inl ⟨'b', by subst h1; decide⟩
  by_cases h2 : c = '\t'
  · exact Or.inl ⟨'t', by subst h2; decide⟩
  by_cases h3 : c = '\n'
  · exact Or.inl ⟨'n', by subst h3; decide⟩
  by_cases h4 : c = '\x0c'
  · exact Or.inl ⟨'f', by subst h4; decide⟩
  by_cases h5 : c = '\r'
  · exact Or.inl ⟨'r', by subst h5; decide⟩
  by_cases h6 : c = '"'
  · exact Or.inl ⟨'"', by subst h6; decide⟩
  by_cases h7 : c = '\\'
  · exact Or.inl ⟨'\\', by subst h7; decide⟩
  by_cases h8 : c.toNat < 0x20 ∨ c.toNat = 0x7F
  · exact Or.inr (Or.inl ⟨by omega, by simp [escapeChar, h1, h2, h3, h4, h5, h6, h7, h8]⟩)
  · exact Or.inr (Or.inr ⟨h6, h7, by simp [isLineEnd, h3, h5],
      by simp [escapeChar, h1, h2, h3, h4, h5, h6, h7, h8]⟩)

/-- A letter that stands for a character behind a backslash is ASCII and begins no code. -/
theorem escaped?_eq_some {letter c : Char} (h : escaped? letter = some c) :
    letter.toNat < 128 ∧ letter ≠ 'u' ∧ letter ≠ 'U' := by
  unfold escaped? at h
  split at h <;> first | decide | cases h

/-- No spelling of a character between quotes begins with the quote. -/
theorem head?_escapeChar_ne (c : Char) : ∀ d ∈ (escapeChar c).head?, d ≠ '"' := by
  intro d hd
  rcases escapeChar_cases c with ⟨letter, _, he⟩ | ⟨_, he⟩ | ⟨hc, _, _, he⟩ <;>
    rw [he] at hd <;> obtain rfl := Option.some.inj hd
  · decide
  · decide
  · exact hc

theorem head?_flatMap_escapeChar_ne (cs : List Char) :
    ∀ d ∈ (cs.flatMap escapeChar).head?, d ≠ '"' := by
  intro d hd
  cases cs with
  | nil => cases hd
  | cons c cs =>
    refine head?_escapeChar_ne c d ?_
    rcases escapeChar_cases c with ⟨_, _, he⟩ | ⟨_, he⟩ | ⟨_, _, _, he⟩ <;>
      simpa [he] using hd

/-- Two digits that name a code point below 256 are read as that character. -/
theorem ofHex?_upperHexDigits {n : Nat} (h : n < 256) :
    ofHex? ['0', '0', upperHexDigit (n / 16), upperHexDigit (n % 16)] = some n := by
  have hhigh := hexValue?_upperHexDigit (n := n / 16) (by omega)
  have hlow := hexValue?_upperHexDigit (n := n % 16) (by omega)
  have hzero : hexValue? '0' = some 0 := by decide
  simp only [ofHex?, List.foldlM_cons, List.foldlM_nil, hzero, hhigh, hlow, Option.map_some,
    Option.bind_eq_bind, Option.bind_some]
  change some _ = some _
  rw [Option.some.injEq]
  omega

variable {code? : List Char → Option Nat}

theorem readShort_code {quote a b c d e : Char} {r : List Char}
    (h : (code? [a, b, c, d]).bind charOfCode? = some e) :
    readShort code? quote ('\\' :: 'u' :: a :: b :: c :: d :: r) =
      (readShort code? quote r).map fun (cs, rest) => (e :: cs, rest) := by
  rw [readShort, h]
  cases readShort code? quote r <;> rfl

theorem readShort_letter {quote letter e : Char} {r : List Char} (h : escaped? letter = some e) :
    readShort code? quote ('\\' :: letter :: r) =
      (readShort code? quote r).map fun (cs, rest) => (e :: cs, rest) := by
  obtain ⟨_, hu, hU⟩ := escaped?_eq_some h
  rw [readShort]
  · rw [h]
    cases readShort code? quote r <;> rfl
  · rintro _ _ _ _ _ rfl
    exact absurd rfl hu
  · rintro _ _ _ _ _ _ _ _ _ rfl
    exact absurd rfl hU

theorem readShort_self {quote c : Char} {r : List Char} (hquote : c ≠ quote) (hslash : c ≠ '\\')
    (hline : isLineEnd c = false) :
    readShort code? quote (c :: r) =
      (readShort code? quote r).map fun (cs, rest) => (c :: cs, rest) := by
  rw [readShort]
  · rw [if_neg hquote, if_neg (by simp [hslash, hline])]
    cases readShort code? quote r <;> rfl
  all_goals
    intros
    contradiction

/-- A text that was written between quotes is read back, and what follows it is left. -/
theorem readShort_flatMap_escapeChar
    (hcode : ∀ a b, code? ['0', '0', a, b] = ofHex? ['0', '0', a, b]) (cs rest : List Char) :
    readShort code? '"' (cs.flatMap escapeChar ++ '"' :: rest) = some (cs, rest) := by
  induction cs with
  | nil =>
    rw [List.flatMap_nil, List.nil_append, readShort]
    · rfl
    all_goals
      intros
      contradiction
  | cons c cs ih =>
    rw [List.flatMap_cons, List.append_assoc]
    -- a character was written with a letter, with a code or as itself
    rcases escapeChar_cases c with ⟨letter, hletter, he⟩ | ⟨hc, he⟩ | ⟨hquote, hslash, hline, he⟩
    · simp only [he, List.cons_append, List.nil_append]
      rw [readShort_letter hletter, ih]
      rfl
    · have hchar : (code? ['0', '0', upperHexDigit (c.toNat / 16),
          upperHexDigit (c.toNat % 16)]).bind charOfCode? = some c := by
        rw [hcode, ofHex?_upperHexDigits hc]
        exact charOfCode?_toNat c
      simp only [he, List.cons_append, List.nil_append]
      rw [readShort_code hchar, ih]
      rfl
    · simp only [he, List.cons_append, List.nil_append]
      rw [readShort_self hquote hslash hline, ih]
      rfl

end Songbook.Text
