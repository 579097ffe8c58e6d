/-!
# Whole numbers below `2 ^ 64`

Thresholds, positions and counts are whole numbers below a bound. They are spelt in ASCII
digits, with any number of zeros in front.
-/

namespace Songbook.Unsigned

/-- Every number here is below this bound. -/
def bound : Nat := 0x10000000000000000

/-- The number that a non-empty run of digits spells, if it is below the bound. -/
def ofDigits? (cs : List Char) : Option Nat :=
  if cs ≠ [] ∧ cs.all Char.isDigit then
    let n := Nat.ofDigitChars 10 cs 0
    if n < bound then some n else none
  else none

/-- The number that digits spell, with at most one plus sign in front of them. -/
def read? : List Char → Option Nat
  | '+' :: r => ofDigits? r
  | cs => ofDigits? cs

theorem read?_of_all_isDigit {cs : List Char} (h : ∀ c ∈ cs, c.isDigit = true) :
    read? cs = ofDigits? cs := by
  unfold read?
  split
  · exact absurd (h '+' List.mem_cons_self) (by decide)
  · rfl

/-- A non-empty run of digits and the number that it spells. -/
structure IsNumeral (cs : List Char) (n : Nat) : Prop where
  nonempty : cs ≠ []
  digits : ∀ c ∈ cs, c.isDigit = true
  value : Nat.ofDigitChars 10 cs 0 = n

theorem ofDigits?_eq_some_iff {cs : List Char} {n : Nat} :
    ofDigits? cs = some n ↔ IsNumeral cs n ∧ n < bound := by
  unfold ofDigits?
  constructor
  · intro h
    split at h
    · rename_i hcs
      dsimp only at h
      split at h
      · rename_i hlt
        cases h
        exact ⟨⟨hcs.1, List.all_eq_true.mp hcs.2, rfl⟩, hlt⟩
      · cases h
    · cases h
  · rintro ⟨⟨hne, hdigits, rfl⟩, hlt⟩
    rw [if_pos ⟨hne, List.all_eq_true.mpr hdigits⟩]
    exact if_pos hlt

/-- The digits of a number spell it, also behind zeros. -/
theorem isNumeral_padded (zeros n : Nat) :
    IsNumeral (List.replicate zeros '0' ++ Nat.toDigits 10 n) n where
  nonempty hnil := Nat.toDigits_ne_nil (List.append_eq_nil_iff.mp hnil).2
  digits c hc := by
    rcases List.mem_append.mp hc with hc | hc
    · obtain rfl := List.eq_of_mem_replicate hc
      rfl
    · exact Nat.isDigit_of_mem_toDigits (by decide) (by decide) hc
  value := by
    rw [Nat.ofDigitChars_append, Nat.ofDigitChars_replicate_zero, Nat.mul_zero]
    exact Nat.ofDigitChars_toDigits (by decide) (by decide)

/-- The digits of a number below the bound are read back as that number, also behind zeros. -/
theorem read?_padded {n : Nat} (h : n < bound) (zeros : Nat) :
    read? (List.replicate zeros '0' ++ Nat.toDigits 10 n) = some n := by
  have hnumeral := isNumeral_padded zeros n
  rw [read?_of_all_isDigit hnumeral.digits]
  exact ofDigits?_eq_some_iff.mpr ⟨hnumeral, h⟩

/-- No digits of a number begin with a zero but those of zero itself. -/
theorem toDigits_eq_zero_cons {n : Nat} {r : List Char} (h : Nat.toDigits 10 n = '0' :: r) :
    r = [] := by
  by_cases hsmall : n < 10
  · rw [Nat.toDigits_of_lt_base hsmall] at h
    exact (List.cons.inj h).2.symm
  · rw [Nat.toDigits_of_base_le (by omega) (by omega)] at h
    cases hfront : Nat.toDigits 10 (n / 10) with
    | nil => exact absurd hfront Nat.toDigits_ne_nil
    | cons c front =>
      rw [hfront] at h
      obtain ⟨rfl, -⟩ := List.cons.inj h
      -- the shorter number begins with a zero too, so it is zero
      have hzero : Nat.ofDigitChars 10 (Nat.toDigits 10 (n / 10)) 0 = 0 := by
        rw [hfront, toDigits_eq_zero_cons hfront]
        decide
      rw [Nat.ofDigitChars_toDigits (by omega) (by omega)] at hzero
      omega
termination_by n

end Songbook.Unsigned
