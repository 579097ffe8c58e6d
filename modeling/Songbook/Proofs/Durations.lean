import Mathlib.Algebra.Group.Nat.Defs
import Mathlib.Data.List.Basic
import Mathlib.Data.List.Induction
import Mathlib.Data.List.TakeDrop
import Mathlib.Data.List.TakeWhile
import Songbook.Duration

/-!
# Clock readings

A clock reading is a numeral for the minutes, a colon and a numeral for less than sixty seconds,
with blanks around them. Exactly the readings below `2 ^ 64` seconds are read, and each is read as
the seconds that it stands for.
-/

namespace Songbook

open Text

/-! ### Numerals -/

namespace Unsigned

variable {cs ds : List Char} {n : Nat}

theorem exists_digitChar_eq {c : Char} (h : c.isDigit = true) : ∃ d < 10, c = d.digitChar := by
  have hrange : 48 ≤ c.toNat ∧ c.toNat ≤ 57 := Char.isDigit_iff_toNat.mp h
  refine ⟨c.toNat - 48, by omega, Char.toNat_inj.mp ?_⟩
  rw [Nat.toNat_digitChar_of_lt_ten (by omega)]
  omega

/-- Every numeral is the shortest one of its number, with zeros in front. -/
theorem IsNumeral.exists_eq_padded (h : IsNumeral cs n) :
    ∃ zeros, cs = List.replicate zeros '0' ++ Nat.toDigits 10 n := by
  obtain ⟨hne, hdigits, rfl⟩ := h
  -- the induction takes the last digit off, which is what the division by ten does
  induction cs using List.reverseRecOn with
  | nil => exact absurd rfl hne
  | append_singleton ds c ih =>
    obtain ⟨d, hd, rfl⟩ := exists_digitChar_eq (hdigits c (by simp))
    have hvalue : Nat.ofDigitChars 10 (ds ++ [d.digitChar]) 0 =
        10 * Nat.ofDigitChars 10 ds 0 + d := by
      rw [Nat.ofDigitChars_append, Nat.ofDigitChars_cons_digitChar_of_lt_ten hd,
        Nat.ofDigitChars_nil]
    have hlast : Nat.toDigits 10 d = [d.digitChar] := Nat.toDigits_of_lt_base hd
    rw [hvalue]
    by_cases hds : ds = []
    · subst hds
      exact ⟨0, by simp [hlast]⟩
    · obtain ⟨zeros, hfront⟩ := ih hds fun c hc => hdigits c (List.mem_append_left _ hc)
      generalize Nat.ofDigitChars 10 ds 0 = v at hfront ⊢
      subst hfront
      by_cases hv : v = 0
      · subst hv
        exact ⟨zeros + 1, by simp [hlast, List.replicate_succ']⟩
      · refine ⟨zeros, ?_⟩
        rw [List.append_assoc, ← hlast,
          Nat.toDigits_append_toDigits (by decide) (Nat.pos_of_ne_zero hv) hd]

/-- A number has one numeral of each length. -/
theorem IsNumeral.eq_of_length_eq (hcs : IsNumeral cs n) (hds : IsNumeral ds n)
    (h : cs.length = ds.length) : cs = ds := by
  obtain ⟨zeros, rfl⟩ := hcs.exists_eq_padded
  obtain ⟨zeros', rfl⟩ := hds.exists_eq_padded
  simp only [List.length_append, List.length_replicate] at h
  rw [Nat.add_right_cancel h]

/-- A numeral that does not begin with a superfluous zero is the shortest one. -/
theorem IsNumeral.eq_toDigits (h : IsNumeral cs n) (hzero : cs.head? = some '0' → cs = ['0']) :
    cs = Nat.toDigits 10 n := by
  obtain ⟨zeros, rfl⟩ := h.exists_eq_padded
  cases zeros with
  | zero => rfl
  | succ zeros =>
    have hsingle := hzero rfl
    rw [List.replicate_succ, List.cons_append, List.cons.injEq, List.append_eq_nil_iff] at hsingle
    exact absurd hsingle.2.2 Nat.toDigits_ne_nil

end Unsigned

/-! ### Readings -/

namespace Duration

open Unsigned

variable {cs : List Char} {n : Nat}

/-- A clock reading and the whole seconds that it stands for. -/
inductive IsReading : List Char → Nat → Prop
  | clock {before minutes seconds after : List Char} {m s : Nat}
      (hbefore : before.all isBlank = true) (hminutes : IsNumeral minutes m)
      (hseconds : IsNumeral seconds s) (hs : s < 60) (hafter : after.all isBlank = true) :
      IsReading (before ++ (minutes ++ ':' :: seconds) ++ after) (60 * m + s)

theorem splitColon_append {before : List Char} (h : ':' ∉ before) (after : List Char) :
    splitColon (before ++ ':' :: after) = some (before, after) := by
  have hall : ∀ c ∈ before, decide (c ≠ ':') = true := by
    intro c hc
    exact decide_eq_true fun heq => h (heq ▸ hc)
  rw [splitColon, List.span_eq_takeWhile_dropWhile, List.takeWhile_append_of_pos hall,
    List.dropWhile_append_of_pos hall]
  simp

theorem eq_append_of_splitColon {before after : List Char}
    (h : splitColon cs = some (before, after)) : cs = before ++ ':' :: after := by
  have hcs : cs.takeWhile (· ≠ ':') ++ cs.dropWhile (· ≠ ':') = cs :=
    List.takeWhile_append_dropWhile
  have hstop := List.head?_dropWhile_not (· ≠ ':') cs
  rw [splitColon, List.span_eq_takeWhile_dropWhile] at h
  cases hdrop : cs.dropWhile (· ≠ ':') with
  | nil =>
    rw [hdrop] at h
    cases h
  | cons c rest =>
    rw [hdrop] at h hcs hstop
    cases h
    obtain rfl : c = ':' := by simpa using hstop
    exact hcs.symm

theorem trim_reading {before minutes seconds after : List Char} {m s : Nat}
    (hbefore : before.all isBlank = true) (hminutes : IsNumeral minutes m)
    (hseconds : IsNumeral seconds s) (hafter : after.all isBlank = true) :
    trim (before ++ (minutes ++ ':' :: seconds) ++ after) = minutes ++ ':' :: seconds := by
  rw [trim_append hbefore hafter]
  apply trim_eq_self
  · intro c hc
    rw [List.head?_append_of_ne_nil _ hminutes.nonempty] at hc
    exact isBlank_of_isDigit (hminutes.digits c (List.mem_of_mem_head? hc))
  · intro c hc
    rw [List.append_cons, List.getLast?_append_of_ne_nil _ hseconds.nonempty] at hc
    exact isBlank_of_isDigit (hseconds.digits c (List.mem_of_getLast? hc))

theorem secondsOfClock_eq_some_iff :
    secondsOfClock cs = some n ↔ IsReading cs n ∧ n < bound := by
  constructor
  · intro h
    unfold secondsOfClock at h
    obtain ⟨⟨minutes, seconds⟩, hsplit, h⟩ := Option.bind_eq_some_iff.mp h
    obtain ⟨m, hm, h⟩ := Option.bind_eq_some_iff.mp h
    obtain ⟨s, hs, h⟩ := Option.bind_eq_some_iff.mp h
    split at h
    · rename_i hbound
      cases h
      obtain ⟨before, after, hbefore, hafter, hcs⟩ := exists_eq_append_trim cs
      rw [eq_append_of_splitColon hsplit] at hcs
      rw [hcs, Nat.mul_comm m 60]
      exact ⟨.clock hbefore (ofDigits?_eq_some_iff.mp hm).1 (ofDigits?_eq_some_iff.mp hs).1
        hbound.1 hafter, by omega⟩
    · cases h
  · rintro ⟨⟨hbefore, hminutes, hseconds, hs, hafter⟩, hbound⟩
    rename_i before minutes seconds after m s
    have hcolon : ':' ∉ minutes := fun h => absurd (hminutes.digits ':' h) (by decide)
    -- each of the two numbers is below the bound because the sum is
    have hm : ofDigits? minutes = some m := ofDigits?_eq_some_iff.mpr ⟨hminutes, by omega⟩
    have hs' : ofDigits? seconds = some s := ofDigits?_eq_some_iff.mpr ⟨hseconds, by omega⟩
    have htotal : s < 60 ∧ m * 60 + s < bound := by omega
    rw [secondsOfClock, trim_reading hbefore hminutes hseconds hafter, splitColon_append hcolon]
    dsimp only [Option.bind_eq_bind, Option.bind_some]
    rw [hm, Option.bind_some, hs', Option.bind_some, if_pos htotal, Nat.mul_comm]

theorem readClock_eq_ok_iff {input : String} :
    readClock input = .ok n ↔ IsReading input.toList n ∧ n < bound := by
  rw [← secondsOfClock_eq_some_iff]
  unfold readClock
  cases secondsOfClock input.toList <;> simp

/-- A text is read as a number of seconds just where it is a clock reading for them that stays
below `2 ^ 64`, and every other text is refused. -/
theorem readClock_accepts_readings (input : String) :
    (∀ n, readClock input = .ok n ↔ IsReading input.toList n ∧ n ≤ 2 ^ 64 - 1) ∧
    ∀ e, readClock input = .error e ↔ e = .input (.notALength input) ∧
      ¬ ∃ n, IsReading input.toList n ∧ n ≤ 2 ^ 64 - 1 := by
  have hbound : bound = 2 ^ 64 := rfl
  have hread : ∀ n, secondsOfClock input.toList = some n ↔
      IsReading input.toList n ∧ n ≤ 2 ^ 64 - 1 := by
    intro n
    rw [secondsOfClock_eq_some_iff, hbound]
    exact and_congr_right fun _ => by omega
  simp only [← hread]
  unfold readClock
  cases secondsOfClock input.toList with
  | none => simp [eq_comm]
  | some seconds => simp

/-- The greatest length that can be read. -/
example : readClock "\t00307445734561825860:15 " = .ok (2 ^ 64 - 1) ∧
    (readClock "307445734561825860:16").toOption = none := by
  decide

/-! ### Canonical readings -/

/-- The canonical reading of some seconds: nothing around it, no superfluous zero in front of the
minutes, and two digits for what is left below a minute. -/
inductive IsCanonical : List Char → Nat → Prop
  | clock {minutes seconds : List Char} {m s : Nat} (hminutes : IsNumeral minutes m)
      (hzero : minutes.head? = some '0' → minutes = ['0']) (hseconds : IsNumeral seconds s)
      (htwo : seconds.length = 2) (hs : s < 60) :
      IsCanonical (minutes ++ ':' :: seconds) (60 * m + s)

theorem IsCanonical.isReading (h : IsCanonical cs n) : IsReading cs n := by
  obtain ⟨hminutes, -, hseconds, -, hs⟩ := h
  have hnone : ([] : List Char).all isBlank = true := rfl
  have hreading := IsReading.clock hnone hminutes hseconds hs hnone
  rwa [List.append_nil, List.nil_append] at hreading

theorem toList_clock (n : Nat) :
    (clock n).toList = Nat.toDigits 10 (n / 60) ++ ':' :: (twoDigits (n % 60)).toList := by
  simp [clock, toString]

theorem isNumeral_twoDigits (n : Nat) : IsNumeral (twoDigits n).toList n := by
  unfold twoDigits
  split
  · have hpadded := isNumeral_padded 1 n
    simpa [toString] using hpadded
  · have hpadded := isNumeral_padded 0 n
    simpa [toString] using hpadded

theorem length_twoDigits (h : n < 100) : (twoDigits n).toList.length = 2 := by
  unfold twoDigits
  split
  · rename_i hsmall
    simp [toString, Nat.toDigits_of_lt_base hsmall]
  · rename_i hlarge
    have hle : (Nat.toDigits 10 n).length ≤ 2 :=
      (Nat.length_toDigits_le_iff (by decide) (by decide)).mpr h
    have hgt : ¬ (Nat.toDigits 10 n).length ≤ 1 := fun hone =>
      hlarge ((Nat.length_toDigits_le_iff (by decide) (by decide)).mp hone)
    simp only [toString, Nat.toList_repr]
    omega

theorem isCanonical_clock (n : Nat) : IsCanonical (clock n).toList n := by
  let minutes := Nat.toDigits 10 (n / 60)
  have hminutes : IsNumeral minutes (n / 60) := isNumeral_padded 0 (n / 60)
  have hzero : minutes.head? = some '0' → minutes = ['0'] := by
    intro hhead
    obtain ⟨rest, hrest⟩ := List.head?_eq_some_iff.mp hhead
    rw [hrest, toDigits_eq_zero_cons hrest]
  have hs : n % 60 < 60 := Nat.mod_lt n (by decide)
  have hcanonical := IsCanonical.clock hminutes hzero (isNumeral_twoDigits (n % 60))
    (length_twoDigits (by omega)) hs
  rwa [Nat.div_add_mod, ← toList_clock] at hcanonical

/-- Seconds are shown as their canonical reading, and there is no other one. -/
theorem isCanonical_iff : IsCanonical cs n ↔ cs = (clock n).toList := by
  constructor
  · rintro ⟨hminutes, hzero, hseconds, htwo, hs⟩
    rename_i minutes seconds m s
    have hm : (60 * m + s) / 60 = m := by omega
    have hrest : (60 * m + s) % 60 = s := by omega
    have hlength : seconds.length = (twoDigits s).toList.length :=
      htwo.trans (length_twoDigits (by omega)).symm
    rw [toList_clock, hm, hrest, hminutes.eq_toDigits hzero,
      hseconds.eq_of_length_eq (isNumeral_twoDigits s) hlength]
  · rintro rfl
    exact isCanonical_clock n

/-- What is shown is read back. -/
theorem readClock_clock (h : n < bound) : readClock (clock n) = .ok n :=
  readClock_eq_ok_iff.mpr ⟨(isCanonical_clock n).isReading, h⟩

/-- Milliseconds are shown as the whole seconds in them. -/
theorem clockOfMillis_eq (ms : Nat) : clockOfMillis ms = clock (ms / 1000) := by
  have hminutes : ms / 60000 = ms / 1000 / 60 := by omega
  have hseconds : ms % 60000 / 1000 = ms / 1000 % 60 := by omega
  rw [clockOfMillis, clock, hminutes, hseconds]

end Duration

end Songbook
