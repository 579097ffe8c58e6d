/-!
# Blank characters and trimming

A character is blank when it has the Unicode property `White_Space`. Answers, durations and
settings are trimmed at both ends by this property, so a no-break space is trimmed and a
zero-width space is kept.
-/

namespace Songbook.Text

/-- The characters with the Unicode property `White_Space`. -/
def isBlank (c : Char) : Bool :=
  let n := c.toNat
  (9 ≤ n && n ≤ 13) || n == 0x20 || n == 0x85 || n == 0xA0 || n == 0x1680 ||
    (0x2000 ≤ n && n ≤ 0x200A) || n == 0x2028 || n == 0x2029 || n == 0x202F ||
    n == 0x205F || n == 0x3000

/-- The blanks at the front are dropped. -/
def trimStart (cs : List Char) : List Char := cs.dropWhile isBlank

/-- The blanks at the end are dropped. -/
def trimEnd (cs : List Char) : List Char := (cs.reverse.dropWhile isBlank).reverse

/-- The blanks at both ends are dropped. -/
def trim (cs : List Char) : List Char := trimEnd (trimStart cs)

/-- A text without its blanks at both ends. -/
def trimmed (s : String) : String := String.ofList (trim s.toList)

/-- A text that holds nothing but blanks, or nothing at all. -/
def isBlankText (s : String) : Bool := s.toList.all isBlank

/-- No digit is blank. -/
theorem isBlank_of_isDigit {c : Char} (h : c.isDigit = true) : isBlank c = false := by
  have hrange : 48 ≤ c.toNat ∧ c.toNat ≤ 57 := Char.isDigit_iff_toNat.mp h
  unfold isBlank
  simp
  omega

/-- What trimming drops are blanks at both ends. -/
theorem exists_eq_append_trim (cs : List Char) : ∃ before after,
    before.all isBlank = true ∧ after.all isBlank = true ∧ cs = before ++ trim cs ++ after := by
  let middle := trimStart cs
  refine ⟨cs.takeWhile isBlank, (middle.reverse.takeWhile isBlank).reverse, List.all_takeWhile,
    ?_, ?_⟩
  · rw [List.all_reverse]
    exact List.all_takeWhile
  · have hmiddle : trimEnd middle ++ (middle.reverse.takeWhile isBlank).reverse = middle := by
      rw [trimEnd, ← List.reverse_append, List.takeWhile_append_dropWhile, List.reverse_reverse]
    rw [List.append_assoc, trim, hmiddle]
    exact List.takeWhile_append_dropWhile.symm

/-- A text without blanks at its ends is not changed by trimming. -/
theorem trim_eq_self {cs : List Char} (hfirst : ∀ c ∈ cs.head?, isBlank c = false)
    (hlast : ∀ c ∈ cs.getLast?, isBlank c = false) : trim cs = cs := by
  have hstart : trimStart cs = cs := by
    cases cs with
    | nil => rfl
    | cons c r => simp [trimStart, hfirst c (by simp)]
  have hend : cs.reverse.dropWhile isBlank = cs.reverse := by
    have hhead : ∀ c ∈ cs.reverse.head?, isBlank c = false := by
      simpa [List.head?_reverse] using hlast
    cases hr : cs.reverse with
    | nil => rfl
    | cons c r => simp [hhead c (by simp [hr])]
  simp [trim, hstart, trimEnd, hend]

/-- Blanks around characters are dropped. -/
theorem trim_append {before cs after : List Char} (hbefore : before.all isBlank = true)
    (hafter : after.all isBlank = true) : trim (before ++ cs ++ after) = trim cs := by
  have hstart : trimStart (before ++ cs ++ after) = trimStart (cs ++ after) := by
    rw [trimStart, List.append_assoc, List.dropWhile_append_of_pos (List.all_eq_true.mp hbefore)]
    rfl
  have hend (ds : List Char) : trimEnd (ds ++ after) = trimEnd ds := by
    have hreverse : ∀ c ∈ after.reverse, isBlank c = true := by simpa using hafter
    rw [trimEnd, List.reverse_append, List.dropWhile_append_of_pos hreverse]
    rfl
  have hblank : trimStart after = [] := by
    rw [trimStart, ← List.append_nil after,
      List.dropWhile_append_of_pos (List.all_eq_true.mp hafter), List.dropWhile_nil]
  rw [trim, hstart, trim, trimStart, List.dropWhile_append]
  -- if the characters are blank themselves, all of them are dropped
  split
  · rename_i hempty
    have hcs : trimStart cs = [] := List.isEmpty_iff.mp hempty
    rw [hcs]
    exact congrArg trimEnd hblank
  · exact hend _

end Songbook.Text
