/-!
# Hexadecimal digits

Escapes name a character by its code point in hexadecimal. Digits are read in either case;
which case is written depends on the format.
-/

namespace Songbook.Text

/-- The value of a hexadecimal digit. -/
def hexValue? (c : Char) : Option Nat :=
  if c.isDigit then some (c.toNat - '0'.toNat)
  else if 'a' ≤ c ∧ c ≤ 'f' then some (c.toNat - 'a'.toNat + 10)
  else if 'A' ≤ c ∧ c ≤ 'F' then some (c.toNat - 'A'.toNat + 10)
  else none

/-- A hexadecimal digit in either case. -/
def isHexDigit (c : Char) : Bool := (hexValue? c).isSome

/-- The number that hexadecimal digits spell, the most significant first. -/
def ofHex? (cs : List Char) : Option Nat :=
  cs.foldlM (fun n c => (hexValue? c).map (16 * n + ·)) 0

/-- The digit for a value below sixteen, in upper case. -/
def upperHexDigit (n : Nat) : Char := (Nat.digitChar n).toUpper

/-- The digit for a value below sixteen, in lower case. -/
def lowerHexDigit (n : Nat) : Char := Nat.digitChar n

/-- The character with a code point, if the code point is one of a character. -/
def charOfCode? (n : Nat) : Option Char :=
  if n.isValidChar then some (Char.ofNat n) else none

/-- The value of a digit in upper case is what it was written for. -/
theorem hexValue?_upperHexDigit {n : Nat} (h : n < 16) :
    hexValue? (upperHexDigit n) = some n := by
  have : ∀ d, d < 16 → hexValue? (upperHexDigit d) = some d := by decide
  exact this n h

/-- The value of a digit in lower case is what it was written for. -/
theorem hexValue?_lowerHexDigit {n : Nat} (h : n < 16) :
    hexValue? (lowerHexDigit n) = some n := by
  have : ∀ d, d < 16 → hexValue? (lowerHexDigit d) = some d := by decide
  exact this n h

/-- The character with the code point of a character is that character. -/
theorem charOfCode?_toNat (c : Char) : charOfCode? c.toNat = some c := by
  have h : c.toNat.isValidChar := c.valid
  simp [charOfCode?, h]

end Songbook.Text
