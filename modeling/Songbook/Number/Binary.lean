import Songbook.Number.Decimal

/-!
# Binary floating-point numbers

A finite number is a sign, a significand and a power of two. Spellings are rounded to the
nearest number of a format, a tie going to the even significand. A number is written with the
fewest decimal digits that are read back as the same number, of several such spellings the
nearest one, always in positional notation.
-/

namespace Songbook

/-- A number that is not a number, an infinity, or `significand * 2 ^ exponent`. All of them have a
sign. What is no number has one too, although it is not written. -/
inductive Binary
  | notANumber (negative : Bool)
  | infinite (negative : Bool)
  | finite (negative : Bool) (significand : Nat) (exponent : Int)
  deriving DecidableEq, Repr

/-- The precision of a format, and the least and greatest power of two it uses. -/
structure Binary.Format where
  precision : Nat
  least : Int
  greatest : Int

namespace Binary

/-- The format of 64 bits. -/
def Format.double : Format := ⟨53, -1074, 971⟩

/-- The format of 32 bits. -/
def Format.single : Format := ⟨24, -149, 104⟩

/-- The quotient of two numbers rounded to the nearest, a tie going to the even number. -/
def roundQuotient (num den : Nat) : Nat :=
  let q := num / den
  let twice := 2 * (num % den)
  if twice < den then q
  else if den < twice then q + 1
  else if q % 2 = 0 then q else q + 1

/-- The greatest power of two that is not above a positive quotient. -/
def quotientLog (num den : Nat) : Int :=
  let guess : Int := (Nat.log2 num : Int) - Nat.log2 den
  let reached :=
    if 0 ≤ guess then den * Nat.pow 2 guess.toNat ≤ num else den ≤ num * Nat.pow 2 (-guess).toNat
  if reached then guess else guess - 1

/-- A quotient divided by a power of two, rounded to the nearest whole number. -/
def roundScaled (num den : Nat) (exponent : Int) : Nat :=
  if 0 ≤ exponent then roundQuotient num (den * Nat.pow 2 exponent.toNat)
  else roundQuotient (num * Nat.pow 2 (-exponent).toNat) den

/-- The number of a format that is nearest to a quotient with a sign. -/
def ofQuotient (f : Format) (negative : Bool) (num den : Nat) : Binary :=
  if num = 0 then finite negative 0 f.least
  else
    let exponent := max f.least (quotientLog num den - (f.precision - 1))
    let rounded := roundScaled num den exponent
    let (significand, exponent) :=
      if rounded = Nat.pow 2 f.precision then (Nat.pow 2 (f.precision - 1), exponent + 1)
      else (rounded, exponent)
    if f.greatest < exponent then infinite negative
    else finite negative significand exponent

/-- The number of a format that is nearest to an integer. -/
def ofInt (f : Format) (n : Int) : Binary := ofQuotient f (n < 0) n.natAbs 1

/-- The number of another format that is nearest to a number. -/
def round (f : Format) : Binary → Binary
  | finite negative m e =>
      ofQuotient f negative (if 0 ≤ e then m * Nat.pow 2 e.toNat else m)
        (if 0 ≤ e then 1 else Nat.pow 2 (-e).toNat)
  | other => other

/-- The number nearest to a decimal: its units and its scale, without the zeros that both end
in, are rounded before they are divided. -/
def ofDecimal (f : Format) (d : Decimal) : Binary :=
  let (units, scale) := d.withoutCommonZeros
  match ofInt f units, ofInt f scale with
  | finite negative m e, finite _ n k =>
      if e < k then ofQuotient f negative m (n * Nat.pow 2 (k - e).toNat)
      else ofQuotient f negative (m * Nat.pow 2 (e - k).toNat) n
  | other, _ => other

/-- The exponent of a spelling: its letter, an optional sign and digits, or nothing at all. -/
def readExponent : List Char → Option Int
  | [] => some 0
  | e :: r =>
    if e = 'e' ∨ e = 'E' then
      let (negative, digits) := Decimal.splitSign r
      if digits ≠ [] ∧ digits.all Char.isDigit then
        let n := Nat.ofDigitChars 10 digits 0
        some (if negative then -n else n)
      else none
    else none

/-- The nearest number to `digits * 10 ^ exponent`. Exponents far outside the range of the
format are settled by the number of digits alone. -/
def ofScientific (f : Format) (negative : Bool) (digits : List Char) (exponent : Int) : Binary :=
  let m := Nat.ofDigitChars 10 digits 0
  let size : Int := (Nat.toDigits 10 m).length + exponent
  if m = 0 then finite negative 0 f.least
  else if 400 < size then infinite negative
  else if size < -400 then finite negative 0 f.least
  else if 0 ≤ exponent then ofQuotient f negative (m * Nat.pow 10 exponent.toNat) 1
  else ofQuotient f negative m (Nat.pow 10 (-exponent).toNat)

/-- The number that a spelling stands for. Infinities and the number that is none are spelt
in any case. -/
def read? (f : Format) (cs : List Char) : Option Binary := do
  let (negative, unsigned) := Decimal.splitSign cs
  let word := String.ofList (unsigned.map Char.toLower)
  if word = "inf" ∨ word = "infinity" then some (infinite negative)
  else if word = "nan" then some (notANumber negative)
  else
    let mantissa := unsigned.takeWhile fun c => c.isDigit || c == '.'
    let (whole, fraction) ← Decimal.splitPoint mantissa
    let exponent ← readExponent (unsigned.dropWhile fun c => c.isDigit || c == '.')
    some (ofScientific f negative (whole ++ fraction) (exponent - fraction.length))

/-- Whether `digits * 10 ^ power` is read back as `significand * 2 ^ exponent`. -/
def readsBack (f : Format) (significand : Nat) (exponent : Int) (digits : Nat) (power : Int) :
    Bool :=
  let value := ofQuotient f false
    (if 0 ≤ power then digits * Nat.pow 10 power.toNat else digits)
    (if 0 ≤ power then 1 else Nat.pow 10 (-power).toNat)
  value == finite false significand exponent

/-- The nearest of the two neighbours of a quotient on the grid of a power of ten among those
that are read back, as the digits on that grid. -/
def nearestOnGrid (f : Format) (significand : Nat) (exponent power : Int) (num den : Nat) :
    Option Nat :=
  let (n, d) :=
    if 0 ≤ power then (num, den * Nat.pow 10 power.toNat)
    else (num * Nat.pow 10 (-power).toNat, den)
  let below := n / d
  let belowFits := readsBack f significand exponent below power
  let aboveFits := readsBack f significand exponent (below + 1) power
  let aboveNearer := d < 2 * (n % d)
  if belowFits && !(aboveFits && aboveNearer) then some below
  else if aboveFits then some (below + 1)
  else none

/-- The power of ten just above a positive quotient, at most one too large. -/
def decimalSize (num den : Nat) : Int :=
  if den ≤ num then (Nat.toDigits 10 (num / den)).length
  else 1 - ((Nat.toDigits 10 (den / num)).length : Int)

/-- The fewest digits that are read back, with their power of ten, among `fuel` widths. -/
def shortest (f : Format) (significand : Nat) (exponent : Int) (num den : Nat) (size : Int) :
    Nat → Nat → Nat × Int
  | 0, _ => (0, 0)
  | fuel + 1, width =>
    let power := size - width
    match nearestOnGrid f significand exponent power num den with
    | some digits => (digits, power)
    | none => shortest f significand exponent num den size fuel (width + 1)

/-- Digits times a power of ten in positional notation. -/
def positional (digits : Nat) (power : Int) : List Char :=
  let ds := Decimal.trimZeros (Nat.toDigits 10 digits)
  let zeros := (Nat.toDigits 10 digits).length - ds.length
  let power := power + zeros
  if 0 ≤ power then ds ++ List.replicate power.toNat '0'
  else
    let places := (-power).toNat
    if places < ds.length then
      ds.take (ds.length - places) ++ '.' :: ds.drop (ds.length - places)
    else '0' :: '.' :: List.replicate (places - ds.length) '0' ++ ds

/-- The shortest spelling of a number of a format. -/
def write (f : Format) : Binary → List Char
  | notANumber _ => "NaN".toList
  | infinite true => "-INF".toList
  | infinite false => "INF".toList
  | finite negative 0 _ => if negative then ['-', '0'] else ['0']
  | finite negative (m + 1) e =>
      let num := if 0 ≤ e then (m + 1) * Nat.pow 2 e.toNat else m + 1
      let den := if 0 ≤ e then 1 else Nat.pow 2 (-e).toNat
      let (digits, power) := shortest f (m + 1) e num den (decimalSize num den) 20 1
      (if negative then ['-'] else []) ++ positional digits power

/-- Whether a number is one and is not zero. -/
def isNonzero : Binary → Bool
  | notANumber _ => false
  | infinite _ => true
  | finite _ significand _ => significand != 0

/-- The order of two numbers; a number that is none has no place in it. -/
def compare? : Binary → Binary → Option Ordering
  | notANumber _, _ => none
  | _, notANumber _ => none
  | infinite a, infinite b => some (compare b.toNat a.toNat)
  | infinite a, finite _ _ _ => some (if a then .lt else .gt)
  | finite _ _ _, infinite b => some (if b then .gt else .lt)
  | finite a m e, finite b n k =>
      let least := min e k
      let x : Int := m * Nat.pow 2 (e - least).toNat
      let y : Int := n * Nat.pow 2 (k - least).toNat
      some (compare (if a then -x else x) (if b then -y else y))

end Binary

end Songbook
