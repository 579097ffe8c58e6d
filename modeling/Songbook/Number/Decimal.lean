/-!
# Decimal numbers with eighteen places

A decimal is a whole number of units, `10 ^ 18` of which make one. It is written without a
plus sign and without superfluous zeros, and a whole number is written without a point.
-/

namespace Songbook

/-- A number with at most eighteen decimal places. -/
structure Decimal where
  units : Int
  deriving DecidableEq, Repr

namespace Decimal

/-- The number of decimal places. -/
def places : Nat := 18

/-- The units that make one. -/
def scale : Nat := Nat.pow 10 places

/-- Decimals have their units in this half-open range of signed words of 128 bits. -/
def inRange (units : Int) : Bool := -(Nat.pow 2 127 : Nat) ≤ units && units < (Nat.pow 2 127 : Nat)

/-- A decimal with a whole value. -/
def ofInt (n : Int) : Decimal := ⟨n * scale⟩

/-- The sign at the front, if there is one, and what follows it. -/
def splitSign : List Char → Bool × List Char
  | '-' :: r => (true, r)
  | '+' :: r => (false, r)
  | cs => (false, cs)

/-- The digits before and after the point of an unsigned spelling, at least one in all. -/
def splitPoint (cs : List Char) : Option (List Char × List Char) :=
  match cs.span Char.isDigit with
  | (whole, []) => if whole = [] then none else some (whole, [])
  | (whole, '.' :: r) =>
      if r.all Char.isDigit ∧ (whole ≠ [] ∨ r ≠ []) then some (whole, r) else none
  | _ => none

/-- The digits of a fraction without the zeros at its end. -/
def trimZeros (cs : List Char) : List Char := (cs.reverse.dropWhile (· == '0')).reverse

/-- The decimal that a spelling stands for, if it is in range. Zeros at the end of the fraction
are not counted as places. -/
def read? (cs : List Char) : Option Decimal := do
  let (negative, unsigned) := splitSign cs
  let (whole, digits) ← splitPoint unsigned
  let fraction := trimZeros digits
  if fraction.length ≤ places then
    let digits := Nat.ofDigitChars 10 (whole ++ fraction) 0
    let magnitude := digits * Nat.pow 10 (places - fraction.length)
    let units : Int := if negative then -magnitude else magnitude
    if inRange units then some ⟨units⟩ else none
  else none

/-- The digits of a number, filled up with zeros at the front to a width. -/
def paddedDigits (width n : Nat) : List Char :=
  let digits := Nat.toDigits 10 n
  List.replicate (width - digits.length) '0' ++ digits

/-- Take common zeros off the ends of two numbers, at most so many of them. -/
def dropCommonZeros : Nat → Int → Nat → Int × Nat
  | places + 1, units, scale =>
    if units % 10 = 0 then dropCommonZeros places (units / 10) (scale / 10) else (units, scale)
  | 0, units, scale => (units, scale)

/-- The units and the scale without the zeros that both end in. -/
def withoutCommonZeros (d : Decimal) : Int × Nat :=
  if d.units = 0 then (0, scale) else dropCommonZeros places d.units scale

/-- The canonical spelling of a decimal. -/
def write (d : Decimal) : List Char :=
  let n := d.units.natAbs
  let sign := if d.units < 0 then ['-'] else []
  let fraction := trimZeros (paddedDigits places (n % scale))
  let tail := if fraction = [] then [] else '.' :: fraction
  sign ++ Nat.toDigits 10 (n / scale) ++ tail

end Decimal

end Songbook
