import Songbook.Number.Decimal
import Songbook.Rdf.Moment

/-!
# Periods of time

A period has months and seconds. Its spelling names years, months, days, hours, minutes and
seconds in this order, each at most once, and only the seconds may have a fraction. The
canonical spelling names the greatest units first and leaves out what is zero, so that
`PT210S` and `PT3M30S` are one period. Months differ in length, so two periods that have both
months and seconds are compared by what they lead to from four days that differ most.
-/

namespace Songbook

/-- The kinds of periods: any, only days and what is below, or only years and months. -/
inductive PeriodKind
  | full
  | dayTime
  | yearMonth
  deriving DecidableEq, Repr

/-- Months, and seconds as units of a decimal. -/
structure Period where
  kind : PeriodKind
  months : Int
  seconds : Int
  deriving DecidableEq, Repr

namespace Period

/-- How far the spelling of a period has come. -/
inductive Stage
  | start
  | years
  | months
  | days
  | time
  | hours
  | minutes
  | seconds
  deriving DecidableEq, Repr

/-- The position of a stage in the order. -/
def Stage.rank (s : Stage) : Nat := s.ctorIdx

/-- A period up to a character of its spelling. A part is missing when nothing named it. -/
structure Reading where
  negative : Bool
  stage : Stage := .start
  number : List Char := []
  months : Option Int := none
  seconds : Option Int := none

/-- The months of periods are kept in signed words of 64 bits. -/
def monthsFit (n : Int) : Bool := -0x8000000000000000 ≤ n && n < 0x8000000000000000

/-- The whole number that was read, with the sign of the period. -/
def Reading.whole? (r : Reading) : Option Int :=
  if r.number ≠ [] ∧ r.number.all Char.isDigit then
    let n : Int := Nat.ofDigitChars 10 r.number 0
    some (if r.negative then -n else n)
  else none

/-- Count a number of months. -/
def Reading.addMonths (r : Reading) (stage : Stage) (factor : Int) : Option Reading := do
  let n ← r.whole?
  let total := r.months.getD 0 + factor * n
  if monthsFit n.natAbs && monthsFit total then
    some { r with stage, number := [], months := some total }
  else none

/-- Count units of seconds. -/
def Reading.addUnits (r : Reading) (stage : Stage) (units : Int) : Option Reading :=
  let total := r.seconds.getD 0 + units
  if Decimal.inRange total then
    some { r with stage, number := [], seconds := some total }
  else none

/-- Count a whole number of seconds. -/
def Reading.addWhole (r : Reading) (stage : Stage) (factor : Int) : Option Reading := do
  r.addUnits stage ((← r.whole?) * factor * Decimal.scale)

/-- Count seconds that may have a fraction. -/
def Reading.addDecimal (r : Reading) : Option Reading := do
  let d ← Decimal.read? r.number
  r.addUnits .seconds (if r.negative then -d.units else d.units)

/-- Read one more character of a period. -/
def Reading.read (r : Reading) (c : Char) : Option Reading :=
  let before (s : Stage) : Bool := r.stage.rank < s.rank
  let inTime : Bool := Stage.time.rank ≤ r.stage.rank
  if c.isDigit ∨ (c = '.' ∧ '.' ∉ r.number) then some { r with number := r.number ++ [c] }
  else if c = 'T' ∧ r.number = [] ∧ before .time then some { r with stage := .time }
  else if c = 'Y' ∧ before .years then r.addMonths .years 12
  else if c = 'M' ∧ before .months then r.addMonths .months 1
  else if c = 'D' ∧ before .days then r.addWhole .days 86400
  else if c = 'H' ∧ r.stage = .time then r.addWhole .hours 3600
  else if c = 'M' ∧ inTime ∧ before .minutes then r.addWhole .minutes 60
  else if c = 'S' ∧ inTime ∧ before .seconds then r.addDecimal
  else none

/-- Whether the parts that a kind asks for were named. -/
def Reading.fits (r : Reading) : PeriodKind → Bool
  | .full => r.months.isSome || r.seconds.isSome
  | .dayTime => r.months.isNone && r.seconds.isSome
  | .yearMonth => r.months.isSome && r.seconds.isNone

/-- The period that a spelling stands for. -/
def read? (kind : PeriodKind) (cs : List Char) : Option Period := do
  let (negative, unsigned) :=
    match cs with
    | '-' :: r => (true, r)
    | _ => (false, cs)
  match unsigned with
  | 'P' :: r =>
    let reading ← r.foldlM Reading.read { negative }
    if reading.number = [] && reading.fits kind then
      some { kind, months := reading.months.getD 0, seconds := reading.seconds.getD 0 }
    else none
  | _ => none

/-- A number with a letter, unless it is zero. -/
def writePart (n : Nat) (letter : Char) : List Char :=
  if n = 0 then [] else Nat.toDigits 10 n ++ [letter]

/-- Seconds with a letter, unless they are zero. -/
def writeSeconds (units : Nat) : List Char :=
  if units = 0 then [] else Decimal.write ⟨units⟩ ++ ['S']

/-- The canonical spelling of a period. -/
def write (p : Period) : List Char :=
  let sign := if p.months < 0 ∨ p.seconds < 0 then ['-'] else []
  let seconds := p.seconds.natAbs / Decimal.scale
  let below := p.seconds.natAbs - seconds / 60 * 60 * Decimal.scale
  let date := writePart (p.months.natAbs / 12) 'Y' ++ writePart (p.months.natAbs % 12) 'M' ++
    writePart (seconds / 86400) 'D'
  let time := writePart (seconds % 86400 / 3600) 'H' ++ writePart (seconds % 3600 / 60) 'M' ++
    writeSeconds below
  if p.months = 0 ∧ p.seconds = 0 then
    if p.kind = .yearMonth then ['P', '0', 'M'] else ['P', 'T', '0', 'S']
  else sign ++ 'P' :: date ++ if time = [] then [] else 'T' :: time

/-- The days from which periods are compared. -/
def startingDays : List Date := [⟨1969, 9, 1⟩, ⟨1697, 2, 1⟩, ⟨1903, 3, 1⟩, ⟨1903, 7, 1⟩]

/-- The units of seconds between the start of the year 1 and what a period leads to from the
start of a day, if they are in the range of decimals. -/
def endFrom? (p : Period) (d : Date) : Option Int :=
  let start := (d.addMonths p.months).dayNumber * 86400 * Decimal.scale
  if Decimal.inRange start && Decimal.inRange (start + p.seconds) then some (start + p.seconds)
  else none

/-- The order of two periods seen from a day. -/
def compareFrom? (a b : Period) (d : Date) : Option Ordering := do
  return compare (← a.endFrom? d) (← b.endFrom? d)

/-- The order of two periods, if it can be told. -/
def compare? (a b : Period) : Option Ordering :=
  match a.kind, b.kind with
  | .dayTime, .dayTime => some (compare a.seconds b.seconds)
  | .yearMonth, .yearMonth => some (compare a.months b.months)
  | _, _ =>
    match startingDays.map (a.compareFrom? b) with
    | some first :: rest => if rest.all (· == some first) then some first else none
    | _ => none

end Period

end Songbook
