import Songbook.Number.Decimal
import Songbook.Rdf.Calendar

/-!
# Moments of the calendar

A moment is a point of the calendar or of the clock, or a part of one such as a month without
a year. It is kept as a point of the time line in universal time together with its zone, so
that `2024-02-28T24:00:00.00+00:00` and `2024-02-29T00:00:00Z` are one moment, and the same
point in two zones is two moments. A spelling is given by the layout of its kind, along which
reading and writing go, and a zone may follow it.

## Main definitions

* `Moment.Layout`: what the spelling of a kind of moments is made of.
* `Moment.read?` and `Moment.write`: the two directions along a layout.
* `Moment.compare?`: the order of two moments of one kind.
-/

namespace Songbook

/-- The kinds of moments, by what is known of them. -/
inductive MomentKind
  | dateTime
  | date
  | time
  | yearMonth
  | year
  | monthDay
  | day
  | month
  deriving DecidableEq, Repr

/-- A moment: the units of a decimal that counts seconds from the start of the year 1 in
universal time, and the minutes by which its zone is ahead, if there is one. -/
structure Moment where
  kind : MomentKind
  units : Int
  zone : Option Int
  deriving DecidableEq, Repr

namespace Moment

/-! ### Layouts -/

/-- A piece of a layout: a part of the moment, or a character that is always the same. -/
inductive Piece
  | year
  | month
  | day
  | clock
  | mark (c : Char)

/-- The pieces of a spelling in their order, without the zone. -/
abbrev Layout := List Piece

/-- A month of a year. -/
def yearMonthLayout : Layout := [.year, .mark '-', .month]

/-- A day of a month of a year. -/
def dateLayout : Layout := yearMonthLayout ++ [.mark '-', .day]

end Moment

/-- The layout of a kind of moments. -/
def MomentKind.layout : MomentKind → Moment.Layout
  | dateTime => Moment.dateLayout ++ [.mark 'T', .clock]
  | date => Moment.dateLayout
  | time => [.clock]
  | yearMonth => Moment.yearMonthLayout
  | year => [.year]
  | monthDay => [.mark '-', .mark '-', .month, .mark '-', .day]
  | day => [.mark '-', .mark '-', .mark '-', .day]
  | month => [.mark '-', .mark '-', .month]

namespace Moment

/-- The parts that a spelling names. The seconds are units of a decimal. -/
structure Parts where
  year : Option Int := none
  month : Option Nat := none
  day : Option Nat := none
  hour : Nat := 0
  minute : Nat := 0
  seconds : Nat := 0

/-! ### Points of the time line -/

/-- The year of parts. Where it is not known, a leap year stands in for it. -/
def Parts.assumedYear (p : Parts) : Int := p.year.getD 1972

/-- The date of parts. What is not known is taken as late as it can be. -/
def Parts.date (p : Parts) : Date :=
  let year := p.assumedYear
  let month := p.month.getD 12
  { year, month, day := p.day.getD (Date.daysIn year month) }

/-- The units of seconds between the start of the year 1 and what parts name, both in universal
time. -/
def Parts.timeline (p : Parts) (zone : Option Int) : Int :=
  let minutes := (p.date.dayNumber * 24 + p.hour) * 60 + p.minute - zone.getD 0
  minutes * 60 * Decimal.scale + p.seconds

/-- Whether the day of parts is one of its month. A month whose year is not known has as many
days as in most years. -/
def Parts.hasDay (p : Parts) : Bool :=
  p.day.getD 1 ≤ Date.monthLength (p.year.any Date.isLeap) (p.month.getD 12)

/-- Whether the hour of parts is one of a day. The hour behind the last one is accepted if
minutes or seconds are zero. -/
def Parts.hasHour (p : Parts) : Bool := p.hour < 24 || p.minute = 0 || p.seconds = 0

/-- The moment of parts in a zone, if they go together and the moment is in the range of
decimals. The midnight at the end of a day that is not known is the one at its start. -/
def ofParts? (kind : MomentKind) (p : Parts) (zone : Option Int) : Option Moment :=
  let p :=
    if kind = .time ∧ p.hour = 24 ∧ p.minute = 0 ∧ p.seconds = 0 then { p with hour := 0 } else p
  let units := p.timeline zone
  if p.hasDay && p.hasHour && Decimal.inRange units then some { kind, units, zone } else none

/-- The whole seconds of a moment by the clock of its zone. A fraction is cut off towards the
start of the year 1. -/
def localSeconds (m : Moment) : Int := m.units.tdiv Decimal.scale + m.zone.getD 0 * 60

/-- The parts of a moment by the clock of its zone. -/
def parts (m : Moment) : Parts :=
  let seconds := m.localSeconds
  let date := Date.ofDayNumber (seconds / 86400)
  { year := some date.year
    month := some date.month
    day := some date.day
    hour := (seconds % 86400 / 3600).toNat
    minute := (seconds % 3600 / 60).toNat
    seconds := (m.units % (60 * Decimal.scale)).toNat }

/-! ### Reading -/

/-- Read a year of four digits, or of more that do not start with a zero. -/
def readYear (cs : List Char) : Option (Int × List Char) :=
  let (negative, unsigned) :=
    match cs with
    | '-' :: r => (true, r)
    | _ => (false, cs)
  let (digits, rest) := unsigned.span Char.isDigit
  if 4 ≤ digits.length ∧ (digits.length = 4 ∨ digits.head? ≠ some '0') then
    let n : Int := Nat.ofDigitChars 10 digits 0
    some (if negative then -n else n, rest)
  else none

/-- Read a number of two digits within bounds. -/
def readPair (low high : Nat) (cs : List Char) : Option (Nat × List Char) :=
  let (digits, rest) := cs.span Char.isDigit
  let n := Nat.ofDigitChars 10 digits 0
  if digits.length = 2 ∧ low ≤ n ∧ n ≤ high then some (n, rest) else none

/-- Read one character that is known. -/
def readMark (c : Char) : List Char → Option (List Char)
  | d :: rest => if d = c then some rest else none
  | [] => none

/-- Read seconds below a minute, with two digits before the point. -/
def readSeconds (cs : List Char) : Option (Nat × List Char) := do
  let (whole, rest) ← readPair 0 59 cs
  match rest with
  | '.' :: r =>
    let (digits, rest) := r.span Char.isDigit
    if digits = [] then none
    else
      let fraction ← Decimal.read? ('.' :: digits)
      some (whole * Decimal.scale + fraction.units.natAbs, rest)
  | _ => some (whole * Decimal.scale, rest)

/-- Read hours, minutes and seconds. -/
def readClock (p : Parts) (cs : List Char) : Option (Parts × List Char) := do
  let (hour, rest) ← readPair 0 24 cs
  let rest ← readMark ':' rest
  let (minute, rest) ← readPair 0 59 rest
  let rest ← readMark ':' rest
  let (seconds, rest) ← readSeconds rest
  some ({ p with hour, minute, seconds }, rest)

/-- Read one piece of a layout into parts. -/
def readPiece : Parts × List Char → Piece → Option (Parts × List Char)
  | (p, cs), .year => (readYear cs).map fun (n, rest) => ({ p with year := some n }, rest)
  | (p, cs), .month => (readPair 1 12 cs).map fun (n, rest) => ({ p with month := some n }, rest)
  | (p, cs), .day => (readPair 1 31 cs).map fun (n, rest) => ({ p with day := some n }, rest)
  | (p, cs), .clock => readClock p cs
  | (p, cs), .mark c => (readMark c cs).map fun rest => (p, rest)

/-- Read hours and minutes of a zone, which is at most fourteen hours away. -/
def readOffset (cs : List Char) : Option Nat := do
  let (hours, rest) ← readPair 0 14 cs
  let rest ← readMark ':' rest
  let (minutes, rest) ← readPair 0 59 rest
  if rest = [] ∧ hours * 60 + minutes ≤ 840 then some (hours * 60 + minutes) else none

/-- Read a zone, up to the end of the spelling. -/
def readZone : List Char → Option (Option Int)
  | [] => some none
  | ['Z'] => some (some 0)
  | '+' :: r => (readOffset r).map fun n => some (n : Int)
  | '-' :: r => (readOffset r).map fun n => some (-n : Int)
  | _ => none

/-- The moment that a spelling stands for. -/
def read? (kind : MomentKind) (cs : List Char) : Option Moment := do
  let (p, rest) ← kind.layout.foldlM readPiece ({}, cs)
  ofParts? kind p (← readZone rest)

/-! ### Writing -/

/-- Two digits of a number. -/
def writePair (n : Nat) : List Char := Decimal.paddedDigits 2 n

/-- A year with four digits or more. -/
def writeYear (n : Int) : List Char :=
  (if n < 0 then ['-'] else []) ++ Decimal.paddedDigits 4 n.natAbs

/-- Seconds with two digits before the point. -/
def writeSeconds (units : Nat) : List Char :=
  (if units < 10 * Decimal.scale then ['0'] else []) ++ Decimal.write ⟨units⟩

/-- The characters of one piece of a layout. -/
def Parts.writePiece (p : Parts) : Piece → List Char
  | .year => writeYear p.assumedYear
  | .month => writePair (p.month.getD 12)
  | .day => writePair (p.day.getD 1)
  | .clock => writePair p.hour ++ ':' :: writePair p.minute ++ ':' :: writeSeconds p.seconds
  | .mark c => [c]

/-- A zone, with a letter of its own for universal time. -/
def writeZone : Option Int → List Char
  | none => []
  | some 0 => ['Z']
  | some n =>
      let offset := n.natAbs
      (if n < 0 then '-' else '+') :: writePair (offset / 60) ++ ':' :: writePair (offset % 60)

/-- The canonical spelling of a moment. -/
def write (m : Moment) : List Char :=
  m.kind.layout.flatMap m.parts.writePiece ++ writeZone m.zone

/-! ### Order -/

/-- The units of seconds in fourteen hours, which no zone exceeds. -/
def widestOffset : Int := 50400 * Decimal.scale

/-- The order of a point whose zone is not known and one in universal time, if it is the same
for every zone. -/
def compareUnzoned? (a b : Int) : Option Ordering :=
  let first := compare (a - widestOffset) b
  if first = compare (a + widestOffset) b then some first else none

/-- The order of two moments of one kind, if it can be told. -/
def compare? (a b : Moment) : Option Ordering :=
  if a.kind ≠ b.kind then none
  else match a.zone, b.zone with
    | none, some _ => compareUnzoned? a.units b.units
    | some _, none => (compareUnzoned? b.units a.units).map Ordering.swap
    | _, _ => some (compare a.units b.units)

end Moment

end Songbook
