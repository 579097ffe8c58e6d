/-!
# The calendar

The days of the Gregorian calendar, which is continued before its introduction and into years
that are not positive, are numbered from the first day of the year 1.
-/

namespace Songbook

/-- A day of a month of a year. -/
structure Date where
  year : Int
  month : Nat
  day : Nat
  deriving DecidableEq, Repr

namespace Date

/-- Whether a year has a day more than others. -/
def isLeap (year : Int) : Bool := year % 400 = 0 || (year % 4 = 0 && year % 100 ≠ 0)

/-- The number of days in a month of a year that is leap or not. -/
def monthLength (leap : Bool) (month : Nat) : Nat :=
  if month = 2 then if leap then 29 else 28
  else if month ∈ [4, 6, 9, 11] then 30
  else 31

/-- The number of days in a month of a year. -/
def daysIn (year : Int) (month : Nat) : Nat := monthLength (isLeap year) month

/-- The days of a year before a month. -/
def daysBefore (year : Int) (month : Nat) : Nat :=
  (List.range (month - 1)).foldl (fun n k => n + daysIn year (k + 1)) 0

/-- The number of a day, which is zero for the first day of the year 1. -/
def dayNumber (d : Date) : Int :=
  let before := d.year - 1
  365 * before + before / 4 - before / 100 + before / 400 + daysBefore d.year d.month + d.day - 1

/-- The month and the day of a month to which a number of days of a year belongs, among the
months from a first one on. -/
def monthOfDay (year : Int) : Nat → Nat → Nat → Nat × Nat
  | 0, month, days => (month, days + 1)
  | fuel + 1, month, days =>
    if days < daysIn year month then (month, days + 1)
    else monthOfDay year fuel (month + 1) (days - daysIn year month)

/-- The day with a number. Whole runs of four hundred, a hundred, four and single years are
taken off one after the other. -/
def ofDayNumber (n : Int) : Date :=
  let days := (n % 146097).toNat
  let centuries := min 3 (days / 36524)
  let inCentury := days - centuries * 36524
  let inFour := inCentury % 1461
  let years := min 3 (inFour / 365)
  let year := 400 * (n / 146097) + (100 * centuries + 4 * (inCentury / 1461) + years : Nat) + 1
  let (month, day) := monthOfDay year 11 1 (inFour - years * 365)
  { year, month, day }

/-- The first day of the month that lies a number of months after the month of a date. -/
def addMonths (d : Date) (months : Int) : Date :=
  let n := d.year * 12 + (d.month - 1 : Nat) + months
  { year := n / 12, month := (n % 12).toNat + 1, day := 1 }

end Date

end Songbook
