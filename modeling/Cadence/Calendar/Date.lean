/-! # Dates

The Gregorian calendar, extended over all years. A date corresponds to a day
number counted from 1970-01-01. Years are taken to begin in March, so that the
leap day is the last day of its year and the months before it follow one
formula. -/

namespace Cadence

/-- A year, a month from 1 and a day from 1. -/
structure Date where
  year : Int
  month : Int
  day : Int
deriving DecidableEq, Repr

namespace Date

/-- Days from 0000-03-01 to the first of March of a year. -/
def marchStart (year : Int) : Int := 365 * year + year / 4 - year / 100 + year / 400

/-- Days from 0000-03-01 to 1970-01-01. -/
def epochShift : Int := 719468

/-- The year from March to February that holds day `z`, counted from
0000-03-01. The mean length of a year gives it up to one. -/
def marchYear (z : Int) : Int :=
  let guess := 400 * z / 146097
  if z < marchStart guess then guess - 1
  else if marchStart (guess + 1) ≤ z then guess + 1
  else guess

/-- Days from the first of March to the first of the month that comes `m`
months later. -/
def monthStart (m : Int) : Int := (153 * m + 2) / 5

/-- The date of a day number. -/
def ofDayNumber (n : Int) : Date :=
  let z := n + epochShift
  let year := marchYear z
  let dayOfYear := z - marchStart year
  let month := (5 * dayOfYear + 2) / 153
  { year := if month < 10 then year else year + 1
    month := if month < 10 then month + 3 else month - 9
    day := dayOfYear - monthStart month + 1 }

/-- The day number of a date. -/
def dayNumber (d : Date) : Int :=
  let year := if d.month ≤ 2 then d.year - 1 else d.year
  let month := if d.month ≤ 2 then d.month + 9 else d.month - 3
  marchStart year + monthStart month + d.day - 1 - epochShift

/-- The day number of the first day of a month, given in months since January
1970. -/
def firstOfMonth (index : Int) : Int :=
  dayNumber ⟨1970 + index / 12, index % 12 + 1, 1⟩

/-- Months since January 1970. -/
def monthIndex (d : Date) : Int := (d.year - 1970) * 12 + (d.month - 1)

/-- Days from Monday. Day 0 was a Thursday. -/
def weekday (n : Int) : Int := (n + 3) % 7

/-- The week of a day in the calendar of weeks: the first week of a year is the
one that holds its first Thursday. -/
def isoWeek (n : Int) : Int :=
  let thursday := n - weekday n + 3
  (thursday - dayNumber ⟨(ofDayNumber thursday).year, 1, 1⟩) / 7 + 1

/-- The first and the last year in which dates are supported. -/
def firstYear : Int := -262143

def lastYear : Int := 262142

/-- A day number in a supported year. -/
def Supported (n : Int) : Prop :=
  dayNumber ⟨firstYear, 1, 1⟩ ≤ n ∧ n < dayNumber ⟨lastYear + 1, 1, 1⟩

instance (n : Int) : Decidable (Supported n) :=
  inferInstanceAs (Decidable (_ ∧ _))

/-- The number of days of a month. -/
def daysInMonth (index : Int) : Int := firstOfMonth (index + 1) - firstOfMonth index

end Date

end Cadence
