import Cadence.Calendar.Date
import Cadence.Numeric.Counter
import Cadence.Text.Basic

/-! # Wall-clock readings

A reading is what a wall clock shows: a date and a time of day, without a zone.
It is held as nanoseconds since 1970-01-01 00:00 on that clock. -/

namespace Cadence

def nanosPerSecond : Int := 1000000000

def nanosPerDay : Int := 86400000000000

/-- A date and a time of day. -/
structure Reading where
  nanos : Int
deriving DecidableEq, Repr

namespace Reading

/-- The day number. -/
def dayNumber (r : Reading) : Int := r.nanos / nanosPerDay

def date (r : Reading) : Date := Date.ofDayNumber r.dayNumber

/-- Nanoseconds since midnight. -/
def nanosOfDay (r : Reading) : Int := r.nanos % nanosPerDay

def secondOfDay (r : Reading) : Int := r.nanosOfDay / nanosPerSecond

def hour (r : Reading) : Int := r.secondOfDay / 3600

def minute (r : Reading) : Int := r.secondOfDay / 60 % 60

def second (r : Reading) : Int := r.secondOfDay % 60

/-- Nanoseconds since the last full second. -/
def nanosOfSecond (r : Reading) : Int := r.nanosOfDay % nanosPerSecond

/-- Midnight of a day. -/
def midnight (day : Int) : Reading := ⟨day * nanosPerDay⟩

/-- A reading in a supported year. -/
def Supported (r : Reading) : Prop := Date.Supported r.dayNumber

instance (r : Reading) : Decidable r.Supported :=
  inferInstanceAs (Decidable (Date.Supported _))

/-- Midnight of the first day of a month, given in months since January 1970. -/
def startOfMonth (index : Int) : Reading := midnight (Date.firstOfMonth index)

/-- Months since January 1970. -/
def monthIndex (r : Reading) : Int := r.date.monthIndex

/-- The same day and time some months earlier. A day that the month does not
have becomes its last day. -/
def monthsBefore (r : Reading) (months : Int) : Reading :=
  let index := r.monthIndex - months
  let day := min r.date.day (Date.daysInMonth index)
  ⟨(midnight (Date.firstOfMonth index + day - 1)).nanos + r.nanosOfDay⟩

/-! ### Text -/

/-- A year has four digits, and a sign outside the years 0 to 9999. -/
def yearText (year : Int) : String :=
  if 0 ≤ year ∧ year ≤ 9999 then Text.padded 4 year.natAbs
  else (if year < 0 then "-" else "+") ++ Text.padded 4 year.natAbs

def dateText (d : Date) : String :=
  s!"{yearText d.year}-{Text.padded 2 d.month.natAbs}-{Text.padded 2 d.day.natAbs}"

/-- A fraction of a second with three, six or nine digits, the fewest that lose
nothing, or nothing at all. -/
def fractionText (nanos : Nat) : String :=
  if nanos = 0 then ""
  else if nanos % 1000000 = 0 then "." ++ Text.padded 3 (nanos / 1000000)
  else if nanos % 1000 = 0 then "." ++ Text.padded 6 (nanos / 1000)
  else "." ++ Text.padded 9 nanos

def timeText (r : Reading) : String :=
  let clock := [r.hour, r.minute, r.second].map fun n => Text.padded 2 n.natAbs
  ":".intercalate clock ++ fractionText r.nanosOfSecond.natAbs

/-- The reading as `YYYY-MM-DD HH:MM:SS`, with the fraction if there is one. -/
def text (r : Reading) : String := s!"{dateText r.date} {r.timeText}"

end Reading

end Cadence
