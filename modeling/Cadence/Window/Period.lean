import Cadence.Duration.Basic
import Cadence.Window.Bounds
import Cadence.Zone.Instant

/-! # Periods

A period divides the wall clock into cells of one length. Cells of months start
at the first of a month, cells of weeks on a Monday, and all others count from
the start of 1970. The two ends of a cell become instants of the zone, so that a
window lasts longer or shorter than its cell when the clock changes within. -/

namespace Cadence

/-- The length of the cells. -/
inductive Period
  /-- Nanoseconds, made of units shorter than a day. -/
  | fixed (nanos : Int)
  /-- Nanoseconds, with whole days among the units. -/
  | days (nanos : Int)
  /-- Nanoseconds, made of weeks only. -/
  | weeks (nanos : Int)
  | months (count : Int)
deriving DecidableEq, Repr

namespace Span

/-- Weeks and days together, each step within the range of a counter. -/
def dayCount? (x : Span) : Option Int := do
  let days ← Counter.fit? (x.weeks * 7)
  Counter.fit? (days + x.days)

/-- The length in nanoseconds on a clock that never changes, each step within the
range of a counter. -/
def clockNanos? (x : Span) : Option Int := do
  let days ← x.dayCount?
  let nanos ← Counter.fit? (days * nanosPerDay)
  Counter.fit? (nanos + x.nanos)

end Span

namespace Period

/-- The period of a span that is at least one nanosecond long, and does not mix
months with other units. -/
def ofSpan (every : String) (x : Span) : Except ConfigurationFault Period :=
  if x.IsZero then .error (.emptyWindow every)
  else if x.months > 0 then
    if x.weeks = 0 ∧ x.days = 0 ∧ x.nanos = 0 then .ok (.months x.months)
    else .error (.mixedMonths every)
  else if x.IsFixed then .ok (.fixed x.nanos)
  else
    match x.clockNanos? with
    | none => .error (.oversizedWindow every)
    | some nanos => .ok (if x.days = 0 ∧ x.nanos = 0 then .weeks nanos else .days nanos)

/-- The period of a duration. -/
def ofDuration (every : Duration) : Except Error Period := do
  let span ← every.span.mapError .language
  (ofSpan every.text span).mapError .configuration

/-- Monday, 1969-12-29, as a reading. -/
def mondayOrigin : Int := -259200000000000

/-- The refusal of a boundary that no counter can hold. -/
def boundaryFault : Error := .data .boundaryRange

/-- The cell of length `span` around a reading, counted from `origin`. -/
def clockCell (span origin : Int) (closed : Closed) (reading : Int) : Except Error Bounds := do
  let distance ← Counter.require boundaryFault (reading - origin)
  let start ← Counter.require .overflow (reading - distance % span)
  let lower ←
    if closed = .right ∧ start = reading then Counter.require boundaryFault (start - span)
    else pure start
  let upper ← Counter.require boundaryFault (lower + span)
  return ⟨lower, upper⟩

/-- The window between two readings of a zone. -/
def between (zone : Zone) (lower upper : Reading) : Except Error Bounds := do
  let first ← zone.instantOf lower
  let last ← zone.instantOf upper
  return ⟨first, last⟩

/-- The window of an instant among cells of `span` nanoseconds. -/
def clockWindow (span origin : Int) (closed : Closed) (zone : Zone) (t : Int) :
    Except Error Bounds := do
  let reading ← zone.counterAt t
  let cell ← clockCell span origin closed reading
  between zone ⟨cell.lower⟩ ⟨cell.upper⟩

/-- Midnight at the start of a month, in a supported year. -/
def startOfMonth (index : Int) : Except Error Reading :=
  let start := Reading.startOfMonth index
  if start.Supported then .ok start else .error boundaryFault

/-- The first month of the cell of `count` months around a reading. -/
def monthCell (count : Int) (closed : Closed) (reading : Reading) : Int :=
  let index := reading.monthIndex
  let start := index - index % count
  if closed = .right ∧ Reading.startOfMonth start = reading then start - count else start

/-- The window of an instant among cells of `count` months. -/
def monthWindow (count : Int) (closed : Closed) (zone : Zone) (t : Int) :
    Except Error Bounds := do
  let reading ← zone.counterAt t
  let first := monthCell count closed ⟨reading⟩
  let start ← startOfMonth first
  let lower ← zone.instantOf start
  let stop ← startOfMonth (first + count)
  let upper ← zone.instantOf stop
  return ⟨lower, upper⟩

/-- The window that an instant falls into. -/
def windowOf (period : Period) (closed : Closed) (zone : Zone) (t : Int) :
    Except Error Bounds :=
  match period with
  | fixed nanos | days nanos => clockWindow nanos 0 closed zone t
  | weeks nanos => clockWindow nanos mondayOrigin closed zone t
  | months count => monthWindow count closed zone t

end Period

end Cadence
