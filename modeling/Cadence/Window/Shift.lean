import Cadence.Window.Period

/-! # Shifting instants back

A span of fixed length moves an instant on the common time line. A span with
calendar units moves its reading, and the new reading becomes an instant again. -/

namespace Cadence

/-- The most days that one step on the calendar can take. -/
def mostDays : Int := 106751991167

namespace Reading

/-- The reading itself, in a supported year. -/
def supported (r : Reading) : Except Error Reading :=
  if r.Supported then .ok r else .error Period.boundaryFault

/-- The reading an amount of nanoseconds earlier. -/
def earlier (r : Reading) (nanos : Int) : Except Error Reading := supported ⟨r.nanos - nanos⟩

/-- The reading a span earlier: months first, then days, then nanoseconds. -/
def before (r : Reading) (x : Span) : Except Error Reading := do
  let r ← if x.months > 0 then supported (r.monthsBefore x.months) else pure r
  let days ← x.dayCount?.elim (.error Period.boundaryFault) .ok
  if days > mostDays then throw .overflow
  let r ← r.earlier (days * nanosPerDay)
  r.earlier x.nanos

end Reading

namespace Zone

/-- The instant a span before another one. -/
def shiftBack (zone : Zone) (x : Span) (t : Int) : Except Error Int :=
  if x.IsFixed then Counter.require Period.boundaryFault (t - x.nanos)
  else do
    let reading ← zone.counterAt t
    let earlier ← Reading.before ⟨reading⟩ x
    zone.instantOf earlier

end Zone

end Cadence
