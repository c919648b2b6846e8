import Cadence.Error

/-! # Between instants and readings

A reading has to fit a counter before windows are computed with it. The way back
takes the earliest instant that shows a reading; a reading that the clock left
out is taken with the offset that was in force a day before. -/

namespace Cadence

/-- Nanoseconds of a reading, if a counter can hold them. -/
def Reading.counter (r : Reading) : Except Error Int :=
  Counter.require (.data (.readingRange r)) r.nanos

namespace Zone

/-- What the clock shows at an instant, as a counter. -/
def counterAt (z : Zone) (t : Int) : Except Error Int := (z.reading t).counter

/-- The earliest instant with a reading, if it falls into a supported year. -/
def supported? (z : Zone) (r : Reading) : Option Int :=
  (z.earliest? r).filter fun t => Reading.Supported ⟨t⟩

/-- The instant of a reading that the clock leaves out. -/
def instantOfSkipped (z : Zone) (r : Reading) : Except Error Int :=
  let dayBefore : Reading := ⟨r.nanos - nanosPerDay⟩
  let t : Reading := ⟨r.nanos - z.offsetAt dayBefore.nanos⟩
  if dayBefore.Supported ∧ t.Supported then t.counter
  else .error (.data (.readingSupport r))

/-- The instant of a reading. -/
def instantOf (z : Zone) (r : Reading) : Except Error Int :=
  match z.supported? r with
  | some t => Counter.require (.data (.readingRange r)) t
  | none => z.instantOfSkipped r

end Zone

end Cadence
