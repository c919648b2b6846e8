import Cadence.Calendar.Reading

/-! # Zones

A zone says by how much its wall clock runs ahead of the common time line. The
offset is constant up to the first transition and from each transition to the
next. Instants and offsets are in nanoseconds. -/

namespace Cadence

/-- From this instant on the offset is another one. -/
structure Transition where
  instant : Int
  offset : Int
deriving DecidableEq, Repr

/-- An offset and its changes, in time order. -/
structure Zone where
  initial : Int
  transitions : List Transition
deriving DecidableEq, Repr

namespace Zone

/-- A zone whose clock never changes. -/
def fixed (offset : Int) : Zone := ⟨offset, []⟩

/-- Seconds throughout, as zone tables are written. -/
def ofSeconds (initial : Int) (changes : List (Int × Int)) : Zone where
  initial := initial * nanosPerSecond
  transitions := changes.map fun c => ⟨c.1 * nanosPerSecond, c.2 * nanosPerSecond⟩

/-- The offset in force at an instant, when `current` holds before the first of
the transitions. -/
def offsetFrom (current : Int) (t : Int) : List Transition → Int
  | [] => current
  | tr :: rest => if t < tr.instant then current else offsetFrom tr.offset t rest

/-- The offset in force at an instant. -/
def offsetAt (z : Zone) (t : Int) : Int := offsetFrom z.initial t z.transitions

/-- What the wall clock of the zone shows at an instant. -/
def reading (z : Zone) (t : Int) : Reading := ⟨t + z.offsetAt t⟩

/-- The first instant with a reading among the stretch that begins at `start`
with offset `current` and the stretches after it. -/
def earliestFrom (start : Option Int) (current : Int) (r : Reading) :
    List Transition → Option Int
  | [] =>
      let t := r.nanos - current
      if start.all (· ≤ t) then some t else none
  | tr :: rest =>
      let t := r.nanos - current
      if start.all (· ≤ t) ∧ t < tr.instant then some t
      else earliestFrom (some tr.instant) tr.offset r rest

/-- The earliest instant at which the clock shows a reading. A clock that is
turned back shows some readings twice, and one that is turned forward leaves
some out. -/
def earliest? (z : Zone) (r : Reading) : Option Int :=
  earliestFrom none z.initial r z.transitions

/-! ### Text -/

/-- An offset as `+HH:MM`, rounded to the minute. -/
def offsetText (offset : Int) : String :=
  let minutes := (offset.natAbs / 1000000000 + 30) / 60
  (if offset < 0 then "-" else "+")
    ++ Text.padded 2 (minutes / 60) ++ ":" ++ Text.padded 2 (minutes % 60)

/-- An instant as the wall clock shows it, with the offset in force. -/
def stamp (z : Zone) (t : Int) : String :=
  let r := z.reading t
  Reading.dateText r.date ++ "T" ++ r.timeText ++ offsetText (z.offsetAt t)

end Zone

end Cadence
