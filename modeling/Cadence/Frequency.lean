import Cadence.Choice
import Cadence.Journal
import Cadence.Error
import Cadence.Numeric.Counter

/-! # Sampling intervals

The sampling interval of a series is read off the gaps between its different
instants, in time order. -/

namespace Cadence

/-- How the sampling interval is read off the gaps. -/
inductive Detection
  /-- All gaps have to agree. -/
  | exact
  /-- The most frequent gap; of several, the least. -/
  | mode
  /-- The greatest gap. -/
  | max
deriving DecidableEq, Repr

instance : Choice Detection where
  what := "frequency strategy"
  all := [.exact, .mode, .max]
  name
    | .exact => "exact"
    | .mode => "mode"
    | .max => "max"

namespace Frequency

/-- The different numbers of a list, in order. -/
def distinct (numbers : List Int) : List Int :=
  (numbers.mergeSort fun a b => a ≤ b).eraseReps

/-- The distances between neighbours. -/
def gaps (instants : List Int) : Except Error (List Int) :=
  (instants.zip instants.tail).mapM fun p => Counter.require .overflow (p.2 - p.1)

/-- The most frequent of the candidates among the gaps, and its count; of several
the first. -/
def mostFrequent (gaps candidates : List Int) : Int × Nat :=
  candidates.foldl (fun best gap =>
    if best.2 < gaps.count gap then (gap, gaps.count gap) else best) (0, 0)

/-- The interval among the gaps. -/
def choose (detection : Detection) (gaps : List Int) : Except Error Int :=
  let spacings := distinct gaps
  match detection with
  | .exact =>
      match spacings with
      | [gap] => .ok gap
      | _ => .error (.ambiguous (.uneven spacings.length))
  | .mode => .ok (mostFrequent gaps spacings).1
  | .max => .ok (spacings.getLast?.getD 0)

/-- The sampling interval of some instants, which need not be in order. -/
def ofInstants (detection : Detection) (instants : List Int) : Except Error Int := do
  let times := distinct instants
  if times.length < 2 then throw (.ambiguous (.tooFew times.length))
  let gaps ← gaps times
  choose detection gaps

/-- What is noted of a detected interval. -/
def note (detection : Detection) (interval : Int) : Log.Event :=
  .note .debug s!"detected sampling frequency {interval}ns using {Choice.name detection}"

/-- Detects the sampling interval of some instants. -/
def detect (detection : Detection) (instants : List Int) : Journaled Error Int :=
  .noting (ofInstants detection instants) (note detection)

end Frequency

end Cadence
