import Cadence.Resampler
import Cadence.Settings.Project
import Cadence.TimeFilter

/-! # Stages of a project

Filters and resamplers are built from their sections of the settings. -/

namespace Cadence

/-- The filter of some settings. -/
def TimeFilter.ofSettings (s : FilterSettings) : Except Error TimeFilter :=
  create s.timeColumn s.patterns

namespace Resampler

/-- Applies a choice that may be missing. -/
def withOptional {α : Type} (choose : Resampler → α → Except Error Resampler) (x : Option α)
    (r : Resampler) : Except Error Resampler :=
  match x with
  | none => .ok r
  | some x => choose r x

/-- The resampler of some settings. -/
def ofSettings (s : ResampleSettings) : Except Error Resampler := do
  let r ← create s.timeColumn s.every
  let r := ((r.withClosed s.closed).withLabel s.label).withGroupBy s.groupBy
  let r ← r.withReducers s.reducers.entries
  let r := ((r.withPolicy s.policy).withDetection s.detection).withBoundaries s.boundaries
  let r ← withOptional withStartOffset s.startOffset r
  withOptional withTargets s.targetColumns r

end Resampler

end Cadence
