import Cadence.Journal
import Cadence.Pattern.Compile
import Cadence.TimeAxis

/-! # Time filters

A time filter keeps the rows whose reading no pattern matches. The patterns are
compiled once; what is left is one predicate over readings. -/

namespace Cadence

/-- Patterns over a time column. -/
structure TimeFilter where
  timeColumn : String
  patterns : List String
  keep : Predicate
deriving Repr

namespace TimeFilter

/-- The filter of some patterns. -/
def create (timeColumn : String) (patterns : List String) : Except Error TimeFilter := do
  let keep ← (Pattern.compile patterns).mapError .language
  return { timeColumn, patterns, keep }

variable [Zone.Database]

/-- Whether a table has a time column to filter by. -/
def fit (f : TimeFilter) (t : Table) : Except Error Unit := do
  let _ ← TimeAxis.ofTable t f.timeColumn

/-- Whether each row is kept. -/
def mask (f : TimeFilter) (t : Table) : Except Error (List Bool) := do
  let axis ← TimeAxis.ofTable t f.timeColumn
  return axis.instants.map fun instant => f.keep.eval (axis.zone.reading instant)

/-- What is noted of a filtered table. -/
def note (f : TimeFilter) (t kept : Table) : Log.Event :=
  .note .debug (s!"time filter kept {kept.height} of {t.height} rows "
    ++ s!"({f.patterns.length} pattern(s))")

/-- The rows that are kept, in their order. -/
def kept (f : TimeFilter) (t : Table) : Except Error Table := do
  let mask ← f.mask t
  return t.filterRows fun row => mask.getD row false

/-- Filters a table. -/
def transform (f : TimeFilter) (t : Table) : Journaled Error Table :=
  .noting (f.kept t) (f.note t)

end TimeFilter

end Cadence
