import Cadence.Partiality
import Cadence.Reducer.Reduce
import Cadence.Reducer.Request
import Cadence.Reducer.Targets
import Cadence.Table.Concat

/-! # Resampling

A resampler puts the rows of a table into windows and reduces each window to one
row. Whether a window is partial is measured on all rows, before a filter takes
some of them away. -/

namespace Cadence

/-- Removes rows of a table. -/
abbrev RowFilter := Table → Journaled Error Table

/-- How a table is resampled. -/
structure Resampler where
  spec : WindowSpec
  reducers : List NamedReducer := [⟨Reducer.sum.name, .sum⟩]
  /-- The columns to reduce; all that suit the reducers, unless they are named. -/
  targets : Option (List String) := none
  policy : Policy := .keep
  detection : Detection := .exact
  /-- Whether the ends of the windows are columns of the result. -/
  boundaries : Bool := false
deriving DecidableEq, Repr

/-- A table in time order, with its time axis. -/
structure Timeline where
  table : Table
  axis : TimeAxis
deriving DecidableEq, Repr

variable [Zone.Database]

/-- The rows of a table in time order. -/
def Timeline.ofTable (t : Table) (timeColumn : String) : Except Error Timeline := do
  let axis ← TimeAxis.ofTable t timeColumn
  let sorted := t.sortByTime axis
  let axis ← TimeAxis.ofTable sorted timeColumn
  return ⟨sorted, axis⟩

namespace Resampler

/-- A resampler that adds up every numeric column in windows of a length. -/
def create (timeColumn every : String) : Except Error Resampler := do
  let spec ← WindowSpec.create timeColumn every
  return { spec }

/-! ### Choices -/

def withClosed (r : Resampler) (closed : Closed) : Resampler :=
  { r with spec := { r.spec with closed } }

def withLabel (r : Resampler) (label : Label) : Resampler :=
  { r with spec := { r.spec with label } }

def withGroupBy (r : Resampler) (groupBy : List String) : Resampler :=
  { r with spec := { r.spec with groupBy } }

def withStartOffset (r : Resampler) (text : String) : Except Error Resampler := do
  let spec ← r.spec.withStartOffset text
  return { r with spec }

def withReducers (r : Resampler) (entries : List ReducerEntry) : Except Error Resampler := do
  let reducers ← ReducerEntry.resolveAll entries
  return { r with reducers }

/-- Whether a column gives the rows their time or their group. -/
def reserves (r : Resampler) (column : String) : Bool :=
  column = r.spec.timeColumn || column ∈ r.spec.groupBy

/-- Names the columns to reduce. Columns of times and groups are refused. -/
def withTargets (r : Resampler) (columns : List String) : Except Error Resampler :=
  match columns.find? r.reserves with
  | some column => .error (.configuration (.reservedTarget column))
  | none => .ok { r with targets := some columns }

def withPolicy (r : Resampler) (policy : Policy) : Resampler := { r with policy }

def withDetection (r : Resampler) (detection : Detection) : Resampler := { r with detection }

def withBoundaries (r : Resampler) (boundaries : Bool) : Resampler := { r with boundaries }

/-! ### Resampling -/

/-- The names of the columns to reduce. -/
def targetNames (r : Resampler) (t : Table) : Except Error (List String) :=
  Reducer.targets t.schema r.targets (r.spec.timeColumn :: r.spec.groupBy)
    (r.reducers.map (·.reducer))

/-- Whether a table has the columns that the resampler needs. -/
def fit (r : Resampler) (t : Table) : Except Error Unit := do
  let _ ← TimeAxis.ofTable t r.spec.timeColumn
  let _ ← t.groupColumns r.spec.groupBy
  let _ ← r.targetNames t

/-- The names of the columns that hold the ends of the windows. -/
def lowerName : String := "_lower_boundary"

def upperName : String := "_upper_boundary"

/-- The columns of the groups: for each window the key of its first row. -/
def groupColumns (columns : List Column) (windows : List Window) : List Column :=
  columns.map fun c => c.select (windows.map fun w => w.rows.headD 0)

/-- The columns of times: the ends of the windows if they are wanted, and the
labels. -/
def timeColumns (r : Resampler) (axis : TimeAxis) (windows : List Window) : List Column :=
  let ends :=
    if r.boundaries then
      [axis.column lowerName (windows.map (·.bounds.lower)),
        axis.column upperName (windows.map (·.bounds.upper))]
    else []
  ends ++ [axis.column r.spec.timeColumn (windows.map (·.label))]

/-- A column reduced by each reducer. -/
def reduceColumn (r : Resampler) (t : Table) (windows : List Window) (name : String) :
    Except Error (List Column) :=
  match t.column? name with
  | none => .error (.data (.missingColumn .target name))
  | some column =>
      r.reducers.mapM fun named => do
        let reduced ← named.reducer.reduce column (windows.map (·.rows))
        return { reduced with name := named.columnName name (r.reducers.length > 1) }

/-- A table of windows, and the positions of its reduced columns. -/
structure Summary where
  table : Table
  aggregated : List Nat
deriving DecidableEq, Repr

/-- One row for each window of a table. -/
def summarize (r : Resampler) (line : Timeline) (windows : List Window) :
    Except Error Summary := do
  let targets ← r.targetNames line.table
  let keys ← line.table.groupColumns r.spec.groupBy
  let leading := groupColumns keys windows ++ r.timeColumns line.axis windows
  let reduced ← targets.mapM (r.reduceColumn line.table windows)
  let columns := leading ++ reduced.flatten
  match Table.ofHeight? windows.length columns with
  | some table =>
      if table.Admissible then
        return ⟨table, (List.range reduced.flatten.length).map (leading.length + ·)⟩
      else throw (.data .unexpectedNull)
  | none => throw (.data .unevenColumns)

/-- What is noted of a summary of some rows. -/
def note (rows : Nat) (s : Summary) : Log.Event :=
  .note .debug (s!"resampled {rows} rows into {s.table.height} windows "
    ++ s!"({s.aggregated.length} aggregated columns)")

/-- Marks the partial windows of a table, unless they are kept anyway. -/
def snapshot (r : Resampler) (line : Timeline) : Journaled Error (Option Snapshot) :=
  match r.policy with
  | .keep => pure none
  | _ => do
      let all ← r.spec.assign line.table line.axis
      let snapshot ← Snapshot.capture all line.axis.instants r.detection
      return some snapshot

/-- The rows that a filter leaves, in time order again. -/
def filtered (r : Resampler) (filter : Option RowFilter) (line : Timeline) :
    Journaled Error Timeline :=
  match filter with
  | none => pure line
  | some filter => do
      let rows ← filter line.table
      .lift (Timeline.ofTable rows r.spec.timeColumn)

/-- Resolves the partial windows of a summary. -/
def resolve (r : Resampler) (snapshot : Option Snapshot) (a : Assignment) (zone : Zone)
    (s : Summary) : Journaled Error Table :=
  match snapshot with
  | none => pure s.table
  | some snapshot =>
      let flags := a.windows.map fun w => snapshot.isPartial (a.keyOf w)
      r.policy.resolve s.table flags (a.windows.map (·.bounds)) s.aggregated zone

/-- Resamples a table after a filter, if there is one. -/
def run (r : Resampler) (filter : Option RowFilter) (t : Table) : Journaled Error Table := do
  let line ← .lift (Timeline.ofTable t r.spec.timeColumn)
  let snapshot ← r.snapshot line
  let rows ← r.filtered filter line
  let a ← r.spec.assign rows.table rows.axis
  let summary ← .noting (r.summarize rows a.windows) (note rows.table.height)
  r.resolve snapshot a rows.axis.zone summary

/-- Resamples a table. -/
def transform (r : Resampler) (t : Table) : Journaled Error Table := r.run none t

/-- Resamples the rows that a filter leaves. -/
def transformFiltered (r : Resampler) (filter : RowFilter) (t : Table) :
    Journaled Error Table :=
  r.run (some filter) t

/-- Resamples tables as one. -/
def transformAll (r : Resampler) (tables : List Table) : Journaled Error Table := do
  let t ← .lift (Table.concat tables)
  r.transform t

end Resampler

end Cadence
