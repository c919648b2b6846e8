import Cadence.Error
import Cadence.Table.Basic
import Cadence.Zone.Parser

/-! # The time axis of a table

One column of a table gives each row its instant. The instants are in
nanoseconds, whatever the column counts in, and the zone of the column supplies
the wall clock. A column without a zone reads the common time line. -/

namespace Cadence

/-- The instants of the rows of a table, and the zone to read them in. -/
structure TimeAxis where
  instants : List Int
  zone : Zone
  /-- The zone as the column names it. -/
  label : Option String
deriving DecidableEq, Repr

namespace TimeAxis

/-- The type of a column on this axis. -/
def columnType (axis : TimeAxis) : ColumnType := .timestamp .nanosecond axis.label

/-- A column of instants on this axis. -/
def column (axis : TimeAxis) (name : String) (instants : List Int) : Column where
  name := name
  type := axis.columnType
  nullable := false
  cells := instants.map .int
  fits := by
    intro x hx
    obtain ⟨n, -, rfl⟩ := List.mem_map.1 hx
    rfl

/-- The instants never go back. -/
def IsSorted (axis : TimeAxis) : Prop := axis.instants.Pairwise (· ≤ ·)

instance (axis : TimeAxis) : Decidable axis.IsSorted :=
  inferInstanceAs (Decidable (axis.instants.Pairwise (· ≤ ·)))

/-- The instant of a timestamp. A timestamp that no counter of nanoseconds can
hold leaves an empty slot, which reads as zero. -/
def ofTimestamp (resolution : Resolution) (n : Int) : Int :=
  (Counter.fit? (n * resolution.nanos)).getD 0

/-- The midnight, or the instant, that a date column counts. -/
def ofDate (unit n : Int) : Except Error Int :=
  Counter.require .overflow (n * unit)

/-- The instants of a column, if it is one of times. -/
def instantsOf (c : Column) : Except Error (List Int) :=
  match c.type with
  | .timestamp resolution _ => .ok (c.cells.map fun x => ofTimestamp resolution x.slot)
  | .date32 => c.cells.mapM fun x => ofDate nanosPerDay x.slot
  | .date64 => c.cells.mapM fun x => ofDate 1000000 x.slot
  | type => .error (.data (.notTemporal c.name type))

/-- Whether a column holds timestamps or dates. -/
def isTemporal : ColumnType → Bool
  | .timestamp _ _ | .date32 | .date64 => true
  | _ => false

/-- The zone that a column type names. -/
def zoneLabel : ColumnType → Option String
  | .timestamp _ zone => zone
  | _ => none

variable [Zone.Database]

/-- The zone that a label stands for. -/
def zoneOf (label : Option String) : Except Error Zone :=
  (Zone.ofLabel? label).elim (.error (.data .unknownZone)) .ok

/-- The time axis of a column. -/
def ofColumn (name : String) (c : Column) : Except Error TimeAxis := do
  if isTemporal c.type then
    if c.nullCount > 0 then throw (.data (.missingTimes name c.nullCount))
    let instants ← instantsOf c
    let zone ← zoneOf (zoneLabel c.type)
    return ⟨instants, zone, zoneLabel c.type⟩
  else throw (.data (.notTemporal name c.type))

/-- The time axis that a named column gives a table. -/
def ofTable (t : Table) (name : String) : Except Error TimeAxis :=
  match t.column? name with
  | none => .error (.data (.missingColumn .time name))
  | some c => ofColumn name c

/-- The rows in time order; rows of one instant keep their order. -/
def order (axis : TimeAxis) : List Nat :=
  (axis.instants.zipIdx.mergeSort fun a b => a.1 ≤ b.1).map (·.2)

end TimeAxis

/-- The table in the order of its time axis. -/
def Table.sortByTime (t : Table) (axis : TimeAxis) : Table := t.select axis.order

end Cadence
