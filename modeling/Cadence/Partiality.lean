import Cadence.Frequency
import Cadence.Window.Assignment

/-! # Partial windows

A window is partial when it holds fewer different instants than fit into it at
the sampling interval. A snapshot records which windows of a table are partial;
a policy decides what becomes of their rows. -/

namespace Cadence

/-- What becomes of partial windows. -/
inductive Policy
  | keep
  | drop
  /-- Their aggregated values become null. -/
  | null
  | fail
deriving DecidableEq, Repr

instance : Choice Policy where
  what := "partiality policy"
  all := [.keep, .drop, .null, .fail]
  name
    | .keep => "keep"
    | .drop => "drop"
    | .null => "null"
    | .fail => "fail"

namespace Window

/-- Whether `distinct` samples fall short of a stretch at a sampling interval. -/
def isShort (elapsed interval : Int) (distinct : Nat) : Bool :=
  Float.ofNat distinct < Float.ofInt elapsed / Float.ofInt interval

/-- Whether a window is partial at a sampling interval. -/
def isPartial (interval : Int) (w : Window) : Except Error Bool := do
  let elapsed ← Counter.require .overflow w.bounds.elapsed
  return isShort elapsed interval w.distinct

end Window

/-- The windows of a table, and which of them are partial. -/
structure Snapshot where
  interval : Int
  marks : List (WindowKey × Bool)
deriving DecidableEq, Repr

namespace Snapshot

/-- The marks of the windows of an assignment. -/
def marksOf (a : Assignment) (interval : Int) : Except Error (List (WindowKey × Bool)) :=
  a.windows.mapM fun w => do
    let mark ← w.isPartial interval
    return (a.keyOf w, mark)

/-- Takes the snapshot of an assignment. -/
def capture (a : Assignment) (instants : List Int) (detection : Detection) :
    Journaled Error Snapshot := do
  let interval ← Frequency.detect detection instants
  let marks ← .lift (marksOf a interval)
  return ⟨interval, marks⟩

/-- Whether a window was partial. A window that was not there counts as full. -/
def isPartial (s : Snapshot) (key : WindowKey) : Bool := (s.marks.lookup key).getD false

end Snapshot

namespace Column

/-- The column with nulls in the flagged rows. A column without values stays. -/
def nullAt (c : Column) (flags : List Bool) : Column where
  toField := c.toField
  cells :=
    if c.type = .nothing then c.cells
    else c.cells.mapIdx fun i x => if flags.getD i false then .null else x
  fits := by
    intro x hx
    split at hx
    · exact c.fits x hx
    · obtain ⟨i, hi, rfl⟩ := List.mem_mapIdx.1 hx
      split
      · simp
      · exact c.fits _ (List.getElem_mem hi)

@[simp] theorem length_nullAt (c : Column) (flags : List Bool) :
    (c.nullAt flags).cells.length = c.cells.length := by
  simp only [nullAt]
  split <;> simp

end Column

namespace Table

/-- The table with nulls in the flagged rows of some columns. -/
def nullAt (t : Table) (flags : List Bool) (columns : List Nat) : Table where
  height := t.height
  columns := t.columns.mapIdx fun i c => if i ∈ columns then c.nullAt flags else c
  uniform := by
    intro c hc
    obtain ⟨i, hi, rfl⟩ := List.mem_mapIdx.1 hc
    have := t.uniform _ (List.getElem_mem hi)
    split <;> simp [this]

/-- Whether each column that must not hold nulls holds none. -/
def Admissible (t : Table) : Prop := ∀ c ∈ t.columns, c.nullable = true ∨ c.nullCount = 0

instance (t : Table) : Decidable t.Admissible :=
  inferInstanceAs (Decidable (∀ c ∈ t.columns, c.nullable = true ∨ c.nullCount = 0))

end Table

namespace Policy

/-- A table without its flagged rows, or with nulls in them, or a refusal of the
first one, as the policy says. Rows that have no flag are dropped, too, but there
has to be one for each row that is nulled. -/
def apply (policy : Policy) (t : Table) (flags : List Bool) (bounds : List Bounds)
    (aggregated : List Nat) (zone : Zone) : Except Error Table :=
  match policy with
  | .keep => .ok t
  | .drop =>
      if t.height < flags.length then .error (.data .dropMarks)
      else .ok (t.filterRows fun row => flags[row]? = some false)
  | .null =>
      let nulled := t.nullAt flags aggregated
      if aggregated ≠ [] ∧ flags.length ≠ t.height then .error (.data .nullMarks)
      else if nulled.Admissible then .ok nulled
      else .error (.data .nulledRequired)
  | .fail =>
      let b := bounds.getD (flags.idxOf true) ⟨0, 0⟩
      .error (.partialWindow zone b.lower b.upper (flags.count true))

/-- What a policy notes when it meets partial windows. -/
def notes (policy : Policy) (flagged : Nat) : List Log.Event :=
  match policy with
  | .keep | .fail => []
  | .drop => [.note .warn s!"dropping {flagged} partial window(s)"]
  | .null => [.note .debug s!"nulling {flagged} partial window(s)"]

/-- Resolves the flagged rows of a table of windows. -/
def resolve (policy : Policy) (t : Table) (flags : List Bool) (bounds : List Bounds)
    (aggregated : List Nat) (zone : Zone) : Journaled Error Table :=
  if flags.count true = 0 then pure t
  else ⟨policy.apply t flags bounds aggregated zone, policy.notes (flags.count true)⟩

end Policy

end Cadence
