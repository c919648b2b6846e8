import Cadence.Error
import Cadence.Journal
import Cadence.Table.Cell

/-! # Segments

A segment is a run of equal neighbours, as a range of rows. A mask selects rows:
those that are not selected end a run and belong to none. -/

namespace Cadence

/-- The rows from `first` up to, but not including, `stop`. -/
structure Segment where
  first : Nat
  stop : Nat
deriving DecidableEq, Repr

namespace Segment

/-- The runs of equal neighbours in a list whose first row has the number `start`,
each with its value. -/
def runs {α : Type} [DecidableEq α] (start : Nat) : List α → List (α × Segment)
  | [] => []
  | x :: rest =>
      match runs (start + 1) rest with
      | (y, s) :: others =>
          if x = y then (x, ⟨start, s.stop⟩) :: others
          else (x, ⟨start, start + 1⟩) :: (y, s) :: others
      | [] => [(x, ⟨start, start + 1⟩)]

/-- The runs of a list. -/
def ofCells (values : List Cell) : List Segment := (runs 0 values).map (·.2)

/-- The runs of the selected rows. -/
def ofMasked (values mask : List Cell) : List Segment :=
  ((runs 0 (values.zip mask)).filter fun run => run.1.2 = .flag true).map (·.2)

/-- What is noted of masked segments. -/
def note (rows : Nat) (segments : List Segment) : Log.Event :=
  .note .debug s!"{segments.length} masked segments over {rows} rows"

/-- The segments of a column, among the rows that a mask selects. -/
def find (values : List Cell) (mask : Option (List Cell)) : Journaled Error (List Segment) :=
  match mask with
  | none => pure (ofCells values)
  | some mask =>
      if mask.length = values.length then
        .noting (.ok (ofMasked values mask)) (note values.length)
      else .fail (.data (.maskLength mask.length values.length))

end Segment

end Cadence
