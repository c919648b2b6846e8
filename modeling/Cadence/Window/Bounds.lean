import Cadence.Choice
import Cadence.Error

/-! # Window bounds

A window is a stretch between two instants. One of its ends belongs to it. -/

namespace Cadence

/-- The end that belongs to a window. -/
inductive Closed
  | left
  | right
deriving DecidableEq, Repr

instance : Choice Closed where
  what := "closed boundary"
  all := [.left, .right]
  name
    | .left => "left"
    | .right => "right"

/-- The instant that stands for a window. -/
inductive Label
  | left
  | right
  /-- The first instant of the window, on the shifted time line. -/
  | datapoint
deriving DecidableEq, Repr

instance : Choice Label where
  what := "label strategy"
  all := [.left, .right, .datapoint]
  name
    | .left => "left"
    | .right => "right"
    | .datapoint => "datapoint"

/-- The two ends of a window. -/
structure Bounds where
  lower : Int
  upper : Int
deriving DecidableEq, Repr

namespace Bounds

/-- The time between the ends. -/
def elapsed (b : Bounds) : Int := b.upper - b.lower

/-- Whether an instant belongs to the window. -/
def Contains (b : Bounds) (closed : Closed) (t : Int) : Prop :=
  match closed with
  | .left => b.lower ≤ t ∧ t < b.upper
  | .right => b.lower < t ∧ t ≤ b.upper

instance (b : Bounds) (closed : Closed) (t : Int) : Decidable (b.Contains closed t) := by
  unfold Contains
  cases closed <;> infer_instance

end Bounds

/-- The label of a window whose first instant is `first`. -/
def Label.instant (label : Label) (b : Bounds) (first : Int) : Int :=
  match label with
  | .left => b.lower
  | .right => b.upper
  | .datapoint => first

end Cadence
