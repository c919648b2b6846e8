import Cadence.Duration.Parser
import Cadence.TimeAxis
import Cadence.Window.Shift

/-! # Window specifications

How rows are put into windows: by which column, in windows of which length, and
by which columns they are grouped. An offset moves the rows back before their
windows are computed. -/

namespace Cadence

/-- An amount of time by which rows are moved back. -/
structure StartOffset where
  duration : Duration
  span : Span
deriving DecidableEq, Repr

/-- How rows are put into windows. -/
structure WindowSpec where
  timeColumn : String
  every : Duration
  period : Period
  closed : Closed := .left
  label : Label := .left
  offset : Option StartOffset := none
  groupBy : List String := []
deriving DecidableEq, Repr

namespace StartOffset

/-- Whether a text begins with a minus sign, after blanks. -/
def isNegative (text : String) : Bool :=
  (text.toList.dropWhile Text.isBlank).head? == some '-'

/-- Reads an offset, which must not be negative. -/
def parse (text : String) : Except Error StartOffset := do
  if isNegative text then throw (.configuration (.negativeOffset text))
  let duration ← (Duration.parse text).mapError .language
  let span ← duration.span.mapError .language
  return ⟨duration, span⟩

end StartOffset

namespace WindowSpec

/-- Windows of the given length, closed and labelled on the left. -/
def create (timeColumn every : String) : Except Error WindowSpec := do
  let every ← (Duration.parse every).mapError .language
  let period ← Period.ofDuration every
  return { timeColumn, every, period }

/-- The specification with an offset. -/
def withStartOffset (spec : WindowSpec) (text : String) : Except Error WindowSpec := do
  let offset ← StartOffset.parse text
  return { spec with offset := some offset }

/-- The instants that windows are computed from. -/
def shifted (spec : WindowSpec) (axis : TimeAxis) : Except Error (List Int) :=
  match spec.offset with
  | none => .ok axis.instants
  | some offset => axis.instants.mapM (axis.zone.shiftBack offset.span)

/-- The window of an instant. -/
def windowOf (spec : WindowSpec) (zone : Zone) (t : Int) : Except Error Bounds :=
  spec.period.windowOf spec.closed zone t

end WindowSpec

end Cadence
