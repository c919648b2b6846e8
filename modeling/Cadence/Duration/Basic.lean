import Cadence.Duration.Unit
import Cadence.Duration.Error
import Cadence.Numeric.Counter

/-! # Durations

A duration is a list of counted units in the order in which they were written.
It is never normalised: `25h` stays 25 hours. Its span adds the parts up into
the counters of date arithmetic. -/

namespace Cadence

/-- A number of units. The number fits an unsigned 64-bit word. -/
structure Duration.Part where
  count : Nat
  spelling : Spelling
  count_lt : count < wordSize
deriving DecidableEq, Repr

/-- A duration such as `3d12h4m25s`. -/
structure Duration where
  parts : List Duration.Part
deriving DecidableEq, Repr

/-- A duration as counters: months, weeks and days follow the calendar,
nanoseconds are elapsed time. -/
structure Span where
  months : Int
  weeks : Int
  days : Int
  nanos : Int
deriving DecidableEq, Repr

namespace Span

def zero : Span := ⟨0, 0, 0, 0⟩

/-- Made of units shorter than a day only. -/
def IsFixed (x : Span) : Prop := x.months = 0 ∧ x.weeks = 0 ∧ x.days = 0

instance (x : Span) : Decidable x.IsFixed :=
  inferInstanceAs (Decidable (x.months = 0 ∧ x.weeks = 0 ∧ x.days = 0))

def IsZero (x : Span) : Prop := x.IsFixed ∧ x.nanos = 0

instance (x : Span) : Decidable x.IsZero :=
  inferInstanceAs (Decidable (x.IsFixed ∧ x.nanos = 0))

/-- A counter of a span. -/
inductive Field
  | months
  | weeks
  | days
  | nanos
deriving DecidableEq, Repr

def get (x : Span) : Field → Int
  | .months => x.months
  | .weeks => x.weeks
  | .days => x.days
  | .nanos => x.nanos

def set (x : Span) (n : Int) : Field → Span
  | .months => { x with months := n }
  | .weeks => { x with weeks := n }
  | .days => { x with days := n }
  | .nanos => { x with nanos := n }

end Span

/-- The counter that a unit adds to. -/
def TimeUnit.field : TimeUnit → Span.Field
  | month | quarter | year => .months
  | week => .weeks
  | day => .days
  | _ => .nanos

/-- How much one unit adds to its counter. -/
def TimeUnit.factor : TimeUnit → Int
  | month => 1
  | quarter => 3
  | year => 12
  | week => 1
  | day => 1
  | hour => 3600000000000
  | minute => 60000000000
  | second => 1000000000
  | millisecond => 1000000
  | microsecond => 1000
  | nanosecond => 1

namespace Duration

namespace Part

/-- A part in the usual spelling of its unit. -/
def ofUnit (count : Nat) (unit : TimeUnit) (h : count < wordSize) : Part :=
  ⟨count, unit.spelling, h⟩

def unit (p : Part) : TimeUnit := p.spelling.unit

/-- The part as written: its number, then its unit. -/
def chars (p : Part) : List Char := Nat.toDigits 10 p.count ++ p.spelling.chars

def text (p : Part) : String := String.ofList p.chars

/-- The same unit `factor` times as often. -/
def scale? (p : Part) (factor : Nat) : Option Part :=
  if h : p.count * factor < wordSize then some ⟨p.count * factor, p.spelling, h⟩ else none

/-- Adds one part to the counters, each step within the range of a counter. -/
def addTo? (x : Span) (p : Part) : Option Span := do
  let n ← Counter.fit? p.count
  let amount ← Counter.fit? (n * p.unit.factor)
  let total ← Counter.fit? (x.get p.unit.field + amount)
  return x.set total p.unit.field

end Part

def chars (d : Duration) : List Char := d.parts.flatMap Part.chars

/-- A duration as it was written. -/
def text (d : Duration) : String := String.ofList d.chars

/-- Every number is zero. -/
def IsZero (d : Duration) : Prop := ∀ p ∈ d.parts, p.count = 0

instance (d : Duration) : Decidable d.IsZero :=
  inferInstanceAs (Decidable (∀ p ∈ d.parts, p.count = 0))

/-- The refusal of a duration whose numbers leave the range. -/
def outOfRange (d : Duration) : LanguageError := .malformedDuration d.text .outOfRange

/-- The counters of a duration, added up part by part. -/
def span (d : Duration) : Except LanguageError Span :=
  (d.parts.foldlM Part.addTo? Span.zero).elim (.error d.outOfRange) .ok

/-- Every number multiplied by `factor`. -/
def scale (d : Duration) (factor : Nat) : Except LanguageError Duration :=
  (d.parts.mapM fun p : Part => p.scale? factor).elim (.error d.outOfRange) fun parts => .ok ⟨parts⟩

end Duration

end Cadence
