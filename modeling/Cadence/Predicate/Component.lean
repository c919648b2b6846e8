import Cadence.Calendar.Reading
import Cadence.Duration.Unit

/-! # Fields of a reading

The calendar and clock fields that a predicate compares. Milliseconds,
microseconds and nanoseconds are the fraction of the current second in that
unit; the last two fields are what remains below a millisecond or a
microsecond. -/

namespace Cadence

/-- A calendar or clock field. -/
inductive Component
  | year
  | quarter
  | month
  | isoWeek
  | day
  | hour
  | minute
  | second
  | millisecond
  | microsecond
  | nanosecond
  | nanosOfMillisecond
  | nanosOfMicrosecond
deriving DecidableEq, Repr

namespace Component

/-- Every field, from the longest to the shortest. -/
def all : List Component :=
  [year, quarter, month, isoWeek, day, hour, minute, second, millisecond, microsecond,
    nanosecond, nanosOfMillisecond, nanosOfMicrosecond]

def name : Component → String
  | year => "year"
  | quarter => "quarter"
  | month => "month"
  | isoWeek => "week"
  | day => "day"
  | hour => "hour"
  | minute => "minute"
  | second => "second"
  | millisecond => "millisecond"
  | microsecond => "microsecond"
  | nanosecond => "nanosecond"
  | nanosOfMillisecond => "nanos_of_millisecond"
  | nanosOfMicrosecond => "nanos_of_microsecond"

/-- The value of a field at a reading. -/
def value (r : Reading) : Component → Int
  | year => r.date.year
  | quarter => (r.date.month - 1) / 3 + 1
  | month => r.date.month
  | isoWeek => Date.isoWeek r.dayNumber
  | day => r.date.day
  | hour => r.hour
  | minute => r.minute
  | second => r.second
  | millisecond => r.nanosOfSecond / 1000000
  | microsecond => r.nanosOfSecond / 1000
  | nanosecond => r.nanosOfSecond
  | nanosOfMillisecond => r.nanosOfSecond % 1000000
  | nanosOfMicrosecond => r.nanosOfSecond % 1000

end Component

/-- The field that a unit is compared with. -/
def TimeUnit.component : TimeUnit → Component
  | nanosecond => .nanosecond
  | microsecond => .microsecond
  | millisecond => .millisecond
  | second => .second
  | minute => .minute
  | hour => .hour
  | day => .day
  | week => .isoWeek
  | month => .month
  | quarter => .quarter
  | year => .year

/-- The fields of which one is positive exactly when time has passed since the
last full unit. -/
def TimeUnit.finer : TimeUnit → List Component
  | hour => [.minute, .second, .nanosecond]
  | minute => [.second, .nanosecond]
  | second => [.nanosecond]
  | millisecond => [.nanosOfMillisecond]
  | microsecond => [.nanosOfMicrosecond]
  | _ => []

end Cadence
