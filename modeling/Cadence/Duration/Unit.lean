/-! # Units of time

The eleven units of a duration and their spellings. Microseconds have two
spellings, and a duration keeps the one it was written with. -/

namespace Cadence

/-- A unit of time. -/
inductive TimeUnit
  | nanosecond
  | microsecond
  | millisecond
  | second
  | minute
  | hour
  | day
  | week
  | month
  | quarter
  | year
deriving DecidableEq, Repr

/-- A way to write a unit. -/
inductive Spelling
  | ns
  | us
  | microSign
  | ms
  | s
  | m
  | h
  | d
  | w
  | mo
  | q
  | y
deriving DecidableEq, Repr

namespace TimeUnit

/-- The length in nanoseconds of a unit shorter than a day. Days and longer
units follow the calendar and have no fixed length. -/
def nanos? : TimeUnit → Option Int
  | nanosecond => some 1
  | microsecond => some 1000
  | millisecond => some 1000000
  | second => some 1000000000
  | minute => some 60000000000
  | hour => some 3600000000000
  | day | week | month | quarter | year => none

/-- A unit shorter than a day. -/
def isSubDay (u : TimeUnit) : Bool := u.nanos?.isSome

/-- The usual spelling of a unit. -/
def spelling : TimeUnit → Spelling
  | nanosecond => .ns
  | microsecond => .us
  | millisecond => .ms
  | second => .s
  | minute => .m
  | hour => .h
  | day => .d
  | week => .w
  | month => .mo
  | quarter => .q
  | year => .y

end TimeUnit

namespace Spelling

/-- Every spelling. -/
def all : List Spelling := [ns, us, microSign, ms, s, m, h, d, w, mo, q, y]

def unit : Spelling → TimeUnit
  | ns => .nanosecond
  | us | microSign => .microsecond
  | ms => .millisecond
  | s => .second
  | m => .minute
  | h => .hour
  | d => .day
  | w => .week
  | mo => .month
  | q => .quarter
  | y => .year

/-- The letters of a spelling. -/
def chars : Spelling → List Char
  | ns => ['n', 's']
  | us => ['u', 's']
  | microSign => ['µ', 's']
  | ms => ['m', 's']
  | s => ['s']
  | m => ['m']
  | h => ['h']
  | d => ['d']
  | w => ['w']
  | mo => ['m', 'o']
  | q => ['q']
  | y => ['y']

def symbol (x : Spelling) : String := String.ofList x.chars

/-- The spelling with these letters. -/
def ofChars? (letters : List Char) : Option Spelling :=
  all.find? fun x => x.chars == letters

theorem ofChars?_chars (x : Spelling) : ofChars? x.chars = some x := by
  cases x <;> decide

theorem eq_chars_of_ofChars? {letters : List Char} {x : Spelling}
    (h : ofChars? letters = some x) : letters = x.chars := by
  have := List.find?_some h
  simpa using Eq.symm (by simpa using this)

end Spelling

end Cadence
