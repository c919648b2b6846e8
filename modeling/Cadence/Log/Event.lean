/-! # Log events

An event has a level, named values in the order in which they were recorded,
and the spans it happened in. Two names are special to the plain line format:
`domain` and `message`. -/

namespace Cadence.Log

/-- How grave an event is. -/
inductive Level
  | error
  | warn
  | info
  | debug
  | trace
deriving DecidableEq, Repr

/-- A recorded value. -/
inductive Value
  /-- A text, to be quoted. -/
  | text (s : String)
  /-- Anything by its printed form. -/
  | shown (s : String)
  | natural (n : Nat)
  | integer (n : Int)
  /-- A floating-point number, by its bits. -/
  | number (bits : UInt64)
  | flag (b : Bool)
deriving DecidableEq, Repr

/-- A stretch of work with a name and values of its own. -/
structure Span where
  name : String
  values : List (String × Value)
  level : Level := .info
deriving DecidableEq, Repr

/-- Something that happened. -/
structure Event where
  level : Level
  values : List (String × Value)
  spans : List Span := []
deriving DecidableEq, Repr

namespace Event

/-- An event with a message only. -/
def note (level : Level) (message : String) : Event :=
  ⟨level, [("message", .shown message)], []⟩

/-- An event of a domain, with its message before its other values. -/
def ofDomain (level : Level) (domain message : String) (values : List (String × Value)) :
    Event :=
  ⟨level, ("domain", .text domain) :: ("message", .shown message) :: values, []⟩

/-- Whether an event belongs to a domain. -/
def hasDomain (e : Event) : Bool := e.values.any (·.1 = "domain")

/-- The printed message of a note. -/
def message (e : Event) : String :=
  match e.values.lookup "message" with
  | some (.shown s) | some (.text s) => s
  | _ => ""

end Event

end Cadence.Log
