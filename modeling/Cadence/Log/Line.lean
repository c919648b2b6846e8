import Cadence.Log.Event
import Cadence.Numeric.Decimal
import Cadence.Text.Basic

/-! # Plain log lines

A plain line holds the time, the level, the domain in brackets, the spans from
the outermost one on, the message and the other values. Lines for a terminal are
coloured. -/

namespace Cadence.Log

def Level.name : Level → String
  | error => "ERROR"
  | warn => "WARN"
  | info => "INFO"
  | debug => "DEBUG"
  | trace => "TRACE"

/-- The colour of a level, as a graphic rendition. -/
def Level.colour : Level → String
  | error => "31"
  | warn => "33"
  | info => "32"
  | debug => "34"
  | trace => "35"

/-- A text in a graphic rendition, on a terminal. -/
def paint (terminal : Bool) (rendition text : String) : String :=
  if terminal then s!"\x1b[{rendition}m{text}\x1b[0m" else text

/-- A value as it stands behind its name. -/
def Value.printed : Value → String
  | .text s => Text.quoted s
  | shown s => s
  | natural n => toString n
  | integer n => toString n
  | number bits => (Binary.ofBits bits).text
  | flag b => if b then "true" else "false"

/-- A text without the quotation marks at its ends. -/
def unquoted (s : String) : String :=
  let isMark (c : Char) : Bool := c = '"'
  String.ofList (((s.toList.dropWhile isMark).reverse.dropWhile isMark).reverse)

/-- The lines of a text. A carriage return at the end belongs to the line break. -/
def textLines (s : String) : List String :=
  (s.toList.splitOnP (· = '\n')).map fun cs =>
    String.ofList (if cs.getLast? = some '\r' then cs.dropLast else cs)

namespace Event

/-- Whether a value is the domain or the message, which lines set apart. -/
def isSpecial (name : String) (v : Value) : Bool :=
  match v with
  | .text _ | .shown _ => name = "domain" || name = "message"
  | _ => false

/-- The domain of an event. -/
def domain? (e : Event) : Option String :=
  e.values.findSome? fun v =>
    match v with
    | ("domain", .text s) => some s
    | ("domain", .shown s) => some (unquoted s)
    | _ => none

/-- The values other than the domain and the message. -/
def rest (e : Event) : String :=
  let others := e.values.filter fun v => !isSpecial v.1 v.2
  " ".intercalate (others.map fun v => s!"{v.1}={v.2.printed}")

end Event

namespace Span

/-- A span by its name, with its values between braces. -/
def text (terminal : Bool) (s : Span) : String :=
  let values := s.values.map fun v =>
    paint terminal "3" v.1 ++ paint terminal "2" "=" ++ v.2.printed
  paint terminal "1" s.name ++ "\x7b" ++ " ".intercalate values ++ "\x7d: "

end Span

namespace Event

/-- The line of an event, without its end. -/
def line (e : Event) (time : String) (terminal : Bool) : String :=
  let level := String.ofList (List.replicate (5 - e.level.name.length) ' ') ++ e.level.name
  let domain := e.domain?.elim "" fun d => paint terminal "1;36" ("[" ++ d ++ "]") ++ " "
  let rest := if e.rest = "" then "" else " " ++ paint terminal "3" e.rest
  paint terminal "2" time ++ " " ++ paint terminal e.level.colour level ++ " " ++ domain
    ++ String.join (e.spans.map (Span.text terminal)) ++ e.message ++ rest

end Event

end Cadence.Log
