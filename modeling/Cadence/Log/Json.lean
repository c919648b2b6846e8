import Cadence.Log.Line
import Cadence.Text.Basic

/-! # Structured log lines

An event as one JSON object: its time and level, its values, the innermost span
and all spans from the outermost one on. -/

namespace Cadence.Log.Json

/-- A character inside a text. -/
def escaped (c : Char) : String :=
  match c with
  | '"' => "\\\""
  | '\\' => "\\\\"
  | '\n' => "\\n"
  | '\r' => "\\r"
  | '\t' => "\\t"
  | '\x08' => "\\b"
  | '\x0c' => "\\f"
  | c => if c.toNat < 32 then "\\u" ++ Text.paddedIn 16 4 c.toNat else c.toString

/-- A text between quotation marks. -/
def text (s : String) : String := "\"" ++ String.join (s.toList.map escaped) ++ "\""

/-- A number with a point or without; what is not a number is null. -/
def number : Binary → String
  | .finite negative significand exponent =>
      let digits := (Binary.finite negative significand exponent).text
      if '.' ∈ digits.toList then digits else digits ++ ".0"
  | _ => "null"

def value : Value → String
  | .text s | .shown s => text s
  | .natural n => toString n
  | .integer n => toString n
  | .number bits => number (Binary.ofBits bits)
  | .flag b => if b then "true" else "false"

/-- An object of members that are already written. -/
def object (members : List (String × String)) : String :=
  "\x7b" ++ ",".intercalate (members.map fun m => text m.1 ++ ":" ++ m.2) ++ "\x7d"

def array (items : List String) : String := "[" ++ ",".intercalate items ++ "]"

/-- Values under their names. -/
def members (values : List (String × Value)) : List (String × String) :=
  values.map fun v => (v.1, value v.2)

def span (s : Span) : String := object (members s.values ++ [("name", text s.name)])

/-- The line of an event, without its end. -/
def line (e : Event) (time : String) : String :=
  let spans :=
    match e.spans.getLast? with
    | none => []
    | some inner => [("span", span inner), ("spans", array (e.spans.map span))]
  object ([("timestamp", text time), ("level", text e.level.name),
    ("fields", object (members e.values))] ++ spans)

end Cadence.Log.Json
