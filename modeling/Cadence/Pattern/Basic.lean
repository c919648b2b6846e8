import Cadence.Duration.Basic
import Cadence.Pattern.Comparison

/-! # Time patterns

A pattern holds one rule, or two rules that must both hold. A simple rule
compares calendar fields one by one; a cascading rule compares the time that
has passed since the start of the enclosing unit. -/

namespace Cadence

/-- How a rule compares. -/
inductive Mode
  | simple
  | cascade
deriving DecidableEq, Repr

/-- One classified clause of a pattern. -/
structure Rule where
  comparison : Comparison
  duration : Duration
  mode : Mode
deriving DecidableEq, Repr

/-- A pattern together with the text it was read from. -/
structure Pattern where
  source : String
  rules : List Rule
deriving DecidableEq, Repr

namespace Rule

def chars (r : Rule) : List Char :=
  r.comparison.chars ++ r.duration.chars ++
    match r.mode with
    | .simple => []
    | .cascade => ['*']

/-- A rule as it is written. -/
def text (r : Rule) : String := String.ofList r.chars

end Rule

end Cadence
