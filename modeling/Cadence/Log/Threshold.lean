import Cadence.Log.Event

/-! # Thresholds

A threshold says which levels pass: none, or a level and all graver ones. It is
written by its name in any case, or by its number. -/

namespace Cadence.Log

/-- The gravest events come first; each level lets those before it pass, too. -/
def Level.rank : Level → Nat
  | error => 1
  | warn => 2
  | info => 3
  | debug => 4
  | trace => 5

/-- How much passes: nothing, or a level and all graver ones. -/
abbrev Threshold := Option Level

namespace Threshold

def rank (t : Threshold) : Nat := t.elim 0 Level.rank

/-- Whether an event of a level passes. -/
def Admits (t : Threshold) (level : Level) : Prop := level.rank ≤ t.rank

instance (t : Threshold) (level : Level) : Decidable (t.Admits level) :=
  inferInstanceAs (Decidable (_ ≤ _))

/-- The threshold that lets more pass. -/
def max (a b : Threshold) : Threshold := if a.rank ≤ b.rank then b else a

/-- The threshold that lets everything pass that one of some thresholds does. -/
def greatest (ts : List Threshold) : Threshold := ts.foldl max none

/-- The thresholds by name; each has its place in the list as its number. -/
def names : List (String × Threshold) := [
  ("off", none), ("error", some .error), ("warn", some .warn), ("info", some .info),
  ("debug", some .debug), ("trace", some .trace)
]

/-- The number that digits denote, behind a plus sign if there is one. -/
def number? (cs : List Char) : Option Nat :=
  let digits := if cs.head? = some '+' then cs.tail else cs
  if digits.isEmpty ∨ digits.any (!·.isDigit) then none
  else some (digits.foldl (fun n c => 10 * n + (c.toNat - '0'.toNat)) 0)

/-- The threshold of a name in any case, or of a number up to five. -/
def ofChars? (cs : List Char) : Option Threshold :=
  match number? cs with
  | some n => (names[n]?).map (·.2)
  | none => names.lookup (String.ofList (cs.map Char.toLower))

end Threshold

end Cadence.Log
