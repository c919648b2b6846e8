import Cadence.Pattern.Parser
import Cadence.Predicate.Basic

/-! # Predicates of patterns

A rule becomes a predicate over the fields of a reading. A cascading rule holds
past its mark: the field equals the mark and some finer field is positive, or
the field itself compares. A list of patterns keeps the readings that none of
them matches. -/

namespace Cadence

namespace Duration.Part

/-- Compares the field of a part with its number. -/
def compared (op : Comparison) (p : Part) : Predicate :=
  .compare p.unit.component op (Counter.clamp p.count)

/-- Compares the time since the start of the enclosing unit with a mark. -/
def cascaded (op : Comparison) (p : Part) : Predicate :=
  let finer := p.unit.finer.map fun c => Predicate.compare c .gt 0
  .disj [.conj [.anyOf finer, p.compared .eq], p.compared op]

end Duration.Part

/-- The readings that a rule matches. -/
def Rule.predicate (r : Rule) : Predicate :=
  match r.mode with
  | .simple => .allOf (r.duration.parts.map (Duration.Part.compared r.comparison))
  | .cascade =>
      match r.duration.parts with
      | part :: _ => part.cascaded r.comparison
      | [] => .literal false

/-- The readings that all rules of a pattern match. -/
def Pattern.predicate (p : Pattern) : Predicate := .allOf (p.rules.map Rule.predicate)

/-- The readings that none of the patterns matches. -/
def Pattern.keep (patterns : List Pattern) : Predicate :=
  if patterns.isEmpty then .literal true
  else .negation (.anyOf (patterns.map Pattern.predicate))

/-- Reads patterns and tells which readings to keep. -/
def Pattern.compile (sources : List String) : Except LanguageError Predicate := do
  let patterns ← sources.mapM Pattern.parse
  return Pattern.keep patterns

end Cadence
