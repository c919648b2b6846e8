import Cadence.Text.Basic

/-! # Why a duration or a pattern is refused

The causes, and the one place where they are put into words. -/

namespace Cadence

/-- What is wrong with the text of a duration, or with its size. -/
inductive DurationFault
  | empty
  | leadingLetter
  | missingUnit
  | unpaired
  | leadingZeros (digits : String)
  | oversized (digits : String)
  | unknownUnit (letters : String)
  | outOfRange
deriving DecidableEq, Repr

/-- What is wrong with the shape of a pattern. -/
inductive PatternFault
  | grammar
  | clauseCount (found : Nat)
deriving DecidableEq, Repr

/-- Why a clause cannot count the time past its mark. -/
inductive CascadeFault
  | severalUnits (duration : String)
  | calendarUnit (symbol : String)
  | comparison (symbol : String)
deriving DecidableEq, Repr

/-- A refused text of the duration and pattern language. -/
inductive LanguageError
  | malformedDuration (text : String) (fault : DurationFault)
  | malformedPattern (text : String) (fault : PatternFault)
  | unsupportedCascade (text : String) (fault : CascadeFault)
deriving DecidableEq, Repr

/-- The most clauses a pattern may hold: a lower and an upper bound. -/
def maxClauses : Nat := 2

namespace LanguageError

open Text

def durationReason : DurationFault → String
  | .empty => "empty duration"
  | .leadingLetter => "duration must start with a number"
  | .missingUnit => "missing unit after the last number"
  | .unpaired => "expected alternating numbers and units"
  | .leadingZeros digits => s!"number {digits} has leading zeros"
  | .oversized digits => s!"number {digits} is too large"
  | .unknownUnit letters => s!"unknown unit {quoted letters}"
  | .outOfRange => "duration out of range"

def patternReason : PatternFault → String
  | .grammar => "parse error"
  | .clauseCount found => s!"expected at most {maxClauses} clauses, got {found}"

def cascadeReason : CascadeFault → String
  | .severalUnits duration => s!"cascade needs a single unit, got \"{duration}\""
  | .calendarUnit symbol =>
      s!"cannot cascade on unit {quoted symbol}, only sub-day units"
  | .comparison symbol => s!"cascade requires > or >=, got {symbol}"

def message : LanguageError → String
  | malformedDuration text fault =>
      s!"malformed duration {quoted text}: {durationReason fault}"
  | malformedPattern text fault =>
      s!"malformed time pattern {quoted text}: {patternReason fault}"
  | unsupportedCascade text fault =>
      s!"unsupported cascade rule {quoted text}: {cascadeReason fault}"

end LanguageError

end Cadence
