import Cadence.Duration.Basic
import Cadence.Scan

/-! # Reading durations

A duration is read in two steps: its text is cut into numbers and words, and
each pair becomes a counted unit. A few faults are told apart beforehand, so
that the most telling one is reported. -/

namespace Cadence.Duration

open Text

/-- Cuts a text into alternating digits and letters, or fails where the
alternation breaks. -/
def pairs? (cs : List Char) : Option (List (List Char × List Char)) :=
  match hd : Scan.digits? cs with
  | none => none
  | some (digits, afterDigits) =>
      have := Scan.length_lt_of_run? hd
      match hl : Scan.letters? afterDigits with
      | none => none
      | some (letters, rest) =>
          have := Scan.length_lt_of_run? hl
          if rest.isEmpty then some [(digits, letters)]
          else (pairs? rest).map ((digits, letters) :: ·)
termination_by cs.length

/-- Reads one number with its unit. -/
def Part.ofPair (digits letters : List Char) : Except DurationFault Part :=
  if 1 < digits.length ∧ digits.head? = some '0' then
    .error (.leadingZeros (String.ofList digits))
  else if h : Nat.ofDigitChars 10 digits 0 < wordSize then
    match Spelling.ofChars? letters with
    | some spelling => .ok ⟨Nat.ofDigitChars 10 digits 0, spelling, h⟩
    | none => .error (.unknownUnit (String.ofList letters))
  else .error (.oversized (String.ofList digits))

/-- Reads the characters of a duration. -/
def ofChars (cs : List Char) : Except DurationFault Duration :=
  if cs.isEmpty then .error .empty
  else if cs.head?.any isAlphabetic then .error .leadingLetter
  else if cs.getLast?.any Char.isDigit then .error .missingUnit
  else
    match pairs? cs with
    | none => .error .unpaired
    | some pairs => do
        let parts ← pairs.mapM fun p => Part.ofPair p.1 p.2
        return ⟨parts⟩

/-- Reads a duration; a refusal names the text. -/
def parse (s : String) : Except LanguageError Duration :=
  (ofChars s.toList).mapError (.malformedDuration s)

end Cadence.Duration
