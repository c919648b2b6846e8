import Cadence.Zone.Database

/-! # Reading zones

A zone is written as an offset, `+HH:MM`, `+HHMM` or `+HH` with either sign, or
by its name in a database. -/

namespace Cadence.Zone

/-- The number written by two ASCII digits. -/
def twoDigits? (a b : Char) : Option Int :=
  if a.isDigit ∧ b.isDigit then some (Nat.ofDigitChars 10 [a, b] 0) else none

/-- An offset of hours and minutes, in seconds. The minutes may be any two
digits, but the whole stays below a day. -/
def offsetSeconds? (sign h₁ h₂ m₁ m₂ : Char) : Option Int := do
  let hours ← twoDigits? h₁ h₂
  let minutes ← twoDigits? m₁ m₂
  let seconds := hours * 3600 + minutes * 60
  if 86400 ≤ seconds then none
  else if sign = '+' then some seconds
  else if sign = '-' then some (-seconds)
  else none

/-- The offset written by a text, in seconds. -/
def offsetOfChars? : List Char → Option Int
  | [sign, h₁, h₂, ':', m₁, m₂] => offsetSeconds? sign h₁ h₂ m₁ m₂
  | [sign, h₁, h₂, m₁, m₂] => offsetSeconds? sign h₁ h₂ m₁ m₂
  | [sign, h₁, h₂] => offsetSeconds? sign h₁ h₂ '0' '0'
  | _ => none

variable [Database]

/-- The zone that a text stands for. -/
def ofText? (s : String) : Option Zone :=
  match offsetOfChars? s.toList with
  | some seconds => some (ofSeconds seconds [])
  | none => Database.named? s

/-- The zone of an optional label; without one the clock shows the common
time line. -/
def ofLabel? : Option String → Option Zone
  | none => some (fixed 0)
  | some s => ofText? s

end Cadence.Zone
