import Cadence.Numeric.Binary

/-! # Shortest decimals

The decimal with the fewest digits among those that are read back as a given
binary64 number, and of these the nearest one. It is written out positionally.
Decimals that are too great for binary64 are read as infinity. -/

namespace Cadence

/-- The decimal `digits * 10 ^ exponent`. -/
structure Decimal where
  digits : Nat
  exponent : Int
deriving DecidableEq, Repr

/-- A fraction of natural numbers. -/
structure Fraction where
  num : Nat
  den : Nat
deriving DecidableEq, Repr

namespace Fraction

/-- The fraction `n * base ^ exponent`. -/
def scaled (n base : Nat) (exponent : Int) : Fraction :=
  if 0 ≤ exponent then ⟨n * Nat.pow base exponent.toNat, 1⟩
  else ⟨n, Nat.pow base (-exponent).toNat⟩

def Le (a b : Fraction) : Prop := a.num * b.den ≤ b.num * a.den

def Lt (a b : Fraction) : Prop := a.num * b.den < b.num * a.den

instance (a b : Fraction) : Decidable (a.Le b) := inferInstanceAs (Decidable (_ ≤ _))

instance (a b : Fraction) : Decidable (a.Lt b) := inferInstanceAs (Decidable (_ < _))

end Fraction

/-- The numbers that are read as one binary64 number. -/
structure ReadingInterval where
  lower : Fraction
  value : Fraction
  upper : Fraction
  /-- Whether the ends are read so, too. -/
  closed : Bool
deriving DecidableEq, Repr

namespace ReadingInterval

/-- The interval around a positive number. Below a power of two the next number
is half as far away as above it. -/
def around (significand : Nat) (exponent : Int) : ReadingInterval :=
  let below := if significand = Binary.leadingBit ∧ -1074 < exponent then 1 else 2
  { lower := .scaled (4 * significand - below) 2 (exponent - 2)
    value := .scaled (4 * significand) 2 (exponent - 2)
    upper := .scaled (4 * significand + 2) 2 (exponent - 2)
    closed := significand % 2 = 0 }

def Contains (i : ReadingInterval) (x : Fraction) : Prop :=
  if i.closed then i.lower.Le x ∧ x.Le i.upper else i.lower.Lt x ∧ x.Lt i.upper

instance (i : ReadingInterval) (x : Fraction) : Decidable (i.Contains x) := by
  unfold Contains
  split <;> infer_instance

end ReadingInterval

namespace Decimal

def fraction (d : Decimal) : Fraction := .scaled d.digits 10 d.exponent

/-- The least number that is read as infinity: half a unit above the greatest
binary64 number. -/
def beyond : Fraction := ⟨18014398509481983 <<< 970, 1⟩

/-- Whether a decimal is read as infinity. Its digits before the point decide,
unless there are as many as in the least such number. -/
def isInfinite (d : Decimal) : Bool :=
  let places := (Nat.toDigits 10 d.digits).length + d.exponent
  d.digits ≠ 0 && (309 < places || (places = 309 && decide (beyond.Le d.fraction)))

/-- The number of zeros behind the point, for a fraction below one. -/
def leadingZeros : Nat → Fraction → Nat
  | 0, _ => 0
  | fuel + 1, x =>
      if x.num * 10 < x.den then leadingZeros fuel ⟨x.num * 10, x.den⟩ + 1 else 0

/-- The position of the first digit before the point, counted from one; negative
numbers count the zeros behind the point. -/
def magnitude (x : Fraction) : Int :=
  if x.den ≤ x.num then (Nat.toDigits 10 (x.num / x.den)).length
  else -(leadingZeros 400 x : Nat)

/-- The neighbours of a value on the grid of decimals with an exponent. -/
def neighbours (x : Fraction) (exponent : Int) : Decimal × Decimal :=
  let unit := Fraction.scaled 1 10 exponent
  let below := x.num * unit.den / (x.den * unit.num)
  (⟨below, exponent⟩, ⟨below + 1, exponent⟩)

/-- Whether the upper of two neighbours is at least as near as the lower one. -/
def prefersUpper (x : Fraction) (lower upper : Decimal) : Bool :=
  let a := lower.fraction
  let b := upper.fraction
  -- twice the value against the sum of both
  decide (x.den * (a.num * b.den + b.num * a.den) ≤ 2 * x.num * a.den * b.den)

/-- The decimal of a grid that is read back, if there is one: the nearer one, and
of two equally near ones the greater. -/
def onGrid? (i : ReadingInterval) (exponent : Int) : Option Decimal :=
  let (lower, upper) := neighbours i.value exponent
  if i.Contains lower.fraction then
    if i.Contains upper.fraction ∧ prefersUpper i.value lower upper then some upper
    else some lower
  else if i.Contains upper.fraction then some upper
  else none

/-- A decimal without its last digit, if that is a zero. -/
def dropZero (d : Decimal) : Decimal :=
  if d.digits % 10 = 0 then ⟨d.digits / 10, d.exponent + 1⟩ else d

/-- The shortest decimal of a positive number. Seventeen digits always do. The
upper neighbour on the first grid may be a ten, which has one digit too many. -/
def shortest (significand : Nat) (exponent : Int) : Decimal :=
  let i := ReadingInterval.around significand exponent
  let top := magnitude i.value
  (((List.range 17).findSome? fun n : Nat => onGrid? i (top - 1 - n)).map dropZero).getD ⟨0, 0⟩

/-- A decimal written out with all its places. -/
def text (d : Decimal) : String :=
  let digits := Nat.toDigits 10 d.digits
  if 0 ≤ d.exponent then String.ofList (digits ++ List.replicate d.exponent.toNat '0')
  else
    let places := (-d.exponent).toNat
    let padded := List.replicate (places + 1 - digits.length) '0' ++ digits
    let (whole, part) := padded.splitAt (padded.length - places)
    String.ofList (whole ++ '.' :: part)

end Decimal

namespace Binary

/-- A number in the fewest digits that are read back as it. -/
def text : Binary → String
  | nan _ _ => "NaN"
  | infinite negative => if negative then "-inf" else "inf"
  | finite negative significand exponent =>
      let digits := if significand = 0 then "0" else (Decimal.shortest significand exponent).text
      if negative then "-" ++ digits else digits

end Binary

end Cadence
