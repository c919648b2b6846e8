/-! # Binary floating-point numbers

A binary64 number by its parts: a whole number times a power of two. Narrower
formats are reached by rounding to the nearest of their numbers, a tie to the
even one. -/

namespace Cadence

/-- What the bits of a binary64 number say. -/
inductive Binary
  /-- The number `significand * 2 ^ exponent`, or its negative. -/
  | finite (negative : Bool) (significand : Nat) (exponent : Int)
  | infinite (negative : Bool)
  /-- Not a number, with the bits that mark it. -/
  | nan (negative : Bool) (payload : Nat)
deriving DecidableEq, Repr

/-- A narrower format: digits of the significand, and the range of exponents. -/
structure BinaryFormat where
  precision : Nat
  leastExponent : Int
  greatestExponent : Int
deriving DecidableEq, Repr

namespace BinaryFormat

def binary16 : BinaryFormat := ⟨11, -24, 15⟩

def binary32 : BinaryFormat := ⟨24, -149, 127⟩

end BinaryFormat

/-- The quotient of `n` by `d`, rounded to the nearest, a tie to the even one. -/
def roundHalfEven (n d : Nat) : Nat :=
  let q := n / d
  let r := n % d
  if 2 * r < d then q
  else if d < 2 * r then q + 1
  else if q % 2 = 0 then q
  else q + 1

namespace Binary

/-- The value of the sign bit. -/
def signBit : Nat := 9223372036854775808

/-- The value of the first bit of a full significand, which stands for itself and
is not stored. Below it are the bits of the fraction field. -/
def leadingBit : Nat := 4503599627370496

/-- The value of the bit that marks a quiet not-a-number. -/
def quietBit : Nat := 2251799813685248

/-- The parts of a binary64 number. -/
def ofBits (bits : UInt64) : Binary :=
  let n := bits.toNat
  let negative := signBit ≤ n
  let exponent : Nat := n / leadingBit % 2048
  let fraction := n % leadingBit
  if exponent = 2047 then
    if fraction = 0 then infinite negative else nan negative fraction
  else if exponent = 0 then finite negative fraction (-1074)
  else finite negative (leadingBit + fraction) ((exponent : Int) - 1075)

/-- The bits of a sign, an exponent field and a fraction field. -/
def assemble (negative : Bool) (exponent fraction : Nat) : UInt64 :=
  UInt64.ofNat ((if negative then signBit else 0) + exponent * leadingBit + fraction)

/-- The bits of a number that binary64 holds exactly. -/
def toBits : Binary → UInt64
  | infinite negative => assemble negative 2047 0
  | nan negative payload => assemble negative 2047 payload
  | finite negative significand exponent =>
      if significand = 0 then assemble negative 0 0
      else
        let top := significand.log2
        let field := exponent + top + 1023
        if field ≤ 0 then assemble negative 0 (significand <<< (exponent + 1074).toNat)
        else assemble negative field.toNat ((significand * leadingBit) >>> top - leadingBit)

/-- The nearest number of a narrower format. -/
def round (format : BinaryFormat) : Binary → Binary
  | infinite negative => infinite negative
  | nan negative payload =>
      let unit := 1 <<< (53 - format.precision)
      nan negative (payload / unit * unit ||| quietBit)
  | finite negative significand exponent =>
      let wanted := max (exponent + significand.log2 + 1 - format.precision) format.leastExponent
      if wanted ≤ exponent then checked format negative significand exponent
      else
        checked format negative (roundHalfEven significand (1 <<< (wanted - exponent).toNat)) wanted
where
  /-- A number beyond the range of the format is infinite. -/
  checked (format : BinaryFormat) (negative : Bool) (significand : Nat) (exponent : Int) : Binary :=
    if format.greatestExponent < exponent + significand.log2 then infinite negative
    else finite negative significand exponent

end Binary

end Cadence
