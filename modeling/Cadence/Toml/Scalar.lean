import Cadence.Calendar.Date
import Cadence.Numeric.Decimal
import Cadence.Settings.Setting
import Cadence.Toml.Text

/-! # Unquoted values of TOML

Truth values, numbers, dates and times are written without quotes. Integers have
128 bits, and floating-point numbers are those of binary64. A date or a time is
read as a record with one entry, which holds its usual form. -/

namespace Cadence.Toml

/-- Digits of a base, with single underscores between them. -/
def isDigitRun (isDigit : Char → Bool) : List Char → Bool
  | [] => false
  | [c] => isDigit c
  | c :: '_' :: rest => isDigit c && isDigitRun isDigit rest
  | c :: rest => isDigit c && isDigitRun isDigit rest

/-- The number that digits of a base denote. -/
def numeral (base : Nat) (cs : List Char) : Nat :=
  (cs.filterMap hexDigit?).foldl (fun n d => base * n + d) 0

/-- The text behind a sign, if there is one. -/
def dropSign : List Char → List Char
  | '+' :: rest => rest
  | '-' :: rest => rest
  | rest => rest

/-- The number that decimal digits denote, behind a sign if there is one. -/
def signed (cs : List Char) : Int :=
  let n : Int := numeral 10 (dropSign cs)
  if cs.head? = some '-' then -n else n

/-- Decimal digits that do not begin with a needless zero. -/
def isDecimal : List Char → Bool
  | ['0'] => true
  | '0' :: _ => false
  | cs => isDigitRun Char.isDigit cs

/-- The number that digits of a base denote, if there are no others. -/
def digits? (base : Nat) (isDigit : Char → Bool) (cs : List Char) : Option Int :=
  if isDigitRun isDigit cs then some (numeral base cs) else none

def integer? : List Char → Option Int
  | '0' :: 'x' :: rest => digits? 16 (fun c => (hexDigit? c).isSome) rest
  | '0' :: 'o' :: rest => digits? 8 (fun c => '0' ≤ c && c ≤ '7') rest
  | '0' :: 'b' :: rest => digits? 2 (fun c => c = '0' || c = '1') rest
  | cs => if isDecimal (dropSign cs) then some (signed cs) else none

/-- Whether an integer has 128 bits, with a sign or without. -/
def isWide (n : Int) : Bool :=
  -170141183460469231731687303715884105728 ≤ n && n ≤ 340282366920938463463374607431768211455

/-- The exponent of a floating-point number; without one it is zero. -/
def exponent? : List Char → Option Int
  | [] => some 0
  | c :: rest =>
      if (c = 'e' || c = 'E') && isDigitRun Char.isDigit (dropSign rest) then some (signed rest)
      else none

/-- Digits and the underscores between them. -/
def isPlace (c : Char) : Bool := c.isDigit || c = '_'

/-- The decimal that begins with some whole digits. -/
def decimalFrom? (whole : List Char) : List Char → Option Decimal
  | '.' :: rest => do
      let places := rest.takeWhile isPlace
      if isDigitRun Char.isDigit places then
        let exponent ← exponent? (rest.dropWhile isPlace)
        return ⟨numeral 10 (whole ++ places), exponent - places.countP Char.isDigit⟩
      else none
  | rest => (exponent? rest).map fun exponent => ⟨numeral 10 whole, exponent⟩

/-- The decimal that a floating-point number denotes but for its sign. -/
def decimal? (cs : List Char) : Option Decimal :=
  if isDecimal (cs.takeWhile isPlace) then
    decimalFrom? (cs.takeWhile isPlace) (cs.dropWhile isPlace)
  else none

/-- Whether a text is a floating-point number. Infinity has a name of its own and
is not written with digits. -/
def isFloat (cs : List Char) : Bool :=
  let cs := dropSign cs
  cs = ['i', 'n', 'f'] || cs = ['n', 'a', 'n'] || (decimal? cs).any (!·.isInfinite)

/-! ### Dates and times -/

/-- The number written with two digits, if it is at most `most`. -/
def twoDigits? (most : Nat) (a b : Char) : Option Nat :=
  if a.isDigit ∧ b.isDigit then
    let n := 10 * (a.toNat - '0'.toNat) + (b.toNat - '0'.toNat)
    if n ≤ most then some n else none
  else none

/-- A date at the front, and the rest. -/
def date? : List Char → Option (List Char × List Char)
  | a :: b :: c :: d :: '-' :: e :: f :: '-' :: g :: h :: rest => do
      let century ← twoDigits? 99 a b
      let year ← twoDigits? 99 c d
      let month ← twoDigits? 12 e f
      let day ← twoDigits? 31 g h
      let index : Int := 12 * (100 * century + year) + month - 1 - 12 * 1970
      if 1 ≤ month ∧ 1 ≤ day ∧ day ≤ Date.daysInMonth index then
        some ([a, b, c, d, '-', e, f, '-', g, h], rest)
      else none
  | _ => none

/-- Digits behind a point, of which nine count, without the zeros at their end. -/
def places (digits : List Char) : List Char :=
  match ((digits.take 9).reverse.dropWhile (· = '0')).reverse with
  | [] => []
  | digits => '.' :: digits

/-- The fraction of a second at the front, if there is one, and the rest. -/
def fraction? : List Char → Option (List Char × List Char)
  | '.' :: c :: rest =>
      let digits := (c :: rest).takeWhile Char.isDigit
      if c.isDigit then some (places digits, rest.dropWhile Char.isDigit) else none
  | ['.'] => none
  | rest => some ([], rest)

/-- A time of day at the front, and the rest. Seconds that are left out are zero. -/
def time? : List Char → Option (List Char × List Char)
  | a :: b :: ':' :: c :: d :: ':' :: e :: f :: rest => do
      let _ ← twoDigits? 23 a b
      let _ ← twoDigits? 59 c d
      let _ ← twoDigits? 60 e f
      let (places, rest) ← fraction? rest
      return ([a, b, ':', c, d, ':', e, f] ++ places, rest)
  | a :: b :: ':' :: c :: d :: rest => do
      let _ ← twoDigits? 23 a b
      let _ ← twoDigits? 59 c d
      return ([a, b, ':', c, d, ':', '0', '0'], rest)
  | _ => none

/-- The offset of a zone, or nothing. An offset of zero is positive. -/
def offset? : List Char → Option (List Char)
  | [] => some []
  | ['Z'] | ['z'] => some ['Z']
  | [sign, a, b, ':', c, d] => do
      let hours ← twoDigits? 23 a b
      let minutes ← twoDigits? 59 c d
      let sign' := if hours + minutes = 0 then '+' else sign
      if sign = '+' ∨ sign = '-' then some [sign', a, b, ':', c, d] else none
  | _ => none

/-- The usual form of a date, a time or both. -/
def moment? (cs : List Char) : Option (List Char) :=
  match date? cs with
  | some (date, []) => some date
  | some (date, c :: rest) => do
      if c = 'T' ∨ c = 't' ∨ c = ' ' then
        let (time, rest) ← time? rest
        let offset ← offset? rest
        return date ++ 'T' :: time ++ offset
      else none
  | none => do
      let (time, rest) ← time? cs
      if rest.isEmpty then return time else none

/-- The name under which a record holds a date or a time. -/
def momentName : String := "$__toml_private_datetime"

/-! ### Values -/

/-- The characters of unquoted values. -/
def isScalarChar (c : Char) : Bool :=
  c.isAlphanum || c = '+' || c = '-' || c = '_' || c = '.' || c = ':'

/-- Whether a text is a date without a time. -/
def isDate (cs : List Char) : Bool := (date? cs).any (·.2.isEmpty)

/-- The text of an unquoted value, and the rest. A date goes on behind a blank if
a digit follows. -/
def scalarText (cs : List Char) : List Char × List Char :=
  let first := cs.takeWhile isScalarChar
  let rest := cs.dropWhile isScalarChar
  match rest with
  | ' ' :: c :: more =>
      if c.isDigit && isDate first then
        (first ++ ' ' :: (c :: more).takeWhile isScalarChar, (c :: more).dropWhile isScalarChar)
      else (first, rest)
  | _ => (first, rest)

/-- The value of an unquoted text. -/
def scalar? (cs : List Char) : Option Setting :=
  if cs = ['t', 'r', 'u', 'e'] then some (.flag true)
  else if cs = ['f', 'a', 'l', 's', 'e'] then some (.flag false)
  else
    match integer? cs with
    | some n => if isWide n then some (.integer n) else none
    | none =>
        if isFloat cs then some .real
        else (moment? cs).map fun text => .record [(momentName, .text (String.ofList text))]

end Cadence.Toml
