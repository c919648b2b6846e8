import Cadence.Text.Hidden

/-! # Texts

Sets of characters, blanks, numbers with zeros in front, and texts between quotes. -/

namespace Cadence.Text

/-! ### Sets of characters -/

/-- Closed ranges of code points, ascending and apart. The property tables of this folder
are such lists; membership is the only operation on them. -/
abbrev CodePoints := List (Nat × Nat)

/-- A character belongs to the set when one of the ranges covers it. -/
def CodePoints.covers (ranges : CodePoints) (c : Char) : Bool :=
  ranges.any fun r => r.1 ≤ c.toNat && c.toNat ≤ r.2

/-! ### Blanks

The words of a pattern may stand apart by four ASCII characters; a whole text is judged
empty by the Unicode property White_Space. -/

/-- Space, tab, carriage return and line feed. -/
def isSpacing (c : Char) : Bool :=
  c == ' ' || c == '\t' || c == '\r' || c == '\n'

/-- The 25 characters of the property White_Space. -/
def blankRanges : CodePoints := [
  (0x09, 0x0D), (0x20, 0x20), (0x85, 0x85), (0xA0, 0xA0), (0x1680, 0x1680),
  (0x2000, 0x200A), (0x2028, 0x2029), (0x202F, 0x202F), (0x205F, 0x205F), (0x3000, 0x3000)
]

def isBlank (c : Char) : Bool := blankRanges.covers c

/-- A text with nothing but blanks. -/
def isBlankText (s : String) : Bool := s.toList.all isBlank

/-! ### Padded numbers -/

/-- The digits of a number in a base, with zeros in front up to a width. -/
def paddedIn (base width n : Nat) : String :=
  let digits := Nat.toDigits base n
  String.ofList (List.replicate (width - digits.length) '0' ++ digits)

/-- The decimal digits of a number, with zeros in front up to a width. -/
def padded (width n : Nat) : String := paddedIn 10 width n

/-! ### Quoted text

Texts that a message repeats stand between double quotes. A quote, a backslash and the
usual controls are written with a backslash; any other character that does not show is
written by its code point. -/

/-- A character that quoted text cannot show as itself. -/
def isHidden (c : Char) : Bool :=
  if c.toNat < 128 then c.toNat < 32 || c.toNat == 127 else CodePoints.covers hiddenRanges c

/-- The written form of one character inside quotes. -/
def escape (c : Char) : List Char :=
  match c with
  | '"' => ['\\', '"']
  | '\\' => ['\\', '\\']
  | '\n' => ['\\', 'n']
  | '\r' => ['\\', 'r']
  | '\t' => ['\\', 't']
  | '\x00' => ['\\', '0']
  | c =>
      if isHidden c then ['\\', 'u', '\x7b'] ++ Nat.toDigits 16 c.toNat ++ ['\x7d'] else [c]

/-- The text between double quotes. -/
def quoted (s : String) : String :=
  String.ofList ('"' :: s.toList.flatMap escape ++ ['"'])

end Cadence.Text
