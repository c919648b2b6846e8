/-! # Quoted texts of TOML

The four kinds of quoted text: with escapes between double quotes, as it stands
between single quotes, and both over several lines between three quotes. The
readers start behind the opening quotes and return what is left behind the
closing ones. -/

namespace Cadence.Toml

/-- Characters that may not stand in a text or a comment. -/
def isControl (c : Char) : Bool := (c.toNat < 32 && c ≠ '\t') || c.toNat = 127

/-- The value of a hexadecimal digit. -/
def hexDigit? (c : Char) : Option Nat :=
  if c.isDigit then some (c.toNat - '0'.toNat)
  else if 'a' ≤ c ∧ c ≤ 'f' then some (c.toNat - 'a'.toNat + 10)
  else if 'A' ≤ c ∧ c ≤ 'F' then some (c.toNat - 'A'.toNat + 10)
  else none

/-- The character with a hexadecimal number. -/
def charOfHex? (digits : List Char) : Option Char := do
  let n ← digits.foldlM (fun n c => (hexDigit? c).map (16 * n + ·)) 0
  if n.isValidChar then some (Char.ofNat n) else none

/-- The character that one letter stands for after a backslash. -/
def escaped? : Char → Option Char
  | 'b' => some '\x08'
  | 't' => some '\t'
  | 'n' => some '\n'
  | 'f' => some '\x0c'
  | 'r' => some '\r'
  | 'e' => some '\x1b'
  | '"' => some '"'
  | '\\' => some '\\'
  | _ => none

/-- Puts a character before what was read. -/
def consChar (c : Option Char) (r : Option (List Char × List Char)) :
    Option (List Char × List Char) := do
  let c ← c
  let (text, rest) ← r
  return (c :: text, rest)

/-- A text between double quotes. -/
def basicText : List Char → Option (List Char × List Char)
  | '"' :: rest => some ([], rest)
  | '\\' :: 'x' :: a :: b :: rest => consChar (charOfHex? [a, b]) (basicText rest)
  | '\\' :: 'u' :: a :: b :: c :: d :: rest =>
      consChar (charOfHex? [a, b, c, d]) (basicText rest)
  | '\\' :: 'U' :: a :: b :: c :: d :: e :: f :: g :: h :: rest =>
      consChar (charOfHex? [a, b, c, d, e, f, g, h]) (basicText rest)
  | '\\' :: c :: rest => consChar (escaped? c) (basicText rest)
  | c :: rest => if isControl c then none else consChar (some c) (basicText rest)
  | [] => none

/-- A text between single quotes. -/
def literalText : List Char → Option (List Char × List Char)
  | '\'' :: rest => some ([], rest)
  | c :: rest => if isControl c then none else consChar (some c) (literalText rest)
  | [] => none

/-- Whether a line ends after blanks. -/
def endsLine (rest : List Char) : Bool :=
  match rest.dropWhile fun c => c = ' ' || c = '\t' with
  | '\n' :: _ => true
  | '\r' :: '\n' :: _ => true
  | _ => false

/-- A text of several lines between double quotes. A backslash at the end of a
line skips everything blank after it, which `skipping` stands for. Up to two
quotes may stand before the closing ones. -/
def basicLines (skipping : Bool) : List Char → Option (List Char × List Char)
  | '"' :: '"' :: '"' :: '"' :: '"' :: rest => some (['"', '"'], rest)
  | '"' :: '"' :: '"' :: '"' :: rest => some (['"'], rest)
  | '"' :: '"' :: '"' :: rest => some ([], rest)
  | '\r' :: '\n' :: rest =>
      if skipping then basicLines true rest
      else consChar (some '\r') (consChar (some '\n') (basicLines false rest))
  | '\n' :: rest =>
      if skipping then basicLines true rest else consChar (some '\n') (basicLines false rest)
  | '\\' :: 'x' :: a :: b :: rest => consChar (charOfHex? [a, b]) (basicLines false rest)
  | '\\' :: 'u' :: a :: b :: c :: d :: rest =>
      consChar (charOfHex? [a, b, c, d]) (basicLines false rest)
  | '\\' :: 'U' :: a :: b :: c :: d :: e :: f :: g :: h :: rest =>
      consChar (charOfHex? [a, b, c, d, e, f, g, h]) (basicLines false rest)
  | '\\' :: c :: rest =>
      if endsLine (c :: rest) then basicLines true rest
      else consChar (escaped? c) (basicLines false rest)
  | c :: rest =>
      if isControl c then none
      else if skipping && (c = ' ' || c = '\t') then basicLines true rest
      else consChar (some c) (basicLines false rest)
  | [] => none

/-- A text of several lines between single quotes. -/
def literalLines : List Char → Option (List Char × List Char)
  | '\'' :: '\'' :: '\'' :: '\'' :: '\'' :: rest => some (['\'', '\''], rest)
  | '\'' :: '\'' :: '\'' :: '\'' :: rest => some (['\''], rest)
  | '\'' :: '\'' :: '\'' :: rest => some ([], rest)
  | '\r' :: '\n' :: rest => consChar (some '\r') (consChar (some '\n') (literalLines rest))
  | '\n' :: rest => consChar (some '\n') (literalLines rest)
  | c :: rest => if isControl c then none else consChar (some c) (literalLines rest)
  | [] => none

/-- What is left behind a line break that follows opening quotes. -/
def skipBreak : List Char → List Char
  | '\r' :: '\n' :: rest => rest
  | '\n' :: rest => rest
  | rest => rest

/-- A quoted text, from its opening quotes on. -/
def quotedText? : List Char → Option (List Char × List Char)
  | '"' :: '"' :: '"' :: rest => basicLines false (skipBreak rest)
  | '\'' :: '\'' :: '\'' :: rest => literalLines (skipBreak rest)
  | '"' :: rest => basicText rest
  | '\'' :: rest => literalText rest
  | _ => none

end Cadence.Toml
