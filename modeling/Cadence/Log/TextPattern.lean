import Cadence.Text.Alphabetic
import Cadence.Text.Numeral
import Cadence.Toml.Text

/-! # Patterns of texts

A regular expression that a text field has to match. Spans hold no texts, so no
pattern is ever matched; what counts is whether it has the right form. Counted
repetitions do not occur, since directives hold no closing brace within a field. -/

namespace Cadence.Log.TextPattern

/-- Why a pattern cannot be used. -/
inductive Fault
  | malformed
  /-- A border of words, which would need to know the characters around it. -/
  | wordBorder
deriving DecidableEq, Repr

/-- What an escaped character stands for. -/
inductive Escape
  | char (c : Char)
  /-- One of a set of characters. -/
  | set
  /-- A place between characters. -/
  | place
  | wordBorder
deriving DecidableEq, Repr

/-- ASCII characters other than letters, digits and the signs of word borders stand
for themselves behind a backslash. -/
def isSign (c : Char) : Bool :=
  c.toNat < 128 && !c.isAlphanum && c ≠ '<' && c ≠ '>'

/-- The character of some hexadecimal digits at the front. -/
def hexEscape? (count : Nat) (cs : List Char) : Option (Escape × List Char) :=
  if cs.length < count then none
  else (Toml.charOfHex? (cs.take count)).map fun c => (.char c, cs.drop count)

/-- Reads what follows a backslash. -/
def escape? : List Char → Option (Escape × List Char)
  | 'x' :: rest => hexEscape? 2 rest
  | 'u' :: rest => hexEscape? 4 rest
  | 'U' :: rest => hexEscape? 8 rest
  | 'p' :: c :: rest | 'P' :: c :: rest =>
      if "lmnpszc".contains c.toLower then some (.set, rest) else none
  | c :: rest =>
      if "dswDSW".contains c then some (.set, rest)
      else if "Az".contains c then some (.place, rest)
      else if "bB<>".contains c then some (.wordBorder, rest)
      else if isSign c || "aftnrv".contains c then some (.char (control c), rest)
      else none
  | [] => none
where
  /-- The control character of a letter. -/
  control : Char → Char
    | 'a' => '\x07'
    | 'f' => '\x0c'
    | 't' => '\t'
    | 'n' => '\n'
    | 'r' => '\r'
    | 'v' => '\x0b'
    | c => c

/-! ### Sets of characters -/

/-- The names of sets of ASCII characters. -/
def asciiSets : List String := [
  "alnum", "alpha", "ascii", "blank", "cntrl", "digit", "graph", "lower", "print", "punct",
  "space", "upper", "word", "xdigit"
]

/-- What is left behind a named set, from behind its opening bracket on. -/
def asciiSet? : List Char → Option (List Char)
  | ':' :: rest =>
      let rest := if rest.head? = some '^' then rest.tail else rest
      match rest.dropWhile Char.isAlpha with
      | ':' :: ']' :: more =>
          if String.ofList (rest.takeWhile Char.isAlpha) ∈ asciiSets then some more else none
      | _ => none
  | _ => none

/-- What is left behind the beginning of a set: a mark of negation, then dashes or
a closing bracket that belong to the set. -/
def openSet (cs : List Char) : List Char :=
  let rest := if cs.head? = some '^' then cs.tail else cs
  match rest with
  | ']' :: more => more
  | rest => rest.dropWhile (· = '-')

/-- A member of a set. -/
def member? : List Char → Option (Escape × List Char)
  | '\\' :: rest => escape? rest
  | c :: rest => some (.char c, rest)
  | [] => none

/-- What is left behind a member of a set or a range of members. -/
def range? (cs : List Char) : Option (List Char) := do
  let (first, rest) ← member? cs
  match rest with
  | '-' :: c :: more =>
      if c = ']' ∨ c = '-' then single first rest
      else
        match first, ← member? (c :: more) with
        | .char a, (.char b, rest) => if a ≤ b then some rest else none
        | _, _ => none
  | rest => single first rest
where
  single : Escape → List Char → Option (List Char)
    | .char _, rest | .set, rest => some rest
    | _, _ => none

/-- What is left behind a set, within `depth` more sets. -/
def set? (depth : Nat) : Nat → List Char → Option (List Char)
  | 0, _ => none
  | fuel + 1, cs =>
      match cs with
      | '[' :: rest =>
          match asciiSet? rest with
          | some rest => set? depth fuel rest
          | none => set? (depth + 1) fuel (openSet rest)
      | ']' :: rest =>
          match depth with
          | 0 => some rest
          | depth + 1 => set? depth fuel rest
      | '&' :: '&' :: rest | '-' :: '-' :: rest | '~' :: '~' :: rest => set? depth fuel rest
      | cs => (range? cs).bind (set? depth fuel)

/-! ### Groups -/

/-- Flags behind a question mark: whether a group follows, and the rest. A flag is
given once, and something has to follow a minus sign. -/
def flags? (seen : List Char) : List Char → Option (Bool × List Char)
  | ':' :: rest => if seen.head? = some '-' then none else some (true, rest)
  | ')' :: rest => if seen = [] ∨ seen.head? = some '-' then none else some (false, rest)
  | c :: rest => if "imsUuRx-".contains c && !seen.contains c then flags? (c :: seen) rest else none
  | [] => none

/-- Whether a character may stand in the name of a group. -/
def isNameChar (c : Char) : Bool :=
  Text.isAlphabetic c || Text.isNumeric c || "_.[]".contains c

/-- The name of a group up to its closing bracket, and the rest. -/
def groupName? (cs : List Char) : Option (String × List Char) :=
  let name := cs.takeWhile isNameChar
  match cs.dropWhile isNameChar with
  | '>' :: rest =>
      if name.head?.any fun c => c = '_' || Text.isAlphabetic c then
        some (String.ofList name, rest)
      else none
  | _ => none

/-! ### Patterns -/

/-- A pattern being read: the open groups, the names of groups, whether there is
something to repeat, and whether a border of words occurred. -/
structure Draft where
  depth : Nat := 0
  names : List String := []
  repeatable : Bool := false
  hasBorder : Bool := false
deriving DecidableEq, Repr

/-- Reads a pattern. -/
def read? (d : Draft) : Nat → List Char → Option Draft
  | 0, _ => none
  | _, [] => if d.depth = 0 then some d else none
  | fuel + 1, c :: rest =>
      match c with
      | '(' => do
          let (d, rest) ← group? rest
          read? d fuel rest
      | ')' =>
          if d.depth = 0 then none
          else read? { d with depth := d.depth - 1, repeatable := true } fuel rest
      | '|' => read? { d with repeatable := false } fuel rest
      | '*' | '+' | '?' =>
          if d.repeatable then
            read? d fuel (if rest.head? = some '?' then rest.tail else rest)
          else none
      | '\x7b' => none
      | '[' => do
          let rest ← set? 0 (rest.length + 1) (openSet rest)
          read? { d with repeatable := true } fuel rest
      | '\\' => do
          let (e, rest) ← escape? rest
          read? { d with repeatable := true, hasBorder := d.hasBorder || e = .wordBorder } fuel rest
      | _ => read? { d with repeatable := true } fuel rest
where
  /-- Reads the beginning of a group, behind its opening bracket. -/
  group? (cs : List Char) : Option (Draft × List Char) :=
    let inner := { d with depth := d.depth + 1, repeatable := false }
    match cs with
    | '?' :: 'P' :: '<' :: rest | '?' :: '<' :: rest => do
        let (name, rest) ← groupName? rest
        if name ∈ d.names then none else some ({ inner with names := name :: d.names }, rest)
    | '?' :: rest => do
        let (isGroup, rest) ← flags? [] rest
        return (if isGroup then inner else { d with repeatable := false }, rest)
    | rest => some (inner, rest)

/-- The fault of a pattern, if it has one. -/
def fault? (cs : List Char) : Option Fault :=
  match read? {} (cs.length + 1) cs with
  | none => some .malformed
  | some d => if d.hasBorder then some .wordBorder else none

end Cadence.Log.TextPattern
