/-! # Paths

A path is a text of names between slashes. Empty names and single dots mean
nothing, and two dots lead one step back. -/

namespace Cadence.Storage

/-- A path as it is written. -/
abbrev Path := String

namespace Path

/-- What stands between the slashes. -/
def pieces (p : Path) : List String := (p.toList.splitOnP (· = '/')).map String.ofList

/-- Whether a piece names nothing. -/
def isIdle (piece : String) : Bool := piece = "" || piece = "."

/-- Pieces without the idle ones at the end. -/
def trimEnd (pieces : List String) : List String := (pieces.reverse.dropWhile isIdle).reverse

/-- The path to the directory that holds a path. -/
def parent (p : Path) : Path := "/".intercalate (trimEnd (trimEnd (pieces p)).dropLast)

/-- The last name of a path; a path that leads back has none. -/
def fileName? (p : Path) : Option String := (trimEnd (pieces p)).getLast?.filter (· ≠ "..")

/-- Whether a path starts from the root. -/
def isAbsolute (p : Path) : Bool := p.toList.head? == some '/'

/-- A path below a directory, unless it starts from the root. -/
def under (base p : Path) : Path := if isAbsolute p then p else base ++ "/" ++ p

/-- One step from a directory: to what a piece names in it, or back. -/
def step (here : List String) (piece : String) : List String :=
  if isIdle piece then here else if piece = ".." then here.dropLast else here ++ [piece]

/-- The most bytes of a name, and the most of a path. -/
def nameLimit : Nat := 255

def pathLimit : Nat := 4095

/-- Whether a piece has more bytes than a name may have. -/
def isTooLong (piece : String) : Bool := nameLimit < piece.utf8ByteSize

/-- The names from the root on to the directory that other paths start from. -/
def home : List String := ["home", "work"]

/-- Where a path starts. -/
def start (p : Path) : List String := if isAbsolute p then [] else home

/-- The names from the root on. -/
def location (p : Path) : List String := (pieces p).foldl step (start p)

end Path

end Cadence.Storage
