import Cadence.Settings.Project
import Cadence.Storage.Path

/-! # Workspaces

A workspace is a tree of directories and files. A file holds a text or a table.
Tables are written whole and read back as they were. -/

namespace Cadence.Storage

/-- Something with a name. -/
inductive Node
  | directory
  | text (s : String)
  | table (t : Table)
deriving DecidableEq, Repr

/-- Why a name cannot be used as wanted. -/
inductive NodeFault
  | missing
  | occupied
  | notDirectory
  | isDirectory
  | notText
  /-- A name, or the whole path, has too many bytes. -/
  | tooLong
  /-- The path holds a null character. -/
  | nullCharacter
deriving DecidableEq, Repr

def NodeFault.message : NodeFault → String
  | missing => "No such file or directory (os error 2)"
  | occupied => "File exists (os error 17)"
  | notDirectory => "Not a directory (os error 20)"
  | isDirectory => "Is a directory (os error 21)"
  | notText => "stream did not contain valid UTF-8"
  | tooLong => "File name too long (os error 36)"
  | nullCharacter => "file name contained an unexpected NUL byte"

/-- Why a file cannot be read or written. -/
inductive StorageFault
  | unreadable (path : Path) (fault : NodeFault)
  | unopened (path : Path) (fault : NodeFault)
  | uncreated (path : Path) (fault : NodeFault)
  /-- The file holds no table. -/
  | foreign
  /-- The directory of the file cannot be made. -/
  | blocked
deriving DecidableEq, Repr

/-- What happened, where there are words for it. -/
def StorageFault.message? : StorageFault → Option String
  | unreadable path fault => some s!"failed to read {path}: {fault.message}"
  | unopened path fault => some s!"failed to open {path}: {fault.message}"
  | uncreated path fault => some s!"failed to create {path}: {fault.message}"
  | foreign | blocked => none

/-- Names from the root on, and what they name. -/
structure Workspace where
  nodes : List (List String × Node)
deriving DecidableEq, Repr

namespace Workspace

def empty : Workspace := ⟨[]⟩

/-- What some names lead to. The root is a directory, and so are those on the way
from it to where paths start. -/
def node? (w : Workspace) (location : List String) : Option Node :=
  if location <+: Path.home then some .directory else w.nodes.lookup location

/-- The workspace in which some names lead to a node. -/
def put (w : Workspace) (location : List String) (node : Node) : Workspace :=
  ⟨(location, node) :: w.nodes.filter (·.1 ≠ location)⟩

/-- Refuses paths that lead nowhere in any workspace. -/
def checkPath (path : Path) : Except NodeFault Unit :=
  if '\x00' ∈ path.toList then .error .nullCharacter
  else if Path.pathLimit < path.utf8ByteSize then .error .tooLong
  else .ok ()

/-- Walks from one place along the pieces of a path. Each step starts from a
directory. -/
def walk (w : Workspace) (here : List String) :
    List String → Except NodeFault (List String × Node)
  | [] => (w.node? here).elim (.error .missing) fun node => .ok (here, node)
  | piece :: rest =>
      match w.node? here with
      | none => .error .missing
      | some .directory =>
          if Path.isTooLong piece then .error .tooLong else w.walk (Path.step here piece) rest
      | some _ => .error .notDirectory

/-- What a path leads to. -/
def find (w : Workspace) (path : Path) : Except NodeFault Node := do
  checkPath path
  if path = "" then throw .missing
  return (← w.walk path.start path.pieces).2

/-- Makes the directories of a path that are missing. Those that were made before
a fault stay. A file in the way is met on the way to the last name, unless a
directory was `made` before: from then on each name is the last one in its turn. -/
def makeFrom (w : Workspace) (made : Bool) (here : List String) :
    List String → Except NodeFault Unit × Workspace
  | [] => (.ok (), w)
  | piece :: rest =>
      let there := Path.step here piece
      if Path.isTooLong piece then (.error .tooLong, w)
      else
        match w.node? there with
        | none => (w.put there .directory).makeFrom true there rest
        | some .directory => w.makeFrom made there rest
        | some _ => (.error (if made ∨ rest.isEmpty then .occupied else .notDirectory), w)

/-- Makes a directory, and those on the way to it. -/
def makeDirectory (w : Workspace) (path : Path) : Except NodeFault Unit × Workspace :=
  match checkPath path with
  | .error fault => (.error fault, w)
  | .ok () => w.makeFrom false path.start path.pieces

/-- Writes a file into a directory that exists. A path with a slash at its end
names a directory. -/
def write (w : Workspace) (path : Path) (node : Node) : Except NodeFault Workspace := do
  checkPath path
  let pieces := (path.pieces.reverse.dropWhile (· = "")).reverse
  if path = "" then throw .missing
  match pieces.getLast? with
  | none => throw .isDirectory
  | some name =>
      let (here, holder) ← w.walk path.start pieces.dropLast
      if holder ≠ .directory then throw .notDirectory
      else if pieces ≠ path.pieces ∨ name = "." ∨ name = ".." then throw .isDirectory
      else if Path.isTooLong name then throw .tooLong
      else
        match w.node? (here ++ [name]) with
        | some .directory => throw .isDirectory
        | _ => return w.put (here ++ [name]) node

/-! ### Files -/

/-- The text of a file. -/
def readText (w : Workspace) (path : Path) : Except StorageFault String :=
  match w.find path with
  | .ok (.text s) => .ok s
  | .ok (.table _) => .error (.unreadable path .notText)
  | .ok .directory => .error (.unreadable path .isDirectory)
  | .error fault => .error (.unreadable path fault)

/-- The tables of a file. -/
def readTables (w : Workspace) (path : Path) : Except StorageFault (List Table) :=
  match w.find path with
  | .ok (.table t) => .ok [t]
  | .ok _ => .error .foreign
  | .error fault => .error (.unopened path fault)

/-- Writes a file, and makes the directories on the way to it, which stay even if
the file cannot be written. -/
def place (w : Workspace) (path : Path) (node : Node) : Except StorageFault Unit × Workspace :=
  match w.makeDirectory path.parent with
  | (.error _, w) => (.error .blocked, w)
  | (.ok (), w) =>
      match w.write path node with
      | .error fault => (.error (.uncreated path fault), w)
      | .ok w => (.ok (), w)

/-- Writes a table. -/
def writeTable (w : Workspace) (path : Path) (t : Table) : Except StorageFault Unit × Workspace :=
  w.place path (.table t)

/-- Writes a text. -/
def writeText (w : Workspace) (path : Path) (s : String) : Except StorageFault Unit × Workspace :=
  w.place path (.text s)

end Workspace

/-- Why settings cannot be loaded from a file. -/
inductive LoadFault
  | storage (fault : StorageFault)
  | settings (e : SettingsError)
deriving DecidableEq, Repr

def LoadFault.message? : LoadFault → Option String
  | storage fault => fault.message?
  | settings e => some e.message

/-- The settings in a file. -/
def Workspace.readSettings (w : Workspace) (path : Path) : Except LoadFault ProjectSettings := do
  let text ← (w.readText path).mapError .storage
  (ProjectSettings.parse text).mapError .settings

end Cadence.Storage
