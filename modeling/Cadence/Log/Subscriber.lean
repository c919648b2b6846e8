import Cadence.Log.Filter
import Cadence.Log.Json
import Cadence.Storage.Workspace

/-! # Log subscribers

A subscriber writes the events that pass its filter to the console, and to a file
if the settings name one. Only one subscriber can be installed. -/

namespace Cadence.Log

open Storage

/-- An event, the path of the module that it comes from, and the fields that it
may have. -/
structure Emission where
  path : String
  event : Event
  fields : List String := event.values.map (·.1)
deriving DecidableEq, Repr

/-- Where events go, and which. -/
structure Subscriber where
  filter : Filter
  format : Format
  file : Option Path
deriving DecidableEq, Repr

/-- Why no subscriber is installed. -/
inductive SetupFault
  | invalidFilter (text : String)
  | noParent
  | noFileName
  | noDirectory (path : Path) (fault : NodeFault)
  /-- There is one already. -/
  | installed
deriving DecidableEq, Repr

def SetupFault.message : SetupFault → String
  | invalidFilter text => s!"invalid log filter '{text}'"
  | noParent => "log file path has no parent directory"
  | noFileName => "log file path has no file name"
  | noDirectory path fault => s!"failed to create {path}: {fault.message}"
  | installed => "failed to install tracing subscriber"

namespace Subscriber

/-- The filter text of some settings: the level, then the modules by name. -/
def filterText (s : LogSettings) : String :=
  let modules := s.modules.mergeSort fun a b => a.1 ≤ b.1
  s.level ++ String.join (modules.map fun m => s!",{m.1}={m.2}")

/-- The filter of some settings, unless another text takes their place. -/
def chooseFilter (s : LogSettings) (override : Option String) : Except SetupFault Filter :=
  match override with
  | some text => .ok (Filter.parseLenient text)
  | none => (Filter.parse (filterText s)).mapError fun _ => .invalidFilter (filterText s)

/-- Makes the directory of a log file. -/
def prepareFile (w : Workspace) (path : Path) : Except SetupFault Workspace :=
  if (Path.trimEnd path.pieces).isEmpty then .error .noParent
  else if path.fileName?.isNone then .error .noFileName
  else
    match w.makeDirectory path.parent with
    | (.error fault, _) => .error (.noDirectory path.parent fault)
    | (.ok (), w) => .ok w

/-- Sets a subscriber up. Log files are taken from the directory `base`. -/
def install (s : LogSettings) (override : Option String) (base : Path) (w : Workspace) :
    Except SetupFault (Subscriber × Workspace) := do
  let filter ← chooseFilter s override
  match s.file.map base.under with
  | none => return (⟨filter, s.format, none⟩, w)
  | some path => do
      let w ← prepareFile w path
      return (⟨filter, s.format, some path⟩, w)

/-- What a subscriber says when it is installed. -/
def greeting (s : LogSettings) : Event :=
  let format :=
    match s.format with
    | .plain => "Plain"
    | .json => "Json"
  let file := s.file.elim "None" fun file => s!"Some({Text.quoted file})"
  .ofDomain .debug "sys" "tracing initialised" [("format", .shown format), ("file", .shown file)]

/-- The event of an emission within the spans that pass, if it passes, too. -/
def passing? (s : Subscriber) (e : Emission) : Option Event :=
  let scope := s.filter.scope e.path e.event.spans
  if s.filter.Admits e.path e.fields scope e.event.level then
    some { e.event with spans := scope.spans }
  else none

/-- The line of an event, or several if its values hold line breaks. -/
def line (s : Subscriber) (time : String) (terminal : Bool) (e : Event) : String :=
  match s.format with
  | .plain => e.line time terminal
  | .json => Json.line e time

/-- The lines on the console. -/
def consoleLines (s : Subscriber) (time : String) (emissions : List Emission) : List String :=
  (emissions.filterMap s.passing?).flatMap fun e => textLines (s.line time true e)

/-- The lines in the log file. -/
def fileLines (s : Subscriber) (time : String) (emissions : List Emission) : List String :=
  if s.file.isNone then []
  else (emissions.filterMap s.passing?).flatMap fun e => textLines (s.line time false e)

end Subscriber

end Cadence.Log
