import Cadence.Settings.Stages
import Cadence.Storage.Workspace
import Cadence.Zone.Table

/-! # Pipelines

A pipeline filters tables, resamples them, or both. When it does both, the filter
runs inside the resampler, after partial windows have been marked on all rows. It
runs with any zone database; the table of named zones comes with it. -/

namespace Cadence

open Storage

/-- The stages of a pipeline. -/
structure Pipeline where
  filter : Option TimeFilter
  resampler : Option Resampler
deriving Repr

/-- Why a pipeline cannot be built or run. -/
inductive PipelineError
  /-- The settings ask for no stage. -/
  | noStages
  | stage (e : Error)
  | settings (path : Path) (fault : LoadFault)
  | input (path : Path) (fault : StorageFault)
  | output (path : Path) (fault : StorageFault)
deriving DecidableEq, Repr

namespace PipelineError

def code : PipelineError → Nat
  | noStages => 2001
  | stage e => e.kind.code
  | settings .. => 300
  | input .. => 200
  | output .. => 201

/-- What happened, where there are words for it. -/
def message? : PipelineError → Option String
  | noStages => some "configuration needs a [filter] or [resample] section"
  | stage e => some e.message
  | settings _ fault => fault.message?
  | input _ fault | output _ fault => fault.message?

/-- The file that the error is about. -/
def position? : PipelineError → Option Path
  | noStages | stage _ => none
  | settings path _ | input path _ | output path _ => some path

end PipelineError

/-- An error with its code, its kind and what happened. -/
def Error.report (e : Error) : String :=
  s!"[{e.kind.code}] {e.kind.reason}\n  -> Details: {e.message}"

namespace Pipeline

/-! ### Events -/

def builtEvent (p : Pipeline) (every : String) : Log.Event :=
  .ofDomain .info "conf" "pipeline built"
    [("patterns", .natural (p.filter.elim 0 (·.patterns.length))), ("every", .text every)]

def loadedEvent (path : Path) : Log.Event :=
  .ofDomain .debug "conf" "configuration loaded" [("path", .shown path)]

def failedEvent (e : Error) : Log.Event :=
  .ofDomain .warn "pipe" "pipeline run failed" [("error", .shown e.report)]

def finishedEvent (t out : Table) : Log.Event :=
  .ofDomain .info "pipe" "pipeline run finished"
    [("rows_in", .natural t.height), ("rows_out", .natural out.height)]

def inputEvent (path : Path) (tables : Nat) : Log.Event :=
  .ofDomain .debug "pipe" "input read" [("input", .shown path), ("batches", .natural tables)]

def outputEvent (path : Path) (t : Table) : Log.Event :=
  .ofDomain .debug "pipe" "output written" [("output", .shown path), ("rows", .natural t.height)]

/-! ### Building -/

/-- The stages that some settings ask for. -/
def stages (s : ProjectSettings) : Except PipelineError Pipeline :=
  if s.filter.isNone ∧ s.resample.isNone then .error .noStages
  else do
    let filter ← (s.filter.mapM TimeFilter.ofSettings).mapError .stage
    let resampler ← (s.resample.mapM Resampler.ofSettings).mapError .stage
    return ⟨filter, resampler⟩

/-- Builds the pipeline of some settings. -/
def ofSettings (s : ProjectSettings) : Journaled PipelineError Pipeline :=
  .noting (stages s) fun p => p.builtEvent (s.resample.elim "-" (·.every))

/-- Builds the pipeline of a settings file. -/
def load (w : Workspace) (path : Path) : Journaled PipelineError Pipeline := do
  let s ← .noting ((w.readSettings path).mapError (.settings path)) fun _ => loadedEvent path
  ofSettings s

/-! ### Running -/

variable [Zone.Database]

/-- Sends a table through the stages. -/
def transform (p : Pipeline) (t : Table) : Journaled Error Table :=
  match p.filter, p.resampler with
  | some f, some r => r.transformFiltered f.transform t
  | none, some r => r.transform t
  | some f, none => f.transform t
  | none, none => pure t

/-- Runs the pipeline on a table. -/
def run (p : Pipeline) (t : Table) : Journaled PipelineError Table :=
  let x := p.transform t
  match x.outcome with
  | .ok out => ⟨.ok out, x.events ++ [finishedEvent t out]⟩
  | .error e => ⟨.error (.stage e), x.events ++ [failedEvent e]⟩

/-- Runs the pipeline on tables as one. -/
def runAll (p : Pipeline) (tables : List Table) : Journaled PipelineError Table := do
  let t ← .lift ((Table.concat tables).mapError .stage)
  p.run t

/-- Runs the pipeline on the tables of a file. -/
def runTables (p : Pipeline) (w : Workspace) (input : Path) : Journaled PipelineError Table := do
  let tables ← .noting ((w.readTables input).mapError (.input input)) fun tables =>
    inputEvent input tables.length
  p.runAll tables

/-- Runs the pipeline on a file, and writes the result to another one. -/
def runFile (p : Pipeline) (w : Workspace) (input output : Path) :
    Journaled PipelineError Table × Workspace :=
  let ran := p.runTables w input
  match ran.outcome with
  | .error _ => (ran, w)
  | .ok out =>
      let (written, w) := w.writeTable output out
      let written := (written.map fun _ => out).mapError (.output output)
      (ran.andThen fun _ => .noting written (outputEvent output), w)

end Pipeline

end Cadence
