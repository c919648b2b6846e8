import Cadence.Settings.Sections
import Cadence.Text.Basic
import Cadence.Toml.Document

/-! # Project settings

The settings of a whole project: a section for the log, one for a resampler and
one for a filter, each of which may be missing. Beyond their form, names of
columns are checked; durations, patterns and reducers are left to those who use
them. -/

namespace Cadence

/-- Everything that a settings text describes. -/
structure ProjectSettings where
  logging : LogSettings := {}
  resample : Option ResampleSettings := none
  filter : Option FilterSettings := none
deriving DecidableEq, Repr

/-- A setting that has the right form and makes no sense. -/
inductive SettingsFault
  | emptyTimeColumn
  | emptyLength
  | groupedTime (column : String)
  | groupedTwice (column : String)
  | emptyFilterColumn
  | differentColumns (filter resample : String)
deriving DecidableEq, Repr

/-- Why settings are refused. -/
inductive SettingsError
  /-- The text does not have the form of settings. -/
  | malformed
  | invalid (fault : SettingsFault)
deriving DecidableEq, Repr

open Text

def SettingsFault.message : SettingsFault → String
  | emptyTimeColumn => "resample.time_column must not be empty"
  | emptyLength => "resample.every must not be empty"
  | groupedTime column =>
      s!"resample.group_by must not contain the time column {quoted column}"
  | groupedTwice column => s!"resample.group_by lists {quoted column} more than once"
  | emptyFilterColumn => "filter.time_column must not be empty"
  | differentColumns filter resample =>
      s!"filter.time_column ({quoted filter}) differs from "
        ++ s!"resample.time_column ({quoted resample})"

def SettingsError.message : SettingsError → String
  | malformed => "TOML parse error"
  | invalid fault => fault.message

namespace ResampleSettings

/-- The first fault of a list of group columns, after some that had none. -/
def groupFault? (timeColumn : String) (earlier : List String) : List String → Option SettingsFault
  | [] => none
  | column :: rest =>
      if column = timeColumn then some (.groupedTime column)
      else if column ∈ earlier then some (.groupedTwice column)
      else groupFault? timeColumn (column :: earlier) rest

/-- The first fault of the settings of a resampler. -/
def fault? (s : ResampleSettings) : Option SettingsFault :=
  if isBlankText s.timeColumn then some .emptyTimeColumn
  else if isBlankText s.every then some .emptyLength
  else groupFault? s.timeColumn [] s.groupBy

end ResampleSettings

namespace ProjectSettings

/-- The fault of a pair of sections that read different columns. -/
def pairFault? (filter : Option FilterSettings) (resample : Option ResampleSettings) :
    Option SettingsFault := do
  let f ← filter
  let r ← resample
  if f.timeColumn = r.timeColumn then none
  else some (.differentColumns f.timeColumn r.timeColumn)

/-- The first fault of the settings. -/
def fault? (p : ProjectSettings) : Option SettingsFault :=
  (p.resample.bind ResampleSettings.fault?).or
    ((p.filter.bind fun f => if isBlankText f.timeColumn then some .emptyFilterColumn else none).or
      (pairFault? p.filter p.resample))

/-- The sections that a settings text may have. -/
def sections : List String := ["logging", "resample", "filter"]

/-- A section that is there. -/
def section? {α : Type} (read : Setting → Option α) (s : Setting) : Option (Option α) :=
  (read s).map some

/-- The settings with these sections and no others. -/
def read? (entries : List (String × Setting)) : Option ProjectSettings := do
  guard (entries.all fun e => e.1 ∈ sections)
  let logging ← Setting.optional? entries "logging" (LogSettings.read? .toml) {}
  let resample ← Setting.optional? entries "resample"
    (section? (ResampleSettings.read? .toml)) none
  let filter ← Setting.optional? entries "filter" (section? (FilterSettings.read? .toml)) none
  return { logging, resample, filter }

/-- Reads and checks a settings text. -/
def parse (text : String) : Except SettingsError ProjectSettings :=
  match (Toml.document? text).bind read? with
  | none => .error .malformed
  | some p =>
      match p.fault? with
      | none => .ok p
      | some fault => .error (.invalid fault)

end ProjectSettings

end Cadence
