import Cadence.Partiality
import Cadence.Reducer.Request
import Cadence.Settings.Setting

/-! # Sections of the settings

The settings of a filter, of a resampler and of the log, and how they are read
from raw settings. Entries that a section does not know are ignored. -/

namespace Cadence

namespace Choice

/-- A member of a choice, by its name. -/
def read? {α : Type} [Choice α] (format : SettingFormat) (s : Setting) : Option α :=
  (s.alternative? format).bind ofName?

end Choice

namespace ReducerEntry

/-- An entry is a name, or a record with a name and a function. -/
def read? : Setting → Option ReducerEntry
  | .text name => some (.named name)
  | .record entries => do
      let name ← Setting.optional? entries "name" Setting.textOrNothing? none
      let function ← Setting.optional? entries "func" Setting.textOrNothing? none
      return .described name function
  | _ => none

end ReducerEntry

namespace ReducerRequest

/-- A request is one name or a list of entries. Whatever is ignored in an entry
has to be compact nevertheless. -/
def read? (s : Setting) : Option ReducerRequest :=
  match s with
  | .text name => some (.one name)
  | .list items =>
      if s.isCompact then (items.mapM ReducerEntry.read?).map .many else none
  | _ => none

end ReducerRequest

/-- The settings of a resampler. -/
structure ResampleSettings where
  timeColumn : String
  every : String
  closed : Closed := .left
  label : Label := .left
  startOffset : Option String := none
  targetColumns : Option (List String) := none
  groupBy : List String := []
  reducers : ReducerRequest := .usual
  policy : Policy := .keep
  detection : Detection := .exact
  boundaries : Bool := false
deriving DecidableEq, Repr

namespace ResampleSettings

/-- A list of texts, or nothing. -/
def textsOrNothing? : Setting → Option (Option (List String))
  | .nothing => some none
  | s => s.texts?.map some

/-- The fields in the order in which a list gives them. -/
def fieldNames : List String := [
  "time_column", "every", "closed", "label", "start_offset", "target_columns", "group_by",
  "reducers", "partiality", "frequency_detection", "include_boundaries"
]

def read? (format : SettingFormat) (s : Setting) : Option ResampleSettings := do
  let entries ← s.fields? format fieldNames
  let timeColumn ← Setting.required? entries "time_column" Setting.text?
  let every ← Setting.required? entries "every" Setting.text?
  let closed ← Setting.optional? entries "closed" (Choice.read? format) .left
  let label ← Setting.optional? entries "label" (Choice.read? format) .left
  let startOffset ← Setting.optional? entries "start_offset" Setting.textOrNothing? none
  let targetColumns ← Setting.optional? entries "target_columns" textsOrNothing? none
  let groupBy ← Setting.optional? entries "group_by" Setting.texts? []
  let reducers ← Setting.optional? entries "reducers" ReducerRequest.read? .usual
  let policy ← Setting.optional? entries "partiality" (Choice.read? format) .keep
  let detection ← Setting.optional? entries "frequency_detection" (Choice.read? format) .exact
  let boundaries ← Setting.optional? entries "include_boundaries" Setting.flag? false
  return { timeColumn, every, closed, label, startOffset, targetColumns, groupBy, reducers,
           policy, detection, boundaries }

end ResampleSettings

/-- The settings of a time filter. -/
structure FilterSettings where
  timeColumn : String
  patterns : List String := []
deriving DecidableEq, Repr

namespace FilterSettings

/-- The fields in the order in which a list gives them. -/
def fieldNames : List String := ["time_column", "patterns"]

def read? (format : SettingFormat) (s : Setting) : Option FilterSettings := do
  let entries ← s.fields? format fieldNames
  let timeColumn ← Setting.required? entries "time_column" Setting.text?
  let patterns ← Setting.optional? entries "patterns" Setting.texts? []
  return { timeColumn, patterns }

end FilterSettings

namespace Log

/-- How log lines look. -/
inductive Format
  | plain
  | json
deriving DecidableEq, Repr

instance : Choice Format where
  what := "log format"
  all := [.plain, .json]
  name
    | .plain => "plain"
    | .json => "json"

end Log

/-- The settings of the log. -/
structure LogSettings where
  level : String := "info"
  /-- Levels of single modules. -/
  modules : List (String × String) := []
  file : Option String := none
  format : Log.Format := .plain
deriving DecidableEq, Repr

namespace LogSettings

/-- A record of texts. -/
def modules? (s : Setting) : Option (List (String × String)) := do
  let entries ← s.entries?
  entries.mapM fun e => e.2.text?.map (e.1, ·)

/-- The fields in the order in which a list gives them. -/
def fieldNames : List String := ["level", "modules", "file", "format"]

def read? (format : SettingFormat) (s : Setting) : Option LogSettings := do
  let entries ← s.fields? format fieldNames
  let level ← Setting.optional? entries "level" Setting.text? "info"
  let modules ← Setting.optional? entries "modules" modules? []
  let file ← Setting.optional? entries "file" Setting.textOrNothing? none
  let lines ← Setting.optional? entries "format" (Choice.read? format) .plain
  return { level, modules, file, format := lines }

end LogSettings

end Cadence
