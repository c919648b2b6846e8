import Cadence.Duration.Error
import Cadence.Reducer.Basic
import Cadence.Zone.Basic

/-! # Errors

Everything that can go wrong between a configuration and a resampled table. An
error is a cause with what it is about; its kind, code and wording are functions
of the cause. -/

namespace Cadence

/-- A choice that cannot be carried out, whatever the data. -/
inductive ConfigurationFault
  | emptyWindow (every : String)
  | mixedMonths (every : String)
  | oversizedWindow (every : String)
  | negativeOffset (text : String)
  | noReducers
  | unnamedReducer (position total : Nat)
  | repeatedName (position total : Nat) (name : String)
  | unknownReducer (position total : Nat) (name : String)
  | repeatedReducer (position total : Nat) (name : String) (reducer : Reducer)
  | reservedTarget (column : String)
  | mappingLength (names frames : Nat)
  | unknownPairSelection (text : String)
deriving DecidableEq, Repr

/-- Why a series has no sampling interval. -/
inductive AmbiguityFault
  | tooFew (found : Nat)
  | uneven (spacings : Nat)
deriving DecidableEq, Repr

/-- What a column is wanted for. -/
inductive ColumnRole
  | time
  | groupBy
  | target
  | value
deriving DecidableEq, Repr

/-- Data that an operation cannot work on. -/
inductive DataFault
  | noTables
  | unlikeTables
  | missingColumn (role : ColumnRole) (name : String)
  | notTemporal (name : String) (type : ColumnType)
  | missingTimes (name : String) (count : Nat)
  | unknownZone
  /-- A reading whose instant no counter can hold. -/
  | readingRange (reading : Reading)
  /-- A reading outside the supported years. -/
  | readingSupport (reading : Reading)
  | boundaryRange
  | unsupportedTarget (name : String) (type : ColumnType) (reducer : Reducer)
  | unsupportedType (reducer : Reducer) (type : ColumnType)
  | sumOverflow
  | listCapacity
  | maskLength (mask values : Nat)
  | notNumeric (name : String) (type : ColumnType)
  /-- A null in a column that must not hold one. -/
  | nulledRequired
  /-- Not as many marks as rows that are to be nulled. -/
  | nullMarks
  /-- More marks than rows of which some are to be dropped. -/
  | dropMarks
  /-- Columns of different heights. -/
  | unevenColumns
  /-- A null in a column of windows that must not hold one. -/
  | unexpectedNull
deriving DecidableEq, Repr

/-- Why an operation failed. -/
inductive Error
  | language (e : LanguageError)
  | configuration (fault : ConfigurationFault)
  | ambiguous (fault : AmbiguityFault)
  /-- A window holds too few samples, the first of `total` such windows. -/
  | partialWindow (zone : Zone) (lower upper : Int) (total : Nat)
  | customReducer (position total : Nat) (name function : String)
  | data (fault : DataFault)
  /-- A step of plain counter arithmetic left the range of a counter. -/
  | overflow
deriving DecidableEq, Repr

/-- The kinds of errors. -/
inductive ErrorKind
  | configuration
  | malformedDuration
  | malformedPattern
  | unsupportedCascadeRule
  | ambiguousFrequency
  | partialData
  | notImplemented
  | dataFormat
  | overflow
deriving DecidableEq, Repr

namespace ErrorKind

def code : ErrorKind → Nat
  | configuration => 1001
  | malformedDuration => 1002
  | malformedPattern => 1003
  | unsupportedCascadeRule => 1004
  | ambiguousFrequency => 1005
  | partialData => 1006
  | notImplemented => 1007
  | dataFormat => 1008
  | overflow => 1009

/-- The kind in words. -/
def reason : ErrorKind → String
  | configuration => "configuration error"
  | malformedDuration => "malformed duration"
  | malformedPattern => "malformed time pattern"
  | unsupportedCascadeRule => "unsupported cascade rule"
  | ambiguousFrequency => "ambiguous sampling frequency"
  | partialData => "partial window"
  | notImplemented => "not implemented"
  | dataFormat => "data format error"
  | overflow => "counter overflow"

end ErrorKind

def LanguageError.kind : LanguageError → ErrorKind
  | malformedDuration .. => .malformedDuration
  | malformedPattern .. => .malformedPattern
  | unsupportedCascade .. => .unsupportedCascadeRule

open Text

/-- The refusal of a name that is no reducer. -/
def Reducer.unknownText (name : String) : String :=
  let names := "/".intercalate (all.map Reducer.name)
  s!"unknown reducer {quoted name} (expected one of {names})"

def ConfigurationFault.message : ConfigurationFault → String
  | emptyWindow every => s!"window length {every} must not be zero"
  | mixedMonths every => s!"window length {every} mixes months with shorter units"
  | oversizedWindow every => s!"window length {every} is too large"
  | negativeOffset text => s!"start_offset {quoted text} must not be negative"
  | noReducers => "at least one reducer is required"
  | unnamedReducer position total => s!"reducer {position}/{total} does not have a name"
  | repeatedName position total name =>
      s!"reducer {position}/{total} is named {quoted name}, which is already defined"
  | unknownReducer position total name =>
      s!"reducer {position}/{total}: {Reducer.unknownText name}"
  | repeatedReducer position total name reducer =>
      s!"reducer {position}/{total} ({quoted name}) repeats {reducer.name}"
  | reservedTarget column =>
      s!"target column {quoted column} is the time column or a group_by column"
  | mappingLength names frames => s!"mapping has {names} name(s) for {frames} frame(s)"
  | unknownPairSelection text =>
      s!"unknown pair selection {quoted text}, expected full/upper/lower"

def AmbiguityFault.message : AmbiguityFault → String
  | tooFew found => s!"need at least two distinct timestamps, found {found}"
  | uneven spacings =>
      s!"series has {spacings} distinct spacings; use mode or max detection"

def ColumnRole.text : ColumnRole → String
  | time => "time column"
  | groupBy => "group_by column"
  | target => "target column"
  | value => "value column"

def DataFault.message : DataFault → String
  | noTables => "no record batches supplied"
  | unlikeTables => "concatenating batches"
  | missingColumn role name => s!"{role.text} {quoted name} not found"
  | notTemporal name type =>
      s!"time column {quoted name} has type {type.spelled}, expected a timestamp or date"
  | missingTimes name count => s!"time column {quoted name} contains {count} null value(s)"
  | unknownZone => "parsing timezone"
  | readingRange reading => s!"{reading.text} is outside the nanosecond range"
  | readingSupport reading => s!"{reading.text} is outside the supported range"
  | boundaryRange => "window boundary is outside the nanosecond range"
  | unsupportedTarget name type reducer =>
      s!"target column {quoted name} has type {type.spelled}, "
        ++ s!"which {reducer.name} does not support"
  | unsupportedType reducer type => s!"{reducer.name} does not support type {type.spelled}"
  | sumOverflow => "integer sum overflowed"
  | listCapacity => "identity output exceeds list capacity"
  | maskLength mask values => s!"segment mask has {mask} rows, values have {values}"
  | notNumeric name type =>
      s!"value column {quoted name} has type {type.spelled}, expected numeric"
  | nulledRequired | nullMarks => "nulling partial windows"
  | dropMarks => "dropping partial windows"
  | unevenColumns | unexpectedNull => "assembling resampled batch"

namespace Error

def kind : Error → ErrorKind
  | language e => e.kind
  | configuration _ => .configuration
  | ambiguous _ => .ambiguousFrequency
  | partialWindow .. => .partialData
  | customReducer .. => .notImplemented
  | data _ => .dataFormat
  | overflow => .overflow

/-- What happened, in words. -/
def message : Error → String
  | language e => e.message
  | configuration fault => fault.message
  | ambiguous fault => fault.message
  | partialWindow zone lower upper total =>
      s!"window [{zone.stamp lower}, {zone.stamp upper}] is partial "
        ++ s!"({total} partial window(s) in total)"
  | customReducer position total name function =>
      s!"reducer {position}/{total} ({quoted name}) uses custom function "
        ++ s!"{quoted function}; custom reducers are not supported"
  | data fault => fault.message
  | overflow => "a counter left its range"

end Error

end Cadence
