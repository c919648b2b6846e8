import Cadence.Text.Basic

/-! # Column types

The types a column may have, and how messages spell them. -/

namespace Cadence

/-- A width of integers. -/
inductive IntegerType
  | int8
  | int16
  | int32
  | int64
  | uint8
  | uint16
  | uint32
  | uint64
deriving DecidableEq, Repr

/-- A width of floating-point numbers. -/
inductive FloatType
  | float16
  | float32
  | float64
deriving DecidableEq, Repr

/-- The unit in which a timestamp counts. -/
inductive Resolution
  | second
  | millisecond
  | microsecond
  | nanosecond
deriving DecidableEq, Repr

/-- The type of a column. -/
inductive ColumnType
  | integer (width : IntegerType)
  | float (width : FloatType)
  | text
  | flag
  /-- Days since 1970-01-01. -/
  | date32
  /-- Milliseconds since 1970-01-01. -/
  | date64
  | timestamp (resolution : Resolution) (zone : Option String)
  /-- A column without values. -/
  | nothing
  | list (item : ColumnType)
deriving DecidableEq, Repr

/-- Nanoseconds in one unit. -/
def Resolution.nanos : Resolution → Int
  | second => 1000000000
  | millisecond => 1000000
  | microsecond => 1000
  | nanosecond => 1

def Resolution.name : Resolution → String
  | second => "Second"
  | millisecond => "Millisecond"
  | microsecond => "Microsecond"
  | nanosecond => "Nanosecond"

namespace ColumnType

def int64 : ColumnType := integer .int64

def float64 : ColumnType := float .float64

/-- Integers and floating-point numbers. -/
def isNumeric : ColumnType → Bool
  | integer _ | float _ => true
  | _ => false

/-- The type of a column, spelled out. -/
def spelled : ColumnType → String
  | integer .int8 => "Int8"
  | integer .int16 => "Int16"
  | integer .int32 => "Int32"
  | integer .int64 => "Int64"
  | integer .uint8 => "UInt8"
  | integer .uint16 => "UInt16"
  | integer .uint32 => "UInt32"
  | integer .uint64 => "UInt64"
  | float .float16 => "Float16"
  | float .float32 => "Float32"
  | float .float64 => "Float64"
  | .text => "Utf8"
  | flag => "Boolean"
  | date32 => "Date32"
  | date64 => "Date64"
  | timestamp resolution none => s!"Timestamp({resolution.name}, None)"
  | timestamp resolution (some zone) =>
      s!"Timestamp({resolution.name}, Some({Text.quoted zone}))"
  | nothing => "Null"
  | list item =>
      s!"List(Field \x7b name: \"item\", data_type: {item.spelled}, nullable: true, "
        ++ "dict_id: 0, dict_is_ordered: false, metadata: \x7b\x7d \x7d)"

end ColumnType

end Cadence
