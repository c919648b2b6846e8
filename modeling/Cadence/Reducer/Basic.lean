import Cadence.Table.Type

/-! # Reducers

The built-in reductions of a window, their names and the types they accept. -/

namespace Cadence

/-- A reduction of the values of one window. -/
inductive Reducer
  | sum
  | max
  | min
  | mean
  | count
  /-- Passes every value on, as a list. -/
  | identity
deriving DecidableEq, Repr

namespace Reducer

def all : List Reducer := [sum, max, min, mean, count, identity]

def name : Reducer → String
  | sum => "sum"
  | max => "max"
  | min => "min"
  | mean => "mean"
  | count => "count"
  | identity => "identity"

/-- The reducer of a name. `collect` is another name for `identity`. -/
def ofName? (s : String) : Option Reducer :=
  if s = "collect" then some identity else all.find? (·.name = s)

/-- Whether a reducer accepts columns of a type. -/
def supports (r : Reducer) (type : ColumnType) : Bool :=
  match r with
  | sum | max | min | mean => type.isNumeric
  | count | identity => true

end Reducer

end Cadence
