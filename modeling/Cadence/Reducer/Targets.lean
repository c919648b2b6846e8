import Cadence.Error
import Cadence.Table.Basic

/-! # Columns to reduce

Either the columns that are asked for, each of which has to suit every reducer,
or all columns that do. -/

namespace Cadence.Reducer

/-- A column that is asked for exists and suits the reducers. -/
def checkTarget (schema : List Field) (reducers : List Reducer) (name : String) :
    Except Error Unit :=
  match schema.find? (·.name = name) with
  | none => .error (.data (.missingColumn .target name))
  | some field =>
      match reducers.find? fun r => !r.supports field.type with
      | none => .ok ()
      | some r => .error (.data (.unsupportedTarget name field.type r))

/-- The columns to reduce. -/
def targets (schema : List Field) (explicit : Option (List String)) (excluded : List String)
    (reducers : List Reducer) : Except Error (List String) :=
  match explicit with
  | some names => do
      names.forM (checkTarget schema reducers)
      return names
  | none =>
      let suits (field : Field) : Bool :=
        field.name ∉ excluded && reducers.all (·.supports field.type)
      .ok ((schema.filter suits).map (·.name))

end Cadence.Reducer
