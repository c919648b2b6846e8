import Cadence.Error

/-! # Requested reducers

Settings ask for reducers by name, either one or a list of entries. An entry may
carry a function of its own, which is recognised and refused. Requests are
checked from the first to the last, and the first fault decides. -/

namespace Cadence

/-- An entry of a list of reducers. -/
inductive ReducerEntry
  | named (name : String)
  /-- An entry whose parts may be missing. -/
  | described (name function : Option String)
deriving DecidableEq, Repr

/-- The reducers as they are asked for. -/
inductive ReducerRequest
  | one (name : String)
  | many (entries : List ReducerEntry)
deriving DecidableEq, Repr

/-- A reducer, and the name it was asked for by. -/
structure NamedReducer where
  name : String
  reducer : Reducer
deriving DecidableEq, Repr

namespace ReducerEntry

def name? : ReducerEntry → Option String
  | named name => some name
  | described name _ => name

def function? : ReducerEntry → Option String
  | named _ => none
  | described _ function => function

/-- The reducer that an entry asks for, when `earlier` were resolved before it. -/
def resolve (entry : ReducerEntry) (position total : Nat) (earlier : List NamedReducer) :
    Except Error NamedReducer :=
  match entry.name? with
  | none => .error (.configuration (.unnamedReducer position total))
  | some name =>
      if name ∈ earlier.map (·.name) then
        .error (.configuration (.repeatedName position total name))
      else
        match entry.function? with
        | some function => .error (.customReducer position total name function)
        | none =>
            match Reducer.ofName? name with
            | none => .error (.configuration (.unknownReducer position total name))
            | some reducer =>
                if reducer ∈ earlier.map (·.reducer) then
                  .error (.configuration (.repeatedReducer position total name reducer))
                else .ok ⟨name, reducer⟩

/-- The reducers that some entries ask for, after `earlier` ones. -/
def resolveFrom (total : Nat) (earlier : List NamedReducer) :
    List ReducerEntry → Except Error (List NamedReducer)
  | [] => .ok earlier
  | entry :: rest => do
      let found ← entry.resolve (earlier.length + 1) total earlier
      resolveFrom total (earlier ++ [found]) rest

/-- The reducers that a list of entries asks for. -/
def resolveAll (entries : List ReducerEntry) : Except Error (List NamedReducer) :=
  if entries.isEmpty then .error (.configuration .noReducers)
  else resolveFrom entries.length [] entries

end ReducerEntry

namespace ReducerRequest

/-- The sum, unless something else is asked for. -/
def usual : ReducerRequest := one Reducer.sum.name

def entries : ReducerRequest → List ReducerEntry
  | one name => [.named name]
  | many entries => entries

end ReducerRequest

/-- The name of a column reduced by one of several reducers, or by a single one. -/
def NamedReducer.columnName (column : String) (r : NamedReducer) (several : Bool) : String :=
  if several then s!"{column}_{r.name}" else column

end Cadence
