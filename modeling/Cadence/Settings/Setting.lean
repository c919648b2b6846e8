/-! # Raw settings

What a settings text says before anyone asks what it means: texts, flags, numbers,
lists and records. Settings are written as TOML documents or as JSON values, and
the two differ in a few forms that stand for the same thing. -/

namespace Cadence

/-- A value of a settings text. -/
inductive Setting
  | text (s : String)
  | flag (b : Bool)
  | integer (n : Int)
  /-- A floating-point number, which no setting uses. -/
  | real
  | nothing
  | list (items : List Setting)
  | record (entries : List (String × Setting))
deriving Inhabited, Repr

/-- How settings are written. -/
inductive SettingFormat
  | toml
  | json
deriving DecidableEq, Repr

namespace Setting

def text? : Setting → Option String
  | text s => some s
  | _ => none

def flag? : Setting → Option Bool
  | flag b => some b
  | _ => none

def list? : Setting → Option (List Setting)
  | list items => some items
  | _ => none

/-- A list of texts. -/
def texts? (s : Setting) : Option (List String) := do
  let items ← s.list?
  items.mapM text?

/-- A text, or nothing. -/
def textOrNothing? : Setting → Option (Option String)
  | nothing => some none
  | s => s.text?.map some

/-- The entries of a record. -/
def entries? : Setting → Option (List (String × Setting))
  | record entries => some entries
  | _ => none

/-- The entries of a section whose fields are `names`: those of a record, or the
items of a list, which are named in the order of the fields. A JSON list holds no
items beyond them. -/
def fields? (format : SettingFormat) (names : List String) :
    Setting → Option (List (String × Setting))
  | record entries => some entries
  | list items =>
      if format = .json ∧ names.length < items.length then none else some (names.zip items)
  | _ => none

/-- Whether a value says nothing more: null in JSON, an empty record or list in
TOML. -/
def isVacant (format : SettingFormat) (s : Setting) : Bool :=
  match format, s with
  | .json, nothing | .toml, list [] | .toml, record [] => true
  | _, _ => false

/-- The name of an alternative: a text, or the only entry of a record, whose value
says nothing more. -/
def alternative? (format : SettingFormat) : Setting → Option String
  | text name => some name
  | record [(name, s)] => if s.isVacant format then some name else none
  | _ => none

mutual

/-- Whether a value holds no integers but those of 64 bits, with a sign or
without. -/
def isCompact : Setting → Bool
  | integer n => -9223372036854775808 ≤ n && n ≤ 18446744073709551615
  | list items => areCompact items
  | record entries => entriesAreCompact entries
  | _ => true

def areCompact : List Setting → Bool
  | [] => true
  | s :: rest => s.isCompact && areCompact rest

def entriesAreCompact : List (String × Setting) → Bool
  | [] => true
  | (_, s) :: rest => s.isCompact && entriesAreCompact rest

end

/-- An entry that has to be there. -/
def required? {α : Type} (entries : List (String × Setting)) (name : String)
    (read : Setting → Option α) : Option α :=
  (entries.lookup name).bind read

/-- An entry that may be missing. -/
def optional? {α : Type} (entries : List (String × Setting)) (name : String)
    (read : Setting → Option α) (usual : α) : Option α :=
  match entries.lookup name with
  | none => some usual
  | some s => read s

end Setting

end Cadence
