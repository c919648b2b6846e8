import Cadence.Settings.Setting

/-! # Tables of a TOML document

A document fills a tree of tables, entry by entry and header by header. How a
table came into being decides what may be added to it later: a header opens a
table once, dotted keys lead through tables that no header opened, and they add
entries only to tables that dotted keys brought into being. -/

namespace Cadence.Toml

/-- How a table came into being. -/
inductive Origin
  /-- On the way to a table deeper down. -/
  | implied
  | dottedKey
  | header
deriving DecidableEq, Repr

/-- An entry of a table. -/
inductive Item
  | value (v : Setting)
  | table (origin : Origin) (entries : List (String × Item))
  /-- A list of tables, each opened by a header of its own. -/
  | tables (elements : List (List (String × Item)))
deriving Inhabited, Repr

/-- The entries of a table in the order in which they appeared. -/
abbrev Entries := List (String × Item)

namespace Entries

/-- Changes the item of a name, which may be missing. -/
def alter? (name : String) (f : Option Item → Option Item) : Entries → Option Entries
  | [] => do
      let item ← f none
      return [(name, item)]
  | (other, item) :: rest =>
      if other = name then do
        let item ← f (some item)
        return (name, item) :: rest
      else do
        let rest ← alter? name f rest
        return (other, item) :: rest

/-- Changes the last of some tables. -/
def alterLast? (f : Entries → Option Entries) (elements : List Entries) :
    Option (List Entries) := do
  let last ← elements.getLast?
  let last ← f last
  return elements.dropLast ++ [last]

/-- Changes the table at the end of a path. Tables on the way that are missing
come into being by `origin`. -/
def descend? (origin : Origin) (f : Entries → Option Entries) : List String → Entries → Option Entries
  | [], entries => f entries
  | name :: path, entries =>
      alter? name (fun item =>
        match item with
        | none => (descend? origin f path []).map (.table origin)
        | some (.table existing inner) =>
            if origin = .dottedKey ∧ existing = .header then none
            else (descend? origin f path inner).map (.table existing)
        | some (.tables elements) => (alterLast? (descend? origin f path) elements).map .tables
        | some (.value _) => none) entries

/-- The path before the last name, and that name. -/
def splitLast? (path : List String) : Option (List String × String) :=
  path.getLast?.map (path.dropLast, ·)

/-- Adds a value that is not there. -/
def add? (name : String) (v : Setting) : Entries → Option Entries :=
  alter? name fun item => if item.isNone then some (.value v) else none

/-- Adds a value to a table that dotted keys brought into being, or brings one into
being with it. -/
def addDotted? (table name : String) (v : Setting) : Entries → Option Entries :=
  alter? table fun item =>
    match item with
    | none => some (.table .dottedKey [(name, .value v)])
    | some (.table .dottedKey inner) => (add? name v inner).map (.table .dottedKey)
    | _ => none

/-- Adds a value under a dotted key. -/
def insert? (key : List String) (v : Setting) (entries : Entries) : Option Entries := do
  let (path, name) ← splitLast? key
  match splitLast? path with
  | none => add? name v entries
  | some (path, table) => descend? .dottedKey (addDotted? table name v) path entries

/-- Opens a table by its header. -/
def openTable? (key : List String) (entries : Entries) : Option Entries := do
  let (path, name) ← splitLast? key
  descend? .implied
    (alter? name fun item =>
      match item with
      | none => some (.table .header [])
      | some (.table .implied inner) => some (.table .header inner)
      | _ => none) path entries

/-- Opens one more table of a list of tables. -/
def openElement? (key : List String) (entries : Entries) : Option Entries := do
  let (path, name) ← splitLast? key
  descend? .implied
    (alter? name fun item =>
      match item with
      | none => some (.tables [[]])
      | some (.tables elements) => some (.tables (elements ++ [[]]))
      | _ => none) path entries

end Entries

mutual

/-- What an item says. -/
def Item.setting : Item → Setting
  | .value v => v
  | .table _ entries => .record (settings entries)
  | .tables elements => .list (records elements)

def settings : List (String × Item) → List (String × Setting)
  | [] => []
  | (name, item) :: rest => (name, item.setting) :: settings rest

def records : List (List (String × Item)) → List Setting
  | [] => []
  | entries :: rest => .record (settings entries) :: records rest

end

end Cadence.Toml
