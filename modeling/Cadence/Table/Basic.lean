import Cadence.Table.Cell

/-! # Tables

A table is a list of columns of one height. Lookups by name find the first
column of that name. Every rearrangement of rows goes through `select`, which
takes rows by their numbers. -/

namespace Cadence

/-- What a column is before it has rows. -/
structure Field where
  name : String
  type : ColumnType
  nullable : Bool
deriving DecidableEq, Repr

/-- A named column. Its cells belong to its type. -/
structure Column extends Field where
  cells : List Cell
  fits : ∀ x ∈ cells, x.fits type = true
deriving DecidableEq, Repr

namespace Column

/-- The column of these cells, if its type admits them. -/
def ofCells? (field : Field) (cells : List Cell) : Option Column :=
  if h : ∀ x ∈ cells, x.fits field.type = true then
    some { toField := field, cells, fits := h }
  else none

/-- The cell of a row; beyond the end there is nothing. -/
def cell (c : Column) (row : Nat) : Cell := c.cells.getD row .null

theorem fits_cell (c : Column) (row : Nat) : (c.cell row).fits c.type = true := by
  unfold cell
  rw [List.getD_eq_getElem?_getD]
  cases h : c.cells[row]? with
  | none => simp
  | some x => exact c.fits x (List.mem_of_getElem? h)

/-- Cells of the rows in the given order. -/
def cellsAt (c : Column) (rows : List Nat) : List Cell :=
  let cells := c.cells.toArray
  rows.map fun row => cells.getD row .null

@[simp] theorem cellsAt_eq (c : Column) (rows : List Nat) : c.cellsAt rows = rows.map c.cell := by
  simp [cellsAt, cell, List.getD_eq_getElem?_getD, Array.getD_eq_getD_getElem?]

/-- The column of the given rows, in their order. -/
def select (c : Column) (rows : List Nat) : Column where
  toField := c.toField
  cells := c.cellsAt rows
  fits := by
    intro x hx
    rw [cellsAt_eq, List.mem_map] at hx
    obtain ⟨row, -, rfl⟩ := hx
    exact c.fits_cell row

@[simp] theorem length_select (c : Column) (rows : List Nat) :
    (c.select rows).cells.length = rows.length := by
  simp [select]

/-- Whether a row holds a value. A column without values has no marks for
missing ones, so each of its rows counts. -/
def isValid (c : Column) (row : Nat) : Bool := c.type == .nothing || c.cell row != .null

/-- The number of rows marked as missing. -/
def nullCount (c : Column) : Nat :=
  if c.type = .nothing then 0 else c.cells.countP (· == .null)

end Column

/-- Columns of one height. -/
structure Table where
  height : Nat
  columns : List Column
  uniform : ∀ c ∈ columns, c.cells.length = height
deriving DecidableEq, Repr

namespace Table

/-- The table of these columns, if each has the height. -/
def ofHeight? (height : Nat) (columns : List Column) : Option Table :=
  if h : ∀ c ∈ columns, c.cells.length = height then some ⟨height, columns, h⟩ else none

/-- The table of these columns, if they have one height. -/
def ofColumns? (columns : List Column) : Option Table :=
  ofHeight? ((columns.head?.map (·.cells.length)).getD 0) columns

/-- The first column of a name. -/
def column? (t : Table) (name : String) : Option Column :=
  t.columns.find? (·.name = name)

/-- The columns without their rows. -/
def schema (t : Table) : List Field := t.columns.map (·.toField)

/-- The table of the given rows, in their order. -/
def select (t : Table) (rows : List Nat) : Table where
  height := rows.length
  columns := t.columns.map (·.select rows)
  uniform := by
    intro c hc
    obtain ⟨d, -, rfl⟩ := List.mem_map.1 hc
    exact d.length_select rows

/-- The rows for which a test holds, in their order. -/
def filterRows (t : Table) (keep : Nat → Bool) : Table :=
  t.select ((List.range t.height).filter keep)

/-- The cells of one row. -/
def row (t : Table) (i : Nat) : List Cell := t.columns.map (·.cell i)

end Table

end Cadence
