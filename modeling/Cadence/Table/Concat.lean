import Cadence.Error
import Cadence.Table.Basic

/-! # Tables one after another

Tables are joined end to end, column by column in the order of the columns. The
first table gives the names; the others have to agree with it in types. -/

namespace Cadence

namespace Column

/-- A column and later ones of its type, end to end. -/
def append (c : Column) (later : List Column) (h : ∀ d ∈ later, d.type = c.type) : Column where
  toField := c.toField
  cells := c.cells ++ later.flatMap (·.cells)
  fits := by
    intro x hx
    rw [List.mem_append, List.mem_flatMap] at hx
    obtain hx | ⟨d, hd, hx⟩ := hx
    · exact c.fits x hx
    · exact h d hd ▸ d.fits x hx

/-- The columns end to end, if they have one type and no null comes into a column
that must not hold one. -/
def append? (c : Column) (later : List Column) : Option Column :=
  if h : ∀ d ∈ later, d.type = c.type then
    let joined := c.append later h
    if c.nullable = true ∨ joined.nullCount = 0 then some joined else none
  else none

end Column

namespace Table

/-- The columns of a table, each with those at its position in later tables. -/
def appendColumns? (t : Table) (later : List Table) : Option (List Column) :=
  t.columns.zipIdx.mapM fun c => do
    let others ← later.mapM fun u : Table => u.columns[c.2]?
    c.1.append? others

/-- The tables end to end. A single table stands for itself. -/
def concat (tables : List Table) : Except Error Table :=
  match tables with
  | [] => .error (.data .noTables)
  | [t] => .ok t
  | t :: later =>
      let height := tables.foldl (fun rows t => rows + t.height) 0
      match (t.appendColumns? later).bind (ofHeight? height) with
      | some joined => .ok joined
      | none => .error (.data .unlikeTables)

end Table

end Cadence
