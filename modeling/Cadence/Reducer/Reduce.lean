import Cadence.Error
import Cadence.Numeric.Counter
import Cadence.Table.Basic

/-! # Reduction

A reduction turns the rows of each window into one cell. Counts and lists work
on every column. Integers of 64 bits are added up exactly and compared as
integers; all other numbers are reduced as binary64 numbers. Missing values take
part in lists only. -/

namespace Cadence

namespace Column

/-- A column of integers and nulls. -/
def ofInts (name : String) (numbers : List (Option Int)) : Column where
  name := name
  type := .int64
  nullable := true
  cells := numbers.map Cell.ofInt?
  fits := by
    intro x hx
    obtain ⟨n, -, rfl⟩ := List.mem_map.1 hx
    cases n <;> rfl

/-- A column of floating-point numbers and nulls. -/
def ofFloats (name : String) (numbers : List (Option Float)) : Column where
  name := name
  type := .float64
  nullable := true
  cells := numbers.map fun x => x.elim .null fun x => .float x.toBits
  fits := by
    intro x hx
    obtain ⟨n, -, rfl⟩ := List.mem_map.1 hx
    cases n <;> rfl

/-- Where the rows of each window start when all are laid end to end, and where
the last ones end. -/
def offsetsFrom (start : Nat) : List (List Nat) → List Nat
  | [] => [start]
  | rows :: rest => start :: offsetsFrom (start + rows.length) rest

/-- The offsets of windows laid end to end from the start. -/
def offsets (windows : List (List Nat)) : List Nat := offsetsFrom 0 windows

theorem length_offsetsFrom (start : Nat) (windows : List (List Nat)) :
    (offsetsFrom start windows).length = windows.length + 1 := by
  induction windows generalizing start with
  | nil => rfl
  | cons rows rest ih => simp [offsetsFrom, ih]

/-- The cells between neighbouring offsets. -/
def pieces (cells : List Cell) (offsets : List Nat) : List (List Cell) :=
  let cells := cells.toArray
  (offsets.zip offsets.tail).map fun p => (cells.extract p.1 p.2).toList

@[simp] theorem length_pieces (cells : List Cell) (windows : List (List Nat)) :
    (pieces cells (offsets windows)).length = windows.length := by
  simp [pieces, offsets, length_offsetsFrom]

theorem mem_of_mem_pieces {cells piece : List Cell} {offsets : List Nat}
    (h : piece ∈ pieces cells offsets) {x : Cell} (hx : x ∈ piece) : x ∈ cells := by
  obtain ⟨p, -, rfl⟩ := List.mem_map.1 h
  rw [Array.toList_extract] at hx
  exact List.mem_of_mem_drop (List.mem_of_mem_take hx)

/-- A column with a list for each window: the cells of its rows. The cells of all
windows lie end to end, and the offsets cut them into lists. -/
def ofLists (c : Column) (windows : List (List Nat)) : Column where
  name := c.name
  type := .list c.type
  nullable := true
  cells := (pieces (c.cellsAt windows.flatten) (offsets windows)).map .list
  fits := by
    intro x hx
    obtain ⟨piece, hpiece, rfl⟩ := List.mem_map.1 hx
    simp only [Cell.fits, Cell.fitsAll_eq, List.all_eq_true]
    intro y hy
    have h := mem_of_mem_pieces hpiece hy
    rw [cellsAt_eq, List.mem_map] at h
    obtain ⟨row, -, rfl⟩ := h
    exact c.fits_cell row

@[simp] theorem length_ofInts (name : String) (numbers : List (Option Int)) :
    (ofInts name numbers).cells.length = numbers.length := by
  simp [ofInts]

@[simp] theorem length_ofFloats (name : String) (numbers : List (Option Float)) :
    (ofFloats name numbers).cells.length = numbers.length := by
  simp [ofFloats]

@[simp] theorem length_ofLists (c : Column) (windows : List (List Nat)) :
    (c.ofLists windows).cells.length = windows.length := by
  simp [ofLists]

/-- The integers among the cells of some rows. -/
def intsAt (c : Column) (rows : List Nat) : List Int := (c.cellsAt rows).filterMap Cell.int?

/-- The numbers among the cells of some rows, as binary64 numbers. -/
def floatsAt (c : Column) (rows : List Nat) : List Float := (c.cellsAt rows).filterMap Cell.float?

end Column

namespace Reducer

/-- The exact total of some integers, if every step of adding them up from the
left stays within a counter. -/
def total? (numbers : List Int) : Option Int :=
  numbers.foldlM (fun sum n => Counter.fit? (sum + n)) 0

/-- The mean of some numbers, added up from the left. -/
def mean? (numbers : List Float) : Option Float :=
  if numbers.isEmpty then none
  else some (numbers.foldl (· + ·) 0.0 / Float.ofNat numbers.length)

/-- The better of two numbers. One that is not a number gives way, and of equals
the last stays. -/
def prefer (isWorse : Float → Float → Bool) (a b : Float) : Float :=
  if a.isNaN || isWorse a b then b else a

/-- The best of some numbers. -/
def best? (isWorse : Float → Float → Bool) : List Float → Option Float
  | [] => none
  | x :: rest => some (rest.foldl (prefer isWorse) x)

/-- One number for a window of numbers; the sum of nothing is negative zero. -/
def ofFloats (r : Reducer) (numbers : List Float) : Option Float :=
  match r with
  | sum => some (numbers.foldl (· + ·) (-0.0))
  | max => best? (fun a b => a ≤ b) numbers
  | min => best? (fun a b => b ≤ a) numbers
  | _ => mean? numbers

/-- One cell for each window of a column of 64-bit integers. -/
def reduceInts (r : Reducer) (c : Column) (windows : List (List Nat)) : Except Error Column :=
  match r with
  | sum => do
      let sums ← windows.mapM fun rows =>
        (total? (c.intsAt rows)).elim (.error (.data .sumOverflow)) .ok
      return .ofInts c.name (sums.map some)
  | max => .ok (.ofInts c.name (windows.map fun rows => (c.intsAt rows).max?))
  | min => .ok (.ofInts c.name (windows.map fun rows => (c.intsAt rows).min?))
  | _ => .ok (.ofFloats c.name (windows.map fun rows => mean? (c.floatsAt rows)))

/-- One cell for each window of a column of numbers. -/
def reduceNumbers (r : Reducer) (c : Column) (windows : List (List Nat)) : Except Error Column :=
  if c.type = .int64 then r.reduceInts c windows
  else if c.type.isNumeric then
    .ok (.ofFloats c.name (windows.map fun rows => r.ofFloats (c.floatsAt rows)))
  else .error (.data (.unsupportedType r c.type))

/-- The most values that the lists of a column hold together. -/
def listCapacity : Nat := 2147483647

/-- The column of the reduced windows, one cell for each. -/
def reduce (r : Reducer) (c : Column) (windows : List (List Nat)) : Except Error Column :=
  match r with
  | count => .ok (.ofInts c.name (windows.map fun rows => some (rows.countP c.isValid : Nat)))
  | identity =>
      if (Column.offsets windows).all (· ≤ listCapacity) then .ok (c.ofLists windows)
      else .error (.data .listCapacity)
  | sum | max | min | mean => r.reduceNumbers c windows

end Reducer

end Cadence
