import Cadence.Proofs.Window.Assignment
import Cadence.Table.Basic
import Cadence.TimeAxis

/-!
# Selected rows

A selection of a selection is a selection, and filtering a selection filters its
row numbers. The time axis of a selection reads the instants of its rows. So every
table that is sorted and filtered stays a list of row numbers of the first one.
-/

namespace Cadence

/-! ### Row numbers -/

/-- The places of a list name its items. -/
theorem map_getD_range {α : Type} (l : List α) (x : α) :
    (List.range l.length).map (fun i => l.getD i x) = l := by
  apply List.ext_getElem
  · simp
  · intro i _ hi
    simp [hi]

/-- The places of the items that pass a test name these items. -/
theorem map_getD_filter_range {α : Type} (l : List α) (x : α) (keep : α → Bool) :
    ((List.range l.length).filter fun i => keep (l.getD i x)).map (fun i => l.getD i x) =
      l.filter keep := by
  have hmap := List.filter_map (f := fun i => l.getD i x) (p := keep) (l := List.range l.length)
  rw [map_getD_range] at hmap
  exact hmap.symm

/-- A traversal that succeeds on a list succeeds on its items at some places. -/
theorem mapM_getD {ε α β : Type} {f : α → Except ε β} {xs : List α} {ys : List β}
    (h : xs.mapM f = .ok ys) {places : List Nat} (hplaces : ∀ i ∈ places, i < xs.length) (x : α)
    (y : β) : (places.map fun i => xs.getD i x).mapM f = .ok (places.map fun i => ys.getD i y) := by
  rw [mapM_eq_ok_iff, List.forall₂_map_left_iff, List.forall₂_map_right_iff, List.forall₂_same]
  intro i hi
  have hlt := hplaces i hi
  obtain ⟨result, hresult, hf⟩ := getElem?_of_mapM_eq_ok h (List.getElem?_eq_getElem hlt)
  have hitem : xs.getD i x = xs[i] := by simp [hlt]
  have hplaced : ys.getD i y = result := by simp [hresult]
  rw [hitem, hplaced, hf]

/-! ### Columns -/

namespace Column

variable {c d : Column} {rows places : List Nat}

theorem eq_of_cells_eq (hfield : c.toField = d.toField) (hcells : c.cells = d.cells) : c = d := by
  cases c
  cases d
  cases hfield
  cases hcells
  rfl

@[simp] theorem cells_select (c : Column) (rows : List Nat) :
    (c.select rows).cells = rows.map c.cell :=
  c.cellsAt_eq rows

theorem cell_eq_getElem {row : Nat} (h : row < c.cells.length) : c.cell row = c.cells[row] := by
  simp [cell, h]

theorem cell_select {place : Nat} (h : place < rows.length) :
    (c.select rows).cell place = c.cell (rows.getD place 0) := by
  simp [cell, h]

theorem map_cell_range (c : Column) : (List.range c.cells.length).map c.cell = c.cells :=
  map_getD_range c.cells .null

/-- All rows of a column, in some order, hold its cells. -/
theorem perm_map_cell (h : rows.Perm (List.range c.cells.length)) :
    (rows.map c.cell).Perm c.cells := by
  have hcells := h.map c.cell
  rwa [map_cell_range] at hcells

theorem perm_cells_select (h : rows.Perm (List.range c.cells.length)) :
    (c.select rows).cells.Perm c.cells := by
  rw [cells_select]
  exact perm_map_cell h

theorem select_range (c : Column) : c.select (List.range c.cells.length) = c := by
  apply eq_of_cells_eq
  · rfl
  · rw [cells_select, map_cell_range]

theorem select_select (h : ∀ place ∈ places, place < rows.length) :
    (c.select rows).select places = c.select (places.map fun place => rows.getD place 0) := by
  apply eq_of_cells_eq
  · rfl
  · simp only [cells_select, List.map_map]
    apply List.map_congr_left
    intro place hplace
    exact cell_select (h place hplace)

theorem nullCount_eq_zero_iff :
    c.nullCount = 0 ↔ c.type = .nothing ∨ .null ∉ c.cells := by
  unfold nullCount
  split
  · next hnothing => exact iff_of_true rfl (.inl hnothing)
  · next hvalues =>
      rw [List.countP_eq_zero, or_iff_right hvalues]
      constructor
      · intro h hnull
        exact h _ hnull rfl
      · intro h x hx heq
        exact h (eq_of_beq heq ▸ hx)

/-- Rows of a column that has no missing values have none. -/
theorem nullCount_select (h : c.nullCount = 0) (hrows : ∀ row ∈ rows, row < c.cells.length) :
    (c.select rows).nullCount = 0 := by
  rw [nullCount_eq_zero_iff] at h ⊢
  apply h.imp_right
  intro hvalues hnull
  obtain ⟨row, hrow, hnull⟩ := List.mem_map.mp (c.cells_select rows ▸ hnull)
  rw [cell_eq_getElem (hrows row hrow)] at hnull
  exact hvalues (hnull ▸ List.getElem_mem _)

end Column

/-! ### Tables -/

namespace Table

variable {t u : Table} {rows places : List Nat} {name : String}

theorem eq_of_columns_eq (hheight : t.height = u.height) (hcolumns : t.columns = u.columns) :
    t = u := by
  cases t
  cases u
  cases hheight
  cases hcolumns
  rfl

@[simp] theorem height_select (t : Table) (rows : List Nat) :
    (t.select rows).height = rows.length := rfl

theorem schema_select (t : Table) (rows : List Nat) : (t.select rows).schema = t.schema := by
  change (t.columns.map (·.select rows)).map (·.toField) = t.columns.map (·.toField)
  rw [List.map_map]
  rfl

theorem select_range (t : Table) : t.select (List.range t.height) = t := by
  apply eq_of_columns_eq
  · simp
  · change t.columns.map (fun c => c.select (List.range t.height)) = t.columns
    conv_rhs => rw [← List.map_id t.columns]
    apply List.map_congr_left
    intro c hc
    rw [← t.uniform c hc]
    exact c.select_range

theorem select_select (h : ∀ place ∈ places, place < rows.length) :
    (t.select rows).select places = t.select (places.map fun place => rows.getD place 0) := by
  apply eq_of_columns_eq
  · simp
  · change (t.columns.map (·.select rows)).map (·.select places) = t.columns.map _
    rw [List.map_map]
    apply List.map_congr_left
    intro c _
    exact Column.select_select h

/-- A test of rows keeps the numbers that pass it. -/
theorem filterRows_select {test : Nat → Bool} {keep : Nat → Bool}
    (h : ∀ place < rows.length, test place = keep (rows.getD place 0)) :
    (t.select rows).filterRows test = t.select (rows.filter keep) := by
  have hplaces : (List.range rows.length).filter test =
      (List.range rows.length).filter fun place => keep (rows.getD place 0) := by
    apply List.filter_congr
    intro place hplace
    exact h place (List.mem_range.mp hplace)
  rw [filterRows, height_select, hplaces, select_select, map_getD_filter_range]
  intro place hplace
  exact List.mem_range.mp (List.mem_of_mem_filter hplace)

theorem column?_select : (t.select rows).column? name = (t.column? name).map (·.select rows) := by
  change (t.columns.map (·.select rows)).find? (·.name = name) = _
  rw [List.find?_map]
  rfl

theorem find?_schema (t : Table) (name : String) :
    t.schema.find? (·.name = name) = (t.column? name).map (·.toField) := by
  rw [schema, List.find?_map]
  rfl

theorem length_of_column? {c : Column} (h : t.column? name = some c) :
    c.cells.length = t.height :=
  t.uniform c (List.mem_of_find?_eq_some h)

end Table

/-! ### Time axes -/

namespace TimeAxis

variable {axis : TimeAxis} {c : Column} {rows : List Nat} {name : String} {instants : List Int}

/-- The instant of a row. -/
def instantAt (axis : TimeAxis) (row : Nat) : Int := axis.instants.getD row 0

/-- The axis of the given rows. -/
def select (axis : TimeAxis) (rows : List Nat) : TimeAxis where
  instants := rows.map axis.instantAt
  zone := axis.zone
  label := axis.label

theorem instants_select_subset (h : ∀ row ∈ rows, row < axis.instants.length) :
    (axis.select rows).instants ⊆ axis.instants := by
  intro i hi
  obtain ⟨row, hrow, rfl⟩ := List.mem_map.mp hi
  have hlt := h row hrow
  rw [instantAt, List.getD_eq_getElem?_getD, List.getElem?_eq_getElem hlt]
  exact List.getElem_mem hlt

theorem instantsOf_select (h : instantsOf c = .ok instants)
    (hrows : ∀ row ∈ rows, row < c.cells.length) :
    instantsOf (c.select rows) = .ok (rows.map fun row => instants.getD row 0) := by
  have htype : (c.select rows).type = c.type := rfl
  unfold instantsOf at h ⊢
  rw [htype]
  split at h
  · next resolution _ =>
      cases h
      rw [Column.cells_select, List.map_map]
      apply congrArg Except.ok
      apply List.map_congr_left
      intro row hrow
      simp [Column.cell_eq_getElem (hrows row hrow), hrows row hrow]
  · rw [Column.cells_select]
    exact mapM_getD h hrows _ _
  · rw [Column.cells_select]
    exact mapM_getD h hrows _ _
  · cases h

/-- The time axis of selected rows reads their instants. -/
theorem ofTable_select [Zone.Database] {t : Table} (h : ofTable t name = .ok axis)
    (hrows : ∀ row ∈ rows, row < t.height) :
    ofTable (t.select rows) name = .ok (axis.select rows) := by
  obtain ⟨c, hc, htemporal, hnone, hinstants, hlabel, hzone⟩ := ofTable_eq_ok_iff.mp h
  rw [← Table.length_of_column? hc] at hrows
  refine ofTable_eq_ok_iff.mpr ⟨c.select rows, ?_, htemporal, Column.nullCount_select hnone hrows,
    instantsOf_select hinstants hrows, hlabel, hzone⟩
  rw [Table.column?_select, hc]
  rfl

theorem instantAt_select {place : Nat} (h : place < rows.length) :
    (axis.select rows).instantAt place = axis.instantAt (rows.getD place 0) := by
  simp [instantAt, select, h]

theorem instantsOf_column (h : ∀ i ∈ instants, Counter.Fits i) :
    instantsOf (axis.column name instants) = .ok instants := by
  have hread : ∀ i ∈ instants, ofTimestamp .nanosecond i = i := by
    intro i hi
    have hfits : Counter.fit? (i * 1) = some i :=
      Counter.fit?_eq_some_iff.mpr ⟨(Int.mul_one i).symm ▸ h i hi, Int.mul_one i⟩
    exact congrArg (Option.getD · 0) hfits
  change Except.ok ((instants.map Cell.int).map fun x => ofTimestamp .nanosecond x.slot) = _
  rw [List.map_map]
  exact congrArg Except.ok ((List.map_congr_left hread).trans (List.map_id _))

/-- The columns of an axis depend on its zone alone, as the column of times names it. -/
theorem column_eq_of_label_eq {axis' : TimeAxis} (h : axis'.label = axis.label) :
    axis'.column = axis.column := by
  obtain ⟨_, _, label⟩ := axis'
  obtain rfl : label = axis.label := h
  rfl

/-- Selected rows of a column of instants hold their instants. -/
theorem select_column (axis : TimeAxis) (name : String) {places : List Nat}
    (h : ∀ place ∈ places, place < instants.length) :
    (axis.column name instants).select places =
      axis.column name (places.map fun place => instants.getD place 0) := by
  apply Column.eq_of_cells_eq
  · rfl
  · change ((axis.column name instants).select places).cells = (places.map _).map Cell.int
    rw [Column.cells_select, List.map_map]
    apply List.map_congr_left
    intro place hplace
    have hlt := h place hplace
    have hcells : place < (axis.column name instants).cells.length := by
      rwa [column, List.length_map]
    rw [Column.cell_eq_getElem hcells]
    simp [column, hlt]

end TimeAxis

end Cadence
