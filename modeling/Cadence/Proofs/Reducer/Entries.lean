import Cadence.Proofs.Reducer.Sums
import Mathlib.Order.Bounds.Basic

/-!
# One entry for each window

The rows of all windows are gathered in one list, and offsets into it say where each window
ends. No value gets across an offset: the entry of a window is made of the cells of its own
rows, whichever other windows are reduced with it.
-/

namespace Cadence

namespace Column

variable {c d : Column} {rows : List Nat} {cells : List Cell} {windows : List (List Nat)}
variable {start i : Nat}

/-- A column holds these cells in some of its rows, in the order of the rows. -/
def Reads (c : Column) (rows : List Nat) (cells : List Cell) : Prop :=
  rows.Forall₂ (fun row x => c.cells[row]? = some x) cells

theorem Reads.map_cell (h : c.Reads rows cells) : rows.map c.cell = cells := by
  induction h with
  | nil => rfl
  | cons hx _ ih =>
      rw [List.map_cons, ih, cell, List.getD_eq_getElem?_getD, hx]
      rfl

theorem reads_map_cell (hrows : ∀ row ∈ rows, row < c.cells.length) :
    c.Reads rows (rows.map c.cell) := by
  rw [Reads, List.forall₂_map_right_iff, List.forall₂_same]
  intro row hrow
  rw [cell_eq_getElem (hrows row hrow), List.getElem?_eq_getElem]

/-! ### Offsets -/

/-- Each offset is the number of rows that were gathered before it. -/
theorem getElem?_offsetsFrom (h : i ≤ windows.length) :
    (offsetsFrom start windows)[i]? = some (start + (windows.take i).flatten.length) := by
  induction windows generalizing start i with
  | nil =>
      obtain rfl := Nat.le_zero.mp h
      rfl
  | cons rows rest ih =>
      cases i with
      | zero => rfl
      | succ i =>
          rw [offsetsFrom, List.getElem?_cons_succ, ih (Nat.le_of_succ_le_succ h),
            List.take_succ_cons, List.flatten_cons, List.length_append, Nat.add_assoc]

theorem start_le_of_mem_offsetsFrom {offset : Nat} (h : offset ∈ offsetsFrom start windows) :
    start ≤ offset := by
  induction windows generalizing start with
  | nil => exact Nat.le_of_eq (List.mem_singleton.mp h).symm
  | cons rows rest ih =>
      rcases List.mem_cons.mp h with rfl | h
      · exact Nat.le_refl _
      · exact (Nat.le_add_right start rows.length).trans (ih h)

theorem pairwise_offsetsFrom (start : Nat) (windows : List (List Nat)) :
    (offsetsFrom start windows).Pairwise (· ≤ ·) := by
  induction windows generalizing start with
  | nil => exact List.pairwise_singleton _ _
  | cons rows rest ih =>
      refine List.pairwise_cons.mpr ⟨?_, ih _⟩
      intro offset h
      exact (Nat.le_add_right start rows.length).trans (start_le_of_mem_offsetsFrom h)

theorem getElem?_offsets (h : i ≤ windows.length) :
    (offsets windows)[i]? = some (windows.take i).flatten.length := by
  rw [offsets, getElem?_offsetsFrom h, Nat.zero_add]

theorem getLast?_offsets (windows : List (List Nat)) :
    (offsets windows).getLast? = some windows.flatten.length := by
  rw [List.getLast?_eq_getElem?, offsets, length_offsetsFrom, Nat.add_sub_cancel]
  exact (getElem?_offsets (Nat.le_refl _)).trans (by rw [List.take_length])

theorem getElem?_pieces {offsets : List Nat} {stop : Nat} (hstart : offsets[i]? = some start)
    (hstop : offsets[i + 1]? = some stop) :
    (pieces cells offsets)[i]? = some (cells.extract start stop) := by
  have hpair : (offsets.zip offsets.tail)[i]? = some (start, stop) := by
    rw [List.getElem?_zip_eq_some, List.getElem?_tail]
    exact ⟨hstart, hstop⟩
  rw [pieces, List.getElem?_map, hpair, Option.map_some, Array.toList_extract]

/-- Lists that are cut at some offsets out of the cells of all windows, gathered in one list. -/
structure CutsAt (c : Column) (windows : List (List Nat)) (offsets : List Nat) (d : Column) :
    Prop where
  length_eq : offsets.length = windows.length + 1
  starts : offsets.head? = some 0
  ascends : offsets.Pairwise (· ≤ ·)
  ends : offsets.getLast? = some (windows.map List.length).sum
  cut : ∃ gathered, c.Reads windows.flatten gathered ∧ ∀ i < windows.length, ∃ start stop,
    offsets[i]? = some start ∧ offsets[i + 1]? = some stop ∧
      d.cells[i]? = some (.list (gathered.extract start stop))

theorem cutsAt_ofLists (hrows : ∀ rows ∈ windows, ∀ row ∈ rows, row < c.cells.length) :
    c.CutsAt windows (offsets windows) (c.ofLists windows) where
  length_eq := length_offsetsFrom 0 windows
  starts := by cases windows <;> rfl
  ascends := pairwise_offsetsFrom 0 windows
  ends := by rw [getLast?_offsets, List.length_flatten]
  cut := by
    refine ⟨c.cellsAt windows.flatten, ?_, ?_⟩
    · rw [cellsAt_eq]
      apply reads_map_cell
      intro row hrow
      obtain ⟨rows, hmem, hrow⟩ := List.mem_flatten.mp hrow
      exact hrows rows hmem row hrow
    · intro i hi
      have hstart := getElem?_offsets hi.le
      have hstop := getElem?_offsets (Nat.succ_le_of_lt hi)
      refine ⟨_, _, hstart, hstop, ?_⟩
      rw [ofLists, List.getElem?_map, getElem?_pieces hstart hstop, Option.map_some]

end Column

/-- A floating-point number, or null. -/
def Cell.ofFloat? (x : Option Float) : Cell := x.elim .null fun x => .float x.toBits

theorem Column.cells_ofInts_map (name : String) (f : List Nat → Option Int)
    (windows : List (List Nat)) :
    (ofInts name (windows.map f)).cells = windows.map fun rows => .ofInt? (f rows) :=
  List.map_map

theorem Column.cells_ofFloats_map (name : String) (f : List Nat → Option Float)
    (windows : List (List Nat)) :
    (ofFloats name (windows.map f)).cells = windows.map fun rows => .ofFloat? (f rows) :=
  List.map_map

theorem Column.floatsAt_eq (c : Column) (rows : List Nat) :
    c.floatsAt rows = (rows.map c.cell).filterMap Cell.float? := by
  rw [floatsAt, cellsAt_eq]

namespace Reducer

variable {r : Reducer} {c d : Column} {type : ColumnType} {cells : List Cell}
variable {windows : List (List Nat)}

/-! ### Success and failure -/

theorem offsets_le_capacity_iff :
    (Column.offsets windows).all (· ≤ listCapacity) = true ↔
      windows.flatten.length ≤ listCapacity := by
  simp only [List.all_eq_true, decide_eq_true_eq]
  constructor
  · intro h
    exact h _ (List.mem_of_getLast? (Column.getLast?_offsets windows))
  · intro h offset hoffset
    have hle := Column.le_of_mem_offsetsFrom hoffset
    omega

theorem reduce_identity_eq_ok_iff :
    identity.reduce c windows = .ok d ↔
      windows.flatten.length ≤ listCapacity ∧ c.ofLists windows = d := by
  rw [← offsets_le_capacity_iff]
  dsimp only [reduce]
  split <;> simp [*]

theorem reduceNumbers_of_not_numeric (h : c.type.isNumeric = false) :
    r.reduceNumbers c windows = .error (.data (.unsupportedType r c.type)) := by
  have htype : c.type ≠ .int64 := by
    intro htype
    rw [htype] at h
    cases h
  rw [reduceNumbers, if_neg htype, if_neg (Bool.eq_false_iff.mp h)]

/-- A reduction fails exactly for a reason to refuse the column or the windows. -/
theorem reduce_eq_error_iff {e : Error} :
    r.reduce c windows = .error e ↔ r.Refuses c windows e := by
  constructor
  · exact failsOnly_reduce r c windows e
  · intro h
    -- Each reason belongs to one way through the reduction, and that way ends in its error.
    cases h with
    | type hsupports =>
        cases r with
        | count | identity => cases hsupports
        | sum | max | min | mean => exact reduceNumbers_of_not_numeric hsupports
    | sum hr htype hrows htotal =>
        rw [hr, reduce_sum_eq_error_iff htype]
        exact ⟨⟨_, hrows, total?_eq_none_iff.mp htotal⟩, rfl⟩
    | lists hr hlarge =>
        rw [hr, reduce, if_neg]
        rw [offsets_le_capacity_iff]
        omega

/-! ### Entries -/

/-- The integer that a reducer makes of some integers, whether or not a counter can hold it. -/
def ofInts (r : Reducer) (numbers : List Int) : Option Int :=
  match r with
  | max => numbers.max?
  | min => numbers.min?
  | _ => some numbers.sum

theorem ofInts_of_fold? {numbers : List Int} {n : Option Int} (h : r.fold? numbers = some n) :
    r.ofInts numbers = n := by
  cases r with
  | max | min => exact Option.some.inj h
  | sum | mean | count | identity =>
      obtain ⟨total, htotal, rfl⟩ := Option.map_eq_some_iff.mp h
      exact congrArg some (total?_eq_sum htotal).symm

/-- The cell that a reducer makes of the cells of one window of a column of a type. -/
def entry (r : Reducer) (type : ColumnType) (cells : List Cell) : Cell :=
  match r with
  | count => .int (cells.countP fun x => type == .nothing || x != .null)
  | identity => .list cells
  | mean => .ofFloat? (mean? (cells.filterMap Cell.float?))
  | sum | max | min =>
      if type = .int64 then .ofInt? (r.ofInts (cells.filterMap Cell.int?))
      else .ofFloat? (r.ofFloats (cells.filterMap Cell.float?))

theorem cells_of_folds (hr : r.Folds) (htype : c.type = .int64) (h : r.reduce c windows = .ok d) :
    d.cells = windows.map fun rows => .ofInt? (r.ofInts (c.intsAt rows)) := by
  obtain ⟨numbers, hnumbers, rfl⟩ := (reduce_eq_ok_iff hr htype).mp h
  have hints : windows.map (fun rows => r.ofInts (c.intsAt rows)) = numbers :=
    forall₂_some_iff.mp (hnumbers.imp fun _ _ h => congrArg some (ofInts_of_fold? h))
  rw [← hints]
  exact Column.cells_ofInts_map _ _ _

theorem cells_of_floats (htype : c.type ≠ .int64) (h : r.reduceNumbers c windows = .ok d) :
    d.cells = windows.map fun rows => .ofFloat? (r.ofFloats (c.floatsAt rows)) := by
  rw [reduceNumbers, if_neg htype] at h
  split at h
  · cases h
    exact Column.cells_ofFloats_map _ _ _
  · cases h

theorem cells_of_numbers (hr : r.Folds) (h : r.reduce c windows = .ok d) :
    d.cells = windows.map fun rows => r.entry c.type (rows.map c.cell) := by
  by_cases htype : c.type = .int64
  · rw [cells_of_folds hr htype h]
    rcases hr with rfl | rfl | rfl <;> simp only [entry, if_pos htype, Column.intsAt_eq]
  · have hnumbers : r.reduceNumbers c windows = .ok d := by
      rcases hr with rfl | rfl | rfl <;> exact h
    rw [cells_of_floats htype hnumbers]
    rcases hr with rfl | rfl | rfl <;> simp only [entry, if_neg htype, Column.floatsAt_eq]

theorem cells_of_mean (h : mean.reduce c windows = .ok d) :
    d.cells = windows.map fun rows => mean.entry c.type (rows.map c.cell) := by
  simp only [entry, ← Column.floatsAt_eq]
  by_cases htype : c.type = .int64
  · rw [reduce, reduceNumbers, if_pos htype] at h
    cases h
    exact Column.cells_ofFloats_map _ _ _
  · exact cells_of_floats htype h

/-- The entries of a reduced column are made window by window. -/
theorem cells_of_reduce (h : r.reduce c windows = .ok d) :
    d.cells = windows.map fun rows => r.entry c.type (rows.map c.cell) := by
  cases r with
  | count =>
      cases h
      rw [Column.cells_ofInts_map]
      apply List.map_congr_left
      intro rows _
      rw [entry, List.countP_map]
      rfl
  | identity =>
      obtain ⟨-, rfl⟩ := reduce_identity_eq_ok_iff.mp h
      exact Column.cells_ofLists c windows
  | sum => exact cells_of_numbers (.inl rfl) h
  | max => exact cells_of_numbers (.inr (.inl rfl)) h
  | min => exact cells_of_numbers (.inr (.inr rfl)) h
  | mean => exact cells_of_mean h

/-! ### What an entry tells -/

/-- The best of the integers among some cells, and null exactly where all of them are null. -/
def IsBest (best : Set Int → Int → Prop) (cells : List Cell) (x : Cell) : Prop :=
  (x = .null ↔ ∀ y ∈ cells, y = .null) ∧
    (x ≠ .null → ∃ n, x = .int n ∧ best {m | .int m ∈ cells} n)

/-- What the entry `x` of a window tells about the cells of its rows. A column without values
marks none of its cells as missing, so all of them count. A mean is left to the arithmetic of
floating-point numbers. -/
def Tells (r : Reducer) (type : ColumnType) (cells : List Cell) (x : Cell) : Prop :=
  match r with
  | identity => x = .list cells
  | count => x = .int (cells.countP fun y => type = .nothing ∨ y ≠ .null)
  | max => type = .int64 → IsBest IsGreatest cells x
  | min => type = .int64 → IsBest IsLeast cells x
  | sum => type = .int64 → x = .int (cells.filterMap Cell.int?).sum
  | mean => True

theorem mem_filterMap_int? {n : Int} : n ∈ cells.filterMap Cell.int? ↔ .int n ∈ cells := by
  have hint : ∀ x : Cell, x.int? = some n ↔ x = .int n := by
    intro x
    cases x <;> simp [Cell.int?]
  simp only [List.mem_filterMap, hint, exists_eq_right]

theorem filterMap_int?_eq_nil_iff (hfits : ∀ y ∈ cells, y.fits .int64 = true) :
    cells.filterMap Cell.int? = [] ↔ ∀ y ∈ cells, y = .null := by
  rw [List.filterMap_eq_nil_iff]
  refine forall₂_congr fun y hy => ?_
  have hy := hfits y hy
  cases y <;> simp_all [Cell.int?, Cell.fits, ColumnType.int64]

theorem isBest_ofInt? {pick : List Int → Option Int} {best : Set Int → Int → Prop}
    (hnone : ∀ {l}, pick l = none ↔ l = [])
    (hbest : ∀ {l n}, pick l = some n → best {m | m ∈ l} n)
    (hfits : ∀ y ∈ cells, y.fits .int64 = true) :
    IsBest best cells (.ofInt? (pick (cells.filterMap Cell.int?))) := by
  have hmembers : {m | m ∈ cells.filterMap Cell.int?} = {m | .int m ∈ cells} :=
    Set.ext fun m => mem_filterMap_int?
  -- Only nulls are left out of the integers, so both parts are about what `pick` finds.
  rw [IsBest, ← filterMap_int?_eq_nil_iff hfits, ← hnone]
  cases hpick : pick (cells.filterMap Cell.int?) with
  | none => exact ⟨iff_of_true rfl rfl, fun h => absurd rfl h⟩
  | some n =>
      refine ⟨iff_of_false nofun nofun, fun _ => ⟨n, rfl, ?_⟩⟩
      rw [← hmembers]
      exact hbest hpick

theorem tells_entry (r : Reducer) (hfits : ∀ y ∈ cells, y.fits type = true) :
    r.Tells type cells (r.entry type cells) := by
  cases r with
  | identity => rfl
  | count =>
      apply congrArg (fun n : Nat => Cell.int n)
      apply List.countP_congr
      simp
  | max =>
      rintro rfl
      refine isBest_ofInt? List.max?_eq_none_iff (fun h => ?_) hfits
      obtain ⟨hmem, hgreatest⟩ := max?_pick.mp h
      exact ⟨hmem, fun m hm => hgreatest m hm⟩
  | min =>
      rintro rfl
      refine isBest_ofInt? List.min?_eq_none_iff (fun h => ?_) hfits
      obtain ⟨hmem, hleast⟩ := min?_pick.mp h
      exact ⟨hmem, fun m hm => hleast m hm⟩
  | sum =>
      rintro rfl
      rfl
  | mean => trivial

/-- A column `d` with an entry for each window, which tells about the rows of that window. -/
structure IsReduction (r : Reducer) (c : Column) (windows : List (List Nat)) (d : Column) :
    Prop where
  entries : windows.Forall₂ (fun rows x => ∃ cells, c.Reads rows cells ∧ r.Tells c.type cells x)
    d.cells
  /-- A window that reads the same cells has the same entry, whatever column of the type it
  reads them from and whatever windows are beside it. -/
  agrees : ∀ c' windows' d', c'.type = c.type → r.reduce c' windows' = .ok d' →
    ∀ (i j : Nat) (rows rows' : List Nat) (cells : List Cell),
      windows[i]? = some rows → windows'[j]? = some rows' →
        c.Reads rows cells → c'.Reads rows' cells → d.cells[i]? = d'.cells[j]?
  lists : r = identity → c.CutsAt windows (Column.offsets windows) d

theorem reads_entry (hrows : ∀ rows ∈ windows, ∀ row ∈ rows, row < c.cells.length)
    (h : r.reduce c windows = .ok d) :
    windows.Forall₂ (fun rows x => ∃ cells, c.Reads rows cells ∧ r.Tells c.type cells x)
      d.cells := by
  rw [cells_of_reduce h, List.forall₂_map_right_iff, List.forall₂_same]
  intro rows hmem
  refine ⟨_, Column.reads_map_cell (hrows rows hmem), tells_entry r ?_⟩
  intro y hy
  obtain ⟨row, -, rfl⟩ := List.mem_map.mp hy
  exact c.fits_cell row

theorem getElem?_of_reduce {i : Nat} {rows : List Nat} (h : r.reduce c windows = .ok d)
    (hi : windows[i]? = some rows) (hcells : c.Reads rows cells) :
    d.cells[i]? = some (r.entry c.type cells) := by
  rw [cells_of_reduce h, List.getElem?_map, hi, Option.map_some, hcells.map_cell]

/-- A reduction fails exactly for a reason to refuse the column or its windows. What it makes
of windows whose rows are in the column is one entry for each. -/
theorem reduce_outcome (hrows : ∀ rows ∈ windows, ∀ row ∈ rows, row < c.cells.length)
    (r : Reducer) :
    (∀ e, r.reduce c windows = .error e ↔ r.Refuses c windows e) ∧
      ∀ d, r.reduce c windows = .ok d → r.IsReduction c windows d := by
  refine ⟨fun e => reduce_eq_error_iff, fun d h => ⟨reads_entry hrows h, ?_, ?_⟩⟩
  · intro c' windows' d' htype h' i j rows rows' cells hi hj hcells hcells'
    rw [getElem?_of_reduce h hi hcells, getElem?_of_reduce h' hj hcells', htype]
  · rintro rfl
    obtain ⟨-, rfl⟩ := reduce_identity_eq_ok_iff.mp h
    exact Column.cutsAt_ofLists hrows

end Reducer

/-- Levels of which two are missing. -/
def Column.tide : Column :=
  ⟨⟨"level", .int64, true⟩, [.int 4, .null, .int (-2), .int 9, .null], by decide⟩

/-- A window out of order, an empty one, one without values and one that repeats its row. -/
def tideWindows : List (List Nat) := [[2, 0, 1], [], [4, 1], [3, 3]]

namespace Reducer

theorem reduce_outcome_tide :
    (∀ rows ∈ tideWindows, ∀ row ∈ rows, row < Column.tide.cells.length) ∧
      identity.IsReduction .tide tideWindows (.ofLists .tide tideWindows) ∧
      (Column.tide.ofLists tideWindows).cells =
        [.list [.int (-2), .int 4, .null], .list [], .list [.null, .null],
          .list [.int 9, .int 9]] ∧
      Column.offsets tideWindows = [0, 3, 3, 5, 7] ∧
      count.IsReduction .tide tideWindows (.ofInts "level" [some 2, some 0, some 0, some 2]) ∧
      max.IsReduction .tide tideWindows (.ofInts "level" [some 4, none, none, some 9]) ∧
      min.IsReduction .tide tideWindows (.ofInts "level" [some (-2), none, none, some 9]) := by
  have hrows : ∀ rows ∈ tideWindows, ∀ row ∈ rows, row < Column.tide.cells.length := by decide
  exact ⟨hrows, (reduce_outcome hrows identity).2 _ rfl, rfl, rfl,
    (reduce_outcome hrows count).2 _ rfl, (reduce_outcome hrows max).2 _ rfl,
    (reduce_outcome hrows min).2 _ rfl⟩

end Reducer

end Cadence
