import Cadence.Proofs.Reducer.Parts
import Cadence.Proofs.Resampler.Keeping
import Mathlib.Algebra.BigOperators.Ring.Finset

/-!
# Conservation

No value is lost on the way through windows, and none is counted twice. Every row of a
table is in exactly one window, so what the outputs of a reducer say together is what the
column itself says.
-/

namespace Cadence

/-- The integers of a column. -/
def Column.ints (c : Column) : List Int := c.cells.filterMap Cell.int?

theorem Column.ints_ofInts (name : String) (numbers : List (Option Int)) :
    (ofInts name numbers).ints = numbers.filterMap id := by
  rw [ints, ofInts, List.filterMap_map]
  congr 1
  funext n
  cases n <;> rfl

namespace Reducer

/-- What the outputs `d` of a reducer keep of a column `c`. The outputs of `count` add up
to the number of its values, and those of `identity` hold its cells. For 64-bit integers,
the sums add up to the sum, and the best of the best ones is the best one. -/
def Conserves (r : Reducer) (c d : Column) : Prop :=
  match r with
  | count => d.ints.sum = (c.cells.countP (· ≠ .null) : Nat)
  | sum => c.type = .int64 → d.ints.sum = c.ints.sum
  | max => c.type = .int64 → d.ints.max? = c.ints.max?
  | min => c.type = .int64 → d.ints.min? = c.ints.min?
  | identity => (d.cells.flatMap Cell.items).Perm c.cells
  | mean => True

variable {r : Reducer} {c c' d : Column} {windows : List (List Nat)}

/-- The order of the rows of a column does not matter. -/
theorem Conserves.of_perm (h : r.Conserves c d) (htype : c.type = c'.type)
    (hcells : c.cells.Perm c'.cells) : r.Conserves c' d := by
  have hints : c.ints.Perm c'.ints := hcells.filterMap _
  cases r with
  | count => exact h.trans (congrArg Nat.cast (hcells.countP_eq _))
  | sum => exact fun h64 => (h (htype.trans h64)).trans hints.sum_eq
  | max => exact fun h64 => (h (htype.trans h64)).trans (pick_eq_of_perm max?_pick hints)
  | min => exact fun h64 => (h (htype.trans h64)).trans (pick_eq_of_perm min?_pick hints)
  | identity => exact List.Perm.trans h hcells
  | mean => trivial

/-! ### Reductions of all rows -/

variable (hrows : windows.flatten.Perm (List.range c.cells.length))
include hrows

theorem intsAt_flatten_perm : ((windows.map c.intsAt).flatten).Perm c.ints := by
  have hflatten := c.intsAt_flatMap id windows
  rw [List.flatMap_id] at hflatten
  change (windows.map fun rows => c.intsAt (id rows)).flatten.Perm _
  rw [← hflatten, Column.intsAt_eq]
  exact (Column.perm_map_cell hrows).filterMap _

theorem conserves_of_count (htype : c.type ≠ .nothing) (h : count.reduce c windows = .ok d) :
    count.Conserves c d := by
  have hcounts : ∀ rows : List Nat, rows.countP c.isValid =
      (rows.map c.cell).countP (· ≠ .null) := by
    intro rows
    rw [List.countP_map]
    apply List.countP_congr
    intro row _
    simp [Column.isValid, htype]
  cases h
  calc (Column.ofInts c.name (windows.map fun rows => some (rows.countP c.isValid : Int))).ints.sum
    _ = ((windows.map (List.countP c.isValid)).map Nat.cast).sum := by
        rw [Column.ints_ofInts, List.filterMap_map, List.map_map]
        exact congrArg List.sum (congrFun List.filterMap_eq_map windows)
    _ = (windows.flatten.countP c.isValid : Nat) := by
        rw [List.countP_flatten, Nat.cast_list_sum]
    _ = (c.cells.countP (· ≠ .null) : Nat) := by
        rw [hcounts, (Column.perm_map_cell hrows).countP_eq]

theorem conserves_of_folds (hr : r.Folds) (h : r.reduce c windows = .ok d) :
    r.Conserves c d := by
  have hperm := intsAt_flatten_perm hrows
  have hnumbers : c.type = .int64 → ∃ numbers,
      (windows.map c.intsAt).Forall₂ (fun part n => r.fold? part = some n) numbers ∧
        d.ints = numbers.filterMap id := by
    intro htype
    obtain ⟨numbers, hnumbers, rfl⟩ := (reduce_eq_ok_iff hr htype).mp h
    exact ⟨numbers, List.forall₂_map_left_iff.mpr hnumbers, Column.ints_ofInts _ _⟩
  rcases hr with rfl | rfl | rfl
  · intro htype
    obtain ⟨numbers, hnumbers, hints⟩ := hnumbers htype
    obtain ⟨sums, hsums, rfl⟩ := forall₂_map_some_iff.mp hnumbers
    have htotals : (windows.map c.intsAt).map List.sum = sums := by
      apply forall₂_some_iff.mp
      exact hsums.imp fun part sum hsum => congrArg some (total?_eq_sum hsum).symm
    rw [hints, List.filterMap_map, ← hperm.sum_eq, List.sum_flatten, htotals]
    simp
  · intro htype
    obtain ⟨numbers, hnumbers, hints⟩ := hnumbers htype
    rw [hints, ← forall₂_some_iff.mp hnumbers, List.filterMap_map]
    exact (pick_filterMap_pick max?_pick List.max?_eq_none_iff _).trans
      (pick_eq_of_perm max?_pick hperm)
  · intro htype
    obtain ⟨numbers, hnumbers, hints⟩ := hnumbers htype
    rw [hints, ← forall₂_some_iff.mp hnumbers, List.filterMap_map]
    exact (pick_filterMap_pick min?_pick List.min?_eq_none_iff _).trans
      (pick_eq_of_perm min?_pick hperm)

theorem conserves_of_identity (h : identity.reduce c windows = .ok d) :
    identity.Conserves c d := by
  dsimp only [reduce] at h
  split at h
  · cases h
    have hitems : (c.ofLists windows).cells.flatMap Cell.items = windows.flatten.map c.cell := by
      rw [Column.cells_ofLists, List.flatMap_map, List.map_flatten, List.flatMap_def]
      rfl
    rw [Conserves, hitems]
    exact Column.perm_map_cell hrows
  · cases h

/-- What a reducer makes of windows that hold every row once keeps what it counts. -/
theorem conserves_of_reduce (htype : c.type ≠ .nothing) (h : r.reduce c windows = .ok d) :
    r.Conserves c d := by
  cases r with
  | count => exact conserves_of_count hrows htype h
  | sum => exact conserves_of_folds hrows (.inl rfl) h
  | max => exact conserves_of_folds hrows (.inr (.inl rfl)) h
  | min => exact conserves_of_folds hrows (.inr (.inr rfl)) h
  | identity => exact conserves_of_identity hrows h
  | mean => trivial

end Reducer

/-! ### Runs -/

namespace Resampler

variable {r : Resampler} {t out : Table}

/-- A table that is resampled is conserved: the columns after the leading ones are, target by
target, one for each reducer, and each of them keeps what its reducer counts. -/
theorem transform_conserves [Zone.Database]
    (hpolicy : r.policy = .keep) (h : (r.transform t).outcome = .ok out) :
    ∃ names outputs, r.targetNames t = .ok names ∧
      out.columns.drop r.leading = outputs.flatten ∧
      names.Forall₂ (fun name columns => ∃ c, t.column? name = some c ∧
        r.reducers.Forall₂ (fun named d =>
          d.name = named.columnName name (r.reducers.length > 1) ∧
            (c.type ≠ .nothing → named.reducer.Conserves c d)) columns) outputs := by
  obtain ⟨line, hline, hout⟩ := (transform_outcome_eq_ok_iff hpolicy).mp h
  obtain ⟨a, names, keys, outputs, ha, hnames, hkeys, houtputs, -, hcolumns, -⟩ :=
    summaryTable_eq_ok_iff.mp hout
  obtain ⟨haxis, -⟩ := Timeline.ofTable_spec hline
  have hpartition := WindowSpec.partitions_of_assign (TimeAxis.ofTable_spec haxis).1 ha
  obtain ⟨axis, -, rfl⟩ := Timeline.ofTable_eq_ok_iff.mp hline
  dsimp only at hnames hkeys houtputs hpartition
  generalize hrows : axis.arrange (List.range t.height) = rows at *
  have hperm : rows.Perm (List.range t.height) := hrows ▸ List.mergeSort_perm _ _
  refine ⟨names, outputs, r.targetNames_select t rows ▸ hnames, ?_, ?_⟩
  · rw [hcolumns]
    exact List.drop_left' (length_leadingColumns hkeys)
  · apply houtputs.imp
    rintro name columns ⟨sorted, hsorted, hreduces⟩
    rw [Table.column?_select, Option.map_eq_some_iff] at hsorted
    obtain ⟨c, hc, rfl⟩ := hsorted
    have hwindows : (a.windows.map (·.rows)).flatten.Perm
        (List.range (c.select rows).cells.length) := by
      rw [Column.length_select, ← List.flatMap_def]
      exact hpartition.perm
    have hcells : (c.select rows).cells.Perm c.cells :=
      Column.perm_cells_select (Table.length_of_column? hc ▸ hperm)
    refine ⟨c, hc, hreduces.imp ?_⟩
    rintro named _ ⟨reduced, hreduced, rfl⟩
    refine ⟨rfl, fun htype => ?_⟩
    exact (Reducer.conserves_of_reduce hwindows htype hreduced).of_perm rfl hcells

theorem transform_conserves_loads :
    ∃ out names outputs, (hourlyLoads.transform .loads).outcome = .ok out ∧
      hourlyLoads.targetNames .loads = .ok names ∧
      out.columns.drop hourlyLoads.leading = outputs.flatten ∧
      names.Forall₂ (fun name columns => ∃ c, Table.loads.column? name = some c ∧
        hourlyLoads.reducers.Forall₂ (fun named d =>
          d.name = named.columnName name (hourlyLoads.reducers.length > 1) ∧
            (c.type ≠ .nothing → named.reducer.Conserves c d)) columns) outputs := by
  obtain ⟨out, hout⟩ := exists_transform_loads (r := hourlyLoads) rfl rfl
    WindowSpec.assign_loads (by decide +kernel)
  obtain ⟨names, outputs, hall⟩ := transform_conserves rfl hout
  exact ⟨out, names, outputs, hout, hall⟩

end Resampler

end Cadence
