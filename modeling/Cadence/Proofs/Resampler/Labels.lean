import Cadence.Proofs.Resampler.Partiality
import Cadence.Proofs.Resampler.Setup
import Cadence.Proofs.Window.Labels

/-!
# Rows of a result

Whatever a policy does to partial windows, the rows of a result are windows of an
assignment, in their order, and the columns before the reduced ones are the keys and the
times of these windows. So what the windows of a group have in common with their labels is
read off the result: on a clock that never changes they ascend from row to row.
-/

namespace Cadence

/-! ### Rows that a policy leaves -/

/-- A policy takes rows away or clears reduced columns, and does nothing else to a table. -/
theorem Policy.exists_rows_of_resolve {policy : Policy} {t out : Table} {flags : List Bool}
    {bounds : List Bounds} {aggregated : List Nat} {zone : Zone} {first : Nat}
    (haggregated : ∀ j ∈ aggregated, first ≤ j)
    (h : (policy.resolve t flags bounds aggregated zone).outcome = .ok out) :
    ∃ rows : List Nat, rows.Sublist (List.range t.height) ∧ out.height = rows.length ∧
      out.columns.take first = (t.columns.take first).map (·.select rows) := by
  have hall : (t.columns.take first).map (·.select (List.range t.height)) =
      t.columns.take first := by
    rw [List.map_take]
    exact congrArg (·.columns.take first) t.select_range
  have hkept : ∃ rows : List Nat, rows.Sublist (List.range t.height) ∧ t.height = rows.length ∧
      t.columns.take first = (t.columns.take first).map (·.select rows) :=
    ⟨_, List.Sublist.refl _, List.length_range.symm, hall.symm⟩
  by_cases hflagged : true ∈ flags
  · rw [resolve_outcome_of_flagged hflagged] at h
    cases policy with
    | keep =>
        cases h
        exact hkept
    | drop =>
        dsimp only [apply] at h
        split at h
        · cases h
        · cases h
          exact ⟨_, List.filter_sublist, rfl, List.map_take.symm⟩
    | null =>
        dsimp only [apply] at h
        split at h
        · cases h
        · split at h
          · cases h
            have hcolumns : (t.nullAt flags aggregated).columns.take first =
                t.columns.take first := by
              apply List.ext_getElem?
              intro j
              rw [List.getElem?_take, List.getElem?_take]
              split
              · next hj =>
                  have hfree : j ∉ aggregated := fun hmem =>
                    absurd (haggregated j hmem) (Nat.not_le.mpr hj)
                  simp [Table.nullAt, hfree]
              · rfl
            rw [hcolumns]
            exact hkept
          · cases h
    | fail => cases h
  · rw [resolve_outcome_of_unflagged hflagged] at h
    cases h
    exact hkept

/-! ### Windows by their places -/

namespace Resampler

variable {r : Resampler} {filter : Option RowFilter} {t out : Table} {axis : TimeAxis}
variable {windows : List Window} {rows : Timeline}

/-- Selected rows of the leading columns are the leading columns of the selected windows. -/
theorem leadingColumns_select (r : Resampler) (keys : List Column) (axis : TimeAxis)
    {places : List Nat} (h : ∀ place ∈ places, place < windows.length) (w : Window) :
    (r.leadingColumns keys axis windows).map (·.select places) =
      r.leadingColumns keys axis (places.map fun place => windows.getD place w) := by
  have hgetD : ∀ {α : Type} (f : Window → α) (x : α),
      places.map (fun place => (windows.map f).getD place x) =
        (places.map fun place => windows.getD place w).map f := by
    intro α f x
    rw [List.map_map]
    apply List.map_congr_left
    intro place hplace
    simp [h place hplace]
  have htimes : ∀ (name : String) (f : Window → Int),
      (axis.column name (windows.map f)).select places =
        axis.column name ((places.map fun place => windows.getD place w).map f) := by
    intro name f
    rw [TimeAxis.select_column, hgetD]
    simpa using h
  have hkeys : ∀ c : Column, (c.select (windows.map fun w => w.rows.headD 0)).select places =
      c.select ((places.map fun place => windows.getD place w).map fun w => w.rows.headD 0) := by
    intro c
    rw [Column.select_select, hgetD]
    simpa using h
  rw [leadingColumns, leadingColumns, List.map_append, groupColumns, groupColumns, List.map_map]
  congr 1
  · apply List.map_congr_left
    intro c _
    exact hkeys c
  · unfold timeColumns
    cases r.boundaries <;> simp [htimes]

/-- A table has one row for each of some windows, which begins with the key and the times of
the window. -/
structure Shows (r : Resampler) (keys : List Column) (axis : TimeAxis) (windows : List Window)
    (out : Table) : Prop where
  height : out.height = windows.length
  leading : out.columns.take r.leading = r.leadingColumns keys axis windows

variable [Zone.Database]

/-- The rows of a result are some windows of an assignment, in their order. -/
theorem exists_shows_of_run (h : (r.run filter t).outcome = .ok out) :
    ∃ rows a keys kept, r.rowsOf filter t = .ok rows ∧
      (r.spec.assign rows.table rows.axis).outcome = .ok a ∧
      rows.table.groupColumns r.spec.groupBy = .ok keys ∧
      kept.Sublist a.windows ∧ r.Shows keys rows.axis kept out := by
  obtain ⟨rows, a, s, flags, hrows, ha, hs, hresolve⟩ := exists_resolved_of_run h
  have hsummarizes := summarizes_of_summarize hs
  obtain ⟨names, keys, reduced, -, hkeys, -, hheight, hcolumns, -⟩ := summarize_eq_ok_iff.mp hs
  have hleading : s.table.columns.take r.leading = r.leadingColumns keys rows.axis a.windows := by
    rw [hcolumns]
    exact List.take_left' (length_leadingColumns hkeys)
  obtain ⟨places, hplaces, hout, htake⟩ := Policy.exists_rows_of_resolve
    (fun j hj => ((hsummarizes.aggregated j).mp hj).1) hresolve
  rw [hheight] at hplaces
  have hlt : ∀ place ∈ places, place < a.windows.length := fun place hplace =>
    List.mem_range.mp (hplaces.subset hplace)
  let outside : Window := ⟨0, ⟨0, 0⟩, 0, [], 0⟩
  refine ⟨rows, a, keys, places.map fun place => a.windows.getD place outside, hrows, ha, hkeys,
    ?_, ?_, ?_⟩
  · have hsublist := hplaces.map fun place => a.windows.getD place outside
    rwa [map_getD_range] at hsublist
  · rw [hout, List.length_map]
  · rw [htake, hleading, leadingColumns_select r keys rows.axis hlt outside]

/-- What is left of a table keeps its zone. -/
theorem zone_of_rowsOf (hfilter : ∀ f ∈ filter, f.Thins)
    (haxis : TimeAxis.ofTable t r.spec.timeColumn = .ok axis)
    (h : r.rowsOf filter t = .ok rows) :
    TimeAxis.ofTable rows.table r.spec.timeColumn = .ok rows.axis ∧
      rows.axis.zone = axis.zone := by
  have hline := Timeline.ofTable_eq haxis
  obtain ⟨places, hplaces, rfl⟩ := exists_select_of_rowsOf hfilter hline h
  exact ⟨(Timeline.ofTable_spec (Timeline.ofTable_of_sublist hline hplaces)).1, rfl⟩

/-- On a clock that never changes, the rows of a result are windows with labels between their
ends, and from row to row of a group the windows come one after the other, with ever later
labels. -/
theorem labels_ascend_of_run (hbuilt : r.Built) (hfilter : ∀ f ∈ filter, f.Thins)
    (haxis : TimeAxis.ofTable t r.spec.timeColumn = .ok axis)
    (hfixed : axis.zone.transitions = []) (h : (r.run filter t).outcome = .ok out) :
    ∃ rows a keys kept, r.rowsOf filter t = .ok rows ∧
      (r.spec.assign rows.table rows.axis).outcome = .ok a ∧
      rows.table.groupColumns r.spec.groupBy = .ok keys ∧
      kept.Sublist a.windows ∧ r.Shows keys rows.axis kept out ∧
      (∀ w ∈ kept, w.bounds.lower ≤ w.label ∧ w.label ≤ w.bounds.upper) ∧
      kept.Pairwise fun v w =>
        Assignment.keyAt keys (v.rows.headD 0) = Assignment.keyAt keys (w.rows.headD 0) →
          v.bounds.Apart r.spec.closed w.bounds ∧ v.bounds.upper ≤ w.bounds.lower ∧
            v.label < w.label := by
  obtain ⟨rows, a, keys, kept, hrows, ha, hkeys, hkept, hshows⟩ := exists_shows_of_run h
  obtain ⟨hrowsAxis, hrowsZone⟩ := zone_of_rowsOf hfilter haxis hrows
  obtain ⟨hlength, hzone⟩ := TimeAxis.ofTable_spec hrowsAxis
  have hrowsFixed : rows.axis.zone.transitions = [] := hrowsZone ▸ hfixed
  refine ⟨rows, a, keys, kept, hrows, ha, hkeys, hkept, hshows, ?_, ?_⟩
  · intro w hw
    exact WindowSpec.label_mem_of_assign hbuilt.period hzone hrowsFixed ha (hkept.subset hw)
  · have hpartitions := WindowSpec.partitions_of_assign hlength ha
    have hgroups := WindowSpec.groups_of_assign hlength hkeys ha
    have hfirst : ∀ w ∈ a.windows, w.rows.headD 0 ∈ w.rows := by
      intro w hw
      have hne := hpartitions.nonempty w hw
      cases hrows : w.rows with
      | nil => exact absurd hrows hne
      | cons row others => exact List.mem_cons_self
    have hascending := (WindowSpec.ascending_of_assign hbuilt.period hzone hrowsFixed ha).sublist
      hkept
    apply hascending.imp_of_mem
    intro v w hv hw hgroup hkey
    have hv := hkept.subset hv
    have hw := hkept.subset hw
    exact hgroup
      ((hgroups.group_eq_iff v hv w hw _ (hfirst v hv) _ (hfirst w hw)).mpr hkey)

end Resampler

/-- Loads at the start and at the end of March 2021, the last two of them an hour and a half
apart. -/
def Table.monthEnd : Table where
  height := 3
  columns :=
    [⟨⟨"ts", .timestamp .nanosecond none, false⟩,
        [.int 1614556800000000000, .int 1617147000000000000, .int 1617152400000000000],
        by decide⟩,
      ⟨⟨"load", .int64, true⟩, [.int 1, .int 2, .int 3], by decide⟩]
  uniform := by decide

/-- The instants of March, on the common time line. -/
def TimeAxis.monthEnd : TimeAxis where
  instants := [1614556800000000000, 1617147000000000000, 1617152400000000000]
  zone := .fixed 0
  label := none

namespace Resampler

/-- Hours a month back, closed on the right, with the first instants for labels. -/
def monthBack : Resampler where
  spec :=
    { timeColumn := "ts", every := ⟨[⟨1, .h, one_lt_wordSize⟩]⟩, period := .fixed 3600000000000
      closed := .right, label := .datapoint
      offset := some ⟨⟨[⟨1, .mo, one_lt_wordSize⟩]⟩, ⟨1, 0, 0, 0⟩⟩ }

theorem built_monthBack : monthBack.Built :=
  ⟨"ts", "1h", [.closed .right, .label .datapoint, .startOffset "1mo"], by decide +kernel⟩

/-- The hours of the last two loads, a month back. -/
def monthEndHours : Assignment where
  windows :=
    [⟨0, ⟨1614470400000000000, 1614474000000000000⟩, 1614474000000000000, [1], 1⟩,
      ⟨0, ⟨1614553200000000000, 1614556800000000000⟩, 1614555000000000000, [0], 1⟩]
  groups := [[]]

theorem assign_monthEnd : (monthBack.spec.assign (Table.monthEnd.select [1, 2])
    (TimeAxis.monthEnd.select [1, 2])).outcome = .ok monthEndHours := by
  have hshifted : monthBack.spec.shifted (TimeAxis.monthEnd.select [1, 2]) =
      .ok [1614555000000000000, 1614474000000000000] := by decide +kernel
  have hbounds : monthBack.spec.boundsFrom (.fixed 0) none
      [1614555000000000000, 1614474000000000000] =
      .ok [⟨1614553200000000000, 1614556800000000000⟩,
        ⟨1614470400000000000, 1614474000000000000⟩] := by decide +kernel
  exact WindowSpec.assign_of_perm rfl hshifted hbounds (by decide) (by decide) rfl

/-- A month before the last two loads is the 28th of February both times, so the later one comes
first there. -/
theorem labels_ascend_of_run_monthEnd :
    ∃ out rows a keys kept, monthBack.Built ∧ RowFilter.Thins .afterFirst ∧
      TimeAxis.ofTable .monthEnd "ts" = .ok .monthEnd ∧ TimeAxis.monthEnd.zone.transitions = [] ∧
      (monthBack.run (some .afterFirst) .monthEnd).outcome = .ok out ∧ out.height = 2 ∧
      monthBack.rowsOf (some .afterFirst) .monthEnd = .ok rows ∧
      (monthBack.spec.assign rows.table rows.axis).outcome = .ok a ∧
      rows.table.groupColumns [] = .ok keys ∧
      kept.Sublist a.windows ∧ monthBack.Shows keys rows.axis kept out ∧
      (∀ w ∈ kept, w.bounds.lower ≤ w.label ∧ w.label ≤ w.bounds.upper) ∧
      kept.Pairwise fun v w =>
        Assignment.keyAt keys (v.rows.headD 0) = Assignment.keyAt keys (w.rows.headD 0) →
          v.bounds.Apart .right w.bounds ∧ v.bounds.upper ≤ w.bounds.lower ∧
            v.label < w.label := by
  have haxis : TimeAxis.ofTable .monthEnd "ts" = .ok .monthEnd := by rfl
  have hline := Timeline.ofTable_of_isSorted haxis (by decide)
  have hrows : monthBack.rowsOf (some .afterFirst) .monthEnd =
      .ok ⟨Table.monthEnd.select [1, 2], TimeAxis.monthEnd.select [1, 2]⟩ :=
    bind_eq_ok_iff.mpr ⟨_, hline, Timeline.ofTable_of_sublist hline
      (List.filter_sublist (l := List.range 3) (p := fun row => decide (0 < row)))⟩
  have hsummary : (monthBack.summarize
      ⟨Table.monthEnd.select [1, 2], TimeAxis.monthEnd.select [1, 2]⟩ monthEndHours.windows).map
      (·.table.height) = .ok 2 := by decide +kernel
  obtain ⟨s, hs, hheight⟩ := map_eq_ok_iff.mp hsummary
  have hrun : (monthBack.run (some .afterFirst) .monthEnd).outcome = .ok s.table := by
    rw [run_outcome_of_keep rfl, hrows]
    apply bind_eq_ok_iff.mpr ⟨_, rfl, _⟩
    exact bind_eq_ok_iff.mpr ⟨_, assign_monthEnd, bind_eq_ok_iff.mpr ⟨s, hs, rfl⟩⟩
  have hthins : ∀ f ∈ some RowFilter.afterFirst, f.Thins := by
    rintro f ⟨⟩
    exact RowFilter.thins_afterFirst
  obtain ⟨rows, a, keys, kept, hwindows⟩ :=
    labels_ascend_of_run built_monthBack hthins haxis rfl hrun
  exact ⟨s.table, rows, a, keys, kept, built_monthBack, RowFilter.thins_afterFirst, haxis, rfl,
    hrun, hheight, hwindows⟩

end Resampler

end Cadence
