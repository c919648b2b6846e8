import Cadence.Proofs.Resampler.Policies
import Cadence.Proofs.Table.TimeOrder
import Cadence.Proofs.Window.FewerRows
import Cadence.TimeFilter

/-!
# Partiality before filters

Whether a window is partial is measured on all rows and looked up, by the key of the
window, for the rows that a filter leaves. On a clock that never changes, every window
of these rows finds the mark of the window that it was.
-/

namespace Cadence

/-! ### Filters -/

/-- What a filter leaves are rows of the table, in their order. -/
def RowFilter.Thins (filter : RowFilter) : Prop :=
  ∀ t out, (filter t).outcome = .ok out →
    ∃ rows : List Nat, rows.Sublist (List.range t.height) ∧ out = t.select rows

theorem TimeFilter.thins [Zone.Database] (f : TimeFilter) : RowFilter.Thins f.transform := by
  intro t out h
  rw [transform, Journaled.outcome_noting] at h
  obtain ⟨mask, -, h⟩ := bind_eq_ok_iff.mp h
  cases h
  exact ⟨_, List.filter_sublist, rfl⟩

/-! ### Marks -/

/-- Keys that tell the items of a list apart look up the values of the items. -/
theorem lookup_map_of_mem {α β γ : Type} [DecidableEq β] (key : α → β) (value : α → γ)
    {l : List α} {x : α} (hkeys : ∀ y ∈ l, key y = key x → y = x) (hx : x ∈ l) :
    (l.map fun y => (key y, value y)).lookup (key x) = some (value x) := by
  induction l with
  | nil => cases hx
  | cons y l ih =>
      rw [List.map_cons, List.lookup_cons]
      by_cases heq : key x = key y
      · cases hkeys y List.mem_cons_self heq.symm
        simp
      · rw [beq_eq_false_iff_ne.mpr heq]
        rcases List.mem_cons.mp hx with rfl | hx
        · exact absurd rfl heq
        · exact ih (fun z hz => hkeys z (List.mem_cons_of_mem y hz)) hx

theorem Window.isPartial_eq_ok {w : Window} (h : Counter.Fits w.bounds.elapsed) (interval : Int) :
    w.isPartial interval = .ok (isShort w.bounds.elapsed interval w.distinct) :=
  bind_eq_ok_iff.mpr ⟨_, Counter.require_eq_ok_iff.mpr ⟨h, rfl⟩, rfl⟩

/-- A snapshot marks every window whose length a counter can hold. -/
theorem Snapshot.marksOf_eq_ok {a : Assignment}
    (h : ∀ w ∈ a.windows, Counter.Fits w.bounds.elapsed) (interval : Int) :
    marksOf a interval = .ok (a.windows.map fun w =>
      (a.keyOf w, Window.isShort w.bounds.elapsed interval w.distinct)) := by
  rw [marksOf, mapM_eq_ok_iff, List.forall₂_map_right_iff, List.forall₂_same]
  intro w hw
  exact bind_eq_ok_iff.mpr ⟨_, Window.isPartial_eq_ok (h w hw) interval, rfl⟩

theorem Snapshot.capture_outcome {a : Assignment} {instants : List Int} {detection : Detection}
    {interval : Int} {marks : List (WindowKey × Bool)}
    (hinterval : Frequency.ofInstants detection instants = .ok interval)
    (hmarks : marksOf a interval = .ok marks) :
    (capture a instants detection).outcome = .ok ⟨interval, marks⟩ := by
  simp only [capture, Frequency.detect, Journaled.outcome_bind, Journaled.outcome_noting,
    Journaled.outcome_lift, hinterval, ok_bind, hmarks, Journaled.outcome_pure]

/-- On a clock that never changes, counters can hold the lengths of all windows. -/
theorem WindowSpec.fits_elapsed_of_assign {spec : WindowSpec} {t : Table} {axis : TimeAxis}
    {a : Assignment} {w : Window} (hperiod : Period.ofDuration spec.every = .ok spec.period)
    (hzone : axis.zone.WellFormed) (hfixed : axis.zone.transitions = [])
    (h : (spec.assign t axis).outcome = .ok a) (hw : w ∈ a.windows) :
    Counter.Fits w.bounds.elapsed := by
  obtain ⟨columns, shifted, bounds, -, -, hbounds, rfl⟩ := assign_eq_ok_iff.mp h
  rw [boundsFrom_eq_mapM_of_transitions_eq_nil hperiod hzone hfixed] at hbounds
  obtain ⟨row, -, hrow⟩ := Assignment.exists_row_of_window hw
  obtain ⟨instant, -, hwindow⟩ := exists_of_mapM_eq_ok hbounds (List.mem_of_getElem? hrow)
  exact Period.fits_elapsed hzone hfixed hperiod hwindow

/-! ### Filtered runs -/

namespace Resampler

variable [Zone.Database]
variable {r : Resampler} {filter : RowFilter} {t out : Table} {line rows : Timeline}
variable {full a : Assignment} {interval : Int} {snapshot : Snapshot}

/-- What is resampled are rows of the timeline, in their order. -/
theorem exists_select_of_rowsOf {filter : Option RowFilter} (hfilter : ∀ f ∈ filter, f.Thins)
    (hline : Timeline.ofTable t r.spec.timeColumn = .ok line) (h : r.rowsOf filter t = .ok rows) :
    ∃ places : List Nat, places.Sublist (List.range line.table.height) ∧
      rows = ⟨line.table.select places, line.axis.select places⟩ := by
  rw [rowsOf, hline, ok_bind] at h
  cases filter with
  | none =>
      cases h
      have hlength := (TimeAxis.ofTable_spec (Timeline.ofTable_spec hline).1).1
      refine ⟨_, List.Sublist.refl _, ?_⟩
      rw [Table.select_range, TimeAxis.select_range hlength]
  | some f =>
      rw [filtered, Journaled.outcome_bind] at h
      obtain ⟨thinned, hthinned, h⟩ := bind_eq_ok_iff.mp h
      obtain ⟨places, hplaces, rfl⟩ := hfilter f rfl _ _ hthinned
      rw [Journaled.outcome_lift] at h
      cases h.symm.trans (Timeline.ofTable_of_sublist hline hplaces)
      exact ⟨places, hplaces, rfl⟩

/-- A filtered run resolves the windows of the rows that are left by the marks of the
snapshot. -/
theorem transformFiltered_outcome_of_snapshot
    (hline : Timeline.ofTable t r.spec.timeColumn = .ok line)
    (hsnapshot : (r.snapshot line).outcome = .ok (some snapshot))
    (hout : (filter line.table).outcome = .ok out)
    (hrows : Timeline.ofTable out r.spec.timeColumn = .ok rows)
    (ha : (r.spec.assign rows.table rows.axis).outcome = .ok a) :
    (r.transformFiltered filter t).outcome =
      r.summarize rows a.windows >>= fun s =>
        (r.policy.resolve s.table (a.windows.map fun w => snapshot.isPartial (a.keyOf w))
          (a.windows.map (·.bounds)) s.aggregated rows.axis.zone).outcome := by
  have hfiltered : (r.filtered (some filter) line).outcome = .ok rows := by
    simp only [filtered, Journaled.outcome_bind, Journaled.outcome_lift]
    exact bind_eq_ok_iff.mpr ⟨out, hout, hrows⟩
  simp only [transformFiltered, run, Journaled.outcome_bind, Journaled.outcome_lift,
    Journaled.outcome_noting, hline, ok_bind, hsnapshot, hfiltered, ha]
  rfl

/-- On a clock that never changes, whether a window of a filtered run is partial does
not depend on the filter: the window has the key of exactly one window of all rows, and
its mark says whether that one is partial at the interval of all rows. -/
theorem partiality_precedes_filter (hpolicy : r.policy ≠ .keep) (hfilter : filter.Thins)
    (hperiod : Period.ofDuration r.spec.every = .ok r.spec.period)
    (hline : Timeline.ofTable t r.spec.timeColumn = .ok line)
    (hfixed : line.axis.zone.transitions = [])
    (hfull : (r.spec.assign line.table line.axis).outcome = .ok full)
    (hinterval : Frequency.ofInstants r.detection line.axis.instants = .ok interval)
    (hout : (filter line.table).outcome = .ok out) :
    ∃ snapshot rows a, (r.snapshot line).outcome = .ok (some snapshot) ∧
      Timeline.ofTable out r.spec.timeColumn = .ok rows ∧
      (r.spec.assign rows.table rows.axis).outcome = .ok a ∧
      (r.transformFiltered filter t).outcome =
        (r.summarize rows a.windows >>= fun s =>
          (r.policy.resolve s.table (a.windows.map fun w => snapshot.isPartial (a.keyOf w))
            (a.windows.map (·.bounds)) s.aggregated rows.axis.zone).outcome) ∧
      ∀ w ∈ a.windows, (snapshot.marks.lookup (a.keyOf w)).isSome ∧
        ∃ v ∈ full.windows, full.keyOf v = a.keyOf w ∧
          (∀ u ∈ full.windows, full.keyOf u = a.keyOf w → u = v) ∧
          v.isPartial interval = .ok (snapshot.isPartial (a.keyOf w)) := by
  obtain ⟨haxis, -⟩ := Timeline.ofTable_spec hline
  obtain ⟨hlength, hzone⟩ := TimeAxis.ofTable_spec haxis
  obtain ⟨rows, hrows, rfl⟩ := hfilter _ _ hout
  obtain ⟨a, ha, hkeys⟩ := WindowSpec.assign_select hperiod hzone hfixed hlength
    (fun row hrow => List.mem_range.mp (hrows.subset hrow)) hfull
  obtain ⟨columns, hcolumns⟩ := WindowSpec.exists_groupColumns_of_assign hfull
  have hpartition := WindowSpec.partitions_of_assign hlength hfull
  have hgroups := WindowSpec.groups_of_assign hlength hcolumns hfull
  have hordered := WindowSpec.ordered_of_assign hfull
  have hfits := fun v (hv : v ∈ full.windows) =>
    WindowSpec.fits_elapsed_of_assign hperiod hzone hfixed hfull hv
  have hcapture := Snapshot.capture_outcome hinterval (Snapshot.marksOf_eq_ok hfits interval)
  have hsnapshot := (snapshot_outcome_of_ne_keep hpolicy line).trans
    (bind_eq_ok_iff.mpr ⟨full, hfull, bind_eq_ok_iff.mpr ⟨_, hcapture, rfl⟩⟩)
  have hline' := Timeline.ofTable_of_sublist hline hrows
  refine ⟨_, _, a, hsnapshot, hline', ha,
    transformFiltered_outcome_of_snapshot hline hsnapshot hout hline' ha, ?_⟩
  intro w hw
  obtain ⟨v, hv, hkey⟩ := hkeys w hw
  have hunique : ∀ u ∈ full.windows, full.keyOf u = full.keyOf v → u = v :=
    fun u hu => Assignment.eq_of_keyOf_eq hpartition hgroups hordered hu hv
  have hmark := lookup_map_of_mem full.keyOf
    (fun u => Window.isShort u.bounds.elapsed interval u.distinct) hunique hv
  rw [← hkey]
  refine ⟨?_, v, hv, rfl, hunique, ?_⟩
  · rw [hmark]
    rfl
  · rw [Snapshot.isPartial, hmark]
    exact Window.isPartial_eq_ok (hfits v hv) interval

/-- Nulls for the partial hours of the sites. -/
def hourOfSite : Resampler where
  spec := .hourOfSite
  policy := .null

end Resampler

/-- Takes the first row away. -/
def RowFilter.afterFirst : RowFilter := fun t => .lift (.ok (t.filterRows (0 < ·)))

theorem RowFilter.thins_afterFirst : RowFilter.Thins afterFirst := by
  intro t out h
  cases h
  exact ⟨_, List.filter_sublist, rfl⟩

/-- Without the first row the other site comes first, so that the groups are numbered
anew. -/
theorem Resampler.partiality_precedes_filter_sites :
    ∃ full snapshot out rows a, RowFilter.Thins .afterFirst ∧
      Timeline.ofTable .sites "ts" = .ok ⟨.sites, .sites⟩ ∧
      (hourOfSite.spec.assign .sites .sites).outcome = .ok full ∧
      Frequency.ofInstants hourOfSite.detection TimeAxis.sites.instants = .ok 1 ∧
      (RowFilter.afterFirst .sites).outcome = .ok out ∧
      (hourOfSite.snapshot ⟨.sites, .sites⟩).outcome = .ok (some snapshot) ∧
      Timeline.ofTable out "ts" = .ok rows ∧ rows.table.height = 3 ∧
      (hourOfSite.spec.assign rows.table rows.axis).outcome = .ok a ∧
      ∀ w ∈ a.windows, (snapshot.marks.lookup (a.keyOf w)).isSome ∧
        ∃ v ∈ full.windows, full.keyOf v = a.keyOf w ∧
          (∀ u ∈ full.windows, full.keyOf u = a.keyOf w → u = v) ∧
          v.isPartial 1 = .ok (snapshot.isPartial (a.keyOf w)) := by
  have hline : Timeline.ofTable .sites "ts" = .ok ⟨.sites, .sites⟩ :=
    Timeline.ofTable_of_isSorted rfl (by decide)
  have hfull : (hourOfSite.spec.assign .sites .sites).outcome =
      .ok (Assignment.ofRows .left
        [[.text "north"], [.text "south"], [.text "north"], [.text "south"]]
        (List.replicate 4 ⟨0, 3600000000000⟩) [0, 0, 0, 1] [0, 0, 0, 1]) :=
    WindowSpec.assign_eq_ok_iff.mpr ⟨_, _, _, rfl, rfl, rfl, rfl⟩
  have hinterval : Frequency.ofInstants .exact [0, 0, 0, 1] = .ok 1 := by
    have htimes : Frequency.distinct [0, 0, 0, 1] = [0, 1] := by
      rw [Frequency.distinct, List.mergeSort_of_pairwise (by decide)]
      rfl
    have hgaps : Frequency.distinct [1] = [1] := by
      rw [Frequency.distinct, List.mergeSort_singleton]
      rfl
    rw [Frequency.ofInstants, htimes]
    change Frequency.choose .exact [1] = .ok 1
    rw [Frequency.choose, hgaps]
  have hout : (RowFilter.afterFirst .sites).outcome = .ok (Table.sites.filterRows (0 < ·)) := rfl
  obtain ⟨snapshot, rows, a, hsnapshot, hrows, ha, -, hwindows⟩ :=
    partiality_precedes_filter (r := hourOfSite) (by decide) RowFilter.thins_afterFirst (by rfl)
      hline rfl hfull hinterval hout
  have hheight : rows.table.height = 3 := by
    have hkept := Timeline.ofTable_of_sublist hline
      (List.filter_sublist (l := List.range 4) (p := fun row => decide (0 < row)))
    cases hrows.symm.trans hkept
    rfl
  exact ⟨_, snapshot, _, rows, a, RowFilter.thins_afterFirst, hline, hfull, hinterval, hout,
    hsnapshot, hrows, hheight, ha, hwindows⟩

end Cadence
