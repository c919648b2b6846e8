import Cadence.Proofs.Frequency
import Cadence.Proofs.Reducer.Failure
import Cadence.Proofs.Resampler.Partiality
import Cadence.Proofs.Resampler.Setup
import Cadence.Proofs.Window.Failure

/-!
# Where runs stop

A resampler that could be built stops at its data only: at columns that it cannot work on, at
instants without a sampling interval, and at partial windows if it is to refuse them. What the
settings do not rule out are numbers that leave the range of a counter. Some of them come from
dates, gaps and cells at the far ends of that range, but one comes from the settings alone: an
offset may take more days than one step on the calendar can.
-/

namespace Cadence

/-! ### Times -/

/-- The column of a name holds a date whose nanoseconds no counter can hold. -/
def Table.HasFarDate (t : Table) (name : String) : Prop :=
  ∃ c ∈ t.column? name, ∃ x ∈ c.cells,
    c.type = .date32 ∧ ¬Counter.Fits (x.slot * nanosPerDay) ∨
      c.type = .date64 ∧ ¬Counter.Fits (x.slot * 1000000)

theorem Table.HasFarDate.of_select {t : Table} {name : String} {rows : List Nat}
    (h : (t.select rows).HasFarDate name) (hrows : ∀ row ∈ rows, row < t.height) :
    t.HasFarDate name := by
  obtain ⟨_, hc, x, hx, hfar⟩ := h
  rw [Table.column?_select, Option.mem_def, Option.map_eq_some_iff] at hc
  obtain ⟨c, hc, rfl⟩ := hc
  rw [Column.cells_select, List.mem_map] at hx
  obtain ⟨row, hrow, rfl⟩ := hx
  have hlt : row < c.cells.length := (Table.length_of_column? hc).symm ▸ hrows row hrow
  refine ⟨c, hc, c.cell row, ?_, hfar⟩
  rw [Column.cell_eq_getElem hlt]
  exact List.getElem_mem hlt

namespace TimeAxis

theorem failsOnly_ofTable [Zone.Database] (t : Table) (name : String) :
    FailsOnly (Error.IsDataOr (t.HasFarDate name)) (ofTable t name) := by
  unfold ofTable
  split
  · exact (refusesData_error _).isDataOr
  · next c hc =>
      have hinstants : FailsOnly (Error.IsDataOr (t.HasFarDate name)) (instantsOf c) := by
        unfold instantsOf
        split
        · exact FailsOnly.ok _
        · next htype =>
            exact FailsOnly.mapM fun x hx =>
              FailsOnly.overflow fun hfar => ⟨c, hc, x, hx, .inl ⟨htype, hfar⟩⟩
        · next htype =>
            exact FailsOnly.mapM fun x hx =>
              FailsOnly.overflow fun hfar => ⟨c, hc, x, hx, .inr ⟨htype, hfar⟩⟩
        · exact (refusesData_error _).isDataOr
      unfold ofColumn
      dsimp only
      split
      · split
        · exact (refusesData_error _).isDataOr
        · exact hinstants.bind fun _ _ => (refusesData_elim _ _).isDataOr.bind fun _ _ =>
            FailsOnly.ok _
      · exact (refusesData_error _).isDataOr

end TimeAxis

namespace Timeline

variable [Zone.Database] {t : Table} {name : String} {axis : TimeAxis} {line : Timeline}

/-- Rows are put in time order as soon as they have a time axis. -/
theorem failsOnly_ofTable (t : Table) (name : String) :
    FailsOnly (Error.IsDataOr (t.HasFarDate name)) (ofTable t name) := by
  intro e h
  cases haxis : TimeAxis.ofTable t name with
  | error e' =>
      cases (ofTable_eq_error haxis).symm.trans h
      exact TimeAxis.failsOnly_ofTable t name e haxis
  | ok axis => cases (ofTable_eq haxis).symm.trans h

theorem mem_instants_iff (haxis : TimeAxis.ofTable t name = .ok axis)
    (h : ofTable t name = .ok line) {i : Int} : i ∈ line.axis.instants ↔ i ∈ axis.instants := by
  cases h.symm.trans (ofTable_eq haxis)
  conv_rhs => rw [← TimeAxis.select_range (TimeAxis.ofTable_spec haxis).1]
  simp only [TimeAxis.select, List.mem_map, TimeAxis.mem_arrange]

end Timeline

theorem TimeFilter.failsOnly_transform [Zone.Database] (f : TimeFilter) (t : Table) :
    FailsOnly (Error.IsDataOr (t.HasFarDate f.timeColumn)) (f.transform t).outcome := by
  have hmask : FailsOnly (Error.IsDataOr (t.HasFarDate f.timeColumn)) (f.mask t) :=
    (TimeAxis.failsOnly_ofTable t f.timeColumn).bind fun _ _ => FailsOnly.ok _
  rw [transform, Journaled.outcome_noting]
  exact hmask.bind fun _ _ => FailsOnly.ok _

/-! ### Columns to reduce -/

namespace Reducer

theorem refusesData_checkTarget (schema : List Field) (reducers : List Reducer) (name : String) :
    RefusesData (checkTarget schema reducers name) := by
  unfold checkTarget
  split
  · exact refusesData_error _
  · split
    · exact FailsOnly.ok _
    · exact refusesData_error _

theorem refusesData_targets (schema : List Field) (explicit : Option (List String))
    (excluded : List String) (reducers : List Reducer) :
    RefusesData (targets schema explicit excluded reducers) := by
  cases explicit with
  | none => exact FailsOnly.ok _
  | some names =>
      exact (FailsOnly.forM fun name _ => refusesData_checkTarget schema reducers name).bind
        fun _ _ => FailsOnly.ok _

end Reducer

/-! ### Partial windows -/

theorem Snapshot.failsOnly_marksOf (a : Assignment) (interval : Int) :
    FailsOnly (fun e => e = .overflow ∧ ∃ w ∈ a.windows, ¬Counter.Fits w.bounds.elapsed)
      (marksOf a interval) := by
  apply FailsOnly.mapM
  intro w hw
  apply FailsOnly.bind
  · exact (FailsOnly.require fun hlong => ⟨rfl, w, hw, hlong⟩).bind fun _ _ => FailsOnly.ok _
  · intro mark _
    exact FailsOnly.ok _

/-- Only the policy that refuses partial windows does so, and only when there are some. -/
theorem Policy.failsOnly_resolve {policy : Policy} {t : Table} {flags : List Bool}
    {bounds : List Bounds} {aggregated : List Nat} {zone : Zone} :
    FailsOnly (fun e => e.kind = .dataFormat ∨
        e.kind = .partialData ∧ policy = .fail ∧ true ∈ flags)
      (policy.resolve t flags bounds aggregated zone).outcome := by
  by_cases hflagged : true ∈ flags
  · rw [resolve_outcome_of_flagged hflagged]
    cases policy with
    | keep => exact FailsOnly.ok t
    | drop =>
        dsimp only [apply]
        split
        · exact FailsOnly.error (.inl rfl)
        · exact FailsOnly.ok _
    | null =>
        dsimp only [apply]
        split
        · exact FailsOnly.error (.inl rfl)
        · split
          · exact FailsOnly.ok _
          · exact FailsOnly.error (.inl rfl)
    | fail => exact FailsOnly.error (.inr ⟨rfl, rfl, hflagged⟩)
  · rw [resolve_outcome_of_unflagged hflagged]
    exact FailsOnly.ok t

/-! ### Runs -/

namespace Resampler

theorem failsOnly_reduceColumn {t : Table} {name : String} {c : Column} (r : Resampler)
    (windows : List Window) (hc : t.column? name = some c) :
    FailsOnly (fun e => ∃ named ∈ r.reducers,
        named.reducer.Refuses c (windows.map (·.rows)) e) (r.reduceColumn t windows name) := by
  rw [reduceColumn, hc]
  refine FailsOnly.mapM fun named hnamed => FailsOnly.bind ?_ fun _ _ => FailsOnly.ok _
  exact (named.reducer.failsOnly_reduce c _).mono fun e he => ⟨named, hnamed, he⟩

theorem refusesData_reduceColumn (r : Resampler) (t : Table) (windows : List Window)
    (name : String) : RefusesData (r.reduceColumn t windows name) := by
  cases hc : t.column? name with
  | none =>
      rw [reduceColumn, hc]
      exact refusesData_error _
  | some c => exact (r.failsOnly_reduceColumn windows hc).mono fun _ ⟨_, _, h⟩ => h.kind

theorem refusesData_summarize (r : Resampler) (line : Timeline) (windows : List Window) :
    RefusesData (r.summarize line windows) := by
  apply (Reducer.refusesData_targets _ _ _ _).bind
  intro names _
  apply (line.table.refusesData_groupColumns r.spec.groupBy).bind
  intro keys _
  apply (FailsOnly.mapM fun name _ => r.refusesData_reduceColumn line.table windows name).bind
  intro reduced _
  dsimp only
  split
  · split
    · exact FailsOnly.ok _
    · exact refusesData_error _
  · exact refusesData_error _

variable [Zone.Database]

/-- A number that leaves the range of a counter in a run. -/
inductive Overflows (r : Resampler) (filter : Option TimeFilter) (t : Table) : Prop
  /-- A date of the resampler or of the filter. -/
  | date {name : String} (column : name = r.spec.timeColumn ∨ ∃ f ∈ filter, name = f.timeColumn)
      (far : t.HasFarDate name)
  /-- The days of the offset. -/
  | offset (days : r.spec.OffsetExceedsDays)
  /-- The start of a cell. -/
  | cell {axis : TimeAxis} (read : TimeAxis.ofTable t r.spec.timeColumn = .ok axis)
      (outside : r.spec.StartsOutside axis)
  /-- The distance of two instants, when the sampling interval is wanted. -/
  | gap {axis : TimeAxis} {d : Int} (policy : r.policy ≠ .keep)
      (read : TimeAxis.ofTable t r.spec.timeColumn = .ok axis)
      (gap : Frequency.IsGap axis.instants d) (wide : ¬Counter.Fits d)
  /-- The length of a window, when partial windows are looked for. -/
  | elapsed {line : Timeline} {a : Assignment} {w : Window} (policy : r.policy ≠ .keep)
      (read : Timeline.ofTable t r.spec.timeColumn = .ok line)
      (assigned : (r.spec.assign line.table line.axis).outcome = .ok a)
      (window : w ∈ a.windows) (long : ¬Counter.Fits w.bounds.elapsed)

/-- An error that a run may stop with, and why. -/
inductive Stops (r : Resampler) (filter : Option TimeFilter) (t : Table) (e : Error) : Prop
  | data (kind : e.kind = .dataFormat)
  /-- The interval is looked for in the instants of all rows, whatever the filter. -/
  | ambiguous {axis : TimeAxis} (kind : e.kind = .ambiguousFrequency) (policy : r.policy ≠ .keep)
      (read : TimeAxis.ofTable t r.spec.timeColumn = .ok axis)
      (ambiguous : Frequency.IsAmbiguous r.detection axis.instants)
  | partialWindow {m : Marked} (kind : e.kind = .partialData) (policy : r.policy = .fail)
      (marked : r.mark (filter.map TimeFilter.transform) t = .ok m) (flagged : true ∈ m.flags)
  | overflow (kind : e.kind = .overflow) (overflows : r.Overflows filter t)

variable {r : Resampler} {filter : Option TimeFilter} {t : Table} {axis : TimeAxis}
variable {line rows : Timeline} {a : Assignment} {α : Type} {x : Except Error α} {p : Prop}

theorem Stops.of_isDataOr (h : FailsOnly (Error.IsDataOr p) x) (hp : p → r.Overflows filter t) :
    FailsOnly (r.Stops filter t) x := by
  refine h.mono ?_
  rintro e (hkind | ⟨rfl, hp'⟩)
  · exact .data hkind
  · exact .overflow rfl (hp hp')

theorem Stops.of_refusesData (h : RefusesData x) : FailsOnly (r.Stops filter t) x :=
  h.mono fun _ => .data

theorem failsOnly_timeline :
    FailsOnly (r.Stops filter t) (Timeline.ofTable t r.spec.timeColumn) :=
  Stops.of_isDataOr (Timeline.failsOnly_ofTable t r.spec.timeColumn) fun hfar =>
    .date (.inl rfl) hfar

theorem thins_of_mem : ∀ f ∈ filter.map TimeFilter.transform, RowFilter.Thins f := by
  intro f hf
  rw [Option.mem_def, Option.map_eq_some_iff] at hf
  obtain ⟨f, -, rfl⟩ := hf
  exact f.thins

/-- The rows that a filter leaves are in time order already, so putting them in order never
fails. -/
theorem failsOnly_filtered (hline : Timeline.ofTable t r.spec.timeColumn = .ok line) :
    FailsOnly (r.Stops filter t) (r.filtered (filter.map TimeFilter.transform) line).outcome := by
  cases filter with
  | none => exact FailsOnly.ok line
  | some f =>
      have hmask : FailsOnly (r.Stops (some f) t) (f.transform line.table).outcome := by
        apply Stops.of_isDataOr (f.failsOnly_transform line.table)
        intro hfar
        obtain ⟨axis, -, rfl⟩ := Timeline.ofTable_eq_ok_iff.mp hline
        refine .date (.inr ⟨f, rfl, rfl⟩) (hfar.of_select fun row hrow => ?_)
        exact List.mem_range.mp (TimeAxis.mem_arrange.mp hrow)
      rw [Option.map_some, filtered, Journaled.outcome_bind]
      apply hmask.bind
      intro thinned hthinned
      obtain ⟨places, hplaces, rfl⟩ := f.thins _ _ hthinned
      rw [Journaled.outcome_lift, Timeline.ofTable_of_sublist hline hplaces]
      exact FailsOnly.ok _

theorem failsOnly_assign (haxis : TimeAxis.ofTable t r.spec.timeColumn = .ok axis)
    (hzone : rows.axis.zone = axis.zone) (hinstants : rows.axis.instants ⊆ axis.instants) :
    FailsOnly (r.Stops filter t) (r.spec.assign rows.table rows.axis).outcome := by
  apply Stops.of_isDataOr (r.spec.failsOnly_assign rows.table rows.axis)
  rintro (hdays | houtside)
  · exact .offset hdays
  · exact .cell haxis (houtside.of_subset hzone hinstants)

theorem failsOnly_assign_line (hline : Timeline.ofTable t r.spec.timeColumn = .ok line) :
    FailsOnly (r.Stops filter t) (r.spec.assign line.table line.axis).outcome := by
  obtain ⟨axis, haxis, heq⟩ := Timeline.ofTable_eq_ok_iff.mp hline
  refine failsOnly_assign haxis ?_ fun i hi => (Timeline.mem_instants_iff haxis hline).mp hi
  rw [← heq]
  rfl

theorem failsOnly_assign_rows (hrows : r.rowsOf (filter.map TimeFilter.transform) t = .ok rows) :
    FailsOnly (r.Stops filter t) (r.spec.assign rows.table rows.axis).outcome := by
  obtain ⟨line, hline, -⟩ := bind_eq_ok_iff.mp hrows
  obtain ⟨axis, haxis, heq⟩ := Timeline.ofTable_eq_ok_iff.mp hline
  have hlength := (TimeAxis.ofTable_spec (Timeline.ofTable_spec hline).1).1
  obtain ⟨places, hplaces, rfl⟩ := exists_select_of_rowsOf thins_of_mem hline hrows
  refine failsOnly_assign haxis ?_ fun i hi => (Timeline.mem_instants_iff haxis hline).mp ?_
  · rw [← heq]
    rfl
  · refine TimeAxis.instants_select_subset (fun place hplace => ?_) hi
    rw [hlength]
    exact List.mem_range.mp (hplaces.subset hplace)

theorem failsOnly_capture (hpolicy : r.policy ≠ .keep)
    (hline : Timeline.ofTable t r.spec.timeColumn = .ok line)
    (ha : (r.spec.assign line.table line.axis).outcome = .ok a) :
    FailsOnly (r.Stops filter t)
      (Snapshot.capture a line.axis.instants r.detection).outcome := by
  obtain ⟨axis, haxis, -⟩ := Timeline.ofTable_eq_ok_iff.mp hline
  have hmem : ∀ i, i ∈ line.axis.instants ↔ i ∈ axis.instants := fun i =>
    Timeline.mem_instants_iff haxis hline
  simp only [Snapshot.capture, Frequency.detect, Journaled.outcome_bind, Journaled.outcome_noting,
    Journaled.outcome_lift, Journaled.outcome_pure]
  apply FailsOnly.bind
  · refine (Frequency.failsOnly_ofInstants r.detection line.axis.instants).mono ?_
    rintro e (⟨hkind, hambiguous⟩ | ⟨rfl, d, hgap, hwide⟩)
    · exact .ambiguous hkind hpolicy haxis ((Frequency.isAmbiguous_congr hmem).mp hambiguous)
    · exact .overflow rfl (.gap hpolicy haxis ((Frequency.isGap_congr hmem).mp hgap) hwide)
  · intro interval _
    apply FailsOnly.bind
    · refine (Snapshot.failsOnly_marksOf a interval).mono ?_
      rintro e ⟨rfl, w, hw, hlong⟩
      exact .overflow rfl (.elapsed hpolicy hline ha hw hlong)
    · intro marks _
      exact FailsOnly.ok _

theorem failsOnly_rowsOf :
    FailsOnly (r.Stops filter t) (r.rowsOf (filter.map TimeFilter.transform) t) :=
  failsOnly_timeline.bind fun _ hline => failsOnly_filtered hline

theorem failsOnly_mark (hpolicy : r.policy ≠ .keep) :
    FailsOnly (r.Stops filter t) (r.mark (filter.map TimeFilter.transform) t) := by
  apply failsOnly_timeline.bind
  intro line hline
  apply (failsOnly_assign_line hline).bind
  intro all hall
  apply (failsOnly_capture hpolicy hline hall).bind
  intro snapshot _
  apply (failsOnly_filtered hline).bind
  intro rows hrows
  apply (failsOnly_assign_rows (bind_eq_ok_iff.mpr ⟨line, hline, hrows⟩)).bind
  intro a _
  exact (Stops.of_refusesData (r.refusesData_summarize rows a.windows)).bind fun _ _ =>
    FailsOnly.ok _

/-- A run stops at data, at instants without a sampling interval unless partial windows are kept,
at partial windows if they are to be refused, or where a number leaves the range of a counter. -/
theorem stops_of_run_eq_error {e : Error}
    (h : (r.run (filter.map TimeFilter.transform) t).outcome = .error e) : r.Stops filter t e := by
  by_cases hpolicy : r.policy = .keep
  · rw [run_outcome_of_keep hpolicy] at h
    refine failsOnly_rowsOf.bind (fun rows hrows => ?_) e h
    apply (failsOnly_assign_rows hrows).bind
    intro a _
    exact (Stops.of_refusesData (r.refusesData_summarize rows a.windows)).bind fun _ _ =>
      FailsOnly.ok _
  · change r.runUnder r.policy _ t = _ at h
    rw [runUnder_of_ne_keep hpolicy] at h
    refine (failsOnly_mark hpolicy).bind (fun m hm => ?_) e h
    refine Policy.failsOnly_resolve.mono ?_
    rintro e (hkind | ⟨hkind, hfail, hflagged⟩)
    · exact .data hkind
    · exact .partialWindow hkind hfail hm hflagged

/-- Days, of which the partial ones are dropped. -/
def wholeDays : Resampler where
  spec :=
    { timeColumn := "ts", every := ⟨[⟨1, .d, one_lt_wordSize⟩]⟩, period := .days 86400000000000 }
  policy := .drop

/-- The days of settings that move rows back by more days than the calendar takes in a step. -/
def farBack : Resampler where
  spec :=
    { wholeDays.spec with
      offset := some ⟨⟨[⟨106751991168, .d, by decide⟩]⟩, ⟨0, 0, 106751991168, 0⟩⟩ }

end Resampler

/-- One row, at the start of 1970. -/
def Table.epoch : Table where
  height := 1
  columns := [⟨⟨"ts", .timestamp .nanosecond none, false⟩, [.int 0], by decide⟩]
  uniform := by decide

/-- The start of 1970, on the common time line. -/
def TimeAxis.epoch : TimeAxis := ⟨[0], .fixed 0, none⟩

theorem Timeline.ofTable_epoch : ofTable .epoch "ts" = .ok ⟨.epoch, .epoch⟩ :=
  ofTable_of_isSorted rfl (by decide)

namespace Resampler

/-- A single instant has no sampling interval. -/
theorem stops_of_run_eq_error_epoch :
    (wholeDays.run ((none : Option TimeFilter).map TimeFilter.transform) .epoch).outcome =
        .error (.ambiguous (.tooFew 1)) ∧
      wholeDays.Stops none .epoch (.ambiguous (.tooFew 1)) := by
  have hassign : (wholeDays.spec.assign .epoch .epoch).outcome =
      .ok ⟨[⟨0, ⟨0, 86400000000000⟩, 0, [0], 1⟩], [[]]⟩ :=
    WindowSpec.assign_of_perm rfl rfl rfl (by decide) (by decide) rfl
  have hinterval : Frequency.ofInstants .exact [0] = .error (.ambiguous (.tooFew 1)) := by
    have htimes : Frequency.distinct [0] = [0] := by
      rw [Frequency.distinct, List.mergeSort_singleton]
      rfl
    rw [Frequency.ofInstants, htimes]
    rfl
  have hmark : wholeDays.mark none .epoch = .error (.ambiguous (.tooFew 1)) := by
    apply bind_eq_error_iff.mpr (.inr ⟨_, Timeline.ofTable_epoch, _⟩)
    apply bind_eq_error_iff.mpr (.inr ⟨_, hassign, _⟩)
    apply bind_eq_error_iff.mpr (.inl _)
    rw [Snapshot.capture, Journaled.outcome_bind, Frequency.detect, Journaled.outcome_noting]
    exact bind_eq_error_iff.mpr (.inl hinterval)
  have hrun : (wholeDays.run none .epoch).outcome = .error (.ambiguous (.tooFew 1)) := by
    have hdrop : wholeDays.policy ≠ .keep := by decide
    change wholeDays.runUnder wholeDays.policy none .epoch = _
    rw [runUnder_of_ne_keep hdrop, hmark]
    rfl
  exact ⟨hrun, stops_of_run_eq_error hrun⟩

/-- Settings can be accepted whose offset leaves the range of the calendar at the first row. -/
theorem exists_overflow_of_ofSettings : ∃ r,
    ofSettings { timeColumn := "ts", every := "1d", startOffset := some "106751991168d" } = .ok r ∧
      (r.transform .epoch).outcome = .error .overflow ∧
      Error.overflow.kind ∉
        [ErrorKind.dataFormat, ErrorKind.ambiguousFrequency, ErrorKind.partialData] := by
  have hassign : (farBack.spec.assign .epoch .epoch).outcome = .error .overflow := by
    have hshifted : farBack.spec.shifted .epoch = .error .overflow := by decide +kernel
    rw [WindowSpec.assign, Journaled.outcome_noting]
    apply bind_eq_error_iff.mpr (.inr ⟨[], rfl, _⟩)
    exact bind_eq_error_iff.mpr (.inl hshifted)
  have hrun : (farBack.run none .epoch).outcome = .error .overflow := by
    rw [run_outcome_of_keep rfl, rowsOf_none]
    apply bind_eq_error_iff.mpr (.inr ⟨_, Timeline.ofTable_epoch, _⟩)
    exact bind_eq_error_iff.mpr (.inl hassign)
  exact ⟨farBack, by decide +kernel, hrun, by decide⟩

end Resampler

end Cadence
