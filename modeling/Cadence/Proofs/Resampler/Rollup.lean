import Cadence.Proofs.Resampler.Repeated

/-!
# Rolling up

On a clock that never changes, a table of windows can be resampled to coarser windows as the
table itself can, with the same result: the windows of the windows hold the same rows, they
come in the same order, and what the reducer makes of its own numbers is what it makes of
all numbers.
-/

namespace Cadence

theorem Column.int?_cell_ofInts (name : String) (numbers : List (Option Int)) (i : Nat) :
    ((ofInts name numbers).cell i).int? = numbers.getD i none := by
  rw [cell, ofInts, List.getD_eq_getElem?_getD, List.getElem?_map, List.getD_eq_getElem?_getD]
  cases numbers[i]? with
  | none => rfl
  | some n => cases n <;> rfl

/-! ### The time axis of a table of windows -/

namespace TimeAxis

variable {axis : TimeAxis} {name : String}

/-- A table has one time axis, so its clock is the clock of that axis. -/
theorem transitions_of_ofTable [Zone.Database] {t : Table} (haxis : ofTable t name = .ok axis)
    (hfixed : axis.zone.transitions = []) :
    ∀ axis', ofTable t name = .ok axis' → axis'.zone.transitions = [] := by
  intro axis' haxis'
  cases haxis.symm.trans haxis'
  exact hfixed

end TimeAxis

namespace Resampler

variable {r : Resampler} {reducer : Reducer} {t mid out : Table} {line : Timeline}
variable {axis : TimeAxis} {a A : Assignment} {names : List String} {keys columns : List Column}
variable {windows : List Window} {name : String} {places : List Nat} {i : Nat}

/-- The labels of a table of windows are its instants. -/
theorem Tabulates.ofTable_eq [Zone.Database]
    (h : r.Tabulates reducer t axis windows names keys columns mid)
    (hzone : TimeAxis.zoneOf axis.label = .ok axis.zone)
    (hungrouped : r.spec.timeColumn ∉ r.spec.groupBy)
    (hends : r.boundaries = true → windows.map (·.label) = windows.map (·.bounds.lower) ∧
      r.spec.timeColumn ≠ upperName)
    (hfits : ∀ w ∈ windows, Counter.Fits w.label) :
    TimeAxis.ofTable mid r.spec.timeColumn =
      .ok { axis with instants := windows.map (·.label) } := by
  apply TimeAxis.ofTable_eq_ok_iff.mpr
  refine ⟨_, h.column?_timeColumn hungrouped hends, rfl, ?_, ?_, rfl, hzone⟩
  · apply Column.nullCount_eq_zero_iff.mpr (.inr _)
    intro hnull
    obtain ⟨i, -, hi⟩ := List.mem_map.mp hnull
    cases hi
  · apply TimeAxis.instantsOf_column
    intro i hi
    obtain ⟨w, hw, rfl⟩ := List.mem_map.mp hi
    exact hfits w hw

/-! ### Rows of a table of windows -/

section Blocks

variable (hplaces : a.Lists places)
include hplaces

theorem keyAt_block (hi : i < a.windows.length) :
    Assignment.keyAt ((groupColumns keys a.windows).map (·.select places)) i =
      Assignment.keyAt keys ((a.block places i).headD 0) := by
  obtain ⟨place, w, hplace, hw, hgetD, hrows⟩ := Assignment.exists_window_at hplaces hi
  have hlength : i < places.length := (List.getElem?_eq_some_iff.mp hplace).1
  have hheads : place < (a.windows.map fun w => w.rows.headD 0).length := by
    rw [List.length_map]
    exact (List.getElem?_eq_some_iff.mp hw).1
  rw [Assignment.keyAt_select _ hlength, hgetD, groupColumns, Assignment.keyAt_select _ hheads,
    hrows]
  simp [hw]

/-- The keys of windows of blocks are the keys of the windows of their rows. -/
theorem groupColumns_blocks (hrows : A.windows.map (fun w => w.rows.flatMap (a.block places)) =
      windows.map (·.rows)) (hA : A.Partitions a.windows.length)
    (hblocks : ∀ i < a.windows.length, a.block places i ≠ []) :
    groupColumns ((groupColumns keys a.windows).map (·.select places)) A.windows =
      groupColumns keys windows := by
  have hlength : places.length = a.windows.length := by
    rw [hplaces.perm.length_eq, List.length_range]
  have hinner : ∀ place ∈ places, place < (a.windows.map fun w => w.rows.headD 0).length := by
    intro place hplace
    rw [List.length_map]
    exact List.mem_range.mp (hplaces.perm.mem_iff.mp hplace)
  have hfirst : ∀ w ∈ A.windows, w.rows.headD 0 < places.length ∧
      (places.map fun place => (a.windows.map fun w => w.rows.headD 0).getD place 0).getD
        (w.rows.headD 0) 0 = (w.rows.flatMap (a.block places)).headD 0 := by
    intro w hw
    obtain ⟨i, others, hi⟩ := List.exists_cons_of_ne_nil (hA.nonempty w hw)
    have hlt : i < a.windows.length :=
      hA.exists_window_iff.mp ⟨w, hw, hi ▸ List.mem_cons_self⟩
    obtain ⟨place, v, hplace, hv, -, hvrows⟩ := Assignment.exists_window_at hplaces hlt
    obtain ⟨row, rest, hrow⟩ := List.exists_cons_of_ne_nil (hblocks i hlt)
    have hvrow : v.rows = row :: rest := hvrows.symm.trans hrow
    rw [hi, List.headD_cons, List.flatMap_cons, hrow]
    refine ⟨hlength.symm ▸ hlt, ?_⟩
    simp [hplace, hv, hvrow]
  have hheads : (A.windows.map fun w => w.rows.headD 0).map (fun i =>
      (places.map fun place => (a.windows.map fun w => w.rows.headD 0).getD place 0).getD i 0) =
      windows.map fun w => w.rows.headD 0 := by
    have hmapped := congrArg (List.map fun rows : List Nat => rows.headD 0) hrows
    rw [List.map_map, List.map_map] at hmapped
    refine Eq.trans ?_ hmapped
    rw [List.map_map]
    apply List.map_congr_left
    intro w hw
    exact (hfirst w hw).2
  rw [groupColumns, groupColumns, groupColumns, List.map_map, List.map_map]
  apply List.map_congr_left
  intro key _
  change ((key.select _).select places).select _ = _
  rw [Column.select_select hinner, Column.select_select, hheads]
  intro i hi
  rw [List.length_map]
  obtain ⟨w, hw, rfl⟩ := List.mem_map.mp hi
  exact (hfirst w hw).1

/-- What a reducer makes of its own numbers is what it makes of all numbers. -/
theorem Folded.of_blocks {u : Table} {d d' : Column} (hfine : Folded reducer t a.windows name d)
    (hcolumn : u.column? name = some (d.select places))
    (hrows : A.windows.map (fun w => w.rows.flatMap (a.block places)) = windows.map (·.rows))
    (hA : A.Partitions a.windows.length) (h : Folded reducer t windows name d') :
    Folded reducer u A.windows name d' := by
  obtain ⟨c, numbers, hc, hnumbers, rfl⟩ := hfine
  obtain ⟨c', totals, hc', htotals, rfl⟩ := h
  cases hc.symm.trans hc'
  refine ⟨_, totals, hcolumn, ?_, rfl⟩
  have hwhole : A.windows.Forall₂ (fun w n =>
      reducer.fold? (c.intsAt (w.rows.flatMap (a.block places))) = some n) totals := by
    have hmapped : (windows.map (·.rows)).Forall₂ (fun rows n =>
        reducer.fold? (c.intsAt rows) = some n) totals := List.forall₂_map_left_iff.mpr htotals
    rw [← hrows] at hmapped
    exact List.forall₂_map_left_iff.mp hmapped
  apply ((List.forall₂_and_left _ _).mpr ⟨fun w hw => hw, hwhole⟩).imp
  rintro w n ⟨hw, hn⟩
  have hparts : (w.rows.map fun i => c.intsAt (a.block places i)).Forall₂
      (fun part n => reducer.fold? part = some n)
      (w.rows.map fun i => numbers.getD (places.getD i 0) none) := by
    rw [List.forall₂_map_left_iff, List.forall₂_map_right_iff, List.forall₂_same]
    intro i hi
    obtain ⟨place, v, -, hv, hgetD, hvrows⟩ :=
      Assignment.exists_window_at hplaces (hA.exists_window_iff.mp ⟨w, hw, hi⟩)
    obtain ⟨number, hnumber, hfold⟩ := getElem?_of_forall₂ hnumbers hv
    rw [hvrows, hgetD, hfold, List.getD_eq_getElem?_getD, hnumber]
    rfl
  have hints : ((Column.ofInts name numbers).select places).intsAt w.rows =
      (w.rows.map fun i => numbers.getD (places.getD i 0) none).filterMap id := by
    rw [Column.intsAt_eq, List.filterMap_map, List.filterMap_map]
    apply List.filterMap_congr
    intro i hi
    obtain ⟨place, _, hplace, -, hgetD, -⟩ :=
      Assignment.exists_window_at hplaces (hA.exists_window_iff.mp ⟨w, hw, hi⟩)
    have hlength : i < places.length := (List.getElem?_eq_some_iff.mp hplace).1
    rw [Function.comp_apply, Column.cell_select hlength, Function.comp_apply, hgetD,
      Column.int?_cell_ofInts, id]
  rw [hints]
  apply Reducer.fold?_flatten hparts
  rw [← Column.intsAt_flatMap]
  exact hn

end Blocks

/-! ### Tables of windows, resampled -/

/-- The axis of the windows of an assignment, at their labels. -/
def labelAxis (axis : TimeAxis) (a : Assignment) : TimeAxis :=
  { axis with instants := a.windows.map (·.label) }

/-- The places of the windows of an assignment in the order of their labels. -/
def labelOrder (axis : TimeAxis) (a : Assignment) : List Nat :=
  (labelAxis axis a).arrange (List.range a.windows.length)

theorem lists_labelOrder (axis : TimeAxis) (a : Assignment) : a.Lists (labelOrder axis a) where
  perm := List.mergeSort_perm _ _
  ordered := (labelAxis axis a).pairwise_arrange_range _

theorem length_labelOrder (axis : TimeAxis) (a : Assignment) :
    (labelOrder axis a).length = a.windows.length := by
  rw [(lists_labelOrder axis a).perm.length_eq, List.length_range]

/-- The rows of a table of windows, in time order, are the windows. -/
theorem relists_labelOrder (axis : TimeAxis) (a : Assignment) (keys : List Column) :
    WindowSpec.Relists a (labelOrder axis a) axis
      ((labelAxis axis a).select (labelOrder axis a)) keys
      ((groupColumns keys a.windows).map (·.select (labelOrder axis a))) := by
  have hplaces := lists_labelOrder axis a
  refine ⟨hplaces, rfl, ?_, ?_, fun i hi => keyAt_block hplaces hi⟩
  · exact (List.length_map _).trans (length_labelOrder axis a)
  · intro i hi
    exact TimeAxis.instantAt_select (length_labelOrder axis a ▸ hi)

/-- The resampler with windows of another length. -/
def withLength (r : Resampler) (every : Duration) (period : Period) : Resampler :=
  { r with spec := r.spec.withLength every period }

variable {every : Duration} {period : Period}

theorem Repeatable.withLength (hr : r.Repeatable reducer) :
    (r.withLength every period).Repeatable reducer :=
  ⟨hr.keeps, hr.reducers, hr.folds, hr.offset, hr.label, hr.ungrouped⟩

/-- The table of the windows of all rows is that of the windows of their windows. -/
theorem Tabulates.of_blocks {b b' : Assignment} {columns' : List Column}
    (hmid : r.Tabulates reducer t axis a.windows names keys columns mid)
    (hleading : ∀ name ∈ names, name ∉ r.leadingNames) (hplaces : a.Lists places)
    (ha : ∀ i < a.windows.length, a.block places i ≠ []) (hb' : b'.Partitions a.windows.length)
    (hwindows : b'.windows.map (fun w => (w.group, w.bounds, w.label,
        w.rows.flatMap (a.block places))) =
      b.windows.map fun w => (w.group, w.bounds, w.label, w.rows))
    {axis' : TimeAxis} (hlabel : axis'.label = axis.label)
    (hout : (r.withLength every period).Tabulates reducer t axis b.windows names keys columns'
      out) :
    (r.withLength every period).Tabulates reducer (mid.select places) axis' b'.windows names
      ((groupColumns keys a.windows).map (·.select places)) columns' out := by
  have hproject : ∀ {β : Type} (f : Nat × Bounds × Int × List Nat → β),
      b'.windows.map (fun w => f (w.group, w.bounds, w.label, w.rows.flatMap (a.block places))) =
        b.windows.map fun w => f (w.group, w.bounds, w.label, w.rows) := by
    intro β f
    have hmapped := congrArg (List.map f) hwindows
    rwa [List.map_map, List.map_map] at hmapped
  have hrows := hproject fun x => x.2.2.2
  refine ⟨Table.groupColumns_select hmid.groupColumns_eq, ?_, ?_, ?_, hout.admissible⟩
  · apply ((List.forall₂_and_left _ _).mpr ⟨fun name hname => hname, hout.folded⟩).imp
    rintro name d ⟨hname, hd⟩
    obtain ⟨c, hc, hfolded⟩ := hmid.column?_target hname (hleading name hname)
    apply hfolded.of_blocks hplaces _ hrows hb' hd
    rw [Table.column?_select, hc]
    rfl
  · rw [hout.height, ← List.length_map (f := fun w : Window => w.rows), ← hrows, List.length_map]
  · have htimes : (r.withLength every period).timeColumns axis' b'.windows =
        (r.withLength every period).timeColumns axis b.windows := by
      unfold timeColumns
      rw [TimeAxis.column_eq_of_label_eq hlabel, hproject fun x => x.2.2.1,
        hproject fun x => x.2.1.lower, hproject fun x => x.2.1.upper]
    rw [hout.columns_eq, leadingColumns, leadingColumns, htimes,
      groupColumns_blocks hplaces hrows hb' ha]

/-- Labels are ends of windows, which fit the counters. -/
theorem fits_label (hperiod : Period.ofDuration r.spec.every = .ok r.spec.period)
    (hzone : axis.zone.WellFormed) (hfixed : axis.zone.transitions = []) {n : Nat}
    {key : Nat → List Cell} (ha : a.Exact n key
      (fun i => r.spec.windowOf axis.zone (axis.instantAt i)) r.spec.closed) {w : Window}
    (hw : w ∈ a.windows) : Counter.Fits w.label := by
  obtain ⟨i, hi⟩ := List.exists_mem_of_ne_nil _ (ha.partitions.nonempty w hw)
  obtain ⟨c, -, -, hfits, -⟩ := Period.exists_cell_of_windowOf
    (Period.regular_of_ofDuration hperiod) hzone hfixed (ha.window_eq w hw i hi)
  rw [ha.label_eq w hw]
  cases r.spec.closed with
  | left => exact hfits.1
  | right => exact hfits.2

/-- The table of the windows of an assignment has their labels for its time axis. -/
theorem Tabulates.ofTable_labelAxis [Zone.Database]
    (h : r.Tabulates reducer t axis a.windows names keys columns mid) (hr : r.Repeatable reducer)
    (hperiod : Period.ofDuration r.spec.every = .ok r.spec.period)
    (haxis : TimeAxis.ofTable t r.spec.timeColumn = .ok axis)
    (hfixed : axis.zone.transitions = [])
    (hends : r.boundaries = true → r.spec.closed = .left ∧ r.spec.timeColumn ≠ upperName) {n : Nat}
    {key : Nat → List Cell} (ha : a.Exact n key
      (fun i => r.spec.windowOf axis.zone (axis.instantAt i)) r.spec.closed) :
    TimeAxis.ofTable mid r.spec.timeColumn = .ok (labelAxis axis a) := by
  have hlabels : r.boundaries = true →
      a.windows.map (·.label) = a.windows.map (·.bounds.lower) ∧ r.spec.timeColumn ≠ upperName := by
    intro hboundaries
    obtain ⟨hclosed, hupper⟩ := hends hboundaries
    refine ⟨List.map_congr_left fun w hw => ?_, hupper⟩
    rw [ha.label_eq w hw, hclosed]
    rfl
  obtain ⟨_, -, -, -, -, hlabel, hzone⟩ := TimeAxis.ofTable_eq_ok_iff.mp haxis
  exact h.ofTable_eq (hlabel ▸ hzone) hr.ungrouped hlabels
    fun w hw => fits_label hperiod (TimeAxis.ofTable_spec haxis).2 hfixed ha hw

/-- The windows of a timeline can be resampled to coarser windows as the timeline itself can,
with the same result. -/
theorem Repeatable.transform_summaryTable [Zone.Database] (hr : r.Repeatable reducer)
    (hfine : Period.ofDuration r.spec.every = .ok r.spec.period)
    (hcoarse : Period.ofDuration every = .ok period) (hrefines : r.spec.period.Refines period)
    (haxis : TimeAxis.ofTable line.table r.spec.timeColumn = .ok line.axis)
    (hsorted : line.axis.IsSorted) (hfixed : line.axis.zone.transitions = [])
    (hints : r.ReducesInts line.table)
    (hleading : ∀ names, r.targetNames line.table = .ok names → ∀ name ∈ names,
      name ∉ r.leadingNames)
    (hends : r.boundaries = true → r.spec.closed = .left ∧ r.spec.timeColumn ≠ upperName)
    (hmid : r.summaryTable line = .ok mid)
    (hout : (r.withLength every period).summaryTable line = .ok out) :
    ((r.withLength every period).transform mid).outcome = .ok out := by
  have hR : (r.withLength every period).Repeatable reducer := hr.withLength
  obtain ⟨a, names, keys, columns, ha, hnames, hmid⟩ := (hr.summaryTable_eq_ok_iff hints).mp hmid
  obtain ⟨b, names', keys', columns', hb, hnames', hout⟩ :=
    (hR.summaryTable_eq_ok_iff hints).mp hout
  cases hnames.symm.trans hnames'
  cases hmid.grouped.symm.trans hout.grouped
  obtain ⟨hlength, hzone⟩ := TimeAxis.ofTable_spec haxis
  have hexact := WindowSpec.exact_of_assign hfine hzone hfixed hr.offset hmid.grouped hlength
    hr.label ha
  have hlabelAxis := hmid.ofTable_labelAxis hr hfine haxis hfixed hends hexact
  have hrelists := relists_labelOrder line.axis a keys
  have hheight : (mid.select (labelOrder line.axis a)).height = a.windows.length :=
    length_labelOrder line.axis a
  obtain ⟨b', hb', hpartitions, hwindows⟩ := WindowSpec.exists_assign_of_relists hfine hcoarse
    hrefines hr.offset hr.label haxis hsorted hfixed hmid.grouped ha hb
    (Table.groupColumns_select hmid.groupColumns_eq) hheight hrelists
  have hblocks : ∀ i < a.windows.length, a.block (labelOrder line.axis a) i ≠ [] :=
    fun i hi => Assignment.block_ne_nil hrelists.lists hexact.partitions hi
  have hagain : (r.withLength every period).targetNames (mid.select (labelOrder line.axis a)) =
      .ok names := by
    rw [targetNames_select]
    exact hmid.targetNames_eq hr hnames (hleading names hnames)
  apply (transform_outcome_eq_ok_iff hR.keeps).mpr
  refine ⟨⟨mid.select (labelOrder line.axis a), _⟩,
    Timeline.ofTable_eq_ok_iff.mpr ⟨_, hlabelAxis, by rw [hmid.height]; rfl⟩, ?_⟩
  apply (hR.summaryTable_eq_ok_iff _).mpr
  · exact ⟨b', names, _, columns', hb', hagain,
      hmid.of_blocks (hleading names hnames) hrelists.lists hblocks hpartitions hwindows rfl hout⟩
  · intro names' hnames' name hname c hc
    cases hagain.symm.trans hnames'
    obtain ⟨d, hd, hfolded⟩ := hmid.column?_target hname (hleading names hnames name hname)
    rw [Table.column?_select, hd] at hc
    cases hc
    exact congrArg Field.type hfolded.field_eq

/-- On a clock that never changes, resampling the windows of a table to coarser windows is
resampling the table to the coarser windows. -/
theorem Repeatable.transform_transform [Zone.Database] (hr : r.Repeatable reducer)
    (hfine : Period.ofDuration r.spec.every = .ok r.spec.period)
    (hcoarse : Period.ofDuration every = .ok period) (hrefines : r.spec.period.Refines period)
    (hfixed : ∀ axis, TimeAxis.ofTable t r.spec.timeColumn = .ok axis → axis.zone.transitions = [])
    (hints : r.ReducesInts t)
    (hleading : ∀ names, r.targetNames t = .ok names → ∀ name ∈ names, name ∉ r.leadingNames)
    (hends : r.boundaries = true → r.spec.closed = .left ∧ r.spec.timeColumn ≠ upperName)
    (hmid : (r.transform t).outcome = .ok mid)
    (hout : ((r.withLength every period).transform t).outcome = .ok out) :
    ((r.withLength every period).transform mid).outcome = .ok out := by
  have hR : (r.withLength every period).Repeatable reducer := hr.withLength
  obtain ⟨line, hline, hmid⟩ := (transform_outcome_eq_ok_iff hr.keeps).mp hmid
  obtain ⟨line', hline', hout⟩ := (transform_outcome_eq_ok_iff hR.keeps).mp hout
  cases hline.symm.trans hline'
  obtain ⟨haxis, hsorted⟩ := Timeline.ofTable_spec hline
  obtain ⟨axis, haxis', rfl⟩ := Timeline.ofTable_eq_ok_iff.mp hline
  apply hr.transform_summaryTable hfine hcoarse hrefines haxis hsorted (hfixed axis haxis')
    (hints.select _) _ hends hmid hout
  intro names hnames
  rw [targetNames_select] at hnames
  exact hleading names hnames

/-! ### The same windows again -/

/-- On a clock that never changes, resampling a table of windows again changes nothing: each
label falls back into its own window. -/
theorem transform_idempotent [Zone.Database] (hr : r.Repeatable reducer)
    (hperiod : Period.ofDuration r.spec.every = .ok r.spec.period)
    (hboundaries : r.boundaries = false) (htargets : r.targets = none)
    (hfixed : ∀ axis, TimeAxis.ofTable t r.spec.timeColumn = .ok axis → axis.zone.transitions = [])
    (hints : ∀ c ∈ t.columns, r.reserves c.name = false → c.type = .int64)
    (h : (r.transform t).outcome = .ok out) : (r.transform out).outcome = .ok out := by
  have hsame : r.withLength r.spec.every r.spec.period = r := rfl
  have hnone : ∀ targets, r.targets = some targets → ∀ name ∈ targets, r.reserves name = false := by
    rw [htargets]
    exact nofun
  have hends : r.boundaries = true → r.spec.closed = .left ∧ r.spec.timeColumn ≠ upperName := by
    rw [hboundaries]
    exact nofun
  have hleading : ∀ names, r.targetNames t = .ok names → ∀ name ∈ names,
      name ∉ r.leadingNames := by
    intro names hnames name hname
    have hkept := reserves_eq_false_iff.mp (reserves_of_mem_targetNames hnone hnames hname)
    simpa [leadingNames, hboundaries, and_comm] using hkept
  have hagain := hr.transform_transform hperiod hperiod (Period.refines_refl _) hfixed
    (reducesInts_of_types hnone hints) hleading hends h (hsame.symm ▸ h)
  rwa [hsame] at hagain

/-- The sums of the hours of the sites. -/
def hourlySums : Resampler where
  spec := .hourOfSite

theorem hourlySums_repeatable : hourlySums.Repeatable .sum :=
  ⟨rfl, rfl, .inl rfl, rfl, rfl, by decide⟩

/-- The windows of the second site come after those of the first one, so the sums of the
hours are not in time order. -/
theorem transform_idempotent_loads :
    ∃ out, (hourlySums.transform .loads).outcome = .ok out ∧
      (hourlySums.transform out).outcome = .ok out := by
  obtain ⟨out, hout⟩ := exists_transform_loads (r := hourlySums) rfl rfl
    WindowSpec.assign_loads (by decide +kernel)
  have haxis : TimeAxis.ofTable .loads hourlySums.spec.timeColumn = .ok .loads := rfl
  exact ⟨out, hout, transform_idempotent hourlySums_repeatable rfl rfl rfl
    (TimeAxis.transitions_of_ofTable haxis rfl) (by decide) hout⟩

end Resampler

end Cadence
