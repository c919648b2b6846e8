import Cadence.Proofs.Duration.Days
import Cadence.Proofs.Resampler.Rollup

/-!
# Windows of days and shorter units, rolled up

Windows of days and shorter units lie within windows of a multiple of their length, so they
can be rolled up. Only the names of columns can come in the way, since a name stands for
the first column that has it: the column of the upper ends hides a time column of its name,
and the column of a group hides a reduced column of its name.
-/

namespace Cadence

namespace Resampler

variable {r : Resampler} {reducer : Reducer} {t mid rolled out : Table} {line : Timeline}
variable {axis : TimeAxis} {names : List String} {keys columns : List Column}
variable {windows : List Window} {name : String} {every : Duration} {period : Period}

/-- A column that is reduced is found, and suits the reducers. -/
theorem supports_of_summaryTable (h : r.summaryTable line = .ok out)
    (hnames : r.targetNames line.table = .ok names) (hname : name ∈ names) :
    ∃ c, line.table.column? name = some c ∧
      ∀ named ∈ r.reducers, named.reducer.supports c.type = true := by
  obtain ⟨_, names', _, outputs, -, hnames', -, houtputs, -⟩ := summaryTable_eq_ok_iff.mp h
  cases hnames.symm.trans hnames'
  obtain ⟨i, hi⟩ := List.mem_iff_getElem?.mp hname
  obtain ⟨_, -, c, hc, hreduces⟩ := getElem?_of_forall₂ houtputs hi
  exact ⟨c, hc, hreduces.supports⟩

/-- Times do not suit the reducer, so a run that succeeds was not asked for its time column. -/
theorem Repeatable.reserves_of_summaryTable [Zone.Database] (hr : r.Repeatable reducer)
    (htargets : ∀ targets, r.targets = some targets → ∀ name ∈ targets, name ∉ r.spec.groupBy)
    (haxis : TimeAxis.ofTable line.table r.spec.timeColumn = .ok axis)
    (h : r.summaryTable line = .ok out) :
    ∀ targets, r.targets = some targets → ∀ name ∈ targets, r.reserves name = false := by
  intro targets hexplicit name hname
  obtain ⟨_, names, _, _, -, hnames, -⟩ := Resampler.summaryTable_eq_ok_iff.mp h
  obtain rfl := targetNames_eq_of_targets hexplicit hnames
  rw [reserves_eq_false_iff, List.mem_cons, not_or]
  refine ⟨?_, htargets _ hexplicit name hname⟩
  rintro rfl
  obtain ⟨c, hc, htemporal, -⟩ := TimeAxis.ofTable_eq_ok_iff.mp haxis
  obtain ⟨d, hd, hsupports⟩ := supports_of_summaryTable h hnames hname
  cases hc.symm.trans hd
  exact Bool.eq_false_iff.mp (hr.folds.supports_of_isTemporal htemporal)
    (hr.supports_iff.mp hsupports)

/-- No reduced column has the name of a column before it, if the table of windows can be
resampled in turn: it would be taken for a column of times. -/
theorem Tabulates.not_mem_leadingNames [Zone.Database]
    (h : r.Tabulates reducer t axis windows names keys columns mid) (hr : r.Repeatable reducer)
    (hnames : r.targetNames t = .ok names) (hname : name ∈ names)
    (hreserves : r.reserves name = false)
    (hrolled : ((r.withLength every period).transform mid).outcome = .ok rolled) :
    name ∉ r.leadingNames := by
  have hR : (r.withLength every period).Repeatable reducer := hr.withLength
  intro hleading
  have hungrouped : name ∉ r.spec.groupBy :=
    fun hmem => reserves_eq_false_iff.mp hreserves (List.mem_cons_of_mem _ hmem)
  obtain ⟨c, hc, hfound⟩ := h.exists_timeColumn hleading hungrouped
  obtain ⟨line, hline, hrolled⟩ := (transform_outcome_eq_ok_iff hR.keeps).mp hrolled
  obtain ⟨axis', -, rfl⟩ := Timeline.ofTable_eq_ok_iff.mp hline
  obtain ⟨_, names', _, _, -, hnames', -⟩ := summaryTable_eq_ok_iff.mp hrolled
  have hmem : name ∈ names' := by
    rw [targetNames_select] at hnames'
    exact h.mem_targetNames hr hnames hname hreserves hnames'
  obtain ⟨c', hc', hsupports⟩ := supports_of_summaryTable hrolled hnames' hmem
  rw [Table.column?_select, hfound] at hc'
  cases hc'
  have htemporal : TimeAxis.isTemporal c.type = true := by
    rw [type_of_mem_timeColumns hc]
    rfl
  exact Bool.eq_false_iff.mp (hr.folds.supports_of_isTemporal htemporal)
    (hR.supports_iff.mp hsupports)

/-- A resampler that reduces integers, with windows of days and shorter units that are closed
and labelled on the left, and a multiple of their length, on a clock that never changes. -/
structure Coarsens [Zone.Database] (r : Resampler) (reducer : Reducer) (every : Duration)
    (period : Period) (t : Table) : Prop where
  repeatable : r.Repeatable reducer
  closed : r.spec.closed = .left
  fine : Period.ofDuration r.spec.every = .ok r.spec.period
  coarse : Period.ofDuration every = .ok period
  divides : r.spec.every.Divides every
  fixed : ∀ axis, TimeAxis.ofTable t r.spec.timeColumn = .ok axis → axis.zone.transitions = []
  ints : ∀ c ∈ t.columns, r.reserves c.name = false → c.type = .int64

/-- Resampling to the finer windows and then to the coarser ones gives what resampling to the
coarser ones does, if each run succeeds. -/
def RollsUp [Zone.Database] (r : Resampler) (every : Duration) (period : Period)
    (t : Table) : Prop :=
  ∀ mid rolled out, (r.transform t).outcome = .ok mid →
    ((r.withLength every period).transform mid).outcome = .ok rolled →
    ((r.withLength every period).transform t).outcome = .ok out → rolled = out

/-- The finer windows can be rolled up, unless the column of the upper ends hides the time
column or the column of a group hides a reduced column. -/
theorem Coarsens.rollsUp [Zone.Database] (h : r.Coarsens reducer every period t)
    (htargets : ∀ targets, r.targets = some targets → ∀ name ∈ targets, name ∉ r.spec.groupBy)
    (hupper : r.boundaries = true → r.spec.timeColumn ≠ upperName) :
    r.RollsUp every period t := by
  intro mid rolled out hmid hrolled hout
  have hr := h.repeatable
  obtain ⟨line, hline, hsummary⟩ := (transform_outcome_eq_ok_iff hr.keeps).mp hmid
  have hreserves := hr.reserves_of_summaryTable htargets (Timeline.ofTable_spec hline).1 hsummary
  have htypes := reducesInts_of_types hreserves h.ints
  obtain ⟨axis, -, rfl⟩ := Timeline.ofTable_eq_ok_iff.mp hline
  have hleading : ∀ names, r.targetNames t = .ok names → ∀ name ∈ names,
      name ∉ r.leadingNames := by
    intro names hnames name hname
    obtain ⟨a, names', keys, columns, -, hnames', htable⟩ :=
      (hr.summaryTable_eq_ok_iff (htypes.select _)).mp hsummary
    have hsame := hnames'
    rw [targetNames_select, hnames] at hsame
    cases hsame
    exact htable.not_mem_leadingNames hr hnames' hname
      (reserves_of_mem_targetNames hreserves hnames hname) hrolled
  have hagain := hr.transform_transform h.fine h.coarse
    (Period.refines_of_divides h.divides h.fine h.coarse) h.fixed htypes hleading
    (fun hboundaries => ⟨h.closed, hupper hboundaries⟩) hmid hout
  exact Except.ok.inj (hrolled.symm.trans hagain)

/-! ### Hours rolled up to days -/

/-- A day, as a length of windows. -/
def oneDay : Duration := ⟨[⟨1, .d, one_lt_wordSize⟩]⟩

/-- Windows of days. -/
def toDays (r : Resampler) : Resampler := r.withLength oneDay (.days 86400000000000)

theorem divides_oneDay : WindowSpec.hourOfSite.every.Divides oneDay :=
  ⟨3600000000000, 86400000000000, rfl, rfl, by decide⟩

theorem coarsens_oneDay [Zone.Database] (hr : r.Repeatable reducer)
    (hclosed : r.spec.closed = .left)
    (hevery : r.spec.every = WindowSpec.hourOfSite.every)
    (hperiod : r.spec.period = .fixed 3600000000000)
    (haxis : TimeAxis.ofTable t r.spec.timeColumn = .ok axis) (hfixed : axis.zone.transitions = [])
    (hints : ∀ c ∈ t.columns, r.reserves c.name = false → c.type = .int64) :
    r.Coarsens reducer oneDay (.days 86400000000000) t where
  repeatable := hr
  closed := hclosed
  fine := by
    rw [hevery, hperiod]
    rfl
  coarse := rfl
  divides := hevery ▸ divides_oneDay
  fixed := TimeAxis.transitions_of_ofTable haxis hfixed
  ints := hints

theorem exists_transform_toDays :
    ∃ out, (hourlySums.toDays.transform .loads).outcome = .ok out := by
  have hassign : (hourlySums.toDays.spec.assign .loads .loads).outcome = .ok
      ⟨[⟨0, ⟨0, 86400000000000⟩, 0, [0, 2, 3], 3⟩, ⟨1, ⟨0, 86400000000000⟩, 0, [1, 4], 2⟩],
        [[.text "north"], [.text "south"]]⟩ := by
    apply WindowSpec.assign_of_perm rfl rfl rfl
    · decide
    · decide
    · rfl
  exact exists_transform_loads rfl rfl hassign (by decide +kernel)

/-- The sums of the hours of the sites add up to the sums of their days. -/
theorem rollsUp_loads :
    (∃ mid rolled out, (hourlySums.transform .loads).outcome = .ok mid ∧
      (hourlySums.toDays.transform mid).outcome = .ok rolled ∧
      (hourlySums.toDays.transform .loads).outcome = .ok out) ∧
    hourlySums.RollsUp oneDay (.days 86400000000000) .loads := by
  have hnone : ∀ targets, hourlySums.targets = some targets → ∀ name ∈ targets,
      hourlySums.reserves name = false := nofun
  have hleading : ∀ names, hourlySums.targetNames .loads = .ok names → ∀ name ∈ names,
      name ∉ hourlySums.leadingNames := by
    intro names hnames
    have hload : hourlySums.targetNames .loads = .ok ["load"] := rfl
    cases hload.symm.trans hnames
    decide
  obtain ⟨mid, hmid⟩ := exists_transform_loads (r := hourlySums) rfl rfl
    WindowSpec.assign_loads (by decide +kernel)
  obtain ⟨out, hout⟩ := exists_transform_toDays
  have haxis : TimeAxis.ofTable .loads hourlySums.spec.timeColumn = .ok .loads := rfl
  have h := coarsens_oneDay hourlySums_repeatable rfl rfl rfl haxis rfl (by decide)
  have hrolled : (hourlySums.toDays.transform mid).outcome = .ok out :=
    h.repeatable.transform_transform h.fine h.coarse
      (Period.refines_of_divides h.divides h.fine h.coarse) h.fixed
      (reducesInts_of_types hnone h.ints) hleading nofun hmid hout
  exact ⟨⟨mid, out, out, hmid, hrolled, hout⟩, h.rollsUp nofun nofun⟩

end Resampler

/-! ### Hidden columns -/

/-- A load half an hour before midnight. -/
def Table.late : Table where
  height := 1
  columns :=
    [TimeAxis.column ⟨[], .fixed 0, none⟩ Resampler.upperName [84600000000000],
      .ofInts "load" [some 1]]
  uniform := by decide

/-- The window of the late load. -/
def Table.lateWindow (lower upper : Int) : Table where
  height := 1
  columns :=
    [TimeAxis.column ⟨[], .fixed 0, none⟩ Resampler.lowerName [lower],
      TimeAxis.column ⟨[], .fixed 0, none⟩ Resampler.upperName [upper],
      TimeAxis.column ⟨[], .fixed 0, none⟩ Resampler.upperName [lower],
      .ofInts "load" [some 1]]
  uniform := by simp [TimeAxis.column]

/-- Two rows of one site, which has a number. -/
def Table.twins : Table where
  height := 2
  columns :=
    [TimeAxis.column ⟨[], .fixed 0, none⟩ "ts" [0, 0], .ofInts "site" [some 1, some 1]]
  uniform := by decide

/-- The window of the twins, and the sum of their sites. -/
def Table.twinsWindow (sum : Int) : Table where
  height := 1
  columns :=
    [.ofInts "site" [some 1], TimeAxis.column ⟨[], .fixed 0, none⟩ "ts" [0],
      .ofInts "site" [some sum]]
  uniform := by simp [TimeAxis.column]

namespace Resampler

/-- Sums of hours with their ends, by a time column with the name of the upper ends. -/
def hourlyEnds : Resampler where
  spec := { WindowSpec.hourOfSite with timeColumn := upperName, groupBy := [] }
  boundaries := true

/-- Sums of the sites themselves, hour by hour. -/
def hourlySites : Resampler where
  spec := .hourOfSite
  targets := some ["site"]

theorem hourlyEnds_repeatable : hourlyEnds.Repeatable .sum :=
  ⟨rfl, rfl, .inl rfl, rfl, rfl, by decide⟩

theorem hourlySites_repeatable : hourlySites.Repeatable .sum :=
  ⟨rfl, rfl, .inl rfl, rfl, rfl, by decide⟩

/-- Where the column of the upper ends hides the time column, the hour before midnight counts
for the day after it; where the column of a group hides a reduced column, keys are added up in
place of sums. -/
theorem not_rollsUp_of_hidden_column :
    (hourlyEnds.Coarsens .sum oneDay (.days 86400000000000) .late ∧
      (Table.late.columns.map (·.name)).Nodup ∧ hourlyEnds.targets = none ∧
      ¬hourlyEnds.RollsUp oneDay (.days 86400000000000) .late) ∧
    hourlySites.Coarsens .sum oneDay (.days 86400000000000) .twins ∧
      (Table.twins.columns.map (·.name)).Nodup ∧ hourlySites.boundaries = false ∧
      ¬hourlySites.RollsUp oneDay (.days 86400000000000) .twins := by
  have hlate : TimeAxis.ofTable .late hourlyEnds.spec.timeColumn =
      .ok ⟨[84600000000000], .fixed 0, none⟩ := rfl
  have htwins : TimeAxis.ofTable .twins hourlySites.spec.timeColumn =
      .ok ⟨[0, 0], .fixed 0, none⟩ := rfl
  refine ⟨⟨coarsens_oneDay hourlyEnds_repeatable rfl rfl rfl hlate rfl (by decide), by decide, rfl,
    ?_⟩, coarsens_oneDay hourlySites_repeatable rfl rfl rfl htwins rfl (by decide), by decide, rfl,
    ?_⟩
  · intro h
    have hmid : (hourlyEnds.transform .late).outcome =
        .ok (.lateWindow 82800000000000 86400000000000) :=
      transform_of_perm [⟨0, ⟨82800000000000, 86400000000000⟩, 82800000000000, [0], 1⟩]
        rfl rfl (by decide) rfl rfl rfl (by decide) (by decide) rfl
    have hrolled : (hourlyEnds.toDays.transform
        (.lateWindow 82800000000000 86400000000000)).outcome =
        .ok (.lateWindow 86400000000000 172800000000000) :=
      transform_of_perm [⟨0, ⟨86400000000000, 172800000000000⟩, 86400000000000, [0], 1⟩]
        rfl rfl (by decide) rfl rfl rfl (by decide) (by decide) rfl
    have hout : (hourlyEnds.toDays.transform .late).outcome =
        .ok (.lateWindow 0 86400000000000) :=
      transform_of_perm [⟨0, ⟨0, 86400000000000⟩, 0, [0], 1⟩]
        rfl rfl (by decide) rfl rfl rfl (by decide) (by decide) rfl
    exact absurd (h _ _ _ hmid hrolled hout) (by decide)
  · intro h
    have hmid : (hourlySites.transform .twins).outcome = .ok (.twinsWindow 2) :=
      transform_of_perm [⟨0, ⟨0, 3600000000000⟩, 0, [0, 1], 1⟩]
        rfl rfl (by decide) rfl rfl rfl (by decide) (by decide) rfl
    have hrolled : (hourlySites.toDays.transform (.twinsWindow 2)).outcome =
        .ok (.twinsWindow 1) :=
      transform_of_perm [⟨0, ⟨0, 86400000000000⟩, 0, [0], 1⟩]
        rfl rfl (by decide) rfl rfl rfl (by decide) (by decide) rfl
    have hout : (hourlySites.toDays.transform .twins).outcome = .ok (.twinsWindow 2) :=
      transform_of_perm [⟨0, ⟨0, 86400000000000⟩, 0, [0, 1], 1⟩]
        rfl rfl (by decide) rfl rfl rfl (by decide) (by decide) rfl
    exact absurd (h _ _ _ hmid hrolled hout) (by decide)

end Resampler

end Cadence
