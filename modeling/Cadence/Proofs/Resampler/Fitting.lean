import Cadence.Proofs.Resampler.Failure
import Cadence.Proofs.Resampler.Keeping

/-!
# Tables that suit a resampler

Whether a table suits a resampler is told before any row is looked at: by the time column, the
columns of the groups and the columns to reduce. A run looks at all of them again, on rows in
another order, and meets the same columns. What a table that suits the resampler can still run
into are numbers only: times out of range, sums of integers, and lists of too many values.
-/

namespace Cadence

/-! ### Selected rows -/

namespace Table

variable {t : Table} {rows : List Nat} {names : List String} {c : Column}

theorem Admissible.select (h : t.Admissible) (hrows : ∀ row ∈ rows, row < t.height) :
    (t.select rows).Admissible := by
  intro c hc
  obtain ⟨d, hd, rfl⟩ := List.mem_map.mp hc
  exact (h d hd).imp_right fun hnulls =>
    Column.nullCount_select hnulls fun row hrow => t.uniform d hd ▸ hrows row hrow

/-- Among columns of different names, each is found by its name. -/
theorem column?_of_mem (hnames : (t.schema.map (·.name)).Nodup) (hc : c ∈ t.columns) :
    t.column? c.name = some c := by
  have hfound : (t.column? c.name).isSome = true :=
    List.find?_isSome.mpr ⟨c, hc, decide_eq_true rfl⟩
  obtain ⟨d, hd⟩ := Option.isSome_iff_exists.mp hfound
  have hname : d.name = c.name := by simpa using List.find?_some hd
  rw [schema, List.map_map] at hnames
  rw [hd, List.inj_on_of_nodup_map hnames (List.mem_of_find?_eq_some hd) hc hname]

/-- Columns of groups are missing among selected rows when they are missing among all. -/
theorem groupColumns_select_eq_error {e : Error} (h : t.groupColumns names = .error e) :
    (t.select rows).groupColumns names = .error e := by
  rw [groupColumns, mapM_eq_error_iff_first] at h ⊢
  obtain ⟨before, name, after, hsplit, hbefore, hname⟩ := h
  refine ⟨before, name, after, hsplit, fun other hother => ?_, ?_⟩
  · obtain ⟨d, hd⟩ := hbefore other hother
    rw [elim_eq_ok_iff] at hd
    exact ⟨d.select rows, by rw [column?_select, hd]; rfl⟩
  · rw [column?_select]
    cases hcolumn : t.column? name with
    | none => rwa [hcolumn] at hname
    | some d =>
        rw [hcolumn] at hname
        cases hname

theorem column?_ne_none_of_groupColumns {columns : List Column} {name : String}
    (h : t.groupColumns names = .ok columns) (hname : name ∈ names) : t.column? name ≠ none := by
  intro hnone
  obtain ⟨i, hi⟩ := List.mem_iff_getElem?.mp hname
  obtain ⟨d, -, hd⟩ := getElem?_of_mapM_eq_ok h hi
  cases (elim_eq_ok_iff.mp hd).symm.trans hnone

/-- A column that passes its check is there, and suits the reducers. -/
theorem exists_column_of_checkTarget {reducers : List Reducer} {name : String}
    (h : Reducer.checkTarget t.schema reducers name = .ok ()) :
    ∃ c, t.column? name = some c ∧ ∀ r ∈ reducers, r.supports c.type = true := by
  unfold Reducer.checkTarget at h
  rw [find?_schema] at h
  cases hcolumn : t.column? name with
  | none =>
      rw [hcolumn] at h
      cases h
  | some c =>
      rw [hcolumn, Option.map_some] at h
      dsimp only at h
      split at h
      · next hall =>
          refine ⟨c, rfl, fun r hr => ?_⟩
          simpa using List.find?_eq_none.mp hall r hr
      · cases h

end Table

/-! ### Columns of a summary -/

theorem TimeAxis.nullCount_column (axis : TimeAxis) (name : String) (instants : List Int) :
    (axis.column name instants).nullCount = 0 := by
  rw [Column.nullCount_eq_zero_iff]
  exact .inr (by simp [column])

namespace Resampler

variable {r : Resampler} {t : Table} {line : Timeline} {windows : List Window} {a : Assignment}
variable {keys columns : List Column} {axis : TimeAxis} {names : List String} {name : String}
variable {c : Column} {P : Error → Prop}

theorem length_of_mem_leadingColumns (hc : c ∈ r.leadingColumns keys axis windows) :
    c.cells.length = windows.length := by
  rcases List.mem_append.mp hc with hc | hc
  · obtain ⟨d, -, rfl⟩ := List.mem_map.mp hc
    rw [Column.length_select, List.length_map]
  · obtain ⟨name, instant, rfl⟩ := exists_of_mem_timeColumns hc
    simp [TimeAxis.column]

theorem length_of_reduceColumn (h : r.reduceColumn t windows name = .ok columns) :
    ∀ c ∈ columns, c.cells.length = windows.length := by
  obtain ⟨column, -, h⟩ := reduceColumn_eq_ok_iff.mp h
  intro c hc
  obtain ⟨named, -, reduced, hreduced, rfl⟩ := exists_of_forall₂_right h hc
  exact (Reducer.makes_of_reduce hreduced).length_cells.trans (List.length_map _)

/-- The key of a window is that of a row, and so it is no null where there are none. -/
theorem admissible_of_mem_leadingColumns (ht : t.Admissible)
    (hkeys : t.groupColumns r.spec.groupBy = .ok keys)
    (hwindows : ∀ w ∈ windows, w.rows ≠ [] ∧ ∀ row ∈ w.rows, row < t.height)
    (hc : c ∈ r.leadingColumns keys axis windows) : c.nullable = true ∨ c.nullCount = 0 := by
  rcases List.mem_append.mp hc with hc | hc
  · obtain ⟨d, hd, rfl⟩ := List.mem_map.mp hc
    obtain ⟨name, -, hname⟩ := exists_of_mapM_eq_ok hkeys hd
    have hmem : d ∈ t.columns := List.mem_of_find?_eq_some (elim_eq_ok_iff.mp hname)
    refine (ht d hmem).imp_right fun hnulls => Column.nullCount_select hnulls ?_
    intro row hrow
    obtain ⟨w, hw, rfl⟩ := List.mem_map.mp hrow
    obtain ⟨hsome, hrows⟩ := hwindows w hw
    obtain ⟨first, rest, hfirst⟩ := List.exists_cons_of_ne_nil hsome
    rw [t.uniform d hmem, hfirst]
    exact hrows first (hfirst ▸ List.mem_cons_self)
  · obtain ⟨name, instant, rfl⟩ := exists_of_mem_timeColumns hc
    exact .inr (axis.nullCount_column name _)

/-- Columns that can be looked up make a table of the windows, unless one of them cannot be
reduced. -/
theorem failsOnly_summarize (ht : line.table.Admissible)
    (hnames : r.targetNames line.table = .ok names)
    (hkeys : line.table.groupColumns r.spec.groupBy = .ok keys)
    (hwindows : ∀ w ∈ windows, w.rows ≠ [] ∧ ∀ row ∈ w.rows, row < line.table.height)
    (hreduce : ∀ name ∈ names, FailsOnly P (r.reduceColumn line.table windows name)) :
    FailsOnly P (r.summarize line windows) := by
  rw [summarize, hnames, hkeys, ok_bind, ok_bind]
  apply (FailsOnly.mapM hreduce).bind
  intro reduced hreduced
  have hmem : ∀ c ∈ reduced.flatten, ∃ name columns,
      r.reduceColumn line.table windows name = .ok columns ∧ c ∈ columns := by
    intro c hc
    obtain ⟨columns, hcolumns, hc⟩ := List.mem_flatten.mp hc
    obtain ⟨name, -, hname⟩ := exists_of_mapM_eq_ok hreduced hcolumns
    exact ⟨name, columns, hname, hc⟩
  have hlength : ∀ c ∈ r.leadingColumns keys line.axis windows ++ reduced.flatten,
      c.cells.length = windows.length := by
    intro c hc
    rcases List.mem_append.mp hc with hc | hc
    · exact length_of_mem_leadingColumns hc
    · obtain ⟨name, columns, hname, hc⟩ := hmem c hc
      exact length_of_reduceColumn hname c hc
  have hadmissible : Table.Admissible ⟨windows.length, _, hlength⟩ := by
    intro c hc
    rcases List.mem_append.mp hc with hc | hc
    · exact admissible_of_mem_leadingColumns ht hkeys hwindows hc
    · obtain ⟨name, columns, hname, hc⟩ := hmem c hc
      exact .inl (takesNulls_of_reduceColumn hname c hc).1
  have htable : Table.ofHeight? windows.length
      (groupColumns keys windows ++ r.timeColumns line.axis windows ++ reduced.flatten) =
        some ⟨windows.length, _, hlength⟩ := dif_pos hlength
  dsimp only
  rw [htable]
  dsimp only
  rw [if_pos hadmissible]
  exact FailsOnly.ok _

/-! ### Tables that fit -/

theorem fit_eq_ok_iff [Zone.Database] : r.fit t = .ok () ↔
    ∃ axis keys names, TimeAxis.ofTable t r.spec.timeColumn = .ok axis ∧
      t.groupColumns r.spec.groupBy = .ok keys ∧ r.targetNames t = .ok names := by
  simp only [fit, bind_eq_ok_iff]
  constructor
  · rintro ⟨axis, haxis, keys, hkeys, names, hnames, -⟩
    exact ⟨axis, keys, names, haxis, hkeys, hnames⟩
  · rintro ⟨axis, keys, names, haxis, hkeys, hnames⟩
    exact ⟨axis, haxis, keys, hkeys, names, hnames, rfl⟩

/-- Every column that is to be reduced is there, and suits all reducers. -/
theorem exists_column_of_mem_targetNames (hschema : (t.schema.map (·.name)).Nodup)
    (hnames : r.targetNames t = .ok names) (hname : name ∈ names) :
    ∃ c, t.column? name = some c ∧
      ∀ named ∈ r.reducers, named.reducer.supports c.type = true := by
  cases htargets : r.targets with
  | none =>
      obtain ⟨-, c, hc, rfl, hsuits⟩ := (mem_targetNames_iff htargets hnames).mp hname
      exact ⟨c, Table.column?_of_mem hschema hc, hsuits⟩
  | some targets =>
      rw [targetNames, htargets] at hnames
      obtain ⟨_, hchecked, hnames⟩ := bind_eq_ok_iff.mp hnames
      cases hnames
      obtain ⟨c, hc, hsuits⟩ :=
        Table.exists_column_of_checkTarget (forM_eq_ok_iff.mp hchecked name hname)
      exact ⟨c, hc, fun named hnamed => hsuits named.reducer (List.mem_map_of_mem hnamed)⟩

variable [Zone.Database]

/-- A run looks at the columns of the groups before it takes any window. -/
theorem transform_eq_error_of_assign {e : Error}
    (hline : Timeline.ofTable t r.spec.timeColumn = .ok line)
    (h : (r.spec.assign line.table line.axis).outcome = .error e) :
    (r.transform t).outcome = .error e := by
  by_cases hpolicy : r.policy = .keep
  · rw [transform, run_outcome_of_keep hpolicy, rowsOf_none, hline, ok_bind, summaryTable, h]
    rfl
  · change r.runUnder r.policy none t = _
    rw [runUnder_of_ne_keep hpolicy, mark, hline, ok_bind, h]
    rfl

theorem transform_eq_error_of_ofTable {e : Error}
    (h : TimeAxis.ofTable t r.spec.timeColumn = .error e) : (r.transform t).outcome = .error e := by
  rw [transform, run, Journaled.outcome_bind, Journaled.outcome_lift, Timeline.ofTable_eq_error h]
  rfl

theorem transform_eq_error_of_groupColumns {e : Error}
    (haxis : TimeAxis.ofTable t r.spec.timeColumn = .ok axis)
    (h : t.groupColumns r.spec.groupBy = .error e) : (r.transform t).outcome = .error e := by
  apply transform_eq_error_of_assign (Timeline.ofTable_eq haxis)
  rw [WindowSpec.assign, Journaled.outcome_noting, Assignment.plan,
    Table.groupColumns_select_eq_error h]
  rfl

/-- A table that is resampled fits. -/
theorem fit_eq_ok_of_transform {out : Table} (h : (r.transform t).outcome = .ok out) :
    r.fit t = .ok () := by
  obtain ⟨line, a, s, -, hline, -, hsummary, -⟩ := exists_resolved_of_run h
  rw [rowsOf_none] at hline
  obtain ⟨axis, haxis, rfl⟩ := Timeline.ofTable_eq_ok_iff.mp hline
  obtain ⟨names, keys, -, hnames, -⟩ := summarize_eq_ok_iff.mp hsummary
  rw [targetNames_select] at hnames
  cases hgroups : t.groupColumns r.spec.groupBy with
  | error e => cases (transform_eq_error_of_groupColumns haxis hgroups).symm.trans h
  | ok keys => exact fit_eq_ok_iff.mpr ⟨axis, keys, names, haxis, hgroups, hnames⟩

/-! ### Runs on tables that fit -/

/-- A number that a run on a table that fits cannot hold, and the error that it stops with. -/
inductive Exceeds (r : Resampler) (t : Table) : Error → Prop
  /-- An instant, moved or not, or a boundary of the window that it falls into. -/
  | time {axis : TimeAxis} {i : Int} {e : Error}
      (read : TimeAxis.ofTable t r.spec.timeColumn = .ok axis) (instant : i ∈ axis.instants)
      (window : (r.spec.shift axis.zone i >>= r.spec.windowOf axis.zone) = .error e)
      (outside : e.IsOutOfRange ∨ e = .overflow) : Exceeds r t e
  /-- A sum of 64-bit integers of a window. -/
  | sum {line : Timeline} {a : Assignment} {w : Window} {names : List String} {name : String}
      {c : Column} (read : Timeline.ofTable t r.spec.timeColumn = .ok line)
      (assigned : (r.spec.assign line.table line.axis).outcome = .ok a) (window : w ∈ a.windows)
      (targets : r.targetNames t = .ok names) (target : name ∈ names)
      (column : line.table.column? name = some c) (type : c.type = .int64)
      (asked : .sum ∈ r.reducers.map (·.reducer))
      (large : Reducer.total? (c.intsAt w.rows) = none) : Exceeds r t (.data .sumOverflow)
  /-- The number of values in all lists of a column. -/
  | lists (asked : .identity ∈ r.reducers.map (·.reducer))
      (large : Reducer.listCapacity < t.height) : Exceeds r t (.data .listCapacity)

/-- Of the rows in time order, a column of the table that suits the reducers is refused for its
numbers only. -/
theorem exceeds_of_refuses {named : NamedReducer} {e : Error}
    (hline : Timeline.ofTable t r.spec.timeColumn = .ok line)
    (ha : (r.spec.assign line.table line.axis).outcome = .ok a)
    (hheight : line.table.height = t.height) (hnames : r.targetNames t = .ok names)
    (hname : name ∈ names) (hc : line.table.column? name = some c) (hnamed : named ∈ r.reducers)
    (hsuits : named.reducer.supports c.type = true)
    (h : named.reducer.Refuses c (a.windows.map (·.rows)) e) : r.Exceeds t e := by
  have hasked : named.reducer ∈ r.reducers.map (·.reducer) := List.mem_map_of_mem hnamed
  cases h with
  | type hunsuited => cases hunsuited.symm.trans hsuits
  | sum hsum htype hrows htotal =>
      obtain ⟨w, hw, rfl⟩ := List.mem_map.mp hrows
      exact .sum hline ha hw hnames hname hc htype (hsum ▸ hasked) htotal
  | lists hlists hmany =>
      have hlength := (TimeAxis.ofTable_spec (Timeline.ofTable_spec hline).1).1
      have hrows := (WindowSpec.partitions_of_assign hlength ha).perm.length_eq
      rw [List.length_range, hheight, List.flatMap_def] at hrows
      exact .lists (hlists ▸ hasked) (hrows ▸ hmany)

theorem failsOnly_transform_of_fit (hschema : (t.schema.map (·.name)).Nodup) (ht : t.Admissible)
    (hpolicy : r.policy = .keep) (hfit : r.fit t = .ok ()) :
    FailsOnly (r.Exceeds t) (r.transform t).outcome := by
  obtain ⟨axis, keys, names, haxis, hkeys, hnames⟩ := fit_eq_ok_iff.mp hfit
  -- The run looks the same columns up again, in a selection of all rows.
  obtain ⟨order, horder, hline⟩ := Timeline.exists_order haxis
  have hrows : ∀ row ∈ order, row < t.height := fun row hrow =>
    List.mem_range.mp (horder.mem_iff.mp hrow)
  have hheight : order.length = t.height := horder.length_eq.trans List.length_range
  have hgroups : (t.select order).groupColumns r.spec.groupBy = .ok (keys.map (·.select order)) :=
    Table.groupColumns_select hkeys
  rw [transform, run_outcome_of_keep hpolicy, rowsOf_none, hline, ok_bind]
  apply FailsOnly.bind
  · apply WindowSpec.failsOnly_assign_of
    · rw [hgroups]
      exact FailsOnly.ok _
    · intro i hi e he
      have hmem := (Timeline.mem_instants_iff haxis hline).mp hi
      exact .time haxis hmem he ((r.spec.outOfRange_window hmem e he).imp_right And.left)
  · intro a ha
    have hlength := (TimeAxis.ofTable_spec (Timeline.ofTable_spec hline).1).1
    have hparts := WindowSpec.partitions_of_assign hlength ha
    have htargets := (r.targetNames_select t order).trans hnames
    refine FailsOnly.bind (failsOnly_summarize (ht.select hrows) htargets hgroups ?windows ?reduced)
      fun _ _ => FailsOnly.ok _
    case windows =>
      exact fun w hw => ⟨hparts.nonempty w hw, fun row hrow =>
        hparts.exists_window_iff.mp ⟨w, hw, hrow⟩⟩
    case reduced =>
      intro name hname
      obtain ⟨c, hc, hsuits⟩ := exists_column_of_mem_targetNames hschema hnames hname
      have hselected : (t.select order).column? name = some (c.select order) := by
        rw [Table.column?_select, hc]
        rfl
      refine (r.failsOnly_reduceColumn a.windows hselected).mono ?_
      rintro e ⟨named, hnamed, hrefuses⟩
      exact exceeds_of_refuses hline ha hheight hnames hname hselected hnamed
        (hsuits named hnamed) hrefuses

/-- Let a table have columns of different names, and no null where none may be. A run on it fails
if it does not fit, with the same error if the time column or a column of groups is the reason. If
it fits, a run that keeps partial windows fails only where a number is too large: a time, a sum of
64-bit integers, or the number of values in lists. -/
theorem fit_agrees (hschema : (t.schema.map (·.name)).Nodup) (ht : t.Admissible) :
    (∀ e, r.fit t = .error e →
      (∃ e', (r.transform t).outcome = .error e') ∧
      ((∃ e', TimeAxis.ofTable t r.spec.timeColumn = .error e') ∨
          (∃ name ∈ r.spec.groupBy, t.column? name = none) →
        (r.transform t).outcome = .error e)) ∧
    (r.fit t = .ok () → r.policy = .keep → FailsOnly (r.Exceeds t) (r.transform t).outcome) := by
  refine ⟨fun e he => ⟨?_, ?_⟩, fun hfit hpolicy =>
    failsOnly_transform_of_fit hschema ht hpolicy hfit⟩
  · cases hout : (r.transform t).outcome with
    | error e' => exact ⟨e', rfl⟩
    | ok out => cases (fit_eq_ok_of_transform hout).symm.trans he
  · rcases bind_eq_error_iff.mp he with haxis | ⟨axis, haxis, he⟩
    · exact fun _ => transform_eq_error_of_ofTable haxis
    · rcases bind_eq_error_iff.mp he with hkeys | ⟨keys, hkeys, -⟩
      · exact fun _ => transform_eq_error_of_groupColumns haxis hkeys
      · rintro (⟨e', haxis'⟩ | ⟨name, hname, hmissing⟩)
        · cases haxis.symm.trans haxis'
        · exact absurd hmissing (Table.column?_ne_none_of_groupColumns hkeys hname)

end Resampler

/-- Two loads at one instant, whose sum no counter can hold. -/
def Table.heavy : Table where
  height := 2
  columns :=
    [⟨⟨"ts", .timestamp .nanosecond none, false⟩, [.int 0, .int 0], by decide⟩,
      ⟨⟨"load", .int64, true⟩, [.int Counter.greatest, .int 1], by decide⟩]
  uniform := by decide

/-- The instant of the loads, on the common time line. -/
def TimeAxis.heavy : TimeAxis := ⟨[0, 0], .fixed 0, none⟩

namespace Resampler

/-- Sums of the hours, without groups. -/
def hourlyTotals : Resampler where
  spec := { WindowSpec.hourOfSite with groupBy := [] }

/-- The loads fit but cannot be added up, and do not fit where groups are wanted. -/
theorem fit_agrees_heavy :
    (Table.heavy.schema.map (·.name)).Nodup ∧ Table.heavy.Admissible ∧
      hourlyTotals.fit .heavy = .ok () ∧ hourlyTotals.policy = .keep ∧
      (hourlyTotals.transform .heavy).outcome = .error (.data .sumOverflow) ∧
      hourlyTotals.Exceeds .heavy (.data .sumOverflow) ∧
      (hourlyTotals.withGroupBy ["site"]).fit .heavy =
        .error (.data (.missingColumn .groupBy "site")) ∧
      ((hourlyTotals.withGroupBy ["site"]).transform .heavy).outcome =
        .error (.data (.missingColumn .groupBy "site")) := by
  have hschema : (Table.heavy.schema.map (·.name)).Nodup := by decide
  have hadmissible : Table.heavy.Admissible := by decide
  have hassign : (hourlyTotals.spec.assign .heavy .heavy).outcome =
      .ok ⟨[⟨0, ⟨0, 3600000000000⟩, 0, [0, 1], 1⟩], [[]]⟩ :=
    WindowSpec.assign_of_perm rfl rfl rfl (by decide) (by decide) rfl
  have hline : Timeline.ofTable .heavy hourlyTotals.spec.timeColumn = .ok ⟨.heavy, .heavy⟩ :=
    Timeline.ofTable_of_isSorted rfl (by decide)
  have hsum : (hourlyTotals.transform .heavy).outcome = .error (.data .sumOverflow) := by
    rw [transform, run_outcome_of_keep rfl, rowsOf_none, hline, ok_bind, summaryTable, hassign]
    rfl
  obtain ⟨-, hfits⟩ := fit_agrees (r := hourlyTotals) hschema hadmissible
  obtain ⟨hmissing, -⟩ := fit_agrees (r := hourlyTotals.withGroupBy ["site"]) hschema hadmissible
  obtain ⟨-, hsame⟩ := hmissing (.data (.missingColumn .groupBy "site")) rfl
  exact ⟨hschema, hadmissible, rfl, rfl, hsum, hfits rfl rfl _ hsum, rfl,
    hsame (.inr ⟨"site", List.mem_singleton_self _, rfl⟩)⟩

end Resampler

end Cadence
