import Cadence.Proofs.Resampler.Policies
import Cadence.Proofs.Table.TimeOrder

/-!
# Runs that keep partial windows

Such a run puts the rows of a table in time order, puts them into windows and reduces
each window to a row. It succeeds exactly when each of these steps does.
-/

namespace Cadence

namespace Resampler

variable {r : Resampler} {t out : Table} {line : Timeline}

theorem transform_outcome_eq_ok_iff [Zone.Database] (h : r.policy = .keep) :
    (r.transform t).outcome = .ok out ↔
      ∃ line, Timeline.ofTable t r.spec.timeColumn = .ok line ∧ r.summaryTable line = .ok out := by
  rw [transform, run_outcome_of_keep h, rowsOf_none, bind_eq_ok_iff]

/-- A table in time order is put into windows as it is. -/
theorem transform_of_isSorted [Zone.Database] {axis : TimeAxis} {a : Assignment} {s : Summary}
    (h : r.policy = .keep) (haxis : TimeAxis.ofTable t r.spec.timeColumn = .ok axis)
    (hsorted : axis.IsSorted) (hassign : (r.spec.assign t axis).outcome = .ok a)
    (hsummary : r.summarize ⟨t, axis⟩ a.windows = .ok s) :
    (r.transform t).outcome = .ok s.table :=
  (transform_outcome_eq_ok_iff h).mpr ⟨⟨t, axis⟩, Timeline.ofTable_of_isSorted haxis hsorted,
    bind_eq_ok_iff.mpr ⟨a, hassign, bind_eq_ok_iff.mpr ⟨s, hsummary, rfl⟩⟩⟩

/-- A table in time order is put into the windows that its rows open. -/
theorem transform_of_perm [Zone.Database] {axis : TimeAxis} {aggregated : List Nat}
    {columns : List Column} {shifted : List Int} {bounds : List Bounds} (ws : List Window)
    (h : r.policy = .keep) (haxis : TimeAxis.ofTable t r.spec.timeColumn = .ok axis)
    (hsorted : axis.IsSorted) (hcolumns : t.groupColumns r.spec.groupBy = .ok columns)
    (hshifted : r.spec.shifted axis = .ok shifted)
    (hbounds : r.spec.boundsFrom axis.zone none shifted = .ok bounds)
    (hperm : ((OpenWindow.fileAll r.spec.label (Placement.list
        (Grouping.extend [] (t.groupKeys columns)).rows bounds shifted axis.instants)).map
      (·.window)).Perm ws)
    (hordered : ws.Pairwise fun v w =>
      v.group < w.group ∨ v.group = w.group ∧ v.bounds.lower < w.bounds.lower)
    (hsummary : r.summarize ⟨t, axis⟩ ws = .ok ⟨out, aggregated⟩) :
    (r.transform t).outcome = .ok out :=
  transform_of_isSorted h haxis hsorted
    (WindowSpec.assign_of_perm hcolumns hshifted hbounds hperm hordered rfl) hsummary

/-- The table of the windows of some rows: the keys and the times of the windows, and then
each target column, reduced. -/
theorem summaryTable_eq_ok_iff : r.summaryTable line = .ok out ↔
    ∃ a names keys outputs, (r.spec.assign line.table line.axis).outcome = .ok a ∧
      r.targetNames line.table = .ok names ∧
      line.table.groupColumns r.spec.groupBy = .ok keys ∧
      names.Forall₂ (fun name columns => ∃ c, line.table.column? name = some c ∧
        r.Reduces a.windows name c columns) outputs ∧
      out.height = a.windows.length ∧
      out.columns = r.leadingColumns keys line.axis a.windows ++ outputs.flatten ∧
      out.Admissible := by
  simp only [summaryTable, bind_eq_ok_iff, summarize_eq_ok_iff, mapM_eq_ok_iff,
    reduceColumn_eq_ok_iff]
  constructor
  · rintro ⟨a, ha, s, ⟨names, keys, outputs, hnames, hkeys, houtputs, hheight, hcolumns,
      hadmissible, -⟩, h⟩
    cases h
    exact ⟨a, names, keys, outputs, ha, hnames, hkeys, houtputs, hheight, hcolumns, hadmissible⟩
  · rintro ⟨a, names, keys, outputs, ha, hnames, hkeys, houtputs, hheight, hcolumns,
      hadmissible⟩
    exact ⟨a, ha, ⟨out, _⟩, ⟨names, keys, outputs, hnames, hkeys, houtputs, hheight, hcolumns,
      hadmissible, rfl⟩, rfl⟩

/-- The columns to reduce depend on no row. -/
theorem targetNames_select (r : Resampler) (t : Table) (rows : List Nat) :
    r.targetNames (t.select rows) = r.targetNames t := by
  rw [targetNames, targetNames, Table.schema_select]

end Resampler

/-! ### Loads of two sites -/

/-- Loads of two sites, one of which is missing. -/
def Table.loads : Table where
  height := 5
  columns :=
    [⟨⟨"ts", .timestamp .nanosecond none, false⟩,
        [.int 0, .int 0, .int 1800000000000, .int 3600000000000, .int 3600000000000], by decide⟩,
      ⟨⟨"site", .text, false⟩,
        [.text "north", .text "south", .text "north", .text "north", .text "south"], by decide⟩,
      ⟨⟨"load", .int64, true⟩, [.int 1, .null, .int 4, .int 2, .int 5], by decide⟩]
  uniform := by decide

/-- The instants of the loads, on the common time line. -/
def TimeAxis.loads : TimeAxis where
  instants := [0, 0, 1800000000000, 3600000000000, 3600000000000]
  zone := .fixed 0
  label := none

/-- The hours of the loads, site by site. -/
def Assignment.loads : Assignment where
  windows :=
    [⟨0, ⟨0, 3600000000000⟩, 0, [0, 2], 2⟩,
      ⟨0, ⟨3600000000000, 7200000000000⟩, 3600000000000, [3], 1⟩,
      ⟨1, ⟨0, 3600000000000⟩, 0, [1], 1⟩,
      ⟨1, ⟨3600000000000, 7200000000000⟩, 3600000000000, [4], 1⟩]
  groups := [[.text "north"], [.text "south"]]

theorem WindowSpec.assign_loads : (hourOfSite.assign .loads .loads).outcome = .ok .loads := by
  apply assign_of_perm rfl rfl rfl
  · decide
  · decide
  · rfl

/-- A resampler has a table of the loads if it can reduce their windows. -/
theorem Resampler.exists_transform_loads {r : Resampler} {a : Assignment}
    (hpolicy : r.policy = .keep) (htime : r.spec.timeColumn = "ts")
    (hassign : (r.spec.assign .loads .loads).outcome = .ok a)
    (hreduced : (r.summarize ⟨.loads, .loads⟩ a.windows).isOk = true) :
    ∃ out, (r.transform .loads).outcome = .ok out := by
  cases hsummary : r.summarize ⟨.loads, .loads⟩ a.windows with
  | error e =>
      rw [hsummary] at hreduced
      cases hreduced
  | ok s =>
      have haxis : TimeAxis.ofTable .loads r.spec.timeColumn = .ok .loads := by
        rw [htime]
        rfl
      exact ⟨s.table, transform_of_isSorted hpolicy haxis (by decide) hassign hsummary⟩

/-- What five reducers make of the hours of the loads. -/
def Resampler.hourlyLoads : Resampler where
  spec := .hourOfSite
  reducers :=
    [⟨"sum", .sum⟩, ⟨"max", .max⟩, ⟨"min", .min⟩, ⟨"count", .count⟩, ⟨"all", .identity⟩]

end Cadence
