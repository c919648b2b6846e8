import Cadence.Proofs.Resampler.Summary
import Cadence.Proofs.Table.Selection

/-!
# Policies side by side

Up to the resolution of partial windows, all policies but the one that keeps them run
the same steps. What they resolve is one summary with one flag for each of its rows,
and the policy that keeps partial windows returns that summary as it is.
-/

namespace Cadence

/-! ### Flags -/

theorem getElem?_of_unflagged {flags : List Bool} {row : Nat} (h : true ∉ flags)
    (hrow : row < flags.length) : flags[row]? = some false := by
  rw [List.getElem?_eq_getElem hrow, Option.some.injEq, ← Bool.not_eq_true]
  intro htrue
  exact h (htrue ▸ List.getElem_mem hrow)

/-- The first flag of a list that has one. -/
theorem getElem?_idxOf_true {flags : List Bool} (h : true ∈ flags) :
    flags[flags.idxOf true]? = some true ∧
      ∀ row < flags.idxOf true, flags[row]? = some false := by
  have hlt := List.idxOf_lt_length_iff.mpr h
  constructor
  · rw [List.getElem?_eq_getElem hlt, List.getElem_idxOf]
  · intro row hrow
    rw [List.getElem?_eq_getElem (hrow.trans hlt), Option.some.injEq]
    have hfirst := List.not_of_lt_findIdx hrow
    simpa using hfirst

/-! ### Nulls in flagged rows -/

namespace Table

variable {t u : Table} {flags : List Bool} {columns : List Nat} {first : Nat}

/-- The cell of a row in a column. -/
def cell? (t : Table) (column row : Nat) : Option Cell :=
  t.columns[column]?.bind fun c => c.cells[row]?

/-- The table `u` is the table `t` with nulls in the flagged rows of the columns from a
place on. -/
structure NulledFrom (t : Table) (first : Nat) (flags : List Bool) (u : Table) : Prop where
  height : u.height = t.height
  schema : u.schema = t.schema
  cleared : ∀ column row, first ≤ column → flags[row]? = some true →
    u.cell? column row = (t.cell? column row).map fun _ => .null
  others : ∀ column row, column < first ∨ flags[row]? = some false →
    u.cell? column row = t.cell? column row

theorem nulledFrom_self (h : true ∉ flags) : t.NulledFrom first flags t := by
  refine ⟨rfl, rfl, ?_, fun _ _ _ => rfl⟩
  intro column row _ hrow
  exact absurd (List.mem_of_getElem? hrow) h

theorem schema_nullAt (t : Table) (flags : List Bool) (columns : List Nat) :
    (t.nullAt flags columns).schema = t.schema := by
  apply List.ext_getElem?
  intro i
  simp only [schema, nullAt, List.getElem?_map, List.getElem?_mapIdx, Option.map_map]
  congr 1
  funext c
  dsimp only [Function.comp]
  split <;> rfl

theorem cell?_nullAt_of_mem {column row : Nat} (h : column ∈ columns)
    (htakes : ∀ c, t.columns[column]? = some c → c.TakesNulls) :
    (t.nullAt flags columns).cell? column row =
      (t.cell? column row).map fun x => if flags.getD row false then .null else x := by
  simp only [cell?, nullAt, List.getElem?_mapIdx]
  cases hc : t.columns[column]? with
  | none => rfl
  | some c =>
      have hvalues : c.type ≠ .nothing := (htakes c hc).2
      simp [h, Column.nullAt, hvalues, List.getElem?_mapIdx]

theorem cell?_nullAt_of_notMem {column row : Nat} (h : column ∉ columns) :
    (t.nullAt flags columns).cell? column row = t.cell? column row := by
  simp only [cell?, nullAt, List.getElem?_mapIdx, h, if_false, Option.map_id']

/-- A table whose columns from a place on take nulls may have them there. -/
theorem admissible_nullAt (h : t.Admissible)
    (htakes : ∀ column ∈ columns, ∀ c, t.columns[column]? = some c → c.TakesNulls) :
    (t.nullAt flags columns).Admissible := by
  intro d hd
  obtain ⟨i, hi, rfl⟩ := List.mem_mapIdx.mp hd
  split
  · next hmem => exact .inl (htakes i hmem _ (List.getElem?_eq_getElem hi)).1
  · exact h _ (List.getElem_mem hi)

end Table

/-! ### Policies -/

namespace Policy

variable {t : Table} {flags : List Bool} {bounds : List Bounds} {aggregated : List Nat}
variable {zone : Zone} {policy : Policy}

theorem resolve_outcome_of_unflagged (h : true ∉ flags) :
    (policy.resolve t flags bounds aggregated zone).outcome = .ok t := by
  rw [resolve, if_pos (List.count_eq_zero.mpr h)]
  rfl

theorem resolve_outcome_of_flagged (h : true ∈ flags) :
    (policy.resolve t flags bounds aggregated zone).outcome =
      policy.apply t flags bounds aggregated zone := by
  rw [resolve, if_neg]
  rw [List.count_eq_zero]
  exact fun hnone => hnone h

theorem resolve_drop (hflags : flags.length = t.height) :
    (Policy.drop.resolve t flags bounds aggregated zone).outcome =
      .ok (t.filterRows fun row => flags[row]? = some false) := by
  by_cases h : true ∈ flags
  · rw [resolve_outcome_of_flagged h]
    exact if_neg (Nat.not_lt.mpr hflags.le)
  · have hall : (List.range t.height).filter (fun row => flags[row]? = some false) =
        List.range t.height := by
      apply List.filter_eq_self.mpr
      intro row hrow
      exact decide_eq_true (getElem?_of_unflagged h (hflags ▸ List.mem_range.mp hrow))
    rw [resolve_outcome_of_unflagged h, Table.filterRows, hall, Table.select_range]

theorem resolve_null {first : Nat} (hflags : flags.length = t.height) (hadmissible : t.Admissible)
    (haggregated : ∀ column, column ∈ aggregated ↔ first ≤ column ∧ column < t.columns.length)
    (htakes : ∀ column c, t.columns[column]? = some c → first ≤ column → c.TakesNulls) :
    ∃ u, (Policy.null.resolve t flags bounds aggregated zone).outcome = .ok u ∧
      t.NulledFrom first flags u := by
  by_cases h : true ∈ flags
  · rw [resolve_outcome_of_flagged h]
    have htakes' : ∀ column ∈ aggregated, ∀ c, t.columns[column]? = some c → c.TakesNulls :=
      fun column hcolumn c hc => htakes column c hc ((haggregated column).mp hcolumn).1
    refine ⟨t.nullAt flags aggregated, ?_, rfl, t.schema_nullAt flags aggregated, ?_, ?_⟩
    · dsimp only [apply]
      rw [if_neg (fun hlength => hlength.2 hflags), if_pos (t.admissible_nullAt hadmissible htakes')]
    · intro column row hfirst hrow
      by_cases hmem : column ∈ aggregated
      · rw [Table.cell?_nullAt_of_mem hmem (htakes' column hmem)]
        simp [hrow]
      · have hnone : t.columns[column]? = none := by
          rw [List.getElem?_eq_none_iff]
          by_contra hlt
          exact hmem ((haggregated column).mpr ⟨hfirst, by omega⟩)
        rw [Table.cell?_nullAt_of_notMem hmem, Table.cell?, hnone]
        rfl
    · intro column row hother
      by_cases hmem : column ∈ aggregated
      · have hrow : flags[row]? = some false :=
          hother.resolve_left (Nat.not_lt.mpr ((haggregated column).mp hmem).1)
        rw [Table.cell?_nullAt_of_mem hmem (htakes' column hmem)]
        simp [hrow]
      · exact Table.cell?_nullAt_of_notMem hmem
  · exact ⟨t, resolve_outcome_of_unflagged h, Table.nulledFrom_self h⟩

end Policy

/-! ### Runs -/

namespace Resampler

/-- What there is when partial windows are to be resolved. -/
structure Marked where
  rows : Timeline
  assignment : Assignment
  summary : Summary
  snapshot : Snapshot

/-- Which windows are partial. -/
def Marked.flags (m : Marked) : List Bool :=
  m.assignment.windows.map fun w => m.snapshot.isPartial (m.assignment.keyOf w)

variable [Zone.Database]

/-- The outcome of a run under a policy. -/
def runUnder (r : Resampler) (policy : Policy) (filter : Option RowFilter) (t : Table) :
    Except Error Table :=
  ((r.withPolicy policy).run filter t).outcome

/-- The rows that are resampled. -/
def rowsOf (r : Resampler) (filter : Option RowFilter) (t : Table) : Except Error Timeline := do
  let line ← Timeline.ofTable t r.spec.timeColumn
  (r.filtered filter line).outcome

/-- The windows of some rows as a table, when none of them is looked at as partial. -/
def summaryTable (r : Resampler) (rows : Timeline) : Except Error Table := do
  let assignment ← (r.spec.assign rows.table rows.axis).outcome
  let summary ← r.summarize rows assignment.windows
  return summary.table

/-- The steps of a run up to the resolution of partial windows. -/
def mark (r : Resampler) (filter : Option RowFilter) (t : Table) : Except Error Marked := do
  let line ← Timeline.ofTable t r.spec.timeColumn
  let all ← (r.spec.assign line.table line.axis).outcome
  let snapshot ← (Snapshot.capture all line.axis.instants r.detection).outcome
  let rows ← (r.filtered filter line).outcome
  let assignment ← (r.spec.assign rows.table rows.axis).outcome
  let summary ← r.summarize rows assignment.windows
  return ⟨rows, assignment, summary, snapshot⟩

variable {r : Resampler} {filter : Option RowFilter} {t : Table} {policy : Policy} {m : Marked}

/-- A run that keeps partial windows looks at nothing but the rows that it resamples. -/
theorem run_outcome_of_keep (h : r.policy = .keep) (filter : Option RowFilter) (t : Table) :
    (r.run filter t).outcome = r.rowsOf filter t >>= r.summaryTable := by
  simp only [run, snapshot, h, resolve, rowsOf, Journaled.outcome_bind, Journaled.outcome_lift,
    Journaled.outcome_pure, Journaled.outcome_noting, bind_assoc]
  rfl

/-- Without a filter, the rows are those of the table in time order. -/
theorem rowsOf_none (r : Resampler) (t : Table) :
    r.rowsOf none t = Timeline.ofTable t r.spec.timeColumn :=
  bind_pure _

omit [Zone.Database] in
/-- Unless partial windows are kept, the windows of all rows are marked. -/
theorem snapshot_outcome_of_ne_keep (h : r.policy ≠ .keep) (line : Timeline) :
    (r.snapshot line).outcome =
      (r.spec.assign line.table line.axis).outcome >>= fun all =>
        (Snapshot.capture all line.axis.instants r.detection).outcome >>= fun s =>
          .ok (some s) := by
  cases hpolicy : r.policy with
  | keep => exact absurd hpolicy h
  | drop | null | fail =>
      simp only [snapshot, hpolicy, Journaled.outcome_bind, Journaled.outcome_pure]

/-- The result of a run is a summary of the rows, up to what a policy does to some flags. -/
theorem exists_resolved_of_run {out : Table} (h : (r.run filter t).outcome = .ok out) :
    ∃ rows a s flags, r.rowsOf filter t = .ok rows ∧
      (r.spec.assign rows.table rows.axis).outcome = .ok a ∧
      r.summarize rows a.windows = .ok s ∧
      (r.policy.resolve s.table flags (a.windows.map (·.bounds)) s.aggregated
        rows.axis.zone).outcome = .ok out := by
  simp only [run, Journaled.outcome_bind, Journaled.outcome_lift, Journaled.outcome_noting] at h
  obtain ⟨line, hline, h⟩ := bind_eq_ok_iff.mp h
  obtain ⟨snapshot, -, h⟩ := bind_eq_ok_iff.mp h
  obtain ⟨rows, hrows, h⟩ := bind_eq_ok_iff.mp h
  obtain ⟨a, ha, h⟩ := bind_eq_ok_iff.mp h
  obtain ⟨s, hs, h⟩ := bind_eq_ok_iff.mp h
  have hrows : r.rowsOf filter t = .ok rows := bind_eq_ok_iff.mpr ⟨line, hline, hrows⟩
  cases snapshot with
  | none => exact ⟨rows, a, s, [], hrows, ha, hs, h⟩
  | some snapshot => exact ⟨rows, a, s, _, hrows, ha, hs, h⟩

theorem runUnder_of_ne_keep (h : policy ≠ .keep) :
    r.runUnder policy filter t = r.mark filter t >>= fun m =>
      (policy.resolve m.summary.table m.flags (m.assignment.windows.map (·.bounds))
        m.summary.aggregated m.rows.axis.zone).outcome := by
  have hpolicy : (r.withPolicy policy).policy ≠ .keep := h
  simp only [runUnder, run, snapshot_outcome_of_ne_keep hpolicy, mark, Journaled.outcome_bind,
    Journaled.outcome_lift, Journaled.outcome_noting, bind_assoc]
  rfl

/-- Partial windows are marked on the windows of all rows, before the filter. -/
theorem exists_steps_of_mark (h : r.mark filter t = .ok m) :
    ∃ line all, Timeline.ofTable t r.spec.timeColumn = .ok line ∧
      (r.spec.assign line.table line.axis).outcome = .ok all ∧
      (Snapshot.capture all line.axis.instants r.detection).outcome = .ok m.snapshot ∧
      (r.filtered filter line).outcome = .ok m.rows ∧
      (r.spec.assign m.rows.table m.rows.axis).outcome = .ok m.assignment ∧
      r.summarize m.rows m.assignment.windows = .ok m.summary := by
  obtain ⟨line, hline, h⟩ := bind_eq_ok_iff.mp h
  obtain ⟨all, hall, h⟩ := bind_eq_ok_iff.mp h
  obtain ⟨snapshot, hsnapshot, h⟩ := bind_eq_ok_iff.mp h
  obtain ⟨rows, hrows, h⟩ := bind_eq_ok_iff.mp h
  obtain ⟨assignment, hassignment, h⟩ := bind_eq_ok_iff.mp h
  obtain ⟨summary, hsummary, h⟩ := bind_eq_ok_iff.mp h
  cases h
  exact ⟨line, all, hline, hall, hsnapshot, hrows, hassignment, hsummary⟩

/-- What is marked are the rows that are resampled, in their windows. -/
theorem mark_eq_ok (h : r.mark filter t = .ok m) :
    r.rowsOf filter t = .ok m.rows ∧
      (r.spec.assign m.rows.table m.rows.axis).outcome = .ok m.assignment ∧
      r.summarize m.rows m.assignment.windows = .ok m.summary := by
  obtain ⟨line, _, hline, -, -, hrows, hassignment, hsummary⟩ := exists_steps_of_mark h
  exact ⟨bind_eq_ok_iff.mpr ⟨line, hline, hrows⟩, hassignment, hsummary⟩

theorem runUnder_keep (h : r.mark filter t = .ok m) :
    r.runUnder .keep filter t = .ok m.summary.table := by
  obtain ⟨hrows, hassignment, hsummary⟩ := mark_eq_ok h
  have hpolicy : (r.withPolicy .keep).policy = .keep := rfl
  rw [runUnder, run_outcome_of_keep hpolicy]
  apply bind_eq_ok_iff.mpr ⟨m.rows, hrows, _⟩
  apply bind_eq_ok_iff.mpr ⟨m.assignment, hassignment, _⟩
  exact bind_eq_ok_iff.mpr ⟨m.summary, hsummary, rfl⟩

/-- The policies agree on a table of windows and on flags for its rows: each of them
returns the table, or refuses it, as the flags say. -/
structure Agreement (r : Resampler) (filter : Option RowFilter) (t : Table) (axis : TimeAxis)
    (windows : List Window) (K : Table) (flags : List Bool) : Prop where
  height : K.height = windows.length
  flagged : flags.length = K.height
  names : (K.schema.take r.leading).map (·.name) = r.leadingNames
  times : (K.columns.take r.leading).drop r.spec.groupBy.length = r.timeColumns axis windows
  keep : r.runUnder .keep filter t = .ok K
  drop : r.runUnder .drop filter t = .ok (K.filterRows fun row => flags[row]? = some false)
  null : ∃ N, r.runUnder .null filter t = .ok N ∧ K.NulledFrom r.leading flags N
  pass : true ∉ flags → r.runUnder .fail filter t = .ok K
  refuse : true ∈ flags → ∃ (row : Nat) (w : Window), flags[row]? = some true ∧
    (∀ earlier < row, flags[earlier]? = some false) ∧ windows[row]? = some w ∧
    r.runUnder .fail filter t =
      .error (.partialWindow axis.zone w.bounds.lower w.bounds.upper (flags.count true))

theorem agreement_of_mark (h : r.mark filter t = .ok m) :
    r.Agreement filter t m.rows.axis m.assignment.windows m.summary.table m.flags := by
  obtain ⟨-, -, hsummary⟩ := mark_eq_ok h
  have hsummarizes := summarizes_of_summarize hsummary
  have hflags : m.flags.length = m.assignment.windows.length := List.length_map _
  have hheight : m.flags.length = m.summary.table.height := hflags.trans hsummarizes.height.symm
  have hrun : ∀ policy ≠ .keep, r.runUnder policy filter t =
      (policy.resolve m.summary.table m.flags (m.assignment.windows.map (·.bounds))
        m.summary.aggregated m.rows.axis.zone).outcome := by
    intro policy hpolicy
    rw [runUnder_of_ne_keep hpolicy, h]
    rfl
  refine ⟨hsummarizes.height, hheight, hsummarizes.names, hsummarizes.times, runUnder_keep h, ?_,
    ?_, ?_, ?_⟩
  · rw [hrun .drop nofun]
    exact Policy.resolve_drop hheight
  · rw [hrun .null nofun]
    exact Policy.resolve_null hheight hsummarizes.admissible hsummarizes.aggregated
      hsummarizes.reduced
  · intro hnone
    rw [hrun .fail nofun]
    exact Policy.resolve_outcome_of_unflagged hnone
  · intro hsome
    obtain ⟨hfirst, hearlier⟩ := getElem?_idxOf_true hsome
    have hlt := List.idxOf_lt_length_iff.mpr hsome
    have hwindow := List.getElem?_eq_getElem (hflags ▸ hlt)
    refine ⟨_, _, hfirst, hearlier, hwindow, ?_⟩
    rw [hrun .fail nofun, Policy.resolve_outcome_of_flagged hsome]
    simp [Policy.apply, List.getD_eq_getElem?_getD, hwindow]

/-- The policies that resolve partial windows stop at the same error, or all four agree
on one table of the windows of one assignment and on one flag for each of its rows: whether
the window of the row was marked as partial among the windows of all rows. -/
theorem policies_agree (r : Resampler) (filter : Option RowFilter) (t : Table) :
    (∃ e, r.runUnder .drop filter t = .error e ∧ r.runUnder .null filter t = .error e ∧
      r.runUnder .fail filter t = .error e) ∨
    ∃ line all snapshot rows a K, Timeline.ofTable t r.spec.timeColumn = .ok line ∧
      (r.spec.assign line.table line.axis).outcome = .ok all ∧
      (Snapshot.capture all line.axis.instants r.detection).outcome = .ok snapshot ∧
      r.rowsOf filter t = .ok rows ∧ (r.spec.assign rows.table rows.axis).outcome = .ok a ∧
      r.Agreement filter t rows.axis a.windows K
        (a.windows.map fun w => snapshot.isPartial (a.keyOf w)) := by
  cases h : r.mark filter t with
  | error e =>
      have herror : ∀ policy ≠ .keep, r.runUnder policy filter t = .error e := by
        intro policy hpolicy
        rw [runUnder_of_ne_keep hpolicy, h]
        rfl
      exact .inl ⟨e, herror .drop nofun, herror .null nofun, herror .fail nofun⟩
  | ok m =>
      obtain ⟨hrows, hassignment, -⟩ := mark_eq_ok h
      obtain ⟨line, all, hline, hall, hsnapshot, -⟩ := exists_steps_of_mark h
      exact .inr ⟨line, all, m.snapshot, m.rows, m.assignment, m.summary.table, hline, hall,
        hsnapshot, hrows, hassignment, agreement_of_mark h⟩

end Resampler

end Cadence
