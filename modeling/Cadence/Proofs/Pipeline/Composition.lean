import Cadence.Pipeline
import Cadence.Proofs.Resampler.Policies
import Cadence.Proofs.Table.TimeOrder
import Cadence.Proofs.TimeFilter

/-!
# Filtering before resampling

A filter inside a resampler sees the rows in time order, a filter of its own sees
them as they come. A time filter looks at one row at a time and sorting is stable,
so both leave the same timeline, and a resampler that keeps partial windows looks
at nothing else.
-/

namespace Cadence

/-! ### Kept rows -/

namespace TimeFilter

/-- The rows that are kept of a timeline have the timeline of the rows that are kept. -/
theorem timeline_of_kept [Zone.Database] (f : TimeFilter) (t : Table) :
    (Timeline.ofTable t f.timeColumn >>= fun line =>
        f.kept line.table >>= fun rows => Timeline.ofTable rows f.timeColumn) =
      f.kept t >>= fun rows => Timeline.ofTable rows f.timeColumn := by
  cases haxis : TimeAxis.ofTable t f.timeColumn with
  | error e =>
      rw [Timeline.ofTable_eq_error haxis, kept_eq_error haxis]
      rfl
  | ok axis =>
      have hordered : ∀ row ∈ axis.arrange (List.range t.height), row < t.height :=
        fun row hrow => List.mem_range.mp (TimeAxis.mem_arrange.mp hrow)
      have hkept : ∀ row ∈ (List.range t.height).filter (f.keeps axis), row < t.height :=
        fun row hrow => List.mem_range.mp (List.mem_of_mem_filter hrow)
      rw [Timeline.ofTable_eq haxis, kept_eq haxis]
      simp only [Except.bind, bind, kept_select haxis hordered, ← TimeAxis.arrange_filter]
      rw [Timeline.ofTable_select haxis hkept, Timeline.ofTable_select haxis,
        TimeAxis.arrange_eq_self (axis.isSorted_select_arrange _)]
      exact fun row hrow => hkept row (TimeAxis.mem_arrange.mp hrow)

end TimeFilter

/-! ### Resamplers that keep partial windows -/

namespace Resampler

variable [Zone.Database] {r : Resampler} {f : TimeFilter}

theorem rowsOf_transform (hcolumn : f.timeColumn = r.spec.timeColumn) (t : Table) :
    r.rowsOf (some f.transform) t =
      f.kept t >>= fun rows => Timeline.ofTable rows r.spec.timeColumn := by
  rw [← hcolumn, ← f.timeline_of_kept t, rowsOf, ← hcolumn]
  simp only [filtered, TimeFilter.transform, ← hcolumn, Journaled.outcome_bind,
    Journaled.outcome_noting, Journaled.outcome_lift]

/-- Filtering inside the resampler is filtering first. -/
theorem transformFiltered_outcome (hpolicy : r.policy = .keep)
    (hcolumn : f.timeColumn = r.spec.timeColumn) (t : Table) :
    (r.transformFiltered f.transform t).outcome =
      (f.transform t).outcome >>= fun rows => (r.transform rows).outcome :=
  calc (r.transformFiltered f.transform t).outcome
    _ = r.rowsOf (some f.transform) t >>= r.summaryTable := run_outcome_of_keep hpolicy _ t
    _ = f.kept t >>= fun rows => Timeline.ofTable rows r.spec.timeColumn >>= r.summaryTable := by
        rw [rowsOf_transform hcolumn, bind_assoc]
    _ = f.kept t >>= fun rows => (r.transform rows).outcome := by
        simp only [transform, run_outcome_of_keep hpolicy, rowsOf_none]
    _ = (f.transform t).outcome >>= fun rows => (r.transform rows).outcome := by
        rw [TimeFilter.transform, Journaled.outcome_noting]

end Resampler

/-! ### Stages of some settings -/

theorem TimeFilter.timeColumn_of_ofSettings {s : FilterSettings} {f : TimeFilter}
    (h : ofSettings s = .ok f) : f.timeColumn = s.timeColumn := by
  obtain ⟨keep, -, h⟩ := bind_eq_ok_iff.mp h
  cases h
  rfl

namespace Resampler

variable {α : Type} {r r' : Resampler}

/-- What choices keep, a choice that may be missing keeps. -/
theorem withOptional_of {choose : Resampler → α → Except Error Resampler}
    {P : Resampler → Prop} (hchoose : ∀ {r x r'}, P r → choose r x = .ok r' → P r') (hr : P r)
    {x : Option α} (h : withOptional choose x r = .ok r') : P r' := by
  cases x with
  | none =>
      cases h
      exact hr
  | some x => exact hchoose hr h

/-- What choices leave as it is, a choice that may be missing leaves as it is. -/
theorem withOptional_preserves {choose : Resampler → α → Except Error Resampler} {β : Type}
    {value : Resampler → β}
    (hchoose : ∀ {r x r'}, choose r x = .ok r' → value r' = value r) {x : Option α}
    (h : withOptional choose x r = .ok r') : value r' = value r :=
  withOptional_of (P := fun kept => value kept = value r)
    (fun hkept hchosen => (hchoose hchosen).trans hkept) rfl h

/-- What decides about the composition of stages. -/
def outline (r : Resampler) : String × Policy := (r.spec.timeColumn, r.policy)

theorem outline_of_withStartOffset {text : String} (h : r.withStartOffset text = .ok r') :
    r'.outline = r.outline := by
  obtain ⟨spec, hspec, h⟩ := bind_eq_ok_iff.mp h
  obtain ⟨offset, -, hspec⟩ := bind_eq_ok_iff.mp hspec
  cases hspec
  cases h
  rfl

theorem outline_of_withTargets {columns : List String} (h : r.withTargets columns = .ok r') :
    r'.outline = r.outline := by
  unfold withTargets at h
  split at h
  · cases h
  · cases h
    rfl

/-- The resampler of some settings takes what needs no check from them, then the reducers that
they ask for, an offset and columns to reduce. -/
theorem exists_choices_of_ofSettings {s : ResampleSettings} (h : ofSettings s = .ok r) :
    ∃ every period reducers moved, ReducerEntry.resolveAll s.reducers.entries = .ok reducers ∧
      withOptional withStartOffset s.startOffset
        { spec :=
            { timeColumn := s.timeColumn, every, period, closed := s.closed, label := s.label
              groupBy := s.groupBy }
          reducers, policy := s.policy, detection := s.detection, boundaries := s.boundaries } =
        .ok moved ∧
      withOptional withTargets s.targetColumns moved = .ok r := by
  obtain ⟨created, hcreated, h⟩ := bind_eq_ok_iff.mp h
  obtain ⟨spec, hspec, hcreated⟩ := bind_eq_ok_iff.mp hcreated
  obtain ⟨every, -, hspec⟩ := bind_eq_ok_iff.mp hspec
  obtain ⟨period, -, hspec⟩ := bind_eq_ok_iff.mp hspec
  cases hspec
  cases hcreated
  obtain ⟨reduced, hreduced, h⟩ := bind_eq_ok_iff.mp h
  obtain ⟨reducers, hreducers, hreduced⟩ := bind_eq_ok_iff.mp hreduced
  cases hreduced
  obtain ⟨moved, hmoved, h⟩ := bind_eq_ok_iff.mp h
  exact ⟨every, period, reducers, moved, hreducers, hmoved, h⟩

theorem outline_of_ofSettings {s : ResampleSettings} (h : ofSettings s = .ok r) :
    r.outline = (s.timeColumn, s.policy) := by
  obtain ⟨every, period, reducers, moved, -, hmoved, h⟩ := exists_choices_of_ofSettings h
  rw [withOptional_preserves outline_of_withTargets h,
    withOptional_preserves outline_of_withStartOffset hmoved]
  rfl

end Resampler

namespace Pipeline

variable {s : ProjectSettings} {f : FilterSettings} {g : ResampleSettings} {p : Pipeline}

/-- The pipeline that only filters. -/
def filtering (p : Pipeline) : Pipeline := { p with resampler := none }

/-- The pipeline that only resamples. -/
def resampling (p : Pipeline) : Pipeline := { p with filter := none }

theorem outcome_ofSettings (s : ProjectSettings) : (ofSettings s).outcome = stages s :=
  Journaled.outcome_noting _ _

theorem outcome_run [Zone.Database] (p : Pipeline) (t : Table) :
    (p.run t).outcome = (p.transform t).outcome.mapError .stage := by
  unfold run
  dsimp only
  cases (p.transform t).outcome <;> rfl

/-- Settings with both sections give a stage for each. -/
theorem stages_of_both (hfilter : s.filter = some f) (hresample : s.resample = some g)
    (h : stages s = .ok p) :
    ∃ filter resampler, TimeFilter.ofSettings f = .ok filter ∧
      Resampler.ofSettings g = .ok resampler ∧ p = ⟨some filter, some resampler⟩ := by
  rw [stages, hfilter, hresample, if_neg (by simp)] at h
  obtain ⟨_, hstage, h⟩ := bind_eq_ok_iff.mp h
  obtain ⟨filter, hfilter, hstage⟩ := bind_eq_ok_iff.mp (mapError_eq_ok_iff.mp hstage)
  cases hstage
  obtain ⟨_, hstage, h⟩ := bind_eq_ok_iff.mp h
  obtain ⟨resampler, hresampler, hstage⟩ := bind_eq_ok_iff.mp (mapError_eq_ok_iff.mp hstage)
  cases hstage
  cases h
  exact ⟨filter, resampler, hfilter, hresampler, rfl⟩

theorem stages_filter {filter : TimeFilter} (h : s.filter = some f)
    (hfilter : TimeFilter.ofSettings f = .ok filter) :
    stages { s with resample := none } = .ok ⟨some filter, none⟩ := by
  simp only [stages, h, Option.isNone_some, Bool.false_eq_true, false_and, if_false]
  simp only [Option.mapM_some, hfilter]
  rfl

theorem stages_resample {resampler : Resampler} (h : s.resample = some g)
    (hresampler : Resampler.ofSettings g = .ok resampler) :
    stages { s with filter := none } = .ok ⟨none, some resampler⟩ := by
  simp only [stages, h, Option.isNone_some, Bool.false_eq_true, and_false, if_false]
  simp only [Option.mapM_some, hresampler]
  rfl

/-- A pipeline of both stages that keeps partial windows does what a pipeline that only
filters and then one that only resamples do. -/
theorem run_eq_filtering_then_resampling [Zone.Database] (hfilter : s.filter = some f)
    (hresample : s.resample = some g) (hcolumn : f.timeColumn = g.timeColumn)
    (hpolicy : g.policy = .keep) (hbuilt : (ofSettings s).outcome = .ok p) :
    (ofSettings { s with resample := none }).outcome = .ok p.filtering ∧
      (ofSettings { s with filter := none }).outcome = .ok p.resampling ∧
      ∀ t, (p.run t).outcome =
        (p.filtering.run t).outcome >>= fun out => (p.resampling.run out).outcome := by
  simp only [outcome_ofSettings] at hbuilt ⊢
  obtain ⟨filter, resampler, hbuiltFilter, hbuiltResampler, rfl⟩ :=
    stages_of_both hfilter hresample hbuilt
  refine ⟨stages_filter hfilter hbuiltFilter, stages_resample hresample hbuiltResampler, ?_⟩
  intro t
  have houtline := Prod.mk.inj (Resampler.outline_of_ofSettings hbuiltResampler)
  have hcolumns : filter.timeColumn = resampler.spec.timeColumn := by
    rw [TimeFilter.timeColumn_of_ofSettings hbuiltFilter, hcolumn]
    exact houtline.1.symm
  have hstages := Resampler.transformFiltered_outcome (houtline.2.trans hpolicy) hcolumns t
  simp only [outcome_run]
  change (resampler.transformFiltered filter.transform t).outcome.mapError _ =
    (filter.transform t).outcome.mapError _ >>= fun out => (resampler.transform out).outcome.mapError _
  rw [hstages]
  cases (filter.transform t).outcome <;> rfl

/-- Hourly sums of what is left of the readings when the nights are taken out. -/
theorem run_eq_filtering_then_resampling_hourly :
    let s : ProjectSettings :=
      { filter := some { timeColumn := "at", patterns := [">=22h", "<6h"] }
        resample := some { timeColumn := "at", every := "1h", groupBy := ["site"] } }
    ∃ p, (ofSettings s).outcome = .ok p ∧
      (ofSettings { s with resample := none }).outcome = .ok p.filtering ∧
      (ofSettings { s with filter := none }).outcome = .ok p.resampling ∧
      ∀ t, (p.run t).outcome =
        (p.filtering.run t).outcome >>= fun out => (p.resampling.run out).outcome := by
  intro s
  have hbuilt : (ofSettings s).outcome.isOk = true := by decide +kernel
  cases h : (ofSettings s).outcome with
  | error e =>
      rw [h] at hbuilt
      cases hbuilt
  | ok p => exact ⟨p, rfl, run_eq_filtering_then_resampling rfl rfl rfl rfl h⟩

end Pipeline

end Cadence
