import Cadence.Proofs.Frequency
import Cadence.Proofs.Resampler.Setup
import Cadence.Proofs.Table.Retiming

/-!
# Offsets of fixed length

Resampling with an offset of fixed length is resampling rows that are that much earlier. The
order of the rows, the sampling interval and the counts of instants are still read off the rows
as they are, but none of them depends on where the instants lie. Everything else that a run
does looks at the windows, or at columns other than the times.
-/

namespace Cadence

theorem Journaled.lift_ok_bind {ε α β : Type} (a : α) (f : α → Journaled ε β) :
    lift (.ok a) >>= f = f a := rfl

theorem Frequency.detect_map_sub (detection : Detection) (instants : List Int) (n : Int) :
    detect detection (instants.map (· - n)) = detect detection instants := by
  rw [detect, detect, ofInstants_map_sub]

namespace Resampler

variable {r : Resampler} {t u : Table} {axis axis' : TimeAxis} {windows : List Window}
variable {names : List String} {name text : String} {offset : StartOffset} {nanos : Int}

/-- The resampler with an offset. -/
def offsetBy (r : Resampler) (offset : StartOffset) : Resampler :=
  { r with spec := { r.spec with offset := some offset } }

theorem withStartOffset_eq_ok (h : StartOffset.parse text = .ok offset) :
    r.withStartOffset text = .ok (r.offsetBy offset) := by
  rw [withStartOffset, WindowSpec.withStartOffset, h]
  rfl

/-! ### Tables that agree beside the times -/

section Targets

variable (htargets : ∀ columns ∈ r.targets, r.spec.timeColumn ∉ columns)
include htargets

theorem timeColumn_notMem_targetNames (h : r.targetNames t = .ok names) :
    r.spec.timeColumn ∉ names := by
  cases hexplicit : r.targets with
  | some targets =>
      rw [targetNames_eq_of_targets hexplicit h]
      exact htargets targets hexplicit
  | none =>
      intro hmem
      have hfree := ((mem_targetNames_iff hexplicit h).mp hmem).1
      exact reserves_eq_false_iff.mp hfree List.mem_cons_self

theorem targetNames_eq_of_agreeBeside (h : Table.AgreeBeside r.spec.timeColumn t u) :
    r.targetNames u = r.targetNames t := by
  rw [targetNames, targetNames]
  cases hexplicit : r.targets with
  | some targets =>
      have hchecks : targets.forM
            (Reducer.checkTarget u.schema (r.reducers.map (·.reducer))) =
          targets.forM (Reducer.checkTarget t.schema (r.reducers.map (·.reducer))) := by
        apply forM_congr
        intro name hname
        have hother : name ≠ r.spec.timeColumn := fun heq =>
          htargets targets hexplicit (heq ▸ hname)
        rw [Reducer.checkTarget, Reducer.checkTarget, Table.find?_schema, Table.find?_schema,
          h.column?_eq hother]
      rw [Reducer.targets, Reducer.targets, hchecks]
  | none =>
      -- What suits the reducers is no column of times.
      have hbeside : ∀ v : Table, ∀ suits : Field → Bool,
          (∀ field, suits field → field.name ≠ r.spec.timeColumn) →
          v.schema.filter suits =
            ((v.columnsBeside r.spec.timeColumn).map (·.toField)).filter suits := by
        intro v suits hsuits
        rw [Table.schema, Table.columnsBeside, List.filter_map, List.filter_map, List.filter_filter]
        congr 1
        apply List.filter_congr
        intro c _
        cases hc : suits c.toField with
        | false => simp [hc]
        | true => simp [hc, hsuits c.toField hc]
      rw [Reducer.targets, Reducer.targets, hbeside u, hbeside t, h.columns]
      · intro field hfield heq
        simp [heq] at hfield
      · intro field hfield heq
        simp [heq] at hfield

/-- A summary looks at no cell of the time column. -/
theorem summarize_eq_of_agreeBeside (h : Table.AgreeBeside r.spec.timeColumn t u)
    (hungrouped : r.spec.timeColumn ∉ r.spec.groupBy) (hlabel : axis'.label = axis.label) :
    r.summarize ⟨u, axis'⟩ windows = r.summarize ⟨t, axis⟩ windows := by
  have htimes : r.timeColumns axis' windows = r.timeColumns axis windows := by
    rw [timeColumns, timeColumns, TimeAxis.column_eq_of_label_eq hlabel]
  rw [summarize, summarize, targetNames_eq_of_agreeBeside htargets h]
  cases hnames : r.targetNames t with
  | error e => rfl
  | ok names =>
      have hreduced : names.mapM (r.reduceColumn u windows) =
          names.mapM (r.reduceColumn t windows) := by
        apply mapM_congr
        intro name hname
        have hother : name ≠ r.spec.timeColumn := fun heq =>
          timeColumn_notMem_targetNames htargets hnames (heq ▸ hname)
        rw [reduceColumn, reduceColumn, h.column?_eq hother]
      simp only [ok_bind, h.groupColumns_eq hungrouped, hreduced, htimes]

end Targets

/-! ### Runs -/

/-- A run with an offset of fixed length is a run on a table whose instants are earlier. -/
theorem transform_offsetBy [Zone.Database]
    (htargets : ∀ columns ∈ r.targets, r.spec.timeColumn ∉ columns)
    (hnone : r.spec.offset = none) (hungrouped : r.spec.timeColumn ∉ r.spec.groupBy)
    (hspan : offset.span.IsFixed) (haxis : TimeAxis.ofTable t r.spec.timeColumn = .ok axis)
    (hfits : ∀ i ∈ axis.instants, Counter.Fits (i - offset.span.nanos))
    (h : Table.AgreeBeside r.spec.timeColumn t u)
    (hearlier : TimeAxis.ofTable u r.spec.timeColumn = .ok (axis.earlier offset.span.nanos)) :
    (r.offsetBy offset).transform t = r.transform u := by
  obtain ⟨rows, hrows, hline, hline'⟩ := Timeline.ofTable_earlier haxis hearlier h.height
  have hagree := h.select rows
  have hfits' : ∀ i ∈ (axis.select rows).instants, Counter.Fits (i - offset.span.nanos) :=
    fun i hi => hfits i (TimeAxis.instants_select_subset hrows hi)
  have hassign : (r.offsetBy offset).spec.assign (t.select rows) (axis.select rows) =
      r.spec.assign (u.select rows) ((axis.select rows).earlier offset.span.nanos) :=
    WindowSpec.assign_of_isFixed hnone hspan hfits' rfl (hagree.groupColumns_eq hungrouped)
  have hsnapshot : (r.offsetBy offset).snapshot ⟨t.select rows, axis.select rows⟩ =
      r.snapshot ⟨u.select rows, (axis.select rows).earlier offset.span.nanos⟩ := by
    have hcapture : ∀ a : Assignment,
        Snapshot.capture a ((axis.select rows).earlier offset.span.nanos).instants r.detection =
          Snapshot.capture a (axis.select rows).instants r.detection := by
      intro a
      rw [Snapshot.capture, Snapshot.capture]
      exact congrArg (· >>= _) (Frequency.detect_map_sub _ _ _)
    have hpolicy : (r.offsetBy offset).policy = r.policy := rfl
    rw [snapshot, snapshot, hpolicy]
    cases r.policy with
    | keep => rfl
    | drop | null | fail =>
        simp only [hassign, hcapture]
        rfl
  have hsummarize : ∀ windows, (r.offsetBy offset).summarize
        ⟨t.select rows, axis.select rows⟩ windows =
      r.summarize ⟨u.select rows, (axis.select rows).earlier offset.span.nanos⟩ windows :=
    fun windows => (summarize_eq_of_agreeBeside htargets hagree hungrouped rfl).symm
  have hspec : (r.offsetBy offset).spec.timeColumn = r.spec.timeColumn := rfl
  rw [transform, transform, run, run, hspec, hline, hline', Journaled.lift_ok_bind,
    Journaled.lift_ok_bind, hsnapshot]
  congr 1
  funext snapshot
  change ((r.offsetBy offset).spec.assign _ _ >>= _) = (r.spec.assign _ _ >>= _)
  rw [hassign]
  congr 1
  funext a
  rw [hsummarize]
  rfl

/-- Resampling with an offset of fixed length gives the same result, or the same error, as
resampling without it the table whose instants are that much earlier, in the same zone. -/
theorem transform_withStartOffset [Zone.Database] (hbuilt : r.Built) (hnone : r.spec.offset = none)
    (hungrouped : r.spec.timeColumn ∉ r.spec.groupBy)
    (hparse : StartOffset.parse text = .ok offset) (hspan : offset.span.IsFixed)
    (haxis : TimeAxis.ofTable t r.spec.timeColumn = .ok axis)
    (hfits : ∀ i ∈ axis.instants, Counter.Fits (i - offset.span.nanos)) (nullable : Bool) :
    ∃ r', r.withStartOffset text = .ok r' ∧ r'.transform t =
      r.transform (t.retime r.spec.timeColumn (axis.earlier offset.span.nanos) nullable) := by
  have hlength : (axis.earlier offset.span.nanos).instants.length = t.height :=
    (List.length_map _).trans (TimeAxis.ofTable_spec haxis).1
  have hearlier : ∀ i ∈ (axis.earlier offset.span.nanos).instants, Counter.Fits i := by
    intro i hi
    obtain ⟨j, hj, rfl⟩ := List.mem_map.mp hi
    exact hfits j hj
  exact ⟨_, withStartOffset_eq_ok hparse, transform_offsetBy hbuilt.timeColumn_notMem_targets hnone
    hungrouped hspan haxis hfits (Table.agreeBeside_retime _ _ _ _)
    (TimeAxis.ofTable_retime haxis hlength hearlier rfl rfl nullable)⟩

/-- Hours with the first instants for labels, and nulls for the partial ones. -/
def firstOfHour : Resampler where
  spec :=
    { timeColumn := "ts", every := ⟨[⟨1, .h, one_lt_wordSize⟩]⟩, period := .fixed 3600000000000
      label := .datapoint }
  policy := .null
  detection := .mode

theorem built_firstOfHour : firstOfHour.Built :=
  ⟨"ts", "1h", [.policy .null, .label .datapoint, .detection .mode], by decide +kernel⟩

/-- An hour and a half before the clock change. -/
theorem transform_withStartOffset_clockChange :
    firstOfHour.Built ∧ firstOfHour.spec.offset = none ∧
      StartOffset.parse "90m" = .ok ⟨⟨[⟨90, .m, by decide⟩]⟩, ⟨0, 0, 0, 5400000000000⟩⟩ ∧
      TimeAxis.ofTable .clockChange "ts" = .ok .clockChange ∧
      ∃ r', firstOfHour.withStartOffset "90m" = .ok r' ∧ r'.transform .clockChange =
        firstOfHour.transform
          (Table.clockChange.retime "ts" (TimeAxis.clockChange.earlier 5400000000000) true) := by
  have hparse : StartOffset.parse "90m" =
      .ok ⟨⟨[⟨90, .m, by decide⟩]⟩, ⟨0, 0, 0, 5400000000000⟩⟩ := by decide +kernel
  have haxis := WindowSpec.ofTable_clockChange
  exact ⟨built_firstOfHour, rfl, hparse, haxis, transform_withStartOffset built_firstOfHour rfl
    (by decide) hparse (by decide) haxis (by decide) true⟩

end Resampler

end Cadence
