import Cadence.Proofs.Failure
import Cadence.Proofs.Window.Assignment
import Cadence.Proofs.Window.Grid

/-!
# Where windows fail

Rows cannot be put into windows when a column of groups is missing, or when an instant, a
reading or a boundary lies out of range. Two steps do not ask for the range: a number of days
is taken as one step on the calendar, and the start of a cell is counted back from a reading.
-/

namespace Cadence

/-! ### Clocks -/

theorem refusesTimes_boundary (n : Int) : RefusesTimes (Counter.require Period.boundaryFault n) :=
  FailsOnly.require fun _ => trivial

theorem refusesTimes_reading (r : Reading) (n : Int) :
    RefusesTimes (Counter.require (.data (.readingRange r)) n) :=
  FailsOnly.require fun _ => trivial

namespace Zone

theorem refusesTimes_counterAt (zone : Zone) (t : Int) : RefusesTimes (zone.counterAt t) :=
  refusesTimes_reading _ _

theorem refusesTimes_instantOf (zone : Zone) (r : Reading) : RefusesTimes (zone.instantOf r) := by
  unfold instantOf
  split
  · exact refusesTimes_reading _ _
  · unfold instantOfSkipped
    dsimp only
    split
    · exact refusesTimes_reading _ _
    · exact FailsOnly.error trivial

end Zone

theorem Reading.refusesTimes_supported (r : Reading) : RefusesTimes r.supported := by
  unfold supported
  split
  · exact FailsOnly.ok r
  · exact FailsOnly.error trivial

/-! ### Offsets -/

/-- More weeks and days than one step on the calendar can take. -/
def Span.ExceedsDays (x : Span) : Prop := ∃ days ∈ x.dayCount?, mostDays < days

namespace Reading

/-- The first step of a shift takes its months. -/
def monthStep (r : Reading) (x : Span) : Except Error Reading :=
  if 0 < x.months then supported (r.monthsBefore x.months) else .ok r

/-- The steps of a shift that follow its months. -/
def daySteps (r : Reading) (x : Span) : Except Error Reading :=
  x.dayCount?.elim (.error Period.boundaryFault) .ok >>= fun days =>
    if mostDays < days then .error .overflow
    else r.earlier (days * nanosPerDay) >>= fun r => r.earlier x.nanos

theorem before_eq (r : Reading) (x : Span) :
    r.before x = r.monthStep x >>= fun r => r.daySteps x := by
  unfold before monthStep
  dsimp only
  split
  · rfl
  · rfl

theorem failsOnly_daySteps (r : Reading) (x : Span) :
    FailsOnly (Error.IsOutOfRangeOr x.ExceedsDays) (r.daySteps x) := by
  have hcount : RefusesTimes (x.dayCount?.elim (.error Period.boundaryFault) .ok) := by
    cases x.dayCount? with
    | none => exact FailsOnly.error trivial
    | some days => exact FailsOnly.ok days
  apply hcount.isOutOfRangeOr.bind
  intro days hdays
  rw [elim_eq_ok_iff] at hdays
  split
  · next hmost => exact FailsOnly.error (.inr ⟨rfl, days, hdays, hmost⟩)
  · exact ((refusesTimes_supported _).bind fun r _ => refusesTimes_supported _).isOutOfRangeOr

theorem refusesTimes_monthStep (r : Reading) (x : Span) : RefusesTimes (r.monthStep x) := by
  unfold monthStep
  split
  · exact refusesTimes_supported _
  · exact FailsOnly.ok r

theorem failsOnly_before (r : Reading) (x : Span) :
    FailsOnly (Error.IsOutOfRangeOr x.ExceedsDays) (r.before x) := by
  rw [before_eq]
  exact (r.refusesTimes_monthStep x).isOutOfRangeOr.bind fun r _ => r.failsOnly_daySteps x

end Reading

/-- An offset on the calendar that takes too many days in one step. -/
def WindowSpec.OffsetExceedsDays (spec : WindowSpec) : Prop :=
  ∃ offset ∈ spec.offset, ¬offset.span.IsFixed ∧ offset.span.ExceedsDays

theorem Zone.outOfRange_shiftBack (zone : Zone) (x : Span) (t : Int) :
    FailsOnly (Error.IsOutOfRangeOr (¬x.IsFixed ∧ x.ExceedsDays)) (zone.shiftBack x t) := by
  unfold shiftBack
  split
  · exact (refusesTimes_boundary _).isOutOfRangeOr
  · next hcalendar =>
      apply (zone.refusesTimes_counterAt t).isOutOfRangeOr.bind
      intro reading _
      apply FailsOnly.bind
      · exact (Reading.failsOnly_before _ x).mono fun e he => he.mono fun h => ⟨hcalendar, h⟩
      · intro earlier _
        exact (zone.refusesTimes_instantOf earlier).isOutOfRangeOr

theorem Zone.failsOnly_shiftBack (zone : Zone) (x : Span) (t : Int) :
    FailsOnly (Error.IsDataOr (¬x.IsFixed ∧ x.ExceedsDays)) (zone.shiftBack x t) :=
  (zone.outOfRange_shiftBack x t).isDataOr_of_isOutOfRangeOr

namespace WindowSpec

theorem outOfRange_shift (spec : WindowSpec) (zone : Zone) (i : Int) :
    FailsOnly (Error.IsOutOfRangeOr spec.OffsetExceedsDays) (spec.shift zone i) := by
  unfold shift
  cases hoffset : spec.offset with
  | none => exact FailsOnly.ok i
  | some offset =>
      exact (zone.outOfRange_shiftBack offset.span i).mono fun e he =>
        he.mono fun h => ⟨offset, hoffset, h⟩

end WindowSpec

/-! ### Cells -/

/-- The cell around a reading starts where no counter can hold its start. -/
def Period.StartsOutside (period : Period) (reading : Int) : Prop :=
  match period with
  | fixed nanos | days nanos => ¬Counter.Fits (reading - reading % nanos)
  | weeks nanos => ¬Counter.Fits (reading - (reading - mondayOrigin) % nanos)
  | months _ => False

namespace Period

theorem IsClock.startsOutside_iff {p : Period} {span origin : Int} (h : p.IsClock span origin)
    (reading : Int) :
    p.StartsOutside reading ↔ ¬Counter.Fits (reading - (reading - origin) % span) := by
  cases h with
  | fixed | days => rw [Int.sub_zero, StartsOutside]
  | weeks => rfl

theorem failsOnly_clockCell (span origin : Int) (closed : Closed) (reading : Int) :
    FailsOnly (Error.IsOutOfRangeOr (¬Counter.Fits (reading - (reading - origin) % span)))
      (clockCell span origin closed reading) := by
  apply (refusesTimes_boundary _).isOutOfRangeOr.bind
  intro distance hdistance
  obtain ⟨-, rfl⟩ := Counter.require_eq_ok_iff.mp hdistance
  refine FailsOnly.bind (FailsOnly.require fun hstart => .inr ⟨rfl, hstart⟩) ?_
  intro start _
  have hupper : ∀ lower : Int, RefusesTimes (do
      let upper ← Counter.require boundaryFault (lower + span)
      return (⟨lower, upper⟩ : Bounds)) :=
    fun _ => (refusesTimes_boundary _).bind fun _ _ => FailsOnly.ok _
  dsimp only
  split
  · exact ((refusesTimes_boundary _).bind fun lower _ => hupper lower).isOutOfRangeOr
  · exact (hupper start).isOutOfRangeOr

theorem failsOnly_clockWindow (span origin : Int) (closed : Closed) (zone : Zone) (t : Int) :
    FailsOnly (Error.IsOutOfRangeOr (¬Counter.Fits ((zone.reading t).nanos -
        ((zone.reading t).nanos - origin) % span)))
      (clockWindow span origin closed zone t) := by
  apply (zone.refusesTimes_counterAt t).isOutOfRangeOr.bind
  intro reading hreading
  obtain ⟨-, rfl⟩ := Counter.require_eq_ok_iff.mp hreading
  apply (failsOnly_clockCell span origin closed _).bind
  intro cell _
  exact (zone.refusesTimes_instantOf _).isOutOfRangeOr.bind fun lower _ =>
    (zone.refusesTimes_instantOf _).isOutOfRangeOr.bind fun upper _ => FailsOnly.ok _

theorem refusesTimes_startOfMonth (index : Int) : RefusesTimes (startOfMonth index) := by
  unfold startOfMonth
  dsimp only
  split
  · exact FailsOnly.ok _
  · exact FailsOnly.error trivial

theorem refusesTimes_monthWindow (count : Int) (closed : Closed) (zone : Zone) (t : Int) :
    RefusesTimes (monthWindow count closed zone t) :=
  (zone.refusesTimes_counterAt t).bind fun _ _ =>
    (refusesTimes_startOfMonth _).bind fun start _ =>
    (zone.refusesTimes_instantOf start).bind fun _ _ =>
    (refusesTimes_startOfMonth _).bind fun stop _ =>
    (zone.refusesTimes_instantOf stop).bind fun _ _ => FailsOnly.ok _

theorem outOfRange_windowOf (period : Period) (closed : Closed) (zone : Zone) (t : Int) :
    FailsOnly (Error.IsOutOfRangeOr (period.StartsOutside (zone.reading t).nanos))
      (period.windowOf closed zone t) := by
  rcases period.isClock_or_months with ⟨span, origin, hclock⟩ | ⟨count, rfl⟩
  · rw [hclock.windowOf_eq, hclock.startsOutside_iff]
    exact failsOnly_clockWindow span origin closed zone t
  · exact (refusesTimes_monthWindow count closed zone t).isOutOfRangeOr

theorem failsOnly_windowOf (period : Period) (closed : Closed) (zone : Zone) (t : Int) :
    FailsOnly (Error.IsDataOr (period.StartsOutside (zone.reading t).nanos))
      (period.windowOf closed zone t) :=
  (outOfRange_windowOf period closed zone t).isDataOr_of_isOutOfRangeOr

end Period

/-! ### Assignments -/

theorem Table.refusesData_groupColumns (t : Table) (names : List String) :
    RefusesData (t.groupColumns names) :=
  FailsOnly.mapM fun _ _ => refusesData_elim _ _

namespace WindowSpec

variable {P : Error → Prop} {spec : WindowSpec} {zone : Zone} {axis : TimeAxis} {ts : List Int}

/-- Windows are computed of the instants alone. -/
theorem failsOnly_boundsFrom (h : ∀ t ∈ ts, FailsOnly P (spec.windowOf zone t))
    (current : Option Bounds) : FailsOnly P (spec.boundsFrom zone current ts) := by
  induction ts generalizing current with
  | nil => exact FailsOnly.ok []
  | cons t ts ih =>
      have hbounds : FailsOnly P (spec.boundsAt zone current t) := by
        unfold boundsAt
        split
        · exact FailsOnly.ok _
        · exact h t List.mem_cons_self
      exact hbounds.bind fun b _ =>
        (ih (fun s hs => h s (List.mem_cons_of_mem _ hs)) (some b)).bind fun _ _ => FailsOnly.ok _

/-- An instant is moved to where a cell starts that no counter can hold the start of. -/
def StartsOutside (spec : WindowSpec) (axis : TimeAxis) : Prop :=
  ∃ i ∈ axis.instants, ∃ s, spec.shift axis.zone i = .ok s ∧
    spec.period.StartsOutside (axis.zone.reading s).nanos

theorem StartsOutside.of_subset {axis' : TimeAxis} (h : spec.StartsOutside axis')
    (hzone : axis'.zone = axis.zone) (hinstants : axis'.instants ⊆ axis.instants) :
    spec.StartsOutside axis := by
  obtain ⟨i, hi, s, hs⟩ := h
  exact ⟨i, hinstants hi, s, hzone ▸ hs⟩

/-- Besides the columns of the groups, an assignment needs the window of each instant. -/
theorem failsOnly_assign_of {t : Table} (hgroups : FailsOnly P (t.groupColumns spec.groupBy))
    (h : ∀ i ∈ axis.instants,
      FailsOnly P (spec.shift axis.zone i >>= spec.windowOf axis.zone)) :
    FailsOnly P (spec.assign t axis).outcome := by
  rw [assign, Journaled.outcome_noting]
  apply hgroups.bind
  intro columns _
  rw [shifted_eq_mapM]
  apply FailsOnly.bind
  · exact FailsOnly.mapM fun i hi e he => h i hi e (bind_eq_error_iff.mpr (.inl he))
  · intro shifted hshifted
    apply FailsOnly.bind
    · apply failsOnly_boundsFrom
      intro s hs e he
      obtain ⟨i, hi, hshift⟩ := exists_of_mapM_eq_ok hshifted hs
      exact h i hi e (bind_eq_error_iff.mpr (.inr ⟨s, hshift, he⟩))
    · intro bounds _
      exact FailsOnly.ok _

/-- The window of an instant fails for the days of the offset, or where its cell starts. -/
theorem outOfRange_window (spec : WindowSpec) {i : Int} (hi : i ∈ axis.instants) :
    FailsOnly (Error.IsOutOfRangeOr (spec.OffsetExceedsDays ∨ spec.StartsOutside axis))
      (spec.shift axis.zone i >>= spec.windowOf axis.zone) := by
  apply FailsOnly.bind
  · exact (spec.outOfRange_shift axis.zone i).mono fun e he => he.mono .inl
  · intro s hshift
    exact (spec.period.outOfRange_windowOf spec.closed axis.zone s).mono fun e he =>
      he.mono fun h => .inr ⟨i, hi, s, hshift, h⟩

theorem failsOnly_assign (spec : WindowSpec) (t : Table) (axis : TimeAxis) :
    FailsOnly (Error.IsDataOr (spec.OffsetExceedsDays ∨ spec.StartsOutside axis))
      (spec.assign t axis).outcome :=
  failsOnly_assign_of (t.refusesData_groupColumns spec.groupBy).isDataOr fun _ hi =>
    (spec.outOfRange_window hi).isDataOr_of_isOutOfRangeOr

end WindowSpec

end Cadence
