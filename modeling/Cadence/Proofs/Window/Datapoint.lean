import Cadence.Proofs.Window.Labels
import Cadence.Proofs.Window.Shift
import Cadence.Proofs.Zone.Order
import Mathlib.Order.Bounds.Basic

/-!
# Datapoint labels

The datapoint label of a window is the moved instant of its first row, and rows come in time
order. So the label is the earliest moved instant of the window unless a later row overtakes the
first one. A shift by a length in nanoseconds keeps the order of instants. On the calendar there
are three ways to lose it: the clock was turned back between the two rows, their days become the
last day of one month, or the clock leaves out the reading to which the first row is moved.
-/

namespace Cadence

/-! ### Moved readings -/

namespace Reading

variable {r s : Reading} {x : Span}

/-- The reading that lies a span before another one, in whatever year. -/
def moved (x : Span) (r : Reading) : Reading :=
  ⟨(if 0 < x.months then r.monthsBefore x.months else r).nanos - x.wholeDays * nanosPerDay -
    x.nanos⟩

theorem eq_moved_of_before (h : r.before x = .ok s) : s = r.moved x := by
  rw [before_eq] at h
  obtain ⟨earlier, hmonths, h⟩ := bind_eq_ok_iff.mp h
  have hearlier : (if 0 < x.months then r.monthsBefore x.months else r) = earlier := by
    unfold monthStep at hmonths
    split at hmonths
    · next hpos => rw [if_pos hpos, (supported_eq_ok_iff.mp hmonths).2]
    · next hnone =>
        cases hmonths
        exact if_neg hnone
  obtain ⟨days, hdays, h⟩ := bind_eq_ok_iff.mp h
  split at h
  · cases h
  · obtain ⟨midway, hmidway, h⟩ := bind_eq_ok_iff.mp h
    obtain ⟨-, rfl⟩ := supported_eq_ok_iff.mp hmidway
    obtain ⟨-, rfl⟩ := supported_eq_ok_iff.mp h
    rw [moved, hearlier, Span.eq_wholeDays (elim_eq_ok_iff.mp hdays)]

/-- Readings are moved in their order, except where months clamp their days. -/
theorem moved_lt_iff (h : r.nanos ≤ s.nanos) :
    (s.moved x).nanos < (r.moved x).nanos ↔ 0 < x.months ∧ Clamps x.months r s := by
  rw [← monthsBefore_lt_iff h]
  simp only [moved]
  split <;> omega

end Reading

/-! ### Overtaken instants -/

namespace Zone

variable {z : Zone} {x : Span} {s t i j : Int}

/-- An instant overtakes another one in a shift: the clock comes to the moved reading of the
first before it comes to that of the other. A shift by a fixed length does not read the clock. -/
def Overtakes (z : Zone) (x : Span) (s t : Int) : Prop :=
  ¬x.IsFixed ∧
    ∃ i, z.Reached ((z.reading t).moved x) i ∧ ¬z.Reached ((z.reading s).moved x) i

/-- What a later instant needs to overtake an earlier one. -/
inductive Disorders (z : Zone) (x : Span) (s t : Int) : Prop
  /-- The clock has been turned back in between. -/
  | turnedBack (h : (z.reading t).nanos < (z.reading s).nanos)
  /-- Months move both to the last day of one month. -/
  | clamped (hpos : 0 < x.months) (h : Reading.Clamps x.months (z.reading s) (z.reading t))
  /-- The clock leaves out the moved reading of the earlier one. -/
  | skipped {i before after : Int} (h : z.Skips i before after ((z.reading s).moved x))

theorem instantOf_of_shiftBack (hcalendar : ¬x.IsFixed) (h : z.shiftBack x t = .ok i) :
    z.instantOf ((z.reading t).moved x) = .ok i := by
  rw [shiftBack, if_neg hcalendar] at h
  obtain ⟨reading, hreading, h⟩ := bind_eq_ok_iff.mp h
  obtain ⟨earlier, hearlier, hinstant⟩ := bind_eq_ok_iff.mp h
  obtain ⟨-, rfl⟩ := Counter.require_eq_ok_iff.mp hreading
  rwa [← Reading.eq_moved_of_before hearlier]

/-- A shift turns the order of two instants round exactly when the later one overtakes. -/
theorem lt_iff_overtakes (hz : z.WellFormed) (hle : s ≤ t) (hi : z.shiftBack x s = .ok i)
    (hj : z.shiftBack x t = .ok j) : j < i ↔ z.Overtakes x s t := by
  by_cases hfixed : x.IsFixed
  · have hkept : i ≤ j := by
      rw [shiftBack, if_pos hfixed] at hi hj
      obtain ⟨-, rfl⟩ := Counter.require_eq_ok_iff.mp hi
      obtain ⟨-, rfl⟩ := Counter.require_eq_ok_iff.mp hj
      omega
    exact ⟨fun h => absurd hkept (Int.not_le.mpr h), fun h => absurd hfixed h.1⟩
  · have hreachS : ∀ u, i ≤ u ↔ z.Reached ((z.reading s).moved x) u :=
      fun u => le_iff_reached hz (instantOf_of_shiftBack hfixed hi)
    have hreachT : ∀ u, j ≤ u ↔ z.Reached ((z.reading t).moved x) u :=
      fun u => le_iff_reached hz (instantOf_of_shiftBack hfixed hj)
    simp only [Overtakes, ← hreachS, ← hreachT]
    constructor
    · exact fun h => ⟨hfixed, j, le_rfl, Int.not_le.mpr h⟩
    · rintro ⟨-, u, hju, hiu⟩
      omega

/-- Overtaking has one of three causes. -/
theorem Overtakes.disorders (hz : z.WellFormed) (hspaced : z.Spaced) (h : z.Overtakes x s t) :
    z.Disorders x s t := by
  obtain ⟨-, i, hreached, hnot⟩ := h
  by_cases hback : (z.reading t).nanos < (z.reading s).nanos
  · exact .turnedBack hback
  · by_cases hlt : ((z.reading t).moved x).nanos < ((z.reading s).moved x).nanos
    · obtain ⟨hpos, hclamps⟩ := (Reading.moved_lt_iff (Int.not_lt.mp hback)).mp hlt
      exact .clamped hpos hclamps
    · rcases reached_or_skips_of_le hz hspaced (Int.not_lt.mp hlt) hreached with
        hreached | ⟨i, before, after, hskips⟩
      · exact absurd hreached hnot
      · exact .skipped hskips

end Zone

/-! ### Labels of windows -/

namespace Window

variable {w : Window} {shifted : List Int} {first : Nat} {rest : List Nat} {i : Int}

/-- The moved instants of the rows of a window. -/
def movedInstants (w : Window) (shifted : List Int) : Set Int :=
  {i | ∃ r ∈ w.rows, shifted[r]? = some i}

theorem isLeast_movedInstants_iff (hrows : w.rows = first :: rest)
    (hfirst : shifted[first]? = some i) :
    IsLeast (w.movedInstants shifted) i ↔ ∀ r ∈ rest, ∀ j ∈ shifted[r]?, i ≤ j := by
  simp only [IsLeast, lowerBounds, movedInstants, hrows, Set.mem_ofPred_eq, Option.mem_def]
  constructor
  · rintro ⟨-, hleast⟩ r hr j hj
    exact hleast ⟨r, List.mem_cons_of_mem _ hr, hj⟩
  · intro h
    refine ⟨⟨first, List.mem_cons_self, hfirst⟩, ?_⟩
    rintro j ⟨r, hr, hj⟩
    rcases List.mem_cons.mp hr with rfl | hr
    · rw [hfirst] at hj
      exact (Option.some.inj hj).le
    · exact h r hr j hj

end Window

namespace TimeAxis

variable {t : Table} {name : String} {axis : TimeAxis} {first r : Nat} {s u : Int}

theorem spaced_of_ofTable [Zone.Database] (h : ofTable t name = .ok axis) : axis.zone.Spaced := by
  obtain ⟨c, -, -, -, -, -, hzone⟩ := ofTable_eq_ok_iff.mp h
  exact Zone.spaced_of_ofLabel? (elim_eq_ok_iff.mp hzone)

theorem IsSorted.le_of_lt (h : axis.IsSorted) (hlt : first < r)
    (hs : axis.instants[first]? = some s) (hu : axis.instants[r]? = some u) : s ≤ u := by
  obtain ⟨hfirst, rfl⟩ := List.getElem?_eq_some_iff.mp hs
  obtain ⟨hr, rfl⟩ := List.getElem?_eq_some_iff.mp hu
  exact List.pairwise_iff_getElem.mp h first r hfirst hr hlt

end TimeAxis

namespace WindowSpec

variable {spec : WindowSpec} {t : Table} {axis : TimeAxis} {a : Assignment} {shifted : List Int}
variable {name : String} {first r : Nat} {s u i j : Int}

/-- An instant overtakes another one in the shift of a specification. -/
def Overtakes (spec : WindowSpec) (zone : Zone) (s t : Int) : Prop :=
  ∃ offset ∈ spec.offset, zone.Overtakes offset.span s t

/-- What a later instant needs to overtake an earlier one in the shift of a specification. -/
def Disorders (spec : WindowSpec) (zone : Zone) (s t : Int) : Prop :=
  ∃ offset ∈ spec.offset, zone.Disorders offset.span s t

theorem lt_iff_overtakes {zone : Zone} (hz : zone.WellFormed) (hle : s ≤ u)
    (hi : spec.shift zone s = .ok i) (hj : spec.shift zone u = .ok j) :
    j < i ↔ spec.Overtakes zone s u := by
  unfold shift at hi hj
  unfold Overtakes
  cases hoffset : spec.offset with
  | none =>
      rw [hoffset] at hi hj
      cases hi
      cases hj
      simpa using hle
  | some offset =>
      rw [hoffset] at hi hj
      simpa using Zone.lt_iff_overtakes hz hle hi hj

theorem exists_shift_of_shifted (hshifted : spec.shifted axis = .ok shifted)
    (hi : shifted[r]? = some i) :
    ∃ s, axis.instants[r]? = some s ∧ spec.shift axis.zone s = .ok i := by
  obtain ⟨hlt, -⟩ := List.getElem?_eq_some_iff.mp hi
  rw [length_shifted hshifted] at hlt
  rw [shifted_eq_mapM] at hshifted
  obtain ⟨j, hj, hshift⟩ := getElem?_of_mapM_eq_ok hshifted (List.getElem?_eq_getElem hlt)
  cases hi.symm.trans hj
  exact ⟨_, List.getElem?_eq_getElem hlt, hshift⟩

/-- A row is moved to no earlier instant than a row before it, unless it overtakes that row. -/
theorem le_shifted_iff (hz : axis.zone.WellFormed) (hsorted : axis.IsSorted)
    (hshifted : spec.shifted axis = .ok shifted) (hs : axis.instants[first]? = some s)
    (hi : spec.shift axis.zone s = .ok i) (hlt : first < r) :
    (∀ j ∈ shifted[r]?, i ≤ j) ↔ ∀ u ∈ axis.instants[r]?, ¬spec.Overtakes axis.zone s u := by
  constructor
  · intro hle u hu hovertakes
    have hmoved := spec.shifted_eq_mapM axis ▸ hshifted
    obtain ⟨j, hj, hshift⟩ := getElem?_of_mapM_eq_ok hmoved hu
    have hbefore := (lt_iff_overtakes hz (hsorted.le_of_lt hlt hs hu) hi hshift).mpr hovertakes
    exact (hle j hj).not_gt hbefore
  · intro hnone j hj
    obtain ⟨u, hu, hshift⟩ := exists_shift_of_shifted hshifted hj
    have hiff := lt_iff_overtakes hz (hsorted.le_of_lt hlt hs hu) hi hshift
    exact Int.not_lt.mp fun hbefore => hnone u hu (hiff.mp hbefore)

/-- The datapoint label of a window is the moved instant of its first row, in every zone. It is
the earliest moved instant of the window exactly when no later row overtakes the first one, and
so it is without an offset and with one of a fixed length. With another one a row overtakes only
where the clock was turned back since the first row, where months move both rows to the last day
of one month, or where the clock leaves out the reading that the first row is moved to. -/
theorem assign_datapoint [Zone.Database]
    (haxis : TimeAxis.ofTable t name = .ok axis) (hsorted : axis.IsSorted)
    (hlabel : spec.label = .datapoint) (h : (spec.assign t axis).outcome = .ok a) :
    ∃ shifted, spec.shifted axis = .ok shifted ∧ ∀ w ∈ a.windows, ∃ first rest s,
      w.rows = first :: rest ∧ axis.instants[first]? = some s ∧ shifted[first]? = some w.label ∧
      (IsLeast (w.movedInstants shifted) w.label ↔
        ∀ r ∈ rest, ∀ u ∈ axis.instants[r]?, ¬spec.Overtakes axis.zone s u) ∧
      ∀ r ∈ rest, ∀ u ∈ axis.instants[r]?, s ≤ u ∧
        (spec.Overtakes axis.zone s u → spec.Disorders axis.zone s u) := by
  obtain ⟨hlength, hz⟩ := TimeAxis.ofTable_spec haxis
  have hspaced := TimeAxis.spaced_of_ofTable haxis
  have hpartitions := partitions_of_assign hlength h
  obtain ⟨columns, shifted, bounds, -, hshifted, -, rfl⟩ := assign_eq_ok_iff.mp h
  refine ⟨shifted, hshifted, ?_⟩
  intro w hw
  obtain ⟨first, rest, i, hrows, -, hi, hwlabel⟩ := Assignment.exists_first_of_window hw
  obtain rfl : w.label = i := by rw [hwlabel, hlabel, Label.instant]
  obtain ⟨s, hs, hshift⟩ := exists_shift_of_shifted hshifted hi
  have hfirst : ∀ r ∈ rest, first < r :=
    (List.pairwise_cons.mp (hrows ▸ hpartitions.ascending w hw)).1
  refine ⟨first, rest, s, hrows, hs, hi, ?_, ?_⟩
  · rw [Window.isLeast_movedInstants_iff hrows hi]
    exact forall₂_congr fun r hr => le_shifted_iff hz hsorted hshifted hs hshift (hfirst r hr)
  · intro r hr u hu
    refine ⟨hsorted.le_of_lt (hfirst r hr) hs hu, ?_⟩
    rintro ⟨offset, hoffset, hovertakes⟩
    exact ⟨offset, hoffset, hovertakes.disorders hz hspaced⟩

/-- Days, moved back by a month, with the first instants for labels. -/
def dayMonthBack : WindowSpec where
  timeColumn := "ts"
  every := ⟨[⟨1, .d, one_lt_wordSize⟩]⟩
  period := .days 86400000000000
  label := .datapoint
  offset := some ⟨⟨[⟨1, .mo, one_lt_wordSize⟩]⟩, ⟨1, 0, 0, 0⟩⟩

end WindowSpec

/-- A load at night, one late in the evening and one in the next night, at the end of March. -/
def Table.lastNights : Table where
  height := 3
  columns :=
    [⟨⟨"ts", .timestamp .nanosecond none, false⟩,
      [.int 1617066000000000000, .int 1617147000000000000, .int 1617152400000000000], by decide⟩]
  uniform := by decide

/-- The instants of the loads, on the common time line. -/
def TimeAxis.lastNights : TimeAxis :=
  ⟨[1617066000000000000, 1617147000000000000, 1617152400000000000], .fixed 0, none⟩

namespace WindowSpec

/-- The day of the loads, a month back. -/
def lastNightsDay (label : Int) (rows : List Nat) : Assignment where
  windows := [⟨0, ⟨1614470400000000000, 1614556800000000000⟩, label, rows, rows.length⟩]
  groups := [[]]

theorem assign_lastNights : (dayMonthBack.assign .lastNights .lastNights).outcome =
    .ok (lastNightsDay 1614474000000000000 [0, 1, 2]) := by
  have hshifted : dayMonthBack.shifted .lastNights =
      .ok [1614474000000000000, 1614555000000000000, 1614474000000000000] := by decide +kernel
  have hbounds : dayMonthBack.boundsFrom (.fixed 0) none
      [1614474000000000000, 1614555000000000000, 1614474000000000000] =
      .ok (List.replicate 3 ⟨1614470400000000000, 1614556800000000000⟩) := by decide +kernel
  exact assign_of_perm rfl hshifted hbounds (by decide) (by decide) rfl

theorem dayMonthBack_accepted : ∃ base, create "ts" "1d" = .ok base ∧
    { base with label := .datapoint }.withStartOffset "1mo" = .ok dayMonthBack :=
  ⟨{ timeColumn := "ts", every := ⟨[⟨1, .d, one_lt_wordSize⟩]⟩, period := .days 86400000000000 },
    by decide +kernel, by decide +kernel⟩

/-- A month back the loads are of one day. No later one comes before the first, at one o'clock. -/
theorem assign_datapoint_lastNights :
    (∃ base, create "ts" "1d" = .ok base ∧
      { base with label := .datapoint }.withStartOffset "1mo" = .ok dayMonthBack) ∧
    TimeAxis.ofTable .lastNights "ts" = .ok .lastNights ∧ TimeAxis.lastNights.IsSorted ∧
    ∃ a shifted w, (dayMonthBack.assign .lastNights .lastNights).outcome = .ok a ∧
      dayMonthBack.shifted .lastNights = .ok shifted ∧ a.windows = [w] ∧ w.rows = [0, 1, 2] ∧
      w.label = 1614474000000000000 ∧ IsLeast (w.movedInstants shifted) w.label := by
  have haxis : TimeAxis.ofTable .lastNights "ts" = .ok .lastNights := by rfl
  have hsorted : TimeAxis.lastNights.IsSorted := by decide
  obtain ⟨shifted, hshifted, hwindows⟩ := assign_datapoint haxis hsorted rfl assign_lastNights
  obtain ⟨first, rest, s, hrows, hs, -, hiff, hlater⟩ := hwindows _ List.mem_cons_self
  obtain ⟨rfl, rfl⟩ : 0 = first ∧ [1, 2] = rest := by simpa [lastNightsDay] using hrows
  obtain rfl : 1617066000000000000 = s := Option.some.inj hs
  refine ⟨dayMonthBack_accepted, haxis, hsorted, _, shifted, _, assign_lastNights, hshifted, rfl,
    rfl, rfl, hiff.mpr ?_⟩
  intro r hr u hu hovertakes
  obtain ⟨-, hdisorders⟩ := hlater r hr u hu
  obtain ⟨offset, hoffset, hdisorders⟩ := hdisorders hovertakes
  cases hoffset
  have hlate : u = 1617147000000000000 ∨ u = 1617152400000000000 := by
    rcases List.mem_cons.mp hr with rfl | hr
    · exact .inl (Option.some.inj hu).symm
    · cases List.mem_singleton.mp hr
      exact .inr (Option.some.inj hu).symm
  cases hdisorders with
  | turnedBack h => rcases hlate with rfl | rfl <;> exact absurd h (by decide +kernel)
  | clamped _ h =>
      rcases hlate with rfl | rfl <;> exact absurd h.nanosOfDay_lt (by decide +kernel)
  | skipped h =>
      obtain ⟨hbefore, hafter, hle, hlt⟩ := h
      rw [← hbefore] at hle
      rw [← hafter] at hlt
      exact absurd hlt (Int.not_lt.mpr hle)

/-- Without the first load the label is half past eleven in the evening, and the other load comes
at one o'clock of the same day. -/
theorem assign_datapoint_clamped :
    ∃ t axis base a shifted w, TimeAxis.ofTable t "ts" = .ok axis ∧
      axis.instants = [1617147000000000000, 1617152400000000000] ∧ axis.IsSorted ∧
      create "ts" "1d" = .ok base ∧
      { base with label := .datapoint }.withStartOffset "1mo" = .ok dayMonthBack ∧
      (dayMonthBack.assign t axis).outcome = .ok a ∧ dayMonthBack.shifted axis = .ok shifted ∧
      w ∈ a.windows ∧ w.label = 1614555000000000000 ∧
      1614474000000000000 ∈ w.movedInstants shifted ∧
      ¬IsLeast (w.movedInstants shifted) w.label := by
  obtain ⟨base, hbase, hspec⟩ := dayMonthBack_accepted
  have hshifted : dayMonthBack.shifted (TimeAxis.lastNights.select [1, 2]) =
      .ok [1614555000000000000, 1614474000000000000] := by decide +kernel
  have hbounds : dayMonthBack.boundsFrom (.fixed 0) none
      [1614555000000000000, 1614474000000000000] =
      .ok (List.replicate 2 ⟨1614470400000000000, 1614556800000000000⟩) := by decide +kernel
  have hassign : (dayMonthBack.assign (Table.lastNights.select [1, 2])
      (TimeAxis.lastNights.select [1, 2])).outcome =
      .ok (lastNightsDay 1614555000000000000 [0, 1]) :=
    assign_of_perm rfl hshifted hbounds (by decide) (by decide) rfl
  have hearly : 1614474000000000000 ∈ Window.movedInstants
      ⟨0, ⟨1614470400000000000, 1614556800000000000⟩, 1614555000000000000, [0, 1], 2⟩
      [1614555000000000000, 1614474000000000000] := ⟨1, by decide, rfl⟩
  refine ⟨_, _, base, _, _, _, rfl, rfl, by decide, hbase, hspec, hassign, hshifted,
    List.mem_cons_self, rfl, hearly, ?_⟩
  intro hleast
  exact absurd (hleast.2 hearly) (by decide)

end WindowSpec

end Cadence
