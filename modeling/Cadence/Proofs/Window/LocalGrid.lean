import Cadence.Proofs.Window.Grid
import Cadence.Zone.Table

/-!
# The grid on the calendar

The boundaries of a period are points that the calendar names: whole lengths counted from a
midnight, Monday midnights where weeks are counted, first days of months. Windows closed on the
left and on the right differ only for an instant whose reading is such a point. One of them
begins there and the other one ends.
-/

namespace Cadence

namespace Period

variable {p : Period} {closed : Closed} {r : Reading} {zone : Zone} {t : Int}
  {b c left right : Bounds}

/-! ### Points of the grid -/

/-- Where cells end, as the calendar shows it. Lengths are counted from midnight of 1970-01-01,
weeks from midnight of 1969-12-29, a Monday, and months from January 1970. -/
def OnGrid (p : Period) (x : Reading) : Prop :=
  match p with
  | fixed n | days n => n ∣ x.nanos - (Reading.midnight (Date.dayNumber ⟨1970, 1, 1⟩)).nanos
  | weeks n =>
      n ∣ x.nanos - (Reading.midnight (Date.dayNumber ⟨1969, 12, 29⟩)).nanos ∧
        Date.weekday x.dayNumber = 0 ∧ x.nanosOfDay = 0
  | months n => n ∣ x.monthIndex ∧ x.date.day = 1 ∧ x.nanosOfDay = 0

theorem midnight_epoch : (Reading.midnight (Date.dayNumber ⟨1970, 1, 1⟩)).nanos = 0 := by decide

theorem midnight_monday :
    (Reading.midnight (Date.dayNumber ⟨1969, 12, 29⟩)).nanos = mondayOrigin := by decide

/-- Whole weeks from a Monday midnight lead to a Monday midnight. -/
theorem weekday_eq_zero_of_dvd {x : Reading} (h : 7 * nanosPerDay ∣ x.nanos - mondayOrigin) :
    Date.weekday x.dayNumber = 0 ∧ x.nanosOfDay = 0 := by
  simp only [Date.weekday, Reading.dayNumber, Reading.nanosOfDay, nanosPerDay, mondayOrigin] at *
  omega

/-- The boundaries of a period are the points of its grid on the calendar. -/
theorem isBoundary_iff_onGrid (hp : p.Regular) {x : Reading} : p.IsBoundary x ↔ p.OnGrid x := by
  cases p with
  | fixed n | days n =>
      simp only [IsBoundary, OnGrid]
      rw [midnight_epoch, Int.sub_zero]
  | weeks n =>
      simp only [IsBoundary, OnGrid]
      rw [midnight_monday]
      exact ⟨fun h => ⟨h, weekday_eq_zero_of_dvd (Int.dvd_trans hp.2 h)⟩, And.left⟩
  | months n =>
      simp only [IsBoundary, OnGrid]
      rw [← Reading.eq_startOfMonth_iff]
      constructor
      · rintro ⟨k, hk, rfl⟩
        rw [Reading.monthIndex_startOfMonth]
        exact ⟨hk, rfl⟩
      · rintro ⟨hdvd, hstart⟩
        exact ⟨_, hdvd, hstart⟩

/-! ### Between two points -/

/-- Away from the grid a cell of one length does not depend on the closed side. -/
theorem clockCell_right_eq_left {span origin reading : Int} (h : ¬span ∣ reading - origin) :
    clockCell span origin .right reading = clockCell span origin .left reading := by
  apply bind_congr_of_ok
  intro distance hdistance
  obtain ⟨-, rfl⟩ := Counter.require_eq_ok_iff.mp hdistance
  apply bind_congr_of_ok
  intro start hstart
  obtain ⟨-, rfl⟩ := Counter.require_eq_ok_iff.mp hstart
  have hinside : reading - (reading - origin) % span ≠ reading := by
    intro hat
    exact h (Int.dvd_of_emod_eq_zero (by omega))
  dsimp only
  rw [if_neg fun hat => hinside hat.2, if_neg fun hat => hinside hat.2]

theorem monthCell_right_eq_left {count : Int} (h : ¬(months count).IsBoundary r) :
    monthCell count .right r = monthCell count .left r := by
  have hinside : Reading.startOfMonth (r.monthIndex - r.monthIndex % count) ≠ r := by
    intro hat
    exact h ⟨_, Int.dvd_self_sub_emod, hat.symm⟩
  unfold monthCell
  dsimp only
  rw [if_neg fun hat => hinside hat.2, if_neg fun hat => hinside hat.2]

/-- Away from the grid a window, or the refusal of one, does not depend on the closed side. -/
theorem windowOf_right_eq_left (h : ¬p.IsBoundary (zone.reading t)) :
    p.windowOf .right zone t = p.windowOf .left zone t := by
  rcases p.isClock_or_months with ⟨span, origin, hclock⟩ | ⟨count, rfl⟩
  · rw [hclock.windowOf_eq, hclock.windowOf_eq]
    apply bind_congr_of_ok
    intro reading hreading
    obtain ⟨-, rfl⟩ := Counter.require_eq_ok_iff.mp hreading
    rw [clockCell_right_eq_left (mt (hclock.isBoundary_iff _).mpr h)]
  · apply bind_congr_of_ok
    intro reading hreading
    obtain ⟨-, rfl⟩ := Counter.require_eq_ok_iff.mp hreading
    dsimp only
    rw [monthCell_right_eq_left h]

/-! ### At a point -/

/-- A boundary begins its cell where the left end belongs to cells, and ends it where the right
end does. -/
theorem IsCell.lower_eq_of_isBoundary (h : p.IsCell .left r c) (hr : p.IsBoundary r) :
    c.lower = r.nanos := by
  obtain ⟨hle, hlt⟩ := h.contains
  have := h.gapless r hr
  omega

theorem IsCell.upper_eq_of_isBoundary (h : p.IsCell .right r c) (hr : p.IsBoundary r) :
    c.upper = r.nanos := by
  obtain ⟨hlt, hle⟩ := h.contains
  have := h.gapless r hr
  omega

/-- At a boundary the window closed on the right ends where the one closed on the left begins. -/
theorem upper_eq_lower_of_isBoundary (hp : p.Regular) (ht : p.IsBoundary (zone.reading t))
    (hleft : p.windowOf .left zone t = .ok left) (hright : p.windowOf .right zone t = .ok right) :
    right.upper = left.lower := by
  obtain ⟨c, hcell, hlower, -⟩ := windowOf_spec hp hleft
  obtain ⟨d, hcell', -, hupper⟩ := windowOf_spec hp hright
  rw [hcell.lower_eq_of_isBoundary ht] at hlower
  rw [hcell'.upper_eq_of_isBoundary ht] at hupper
  exact Except.ok.inj (hupper.symm.trans hlower)

/-- The window of an instant lies between the instants of the two neighbouring points of the
grid around its reading. The closed side is of no account unless the reading is a point of the
grid itself; there the window closed on the right ends where the one closed on the left begins. -/
theorem windowOf_onGrid {every : Duration} (hperiod : ofDuration every = .ok p) :
    (∀ closed b, p.windowOf closed zone t = .ok b → ∃ c : Bounds,
      c.Contains closed (zone.reading t).nanos ∧ p.OnGrid ⟨c.lower⟩ ∧ p.OnGrid ⟨c.upper⟩ ∧
      (∀ x, p.OnGrid x → x.nanos ≤ c.lower ∨ c.upper ≤ x.nanos) ∧
      zone.instantOf ⟨c.lower⟩ = .ok b.lower ∧ zone.instantOf ⟨c.upper⟩ = .ok b.upper) ∧
    (¬p.OnGrid (zone.reading t) → p.windowOf .right zone t = p.windowOf .left zone t) ∧
    (p.OnGrid (zone.reading t) → ∀ left right, p.windowOf .left zone t = .ok left →
      p.windowOf .right zone t = .ok right → right.upper = left.lower) := by
  have hp := regular_of_ofDuration hperiod
  simp only [← isBoundary_iff_onGrid hp]
  refine ⟨?_, windowOf_right_eq_left, fun ht left right => upper_eq_lower_of_isBoundary hp ht⟩
  intro closed b hb
  obtain ⟨c, hcell, hends⟩ := windowOf_spec hp hb
  exact ⟨c, hcell.contains, hcell.lower, hcell.upper, hcell.gapless, hends⟩

/-- The first of October 1969 in New York begins one quarter and ends another one. -/
theorem windowOf_onGrid_quarter :
    ofDuration ⟨[⟨1, .q, by decide⟩]⟩ = .ok (months 3) ∧
      (months 3).OnGrid (Zone.newYork.reading (-7934400000000000)) ∧
      ∃ left right, (months 3).windowOf .left .newYork (-7934400000000000) = .ok left ∧
        (months 3).windowOf .right .newYork (-7934400000000000) = .ok right ∧
        right.upper = left.lower := by
  have hperiod : ofDuration ⟨[⟨1, .q, by decide⟩]⟩ = .ok (months 3) := by rfl
  have hgrid : (months 3).OnGrid (Zone.newYork.reading (-7934400000000000)) := by
    change (3 : Int) ∣ _ ∧ _ ∧ _
    decide +kernel
  have hleft : (months 3).windowOf .left .newYork (-7934400000000000) =
      .ok ⟨-7934400000000000, 18000000000000⟩ := by decide +kernel
  have hright : (months 3).windowOf .right .newYork (-7934400000000000) =
      .ok ⟨-15883200000000000, -7934400000000000⟩ := by decide +kernel
  exact ⟨hperiod, hgrid, _, _, hleft, hright,
    (windowOf_onGrid hperiod).2.2 hgrid _ _ hleft hright⟩

end Period

end Cadence
