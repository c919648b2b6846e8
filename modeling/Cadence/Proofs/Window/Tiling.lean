import Cadence.Duration.Parser
import Cadence.Proofs.Window.Counters
import Cadence.Proofs.Window.Membership

/-!
# Windows side by side

On a clock that never changes, windows are cells moved by one offset. They hold
their instants, they are equal or do not meet, and each one begins where the one
before it ends, up to the last boundary that a counter can hold.
-/

namespace Cadence

/-- The first instant past a window. -/
def Bounds.past (b : Bounds) (closed : Closed) : Int :=
  match closed with
  | .left => b.upper
  | .right => b.upper + 1

/-- Windows that share no instant. -/
def Bounds.Apart (closed : Closed) (b c : Bounds) : Prop :=
  ∀ t, ¬(b.Contains closed t ∧ c.Contains closed t)

theorem Bounds.contains_moved_iff {c : Bounds} {closed : Closed} {offset t : Int} :
    Contains ⟨c.lower - offset, c.upper - offset⟩ closed t ↔ c.Contains closed (t + offset) := by
  cases closed with
  | left =>
      simp only [Contains]
      omega
  | right =>
      simp only [Contains]
      omega

theorem Bounds.upper_le_past (c : Bounds) (closed : Closed) : c.upper ≤ c.past closed := by
  cases closed with
  | left => exact le_rfl
  | right => exact Int.le_add_one le_rfl

theorem Bounds.past_moved (c : Bounds) (closed : Closed) (offset : Int) :
    past ⟨c.lower - offset, c.upper - offset⟩ closed + offset = c.past closed := by
  cases closed with
  | left =>
      simp only [past]
      omega
  | right =>
      simp only [past]
      omega

theorem Zone.reading_of_transitions_eq_nil {zone : Zone} (h : zone.transitions = []) (t : Int) :
    zone.reading t = ⟨t + zone.initial⟩ := by
  rw [reading, offsetAt_of_transitions_eq_nil h]

namespace Period

variable {p : Period} {closed : Closed} {r : Reading} {zone : Zone} {s t u : Int}
variable {b c d : Bounds}

/-- The cell past another one begins where that one ends. -/
theorem IsCell.lower_eq_of_past (h : p.IsCell closed r c)
    (hpast : p.IsCell closed ⟨c.past closed⟩ d) : d.lower = c.upper := by
  have hmem := hpast.contains
  have hgap : c.upper ≤ d.lower ∨ d.upper ≤ c.upper := hpast.gapless _ h.upper
  cases closed with
  | left =>
      simp only [Bounds.Contains, Bounds.past] at hmem
      omega
  | right =>
      simp only [Bounds.Contains, Bounds.past] at hmem
      omega

/-- The cell past another one does not begin before the least counter: it begins where that one
ends, or later. -/
theorem IsCell.not_startsOutside_past (hp : p.Regular) (h : p.IsCell closed r c) (hfits : c.Fits)
    (hpast : Counter.Fits (c.past closed)) : ¬p.StartsOutside (c.past closed) := by
  intro hstart
  obtain ⟨-, d, hd, hearly⟩ := (startsOutside_iff (r := ⟨c.past closed⟩) hp hpast).mp hstart
  have hlt : c.upper < d.upper := (c.upper_le_past closed).trans_lt hd.contains.2
  have hlower : c.upper ≤ d.lower := (hd.gapless _ h.upper).resolve_right (not_le_of_gt hlt)
  exact absurd (hfits.2.1.trans hlower) (Int.not_le.mpr hearly)

/-- A cell ends at the first boundary after its beginning. -/
theorem IsCell.upper_le_of_isBoundary {x : Reading} (h : p.IsCell closed r c)
    (hx : p.IsBoundary x) (hlt : c.lower < x.nanos) : c.upper ≤ x.nanos := by
  rcases h.gapless x hx with hle | hle
  · exact absurd hle (not_le_of_gt hlt)
  · exact hle

/-- A cell begins at some instant after another one, and counters can hold that
instant and its reading. -/
def GoesOnAfter (p : Period) (zone : Zone) (i : Int) : Prop :=
  ∃ j, i < j ∧ p.IsBoundary (zone.reading j) ∧ Counter.Fits j ∧ Counter.Fits (zone.reading j).nanos

section Unchanging

variable (hp : p.Regular) (hzone : zone.WellFormed) (hfixed : zone.transitions = [])
include hp hzone hfixed

/-- A window is the moved cell of its instant, and counters can hold both. -/
theorem exists_cell_of_windowOf (h : p.windowOf closed zone t = .ok b) :
    ∃ c, p.IsCell closed ⟨t + zone.initial⟩ c ∧ c.Fits ∧ b.Fits ∧
      b = ⟨c.lower - zone.initial, c.upper - zone.initial⟩ := by
  obtain ⟨c, hcell⟩ := exists_isCell hp closed (zone.reading t)
  refine ⟨c, ?_, (windowOf_eq_ok_iff_of_transitions_eq_nil hp hzone hfixed hcell).mp h⟩
  rwa [Zone.reading_of_transitions_eq_nil hfixed] at hcell

theorem contains_of_windowOf (h : p.windowOf closed zone t = .ok b) : b.Contains closed t := by
  obtain ⟨c, hcell, -, -, rfl⟩ := exists_cell_of_windowOf hp hzone hfixed h
  exact Bounds.contains_moved_iff.mpr hcell.contains

/-- Every instant of a window has that window. -/
theorem windowOf_of_contains (h : p.windowOf closed zone t = .ok b) (hu : b.Contains closed u) :
    p.windowOf closed zone u = .ok b := by
  obtain ⟨c, hcell, hends⟩ := exists_cell_of_windowOf hp hzone hfixed h
  rw [hends.2.2, Bounds.contains_moved_iff] at hu
  apply (windowOf_eq_ok_iff_of_transitions_eq_nil hp hzone hfixed _).mpr hends
  rw [Zone.reading_of_transitions_eq_nil hfixed]
  exact hcell.of_contains hu

/-- Windows that share an instant are one. -/
theorem eq_or_apart (hb : p.windowOf closed zone t = .ok b) (hc : p.windowOf closed zone u = .ok c) :
    b = c ∨ b.Apart closed c := by
  by_cases hshare : ∃ s, b.Contains closed s ∧ c.Contains closed s
  · obtain ⟨s, hsb, hsc⟩ := hshare
    have hwindow := windowOf_of_contains hp hzone hfixed hb hsb
    rw [windowOf_of_contains hp hzone hfixed hc hsc] at hwindow
    exact Or.inl (Except.ok.inj hwindow).symm
  · exact Or.inr fun s hs => hshare ⟨s, hs⟩

/-- A window past another one begins where that one ends. -/
theorem lower_eq_of_windowOf_past (h : p.windowOf closed zone t = .ok b)
    (hpast : p.windowOf closed zone (b.past closed) = .ok d) : d.lower = b.upper := by
  obtain ⟨c, hcell, -, -, rfl⟩ := exists_cell_of_windowOf hp hzone hfixed h
  obtain ⟨e, hnext, -, -, rfl⟩ := exists_cell_of_windowOf hp hzone hfixed hpast
  rw [Bounds.past_moved] at hnext
  exact congrArg (· - zone.initial) (hcell.lower_eq_of_past hnext)

/-- There is a window past another one exactly when the grid goes on after it. -/
theorem exists_windowOf_past_iff (h : p.windowOf closed zone t = .ok b) :
    (∃ d, p.windowOf closed zone (b.past closed) = .ok d) ↔ p.GoesOnAfter zone b.upper := by
  obtain ⟨c, hcell, hfits, hends, rfl⟩ := exists_cell_of_windowOf hp hzone hfixed h
  obtain ⟨e, hnext⟩ := exists_isCell hp closed
    (zone.reading (Bounds.past ⟨c.lower - zone.initial, c.upper - zone.initial⟩ closed))
  have hiff := fun d => windowOf_eq_ok_iff_of_transitions_eq_nil (b := d) hp hzone hfixed hnext
  rw [Zone.reading_of_transitions_eq_nil hfixed, Bounds.past_moved] at hnext
  have hlower := hcell.lower_eq_of_past hnext
  have hlt := hnext.contains.lower_lt_upper
  simp only [hiff, GoesOnAfter, Zone.reading_of_transitions_eq_nil hfixed]
  constructor
  · rintro ⟨d, hcellFits, hwindowFits, rfl⟩
    refine ⟨e.upper - zone.initial, ?_, ?_, hwindowFits.2, ?_⟩
    · omega
    · rw [Int.sub_add_cancel]
      exact hnext.upper
    · rw [Int.sub_add_cancel]
      exact hcellFits.2
  · rintro ⟨j, hafter, hboundary, hj, hreading⟩
    -- The next cell ends at that boundary or before it, and begins where this one ends.
    have hle := hnext.upper_le_of_isBoundary hboundary (by dsimp only at hafter ⊢; omega)
    have hfirst := hfits.2
    have hfirstEnd := hends.2
    simp only [Counter.Fits] at hj hreading hfirst hfirstEnd
    dsimp only at hle
    refine ⟨_, ⟨?_, ?_⟩, ⟨?_, ?_⟩, rfl⟩
    · rw [hlower]
      exact hfirst
    · exact ⟨by omega, by omega⟩
    · dsimp only
      rw [hlower]
      exact hfirstEnd
    · exact ⟨by dsimp only; omega, by dsimp only; omega⟩

/-- Where the grid ends, the first instant past a window is refused for its data. -/
theorem exists_refusal_of_not_goesOnAfter (h : p.windowOf closed zone t = .ok b)
    (hends : ¬p.GoesOnAfter zone b.upper) :
    ∃ e, p.windowOf closed zone (b.past closed) = .error e ∧ e.kind = .dataFormat := by
  cases hwindow : p.windowOf closed zone (b.past closed) with
  | ok d =>
      have hgoesOn := (exists_windowOf_past_iff hp hzone hfixed h).mp ⟨d, hwindow⟩
      exact absurd hgoesOn hends
  | error e =>
      refine ⟨e, rfl, ?_⟩
      rcases failsOnly_windowOf p closed zone _ e hwindow with hdata | ⟨rfl, hstart⟩
      · exact hdata
      · have hreading : Counter.Fits (zone.reading (b.past closed)).nanos := by
          by_contra hunfit
          cases hwindow.symm.trans (windowOf_eq_error_of_not_fits hunfit)
        obtain ⟨c, hcell, hfits, -, rfl⟩ := exists_cell_of_windowOf hp hzone hfixed h
        rw [Zone.reading_of_transitions_eq_nil hfixed, Bounds.past_moved] at hstart hreading
        exact absurd hstart (hcell.not_startsOutside_past hp hfits hreading)

end Unchanging

/-- On a clock that never changes, windows hold their instants and are equal or apart,
and the instants of a window have that window. The first instant past a window has one
that begins where the window ends, unless the grid ends there: then it is refused for its data. -/
theorem windowOf_tiles {every : Duration} (hzone : zone.WellFormed)
    (hfixed : zone.transitions = []) (hperiod : ofDuration every = .ok p)
    (hb : p.windowOf closed zone t = .ok b) (hc : p.windowOf closed zone u = .ok c) :
    b.Contains closed t ∧ (b = c ∨ b.Apart closed c) ∧ (b.Contains closed u → c = b) ∧
      (∀ d, p.windowOf closed zone (b.past closed) = .ok d → d.lower = b.upper) ∧
      ((∃ d, p.windowOf closed zone (b.past closed) = .ok d) ↔ p.GoesOnAfter zone b.upper) ∧
      (¬p.GoesOnAfter zone b.upper →
        ∃ e, p.windowOf closed zone (b.past closed) = .error e ∧ e.kind = .dataFormat) := by
  have hp := regular_of_ofDuration hperiod
  refine ⟨contains_of_windowOf hp hzone hfixed hb, eq_or_apart hp hzone hfixed hb hc, ?_,
    fun d => lower_eq_of_windowOf_past hp hzone hfixed hb,
    exists_windowOf_past_iff hp hzone hfixed hb,
    exists_refusal_of_not_goesOnAfter hp hzone hfixed hb⟩
  intro hu
  exact Except.ok.inj (hc.symm.trans (windowOf_of_contains hp hzone hfixed hb hu))

/-- The quarter up to the first of April 2021, half past five hours ahead, closed on the
right: its last instant, and the first instant of January. The quarter up to the first of April
2262 is the last one. -/
theorem windowOf_tiles_quarter :
    ∃ zone, Zone.ofLabel? (some "+05:30") = some zone ∧ zone.transitions = [] ∧
      zone.WellFormed ∧ ofDuration ⟨[⟨1, .q, by decide⟩]⟩ = .ok (months 3) ∧
      (months 3).windowOf .right zone 1617215400000000000 =
        .ok ⟨1609439400000000000, 1617215400000000000⟩ ∧
      (months 3).windowOf .right zone 1609439400000000001 =
        .ok ⟨1609439400000000000, 1617215400000000000⟩ ∧
      (months 3).GoesOnAfter zone 1617215400000000000 ∧
      (months 3).windowOf .right zone 9222402600000000000 =
        .ok ⟨9214626600000000000, 9222402600000000000⟩ ∧
      ¬(months 3).GoesOnAfter zone 9222402600000000000 ∧
      ∃ e, (months 3).windowOf .right zone 9222402600000000001 = .error e ∧
        e.kind = .dataFormat := by
  have hlabel : Zone.ofLabel? (some "+05:30") = some (.fixed 19800000000000) := by rfl
  have hzone := Zone.wellFormed_of_ofLabel? hlabel
  have hperiod : ofDuration ⟨[⟨1, .q, by decide⟩]⟩ = .ok (months 3) := by rfl
  have hlast : (months 3).windowOf .right (.fixed 19800000000000) 1617215400000000000 =
      .ok ⟨1609439400000000000, 1617215400000000000⟩ := by decide +kernel
  have hfirst : (months 3).windowOf .right (.fixed 19800000000000) 1609439400000000001 =
      .ok ⟨1609439400000000000, 1617215400000000000⟩ := by decide +kernel
  have hnext : (months 3).windowOf .right (.fixed 19800000000000) 1617215400000000001 =
      .ok ⟨1617215400000000000, 1625077800000000000⟩ := by decide +kernel
  have hend : (months 3).windowOf .right (.fixed 19800000000000) 9222402600000000000 =
      .ok ⟨9214626600000000000, 9222402600000000000⟩ := by decide +kernel
  have hnone : ((months 3).windowOf .right (.fixed 19800000000000)
      9222402600000000001).toOption = none := by decide +kernel
  obtain ⟨-, -, -, -, hpast, -⟩ := windowOf_tiles hzone rfl hperiod hlast hfirst
  obtain ⟨-, -, -, -, hpastEnd, hrefused⟩ := windowOf_tiles hzone rfl hperiod hend hend
  have hstops : ¬(months 3).GoesOnAfter (.fixed 19800000000000) 9222402600000000000 := by
    intro hgoesOn
    obtain ⟨d, hd⟩ := hpastEnd.mpr hgoesOn
    cases hnone.symm.trans (congrArg Except.toOption hd)
  exact ⟨_, hlabel, rfl, hzone, hperiod, hlast, hfirst, hpast.mp ⟨_, hnext⟩, hend, hstops,
    hrefused hstops⟩

/-- The last full hour that counters can hold has a window, and no window begins with
the first instant past it. -/
theorem windowOf_last_hour :
    ∃ zone every p b, Zone.ofLabel? none = some zone ∧ zone.transitions = [] ∧
      Duration.parse "1h" = .ok every ∧ ofDuration every = .ok p ∧
      p.windowOf .left zone 9223365600000000000 = .ok b ∧
      ¬∃ d, p.windowOf .left zone (b.past .left) = .ok d ∧ d.lower = b.upper := by
  have hwindow : (fixed 3600000000000).windowOf .left (.fixed 0) 9223365600000000000 =
      .ok ⟨9223365600000000000, 9223369200000000000⟩ := by decide +kernel
  have hpast : (fixed 3600000000000).windowOf .left (.fixed 0) 9223369200000000000 =
      .error boundaryFault := by decide +kernel
  refine ⟨.fixed 0, ⟨[⟨1, .h, by decide⟩]⟩, fixed 3600000000000, _, rfl, rfl, by decide +kernel,
    by rfl, hwindow, ?_⟩
  rintro ⟨d, hd, -⟩
  cases hpast.symm.trans hd

end Period

end Cadence
