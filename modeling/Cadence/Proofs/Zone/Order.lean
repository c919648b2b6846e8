import Cadence.Proofs.Zone.Gaps
import Mathlib.Data.Int.Init
import Mathlib.Data.Int.Order.Basic
import Mathlib.Order.Basic

/-!
# Readings in their order

A clock goes forward by one nanosecond in each, except where its offset changes. So before it
shows a reading it has come to every earlier one: it has shown it, or it has left it out where it
was turned forward. A reading that is left out is the only one that the clock may come to later
than to a reading after it.
-/

namespace Cadence.Zone

variable {z : Zone} {r s : Reading} {t t' i x : Int}

/-- Between two instants a clock passes every reading between theirs. -/
theorem exists_crossing (hle : t ≤ t') (hbefore : (z.reading t).nanos < x)
    (hafter : x ≤ (z.reading t').nanos) :
    ∃ i, i ≤ t' ∧ (z.reading (i - 1)).nanos < x ∧ x ≤ (z.reading i).nanos := by
  induction t', hle using Int.leInduction with
  | base => omega
  | succ t' hle ih =>
      by_cases hpassed : x ≤ (z.reading t').nanos
      · obtain ⟨i, hi, hcrossing⟩ := ih hpassed
        exact ⟨i, by omega, hcrossing⟩
      · refine ⟨t' + 1, le_rfl, ?_, hafter⟩
        rw [Int.add_sub_cancel]
        exact Int.not_le.mp hpassed

/-- A clock that passes a reading shows it there, or is turned forward over it. -/
theorem shows_or_skips_of_crossing (hbefore : (z.reading (i - 1)).nanos < r.nanos)
    (hafter : r.nanos ≤ (z.reading i).nanos) :
    z.reading i = r ∨ z.Skips i (z.offsetAt (i - 1)) (z.offsetAt i) r := by
  simp only [reading] at hbefore hafter
  rcases hafter.lt_or_eq with hlt | heq
  · exact .inr ⟨rfl, rfl, by omega, hlt⟩
  · exact .inl (congrArg Reading.mk heq.symm)

/-- A clock has shown every reading before the present one, or left it out. -/
theorem shows_or_skips (hz : z.WellFormed) (h : r.nanos ≤ (z.reading t).nanos) :
    (∃ s ≤ t, z.reading s = r) ∨ ∃ i ≤ t, ∃ before after, z.Skips i before after r := by
  -- A day before a reading, on the common time line, the clock has not come to it.
  obtain ⟨hlo, hhi⟩ := hz.offsetAt_inRange t
  obtain ⟨hlo', hhi'⟩ := hz.offsetAt_inRange (r.nanos - nanosPerDay)
  have hle : r.nanos - nanosPerDay ≤ t := by
    simp only [reading] at h
    omega
  have hbefore : (z.reading (r.nanos - nanosPerDay)).nanos < r.nanos := by
    simp only [reading]
    omega
  obtain ⟨i, hi, hcrossing⟩ := exists_crossing hle hbefore h
  rcases shows_or_skips_of_crossing hcrossing.1 hcrossing.2 with hshows | hskips
  · exact .inl ⟨i, hi, hshows⟩
  · exact .inr ⟨i, hi, _, _, hskips⟩

/-- A clock that comes to a reading has come to every earlier one that it does not leave out. -/
theorem reached_or_skips_of_le (hz : z.WellFormed) (hspaced : z.Spaced) (hle : r.nanos ≤ s.nanos)
    (h : z.Reached s t) : z.Reached r t ∨ ∃ i before after, z.Skips i before after r := by
  have hpassed : ∀ u ≤ t, r.nanos ≤ (z.reading u).nanos →
      z.Reached r t ∨ ∃ i before after, z.Skips i before after r := by
    intro u hu hr
    rcases shows_or_skips hz hr with ⟨v, hv, hshows⟩ | ⟨i, -, before, after, hskips⟩
    · exact .inl (.inl ⟨v, hv.trans hu, hshows⟩)
    · exact .inr ⟨i, before, after, hskips⟩
  rcases h with ⟨u, hu, rfl⟩ | ⟨hnever, hdue⟩
  · exact hpassed u hu hle
  · -- The later reading is left out, so the clock is turned forward by the time it is due.
    obtain ⟨i, before, after, hskips⟩ : ∃ i before after, z.Skips i before after s := by
      have hlate : s.nanos ≤ (z.reading (s.nanos + nanosPerDay)).nanos := by
        obtain ⟨hlo, -⟩ := hz.offsetAt_inRange (s.nanos + nanosPerDay)
        simp only [reading]
        omega
      rcases shows_or_skips hz hlate with ⟨u, -, hshows⟩ | ⟨i, -, hskips⟩
      · exact absurd hshows (hnever u)
      · exact ⟨i, hskips⟩
    have hfirst := hskips.le
    have hlast := hskips.lt
    by_cases hskipped : i + before ≤ r.nanos
    · exact .inr ⟨i, before, after, hskips.offset_before, hskips.offset_at, hskipped, by omega⟩
    · obtain ⟨⟨hlo, hhi⟩, hlo', hhi'⟩ := hskips.offsets_inRange hz
      rw [hskips.offsetAt_before hspaced (by omega) (by omega)] at hdue
      refine hpassed (i - 1) (by omega) ?_
      simp only [reading, hskips.offset_before]
      omega

end Cadence.Zone
