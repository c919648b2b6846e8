import Cadence.Proofs.Zone.Clock
import Cadence.Zone.Table
import Mathlib.Data.List.Pairwise

/-!
# Readings that the clock leaves out

A reading that the clock shows comes back as the earliest instant that shows it. A clock that is
turned forward leaves readings out, and the way back takes these with the offset of the day
before. This is the offset up to the change wherever no two changes come within two days of each
other, for then the offset is the same from two days before a change up to it, and from the
change to two days after it.
-/

namespace Cadence

namespace Zone

variable {z : Zone} {r : Reading} {i s t before after : Int}

/-! ### Shown readings -/

/-- What the clock shows at an instant comes back as the earliest instant that shows it. -/
theorem earliest_of_instantOf_counterAt {reading : Int} (h : z.WellFormed)
    (ht : z.counterAt t = .ok reading) (hi : z.instantOf ⟨reading⟩ = .ok i) :
    i ≤ t ∧ z.counterAt i = .ok reading ∧ ∀ s, z.counterAt s = .ok reading → i ≤ s := by
  have hshows : ∀ s, z.counterAt s = .ok reading → z.reading s = ⟨reading⟩ := by
    intro s hs
    exact congrArg Reading.mk (Counter.require_eq_ok_iff.mp hs).2
  have hfits : Counter.Fits reading := by
    obtain ⟨hfits, hreading⟩ := Counter.require_eq_ok_iff.mp ht
    exact hreading ▸ hfits
  rcases (instantOf_spec h hi).2 with hfirst | ⟨hnever, -⟩
  · have hcounter : z.counterAt i = .ok reading := by
      rw [counterAt, hfirst.shows]
      exact Counter.require_eq_ok_iff.mpr ⟨hfits, rfl⟩
    exact ⟨hfirst.le_of_shows t (hshows t ht), hcounter,
      fun s hs => hfirst.le_of_shows s (hshows s hs)⟩
  · exact absurd (hshows t ht) (hnever t)

/-! ### Stretches of one offset -/

/-- The offset in force depends only on the changes that have come. -/
theorem offsetFrom_congr {current : Int} {trs : List Transition}
    (h : ∀ tr ∈ trs, tr.instant ≤ s ↔ tr.instant ≤ t) :
    offsetFrom current s trs = offsetFrom current t trs := by
  induction trs generalizing current with
  | nil => rfl
  | cons tr rest ih =>
      have hcome : s < tr.instant ↔ t < tr.instant := by
        rw [← Int.not_le, ← Int.not_le, h tr List.mem_cons_self]
      simp only [offsetFrom, hcome, ih fun tr' htr' => h tr' (List.mem_cons_of_mem _ htr')]

theorem exists_transition_of_offsetAt_ne (h : z.offsetAt (i - 1) ≠ z.offsetAt i) :
    ∃ tr ∈ z.transitions, tr.instant = i := by
  by_contra hnone
  apply h
  apply offsetFrom_congr
  intro tr htr
  have hne : tr.instant ≠ i := fun heq => hnone ⟨tr, htr, heq⟩
  omega

/-- Two changes are one, or lie two days apart. -/
theorem Spaced.eq_or_apart (h : z.Spaced) {a b : Transition} (ha : a ∈ z.transitions)
    (hb : b ∈ z.transitions) :
    a.instant = b.instant ∨ a.instant + 2 * nanosPerDay ≤ b.instant ∨
      b.instant + 2 * nanosPerDay ≤ a.instant := by
  let Apart (a b : Transition) : Prop := a.instant = b.instant ∨
    a.instant + 2 * nanosPerDay ≤ b.instant ∨ b.instant + 2 * nanosPerDay ≤ a.instant
  have : Std.Symm Apart := ⟨fun a b hab => by
    rcases hab with heq | hab | hba
    · exact Or.inl heq.symm
    · exact Or.inr (Or.inr hab)
    · exact Or.inr (Or.inl hba)⟩
  have hpairwise : z.transitions.Pairwise Apart := h.apart.imp fun hab => Or.inr (Or.inl hab)
  exact List.Pairwise.forall_of_forall (R := Apart) (fun a _ => Or.inl rfl) hpairwise ha hb

/-- On either side of a change the offset stays the same for two days. -/
theorem Spaced.offsetAt_eq (h : z.Spaced) {tr : Transition} (htr : tr ∈ z.transitions)
    (hs : tr.instant - 2 * nanosPerDay ≤ s ∧ s < tr.instant + 2 * nanosPerDay)
    (ht : tr.instant - 2 * nanosPerDay ≤ t ∧ t < tr.instant + 2 * nanosPerDay)
    (hside : s < tr.instant ↔ t < tr.instant) : z.offsetAt s = z.offsetAt t := by
  apply offsetFrom_congr
  intro tr' htr'
  have := h.eq_or_apart htr htr'
  omega

/-! ### Skipped readings -/

/-- A clock that is turned forward at an instant, from one offset to another, leaves out a
reading: it would come after all that is shown before the change, and comes before all that is
shown from then on. -/
structure Skips (z : Zone) (i before after : Int) (r : Reading) : Prop where
  offset_before : z.offsetAt (i - 1) = before
  offset_at : z.offsetAt i = after
  le : i + before ≤ r.nanos
  lt : r.nanos < i + after

theorem Skips.exists_transition (h : z.Skips i before after r) :
    ∃ tr ∈ z.transitions, tr.instant = i := by
  apply exists_transition_of_offsetAt_ne
  rw [h.offset_before, h.offset_at]
  have := h.le
  have := h.lt
  omega

theorem Skips.offsets_inRange (h : z.Skips i before after r) (hz : z.WellFormed) :
    OffsetInRange before ∧ OffsetInRange after := by
  rw [← h.offset_before, ← h.offset_at]
  exact ⟨hz.offsetAt_inRange _, hz.offsetAt_inRange _⟩

section Spaced

variable (hz : z.WellFormed) (hspaced : z.Spaced) (h : z.Skips i before after r)
include hspaced h

theorem Skips.offsetAt_before (hlo : i - 2 * nanosPerDay ≤ s) (hhi : s < i) :
    z.offsetAt s = before := by
  obtain ⟨tr, htr, rfl⟩ := h.exists_transition
  rw [← h.offset_before]
  have hday : 0 < nanosPerDay := by decide
  exact hspaced.offsetAt_eq htr ⟨hlo, by omega⟩ ⟨by omega, by omega⟩ (by omega)

theorem Skips.offsetAt_after (hlo : i ≤ s) (hhi : s < i + 2 * nanosPerDay) :
    z.offsetAt s = after := by
  obtain ⟨tr, htr, rfl⟩ := h.exists_transition
  rw [← h.offset_at]
  have hday : 0 < nanosPerDay := by decide
  exact hspaced.offsetAt_eq htr ⟨by omega, hhi⟩ ⟨by omega, by omega⟩ (by omega)

include hz

/-- A skipped reading is never shown: not within two days of the change, where there are only
its two offsets, and not further away, where a reading is less than a day from its instant. -/
theorem Skips.reading_ne (s : Int) : z.reading s ≠ r := by
  intro hshows
  have hs : s + z.offsetAt s = r.nanos := congrArg Reading.nanos hshows
  have hlo := h.le
  have hhi := h.lt
  obtain ⟨⟨hfirst, -⟩, -, hlast⟩ := h.offsets_inRange hz
  obtain ⟨hoffset, hoffset'⟩ := hz.offsetAt_inRange s
  by_cases hnear : i - 2 * nanosPerDay ≤ s ∧ s < i + 2 * nanosPerDay
  · by_cases hbefore : s < i
    · rw [h.offsetAt_before hspaced hnear.1 hbefore] at hs
      omega
    · rw [h.offsetAt_after hspaced (Int.not_lt.mp hbefore) hnear.2] at hs
      omega
  · omega

/-- A skipped reading comes back with the offset up to the change, as far past the change as it
lies past the first reading that is skipped. -/
theorem Skips.instantOf_eq :
    z.instantOf r = .ok (r.nanos - before) ∧ i ≤ r.nanos - before ∧
      r.nanos - before < i + (after - before) := by
  have hlo := h.le
  have hhi := h.lt
  obtain ⟨⟨hfirst, hfirst'⟩, hlast, hlast'⟩ := h.offsets_inRange hz
  have hnone : z.earliest? r = none := by
    cases hearliest : z.earliest? r with
    | none => rfl
    | some t =>
        have hspec := earliest?_spec hz r
        rw [hearliest] at hspec
        exact absurd hspec.shows (h.reading_ne hz hspaced t)
  have hdayBefore : z.offsetAt (r.nanos - nanosPerDay) = before :=
    h.offsetAt_before hspaced (by omega) (by omega)
  have hfits : Counter.Fits (r.nanos - before) := by
    obtain ⟨tr, htr, rfl⟩ := h.exists_transition
    obtain ⟨⟨hleast, -⟩, -, hgreatest⟩ := hspaced.fits tr htr
    exact ⟨by omega, by omega⟩
  have hsupported : Reading.Supported ⟨r.nanos - nanosPerDay⟩ ∧
      Reading.Supported ⟨r.nanos - before⟩ :=
    ⟨supported_of_near hfits (by omega) (by omega), supported_of_near hfits (by omega) (by omega)⟩
  refine ⟨?_, by omega, by omega⟩
  rw [instantOf, supported?, hnone, Option.filter_none]
  simp only [instantOfSkipped, hdayBefore]
  rw [if_pos hsupported]
  exact Counter.require_eq_ok_iff.mpr ⟨hfits, rfl⟩

end Spaced

/-! ### Accepted zones -/

theorem spaced_of_ofLabel? [Database] {label : Option String} (h : ofLabel? label = some z) :
    z.Spaced := by
  rcases fixed_or_named_of_ofLabel? h with ⟨offset, -, rfl⟩ | ⟨name, hname⟩
  · exact ⟨List.Pairwise.nil, by simp [fixed]⟩
  · exact Database.spaced_of_named? hname

/-- The way back from readings inverts the clock, in every zone whose changes lie apart, and so in
the accepted ones of any database. What the clock shows comes back as the earliest instant that
shows it, and a reading that it skips comes back with the offset up to the change, as an instant
that lies less past the change than the clock is turned forward. -/
theorem instantOf_inverts [Database] :
    (∀ label z, ofLabel? label = some z → z.WellFormed ∧ z.Spaced) ∧
    ∀ z : Zone, z.WellFormed → z.Spaced →
      (∀ t reading i, z.counterAt t = .ok reading → z.instantOf ⟨reading⟩ = .ok i →
        i ≤ t ∧ z.counterAt i = .ok reading ∧ ∀ s, z.counterAt s = .ok reading → i ≤ s) ∧
      ∀ i before after r, z.Skips i before after r →
        z.instantOf r = .ok (r.nanos - before) ∧ i ≤ r.nanos - before ∧
          r.nanos - before < i + (after - before) := by
  refine ⟨fun label z h => ⟨wellFormed_of_ofLabel? h, spaced_of_ofLabel? h⟩, ?_⟩
  intro z hz hspaced
  refine ⟨?_, ?_⟩
  · intro t reading i ht hi
    exact earliest_of_instantOf_counterAt hz ht hi
  · intro i before after r hskips
    exact hskips.instantOf_eq hz hspaced

/-- Apia left out the whole 30th of December 2011; its noon comes back as noon of the 31st. The
clock was turned back by an hour on the first of April 2012, and showed three o'clock twice. -/
theorem instantOf_inverts_apia :
    ofLabel? (some "Pacific/Apia") = some .apia ∧
      apia.Skips 1325239200000000000 (-36000000000000) 50400000000000 ⟨1325246400000000000⟩ ∧
      apia.instantOf ⟨1325246400000000000⟩ = .ok 1325282400000000000 ∧
      apia.counterAt 1333202400000000000 = .ok 1333249200000000000 ∧
      apia.instantOf ⟨1333249200000000000⟩ = .ok 1333198800000000000 ∧
      apia.counterAt 1333198800000000000 = .ok 1333249200000000000 := by
  have hlabel : ofLabel? (some "Pacific/Apia") = some .apia := by rfl
  have hskips : apia.Skips 1325239200000000000 (-36000000000000) 50400000000000
      ⟨1325246400000000000⟩ :=
    ⟨by decide +kernel, by decide +kernel, by decide, by decide⟩
  have hshown : apia.counterAt 1333202400000000000 = .ok 1333249200000000000 := by
    decide +kernel
  have hback : apia.instantOf ⟨1333249200000000000⟩ = .ok 1333198800000000000 := by
    decide +kernel
  obtain ⟨haccepted, hinverts⟩ := instantOf_inverts
  obtain ⟨hz, hspaced⟩ := haccepted _ _ hlabel
  obtain ⟨hearliest, hskipped⟩ := hinverts apia hz hspaced
  exact ⟨hlabel, hskips, (hskipped _ _ _ _ hskips).1, hshown, hback,
    (hearliest _ _ _ hshown hback).2.1⟩

end Zone

end Cadence
