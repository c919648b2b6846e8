import Cadence.Proofs.Outcome
import Cadence.Zone.Instant
import Cadence.Zone.Parser

/-!
# The wall clock of a zone

A reading may be shown once, several times or never. The way back from a reading
takes the earliest instant that shows it; a reading that is never shown is taken
with the offset of the day before. Both cases are stated about the clock itself,
for every zone whose changes come in time order.
-/

namespace Cadence

namespace Zone

variable {z : Zone} {r : Reading} {t : Int}

/-! ### Offsets in force -/

/-- What holds of every offset of a zone holds of the one in force. -/
theorem offsetFrom_induction {P : Int → Prop} {current : Int} {trs : List Transition}
    (hcurrent : P current) (htrs : ∀ tr ∈ trs, P tr.offset) (t : Int) :
    P (offsetFrom current t trs) := by
  induction trs generalizing current with
  | nil => exact hcurrent
  | cons tr rest ih =>
      unfold offsetFrom
      split
      · exact hcurrent
      · exact ih (htrs tr (by simp)) fun tr' h => htrs tr' (by simp [h])

theorem WellFormed.offsetAt_inRange (h : z.WellFormed) (t : Int) : OffsetInRange (z.offsetAt t) :=
  offsetFrom_induction h.initial_inRange h.offset_inRange t

/-! ### Instants that show a reading -/

/-- An instant shows a reading within the stretch that begins at `start` with
offset `current` or in one of the stretches after it. -/
def ShowsFrom (start : Option Int) (current : Int) (r : Reading) (trs : List Transition)
    (t : Int) : Prop :=
  start.all (· ≤ t) ∧ t + offsetFrom current t trs = r.nanos

/-- The earliest instant at which the clock shows a reading. -/
structure FirstShows (z : Zone) (r : Reading) (t : Int) : Prop where
  shows : z.reading t = r
  le_of_shows : ∀ s, z.reading s = r → t ≤ s

theorem all_le_iff {start : Option Int} {t : Int} : start.all (· ≤ t) ↔ ∀ s ∈ start, s ≤ t := by
  simp [Option.all_eq_true]

/-- Within a stretch the offset is constant, so at most one instant of it shows a reading. -/
theorem showsFrom_cons_iff {start : Option Int} {current : Int} {tr : Transition}
    {rest : List Transition} (hstart : ∀ s ∈ start, s < tr.instant) :
    ShowsFrom start current r (tr :: rest) t ↔
      (start.all (· ≤ t) ∧ t < tr.instant) ∧ t = r.nanos - current ∨
        ShowsFrom (some tr.instant) tr.offset r rest t := by
  simp only [ShowsFrom, offsetFrom, all_le_iff, Option.mem_some_iff, forall_eq']
  by_cases ht : t < tr.instant
  · rw [if_pos ht]
    constructor
    · rintro ⟨hs, hr⟩
      exact Or.inl ⟨⟨hs, ht⟩, by omega⟩
    · rintro (⟨⟨hs, -⟩, hr⟩ | ⟨hle, -⟩)
      · exact ⟨hs, by omega⟩
      · omega
  · rw [if_neg ht]
    constructor
    · rintro ⟨-, hr⟩
      exact Or.inr ⟨by omega, hr⟩
    · rintro (⟨⟨-, hlt⟩, -⟩ | ⟨hle, hr⟩)
      · omega
      · exact ⟨fun s hs => by have := hstart s hs; omega, hr⟩

/-- The search through the stretches finds the earliest instant, or there is none. -/
theorem earliestFrom_spec {start : Option Int} {current : Int} {trs : List Transition}
    (hsorted : trs.Pairwise fun a b => a.instant < b.instant)
    (hstart : ∀ s ∈ start, ∀ tr ∈ trs, s < tr.instant) :
    match earliestFrom start current r trs with
    | some t => ShowsFrom start current r trs t ∧
        ∀ s, ShowsFrom start current r trs s → t ≤ s
    | none => ∀ s, ¬ShowsFrom start current r trs s := by
  induction trs generalizing start current with
  | nil =>
      have honly : ∀ t, ShowsFrom start current r [] t ↔
          start.all (· ≤ t) ∧ t = r.nanos - current := by
        intro t
        exact and_congr_right fun _ => by simp only [offsetFrom]; omega
      simp only [honly]
      by_cases hhere : start.all (· ≤ r.nanos - current)
      · have hfound : earliestFrom start current r [] = some (r.nanos - current) := if_pos hhere
        rw [hfound]
        exact ⟨⟨hhere, rfl⟩, fun s hs => Int.le_of_eq hs.2.symm⟩
      · have hfound : earliestFrom start current r [] = none := if_neg hhere
        rw [hfound]
        rintro s ⟨hs, rfl⟩
        exact hhere hs
  | cons tr rest ih =>
      obtain ⟨hfirst, hrest⟩ := List.pairwise_cons.mp hsorted
      have hcons : ∀ s, ShowsFrom start current r (tr :: rest) s ↔ _ := fun s =>
        showsFrom_cons_iff fun s hs => hstart s hs tr (by simp)
      simp only [hcons]
      by_cases hhere : start.all (· ≤ r.nanos - current) ∧ r.nanos - current < tr.instant
      · have hfound : earliestFrom start current r (tr :: rest) = some (r.nanos - current) :=
          if_pos hhere
        rw [hfound]
        refine ⟨Or.inl ⟨hhere, rfl⟩, ?_⟩
        rintro s (⟨-, rfl⟩ | ⟨hle, -⟩)
        · exact Int.le_refl _
        · have := all_le_iff.mp hle tr.instant rfl
          omega
      · have hfound : earliestFrom start current r (tr :: rest) =
            earliestFrom (some tr.instant) tr.offset r rest := if_neg hhere
        have hlater : ∀ s, (start.all (· ≤ s) ∧ s < tr.instant) ∧ s = r.nanos - current ∨
            ShowsFrom (some tr.instant) tr.offset r rest s ↔
              ShowsFrom (some tr.instant) tr.offset r rest s := by
          intro s
          apply or_iff_right
          rintro ⟨hin, rfl⟩
          exact hhere hin
        rw [hfound]
        simp only [hlater]
        exact ih hrest (by simpa using hfirst)

theorem showsFrom_none_iff : ShowsFrom none z.initial r z.transitions t ↔ z.reading t = r := by
  cases r
  simp [ShowsFrom, reading, offsetAt]

/-- The instant found for a reading is the earliest one that shows it, and a
reading for which none is found is never shown. -/
theorem earliest?_spec (h : z.WellFormed) (r : Reading) :
    match z.earliest? r with
    | some t => z.FirstShows r t
    | none => ∀ s, z.reading s ≠ r := by
  have hspec : match z.earliest? r with
      | some t => ShowsFrom none z.initial r z.transitions t ∧
          ∀ s, ShowsFrom none z.initial r z.transitions s → t ≤ s
      | none => ∀ s, ¬ShowsFrom none z.initial r z.transitions s :=
    earliestFrom_spec h.sorted (by simp)
  simp only [showsFrom_none_iff] at hspec
  cases hearliest : z.earliest? r with
  | none =>
      rw [hearliest] at hspec
      exact hspec
  | some t =>
      rw [hearliest] at hspec
      exact ⟨hspec.1, hspec.2⟩

/-! ### Back from readings to instants -/

/-- An instant within two days of what a counter holds lies in a supported year. -/
theorem supported_of_near {t s : Int} (hs : Counter.Fits s)
    (hlo : s - 2 * nanosPerDay < t) (hhi : t < s + 2 * nanosPerDay) :
    Reading.Supported ⟨t⟩ := by
  have hfirst : Date.dayNumber ⟨Date.firstYear, 1, 1⟩ = -96465292 := by decide
  have hlast : Date.dayNumber ⟨Date.lastYear + 1, 1, 1⟩ = 95026237 := by decide
  unfold Reading.Supported Date.Supported Reading.dayNumber
  rw [hfirst, hlast]
  simp only [Counter.Fits, Counter.least, Counter.greatest, nanosPerDay] at *
  omega

theorem instantOfSkipped_eq_ok (ht : z.instantOfSkipped r = .ok t) :
    Counter.Fits t ∧ t = r.nanos - z.offsetAt (r.nanos - nanosPerDay) := by
  unfold instantOfSkipped at ht
  dsimp only at ht
  split at ht
  · obtain ⟨hfits, rfl⟩ := Counter.require_eq_ok_iff.mp ht
    exact ⟨hfits, rfl⟩
  · cases ht

theorem fits_of_instantOf (ht : z.instantOf r = .ok t) : Counter.Fits t := by
  unfold instantOf at ht
  split at ht
  · obtain ⟨hfits, rfl⟩ := Counter.require_eq_ok_iff.mp ht
    exact hfits
  · exact (instantOfSkipped_eq_ok ht).1

/-- The instant of a reading is the earliest one that shows it. A reading that is
never shown takes the offset in force a day before. -/
theorem instantOf_spec (h : z.WellFormed) (ht : z.instantOf r = .ok t) :
    Counter.Fits t ∧ (z.FirstShows r t ∨
      (∀ s, z.reading s ≠ r) ∧ t = r.nanos - z.offsetAt (r.nanos - nanosPerDay)) := by
  have hspec := earliest?_spec h r
  unfold instantOf at ht
  cases hearliest : z.earliest? r with
  | none =>
      rw [supported?, hearliest] at ht
      rw [hearliest] at hspec
      obtain ⟨hfits, heq⟩ := instantOfSkipped_eq_ok ht
      exact ⟨hfits, Or.inr ⟨hspec, heq⟩⟩
  | some first =>
      rw [hearliest] at hspec
      have hshows : z.FirstShows r first := hspec
      by_cases hsupported : Reading.Supported ⟨first⟩
      · rw [supported?, hearliest, Option.filter_some, if_pos (by simpa using hsupported)] at ht
        obtain ⟨hfits, rfl⟩ := Counter.require_eq_ok_iff.mp ht
        exact ⟨hfits, Or.inl hshows⟩
      · -- A first instant outside the supported years lies too far from every counter.
        rw [supported?, hearliest, Option.filter_some, if_neg (by simpa using hsupported)] at ht
        obtain ⟨hfits, rfl⟩ := instantOfSkipped_eq_ok ht
        have hr : first + z.offsetAt first = r.nanos := congrArg Reading.nanos hshows.shows
        obtain ⟨hlo, hhi⟩ := h.offsetAt_inRange first
        obtain ⟨hlo', hhi'⟩ := h.offsetAt_inRange (r.nanos - nanosPerDay)
        exact absurd (supported_of_near hfits (by omega) (by omega)) hsupported

/-- The instant of a reading is less than a day from it on the common time line. -/
theorem instantOf_near (h : z.WellFormed) (ht : z.instantOf r = .ok t) :
    Counter.Fits t ∧ t - nanosPerDay < r.nanos ∧ r.nanos < t + nanosPerDay := by
  obtain ⟨hfits, hfirst | ⟨-, rfl⟩⟩ := instantOf_spec h ht
  · have hshows : t + z.offsetAt t = r.nanos := congrArg Reading.nanos hfirst.shows
    obtain ⟨hlo, hhi⟩ := h.offsetAt_inRange t
    exact ⟨hfits, by omega, by omega⟩
  · obtain ⟨hlo, hhi⟩ := h.offsetAt_inRange (r.nanos - nanosPerDay)
    exact ⟨hfits, by omega, by omega⟩

/-- The clock has come to a reading by an instant: it has shown it, or it never
does and would have come to it with the offset of the day before. -/
def Reached (z : Zone) (r : Reading) (t : Int) : Prop :=
  (∃ s ≤ t, z.reading s = r) ∨
    (∀ s, z.reading s ≠ r) ∧ r.nanos - z.offsetAt (r.nanos - nanosPerDay) ≤ t

theorem le_iff_reached {i : Int} (h : z.WellFormed) (hi : z.instantOf r = .ok i) :
    i ≤ t ↔ z.Reached r t := by
  rcases (instantOf_spec h hi).2 with hfirst | ⟨hnever, rfl⟩
  · constructor
    · intro hle
      exact Or.inl ⟨i, hle, hfirst.shows⟩
    · rintro (⟨s, hle, hs⟩ | ⟨hnever, -⟩)
      · exact Int.le_trans (hfirst.le_of_shows s hs) hle
      · exact absurd hfirst.shows (hnever i)
  · constructor
    · intro hle
      exact Or.inr ⟨hnever, hle⟩
    · rintro (⟨s, -, hs⟩ | ⟨-, hle⟩)
      · exact absurd hs (hnever s)
      · exact hle

/-- Where no offset changes within a day of a reading, the way back subtracts it. -/
theorem instantOf_eq_of_steady {offset : Int} (h : z.WellFormed) (ht : z.instantOf r = .ok t)
    (hsteady : ∀ s, r.nanos - nanosPerDay ≤ s → s ≤ r.nanos + nanosPerDay →
      z.offsetAt s = offset) :
    t = r.nanos - offset := by
  rcases (instantOf_spec h ht).2 with hfirst | ⟨-, rfl⟩
  · have hshows : t + z.offsetAt t = r.nanos := congrArg Reading.nanos hfirst.shows
    obtain ⟨hlo, hhi⟩ := h.offsetAt_inRange t
    have := hsteady t (by omega) (by omega)
    omega
  · rw [hsteady _ (Int.le_refl _) (by unfold nanosPerDay; omega)]

theorem offsetAt_of_transitions_eq_nil (h : z.transitions = []) (t : Int) :
    z.offsetAt t = z.initial := by
  rw [offsetAt, h]
  rfl

/-! ### Accepted zones -/

theorem wellFormed_fixed {offset : Int} (h : OffsetInRange offset) : (fixed offset).WellFormed :=
  ⟨List.Pairwise.nil, h, by simp [fixed]⟩

theorem offsetSeconds?_bounds {sign h₁ h₂ m₁ m₂ : Char} {seconds : Int}
    (h : offsetSeconds? sign h₁ h₂ m₁ m₂ = some seconds) :
    -86400 < seconds ∧ seconds < 86400 := by
  have hdigits : ∀ {a b : Char} {n : Int}, twoDigits? a b = some n → 0 ≤ n := by
    intro a b n hn
    unfold twoDigits? at hn
    split at hn
    · cases hn
      exact Int.natCast_nonneg _
    · cases hn
  unfold offsetSeconds? at h
  simp only [Option.bind_eq_bind, Option.bind_eq_some_iff] at h
  obtain ⟨hours, hh, minutes, hm, h⟩ := h
  have := hdigits hh
  have := hdigits hm
  split at h
  · cases h
  · split at h
    · cases h
      omega
    · split at h
      · cases h
        omega
      · cases h

theorem offsetOfChars?_bounds {cs : List Char} {seconds : Int}
    (h : offsetOfChars? cs = some seconds) : -86400 < seconds ∧ seconds < 86400 := by
  unfold offsetOfChars? at h
  split at h
  · exact offsetSeconds?_bounds h
  · exact offsetSeconds?_bounds h
  · exact offsetSeconds?_bounds h
  · cases h

variable [Database] {label : Option String}

/-- A label stands for a clock that never changes, or it is the name of a zone. -/
theorem fixed_or_named_of_ofLabel? (h : ofLabel? label = some z) :
    (∃ offset, OffsetInRange offset ∧ fixed offset = z) ∨
      ∃ name, Database.named? name = some z := by
  cases label with
  | none => exact .inl ⟨0, by decide, Option.some.inj h⟩
  | some s =>
      simp only [ofLabel?, ofText?] at h
      cases hoffset : offsetOfChars? s.toList with
      | some seconds =>
          rw [hoffset] at h
          have hbounds := offsetOfChars?_bounds hoffset
          refine .inl ⟨seconds * nanosPerSecond, ?_, Option.some.inj h⟩
          unfold OffsetInRange nanosPerDay nanosPerSecond
          omega
      | none =>
          rw [hoffset] at h
          exact .inr ⟨s, h⟩

/-- Every zone that a label stands for is well formed. -/
theorem wellFormed_of_ofLabel? (h : ofLabel? label = some z) : z.WellFormed := by
  rcases fixed_or_named_of_ofLabel? h with ⟨offset, hoffset, rfl⟩ | ⟨name, hname⟩
  · exact wellFormed_fixed hoffset
  · exact Database.wellFormed_of_named? hname

end Zone

end Cadence
