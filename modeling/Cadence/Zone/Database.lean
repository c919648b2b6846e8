import Cadence.Numeric.Counter
import Cadence.Zone.Basic

/-! # Zone databases

Names of zones are looked up in a database. Whatever zones it holds, their clocks keep two
laws: an offset is less than a day, and two changes of it lie two days apart. All that is
said about readings and windows rests on these laws and not on a table. -/

namespace Cadence.Zone

/-- An offset of less than a day in either direction. -/
def OffsetInRange (offset : Int) : Prop := -nanosPerDay < offset ∧ offset < nanosPerDay

instance (offset : Int) : Decidable (OffsetInRange offset) :=
  inferInstanceAs (Decidable (_ ∧ _))

/-- Changes come in time order, and every offset is less than a day. -/
structure WellFormed (z : Zone) : Prop where
  sorted : z.transitions.Pairwise fun a b => a.instant < b.instant
  initial_inRange : OffsetInRange z.initial
  offset_inRange : ∀ tr ∈ z.transitions, OffsetInRange tr.offset

/-- No change comes within two days after another one, and counters can hold these two days. -/
structure Spaced (z : Zone) : Prop where
  apart : z.transitions.Pairwise fun a b => a.instant + 2 * nanosPerDay ≤ b.instant
  fits : ∀ tr ∈ z.transitions,
    Counter.Fits tr.instant ∧ Counter.Fits (tr.instant + 2 * nanosPerDay)

/-- What the names of zones stand for. -/
class Database where
  named? : String → Option Zone
  wellFormed_of_named? : ∀ {name z}, named? name = some z → z.WellFormed
  spaced_of_named? : ∀ {name z}, named? name = some z → z.Spaced

/-! ### Checking the laws -/

/-- Each change with the next one. -/
def neighbours (trs : List Transition) : List (Transition × Transition) := trs.zip trs.tail

/-- Changes that keep a distance to their neighbours keep it to all others. -/
theorem pairwise_iff_neighbours {gap : Int} (hgap : 0 ≤ gap) {trs : List Transition} :
    trs.Pairwise (fun a b => a.instant + gap ≤ b.instant) ↔
      ∀ p ∈ neighbours trs, p.1.instant + gap ≤ p.2.instant := by
  induction trs with
  | nil => simp [neighbours]
  | cons a rest ih =>
      cases rest with
      | nil => simp [neighbours]
      | cons b rest =>
          rw [List.pairwise_cons, ih]
          simp only [neighbours, List.tail_cons, List.zip_cons_cons, List.forall_mem_cons]
          constructor
          · rintro ⟨⟨hb, -⟩, hrest⟩
            exact ⟨hb, hrest⟩
          · rintro ⟨hb, hrest⟩
            refine ⟨⟨hb, fun c hc => ?_⟩, hrest⟩
            have hbc := (List.pairwise_cons.mp (ih.mpr hrest)).1 c hc
            omega

theorem wellFormed_iff {z : Zone} :
    z.WellFormed ↔ (∀ p ∈ neighbours z.transitions, p.1.instant + 1 ≤ p.2.instant) ∧
      OffsetInRange z.initial ∧ ∀ tr ∈ z.transitions, OffsetInRange tr.offset := by
  rw [← pairwise_iff_neighbours (by decide)]
  exact ⟨fun h => ⟨h.sorted, h.initial_inRange, h.offset_inRange⟩, fun h => ⟨h.1, h.2.1, h.2.2⟩⟩

instance (z : Zone) : Decidable z.WellFormed := decidable_of_iff' _ wellFormed_iff

theorem spaced_iff {z : Zone} :
    z.Spaced ↔ (∀ p ∈ neighbours z.transitions, p.1.instant + 2 * nanosPerDay ≤ p.2.instant) ∧
      ∀ tr ∈ z.transitions,
        Counter.Fits tr.instant ∧ Counter.Fits (tr.instant + 2 * nanosPerDay) := by
  rw [← pairwise_iff_neighbours (by decide)]
  exact ⟨fun h => ⟨h.apart, h.fits⟩, fun h => ⟨h.1, h.2⟩⟩

instance (z : Zone) : Decidable z.Spaced := decidable_of_iff' _ spaced_iff

end Cadence.Zone
