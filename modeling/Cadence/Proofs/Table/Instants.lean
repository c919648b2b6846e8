import Cadence.Proofs.Outcome
import Cadence.TimeAxis
import Cadence.Zone.Table

/-!
# Instants of timestamps

A column of timestamps is read in nanoseconds. Missing values are looked for before the
conversion, which leaves an empty slot where a counter cannot hold the nanoseconds, and the
slots are then read as they are. So a column is never refused for the size of its timestamps:
each of them gives its own instant, or else the instant zero.
-/

namespace Cadence

/-- A timestamp column without missing values holds numbers only. -/
theorem Column.exists_int_of_timestamp {c : Column} {resolution : Resolution}
    {zone : Option String} (htype : c.type = .timestamp resolution zone) (hnulls : c.nullCount = 0) :
    ∀ x ∈ c.cells, ∃ n, x = .int n := by
  intro x hx
  have hfits := c.fits x hx
  rw [htype] at hfits
  rw [Column.nullCount, if_neg (by rw [htype]; nofun), List.countP_eq_zero] at hnulls
  cases x with
  | int n => exact ⟨n, rfl⟩
  | null => exact absurd rfl (hnulls _ hx)
  | _ => cases hfits

namespace TimeAxis

theorem ofTimestamp_eq (resolution : Resolution) (n : Int) :
    ofTimestamp resolution n =
      if Counter.Fits (n * resolution.nanos) then n * resolution.nanos else 0 := by
  unfold ofTimestamp Counter.fit?
  split <;> rfl

/-- Zero fits a counter, so a timestamp that does not fit is never read as its own instant. -/
theorem ofTimestamp_eq_iff {resolution : Resolution} {n : Int} :
    ofTimestamp resolution n = n * resolution.nanos ↔ Counter.Fits (n * resolution.nanos) := by
  rw [ofTimestamp_eq]
  split
  · next hfits => exact iff_of_true rfl hfits
  · next hfits =>
      refine iff_of_false ?_ hfits
      intro hzero
      rw [← hzero] at hfits
      exact hfits (by decide)

variable {t : Table} {name : String} {c : Column} {resolution : Resolution} {zone : Option String}

/-- Reading timestamps can fail at the zone only. -/
theorem ofTable_timestamp [Zone.Database] (hcolumn : t.column? name = some c)
    (htype : c.type = .timestamp resolution zone) (hnulls : c.nullCount = 0) :
    ofTable t name = (Zone.ofLabel? zone).elim (.error (.data .unknownZone)) fun z =>
      .ok ⟨c.cells.map fun x => ofTimestamp resolution x.slot, z, zone⟩ := by
  rw [ofTable, hcolumn]
  dsimp only
  rw [ofColumn, if_pos (by rw [htype]; rfl), if_neg (by omega), instantsOf, htype]
  change zoneOf zone >>= _ = _
  rw [zoneOf]
  cases Zone.ofLabel? zone <;> rfl

/-- A column of timestamps is read as soon as its zone is known. Each row then has the instant of
its timestamp, or zero where no counter holds that instant; all of them are right exactly when
all of them fit. -/
theorem ofTable_timestamp_exact_iff [Zone.Database] (hcolumn : t.column? name = some c)
    (htype : c.type = .timestamp resolution zone) (hnulls : c.nullCount = 0) :
    ((∃ axis, ofTable t name = .ok axis) ↔ (Zone.ofLabel? zone).isSome) ∧
    (∀ e, ofTable t name = .error e → e.kind = .dataFormat) ∧
    ∀ axis, ofTable t name = .ok axis →
      (∀ (row : Nat) n, c.cells[row]? = some (.int n) →
        axis.instants[row]? = some
          (if Counter.Fits (n * resolution.nanos) then n * resolution.nanos else 0)) ∧
      (axis.instants = c.cells.map (fun x => x.slot * resolution.nanos) ↔
        ∀ n, .int n ∈ c.cells → Counter.Fits (n * resolution.nanos)) := by
  rw [ofTable_timestamp hcolumn htype hnulls]
  cases Zone.ofLabel? zone with
  | none =>
      refine ⟨by simp, ?_, nofun⟩
      intro e he
      cases he
      rfl
  | some z =>
      refine ⟨by simp, nofun, ?_⟩
      intro axis haxis
      cases haxis
      constructor
      · intro row n hcell
        rw [List.getElem?_map, hcell, Option.map_some, Cell.slot, ofTimestamp_eq]
      · rw [List.map_inj_left]
        constructor
        · intro hexact n hn
          exact ofTimestamp_eq_iff.mp (hexact _ hn)
        · intro hfits x hx
          obtain ⟨n, rfl⟩ := Column.exists_int_of_timestamp htype hnulls x hx
          exact ofTimestamp_eq_iff.mpr (hfits n hx)

/-- The last second that a counter of nanoseconds holds keeps its instant, and the next does not. -/
theorem ofTable_timestamp_exact_iff_seconds :
    let c : Column :=
      ⟨⟨"ts", .timestamp .second none, false⟩, [.int 9223372036, .int 9223372037], by decide⟩
    let t : Table := ⟨2, [c], by decide⟩
    c.nullCount = 0 ∧ ∃ axis, ofTable t "ts" = .ok axis ∧
      axis.instants[0]? = some 9223372036000000000 ∧ axis.instants[1]? = some 0 := by
  intro c t
  have hnulls : c.nullCount = 0 := by decide
  obtain ⟨hread, -, hinstants⟩ :=
    ofTable_timestamp_exact_iff (show t.column? "ts" = some c from rfl) rfl hnulls
  obtain ⟨axis, haxis⟩ := hread.mpr rfl
  have hrows := (hinstants axis haxis).1
  exact ⟨hnulls, axis, haxis, hrows 0 9223372036 rfl, hrows 1 9223372037 rfl⟩

/-- A second past the range of nanoseconds is read without an error, as the instant zero. -/
theorem ofTable_timestamp_past_range :
    let c : Column := ⟨⟨"ts", .timestamp .second none, false⟩, [.int 9223372037], by decide⟩
    let t : Table := ⟨1, [c], by decide⟩
    c.nullCount = 0 ∧ Counter.Fits 9223372037 ∧
      ofTable t "ts" = .ok ⟨[0], .fixed 0, none⟩ ∧ 9223372037 * Resolution.second.nanos ≠ 0 := by
  decide

end TimeAxis

end Cadence
