import Cadence.Segments
import Mathlib.Data.List.Sort

/-!
# Segments are the runs among the selected rows

The runs of a list are found from its end: each value either lengthens the run behind it or
opens one. A mask is taken into account by looking for runs of values and marks together and
keeping those whose mark selects them. Two selected rows have the same mark, so a run of both
is a run of equal values.
-/

namespace Cadence

namespace Segment

/-- Whether a row lies in a segment. -/
def Contains (s : Segment) (row : Nat) : Prop := s.first ≤ row ∧ row < s.stop

/-- Whether a mask selects a row. Without a mask every row is selected. -/
def Selects (mask : Option (List Cell)) (row : Nat) : Prop :=
  ∀ marks, mask = some marks → marks[row]? = some (.flag true)

/-- The segments are the runs of equal values among the selected rows, in their order. -/
structure AreRuns (values : List Cell) (selected : Nat → Prop) (segments : List Segment) :
    Prop where
  proper : ∀ s ∈ segments, s.first < s.stop
  ascending : segments.Pairwise fun s t => s.stop ≤ t.first
  covers : ∀ row, (∃ s ∈ segments, s.Contains row) ↔ row < values.length ∧ selected row
  uniform : ∀ s ∈ segments, ∀ i j, s.Contains i → s.Contains j → values[i]? = values[j]?
  maximal : ∀ s ∈ segments, ∀ t ∈ segments, s.stop = t.first →
    values[s.first]? ≠ values[t.first]?

theorem contains_first {s : Segment} (h : s.first < s.stop) : s.Contains s.first :=
  ⟨Nat.le_refl _, h⟩

/-! ### Runs of a list -/

section Runs

variable {α : Type} {start : Nat} {xs : List α} {out : List (α × Segment)}

/-- A list falls into runs, the first row having the number `start`: each run is a positive
number of equal values, and what follows it begins with another value. -/
inductive FallsInto : Nat → List α → List (α × Segment) → Prop
  | nil (start : Nat) : FallsInto start [] []
  | run {start length : Nat} {x : α} {rest : List α} {others : List (α × Segment)} :
      0 < length → rest.head? ≠ some x → FallsInto (start + length) rest others →
      FallsInto start (List.replicate length x ++ rest) ((x, ⟨start, start + length⟩) :: others)

theorem FallsInto.opens {x : α} (hnext : xs.head? ≠ some x) (h : FallsInto (start + 1) xs out) :
    FallsInto start (x :: xs) ((x, ⟨start, start + 1⟩) :: out) := by
  change FallsInto start (List.replicate 1 x ++ xs) _
  exact .run Nat.one_pos hnext h

theorem fallsInto_runs [DecidableEq α] (start : Nat) (xs : List α) :
    FallsInto start xs (runs start xs) := by
  induction xs generalizing start with
  | nil => exact .nil start
  | cons x xs ih =>
      have hrest := ih (start + 1)
      rw [runs]
      generalize runs (start + 1) xs = out at hrest
      cases hrest with
      | nil => exact .opens nofun (.nil _)
      | @run _ length y rest others hpos hnext hothers =>
          dsimp only
          split
          · next hxy =>
              subst hxy
              rw [Nat.add_assoc, Nat.add_comm 1] at hothers ⊢
              exact .run (Nat.succ_pos length) hnext hothers
          · next hxy =>
              refine .opens ?_ (.run hpos hnext hothers)
              obtain ⟨k, rfl⟩ := Nat.exists_eq_add_one.mpr hpos
              simpa [List.replicate_succ] using Ne.symm hxy

namespace FallsInto

variable (h : FallsInto start xs out)
include h

theorem bounds : ∀ run ∈ out,
    start ≤ run.2.first ∧ run.2.first < run.2.stop ∧ run.2.stop ≤ start + xs.length := by
  induction h with
  | nil => nofun
  | run hpos hnext hothers ih =>
      intro run hrun
      rw [List.length_append, List.length_replicate]
      rcases List.mem_cons.mp hrun with rfl | hrun
      · exact ⟨Nat.le_refl _, by dsimp only; omega, by dsimp only; omega⟩
      · have hbounds := ih run hrun
        omega

theorem ascending : out.Pairwise fun p q => p.2.stop ≤ q.2.first := by
  induction h with
  | nil => exact .nil
  | run hpos hnext hothers ih =>
      exact .cons (fun other hother => (hothers.bounds other hother).1) ih

/-- The rows of a run hold its value. -/
theorem getElem?_of_contains {run : α × Segment} (hrun : run ∈ out) {i : Nat}
    (hi : run.2.Contains (start + i)) : xs[i]? = some run.1 := by
  induction h generalizing i with
  | nil => cases hrun
  | @run start length x rest others hpos hnext hothers ih =>
      rw [List.getElem?_append, List.length_replicate]
      rcases List.mem_cons.mp hrun with rfl | hrun
      · have hlength : i < length := by
          have := hi.2
          dsimp only at this
          omega
        rw [if_pos hlength, List.getElem?_replicate_of_lt hlength]
      · have hbehind : length ≤ i := by
          have := (hothers.bounds run hrun).1
          have := hi.1
          omega
        rw [if_neg (Nat.not_lt.mpr hbehind)]
        apply ih hrun
        rwa [Nat.add_assoc, Nat.add_sub_cancel' hbehind]

theorem exists_contains {i : Nat} (hi : i < xs.length) :
    ∃ run ∈ out, run.2.Contains (start + i) := by
  induction h generalizing i with
  | nil => cases hi
  | @run start length x rest others hpos hnext hothers ih =>
      rw [List.length_append, List.length_replicate] at hi
      rcases Nat.lt_or_ge i length with hlength | hbehind
      · exact ⟨_, List.mem_cons_self, by dsimp only [Contains]; omega⟩
      · obtain ⟨run, hrun, hcontains⟩ := ih (i := i - length) (by omega)
        rw [Nat.add_assoc, Nat.add_sub_cancel' hbehind] at hcontains
        exact ⟨run, List.mem_cons_of_mem _ hrun, hcontains⟩

/-- The row behind a run does not hold its value. -/
theorem getElem?_stop_ne {run : α × Segment} (hrun : run ∈ out) {i : Nat}
    (hi : run.2.stop = start + i) : xs[i]? ≠ some run.1 := by
  induction h generalizing i with
  | nil => cases hrun
  | @run start length x rest others hpos hnext hothers ih =>
      rcases List.mem_cons.mp hrun with rfl | hrun
      · obtain rfl : length = i := by
          dsimp only at hi
          omega
        rwa [List.getElem?_append_right (by simp), List.length_replicate, Nat.sub_self,
          ← List.head?_eq_getElem?]
      · have hbehind : length ≤ i := by
          have := hothers.bounds run hrun
          omega
        rw [List.getElem?_append_right (by simpa using hbehind), List.length_replicate]
        apply ih hrun
        rw [hi, Nat.add_assoc, Nat.add_sub_cancel' hbehind]

end FallsInto

/-- Of the runs of some keys, those whose key is kept are the runs of the values of the kept
keys, as long as kept keys of one value are equal. -/
theorem areRuns_of_keys [DecidableEq α] (keys : List α) (keep : α → Bool) (value : α → Cell)
    (hvalue : ∀ a b, keep a = true → keep b = true → value a = value b → a = b) :
    AreRuns (keys.map value) (fun row => ∃ key, keys[row]? = some key ∧ keep key = true)
      (((runs 0 keys).filter fun run => keep run.1).map (·.2)) := by
  have hruns := fallsInto_runs 0 keys
  have hmem : ∀ {s}, s ∈ ((runs 0 keys).filter fun run => keep run.1).map (·.2) →
      ∃ run ∈ runs 0 keys, keep run.1 = true ∧ run.2 = s := by
    intro s hs
    obtain ⟨run, hrun, rfl⟩ := List.mem_map.mp hs
    rw [List.mem_filter] at hrun
    exact ⟨run, hrun.1, hrun.2, rfl⟩
  have hkey : ∀ {run : α × Segment} {row}, run ∈ runs 0 keys → run.2.Contains row →
      keys[row]? = some run.1 :=
    fun hrun hrow => hruns.getElem?_of_contains hrun (by rwa [Nat.zero_add])
  constructor
  case proper =>
    intro s hs
    obtain ⟨run, hrun, -, rfl⟩ := hmem hs
    exact (hruns.bounds run hrun).2.1
  case ascending => exact List.pairwise_map.mpr (hruns.ascending.filter _)
  case covers =>
    intro row
    rw [List.length_map]
    constructor
    · rintro ⟨s, hs, hrow⟩
      obtain ⟨run, hrun, hkeep, rfl⟩ := hmem hs
      have hkey := hkey hrun hrow
      exact ⟨(List.getElem?_eq_some_iff.mp hkey).1, run.1, hkey, hkeep⟩
    · rintro ⟨hrow, key, hget, hkeep⟩
      obtain ⟨run, hrun, hcontains⟩ := hruns.exists_contains hrow
      rw [Nat.zero_add] at hcontains
      cases hget.symm.trans (hkey hrun hcontains)
      exact ⟨run.2, List.mem_map_of_mem (List.mem_filter.mpr ⟨hrun, hkeep⟩), hcontains⟩
  case uniform =>
    intro s hs i j hi hj
    obtain ⟨run, hrun, -, rfl⟩ := hmem hs
    rw [List.getElem?_map, List.getElem?_map, hkey hrun hi, hkey hrun hj]
  case maximal =>
    intro s hs t ht hstop
    obtain ⟨run, hrun, hkeep, rfl⟩ := hmem hs
    obtain ⟨next, hnext, hkeep', rfl⟩ := hmem ht
    have hfirst := hkey hrun (contains_first (hruns.bounds run hrun).2.1)
    have hbehind := hkey hnext (contains_first (hruns.bounds next hnext).2.1)
    have hother := hruns.getElem?_stop_ne hrun (i := next.2.first) (by rw [hstop, Nat.zero_add])
    rw [List.getElem?_map, List.getElem?_map, hfirst, hbehind]
    intro heq
    have hsame := hvalue _ _ hkeep hkeep' (Option.some.inj heq)
    exact hother (hsame ▸ hbehind)

end Runs

/-! ### One list of runs -/

namespace AreRuns

variable {values : List Cell} {selected : Nat → Prop} {segments others : List Segment}
variable {s t : Segment}

theorem congr (h : AreRuns values selected segments) {selected' : Nat → Prop}
    (hsame : ∀ row < values.length, selected row ↔ selected' row) :
    AreRuns values selected' segments :=
  { h with
    covers := fun row => (h.covers row).trans (and_congr_right (hsame row)) }

theorem eq_or_apart (h : AreRuns values selected segments) (hs : s ∈ segments)
    (ht : t ∈ segments) : s = t ∨ s.stop ≤ t.first ∨ t.stop ≤ s.first :=
  List.Pairwise.forall_of_forall_of_flip
    (R := fun s t : Segment => s = t ∨ s.stop ≤ t.first ∨ t.stop ≤ s.first) (fun _ _ => .inl rfl)
    (h.ascending.imp fun hst => .inr (.inl hst)) (h.ascending.imp fun hts => .inr (.inr hts)) hs ht

section SharedRow

variable (h : AreRuns values selected segments) (h' : AreRuns values selected others)
variable (hs : s ∈ segments) (ht : t ∈ others) {row : Nat}
variable (hrow : s.Contains row) (hrow' : t.Contains row)
include h h' hs ht hrow hrow'

/-- Had the other run begun before, the row in front of this one would go on with its value. -/
theorem first_le : s.first ≤ t.first := by
  by_contra! hlt
  unfold Contains at hrow hrow'
  have hbefore : t.Contains (s.first - 1) := ⟨by omega, by omega⟩
  have hfirst : t.Contains s.first := ⟨by omega, by omega⟩
  obtain ⟨u, hu, hcontains⟩ := (h.covers _).mpr ((h'.covers _).mp ⟨t, ht, hbefore⟩)
  have hproper := h.proper u hu
  have hstop : u.stop = s.first := by
    unfold Contains at hcontains
    rcases h.eq_or_apart hu hs with rfl | hapart | hapart <;> omega
  apply h.maximal u hu s hs hstop
  rw [h.uniform u hu _ _ (contains_first hproper) hcontains, h'.uniform t ht _ _ hbefore hfirst]

/-- Had the other run ended after, the row behind this one would go on with its value. -/
theorem le_stop : t.stop ≤ s.stop := by
  by_contra! hlt
  have hproper := h.proper s hs
  have hbehind : t.Contains s.stop := ⟨by unfold Contains at *; omega, hlt⟩
  obtain ⟨u, hu, hcontains⟩ := (h.covers _).mpr ((h'.covers _).mp ⟨t, ht, hbehind⟩)
  have hstop : s.stop = u.first := by
    unfold Contains at hcontains
    rcases h.eq_or_apart hs hu with rfl | hapart | hapart <;> omega
  apply h.maximal s hs u hu hstop
  rw [h.uniform s hs _ _ (contains_first hproper) hrow, h'.uniform t ht _ _ hrow' hbehind, hstop]

end SharedRow

theorem subset (h : AreRuns values selected segments) (h' : AreRuns values selected others) :
    segments ⊆ others := by
  intro s hs
  have hfirst := contains_first (h.proper s hs)
  obtain ⟨t, ht, hcontains⟩ := (h'.covers _).mpr ((h.covers _).mp ⟨s, hs, hfirst⟩)
  have hsame : s.first = t.first ∧ s.stop = t.stop :=
    ⟨Nat.le_antisymm (first_le h h' hs ht hfirst hcontains)
      (first_le h' h ht hs hcontains hfirst),
      Nat.le_antisymm (le_stop h' h ht hs hcontains hfirst)
        (le_stop h h' hs ht hfirst hcontains)⟩
  cases s
  cases t
  simp only at hsame
  obtain ⟨rfl, rfl⟩ := hsame
  exact ht

/-- There is only one way to list the runs among selected rows. -/
theorem unique (h : AreRuns values selected segments) (h' : AreRuns values selected others) :
    segments = others := by
  have hordered : ∀ {list}, AreRuns values selected list →
      list.Pairwise fun s t : Segment => s.first < t.first := by
    intro list hlist
    apply hlist.ascending.imp_of_mem
    intro s t hs _ hst
    exact (hlist.proper s hs).trans_le hst
  have : Std.Irrefl fun s t : Segment => s.first < t.first := ⟨fun _ => Nat.lt_irrefl _⟩
  have : Std.Antisymm fun s t : Segment => s.first < t.first :=
    ⟨fun _ _ hst hts => absurd hts (Nat.lt_asymm hst)⟩
  exact List.Subset.antisymm_of_pairwise (hordered h) (hordered h') (h.subset h') (h'.subset h)

end AreRuns

/-! ### Segments of a column -/

variable {values marks : List Cell}

theorem areRuns_ofCells (values : List Cell) : AreRuns values (Selects none) (ofCells values) := by
  have h := areRuns_of_keys values (fun _ => true) id fun _ _ _ _ heq => heq
  rw [List.map_id, List.filter_true] at h
  refine h.congr fun row hrow => ?_
  exact iff_of_true ⟨_, List.getElem?_eq_getElem hrow, rfl⟩ nofun

theorem areRuns_ofMasked (hlength : marks.length = values.length) :
    AreRuns values (Selects (some marks)) (ofMasked values marks) := by
  have h := areRuns_of_keys (values.zip marks) (fun key => decide (key.2 = .flag true)) (·.1) ?_
  · rw [List.map_fst_zip hlength.ge] at h
    refine h.congr fun row hrow => ?_
    simp only [decide_eq_true_eq, Selects, Option.some.injEq, forall_eq', List.getElem?_zip_eq_some]
    constructor
    · rintro ⟨key, ⟨-, hmark⟩, hkey⟩
      exact hkey ▸ hmark
    · intro hmark
      exact ⟨(values[row], .flag true), ⟨List.getElem?_eq_getElem hrow, hmark⟩, rfl⟩
  · intro a b ha hb hvalue
    exact Prod.ext hvalue ((of_decide_eq_true ha).trans (of_decide_eq_true hb).symm)

theorem outcome_find_some (values marks : List Cell) :
    (find values (some marks)).outcome =
      if marks.length = values.length then .ok (ofMasked values marks)
      else .error (.data (.maskLength marks.length values.length)) := by
  dsimp only [find]
  split
  · exact Journaled.outcome_noting _ _
  · exact Journaled.outcome_fail _

theorem outcome_find_eq_error_iff {mask : Option (List Cell)} {e : Error} :
    (find values mask).outcome = .error e ↔
      ∃ marks, mask = some marks ∧ marks.length ≠ values.length ∧
        .data (.maskLength marks.length values.length) = e := by
  cases mask with
  | none => exact iff_of_false nofun nofun
  | some marks =>
      rw [outcome_find_some]
      simp only [Option.some.injEq, exists_eq_left']
      split
      · next hlength => exact iff_of_false nofun fun h => h.1 hlength
      · next hlength => rw [Except.error.injEq, and_iff_right hlength]

theorem exists_outcome_find (values : List Cell) (mask : Option (List Cell))
    (hmask : ∀ marks, mask = some marks → marks.length = values.length) :
    ∃ segments, (find values mask).outcome = .ok segments ∧
      AreRuns values (Selects mask) segments := by
  cases mask with
  | none => exact ⟨_, rfl, areRuns_ofCells values⟩
  | some marks =>
      have hlength := hmask marks rfl
      exact ⟨_, (outcome_find_some values marks).trans (if_pos hlength), areRuns_ofMasked hlength⟩

/-- A mask that selects every row is no mask. -/
theorem selects_iff_of_forall (hlength : marks.length = values.length)
    (hall : ∀ x ∈ marks, x = .flag true) {row : Nat} (hrow : row < values.length) :
    Selects (some marks) row ↔ Selects none row := by
  refine iff_of_true ?_ nofun
  rintro _ ⟨⟩
  have hmark : row < marks.length := hlength ▸ hrow
  rw [List.getElem?_eq_getElem hmark, hall _ (List.getElem_mem hmark)]

/-- Segments are refused exactly for a mask of another length. Otherwise they are the runs of
equal values among the selected rows, and there is only one list of these. A mask that selects
every row changes nothing. -/
theorem find_outcome (values : List Cell) (mask : Option (List Cell)) :
    (∀ e, (find values mask).outcome = .error e ↔
      ∃ marks, mask = some marks ∧ marks.length ≠ values.length ∧
        .data (.maskLength marks.length values.length) = e) ∧
    ((∀ marks, mask = some marks → marks.length = values.length) →
      ∃ segments, (find values mask).outcome = .ok segments ∧
        ∀ others, AreRuns values (Selects mask) others ↔ segments = others) ∧
    (∀ marks, marks.length = values.length → (∀ x ∈ marks, x = .flag true) →
      (find values (some marks)).outcome = (find values none).outcome) := by
  refine ⟨fun e => outcome_find_eq_error_iff, ?_, ?_⟩
  · intro hmask
    obtain ⟨segments, hfind, hruns⟩ := exists_outcome_find values mask hmask
    exact ⟨segments, hfind, fun others => ⟨hruns.unique, fun h => h ▸ hruns⟩⟩
  · intro marks hlength hall
    have hmask : ∀ marks', some marks = some marks' → marks'.length = values.length := by
      rintro _ ⟨⟩
      exact hlength
    obtain ⟨segments, hfind, hruns⟩ := exists_outcome_find values (some marks) hmask
    obtain ⟨others, hfind', hruns'⟩ := exists_outcome_find values none nofun
    rw [hfind, hfind', (hruns.congr fun row => selects_iff_of_forall hlength hall).unique hruns']

/-- A run of equal values is cut by a row that is not selected, and so is a run of nulls. -/
theorem find_outcome_cut :
    ∃ segments,
      (find [.int 1, .int 1, .int 1, .null, .null]
        (some [.flag true, .null, .flag true, .flag true, .flag false])).outcome = .ok segments ∧
      segments = [⟨0, 1⟩, ⟨2, 3⟩, ⟨3, 4⟩] ∧
      ∀ others, AreRuns [.int 1, .int 1, .int 1, .null, .null]
        (Selects (some [.flag true, .null, .flag true, .flag true, .flag false])) others ↔
          segments = others := by
  obtain ⟨segments, hfind, hruns⟩ := (find_outcome [.int 1, .int 1, .int 1, .null, .null]
    (some [.flag true, .null, .flag true, .flag true, .flag false])).2.1
    (by rintro _ ⟨⟩; rfl)
  refine ⟨segments, hfind, ?_, hruns⟩
  exact Except.ok.inj (hfind.symm.trans rfl)

end Segment

end Cadence
