import Cadence.Frequency
import Cadence.Proofs.Failure
import Mathlib.Algebra.Order.Monoid.Unbundled.Basic
import Mathlib.Data.Finset.Dedup
import Mathlib.Data.Finset.Card

/-!
# Different instants

The sampling interval of a series is read off its different instants, each taken once and in
order. So it does not matter in which order the instants come, how often one of them comes, or
whether all of them are moved together.
-/

namespace Cadence

/-! ### Repeated items -/

section Repeated

variable {α : Type} [DecidableEq α]

theorem eraseReps_loop (a : α) (l earlier : List α) :
    List.eraseRepsBy.loop (fun x y => x == y) a l earlier =
      earlier.reverse ++ (a :: l).eraseReps := by
  induction l generalizing a earlier with
  | nil => simp [List.eraseRepsBy.loop, List.eraseReps, List.eraseRepsBy]
  | cons b l ih =>
      change _ = earlier.reverse ++ List.eraseRepsBy.loop (fun x y => x == y) a (b :: l) []
      rw [List.eraseRepsBy.loop, List.eraseRepsBy.loop]
      by_cases heq : a = b
      · rw [beq_iff_eq.mpr heq]
        exact ih a earlier
      · rw [beq_eq_false_iff_ne.mpr heq]
        dsimp only
        rw [ih b (a :: earlier), ih b [a], List.reverse_cons, List.append_assoc]
        rfl

/-- Of two equal neighbours, one is left. -/
theorem eraseReps_cons_cons (a b : α) (l : List α) :
    (a :: b :: l).eraseReps = if a = b then (b :: l).eraseReps else a :: (b :: l).eraseReps := by
  change List.eraseRepsBy.loop (fun x y => x == y) a (b :: l) [] = _
  rw [List.eraseRepsBy.loop]
  by_cases heq : a = b
  · rw [beq_iff_eq.mpr heq, if_pos heq, ← heq]
    exact eraseReps_loop a l []
  · rw [beq_eq_false_iff_ne.mpr heq, if_neg heq]
    exact eraseReps_loop b l [a]

theorem mem_eraseReps {x : α} {l : List α} : x ∈ l.eraseReps ↔ x ∈ l := by
  induction l with
  | nil => exact Iff.rfl
  | cons a l ih =>
      cases l with
      | nil => exact Iff.rfl
      | cons b l =>
          rw [eraseReps_cons_cons]
          split
          · next heq =>
              rw [ih, heq]
              simp
          · rw [List.mem_cons, ih, ← List.mem_cons]

end Repeated

theorem pairwise_eraseReps {l : List Int} (h : l.Pairwise (· ≤ ·)) :
    l.eraseReps.Pairwise (· < ·) := by
  induction l with
  | nil => exact .nil
  | cons a l ih =>
      cases l with
      | nil => exact List.pairwise_singleton _ _
      | cons b l =>
          rw [List.pairwise_cons] at h
          rw [eraseReps_cons_cons]
          split
          · exact ih h.2
          · next hne =>
              refine List.pairwise_cons.mpr ⟨?_, ih h.2⟩
              intro x hx
              have hab := h.1 b List.mem_cons_self
              rcases List.mem_cons.mp (mem_eraseReps.mp hx) with rfl | hx
              · omega
              · have hbx := (List.pairwise_cons.mp h.2).1 x hx
                omega

namespace Frequency

variable {numbers others instants times : List Int} {x s t d : Int}

/-! ### Different numbers -/

theorem mem_distinct : x ∈ distinct numbers ↔ x ∈ numbers := by
  rw [distinct, mem_eraseReps, List.mem_mergeSort]

theorem mem_iff_mem_distinct (numbers : List Int) : x ∈ numbers ↔ x ∈ distinct numbers :=
  mem_distinct.symm

theorem pairwise_distinct (numbers : List Int) : (distinct numbers).Pairwise (· < ·) := by
  apply pairwise_eraseReps
  have hsorted : (numbers.mergeSort fun a b => a ≤ b).Pairwise fun a b => decide (a ≤ b) := by
    apply List.pairwise_mergeSort
    · intro a b c hab hbc
      simp only [decide_eq_true_eq] at *
      exact hab.trans hbc
    · intro a b
      simp only [Bool.or_eq_true, decide_eq_true_eq]
      exact Int.le_total a b
  exact hsorted.imp of_decide_eq_true

theorem nodup_distinct (numbers : List Int) : (distinct numbers).Nodup :=
  (pairwise_distinct numbers).imp ne_of_lt

/-- The different numbers in order are the only ascending list of them. -/
theorem distinct_eq_iff :
    distinct numbers = others ↔ others.Pairwise (· < ·) ∧ ∀ x, x ∈ others ↔ x ∈ numbers := by
  constructor
  · rintro rfl
    exact ⟨pairwise_distinct numbers, fun x => mem_distinct⟩
  · rintro ⟨hordered, hmem⟩
    have hperm : (distinct numbers).Perm others := by
      rw [List.perm_ext_iff_of_nodup (nodup_distinct _) (hordered.imp ne_of_lt)]
      intro x
      rw [mem_distinct, hmem]
    apply List.Perm.eq_of_pairwise _ (pairwise_distinct _) hordered hperm
    intro a b _ _ hab hba
    omega

theorem length_distinct (numbers : List Int) :
    (distinct numbers).length = numbers.toFinset.card := by
  have hmem : (distinct numbers).toFinset = numbers.toFinset := by
    ext x
    rw [List.mem_toFinset, List.mem_toFinset, mem_distinct]
  rw [← hmem, List.toFinset_card_of_nodup (nodup_distinct numbers)]

/-- Numbers that are not all one number hold two different ones. -/
theorem exists_ne_of_distinct (hne : numbers ≠ []) (h : ∀ n, distinct numbers ≠ [n]) :
    ∃ c ∈ numbers, ∃ d ∈ numbers, c ≠ d := by
  have hmem : ∀ x, x ∈ distinct numbers → x ∈ numbers := fun x => mem_distinct.mp
  have hordered := pairwise_distinct numbers
  cases hdistinct : distinct numbers with
  | nil =>
      obtain ⟨x, hx⟩ := List.exists_mem_of_ne_nil _ hne
      have hx := mem_distinct.mpr hx
      rw [hdistinct] at hx
      cases hx
  | cons c rest =>
      cases rest with
      | nil => exact absurd hdistinct (h c)
      | cons d rest =>
          rw [hdistinct] at hmem hordered
          have hlt := (List.pairwise_cons.mp hordered).1 d List.mem_cons_self
          exact ⟨c, hmem c List.mem_cons_self, d, hmem d (by simp), ne_of_lt hlt⟩

theorem distinct_map {f : Int → Int} (hf : ∀ a b, f a ≤ f b ↔ a ≤ b) (numbers : List Int) :
    distinct (numbers.map f) = (distinct numbers).map f := by
  refine distinct_eq_iff.mpr ⟨List.pairwise_map.mpr ?_, fun x => ?_⟩
  · apply (pairwise_distinct numbers).imp
    intro a b hlt
    exact Int.not_le.mp fun hle => Int.not_le.mpr hlt ((hf b a).mp hle)
  · simp only [List.mem_map, mem_distinct]

/-! ### Gaps -/

/-- A distance between neighbours among some instants. -/
def IsGap (instants : List Int) (d : Int) : Prop :=
  ∃ s ∈ instants, ∃ t ∈ instants, s < t ∧ (∀ u ∈ instants, u ≤ s ∨ t ≤ u) ∧ t - s = d

theorem isGap_congr (h : ∀ x, x ∈ numbers ↔ x ∈ others) : IsGap numbers d ↔ IsGap others d := by
  simp only [IsGap, h]

theorem mem_zip_tail_iff (h : times.Pairwise (· < ·)) : (s, t) ∈ times.zip times.tail ↔
    s ∈ times ∧ t ∈ times ∧ s < t ∧ ∀ u ∈ times, u ≤ s ∨ t ≤ u := by
  induction times with
  | nil => simp
  | cons a times ih =>
      cases times with
      | nil =>
          simp only [List.tail_cons, List.zip_nil_right, List.not_mem_nil, List.mem_singleton,
            false_iff]
          omega
      | cons b times =>
          obtain ⟨ha, hb⟩ := List.pairwise_cons.mp h
          have hab := ha b List.mem_cons_self
          rw [List.tail_cons, List.zip_cons_cons, List.mem_cons, Prod.mk.injEq]
          change (s = a ∧ t = b) ∨ (s, t) ∈ (b :: times).zip (b :: times).tail ↔ _
          rw [ih hb]
          constructor
          · rintro (⟨rfl, rfl⟩ | ⟨hs, ht, hlt, hbetween⟩)
            · refine ⟨List.mem_cons_self, List.mem_cons_of_mem _ List.mem_cons_self, hab, ?_⟩
              intro u hu
              rcases List.mem_cons.mp hu with rfl | hu
              · exact .inl le_rfl
              · rcases List.mem_cons.mp hu with rfl | hu
                · exact .inr le_rfl
                · exact .inr ((List.pairwise_cons.mp hb).1 u hu).le
            · refine ⟨List.mem_cons_of_mem _ hs, List.mem_cons_of_mem _ ht, hlt, ?_⟩
              intro u hu
              rcases List.mem_cons.mp hu with rfl | hu
              · exact .inl (ha s hs).le
              · exact hbetween u hu
          · rintro ⟨hs, ht, hlt, hbetween⟩
            have hnext : t ∈ b :: times := by
              rcases List.mem_cons.mp ht with rfl | ht
              · rcases List.mem_cons.mp hs with rfl | hs
                · exact absurd hlt (lt_irrefl _)
                · exact absurd (ha s hs) (not_lt_of_gt hlt)
              · exact ht
            rcases List.mem_cons.mp hs with rfl | hs
            · -- Nothing comes between the first instant and its neighbour.
              refine .inl ⟨rfl, ?_⟩
              have hle : t ≤ b := by
                rcases hbetween b (by simp) with hle | hle
                · omega
                · exact hle
              rcases List.mem_cons.mp hnext with heq | hlater
              · exact heq
              · have := (List.pairwise_cons.mp hb).1 t hlater
                omega
            · exact .inr ⟨hs, hnext, hlt, fun u hu => hbetween u (List.mem_cons_of_mem _ hu)⟩

/-- The distances of neighbours are taken from the different instants in order. -/
theorem isGap_iff : IsGap instants d ↔
    ∃ pair ∈ (distinct instants).zip (distinct instants).tail, pair.2 - pair.1 = d := by
  rw [isGap_congr fun x => mem_distinct.symm]
  constructor
  · rintro ⟨s, hs, t, ht, hlt, hbetween, hd⟩
    exact ⟨(s, t), (mem_zip_tail_iff (pairwise_distinct instants)).mpr ⟨hs, ht, hlt, hbetween⟩, hd⟩
  · rintro ⟨⟨s, t⟩, hmem, hd⟩
    obtain ⟨hs, ht, hlt, hbetween⟩ := (mem_zip_tail_iff (pairwise_distinct instants)).mp hmem
    exact ⟨s, hs, t, ht, hlt, hbetween, hd⟩

theorem failsOnly_gaps (instants : List Int) :
    FailsOnly (fun e => e = .overflow ∧ ∃ d, IsGap instants d ∧ ¬Counter.Fits d)
      (gaps (distinct instants)) :=
  FailsOnly.mapM fun pair hpair =>
    FailsOnly.require fun hfits => ⟨rfl, _, isGap_iff.mpr ⟨pair, hpair, rfl⟩, hfits⟩

theorem isGap_of_mem_gaps {found : List Int} (h : gaps (distinct instants) = .ok found)
    (hd : d ∈ found) : IsGap instants d := by
  obtain ⟨pair, hpair, hfits⟩ := exists_of_mapM_eq_ok h hd
  exact isGap_iff.mpr ⟨pair, hpair, (Counter.require_eq_ok_iff.mp hfits).2⟩

theorem length_gaps {found : List Int} (h : gaps times = .ok found) :
    found.length = times.length - 1 := by
  rw [← (mapM_eq_ok_iff.mp h).length_eq, List.length_zip, List.length_tail]
  omega

/-- There are too few different instants to tell an interval, or their gaps are to agree and do
not. -/
def IsAmbiguous (detection : Detection) (instants : List Int) : Prop :=
  instants.toFinset.card < 2 ∨
    detection = .exact ∧ ∃ c d, IsGap instants c ∧ IsGap instants d ∧ c ≠ d

theorem isAmbiguous_congr {detection : Detection} (h : ∀ x, x ∈ numbers ↔ x ∈ others) :
    IsAmbiguous detection numbers ↔ IsAmbiguous detection others := by
  have hcard : numbers.toFinset = others.toFinset := by
    ext x
    rw [List.mem_toFinset, List.mem_toFinset, h]
  simp only [IsAmbiguous, hcard, isGap_congr h]

/-- A series has no interval when its instants are ambiguous, or when a counter cannot hold a
gap. -/
theorem failsOnly_ofInstants (detection : Detection) (instants : List Int) :
    FailsOnly (fun e =>
        e.kind = .ambiguousFrequency ∧ IsAmbiguous detection instants ∨
        e = .overflow ∧ ∃ d, IsGap instants d ∧ ¬Counter.Fits d)
      (ofInstants detection instants) := by
  intro e h
  rw [ofInstants] at h
  dsimp only at h
  split at h
  · next hfew =>
      cases h
      exact .inl ⟨rfl, .inl (length_distinct instants ▸ hfew)⟩
  · next hmany =>
      rcases bind_eq_error_iff.mp h with h | ⟨found, hfound, h⟩
      · exact .inr (failsOnly_gaps instants e h)
      · cases detection with
        | mode | max => cases h
        | exact =>
            rw [choose] at h
            split at h
            · cases h
            · next huneven =>
                cases h
                have hlength := length_gaps hfound
                have hne : found ≠ [] := fun hnil => by
                  rw [hnil, List.length_nil] at hlength
                  omega
                obtain ⟨c, hc, d, hd, hcd⟩ := exists_ne_of_distinct hne huneven
                exact .inl ⟨rfl, .inr ⟨rfl, c, d, isGap_of_mem_gaps hfound hc,
                  isGap_of_mem_gaps hfound hd, hcd⟩⟩

/-- Instants that are moved together keep their distances. -/
theorem gaps_map_sub (instants : List Int) (n : Int) :
    gaps (instants.map (· - n)) = gaps instants := by
  rw [gaps, gaps, ← List.map_tail, List.zip_map, List.mapM_map]
  congr 1
  funext p
  simp only [Function.comp_apply, Prod.map]
  congr 1
  omega

theorem ofInstants_map_sub (detection : Detection) (instants : List Int) (n : Int) :
    ofInstants detection (instants.map (· - n)) = ofInstants detection instants := by
  have horder : ∀ a b, a - n ≤ b - n ↔ a ≤ b := fun a b => by omega
  simp only [ofInstants, distinct_map horder, List.length_map, gaps_map_sub]

end Frequency

end Cadence
