import Cadence.Proofs.Frequency
import Cadence.TimeAxis
import Cadence.Zone.Table
import Mathlib.Data.List.Induction
import Mathlib.Data.List.Zip
import Mathlib.Order.Bounds.Basic
import Mathlib.Tactic.Ring

/-!
# Sampling intervals

The interval of a series is chosen among its gaps, the distances from each of its instants to the
next one. What is chosen is told of the instants themselves, whatever their order: evenly spaced
instants are the members of a progression, the most frequent gap follows more instants than any
other one, and a gap that is chosen is the distance of two different instants. Gaps that no
counter can hold are the only ones that cannot be chosen from.
-/

namespace Cadence.Frequency

variable {numbers instants others times found candidates : List Int}
variable {detection : Detection} {c d : Int}

/-! ### What can be chosen -/

/-- The instants are the first ones of a progression, in any order and number. -/
def IsProgression (instants : List Int) (d : Int) : Prop :=
  0 < d ∧ ∃ (first : Int) (n : Nat), ∀ x, x ∈ instants ↔ ∃ k : Nat, k < n ∧ x = first + k * d

/-- The instants that the next one follows at a distance. -/
def followed (instants : List Int) (d : Int) : Finset Int :=
  instants.toFinset.filter fun s => s + d ∈ instants ∧ ∀ u ∈ instants, u ≤ s ∨ s + d ≤ u

/-- No gap follows more instants, and none that follows as many is less. -/
def IsMostFrequent (instants : List Int) (d : Int) : Prop :=
  IsGap instants d ∧ ∀ c, IsGap instants c →
    (followed instants c).card ≤ (followed instants d).card ∧
      ((followed instants c).card = (followed instants d).card → d ≤ c)

/-- What a way of detection chooses of a series. -/
def Chooses : Detection → List Int → Int → Prop
  | .exact, instants, d => IsProgression instants d
  | .mode, instants, d => IsMostFrequent instants d
  | .max, instants, d => IsGreatest {d | IsGap instants d} d

theorem IsGap.pos (h : IsGap instants d) : 0 < d := by
  obtain ⟨s, -, t, -, hlt, -, rfl⟩ := h
  omega

theorem IsGap.fits_iff (h : IsGap instants d) : Counter.Fits d ↔ d ≤ Counter.greatest :=
  Counter.fits_iff_of_nonneg h.pos.le

/-- There is a gap exactly where there are two different instants. -/
theorem exists_isGap_iff : (∃ d, IsGap instants d) ↔ 2 ≤ instants.toFinset.card := by
  rw [← length_distinct]
  simp only [isGap_iff]
  constructor
  · rintro ⟨_, pair, hpair, -⟩
    have := List.length_pos_of_mem hpair
    rw [List.length_zip, List.length_tail] at this
    omega
  · intro h
    have hlength : 0 < ((distinct instants).zip (distinct instants).tail).length := by
      rw [List.length_zip, List.length_tail]
      omega
    exact ⟨_, _, List.getElem_mem hlength, rfl⟩

/-! ### Even spacing -/

/-- Instants one after the other, each as far from the one before. -/
theorem mem_iff_of_spaced {a : Int} {rest : List Int}
    (h : ∀ pair ∈ (a :: rest).zip rest, pair.2 - pair.1 = d) (x : Int) :
    x ∈ a :: rest ↔ ∃ k : Nat, k < rest.length + 1 ∧ x = a + k * d := by
  induction rest generalizing a with
  | nil =>
      rw [List.mem_singleton]
      constructor
      · rintro rfl
        exact ⟨0, Nat.one_pos, by simp⟩
      · rintro ⟨k, hk, rfl⟩
        obtain rfl : k = 0 := by simpa using hk
        simp
  | cons b rest ih =>
      rw [List.zip_cons_cons, List.forall_mem_cons] at h
      obtain ⟨hb, hrest⟩ := h
      have hb : b = a + d := by
        dsimp only at hb
        omega
      rw [List.mem_cons, ih hrest, hb]
      constructor
      · rintro (rfl | ⟨k, hk, rfl⟩)
        · exact ⟨0, Nat.succ_pos _, by simp⟩
        · exact ⟨k + 1, Nat.succ_lt_succ hk, by push_cast; ring⟩
      · rintro ⟨k, hk, rfl⟩
        cases k with
        | zero => exact .inl (by simp)
        | succ k => exact .inr ⟨k, Nat.lt_of_succ_lt_succ hk, by push_cast; ring⟩

/-- A progression has no other gap than its difference. -/
theorem IsProgression.eq_of_isGap (h : IsProgression instants d) (hc : IsGap instants c) :
    c = d := by
  obtain ⟨hd, first, n, hmem⟩ := h
  obtain ⟨s, hs, t, ht, hlt, hbetween, rfl⟩ := hc
  obtain ⟨k, hk, rfl⟩ := (hmem s).mp hs
  obtain ⟨l, hl, rfl⟩ := (hmem t).mp ht
  have hkl : k < l := by
    by_contra hle
    have : (l : Int) * d ≤ k * d :=
      Int.mul_le_mul_of_nonneg_right (by exact_mod_cast Nat.not_lt.mp hle) hd.le
    omega
  -- The member after `s` does not come before `t`, which is as late at least.
  have hnext := hbetween (first + (k + 1 : Nat) * d) ((hmem _).mpr ⟨k + 1, by omega, rfl⟩)
  have hstep : ((k + 1 : Nat) : Int) * d = k * d + d := by push_cast; ring
  have hle : ((k + 1 : Nat) : Int) * d ≤ l * d :=
    Int.mul_le_mul_of_nonneg_right (by exact_mod_cast hkl) hd.le
  omega

/-- Instants are evenly spaced exactly when they have no two different gaps. -/
theorem isProgression_iff (hmany : 2 ≤ instants.toFinset.card) :
    IsProgression instants d ↔ IsGap instants d ∧ ∀ c, IsGap instants c → c = d := by
  obtain ⟨gap, hgap⟩ := exists_isGap_iff.mpr hmany
  constructor
  · intro h
    exact ⟨h.eq_of_isGap hgap ▸ hgap, fun c => h.eq_of_isGap⟩
  · rintro ⟨hd, hall⟩
    refine ⟨hd.pos, ?_⟩
    have hspaced : ∀ pair ∈ (distinct instants).zip (distinct instants).tail,
        pair.2 - pair.1 = d := fun pair hpair => hall _ (isGap_iff.mpr ⟨pair, hpair, rfl⟩)
    simp only [mem_iff_mem_distinct instants]
    cases hdistinct : distinct instants with
    | nil =>
        rw [← length_distinct, hdistinct] at hmany
        exact absurd hmany (by simp)
    | cons a rest =>
        rw [hdistinct] at hspaced
        exact ⟨a, rest.length + 1, mem_iff_of_spaced hspaced⟩

/-! ### Gaps in their order -/

/-- The distances between neighbours, of any size. -/
def spacings (times : List Int) : List Int := (times.zip times.tail).map fun p => p.2 - p.1

theorem mem_spacings_iff : d ∈ spacings (distinct instants) ↔ IsGap instants d := by
  rw [spacings, List.mem_map, isGap_iff]

theorem gaps_eq_ok (h : ∀ d ∈ spacings times, Counter.Fits d) :
    gaps times = .ok (spacings times) := by
  rw [gaps, spacings, mapM_eq_ok_iff, List.forall₂_map_right_iff, List.forall₂_same]
  intro pair hpair
  exact Counter.require_eq_ok_iff.mpr ⟨h _ (List.mem_map_of_mem hpair), rfl⟩

/-- A gap is counted once for each instant that it follows. -/
theorem count_spacings (instants : List Int) (d : Int) (hd : 0 < d) :
    (spacings (distinct instants)).count d = (followed instants d).card := by
  let pairs := ((distinct instants).zip (distinct instants).tail).filter fun p => p.2 - p.1 = d
  have hcount : (spacings (distinct instants)).count d = pairs.length := by
    rw [spacings, List.count, List.countP_map, List.countP_eq_length_filter]
    rfl
  have hzip : ((distinct instants).zip (distinct instants).tail).Nodup := by
    apply List.Nodup.of_map Prod.snd
    rw [List.map_snd_zip (by simp)]
    exact (nodup_distinct instants).tail
  have hfirst : (pairs.map Prod.fst).Nodup := by
    apply List.Nodup.map_on _ (hzip.filter _)
    rintro ⟨s, t⟩ hst ⟨s', t'⟩ hst' rfl
    have ht : t - s = d := of_decide_eq_true (List.mem_filter.mp hst).2
    have ht' : t' - s = d := of_decide_eq_true (List.mem_filter.mp hst').2
    exact congrArg (Prod.mk s) (by omega)
  have hfollowed : (pairs.map Prod.fst).toFinset = followed instants d := by
    ext s
    simp only [followed, pairs, List.mem_toFinset, List.mem_map, List.mem_filter, Prod.exists,
      mem_zip_tail_iff (pairwise_distinct instants), mem_distinct, decide_eq_true_eq,
      exists_and_right, exists_eq_right, Finset.mem_filter]
    constructor
    · rintro ⟨t, ⟨hs, ht, -, hbetween⟩, hdist⟩
      obtain rfl : t = s + d := by omega
      exact ⟨hs, ht, hbetween⟩
    · rintro ⟨hs, ht, hbetween⟩
      exact ⟨s + d, ⟨hs, ht, by omega, hbetween⟩, by omega⟩
  rw [hcount, ← hfollowed, List.toFinset_card_of_nodup hfirst, List.length_map]

/-! ### The choice among gaps -/

/-- The best candidate so far, with its count: of those that are counted most, the least. -/
structure Leads (found candidates : List Int) (best : Int × Nat) : Prop where
  chosen : candidates = [] ∧ best = (0, 0) ∨ best.1 ∈ candidates ∧ found.count best.1 = best.2
  count_le : ∀ c ∈ candidates, found.count c ≤ best.2
  le_of_count : ∀ c ∈ candidates, found.count c = best.2 → best.1 ≤ c

theorem Leads.step {earlier : List Int} {best : Int × Nat} {gap : Int}
    (h : Leads found earlier best) (hgap : gap ∈ found) (hlast : ∀ c ∈ earlier, c < gap) :
    Leads found (earlier ++ [gap])
      (if best.2 < found.count gap then (gap, found.count gap) else best) := by
  split
  · next hmore =>
      refine ⟨.inr ⟨by simp, rfl⟩, ?_, ?_⟩
      · intro c hc
        rcases List.mem_append.mp hc with hc | hc
        · exact (h.count_le c hc).trans hmore.le
        · rw [List.mem_singleton.mp hc]
      · intro c hc hcount
        rcases List.mem_append.mp hc with hc | hc
        · exact absurd hcount (ne_of_lt ((h.count_le c hc).trans_lt hmore))
        · rw [List.mem_singleton.mp hc]
  · next hless =>
      -- A candidate has been chosen, for this one is counted and was not better than none.
      have hcount : 0 < found.count gap := List.count_pos_iff.mpr hgap
      obtain ⟨hmem, hbest⟩ : best.1 ∈ earlier ∧ found.count best.1 = best.2 := by
        refine h.chosen.resolve_left ?_
        rintro ⟨-, rfl⟩
        exact hless hcount
      refine ⟨.inr ⟨List.mem_append_left _ hmem, hbest⟩, ?_, ?_⟩
      · intro c hc
        rcases List.mem_append.mp hc with hc | hc
        · exact h.count_le c hc
        · rw [List.mem_singleton.mp hc]
          exact Nat.not_lt.mp hless
      · intro c hc heq
        rcases List.mem_append.mp hc with hc | hc
        · exact h.le_of_count c hc heq
        · rw [List.mem_singleton.mp hc]
          exact (hlast _ hmem).le

theorem leads_mostFrequent (hordered : candidates.Pairwise (· < ·))
    (hmem : ∀ c ∈ candidates, c ∈ found) :
    Leads found candidates (mostFrequent found candidates) := by
  induction candidates using List.reverseRecOn with
  | nil => exact ⟨.inl ⟨rfl, rfl⟩, by simp, by simp⟩
  | append_singleton earlier gap ih =>
      obtain ⟨hearlier, -, hlast⟩ := List.pairwise_append.mp hordered
      have hbefore := ih hearlier fun c hc => hmem c (List.mem_append_left _ hc)
      rw [mostFrequent, List.foldl_append]
      exact hbefore.step (hmem gap (by simp)) fun c hc => hlast c hc gap List.mem_cons_self

theorem distinct_eq_singleton_iff : distinct found = [d] ↔ d ∈ found ∧ ∀ c ∈ found, c = d := by
  rw [distinct_eq_iff]
  simp only [List.mem_singleton]
  constructor
  · rintro ⟨-, hmem⟩
    exact ⟨(hmem d).mp rfl, fun c => (hmem c).mpr⟩
  · rintro ⟨hd, hall⟩
    exact ⟨List.pairwise_singleton _ _, fun x => ⟨fun hx => hx ▸ hd, hall x⟩⟩

/-- The last of different numbers in their order is the greatest. -/
theorem isGreatest_getLast? (hne : found ≠ []) :
    IsGreatest {c | c ∈ found} ((distinct found).getLast?.getD 0) := by
  have hordered := pairwise_distinct found
  simp only [mem_iff_mem_distinct found]
  rcases List.eq_nil_or_concat (distinct found) with hnil | ⟨earlier, last, hlast⟩
  · obtain ⟨c, hc⟩ := List.exists_mem_of_ne_nil _ hne
    rw [← mem_distinct, hnil] at hc
    cases hc
  · rw [List.concat_eq_append] at hlast
    rw [hlast] at hordered ⊢
    rw [List.getLast?_concat, Option.getD_some]
    refine ⟨by simp, ?_⟩
    intro c hc
    rcases List.mem_append.mp hc with hc | hc
    · exact ((List.pairwise_append.mp hordered).2.2 c hc last List.mem_cons_self).le
    · exact (List.mem_singleton.mp hc).le

/-- The interval of instants whose gaps are known is chosen among these. -/
theorem ofInstants_of_gaps (hmany : 2 ≤ (distinct instants).length)
    (hgaps : gaps (distinct instants) = .ok found) :
    ofInstants detection instants = choose detection found := by
  rw [ofInstants]
  dsimp only
  rw [if_neg (Nat.not_lt.mpr hmany), hgaps]
  rfl

section Many

variable (hmany : 2 ≤ instants.toFinset.card)
include hmany

theorem spacings_ne_nil : spacings (distinct instants) ≠ [] := by
  obtain ⟨d, hd⟩ := exists_isGap_iff.mpr hmany
  exact List.ne_nil_of_mem (mem_spacings_iff.mpr hd)

theorem choose_exact_eq_ok_iff :
    choose .exact (spacings (distinct instants)) = .ok d ↔ IsProgression instants d := by
  rw [isProgression_iff hmany]
  simp only [← mem_spacings_iff]
  rw [← distinct_eq_singleton_iff, choose]
  constructor
  · intro h
    split at h
    · next gap hgap => exact hgap.trans (congrArg (fun d => [d]) (Except.ok.inj h))
    · cases h
  · intro h
    rw [h]

theorem exists_choose_mode :
    ∃ d, choose .mode (spacings (distinct instants)) = .ok d ∧ IsMostFrequent instants d := by
  have hleads := leads_mostFrequent (pairwise_distinct (spacings (distinct instants)))
    fun c hc => mem_distinct.mp hc
  refine ⟨_, rfl, ?_⟩
  generalize mostFrequent (spacings (distinct instants)) (distinct (spacings (distinct instants))) =
    best at *
  obtain ⟨gap, hgap⟩ := exists_isGap_iff.mpr hmany
  have hgap := mem_distinct.mpr (mem_spacings_iff.mpr hgap)
  obtain ⟨hmem, hcount⟩ := hleads.chosen.resolve_left fun h => List.ne_nil_of_mem hgap h.1
  have hbest : IsGap instants best.1 := mem_spacings_iff.mp (mem_distinct.mp hmem)
  refine ⟨hbest, fun c hc => ?_⟩
  have hcandidate := mem_distinct.mpr (mem_spacings_iff.mpr hc)
  rw [← count_spacings instants c hc.pos, ← count_spacings instants best.1 hbest.pos, hcount]
  exact ⟨hleads.count_le c hcandidate, hleads.le_of_count c hcandidate⟩

theorem exists_choose_max : ∃ d, choose .max (spacings (distinct instants)) = .ok d ∧
    IsGreatest {c | IsGap instants c} d := by
  refine ⟨_, rfl, ?_⟩
  simp only [← mem_spacings_iff]
  exact isGreatest_getLast? (spacings_ne_nil hmany)

theorem ofInstants_eq_choose (hfits : ∀ d, IsGap instants d → Counter.Fits d) :
    ofInstants detection instants = choose detection (spacings (distinct instants)) := by
  rw [← length_distinct] at hmany
  exact ofInstants_of_gaps hmany (gaps_eq_ok fun d hd => hfits d (mem_spacings_iff.mp hd))

end Many

/-! ### Detected intervals -/

theorem outcome_detect (detection : Detection) (instants : List Int) :
    (detect detection instants).outcome = ofInstants detection instants :=
  Journaled.outcome_noting _ _

theorem ofInstants_of_few (h : instants.toFinset.card < 2) :
    ofInstants detection instants = .error (.ambiguous (.tooFew instants.toFinset.card)) := by
  rw [← length_distinct] at h ⊢
  rw [ofInstants]
  dsimp only
  rw [if_pos h]
  rfl

theorem distinct_congr (h : ∀ x, x ∈ numbers ↔ x ∈ others) :
    distinct numbers = distinct others :=
  distinct_eq_iff.mpr ⟨pairwise_distinct others, fun x => mem_distinct.trans (h x).symm⟩

/-- An interval depends on which instants there are, not on their order or number. -/
theorem ofInstants_congr (h : ∀ x, x ∈ numbers ↔ x ∈ others) :
    ofInstants detection numbers = ofInstants detection others := by
  simp only [ofInstants, distinct_congr h]

/-- There are fewer than two different instants, or their gaps are to agree and they are not
evenly spaced. -/
def IsUnsettled (detection : Detection) (instants : List Int) : Prop :=
  instants.toFinset.card < 2 ∨ detection = .exact ∧ ∀ d, ¬IsProgression instants d

theorem Chooses.isGap (hmany : 2 ≤ instants.toFinset.card) (h : Chooses detection instants d) :
    IsGap instants d := by
  cases detection with
  | exact => exact ((isProgression_iff hmany).mp h).1
  | mode | max => exact h.1

theorem Chooses.pos (h : Chooses detection instants d) : 0 < d := by
  cases detection with
  | exact => exact h.1
  | mode | max => exact h.1.pos

section Fits

variable (hfits : ∀ d, IsGap instants d → Counter.Fits d)
include hfits

theorem exists_error_of_isUnsettled (h : IsUnsettled detection instants) :
    ∃ e, ofInstants detection instants = .error e ∧ e.kind = .ambiguousFrequency := by
  by_cases hmany : 2 ≤ instants.toFinset.card
  · obtain ⟨rfl, hnone⟩ := h.resolve_left (Nat.not_lt.mpr hmany)
    rw [ofInstants_eq_choose hmany hfits]
    cases hchoose : choose .exact (spacings (distinct instants)) with
    | ok d => exact absurd ((choose_exact_eq_ok_iff hmany).mp hchoose) (hnone d)
    | error e =>
        rw [choose] at hchoose
        split at hchoose
        · cases hchoose
        · cases hchoose
          exact ⟨_, rfl, rfl⟩
  · exact ⟨_, ofInstants_of_few (Nat.not_le.mp hmany), rfl⟩

theorem exists_chosen (h : ¬IsUnsettled detection instants) :
    ∃ d, ofInstants detection instants = .ok d ∧ Chooses detection instants d := by
  obtain ⟨hmany, hexact⟩ := not_or.mp h
  have hmany := Nat.not_lt.mp hmany
  rw [ofInstants_eq_choose hmany hfits]
  cases detection with
  | exact =>
      obtain ⟨d, hd⟩ : ∃ d, IsProgression instants d := by
        by_contra hnone
        exact hexact ⟨rfl, not_exists.mp hnone⟩
      exact ⟨d, (choose_exact_eq_ok_iff hmany).mpr hd, hd⟩
  | mode => exact exists_choose_mode hmany
  | max => exact exists_choose_max hmany

/-- An interval that is detected is the one to be chosen, of at least two instants. -/
theorem chooses_of_ofInstants (h : ofInstants detection instants = .ok d) :
    2 ≤ instants.toFinset.card ∧ Chooses detection instants d := by
  have hsettled : ¬IsUnsettled detection instants := fun hunsettled => by
    obtain ⟨e, he, -⟩ := exists_error_of_isUnsettled hfits hunsettled
    cases h.symm.trans he
  obtain ⟨d', hd', hchosen⟩ := exists_chosen hfits hsettled
  cases h.symm.trans hd'
  exact ⟨Nat.not_lt.mp (not_or.mp hsettled).1, hchosen⟩

end Fits

/-- The interval of instants that are not too far from each other depends on which instants there
are. They have none exactly when there are fewer than two of them, or when their gaps are to agree
and they are not evenly spaced. Otherwise it is positive: the difference of the progression, the
most frequent gap or the greatest. For evenly spaced instants these are the same. -/
theorem detect_interval (hrange : ∀ s ∈ instants, ∀ t ∈ instants, t - s ≤ Counter.greatest) :
    (∀ (detection : Detection) (others : List Int), (∀ x, x ∈ others ↔ x ∈ instants) →
        (detect detection others).outcome = (detect detection instants).outcome) ∧
      (∀ detection, (∃ e, (detect detection instants).outcome = .error e ∧
          e.kind = .ambiguousFrequency) ↔ IsUnsettled detection instants) ∧
      (∀ detection, ¬IsUnsettled detection instants →
        ∃ d, (detect detection instants).outcome = .ok d ∧ 0 < d ∧ Chooses detection instants d) ∧
      ∀ d, (detect .exact instants).outcome = .ok d →
        (detect .mode instants).outcome = .ok d ∧ (detect .max instants).outcome = .ok d := by
  have hfits : ∀ d, IsGap instants d → Counter.Fits d := by
    intro d hgap
    rw [hgap.fits_iff]
    obtain ⟨s, hs, t, ht, -, -, rfl⟩ := hgap
    exact hrange s hs t ht
  simp only [outcome_detect]
  refine ⟨fun detection others => ofInstants_congr, ?_, ?_, ?_⟩
  · intro detection
    refine ⟨?_, exists_error_of_isUnsettled hfits⟩
    rintro ⟨e, he, -⟩
    by_contra hsettled
    obtain ⟨d, hd, -⟩ := exists_chosen hfits hsettled
    cases he.symm.trans hd
  · intro detection hsettled
    obtain ⟨d, hd, hchosen⟩ := exists_chosen hfits hsettled
    exact ⟨d, hd, hchosen.pos, hchosen⟩
  · intro d hd
    obtain ⟨hmany, hprogression⟩ := chooses_of_ofInstants hfits hd
    rw [ofInstants_eq_choose hmany hfits, ofInstants_eq_choose hmany hfits]
    obtain ⟨mode, hmode, hfrequent⟩ := exists_choose_mode hmany
    obtain ⟨max, hmax, hgreatest⟩ := exists_choose_max hmany
    rw [hmode, hmax, IsProgression.eq_of_isGap hprogression hfrequent.1,
      IsProgression.eq_of_isGap hprogression hgreatest.1]
    exact ⟨rfl, rfl⟩

/-- Two gaps come equally often, and the less one is chosen, in any order of the instants. -/
theorem detect_interval_tied : (∀ s ∈ [4, 0, 1, 6, 3, 3], ∀ t ∈ [4, 0, 1, 6, 3, 3],
      t - s ≤ Counter.greatest) ∧
    (detect .mode [4, 0, 1, 6, 3, 3]).outcome = .ok 1 ∧
      IsMostFrequent [4, 0, 1, 6, 3, 3] 1 ∧ IsUnsettled .exact [4, 0, 1, 6, 3, 3] ∧
      (detect .mode [6, 6, 4, 3, 1, 0]).outcome = .ok 1 := by
  have hrange : ∀ s ∈ [4, 0, 1, 6, 3, 3], ∀ t ∈ [4, 0, 1, 6, 3, 3], t - s ≤ Counter.greatest := by
    decide
  have hdistinct : distinct [4, 0, 1, 6, 3, 3] = [0, 1, 3, 4, 6] :=
    distinct_eq_iff.mpr ⟨by decide, fun x => by simp; omega⟩
  have hcandidates : distinct [1, 2, 1, 2] = [1, 2] :=
    distinct_eq_iff.mpr ⟨by decide, fun x => by simp; omega⟩
  have hchoose : ∀ detection, (detect detection [4, 0, 1, 6, 3, 3]).outcome =
      choose detection [1, 2, 1, 2] := by
    intro detection
    rw [outcome_detect]
    exact ofInstants_of_gaps (by rw [hdistinct]; decide) (by rw [hdistinct]; rfl)
  have hmode : (detect .mode [4, 0, 1, 6, 3, 3]).outcome = .ok 1 := by
    rw [hchoose, choose, hcandidates]
    rfl
  have hexact : (detect .exact [4, 0, 1, 6, 3, 3]).outcome = .error (.ambiguous (.uneven 2)) := by
    rw [hchoose, choose, hcandidates]
    rfl
  obtain ⟨hsame, hunsettled, hchosen, -⟩ := detect_interval hrange
  have hsettled : ¬IsUnsettled .mode [4, 0, 1, 6, 3, 3] := by
    rintro (hfew | ⟨heq, -⟩)
    · exact absurd hfew (by decide)
    · cases heq
  obtain ⟨d, hd, -, hfrequent⟩ := hchosen .mode hsettled
  cases hmode.symm.trans hd
  refine ⟨hrange, hmode, hfrequent, (hunsettled .exact).mp ⟨_, hexact, rfl⟩, ?_⟩
  rw [hsame .mode [6, 6, 4, 3, 1, 0] fun x => by simp; omega]
  exact hmode

/-! ### Distances that no counter can hold -/

theorem ofInstants_eq_overflow_iff : ofInstants detection instants = .error .overflow ↔
    ∃ d, IsGap instants d ∧ Counter.greatest < d := by
  constructor
  · intro h
    rcases failsOnly_ofInstants detection instants _ h with ⟨hkind, -⟩ | ⟨-, d, hgap, hfits⟩
    · cases hkind
    · exact ⟨d, hgap, Int.not_le.mp (mt hgap.fits_iff.mpr hfits)⟩
  · rintro ⟨d, hgap, hfar⟩
    obtain ⟨pair, hpair, rfl⟩ := isGap_iff.mp hgap
    have hmany := exists_isGap_iff.mp ⟨_, hgap⟩
    have hgaps : gaps (distinct instants) = .error .overflow := by
      rw [gaps, mapM_eq_error_iff fun p e he => (Counter.require_eq_error_iff.mp he).2.symm]
      refine ⟨rfl, pair, hpair, Counter.require_eq_error_iff.mpr ⟨?_, rfl⟩⟩
      exact mt hgap.fits_iff.mp (Int.not_le.mpr hfar)
    rw [← length_distinct] at hmany
    rw [ofInstants]
    dsimp only
    rw [if_neg (Nat.not_lt.mpr hmany), hgaps]
    rfl

/-- Detection chooses an interval that counters can hold, or finds the instants ambiguous, or
leaves the range. It leaves the range exactly when two instants that follow each other are further
apart than counters reach. -/
theorem detect_outcome (detection : Detection) (instants : List Int) :
    (∀ d, (detect detection instants).outcome = .ok d →
        Chooses detection instants d ∧ 0 < d ∧ d ≤ Counter.greatest) ∧
      (∀ e, (detect detection instants).outcome = .error e →
        e.kind = .ambiguousFrequency ∧ IsAmbiguous detection instants ∨ e = .overflow) ∧
      ((detect detection instants).outcome = .error .overflow ↔
        ∃ d, IsGap instants d ∧ Counter.greatest < d) := by
  simp only [outcome_detect]
  refine ⟨?_, ?_, ofInstants_eq_overflow_iff⟩
  · intro d hd
    have hfits : ∀ c, IsGap instants c → Counter.Fits c := by
      intro c hgap
      rw [hgap.fits_iff, ← Int.not_lt]
      exact fun hfar => nomatch hd.symm.trans (ofInstants_eq_overflow_iff.mpr ⟨c, hgap, hfar⟩)
    obtain ⟨hmany, hchosen⟩ := chooses_of_ofInstants hfits hd
    exact ⟨hchosen, hchosen.pos, (hfits d (hchosen.isGap hmany)).2⟩
  · intro e he
    exact (failsOnly_ofInstants detection instants e he).imp_right And.left

/-- A gap as long as counters reach is chosen, and one that is longer by one leaves the range. -/
theorem detect_outcome_far :
    (detect .max [Counter.least, -1, 5]).outcome = .ok Counter.greatest ∧
      Chooses .max [Counter.least, -1, 5] Counter.greatest ∧
      (detect .max [Counter.least, 0, 5]).outcome = .error .overflow := by
  have hdistinct : distinct [Counter.least, -1, 5] = [Counter.least, -1, 5] :=
    distinct_eq_iff.mpr ⟨by decide, fun x => Iff.rfl⟩
  have hcandidates : distinct [Counter.greatest, 6] = [6, Counter.greatest] :=
    distinct_eq_iff.mpr ⟨by decide, fun x => by simp [or_comm]⟩
  have hgaps : gaps (distinct [Counter.least, -1, 5]) = .ok [Counter.greatest, 6] := by
    rw [hdistinct]
    rfl
  have hlargest : (detect .max [Counter.least, -1, 5]).outcome = .ok Counter.greatest := by
    rw [outcome_detect, ofInstants_of_gaps (by rw [hdistinct]; decide) hgaps, choose, hcandidates]
    rfl
  refine ⟨hlargest, ((detect_outcome .max [Counter.least, -1, 5]).1 _ hlargest).1, ?_⟩
  refine (detect_outcome .max [Counter.least, 0, 5]).2.2.mpr ⟨-Counter.least, ?_, by decide⟩
  exact ⟨Counter.least, by simp, 0, by simp, by decide, by simp [Counter.least], by decide⟩

/-- A table of the two instants that are furthest apart. -/
def wholeRange : Table where
  height := 2
  columns := [⟨⟨"ts", .timestamp .nanosecond none, false⟩,
    [.int Counter.least, .int Counter.greatest], by decide⟩]
  uniform := by decide

/-- Counters can hold all instants of a table, and no way of detection tells their interval or
finds them ambiguous. -/
theorem detect_wholeRange :
    ∃ axis, TimeAxis.ofTable wholeRange "ts" = .ok axis ∧
      (∀ i ∈ axis.instants, Counter.Fits i) ∧
      ∀ detection, (detect detection axis.instants).outcome = .error .overflow ∧
        Error.overflow.kind ≠ .ambiguousFrequency := by
  refine ⟨⟨[Counter.least, Counter.greatest], .fixed 0, none⟩, rfl, by decide, ?_⟩
  intro detection
  refine ⟨?_, by decide⟩
  rw [outcome_detect]
  refine ofInstants_eq_overflow_iff.mpr ⟨Counter.greatest - Counter.least, ?_, by decide⟩
  exact ⟨Counter.least, by simp, Counter.greatest, by simp, by decide, by simp, rfl⟩

end Cadence.Frequency
