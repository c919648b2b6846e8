import Cadence.Correlation
import Cadence.Proofs.Table.Selection
import Mathlib.Algebra.BigOperators.Ring.Finset

/-!
# Joined series

Two series are joined through an index of the second one by instants. The index gives what a
loop over all rows of the second series inside a loop over all rows of the first one gives, so
every fact about joined series is one about this loop.
-/

namespace Cadence

/-! ### A loop within a loop -/

section Loops

variable {α β γ δ : Type} {related : α → β → Bool} {xs : List α} {ys : List β}

/-- The related items of two lists, in the order in which a loop over the second list inside a
loop over the first one meets them. -/
def nestedPairs (related : α → β → Bool) (xs : List α) (ys : List β) : List (α × β) :=
  xs.flatMap fun x => (ys.filter (related x)).map fun y => (x, y)

theorem mem_nestedPairs_iff {x : α} {y : β} :
    (x, y) ∈ nestedPairs related xs ys ↔ x ∈ xs ∧ y ∈ ys ∧ related x y = true := by
  simp [nestedPairs, and_assoc]

theorem nestedPairs_map (f : γ → α) (g : δ → β) (xs : List γ) (ys : List δ) :
    nestedPairs related (xs.map f) (ys.map g) =
      (nestedPairs (fun x y => related (f x) (g y)) xs ys).map (Prod.map f g) := by
  simp only [nestedPairs, List.flatMap_map, List.map_flatMap, List.filter_map, List.map_map]
  rfl

/-- The outer loop decides first, and the inner loop second. -/
theorem nestedPairs_pairwise {R : α → α → Prop} {S : β → β → Prop} (hxs : xs.Pairwise R)
    (hys : ys.Pairwise S) : (nestedPairs related xs ys).Pairwise (Prod.Lex R S) := by
  rw [nestedPairs, List.pairwise_flatMap]
  constructor
  · intro x _
    rw [List.pairwise_map]
    exact (hys.filter _).imp fun hyz => .right x hyz
  · apply hxs.imp
    intro x z hxz p hp q hq
    obtain ⟨y, -, rfl⟩ := List.mem_map.mp hp
    obtain ⟨w, -, rfl⟩ := List.mem_map.mp hq
    exact .left y w hxz

theorem map_filter_eq_flatMap (keep : β → Bool) (f : β → γ) (ys : List β) :
    (ys.filter keep).map f = ys.flatMap fun y => if keep y then [f y] else [] := by
  induction ys with
  | nil => rfl
  | cons y ys ih =>
      rw [List.filter_cons, List.flatMap_cons, ← ih]
      split <;> rfl

theorem flatMap_flatMap_perm (f : α → β → List γ) (xs : List α) (ys : List β) :
    (xs.flatMap fun x => ys.flatMap (f x)).Perm
      (ys.flatMap fun y => xs.flatMap fun x => f x y) := by
  induction ys with
  | nil => simp
  | cons y ys ih =>
      simp only [List.flatMap_cons]
      exact (List.flatMap_append_perm xs _ _).symm.trans (ih.append_left _)

/-- The loops can be exchanged, up to the order of what they meet. -/
theorem nestedPairs_swap_perm (related : α → β → Bool) (xs : List α) (ys : List β) :
    ((nestedPairs (fun y x => related x y) ys xs).map Prod.swap).Perm
      (nestedPairs related xs ys) := by
  simp only [nestedPairs, List.map_flatMap, List.map_map]
  simp only [Function.comp_def, Prod.swap_prod_mk, map_filter_eq_flatMap]
  exact (flatMap_flatMap_perm (fun x y => if related x y then [(x, y)] else []) xs ys).symm

theorem length_nestedPairs :
    (nestedPairs related xs ys).length = (xs.map fun x => ys.countP (related x)).sum := by
  simp only [nestedPairs, List.length_flatMap, List.length_map, List.countP_eq_length_filter]

end Loops

namespace Series

variable {a b s : Series} {t : Table} {timeColumn valueColumn : String}

/-- The instants of a series, row by row. -/
def instants (s : Series) : List Int := s.samples.map (·.instant)

theorem map_instants {α : Type} (s : Series) (f : Int → α) :
    s.instants.map f = s.samples.map fun x => f x.instant :=
  List.map_map

/-- Whether two samples are of one instant. -/
def sameInstant (x y : Sample) : Bool := decide (x.instant = y.instant)

theorem join_eq_nestedPairs (a b : Series) :
    a.join b = (nestedPairs sameInstant a.samples b.samples).map
      fun p => (p.1.value, p.2.value) := by
  simp only [join, getD_byInstant, nestedPairs, List.map_flatMap, List.map_map]
  congr 1
  funext x
  have hsame : sameInstant x = fun y => decide (y.instant = x.instant) :=
    funext fun y => decide_eq_decide.mpr eq_comm
  rw [hsame]
  rfl

theorem join_eq_loop (a b : Series) :
    a.join b = a.samples.flatMap fun x =>
      (b.samples.filter fun y => x.instant = y.instant).map fun y => (x.value, y.value) := by
  rw [join_eq_nestedPairs, nestedPairs, List.map_flatMap]
  congr 1
  funext x
  rw [List.map_map]
  rfl

/-- The join holds the values of the pairs of rows with equal instants, each pair once, in the
order of the rows of the first series and then of the second. -/
theorem exists_rows_join (a b : Series) :
    ∃ rows : List (Nat × Nat), rows.Pairwise (Prod.Lex (· < ·) (· < ·)) ∧
      (∀ i j, (i, j) ∈ rows ↔ ∃ x y, a.samples[i]? = some x ∧ b.samples[j]? = some y ∧
        x.instant = y.instant) ∧
      rows.Forall₂ (fun p values => (a.samples[p.1]?).map (·.value) = some values.1 ∧
        (b.samples[p.2]?).map (·.value) = some values.2) (a.join b) := by
  have hordered : ∀ l : List Sample, l.zipIdx.Pairwise fun x y => x.2 < y.2 := by
    intro l
    rw [← List.pairwise_map (f := Prod.snd) (R := (· < ·)), List.zipIdx_map_snd]
    exact List.pairwise_lt_range'
  let numbered := nestedPairs (fun x y => sameInstant x.1 y.1) a.samples.zipIdx b.samples.zipIdx
  have hnumbered : numbered.map (Prod.map Prod.fst Prod.fst) =
      nestedPairs sameInstant a.samples b.samples := by
    rw [← nestedPairs_map, List.zipIdx_map_fst, List.zipIdx_map_fst]
  have hmem : ∀ x i y j, ((x, i), y, j) ∈ numbered ↔
      a.samples[i]? = some x ∧ b.samples[j]? = some y ∧ x.instant = y.instant := by
    intro x i y j
    rw [mem_nestedPairs_iff, List.mk_mem_zipIdx_iff_getElem?, List.mk_mem_zipIdx_iff_getElem?]
    simp only [sameInstant, decide_eq_true_eq]
  refine ⟨numbered.map (Prod.map Prod.snd Prod.snd), ?_, ?_, ?_⟩
  · rw [List.pairwise_map]
    apply (nestedPairs_pairwise (hordered _) (hordered _)).imp
    intro p q hpq
    cases hpq with
    | left _ _ hlt => exact .left _ _ hlt
    | right _ hlt => exact .right _ hlt
  · intro i j
    simp only [List.mem_map, Prod.exists, Prod.map_apply, Prod.mk.injEq, hmem]
    constructor
    · rintro ⟨x, _, y, _, h, rfl, rfl⟩
      exact ⟨x, y, h⟩
    · rintro ⟨x, y, h⟩
      exact ⟨x, i, y, j, h, rfl, rfl⟩
  · rw [join_eq_nestedPairs, ← hnumbered, List.map_map, List.forall₂_map_left_iff,
      List.forall₂_map_right_iff, List.forall₂_same]
    rintro ⟨⟨x, i⟩, y, j⟩ hpair
    obtain ⟨hx, hy, -⟩ := (hmem x i y j).mp hpair
    simp [hx, hy]

theorem length_join (a b : Series) :
    (a.join b).length = ∑ t ∈ a.instants.toFinset ∪ b.instants.toFinset,
      a.instants.count t * b.instants.count t := by
  have hcount : ∀ x : Sample, b.samples.countP (sameInstant x) = b.instants.count x.instant := by
    intro x
    rw [instants, List.count_eq_countP, List.countP_map]
    congr 1
    funext y
    exact decide_eq_decide.mpr eq_comm
  have habsent : ∀ t ∈ a.instants.toFinset ∪ b.instants.toFinset, t ∉ a.instants.toFinset →
      a.instants.count t * b.instants.count t = 0 := by
    intro t _ ht
    rw [List.count_eq_zero.mpr fun h => ht (List.mem_toFinset.mpr h), Nat.zero_mul]
  calc (a.join b).length
    _ = (a.samples.map fun x => b.instants.count x.instant).sum := by
        rw [join_eq_nestedPairs, List.length_map, length_nestedPairs]
        simp only [hcount]
    _ = (a.instants.map b.instants.count).sum := by rw [map_instants]
    _ = ∑ t ∈ a.instants.toFinset, a.instants.count t * b.instants.count t :=
        Finset.sum_list_map_count _ _
    _ = _ := Finset.sum_subset Finset.subset_union_left habsent

theorem join_swap_perm (a b : Series) : ((b.join a).map Prod.swap).Perm (a.join b) := by
  have hswap : ∀ x y, sameInstant x y = sameInstant y x := by
    intro x y
    simp only [sameInstant, eq_comm]
  rw [join_eq_nestedPairs, join_eq_nestedPairs, List.map_map]
  have h := (nestedPairs_swap_perm sameInstant a.samples b.samples).map
    fun p => (p.1.value, p.2.value)
  rw [List.map_map] at h
  simp only [hswap] at h ⊢
  exact h

/-! ### Series of tables -/

theorem isSome_float?_iff {c : Column} (h : c.type.isNumeric = true) (row : Nat) :
    (c.cell row).float?.isSome = decide (c.cell row ≠ .null) := by
  have hfits := c.fits_cell row
  cases htype : c.type <;> rw [htype] at h hfits <;> cases h <;>
    cases hcell : c.cell row <;> rw [hcell] at hfits <;> first | rfl | cases hfits

/-- What a function keeps of a list comes from the items that it gives a value. -/
theorem forall₂_filter_filterMap {α β : Type} (f : α → Option β) (xs : List α) :
    (xs.filter fun x => (f x).isSome).Forall₂ (fun x y => f x = some y) (xs.filterMap f) := by
  induction xs with
  | nil => exact .nil
  | cons x xs ih =>
      cases hx : f x with
      | none => simpa [List.filter_cons, hx] using ih
      | some y => simpa [List.filter_cons, List.filterMap_cons, hx] using ih

/-- The series of a table has one sample for each row with a value, in the order of the rows. -/
theorem samples_of_ofTable [Zone.Database] (h : ofTable t timeColumn valueColumn = .ok s) :
    ∃ axis c, TimeAxis.ofTable t timeColumn = .ok axis ∧ t.column? valueColumn = some c ∧
      ((List.range t.height).filter fun row => c.cell row ≠ .null).Forall₂
        (fun row x => axis.instantAt row = x.instant ∧ (c.cell row).float? = some x.value)
        s.samples := by
  obtain ⟨axis, haxis, h⟩ := bind_eq_ok_iff.mp h
  split at h
  · cases h
  · next c hc =>
      split at h
      · next hnumeric =>
          cases h
          have hrows : axis.instants.zip c.cells =
              (List.range t.height).map fun row => (axis.instantAt row, c.cell row) := by
            rw [← List.zip_map']
            congr 1
            · rw [← (TimeAxis.ofTable_spec haxis).1]
              exact (map_getD_range axis.instants 0).symm
            · rw [← Table.length_of_column? hc]
              exact c.map_cell_range.symm
          have hsamples := forall₂_filter_filterMap (fun row => (c.cell row).float?.map
            fun value => (⟨axis.instantAt row, value⟩ : Sample)) (List.range t.height)
          simp only [Option.isSome_map, isSome_float?_iff hnumeric] at hsamples
          refine ⟨axis, c, haxis, hc, ?_⟩
          dsimp only
          rw [hrows, List.filterMap_map]
          apply hsamples.imp
          intro row x hx
          obtain ⟨value, hvalue, rfl⟩ := Option.map_eq_some_iff.mp hx
          exact ⟨rfl, hvalue⟩
      · cases h

/-- The join of two series is what a loop over the rows of the second inside a loop over the rows
of the first finds: the values of each pair of rows with equal instants, once and in this order.
There are as many as the counts of each instant multiply to, and the other join holds the same
pairs turned round. The rows of a series are the rows of its table that have a value. -/
theorem join_pairs_rows [Zone.Database] (a b : Series) :
    (a.join b = a.samples.flatMap fun x =>
      (b.samples.filter fun y => x.instant = y.instant).map fun y => (x.value, y.value)) ∧
    (∃ rows : List (Nat × Nat), rows.Pairwise (Prod.Lex (· < ·) (· < ·)) ∧
      (∀ i j, (i, j) ∈ rows ↔ ∃ x y, a.samples[i]? = some x ∧ b.samples[j]? = some y ∧
        x.instant = y.instant) ∧
      rows.Forall₂ (fun p values => (a.samples[p.1]?).map (·.value) = some values.1 ∧
        (b.samples[p.2]?).map (·.value) = some values.2) (a.join b)) ∧
    (a.join b).length = ∑ t ∈ a.instants.toFinset ∪ b.instants.toFinset,
      a.instants.count t * b.instants.count t ∧
    ((b.join a).map Prod.swap).Perm (a.join b) ∧
    (∀ t timeColumn valueColumn, ofTable t timeColumn valueColumn = .ok a →
      ∃ axis c, TimeAxis.ofTable t timeColumn = .ok axis ∧ t.column? valueColumn = some c ∧
        ((List.range t.height).filter fun row => c.cell row ≠ .null).Forall₂
          (fun row x => axis.instantAt row = x.instant ∧ (c.cell row).float? = some x.value)
          a.samples) :=
  ⟨join_eq_loop a b, exists_rows_join a b, length_join a b, join_swap_perm a b,
    fun _ _ _ => samples_of_ofTable⟩

/-- Four readings at two instants, one of them without a value. -/
def readings : Table where
  height := 4
  columns :=
    [⟨⟨"ts", .timestamp .nanosecond none, true⟩, [.int 5, .int 0, .int 5, .int 5], by decide⟩,
      ⟨⟨"load", .int64, true⟩, [.int 1, .int 2, .null, .int 4], by decide⟩]
  uniform := by decide

theorem join_pairs_rows_readings :
    ∃ s, ofTable readings "ts" "load" = .ok s ∧ (s.join s).length = 5 ∧
      ((s.join s).map Prod.swap).Perm (s.join s) ∧
      ∃ axis c, TimeAxis.ofTable readings "ts" = .ok axis ∧ readings.column? "load" = some c ∧
        ((List.range readings.height).filter fun row => c.cell row ≠ .null).Forall₂
          (fun row x => axis.instantAt row = x.instant ∧ (c.cell row).float? = some x.value)
          s.samples := by
  have hseries : ofTable readings "ts" "load" =
      .ok ⟨[⟨5, .ofInt 1⟩, ⟨0, .ofInt 2⟩, ⟨5, .ofInt 4⟩]⟩ := rfl
  obtain ⟨-, -, hlength, hswap, hrows⟩ := join_pairs_rows
    ⟨[⟨5, .ofInt 1⟩, ⟨0, .ofInt 2⟩, ⟨5, .ofInt 4⟩]⟩ ⟨[⟨5, .ofInt 1⟩, ⟨0, .ofInt 2⟩, ⟨5, .ofInt 4⟩]⟩
  exact ⟨_, hseries, hlength.trans (by decide), hswap, hrows readings "ts" "load" hseries⟩

end Series

end Cadence
