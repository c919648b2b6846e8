import Cadence.Proofs.Table.Selection
import Cadence.Resampler

/-!
# Rows in time order

Sorting is stable, so it does not matter whether rows are taken away before it or
after it. A table in time order is a selection of its rows, and taking rows away
leaves it in time order.
-/

namespace Cadence

/-! ### Stable sorting -/

/-- Lists that agree when laid end to end, and in which a test tells the parts apart,
agree part by part. -/
theorem append_inj_of_test {α : Type} {q : α → Bool} {as bs cs ds : List α}
    (h : as ++ bs = cs ++ ds) (has : ∀ x ∈ as, q x) (hbs : ∀ x ∈ bs, ¬q x)
    (hcs : ∀ x ∈ cs, q x) (hds : ∀ x ∈ ds, ¬q x) : as = cs ∧ bs = ds := by
  have hfirst : (as ++ bs).filter q = (cs ++ ds).filter q := by rw [h]
  simp only [List.filter_append, List.filter_eq_self.mpr has, List.filter_eq_self.mpr hcs,
    List.filter_eq_nil_iff.mpr hbs, List.filter_eq_nil_iff.mpr hds, List.append_nil] at hfirst
  rw [hfirst] at h
  exact ⟨hfirst, List.append_cancel_left h⟩

section Stable

variable {α : Type} {le : α → α → Bool} (htrans : ∀ a b c, le a b → le b c → le a c)
variable (htotal : ∀ a b, le a b || le b a)
include htrans htotal

/-- The first of some items comes, when they are sorted, right before those that it does
not exceed. -/
theorem mergeSort_cons_split (a : α) (l : List α) : ∃ before after,
    (a :: l).mergeSort le = before ++ a :: after ∧ l.mergeSort le = before ++ after ∧
      (∀ b ∈ before, !le a b) ∧ ∀ b ∈ after, ¬!le a b := by
  obtain ⟨before, after, hcons, hrest, hbefore⟩ := List.mergeSort_cons htrans htotal a l
  refine ⟨before, after, hcons, hrest, hbefore, ?_⟩
  have hsorted := List.pairwise_mergeSort htrans htotal (a :: l)
  rw [hcons, List.pairwise_append, List.pairwise_cons] at hsorted
  intro b hb
  simpa using hsorted.2.1.1 b hb

/-- Sorting what is left of a list leaves the same of the sorted list. -/
theorem mergeSort_filter (keep : α → Bool) (l : List α) :
    (l.filter keep).mergeSort le = (l.mergeSort le).filter keep := by
  induction l with
  | nil => simp
  | cons a l ih =>
      obtain ⟨before, after, hcons, hrest, hbefore, hafter⟩ :=
        mergeSort_cons_split htrans htotal a l
      rw [hrest, List.filter_append] at ih
      rw [hcons, List.filter_append]
      by_cases ha : keep a
      · obtain ⟨first, last, hkept, hothers, hfirst, hlast⟩ :=
          mergeSort_cons_split htrans htotal a (l.filter keep)
        rw [List.filter_cons_of_pos ha, List.filter_cons_of_pos ha, hkept]
        obtain ⟨rfl, rfl⟩ := append_inj_of_test (hothers.symm.trans ih) hfirst hlast
          (fun b hb => hbefore b (List.mem_of_mem_filter hb))
          (fun b hb => hafter b (List.mem_of_mem_filter hb))
        rfl
      · rw [List.filter_cons_of_neg ha, List.filter_cons_of_neg ha, ih]

end Stable

section Keys

variable {α : Type} {key : α → Int} {l l' : List α}

theorem mem_iff_of_filter_key_eq (h : ∀ k, l.filter (key · = k) = l'.filter (key · = k)) {a : α} :
    a ∈ l ↔ a ∈ l' := by
  have hkey := congrArg (a ∈ ·) (h (key a))
  simpa using hkey

/-- Lists whose keys never go back and that agree key by key are equal. -/
theorem eq_of_filter_key_eq (hl : l.Pairwise fun a b => key a ≤ key b)
    (hl' : l'.Pairwise fun a b => key a ≤ key b)
    (h : ∀ k, l.filter (key · = k) = l'.filter (key · = k)) : l = l' := by
  induction l generalizing l' with
  | nil =>
      cases l' with
      | nil => rfl
      | cons b l' =>
          exact absurd ((mem_iff_of_filter_key_eq h).mpr List.mem_cons_self) List.not_mem_nil
  | cons a l ih =>
      cases l' with
      | nil => exact absurd ((mem_iff_of_filter_key_eq h).mp List.mem_cons_self) List.not_mem_nil
      | cons b l' =>
          rw [List.pairwise_cons] at hl hl'
          -- Neither of the first items comes after the other, which occurs in its list.
          have hle : key a ≤ key b := by
            rcases List.mem_cons.mp ((mem_iff_of_filter_key_eq h).mpr List.mem_cons_self) with heq | hb
            · exact (congrArg key heq).ge
            · exact hl.1 b hb
          have hge : key b ≤ key a := by
            rcases List.mem_cons.mp ((mem_iff_of_filter_key_eq h).mp List.mem_cons_self) with heq | ha
            · exact (congrArg key heq).ge
            · exact hl'.1 a ha
          have hkey : key a = key b := Int.le_antisymm hle hge
          have hfirst := h (key a)
          rw [List.filter_cons_of_pos (by simp), List.filter_cons_of_pos (by simp [hkey]),
            List.cons.injEq] at hfirst
          obtain ⟨rfl, hrest⟩ := hfirst
          rw [ih hl.2 hl'.2]
          intro k
          by_cases hk : key a = k
          · rwa [hk] at hrest
          · have hothers := h k
            rwa [List.filter_cons_of_neg (by simpa using hk),
              List.filter_cons_of_neg (by simpa using hk)] at hothers

/-- Sorting by a key looks at nothing but the order of the items of each key. -/
theorem mergeSort_eq_of_filter_key_eq
    (h : ∀ k, l.filter (key · = k) = l'.filter (key · = k)) :
    (l.mergeSort fun a b => key a ≤ key b) = l'.mergeSort fun a b => key a ≤ key b := by
  have htrans : ∀ a b c : α, decide (key a ≤ key b) → decide (key b ≤ key c) →
      decide (key a ≤ key c) := by
    intro a b c hab hbc
    simp only [decide_eq_true_eq] at *
    exact hab.trans hbc
  have htotal : ∀ a b : α, decide (key a ≤ key b) || decide (key b ≤ key a) := by
    intro a b
    simp only [Bool.or_eq_true, decide_eq_true_eq]
    exact Int.le_total _ _
  have hsorted : ∀ l : List α,
      (l.mergeSort fun a b => key a ≤ key b).Pairwise fun a b => key a ≤ key b :=
    fun l => (List.pairwise_mergeSort htrans htotal l).imp of_decide_eq_true
  apply eq_of_filter_key_eq (hsorted l) (hsorted l')
  intro k
  rw [← mergeSort_filter htrans htotal, ← mergeSort_filter htrans htotal, h]

end Keys

/-! ### Rows in time order -/

namespace TimeAxis

variable {axis : TimeAxis} {rows : List Nat}

/-- Whether a row does not come after another one. -/
def precedes (axis : TimeAxis) (row other : Nat) : Bool :=
  axis.instantAt row ≤ axis.instantAt other

/-- The given rows in time order; rows of one instant keep their order. -/
def arrange (axis : TimeAxis) (rows : List Nat) : List Nat := rows.mergeSort axis.precedes

theorem precedes_trans (a b c : Nat) (hab : axis.precedes a b) (hbc : axis.precedes b c) :
    axis.precedes a c := by
  simp only [precedes, decide_eq_true_eq] at *
  exact hab.trans hbc

theorem precedes_total (a b : Nat) : axis.precedes a b || axis.precedes b a := by
  simp only [precedes, Bool.or_eq_true, decide_eq_true_eq]
  exact Int.le_total _ _

theorem arrange_filter (axis : TimeAxis) (rows : List Nat) (keep : Nat → Bool) :
    axis.arrange (rows.filter keep) = (axis.arrange rows).filter keep :=
  mergeSort_filter precedes_trans precedes_total keep rows

theorem mem_arrange {row : Nat} : row ∈ axis.arrange rows ↔ row ∈ rows :=
  List.mem_mergeSort

theorem isSorted_select_arrange (axis : TimeAxis) (rows : List Nat) :
    (axis.select (axis.arrange rows)).IsSorted := by
  have hsorted : (axis.arrange rows).Pairwise fun row other => axis.precedes row other :=
    List.pairwise_mergeSort precedes_trans precedes_total rows
  change ((axis.arrange rows).map axis.instantAt).Pairwise (· ≤ ·)
  rw [List.pairwise_map]
  exact hsorted.imp of_decide_eq_true

/-- All rows come in the order of their instants, and those of one instant in their own. -/
theorem pairwise_arrange_range (axis : TimeAxis) (n : Nat) :
    (axis.arrange (List.range n)).Pairwise fun i j =>
      axis.instantAt i < axis.instantAt j ∨ axis.instantAt i = axis.instantAt j ∧ i < j := by
  rw [List.pairwise_iff_forall_sublist]
  intro i j hsub
  have hle : axis.instantAt i ≤ axis.instantAt j := by
    have hsorted : (axis.arrange (List.range n)).Pairwise fun i j => axis.precedes i j :=
      List.pairwise_mergeSort precedes_trans precedes_total _
    exact of_decide_eq_true (List.pairwise_iff_forall_sublist.mp hsorted hsub)
  rcases Int.lt_or_eq_of_le hle with hlt | heq
  · exact .inl hlt
  · -- The rows of one instant are not moved by sorting them.
    have hkept : ((List.range n).filter (axis.instantAt · = axis.instantAt j)) =
        (axis.arrange (List.range n)).filter (axis.instantAt · = axis.instantAt j) := by
      rw [← arrange_filter, arrange, List.mergeSort_of_pairwise]
      apply List.pairwise_of_forall_mem_list
      intro a ha b hb
      simp only [List.mem_filter, decide_eq_true_eq] at ha hb
      exact decide_eq_true (ha.2.trans hb.2.symm).le
    have hpair := hsub.filter (axis.instantAt · = axis.instantAt j)
    rw [← hkept] at hpair
    simp only [heq, decide_true, List.filter_cons_of_pos, List.filter_nil] at hpair
    have hordered := List.pairwise_lt_range.sublist (hpair.trans List.filter_sublist)
    exact .inr ⟨heq, List.rel_of_pairwise_cons hordered List.mem_cons_self⟩

/-- Rows in time order stay where they are. -/
theorem arrange_eq_self (h : (axis.select rows).IsSorted) : axis.arrange rows = rows := by
  apply List.mergeSort_of_pairwise
  apply (List.pairwise_map.mp h).imp
  intro row other hle
  exact decide_eq_true hle

/-- The order of a selection names its rows in time order. -/
theorem map_order_select (axis : TimeAxis) (rows : List Nat) :
    (axis.select rows).order.map (fun place => rows.getD place 0) = axis.arrange rows := by
  have hnamed : ∀ x ∈ (rows.map axis.instantAt).zipIdx,
      x.1 = axis.instantAt (rows.getD x.2 0) := by
    intro x hx
    rw [List.mem_zipIdx_iff_getElem?, List.getElem?_map, Option.map_eq_some_iff] at hx
    obtain ⟨row, hrow, heq⟩ := hx
    rw [List.getD_eq_getElem?_getD, hrow]
    exact heq.symm
  have hrows : (rows.map axis.instantAt).zipIdx.map (fun x => rows.getD x.2 0) = rows := by
    have hplaces := List.zipIdx_map_snd 0 (rows.map axis.instantAt)
    rw [List.length_map, ← List.range_eq_range'] at hplaces
    conv_rhs => rw [← map_getD_range rows 0, ← hplaces, List.map_map]
    rfl
  rw [order, List.map_map, arrange]
  conv_rhs => rw [← hrows]
  apply List.map_mergeSort
  intro a ha b hb
  apply decide_eq_decide.mpr
  rw [hnamed a ha, hnamed b hb]
  rfl

theorem lt_of_mem_order {place : Nat} (h : place ∈ (axis.select rows).order) :
    place < rows.length := by
  obtain ⟨x, hx, rfl⟩ := List.mem_map.mp h
  have hplace := List.mem_zipIdx' (List.mem_mergeSort.mp hx)
  simpa [select] using hplace.1

theorem select_range {n : Nat} (h : axis.instants.length = n) : axis.select (List.range n) = axis := by
  have hinstants := map_getD_range axis.instants 0
  rw [h] at hinstants
  cases axis
  simp only [select, TimeAxis.mk.injEq, and_true]
  exact hinstants

end TimeAxis

/-- Sorting a selection puts its rows in time order. -/
theorem Table.sortByTime_select (t : Table) (axis : TimeAxis) (rows : List Nat) :
    (t.select rows).sortByTime (axis.select rows) = t.select (axis.arrange rows) := by
  rw [sortByTime, select_select, TimeAxis.map_order_select]
  intro place hplace
  exact TimeAxis.lt_of_mem_order hplace

/-! ### Timelines -/

namespace Timeline

variable [Zone.Database]
variable {t : Table} {name : String} {axis : TimeAxis} {line : Timeline} {rows : List Nat}

/-- The timeline of selected rows lists them in time order. -/
theorem ofTable_select (h : TimeAxis.ofTable t name = .ok axis)
    (hrows : ∀ row ∈ rows, row < t.height) :
    ofTable (t.select rows) name =
      .ok ⟨t.select (axis.arrange rows), axis.select (axis.arrange rows)⟩ := by
  have hsorted : TimeAxis.ofTable (t.select (axis.arrange rows)) name =
      .ok (axis.select (axis.arrange rows)) :=
    TimeAxis.ofTable_select h fun row hrow => hrows row (TimeAxis.mem_arrange.mp hrow)
  apply bind_eq_ok_iff.mpr ⟨_, TimeAxis.ofTable_select h hrows, _⟩
  dsimp only
  rw [Table.sortByTime_select]
  exact bind_eq_ok_iff.mpr ⟨_, hsorted, rfl⟩

/-- The timeline of a table lists its rows in time order. -/
theorem ofTable_eq (h : TimeAxis.ofTable t name = .ok axis) :
    ofTable t name = .ok ⟨t.select (axis.arrange (List.range t.height)),
      axis.select (axis.arrange (List.range t.height))⟩ := by
  have hall := ofTable_select h fun row (hrow : row ∈ List.range t.height) => List.mem_range.mp hrow
  rwa [Table.select_range] at hall

/-- A timeline has every row of its table, in some order. -/
theorem exists_order (h : TimeAxis.ofTable t name = .ok axis) :
    ∃ order, order.Perm (List.range t.height) ∧
      ofTable t name = .ok ⟨t.select order, axis.select order⟩ :=
  ⟨_, List.mergeSort_perm _ _, ofTable_eq h⟩

/-- A table in time order is its own timeline. -/
theorem ofTable_of_isSorted (h : TimeAxis.ofTable t name = .ok axis) (hsorted : axis.IsSorted) :
    ofTable t name = .ok ⟨t, axis⟩ := by
  have hall : axis.select (List.range t.height) = axis :=
    TimeAxis.select_range (TimeAxis.ofTable_spec h).1
  have harranged : axis.arrange (List.range t.height) = List.range t.height :=
    TimeAxis.arrange_eq_self (hall.symm ▸ hsorted)
  rw [ofTable_eq h, harranged, hall, Table.select_range]

theorem ofTable_eq_error {e : Error} (h : TimeAxis.ofTable t name = .error e) :
    ofTable t name = .error e := by
  unfold ofTable
  rw [h]
  rfl

theorem ofTable_eq_ok_iff : ofTable t name = .ok line ↔
    ∃ axis, TimeAxis.ofTable t name = .ok axis ∧
      ⟨t.select (axis.arrange (List.range t.height)),
        axis.select (axis.arrange (List.range t.height))⟩ = line := by
  cases haxis : TimeAxis.ofTable t name with
  | error e =>
      rw [ofTable_eq_error haxis]
      exact ⟨nofun, nofun⟩
  | ok axis =>
      rw [ofTable_eq haxis]
      simp only [Except.ok.injEq, exists_eq_left']

/-- A timeline is in time order, and its axis is that of its table. -/
theorem ofTable_spec (h : ofTable t name = .ok line) :
    TimeAxis.ofTable line.table name = .ok line.axis ∧ line.axis.IsSorted := by
  obtain ⟨axis, haxis, -⟩ := bind_eq_ok_iff.mp h
  rw [ofTable_eq haxis] at h
  cases h
  refine ⟨TimeAxis.ofTable_select haxis ?_, axis.isSorted_select_arrange _⟩
  intro row hrow
  exact List.mem_range.mp (TimeAxis.mem_arrange.mp hrow)

/-- Rows taken from a timeline in their order are in time order. -/
theorem ofTable_of_sublist (h : ofTable t name = .ok line)
    (hrows : rows.Sublist (List.range line.table.height)) :
    ofTable (line.table.select rows) name = .ok ⟨line.table.select rows, line.axis.select rows⟩ := by
  obtain ⟨haxis, hsorted⟩ := ofTable_spec h
  have hlength := (TimeAxis.ofTable_spec haxis).1
  have hall : (List.range line.table.height).map line.axis.instantAt = line.axis.instants := by
    rw [← hlength]
    exact map_getD_range _ _
  have hordered : (line.axis.select rows).IsSorted :=
    List.Pairwise.sublist (hall ▸ hrows.map line.axis.instantAt) hsorted
  rw [ofTable_select haxis fun row hrow => List.mem_range.mp (hrows.subset hrow),
    TimeAxis.arrange_eq_self hordered]

end Timeline

end Cadence
