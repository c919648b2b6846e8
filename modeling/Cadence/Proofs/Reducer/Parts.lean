import Cadence.Proofs.Table.Selection
import Cadence.Reducer.Reduce
import Mathlib.Algebra.BigOperators.Ring.Finset

/-!
# Parts and wholes

A reduction of the parts of a list says what the reduction of the whole list says.
Sums add up to the sum, the greatest of the greatest numbers is the greatest number,
counts add up to the count, and the lists of the parts laid end to end are the list.
-/

namespace Cadence

namespace Reducer

/-! ### Sums -/

/-- Adding up from a start within a counter stays within it and gives the sum. -/
theorem foldlM_sum_eq_some {numbers : List Int} {start n : Int} (hstart : Counter.Fits start)
    (h : numbers.foldlM (fun sum n => Counter.fit? (sum + n)) start = some n) :
    n = start + numbers.sum ∧ Counter.Fits n := by
  induction numbers generalizing start with
  | nil =>
      cases h
      exact ⟨(Int.add_zero _).symm, hstart⟩
  | cons x numbers ih =>
      rw [List.foldlM_cons, Option.bind_eq_bind, Option.bind_eq_some_iff] at h
      obtain ⟨next, hnext, h⟩ := h
      obtain ⟨hfits, rfl⟩ := Counter.fit?_eq_some_iff.mp hnext
      obtain ⟨rfl, hn⟩ := ih hfits h
      rw [List.sum_cons, ← Int.add_assoc]
      exact ⟨rfl, hn⟩

theorem fits_zero : Counter.Fits 0 := by decide

theorem total?_eq_sum {numbers : List Int} {n : Int} (h : total? numbers = some n) :
    n = numbers.sum := by
  obtain ⟨rfl, -⟩ := foldlM_sum_eq_some fits_zero h
  exact Int.zero_add _

/-- The steps of adding up the sums of parts are among those of adding up the whole. -/
theorem total?_flatten {parts : List (List Int)} {sums : List Int} {n : Int}
    (hparts : parts.Forall₂ (fun part sum => total? part = some sum) sums)
    (h : total? parts.flatten = some n) : total? sums = some n := by
  have hsteps : ∀ start, Counter.Fits start →
      parts.flatten.foldlM (fun sum n => Counter.fit? (sum + n)) start = some n →
      sums.foldlM (fun sum n => Counter.fit? (sum + n)) start = some n := by
    clear h
    induction hparts with
    | nil => exact fun start _ h => h
    | cons hpart _ ih =>
        intro start hstart h
        rw [List.flatten_cons, List.foldlM_append, Option.bind_eq_bind,
          Option.bind_eq_some_iff] at h
        obtain ⟨next, hnext, h⟩ := h
        obtain ⟨rfl, hfits⟩ := foldlM_sum_eq_some hstart hnext
        rw [← total?_eq_sum hpart] at hfits h
        rw [List.foldlM_cons, Option.bind_eq_bind, Option.bind_eq_some_iff]
        exact ⟨_, Counter.fit?_eq_some_iff.mpr ⟨hfits, rfl⟩, ih _ hfits h⟩
  exact hsteps 0 fits_zero h

/-! ### The best of some numbers -/

section Pick

variable {pick : List Int → Option Int} {le : Int → Int → Prop}
variable (hpick : ∀ {l a}, pick l = some a ↔ a ∈ l ∧ ∀ b ∈ l, le b a)
include hpick

/-- Which number is the best does not depend on their order. -/
theorem pick_eq_of_perm {l l' : List Int} (h : l.Perm l') : pick l = pick l' := by
  ext a
  simp only [hpick, h.mem_iff]

/-- The best of the whole is the best of the best ones of the parts. -/
theorem pick_filterMap_pick (hnone : ∀ {l}, pick l = none ↔ l = []) (parts : List (List Int)) :
    pick (parts.filterMap pick) = pick parts.flatten := by
  cases hwhole : pick parts.flatten with
  | none =>
      have hempty := List.flatten_eq_nil_iff.mp (hnone.mp hwhole)
      rw [hnone, List.filterMap_eq_nil_iff]
      exact fun part hpart => hnone.mpr (hempty part hpart)
  | some a =>
      obtain ⟨hmem, hbest⟩ := hpick.mp hwhole
      obtain ⟨part, hpart, ha⟩ := List.mem_flatten.mp hmem
      have hpicked : pick part = some a :=
        hpick.mpr ⟨ha, fun b hb => hbest b (List.mem_flatten_of_mem hpart hb)⟩
      refine hpick.mpr ⟨List.mem_filterMap.mpr ⟨part, hpart, hpicked⟩, ?_⟩
      intro b hb
      obtain ⟨other, hother, hb⟩ := List.mem_filterMap.mp hb
      exact hbest b (List.mem_flatten_of_mem hother (hpick.mp hb).1)

end Pick

theorem max?_pick {numbers : List Int} {a : Int} :
    numbers.max? = some a ↔ a ∈ numbers ∧ ∀ b ∈ numbers, b ≤ a :=
  List.max?_eq_some_iff

theorem min?_pick {numbers : List Int} {a : Int} :
    numbers.min? = some a ↔ a ∈ numbers ∧ ∀ b ∈ numbers, a ≤ b :=
  List.min?_eq_some_iff

/-! ### Reductions of integers to an integer -/

/-- The reducers that make an integer of integers. -/
def Folds (r : Reducer) : Prop := r = sum ∨ r = max ∨ r = min

/-- The number that such a reducer makes of some integers, if it stays within a counter. -/
def fold? : Reducer → List Int → Option (Option Int)
  | max, numbers => some numbers.max?
  | min, numbers => some numbers.min?
  | _, numbers => (total? numbers).map some

theorem forall₂_some_iff {α β : Type} {f : α → β} {xs : List α} {ys : List β} :
    xs.Forall₂ (fun x y => some (f x) = some y) ys ↔ xs.map f = ys := by
  simp only [Option.some.injEq]
  rw [← List.forall₂_map_left_iff (R := fun x y => x = y), List.forall₂_eq_eq_eq]

theorem forall₂_map_some_iff {α β : Type} {f : α → Option β} {xs : List α} {ys : List (Option β)} :
    xs.Forall₂ (fun x y => (f x).map some = some y) ys ↔
      ∃ zs, xs.Forall₂ (fun x z => f x = some z) zs ∧ zs.map some = ys := by
  rw [← forall₂_exists_map_iff]
  simp only [Option.map_eq_some_iff]

/-- Reducing the numbers of the parts gives the number of the whole. -/
theorem fold?_flatten {r : Reducer} {parts : List (List Int)} {numbers : List (Option Int)}
    {n : Option Int} (hparts : parts.Forall₂ (fun part n => r.fold? part = some n) numbers)
    (h : r.fold? parts.flatten = some n) : r.fold? (numbers.filterMap id) = some n := by
  cases r with
  | max =>
      rw [← forall₂_some_iff.mp hparts, List.filterMap_map]
      exact (congrArg some (pick_filterMap_pick max?_pick List.max?_eq_none_iff parts)).trans h
  | min =>
      rw [← forall₂_some_iff.mp hparts, List.filterMap_map]
      exact (congrArg some (pick_filterMap_pick min?_pick List.min?_eq_none_iff parts)).trans h
  | sum | mean | count | identity =>
      obtain ⟨total, htotal, rfl⟩ := Option.map_eq_some_iff.mp h
      obtain ⟨sums, hsums, rfl⟩ := forall₂_map_some_iff.mp hparts
      have hvalues : (sums.map some).filterMap id = sums := by simp
      rw [hvalues]
      exact Option.map_eq_some_iff.mpr ⟨total, total?_flatten hsums htotal, rfl⟩

end Reducer

/-! ### Cells of windows -/

namespace Column

variable {c d : Column}

theorem intsAt_eq (c : Column) (rows : List Nat) :
    c.intsAt rows = (rows.map c.cell).filterMap Cell.int? := by
  rw [intsAt, cellsAt_eq]

/-- The integers of rows that are laid end to end. -/
theorem intsAt_flatMap {α : Type} (c : Column) (f : α → List Nat) (xs : List α) :
    c.intsAt (xs.flatMap f) = (xs.map fun x => c.intsAt (f x)).flatten := by
  simp only [intsAt_eq, List.map_flatMap, List.filterMap_flatMap]
  rfl

theorem pieces_cons (cells : List Cell) (start stop : Nat) (windows : List (List Nat)) :
    pieces cells (start :: offsetsFrom stop windows) =
      (cells.drop start).take (stop - start) :: pieces cells (offsetsFrom stop windows) := by
  have hextract : (cells.toArray.extract start stop).toList =
      (cells.drop start).take (stop - start) := by
    rw [Array.toList_extract, List.extract_eq_take_drop]
  cases windows <;> simp only [pieces, offsetsFrom, List.tail_cons, List.zip_cons_cons,
    List.map_cons, hextract]

/-- The cells between the offsets of some windows are the cells of their rows. -/
theorem pieces_offsetsFrom (c : Column) (before : List Cell) (windows : List (List Nat)) :
    pieces (before ++ windows.flatten.map c.cell) (offsetsFrom before.length windows) =
      windows.map fun rows => rows.map c.cell := by
  induction windows generalizing before with
  | nil => rfl
  | cons rows rest ih =>
      have hfirst : ∀ others, ((before ++ (rows.map c.cell ++ others)).drop before.length).take
          (before.length + rows.length - before.length) = rows.map c.cell := by
        intro others
        rw [List.drop_left, Nat.add_sub_cancel_left]
        exact List.take_left' (List.length_map _)
      have hrest := ih (before ++ rows.map c.cell)
      rw [List.length_append, List.length_map, List.append_assoc] at hrest
      rw [offsetsFrom, pieces_cons, List.flatten_cons, List.map_append, hrest, hfirst,
        List.map_cons]

theorem cells_ofLists (c : Column) (windows : List (List Nat)) :
    (c.ofLists windows).cells = windows.map fun rows => .list (rows.map c.cell) := by
  have hpieces : pieces (c.cellsAt windows.flatten) (offsets windows) =
      windows.map fun rows => rows.map c.cell := by
    rw [cellsAt_eq]
    exact c.pieces_offsetsFrom [] windows
  change (pieces (c.cellsAt windows.flatten) (offsets windows)).map Cell.list = _
  rw [hpieces, List.map_map]
  rfl

end Column

namespace Reducer

variable {r : Reducer} {c d : Column} {windows : List (List Nat)}

/-- The column that such a reducer makes of 64-bit integers has the number of each window. -/
theorem reduce_eq_ok_iff (hr : r.Folds) (htype : c.type = .int64) :
    r.reduce c windows = .ok d ↔ ∃ numbers,
      windows.Forall₂ (fun rows n => r.fold? (c.intsAt rows) = some n) numbers ∧
        .ofInts c.name numbers = d := by
  have hbest : ∀ pick : List Int → Option Int,
      (Except.ok (.ofInts c.name (windows.map fun rows => pick (c.intsAt rows))) : Except Error _) =
        .ok d ↔ ∃ numbers, windows.Forall₂ (fun rows n => some (pick (c.intsAt rows)) = some n)
          numbers ∧ .ofInts c.name numbers = d := by
    intro pick
    simp only [forall₂_some_iff, Except.ok.injEq, exists_eq_left']
  rcases hr with rfl | rfl | rfl
  · rw [reduce, reduceNumbers, if_pos htype, reduceInts]
    simp only [bind_eq_ok_iff, mapM_eq_ok_iff, elim_eq_ok_iff, fold?, forall₂_map_some_iff]
    constructor
    · rintro ⟨sums, hsums, h⟩
      exact ⟨_, ⟨sums, hsums, rfl⟩, Except.ok.inj h⟩
    · rintro ⟨_, ⟨sums, hsums, rfl⟩, h⟩
      exact ⟨sums, hsums, congrArg Except.ok h⟩
  · rw [reduce, reduceNumbers, if_pos htype, reduceInts]
    exact hbest List.max?
  · rw [reduce, reduceNumbers, if_pos htype, reduceInts]
    exact hbest List.min?

end Reducer

end Cadence
