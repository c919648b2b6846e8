import Cadence.Proofs.Reducer.Failure
import Cadence.Proofs.Reducer.Parts
import Mathlib.Algebra.Order.BigOperators.Group.List

/-!
# Sums held to a counter

The integers of a window are added up from the left, and every total on the way has to fit a
counter, not only the last one. So the order of the rows can decide whether a window has a sum,
but never which sum it has.
-/

namespace Cadence

namespace Reducer

/-- Every total on the way through some numbers fits a counter. -/
def Accumulates (numbers : List Int) : Prop :=
  ∀ front, front <+: numbers → Counter.Fits front.sum

/-- The total of the positive numbers among some numbers. -/
def gains (numbers : List Int) : Int := (numbers.filter (0 < ·)).sum

/-- The total of the negative numbers among some numbers. -/
def losses (numbers : List Int) : Int := (numbers.filter (· < 0)).sum

variable {numbers order : List Int} {start n : Int}

/-! ### Totals on the way -/

theorem foldlM_sum_eq_some_iff (hstart : Counter.Fits start) :
    numbers.foldlM (fun sum n => Counter.fit? (sum + n)) start = some n ↔
      (∀ front, front <+: numbers → Counter.Fits (start + front.sum)) ∧
        start + numbers.sum = n := by
  induction numbers generalizing start with
  | nil => simpa using fun _ => hstart
  | cons x numbers ih =>
      rw [List.foldlM_cons, Option.bind_eq_bind, Option.bind_eq_some_iff]
      simp only [Counter.fit?_eq_some_iff, List.prefix_cons_iff, forall_eq_or_imp,
        forall_exists_index, and_imp, List.sum_nil, Int.add_zero, List.sum_cons, ← Int.add_assoc]
      constructor
      · rintro ⟨_, ⟨hfits, rfl⟩, h⟩
        obtain ⟨hfronts, htotal⟩ := (ih hfits).mp h
        refine ⟨⟨hstart, ?_⟩, htotal⟩
        rintro _ rest rfl hrest
        rw [List.sum_cons, ← Int.add_assoc]
        exact hfronts rest hrest
      · rintro ⟨⟨-, hfronts⟩, htotal⟩
        have hrests : ∀ rest, rest <+: numbers → Counter.Fits (start + x + rest.sum) := by
          intro rest hrest
          rw [Int.add_assoc, ← List.sum_cons]
          exact hfronts _ rest rfl hrest
        have hfits : Counter.Fits (start + x) := by
          simpa using hrests [] List.nil_prefix
        exact ⟨_, ⟨hfits, rfl⟩, (ih hfits).mpr ⟨hrests, htotal⟩⟩

/-- Numbers have a total exactly when every total on the way fits a counter. -/
theorem total?_eq_some_iff : total? numbers = some n ↔ Accumulates numbers ∧ numbers.sum = n := by
  refine (foldlM_sum_eq_some_iff fits_zero).trans ?_
  simp only [Int.zero_add]
  rfl

theorem total?_eq_none_iff : total? numbers = none ↔ ¬Accumulates numbers := by
  rw [Option.eq_none_iff_forall_ne_some]
  simp [total?_eq_some_iff]

instance (numbers : List Int) : Decidable (Accumulates numbers) :=
  decidable_of_iff ((total? numbers).isSome = true) <| by
    simp [Option.isSome_iff_exists, total?_eq_some_iff]

theorem Accumulates.fits_sum (h : Accumulates numbers) : Counter.Fits numbers.sum :=
  h numbers List.prefix_rfl

/-! ### The order of the numbers -/

/-- As long as the last total is in reach, some number does not leave the range: one that leads
back towards zero, or else any one, since then all lead on to the last total. -/
theorem exists_mem_fits_add (hstart : Counter.Fits start)
    (hend : Counter.Fits (start + numbers.sum)) (hnumbers : ∀ x ∈ numbers, Counter.Fits x)
    (hne : numbers ≠ []) : ∃ x ∈ numbers, Counter.Fits (start + x) := by
  by_contra! hout
  obtain ⟨x, rest, rfl⟩ := List.exists_cons_of_ne_nil hne
  rw [List.sum_cons] at hend
  rcases Int.le_total 0 start with hsign | hsign
  · have habove : ∀ y ∈ x :: rest, Counter.greatest < start + y := by
      intro y hy
      have hfits := hnumbers y hy
      have hbeyond := hout y hy
      omega
    have hrest : 0 ≤ rest.sum := List.sum_nonneg fun y hy => by
      have := habove y (List.mem_cons_of_mem x hy)
      omega
    have hfirst := habove x List.mem_cons_self
    omega
  · have hbelow : ∀ y ∈ x :: rest, start + y < Counter.least := by
      intro y hy
      have hfits := hnumbers y hy
      have hbeyond := hout y hy
      omega
    have hrest : rest.sum ≤ rest.length • 0 := List.sum_le_card_nsmul rest 0 fun y hy => by
      have := hbelow y (List.mem_cons_of_mem x hy)
      omega
    rw [nsmul_zero] at hrest
    have hfirst := hbelow x List.mem_cons_self
    omega

theorem exists_perm_fits_add (hstart : Counter.Fits start)
    (hend : Counter.Fits (start + numbers.sum)) (hnumbers : ∀ x ∈ numbers, Counter.Fits x) :
    ∃ order : List Int, order.Perm numbers ∧
      ∀ front, front <+: order → Counter.Fits (start + front.sum) := by
  induction hlength : numbers.length generalizing numbers start with
  | zero =>
      obtain rfl := List.length_eq_zero_iff.mp hlength
      exact ⟨[], .rfl, by simpa using hstart⟩
  | succ k ih =>
      have hne : numbers ≠ [] := List.ne_nil_of_length_eq_add_one hlength
      obtain ⟨x, hx, hfits⟩ := exists_mem_fits_add hstart hend hnumbers hne
      have hperm := List.perm_cons_erase hx
      rw [hperm.sum_eq, List.sum_cons, ← Int.add_assoc] at hend
      obtain ⟨order, horder, hfronts⟩ := ih hfits hend
        (fun y hy => hnumbers y (List.mem_of_mem_erase hy))
        (by rw [List.length_erase_of_mem hx, hlength]; rfl)
      refine ⟨x :: order, (horder.cons x).trans hperm.symm, ?_⟩
      intro front hfront
      rcases List.prefix_cons_iff.mp hfront with rfl | ⟨rest, rfl, hrest⟩
      · simpa using hstart
      · rw [List.sum_cons, ← Int.add_assoc]
        exact hfronts rest hrest

/-- Numbers whose sum fits a counter can be added up in some order. -/
theorem exists_perm_accumulates (hnumbers : ∀ x ∈ numbers, Counter.Fits x)
    (hsum : Counter.Fits numbers.sum) :
    ∃ order : List Int, order.Perm numbers ∧ Accumulates order := by
  obtain ⟨order, hperm, hfronts⟩ := exists_perm_fits_add fits_zero
    (by simpa using hsum : Counter.Fits (0 + numbers.sum)) hnumbers
  exact ⟨order, hperm, fun front hfront => by simpa using hfronts front hfront⟩

/-- No total of some of the numbers is below their losses or above their gains. -/
theorem bounds_of_sublist {front : List Int} (h : front.Sublist numbers) :
    losses numbers ≤ front.sum ∧ front.sum ≤ gains numbers := by
  unfold losses gains
  induction h with
  | slnil => simp
  | cons x _ ih | cons_cons x _ ih =>
      simp only [List.filter_cons, List.sum_cons]
      split <;> split <;> simp only [List.sum_cons, decide_eq_true_eq] at * <;> omega

/-- Numbers can be added up in every order exactly when their gains and their losses fit. -/
theorem forall_perm_accumulates_iff :
    (∀ order : List Int, order.Perm numbers → Accumulates order) ↔
      Counter.Fits (gains numbers) ∧ Counter.Fits (losses numbers) := by
  constructor
  · intro h
    have hfirst : ∀ p : Int → Bool, Counter.Fits (numbers.filter p).sum := fun p =>
      h _ (List.filter_append_perm p numbers) _ (List.prefix_append _ _)
    exact ⟨hfirst _, hfirst _⟩
  · rintro ⟨hgains, hlosses⟩ order hperm front hfront
    obtain ⟨hleast, hgreatest⟩ := bounds_of_sublist hfront.sublist
    have hsame : ∀ p, (order.filter p).sum = (numbers.filter p).sum := fun p =>
      (hperm.filter p).sum_eq
    unfold gains at hgains hgreatest
    unfold losses at hlosses hleast
    rw [hsame] at hgreatest hleast
    exact ⟨hlosses.1.trans hleast, hgreatest.trans hgains.2⟩

/-! ### The order of the rows -/

theorem exists_perm_filterMap {α β : Type} {f : α → Option β} {xs : List α} {ys : List β}
    (h : ys.Perm (xs.filterMap f)) : ∃ xs' : List α, xs'.Perm xs ∧ xs'.filterMap f = ys := by
  induction ys generalizing xs with
  | nil => exact ⟨xs, .rfl, h.nil_eq.symm⟩
  | cons y ys ih =>
      obtain ⟨x, hx, hy⟩ := List.mem_filterMap.mp (h.mem_iff.mp List.mem_cons_self)
      obtain ⟨before, after, rfl⟩ := List.append_of_mem hx
      have hmiddle : (before ++ x :: after).Perm (x :: (before ++ after)) := List.perm_middle
      have hrest := h.trans (hmiddle.filterMap f)
      rw [List.filterMap_cons_some hy] at hrest
      obtain ⟨xs', hperm, rfl⟩ := ih hrest.cons_inv
      exact ⟨x :: xs', (hperm.cons x).trans hmiddle.symm, List.filterMap_cons_some hy⟩

variable {c d : Column} {rows : List Nat} {windows orders : List (List Nat)}

theorem fits_of_mem_intsAt (hcells : ∀ n, .int n ∈ c.cells → Counter.Fits n) :
    ∀ n ∈ c.intsAt rows, Counter.Fits n := by
  intro n hn
  rw [Column.intsAt_eq, List.filterMap_map] at hn
  obtain ⟨row, -, hrow⟩ := List.mem_filterMap.mp hn
  apply hcells
  have hcell : c.cell row = .int n := by
    cases hx : c.cell row <;> simp [hx, Cell.int?] at hrow
    rw [hrow]
  rw [Column.cell, List.getD_eq_getElem?_getD] at hcell
  cases hx : c.cells[row]? with
  | none => simp [hx] at hcell
  | some x =>
      rw [hx] at hcell
      exact hcell ▸ List.mem_of_getElem? hx

theorem intsAt_perm {rows' : List Nat} (h : rows'.Perm rows) :
    (c.intsAt rows').Perm (c.intsAt rows) := by
  simp only [Column.intsAt_eq]
  exact (h.map _).filterMap _

/-- Whatever order the values of some rows are put in, some order of the rows puts them so. -/
theorem exists_perm_intsAt {order : List Int} (h : order.Perm (c.intsAt rows)) :
    ∃ rows' : List Nat, rows'.Perm rows ∧ c.intsAt rows' = order := by
  simp only [Column.intsAt_eq, List.filterMap_map] at h ⊢
  exact exists_perm_filterMap h

theorem reduce_sum_eq_ok_iff (htype : c.type = .int64) :
    sum.reduce c windows = .ok d ↔ (∀ rows ∈ windows, Accumulates (c.intsAt rows)) ∧
      .ofInts c.name (windows.map fun rows => some (c.intsAt rows).sum) = d := by
  have hsums : ∀ sums, windows.Forall₂ (fun rows n => Accumulates (c.intsAt rows) ∧
      (c.intsAt rows).sum = n) sums ↔ (∀ rows ∈ windows, Accumulates (c.intsAt rows)) ∧
        windows.map (fun rows => (c.intsAt rows).sum) = sums := by
    intro sums
    rw [List.forall₂_and_left, ← List.forall₂_map_left_iff (R := fun m n => m = n),
      List.forall₂_eq_eq_eq]
  rw [reduce_eq_ok_iff (.inl rfl) htype]
  simp only [fold?, forall₂_map_some_iff, total?_eq_some_iff, hsums]
  constructor
  · rintro ⟨_, ⟨_, ⟨hall, rfl⟩, rfl⟩, rfl⟩
    exact ⟨hall, by rw [List.map_map]; rfl⟩
  · rintro ⟨hall, rfl⟩
    exact ⟨_, ⟨_, ⟨hall, rfl⟩, rfl⟩, by rw [List.map_map]; rfl⟩

theorem reduce_sum_eq_error_iff {e : Error} (htype : c.type = .int64) :
    sum.reduce c windows = .error e ↔
      (∃ rows ∈ windows, ¬Accumulates (c.intsAt rows)) ∧ .data .sumOverflow = e := by
  have honly : ∀ e, sum.reduce c windows = .error e →
      (∃ rows ∈ windows, ¬Accumulates (c.intsAt rows)) ∧ .data .sumOverflow = e := by
    intro e he
    cases failsOnly_reduce sum c windows e he with
    | type hsupports => rw [htype] at hsupports; cases hsupports
    | sum _ _ hrows htotal => exact ⟨⟨_, hrows, total?_eq_none_iff.mp htotal⟩, rfl⟩
    | lists hidentity => cases hidentity
  refine ⟨honly e, ?_⟩
  rintro ⟨⟨rows, hrows, hnot⟩, rfl⟩
  cases hreduce : sum.reduce c windows with
  | ok d => exact absurd (((reduce_sum_eq_ok_iff htype).mp hreduce).1 rows hrows) hnot
  | error e => rw [(honly e hreduce).2]

/-- Windows whose sums all fit have sums in some order of their rows. -/
theorem exists_orders_accumulate (hcells : ∀ n, .int n ∈ c.cells → Counter.Fits n)
    (hsums : ∀ rows ∈ windows, Counter.Fits (c.intsAt rows).sum) :
    ∃ orders, List.Forall₂ List.Perm orders windows ∧
      ∀ rows ∈ orders, Accumulates (c.intsAt rows) := by
  have hrows : ∀ rows ∈ windows, ∃ rows' : List Nat,
      rows'.Perm rows ∧ Accumulates (c.intsAt rows') := by
    intro rows hrows
    obtain ⟨order, hperm, horder⟩ :=
      exists_perm_accumulates (fits_of_mem_intsAt hcells) (hsums rows hrows)
    obtain ⟨rows', hrows', rfl⟩ := exists_perm_intsAt hperm
    exact ⟨rows', hrows', horder⟩
  obtain ⟨orders, horders⟩ := exists_forall₂ hrows
  refine ⟨orders, horders.flip.imp fun _ _ h => h.1, ?_⟩
  intro rows' hmem
  obtain ⟨_, -, -, h⟩ := exists_of_forall₂_right horders hmem
  exact h

theorem sums_eq_of_perm (h : List.Forall₂ List.Perm orders windows) :
    orders.map (fun rows => (c.intsAt rows).sum) = windows.map fun rows => (c.intsAt rows).sum :=
  (map_eq_map_of_forall₂ (h.imp fun _ _ hperm => (intsAt_perm hperm).sum_eq.symm)).symm

theorem fits_sum_of_orders (horders : List.Forall₂ List.Perm orders windows)
    (hall : ∀ rows ∈ orders, Accumulates (c.intsAt rows)) :
    ∀ rows ∈ windows, Counter.Fits (c.intsAt rows).sum := by
  intro rows hrows
  obtain ⟨rows', hrows', hperm⟩ := exists_of_forall₂_right horders hrows
  rw [← (intsAt_perm hperm).sum_eq]
  exact (hall rows' hrows').fits_sum

theorem reduce_sum_of_not_fits (htype : c.type = .int64)
    (horders : List.Forall₂ List.Perm orders windows)
    (h : ∃ rows ∈ windows, ¬Counter.Fits (c.intsAt rows).sum) :
    sum.reduce c orders = .error (.data .sumOverflow) := by
  obtain ⟨rows, hrows, hnot⟩ := h
  refine (reduce_sum_eq_error_iff htype).mpr ⟨?_, rfl⟩
  by_contra! hall
  exact hnot (fits_sum_of_orders horders hall rows hrows)

theorem reduce_sum_of_fits_parts (htype : c.type = .int64)
    (horders : List.Forall₂ List.Perm orders windows)
    (h : ∀ rows ∈ windows, Counter.Fits (gains (c.intsAt rows)) ∧
      Counter.Fits (losses (c.intsAt rows))) :
    sum.reduce c orders =
      .ok (.ofInts c.name ((windows.map fun rows => (c.intsAt rows).sum).map some)) := by
  refine (reduce_sum_eq_ok_iff htype).mpr ⟨?_, ?_⟩
  · intro rows' hrows'
    obtain ⟨rows, hrows, hperm⟩ := exists_of_forall₂_right horders.flip hrows'
    exact forall_perm_accumulates_iff.mpr (h rows hrows) _ (intsAt_perm hperm)
  · rw [← sums_eq_of_perm horders, List.map_map]
    rfl

/-- The rows of one window can be put in any order, those of the others left as they are. -/
theorem exists_orders_mem {rows rows' : List Nat} (hrows : rows ∈ windows)
    (hperm : rows'.Perm rows) :
    ∃ orders, List.Forall₂ List.Perm orders windows ∧ rows' ∈ orders := by
  refine ⟨windows.map fun w => if w = rows then rows' else w, ?_, ?_⟩
  · rw [List.forall₂_map_left_iff, List.forall₂_same]
    intro w _
    split
    · next hw => exact hw ▸ hperm
    · exact .rfl
  · exact List.mem_map.mpr ⟨rows, hrows, if_pos rfl⟩

/-- The exact sums fit exactly when the rows of the windows have an order with these sums. -/
theorem exists_orders_iff (htype : c.type = .int64)
    (hcells : ∀ n, .int n ∈ c.cells → Counter.Fits n) :
    (∃ orders, List.Forall₂ List.Perm orders windows ∧ ∃ d, sum.reduce c orders = .ok d) ↔
      ∀ rows ∈ windows, Counter.Fits (c.intsAt rows).sum := by
  constructor
  · rintro ⟨orders, horders, d, hd⟩
    exact fits_sum_of_orders horders ((reduce_sum_eq_ok_iff htype).mp hd).1
  · intro hsums
    obtain ⟨orders, horders, hall⟩ := exists_orders_accumulate hcells hsums
    exact ⟨orders, horders, _, (reduce_sum_eq_ok_iff htype).mpr ⟨hall, rfl⟩⟩

/-- The order of the rows does not matter exactly when some sum fits in no order, or when no
order can leave the range. -/
theorem forall_orders_iff (htype : c.type = .int64)
    (hcells : ∀ n, .int n ∈ c.cells → Counter.Fits n) :
    (∀ orders, List.Forall₂ List.Perm orders windows →
        sum.reduce c orders = sum.reduce c windows) ↔
      (∃ rows ∈ windows, ¬Counter.Fits (c.intsAt rows).sum) ∨
        ∀ rows ∈ windows, Counter.Fits (gains (c.intsAt rows)) ∧
          Counter.Fits (losses (c.intsAt rows)) := by
  have hself : List.Forall₂ List.Perm windows windows := List.forall₂_same.mpr fun _ _ => .rfl
  constructor
  · intro hsame
    by_cases hsums : ∀ rows ∈ windows, Counter.Fits (c.intsAt rows).sum
    · refine .inr fun rows hrows => forall_perm_accumulates_iff.mp fun order horder => ?_
      obtain ⟨rows', hperm, rfl⟩ := exists_perm_intsAt horder
      obtain ⟨others, hothers, hmem⟩ := exists_orders_mem hrows hperm
      obtain ⟨orders, horders, hall⟩ := exists_orders_accumulate hcells hsums
      have hreduce := (reduce_sum_eq_ok_iff htype).mpr ⟨hall, rfl⟩
      rw [hsame orders horders, ← hsame others hothers] at hreduce
      exact ((reduce_sum_eq_ok_iff htype).mp hreduce).1 rows' hmem
    · push Not at hsums
      exact .inl hsums
  · rintro (h | h) orders horders
    · rw [reduce_sum_of_not_fits htype horders h, reduce_sum_of_not_fits htype hself h]
    · rw [reduce_sum_of_fits_parts htype horders h, reduce_sum_of_fits_parts htype hself h]

/-- A column of counters has a sum for each window exactly when every total on the way fits a
counter, and these are the exact sums. The exact sums fit exactly when the rows of the windows
have an order in which that is so. Their order does not matter exactly when some sum does not
fit, or when the gains and the losses of each window fit on their own. -/
theorem reduce_sum_outcome (htype : c.type = .int64)
    (hcells : ∀ n, .int n ∈ c.cells → Counter.Fits n) (windows : List (List Nat)) :
    (∀ d, sum.reduce c windows = .ok d ↔ (∀ rows ∈ windows, Accumulates (c.intsAt rows)) ∧
      .ofInts c.name (windows.map fun rows => some (c.intsAt rows).sum) = d) ∧
    (∀ e, sum.reduce c windows = .error e ↔
      (∃ rows ∈ windows, ¬Accumulates (c.intsAt rows)) ∧ .data .sumOverflow = e) ∧
    ((∃ orders, List.Forall₂ List.Perm orders windows ∧ ∃ d, sum.reduce c orders = .ok d) ↔
      ∀ rows ∈ windows, Counter.Fits (c.intsAt rows).sum) ∧
    ((∀ orders, List.Forall₂ List.Perm orders windows →
        sum.reduce c orders = sum.reduce c windows) ↔
      (∃ rows ∈ windows, ¬Counter.Fits (c.intsAt rows).sum) ∨
        ∀ rows ∈ windows, Counter.Fits (gains (c.intsAt rows)) ∧
          Counter.Fits (losses (c.intsAt rows))) :=
  ⟨fun _ => reduce_sum_eq_ok_iff htype, fun _ => reduce_sum_eq_error_iff htype,
    exists_orders_iff htype hcells, forall_orders_iff htype hcells⟩

end Reducer

/-- The greatest counter, a missing value, and a step up and down again. -/
def Column.peak : Column :=
  ⟨⟨"load", .int64, true⟩, [.int Counter.greatest, .null, .int 1, .int (-1)], by decide⟩

namespace Reducer

/-- A step up past the greatest counter is refused, although the sum fits and the other order
makes it. Without a step down no order makes it. -/
theorem reduce_sum_outcome_peak :
    Column.peak.type = .int64 ∧ (∀ n, .int n ∈ Column.peak.cells → Counter.Fits n) ∧
      sum.reduce .peak [[0, 1, 3, 2], [1]] =
        .ok (.ofInts "load" [some Counter.greatest, some 0]) ∧
      sum.reduce .peak [[0, 1, 2, 3], [1]] = .error (.data .sumOverflow) ∧
      (∃ orders, List.Forall₂ List.Perm orders [[0, 1, 2, 3], [1]] ∧
        ∃ d, sum.reduce .peak orders = .ok d) ∧
      ∀ orders, List.Forall₂ List.Perm orders [[0, 2]] →
        sum.reduce .peak orders = .error (.data .sumOverflow) := by
  have hcells : ∀ n, .int n ∈ Column.peak.cells → Counter.Fits n := by
    simp [Column.peak, Counter.Fits, Counter.least, Counter.greatest]
  obtain ⟨hmade, -⟩ := reduce_sum_outcome rfl hcells [[0, 1, 3, 2], [1]]
  obtain ⟨-, hrefused, hsome, -⟩ := reduce_sum_outcome rfl hcells [[0, 1, 2, 3], [1]]
  obtain ⟨-, hpast, -, hsame⟩ := reduce_sum_outcome rfl hcells [[0, 2]]
  refine ⟨rfl, hcells, (hmade _).mpr ⟨by decide, rfl⟩, (hrefused _).mpr ⟨by decide, rfl⟩,
    hsome.mpr (by decide), ?_⟩
  intro orders horders
  rw [hsame.mpr (.inl (by decide)) orders horders]
  exact (hpast _).mpr ⟨by decide, rfl⟩

/-- A sum that fits a counter is refused in one order of the rows and made in another. -/
theorem reduce_sum_past_counter :
    Column.peak.type = .int64 ∧ (∀ n, .int n ∈ Column.peak.cells → Counter.Fits n) ∧
      (∀ rows ∈ [[0, 2, 3]], Counter.Fits (Column.peak.intsAt rows).sum) ∧
      sum.reduce .peak [[0, 2, 3]] = .error (.data .sumOverflow) ∧
      sum.reduce .peak [[0, 3, 2]] = .ok (.ofInts "load" [some Counter.greatest]) := by
  refine ⟨rfl, by simp [Column.peak, Counter.Fits, Counter.least, Counter.greatest], ?_, rfl, rfl⟩
  decide

end Reducer

end Cadence
