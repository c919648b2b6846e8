import Cadence.Window.Assignment
import Mathlib.Data.Finset.Card
import Mathlib.Data.List.Induction
import Mathlib.Data.List.Nodup

/-!
# Filing rows

Numbering gives every new key the next number. Filing keeps one window for each
slot that has come up, and the rows of a window are the rows of its slot in their
order. Both are shown for one step and carried through a run. The counter of
instants is exact when the instants of a window never go back.
-/

namespace Cadence

/-! ### Groups -/

/-- The keys are numbered after the known ones, in the order of their first appearance. -/
structure Grouping.Numbers (g : Grouping) (known keys : List (List Cell)) : Prop where
  known_isPrefix : known <+: g.keys
  nodup : g.keys.Nodup
  length_rows : g.rows.length = keys.length
  key_eq : ∀ i n : Nat, g.rows[i]? = some n → g.keys[n]? = keys[i]?
  appears : ∀ n < g.keys.length, n < known.length ∨ n ∈ g.rows
  inOrder : ∀ i n : Nat, g.rows[i]? = some n →
    ∀ m < n, m < known.length ∨ ∃ j < i, g.rows[j]? = some m

namespace Grouping

variable {known keys : List (List Cell)} {key : List Cell} {g : Grouping}

/-- A key is numbered by its place among the known ones, or after them. Whatever the
rest is numbered after has the key at that place and no other new key. -/
theorem Numbers.cons {more : List (List Cell)} (hmore : known <+: more)
    (hkey : more[known.idxOf key]? = some key)
    (hnew : ∀ n < more.length, n < known.length ∨ n = known.idxOf key)
    (h : g.Numbers more keys) :
    Numbers ⟨known.idxOf key :: g.rows, g.keys⟩ known (key :: keys) where
  known_isPrefix := hmore.trans h.known_isPrefix
  nodup := h.nodup
  length_rows := congrArg (· + 1) h.length_rows
  key_eq := by
    intro i n hi
    cases i with
    | zero =>
        cases hi
        obtain ⟨others, hkeys⟩ := h.known_isPrefix
        obtain ⟨hlt, -⟩ := List.getElem?_eq_some_iff.mp hkey
        rw [List.getElem?_cons_zero, ← hkey, ← hkeys, List.getElem?_append_left hlt]
    | succ i => exact h.key_eq i n hi
  appears := by
    intro n hn
    rcases h.appears n hn with hlt | hmem
    · exact (hnew n hlt).imp_right fun heq => List.mem_cons.mpr (Or.inl heq)
    · exact Or.inr (List.mem_cons_of_mem _ hmem)
  inOrder := by
    intro i n hi m hm
    cases i with
    | zero =>
        cases hi
        exact Or.inl (Nat.lt_of_lt_of_le hm List.idxOf_le_length)
    | succ i =>
        rcases h.inOrder i n hi m hm with hlt | ⟨j, hj, hrow⟩
        · exact (hnew m hlt).imp_right fun heq => ⟨0, by omega, congrArg some heq.symm⟩
        · exact Or.inr ⟨j + 1, by omega, hrow⟩

theorem numbers_extend (hknown : known.Nodup) (keys : List (List Cell)) :
    (extend known keys).Numbers known keys := by
  induction keys generalizing known with
  | nil =>
      exact ⟨List.prefix_rfl, hknown, rfl, by simp [extend], fun n hn => Or.inl hn,
        by simp [extend]⟩
  | cons key keys ih =>
      by_cases hkey : key ∈ known
      · have hextend : extend known (key :: keys) =
            ⟨known.idxOf key :: (extend known keys).rows, (extend known keys).keys⟩ := by
          simp only [extend, if_pos hkey]
        rw [hextend]
        exact (ih hknown).cons List.prefix_rfl (List.getElem?_idxOf hkey) fun n hn => Or.inl hn
      · have hextend : extend known (key :: keys) =
            ⟨known.idxOf key :: (extend (known ++ [key]) keys).rows,
              (extend (known ++ [key]) keys).keys⟩ := by
          simp only [extend, if_neg hkey]
        have hnodup : (known ++ [key]).Nodup := by
          rw [List.nodup_append]
          exact ⟨hknown, by simp, by simpa using fun x hx => ne_of_mem_of_not_mem hx hkey⟩
        rw [hextend]
        apply (ih hnodup).cons (List.prefix_append known [key])
        · simp [List.idxOf_eq_length hkey]
        · intro n hn
          rw [List.idxOf_eq_length hkey]
          exact Nat.lt_succ_iff_lt_or_eq.mp (by simpa using hn)

end Grouping

/-! ### Open windows -/

namespace OpenWindow

variable {label : Label} {p first : Placement} {ps rest : List Placement}
variable {w : OpenWindow} {ws : List OpenWindow}

/-- The window that a first row opens and the others join. -/
def collect (label : Label) (first : Placement) (rest : List Placement) : OpenWindow :=
  rest.foldl add (start label first)

theorem collect_append : collect label first (rest ++ [p]) = (collect label first rest).add p := by
  simp [collect]

/-- A window keeps what its first row decides, and lists its rows in their order. -/
theorem window_collect :
    (collect label first rest).window =
      { (start label first).window with
        rows := (first :: rest).map (·.row)
        distinct := (collect label first rest).window.distinct } := by
  induction rest using List.reverseRecOn with
  | nil => rfl
  | append_singleton rest p ih =>
      rw [collect_append, add, ih]
      simp [start]

theorem slot_start : (start label p).slot = p.slot := rfl

theorem slot_add : (w.add p).slot = w.slot := rfl

/-! ### One step of filing -/

/-- There is one window for each slot of the rows. The rows of the slot have opened
and joined it in turn. -/
structure Filed (label : Label) (ps : List Placement) (ws : List OpenWindow) : Prop where
  nodup : (ws.map slot).Nodup
  collects : ∀ w ∈ ws, ∃ first rest,
    ps.filter (·.slot = w.slot) = first :: rest ∧ w = collect label first rest
  covers : ∀ p ∈ ps, ∃ w ∈ ws, w.slot = p.slot

/-- A row opens a window at the end, or joins the one of its slot. -/
theorem file_cases (label : Label) (p : Placement) (ws : List OpenWindow) :
    (∀ w ∈ ws, w.slot ≠ p.slot) ∧ file label p ws = ws ++ [start label p] ∨
      ∃ before w after, ws = before ++ w :: after ∧ w.slot = p.slot ∧
        file label p ws = before ++ w.add p :: after := by
  induction ws with
  | nil => exact Or.inl ⟨by simp, rfl⟩
  | cons w ws ih =>
      by_cases hslot : w.slot = p.slot
      · exact Or.inr ⟨[], w, ws, rfl, hslot, by simp only [file, if_pos hslot, List.nil_append]⟩
      · have hfile : file label p (w :: ws) = w :: file label p ws := by
          simp only [file, if_neg hslot]
        rw [hfile]
        rcases ih with ⟨hnone, heq⟩ | ⟨before, v, after, rfl, hv, heq⟩
        · refine Or.inl ⟨?_, by rw [heq, List.cons_append]⟩
          simpa using ⟨hslot, hnone⟩
        · exact Or.inr ⟨w :: before, v, after, rfl, hv, by rw [heq, List.cons_append]⟩

theorem filter_append_of_ne {slot : Slot} (h : slot ≠ p.slot) :
    (ps ++ [p]).filter (·.slot = slot) = ps.filter (·.slot = slot) := by
  simp [List.filter_append, h.symm]

theorem filter_append_of_eq {slot : Slot} (h : slot = p.slot) :
    (ps ++ [p]).filter (·.slot = slot) = ps.filter (·.slot = slot) ++ [p] := by
  simp [List.filter_append, h]

/-- A window of another slot collects the same rows as before. -/
theorem Filed.collects_append (h : Filed label ps ws) (hw : w ∈ ws) (hne : w.slot ≠ p.slot) :
    ∃ first rest, (ps ++ [p]).filter (·.slot = w.slot) = first :: rest ∧
      w = collect label first rest := by
  rw [filter_append_of_ne hne]
  exact h.collects w hw

theorem Filed.open (h : Filed label ps ws) (hnew : ∀ w ∈ ws, w.slot ≠ p.slot) :
    Filed label (ps ++ [p]) (ws ++ [start label p]) where
  nodup := by
    rw [List.map_append, List.nodup_append]
    refine ⟨h.nodup, by simp, ?_⟩
    simpa [slot_start] using hnew
  collects := by
    intro w hw
    rcases List.mem_append.mp hw with hold | hlast
    · exact h.collects_append hold (hnew w hold)
    · cases List.mem_singleton.mp hlast
      have hnone : ps.filter (·.slot = p.slot) = [] := by
        rw [List.filter_eq_nil_iff]
        intro q hq heq
        obtain ⟨w, hw, hslot⟩ := h.covers q hq
        exact hnew w hw (hslot.trans (of_decide_eq_true heq))
      refine ⟨p, [], ?_, rfl⟩
      rw [filter_append_of_eq slot_start, slot_start, hnone, List.nil_append]
  covers := by
    intro q hq
    rcases List.mem_append.mp hq with hold | hlast
    · obtain ⟨w, hw, hslot⟩ := h.covers q hold
      exact ⟨w, List.mem_append_left _ hw, hslot⟩
    · cases List.mem_singleton.mp hlast
      exact ⟨start label p, by simp, rfl⟩

theorem Filed.join {before after : List OpenWindow} (h : Filed label ps (before ++ w :: after))
    (hslot : w.slot = p.slot) : Filed label (ps ++ [p]) (before ++ w.add p :: after) where
  nodup := by
    have hnodup := h.nodup
    simpa only [List.map_append, List.map_cons, slot_add] using hnodup
  collects := by
    have hnodup := h.nodup
    simp only [List.map_append, List.map_cons, List.nodup_append, List.nodup_cons] at hnodup
    intro v hv
    rcases List.mem_append.mp hv with hbefore | hv
    · apply h.collects_append (List.mem_append_left _ hbefore)
      rw [← hslot]
      exact hnodup.2.2 _ (List.mem_map_of_mem hbefore) _ List.mem_cons_self
    · rcases List.mem_cons.mp hv with rfl | hafter
      · obtain ⟨first, rest, hrows, hw⟩ := h.collects w (by simp)
        refine ⟨first, rest ++ [p], ?_, ?_⟩
        · rw [slot_add, filter_append_of_eq hslot, hrows, List.cons_append]
        · rw [collect_append, ← hw]
      · apply h.collects_append (by simp [hafter])
        rw [← hslot]
        intro heq
        exact hnodup.2.1.1 (heq ▸ List.mem_map_of_mem hafter)
  covers := by
    intro q hq
    rcases List.mem_append.mp hq with hold | hlast
    · obtain ⟨v, hv, hq⟩ := h.covers q hold
      rcases List.mem_append.mp hv with hbefore | hv
      · exact ⟨v, List.mem_append_left _ hbefore, hq⟩
      · rcases List.mem_cons.mp hv with rfl | hafter
        · exact ⟨v.add p, by simp, hq⟩
        · exact ⟨v, by simp [hafter], hq⟩
    · cases List.mem_singleton.mp hlast
      exact ⟨w.add p, by simp, hslot⟩

theorem Filed.step (h : Filed label ps ws) : Filed label (ps ++ [p]) (file label p ws) := by
  rcases file_cases label p ws with ⟨hnew, heq⟩ | ⟨before, w, after, rfl, hslot, heq⟩
  · rw [heq]
    exact h.open hnew
  · rw [heq]
    exact h.join hslot

/-- Filing all rows leaves one window for each slot, with the rows of that slot. -/
theorem filed_fileAll (label : Label) (ps : List Placement) :
    Filed label ps (fileAll label ps) := by
  induction ps using List.reverseRecOn with
  | nil => exact ⟨List.nodup_nil, by simp [fileAll], by simp⟩
  | append_singleton ps p ih =>
      have hstep : fileAll label (ps ++ [p]) = file label p (fileAll label ps) := by
        simp [fileAll]
      rw [hstep]
      exact ih.step

/-! ### The counter of instants -/

/-- The latest instant of some rows is the greatest one, and the counter is the number
of different ones. -/
structure Counted (w : OpenWindow) (ps : List Placement) : Prop where
  le_lastSeen : ∀ p ∈ ps, p.instant ≤ w.lastSeen
  exists_lastSeen : ∃ p ∈ ps, p.instant = w.lastSeen
  distinct_eq : w.window.distinct = (ps.map (·.instant)).toFinset.card

theorem Counted.lastSeen_eq_iff (h : w.Counted ps) (hp : ∀ q ∈ ps, q.instant ≤ p.instant) :
    w.lastSeen = p.instant ↔ p.instant ∈ (ps.map (·.instant)).toFinset := by
  rw [List.mem_toFinset, List.mem_map]
  constructor
  · intro hsame
    obtain ⟨q, hq, heq⟩ := h.exists_lastSeen
    exact ⟨q, hq, heq.trans hsame⟩
  · rintro ⟨q, hq, hsame⟩
    obtain ⟨r, hr, heq⟩ := h.exists_lastSeen
    exact le_antisymm (heq ▸ hp r hr) (hsame ▸ h.le_lastSeen q hq)

/-- A row that does not go back keeps the counter exact. -/
theorem Counted.add (h : w.Counted ps) (hp : ∀ q ∈ ps, q.instant ≤ p.instant) :
    (w.add p).Counted (ps ++ [p]) where
  le_lastSeen := by
    intro q hq
    rcases List.mem_append.mp hq with hold | hnew
    · exact hp q hold
    · cases List.mem_singleton.mp hnew
      exact le_rfl
  exists_lastSeen := ⟨p, by simp, rfl⟩
  distinct_eq := by
    have hinsert : ((ps ++ [p]).map (·.instant)).toFinset =
        insert p.instant (ps.map (·.instant)).toFinset := by
      ext x
      simp
    have hadd : (w.add p).window.distinct =
        if w.lastSeen = p.instant then w.window.distinct else w.window.distinct + 1 := rfl
    rw [hinsert, hadd]
    simp only [h.lastSeen_eq_iff hp, h.distinct_eq]
    split
    · next hmem => rw [Finset.insert_eq_of_mem hmem]
    · next hmem => rw [Finset.card_insert_of_notMem hmem]

/-- While the instants of a window never go back, its counter is exact. -/
theorem counted_collect (label : Label)
    (h : ((first :: rest).map (·.instant)).Pairwise (· ≤ ·)) :
    (collect label first rest).Counted (first :: rest) := by
  induction rest using List.reverseRecOn with
  | nil => exact ⟨by simp [collect, start], by simp [collect, start], by simp [collect, start]⟩
  | append_singleton rest p ih =>
      rw [← List.cons_append, List.map_append, List.pairwise_append] at h
      obtain ⟨hsorted, -, hlast⟩ := h
      rw [collect_append, ← List.cons_append]
      apply (ih hsorted).add
      intro q hq
      exact hlast _ (List.mem_map_of_mem hq) _ (by simp)

end OpenWindow

end Cadence
