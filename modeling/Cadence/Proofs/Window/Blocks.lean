import Cadence.Proofs.Window.FewerRows
import Cadence.Proofs.Window.Nesting

/-!
# Windows of windows

Rows may be gathered in blocks before they are put into windows, one row for each block. If
the rows of a block belong together, and the blocks come in the order of their rows, the
windows of the blocks are the windows of the rows: they are in the same order, and their
blocks hold the same rows, one after the other.
-/

namespace Cadence

/-- Lists in one strict order with the same members are equal. -/
theorem eq_of_pairwise_of_mem_iff {α : Type} {R : α → α → Prop} {l l' : List α}
    (hasymm : ∀ a ∈ l, ∀ b ∈ l, R a b → ¬R b a) (hl : l.Pairwise R) (hl' : l'.Pairwise R)
    (h : ∀ a, a ∈ l ↔ a ∈ l') : l = l' := by
  have hnodup : ∀ {k : List α}, (∀ a ∈ k, a ∈ l) → k.Pairwise R → k.Nodup := by
    intro k hk hordered
    apply hordered.imp_of_mem
    rintro a b ha - hab rfl
    exact hasymm a (hk a ha) a (hk a ha) hab hab
  have hperm : l.Perm l' := (List.perm_ext_iff_of_nodup (hnodup (fun _ ha => ha) hl)
    (hnodup (fun a ha => (h a).mpr ha) hl')).mpr h
  apply List.Perm.eq_of_pairwise _ hl hl' hperm
  intro a b ha hb hab hba
  exact absurd hba (hasymm a ha b ((h b).mpr hb) hab)

namespace Assignment

variable {a a' : Assignment} {n m : Nat} {key key' : Nat → List Cell} {v w w' : Window}
variable {window window' : Nat → Except Error Bounds} {closed : Closed} {r s p q : Nat}
variable {block : Nat → List Nat} {k l : List Cell}

/-! ### The order of groups -/

/-- The groups are the keys of the rows. -/
theorem Groups.mem_groups_iff (h : a.Groups key) (hrows : a.Partitions n) :
    k ∈ a.groups ↔ ∃ r < n, key r = k := by
  constructor
  · intro hk
    obtain ⟨g, hg, rfl⟩ := List.mem_iff_getElem.mp hk
    obtain ⟨w, hw, rfl⟩ := h.appears g hg
    obtain ⟨r, hr⟩ := List.exists_mem_of_ne_nil _ (hrows.nonempty w hw)
    refine ⟨r, hrows.exists_window_iff.mp ⟨w, hw, hr⟩, ?_⟩
    have hkey := h.key_eq w hw r hr
    rw [List.getElem?_eq_getElem hg, Option.some_inj] at hkey
    exact hkey.symm
  · rintro ⟨r, hr, rfl⟩
    obtain ⟨w, hw, hr⟩ := hrows.exists_window_iff.mpr hr
    exact List.mem_of_getElem? (h.key_eq w hw r hr)

/-- A group comes before another one when each row of that one comes after a row of its own. -/
def Foregoes (key : Nat → List Cell) (n : Nat) (k l : List Cell) : Prop :=
  ∀ r < n, key r = l → ∃ s < r, key s = k

theorem Groups.pairwise_foregoes (h : a.Groups key) (hrows : a.Partitions n) :
    a.groups.Pairwise (Foregoes key n) := by
  rw [List.pairwise_iff_getElem]
  intro i j hi hj hlt r hr hkey
  obtain ⟨w, hw, hr⟩ := hrows.exists_window_iff.mpr hr
  have hgroup : a.groups[w.group]? = a.groups[j]? := by
    rw [h.key_eq w hw r hr, hkey, List.getElem?_eq_getElem hj]
  have hplace : j = w.group := (List.getElem?_inj hj h.nodup).mp hgroup.symm
  obtain ⟨v, hv, rfl, s, hs, hlt⟩ := h.inOrder w hw r hr i (hplace ▸ hlt)
  refine ⟨s, hlt, ?_⟩
  have hkey := h.key_eq v hv s hs
  rw [List.getElem?_eq_getElem hi, Option.some_inj] at hkey
  exact hkey.symm

/-- No two keys of rows each come before the other. -/
theorem not_foregoes_of_foregoes (hk : ∃ r < n, key r = k) (h : Foregoes key n k l) :
    ¬Foregoes key n l k := by
  intro hback
  have hnone : ∀ r, r < n → key r ≠ k := by
    intro r
    induction r using Nat.strongRecOn with
    | ind r ih =>
        intro hr hkey
        obtain ⟨s, hs, hkey⟩ := hback r hr hkey
        obtain ⟨s', hs', hkey⟩ := h s (hs.trans hr) hkey
        exact ih s' (hs'.trans hs) ((hs'.trans hs).trans hr) hkey
  obtain ⟨r, hr, hkey⟩ := hk
  exact hnone r hr hkey

/-! ### Exact assignments -/

/-- Rows share a window exactly when they have one key and one window on their own, and
windows are labelled by the end that belongs to them. -/
structure Exact (a : Assignment) (n : Nat) (key : Nat → List Cell)
    (window : Nat → Except Error Bounds) (closed : Closed) : Prop where
  partitions : a.Partitions n
  groups : a.Groups key
  ordered : a.Ordered
  window_eq : ∀ w ∈ a.windows, ∀ r ∈ w.rows, window r = .ok w.bounds
  label_eq : ∀ w ∈ a.windows, w.label = closed.edge w.bounds

theorem Exact.mem_rows_iff (h : a.Exact n key window closed) (hw : w ∈ a.windows)
    (hr : r ∈ w.rows) : s ∈ w.rows ↔ s < n ∧ key s = key r ∧ window s = window r := by
  constructor
  · intro hs
    refine ⟨h.partitions.exists_window_iff.mp ⟨w, hw, hs⟩, ?_, ?_⟩
    · exact (h.groups.group_eq_iff w hw w hw s hs r hr).mp rfl
    · rw [h.window_eq w hw s hs, h.window_eq w hw r hr]
  · rintro ⟨hs, hkey, hwindow⟩
    obtain ⟨v, hv, hs⟩ := h.partitions.exists_window_iff.mpr hs
    have hgroup := (h.groups.group_eq_iff v hv w hw s hs r hr).mpr hkey
    rw [h.window_eq v hv s hs, h.window_eq w hw r hr] at hwindow
    rwa [← h.ordered.eq_of_lower_eq hv hw hgroup (congrArg Bounds.lower (Except.ok.inj hwindow))]

/-! ### Blocks -/

/-- The `n` rows are gathered in `m` blocks. The rows of a block have the key and the window
of the block. Among blocks of one key and one window the rows keep their order, and a key
that comes up in an earlier block comes up in an earlier row. -/
structure Gathers (block : Nat → List Nat) (n m : Nat) (key key' : Nat → List Cell)
    (window window' : Nat → Except Error Bounds) : Prop where
  mem_iff : ∀ r, r < n ↔ ∃ p < m, r ∈ block p
  nonempty : ∀ p < m, block p ≠ []
  key_eq : ∀ p < m, ∀ r ∈ block p, key r = key' p
  window_eq : ∀ p < m, ∀ r ∈ block p, window r = window' p
  ascending : ∀ p < m, (block p).Pairwise (· < ·)
  ordered : ∀ p q, p < q → q < m → key' p = key' q → window' p = window' q →
    ∀ r ∈ block p, ∀ s ∈ block q, r < s
  appears : ∀ p q, p < q → q < m → key' p ≠ key' q → ∀ r ∈ block q, ∃ s < r, key s = key' p

section Gathered

variable (h : Gathers block n m key key' window window') (ha : a.Exact n key window closed)
variable (ha' : a'.Exact m key' window' closed)
include h ha ha'

/-- The groups of the blocks are the groups of the rows, in the same order. -/
theorem groups_eq_of_gathers : a'.groups = a.groups := by
  have hmem : ∀ k, k ∈ a'.groups ↔ k ∈ a.groups := by
    intro k
    rw [ha'.groups.mem_groups_iff ha'.partitions, ha.groups.mem_groups_iff ha.partitions]
    constructor
    · rintro ⟨p, hp, rfl⟩
      obtain ⟨r, hr⟩ := List.exists_mem_of_ne_nil _ (h.nonempty p hp)
      exact ⟨r, (h.mem_iff r).mpr ⟨p, hp, hr⟩, h.key_eq p hp r hr⟩
    · rintro ⟨r, hr, rfl⟩
      obtain ⟨p, hp, hr⟩ := (h.mem_iff r).mp hr
      exact ⟨p, hp, (h.key_eq p hp r hr).symm⟩
  have hordered : a'.groups.Pairwise (Foregoes key n) := by
    have hdistinct := (ha'.groups.pairwise_foregoes ha'.partitions).and ha'.groups.nodup
    apply hdistinct.imp
    rintro k l ⟨hforegoes, hne⟩ r hr rfl
    obtain ⟨q, hq, hr⟩ := (h.mem_iff r).mp hr
    obtain ⟨p, hlt, rfl⟩ := hforegoes q hq (h.key_eq q hq r hr).symm
    exact h.appears p q hlt hq (h.key_eq q hq r hr ▸ hne) r hr
  apply eq_of_pairwise_of_mem_iff _ hordered (ha.groups.pairwise_foregoes ha.partitions) hmem
  intro k hk l _
  exact not_foregoes_of_foregoes
    ((ha.groups.mem_groups_iff ha.partitions).mp ((hmem k).mp hk))

/-- The window of a block is the window of each of its rows. -/
theorem window_eq_of_gathers (hw : w ∈ a.windows) (hw' : w' ∈ a'.windows) (hp : p ∈ w'.rows)
    (hr : r ∈ block p) (hmem : r ∈ w.rows) :
    (w'.group, w'.bounds, w'.label, w'.rows.flatMap block) =
      (w.group, w.bounds, w.label, w.rows) := by
  have hlt : ∀ {q}, q ∈ w'.rows → q < m :=
    fun hq => ha'.partitions.exists_window_iff.mp ⟨w', hw', hq⟩
  have hkey := h.key_eq p (hlt hp) r hr
  have hwindow := h.window_eq p (hlt hp) r hr
  have hgroup : w'.group = w.group := by
    have hplace : a.groups[w.group]? = a.groups[w'.group]? := by
      rw [ha.groups.key_eq w hw r hmem, hkey, ← ha'.groups.key_eq w' hw' p hp,
        groups_eq_of_gathers h ha ha']
    obtain ⟨hg, -⟩ := List.getElem?_eq_some_iff.mp (ha.groups.key_eq w hw r hmem)
    exact ((List.getElem?_inj hg ha.groups.nodup).mp hplace).symm
  have hbounds : w'.bounds = w.bounds := by
    rw [ha.window_eq w hw r hmem, ha'.window_eq w' hw' p hp] at hwindow
    exact (Except.ok.inj hwindow).symm
  have hascending : (w'.rows.flatMap block).Pairwise (· < ·) := by
    rw [List.pairwise_flatMap]
    refine ⟨fun q hq => h.ascending q (hlt hq), ?_⟩
    apply (ha'.partitions.ascending w' hw').imp_of_mem
    intro p q hp hq hpq
    obtain ⟨-, hkeys, hwindows⟩ := (ha'.mem_rows_iff hw' hq).mp hp
    exact h.ordered p q hpq (hlt hq) hkeys hwindows
  have hrows : w'.rows.flatMap block = w.rows := by
    apply eq_of_pairwise_of_mem_iff (fun _ _ _ _ => Nat.lt_asymm) hascending
      (ha.partitions.ascending w hw)
    intro s
    rw [List.mem_flatMap, ha.mem_rows_iff hw hmem, hkey, hwindow]
    constructor
    · rintro ⟨q, hq, hs⟩
      obtain ⟨hqm, hkeys, hwindows⟩ := (ha'.mem_rows_iff hw' hp).mp hq
      refine ⟨(h.mem_iff s).mpr ⟨q, hqm, hs⟩, ?_, ?_⟩
      · rw [h.key_eq q hqm s hs, hkeys]
      · rw [h.window_eq q hqm s hs, hwindows]
    · rintro ⟨hs, hkeys, hwindows⟩
      obtain ⟨q, hq, hs⟩ := (h.mem_iff s).mp hs
      rw [h.key_eq q hq s hs] at hkeys
      rw [h.window_eq q hq s hs] at hwindows
      exact ⟨q, (ha'.mem_rows_iff hw' hp).mpr ⟨hq, hkeys, hwindows⟩, hs⟩
  rw [ha'.label_eq w' hw', ha.label_eq w hw, hgroup, hbounds, hrows]

/-- The windows of the blocks are the windows of the rows, in the same order. -/
theorem windows_eq_of_gathers :
    a'.windows.map (fun w => (w.group, w.bounds, w.label, w.rows.flatMap block)) =
      a.windows.map fun w => (w.group, w.bounds, w.label, w.rows) := by
  apply eq_of_pairwise_of_mem_iff (R := fun x y : Nat × Bounds × Int × List Nat =>
    x.1 < y.1 ∨ x.1 = y.1 ∧ x.2.1.lower < y.2.1.lower)
  · intro x _ y _ hxy hyx
    omega
  · exact List.pairwise_map.mpr ha'.ordered
  · exact List.pairwise_map.mpr ha.ordered
  · intro x
    rw [List.mem_map, List.mem_map]
    constructor
    · rintro ⟨w', hw', rfl⟩
      obtain ⟨p, hp⟩ := List.exists_mem_of_ne_nil _ (ha'.partitions.nonempty w' hw')
      have hlt := ha'.partitions.exists_window_iff.mp ⟨w', hw', hp⟩
      obtain ⟨r, hr⟩ := List.exists_mem_of_ne_nil _ (h.nonempty p hlt)
      obtain ⟨w, hw, hmem⟩ :=
        ha.partitions.exists_window_iff.mpr ((h.mem_iff r).mpr ⟨p, hlt, hr⟩)
      exact ⟨w, hw, (window_eq_of_gathers h ha ha' hw hw' hp hr hmem).symm⟩
    · rintro ⟨w, hw, rfl⟩
      obtain ⟨r, hmem⟩ := List.exists_mem_of_ne_nil _ (ha.partitions.nonempty w hw)
      obtain ⟨p, hlt, hr⟩ := (h.mem_iff r).mp (ha.partitions.exists_window_iff.mp ⟨w, hw, hmem⟩)
      obtain ⟨w', hw', hp⟩ := ha'.partitions.exists_window_iff.mpr hlt
      exact ⟨w', hw', window_eq_of_gathers h ha ha' hw hw' hp hr hmem⟩

end Gathered

end Assignment

end Cadence
