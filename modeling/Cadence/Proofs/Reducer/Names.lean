import Cadence.Proofs.Reducer.Requests

/-!
# Names of reduced columns

Each of several reducers marks its columns with its name, behind an underscore. Requests are
resolved to different names, and none of them holds an underscore, so the last underscore of a
reduced column shows where the name of the reducer begins, and the two names can be told from
the one.
-/

namespace Cadence

/-! ### Requested reducers -/

/-- No reducer is asked for by a name with an underscore. -/
theorem Reducer.notMem_of_ofName? {name : String} {reducer : Reducer}
    (h : ofName? name = some reducer) : '_' ∉ name.toList := by
  rcases ofName?_eq_some_iff.mp h with rfl | ⟨-, rfl⟩
  · cases reducer <;> decide
  · decide

/-- Reducers that were asked for: there are some, their names differ, and each name stands for
its reducer. -/
structure NamedReducer.Resolved (reducers : List NamedReducer) : Prop where
  ne_nil : reducers ≠ []
  names_nodup : (reducers.map (·.name)).Nodup
  known : ∀ named ∈ reducers, Reducer.ofName? named.name = some named.reducer

/-- Entries are resolved to reducers of different names, each a name of its reducer. -/
theorem ReducerEntry.resolved_of_resolveAll {entries : List ReducerEntry}
    {found : List NamedReducer} (h : resolveAll entries = .ok found) :
    NamedReducer.Resolved found := by
  obtain ⟨hsome, haccepted⟩ := resolveAll_eq_ok_iff.mp h
  refine ⟨?_, ?_, fun named hnamed => Reducer.ofName?_eq_some_iff.mpr (haccepted.called hnamed)⟩
  · rintro rfl
    exact hsome (List.forall₂_nil_right_iff.mp haccepted.asks)
  · apply List.pairwise_map.mpr
    apply (List.pairwise_map.mp haccepted.distinct).imp_of_mem
    intro a b ha hb hne hname
    exact hne ((haccepted.called ha).unique (hname ▸ haccepted.called hb))

/-! ### Reduced columns -/

namespace NamedReducer

variable {reducers : List NamedReducer} {a b : NamedReducer} {c d : String}

/-- Lists that are split at the last place of an item are split in one way. -/
theorem append_cons_inj_of_last {α : Type} {x : α} {as bs cs ds : List α}
    (h : as ++ x :: bs = cs ++ x :: ds) (hbs : x ∉ bs) (hds : x ∉ ds) : as = cs ∧ bs = ds := by
  rcases List.append_eq_append_iff.mp h with ⟨more, rfl, hrest⟩ | ⟨more, rfl, hrest⟩
  · cases more with
    | nil =>
        cases hrest
        exact ⟨(List.append_nil _).symm, rfl⟩
    | cons y more =>
        cases hrest
        exact absurd (List.mem_append_right more List.mem_cons_self) hbs
  · cases more with
    | nil =>
        cases hrest
        exact ⟨List.append_nil _, rfl⟩
    | cons y more =>
        cases hrest
        exact absurd (List.mem_append_right more List.mem_cons_self) hds

theorem toList_columnName (c : String) (a : NamedReducer) :
    (a.columnName c true).toList = c.toList ++ '_' :: a.name.toList := by
  have hname : a.columnName c true = c ++ "_" ++ a.name := rfl
  simp [hname]

theorem columnName_inj (ha : '_' ∉ a.name.toList) (hb : '_' ∉ b.name.toList)
    (h : a.columnName c true = b.columnName d true) : c = d ∧ a.name = b.name := by
  have htexts := congrArg String.toList h
  rw [toList_columnName, toList_columnName] at htexts
  obtain ⟨hc, hname⟩ := append_cons_inj_of_last htexts ha hb
  exact ⟨String.toList_inj.mp hc, String.toList_inj.mp hname⟩

/-- The names that the reducers give to a column. -/
def columnNames (reducers : List NamedReducer) (c : String) : List String :=
  reducers.map fun named => named.columnName c (reducers.length > 1)

theorem columnNames_of_length_eq_one (h : reducers.length = 1) (c : String) :
    columnNames reducers c = [c] := by
  obtain ⟨named, rfl⟩ := List.length_eq_one_iff.mp h
  rfl

theorem columnNames_of_one_lt_length (h : 1 < reducers.length) (c : String) :
    columnNames reducers c = reducers.map (·.columnName c true) := by
  simp [columnNames, h]

namespace Resolved

variable (h : Resolved reducers)
include h

theorem length_eq_one_or : reducers.length = 1 ∨ 1 < reducers.length := by
  have hpos := List.length_pos_iff.mpr h.ne_nil
  omega

theorem columnNames_ne_nil (c : String) : columnNames reducers c ≠ [] :=
  fun hnil => h.ne_nil (List.map_eq_nil_iff.mp hnil)

/-- Reducers tell their columns apart. -/
theorem columnNames_nodup (c : String) : (columnNames reducers c).Nodup := by
  rcases h.length_eq_one_or with hone | hseveral
  · rw [columnNames_of_length_eq_one hone]
    exact List.nodup_singleton c
  · rw [columnNames_of_one_lt_length hseveral, List.Nodup, List.pairwise_map]
    apply (List.pairwise_map.mp h.names_nodup).imp_of_mem
    intro a b ha hb hne hsame
    exact hne (columnName_inj (Reducer.notMem_of_ofName? (h.known a ha))
      (Reducer.notMem_of_ofName? (h.known b hb)) hsame).2

/-- Columns of one name are reduced from one column. -/
theorem eq_of_mem_columnNames {name : String} (hc : name ∈ columnNames reducers c)
    (hd : name ∈ columnNames reducers d) : c = d := by
  rcases h.length_eq_one_or with hone | hseveral
  · rw [columnNames_of_length_eq_one hone, List.mem_singleton] at hc hd
    exact hc.symm.trans hd
  · rw [columnNames_of_one_lt_length hseveral, List.mem_map] at hc hd
    obtain ⟨a, ha, rfl⟩ := hc
    obtain ⟨b, hb, hsame⟩ := hd
    exact (columnName_inj (Reducer.notMem_of_ofName? (h.known a ha))
      (Reducer.notMem_of_ofName? (h.known b hb)) hsame.symm).1

/-- The reduced columns of some columns have names of their own exactly when those do. -/
theorem flatMap_columnNames_nodup_iff {columns : List String} :
    (columns.flatMap (columnNames reducers)).Nodup ↔ columns.Nodup := by
  rw [List.nodup_flatMap, and_iff_right fun c _ => h.columnNames_nodup c]
  constructor
  · intro hapart
    apply hapart.imp
    rintro c d hdisjoint rfl
    obtain ⟨name, hname⟩ := List.exists_mem_of_ne_nil _ (h.columnNames_ne_nil c)
    exact hdisjoint hname hname
  · intro hcolumns
    apply hcolumns.imp
    intro c d hne name hc hd
    exact hne (h.eq_of_mem_columnNames hc hd)

end Resolved

end NamedReducer

end Cadence
