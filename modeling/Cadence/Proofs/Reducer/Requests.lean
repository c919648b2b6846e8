import Cadence.Proofs.Outcome
import Cadence.Reducer.Request
import Mathlib.Data.List.Nodup

/-!
# Requested reducers

Requests are resolved one after the other, each beside those that were resolved before it. What
was resolved so far always accounts for a whole beginning of the list, so the run over the list
comes down to one entry: either the beginning may be extended by it, or one of five faults stops
the run there. A name stands for one reducer only, so to ask for different reducers is to ask for
them by different names.
-/

namespace Cadence

/-! ### Names -/

namespace Reducer

variable {r r' : Reducer} {name : String}

/-- A reducer goes by its own name, and the identity by one more. -/
def IsCalled (r : Reducer) (name : String) : Prop :=
  name = r.name ∨ r = identity ∧ name = "collect"

theorem ofName?_eq_some_iff : ofName? name = some r ↔ r.IsCalled name := by
  unfold ofName? IsCalled
  split
  · next hcollect =>
      subst hcollect
      cases r <;> decide
  · next hcollect =>
      rw [or_iff_left fun h => hcollect h.2]
      constructor
      · intro h
        have hname : r.name = name := by simpa using List.find?_some h
        exact hname.symm
      · rintro rfl
        cases r <;> rfl

theorem ofName?_eq_none_iff : ofName? name = none ↔ ∀ r, ¬IsCalled r name := by
  simp only [Option.eq_none_iff_forall_ne_some, ne_eq, ofName?_eq_some_iff]

theorem IsCalled.unique (h : r.IsCalled name) (h' : r'.IsCalled name) : r = r' :=
  Option.some.inj ((ofName?_eq_some_iff.mpr h).symm.trans (ofName?_eq_some_iff.mpr h'))

end Reducer

namespace ReducerEntry

variable {entry : ReducerEntry} {entries before : List ReducerEntry} {named : NamedReducer}
variable {earlier found : List NamedReducer} {total : Nat} {e : Error}

/-! ### Accepted lists -/

/-- An entry that asks for a reducer by one of its names, without a function of its own. -/
structure AsksFor (entry : ReducerEntry) (named : NamedReducer) : Prop where
  name : entry.name? = some named.name
  function : entry.function? = none
  called : named.reducer.IsCalled named.name

/-- Entries that ask for reducers, one for each and no two alike. -/
structure Accepted (entries : List ReducerEntry) (found : List NamedReducer) : Prop where
  asks : entries.Forall₂ AsksFor found
  distinct : (found.map (·.reducer)).Nodup

namespace Accepted

theorem nil : Accepted [] [] := ⟨.nil, List.nodup_nil⟩

theorem snoc (h : Accepted before earlier) (hasks : entry.AsksFor named)
    (hnew : named.reducer ∉ earlier.map (·.reducer)) :
    Accepted (before ++ [entry]) (earlier ++ [named]) := by
  refine ⟨List.rel_append h.asks (.cons hasks .nil), ?_⟩
  rw [List.map_append, List.map_singleton, ← List.concat_eq_append]
  exact h.distinct.concat hnew

theorem called (h : Accepted before earlier) (hnamed : named ∈ earlier) :
    named.reducer.IsCalled named.name := by
  obtain ⟨_, -, hasks⟩ := exists_of_forall₂_right h.asks hnamed
  exact hasks.called

/-- The names asked for before are those of the reducers that were found. -/
theorem mem_names_iff (h : Accepted before earlier) {name : String} :
    name ∈ earlier.map (·.name) ↔ ∃ b ∈ before, b.name? = some name := by
  have hnames : (earlier.map (·.name)).map some = before.map (·.name?) := by
    rw [List.map_map]
    exact map_eq_map_of_forall₂ (h.asks.imp fun _ _ hasks => hasks.name.symm)
  rw [← List.mem_map, ← hnames, List.mem_map_of_injective fun _ _ => Option.some.inj]

/-- A new reducer is asked for by a new name. -/
theorem name_notMem (h : Accepted before earlier) (hasks : entry.AsksFor named)
    (hnew : named.reducer ∉ earlier.map (·.reducer)) : named.name ∉ earlier.map (·.name) := by
  intro hname
  obtain ⟨other, hother, hsame⟩ := List.mem_map.mp hname
  apply hnew
  rw [hasks.called.unique (hsame ▸ h.called hother)]
  exact List.mem_map_of_mem hother

end Accepted

/-! ### One entry -/

/-- What is wrong with an entry that follows others: of several faults, the first that is listed
here and not excluded by the ones above it. -/
inductive Refused (total : Nat) (earlier : List NamedReducer) (entry : ReducerEntry) : Error → Prop
  | unnamed : entry.name? = none →
      Refused total earlier entry (.configuration (.unnamedReducer (earlier.length + 1) total))
  | repeatedName {name} : entry.name? = some name → name ∈ earlier.map (·.name) →
      Refused total earlier entry
        (.configuration (.repeatedName (earlier.length + 1) total name))
  | custom {name function} : entry.name? = some name → name ∉ earlier.map (·.name) →
      entry.function? = some function →
      Refused total earlier entry (.customReducer (earlier.length + 1) total name function)
  | unknown {name} : entry.name? = some name → name ∉ earlier.map (·.name) →
      entry.function? = none → (∀ r, ¬Reducer.IsCalled r name) →
      Refused total earlier entry
        (.configuration (.unknownReducer (earlier.length + 1) total name))
  | repeatedReducer {name r} : entry.name? = some name → name ∉ earlier.map (·.name) →
      entry.function? = none → Reducer.IsCalled r name → r ∈ earlier.map (·.reducer) →
      Refused total earlier entry
        (.configuration (.repeatedReducer (earlier.length + 1) total name r))

theorem asksFor_or_refused (total : Nat) (earlier : List NamedReducer) (entry : ReducerEntry) :
    (∃ named, entry.AsksFor named ∧ named.reducer ∉ earlier.map (·.reducer)) ∨
      ∃ e, Refused total earlier entry e := by
  cases hname : entry.name? with
  | none => exact .inr ⟨_, .unnamed hname⟩
  | some name =>
      by_cases hold : name ∈ earlier.map (·.name)
      · exact .inr ⟨_, .repeatedName hname hold⟩
      · cases hfunction : entry.function? with
        | some function => exact .inr ⟨_, .custom hname hold hfunction⟩
        | none =>
            by_cases hcalled : ∃ r, Reducer.IsCalled r name
            · obtain ⟨r, hcalled⟩ := hcalled
              by_cases hrepeated : r ∈ earlier.map (·.reducer)
              · exact .inr ⟨_, .repeatedReducer hname hold hfunction hcalled hrepeated⟩
              · exact .inl ⟨⟨name, r⟩, ⟨hname, hfunction, hcalled⟩, hrepeated⟩
            · exact .inr ⟨_, .unknown hname hold hfunction (not_exists.mp hcalled)⟩

theorem resolve_eq_ok (h : Accepted before earlier) (hasks : entry.AsksFor named)
    (hnew : named.reducer ∉ earlier.map (·.reducer)) :
    entry.resolve (earlier.length + 1) total earlier = .ok named := by
  have hname := h.name_notMem hasks hnew
  have hreducer := Reducer.ofName?_eq_some_iff.mpr hasks.called
  simp only [resolve, hasks.name, if_neg hname, hasks.function, hreducer, if_neg hnew]

theorem resolve_eq_error (h : Refused total earlier entry e) :
    entry.resolve (earlier.length + 1) total earlier = .error e := by
  cases h with
  | unnamed hname => simp only [resolve, hname]
  | repeatedName hname hold => simp only [resolve, hname, if_pos hold]
  | custom hname hold hfunction => simp only [resolve, hname, if_neg hold, hfunction]
  | unknown hname hold hfunction hunknown =>
      have hreducer := Reducer.ofName?_eq_none_iff.mpr hunknown
      simp only [resolve, hname, if_neg hold, hfunction, hreducer]
  | repeatedReducer hname hold hfunction hcalled hrepeated =>
      have hreducer := Reducer.ofName?_eq_some_iff.mpr hcalled
      simp only [resolve, hname, if_neg hold, hfunction, hreducer, if_pos hrepeated]

theorem resolve_eq_ok_iff (h : Accepted before earlier) :
    entry.resolve (earlier.length + 1) total earlier = .ok named ↔
      entry.AsksFor named ∧ named.reducer ∉ earlier.map (·.reducer) := by
  refine ⟨fun hnamed => ?_, fun ⟨hasks, hnew⟩ => resolve_eq_ok h hasks hnew⟩
  rcases asksFor_or_refused total earlier entry with ⟨other, hasks, hnew⟩ | ⟨e, hrefused⟩
  · cases (resolve_eq_ok h hasks hnew).symm.trans hnamed
    exact ⟨hasks, hnew⟩
  · cases (resolve_eq_error hrefused).symm.trans hnamed

theorem resolve_eq_error_iff (h : Accepted before earlier) :
    entry.resolve (earlier.length + 1) total earlier = .error e ↔
      Refused total earlier entry e := by
  refine ⟨fun he => ?_, resolve_eq_error⟩
  rcases asksFor_or_refused total earlier entry with ⟨named, hasks, hnew⟩ | ⟨e', hrefused⟩
  · cases (resolve_eq_ok h hasks hnew).symm.trans he
  · cases (resolve_eq_error hrefused).symm.trans he
    exact hrefused

/-! ### Runs over lists -/

/-- What was found extends a beginning that is accounted for to the whole list. -/
theorem resolveFrom_eq_ok_iff (h : Accepted before earlier) :
    resolveFrom total earlier entries = .ok found ↔
      ∃ more, entries.Forall₂ AsksFor more ∧ earlier ++ more = found ∧
        (found.map (·.reducer)).Nodup := by
  -- The beginning that is accounted for grows by one entry with each step.
  induction entries generalizing before earlier with
  | nil =>
      simp only [List.forall₂_nil_left_iff, exists_eq_left, List.append_nil]
      constructor
      · rintro ⟨⟩
        exact ⟨rfl, h.distinct⟩
      · rintro ⟨rfl, -⟩
        rfl
  | cons entry rest ih =>
      simp only [List.forall₂_cons_left_iff]
      constructor
      · intro hfound
        obtain ⟨named, hnamed, hrest⟩ := bind_eq_ok_iff.mp hfound
        obtain ⟨hasks, hnew⟩ := (resolve_eq_ok_iff h).mp hnamed
        obtain ⟨more, hmore, hall, hdistinct⟩ := (ih (h.snoc hasks hnew)).mp hrest
        rw [List.append_assoc] at hall
        exact ⟨named :: more, ⟨named, more, hasks, hmore, rfl⟩, hall, hdistinct⟩
      · rintro ⟨_, ⟨named, more, hasks, hmore, rfl⟩, rfl, hdistinct⟩
        have hnew : named.reducer ∉ earlier.map (·.reducer) := by
          rw [List.map_append, List.map_cons] at hdistinct
          exact fun hold => (List.nodup_append.mp hdistinct).2.2 _ hold _ List.mem_cons_self rfl
        refine bind_eq_ok_iff.mpr ⟨named, (resolve_eq_ok_iff h).mpr ⟨hasks, hnew⟩, ?_⟩
        exact (ih (h.snoc hasks hnew)).mpr ⟨more, hmore, List.append_assoc .., hdistinct⟩

theorem resolveFrom_append (rest : List ReducerEntry) :
    resolveFrom total earlier (entries ++ rest) =
      resolveFrom total earlier entries >>= fun found => resolveFrom total found rest := by
  induction entries generalizing earlier with
  | nil => rfl
  | cons entry entries ih =>
      simp only [List.cons_append, resolveFrom, ih, bind_assoc]

theorem resolveFrom_nil_eq_ok_iff :
    resolveFrom total [] entries = .ok found ↔ Accepted entries found := by
  rw [resolveFrom_eq_ok_iff .nil]
  constructor
  · rintro ⟨_, hasks, rfl, hdistinct⟩
    exact ⟨hasks, hdistinct⟩
  · rintro ⟨hasks, hdistinct⟩
    exact ⟨found, hasks, rfl, hdistinct⟩

/-- A run that fails stops at one entry, and all before it are accounted for. -/
theorem resolveFrom_eq_error (h : Accepted before earlier)
    (he : resolveFrom total earlier entries = .error e) :
    ∃ front entry after settled, entries = front ++ entry :: after ∧
      Accepted (before ++ front) settled ∧ Refused total settled entry e := by
  induction entries generalizing before earlier with
  | nil => cases he
  | cons entry rest ih =>
      rcases bind_eq_error_iff.mp he with hentry | ⟨named, hnamed, hrest⟩
      · exact ⟨[], entry, rest, earlier, rfl, (List.append_nil before).symm ▸ h,
          (resolve_eq_error_iff h).mp hentry⟩
      · obtain ⟨hasks, hnew⟩ := (resolve_eq_ok_iff h).mp hnamed
        obtain ⟨front, stop, after, settled, rfl, hsettled, hrefused⟩ :=
          ih (h.snoc hasks hnew) hrest
        exact ⟨entry :: front, stop, after, settled, rfl,
          (List.append_cons before entry front).symm ▸ hsettled, hrefused⟩

theorem resolveFrom_of_refused (h : Accepted before earlier)
    (hrefused : Refused total earlier entry e) (after : List ReducerEntry) :
    resolveFrom total [] (before ++ entry :: after) = .error e := by
  rw [resolveFrom_append, resolveFrom_nil_eq_ok_iff.mpr h, ok_bind]
  exact bind_eq_error_iff.mpr (.inl (resolve_eq_error hrefused))

theorem Refused.not_accepted (hrefused : Refused total earlier entry e)
    (h : Accepted before earlier) : ¬Accepted (before ++ [entry]) found := by
  intro hfound
  cases (resolveFrom_nil_eq_ok_iff.mpr hfound).symm.trans (resolveFrom_of_refused h hrefused [])

/-! ### Outcomes -/

/-- An entry with a function of its own, under a name that no entry before it has. -/
def IsCustom (before : List ReducerEntry) (entry : ReducerEntry) : Prop :=
  entry.function? ≠ none ∧ ∃ name, entry.name? = some name ∧ ∀ b ∈ before, b.name? ≠ some name

/-- The entries up to one that cannot be accepted together with those before it, which can. -/
structure StopsAt (entries before : List ReducerEntry) (entry : ReducerEntry) : Prop where
  front : ∃ after, entries = before ++ entry :: after
  accepted : ∃ earlier, Accepted before earlier
  refused : ¬∃ found, Accepted (before ++ [entry]) found

theorem Accepted.isCustom_iff (h : Accepted before earlier) :
    entry.IsCustom before ↔ entry.function? ≠ none ∧
      ∃ name, entry.name? = some name ∧ name ∉ earlier.map (·.name) := by
  simp only [IsCustom, h.mem_names_iff, not_exists, not_and]

/-- A function is not carried out, and every other fault is one of the choice. -/
theorem Refused.kind (hrefused : Refused total earlier entry e) (h : Accepted before earlier) :
    (e.kind = .notImplemented ↔ entry.IsCustom before) ∧
      (e.kind ≠ .notImplemented → e.kind = .configuration) := by
  rw [h.isCustom_iff]
  cases hrefused with
  | unnamed hname =>
      refine ⟨⟨nofun, ?_⟩, fun _ => rfl⟩
      rintro ⟨-, _, hsome, -⟩
      cases hname.symm.trans hsome
  | repeatedName hname hold =>
      refine ⟨⟨nofun, ?_⟩, fun _ => rfl⟩
      rintro ⟨-, _, hsome, hnew⟩
      cases hname.symm.trans hsome
      exact absurd hold hnew
  | custom hname hnew hfunction =>
      refine ⟨⟨fun _ => ⟨?_, _, hname, hnew⟩, fun _ => rfl⟩, fun hkind => absurd rfl hkind⟩
      exact fun hnone => nomatch hnone.symm.trans hfunction
  | unknown _ _ hfunction | repeatedReducer _ _ hfunction =>
      exact ⟨⟨nofun, fun hcustom => absurd hfunction hcustom.1⟩, fun _ => rfl⟩

theorem resolveAll_eq_resolveFrom (h : entries ≠ []) :
    resolveAll entries = resolveFrom entries.length [] entries :=
  if_neg (mt List.isEmpty_iff.mp h)

theorem resolveAll_eq_ok_iff :
    resolveAll entries = .ok found ↔ entries ≠ [] ∧ Accepted entries found := by
  rcases eq_or_ne entries [] with rfl | hsome
  · exact ⟨nofun, fun h => absurd rfl h.1⟩
  · rw [resolveAll_eq_resolveFrom hsome, resolveFrom_nil_eq_ok_iff, and_iff_right hsome]

theorem resolveAll_eq_error_iff :
    resolveAll entries = .error e ↔ entries = [] ∧ e = .configuration .noReducers ∨
      ∃ before entry earlier, StopsAt entries before entry ∧ Accepted before earlier ∧
        Refused entries.length earlier entry e := by
  constructor
  · intro he
    rcases eq_or_ne entries [] with rfl | hsome
    · exact .inl ⟨rfl, (Except.error.inj he).symm⟩
    · rw [resolveAll_eq_resolveFrom hsome] at he
      obtain ⟨before, entry, after, earlier, hsplit, haccepted, hrefused⟩ :=
        resolveFrom_eq_error .nil he
      exact .inr ⟨before, entry, earlier, ⟨⟨after, hsplit⟩, ⟨earlier, haccepted⟩,
        fun ⟨_, hfound⟩ => hrefused.not_accepted haccepted hfound⟩, haccepted, hrefused⟩
  · rintro (⟨rfl, rfl⟩ | ⟨before, entry, earlier, ⟨⟨after, rfl⟩, -, -⟩, haccepted, hrefused⟩)
    · rfl
    · rw [resolveAll_eq_resolveFrom (List.append_ne_nil_of_right_ne_nil _ (List.cons_ne_nil _ _))]
      exact resolveFrom_of_refused haccepted hrefused after

/-- The identity cannot be asked for by both of its names. -/
example : resolveAll [.named "identity", .named "collect"] =
    .error (.configuration (.repeatedReducer 2 2 "collect" .identity)) := by
  decide

/-- The entry at which a list stops is refused, whatever follows it. -/
theorem StopsAt.resolveAll_eq_error (h : StopsAt entries before entry) :
    ∃ earlier e, Accepted before earlier ∧ Refused entries.length earlier entry e ∧
      resolveAll entries = .error e := by
  obtain ⟨after, rfl⟩ := h.front
  obtain ⟨earlier, haccepted⟩ := h.accepted
  rcases asksFor_or_refused (before ++ entry :: after).length earlier entry with
    ⟨named, hasks, hnew⟩ | ⟨e, hrefused⟩
  · exact absurd ⟨_, haccepted.snoc hasks hnew⟩ h.refused
  · refine ⟨earlier, e, haccepted, hrefused, ?_⟩
    rw [resolveAll_eq_resolveFrom (List.append_ne_nil_of_right_ne_nil _ (List.cons_ne_nil _ _))]
    exact resolveFrom_of_refused haccepted hrefused after

/-- Some entries are resolved exactly when each asks for a reducer by one of its names, without a
function, and no two ask for one reducer; what is found are these reducers under these names, in
the order of the entries. Otherwise the first entry that cannot be accepted with those before it
decides about the error, whatever follows. -/
theorem resolveAll_outcome (entries : List ReducerEntry) :
    (∀ found, resolveAll entries = .ok found ↔ entries ≠ [] ∧ Accepted entries found) ∧
    (∀ e, resolveAll entries = .error e ↔ entries = [] ∧ e = .configuration .noReducers ∨
      ∃ before entry earlier, StopsAt entries before entry ∧ Accepted before earlier ∧
        Refused entries.length earlier entry e) ∧
    ∀ before entry, StopsAt entries before entry →
      ∃ e, resolveAll entries = .error e ∧
        (e.kind = .notImplemented ↔ entry.IsCustom before) ∧
        (e.kind ≠ .notImplemented → e.kind = .configuration) := by
  refine ⟨fun _ => resolveAll_eq_ok_iff, fun _ => resolveAll_eq_error_iff, ?_⟩
  intro before entry hstops
  obtain ⟨earlier, e, haccepted, hrefused, he⟩ := hstops.resolveAll_eq_error
  exact ⟨e, he, hrefused.kind haccepted⟩

/-- A sum and a list by its other name, then a function, then an entry without a name. -/
def faultyTwice : List ReducerEntry :=
  [.named "sum", .named "collect", .described (some "p90") (some "percentile"),
    .described none none]

theorem resolveAll_outcome_faultyTwice :
    resolveAll (faultyTwice.take 2) = .ok [⟨"sum", .sum⟩, ⟨"collect", .identity⟩] ∧
    StopsAt faultyTwice (faultyTwice.take 2) (.described (some "p90") (some "percentile")) ∧
      ∃ e, resolveAll faultyTwice = .error e ∧ e.kind = .notImplemented := by
  obtain ⟨hfound, -, -⟩ := resolveAll_outcome (faultyTwice.take 2)
  obtain ⟨hshort, -, -⟩ := resolveAll_outcome (faultyTwice.take 3)
  obtain ⟨-, -, hstop⟩ := resolveAll_outcome faultyTwice
  have hok : resolveAll (faultyTwice.take 2) = .ok [⟨"sum", .sum⟩, ⟨"collect", .identity⟩] := by
    decide
  have hstops : StopsAt faultyTwice (faultyTwice.take 2)
      (.described (some "p90") (some "percentile")) := by
    refine ⟨⟨_, rfl⟩, ⟨_, ((hfound _).mp hok).2⟩, ?_⟩
    rintro ⟨found, haccepted⟩
    have herror : resolveAll (faultyTwice.take 3) =
        .error (.customReducer 3 3 "p90" "percentile") := by decide
    cases herror.symm.trans ((hshort found).mpr ⟨by decide, haccepted⟩)
  obtain ⟨e, he, hkind, -⟩ := hstop _ _ hstops
  exact ⟨hok, hstops, e, he, hkind.mpr ⟨by decide, "p90", rfl, by decide⟩⟩

end ReducerEntry

end Cadence
