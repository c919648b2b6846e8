import Cadence.Proofs.Duration.Span
import Mathlib.Algebra.BigOperators.Group.List.Basic
import Mathlib.Algebra.Order.BigOperators.Group.List
import Mathlib.Tactic.Ring

/-!
# Totals of durations

The span of a duration is added up part by part, and every step has to stay within the range of a
counter. No part is negative, so that the sums only grow: all steps stay within the range exactly
when the totals do. So the span does not depend on the order of the parts, nor on how they share
out a total. A duration of which every number is multiplied has the multiplied totals.
-/

namespace Cadence

/-! ### Sums of spans -/

namespace Span

variable {x y : Span}

instance : Add Span :=
  ⟨fun x y => ⟨x.months + y.months, x.weeks + y.weeks, x.days + y.days, x.nanos + y.nanos⟩⟩

/-- Every counter multiplied. -/
def times (x : Span) (k : Int) : Span := ⟨k * x.months, k * x.weeks, k * x.days, k * x.nanos⟩

@[simp] theorem get_zero (f : Field) : zero.get f = 0 := by cases f <;> rfl

@[simp] theorem get_add (x y : Span) (f : Field) : (x + y).get f = x.get f + y.get f := by
  cases f <;> rfl

@[simp] theorem get_times (x : Span) (k : Int) (f : Field) : (x.times k).get f = k * x.get f := by
  cases f <;> rfl

theorem eq_of_get (h : ∀ f, x.get f = y.get f) : x = y := by
  cases x
  cases y
  exact congr (congr (congr (congrArg mk (h .months)) (h .weeks)) (h .days)) (h .nanos)

theorem zero_add (x : Span) : zero + x = x := eq_of_get fun f => by simp

theorem add_zero (x : Span) : x + zero = x := eq_of_get fun f => by simp

theorem times_zero (k : Int) : zero.times k = zero := eq_of_get fun f => by simp

theorem add_assoc (x y z : Span) : x + y + z = x + (y + z) :=
  eq_of_get fun f => by simp only [get_add, Int.add_assoc]

theorem nonneg_zero : zero.Nonneg := fun f => (get_zero f).ge

theorem fits_zero : zero.Fits := fun f => by
  rw [get_zero]
  decide

theorem Nonneg.add (hx : x.Nonneg) (hy : y.Nonneg) : (x + y).Nonneg := fun f => by
  rw [get_add]
  exact Int.add_nonneg (hx f) (hy f)

/-- Counters that fit still fit when something that is not negative is taken from them. -/
theorem Fits.of_add (hx : x.Nonneg) (hy : y.Nonneg) (h : (x + y).Fits) : x.Fits := by
  intro f
  have hrest := hy f
  have hsum := (h f).2
  rw [get_add] at hsum
  exact (Counter.fits_iff_of_nonneg (hx f)).mpr (by omega)

end Span

namespace Duration

/-! ### One part -/

namespace Part

/-- What a part adds to the counters. -/
def amount (p : Part) : Span := Span.zero.set (p.count * p.unit.factor) p.unit.field

theorem get_amount (p : Part) (f : Span.Field) :
    p.amount.get f = if f = p.unit.field then p.count * p.unit.factor else 0 := by
  rw [amount, Span.get_set, Span.get_zero]

theorem count_le (p : Part) : (p.count : Int) ≤ p.count * p.unit.factor := by
  calc (p.count : Int) = p.count * 1 := (Int.mul_one _).symm
    _ ≤ p.count * p.unit.factor :=
      Int.mul_le_mul_of_nonneg_left p.unit.factor_pos (Int.natCast_nonneg _)

theorem nonneg_amount (p : Part) : p.amount.Nonneg := by
  intro f
  rw [get_amount]
  split
  · exact (Int.natCast_nonneg _).trans p.count_le
  · exact le_rfl

theorem set_eq_add (x : Span) (p : Part) :
    x.set (x.get p.unit.field + p.count * p.unit.factor) p.unit.field = x + p.amount := by
  apply Span.eq_of_get
  intro f
  rw [Span.get_set, Span.get_add, get_amount]
  split
  · next hf => rw [hf]
  · rw [Int.add_zero]

/-- A part can be added exactly when the sums fit: its number and its amount are no greater. -/
theorem addTo?_eq_some_iff {x y : Span} {p : Part} (hx : x.Nonneg) (hfits : x.Fits) :
    p.addTo? x = some y ↔ (x + p.amount).Fits ∧ x + p.amount = y := by
  constructor
  · intro h
    rw [← set_eq_add, ← addTo?_eq_some h]
    exact ⟨fits_addTo? hfits h, rfl⟩
  · rintro ⟨hsum, rfl⟩
    have htotal := hsum p.unit.field
    rw [Span.get_add, get_amount, if_pos rfl] at htotal
    have hcount := Int.natCast_nonneg p.count
    have hle := p.count_le
    have hbefore := hx p.unit.field
    have hgreatest := htotal.2
    have hnumber := (Counter.fits_iff_of_nonneg hcount).mpr (by omega)
    have hamount := (Counter.fits_iff_of_nonneg (hcount.trans hle)).mpr (by omega)
    rw [← set_eq_add]
    simp only [addTo?, Option.bind_eq_bind, Option.bind_eq_some_iff, Counter.fit?_eq_some_iff]
    exact ⟨_, ⟨hnumber, rfl⟩, _, ⟨hamount, rfl⟩, _, ⟨htotal, rfl⟩, rfl⟩

end Part

/-! ### Totals -/

/-- How many of a unit a duration counts in all its parts. -/
def countOf (d : Duration) (u : TimeUnit) : Int :=
  ((d.parts.filter fun p : Part => p.unit = u).map fun p => (p.count : Int)).sum

/-- The counters that a duration amounts to, of any size. -/
def totals (d : Duration) : Span where
  months := d.countOf .month + 3 * d.countOf .quarter + 12 * d.countOf .year
  weeks := d.countOf .week
  days := d.countOf .day
  nanos := d.countOf .nanosecond + 1000 * d.countOf .microsecond
    + 1000000 * d.countOf .millisecond + 1000000000 * d.countOf .second
    + 60 * 1000000000 * d.countOf .minute + 3600 * 1000000000 * d.countOf .hour

variable {d e : Duration} {p : Part} {parts : List Part}

theorem countOf_cons (p : Part) (parts : List Part) (u : TimeUnit) :
    countOf ⟨p :: parts⟩ u = (if p.unit = u then (p.count : Int) else 0) + countOf ⟨parts⟩ u := by
  simp only [countOf, List.filter_cons, decide_eq_true_eq]
  split
  · rw [List.map_cons, List.sum_cons]
  · rw [Int.zero_add]

theorem totals_nil : totals ⟨[]⟩ = Span.zero := rfl

theorem totals_cons (p : Part) (parts : List Part) :
    totals ⟨p :: parts⟩ = p.amount + totals ⟨parts⟩ := by
  apply Span.eq_of_get
  intro f
  rw [Span.get_add, Part.get_amount]
  cases f <;> simp only [totals, Span.get, countOf_cons] <;> cases p.unit <;>
    simp [TimeUnit.field, TimeUnit.factor] <;> ring

theorem totals_perm (h : e.parts.Perm d.parts) : e.totals = d.totals := by
  have hcount : ∀ u, e.countOf u = d.countOf u := fun u => ((h.filter _).map _).sum_eq
  simp only [totals, hcount]

theorem nonneg_totals (parts : List Part) : (totals ⟨parts⟩).Nonneg := by
  induction parts with
  | nil => exact Span.nonneg_zero
  | cons p parts ih =>
      rw [totals_cons]
      exact p.nonneg_amount.add ih

/-- A total is no less than what any of the parts adds to it. -/
theorem amount_le_totals (hp : p ∈ parts) :
    p.count * p.unit.factor ≤ (totals ⟨parts⟩).get p.unit.field := by
  induction parts with
  | nil => cases hp
  | cons q parts ih =>
      rw [totals_cons, Span.get_add]
      rcases List.mem_cons.mp hp with rfl | hp
      · rw [Part.get_amount, if_pos rfl]
        have := nonneg_totals parts p.unit.field
        omega
      · have := ih hp
        have := q.nonneg_amount p.unit.field
        omega

/-- Parts can be added in turn exactly when all sums fit in the end. -/
theorem foldlM_addTo?_eq_some_iff {x y : Span} (hx : x.Nonneg) (hfits : x.Fits) :
    parts.foldlM Part.addTo? x = some y ↔ (x + totals ⟨parts⟩).Fits ∧ x + totals ⟨parts⟩ = y := by
  induction parts generalizing x with
  | nil =>
      rw [totals_nil, Span.add_zero]
      exact ⟨fun h => ⟨hfits, Option.some.inj h⟩, fun h => congrArg some h.2⟩
  | cons p parts ih =>
      have hnext := hx.add p.nonneg_amount
      rw [List.foldlM_cons, Option.bind_eq_bind, Option.bind_eq_some_iff, totals_cons,
        ← Span.add_assoc]
      constructor
      · rintro ⟨next, hadd, hrest⟩
        obtain ⟨hsum, rfl⟩ := (Part.addTo?_eq_some_iff hx hfits).mp hadd
        exact (ih hnext hsum).mp hrest
      · rintro ⟨hall, rfl⟩
        have hsum := Span.Fits.of_add hnext (nonneg_totals parts) hall
        exact ⟨_, (Part.addTo?_eq_some_iff hx hfits).mpr ⟨hsum, rfl⟩,
          (ih hnext hsum).mpr ⟨hall, rfl⟩⟩

theorem span_eq_ok_iff {x : Span} : d.span = .ok x ↔ d.totals.Fits ∧ d.totals = x := by
  rw [span, elim_eq_ok_iff, foldlM_addTo?_eq_some_iff Span.nonneg_zero Span.fits_zero,
    Span.zero_add]

theorem span_eq_error_iff {fault : LanguageError} :
    d.span = .error fault ↔ ¬d.totals.Fits ∧ d.outOfRange = fault := by
  by_cases hfits : d.totals.Fits
  · rw [span_eq_ok_iff.mpr ⟨hfits, rfl⟩]
    exact ⟨nofun, fun h => absurd hfits h.1⟩
  · cases hfold : d.parts.foldlM Part.addTo? Span.zero with
    | some y =>
        exact absurd (span_eq_ok_iff.mp (elim_eq_ok_iff.mpr hfold)).1 hfits
    | none =>
        rw [span, hfold]
        exact ⟨fun h => ⟨hfits, Except.error.inj h⟩, fun h => congrArg Except.error h.2⟩

/-! ### Multiples -/

theorem Part.amount_scale? {q : Part} {k : Nat} (h : p.scale? k = some q) :
    q.amount = p.amount.times k := by
  unfold scale? at h
  split at h
  · cases h
    apply Span.eq_of_get
    intro f
    rw [Span.get_times, get_amount, get_amount]
    change (if f = p.unit.field then ((p.count * k : Nat) : Int) * p.unit.factor else 0) = _
    split
    · push_cast
      ring
    · rw [Int.mul_zero]
  · cases h

theorem totals_scale {k : Nat} (h : d.scale k = .ok e) : e.totals = d.totals.times k := by
  have hparts : ∀ {parts scaled : List Part},
      List.Forall₂ (fun p q : Part => p.scale? k = some q) parts scaled →
        totals ⟨scaled⟩ = (totals ⟨parts⟩).times k := by
    intro parts scaled hscaled
    induction hscaled with
    | nil => exact (Span.times_zero k).symm
    | cons hp _ ih =>
        rw [totals_cons, totals_cons, Part.amount_scale? hp, ih]
        apply Span.eq_of_get
        intro f
        simp only [Span.get_add, Span.get_times]
        ring
  exact hparts (scale_eq_ok_iff.mp h)

/-- A duration has a multiple if the multiplied totals fit, for no number of it is greater. -/
theorem exists_scale {k : Nat} (h : (d.totals.times k).Fits) : ∃ e, d.scale k = .ok e := by
  have hpart : ∀ p ∈ d.parts, ∃ q, p.scale? k = some q := by
    intro p hp
    have htotal := (h p.unit.field).2
    rw [Span.get_times] at htotal
    have hle : (p.count : Int) * k ≤ k * d.totals.get p.unit.field := by
      rw [Int.mul_comm]
      exact Int.mul_le_mul_of_nonneg_left (p.count_le.trans (amount_le_totals hp))
        (Int.natCast_nonneg k)
    have hlt : p.count * k < wordSize := by
      simp only [wordSize, Counter.greatest] at *
      omega
    exact ⟨_, dif_pos hlt⟩
  obtain ⟨scaled, hscaled⟩ := exists_forall₂ hpart
  exact ⟨⟨scaled⟩, scale_eq_ok_iff.mpr hscaled⟩

/-- A duration has a span exactly when counters can hold its totals, which then are its counters.
So durations of the same totals have the same span, in whichever order their parts come. A
multiple has a span exactly when counters can hold the multiplied totals. -/
theorem span_totals (d : Duration) :
    (∀ x, d.span = .ok x ↔ d.totals.Fits ∧ d.totals = x) ∧
      (∀ fault, d.span = .error fault ↔ ¬d.totals.Fits ∧ d.outOfRange = fault) ∧
      (∀ e : Duration, e.parts.Perm d.parts → e.totals = d.totals) ∧
      (∀ e : Duration, e.totals = d.totals → ∀ x, e.span = .ok x ↔ d.span = .ok x) ∧
      ∀ (k : Nat) (x : Span), (d.scale k >>= span) = .ok x ↔
        (d.totals.times k).Fits ∧ d.totals.times k = x := by
  refine ⟨fun x => span_eq_ok_iff, fun fault => span_eq_error_iff, fun e => totals_perm, ?_, ?_⟩
  · intro e htotals x
    rw [span_eq_ok_iff, span_eq_ok_iff, htotals]
  · intro k x
    rw [bind_eq_ok_iff]
    constructor
    · rintro ⟨e, hscale, hspan⟩
      rw [← totals_scale hscale]
      exact span_eq_ok_iff.mp hspan
    · rintro ⟨hfits, rfl⟩
      obtain ⟨e, hscale⟩ := exists_scale hfits
      rw [← totals_scale hscale] at hfits ⊢
      exact ⟨e, hscale, span_eq_ok_iff.mpr ⟨hfits, rfl⟩⟩

/-- A year, a quarter, two weeks, three days and four hours. -/
def compound : Duration :=
  ⟨[⟨1, .y, one_lt_wordSize⟩, ⟨1, .q, one_lt_wordSize⟩, ⟨2, .w, by decide⟩, ⟨3, .d, by decide⟩,
    ⟨4, .h, by decide⟩]⟩

/-- The greatest number of hours that can be written. -/
def mostHours : Duration := ⟨[⟨18446744073709551615, .h, by decide⟩]⟩

/-- Parts have their span in any order, and a duration that is too long has a multiple of none. -/
theorem span_totals_compound :
    (∀ e : Duration, e.parts.Perm compound.parts → e.span = .ok ⟨15, 2, 3, 14400000000000⟩) ∧
      (compound.scale 25 >>= span) = .ok ⟨375, 50, 75, 360000000000000⟩ ∧
      mostHours.span = .error mostHours.outOfRange ∧
      (mostHours.scale 0 >>= span) = .ok Span.zero := by
  obtain ⟨hspan, -, hperm, hsame, hscale⟩ := span_totals compound
  obtain ⟨-, herror, -, -, hnone⟩ := span_totals mostHours
  refine ⟨?_, ?_, ?_, ?_⟩
  · intro e he
    exact (hsame e (hperm e he) _).mpr ((hspan _).mpr ⟨fun f => by cases f <;> decide, rfl⟩)
  · exact (hscale 25 _).mpr ⟨fun f => by cases f <;> decide, rfl⟩
  · exact (herror _).mpr ⟨fun h => absurd (h .nanos) (by decide), rfl⟩
  · exact (hnone 0 _).mpr ⟨fun f => by cases f <;> decide, rfl⟩

end Duration

end Cadence
