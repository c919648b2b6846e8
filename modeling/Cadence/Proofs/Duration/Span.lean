import Cadence.Duration.Basic
import Cadence.Proofs.Outcome

/-!
# Counters of spans

The counters of a span only grow while its parts are added up, and stay within their
range.
-/

namespace Cadence

/-- No counter is negative. -/
def Span.Nonneg (x : Span) : Prop := ∀ f : Span.Field, 0 ≤ x.get f

/-- Every counter is within its range. -/
def Span.Fits (x : Span) : Prop := ∀ f : Span.Field, Counter.Fits (x.get f)

theorem TimeUnit.factor_pos (u : TimeUnit) : 0 < u.factor := by
  cases u <;> decide

theorem Span.get_set (x : Span) (n : Int) (f g : Span.Field) :
    (x.set n f).get g = if g = f then n else x.get g := by
  cases f <;> cases g <;> rfl

namespace Duration

/-- A part that can be added adds its units to its own counter and leaves the others. -/
theorem Part.addTo?_eq_some {x y : Span} {p : Part} (h : p.addTo? x = some y) :
    y = x.set (x.get p.unit.field + p.count * p.unit.factor) p.unit.field := by
  simp only [addTo?, Option.bind_eq_bind, Option.bind_eq_some_iff, Counter.fit?_eq_some_iff] at h
  obtain ⟨n, ⟨-, rfl⟩, amount, ⟨-, rfl⟩, total, ⟨-, rfl⟩, hy⟩ := h
  exact (Option.some.inj hy).symm

theorem Part.nonneg_addTo? {x y : Span} {p : Part} (hx : x.Nonneg) (h : p.addTo? x = some y) :
    y.Nonneg := by
  have hamount : 0 ≤ (p.count : Int) * p.unit.factor :=
    Int.mul_nonneg (Int.natCast_nonneg _) (Int.le_of_lt p.unit.factor_pos)
  intro f
  rw [addTo?_eq_some h, Span.get_set]
  split
  · have := hx p.unit.field
    omega
  · exact hx f

theorem Part.fits_addTo? {x y : Span} {p : Part} (hx : x.Fits) (h : p.addTo? x = some y) :
    y.Fits := by
  simp only [addTo?, Option.bind_eq_bind, Option.bind_eq_some_iff, Counter.fit?_eq_some_iff] at h
  obtain ⟨n, -, amount, -, total, ⟨htotal, rfl⟩, hy⟩ := h
  cases hy
  intro f
  rw [Span.get_set]
  split
  · exact htotal
  · exact hx f

/-- A duration is scaled part by part. -/
theorem scale_eq_ok_iff {d e : Duration} {factor : Nat} : d.scale factor = .ok e ↔
    List.Forall₂ (fun p q : Part => p.scale? factor = some q) d.parts e.parts := by
  rw [← mapM_eq_some_iff, scale]
  cases d.parts.mapM fun p : Part => p.scale? factor with
  | none => simp
  | some parts =>
      simp only [Option.elim_some, Except.ok.injEq, Option.some.injEq]
      exact ⟨fun h => h ▸ rfl, fun h => h ▸ rfl⟩

/-- What every part preserves holds of the counters of a duration. -/
theorem span_invariant {P : Span → Prop} (hzero : P .zero)
    (hpart : ∀ {x y : Span} {p : Part}, P x → p.addTo? x = some y → P y) {d : Duration} {x : Span}
    (h : d.span = .ok x) : P x := by
  have hparts : ∀ {parts : List Part} {x y : Span}, P x →
      parts.foldlM Part.addTo? x = some y → P y := by
    intro parts x y hx h
    induction parts generalizing x with
    | nil =>
        cases h
        exact hx
    | cons p parts ih =>
        rw [List.foldlM_cons, Option.bind_eq_bind, Option.bind_eq_some_iff] at h
        obtain ⟨next, hnext, h⟩ := h
        exact ih (hpart hx hnext) h
  unfold span at h
  cases hfold : d.parts.foldlM Part.addTo? Span.zero with
  | none =>
      rw [hfold] at h
      cases h
  | some y =>
      rw [hfold] at h
      cases h
      exact hparts hzero hfold

theorem span_nonneg {d : Duration} {x : Span} (h : d.span = .ok x) : x.Nonneg :=
  span_invariant (fun f => by cases f <;> decide) Part.nonneg_addTo? h

theorem span_fits {d : Duration} {x : Span} (h : d.span = .ok x) : x.Fits :=
  span_invariant (fun f => by cases f <;> decide) Part.fits_addTo? h

end Duration

end Cadence
