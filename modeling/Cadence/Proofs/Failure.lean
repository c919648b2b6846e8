import Cadence.Error
import Cadence.Numeric.Counter
import Cadence.Proofs.Outcome

/-!
# Failing computations

What the errors of a computation have in common is known from its steps. Most steps can only
refuse their data. A few count without asking whether a counter can hold the number, and these
can also leave the range of a counter.
-/

namespace Cadence

variable {α β : Type} {P Q : Error → Prop} {x : Except Error α} {f : α → Except Error β}
variable {p q : Prop}

/-- Whatever error a computation stops with has a property. -/
def FailsOnly (P : Error → Prop) (x : Except Error α) : Prop := ∀ e, x = .error e → P e

namespace FailsOnly

theorem ok (a : α) : FailsOnly P (.ok a) := nofun

theorem error {e : Error} (h : P e) : FailsOnly P (.error e : Except Error α) := by
  rintro _ ⟨⟩
  exact h

theorem mono (h : FailsOnly P x) (hPQ : ∀ e, P e → Q e) : FailsOnly Q x :=
  fun e he => hPQ e (h e he)

theorem bind (hx : FailsOnly P x) (hf : ∀ a, x = .ok a → FailsOnly P (f a)) :
    FailsOnly P (x >>= f) := by
  intro e h
  rcases bind_eq_error_iff.mp h with h | ⟨a, ha, h⟩
  · exact hx e h
  · exact hf a ha e h

theorem mapM {xs : List α} (h : ∀ x ∈ xs, FailsOnly P (f x)) : FailsOnly P (xs.mapM f) := by
  intro e he
  obtain ⟨before, x, after, rfl, -, hx⟩ := mapM_eq_error_iff_first.mp he
  exact h x (by simp) e hx

theorem forM {f : α → Except Error Unit} {xs : List α} (h : ∀ x ∈ xs, FailsOnly P (f x)) :
    FailsOnly P (xs.forM f) := by
  induction xs with
  | nil => exact ok ()
  | cons x xs ih =>
      change FailsOnly P (f x >>= fun _ => xs.forM f)
      exact (h x List.mem_cons_self).bind fun _ _ => ih fun y hy => h y (List.mem_cons_of_mem _ hy)

theorem require {e : Error} {n : Int} (h : ¬Counter.Fits n → P e) :
    FailsOnly P (Counter.require e n) := by
  intro e' he
  obtain ⟨hn, rfl⟩ := Counter.require_eq_error_iff.mp he
  exact h hn

end FailsOnly

/-! ### Refusals of data -/

/-- The computation can only refuse data. -/
abbrev RefusesData (x : Except Error α) : Prop := FailsOnly (·.kind = .dataFormat) x

theorem refusesData_error (fault : DataFault) :
    RefusesData (.error (.data fault) : Except Error α) :=
  FailsOnly.error rfl

theorem refusesData_elim (fault : DataFault) (x : Option α) :
    RefusesData (x.elim (.error (.data fault)) .ok) := by
  cases x with
  | none => exact refusesData_error fault
  | some a => exact FailsOnly.ok a

/-- A refusal of data, or, under a condition, a step out of the range of a counter. -/
def Error.IsDataOr (p : Prop) (e : Error) : Prop := e.kind = .dataFormat ∨ e = .overflow ∧ p

theorem FailsOnly.isDataOr (h : RefusesData x) : FailsOnly (Error.IsDataOr p) x :=
  h.mono fun _ => .inl

theorem FailsOnly.overflow {n : Int} (h : ¬Counter.Fits n → p) :
    FailsOnly (Error.IsDataOr p) (Counter.require .overflow n) :=
  FailsOnly.require fun hn => .inr ⟨rfl, h hn⟩

/-! ### Times out of range -/

/-- The refusal of an instant, a reading or a boundary that lies out of range. -/
def Error.IsOutOfRange : Error → Prop
  | data (.readingRange _) | data (.readingSupport _) | data .boundaryRange => True
  | _ => False

theorem Error.IsOutOfRange.kind {e : Error} (h : e.IsOutOfRange) : e.kind = .dataFormat := by
  cases e with
  | data fault => rfl
  | _ => exact h.elim

/-- The computation can only refuse times. -/
abbrev RefusesTimes (x : Except Error α) : Prop := FailsOnly Error.IsOutOfRange x

/-- A refusal of a time, or, under a condition, a step out of the range of a counter. -/
def Error.IsOutOfRangeOr (p : Prop) (e : Error) : Prop := e.IsOutOfRange ∨ e = .overflow ∧ p

theorem Error.IsOutOfRangeOr.mono {e : Error} (h : e.IsOutOfRangeOr p) (hpq : p → q) :
    e.IsOutOfRangeOr q :=
  h.imp_right (And.imp_right hpq)

theorem FailsOnly.isOutOfRangeOr (h : RefusesTimes x) : FailsOnly (Error.IsOutOfRangeOr p) x :=
  h.mono fun _ => .inl

theorem FailsOnly.isDataOr_of_isOutOfRangeOr (h : FailsOnly (Error.IsOutOfRangeOr p) x) :
    FailsOnly (Error.IsDataOr p) x :=
  h.mono fun _ => Or.imp_left Error.IsOutOfRange.kind

end Cadence
