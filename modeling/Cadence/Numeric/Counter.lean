/-! # Counters

Instants, spans and multiples of units are counted in signed 64-bit words. The
library counts in `Int` and asks where a result has to fit. -/

namespace Cadence

/-- The least value of a counter. -/
def Counter.least : Int := -9223372036854775808

/-- The greatest value of a counter. -/
def Counter.greatest : Int := 9223372036854775807

/-- A number that a counter can hold. -/
abbrev Counter.Fits (n : Int) : Prop := Counter.least ≤ n ∧ n ≤ Counter.greatest

theorem Counter.fits_iff_of_nonneg {n : Int} (h : 0 ≤ n) : Fits n ↔ n ≤ greatest :=
  and_iff_right (Int.le_trans (by decide) h)

/-- The number itself, if a counter can hold it. -/
def Counter.fit? (n : Int) : Option Int := if Counter.Fits n then some n else none

@[simp] theorem Counter.fit?_eq_some_iff {n m : Int} :
    Counter.fit? n = some m ↔ Counter.Fits n ∧ n = m := by
  unfold Counter.fit?
  split
  · next h =>
      simp only [Option.some.injEq]
      exact ⟨fun e => ⟨h, e⟩, fun e => e.2⟩
  · next h => simp only [reduceCtorEq, false_iff, not_and]; exact fun e => absurd e h

/-- The number itself, or a refusal. -/
def Counter.require {ε : Type} (refusal : ε) (n : Int) : Except ε Int :=
  (fit? n).elim (.error refusal) .ok

theorem Counter.require_eq_ok_iff {ε : Type} {refusal : ε} {n m : Int} :
    require refusal n = .ok m ↔ Fits n ∧ n = m := by
  rw [← fit?_eq_some_iff, require]
  cases fit? n <;> simp

theorem Counter.require_eq_error_iff {ε : Type} {refusal e : ε} {n : Int} :
    require refusal n = .error e ↔ ¬Fits n ∧ refusal = e := by
  rw [require, fit?]
  split <;> simp [*]

/-- The number of values of an unsigned 64-bit word. -/
def wordSize : Nat := 18446744073709551616

theorem one_lt_wordSize : 1 < wordSize := by decide

/-- The counter nearest to a natural number. -/
def Counter.clamp (n : Nat) : Int := min (n : Int) Counter.greatest

end Cadence
