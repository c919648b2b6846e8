import Cadence.Proofs.Failure
import Cadence.Reducer.Reduce

/-!
# Where reductions fail

A reducer makes no column of a type that it does not support. Of one that it supports it fails
only where a sum of integers leaves the range of a counter, or where the rows of all windows
together are more than lists can hold.
-/

namespace Cadence

theorem Column.le_of_mem_offsetsFrom {start offset : Nat} {windows : List (List Nat)}
    (h : offset ∈ offsetsFrom start windows) : offset ≤ start + windows.flatten.length := by
  induction windows generalizing start with
  | nil => exact Nat.le_of_eq (List.mem_singleton.mp h)
  | cons rows rest ih =>
      rw [List.flatten_cons, List.length_append]
      rcases List.mem_cons.mp h with rfl | h
      · omega
      · have hrest := ih h
        omega

namespace Reducer

/-- Why a reducer makes no column of a column and some windows. -/
inductive Refuses (r : Reducer) (c : Column) (windows : List (List Nat)) : Error → Prop
  | type : r.supports c.type = false → Refuses r c windows (.data (.unsupportedType r c.type))
  | sum {rows : List Nat} : r = sum → c.type = .int64 → rows ∈ windows →
      total? (c.intsAt rows) = none → Refuses r c windows (.data .sumOverflow)
  | lists : r = identity → listCapacity < windows.flatten.length →
      Refuses r c windows (.data .listCapacity)

variable {r : Reducer} {c : Column} {windows : List (List Nat)}

theorem Refuses.kind {e : Error} (h : r.Refuses c windows e) : e.kind = .dataFormat := by
  cases h <;> rfl

theorem failsOnly_reduceInts (r : Reducer) (windows : List (List Nat)) (htype : c.type = .int64) :
    FailsOnly (r.Refuses c windows) (r.reduceInts c windows) := by
  cases r with
  | sum =>
      refine FailsOnly.bind (FailsOnly.mapM fun rows hrows => ?_) fun _ _ => FailsOnly.ok _
      cases htotal : total? (c.intsAt rows) with
      | none => exact FailsOnly.error (.sum rfl htype hrows htotal)
      | some n => exact FailsOnly.ok n
  | max | min | mean | count | identity => exact FailsOnly.ok _

theorem failsOnly_reduceNumbers (hr : ∀ type, r.supports type = type.isNumeric) (c : Column)
    (windows : List (List Nat)) : FailsOnly (r.Refuses c windows) (r.reduceNumbers c windows) := by
  unfold reduceNumbers
  split
  · next htype => exact failsOnly_reduceInts r windows htype
  · split
    · exact FailsOnly.ok _
    · next hnumeric =>
        exact FailsOnly.error (.type ((hr c.type).trans (Bool.eq_false_iff.mpr hnumeric)))

theorem failsOnly_reduce (r : Reducer) (c : Column) (windows : List (List Nat)) :
    FailsOnly (r.Refuses c windows) (r.reduce c windows) := by
  cases r with
  | count => exact FailsOnly.ok _
  | identity =>
      dsimp only [reduce]
      split
      · exact FailsOnly.ok _
      · next hall =>
          refine FailsOnly.error (.lists rfl (Nat.lt_of_not_le fun hfew => hall ?_))
          rw [List.all_eq_true]
          intro offset hoffset
          have hle := Column.le_of_mem_offsetsFrom hoffset
          exact decide_eq_true (by omega)
  | sum | max | min | mean => exact failsOnly_reduceNumbers (fun _ => rfl) c windows

end Reducer

end Cadence
