import Mathlib.Tactic.Common

/-!
Runs of a machine that takes inputs one after the other and does something at each of them. A run is
read by the number of the input: the state before it and what is done at it.
-/

set_option autoImplicit false
set_option relaxedAutoImplicit false

namespace ClassPad.Run

variable {σ ι ε : Type} (step : σ → ι → σ × List ε) (start : σ) (inputs : List ι)

def stateAt (k : Nat) : σ := (inputs.take k).foldl (fun s i => (step s i).1) start

def doneAt (k : Nat) : List ε :=
  match inputs[k]? with
  | none => []
  | some i => (step (stateAt step start inputs k) i).2

variable {inputs}

theorem stateAt_succ {k : Nat} {i : ι} (hi : inputs[k]? = some i) :
    stateAt step start inputs (k + 1) = (step (stateAt step start inputs k) i).1 := by
  simp only [stateAt, List.take_add_one, hi, Option.toList_some, List.foldl_append,
    List.foldl_cons, List.foldl_nil]

theorem doneAt_of_input {k : Nat} {i : ι} (hi : inputs[k]? = some i) :
    doneAt step start inputs k = (step (stateAt step start inputs k) i).2 := by
  simp only [doneAt, hi]

theorem doneAt_of_length_le {k : Nat} (hk : inputs.length ≤ k) :
    doneAt step start inputs k = [] := by
  simp only [doneAt, List.getElem?_eq_none hk]

/-- What holds at the start and is kept by every step holds at every time of a run. -/
theorem stateAt_induction {P : Nat → σ → Prop} (first : P 0 start)
    (next : ∀ k i, inputs[k]? = some i → P k (stateAt step start inputs k) →
      P (k + 1) (step (stateAt step start inputs k) i).1) {k : Nat}
    (hk : k ≤ inputs.length) : P k (stateAt step start inputs k) := by
  induction k with
  | zero => exact first
  | succ k ih =>
    have hi : inputs[k]? = some inputs[k] := List.getElem?_eq_getElem hk
    rw [stateAt_succ step start hi]
    exact next k _ hi (ih (Nat.le_of_succ_le hk))

theorem stateAt_invariant {P : σ → Prop} (first : P start)
    (next : ∀ s i, P s → P (step s i).1) (k : Nat) : P (stateAt step start inputs k) :=
  List.foldlRecOn _ _ first fun s h i _ => next s i h

theorem flatMap_range_of_single {α : Type} {f : Nat → List α} {n m : Nat} (hm : m < n)
    (others : ∀ i < n, i ≠ m → f i = []) : (List.range n).flatMap f = f m := by
  induction n with
  | zero => exact absurd hm (Nat.not_lt_zero m)
  | succ n ih =>
    rw [List.range_succ, List.flatMap_append, List.flatMap_singleton]
    rcases Nat.lt_succ_iff_lt_or_eq.mp hm with hlt | rfl
    · rw [ih hlt fun i hi => others i (Nat.lt_succ_of_lt hi),
        others n (Nat.lt_succ_self n) (Nat.ne_of_gt hlt), List.append_nil]
    · have hnone : (List.range m).flatMap f = [] :=
        List.flatMap_eq_nil_iff.mpr fun i hi =>
          others i (Nat.lt_succ_of_lt (List.mem_range.mp hi)) (Nat.ne_of_lt (List.mem_range.mp hi))
      rw [hnone, List.nil_append]

end ClassPad.Run
