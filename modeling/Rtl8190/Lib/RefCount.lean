import Mathlib.Algebra.BigOperators.Group.Finset.Basic
import Mathlib.Data.Fintype.BigOperators
import Mathlib.Logic.Function.Basic

/-!
# Reference counts

Threads are at places, and some places are a reference to an object. A reference count that goes up
and down with every move of a thread is how many of them have the reference.
-/

open Function

namespace Rtl8190.RefCount

variable {ι π : Type*} [Fintype ι] [DecidableEq ι]

/-- How many threads are at a place that counts. -/
def count (p : π → Prop) [DecidablePred p] (place : ι → π) : Nat :=
  (Finset.univ.filter fun i => p (place i)).card

variable {p : π → Prop} [DecidablePred p] {place : ι → π} {i : ι}

theorem count_update (p : π → Prop) [DecidablePred p] (place : ι → π) (i : ι) (x : π) :
    count p (update place i x) + (if p (place i) then 1 else 0) =
      count p place + if p x then 1 else 0 := by
  unfold count
  rw [Finset.card_filter, Finset.card_filter, Fintype.sum_eq_add_sum_compl i,
    Fintype.sum_eq_add_sum_compl i fun j => if p (place j) then 1 else 0]
  have hothers : ∑ j ∈ ({i} : Finset ι)ᶜ, (if p (update place i x j) then 1 else 0) =
      ∑ j ∈ ({i} : Finset ι)ᶜ, if p (place j) then 1 else 0 := by
    apply Finset.sum_congr rfl
    intro j hj
    rw [update_of_ne (by simpa using hj)]
  rw [hothers, update_self]
  omega

theorem count_update_of_iff {x : π} (h : p (place i) ↔ p x) :
    count p (update place i x) = count p place := by
  have hmove := count_update p place i x
  simp only [h] at hmove
  omega

omit [DecidableEq ι] in
theorem count_pos (h : p (place i)) : 0 < count p place :=
  Finset.card_pos.mpr ⟨i, by simpa using h⟩

omit [DecidableEq ι] in
theorem count_eq_zero (h : ∀ i, ¬ p (place i)) : count p place = 0 := by
  simp [count, h]

end Rtl8190.RefCount
