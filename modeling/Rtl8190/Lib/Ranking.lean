import Mathlib.Data.List.Basic
import Mathlib.Order.Lattice

/-!
# The two largest and the smallest of a list

Elements of equal value may stand in each other's place. No element stands in two places of a list that
is long enough for all of them.
-/

namespace Rtl8190.Ranking

variable {ι α : Type*} [LinearOrder α] {v : ι → α} {l : List ι} {a i max sec min : ι}

structure Ranked (v : ι → α) (l : List ι) (max sec min : ι) : Prop where
  max_mem : max ∈ l
  sec_mem : sec ∈ l
  min_mem : min ∈ l
  le_max : ∀ j ∈ l, v j ≤ v max
  le_sec : ∀ j ∈ l, j ≠ max → v j ≤ v sec
  min_le : ∀ j ∈ l, v min ≤ v j
  two : 2 ≤ l.length → max ≠ sec ∧ max ≠ min
  three : 3 ≤ l.length → sec ≠ min

theorem ranked_singleton (i : ι) : Ranked v [i] i i i := by
  constructor <;> simp

theorem ranked_pair_above (hne : a ≠ i) (h : v a ≤ v i) : Ranked v [a, i] i a a := by
  constructor <;> simp [h, hne, hne.symm]

theorem ranked_pair_below (hne : a ≠ i) (h : v i ≤ v a) : Ranked v [a, i] a i i := by
  constructor <;> simp [h, hne]

/-! ## One more element -/

theorem forall_mem_concat {P : ι → Prop} (h : ∀ j ∈ l, P j) (hi : P i) : ∀ j ∈ l ++ [i], P j := by
  simpa [or_imp, forall_and] using ⟨h, hi⟩

namespace Ranked

variable (h : Ranked v l max sec min) (hl : 2 ≤ l.length)

include h

theorem ne_of_not_mem (hi : i ∉ l) : max ≠ i ∧ sec ≠ i ∧ min ≠ i := by
  refine ⟨?_, ?_, ?_⟩
  · rintro rfl
    exact hi h.max_mem
  · rintro rfl
    exact hi h.sec_mem
  · rintro rfl
    exact hi h.min_mem

include hl

theorem above (hi : i ∉ l) (hle : v max ≤ v i) : Ranked v (l ++ [i]) i max min where
  max_mem := by simp
  sec_mem := by simp [h.max_mem]
  min_mem := by simp [h.min_mem]
  le_max := forall_mem_concat (fun j hj => le_trans (h.le_max j hj) hle) le_rfl
  le_sec := forall_mem_concat (fun j hj _ => h.le_max j hj) fun hne => absurd rfl hne
  min_le := forall_mem_concat h.min_le (le_trans (h.min_le max h.max_mem) hle)
  two := fun _ => ⟨(h.ne_of_not_mem hi).1.symm, (h.ne_of_not_mem hi).2.2.symm⟩
  three := fun _ => (h.two hl).2

theorem between (hi : i ∉ l) (hle : v i ≤ v max) (hge : v sec ≤ v i) : Ranked v (l ++ [i]) max i min where
  max_mem := by simp [h.max_mem]
  sec_mem := by simp
  min_mem := by simp [h.min_mem]
  le_max := forall_mem_concat h.le_max hle
  le_sec := forall_mem_concat (fun j hj hne => le_trans (h.le_sec j hj hne) hge) fun _ => le_rfl
  min_le := forall_mem_concat h.min_le (le_trans (h.min_le sec h.sec_mem) hge)
  two := fun _ => ⟨(h.ne_of_not_mem hi).1, (h.two hl).2⟩
  three := fun _ => (h.ne_of_not_mem hi).2.2.symm

theorem below (hi : i ∉ l) (hle : v i ≤ v min) : Ranked v (l ++ [i]) max sec i where
  max_mem := by simp [h.max_mem]
  sec_mem := by simp [h.sec_mem]
  min_mem := by simp
  le_max := forall_mem_concat h.le_max (le_trans hle (h.min_le max h.max_mem))
  le_sec := forall_mem_concat h.le_sec fun _ => le_trans hle (h.min_le sec h.sec_mem)
  min_le := forall_mem_concat (fun j hj => le_trans hle (h.min_le j hj)) le_rfl
  two := fun _ => ⟨(h.two hl).1, (h.ne_of_not_mem hi).1⟩
  three := fun _ => (h.ne_of_not_mem hi).2.1

theorem within (hle : v i ≤ v sec) (hge : v min ≤ v i) (hlt : v min < v sec) :
    Ranked v (l ++ [i]) max sec min where
  max_mem := by simp [h.max_mem]
  sec_mem := by simp [h.sec_mem]
  min_mem := by simp [h.min_mem]
  le_max := forall_mem_concat h.le_max (le_trans hle (h.le_max sec h.sec_mem))
  le_sec := forall_mem_concat h.le_sec fun _ => hle
  min_le := forall_mem_concat h.min_le hge
  two := fun _ => h.two hl
  three := by
    rintro _ rfl
    exact lt_irrefl _ hlt

end Ranked

end Rtl8190.Ranking
