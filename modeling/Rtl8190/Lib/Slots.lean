import Mathlib.Algebra.BigOperators.Group.List.Basic
import Mathlib.Algebra.BigOperators.Group.Finset.Basic
import Mathlib.Algebra.BigOperators.Group.Finset.Piecewise

/-!
# Tables of slots

A table is written slot by slot, and its total over the first `n` slots is to say what was written
last. It does when the last `n` writes went to `n` different slots.
-/

namespace Rtl8190.Slots

variable {ι α : Type*} [DecidableEq ι]

/-- The table after the writes of a log, newest first. -/
def after (table : ι → α) : List (ι × α) → ι → α
  | [] => table
  | (i, v) :: log => Function.update (after table log) i v

@[simp] theorem after_nil (table : ι → α) : after table [] = table := rfl

@[simp] theorem after_cons (table : ι → α) (w : ι × α) (log : List (ι × α)) :
    after table (w :: log) = Function.update (after table log) w.1 w.2 := rfl

theorem after_append (table : ι → α) (log log' : List (ι × α)) :
    after table (log ++ log') = after (after table log') log := by
  induction log with
  | nil => rfl
  | cons w log ih => simp [ih]

variable [AddCommMonoid α]

/-- Writes to different slots: their values, and the slots that were not written. -/
theorem sum_after (table : ι → α) (log : List (ι × α)) (s : Finset ι)
    (hnodup : (log.map Prod.fst).Nodup) (hmem : ∀ i ∈ log.map Prod.fst, i ∈ s) :
    ∑ i ∈ s, after table log i =
      (log.map Prod.snd).sum + ∑ i ∈ s \ (log.map Prod.fst).toFinset, table i := by
  induction log generalizing s with
  | nil => simp
  | cons w log ih =>
    simp only [List.map_cons, List.nodup_cons, List.mem_cons, forall_eq_or_imp] at hnodup hmem
    obtain ⟨hnew, hnodup⟩ := hnodup
    obtain ⟨hw, hmem⟩ := hmem
    have hrest : ∀ i ∈ log.map Prod.fst, i ∈ s \ {w.1} := by
      intro i hi
      rw [Finset.mem_sdiff, Finset.mem_singleton]
      exact ⟨hmem i hi, fun h => hnew (h ▸ hi)⟩
    have hleft : s \ (insert w.1 (log.map Prod.fst).toFinset) =
        (s \ {w.1}) \ (log.map Prod.fst).toFinset := by
      rw [sdiff_sdiff_left, Finset.sup_eq_union, ← Finset.insert_eq]
    rw [after_cons, Finset.sum_update_of_mem hw, ih _ hnodup hrest, List.map_cons, List.sum_cons,
      List.map_cons, List.toFinset_cons, add_assoc, hleft]

/-- The total over `n` slots is what the last `n` writes wrote, when these went to different slots
of the `n`. A shorter log has to start from an empty table. -/
theorem sum_range_after (log : List (Nat × α)) (n : Nat)
    (hnodup : ((log.take n).map Prod.fst).Nodup)
    (hlt : ∀ i ∈ (log.take n).map Prod.fst, i < n) :
    ∑ i ∈ Finset.range n, after (fun _ => 0) log i = ((log.take n).map Prod.snd).sum := by
  have hmem : ∀ i ∈ (log.take n).map Prod.fst, i ∈ Finset.range n := fun i hi =>
    Finset.mem_range.mpr (hlt i hi)
  conv_lhs => rw [← List.take_append_drop n log, after_append]
  rw [sum_after _ _ _ hnodup hmem]
  rcases Nat.le_or_ge log.length n with hshort | hlong
  · rw [List.drop_of_length_le hshort]
    simp
  · -- All of the `n` slots were written.
    have hcard : (Finset.range n).card ≤ ((log.take n).map Prod.fst).toFinset.card := by
      rw [List.toFinset_card_of_nodup hnodup, List.length_map, List.length_take, Finset.card_range]
      omega
    have hall : ((log.take n).map Prod.fst).toFinset = Finset.range n := by
      apply Finset.eq_of_subset_of_card_le _ hcard
      intro i hi
      exact hmem i (List.mem_toFinset.mp hi)
    rw [hall, sdiff_self, Finset.bot_eq_empty, Finset.sum_empty, add_zero]

end Rtl8190.Slots
