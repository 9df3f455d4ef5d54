import Mathlib.Order.Lattice

/-!
# The best of a list

A scan that keeps the first element with the largest value, from a seed that need not be in the list.
-/

namespace Rtl8190.Best

variable {α β : Type*} [LinearOrder β] (f : α → β)

def best (seed : α) (l : List α) : α := l.foldl (fun b a => if f b < f a then a else b) seed

@[simp] theorem best_nil (seed : α) : best f seed [] = seed := rfl

@[simp] theorem best_cons (seed a : α) (l : List α) :
    best f seed (a :: l) = best f (if f seed < f a then a else seed) l := rfl

theorem best_append (seed : α) (l m : List α) :
    best f seed (l ++ m) = best f (best f seed l) m := List.foldl_append

theorem best_mem (seed : α) (l : List α) : best f seed l ∈ seed :: l := by
  induction l generalizing seed with
  | nil => simp
  | cons a l ih =>
    rw [best_cons]
    split_ifs
    · exact List.mem_cons_of_mem _ (ih a)
    · rcases List.mem_cons.mp (ih seed) with h | h
      · simp [h]
      · exact List.mem_cons_of_mem _ (List.mem_cons_of_mem _ h)

theorem le_best_seed (seed : α) (l : List α) : f seed ≤ f (best f seed l) := by
  induction l generalizing seed with
  | nil => simp
  | cons a l ih =>
    rw [best_cons]
    split_ifs with h
    · exact le_trans (le_of_lt h) (ih a)
    · exact ih seed

theorem le_best {seed : α} {l : List α} {a : α} (h : a ∈ l) : f a ≤ f (best f seed l) := by
  induction l generalizing seed with
  | nil => simp at h
  | cons b l ih =>
    rw [best_cons]
    rcases List.mem_cons.mp h with rfl | h
    · apply le_trans _ (le_best_seed f _ l)
      split_ifs with hlt
      · exact le_rfl
      · exact not_lt.mp hlt
    · exact ih h

/-- A seed that is worse than every other element wins only where it is an element. -/
theorem best_mem_of_worst {seed : α} {l : List α} (hworst : ∀ a ∈ l, a ≠ seed → f seed < f a)
    (h : l ≠ []) : best f seed l ∈ l := by
  rcases List.mem_cons.mp (best_mem f seed l) with hseed | hmem
  · obtain ⟨a, ha⟩ := List.exists_mem_of_ne_nil l h
    by_cases heq : a = seed
    · rw [hseed, ← heq]
      exact ha
    · have hle : _ ≤ f (best f seed _) := le_best f ha
      rw [hseed] at hle
      exact absurd hle (not_le.mpr (hworst a ha heq))
  · exact hmem

end Rtl8190.Best
