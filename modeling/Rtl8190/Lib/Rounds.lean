import Mathlib.Data.Nat.ModEq

/-!
# Walks on a circle

The positions `0 .. n - 1` stand on a circle; a walk goes from one to the next. It may start outside
of the circle.
-/

namespace Rtl8190.Rounds

/-- The next `t` positions after `c` -/
def ahead (n c t : Nat) : List Nat := (List.range t).map fun k => (c + k + 1) % n

theorem ahead_add (n c s t : Nat) : ahead n c (s + t) = ahead n c s ++ ahead n (c + s) t := by
  unfold ahead
  rw [List.range_add, List.map_append, List.map_map]
  simp only [Function.comp_def, Nat.add_assoc]

theorem ahead_one (n c : Nat) : ahead n c 1 = [(c + 1) % n] := rfl

theorem ahead_mod (n c t : Nat) : ahead n (c % n) t = ahead n c t := by
  unfold ahead
  simp only [Nat.add_assoc, Nat.mod_add_mod]

theorem ahead_succ (n c t : Nat) : ahead n c (t + 1) = (c + 1) % n :: ahead n ((c + 1) % n) t := by
  rw [Nat.add_comm, ahead_add, ahead_one, ahead_mod]
  rfl

theorem lt_of_mem_ahead {n c t x : Nat} (hn : 0 < n) (h : x ∈ ahead n c t) : x < n := by
  obtain ⟨k, -, rfl⟩ := List.mem_map.mp h
  exact Nat.mod_lt _ hn

theorem mem_ahead {n c t x : Nat} (ht : n ≤ t) (hx : x < n) : x ∈ ahead n c t := by
  -- A whole round comes to every position.
  have hc := Nat.mod_lt c (Nat.zero_lt_of_lt hx)
  have hdiv := Nat.div_add_mod c n
  apply List.mem_map.mpr
  rcases Nat.lt_or_ge (c % n) x with hlt | hge
  · refine ⟨x - c % n - 1, ?_, ?_⟩
    · rw [List.mem_range]
      omega
    · have hsum : c + (x - c % n - 1) + 1 = x + n * (c / n) := by omega
      rw [hsum, Nat.add_mul_mod_self_left, Nat.mod_eq_of_lt hx]
  · refine ⟨x + n - c % n - 1, ?_, ?_⟩
    · rw [List.mem_range]
      omega
    · have hsum : c + (x + n - c % n - 1) + 1 = x + n + n * (c / n) := by omega
      rw [hsum, Nat.add_mul_mod_self_left, Nat.add_mod_right, Nat.mod_eq_of_lt hx]

theorem mod_notMem_ahead {n c t : Nat} (ht : t < n) : c % n ∉ ahead n c t := by
  intro h
  obtain ⟨k, hk, heq⟩ := List.mem_map.mp h
  rw [List.mem_range] at hk
  have hdvd := (Nat.modEq_iff_dvd' (Nat.le_add_right c (k + 1))).mp heq.symm
  rw [Nat.add_sub_cancel_left] at hdvd
  exact absurd (Nat.le_of_dvd (Nat.succ_pos k) hdvd) (by omega)

end Rtl8190.Rounds
