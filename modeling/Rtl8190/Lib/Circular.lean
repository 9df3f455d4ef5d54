import Mathlib.Data.Nat.ModEq

/-!
# Sequence numbers on a circle

A sender counts without a bound and sends the count modulo `n`. `dist n a b` is how far `b` lies
ahead of `a` on the circle. As long as two counts differ by less than half the circle, their
residues tell which of them is the larger one.
-/

namespace Rtl8190.Circular

def dist (n a b : Nat) : Nat := (b + (n - a % n)) % n

variable {n : Nat}

theorem dist_lt (hn : 0 < n) (a b : Nat) : dist n a b < n := Nat.mod_lt _ hn

@[simp] theorem dist_mod_left (a b : Nat) : dist n (a % n) b = dist n a b := by
  simp [dist]

@[simp] theorem dist_mod_right (a b : Nat) : dist n a (b % n) = dist n a b := by
  simp [dist]

theorem add_dist_mod (hn : 0 < n) (a b : Nat) : (a + dist n a b) % n = b % n := by
  have ha := Nat.mod_lt a hn
  have h : a + (b + (n - a % n)) = b + n * (a / n) + n := by
    have := Nat.div_add_mod a n
    omega
  rw [dist, Nat.add_mod_mod, h, Nat.add_mod_right, Nat.add_mul_mod_self_left]

theorem dist_add (hn : 0 < n) (a k : Nat) (hk : k < n) : dist n a (a + k) = k := by
  have ha := Nat.mod_lt a hn
  have h : a + k + (n - a % n) = k + n * (a / n) + n := by
    have := Nat.div_add_mod a n
    omega
  rw [dist, h, Nat.add_mod_right, Nat.add_mul_mod_self_left, Nat.mod_eq_of_lt hk]

theorem dist_of_le {a b : Nat} (hab : a ≤ b) (h : b - a < n) : dist n a b = b - a := by
  have h' := dist_add (by omega) a (b - a) h
  rwa [Nat.add_sub_cancel' hab] at h'

theorem dist_of_gt {a b : Nat} (hab : b < a) (h : a - b < n) : dist n a b = n - (a - b) := by
  have h' := dist_add (n := n) (by omega) a (n - (a - b)) (by omega)
  have e : a + (n - (a - b)) = b + n := by omega
  rw [e] at h'
  rw [← dist_mod_right, ← h', ← dist_mod_right (b := b + n), Nat.add_mod_right]

theorem dist_self (hn : 0 < n) (a : Nat) : dist n a a = 0 := by
  simpa using dist_add hn a 0 hn

/-- The count that the residue `s` stands for, seen from the count `base`. -/
def unwrap (n base s : Nat) : Nat := base + dist n base s

theorem le_unwrap (base s : Nat) : base ≤ unwrap n base s := Nat.le_add_right _ _

theorem unwrap_lt (hn : 0 < n) (base s : Nat) : unwrap n base s < base + n :=
  Nat.add_lt_add_left (dist_lt hn base s) base

theorem unwrap_mod (hn : 0 < n) (base s : Nat) : unwrap n base s % n = s % n :=
  add_dist_mod hn base s

theorem unwrap_eq {base x : Nat} (h1 : base ≤ x) (h2 : x < base + n) :
    unwrap n base (x % n) = x := by
  rw [unwrap, dist_mod_right, dist_of_le h1 (by omega)]
  omega

theorem unwrap_rebase {base base' s : Nat} (h1 : base ≤ base') (h2 : base' ≤ unwrap n base s)
    (hn : 0 < n) : unwrap n base' s = unwrap n base s := by
  have h3 := unwrap_lt hn base s
  have h4 := unwrap_eq h2 (n := n) (by omega)
  rwa [unwrap_mod hn, unwrap, dist_mod_right] at h4

/-- Half-range comparison: counts less than half a circle apart compare as their residues do. -/
theorem half_le_dist_iff {h a b : Nat} (h1 : a < b + h) (h2 : b ≤ a + h) :
    h ≤ dist (2 * h) b a ↔ a < b := by
  rcases Nat.lt_or_ge a b with hab | hab
  · rw [dist_of_gt hab (by omega)]
    omega
  · rw [dist_of_le hab (by omega)]
    omega

theorem mod_eq_iff_of_close {a b : Nat} (h1 : a < b + n) (h2 : b < a + n) :
    a % n = b % n ↔ a = b := by
  constructor
  · intro h
    rcases Nat.lt_or_ge a b with hab | hab
    · have := dist_of_le hab.le (n := n) (by omega)
      rw [← dist_mod_right, ← h, dist_mod_right, dist_self (by omega)] at this
      omega
    · have := dist_of_le hab (n := n) (by omega)
      rw [← dist_mod_right, h, dist_mod_right, dist_self (by omega)] at this
      omega
  · rintro rfl; rfl

end Rtl8190.Circular
