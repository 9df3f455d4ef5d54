import Mathlib.Algebra.Group.Nat.Defs
import Mathlib.Data.List.Basic

/-!
# Big-endian counters

A number as a list of `w`-bit digits, the most significant one first: comparison digit by digit is
comparison of the values, and the carry loop adds one.
-/

namespace Rtl8190.Digits

variable {w : Nat}

def value : List (BitVec w) → Nat
  | [] => 0
  | d :: ds => d.toNat * 2 ^ (w * ds.length) + value ds

/-- The comparison of C's `memcmp`, on arrays of one length. -/
def memcmp : List (BitVec w) → List (BitVec w) → Ordering
  | a :: as, b :: bs => if a = b then memcmp as bs else if a < b then .lt else .gt
  | _, _ => .eq

/-- Adds one from the last digit on, and says whether it went over the first. -/
def increment : List (BitVec w) → List (BitVec w) × Bool
  | [] => ([], true)
  | d :: ds =>
    let r := increment ds
    if r.2 then ((d + 1) :: r.1, decide (d + 1 = 0)) else (d :: r.1, false)

theorem value_lt (ds : List (BitVec w)) : value ds < 2 ^ (w * ds.length) := by
  induction ds with
  | nil => simp [value]
  | cons d ds ih =>
    have hd : d.toNat + 1 ≤ 2 ^ w := d.isLt
    calc value (d :: ds) < (d.toNat + 1) * 2 ^ (w * ds.length) := by
          rw [value, Nat.add_mul, Nat.one_mul]
          omega
      _ ≤ 2 ^ w * 2 ^ (w * ds.length) := Nat.mul_le_mul_right _ hd
      _ = 2 ^ (w * (d :: ds).length) := by
          rw [← Nat.pow_add, List.length_cons, Nat.mul_succ, Nat.add_comm]

theorem value_cons_lt {a b : BitVec w} {as bs : List (BitVec w)} (hlen : as.length = bs.length)
    (h : a < b) : value (a :: as) < value (b :: bs) := by
  have hab : a.toNat + 1 ≤ b.toNat := h
  have has := value_lt as
  have hmul := Nat.mul_le_mul_right (2 ^ (w * as.length)) hab
  rw [Nat.add_mul, Nat.one_mul] at hmul
  simp only [value, ← hlen]
  omega

theorem memcmp_gt_iff {as bs : List (BitVec w)} (hlen : as.length = bs.length) :
    memcmp as bs = .gt ↔ value bs < value as := by
  induction as generalizing bs with
  | nil => cases bs <;> simp_all [memcmp, value]
  | cons a as ih =>
    cases bs with
    | nil => simp at hlen
    | cons b bs =>
      have hlen' : as.length = bs.length := by simpa using hlen
      rw [memcmp]
      split
      · rename_i hab
        rw [ih hlen', hab, value, value, hlen']
        omega
      · rename_i hab
        split
        · rename_i hlt
          have := value_cons_lt hlen' hlt
          simp only [reduceCtorEq, false_iff]
          omega
        · rename_i hlt
          have hgt : b < a := by
            have : a.toNat ≠ b.toNat := fun h => hab (BitVec.eq_of_toNat_eq h)
            simp only [BitVec.lt_def] at hlt ⊢
            omega
          exact iff_of_true rfl (value_cons_lt hlen'.symm hgt)

@[simp] theorem length_increment (ds : List (BitVec w)) : (increment ds).1.length = ds.length := by
  induction ds with
  | nil => rfl
  | cons d ds ih =>
    simp only [increment]
    split <;> simp [ih]

theorem toNat_add_one (d : BitVec w) :
    (d + 1).toNat = if d.toNat + 1 = 2 ^ w then 0 else d.toNat + 1 := by
  have hd := d.isLt
  have hone : (d + 1).toNat = (d.toNat + 1) % 2 ^ w := by simp
  rw [hone]
  split
  · rename_i h
    rw [h, Nat.mod_self]
  · exact Nat.mod_eq_of_lt (by omega)

theorem add_one_eq_zero_iff (d : BitVec w) : d + 1 = 0 ↔ d.toNat + 1 = 2 ^ w := by
  rw [← BitVec.toNat_inj, toNat_add_one]
  split <;> simp [*]

theorem value_increment (ds : List (BitVec w)) :
    value (increment ds).1 + (if (increment ds).2 then 2 ^ (w * ds.length) else 0) = value ds + 1 := by
  -- The carry counts for one more than the greatest value.
  induction ds with
  | nil => simp [increment, value]
  | cons d ds ih =>
    simp only [increment]
    by_cases hc : (increment ds).2 = true
    · simp only [hc, if_true] at ih ⊢
      simp only [value, length_increment, decide_eq_true_eq, List.length_cons, toNat_add_one,
        add_one_eq_zero_iff]
      split
      · rename_i hz
        have hpow : 2 ^ (w * (ds.length + 1)) = (d.toNat + 1) * 2 ^ (w * ds.length) := by
          rw [hz, Nat.mul_succ, Nat.pow_add, Nat.mul_comm]
        rw [hpow, Nat.add_mul]
        omega
      · rw [Nat.add_mul]
        omega
    · simp only [hc, Bool.false_eq_true, if_false] at ih ⊢
      simp only [value, length_increment]
      omega

end Rtl8190.Digits
