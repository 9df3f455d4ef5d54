import Mathlib.Algebra.Order.Ring.Nat
import Mathlib.Tactic.Ring

/-!
# Packed lanes

Lanes with room for `b` values each, side by side in one number. What a lane has too much goes over
into the next one.
-/

namespace Rtl8190.Lanes

variable {b n i : Nat} {s t : Nat → Nat}

def packed (b : Nat) (s : Nat → Nat) : Nat → Nat
  | 0 => 0
  | n + 1 => packed b s n + s n * b ^ n

/-- What the lanes below `i` hand over to it. -/
def carry (b : Nat) (s : Nat → Nat) : Nat → Nat
  | 0 => 0
  | i + 1 => (s i + carry b s i) / b

@[simp] theorem carry_zero (b : Nat) (s : Nat → Nat) : carry b s 0 = 0 := rfl

theorem carry_succ (b : Nat) (s : Nat → Nat) (i : Nat) :
    carry b s (i + 1) = (s i + carry b s i) / b := rfl

theorem packed_add (b : Nat) (s t : Nat → Nat) (n : Nat) :
    packed b (fun i => s i + t i) n = packed b s n + packed b t n := by
  induction n with
  | zero => rfl
  | succ n ih =>
    simp only [packed, ih]
    ring

theorem packed_digits (b x n : Nat) : packed b (fun i => x / b ^ i % b) n = x % b ^ n := by
  induction n with
  | zero => simp [packed, Nat.mod_one]
  | succ n ih =>
    simp only [packed, ih]
    rw [Nat.pow_succ, Nat.mod_mul, Nat.mul_comm (b ^ n)]

theorem packed_eq (hb : 0 < b) (s : Nat → Nat) (i : Nat) :
    ∃ r < b ^ i, packed b s i = r + b ^ i * carry b s i := by
  -- Up to lane `i`, what has gone over stands above what has stayed.
  induction i with
  | zero => exact ⟨0, by simp, by simp [packed]⟩
  | succ i ih =>
    obtain ⟨r, hr, heq⟩ := ih
    have hdiv := Nat.div_add_mod (s i + carry b s i) b
    refine ⟨r + b ^ i * ((s i + carry b s i) % b), ?_, ?_⟩
    · have hmod : (s i + carry b s i) % b + 1 ≤ b := Nat.mod_lt _ hb
      calc r + b ^ i * ((s i + carry b s i) % b)
          < b ^ i * ((s i + carry b s i) % b + 1) := by rw [Nat.mul_succ]; omega
        _ ≤ b ^ i * b := Nat.mul_le_mul_left _ hmod
        _ = b ^ (i + 1) := (Nat.pow_succ ..).symm
    · calc packed b s (i + 1) = r + b ^ i * (s i + carry b s i) := by
            rw [packed, heq]
            ring
        _ = r + b ^ i * (b * ((s i + carry b s i) / b) + (s i + carry b s i) % b) := by rw [hdiv]
        _ = _ := by
            rw [carry_succ]
            ring

theorem packed_eq_add (b : Nat) (s : Nat → Nat) (i k : Nat) :
    ∃ q, packed b s (i + (k + 1)) = packed b s i + b ^ i * (s i + b * q) := by
  induction k with
  | zero => exact ⟨0, by simp [packed, Nat.mul_comm]⟩
  | succ k ih =>
    obtain ⟨q, hq⟩ := ih
    refine ⟨q + s (i + (k + 1)) * b ^ k, ?_⟩
    calc packed b s (i + (k + 1 + 1))
        = packed b s (i + (k + 1)) + s (i + (k + 1)) * b ^ (i + (k + 1)) := rfl
      _ = _ := by
          rw [hq]
          ring

/-- A lane of the sum is the sum in that lane with what the lower lanes hand over. -/
theorem packed_div_mod (hb : 0 < b) (s : Nat → Nat) (h : i < n) :
    packed b s n / b ^ i % b = (s i + carry b s i) % b := by
  obtain ⟨k, rfl⟩ := Nat.exists_eq_add_of_lt h
  obtain ⟨r, hr, hlow⟩ := packed_eq hb s i
  obtain ⟨q, hq⟩ := packed_eq_add b s i k
  have hsum : packed b s (i + k + 1) = r + b ^ i * (s i + carry b s i + b * q) := by
    rw [Nat.add_assoc, hq, hlow]
    ring
  rw [hsum, Nat.add_mul_div_left _ _ (Nat.pow_pos hb), Nat.div_eq_of_lt hr, Nat.zero_add,
    Nat.add_mul_mod_self_left]

theorem carry_eq_zero (h : ∀ j < i, s j < b) : carry b s i = 0 := by
  induction i with
  | zero => rfl
  | succ i ih =>
    rw [carry_succ, ih fun j hj => h j (Nat.lt_succ_of_lt hj)]
    exact Nat.div_eq_of_lt (h i (Nat.lt_succ_self i))

theorem carry_congr (h : ∀ j < i, s j = t j) : carry b s i = carry b t i := by
  induction i with
  | zero => rfl
  | succ i ih =>
    rw [carry_succ, carry_succ, h i (Nat.lt_succ_self i), ih fun j hj => h j (Nat.lt_succ_of_lt hj)]

theorem carry_lt {m : Nat} (hb : 0 < b) (hm : 0 < m) (h : ∀ j, s j ≤ m * (b - 1)) (i : Nat) :
    carry b s i < m := by
  induction i with
  | zero => exact hm
  | succ i ih =>
    have hs := h i
    rw [carry_succ, Nat.div_lt_iff_lt_mul hb]
    have hmul : m * (b - 1) + m = m * b := by
      obtain ⟨c, rfl⟩ := Nat.exists_eq_succ_of_ne_zero hb.ne'
      simp [Nat.mul_succ]
    omega

/-! ## Bytes of a word -/

abbrev Byte := BitVec 8

def lane {w : Nat} (x : BitVec w) (i : Nat) : Byte := x.extractLsb' (8 * i) 8

theorem toNat_lane {w : Nat} (x : BitVec w) (i : Nat) :
    (lane x i).toNat = x.toNat / 256 ^ i % 256 := by
  unfold lane
  rw [BitVec.extractLsb'_toNat, Nat.shiftRight_eq_div_pow, Nat.pow_mul]

def word (f : Nat → Byte) : BitVec 32 :=
  (f 3).setWidth 32 <<< 24 ||| (f 2).setWidth 32 <<< 16 ||| (f 1).setWidth 32 <<< 8 |||
    (f 0).setWidth 32

theorem lane_word (f : Nat → Byte) (hi : i < 4) : lane (word f) i = f i := by
  apply BitVec.eq_of_getLsbD_eq
  intro k hk
  simp only [lane, word, BitVec.getLsbD_extractLsb', BitVec.getLsbD_or, BitVec.getLsbD_shiftLeft,
    BitVec.getLsbD_setWidth, hk, decide_true, Bool.true_and]
  have hbit : ∀ j m, 8 ≤ m → (f j).getLsbD m = false := fun j m hm =>
    BitVec.getLsbD_of_ge (f j) m hm
  have hcases : i = 0 ∨ i = 1 ∨ i = 2 ∨ i = 3 := by omega
  rcases hcases with rfl | rfl | rfl | rfl
  · simp [show k < 24 by omega, show k < 16 by omega, show k < 32 by omega, hk]
  · simp [show 8 + k < 24 by omega, show 8 + k < 16 by omega, show 8 + k < 32 by omega,
      show k < 32 by omega]
  · simp [show 16 + k < 24 by omega, show ¬ 16 + k < 8 by omega, show 16 + k < 32 by omega,
      show k < 32 by omega, hbit 0 (16 + k) (by omega), hbit 1 (16 + k - 8) (by omega)]
  · simp [show ¬ 24 + k < 8 by omega, show 24 + k < 32 by omega, show k < 32 by omega,
      hbit 0 (24 + k) (by omega), hbit 1 (24 + k - 8) (by omega), hbit 2 (24 + k - 16) (by omega)]

theorem word_congr {f g : Nat → Byte} (h : ∀ i < 4, f i = g i) : word f = word g := by
  unfold word
  rw [h 0 (by omega), h 1 (by omega), h 2 (by omega), h 3 (by omega)]

/-- The word is the sum of the lanes `s`, which need not fit in a byte each. -/
def Packs (x : BitVec 32) (s : Nat → Nat) : Prop := x = BitVec.ofNat 32 (packed 256 s 4)

section Packs

variable {x y : BitVec 32}

theorem packed_congr (h : ∀ j < n, s j = t j) : packed b s n = packed b t n := by
  induction n with
  | zero => rfl
  | succ n ih =>
    rw [packed, packed, ih fun j hj => h j (Nat.lt_succ_of_lt hj), h n (Nat.lt_succ_self n)]

theorem Packs.congr (h : ∀ j < 4, s j = t j) (hx : Packs x s) : Packs x t := by
  unfold Packs at *
  rw [hx, packed_congr h]

theorem packs_lanes (x : BitVec 32) : Packs x (fun i => (lane x i).toNat) := by
  unfold Packs
  simp only [toNat_lane]
  rw [packed_digits, show (256 ^ 4 : Nat) = 2 ^ 32 by rfl, Nat.mod_eq_of_lt x.isLt,
    BitVec.ofNat_toNat, BitVec.setWidth_eq]

theorem packs_word (f : Nat → Byte) : Packs (word f) (fun i => (f i).toNat) := by
  refine (packs_lanes (word f)).congr fun j hj => ?_
  rw [lane_word f hj]

theorem Packs.add (hx : Packs x s) (hy : Packs y t) : Packs (x + y) (fun i => s i + t i) := by
  unfold Packs at *
  rw [hx, hy, packed_add, BitVec.ofNat_add]

theorem Packs.toNat_lane (h : Packs x s) (hi : i < 4) :
    (lane x i).toNat = (s i + carry 256 s i) % 256 := by
  have hpow : 256 ^ i * 256 ∣ 2 ^ 32 := by
    rw [← Nat.pow_succ, show (2 ^ 32 : Nat) = 256 ^ 4 by rfl]
    exact Nat.pow_dvd_pow 256 hi
  rw [Lanes.toNat_lane, h, BitVec.toNat_ofNat, ← packed_div_mod (by decide) s hi]
  rw [← Nat.mod_mul_right_div_self, Nat.mod_mod_of_dvd _ hpow, Nat.mod_mul_right_div_self]

end Packs

end Rtl8190.Lanes
