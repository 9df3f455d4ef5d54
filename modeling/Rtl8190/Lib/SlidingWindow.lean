import Mathlib.Algebra.BigOperators.Group.List.Basic
import Mathlib.Data.BitVec

/-!
# A sliding window with a running total

The last samples are kept in an array that is written round and round, and their total is kept up to
date: while the window is not full it only grows, then the sample that is overwritten leaves it.
-/

namespace Rtl8190.SlidingWindow

/-- An array of `cap` samples, whose first ones are the window. The total wraps at `w` bits. -/
structure Ring (w cap : Nat) where
  elements : Vector Int cap
  index : Nat
  num : Nat
  total : BitVec w
  deriving DecidableEq, Repr

variable {w cap : Nat}

/-- Records a sample; `none` is an access outside of the array. -/
def Ring.push (window : Nat) (r : Ring w cap) (v : Int) : Option (Ring w cap) :=
  if h : r.index < cap then
    let full := r.num ≥ window
    some {
      elements := r.elements.set r.index v h
      index := if r.index + 1 ≥ window then 0 else r.index + 1
      num := if full then window else r.num + 1
      total := (if full then r.total - BitVec.ofInt w r.elements[r.index] else r.total) +
        BitVec.ofInt w v }
  else none

/-- The sum of the last `window` samples of a history, newest first. -/
def windowSum (window : Nat) (h : List Int) : Int := (h.take window).sum

def windowNum (window : Nat) (h : List Int) : Nat := min h.length window

structure Represents (window : Nat) (r : Ring w cap) (h : List Int) : Prop where
  index : r.index < window
  num : r.num = windowNum window h
  total : r.total = BitVec.ofInt w (windowSum window h)
  elements : ∀ k < windowNum window h,
    r.elements[(r.index + window - 1 - k) % window]? = h[k]?

theorem windowNum_pos {window : Nat} (hpos : 0 < window) (v : Int) (h : List Int) :
    0 < windowNum window (v :: h) := by
  unfold windowNum
  rw [List.length_cons]
  omega

/-- The sum of the window without its newest sample and with the one that leaves it. -/
theorem windowSum_cons (window : Nat) (v : Int) (h : List Int) :
    windowSum (window + 1) (v :: h) + (h[window]?.getD 0) = windowSum (window + 1) h + v := by
  unfold windowSum
  rw [List.take_succ_cons, List.sum_cons, List.take_add_one, List.sum_append]
  cases h[window]? with
  | none =>
    simp only [Option.toList_none, List.sum_nil, Option.getD_none]
    omega
  | some x =>
    simp only [Option.toList_some, List.sum_cons, List.sum_nil, Option.getD_some]
    omega

theorem represents_empty {window : Nat} (hpos : 0 < window) (elements : Vector Int cap) :
    Represents window (⟨elements, 0, 0, 0⟩ : Ring w cap) [] where
  index := hpos
  num := (Nat.zero_min window).symm
  total := by simp [windowSum]
  elements := fun k hk => absurd hk (by simp [windowNum])

theorem previous_index {window index k : Nat} (hindex : index < window) (hk : k + 1 < window) :
    ((if index + 1 ≥ window then 0 else index + 1) + window - 1 - (k + 1)) % window =
      (index + window - 1 - k) % window := by
  split_ifs with hwrap
  · rw [show index + window - 1 - k = 0 + window - 1 - (k + 1) + window by omega,
      Nat.add_mod_right]
  · rw [show index + 1 + window - 1 - (k + 1) = index + window - 1 - k by omega]

theorem newest_index {window index : Nat} (hindex : index < window) :
    ((if index + 1 ≥ window then 0 else index + 1) + window - 1 - 0) % window = index := by
  split_ifs with hwrap
  · rw [Nat.mod_eq_of_lt (by omega)]
    omega
  · rw [show index + 1 + window - 1 - 0 = index + window by omega, Nat.add_mod_right,
      Nat.mod_eq_of_lt hindex]

theorem index_ne {window index k : Nat} (hindex : index < window) (hk : k + 1 < window) :
    index ≠ (index + window - 1 - k) % window := by
  rcases Nat.lt_or_ge k index with hlt | hge
  · rw [show index + window - 1 - k = index - 1 - k + window by omega, Nat.add_mod_right,
      Nat.mod_eq_of_lt (by omega)]
    omega
  · rw [Nat.mod_eq_of_lt (by omega)]
    omega

theorem push_represents {window : Nat} (hcap : window ≤ cap) {r : Ring w cap} {h : List Int}
    (hr : Represents window r h) (v : Int) :
    ∃ r', r.push window v = some r' ∧ Represents window r' (v :: h) := by
  -- A push stays inside of the array, and adds its sample to the history.
  have hlt : r.index < cap := Nat.lt_of_lt_of_le hr.index hcap
  have hpos : 0 < window := Nat.lt_of_le_of_lt (Nat.zero_le _) hr.index
  obtain ⟨n, rfl⟩ := Nat.exists_eq_succ_of_ne_zero hpos.ne'
  unfold Ring.push
  rw [dif_pos hlt]
  refine ⟨_, rfl, ?_, ?_, ?_, ?_⟩
  · simp only
    split_ifs with hwrap
    · exact hpos
    · omega
  · simp only [hr.num, windowNum, List.length_cons, ge_iff_le]
    split_ifs <;> omega
  · have hcons := windowSum_cons n v h
    simp only
    split_ifs with hfull
    · -- The window is full: its oldest sample is the one at the index.
      rw [hr.num] at hfull
      unfold windowNum at hfull
      have hold : h[n]? = some r.elements[r.index] := by
        have helem := hr.elements n (by unfold windowNum; omega)
        rw [← helem, show r.index + n.succ - 1 - n = r.index by omega, Nat.mod_eq_of_lt hr.index]
        exact Vector.getElem?_eq_getElem hlt
      rw [hold, Option.getD_some] at hcons
      rw [hr.total, BitVec.sub_eq_add_neg, ← BitVec.ofInt_neg, ← BitVec.ofInt_add,
        ← BitVec.ofInt_add]
      congr 1
      change windowSum (n + 1) h + - _ + v = windowSum (n + 1) (v :: h)
      omega
    · have hshort : h[n]? = none := by
        rw [hr.num] at hfull
        unfold windowNum at hfull
        exact List.getElem?_eq_none (by omega)
      rw [hshort, Option.getD_none] at hcons
      rw [hr.total, ← BitVec.ofInt_add]
      congr 1
      change windowSum (n + 1) h + v = windowSum (n + 1) (v :: h)
      omega
  · intro k hk
    simp only
    cases k with
    | zero =>
      rw [newest_index hr.index, List.getElem?_cons_zero, Vector.getElem?_set_self hlt]
    | succ k =>
      unfold windowNum at hk
      rw [List.length_cons] at hk
      rw [previous_index hr.index (by omega), List.getElem?_cons_succ,
        Vector.getElem?_set_ne hlt (index_ne hr.index (by omega)),
        hr.elements k (by unfold windowNum; omega)]

end Rtl8190.SlidingWindow
