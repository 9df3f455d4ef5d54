import Mathlib.Algebra.BigOperators.Group.List.Basic
import Mathlib.Algebra.GroupWithZero.Nat

/-!
# Text appended to an array

`p += snprintf(p, n - (p - array), ..)` moves `p` by the length of the whole text, also where only a
part of it was written.
-/

namespace Rtl8190.Snprintf

/-- The part of an array that was written, from its start on, and the position in it. -/
structure Text (α : Type) where
  written : List α
  pos : Nat

namespace Text

variable {α : Type} {n : Nat} {nul : α} {t : Text α} {s : List α}

/-- The text `s` at the position, in an array of `n` units. A size below zero is refused, and with a
size of zero nothing is written. -/
def append (n : Nat) (nul : α) (t : Text α) (s : List α) : Text α :=
  if n < t.pos then t
  else if t.pos = n then { t with pos := t.pos + s.length }
  else
    let cut := s.take (n - t.pos - 1) ++ [nul]
    { written := t.written.take t.pos ++ cut ++ t.written.drop (t.pos + cut.length)
      pos := t.pos + s.length }

def appendAll (n : Nat) (nul : α) (t : Text α) (ss : List (List α)) : Text α :=
  ss.foldl (append n nul) t

/-- The position goes back to the start. -/
def restart (t : Text α) : Text α := { t with pos := 0 }

/-- The position is not past the end of the array, and all before it was written. -/
structure Fits (n : Nat) (t : Text α) : Prop where
  pos_le : t.pos ≤ n
  pos_le_written : t.pos ≤ t.written.length

theorem fits_restart : t.restart.Fits n := ⟨Nat.zero_le _, Nat.zero_le _⟩

theorem append_pos (h : t.pos ≤ n) : (t.append n nul s).pos = t.pos + s.length := by
  have hn : ¬ n < t.pos := by omega
  simp only [append, hn, if_false]
  split <;> rfl

theorem append_written (h : t.pos < n) :
    (t.append n nul s).written = t.written.take t.pos ++ (s.take (n - t.pos - 1) ++ [nul]) ++
      t.written.drop (t.pos + (s.take (n - t.pos - 1) ++ [nul]).length) := by
  have hn : ¬ n < t.pos := by omega
  have hne : t.pos ≠ n := by omega
  simp only [append, hn, hne, if_false]

/-- A text that ends inside the array is written, up to its last unit at least. -/
theorem Fits.append (h : t.Fits n) (hs : t.pos + s.length ≤ n) : (t.append n nul s).Fits n := by
  have hpos : (t.append n nul s).pos = t.pos + s.length := append_pos h.pos_le
  have hw := h.pos_le_written
  refine ⟨by omega, ?_⟩
  rw [hpos]
  by_cases hlt : t.pos < n
  · rw [append_written hlt]
    simp
    omega
  · have hs' : s.length = 0 := by omega
    have hne : t.pos = n := by omega
    simp [Text.append, hne, hs']
    omega

theorem append_take (h : t.Fits n) (hs : t.pos + s.length < n) :
    (t.append n nul s).written.take (t.pos + s.length) = t.written.take t.pos ++ s := by
  have hw := h.pos_le_written
  rw [append_written (by omega), List.take_of_length_le (l := s) (by omega), List.append_assoc,
    List.append_assoc, List.take_append, List.take_append]
  simp [hw]

/-- The position stays inside the array through a list of texts exactly if there is room for all of
them. -/
theorem appendAll_fits (h : t.Fits n) (ss : List (List α))
    (hss : t.pos + (ss.map List.length).sum ≤ n) : (t.appendAll n nul ss).Fits n := by
  induction ss generalizing t with
  | nil => exact h
  | cons s ss ih =>
    simp only [List.map_cons, List.sum_cons] at hss
    apply ih (h.append (by omega))
    rw [append_pos h.pos_le]
    omega

end Text

end Rtl8190.Snprintf
