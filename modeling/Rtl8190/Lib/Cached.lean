import Mathlib.Logic.Basic

/-!
# Cached writes

A place is to hold the value of a key. The key of the last write is kept, and a write is skipped while
the key stays the same and nothing else calls for it.
-/

namespace Rtl8190.Cached

variable {κ α : Type*} [DecidableEq κ]

/-- What the place holds, and the key it was last written for -/
structure Copy (κ α : Type*) where
  held : α
  key : κ

def refresh (value : κ → α) (wanted : Prop) [Decidable wanted] (c : Copy κ α) (key : κ) : Copy κ α :=
  if c.key ≠ key ∨ wanted then ⟨value key, key⟩ else c

/-- The place holds the value of its key, or the next write is not skipped. -/
def Due (value : κ → α) (wanted : Prop) (c : Copy κ α) : Prop := wanted ∨ c.held = value c.key

variable {value : κ → α} {wanted : Prop} {c : Copy κ α} {key : κ}

omit [DecidableEq κ] in
theorem Due.mono {w : Prop} (h : Due value wanted c) (hw : wanted → w) : Due value w c :=
  h.imp_left hw

variable [Decidable wanted]

theorem refresh_of_write (h : c.key ≠ key ∨ wanted) :
    refresh value wanted c key = ⟨value key, key⟩ := if_pos h

theorem refresh_of_skip (h : ¬ (c.key ≠ key ∨ wanted)) : refresh value wanted c key = c := if_neg h

@[simp] theorem key_refresh : (refresh value wanted c key).key = key := by
  unfold refresh
  split
  · rfl
  · rename_i h
    exact not_not.mp (not_or.mp h).1

theorem held_refresh_iff :
    (refresh value wanted c key).held = value key ↔ c.key ≠ key ∨ Due value wanted c := by
  unfold refresh Due
  by_cases hkey : c.key = key
  · subst hkey
    by_cases hw : wanted
    · simp [hw]
    · simp [hw]
  · simp [hkey]

theorem held_refresh (h : Due value wanted c) : (refresh value wanted c key).held = value key :=
  held_refresh_iff.mpr (Or.inr h)

end Rtl8190.Cached
