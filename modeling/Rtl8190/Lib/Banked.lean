import Mathlib.Logic.Function.Basic

/-!
# Banked stores

A store whose cells lie in banks. The cell at the address `home`, the same one in every bank, chooses
the bank for the others. Who knows its content can use the store as one flat map.
-/

open Function

namespace Rtl8190.Banked

variable {V B A O : Type*}

structure Chip (V B A : Type*) where
  selector : V
  cells : B × A → V

section Operations

variable [DecidableEq A] [DecidableEq B] (bank : V → B) (home : A)

def Chip.read (c : Chip V B A) (a : A) : V :=
  if a = home then c.selector else c.cells (bank c.selector, a)

def Chip.write (c : Chip V B A) (a : A) (v : V) : Chip V B A :=
  if a = home then { c with selector := v }
  else { c with cells := update c.cells (bank c.selector, a) v }

/-- The content of an address in a bank, and its change -/
def Chip.get (c : Chip V B A) (p : B × A) : V := if p.2 = home then c.selector else c.cells p

def Chip.put (c : Chip V B A) (p : B × A) (v : V) : Chip V B A :=
  if p.2 = home then { c with selector := v }
  else { c with cells := update c.cells p v }

end Operations

/-- The store with another selector, and so with another bank chosen -/
def Chip.select (c : Chip V B A) (v : V) : Chip V B A := { c with selector := v }

section Rules

variable [DecidableEq A] {bank : V → B} {home : A} {c : Chip V B A} {p : B × A} {v w : V}

theorem read_eq_get (home : A) (h : bank c.selector = p.1) : c.read bank home p.2 = c.get home p := by
  unfold Chip.read Chip.get
  rw [h]

theorem get_select (h : p.2 = home → w = c.selector) : (c.select w).get home p = c.get home p := by
  unfold Chip.get
  split
  · rename_i hp
    exact h hp
  · rfl

variable [DecidableEq B]

@[simp] theorem write_home (bank : V → B) (home : A) (c : Chip V B A) (v : V) :
    c.write bank home home v = c.select v := if_pos rfl

theorem write_eq_put (home : A) (h : bank c.selector = p.1) : c.write bank home p.2 v = c.put home p v := by
  unfold Chip.write Chip.put
  rw [h]

theorem put_select (h : p.2 ≠ home) :
    ((c.select w).put home p v).select c.selector = c.put home p v := by
  unfold Chip.put
  rw [if_neg h, if_neg h]
  rfl

theorem put_select_home (h : p.2 = home) : (c.select w).put home p v = c.put home p v := by
  unfold Chip.put
  rw [if_pos h, if_pos h]
  rfl

theorem selector_put : (c.put home p v).selector = if p.2 = home then v else c.selector := by
  unfold Chip.put
  split <;> rfl

end Rules

/-! ## The flat map -/

section Flat

variable [DecidableEq A] [DecidableEq B] {home : A} {locate : O → B × A}

/-- The store as one map, where `locate` says in which cell the value of an index lies -/
def Chip.flat (home : A) (locate : O → B × A) (c : Chip V B A) (o : O) : V := c.get home (locate o)

/-- No two indices share a cell. -/
def Apart (home : A) (locate : O → B × A) : Prop :=
  ∀ o o', locate o = locate o' ∨ ((locate o).2 = home ∧ (locate o').2 = home) → o = o'

theorem flat_put [DecidableEq O] (h : Apart home locate) (c : Chip V B A) (o : O) (v : V) :
    (c.put home (locate o) v).flat home locate = update (c.flat home locate) o v := by
  funext o'
  by_cases heq : o' = o
  · subst heq
    rw [update_self]
    unfold Chip.flat Chip.get Chip.put
    split
    · rfl
    · exact update_self _ _ _
  · rw [update_of_ne heq]
    have hne : locate o' ≠ locate o := fun hl => heq (h o' o (Or.inl hl))
    have hhome : (locate o').2 = home → (locate o).2 ≠ home := fun h1 h2 =>
      heq (h o' o (Or.inr ⟨h1, h2⟩))
    unfold Chip.flat Chip.get Chip.put
    by_cases hc : (locate o).2 = home
    · rw [if_pos hc, if_neg fun h1 => hhome h1 hc, if_neg fun h1 => hhome h1 hc]
    · rw [if_neg hc]
      split
      · rfl
      · exact update_of_ne hne _ _

end Flat

end Rtl8190.Banked
