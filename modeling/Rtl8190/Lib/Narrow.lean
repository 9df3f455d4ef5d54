import Mathlib.Order.Basic

/-!
# Narrow integers

A computation on integers that converts some of its values to eight bits, together with whether
all of these conversions have kept their values.
-/

namespace Rtl8190.Narrow

/-- A value, and whether nothing was cut off on the way to it. -/
structure Narrowed (α : Type) where
  val : α
  exact : Bool

instance : Monad Narrowed where
  pure a := ⟨a, true⟩
  bind x f := ⟨(f x.val).val, x.exact && (f x.val).exact⟩

section

variable {α β : Type}

@[simp] theorem pure_val (a : α) : (pure a : Narrowed α).val = a := rfl

@[simp] theorem pure_exact (a : α) : (pure a : Narrowed α).exact = true := rfl

@[simp] theorem bind_val (x : Narrowed α) (f : α → Narrowed β) : (x >>= f).val = (f x.val).val := rfl

@[simp] theorem bind_exact (x : Narrowed α) (f : α → Narrowed β) :
    (x >>= f).exact = (x.exact && (f x.val).exact) := rfl

@[simp] theorem ite_val (c : Prop) [Decidable c] (x y : Narrowed α) :
    (if c then x else y).val = if c then x.val else y.val := apply_ite _ _ _ _

@[simp] theorem pure_bind (a : α) (f : α → Narrowed β) : (pure a >>= f) = f a := by
  change Narrowed.mk (f a).val (true && (f a).exact) = f a
  rw [Bool.true_and]

theorem eq_pure_of_exact {x : Narrowed α} (h : x.exact = true) : x = pure x.val := by
  cases x
  obtain rfl := h
  rfl

/-- The rule for a loop: each round keeps an invariant, and is exact where it holds. -/
theorem foldlM_inv {I : β → Prop} {f : β → α → Narrowed β}
    (hf : ∀ s a, I s → (f s a).exact = true ∧ I (f s a).val) (l : List α) {s : β} (h : I s) :
    (l.foldlM f s).exact = true ∧ I (l.foldlM f s).val := by
  induction l generalizing s with
  | nil => exact ⟨rfl, h⟩
  | cons a l ih =>
    obtain ⟨hexact, hinv⟩ := hf s a h
    have hrest := ih hinv
    rw [List.foldlM_cons, bind_exact, bind_val, hexact, Bool.true_and]
    exact hrest

end

def u8 (v : Int) : Narrowed Int := ⟨v % 256, decide (0 ≤ v ∧ v < 256)⟩

/-- A conversion to `s8`, or to a signed `char` -/
def s8 (v : Int) : Narrowed Int := ⟨v.bmod 256, decide (-128 ≤ v ∧ v < 128)⟩

section

variable {v : Int}

theorem u8_eq_pure (h : 0 ≤ v) (h' : v < 256) : u8 v = pure v := by
  have hval : v % 256 = v := Int.emod_eq_of_lt h h'
  unfold u8
  rw [hval, decide_eq_true ⟨h, h'⟩]
  rfl

theorem s8_eq_pure (h : -128 ≤ v) (h' : v < 128) : s8 v = pure v := by
  have hval : v.bmod 256 = v := Int.bmod_eq_of_le h h'
  unfold s8
  rw [hval, decide_eq_true ⟨h, h'⟩]
  rfl

end

end Rtl8190.Narrow
