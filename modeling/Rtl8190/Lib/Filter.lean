import Mathlib.Logic.Function.Iterate
import Mathlib.Order.MinMax

/-!
# Filters

A filter has one value, which every sample moves: `f p v` is what the sample `v` makes of the value
`p`. Its history is a list of samples, newest first.
-/

namespace Rtl8190.Filter

section

variable {α β : Type*} {f : α → β → α}

/-- The value of a filter after a history. -/
def filtered (f : α → β → α) (initial : α) (h : List β) : α := h.foldr (fun v p => f p v) initial

@[simp] theorem filtered_cons (f : α → β → α) (initial : α) (v : β) (h : List β) :
    filtered f initial (v :: h) = f (filtered f initial h) v := rfl

theorem filtered_replicate_append (f : α → β → α) (initial : α) (n : ℕ) (c : β) (h : List β) :
    filtered f initial (List.replicate n c ++ h) = (f · c)^[n] (filtered f initial h) := by
  induction n with
  | zero => rfl
  | succ n ih =>
    rw [List.replicate_succ, List.cons_append, filtered_cons, ih, Function.iterate_succ_apply']

theorem filtered_inv {I : α → Prop} {V : β → Prop} (hf : ∀ p v, I p → V v → I (f p v))
    {initial : α} (hinit : I initial) {h : List β} (hV : ∀ v ∈ h, V v) :
    I (filtered f initial h) := by
  induction h with
  | nil => exact hinit
  | cons v h ih =>
    obtain ⟨hv, hrest⟩ := List.forall_mem_cons.mp hV
    exact hf _ v (ih hrest) hv

end

/-! ## Iteration -/

section

variable {α : Type*} {g : α → α} {I : α → Prop}

theorem iterate_inv (hI : ∀ x, I x → I (g x)) {x : α} (hx : I x) (n : ℕ) : I (g^[n] x) := by
  induction n with
  | zero => exact hx
  | succ n ih =>
    rw [Function.iterate_succ_apply']
    exact hI _ ih

/-- A distance that shrinks while it is over a bound gets to that bound, and stays there. -/
theorem iterate_near {d : α → ℕ} {b : ℕ} (hI : ∀ x, I x → I (g x))
    (hstay : ∀ x, I x → d x ≤ b → d (g x) ≤ b) (hcloser : ∀ x, I x → b < d x → d (g x) < d x)
    {x : α} (hx : I x) {n : ℕ} (hn : d x ≤ b + n) : d (g^[n] x) ≤ b := by
  induction n generalizing x with
  | zero => exact hn
  | succ n ih =>
    rw [Function.iterate_succ_apply]
    apply ih (hI x hx)
    rcases Nat.lt_or_ge b (d x) with hfar | hnear
    · have := hcloser x hx hfar
      omega
    · have := hstay x hx hnear
      omega

end

/-! ## Bounds -/

section

variable {α : Type*} [LinearOrder α]

/-- Between the smallest and the largest of the initial value and the samples -/
def Within (initial : α) (h : List α) (p : α) : Prop :=
  (∃ v ∈ initial :: h, v ≤ p) ∧ ∃ v ∈ initial :: h, p ≤ v

theorem within_nil (initial : α) : Within initial [] initial :=
  ⟨⟨initial, by simp, le_rfl⟩, ⟨initial, by simp, le_rfl⟩⟩

theorem Within.step {initial : α} {h : List α} {p v q : α} (hp : Within initial h p)
    (hlow : min p v ≤ q) (hhigh : q ≤ max p v) : Within initial (v :: h) q := by
  -- A step to between the value and the sample.
  obtain ⟨⟨a, ha, hap⟩, ⟨b, hb, hpb⟩⟩ := hp
  have hsub : ∀ w ∈ initial :: h, w ∈ initial :: v :: h := by
    intro w hw
    rcases List.mem_cons.mp hw with rfl | hw
    · exact List.mem_cons_self
    · exact List.mem_cons_of_mem _ (List.mem_cons_of_mem _ hw)
  have hv : v ∈ initial :: v :: h := List.mem_cons_of_mem _ List.mem_cons_self
  constructor
  · rcases min_le_iff.mp hlow with hq | hq
    · exact ⟨a, hsub a ha, hap.trans hq⟩
    · exact ⟨v, hv, hq⟩
  · rcases le_max_iff.mp hhigh with hq | hq
    · exact ⟨b, hsub b hb, hq.trans hpb⟩
    · exact ⟨v, hv, hq⟩

end

end Rtl8190.Filter
