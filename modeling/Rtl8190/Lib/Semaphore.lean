import Mathlib.Data.List.Count
import Rtl8190.Lib.Memory

/-!
# Semaphores that code takes and gives back

Code notes every semaphore that it takes and releases. `Holds` says which ones it holds afterwards,
provided that it never takes one that it holds, which would wait for ever, and never releases one
that it does not hold.
-/

open Function Rtl8190.Memory

namespace Rtl8190.Semaphore

variable {ι α β : Type} [DecidableEq ι]

inductive Op (ι : Type) where
  | down (i : ι)
  | up (i : ι)
  deriving DecidableEq

abbrev Code (ι α : Type) := Reads (Op ι) α

def down (i : ι) : Code ι Unit := note (.down i)

def up (i : ι) : Code ι Unit := note (.up i)

def hold (held : ι → Bool) : Op ι → Option (ι → Bool)
  | .down i => if held i then none else some (update held i true)
  | .up i => if held i then some (update held i false) else none

def holdAll (held : ι → Bool) : List (Op ι) → Option (ι → Bool)
  | [] => some held
  | o :: os => (hold held o).bind fun held => holdAll held os

theorem holdAll_append (held : ι → Bool) (os ps : List (Op ι)) :
    holdAll held (os ++ ps) = (holdAll held os).bind fun held => holdAll held ps := by
  induction os generalizing held with
  | nil => rfl
  | cons o os ih =>
    rw [List.cons_append, holdAll, holdAll]
    cases hold held o with
    | none => rfl
    | some held' => exact ih held'

/-- The code begins with the semaphores `held` and ends with `held'`. -/
def Holds (held : ι → Bool) (m : Code ι α) (held' : ι → Bool) : Prop :=
  holdAll held m.places = some held'

theorem count_of_holdAll {held held' : ι → Bool} {os : List (Op ι)} (h : holdAll held os = some held')
    (i : ι) :
    os.count (.down i) + (held i).toNat = os.count (.up i) + (held' i).toNat := by
  -- How often each is taken and released is what the two sets say.
  induction os generalizing held with
  | nil =>
    obtain rfl := Option.some.inj h
    rfl
  | cons o os ih =>
    unfold holdAll at h
    obtain ⟨next, hnext, hrest⟩ := Option.bind_eq_some_iff.mp h
    have ih := ih hrest
    cases o with
    | down j =>
      rw [hold] at hnext
      split at hnext
      · cases hnext
      · next hfree =>
        obtain rfl := Option.some.inj hnext
        rcases eq_or_ne j i with rfl | hj
        · rw [update_self, Bool.toNat_true] at ih
          rw [List.count_cons_self, List.count_cons_of_ne (by simp), Bool.eq_false_iff.mpr hfree,
            Bool.toNat_false]
          omega
        · rw [update_of_ne hj.symm] at ih
          rw [List.count_cons_of_ne (by simpa using hj), List.count_cons_of_ne (by simp)]
          exact ih
    | up j =>
      rw [hold] at hnext
      split at hnext
      · next hheld =>
        obtain rfl := Option.some.inj hnext
        rcases eq_or_ne j i with rfl | hj
        · rw [update_self, Bool.toNat_false] at ih
          rw [List.count_cons_self, List.count_cons_of_ne (by simp), hheld, Bool.toNat_true]
          omega
        · rw [update_of_ne hj.symm] at ih
          rw [List.count_cons_of_ne (by simp), List.count_cons_of_ne (by simpa using hj)]
          exact ih
      · cases hnext

namespace Holds

variable {held held' held'' : ι → Bool}

theorem pure (a : α) : Holds held (pure a : Code ι α) held := rfl

theorem bind {m : Code ι α} {f : α → Code ι β} (h : Holds held m held')
    (hf : Holds held' (f m.val) held'') : Holds held (m >>= f) held'' := by
  unfold Holds at h hf ⊢
  show holdAll held (m.places ++ (f m.val).places) = some held''
  rw [holdAll_append, h]
  exact hf

theorem ite {c : Prop} [Decidable c] {m m' : Code ι α} (h : c → Holds held m held')
    (h' : ¬ c → Holds held m' held') : Holds held (if c then m else m') held' := by
  split
  · exact h ‹_›
  · exact h' ‹_›

theorem down {i : ι} (hi : held i = false) : Holds held (down i) (update held i true) := by
  show (if held i then none else some (update held i true)).bind (fun held => some held) = _
  rw [hi]
  rfl

theorem up {i : ι} (hi : held i = true) : Holds held (up i) (update held i false) := by
  show (if held i then some (update held i false) else none).bind (fun held => some held) = _
  rw [hi]
  rfl

theorem release {i : ι} (a : α) (hi : held i = false) :
    Holds (update held i true) (do Semaphore.up i; Pure.pure a) held := by
  refine (up (update_self i true held)).bind ?_
  rw [update_idem, ← hi, update_eq_self]
  exact pure a

theorem bracket {i : ι} {m : Code ι α} {f : α → β} (hi : held i = false)
    (hm : Holds (update held i true) m (update held i true)) :
    Holds held (do Semaphore.down i; let a ← m; Semaphore.up i; Pure.pure (f a)) held :=
  (down hi).bind (hm.bind (release _ hi))

end Holds

/-- Code that others hold semaphores around either waits, or holds the same ones as it does alone. -/
theorem holdAll_mono {held held' big : ι → Bool} {os : List (Op ι)} (h : holdAll held os = some held')
    (hle : ∀ i, held i = true → big i = true) :
    holdAll big os = none ∨ holdAll big os = some fun i => held' i || (big i && !held i) := by
  induction os generalizing held big with
  | nil =>
    obtain rfl := Option.some.inj h
    right
    rw [holdAll]
    congr 1
    funext i
    have := hle i
    cases hi : held i <;> cases hb : big i <;> simp_all
  | cons o os ih =>
    rw [holdAll] at h ⊢
    obtain ⟨next, hnext, hrest⟩ := Option.bind_eq_some_iff.mp h
    cases o with
    | down j =>
      rw [hold] at hnext ⊢
      split at hnext
      · cases hnext
      · next hfree =>
        obtain rfl := Option.some.inj hnext
        split
        · exact .inl rfl
        · next hbig =>
          have hle' : ∀ i, update held j true i = true → update big j true i = true := by
            intro i
            rcases eq_or_ne i j with rfl | hij
            · simp
            · rw [update_of_ne hij, update_of_ne hij]
              exact hle i
          rcases ih hrest hle' with hnone | hsome
          · exact .inl hnone
          · right
            show holdAll (update big j true) os = _
            rw [hsome]
            congr 1
            funext i
            rcases eq_or_ne i j with rfl | hij
            · simp [Bool.eq_false_iff.mpr hfree, Bool.eq_false_iff.mpr hbig]
            · simp [update_of_ne hij]
    | up j =>
      rw [hold] at hnext ⊢
      split at hnext
      · next hheld =>
        obtain rfl := Option.some.inj hnext
        rw [if_pos (hle j hheld)]
        have hle' : ∀ i, update held j false i = true → update big j false i = true := by
          intro i
          rcases eq_or_ne i j with rfl | hij
          · simp
          · rw [update_of_ne hij, update_of_ne hij]
            exact hle i
        rcases ih hrest hle' with hnone | hsome
        · exact .inl hnone
        · right
          show holdAll (update big j false) os = _
          rw [hsome]
          congr 1
          funext i
          rcases eq_or_ne i j with rfl | hij
          · simp [hheld]
          · simp [update_of_ne hij]
      · cases hnext

end Rtl8190.Semaphore
