import Mathlib.Data.List.Induction
import Mathlib.Data.List.Pairwise
import Mathlib.Logic.Function.Basic

/-!
# Device registers

Registers are bytes at addresses. A value of `n` bytes is stored with its low byte first.
-/

namespace Rtl8190.Registers

abbrev Regs := Nat → BitVec 8

def store (n : Nat) (r : Regs) (a : Nat) (v : BitVec (8 * n)) : Regs :=
  fun x => if a ≤ x ∧ x < a + n then v.extractLsb' (8 * (x - a)) 8 else r x

def load16 (r : Regs) (a : Nat) : BitVec 16 := r (a + 1) ++ r a

def load32 (r : Regs) (a : Nat) : BitVec 32 := load16 r (a + 2) ++ load16 r a

section

variable {n : Nat} {r : Regs} {a x : Nat} {v : BitVec (8 * n)}

theorem store_of_mem (h : a ≤ x) (h' : x < a + n) :
    store n r a v x = v.extractLsb' (8 * (x - a)) 8 := if_pos ⟨h, h'⟩

theorem store_of_not_mem (h : x < a ∨ a + n ≤ x) : store n r a v x = r x := by
  unfold store
  rw [if_neg]
  rintro ⟨hle, hlt⟩
  omega

theorem load32_store_of_disjoint (h : x + 4 ≤ a ∨ a + n ≤ x) :
    load32 (store n r a v) x = load32 r x := by
  unfold load32 load16
  rw [store_of_not_mem, store_of_not_mem, store_of_not_mem, store_of_not_mem]
  all_goals omega

end

theorem store_byte (r : Regs) (a : Nat) (v : BitVec 8) : store 1 r a v a = v := by
  rw [store_of_mem (Nat.le_refl a) (Nat.lt_succ_self a), Nat.sub_self]
  exact BitVec.extractLsb'_eq_self

theorem load32_store (r : Regs) (a : Nat) (v : BitVec 32) : load32 (store 4 r a v) a = v := by
  unfold load32 load16
  rw [store_of_mem (by omega) (by omega), store_of_mem (by omega) (by omega),
    store_of_mem (by omega) (by omega), store_of_mem (by omega) (by omega)]
  apply BitVec.eq_of_getLsbD_eq
  intro i hi
  simp only [BitVec.getLsbD_append, BitVec.getLsbD_extractLsb', Nat.sub_self,
    show a + 2 + 1 - a = 3 by omega, show a + 2 - a = 2 by omega, show a + 1 - a = 1 by omega]
  have h1 : i < 16 → 8 ≤ i → 8 * 1 + (i - 8) = i := by omega
  have h2 : 16 ≤ i → i < 24 → 8 * 2 + (i - 16) = i := by omega
  have h3 : 24 ≤ i → 8 * 3 + (i - 16 - 8) = i := by omega
  grind

theorem getLsbD_load16 (r : Regs) (a i : Nat) :
    (load16 r a).getLsbD i = if i < 8 then (r a).getLsbD i else (r (a + 1)).getLsbD (i - 8) :=
  BitVec.getLsbD_append

theorem getLsbD_load32 (r : Regs) (a i : Nat) :
    (load32 r a).getLsbD i =
      if i < 16 then (load16 r a).getLsbD i else (load16 r (a + 2)).getLsbD (i - 16) :=
  BitVec.getLsbD_append

theorem extract_load16 (r : Regs) (a : Nat) {i : Nat} (h : i < 2) :
    (load16 r a).extractLsb' (8 * i) 8 = r (a + i) := by
  apply BitVec.eq_of_getLsbD_eq
  intro k hk
  have hcases : i = 0 ∨ i = 1 := by omega
  rw [BitVec.getLsbD_extractLsb', getLsbD_load16]
  rcases hcases with rfl | rfl
  · simp [hk]
  · simp [hk, show ¬ 8 + k < 8 by omega]

theorem extract_load32 (r : Regs) (a : Nat) {i : Nat} (h : i < 4) :
    (load32 r a).extractLsb' (8 * i) 8 = r (a + i) := by
  by_cases hi : i < 2
  · rw [← extract_load16 r a hi]
    apply BitVec.eq_of_getLsbD_eq
    intro k hk
    rw [BitVec.getLsbD_extractLsb', BitVec.getLsbD_extractLsb', getLsbD_load32,
      if_pos (show 8 * i + k < 16 by omega)]
  · rw [show a + i = a + 2 + (i - 2) by omega,
      ← extract_load16 r (a + 2) (show i - 2 < 2 by omega)]
    apply BitVec.eq_of_getLsbD_eq
    intro k hk
    rw [BitVec.getLsbD_extractLsb', BitVec.getLsbD_extractLsb', getLsbD_load32,
      if_neg (show ¬ 8 * i + k < 16 by omega),
      show 8 * i + k - 16 = 8 * (i - 2) + k by omega]

theorem store_load16 {r m : Regs} {a x i : Nat} (h : i < 2) :
    store 2 r a (load16 m x) (a + i) = m (x + i) := by
  rw [store_of_mem (by omega) (by omega), Nat.add_sub_cancel_left]
  exact extract_load16 m x h

theorem store_load32 {r m : Regs} {a x i : Nat} (h : i < 4) :
    store 4 r a (load32 m x) (a + i) = m (x + i) := by
  rw [store_of_mem (by omega) (by omega), Nat.add_sub_cancel_left]
  exact extract_load32 m x h

/-! ## Fields -/

/-- Bits of a register of four bytes, and what they are to be. -/
structure Field where
  addr : Nat
  mask : BitVec 32
  value : BitVec 32
  deriving DecidableEq, Repr

namespace Field

/-- Reads the register, and writes it with the bits of the field changed. -/
def write (r : Regs) (f : Field) : Regs :=
  store 4 r f.addr (load32 r f.addr &&& ~~~f.mask ||| f.value)

theorem write_of_not_mem {r : Regs} {f : Field} {x : Nat} (h : x < f.addr ∨ f.addr + 4 ≤ x) :
    write r f x = r x := store_of_not_mem h

theorem foldl_write_of_not_mem {fs : List Field} {x : Nat} (h : ∀ f ∈ fs, x < f.addr ∨ f.addr + 4 ≤ x)
    (r : Regs) : fs.foldl write r x = r x := by
  induction fs generalizing r with
  | nil => rfl
  | cons f fs ih =>
    rw [List.foldl_cons, ih (fun g hg => h g (List.mem_cons_of_mem f hg))]
    exact write_of_not_mem (h f List.mem_cons_self)

theorem write_byte (r : Regs) (f : Field) {i : Nat} (h : i < 4) :
    write r f (f.addr + i) =
      r (f.addr + i) &&& ~~~(f.mask.extractLsb' (8 * i) 8) ||| f.value.extractLsb' (8 * i) 8 := by
  unfold write
  rw [store_of_mem (by omega) (by omega), Nat.add_sub_cancel_left, ← extract_load32 r f.addr h]
  apply BitVec.eq_of_getLsbD_eq
  intro k hk
  have hlt : 8 * i + k < 32 := by omega
  simp [hk, hlt]

theorem write_bit (r : Regs) (f : Field) {k : Nat} (h : k < 8) :
    (write r f f.addr).getLsbD k = ((r f.addr).getLsbD k && !f.mask.getLsbD k || f.value.getLsbD k) := by
  have hbyte := write_byte r f (show 0 < 4 by decide)
  rw [Nat.add_zero] at hbyte
  rw [hbyte]
  simp [h]

def Holds (f : Field) (r : Regs) : Prop := load32 r f.addr &&& f.mask = f.value

/-- The value lies within the mask. -/
def Fits (f : Field) : Prop := f.value &&& f.mask = f.value

/-- The fields have no bit of a register in common. -/
def Apart (f g : Field) : Prop :=
  f.addr + 4 ≤ g.addr ∨ g.addr + 4 ≤ f.addr ∨ (f.addr = g.addr ∧ f.mask &&& g.mask = 0)

instance (f : Field) (r : Regs) : Decidable (f.Holds r) :=
  inferInstanceAs (Decidable (load32 r f.addr &&& f.mask = f.value))

instance (f : Field) : Decidable f.Fits := inferInstanceAs (Decidable (f.value &&& f.mask = f.value))

instance (f g : Field) : Decidable (f.Apart g) :=
  inferInstanceAs (Decidable (f.addr + 4 ≤ g.addr ∨ g.addr + 4 ≤ f.addr ∨
    (f.addr = g.addr ∧ f.mask &&& g.mask = 0)))

theorem Apart.symm {f g : Field} (h : f.Apart g) : g.Apart f := by
  unfold Apart at *
  rcases h with h | h | ⟨haddr, hmask⟩
  · exact Or.inr (Or.inl h)
  · exact Or.inl h
  · exact Or.inr (Or.inr ⟨haddr.symm, by rw [BitVec.and_comm, hmask]⟩)

theorem holds_write {f : Field} (h : f.Fits) (r : Regs) : f.Holds (write r f) := by
  unfold Holds write
  unfold Fits at h
  rw [load32_store]
  rw [BitVec.and_or_distrib_right, h, BitVec.and_assoc, BitVec.and_comm (~~~f.mask)]
  simp

theorem holds_write_of_apart {f g : Field} (h : g.Apart f) (hg : g.Fits) {r : Regs}
    (hf : f.Holds r) : f.Holds (write r g) := by
  unfold Holds write at *
  rcases h with h | h | ⟨haddr, hmask⟩
  · rw [load32_store_of_disjoint (Or.inr h)]
    exact hf
  · rw [load32_store_of_disjoint (Or.inl h)]
    exact hf
  · unfold Fits at hg
    rw [haddr, load32_store, ← hf, ← hg]
    apply BitVec.eq_of_getLsbD_eq
    intro i hi
    have hbit := congrArg (BitVec.getLsbD · i) hmask
    simp only [BitVec.getLsbD_and] at hbit
    simp only [BitVec.getLsbD_and, BitVec.getLsbD_or, BitVec.getLsbD_not, hi, decide_true,
      Bool.true_and]
    revert hbit
    cases g.mask.getLsbD i <;> cases f.mask.getLsbD i <;> simp

theorem holds_writes {fs : List Field} (hfits : ∀ f ∈ fs, f.Fits) (hapart : fs.Pairwise Apart)
    (r : Regs) : ∀ f ∈ fs, f.Holds (fs.foldl write r) := by
  induction fs using List.reverseRecOn with
  | nil =>
    intro f hf
    cases hf
  | append_singleton fs g ih =>
    intro f hf
    rw [List.foldl_append]
    rw [List.pairwise_append] at hapart
    have hg : g.Fits := hfits g (by simp)
    rcases List.mem_append.mp hf with hf | hf
    · have hholds := ih (fun f hf => hfits f (List.mem_append_left _ hf)) hapart.1 f hf
      exact holds_write_of_apart (hapart.2.2 f hf g (by simp)).symm hg hholds
    · rw [List.mem_singleton.mp hf]
      exact holds_write hg _

end Field

end Rtl8190.Registers
