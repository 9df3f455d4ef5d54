import Mathlib.Data.List.Basic
import Mathlib.Logic.Function.Basic
import Rtl8190.Lib.Indices

/-!
# Reads of memory

A decoder gets memory as a function from places to contents. Its result carries the places it read,
in order, so that a bound on them is a statement about the decoder.
-/

namespace Rtl8190.Memory

abbrev Byte := BitVec 8

instance : LawfulBEq Byte := inferInstance

structure Reads (π α : Type) where
  val : α
  places : List π

instance {π : Type} : Monad (Reads π) where
  pure a := ⟨a, []⟩
  bind m f := ⟨(f m.val).val, m.places ++ (f m.val).places⟩

def read {π β : Type} (mem : π → β) (p : π) : Reads π β := ⟨mem p, [p]⟩

/-- An access that yields no value. -/
def note {π : Type} (p : π) : Reads π Unit := ⟨(), [p]⟩

/-- The `n` accesses of a copy into the array `buf`, which it returns. -/
def copy {π β : Type} (src : Nat → Reads π β) (buf : Nat → β) : Nat → Reads π (Nat → β)
  | 0 => pure buf
  | n + 1 => do
    let buf' ← copy src buf n
    let b ← src n
    pure (Function.update buf' n b)

/-- The accesses to the first `n` units of an array. -/
def noteAll {π : Type} (p : Nat → π) : Nat → Reads π Unit
  | 0 => pure ()
  | n + 1 => do
    noteAll p n
    note (p n)

def Reads.Within {π α : Type} (P : π → Prop) (m : Reads π α) : Prop := ∀ p ∈ m.places, P p

instance {π α : Type} (P : π → Prop) [DecidablePred P] (m : Reads π α) : Decidable (m.Within P) :=
  inferInstanceAs (Decidable (∀ p ∈ m.places, P p))

section Rules

variable {π α β : Type} {P : π → Prop}

@[simp] theorem pure_val (a : α) : (pure a : Reads π α).val = a := rfl

@[simp] theorem bind_val (m : Reads π α) (f : α → Reads π β) : (m >>= f).val = (f m.val).val := rfl

@[simp] theorem read_val (mem : π → β) (p : π) : (read mem p).val = mem p := rfl

@[simp] theorem ite_val (c : Prop) [Decidable c] (m m' : Reads π α) :
    (if c then m else m').val = if c then m.val else m'.val := by
  split <;> rfl

@[simp] theorem within_pure (a : α) : (pure a : Reads π α).Within P := fun _ h => by cases h

@[simp] theorem within_bind (m : Reads π α) (f : α → Reads π β) :
    (m >>= f).Within P ↔ m.Within P ∧ (f m.val).Within P :=
  List.forall_mem_append

@[simp] theorem within_note (p : π) : (note p).Within P ↔ P p := List.forall_mem_singleton

theorem within_ite (c : Prop) [Decidable c] (m m' : Reads π α) :
    (if c then m else m').Within P ↔ (c → m.Within P) ∧ (¬ c → m'.Within P) := by
  split <;> simp [*]

@[simp] theorem within_noteAll (p : Nat → π) (n : Nat) :
    (noteAll p n).Within P ↔ ∀ i < n, P (p i) := by
  induction n with
  | zero => simp [noteAll]
  | succ n ih =>
    rw [Nat.forall_lt_succ_right, ← ih]
    simp [noteAll]

@[simp] theorem within_copy (src : Nat → Reads π β) (buf : Nat → β) (n : Nat) :
    (copy src buf n).Within P ↔ ∀ i < n, (src i).Within P := by
  induction n with
  | zero => simp [copy]
  | succ n ih =>
    rw [Nat.forall_lt_succ_right, ← ih]
    simp [copy]

theorem copy_val (src : Nat → Reads π β) (buf : Nat → β) (n : Nat) :
    (copy src buf n).val = fun i => if i < n then (src i).val else buf i := by
  induction n with
  | zero => simp [copy]
  | succ n ih =>
    funext i
    simp only [copy, bind_val, pure_val, ih, Function.update_apply]
    by_cases hi : i = n
    · simp [hi]
    · simp only [hi, if_false]
      congr 1
      simp only [eq_iff_iff]
      omega

@[simp] theorem within_read (mem : π → β) (p : π) : (read mem p).Within P ↔ P p :=
  List.forall_mem_singleton

theorem read_bind_val (mem : π → α) (p : π) (f : α → Reads π β) :
    (read mem p >>= f).val = (f (mem p)).val := rfl

theorem within_read_bind (mem : π → α) (p : π) (f : α → Reads π β) :
    (read mem p >>= f).Within P ↔ P p ∧ (f (mem p)).Within P := by
  rw [within_bind, within_read]
  rfl

end Rules

/-- The places have the property `P`, and the value has `Q`. -/
structure Reads.Ensures {π α : Type} (P : π → Prop) (Q : α → Prop) (m : Reads π α) : Prop where
  within : m.Within P
  result : Q m.val

namespace Reads.Ensures

variable {π α β : Type} {P : π → Prop} {Q : α → Prop} {R : β → Prop}

theorem pure {a : α} (h : Q a) : Reads.Ensures P Q (pure a) := ⟨within_pure a, h⟩

theorem bind {m : Reads π α} {f : α → Reads π β} (h : m.Ensures P Q)
    (hf : ∀ a, Q a → (f a).Ensures P R) : (m >>= f).Ensures P R :=
  ⟨(within_bind m f).mpr ⟨h.within, (hf _ h.result).within⟩, (hf _ h.result).result⟩

theorem after {m : Reads π α} {f : α → Reads π β} (h : m.Within P)
    (hf : ∀ a, (f a).Ensures P R) : (m >>= f).Ensures P R :=
  ⟨(within_bind m f).mpr ⟨h, (hf _).within⟩, (hf _).result⟩

end Reads.Ensures

/-! ## Little-endian words -/

/-- The two bytes of a `u16` on a little-endian host, which is also the order of a `__le16`. -/
def le16 (x : BitVec 16) : List Byte := [x.setWidth 8, (x >>> 8).setWidth 8]

def read16 (mem : Nat → Byte) (p : Nat) : Reads Nat (BitVec 16) := do
  let lo ← read mem p
  let hi ← read mem (p + 1)
  pure (hi ++ lo)

@[simp] theorem read16_val (mem : Nat → Byte) (p : Nat) :
    (read16 mem p).val = mem (p + 1) ++ mem p := rfl

@[simp] theorem within_read16 {P : Nat → Prop} (mem : Nat → Byte) (p : Nat) :
    (read16 mem p).Within P ↔ P p ∧ P (p + 1) := by
  simp [read16]

theorem hi_append_lo (x : BitVec 16) : (x >>> 8).setWidth 8 ++ x.setWidth 8 = x := by
  apply BitVec.eq_of_getLsbD_eq
  intro i hi
  rw [BitVec.getLsbD_append]
  split
  · simp [*]
  · simp only [BitVec.getLsbD_setWidth, BitVec.getLsbD_ushiftRight]
    have : i - 8 < 8 := by omega
    simp [this, show 8 + (i - 8) = i by omega]

theorem lo_append (hi lo : Byte) : (hi ++ lo).setWidth 8 = lo := by
  apply BitVec.eq_of_getLsbD_eq
  intro i h
  rw [BitVec.getLsbD_setWidth, BitVec.getLsbD_append]
  simp [h]

theorem hi_append (hi lo : Byte) : ((hi ++ lo) >>> 8).setWidth 8 = hi := by
  apply BitVec.eq_of_getLsbD_eq
  intro i h
  rw [BitVec.getLsbD_setWidth, BitVec.getLsbD_ushiftRight, BitVec.getLsbD_append]
  simp [h]

/-! ## A buffer at the start of memory -/

/-- The bytes of a buffer, and beyond its end whatever lies there. -/
def place (buf : List Byte) (beyond : Nat → Byte) : Nat → Byte :=
  fun i => if h : i < buf.length then buf.get ⟨i, h⟩ else beyond i

theorem place_of_lt {buf : List Byte} {beyond : Nat → Byte} {i : Nat} (h : i < buf.length) :
    place buf beyond i = buf.get ⟨i, h⟩ := dif_pos h

theorem place_append {hdr tag : List Byte} {n : Nat} (h : hdr.length = n) (beyond : Nat → Byte) (i : Nat) :
    place (hdr ++ tag) beyond (n + i) = place tag (fun j => beyond (n + j)) i := by
  subst h
  simp [place, List.getElem_append_right]

end Rtl8190.Memory
