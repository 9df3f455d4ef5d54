import Mathlib.Data.List.Basic
import Rtl8190.Lib.Memory

/-!
# Information elements

An element is an identifier, a byte that counts the data, and the data. A reader that goes through
memory from one element to the next, over a list of elements, takes a turn for each of them.
-/

open Rtl8190.Memory

namespace Rtl8190.Elements

structure Element where
  id : Byte
  data : List Byte
  fits : data.length < 256

def Element.bytes (e : Element) : List Byte := e.id :: BitVec.ofNat 8 e.data.length :: e.data

def encode (es : List Element) : List Byte := es.flatMap Element.bytes

/-- The bytes are elements, one after the other, to the end. -/
def WellFormed (bs : List Byte) : Prop := ∃ es, encode es = bs

@[simp] theorem Element.length_bytes (e : Element) : e.bytes.length = 2 + e.data.length := by
  unfold Element.bytes
  simp only [List.length_cons]
  omega

@[simp] theorem encode_nil : encode [] = [] := rfl

@[simp] theorem encode_cons (e : Element) (es : List Element) :
    encode (e :: es) = e.bytes ++ encode es := rfl

@[simp] theorem encode_append (es es' : List Element) :
    encode (es ++ es') = encode es ++ encode es' := by
  unfold encode
  exact List.flatMap_append

theorem wellFormed_nil : WellFormed [] := ⟨[], rfl⟩

theorem wellFormed_cons_iff (id len : Byte) (bs : List Byte) :
    WellFormed (id :: len :: bs) ↔ len.toNat ≤ bs.length ∧ WellFormed (bs.drop len.toNat) := by
  -- An element and what comes after it.
  constructor
  · rintro ⟨_ | ⟨e, es⟩, hes⟩
    · cases hes
    · simp only [encode_cons, Element.bytes, List.cons_append, List.cons.injEq] at hes
      obtain ⟨-, hlen, rfl⟩ := hes
      have hfits : len.toNat = e.data.length := by
        rw [← hlen, BitVec.toNat_ofNat]
        exact Nat.mod_eq_of_lt e.fits
      rw [hfits, List.drop_left, List.length_append]
      exact ⟨Nat.le_add_right _ _, es, rfl⟩
  · rintro ⟨hle, es, hes⟩
    have hdata : (bs.take len.toNat).length = len.toNat := List.length_take_of_le hle
    refine ⟨⟨id, bs.take len.toNat, by rw [hdata]; exact len.isLt⟩ :: es, ?_⟩
    rw [encode_cons, hes]
    simp only [Element.bytes, hdata, BitVec.ofNat_toNat, BitVec.setWidth_eq, List.cons_append,
      List.take_append_drop]

theorem wellFormed_encode_append (es : List Element) (bs : List Byte) :
    WellFormed (encode es ++ bs) ↔ WellFormed bs := by
  induction es with
  | nil => rfl
  | cons e es ih =>
    have hfits : (BitVec.ofNat 8 e.data.length).toNat = e.data.length := by
      rw [BitVec.toNat_ofNat]
      exact Nat.mod_eq_of_lt e.fits
    rw [encode_cons, List.append_assoc]
    simp only [Element.bytes, List.cons_append]
    rw [wellFormed_cons_iff, hfits, List.drop_left, ih, List.length_append]
    exact and_iff_right (Nat.le_add_right _ _)

theorem WellFormed.append_iff {as : List Byte} (h : WellFormed as) (bs : List Byte) :
    WellFormed (as ++ bs) ↔ WellFormed bs := by
  obtain ⟨es, rfl⟩ := h
  exact wellFormed_encode_append es bs

theorem WellFormed.append {as bs : List Byte} (ha : WellFormed as) (hb : WellFormed bs) :
    WellFormed (as ++ bs) := (ha.append_iff bs).mpr hb

theorem wellFormed_element (id : Byte) (data : List Byte) (h : data.length < 256) :
    WellFormed (id :: BitVec.ofNat 8 data.length :: data) :=
  ⟨[⟨id, data, h⟩], by simp [Element.bytes]⟩

theorem wellFormed_if {c : Prop} [Decidable c] {bs : List Byte} (h : c → WellFormed bs) :
    WellFormed (if c then bs else []) := by
  split_ifs with hc
  · exact h hc
  · exact wellFormed_nil

/-! ## In memory -/

def Holds (mem : Nat → Byte) (pos : Nat) (bs : List Byte) : Prop :=
  ∀ i (h : i < bs.length), mem (pos + i) = bs[i]

section

variable {mem : Nat → Byte} {pos : Nat}

theorem Holds.head {b : Byte} {bs : List Byte} (h : Holds mem pos (b :: bs)) : mem pos = b :=
  h 0 (Nat.succ_pos _)

theorem Holds.tail {b : Byte} {bs : List Byte} (h : Holds mem pos (b :: bs)) :
    Holds mem (pos + 1) bs := by
  intro i hi
  rw [Nat.add_assoc, Nat.add_comm 1 i]
  exact h (i + 1) (Nat.succ_lt_succ hi)

theorem Holds.left {as bs : List Byte} (h : Holds mem pos (as ++ bs)) : Holds mem pos as := by
  intro i hi
  rw [h i (by rw [List.length_append]; omega), List.getElem_append_left hi]

theorem Holds.right {as bs : List Byte} (h : Holds mem pos (as ++ bs)) :
    Holds mem (pos + as.length) bs := by
  intro i hi
  rw [Nat.add_assoc, h (as.length + i) (by rw [List.length_append]; omega),
    List.getElem_append_right (Nat.le_add_right _ _)]
  simp only [Nat.add_sub_cancel_left]

theorem Holds.place_eq {bs : List Byte} (h : Holds mem pos bs) (buf : Nat → Byte) :
    (fun i => if i < bs.length then mem (pos + i) else buf i) = place bs buf := by
  funext i
  unfold place
  split
  · rename_i hi
    exact h i hi
  · rfl

end

/-! ## The reader -/

section

variable {σ : Type} (mem : Nat → Byte) (turn : Nat → Byte → Nat → σ → σ)

/-- Goes through `length` bytes from `pos` on. An element that does not fit ends it. -/
def scan : Nat → Nat → Nat → σ → σ
  | 0, _, _, s => s
  | fuel + 1, length, pos, s =>
    if 2 ≤ length then
      if 2 + (mem (pos + 1)).toNat > length then s
      else scan fuel (length - (2 + (mem (pos + 1)).toNat)) (pos + (2 + (mem (pos + 1)).toNat))
        (turn pos (mem pos) (mem (pos + 1)).toNat s)
    else s

variable {mem turn} {fuel pos : Nat} {s : σ}

theorem scan_cons (e : Element) (n : Nat) (h : Holds mem pos e.bytes) :
    scan mem turn (fuel + 1) (2 + e.data.length + n) pos s =
      scan mem turn fuel n (pos + (2 + e.data.length)) (turn pos e.id e.data.length s) := by
  have hlen : (mem (pos + 1)).toNat = e.data.length := by
    rw [h.tail.head, BitVec.toNat_ofNat]
    exact Nat.mod_eq_of_lt e.fits
  rw [scan, if_pos (by omega), hlen, if_neg (by omega), h.head, Nat.add_sub_cancel_left]

/-- If each turn does what `act` says, the scan of a list of elements is a fold over the list. -/
theorem scan_encode {ι : Type} {elem : ι → Element} {act : σ → ι → σ}
    (hact : ∀ x pos s, Holds mem pos (elem x).bytes →
      turn pos (elem x).id (elem x).data.length s = act s x)
    {xs : List ι} (h : Holds mem pos (encode (xs.map elem)))
    (hfuel : (encode (xs.map elem)).length ≤ fuel) :
    scan mem turn fuel (encode (xs.map elem)).length pos s = xs.foldl act s := by
  induction xs generalizing fuel pos s with
  | nil => cases fuel <;> rfl
  | cons x xs ih =>
    simp only [List.map_cons, encode_cons, List.length_append, Element.length_bytes] at h hfuel ⊢
    obtain ⟨fuel, rfl⟩ : ∃ n, fuel = n + 1 := ⟨fuel - 1, by omega⟩
    have hrest := h.right
    rw [Element.length_bytes] at hrest
    rw [scan_cons (elem x) _ h.left, hact x pos s h.left, ih hrest (by omega), List.foldl_cons]

end

end Rtl8190.Elements
