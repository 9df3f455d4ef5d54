import Mathlib.Data.List.Basic

/-!
# Packets under construction

A packet lies in memory that may hold anything. A builder puts room at the end of the packet and
fills it; what it does not fill is as the memory was.
-/

namespace Rtl8190.Packets

structure Packet (β : Type) where
  room : Nat
  tail : Nat
  len : Nat
  data : Nat → β

variable {β : Type}

namespace Packet

def alloc (room : Nat) (mem : Nat → β) : Packet β := ⟨room, 0, 0, mem⟩

def put (p : Packet β) (n : Nat) : Packet β := { p with tail := p.tail + n, len := p.len + n }

def store (p : Packet β) (start : Nat) (bs : List β) : Packet β :=
  { p with data := fun i => if start ≤ i then (bs[i - start]?).getD (p.data i) else p.data i }

/-- Room for `n` bytes, of which the first ones are written. -/
def add (p : Packet β) (n : Nat) (bs : List β) : Packet β := (p.put n).store p.tail bs

def bytes (p : Packet β) : List β := (List.range p.len).map p.data

structure Holds (p : Packet β) (bs : List β) : Prop where
  tail : p.tail = bs.length
  bytes : p.bytes = bs

@[simp] theorem tail_store (p : Packet β) (start : Nat) (bs : List β) :
    (p.store start bs).tail = p.tail := rfl

@[simp] theorem length_bytes (p : Packet β) : p.bytes.length = p.len := by
  simp [bytes]

theorem getElem_bytes (p : Packet β) {i : Nat} (h : i < p.bytes.length) :
    p.bytes[i] = p.data i := by
  simp [bytes]

theorem Holds.len {p : Packet β} {bs : List β} (h : p.Holds bs) : p.len = bs.length := by
  rw [← h.bytes, length_bytes]

theorem store_data_of_lt (p : Packet β) (start : Nat) (bs : List β) {i : Nat} (h : i < start) :
    (p.store start bs).data i = p.data i :=
  if_neg (Nat.not_le.mpr h)

theorem store_data (p : Packet β) (start : Nat) (bs : List β) {i : Nat} (h : i < bs.length) :
    (p.store start bs).data (start + i) = bs[i] := by
  unfold store
  simp [h]

theorem store_data_of_ge (p : Packet β) (start : Nat) (bs : List β) {i : Nat}
    (h : start + bs.length ≤ i) : (p.store start bs).data i = p.data i := by
  unfold store
  have hnone : bs[i - start]? = none := List.getElem?_eq_none (by omega)
  simp [hnone]

theorem bytes_store {p : Packet β} {as bs xs cs : List β} {start : Nat}
    (h : p.bytes = as ++ xs ++ cs) (hstart : as.length = start) (hlen : bs.length = xs.length) :
    (p.store start bs).bytes = as ++ bs ++ cs := by
  -- The bytes in the middle are overwritten.
  have hlength : p.len = as.length + bs.length + cs.length := by
    rw [← length_bytes, h, List.length_append, List.length_append, hlen]
  have hdata (i : Nat) (hi : i < (as ++ xs ++ cs).length) : p.data i = (as ++ xs ++ cs)[i] := by
    rw [← getElem_bytes p (by rw [h]; exact hi)]
    simp only [h]
  subst hstart
  apply List.ext_getElem
  · rw [length_bytes, List.length_append, List.length_append]
    exact hlength
  · intro i hi hi'
    rw [getElem_bytes]
    rw [length_bytes] at hi
    change i < p.len at hi
    rcases Nat.lt_or_ge i as.length with has | has
    · rw [store_data_of_lt _ _ _ has, hdata i (by simp; omega)]
      simp [List.getElem_append_left, has]
    · rcases Nat.lt_or_ge i (as.length + bs.length) with hbs | hbs
      · obtain ⟨j, rfl⟩ := Nat.exists_eq_add_of_le has
        rw [store_data _ _ _ (by omega)]
        simp [show j < bs.length by omega]
      · rw [store_data_of_ge _ _ _ hbs, hdata i (by simp; omega)]
        simp only [List.append_assoc, List.getElem_append, show ¬ i < as.length by omega,
          show ¬ i - as.length < xs.length by omega, dite_false, hlen]

theorem Holds.store {p : Packet β} {as bs xs cs : List β} {start : Nat}
    (h : p.Holds (as ++ xs ++ cs)) (hstart : as.length = start) (hlen : bs.length = xs.length) :
    (p.store start bs).Holds (as ++ bs ++ cs) := by
  refine ⟨?_, bytes_store h.bytes hstart hlen⟩
  rw [tail_store, h.tail]
  simp [hlen]

theorem Holds.put {p : Packet β} {bs : List β} (h : p.Holds bs) (n : Nat) :
    (p.put n).Holds (bs ++ (List.range n).map fun i => p.data (bs.length + i)) := by
  constructor
  · unfold Packet.put
    simp [h.tail]
  · have hbytes := h.bytes
    unfold Packet.bytes at hbytes
    unfold Packet.put Packet.bytes
    rw [List.range_add, List.map_append, hbytes, List.map_map, h.len]
    rfl

theorem Holds.add {p : Packet β} {bs xs : List β} (h : p.Holds bs) {n : Nat}
    (hn : xs.length = n) : (p.add n xs).Holds (bs ++ xs) := by
  have hput := h.put n
  rw [← List.append_nil (bs ++ _)] at hput
  have hstore : (p.add n xs).Holds (bs ++ xs ++ []) := hput.store h.tail.symm (by simpa using hn)
  rw [List.append_nil] at hstore
  exact hstore

theorem holds_alloc (room : Nat) (mem : Nat → β) : (alloc room mem).Holds [] := ⟨rfl, rfl⟩

theorem holds_two (room : Nat) (mem : Nat → β) {xs ys : List β} {n : Nat}
    (h : xs.length + ys.length = n) :
    ((((alloc room mem).put n).store 0 xs).store xs.length ys).Holds (xs ++ ys) := by
  have hput := (holds_alloc room mem).put n
  rw [← h, List.range_add, List.map_append, ← List.append_assoc, h] at hput
  have hfirst : (((alloc room mem).put n).store 0 xs).Holds ([] ++ xs ++ _) :=
    hput.store rfl (by simp)
  rw [List.nil_append, ← List.append_nil (xs ++ _)] at hfirst
  have hboth : ((((alloc room mem).put n).store 0 xs).store xs.length ys).Holds (xs ++ ys ++ []) :=
    hfirst.store rfl (by simp)
  rw [List.append_nil] at hboth
  exact hboth

/-! ## Steps of a builder -/

/-- The step puts these bytes at the end of a packet. -/
def Appends (f : Packet β → Packet β) (xs : List β) : Prop :=
  ∀ p bs, p.Holds bs → (f p).Holds (bs ++ xs) ∧ (f p).room = p.room

theorem appends_id : Appends (fun p : Packet β => p) [] := by
  intro p bs h
  rw [List.append_nil]
  exact ⟨h, rfl⟩

theorem appends_add {n : Nat} {xs : List β} (hn : xs.length = n) :
    Appends (fun p : Packet β => p.add n xs) xs :=
  fun _ _ h => ⟨h.add hn, rfl⟩

theorem appends_if {c : Prop} [Decidable c] {f : Packet β → Packet β} {xs : List β}
    (h : c → Appends f xs) : Appends (fun p => if c then f p else p) (if c then xs else []) := by
  split_ifs with hc
  · exact h hc
  · exact appends_id

theorem Appends.comp {f g : Packet β → Packet β} {xs ys : List β} (hf : Appends f xs)
    (hg : Appends g ys) : Appends (fun p => g (f p)) (xs ++ ys) := by
  intro p bs h
  obtain ⟨hfp, hroom⟩ := hf p bs h
  obtain ⟨hgp, hroom'⟩ := hg (f p) _ hfp
  rw [← List.append_assoc]
  exact ⟨hgp, hroom'.trans hroom⟩

end Packet

end Rtl8190.Packets
