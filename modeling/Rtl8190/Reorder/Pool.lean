import Mathlib.Algebra.BigOperators.Group.Finset.Basic
import Mathlib.Algebra.Order.BigOperators.Group.Finset
import Mathlib.Data.Fintype.BigOperators
import Rtl8190.Lib.Run
import Rtl8190.Reorder.Window

/-!
# The reorder pool

Any number of streams share the entries of `RxReorder_Unused_List`. No call loses or duplicates an
entry or a packet, whatever the sequence numbers and the window size are.
-/

open Rtl8190.Run

namespace Rtl8190.Reorder.Pool

variable {ι ρ : Type}

/-! ## One call -/

def entries (l : List (RxReorderEntry ρ)) : Multiset Nat := ↑(l.map (·.entry))

def packets (l : List (RxReorderEntry ρ)) : Multiset ρ := ↑(l.map (·.prxb))

@[simp] theorem entries_nil : entries ([] : List (RxReorderEntry ρ)) = 0 := rfl

@[simp] theorem entries_cons (e : RxReorderEntry ρ) (l : List (RxReorderEntry ρ)) :
    entries (e :: l) = e.entry ::ₘ entries l := rfl

@[simp] theorem entries_append (l l' : List (RxReorderEntry ρ)) :
    entries (l ++ l') = entries l + entries l' := by simp [entries]

@[simp] theorem entries_reverse (l : List (RxReorderEntry ρ)) : entries l.reverse = entries l := by
  simp [entries]

@[simp] theorem card_entries (l : List (RxReorderEntry ρ)) : (entries l).card = l.length := by
  simp [entries]

@[simp] theorem packets_nil : packets ([] : List (RxReorderEntry ρ)) = 0 := rfl

@[simp] theorem packets_cons (e : RxReorderEntry ρ) (l : List (RxReorderEntry ρ)) :
    packets (e :: l) = e.prxb ::ₘ packets l := rfl

@[simp] theorem packets_append (l l' : List (RxReorderEntry ρ)) :
    packets (l ++ l') = packets l + packets l' := by simp [packets]

@[simp] theorem packets_reverse (l : List (RxReorderEntry ρ)) : packets l.reverse = packets l := by
  simp [packets]

/-- A loop takes entries from the front of `l`: each goes back to the pool, its packet to the
array. -/
structure Takes (array : List ρ) (unused : List Nat) (l : List (RxReorderEntry ρ)) (r : Release ρ) :
    Prop where
  entry : (r.rxReorderUnusedList : Multiset Nat) + entries r.pending = ↑unused + entries l
  packet : (r.array : Multiset ρ) + packets r.pending = ↑array + packets l

theorem Takes.stop {array : List ρ} {unused : List Nat} {l : List (RxReorderEntry ρ)} {I : Nat}
    {buf : Bool} : Takes array unused l ⟨I, array, unused, l, buf⟩ := ⟨rfl, rfl⟩

theorem Takes.cons {array : List ρ} {unused : List Nat} {prev : RxReorderEntry ρ}
    {rest : List (RxReorderEntry ρ)} {r : Release ρ}
    (h : Takes (array ++ [prev.prxb]) (unused ++ [prev.entry]) rest r) :
    Takes array unused (prev :: rest) r where
  entry := by
    rw [h.entry, ← Multiset.coe_add, add_assoc, entries_cons, ← Multiset.singleton_add]
    rfl
  packet := by
    rw [h.packet, ← Multiset.coe_add, add_assoc, packets_cons, ← Multiset.singleton_add]
    rfl

theorem indicateLoop_takes {I : Nat} (array : List ρ) {unused : List Nat}
    {l : List (RxReorderEntry ρ)} (hlen : array.length ≤ 128) :
    Takes array unused l (indicateLoop I array unused l) ∧
      (indicateLoop I array unused l).array.length ≤ 128 := by
  induction l generalizing I array unused with
  | nil => exact ⟨.stop, hlen⟩
  | cons prev rest ih =>
    rw [indicateLoop]
    split_ifs with h1 h2
    · exact ⟨.stop, hlen⟩
    · obtain ⟨h3, h4⟩ := ih (I := nextIndicateSeq prev I) (array ++ [prev.prxb])
        (by simp only [reorderWinSize] at h2; simp only [List.length_append, List.length_singleton]; omega)
      exact ⟨h3.cons, h4⟩
    · exact ⟨.stop, hlen⟩

/-- The timer's loop has no overflow test, but the pool has no more entries than the array. -/
theorem timeoutLoop_takes {I : Nat} (array : List ρ) {unused : List Nat}
    {l : List (RxReorderEntry ρ)} (hlen : array.length + l.length ≤ 128) :
    Takes array unused l (timeoutLoop I array unused l) ∧
      (timeoutLoop I array unused l).array.length ≤ 128 := by
  induction l generalizing I array unused with
  | nil => exact ⟨.stop, by simpa [timeoutLoop] using hlen⟩
  | cons prev rest ih =>
    simp only [List.length_cons] at hlen
    simp only [timeoutLoop]
    generalize (if array.length = 0 then prev.seqNum else I) = I'
    split
    · obtain ⟨h3, h4⟩ := ih (I := nextIndicateSeq prev I') (array ++ [prev.prxb])
        (by simp only [List.length_append, List.length_singleton]; omega)
      exact ⟨h3.cons, h4⟩
    · refine ⟨.stop, ?_⟩
      change array.length ≤ 128
      omega

/-- A call keeps the entries, and accounts for the pending packets and for those it got. -/
structure Conserves (unused : List Nat) (pTS : RxTsRecord ρ) (got : List ρ) (r : Result ρ) : Prop where
  entry : (r.rxReorderUnusedList : Multiset Nat) + entries r.pTS.rxPendingPktList =
    ↑unused + entries pTS.rxPendingPktList
  packet : packets r.pTS.rxPendingPktList + r.indicated + r.freed =
    packets pTS.rxPendingPktList + (got : Multiset ρ)

/-- The end of a call that started with `l` pending, and with the array in hand. -/
theorem Takes.conserves {array : List ρ} {unused unused' : List Nat} {l : List (RxReorderEntry ρ)}
    {r : Release ρ} {pTS pTS' : RxTsRecord ρ} {got freed : List ρ} (h : Takes array unused' l r)
    (hlen : r.array.length ≤ 128)
    (hentry : (unused' : Multiset Nat) + entries l = ↑unused + entries pTS.rxPendingPktList)
    (hpacket : (array : Multiset ρ) + packets l + freed = packets pTS.rxPendingPktList + ↑got) :
    Conserves unused pTS got (indicateAndArm pTS' r freed) where
  entry := by simp [h.entry, hentry]
  packet := by
    simp only [indicateAndArm_rxPendingPktList, indicateAndArm_indicated hlen,
      indicateAndArm_freed, packets_reverse]
    rw [add_comm (packets r.pending), h.packet, hpacket]

theorem bufferPacket_conserves (unused : List Nat) (prxb : ρ) (seqNum : Nat)
    (l : List (RxReorderEntry ρ)) :
    let b := bufferPacket unused prxb seqNum l
    (b.rxReorderUnusedList : Multiset Nat) + entries b.rxPendingPktList = ↑unused + entries l ∧
      packets b.rxPendingPktList + (b.freed : Multiset ρ) = packets l + {prxb} := by
  unfold bufferPacket
  match unused with
  | [] => exact ⟨rfl, rfl⟩
  | entry :: unused =>
    cases hadd : addReorderEntry ⟨entry, seqNum, prxb⟩ l with
    | none =>
      have hback : ((unused ++ [entry] : List Nat) : Multiset Nat) = ↑(entry :: unused) :=
        Multiset.coe_eq_coe.mpr (List.perm_append_singleton entry unused)
      exact ⟨by simp only [hadd, hback], by simp [hadd]⟩
    | some pending =>
      have hperm := addReorderEntry_perm hadd
      have hentry : entries pending = entry ::ₘ entries l :=
        Multiset.coe_eq_coe.mpr (hperm.map (·.entry))
      have hpacket : packets pending = prxb ::ₘ packets l :=
        Multiset.coe_eq_coe.mpr (hperm.map (·.prxb))
      simp only [hadd, hentry, hpacket]
      refine ⟨by rw [← Multiset.cons_coe, Multiset.cons_add, Multiset.add_cons], ?_⟩
      rw [Multiset.coe_nil, add_zero, ← Multiset.singleton_add, add_comm]

theorem packet_conserves (winSize : Nat) (unused : List Nat) (prxb : ρ) (pTS : RxTsRecord ρ)
    (seqNum : Nat) :
    Conserves unused pTS [prxb] (rxReorderIndicatePacket winSize unused prxb pTS seqNum) := by
  simp only [rxReorderIndicatePacket]
  generalize (if pTS.rxIndicateSeq = 0xffff then seqNum else pTS.rxIndicateSeq) = I
  split_ifs
  · exact ⟨rfl, by simp⟩
  · obtain ⟨h1, h2⟩ := indicateLoop_takes (I := (I + 1) % 4096) [prxb]
      (l := pTS.rxPendingPktList.reverse) (by simp)
    exact h1.conserves h2 (by simp) (by simp [add_comm])
  all_goals
    obtain ⟨hb1, hb2⟩ := bufferPacket_conserves unused prxb seqNum pTS.rxPendingPktList
    refine (indicateLoop_takes [] (by simp)).1.conserves (indicateLoop_takes [] (by simp)).2 ?_ ?_
    · simpa using hb1
    · simpa using hb2

theorem timeout_conserves (unused : List Nat) (pTS : RxTsRecord ρ)
    (hlen : pTS.rxPendingPktList.length ≤ 128) :
    Conserves unused pTS [] (rxPktPendingTimeout unused pTS) := by
  simp only [rxPktPendingTimeout]
  split_ifs
  · obtain ⟨h1, h2⟩ := timeoutLoop_takes (I := pTS.rxIndicateSeq) [] (l := pTS.rxPendingPktList.reverse)
      (by simpa using hlen)
    exact h1.conserves h2 (by simp) (by simp)
  · exact ⟨rfl, by simp⟩

theorem removeTsEntry_conserves (unused : List Nat) (pTS : RxTsRecord ρ) :
    Conserves unused pTS [] (removeTsEntry unused pTS) where
  entry := by
    have hback : entries pTS.rxPendingPktList.reverse = entries pTS.rxPendingPktList :=
      entries_reverse _
    simp only [removeTsEntry, ← Multiset.coe_add, entries_nil, add_zero]
    rw [← hback]
    rfl
  packet := by simp [removeTsEntry, packets]

/-! ## The system -/

/-- A call for one of the streams. Calls run one after the other. -/
inductive Call (ι ρ : Type) where
  | packet (i : ι) (prxb : ρ) (seqNum : Nat)
  | timeout (i : ι)
  | removeTs (i : ι)

/-- The pool, the streams, and what has become of the packets. -/
structure State (ι ρ : Type) where
  rxReorderUnusedList : List Nat
  streams : ι → RxTsRecord ρ
  passed : List ρ
  indicated : List ρ
  freed : List ρ

variable [DecidableEq ι]

/-- The system after a call for the stream `i` that got the packets `got`. -/
def State.after (s : State ι ρ) (i : ι) (got : List ρ) (r : Result ρ) : State ι ρ where
  rxReorderUnusedList := r.rxReorderUnusedList
  streams := Function.update s.streams i r.pTS
  passed := s.passed ++ got
  indicated := s.indicated ++ r.indicated
  freed := s.freed ++ r.freed

def step (winSize : Nat) (s : State ι ρ) : Call ι ρ → State ι ρ
  | .packet i prxb seqNum =>
    s.after i [prxb]
      (rxReorderIndicatePacket winSize s.rxReorderUnusedList prxb (s.streams i) seqNum)
  | .timeout i => s.after i [] (rxPktPendingTimeout s.rxReorderUnusedList (s.streams i))
  | .removeTs i => s.after i [] (removeTsEntry s.rxReorderUnusedList (s.streams i))

def init (streams : ι → RxTsRecord ρ) : State ι ρ where
  rxReorderUnusedList := List.range reorderEntryNum
  streams := fun i => { streams i with rxPendingPktList := [] }
  passed := []
  indicated := []
  freed := []

variable [Fintype ι]

theorem sum_update_add {α M : Type*} [AddCommMonoid M] (f : α → M) (s : ι → α) (i : ι) (x : α) :
    ∑ j, f (Function.update s i x j) + f (s i) = ∑ j, f (s j) + f x := by
  have hrest : ∑ j ∈ Finset.univ.erase i, f (Function.update s i x j) =
      ∑ j ∈ Finset.univ.erase i, f (s j) :=
    Finset.sum_congr rfl fun j hj => by rw [Function.update_of_ne (Finset.ne_of_mem_erase hj)]
  rw [← Finset.add_sum_erase _ _ (Finset.mem_univ i), hrest, Function.update_self,
    ← Finset.add_sum_erase _ (fun j => f (s j)) (Finset.mem_univ i), add_right_comm,
    add_comm (f x), add_assoc, add_assoc, add_comm (f x)]

structure Inv (s : State ι ρ) : Prop where
  entry : (s.rxReorderUnusedList : Multiset Nat) + ∑ i, entries (s.streams i).rxPendingPktList =
    Multiset.range reorderEntryNum
  packet : ∑ i, packets (s.streams i).rxPendingPktList + s.indicated + s.freed =
    (s.passed : Multiset ρ)

omit [DecidableEq ι] in
theorem Inv.length_le {s : State ι ρ} (h : Inv s) (i : ι) :
    (s.streams i).rxPendingPktList.length ≤ 128 := by
  have hcard := congrArg Multiset.card h.entry
  simp only [Multiset.card_add, Multiset.card_sum, card_entries, Multiset.card_range,
    reorderEntryNum] at hcard
  have := Finset.single_le_sum (f := fun j => (s.streams j).rxPendingPktList.length)
    (fun j _ => Nat.zero_le _) (Finset.mem_univ i)
  omega

theorem Conserves.inv {s : State ι ρ} {i : ι} {got : List ρ} {r : Result ρ}
    (hr : Conserves s.rxReorderUnusedList (s.streams i) got r) (h : Inv s) :
    Inv (s.after i got r) where
  entry := by
    have hsum := sum_update_add (fun pTS : RxTsRecord ρ => entries pTS.rxPendingPktList) s.streams i
      r.pTS
    refine add_right_cancel (b := entries (s.streams i).rxPendingPktList) ?_
    simp only [State.after]
    rw [add_assoc, hsum, ← h.entry, add_left_comm, hr.entry]
    ac_rfl
  packet := by
    have hsum := sum_update_add (fun pTS : RxTsRecord ρ => packets pTS.rxPendingPktList) s.streams i
      r.pTS
    refine add_right_cancel (b := packets (s.streams i).rxPendingPktList) ?_
    simp only [State.after, ← Multiset.coe_add, ← h.packet]
    calc _ = (∑ j, packets (Function.update s.streams i r.pTS j).rxPendingPktList +
            packets (s.streams i).rxPendingPktList) + s.indicated + s.freed +
            (r.indicated + r.freed) := by ac_rfl
      _ = ∑ j, packets (s.streams j).rxPendingPktList + s.indicated + s.freed +
            (packets r.pTS.rxPendingPktList + r.indicated + r.freed) := by rw [hsum]; ac_rfl
      _ = _ := by rw [hr.packet]; ac_rfl

theorem inv_step (winSize : Nat) {s : State ι ρ} (h : Inv s) (c : Call ι ρ) :
    Inv (step winSize s c) := by
  cases c with
  | packet i prxb seqNum => exact (packet_conserves _ _ _ _ _).inv h
  | timeout i => exact (timeout_conserves _ _ (h.length_le i)).inv h
  | removeTs i => exact (removeTsEntry_conserves _ _).inv h

omit [DecidableEq ι] in
theorem inv_init (streams : ι → RxTsRecord ρ) : Inv (init streams) where
  entry := by simp [init, Multiset.range]
  packet := by simp [init]

theorem inv_exec (winSize : Nat) (streams : ι → RxTsRecord ρ) (cs : List (Call ι ρ)) :
    Inv (exec (step winSize) (init streams) cs) :=
  exec_inv (I := Inv) (C := fun _ _ => True) (fun _ c h _ => inv_step winSize h c)
    (inv_init streams) (meets_of_forall (P := fun _ => True) fun _ _ => trivial)

/-! ## Main result -/

end Rtl8190.Reorder.Pool
