import Rtl8190.Rx.Code

/-!
# What is freed when `parse_subframe` returns 0

`rtllib_rx` frees the subframes that the `struct rtllib_rxb` has. Its memory comes from `kmalloc`, so
the number of subframes is arbitrary until it is written.
-/

open Rtl8190.Memory

namespace Rtl8190.Rx

/-- `struct rtllib_rxb` in memory. A pointer is its address. -/
structure RxbMem where
  nrSubframes : Byte
  nrWritten : Bool
  subframes : Nat → Nat
  src : Addr
  dst : Addr

def RxbMem.kmalloc (nrSubframes : Byte) (subframes : Nat → Nat) (src dst : Addr) : RxbMem :=
  ⟨nrSubframes, false, subframes, src, dst⟩

def RxbMem.setNr (rxb : RxbMem) (n : Byte) : RxbMem := { rxb with nrSubframes := n, nrWritten := true }

def RxbMem.setAddrs (rxb : RxbMem) (src dst : Addr) : RxbMem := { rxb with src := src, dst := dst }

def RxbMem.add (rxb : RxbMem) (p : Nat) : RxbMem :=
  { rxb with
    nrSubframes := rxb.nrSubframes + 1
    subframes := Function.update rxb.subframes rxb.nrSubframes.toNat p }

/-- What the loop in `rtllib_rx` frees. -/
def RxbMem.freed (rxb : RxbMem) : List Nat := (List.range rxb.nrSubframes.toNat).map rxb.subframes

/-- How `parse_subframe` ends: what it returns, and the subframes that it has allocated. -/
structure Parsed where
  ret : Byte
  rxb : RxbMem
  allocated : List Nat

section Code

variable (alloc : Nat → Option Nat)

/-- The rounds of the loop over an A-MSDU; `alloc k` is the pointer that the `k`th allocation yields.
The result is `none` if the loop writes through `NULL`, and has `false` for an early return. -/
def subframeMemLoop : Nat → Skb → RxbMem → List Nat → Option (Bool × RxbMem × List Nat)
  | 0, _, rxb, allocated => some (true, rxb, allocated)
  | room + 1, skb, rxb, allocated =>
    if 14 < skb.len then
      let length := (skb.byte 12 ++ skb.byte 13).toNat
      if skb.len < 14 + length then some (false, rxb, allocated)
      else
        match alloc allocated.length with
        | none => none
        | some p =>
          let rxb := rxb.add p
          let allocated := allocated ++ [p]
          if 64 ≤ rxb.nrSubframes.toNat then some (true, rxb, allocated)
          else
            let skb := (skb.pull 14).pull length
            let padding := (4 - (length + 14) % 4) % 4
            if skb.len = 0 then subframeMemLoop room skb rxb allocated
            else if skb.len < padding then some (false, rxb, allocated)
            else subframeMemLoop room (skb.pull padding) rxb allocated
    else some (true, rxb, allocated)

/-- `parse_subframe`: `none` if it writes through `NULL`. -/
def parseSubframeMem (skb : Skb) (bContainHTC : Bool) (src dst : Addr) (rxb : RxbMem) :
    Option Parsed :=
  if skb.len ≤ llcOffset skb bContainHTC then some ⟨0, rxb, []⟩
  else if qosHasSeq skb.frameCtl ∧ (skb.byte 24).getLsbD 7 then
    (subframeMemLoop alloc 64 (skb.pull (llcOffset skb bContainHTC))
      ((rxb.setNr 0).setAddrs src dst) []).map fun r =>
        ⟨if r.1 then r.2.1.nrSubframes else 0, r.2.1, r.2.2⟩
  else
    (alloc 0).map fun p =>
      let rxb := rxb.setNr 1
      ⟨1, { rxb with subframes := Function.update rxb.subframes 0 p }.setAddrs src dst, [p]⟩

end Code

/-- The loop in `rtllib_rx` frees what was allocated, in that order, and nothing else. -/
structure CleansUp (rxb : RxbMem) (allocated : List Nat) : Prop where
  nrWritten : rxb.nrWritten = true
  freed : rxb.freed = allocated

theorem CleansUp.nrSubframes {rxb : RxbMem} {allocated : List Nat} (h : CleansUp rxb allocated) :
    rxb.nrSubframes.toNat = allocated.length := by
  rw [← h.freed]
  unfold RxbMem.freed
  rw [List.length_map, List.length_range]

theorem CleansUp.add {rxb : RxbMem} {allocated : List Nat} (h : CleansUp rxb allocated)
    (hroom : allocated.length < 64) (p : Nat) : CleansUp (rxb.add p) (allocated ++ [p]) where
  nrWritten := h.nrWritten
  freed := by
  -- One more subframe.
    have hnext : (rxb.nrSubframes + 1).toNat = rxb.nrSubframes.toNat + 1 := by
      have := h.nrSubframes
      rw [BitVec.toNat_add]
      simp
      omega
    unfold RxbMem.freed RxbMem.add
    simp only
    rw [hnext, List.range_succ, List.map_append, ← h.freed]
    congr 1
    · apply List.map_congr_left
      intro i hi
      exact Function.update_of_ne (List.mem_range.mp hi).ne _ _
    · simp

variable {alloc : Nat → Option Nat}

theorem subframeMemLoop_cleansUp (room : Nat) (skb : Skb) {rxb rxb' : RxbMem}
    {allocated allocated' : List Nat} {ok : Bool} (h : CleansUp rxb allocated)
    (hroom : allocated.length + room ≤ 64)
    (hrun : subframeMemLoop alloc room skb rxb allocated = some (ok, rxb', allocated')) :
    CleansUp rxb' allocated' := by
  induction room generalizing skb rxb allocated with
  | zero =>
    obtain ⟨-, rfl, rfl⟩ := by simpa [subframeMemLoop] using hrun
    exact h
  | succ room ih =>
    unfold subframeMemLoop at hrun
    by_cases hmore : 14 < skb.len
    · rw [if_pos hmore] at hrun
      simp only at hrun
      by_cases hshort : skb.len < 14 + (skb.byte 12 ++ skb.byte 13).toNat
      · rw [if_pos hshort] at hrun
        obtain ⟨-, rfl, rfl⟩ := by simpa using hrun
        exact h
      · rw [if_neg hshort] at hrun
        cases hp : alloc allocated.length with
        | none =>
          rw [hp] at hrun
          cases hrun
        | some p =>
          rw [hp] at hrun
          simp only at hrun
          have hadd := h.add (by omega) p
          have hroom' : (allocated ++ [p]).length + room ≤ 64 := by
            rw [List.length_append, List.length_singleton]
            omega
          split_ifs at hrun
          · obtain ⟨-, rfl, rfl⟩ := by simpa using hrun
            exact hadd
          · exact ih _ hadd hroom' hrun
          · obtain ⟨-, rfl, rfl⟩ := by simpa using hrun
            exact hadd
          · exact ih _ hadd hroom' hrun
    · rw [if_neg hmore] at hrun
      obtain ⟨-, rfl, rfl⟩ := by simpa using hrun
      exact h

/-- Once the length is checked, every way out leaves the structure as the cleanup needs it. -/
theorem parseSubframeMem_cleansUp {skb : Skb} {bContainHTC : Bool} {src dst : Addr} {rxb : RxbMem}
    (hlen : llcOffset skb bContainHTC < skb.len) {r : Parsed}
    (h : parseSubframeMem alloc skb bContainHTC src dst rxb = some r) :
    CleansUp r.rxb r.allocated := by
  unfold parseSubframeMem at h
  rw [if_neg (by omega)] at h
  split_ifs at h
  · obtain ⟨⟨ok, rxb', allocated⟩, hrun, rfl⟩ := Option.map_eq_some_iff.mp h
    have hstart : CleansUp ((rxb.setNr 0).setAddrs src dst) [] := ⟨rfl, rfl⟩
    exact subframeMemLoop_cleansUp 64 _ hstart (by simp) hrun
  · obtain ⟨p, -, rfl⟩ := Option.map_eq_some_iff.mp h
    exact ⟨rfl, rfl⟩

/-! ## The subframes themselves -/

/-- The loop makes as many subframes as it allocates, and fails in the same places. -/
theorem subframeMemLoop_length (room : Nat) (skb : Skb) {rxb rxb' : RxbMem}
    {allocated allocated' : List Nat} {ok : Bool} (subframes : List Skb)
    (h : CleansUp rxb allocated) (hroom : allocated.length + room = 64)
    (hsame : subframes.length = allocated.length)
    (hrun : subframeMemLoop alloc room skb rxb allocated = some (ok, rxb', allocated')) :
    (subframeLoop room skb subframes).2.map List.length =
      if ok then some allocated'.length else none := by
  induction room generalizing skb rxb allocated subframes with
  | zero =>
    obtain ⟨rfl, rfl, rfl⟩ := by simpa [subframeMemLoop] using hrun
    exact congrArg some hsame
  | succ room ih =>
    unfold subframeMemLoop at hrun
    unfold subframeLoop
    by_cases hmore : 14 < skb.len
    · rw [if_pos hmore] at hrun ⊢
      simp only at hrun ⊢
      by_cases hshort : skb.len < 14 + (skb.byte 12 ++ skb.byte 13).toNat
      · rw [if_pos hshort] at hrun ⊢
        obtain ⟨rfl, rfl, rfl⟩ := by simpa using hrun
        rfl
      · rw [if_neg hshort] at hrun ⊢
        cases hp : alloc allocated.length with
        | none =>
          rw [hp] at hrun
          cases hrun
        | some p =>
          rw [hp] at hrun
          simp only at hrun
          have hadd := h.add (by omega) p
          have hlength (q : Nat) : (allocated ++ [q]).length = allocated.length + 1 :=
            List.length_append
          have hsame' (sub : Skb) : (subframes ++ [sub]).length = (allocated ++ [p]).length := by
            rw [List.length_append, hsame, hlength]
            rfl
          by_cases hfull : room = 0
          · have hcount : 64 ≤ (rxb.add p).nrSubframes.toNat := by
              rw [hadd.nrSubframes, hlength]
              omega
            rw [if_pos hcount] at hrun
            obtain ⟨rfl, rfl, rfl⟩ := by simpa using hrun
            rw [if_pos hfull]
            exact congrArg some (hsame' _)
          · have hcount : ¬ 64 ≤ (rxb.add p).nrSubframes.toNat := by
              rw [hadd.nrSubframes, hlength]
              omega
            have hroom' : (allocated ++ [p]).length + room = 64 := by
              rw [hlength]
              omega
            rw [if_neg hcount] at hrun
            rw [if_neg hfull]
            generalize hrest : (skb.pull 14).pull (skb.byte 12 ++ skb.byte 13).toNat = rest at *
            by_cases hend : rest.len = 0
            · rw [if_pos hend] at hrun ⊢
              exact ih _ _ hadd hroom' (hsame' _) hrun
            · rw [if_neg hend] at hrun ⊢
              split at hrun
              · rename_i hpad
                rw [if_pos hpad]
                obtain ⟨rfl, rfl, rfl⟩ := by simpa using hrun
                rfl
              · rename_i hpad
                rw [if_neg hpad]
                exact ih _ _ hadd hroom' (hsame' _) hrun
    · rw [if_neg hmore] at hrun ⊢
      obtain ⟨rfl, rfl, rfl⟩ := by simpa using hrun
      exact congrArg some hsame

theorem nonempty_length {found : Option (List Skb)} {n : Byte} {m : Nat} {ok : Bool}
    (hcount : found.map List.length = if ok then some m else none) (hnr : n.toNat = m) :
    (found.bind fun subframes => if subframes = [] then none else some subframes).map List.length =
      if (if ok then n else 0) = 0 then none else some (if ok then n else 0).toNat := by
  cases ok with
  | false =>
    obtain rfl : found = none := by simpa using hcount
    rfl
  | true =>
    obtain ⟨subframes, rfl, hlength⟩ := Option.map_eq_some_iff.mp hcount
    simp only [Option.bind_some, if_true]
    by_cases hnone : subframes = []
    · have hzero : n = 0 := by
        apply BitVec.eq_of_toNat_eq
        rw [hnr, ← hlength, hnone]
        rfl
      rw [if_pos hnone, if_pos hzero]
      rfl
    · have hsome : n ≠ 0 := by
        intro hzero
        rw [← hlength, hzero] at hnr
        exact hnone (List.length_eq_zero_iff.mp hnr.symm)
      rw [if_neg hnone, if_neg hsome, hnr, ← hlength]
      rfl

/-- `parse_subframe` returns the number of the subframes that it makes, and 0 if it makes none. -/
theorem parseSubframeMem_ret {skb : Skb} {bContainHTC : Bool} {src dst : Addr} {rxb : RxbMem}
    {r : Parsed} (h : parseSubframeMem alloc skb bContainHTC src dst rxb = some r) :
    (parseSubframe skb bContainHTC).2.map List.length =
      if r.ret = 0 then none else some r.ret.toNat := by
  unfold parseSubframeMem at h
  unfold parseSubframe
  by_cases hlen : skb.len ≤ llcOffset skb bContainHTC
  · rw [if_pos hlen] at h ⊢
    obtain rfl := Option.some.inj h
    rfl
  · rw [if_neg hlen] at h ⊢
    simp only at h ⊢
    by_cases hagg : qosHasSeq skb.frameCtl ∧ (skb.byte 24).getLsbD 7
    · rw [if_pos hagg] at h ⊢
      obtain ⟨⟨ok, rxb', allocated⟩, hrun, rfl⟩ := Option.map_eq_some_iff.mp h
      have hstart : CleansUp ((rxb.setNr 0).setAddrs src dst) [] := ⟨rfl, rfl⟩
      have hcount := subframeMemLoop_length 64 _ [] hstart rfl rfl hrun
      have hnr := (subframeMemLoop_cleansUp 64 _ hstart (by simp) hrun).nrSubframes
      exact nonempty_length hcount hnr
    · rw [if_neg hagg] at h ⊢
      obtain ⟨p, -, rfl⟩ := Option.map_eq_some_iff.mp h
      rfl

/-! ## The cleanup -/

/-- After a return of 0 the cleanup frees just the subframes, if and only if the frame is longer than
what comes before the LLC header. -/
theorem cleansUp_iff (alloc : Nat → Option Nat) (skb : Skb) (bContainHTC : Bool) (src dst : Addr)
    (nr : Byte) (pointers : Nat → Nat) (oldSrc oldDst : Addr) :
    (∀ r, parseSubframeMem alloc skb bContainHTC src dst (.kmalloc nr pointers oldSrc oldDst) =
      some r → r.ret = 0 → CleansUp r.rxb r.allocated) ↔
    llcOffset skb bContainHTC < skb.len := by
  constructor
  · intro h
    by_contra hshort
    have hret : parseSubframeMem alloc skb bContainHTC src dst
        (.kmalloc nr pointers oldSrc oldDst) = some ⟨0, .kmalloc nr pointers oldSrc oldDst, []⟩ :=
      if_pos (Nat.le_of_not_lt hshort)
    have hwritten := (h _ hret rfl).nrWritten
    exact Bool.false_ne_true hwritten
  · intro hlen r hr _
    exact parseSubframeMem_cleansUp hlen hr

/-- A data frame that is nothing but its header, and a structure in whose memory there is 1 and a
pointer. -/
theorem frees_stale_pointer :
    ∃ r, parseSubframeMem some ⟨fun i => ⟨if i = 0 then 8 else 0, none⟩, 24⟩ false (fun _ => 0)
        (fun _ => 0) (.kmalloc 1 (fun _ => 0xdead) (fun _ => 0) fun _ => 0) = some r ∧
      r.ret = 0 ∧ r.allocated = [] ∧ r.rxb.nrWritten = false ∧ r.rxb.freed = [0xdead] :=
  ⟨_, rfl, rfl, rfl, rfl, rfl⟩

end Rtl8190.Rx
