import Rtl8190.Crypt.Nonces
import Rtl8190.Crypt.RoundTrip

/-!
# No counter block is used twice

Between two calls of `set_key` a context encrypts and decrypts in any order. What AES gets from CCMP
to make the key stream, and the pair that TKIP mixes into the key of RC4, are noted for each frame.
-/

open Rtl8190.Memory Rtl8190.Run

namespace Rtl8190.Crypt

namespace Ccmp

/-! ## The counter blocks of one frame -/

section KeyStream

variable (aes : Key → Block → Block) (tfm : Key) (b0 : Block)

theorem counterBlock_counterBlock (i j : Nat) :
    counterBlock (counterBlock b0 i) j = counterBlock b0 j := by
  funext k
  unfold counterBlock
  by_cases h0 : k.val = 0
  · simp only [h0, if_true, Fin.val_zero, BitVec.and_assoc, BitVec.and_self]
  · simp only [h0, if_false]
    split_ifs <;> rfl

theorem encryptBlocks_keyStream (blocks i : Nat) (pos : List Byte) (b : Block) :
    (encryptBlocks aes tfm b0 blocks i pos b).1 =
      ((List.range blocks).flatMap fun k =>
        xorData ((pos.drop (16 * k)).take 16) (aes tfm (counterBlock b0 (i + k)))) ++
      pos.drop (16 * blocks) := by
  induction blocks generalizing i pos b with
  | zero => rfl
  | succ blocks ih =>
    unfold encryptBlocks
    have hnext (k : Nat) : (pos.drop 16).drop (16 * k) = pos.drop (16 * (k + 1)) := by
      rw [List.drop_drop, Nat.mul_succ, Nat.add_comm]
    simp only [ih, hnext, List.range_succ_eq_map, List.flatMap_cons, List.flatMap_map,
      Nat.mul_zero, List.drop_zero, Nat.add_zero, List.append_assoc, Nat.succ_eq_add_one,
      Nat.add_right_comm i 1, Nat.add_assoc i]

end KeyStream

theorem counterBlock_injOn (b0 : Block) {i j : Nat} (hi : i < 2 ^ 16) (hj : j < 2 ^ 16)
    (h : counterBlock b0 i = counterBlock b0 j) : i = j := by
  have h14 : BitVec.ofNat 8 (i / 256) = BitVec.ofNat 8 (j / 256) := congrFun h 14
  have h15 : BitVec.ofNat 8 i = BitVec.ofNat 8 j := congrFun h 15
  have hhigh := congrArg BitVec.toNat h14
  have hlow := congrArg BitVec.toNat h15
  simp only [BitVec.toNat_ofNat] at hhigh hlow
  omega

def Block.pn (b : Block) : List Byte := [b 8, b 9, b 10, b 11, b 12, b 13]

theorem pn_counterBlock (b0 : Block) (i : Nat) : (counterBlock b0 i).pn = b0.pn := rfl

theorem pn_initialBlock (skb : Skb) {pn : List Byte} (h : pn.length = 6) (dlen : Nat) :
    (initialBlock skb pn dlen).pn = pn := by
  match pn, h with
  | [_, _, _, _, _, _], _ => rfl

def blocks (skb : Skb) (hdrLen : Nat) : Nat := (skb.len - hdrLen + 15) / 16

/-- What AES gets to encrypt the MIC, with the counter 0, and the payload. For a frame that the
hardware encrypts that is nothing. -/
def counters (aes : Key → Block → Block) (key : CcmpData) (skb : Skb) (hdrLen : Nat) : List Block :=
  if skb.bHwSec then []
  else
    (List.range (blocks skb hdrLen + 1)).map (counterBlock (nextBlocks aes key skb hdrLen).1)

variable {aes : Key → Block → Block} {key : CcmpData} {skb : Skb} {hdrLen : Nat}

theorem getD_counters (hsoft : skb.bHwSec = false) {k : Nat} (hk : k ≤ blocks skb hdrLen) :
    (counters aes key skb hdrLen).getD k (fun _ => 0) =
      counterBlock (nextBlocks aes key skb hdrLen).1 k := by
  unfold counters
  rw [if_neg (by simp [hsoft]), List.getD_eq_getElem?_getD, List.getElem?_map,
    List.getElem?_range (by omega)]
  rfl

theorem sealedFrame_keyStream (hready : Ready skb hdrLen 8 8) :
    (sealedFrame aes key skb hdrLen).bytes (hdrLen + 8) (skb.len - hdrLen) =
      ((List.range (blocks skb hdrLen)).flatMap fun k =>
        xorData (((skb.data.drop hdrLen).drop (16 * k)).take 16)
          (aes key.tfm ((counters aes key skb hdrLen).getD (k + 1) fun _ => 0))) ∧
    sentMic aes key skb hdrLen =
      (List.ofFn (xorBlock (ciphertext aes key skb hdrLen).2
        (List.ofFn (aes key.tfm ((counters aes key skb hdrLen).getD 0 fun _ => 0))))).take 8 := by
  -- The frame that goes out is under these blocks, each in its place.
  constructor
  · have hbody : (sealedFrame aes key skb hdrLen).bytes (hdrLen + 8) (skb.len - hdrLen) =
        (ciphertext aes key skb hdrLen).1 :=
      (Skb.bytes_sealed hready.fits 0 _).trans (List.take_left' length_ciphertext)
    have hwhole : (skb.data.drop hdrLen).drop (16 * blocks skb hdrLen) = [] := by
      apply List.drop_eq_nil_of_le
      rw [List.length_drop]
      unfold blocks Skb.len
      omega
    rw [hbody]
    unfold ciphertext
    rw [encryptBlocks_keyStream]
    change _ ++ (skb.data.drop hdrLen).drop (16 * blocks skb hdrLen) = _
    rw [hwhole, List.append_nil]
    apply List.flatMap_congr
    intro k hk
    rw [getD_counters hready.software (List.mem_range.mp hk), Nat.add_comm 1 k]
  · rw [getD_counters hready.software (Nat.zero_le _)]
    have hs0 : (nextBlocks aes key skb hdrLen).2.2 =
        aes key.tfm (counterBlock (nextBlocks aes key skb hdrLen).1 0) := by
      unfold nextBlocks ccmpInitBlocks
      rw [counterBlock_counterBlock]
    unfold sentMic
    rw [hs0]

theorem nodup_counters (h : blocks skb hdrLen < 2 ^ 16) :
    (counters aes key skb hdrLen).Nodup := by
  unfold counters
  split_ifs
  · exact .nil
  · apply List.nodup_range.map_on
    intro i hi j hj heq
    rw [List.mem_range] at hi hj
    exact counterBlock_injOn _ (by omega) (by omega) heq

theorem pn_of_mem_counters (hpn : key.txPn.length = 6) {b : Block}
    (hb : b ∈ counters aes key skb hdrLen) : b.pn = nextPn key := by
  unfold counters at hb
  split_ifs at hb
  · cases hb
  · obtain ⟨i, _, rfl⟩ := List.mem_map.mp hb
    rw [pn_counterBlock]
    unfold nextBlocks ccmpInitBlocks
    simp only [pn_counterBlock]
    exact pn_initialBlock _ ((Digits.length_increment _).trans hpn) _

/-! ## A run of frames -/

structure Sent where
  frame : Skb
  hdrLen : Nat
  blocks : Nat
  counters : List Block

def Sent.pn (f : Sent) : List Byte := rxFramePn f.frame f.hdrLen

inductive Call where
  | encrypt (skb : Skb) (hdrLen : Nat)
  | decrypt (skb : Skb) (hdrLen : Nat)

structure Context where
  data : CcmpData
  sent : List Sent

variable (aes)

def callStep (s : Context) : Call → Context
  | .encrypt skb hdrLen =>
    match rtllibCcmpEncrypt aes s.data skb hdrLen with
    | (none, data) => { s with data }
    | (some frame, data) =>
      { data
        sent := s.sent ++
          [⟨frame, hdrLen, blocks skb hdrLen, counters aes s.data skb hdrLen⟩] }
  | .decrypt skb hdrLen => { s with data := (rtllibCcmpDecrypt aes s.data skb hdrLen).2 }

def keyed (key : Nat → Byte) (seq : Option (Fin 6 → Byte)) (data : CcmpData) : Context :=
  ⟨(rtllibCcmpSetKey key 16 seq data).2, []⟩

variable {aes}

theorem pn_encrypt {frame : Skb} {data : CcmpData} (hpn : key.txPn.length = 6)
    (h : rtllibCcmpEncrypt aes key skb hdrLen = (some frame, data)) :
    rxFramePn frame hdrLen = nextPn key ∧ data.txPn = nextPn key := by
  -- What goes out carries the next packet number.
  unfold rtllibCcmpEncrypt at h
  by_cases hroom : skb.headroom < 8 ∨ skb.tailroom < 8 ∨ skb.len < hdrLen
  · rw [if_pos hroom] at h
    cases h
  · rw [if_neg hroom] at h
    have hfits : hdrLen ≤ skb.len := by omega
    simp only at h
    split at h
    · cases h
      refine ⟨pn_of_header hpn ?_, rfl⟩
      intro j hj
      exact Skb.byte_pushIv_iv hfits hj
    · cases h
      refine ⟨pn_of_header hpn ?_, rfl⟩
      intro j hj
      exact (congrArg (fun f => Skb.byte f _) (Skb.put_setFrom_pushIv hfits _)).trans
        (Skb.byte_sealed_iv hfits hj)

theorem txPn_decrypt (key : CcmpData) (skb : Skb) (hdrLen : Nat) :
    (rtllibCcmpDecrypt aes key skb hdrLen).2.txPn = key.txPn := by
  unfold rtllibCcmpDecrypt
  simp only
  split_ifs <;> try rfl
  split <;> rfl

/-- The frames so far have the numbers from 1 on, and their counter blocks those numbers. -/
structure Numbered (s : Context) : Prop where
  length : s.data.txPn.length = 6
  count : Digits.value s.data.txPn = s.sent.length % pnCount
  numbers : s.sent.map (fun f => Digits.value f.pn) =
    (List.range s.sent.length).map fun i => (i + 1) % pnCount
  pn : ∀ f ∈ s.sent, ∀ b ∈ f.counters, b.pn = f.pn
  apart : ∀ f ∈ s.sent, f.blocks < 2 ^ 16 → f.counters.Nodup

theorem numbered_keyed (k : Nat → Byte) (seq : Option (Fin 6 → Byte)) (data : CcmpData) :
    Numbered (keyed k seq data) where
  length := by
    unfold keyed
    rw [txPn_setKey]
    rfl
  count := by
    unfold keyed
    rw [txPn_setKey]
    rfl
  numbers := rfl
  pn _ hf := by cases hf
  apart _ hf := by cases hf

theorem numbered_callStep {s : Context} (h : Numbered s) (c : Call) :
    Numbered (callStep aes s c) := by
  cases c with
  | decrypt skb hdrLen =>
    unfold callStep
    exact ⟨by rw [txPn_decrypt]; exact h.length, by rw [txPn_decrypt]; exact h.count, h.numbers,
      h.pn, h.apart⟩
  | encrypt skb hdrLen =>
    rcases henc : rtllibCcmpEncrypt aes s.data skb hdrLen with ⟨_ | frame, data⟩
    · have hsame : data = s.data := by
        rcases encrypt_cases aes s.data skb hdrLen with ⟨_, heq⟩ | ⟨_, out, heq⟩
        · rw [heq] at henc
          cases henc
          rfl
        · rw [heq] at henc
          cases henc
      simp only [callStep, henc, hsame]
      exact h
    · simp only [callStep, henc]
      obtain ⟨hframe, htx⟩ := pn_encrypt h.length henc
      have hval : Digits.value (nextPn s.data) = (s.sent.length + 1) % pnCount := by
        unfold nextPn
        rw [value_increment_mod h.length, h.count, Nat.mod_add_mod]
      refine ⟨?_, ?_, ?_, ?_, ?_⟩
      · rw [htx]
        exact (Digits.length_increment _).trans h.length
      · rw [htx, hval, List.length_append]
        rfl
      · simp only [List.map_append, List.map_cons, List.map_nil, h.numbers, List.length_append,
          List.length_singleton, List.range_succ]
        unfold Sent.pn
        simp only [hframe, hval]
      · intro f hf b hb
        rcases List.mem_append.mp hf with hf | hf
        · exact h.pn f hf b hb
        · obtain rfl := List.mem_singleton.mp hf
          exact (pn_of_mem_counters h.length hb).trans hframe.symm
      · intro f hf hblocks
        rcases List.mem_append.mp hf with hf | hf
        · exact h.apart f hf hblocks
        · obtain rfl := List.mem_singleton.mp hf
          exact nodup_counters hblocks

theorem numbered_exec (k : Nat → Byte) (seq : Option (Fin 6 → Byte)) (data : CcmpData)
    (calls : List Call) : Numbered (exec (callStep aes) (keyed k seq data) calls) :=
  exec_inv (C := fun _ _ => True) (I := Numbered) (fun _ c hs _ => numbered_callStep hs c)
    (numbered_keyed k seq data) (meets_of_forall fun _ _ => trivial)

theorem Numbered.nodup_flatMap {s : Context} (h : Numbered s)
    (hnumbers : (s.sent.map fun f => Digits.value f.pn).Nodup)
    (hblocks : ∀ f ∈ s.sent, f.blocks < 2 ^ 16) : (s.sent.flatMap Sent.counters).Nodup := by
  rw [List.nodup_flatMap]
  refine ⟨fun f hf => h.apart f hf (hblocks f hf), ?_⟩
  apply (List.pairwise_map.mp hnumbers).imp_of_mem
  intro f g hf hg hne b hbf hbg
  apply hne
  rw [← h.pn f hf b hbf, ← h.pn g hg b hbg]

end Ccmp

namespace Tkip

/-- A call that has mixed a pair into the key of RC4 -/
structure Sent where
  iv32 : BitVec 32
  iv16 : BitVec 16
  hdrLen : Nat
  frame : Option Skb

inductive Call where
  | encrypt (arc4Fails : Bool) (skb : Skb) (hdrLen : Nat)
  | decrypt (arc4Fails : Bool) (skb : Skb) (hdrLen : Nat)
  | verify (michaelFails forceMicError : Bool) (skb : Skb) (hdrLen : Nat)

structure Context where
  data : TkipData
  sent : List Sent

variable (prim : Primitives)

def callStep (s : Context) : Call → Context
  | .encrypt arc4Fails skb hdrLen =>
    let r := rtllibTkipEncrypt prim arc4Fails s.data skb hdrLen
    if skb.headroom < 8 ∨ skb.tailroom < 4 ∨ skb.len < hdrLen then { s with data := r.2 }
    else
      { data := r.2
        sent := s.sent ++ [⟨s.data.txIv32, s.data.txIv16, hdrLen, r.1⟩] }
  | .decrypt arc4Fails skb hdrLen =>
    { s with data := (rtllibTkipDecrypt prim arc4Fails s.data skb hdrLen).2 }
  | .verify michaelFails forceMicError skb hdrLen =>
    { s with
      data := (rtllibMichaelMicVerify prim michaelFails forceMicError s.data skb hdrLen).2 }

def keyed (key : Nat → Byte) (seq : Option (Fin 6 → Byte)) (tkey : TkipData) : Context :=
  ⟨(rtllibTkipSetKey key 32 seq tkey).2, []⟩

variable {prim}

theorem txTsc_rxPhase1 (tkey : TkipData) (ta : Addr) (iv32 : BitVec 32) :
    (rxPhase1 tkey ta iv32).txTsc = tkey.txTsc := by
  unfold rxPhase1
  split <;> rfl

theorem txTsc_decrypt (arc4Fails : Bool) (tkey : TkipData) (skb : Skb) (hdrLen : Nat) :
    (rtllibTkipDecrypt prim arc4Fails tkey skb hdrLen).2.txTsc = tkey.txTsc := by
  have hphase : (rxPhase1 { tkey with initialized := true } skb.addr2
      (rxFrameIv32 skb hdrLen)).txTsc = tkey.txTsc := txTsc_rxPhase1 _ _ _
  unfold rtllibTkipDecrypt tkipAccept
  simp only
  generalize rxPhase1 _ _ _ = t at hphase ⊢
  split
  · rfl
  split
  · rfl
  split
  · rfl
  split
  · rfl
  split
  · split
    · rfl
    split
    · exact hphase
    split
    · exact hphase
    · exact hphase
  · rfl

theorem txTsc_verify (michaelFails forceMicError : Bool) (tkey : TkipData) (skb : Skb)
    (hdrLen : Nat) :
    (rtllibMichaelMicVerify prim michaelFails forceMicError tkey skb hdrLen).2.txTsc =
      tkey.txTsc := by
  unfold rtllibMichaelMicVerify
  simp only
  split_ifs <;> rfl

theorem iv_encrypt {arc4Fails : Bool} {tkey : TkipData} {skb frame : Skb} {hdrLen : Nat}
    (h : (rtllibTkipEncrypt prim arc4Fails tkey skb hdrLen).1 = some frame) :
    rxFrameIv32 frame hdrLen = tkey.txIv32 ∧ rxFrameIv16 frame hdrLen = tkey.txIv16 := by
  -- What goes out carries the pair.
  unfold rtllibTkipEncrypt at h
  by_cases hroom : skb.headroom < 8 ∨ skb.tailroom < 4 ∨ skb.len < hdrLen
  · rw [if_pos hroom] at h
    cases h
  · rw [if_neg hroom] at h
    have hfits : hdrLen ≤ skb.len := by omega
    -- The phase 1 result is all that the first branch changes.
    obtain ⟨t, ht, h32, h16⟩ : ∃ t : TkipData,
        (if skb.bHwSec = false ∧ tkey.txPhase1Done = false then
          { tkey with
            txTtak := tkipMixingPhase1 tkey.key skb.addr2 tkey.txIv32, txPhase1Done := true }
        else { tkey with txPhase1Done := true }) = t ∧
        t.txIv32 = tkey.txIv32 ∧ t.txIv16 = tkey.txIv16 := by
      split
      · exact ⟨_, rfl, rfl, rfl⟩
      · exact ⟨_, rfl, rfl, rfl⟩
    simp only [ht, Skb.pushIv_bHwSec] at h
    rw [← h32, ← h16]
    by_cases hfails : skb.bHwSec = false ∧ arc4Fails = true
    · rw [if_pos hfails] at h
      cases h
    · rw [if_neg hfails] at h
      cases hsec : skb.bHwSec with
      | true =>
        simp only [hsec, if_true, Option.some.injEq] at h
        subst h
        exact iv_of_header fun j hj => Skb.byte_pushIv_iv hfits hj
      | false =>
        simp only [hsec, Bool.false_eq_true, if_false, Option.some.injEq] at h
        subst h
        apply iv_of_header
        intro j hj
        exact (congrArg (fun f => Skb.byte f _) (Skb.setFrom_put_pushIv hfits _)).trans
          (Skb.byte_sealed_iv hfits hj)

/-- The pairs so far are the numbers from 1 on. -/
structure Numbered (s : Context) : Prop where
  next : s.data.txTsc = (s.sent.length + 1) % pnCount
  numbers : s.sent.map (fun f => tsc f.iv32 f.iv16) =
    (List.range s.sent.length).map fun i => (i + 1) % pnCount
  carried : ∀ f ∈ s.sent, ∀ frame, f.frame = some frame →
    rxFrameIv32 frame f.hdrLen = f.iv32 ∧ rxFrameIv16 frame f.hdrLen = f.iv16

theorem numbered_keyed (k : Nat → Byte) (seq : Option (Fin 6 → Byte)) (tkey : TkipData) :
    Numbered (keyed k seq tkey) where
  next := by
    unfold keyed
    exact (setKey_eq k 32 seq tkey).2
  numbers := rfl
  carried _ hf := by cases hf

theorem numbered_callStep {s : Context} (h : Numbered s) (c : Call) :
    Numbered (callStep prim s c) := by
  cases c with
  | decrypt arc4Fails skb hdrLen =>
    unfold callStep
    exact ⟨(txTsc_decrypt _ _ _ _).trans h.next, h.numbers, h.carried⟩
  | verify michaelFails forceMicError skb hdrLen =>
    unfold callStep
    exact ⟨(txTsc_verify _ _ _ _ _).trans h.next, h.numbers, h.carried⟩
  | encrypt arc4Fails skb hdrLen =>
    unfold callStep
    by_cases hroom : skb.headroom < 8 ∨ skb.tailroom < 4 ∨ skb.len < hdrLen
    · simp only [if_pos hroom, refused_eq prim arc4Fails s.data skb hdrLen hroom]
      exact h
    · simp only [if_neg hroom]
      refine ⟨?_, ?_, ?_⟩
      · rw [tsc_encrypt prim arc4Fails s.data skb hdrLen hroom, h.next, Nat.mod_add_mod,
          List.length_append]
        rfl
      · have htsc : tsc s.data.txIv32 s.data.txIv16 = (s.sent.length + 1) % pnCount := h.next
        simp only [List.map_append, List.map_cons, List.map_nil, h.numbers, List.length_append,
          List.length_singleton, List.range_succ, htsc]
      · intro f hf frame hframe
        rcases List.mem_append.mp hf with hf | hf
        · exact h.carried f hf frame hframe
        · obtain rfl := List.mem_singleton.mp hf
          exact iv_encrypt hframe

theorem numbered_exec (k : Nat → Byte) (seq : Option (Fin 6 → Byte)) (tkey : TkipData)
    (calls : List Call) : Numbered (exec (callStep prim) (keyed k seq tkey) calls) :=
  exec_inv (C := fun _ _ => True) (I := Numbered) (fun _ c hs _ => numbered_callStep hs c)
    (numbered_keyed k seq tkey) (meets_of_forall fun _ _ => trivial)

end Tkip

theorem numbers_eq {n : Nat} (h : n < pnCount) :
    ((List.range n).map fun i => (i + 1) % pnCount) = List.range' 1 n := by
  rw [List.range'_eq_map_range]
  apply List.map_congr_left
  intro i hi
  have hin := List.mem_range.mp hi
  rw [Nat.mod_eq_of_lt (by omega), Nat.add_comm]

/-- From a call of `set_key` on, fewer than 2^48 frames have the numbers 1, 2, 3 and so on. With
CCMP all counter blocks of the frames differ. -/
theorem counters_never_repeat (aes : Ccmp.Key → Ccmp.Block → Ccmp.Block) (prim : Tkip.Primitives)
    (k : Nat → Byte) (seq : Option (Fin 6 → Byte)) :
    (∀ (data : Ccmp.CcmpData) (calls : List Ccmp.Call),
      let s := exec (Ccmp.callStep aes) (Ccmp.keyed k seq data) calls
      s.sent.length < 2 ^ 48 →
        (s.sent.map fun f => Digits.value f.pn) = List.range' 1 s.sent.length ∧
        ((∀ f ∈ s.sent, f.blocks < 2 ^ 16) → (s.sent.flatMap Ccmp.Sent.counters).Nodup)) ∧
    ∀ (tkey : Tkip.TkipData) (calls : List Tkip.Call),
      let s := exec (Tkip.callStep prim) (Tkip.keyed k seq tkey) calls
      s.sent.length < 2 ^ 48 →
        (s.sent.map fun f => Tkip.tsc f.iv32 f.iv16) = List.range' 1 s.sent.length ∧
        ∀ f ∈ s.sent, ∀ frame, f.frame = some frame →
          Tkip.rxFrameIv32 frame f.hdrLen = f.iv32 ∧ Tkip.rxFrameIv16 frame f.hdrLen = f.iv16 := by
  constructor
  · intro data calls s hlt
    have hs : Ccmp.Numbered s := Ccmp.numbered_exec k seq data calls
    have hnumbers := hs.numbers.trans (numbers_eq hlt)
    refine ⟨hnumbers, hs.nodup_flatMap ?_⟩
    rw [hnumbers]
    exact List.nodup_range'
  · intro tkey calls s hlt
    have hs : Tkip.Numbered s := Tkip.numbered_exec k seq tkey calls
    exact ⟨hs.numbers.trans (numbers_eq hlt), hs.carried⟩

/-- A frame for the software and one for the hardware, and a received frame in between. -/
def mixedCalls : List Ccmp.Call :=
  [.encrypt simpleFrame 24, .decrypt simpleFrame 24, .encrypt { simpleFrame with bHwSec := true } 24]

def failingCalls : List Tkip.Call :=
  [.encrypt true simpleFrame 24, .decrypt false simpleFrame 24, .encrypt false simpleFrame 24]

theorem counters_never_repeat_two :
    (let s := exec (Ccmp.callStep fun _ b => b) (Ccmp.keyed (fun _ => 1) none freshCcmp) mixedCalls;
      s.sent.length = 2 ∧ (s.sent.map fun f => Digits.value f.pn) = List.range' 1 s.sent.length ∧
        (s.sent.flatMap Ccmp.Sent.counters).Nodup) ∧
    let s := exec (Tkip.callStep simplePrimitives)
      (Tkip.keyed (fun _ => 1) none (freshTkip fun _ => 0)) failingCalls
    s.sent.length = 2 ∧
      (s.sent.map fun f => Tkip.tsc f.iv32 f.iv16) = List.range' 1 s.sent.length := by
  obtain ⟨hccmp, htkip⟩ :=
    counters_never_repeat (fun _ b => b) simplePrimitives (fun _ => 1) none
  obtain ⟨hnumbers, hnodup⟩ := hccmp freshCcmp mixedCalls (by decide +kernel)
  exact ⟨⟨by decide +kernel, hnumbers, hnodup (by decide +kernel)⟩, by decide +kernel,
    (htkip (freshTkip fun _ => 0) failingCalls (by decide +kernel)).1⟩

end Rtl8190.Crypt
