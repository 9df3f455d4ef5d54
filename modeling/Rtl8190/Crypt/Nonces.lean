import Rtl8190.Crypt.Ccmp
import Rtl8190.Crypt.Tkip
import Rtl8190.Lib.Nonce

/-!
# The numbers of sent frames

A context of CCMP or TKIP gets keys and encrypts frames. `set_key` clears the whole context, and so
the counter starts again, whichever key it is given.
-/

open Rtl8190.Memory Rtl8190.Nonce Rtl8190.Run

namespace Rtl8190.Crypt

def pnCount : Nat := 2 ^ 48

theorem pnCount_pos : 0 < pnCount := Nat.two_pow_pos 48

/-- The temporal key: of a key for TKIP the first 16 bytes, which are those that are mixed. -/
abbrev TemporalKey := Fin 16 → Byte

/-- A context, and what it has done. -/
structure Sender (δ : Type) where
  data : δ
  history : History TemporalKey

inductive SenderEvent where
  | setKey (key : Nat → Byte) (len : Int) (seq : Option (Fin 6 → Byte))
  | encrypt (arc4Fails : Bool) (skb : Skb) (hdrLen : Nat)

/-- A frame was encrypted with the packet number `n`. -/
def Sender.sent {δ : Type} (s : Sender δ) (data : δ) (n : Nat) : Sender δ :=
  { data
    history :=
      { s.history with
        now := { s.history.now with count := s.history.now.count + 1 }
        used := s.history.now.key.elim s.history.used fun k => (k, n) :: s.history.used } }

def Sender.keyed {δ : Type} (s : Sender δ) (data : δ) (key : Option TemporalKey) (first : Nat) :
    Sender δ :=
  { data, history := s.history.step pnCount (.rekey key first) }

/-- The step is the operation `o` on the history, if the number is the next one. -/
theorem Sender.history_sent {δ : Type} (s : Sender δ) (data : δ) {n : Nat}
    (hn : n = s.history.now.next pnCount) :
    (s.sent data n).history = s.history.step pnCount .message := by
  unfold Sender.sent History.step
  rw [hn]

namespace Ccmp

def rtllibCcmpInit (keyIdx : Byte) (tfm : Key) : CcmpData :=
  ⟨fun _ => 0, false, List.replicate 6 0, List.replicate 6 0, 0, 0, 0, keyIdx, tfm⟩

def senderInit (keyIdx : Byte) (tfm : Key) : Sender CcmpData where
  data := rtllibCcmpInit keyIdx tfm
  history := ⟨⟨none, 1, 0⟩, [], []⟩

/-- What the event is for the history. A call of `set_key` that is given no key of 16 bytes leaves
`tfm` its key. -/
def senderOp (s : Sender CcmpData) : SenderEvent → Op TemporalKey
  | .setKey key len _ => .rekey (if len = 16 then some fun i => key i else s.history.now.key) 1
  | .encrypt _ skb hdrLen =>
    if skb.headroom < 8 ∨ skb.tailroom < 8 ∨ skb.len < hdrLen then .idle else .message

variable (aes : Key → Block → Block)

def senderStep (s : Sender CcmpData) : SenderEvent → Sender CcmpData
  | .setKey key len seq =>
    let data := (rtllibCcmpSetKey key len seq s.data).2
    s.keyed data (if len = 16 then some data.tfm else s.history.now.key) 1
  | .encrypt _ skb hdrLen =>
    match rtllibCcmpEncrypt aes s.data skb hdrLen with
    | (none, data) => { s with data }
    | (some _, data) => s.sent data (Digits.value data.txPn)

/-- The counter is one behind the next number. -/
structure Counts (s : Sender CcmpData) : Prop where
  length : s.data.txPn.length = 6
  next : (Digits.value s.data.txPn + 1) % pnCount = s.history.now.next pnCount

theorem value_increment_mod {pn : List Byte} (hlen : pn.length = 6) :
    Digits.value (Digits.increment pn).1 = (Digits.value pn + 1) % pnCount := by
  have hval := Digits.value_increment pn
  have hlt := Digits.value_lt (Digits.increment pn).1
  rw [Digits.length_increment, hlen] at hlt
  rw [hlen] at hval
  have hcount : 2 ^ (8 * 6) = pnCount := rfl
  rw [hcount] at hlt hval
  rw [← hval]
  split
  · rw [Nat.add_mod_right, Nat.mod_eq_of_lt hlt]
  · rw [Nat.add_zero, Nat.mod_eq_of_lt hlt]

theorem txPn_setKey (key : Nat → Byte) (len : Int) (seq : Option (Fin 6 → Byte)) (data : CcmpData) :
    (rtllibCcmpSetKey key len seq data).2.txPn = List.replicate 6 0 := by
  unfold rtllibCcmpSetKey
  split_ifs <;> rfl

theorem tfm_setKey (key : Nat → Byte) (seq : Option (Fin 6 → Byte)) (data : CcmpData) :
    (rtllibCcmpSetKey key 16 seq data).2.tfm = fun i : Fin 16 => key i := by
  unfold rtllibCcmpSetKey
  rfl

theorem encrypt_cases (data : CcmpData) (skb : Skb) (hdrLen : Nat) :
    ((skb.headroom < 8 ∨ skb.tailroom < 8 ∨ skb.len < hdrLen) ∧
      rtllibCcmpEncrypt aes data skb hdrLen = (none, data)) ∨
    (¬ (skb.headroom < 8 ∨ skb.tailroom < 8 ∨ skb.len < hdrLen) ∧ ∃ out,
      rtllibCcmpEncrypt aes data skb hdrLen =
        (some out, { data with txPn := (Digits.increment data.txPn).1 })) := by
  unfold rtllibCcmpEncrypt
  by_cases hroom : skb.headroom < 8 ∨ skb.tailroom < 8 ∨ skb.len < hdrLen
  · rw [if_pos hroom]
    exact .inl ⟨hroom, rfl⟩
  · rw [if_neg hroom]
    refine .inr ⟨hroom, ?_⟩
    simp only
    split
    · exact ⟨_, rfl⟩
    · exact ⟨_, rfl⟩

theorem counts_init (keyIdx : Byte) (tfm : Key) : Counts (senderInit keyIdx tfm) :=
  ⟨rfl, rfl⟩

theorem history_step {s : Sender CcmpData} (h : Counts s) (e : SenderEvent) :
    (senderStep aes s e).history = s.history.step pnCount (senderOp s e) := by
  cases e with
  | setKey key len seq =>
    unfold senderStep senderOp Sender.keyed
    by_cases hlen : len = 16
    · subst hlen
      simp only [tfm_setKey]
    · simp only [if_neg hlen]
  | encrypt arc4Fails skb hdrLen =>
    rcases encrypt_cases aes s.data skb hdrLen with ⟨hroom, heq⟩ | ⟨hroom, out, heq⟩
    · simp only [senderStep, senderOp, heq, if_pos hroom]
      rfl
    · simp only [senderStep, senderOp, heq, if_neg hroom]
      apply Sender.history_sent
      rw [← h.next, value_increment_mod h.length]

theorem counts_step {s : Sender CcmpData} (h : Counts s) (e : SenderEvent) :
    Counts (senderStep aes s e) := by
  cases e with
  | setKey key len seq =>
    unfold senderStep Sender.keyed
    refine ⟨?_, ?_⟩ <;> simp only [txPn_setKey]
    · rfl
    · rfl
  | encrypt arc4Fails skb hdrLen =>
    rcases encrypt_cases aes s.data skb hdrLen with ⟨_, heq⟩ | ⟨_, out, heq⟩
    · simp only [senderStep, heq]
      exact ⟨h.length, h.next⟩
    · simp only [senderStep, heq]
      refine ⟨(Digits.length_increment _).trans h.length, ?_⟩
      unfold Sender.sent
      simp only [value_increment_mod h.length, h.next]
      exact s.history.now.next_succ.symm

end Ccmp

namespace Tkip

def rtllibTkipInit (keyIdx : Byte) : TkipData :=
  ⟨fun _ => 0, false, 0, 0, ⟨0, 0, 0, 0, 0⟩, false, 0, 0, false, ⟨0, 0, 0, 0, 0⟩, false, 0, 0, 0, 0, 0,
    keyIdx⟩

def TkipData.temporalKey (tkey : TkipData) : TemporalKey := fun i => tkey.key (i.castLE (by decide))

/-- The number of the next frame. -/
def TkipData.txTsc (tkey : TkipData) : Nat := tkey.txIv32.toNat * 2 ^ 16 + tkey.txIv16.toNat

def senderInit (keyIdx : Byte) : Sender TkipData where
  data := rtllibTkipInit keyIdx
  history := ⟨⟨some fun _ => 0, 0, 0⟩, [], []⟩

/-- What the event is for the history. Frames are encrypted even without a key: then the key is 0,
and the numbers begin with 0. -/
def senderOp : SenderEvent → Op TemporalKey
  | .setKey key len _ =>
    if len = 32 then .rekey (some fun i => key i) 1 else .rekey (some fun _ => 0) 0
  | .encrypt _ skb hdrLen =>
    if skb.headroom < 8 ∨ skb.tailroom < 4 ∨ skb.len < hdrLen then .idle else .message

variable (prim : Primitives)

def senderStep (s : Sender TkipData) : SenderEvent → Sender TkipData
  | .setKey key len seq =>
    let data := (rtllibTkipSetKey key len seq s.data).2
    s.keyed data (some data.temporalKey) data.txTsc
  | .encrypt arc4Fails skb hdrLen =>
    let data := (rtllibTkipEncrypt prim arc4Fails s.data skb hdrLen).2
    if skb.headroom < 8 ∨ skb.tailroom < 4 ∨ skb.len < hdrLen then { s with data }
    -- A frame for which RC4 fails after that has still been given its number.
    else s.sent data s.data.txTsc

/-- The counter is the next number. -/
def Counts (s : Sender TkipData) : Prop := s.data.txTsc = s.history.now.next pnCount

theorem counts_init (keyIdx : Byte) : Counts (senderInit keyIdx) := by
  unfold Counts TkipData.txTsc Life.next
  simp [senderInit, rtllibTkipInit]

theorem setKey_eq (key : Nat → Byte) (len : Int) (seq : Option (Fin 6 → Byte)) (tkey : TkipData) :
    let data := (rtllibTkipSetKey key len seq tkey).2
    data.temporalKey = (if len = 32 then (fun i : Fin 16 => key i) else fun _ => 0) ∧
      data.txTsc = if len = 32 then 1 else 0 := by
  unfold rtllibTkipSetKey TkipData.txTsc
  split_ifs
  · cases seq
    · exact ⟨rfl, by simp⟩
    · exact ⟨rfl, by simp⟩
  · exact ⟨rfl, by simp⟩
  · exact ⟨rfl, by simp⟩

theorem tsc_lt (tkey : TkipData) : tkey.txTsc < pnCount := by
  have h32 := tkey.txIv32.isLt
  have h16 := tkey.txIv16.isLt
  unfold TkipData.txTsc pnCount
  omega

theorem carry_eq {hi lo : Nat} (hhi : hi < 2 ^ 32) (hlo : lo + 1 = 2 ^ 16) :
    (if hi + 1 = 2 ^ 32 then 0 else hi + 1) * 2 ^ 16 + 0 = (hi * 2 ^ 16 + lo + 1) % 2 ^ 48 := by
  split
  · omega
  · omega

theorem tsc_encrypt (arc4Fails : Bool) (tkey : TkipData) (skb : Skb) (hdrLen : Nat)
    (hroom : ¬ (skb.headroom < 8 ∨ skb.tailroom < 4 ∨ skb.len < hdrLen)) :
    (rtllibTkipEncrypt prim arc4Fails tkey skb hdrLen).2.txTsc = (tkey.txTsc + 1) % pnCount := by
  have h32 := tkey.txIv32.isLt
  have h16 := tkey.txIv16.isLt
  have hcarry : tkey.txIv16 + 1 = 0 ↔ tkey.txIv16.toNat + 1 = 2 ^ 16 := Digits.add_one_eq_zero_iff _
  unfold rtllibTkipEncrypt
  rw [if_neg hroom]
  have hboth : ∀ t : TkipData, t.txIv32 = tkey.txIv32 → t.txIv16 = tkey.txIv16 →
      TkipData.txTsc (if t.txIv16 + 1 = 0 then
          { t with txIv16 := t.txIv16 + 1, txPhase1Done := false, txIv32 := t.txIv32 + 1 }
        else { t with txIv16 := t.txIv16 + 1 }) = (tkey.txTsc + 1) % pnCount := by
    intro t ht32 ht16
    rw [ht16, ht32]
    unfold TkipData.txTsc pnCount
    by_cases hover : tkey.txIv16 + 1 = 0
    · rw [if_pos hover, Digits.toNat_add_one, Digits.toNat_add_one, if_pos (hcarry.mp hover)]
      exact carry_eq h32 (hcarry.mp hover)
    · rw [if_neg hover]
      have hlt : ¬ tkey.txIv16.toNat + 1 = 2 ^ 16 := fun h => hover (hcarry.mpr h)
      simp only [Digits.toNat_add_one, if_neg hlt]
      omega
  by_cases hphase : skb.bHwSec = false ∧ tkey.txPhase1Done = false
  · simp only [if_pos hphase]
    exact hboth { tkey with
      txTtak := tkipMixingPhase1 tkey.key skb.addr2 tkey.txIv32, txPhase1Done := true } rfl rfl
  · simp only [if_neg hphase]
    exact hboth { tkey with txPhase1Done := true } rfl rfl

theorem refused_eq (arc4Fails : Bool) (tkey : TkipData) (skb : Skb) (hdrLen : Nat)
    (hroom : skb.headroom < 8 ∨ skb.tailroom < 4 ∨ skb.len < hdrLen) :
    (rtllibTkipEncrypt prim arc4Fails tkey skb hdrLen).2 = tkey := by
  unfold rtllibTkipEncrypt
  rw [if_pos hroom]

theorem history_step {s : Sender TkipData} (h : Counts s) (e : SenderEvent) :
    (senderStep prim s e).history = s.history.step pnCount (senderOp e) := by
  cases e with
  | setKey key len seq =>
    unfold senderStep senderOp Sender.keyed
    obtain ⟨hkey, htsc⟩ := setKey_eq key len seq s.data
    simp only [hkey, htsc]
    split <;> rfl
  | encrypt arc4Fails skb hdrLen =>
    unfold senderStep senderOp
    by_cases hroom : skb.headroom < 8 ∨ skb.tailroom < 4 ∨ skb.len < hdrLen
    · simp only [if_pos hroom]
      rfl
    · simp only [if_neg hroom]
      exact s.history_sent _ h

theorem counts_step {s : Sender TkipData} (h : Counts s) (e : SenderEvent) :
    Counts (senderStep prim s e) := by
  cases e with
  | setKey key len seq =>
    unfold senderStep Sender.keyed Counts Life.next
    simp only [History.step, Nat.add_zero]
    exact (Nat.mod_eq_of_lt (tsc_lt _)).symm
  | encrypt arc4Fails skb hdrLen =>
    unfold senderStep
    by_cases hroom : skb.headroom < 8 ∨ skb.tailroom < 4 ∨ skb.len < hdrLen
    · simp only [if_pos hroom, refused_eq prim arc4Fails s.data skb hdrLen hroom]
      exact h
    · simp only [if_neg hroom]
      unfold Counts at h ⊢
      unfold Sender.sent
      simp only [tsc_encrypt prim arc4Fails s.data skb hdrLen hroom, h]
      exact s.history.now.next_succ.symm

end Tkip

/-- The numbers that one context takes under one key differ exactly when every frame is fresh: it is
not more than the 2^48th since the last call of `set_key`, and no earlier call has put the same
temporal key in force and then had frames up to this frame's number. -/
theorem nonces_unique_iff (aes : Ccmp.Key → Ccmp.Block → Ccmp.Block) (prim : Tkip.Primitives)
    (keyIdx : Byte) (tfm : Ccmp.Key) (es : List SenderEvent) :
    ((exec (Ccmp.senderStep aes) (Ccmp.senderInit keyIdx tfm) es).history.used.Nodup ↔
      Meets (Ccmp.senderStep aes) (fun s e => s.history.Fresh pnCount (Ccmp.senderOp s e))
        (Ccmp.senderInit keyIdx tfm) es) ∧
    ((exec (Tkip.senderStep prim) (Tkip.senderInit keyIdx) es).history.used.Nodup ↔
      Meets (Tkip.senderStep prim) (fun s e => s.history.Fresh pnCount (Tkip.senderOp e))
        (Tkip.senderInit keyIdx) es) := by
  have hempty : ∀ first : Nat, ∀ key : Option TemporalKey,
      History.Inv pnCount ⟨⟨key, first, 0⟩, [], []⟩ := by
    intro first key k n
    simp [Life.Took]
  constructor
  · apply nodup_iff_fresh (I := Ccmp.Counts) pnCount_pos Sender.history Ccmp.senderOp
      (fun s e hs => Ccmp.counts_step aes hs e) (fun s e hs => Ccmp.history_step aes hs e)
    · exact Ccmp.counts_init keyIdx tfm
    · exact hempty 1 none
    · exact .nil
  · apply nodup_iff_fresh (I := Tkip.Counts) pnCount_pos Sender.history (fun _ => Tkip.senderOp)
      (fun s e hs => Tkip.counts_step prim hs e) (fun s e hs => Tkip.history_step prim hs e)
    · exact Tkip.counts_init keyIdx
    · exact hempty 0 _
    · exact .nil

/-- A key that is installed again, after a frame under it and before another one. -/
def reinstall (len : Int) : List SenderEvent :=
  let skb : Skb := ⟨8, List.replicate 24 0, 8, true, 0⟩
  [.setKey (fun _ => 1) len none, .encrypt false skb 24, .setKey (fun _ => 1) len none,
    .encrypt false skb 24]

/-- Either cipher gives both frames the same number. -/
theorem not_always_unique :
    (¬ ∀ (aes : Ccmp.Key → Ccmp.Block → Ccmp.Block) (keyIdx : Byte) (tfm : Ccmp.Key)
        (es : List SenderEvent),
        (exec (Ccmp.senderStep aes) (Ccmp.senderInit keyIdx tfm) es).history.used.Nodup) ∧
    ¬ ∀ (prim : Tkip.Primitives) (keyIdx : Byte) (es : List SenderEvent),
        (exec (Tkip.senderStep prim) (Tkip.senderInit keyIdx) es).history.used.Nodup := by
  constructor
  · intro h
    have := h (fun _ b => b) 0 (fun _ => 0) (reinstall 16)
    revert this
    decide +kernel
  · intro h
    have := h ⟨fun _ d => d, fun _ => 0, fun _ _ _ => 0⟩ 0 (reinstall 32)
    revert this
    decide +kernel

end Rtl8190.Crypt
