import Rtl8190.Crypt.CcmpReplay
import Rtl8190.Crypt.Nonces
import Rtl8190.Crypt.RoundTrip

/-!
# Two contexts of one key

A sender seals frames one after the other, and the receiver opens each of them, as long as the
counter of the sender does not come to its end.
-/

open Rtl8190.Memory Rtl8190.Rx

namespace Rtl8190.Crypt

def onAir (data : List Byte) : Skb := ⟨0, data, 0, false, 0⟩

/-- The frame in a buffer with this room, and no more -/
def Skb.within (skb : Skb) (head tail : Nat) : Skb := ⟨head, skb.data, tail, false, 0⟩

section Ready

variable {skb : Skb} {hdrLen head tail : Nat}

theorem Ready.within (h : Ready skb hdrLen head tail) :
    Ready (skb.within head tail) hdrLen head tail :=
  ⟨h.three, h.four, h.fits, rfl, le_rfl, le_rfl⟩

theorem Ready.room (h : Ready skb hdrLen head tail) :
    ¬ (skb.headroom < head ∨ skb.tailroom < tail ∨ skb.len < hdrLen) := by
  have h1 := h.headroom
  have h2 := h.tailroom
  have h3 := h.fits
  omega

end Ready

/-! ## WEP -/

namespace Wep

open Tkip (Primitives)

variable {prim : Primitives} {wep rwep : WepData} {skb : Skb} {hdrLen : Nat}

theorem Agree.encrypt (h : Agree wep rwep) (skb : Skb) (hdrLen : Nat) :
    Agree (prism2WepEncrypt prim false wep skb hdrLen).2 rwep := by
  have hkeep : (prism2WepEncrypt prim false wep skb hdrLen).2.keyIdx = wep.keyIdx ∧
      (prism2WepEncrypt prim false wep skb hdrLen).2.key = wep.key := by
    unfold prism2WepEncrypt
    simp only
    split_ifs <;> exact ⟨rfl, rfl⟩
  exact ⟨by rw [hkeep.1]; exact h.index, by rw [hkeep.1]; exact h.sameIndex,
    by rw [hkeep.2]; exact h.sameKey⟩

theorem decrypt_onAir (harc4 : StreamCipher prim.arc4) (hready : Ready skb hdrLen 4 4)
    (h : Agree wep rwep) :
    prism2WepDecrypt prim false rwep (onAir (sealedFrame prim wep skb hdrLen).data) hdrLen =
      .ok (skb.within 4 4) :=
  decrypt_sealedFrame harc4 hready.within h

end Wep

/-! ## TKIP -/

namespace Tkip

/-- The receiver can take the next `n` frames of the transmitter `ta`. Its own cache need only hold
what it is taken for as long as the sender has not left the `iv32` of the last MSDU. -/
structure InStep (ta : Addr) (n : Nat) (tkey rkey : TkipData) : Prop where
  index : tkey.keyIdx.toNat < 4
  sameIndex : rkey.keyIdx = tkey.keyIdx
  keySet : rkey.keySet = true
  temporal : SameTemporal rkey.key tkey.key
  newer : rkey.rxTsc < tkey.txTsc
  lasts : tkey.txTsc + n < pnCount
  txCoherent : tkey.txPhase1Done = true → tkey.txTtak = tkipMixingPhase1 tkey.key ta tkey.txIv32
  rxCoherent : rkey.rxIv32 = tkey.txIv32 → rkey.rxPhase1Done = true →
    rkey.rxTtak = tkipMixingPhase1 rkey.key ta rkey.rxIv32

variable {prim : Primitives} {tkey rkey rkey' : TkipData} {skb : Skb} {hdrLen n : Nat} {ta : Addr}

theorem InStep.meets (h : InStep ta n tkey rkey) : Meets ta tkey rkey where
  index := h.index
  sameIndex := h.sameIndex
  keySet := h.keySet
  temporal := h.temporal
  newer := h.newer
  rxTtak := by
    unfold rxPhase1
    by_cases hnew : tkey.txIv32 ≠ rkey.rxIv32 ∨ rkey.rxPhase1Done = false
    · rw [if_pos hnew]
    · rw [if_neg hnew]
      rw [not_or, not_not, Bool.not_eq_false] at hnew
      rw [h.rxCoherent hnew.1.symm hnew.2, hnew.1]

variable (prim) in
theorem encrypt_keyIdx (arc4Fails : Bool) (tkey : TkipData) (skb : Skb) (hdrLen : Nat) :
    (rtllibTkipEncrypt prim arc4Fails tkey skb hdrLen).2.keyIdx = tkey.keyIdx := by
  unfold rtllibTkipEncrypt
  simp only
  split_ifs <;> rfl

theorem decrypt_onAir (harc4 : StreamCipher prim.arc4) (hready : Ready skb hdrLen 8 4)
    (h : Meets skb.addr2 tkey rkey) :
    ∃ keyidx rkey', rtllibTkipDecrypt prim false rkey
        (onAir (sealedFrame prim tkey skb hdrLen).data) hdrLen =
      (.ok (keyidx, skb.within 8 4), rkey') ∧
        Kept rkey (received prim tkey (skb.within 8 4) hdrLen) rkey' ∧
        CacheStep prim rkey (received prim tkey (skb.within 8 4) hdrLen) rkey' :=
  decrypt_sealedFrame harc4 hready.within h

theorem not_left {tkey' : TkipData} (hnewer : rkey.rxTsc < tkey.txTsc)
    (hnext : tkey'.txTsc = tkey.txTsc + 1) (h : rkey.rxIv32 = tkey'.txIv32) :
    rkey.rxIv32 = tkey.txIv32 := by
  have h16 := tkey.txIv16.isLt
  have h16' := tkey'.txIv16.isLt
  have heq := congrArg BitVec.toNat h
  apply BitVec.eq_of_toNat_eq
  unfold TkipData.txTsc at *
  unfold TkipData.rxTsc tsc at hnewer
  omega

theorem InStep.next (h : InStep skb.addr2 (n + 1) tkey rkey) (harc4 : StreamCipher prim.arc4)
    (hready : Ready skb hdrLen 8 4)
    (kept : Kept rkey (received prim tkey (skb.within 8 4) hdrLen) rkey')
    (cache : CacheStep prim rkey (received prim tkey (skb.within 8 4) hdrLen) rkey') :
    InStep skb.addr2 n (rtllibTkipEncrypt prim false tkey skb hdrLen).2 rkey' := by
  have hready' := hready.within
  obtain ⟨hkey, -, -, -⟩ := encrypt_rx prim false tkey skb hdrLen
  have hidx := encrypt_keyIdx prim false tkey skb hdrLen
  have htsc : (rtllibTkipEncrypt prim false tkey skb hdrLen).2.txTsc = tkey.txTsc + 1 := by
    rw [tsc_encrypt prim false tkey skb hdrLen hready.room]
    apply Nat.mod_eq_of_lt
    have := h.lasts
    omega
  have hrx : rkey'.rxTsc = rkey.rxTsc := by
    unfold TkipData.rxTsc
    rw [kept.rxIv32, kept.rxIv16]
  have hreach : Reaches rkey (received prim tkey (skb.within 8 4) hdrLen) :=
    ⟨headerOk_received harc4 hready' h.meets, rfl, fresh_received hready' h.meets⟩
  constructor
  · rw [hidx]
    exact h.index
  · rw [kept.keyIdx, hidx, h.sameIndex]
  · rw [kept.keySet, h.keySet]
  · rw [kept.key, hkey]
    exact h.temporal
  · rw [hrx, htsc]
    exact h.newer.trans (Nat.lt_succ_self _)
  · have hlasts := h.lasts
    rw [htsc]
    omega
  · intro hdone
    have hroom : encrypts skb hdrLen := hready.room
    obtain ⟨-, hiv32, httak⟩ := encrypt_tx prim false tkey hroom hdone
    rw [httak, hkey, hiv32]
    by_cases hfirst : skb.bHwSec = false ∧ tkey.txPhase1Done = false
    · rw [if_pos hfirst]
    · rw [if_neg hfirst]
      rw [not_and, Bool.not_eq_false] at hfirst
      exact h.txCoherent (hfirst hready.software)
  · intro hsame _
    rw [kept.rxIv32] at hsame ⊢
    have hstays := not_left h.newer htsc hsame
    have hiv32 : (received prim tkey (skb.within 8 4) hdrLen).iv32 = tkey.txIv32 :=
      iv32_sealedFrame hready'
    have hta : (received prim tkey (skb.within 8 4) hdrLen).skb.addr2 = skb.addr2 :=
      addr2_sealedFrame hready'
    rw [cache.ttak hreach, hta, hiv32, h.meets.rxTtak, kept.key, hstays]

end Tkip

/-! ## CCMP -/

namespace Ccmp

/-- The receiver can take the next `n` frames. -/
structure InStep (n : Nat) (key rkey : CcmpData) : Prop where
  index : key.keyIdx.toNat < 4
  sameIndex : rkey.keyIdx = key.keyIdx
  keySet : rkey.keySet = true
  sameKey : rkey.tfm = key.tfm
  txPn : key.txPn.length = 6
  rxPn : rkey.rxPn.length = 6
  newer : Digits.value rkey.rxPn ≤ Digits.value key.txPn
  lasts : Digits.value key.txPn + n < pnCount

variable {aes : Key → Block → Block} {key rkey : CcmpData} {skb : Skb} {hdrLen n : Nat}

theorem InStep.value_nextPn (h : InStep (n + 1) key rkey) :
    Digits.value (nextPn key) = Digits.value key.txPn + 1 := by
  unfold nextPn
  rw [value_increment_mod h.txPn]
  apply Nat.mod_eq_of_lt
  have := h.lasts
  omega

theorem InStep.agree (h : InStep (n + 1) key rkey) : Agree key rkey where
  index := h.index
  sameIndex := h.sameIndex
  keySet := h.keySet
  sameKey := h.sameKey
  txPn := h.txPn
  rxPn := h.rxPn
  newer := by
    have hnext := h.value_nextPn
    have hnewer := h.newer
    unfold nextPn at hnext
    omega

theorem decrypt_onAir (hready : Ready skb hdrLen 8 8) (h : Agree key rkey) :
    rtllibCcmpDecrypt aes rkey (onAir (sealedFrame aes key skb hdrLen).data) hdrLen =
      (.ok (key.keyIdx, skb.within 8 8), { rkey with rxPn := nextPn key }) := by
  have hfirst : (rtllibCcmpDecrypt aes rkey (onAir (sealedFrame aes key skb hdrLen).data)
      hdrLen).1 = .ok (key.keyIdx, skb.within 8 8) := decrypt_sealedFrame hready.within h
  have hpn : rxFramePn (sealedFrame aes key (skb.within 8 8) hdrLen) hdrLen = nextPn key :=
    pn_sealedFrame hready.within h.txPn
  rcases decrypt_cases aes rkey ⟨onAir (sealedFrame aes key skb hdrLen).data, hdrLen⟩ with
    ⟨rc, rkey', herror, -⟩ | ⟨-, out, hok⟩
  · simp only at herror
    rw [herror] at hfirst
    cases hfirst
  · simp only at hok
    rw [hok] at hfirst ⊢
    have hfirst' : out = (key.keyIdx, skb.within 8 8) := Except.ok.inj hfirst
    have hkept : (if (onAir (sealedFrame aes key skb hdrLen).data).bHwSec = true then rkey
        else { rkey with rxPn := rxFramePn (sealedFrame aes key (skb.within 8 8) hdrLen) hdrLen }) =
        { rkey with rxPn := nextPn key } := by
      rw [hpn]
      exact if_neg Bool.false_ne_true
    rw [hfirst']
    exact congrArg _ hkept

theorem InStep.next (h : InStep (n + 1) key rkey) (hready : Ready skb hdrLen 8 8) :
    InStep n (rtllibCcmpEncrypt aes key skb hdrLen).2 { rkey with rxPn := nextPn key } := by
  have hnext := h.value_nextPn
  have hlasts := h.lasts
  have hlen : (nextPn key).length = 6 := (Digits.length_increment _).trans h.txPn
  have hkey : (rtllibCcmpEncrypt aes key skb hdrLen).2 = { key with txPn := nextPn key } := by
    rcases encrypt_cases aes key skb hdrLen with ⟨hno, -⟩ | ⟨-, out, heq⟩
    · exact absurd hno hready.room
    · rw [heq]
      rfl
  rw [hkey]
  refine ⟨h.index, h.sameIndex, h.keySet, h.sameKey, hlen, hlen, le_rfl, ?_⟩
  show Digits.value (nextPn key) + n < pnCount
  omega

end Ccmp

end Rtl8190.Crypt
