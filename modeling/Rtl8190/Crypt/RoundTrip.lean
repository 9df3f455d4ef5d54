import Mathlib.Data.List.GetD
import Rtl8190.Crypt.Ccmp
import Rtl8190.Crypt.TkipCache
import Rtl8190.Crypt.Wep

/-!
# What a cipher has sealed it opens

For each cipher in software: the frame that `decrypt_mpdu` makes of what `encrypt_mpdu` made of a
frame is that frame. The block cipher, RC4, CRC-32 and Michael are arbitrary functions; RC4 under
one key undoes itself.
-/

open Rtl8190.Memory Rtl8190.Rx

namespace Rtl8190.Crypt

/-! ## Sealed frames -/

/-- The frame with `iv` behind the header and `body` in place of the payload, of which the last `n`
bytes were put behind it. -/
def Skb.sealed (skb : Skb) (hdrLen : Nat) (iv body : List Byte) (n : Nat) : Skb :=
  { skb with
    headroom := skb.headroom - iv.length
    data := skb.data.take hdrLen ++ iv ++ body
    tailroom := skb.tailroom - n }

namespace Skb

variable {skb : Skb} {hdrLen : Nat} {iv body : List Byte} {n : Nat}

theorem pushIv_bHwSec : (skb.pushIv hdrLen iv).bHwSec = skb.bHwSec := rfl

theorem length_take_header (h : hdrLen ≤ skb.len) : (skb.data.take hdrLen).length = hdrLen :=
  List.length_take_of_le h

theorem setFrom_put_pushIv (h : hdrLen ≤ skb.len) (tail : List Byte) :
    ((skb.pushIv hdrLen iv).put tail).setFrom (hdrLen + iv.length) body =
      skb.sealed hdrLen iv body tail.length := by
  have hfront : (skb.data.take hdrLen ++ iv).length = hdrLen + iv.length := by
    rw [List.length_append, length_take_header h]
  simp only [pushIv, put, setFrom, sealed, List.append_assoc (skb.data.take hdrLen ++ iv)]
  rw [List.take_left' hfront]

theorem put_setFrom_pushIv (h : hdrLen ≤ skb.len) (tail : List Byte) :
    ((skb.pushIv hdrLen iv).setFrom (hdrLen + iv.length) body).put tail =
      skb.sealed hdrLen iv (body ++ tail) tail.length := by
  have hfront : (skb.data.take hdrLen ++ iv).length = hdrLen + iv.length := by
    rw [List.length_append, length_take_header h]
  simp only [pushIv, put, setFrom, sealed]
  rw [List.take_left' hfront, List.append_assoc]

theorem len_sealed (h : hdrLen ≤ skb.len) :
    (skb.sealed hdrLen iv body n).len = hdrLen + iv.length + body.length := by
  simp only [len, sealed, List.length_append, length_take_header h]

theorem byte_pushIv (h : hdrLen ≤ skb.len) {i : Nat} (hi : i < hdrLen + iv.length) :
    (skb.pushIv hdrLen iv).byte i = (skb.data.take hdrLen ++ iv).getD i 0 := by
  simp only [byte, pushIv]
  rw [List.getD_append]
  rw [List.length_append, length_take_header h]
  exact hi

theorem byte_pushIv_iv (h : hdrLen ≤ skb.len) {j : Nat} (hj : j < iv.length) :
    (skb.pushIv hdrLen iv).byte (hdrLen + j) = iv.getD j 0 := by
  rw [byte_pushIv h (by omega), List.getD_append_right _ _ _ _ (by rw [length_take_header h]; omega),
    length_take_header h, Nat.add_sub_cancel_left]

theorem byte_sealed (h : hdrLen ≤ skb.len) {i : Nat} (hi : i < hdrLen + iv.length) :
    (skb.sealed hdrLen iv body n).byte i = (skb.data.take hdrLen ++ iv).getD i 0 := by
  simp only [byte, sealed]
  rw [List.getD_append]
  rw [List.length_append, length_take_header h]
  exact hi

theorem byte_sealed_header (h : hdrLen ≤ skb.len) {i : Nat} (hi : i < hdrLen) :
    (skb.sealed hdrLen iv body n).byte i = skb.byte i := by
  rw [byte_sealed h (by omega), List.getD_append _ _ _ _ (by rwa [length_take_header h])]
  simp only [byte, List.getD_eq_getElem?_getD, List.getElem?_take_of_lt hi]

theorem byte_sealed_iv (h : hdrLen ≤ skb.len) {j : Nat} (hj : j < iv.length) :
    (skb.sealed hdrLen iv body n).byte (hdrLen + j) = iv.getD j 0 := by
  rw [byte_sealed h (by omega), ← byte_pushIv h (by omega), byte_pushIv_iv h hj]

theorem bytes_sealed (h : hdrLen ≤ skb.len) (k m : Nat) :
    (skb.sealed hdrLen iv body n).bytes (hdrLen + iv.length + k) m = (body.drop k).take m := by
  have hfront : (skb.data.take hdrLen ++ iv).length = hdrLen + iv.length := by
    rw [List.length_append, length_take_header h]
  simp only [bytes, sealed]
  rw [← List.drop_drop, List.drop_left' hfront]

theorem bytes_sealed_iv (h : hdrLen ≤ skb.len) {m : Nat} (hm : m ≤ iv.length) :
    (skb.sealed hdrLen iv body n).bytes hdrLen m = iv.take m := by
  simp only [bytes, sealed, List.append_assoc]
  rw [List.drop_left' (length_take_header h), List.take_append_of_le_length hm]

theorem open_sealed (h : hdrLen ≤ skb.len) (hhead : iv.length ≤ skb.headroom)
    (htail : n ≤ skb.tailroom) {tail : List Byte} (hn : tail.length = n) :
    (((skb.sealed hdrLen iv body n).setFrom (hdrLen + iv.length)
      (skb.data.drop hdrLen ++ tail)).pullIv hdrLen iv.length).trimEnd n = skb := by
  -- With the payload back in its place, the fields are taken out.
  have hfront : (skb.data.take hdrLen ++ iv).length = hdrLen + iv.length := by
    rw [List.length_append, length_take_header h]
  have hdata : (((skb.sealed hdrLen iv body n).setFrom (hdrLen + iv.length)
      (skb.data.drop hdrLen ++ tail)).pullIv hdrLen iv.length).data = skb.data ++ tail := by
    simp only [sealed, setFrom, pullIv]
    rw [List.take_left' hfront, List.drop_left' hfront, List.append_assoc,
      List.take_left' (length_take_header h), ← List.append_assoc, List.take_append_drop]
  have hlen : (((skb.sealed hdrLen iv body n).setFrom (hdrLen + iv.length)
      (skb.data.drop hdrLen ++ tail)).pullIv hdrLen iv.length).len = skb.data.length + n := by
    rw [len, hdata, List.length_append, hn]
  unfold trimEnd
  rw [hdata, hlen, Nat.add_sub_cancel, List.take_left]
  simp only [sealed, setFrom, pullIv, Nat.sub_add_cancel hhead, Nat.sub_add_cancel htail]

end Skb

/-- A frame with a header of three or four addresses, for software to encrypt, and with room for
`head` bytes in front of it and `tail` bytes behind it. -/
structure Ready (skb : Skb) (hdrLen head tail : Nat) : Prop where
  three : 24 ≤ hdrLen
  four : toDs skb.frameCtl = true → fromDs skb.frameCtl = true → 30 ≤ hdrLen
  fits : hdrLen ≤ skb.len
  software : skb.bHwSec = false
  headroom : head ≤ skb.headroom
  tailroom : tail ≤ skb.tailroom

theorem keyIdx_shift {keyIdx : Byte} (h : keyIdx.toNat < 4) : keyIdx <<< 6 >>> 6 = keyIdx := by
  revert h
  revert keyIdx
  decide

theorem keyIdx_shift_extIv {keyIdx : Byte} (h : keyIdx.toNat < 4) :
    (keyIdx <<< 6 ||| 0x20) >>> 6 = keyIdx ∧ (keyIdx <<< 6 ||| 0x20).getLsbD 5 = true := by
  revert h
  revert keyIdx
  decide

/-- RC4 in place -/
structure StreamCipher (arc4 : List Byte → List Byte → List Byte) : Prop where
  length : ∀ key data, (arc4 key data).length = data.length
  involutive : ∀ key data, arc4 key (arc4 key data) = data

theorem Tkip.length_icv (prim : Tkip.Primitives) (data : List Byte) :
    (Tkip.icv prim data).length = 4 := rfl

/-! ## WEP -/

namespace Wep

open Tkip (Primitives icv length_icv)

structure Agree (wep rwep : WepData) : Prop where
  index : wep.keyIdx.toNat < 4
  sameIndex : rwep.keyIdx = wep.keyIdx
  sameKey : rwep.key = wep.key

variable {prim : Primitives} {wep rwep : WepData} {skb : Skb} {hdrLen : Nat}

def nextIvBytes (wep : WepData) : List Byte := ivBytes (nextIv wep.iv (3 + wep.key.length))

def sealedFrame (prim : Primitives) (wep : WepData) (skb : Skb) (hdrLen : Nat) : Skb :=
  skb.sealed hdrLen (nextIvBytes wep ++ [wep.keyOctet])
    (prim.arc4 (nextIvBytes wep ++ wep.key)
      (skb.data.drop hdrLen ++ icv prim (skb.data.drop hdrLen))) 4

theorem encrypt_eq (h : Ready skb hdrLen 4 4) :
    (prism2WepEncrypt prim false wep skb hdrLen).1 = some (sealedFrame prim wep skb hdrLen) := by
  have hroom : ¬ (skb.headroom < 4 ∨ skb.tailroom < 4 ∨ skb.len < hdrLen) := by
    have h1 := h.headroom
    have h2 := h.tailroom
    have h3 := h.fits
    omega
  have hsoft : ¬ skb.bHwSec = true := by simp [h.software]
  unfold prism2WepEncrypt
  rw [if_neg hroom]
  exact (congrArg Prod.fst (if_neg hsoft)).trans
    (congrArg some (Skb.setFrom_put_pushIv h.fits _))

theorem open_sealedFrame (harc4 : StreamCipher prim.arc4) (hready : Ready skb hdrLen 4 4)
    (h : Agree wep rwep) :
    wepOpen prim rwep (sealedFrame prim wep skb hdrLen) hdrLen =
      some (skb.data.drop hdrLen ++ icv prim (skb.data.drop hdrLen)) := by
  -- What the receiver finds in the frame.
  have hfits := hready.fits
  have hlen : (sealedFrame prim wep skb hdrLen).len - hdrLen - 8 = (skb.data.drop hdrLen).length := by
    rw [sealedFrame, Skb.len_sealed hfits, harc4.length, List.length_append, List.length_append,
      length_icv, show (nextIvBytes wep).length = 3 from rfl, List.length_singleton]
    omega
  have hiv : (sealedFrame prim wep skb hdrLen).bytes hdrLen 3 = nextIvBytes wep :=
    (Skb.bytes_sealed_iv hfits (by simp [nextIvBytes, ivBytes])).trans (List.take_left' rfl)
  have hbody : (sealedFrame prim wep skb hdrLen).bytes (hdrLen + 4)
      ((skb.data.drop hdrLen).length + 4) = prim.arc4 (nextIvBytes wep ++ wep.key)
        (skb.data.drop hdrLen ++ icv prim (skb.data.drop hdrLen)) := by
    refine (Skb.bytes_sealed hfits 0 _).trans (List.take_of_length_le ?_)
    rw [List.drop_zero, harc4.length, List.length_append, length_icv]
  unfold wepOpen
  simp only [hlen, hiv, hbody, h.sameKey]
  rw [harc4.involutive, List.take_left, List.drop_left, if_pos rfl]

theorem decrypt_sealedFrame (harc4 : StreamCipher prim.arc4) (hready : Ready skb hdrLen 4 4)
    (h : Agree wep rwep) :
    prism2WepDecrypt prim false rwep (sealedFrame prim wep skb hdrLen) hdrLen = .ok skb := by
  -- What one side has sealed the other opens.
  have hfits := hready.fits
  have hlong : ¬ (sealedFrame prim wep skb hdrLen).len < hdrLen + 8 := by
    rw [sealedFrame, Skb.len_sealed hfits, harc4.length, List.length_append, List.length_append,
      length_icv, show (nextIvBytes wep).length = 3 from rfl, List.length_singleton]
    omega
  have hidx : (sealedFrame prim wep skb hdrLen).byte (hdrLen + 3) >>> 6 = rwep.keyIdx := by
    rw [h.sameIndex, sealedFrame, Skb.byte_sealed_iv hfits (by simp [nextIvBytes, ivBytes])]
    exact keyIdx_shift h.index
  have hsoft : ¬ (sealedFrame prim wep skb hdrLen).bHwSec = true :=
    show ¬ skb.bHwSec = true by simp [hready.software]
  unfold prism2WepDecrypt
  rw [if_neg hlong, if_neg (not_not.mpr hidx), if_neg hsoft, if_neg Bool.false_ne_true,
    open_sealedFrame harc4 hready h]
  have hhead : (nextIvBytes wep ++ [wep.keyOctet]).length ≤ skb.headroom := hready.headroom
  refine congrArg Except.ok ?_
  exact Skb.open_sealed hfits hhead hready.tailroom (length_icv prim _)

end Wep

/-! ## TKIP -/

namespace Tkip

/-- Only the temporal key takes part in the mixing. -/
def SameTemporal (key key' : Key) : Prop := ∀ i : Fin 32, i.val < 16 → key i = key' i

theorem tk16_congr {key key' : Key} (h : SameTemporal key key') (i : Fin 31) (hi : i.val ≤ 14) :
    tk16 key i = tk16 key' i := by
  unfold tk16
  rw [h i.succ (by rw [Fin.val_succ]; omega), h i.castSucc (by rw [Fin.val_castSucc]; omega)]

theorem tkipMixingPhase1_congr {key key' : Key} (h : SameTemporal key key') (ta : Addr)
    (iv32 : BitVec 32) : tkipMixingPhase1 key ta iv32 = tkipMixingPhase1 key' ta iv32 := by
  have hround : phase1Round key = phase1Round key' := by
    funext t i
    unfold phase1Round
    simp (disch := decide) only [tk16_congr h]
  unfold tkipMixingPhase1
  rw [hround]

theorem tkipMixingPhase2_congr {key key' : Key} (h : SameTemporal key key') (ttak : Ttak)
    (iv16 : BitVec 16) : tkipMixingPhase2 key ttak iv16 = tkipMixingPhase2 key' ttak iv16 := by
  unfold tkipMixingPhase2
  simp (disch := decide) only [tk16_congr h]

/-- What the two sides agree on, for frames of the transmitter `ta`. What the caches hold is what
they are taken for. -/
structure Agree (ta : Addr) (tkey rkey : TkipData) : Prop where
  index : tkey.keyIdx.toNat < 4
  sameIndex : rkey.keyIdx = tkey.keyIdx
  keySet : rkey.keySet = true
  temporal : SameTemporal rkey.key tkey.key
  newer : rkey.rxTsc < tsc tkey.txIv32 tkey.txIv16
  txCoherent : tkey.txPhase1Done = true → tkey.txTtak = tkipMixingPhase1 tkey.key ta tkey.txIv32
  rxCoherent : RxCoherent ta rkey

variable {prim : Primitives} {tkey rkey : TkipData} {skb : Skb} {hdrLen : Nat}

/-- What the receiver needs for the next frame -/
structure Meets (ta : Addr) (tkey rkey : TkipData) : Prop where
  index : tkey.keyIdx.toNat < 4
  sameIndex : rkey.keyIdx = tkey.keyIdx
  keySet : rkey.keySet = true
  temporal : SameTemporal rkey.key tkey.key
  newer : rkey.rxTsc < tsc tkey.txIv32 tkey.txIv16
  rxTtak : (rxPhase1 rkey ta tkey.txIv32).rxTtak = tkipMixingPhase1 rkey.key ta tkey.txIv32

theorem Agree.meets {ta : Addr} (h : Agree ta tkey rkey) : Meets ta tkey rkey :=
  ⟨h.index, h.sameIndex, h.keySet, h.temporal, h.newer, rxPhase1_ttak h.rxCoherent _⟩

def nextRc4Key (tkey : TkipData) (ta : Addr) : List Byte :=
  tkipMixingPhase2 tkey.key (tkipMixingPhase1 tkey.key ta tkey.txIv32) tkey.txIv16

def nextIvBytes (tkey : TkipData) (ta : Addr) : List Byte :=
  (nextRc4Key tkey ta).take 3 ++ [tkey.keyIdx <<< 6 ||| 0x20] ++
    (le16 (tkey.txIv32.setWidth 16) ++ le16 ((tkey.txIv32 >>> 16).setWidth 16))

def sealedFrame (prim : Primitives) (tkey : TkipData) (skb : Skb) (hdrLen : Nat) : Skb :=
  skb.sealed hdrLen (nextIvBytes tkey skb.addr2)
    (prim.arc4 (nextRc4Key tkey skb.addr2)
      (skb.data.drop hdrLen ++ icv prim (skb.data.drop hdrLen))) 4

theorem length_nextIvBytes (tkey : TkipData) (ta : Addr) : (nextIvBytes tkey ta).length = 8 := rfl

theorem encrypt_eq (hready : Ready skb hdrLen 8 4)
    (hcoherent : tkey.txPhase1Done = true →
      tkey.txTtak = tkipMixingPhase1 tkey.key skb.addr2 tkey.txIv32) :
    (rtllibTkipEncrypt prim false tkey skb hdrLen).1 = some (sealedFrame prim tkey skb hdrLen) := by
  have hroom : ¬ (skb.headroom < 8 ∨ skb.tailroom < 4 ∨ skb.len < hdrLen) := by
    have h1 := hready.headroom
    have h2 := hready.tailroom
    have h3 := hready.fits
    omega
  have hsoft : ¬ skb.bHwSec = true := by simp [hready.software]
  have hsent (ttak : Ttak) (h : ttak = tkipMixingPhase1 tkey.key skb.addr2 tkey.txIv32) :
      ((skb.pushIv hdrLen ((tkipMixingPhase2 tkey.key ttak tkey.txIv16).take 3 ++
          [tkey.keyIdx <<< 6 ||| 0x20] ++
          (le16 (tkey.txIv32.setWidth 16) ++ le16 ((tkey.txIv32 >>> 16).setWidth 16)))).put
        (icv prim (skb.data.drop hdrLen))).setFrom (hdrLen + 8)
        (prim.arc4 (tkipMixingPhase2 tkey.key ttak tkey.txIv16)
          (skb.data.drop hdrLen ++ icv prim (skb.data.drop hdrLen))) =
      sealedFrame prim tkey skb hdrLen := by
    subst h
    exact Skb.setFrom_put_pushIv hready.fits _
  unfold rtllibTkipEncrypt
  rw [if_neg hroom]
  cases hdone : tkey.txPhase1Done with
  | false =>
    simp only [hready.software, Skb.pushIv_bHwSec, and_self, if_true, Bool.false_eq_true,
      and_false, if_false, hsent _ rfl]
  | true =>
    simp only [hready.software, Skb.pushIv_bHwSec, Bool.false_eq_true, Bool.true_eq_false,
      and_false, if_false, hsent _ (hcoherent hdone)]

/-! ### What the receiver finds in the frame -/

theorem iv32_halves (iv32 : BitVec 32) :
    (iv32 >>> 16).setWidth 16 ++ iv32.setWidth 16 = iv32 := by
  apply BitVec.eq_of_getLsbD_eq
  intro i hi
  rw [BitVec.getLsbD_append, BitVec.getLsbD_setWidth, BitVec.getLsbD_setWidth,
    BitVec.getLsbD_ushiftRight]
  split
  next h => simp [h]
  next h =>
    rw [show 16 + (i - 16) = i by omega]
    simp [show i - 16 < 16 by omega]

theorem byte_sealedFrame (hready : Ready skb hdrLen 8 4) {j : Nat} (hj : j < 8) :
    (sealedFrame prim tkey skb hdrLen).byte (hdrLen + j) =
      (nextIvBytes tkey skb.addr2).getD j 0 :=
  Skb.byte_sealed_iv hready.fits (by rwa [length_nextIvBytes])

theorem addr2_sealedFrame (hready : Ready skb hdrLen 8 4) :
    (sealedFrame prim tkey skb hdrLen).addr2 = skb.addr2 := by
  have h24 := hready.three
  funext i
  exact Skb.byte_sealed_header hready.fits (by omega)

theorem iv_of_header {iv32 : BitVec 32} {iv16 : BitVec 16} {seed keyByte : Byte}
    (h : ∀ j < 8, skb.byte (hdrLen + j) =
      ([hi8 iv16, seed, lo8 iv16] ++ [keyByte] ++
        (le16 (iv32.setWidth 16) ++ le16 ((iv32 >>> 16).setWidth 16))).getD j 0) :
    rxFrameIv32 skb hdrLen = iv32 ∧ rxFrameIv16 skb hdrLen = iv16 := by
  have h0 : skb.byte hdrLen = hi8 iv16 := h 0 (by decide)
  constructor
  · unfold rxFrameIv32
    rw [h 4 (by decide), h 5 (by decide), h 6 (by decide), h 7 (by decide)]
    refine Eq.trans ?_ (iv32_halves iv32)
    exact congrArg₂ (· ++ ·) (hi_append_lo _) (hi_append_lo _)
  · unfold rxFrameIv16
    rw [h0, h 2 (by decide)]
    exact hi_append_lo iv16

theorem iv_sealedFrame (hready : Ready skb hdrLen 8 4) :
    rxFrameIv32 (sealedFrame prim tkey skb hdrLen) hdrLen = tkey.txIv32 ∧
      rxFrameIv16 (sealedFrame prim tkey skb hdrLen) hdrLen = tkey.txIv16 :=
  iv_of_header fun _ hj => byte_sealedFrame hready hj

theorem iv16_sealedFrame (hready : Ready skb hdrLen 8 4) :
    rxFrameIv16 (sealedFrame prim tkey skb hdrLen) hdrLen = tkey.txIv16 :=
  (iv_sealedFrame hready).2

theorem iv32_sealedFrame (hready : Ready skb hdrLen 8 4) :
    rxFrameIv32 (sealedFrame prim tkey skb hdrLen) hdrLen = tkey.txIv32 :=
  (iv_sealedFrame hready).1

def received (prim : Primitives) (tkey : TkipData) (skb : Skb) (hdrLen : Nat) : Frame :=
  ⟨sealedFrame prim tkey skb hdrLen, hdrLen, false, false, false⟩

theorem length_sealedFrame (hrc4 : StreamCipher prim.arc4) (hready : Ready skb hdrLen 8 4) :
    (sealedFrame prim tkey skb hdrLen).len = hdrLen + 8 + ((skb.data.drop hdrLen).length + 4) := by
  rw [sealedFrame, Skb.len_sealed hready.fits, length_nextIvBytes, hrc4.length, List.length_append,
    length_icv]

theorem headerOk_received (hrc4 : StreamCipher prim.arc4) (hready : Ready skb hdrLen 8 4)
    (h : Meets skb.addr2 tkey rkey) : HeaderOk rkey (received prim tkey skb hdrLen) := by
  have hkeyOctet : (received prim tkey skb hdrLen).skb.byte (hdrLen + 3) =
      tkey.keyIdx <<< 6 ||| 0x20 := byte_sealedFrame hready (by decide)
  obtain ⟨hidx, hext⟩ := keyIdx_shift_extIv h.index
  constructor
  · show hdrLen + 8 + 4 ≤ (sealedFrame prim tkey skb hdrLen).len
    rw [length_sealedFrame hrc4 hready]
    omega
  · exact hkeyOctet ▸ hext
  · rw [h.sameIndex]
    exact (hkeyOctet ▸ hidx).symm
  · exact h.keySet

theorem fresh_received (hready : Ready skb hdrLen 8 4) (h : Meets skb.addr2 tkey rkey) :
    replayed rkey (received prim tkey skb hdrLen).iv32 (received prim tkey skb hdrLen).iv16 =
      false := by
  rw [Bool.eq_false_iff, ne_eq, replayed_iff]
  rintro ⟨-, hle⟩
  have hnewer := h.newer
  simp only [Frame.tsc, Frame.iv32, Frame.iv16, received, iv32_sealedFrame hready,
    iv16_sealedFrame hready] at hle
  omega

theorem open_sealedFrame (hrc4 : StreamCipher prim.arc4) (hready : Ready skb hdrLen 8 4)
    (h : Meets skb.addr2 tkey rkey) :
    tkipOpen prim rkey.key (tkipMixingPhase1 rkey.key skb.addr2 tkey.txIv32)
      (sealedFrame prim tkey skb hdrLen) hdrLen =
      some (skb.data.drop hdrLen ++ icv prim (skb.data.drop hdrLen)) := by
  have hlen : (sealedFrame prim tkey skb hdrLen).len - hdrLen - 12 =
      (skb.data.drop hdrLen).length := by
    rw [length_sealedFrame hrc4 hready]
    omega
  have hbody : (sealedFrame prim tkey skb hdrLen).bytes (hdrLen + 8)
      ((skb.data.drop hdrLen).length + 4) = prim.arc4 (nextRc4Key tkey skb.addr2)
        (skb.data.drop hdrLen ++ icv prim (skb.data.drop hdrLen)) := by
    refine (Skb.bytes_sealed hready.fits 0 _).trans (List.take_of_length_le ?_)
    rw [List.drop_zero, hrc4.length, List.length_append, length_icv]
  unfold tkipOpen
  simp only [hlen, hbody, iv16_sealedFrame hready]
  rw [tkipMixingPhase1_congr h.temporal, tkipMixingPhase2_congr h.temporal, ← nextRc4Key,
    hrc4.involutive, List.take_left, List.drop_left, if_pos rfl]

theorem opened_received (hrc4 : StreamCipher prim.arc4) (hready : Ready skb hdrLen 8 4)
    (h : Meets skb.addr2 tkey rkey) :
    (received prim tkey skb hdrLen).opened prim rkey = some skb := by
  have hsoft : decryptsInSoftware (received prim tkey skb hdrLen).skb = true := by
    have hhw : (received prim tkey skb hdrLen).skb.bHwSec = false := hready.software
    simp [decryptsInSoftware, hhw]
  have hta : (received prim tkey skb hdrLen).skb.addr2 = skb.addr2 := addr2_sealedFrame hready
  have hiv32 : (received prim tkey skb hdrLen).iv32 = tkey.txIv32 := iv32_sealedFrame hready
  unfold Frame.opened
  rw [if_pos hsoft, if_neg (show ¬ (received prim tkey skb hdrLen).arc4Fails = true from
    Bool.false_ne_true), hta, hiv32, h.rxTtak]
  have hopen := open_sealedFrame hrc4 hready h
  simp only [received]
  rw [hopen]
  refine congrArg some ?_
  have hhead : (nextIvBytes tkey skb.addr2).length ≤ skb.headroom := hready.headroom
  exact Skb.open_sealed hready.fits hhead hready.tailroom (length_icv prim _)

theorem decrypt_of_opened {f : Frame} (header : HeaderOk rkey f)
    (fresh : replayed rkey f.iv32 f.iv16 = false) (opened : f.opened prim rkey = some skb) :
    ∃ keyidx rkey', rtllibTkipDecrypt prim f.arc4Fails rkey f.skb f.hdrLen =
      (.ok (keyidx, skb), rkey') ∧ Kept rkey f rkey' ∧ CacheStep prim rkey f rkey' := by
  have houtcome := decrypt_outcome prim rkey f
  generalize rtllibTkipDecrypt prim f.arc4Fails rkey f.skb f.hdrLen = result at houtcome ⊢
  cases houtcome with
  | refused kept cache why =>
    rcases why header with hnone | ⟨-, hreplayed⟩
    · rw [opened] at hnone
      cases hnone
    · rw [fresh] at hreplayed
      cases hreplayed
  | accepted kept cache header fresh opened' iv32 iv16 =>
    rw [opened] at opened'
    cases opened'
    exact ⟨_, _, rfl, kept, cache⟩

theorem decrypt_sealedFrame (hrc4 : StreamCipher prim.arc4) (hready : Ready skb hdrLen 8 4)
    (h : Meets skb.addr2 tkey rkey) :
    ∃ keyidx rkey', rtllibTkipDecrypt prim false rkey (sealedFrame prim tkey skb hdrLen) hdrLen =
      (.ok (keyidx, skb), rkey') ∧ Kept rkey (received prim tkey skb hdrLen) rkey' ∧
        CacheStep prim rkey (received prim tkey skb hdrLen) rkey' :=
  decrypt_of_opened (headerOk_received hrc4 hready h) (fresh_received hready h)
    (opened_received hrc4 hready h)

/-! ### Michael -/

/-- The MIC that the sender puts behind the frame -/
def sentMic (prim : Primitives) (tkey : TkipData) (skb : Skb) (hdrLen : Nat) : List Byte :=
  michaelMic prim (michaelKey tkey.key 16) skb hdrLen (skb.len - hdrLen)

theorem length_sentMic : (sentMic prim tkey skb hdrLen).length = 8 := List.length_ofFn

theorem byte_put {i : Nat} (h : i < skb.len) (bs : List Byte) : (skb.put bs).byte i = skb.byte i := by
  simp only [Skb.byte, Skb.put, List.getD_append _ _ _ _ h]

theorem bytes_put {i n : Nat} (h : i + n ≤ skb.len) (bs : List Byte) :
    (skb.put bs).bytes i n = skb.bytes i n := by
  have hi : i ≤ skb.data.length := by
    unfold Skb.len at h
    omega
  simp only [Skb.bytes, Skb.put, List.drop_append_of_le_length hi]
  rw [List.take_append_of_le_length]
  rw [List.length_drop]
  unfold Skb.len at h
  omega

theorem frameCtl_put (h : 24 ≤ skb.len) (bs : List Byte) :
    (skb.put bs).frameCtl = skb.frameCtl := by
  unfold Skb.frameCtl
  rw [byte_put (by omega), byte_put (by omega)]

theorem michaelMicHdr_put (hready : Ready skb hdrLen 8 12) (bs : List Byte) :
    michaelMicHdr (skb.put bs) hdrLen = michaelMicHdr skb hdrLen := by
  -- The MIC is computed over the same bytes by both sides.
  have h24 := hready.three
  have hfits := hready.fits
  have h24' : 24 ≤ skb.len := by omega
  have hthree (i : Nat) (hi : i + 6 ≤ 24) : (skb.put bs).bytes i 6 = skb.bytes i 6 :=
    bytes_put (by omega) bs
  have hfour : toDs skb.frameCtl = true → fromDs skb.frameCtl = true →
      (skb.put bs).bytes 24 6 = skb.bytes 24 6 := by
    intro hto hfrom
    have h30 := hready.four hto hfrom
    exact bytes_put (by omega) bs
  unfold michaelMicHdr
  rw [frameCtl_put h24', hthree 16 (by decide), hthree 4 (by decide), hthree 10 (by decide),
    byte_put (by omega)]
  by_cases hto : toDs skb.frameCtl = true
  · by_cases hfrom : fromDs skb.frameCtl = true
    · rw [hfour hto hfrom]
    · simp only [if_neg hfrom]
  · simp only [if_neg hto]

theorem ready_put (hready : Ready skb hdrLen 8 12) {bs : List Byte} (hbs : bs.length = 8) :
    Ready (skb.put bs) hdrLen 8 4 := by
  have h24 := hready.three
  have hfits := hready.fits
  have hlen : (skb.put bs).len = skb.len + bs.length := List.length_append
  have hctl : (skb.put bs).frameCtl = skb.frameCtl := frameCtl_put (by omega) bs
  constructor
  · exact h24
  · rw [hctl]
    exact hready.four
  · omega
  · exact hready.software
  · exact hready.headroom
  · show 4 ≤ skb.tailroom - bs.length
    have htail := hready.tailroom
    omega

theorem michaelMic_put (hready : Ready skb hdrLen 8 12) (key bs : List Byte) :
    michaelMic prim key (skb.put bs) hdrLen (skb.len - hdrLen) =
      michaelMic prim key skb hdrLen (skb.len - hdrLen) := by
  have hfits := hready.fits
  unfold michaelMic
  rw [michaelMicHdr_put hready, bytes_put (by omega)]

theorem bytes_put_end {bs : List Byte} (h : bs.length = 8) : (skb.put bs).bytes skb.len 8 = bs := by
  simp only [Skb.bytes, Skb.put, Skb.len, List.drop_left]
  exact List.take_of_length_le h.le

theorem micAdd_eq (hready : Ready skb hdrLen 8 12) :
    rtllibMichaelMicAdd prim false tkey skb hdrLen =
      some (skb.put (sentMic prim tkey skb hdrLen)) := by
  have hroom : ¬ (skb.tailroom < 8 ∨ skb.len < hdrLen) := by
    have h1 := hready.tailroom
    have h2 := hready.fits
    omega
  unfold rtllibMichaelMicAdd
  rw [if_neg hroom, if_neg Bool.false_ne_true]
  rfl

theorem trimEnd_put {bs : List Byte} (hbs : bs.length ≤ skb.tailroom) :
    (skb.put bs).trimEnd bs.length = skb := by
  have hlen : (skb.put bs).len = skb.data.length + bs.length := List.length_append
  unfold Skb.trimEnd
  rw [hlen, Nat.add_sub_cancel]
  simp only [Skb.put, List.take_left, Nat.sub_add_cancel hbs]

/-- The receiver compares its MIC with that of the sender, which is behind the frame. -/
theorem verify_eq {skb' : Skb} (hset : rkey.keySet = true) (hready : Ready skb hdrLen 8 12)
    (hdata : skb'.data = skb.data ++ sentMic prim tkey skb hdrLen) :
    (rtllibMichaelMicVerify prim false false rkey skb' hdrLen).1 =
      if michaelMic prim (michaelKey rkey.key 24) skb hdrLen (skb.len - hdrLen) =
        sentMic prim tkey skb hdrLen then .ok (skb'.trimEnd 8) else .failed := by
  have hfits := hready.fits
  have hmic : (sentMic prim tkey skb hdrLen).length = 8 := length_sentMic
  have hlen : skb'.len = skb.len + 8 := by
    unfold Skb.len
    rw [hdata, List.length_append, hmic]
  have hcomputed : michaelMic prim (michaelKey rkey.key 24) skb' hdrLen (skb.len - hdrLen) =
      michaelMic prim (michaelKey rkey.key 24) skb hdrLen (skb.len - hdrLen) := by
    rw [← michaelMic_put hready _ (sentMic prim tkey skb hdrLen)]
    obtain ⟨headroom, data, tailroom, bHwSec, cb0⟩ := skb'
    obtain rfl : data = _ := hdata
    rfl
  have hput : (skb.put (sentMic prim tkey skb hdrLen)).bytes skb.len 8 =
      sentMic prim tkey skb hdrLen := bytes_put_end hmic
  have hsent : skb'.bytes skb.len 8 = sentMic prim tkey skb hdrLen := by
    refine Eq.trans ?_ hput
    unfold Skb.bytes
    rw [hdata]
    rfl
  unfold rtllibMichaelMicVerify
  rw [if_neg (by simp [hset]), hlen, if_neg (by omega), if_neg Bool.false_ne_true]
  simp only [Nat.add_sub_cancel, hcomputed, hsent, Bool.false_eq_true, or_false, ne_eq]
  by_cases hsame : michaelMic prim (michaelKey rkey.key 24) skb hdrLen (skb.len - hdrLen) =
      sentMic prim tkey skb hdrLen
  · rw [if_pos hsame, if_neg (not_not.mpr hsame)]
  · rw [if_neg hsame, if_pos hsame]

theorem verify_put (hset : rkey.keySet = true) (hready : Ready skb hdrLen 8 12)
    (hkey : michaelKey rkey.key 24 = michaelKey tkey.key 16) :
    (rtllibMichaelMicVerify prim false false rkey (skb.put (sentMic prim tkey skb hdrLen))
      hdrLen).1 = .ok skb := by
  have hmic : (sentMic prim tkey skb hdrLen).length = 8 := length_sentMic
  have htrim : (skb.put (sentMic prim tkey skb hdrLen)).trimEnd 8 = skb := by
    rw [← hmic]
    exact trimEnd_put (by rw [hmic]; exact le_trans (by decide) hready.tailroom)
  rw [verify_eq hset hready rfl, hkey, htrim]
  exact if_pos rfl

theorem mic_of_verify {skb' : Skb} (hset : rkey.keySet = true) (hready : Ready skb hdrLen 8 12)
    (h : (rtllibMichaelMicVerify prim false false rkey (skb.put (sentMic prim tkey skb hdrLen))
      hdrLen).1 = .ok skb') :
    michaelMic prim (michaelKey rkey.key 24) skb hdrLen (skb.len - hdrLen) =
      sentMic prim tkey skb hdrLen := by
  rw [verify_eq hset hready rfl] at h
  by_contra hdiff
  rw [if_neg hdiff] at h
  cases h

theorem trimEnd_of_verify {skb' : Skb} {michaelFails forceMicError : Bool}
    (h : (rtllibMichaelMicVerify prim michaelFails forceMicError rkey skb hdrLen).1 = .ok skb') :
    skb' = skb.trimEnd 8 := by
  unfold rtllibMichaelMicVerify at h
  split at h
  · cases h
  split at h
  · cases h
  split at h
  · cases h
  simp only at h
  split at h
  · cases h
  · exact (MicVerify.ok.inj h).symm

theorem verify_sealedFrame (hrc4 : StreamCipher prim.arc4) (hready : Ready skb hdrLen 8 12)
    (h : Agree skb.addr2 tkey rkey) (hkey : michaelKey rkey.key 24 = michaelKey tkey.key 16) :
    ∃ skb' enc keyidx rkey', rtllibMichaelMicAdd prim false tkey skb hdrLen = some skb' ∧
      (rtllibTkipEncrypt prim false tkey skb' hdrLen).1 = some enc ∧
      rtllibTkipDecrypt prim false rkey enc hdrLen = (.ok (keyidx, skb'), rkey') ∧
      (rtllibMichaelMicVerify prim false false rkey' skb' hdrLen).1 = .ok skb := by
  -- A frame with a MIC comes through, and its MIC is right.
  have hready' : Ready (skb.put (sentMic prim tkey skb hdrLen)) hdrLen 8 4 :=
    ready_put hready length_sentMic
  have h24 := hready.three
  have hfits := hready.fits
  have hta : (skb.put (sentMic prim tkey skb hdrLen)).addr2 = skb.addr2 := by
    funext i
    exact byte_put (by omega) _
  rw [← hta] at h
  obtain ⟨keyidx, rkey', hdecrypt, hsame, -⟩ := decrypt_sealedFrame hrc4 hready' h.meets
  refine ⟨_, _, keyidx, rkey', micAdd_eq hready, encrypt_eq hready' h.txCoherent, hdecrypt, ?_⟩
  apply verify_put
  · rw [hsame.keySet, h.keySet]
  · exact hready
  · rw [hsame.key, hkey]

end Tkip

/-! ## CCMP -/

namespace Ccmp

/-! ### The loops -/

section Loops

variable (aes : Key → Block → Block) (tfm : Key) (b0 : Block)

theorem length_xorData {chunk : List Byte} (h : chunk.length ≤ 16) (e : Block) :
    (xorData chunk e).length = chunk.length := by
  unfold xorData
  rw [List.length_zipWith, List.length_ofFn]
  exact Nat.min_eq_left h

theorem xorData_xorData {chunk : List Byte} (h : chunk.length ≤ 16) (e : Block) :
    xorData (xorData chunk e) e = chunk := by
  apply List.ext_getElem
  · rw [length_xorData _ e, length_xorData h]
    rwa [length_xorData h]
  · intro j hj hj'
    simp only [xorData, List.getElem_zipWith, BitVec.xor_assoc, BitVec.xor_self, BitVec.xor_zero]

theorem length_take_block (pos : List Byte) : (pos.take 16).length ≤ 16 := List.length_take_le 16 pos

theorem length_encryptBlocks (blocks i : Nat) (pos : List Byte) (b : Block) :
    (encryptBlocks aes tfm b0 blocks i pos b).1.length = pos.length := by
  induction blocks generalizing i pos b with
  | zero => rfl
  | succ blocks ih =>
    unfold encryptBlocks
    simp only [List.length_append, ih, length_xorData (length_take_block pos), List.length_drop,
      List.length_take]
    omega

theorem split_block {pos rest : List Byte} (h : rest.length = (pos.drop 16).length) (e : Block) :
    (xorData (pos.take 16) e ++ rest).take 16 = xorData (pos.take 16) e ∧
      (xorData (pos.take 16) e ++ rest).drop 16 = rest := by
  have hlen := length_xorData (length_take_block pos) e
  rw [List.length_take] at hlen
  rw [List.length_drop] at h
  by_cases hfull : 16 ≤ pos.length
  · have hblock : (xorData (pos.take 16) e).length = 16 := by omega
    exact ⟨List.take_left' hblock, List.drop_left' hblock⟩
  · have hrest : rest = [] := List.length_eq_zero_iff.mp (by omega)
    rw [hrest, List.append_nil]
    exact ⟨List.take_of_length_le (by omega), List.drop_eq_nil_of_le (by omega)⟩

/-- The decryption loop takes back what the encryption loop did, block by block, and comes to the
same authentication block. -/
theorem decryptBlocks_encryptBlocks (blocks i : Nat) {pos : List Byte} (b : Block)
    (h : pos.length ≤ 16 * blocks) :
    decryptBlocks aes tfm b0 blocks i (encryptBlocks aes tfm b0 blocks i pos b).1 b =
      (pos, (encryptBlocks aes tfm b0 blocks i pos b).2) := by
  induction blocks generalizing i pos b with
  | zero => rfl
  | succ blocks ih =>
    have hrest : (pos.drop 16).length ≤ 16 * blocks := by
      rw [List.length_drop]
      omega
    unfold encryptBlocks decryptBlocks
    simp only
    obtain ⟨htake, hdrop⟩ := split_block (length_encryptBlocks aes tfm b0 blocks (i + 1)
      (pos.drop 16) (aes tfm (xorBlock b (pos.take 16)))) (aes tfm (counterBlock b0 i))
    rw [htake, hdrop, xorData_xorData (length_take_block pos), ih _ _ hrest, List.take_append_drop]

theorem xorData_mic (b s0 : Block) :
    xorData ((List.ofFn (xorBlock b (List.ofFn s0))).take 8) s0 = (List.ofFn b).take 8 := by
  apply List.ext_getElem
  · simp [xorData]
  · intro j hj hj'
    have hj8 : j < 8 := by simpa using hj'
    simp only [xorData, List.getElem_zipWith, List.getElem_take, List.getElem_ofFn, xorBlock,
      List.length_ofFn]
    rw [dif_pos (by omega), List.get_eq_getElem, List.getElem_ofFn, BitVec.xor_assoc,
      BitVec.xor_self, BitVec.xor_zero]

end Loops

/-! ### The blocks -/

section Blocks

variable {skb skb' : Skb} (h : ∀ i < 31, skb'.byte i = skb.byte i)
include h

theorem frameCtl_congr : skb'.frameCtl = skb.frameCtl := by
  unfold Skb.frameCtl
  rw [h 0 (by decide), h 1 (by decide)]

theorem qc_congr : qc skb' = qc skb := by
  have hctl := frameCtl_congr h
  unfold qc qcIncluded a4Included
  rw [hctl, h _ (show (if (toDs skb.frameCtl && fromDs skb.frameCtl) = true then 30 else 24) < 31 by
    split <;> decide)]

theorem ccmpInitBlocks_congr (aes : Key → Block → Block) (tfm : Key) (pn : List Byte) (dlen : Nat) :
    ccmpInitBlocks aes tfm skb' pn dlen = ccmpInitBlocks aes tfm skb pn dlen := by
  -- The blocks are made of the header and the first bytes behind it.
  have hctl := frameCtl_congr h
  have hqc := qc_congr h
  have hinitial : initialBlock skb' pn dlen = initialBlock skb pn dlen := by
    funext i
    unfold initialBlock
    rw [hqc]
    split
    · rfl
    split
    · rfl
    split
    · exact h _ (by omega)
    · rfl
  have haad : aad skb' = aad skb := by
    funext i
    -- the addresses, and the fourth
    have hthree (x : Byte) : (if i < 22 then skb'.byte i else x) = if i < 22 then skb.byte i else x := by
      split
      · exact h i (by omega)
      · rfl
    have hfour : (if a4Included skb = true ∧ i < 30 then skb'.byte i else 0) =
        if a4Included skb = true ∧ i < 30 then skb.byte i else 0 := by
      split
      next hi => exact h i (by omega)
      · rfl
    have ha4 : a4Included skb' = a4Included skb := by rw [a4Included, a4Included, hctl]
    have hqcIncluded : qcIncluded skb' = qcIncluded skb := by rw [qcIncluded, qcIncluded, hctl]
    unfold aad
    rw [hqc, ha4, hqcIncluded, h 0 (by decide), h 1 (by decide), h 22 (by decide), hfour]
    simp only [hthree]
  unfold ccmpInitBlocks
  rw [hinitial, haad]

end Blocks

/-! ### The frame -/

structure Agree (key rkey : CcmpData) : Prop where
  index : key.keyIdx.toNat < 4
  sameIndex : rkey.keyIdx = key.keyIdx
  keySet : rkey.keySet = true
  sameKey : rkey.tfm = key.tfm
  txPn : key.txPn.length = 6
  rxPn : rkey.rxPn.length = 6
  newer : Digits.value rkey.rxPn < Digits.value (Digits.increment key.txPn).1

variable {aes : Key → Block → Block} {key rkey : CcmpData} {skb : Skb} {hdrLen : Nat}

def nextPn (key : CcmpData) : List Byte := (Digits.increment key.txPn).1

def nextHeader (key : CcmpData) : List Byte := ccmpHeader (nextPn key) key.keyIdx

def nextBlocks (aes : Key → Block → Block) (key : CcmpData) (skb : Skb) (hdrLen : Nat) :
    Block × Block × Block :=
  ccmpInitBlocks aes key.tfm (skb.pushIv hdrLen (nextHeader key)) (nextPn key) (skb.len - hdrLen)

def ciphertext (aes : Key → Block → Block) (key : CcmpData) (skb : Skb) (hdrLen : Nat) :
    List Byte × Block :=
  encryptBlocks aes key.tfm (nextBlocks aes key skb hdrLen).1 ((skb.len - hdrLen + 15) / 16) 1
    (skb.data.drop hdrLen) (nextBlocks aes key skb hdrLen).2.1

def sentMic (aes : Key → Block → Block) (key : CcmpData) (skb : Skb) (hdrLen : Nat) : List Byte :=
  (List.ofFn (xorBlock (ciphertext aes key skb hdrLen).2
    (List.ofFn (nextBlocks aes key skb hdrLen).2.2))).take 8

def sealedFrame (aes : Key → Block → Block) (key : CcmpData) (skb : Skb) (hdrLen : Nat) : Skb :=
  skb.sealed hdrLen (nextHeader key)
    ((ciphertext aes key skb hdrLen).1 ++ sentMic aes key skb hdrLen) 8

theorem length_sentMic : (sentMic aes key skb hdrLen).length = 8 := by
  rw [sentMic, List.length_take, List.length_ofFn]
  rfl

theorem length_ciphertext : (ciphertext aes key skb hdrLen).1.length = skb.len - hdrLen := by
  rw [ciphertext, length_encryptBlocks, List.length_drop]
  rfl

theorem length_sealedFrame (hready : Ready skb hdrLen 8 8) :
    (sealedFrame aes key skb hdrLen).len = hdrLen + 8 + (skb.len - hdrLen + 8) := by
  rw [sealedFrame, Skb.len_sealed hready.fits, List.length_append, length_ciphertext,
    length_sentMic]
  rfl

theorem encrypt_eq (hready : Ready skb hdrLen 8 8) :
    (rtllibCcmpEncrypt aes key skb hdrLen).1 = some (sealedFrame aes key skb hdrLen) := by
  have hroom : ¬ (skb.headroom < 8 ∨ skb.tailroom < 8 ∨ skb.len < hdrLen) := by
    have h1 := hready.headroom
    have h2 := hready.tailroom
    have h3 := hready.fits
    omega
  have hsoft : ¬ skb.bHwSec = true := by simp [hready.software]
  have hpayload : (skb.pushIv hdrLen (nextHeader key)).data.drop (hdrLen + 8) =
      skb.data.drop hdrLen := by
    have hfront : (skb.data.take hdrLen ++ nextHeader key).length = hdrLen + 8 := by
      rw [List.length_append, Skb.length_take_header hready.fits]
      rfl
    exact List.drop_left' hfront
  have hcipher : encryptBlocks aes key.tfm (nextBlocks aes key skb hdrLen).1
      ((skb.len - hdrLen + 15) / 16) 1 ((skb.pushIv hdrLen (nextHeader key)).data.drop (hdrLen + 8))
      (nextBlocks aes key skb hdrLen).2.1 = ciphertext aes key skb hdrLen := by
    rw [hpayload, ciphertext]
  have hsent : ((skb.pushIv hdrLen (nextHeader key)).setFrom (hdrLen + 8)
      (ciphertext aes key skb hdrLen).1).put (sentMic aes key skb hdrLen) =
      sealedFrame aes key skb hdrLen := by
    have hmic : (sentMic aes key skb hdrLen).length = 8 := length_sentMic
    rw [sealedFrame, ← hmic]
    exact Skb.put_setFrom_pushIv hready.fits _
  unfold rtllibCcmpEncrypt
  rw [if_neg hroom]
  refine (congrArg Prod.fst (if_neg hsoft)).trans (congrArg some (Eq.trans ?_ hsent))
  exact congrArg (fun r : List Byte × Block =>
    ((skb.pushIv hdrLen (nextHeader key)).setFrom (hdrLen + 8) r.1).put
      ((List.ofFn (xorBlock r.2 (List.ofFn (nextBlocks aes key skb hdrLen).2.2))).take 8)) hcipher

/-! ### What the receiver finds in the frame -/

theorem byte_sealedFrame (hready : Ready skb hdrLen 8 8) {j : Nat} (hj : j < 8) :
    (sealedFrame aes key skb hdrLen).byte (hdrLen + j) = (nextHeader key).getD j 0 :=
  Skb.byte_sealed_iv hready.fits hj

theorem pn_of_header {frame : Skb} (hpn : key.txPn.length = 6)
    (h : ∀ j < 8, frame.byte (hdrLen + j) = (nextHeader key).getD j 0) :
    rxFramePn frame hdrLen = nextPn key := by
  have h0 : frame.byte hdrLen = (nextHeader key).getD 0 0 := h 0 (by decide)
  have hlen : (nextPn key).length = 6 := (Digits.length_increment _).trans hpn
  unfold rxFramePn
  rw [h0, h 1 (by decide), h 4 (by decide), h 5 (by decide), h 6 (by decide), h 7 (by decide)]
  unfold nextHeader ccmpHeader
  match nextPn key, hlen with
  | [_, _, _, _, _, _], _ => rfl

theorem pn_sealedFrame (hready : Ready skb hdrLen 8 8) (hpn : key.txPn.length = 6) :
    rxFramePn (sealedFrame aes key skb hdrLen) hdrLen = nextPn key :=
  pn_of_header hpn fun _ hj => byte_sealedFrame hready hj

theorem blocks_sealedFrame (hready : Ready skb hdrLen 8 8) :
    ccmpInitBlocks aes key.tfm (sealedFrame aes key skb hdrLen) (nextPn key) (skb.len - hdrLen) =
      nextBlocks aes key skb hdrLen := by
  apply ccmpInitBlocks_congr
  intro i hi
  have h24 := hready.three
  have hin : i < hdrLen + (nextHeader key).length := by
    have hlen : (nextHeader key).length = 8 := rfl
    omega
  rw [sealedFrame, Skb.byte_sealed hready.fits hin, Skb.byte_pushIv hready.fits hin]

theorem mic_sealedFrame (hready : Ready skb hdrLen 8 8) :
    (sealedFrame aes key skb hdrLen).bytes ((sealedFrame aes key skb hdrLen).len - 8) 8 =
      sentMic aes key skb hdrLen := by
  have hat : (sealedFrame aes key skb hdrLen).len - 8 = hdrLen + 8 + (skb.len - hdrLen) := by
    rw [length_sealedFrame hready]
    omega
  rw [hat]
  refine (Skb.bytes_sealed hready.fits _ _).trans ?_
  rw [List.drop_left' length_ciphertext]
  exact List.take_of_length_le length_sentMic.le

theorem ccmpOpen_sealedFrame (hready : Ready skb hdrLen 8 8) (h : Agree key rkey) :
    ccmpOpen aes rkey (sealedFrame aes key skb hdrLen) hdrLen = some (skb.data.drop hdrLen) := by
  have hlen : (sealedFrame aes key skb hdrLen).len - hdrLen - 8 - 8 = skb.len - hdrLen := by
    rw [length_sealedFrame hready]
    omega
  have hbody : (sealedFrame aes key skb hdrLen).bytes (hdrLen + 8) (skb.len - hdrLen) =
      (ciphertext aes key skb hdrLen).1 :=
    (Skb.bytes_sealed hready.fits 0 _).trans (List.take_left' length_ciphertext)
  have hfits : (skb.data.drop hdrLen).length ≤ 16 * ((skb.len - hdrLen + 15) / 16) := by
    rw [List.length_drop]
    unfold Skb.len
    omega
  have hloop : decryptBlocks aes key.tfm (nextBlocks aes key skb hdrLen).1
      ((skb.len - hdrLen + 15) / 16) 1 (ciphertext aes key skb hdrLen).1
      (nextBlocks aes key skb hdrLen).2.1 =
      (skb.data.drop hdrLen, (ciphertext aes key skb hdrLen).2) :=
    decryptBlocks_encryptBlocks aes key.tfm _ _ 1 _ hfits
  unfold ccmpOpen
  simp only [hlen, mic_sealedFrame hready, hbody, h.sameKey, pn_sealedFrame hready h.txPn,
    blocks_sealedFrame hready, hloop]
  rw [sentMic, xorData_mic, if_pos rfl]

theorem decrypt_sealedFrame (hready : Ready skb hdrLen 8 8) (h : Agree key rkey) :
    (rtllibCcmpDecrypt aes rkey (sealedFrame aes key skb hdrLen) hdrLen).1 =
      .ok (key.keyIdx, skb) := by
  -- What one side has sealed the other opens.
  obtain ⟨hidx, hext⟩ := keyIdx_shift_extIv h.index
  have hoctet : (sealedFrame aes key skb hdrLen).byte (hdrLen + 3) = key.keyIdx <<< 6 ||| 0x20 :=
    byte_sealedFrame hready (by decide)
  have hlong : ¬ (sealedFrame aes key skb hdrLen).len < hdrLen + 8 + 8 := by
    rw [length_sealedFrame hready]
    omega
  have hnewer : Digits.memcmp (nextPn key) rkey.rxPn = .gt := by
    rw [Digits.memcmp_gt_iff]
    · exact h.newer
    · rw [h.rxPn, nextPn, Digits.length_increment, h.txPn]
  have hsoft : ¬ (sealedFrame aes key skb hdrLen).bHwSec = true :=
    show ¬ skb.bHwSec = true by simp [hready.software]
  have hopen : (((sealedFrame aes key skb hdrLen).setFrom (hdrLen + 8)
      (skb.data.drop hdrLen ++ sentMic aes key skb hdrLen)).pullIv hdrLen 8).trimEnd 8 = skb :=
    Skb.open_sealed hready.fits (show (nextHeader key).length ≤ skb.headroom from hready.headroom)
      hready.tailroom length_sentMic
  unfold rtllibCcmpDecrypt
  rw [if_neg hlong]
  simp only [hoctet, hext, hidx, h.sameIndex, h.keySet, pn_sealedFrame hready h.txPn, hnewer,
    Bool.true_eq_false, ne_eq, not_true_eq_false, if_false, if_neg hsoft,
    ccmpOpen_sealedFrame hready h, mic_sealedFrame hready, hopen]

end Ccmp

/-- For each cipher in software, and every frame: the receiver gets back the frame as it was. With
TKIP it also finds the MIC right, if it verifies with the key that the sender used. -/
theorem round_trip (aes : Ccmp.Key → Ccmp.Block → Ccmp.Block) (prim : Tkip.Primitives)
    (hrc4 : StreamCipher prim.arc4) :
    (∀ (wep rwep : Wep.WepData) (skb : Skb) (hdrLen : Nat),
      Ready skb hdrLen 4 4 → Wep.Agree wep rwep →
      ∃ enc, (Wep.prism2WepEncrypt prim false wep skb hdrLen).1 = some enc ∧
        Wep.prism2WepDecrypt prim false rwep enc hdrLen = .ok skb) ∧
    (∀ (tkey rkey : Tkip.TkipData) (skb : Skb) (hdrLen : Nat),
      Ready skb hdrLen 8 4 → Tkip.Agree skb.addr2 tkey rkey →
      ∃ enc keyidx, (Tkip.rtllibTkipEncrypt prim false tkey skb hdrLen).1 = some enc ∧
        (Tkip.rtllibTkipDecrypt prim false rkey enc hdrLen).1 = .ok (keyidx, skb)) ∧
    (∀ (tkey rkey : Tkip.TkipData) (skb : Skb) (hdrLen : Nat),
      Ready skb hdrLen 8 12 → Tkip.Agree skb.addr2 tkey rkey →
      Tkip.michaelKey rkey.key 24 = Tkip.michaelKey tkey.key 16 →
      ∃ skb' enc keyidx rkey', Tkip.rtllibMichaelMicAdd prim false tkey skb hdrLen = some skb' ∧
        (Tkip.rtllibTkipEncrypt prim false tkey skb' hdrLen).1 = some enc ∧
        Tkip.rtllibTkipDecrypt prim false rkey enc hdrLen = (.ok (keyidx, skb'), rkey') ∧
        (Tkip.rtllibMichaelMicVerify prim false false rkey' skb' hdrLen).1 = .ok skb) ∧
    (∀ (key rkey : Ccmp.CcmpData) (skb : Skb) (hdrLen : Nat),
      Ready skb hdrLen 8 8 → Ccmp.Agree key rkey →
      ∃ enc, (Ccmp.rtllibCcmpEncrypt aes key skb hdrLen).1 = some enc ∧
        (Ccmp.rtllibCcmpDecrypt aes rkey enc hdrLen).1 = .ok (key.keyIdx, skb)) := by
  refine ⟨?_, ?_, ?_, ?_⟩
  · intro wep rwep skb hdrLen hready h
    exact ⟨_, Wep.encrypt_eq hready, Wep.decrypt_sealedFrame hrc4 hready h⟩
  · intro tkey rkey skb hdrLen hready h
    obtain ⟨keyidx, rkey', hdecrypt, -⟩ := Tkip.decrypt_sealedFrame hrc4 hready h.meets
    exact ⟨_, keyidx, Tkip.encrypt_eq hready h.txCoherent, congrArg Prod.fst hdecrypt⟩
  · intro tkey rkey skb hdrLen hready h hkey
    exact Tkip.verify_sealedFrame hrc4 hready h hkey
  · intro key rkey skb hdrLen hready h
    exact ⟨_, Ccmp.encrypt_eq hready, Ccmp.decrypt_sealedFrame hready h⟩

/-- A key stream of one byte, and a MIC that is the key -/
def simplePrimitives : Tkip.Primitives where
  arc4 key data := data.map (· ^^^ key.headD 0)
  crc32 data := BitVec.ofNat 32 data.length
  michael key _ i := key.getD i 0

theorem streamCipher_simple : StreamCipher simplePrimitives.arc4 where
  length key data := List.length_map _
  involutive key data := by
    have hcancel (b : Byte) : b ^^^ key.headD 0 ^^^ key.headD 0 = b := by
      rw [BitVec.xor_assoc, BitVec.xor_self, BitVec.xor_zero]
    simp only [simplePrimitives, List.map_map, Function.comp_def, hcancel, List.map_id']

/-- A data frame with three addresses and three bytes of payload -/
def simpleFrame : Skb := ⟨8, 0x08 :: List.replicate 23 1 ++ [7, 8, 9], 12, false, 0⟩

theorem ready_simpleFrame : Ready simpleFrame 24 8 12 := by
  refine ⟨by decide, ?_, by decide, rfl, by decide, by decide⟩
  decide

/-- A TKIP context that has a key and saw no frame, with both Michael keys the same -/
def freshTkip (key : Tkip.Key) : Tkip.TkipData :=
  ⟨key, true, 0, 1, ⟨0, 0, 0, 0, 0⟩, false, 0, 0, false, ⟨0, 0, 0, 0, 0⟩, false, 0, 0, 0, 0, 0, 2⟩

theorem agree_freshTkip (key : Tkip.Key) (ta : Addr) :
    Tkip.Agree ta (freshTkip key) (freshTkip key) where
  index := show (2 : Byte).toNat < 4 by decide
  sameIndex := rfl
  keySet := rfl
  temporal := fun _ _ => rfl
  newer := show Tkip.tsc 0 0 < Tkip.tsc 0 1 by decide
  txCoherent := nofun
  rxCoherent := nofun

def freshCcmp : Ccmp.CcmpData :=
  ⟨fun _ => 3, true, List.replicate 6 0, List.replicate 6 0, 0, 0, 0, 1, fun _ => 3⟩

theorem agree_freshCcmp : Ccmp.Agree freshCcmp freshCcmp :=
  ⟨by decide, rfl, rfl, rfl, rfl, rfl, by decide⟩

theorem Ready.mono {skb : Skb} {hdrLen head tail head' tail' : Nat} (h : Ready skb hdrLen head tail)
    (hhead : head' ≤ head) (htail : tail' ≤ tail) : Ready skb hdrLen head' tail' :=
  ⟨h.three, h.four, h.fits, h.software, hhead.trans h.headroom, htail.trans h.tailroom⟩

theorem round_trip_simple :
    (∃ enc, (Wep.prism2WepEncrypt simplePrimitives false ⟨0, [1, 2, 3, 4, 5], 3⟩ simpleFrame 24).1 =
        some enc ∧
      Wep.prism2WepDecrypt simplePrimitives false ⟨9, [1, 2, 3, 4, 5], 3⟩ enc 24 =
        .ok simpleFrame) ∧
    (∃ enc keyidx, (Tkip.rtllibTkipEncrypt simplePrimitives false (freshTkip fun i =>
        BitVec.ofNat 8 i.val) simpleFrame 24).1 = some enc ∧
      (Tkip.rtllibTkipDecrypt simplePrimitives false (freshTkip fun i =>
        BitVec.ofNat 8 i.val) enc 24).1 = .ok (keyidx, simpleFrame)) ∧
    (∃ skb' enc keyidx rkey',
      Tkip.rtllibMichaelMicAdd simplePrimitives false (freshTkip fun _ => 3) simpleFrame 24 =
        some skb' ∧
      (Tkip.rtllibTkipEncrypt simplePrimitives false (freshTkip fun _ => 3) skb' 24).1 = some enc ∧
      Tkip.rtllibTkipDecrypt simplePrimitives false (freshTkip fun _ => 3) enc 24 =
        (.ok (keyidx, skb'), rkey') ∧
      (Tkip.rtllibMichaelMicVerify simplePrimitives false false rkey' skb' 24).1 =
        .ok simpleFrame) ∧
    ∃ enc, (Ccmp.rtllibCcmpEncrypt (fun _ b => b) freshCcmp simpleFrame 24).1 = some enc ∧
      (Ccmp.rtllibCcmpDecrypt (fun _ b => b) freshCcmp enc 24).1 = .ok (1, simpleFrame) := by
  obtain ⟨hwep, htkip, hmichael, hccmp⟩ :=
    round_trip (fun _ b => b) simplePrimitives streamCipher_simple
  refine ⟨?_, ?_, ?_, ?_⟩
  · exact hwep _ _ _ _ (ready_simpleFrame.mono (by decide) (by decide)) ⟨by decide, rfl, rfl⟩
  · exact htkip _ _ _ _ (ready_simpleFrame.mono le_rfl (by decide)) (agree_freshTkip _ _)
  · exact hmichael _ _ _ _ ready_simpleFrame (agree_freshTkip _ _) rfl
  · exact hccmp _ _ _ _ (ready_simpleFrame.mono le_rfl (by decide)) agree_freshCcmp

/-- The two ends use different bytes of the key for Michael. -/
theorem same_key_not_always_verified :
    ¬ ∀ (prim : Tkip.Primitives) (tkey rkey : Tkip.TkipData) (skb : Skb) (hdrLen : Nat),
      StreamCipher prim.arc4 → Ready skb hdrLen 8 12 → Tkip.Agree skb.addr2 tkey rkey →
      rkey.key = tkey.key →
      ∃ skb' enc keyidx rkey', Tkip.rtllibMichaelMicAdd prim false tkey skb hdrLen = some skb' ∧
        (Tkip.rtllibTkipEncrypt prim false tkey skb' hdrLen).1 = some enc ∧
        Tkip.rtllibTkipDecrypt prim false rkey enc hdrLen = (.ok (keyidx, skb'), rkey') ∧
        (Tkip.rtllibMichaelMicVerify prim false false rkey' skb' hdrLen).1 = .ok skb := by
  intro h
  let key : Tkip.Key := fun i => BitVec.ofNat 8 i.val
  obtain ⟨skb', enc, keyidx, rkey', hmic, henc, hdecrypt, hverify⟩ := h simplePrimitives
    (freshTkip key) (freshTkip key) simpleFrame 24 streamCipher_simple ready_simpleFrame
    (agree_freshTkip key _) rfl
  have hadd : Tkip.rtllibMichaelMicAdd simplePrimitives false (freshTkip key) simpleFrame 24 = _ :=
    Tkip.micAdd_eq ready_simpleFrame
  rw [hadd] at hmic
  cases hmic
  have hready := Tkip.ready_put ready_simpleFrame
    (Tkip.length_sentMic : (Tkip.sentMic simplePrimitives (freshTkip key) simpleFrame 24).length = 8)
  have hsent : (Tkip.rtllibTkipEncrypt simplePrimitives false (freshTkip key) _ 24).1 = some _ :=
    Tkip.encrypt_eq hready nofun
  rw [hsent] at henc
  cases henc
  obtain ⟨keyidx', rkey'', hdecrypt', hsame, -⟩ := Tkip.decrypt_sealedFrame streamCipher_simple hready
    (agree_freshTkip key _).meets
  rw [hdecrypt'] at hdecrypt
  cases hdecrypt
  have hmics := Tkip.mic_of_verify (hsame.keySet.trans rfl) ready_simpleFrame hverify
  rw [hsame.key] at hmics
  exact absurd hmics (by decide)

end Rtl8190.Crypt
