import Rtl8190.Crypt.Code
import Rtl8190.Lib.Digits

/-!
# CCMP

`rtllib_crypt_ccmp.c`. AES is a parameter: a function from a key and a block to a block.
-/

open Rtl8190.Memory Rtl8190.Rx

namespace Rtl8190.Crypt.Ccmp

abbrev Block := Fin 16 → Byte

/-- `u8[CCMP_TK_LEN]` -/
abbrev Key := Fin 16 → Byte

/-- `struct rtllib_ccmp_data`. A packet number is six bytes, the most significant one first. -/
structure CcmpData where
  key : Key
  keySet : Bool
  txPn : List Byte
  rxPn : List Byte
  dot11RsnaStatsCcmpFormatErrors : BitVec 32
  dot11RsnaStatsCcmpReplays : BitVec 32
  dot11RsnaStatsCcmpDecryptErrors : BitVec 32
  keyIdx : Byte
  tfm : Key

variable (aes : Key → Block → Block)

def xorBlock (b : Block) (a : List Byte) : Block :=
  fun i => if h : i.val < a.length then b i ^^^ a.get ⟨i, h⟩ else b i

def xorData (pos : List Byte) (e : Block) : List Byte := pos.zipWith (· ^^^ ·) (List.ofFn e)

/-! ## The blocks -/

def a4Included (skb : Skb) : Bool := toDs skb.frameCtl && fromDs skb.frameCtl

def qcIncluded (skb : Skb) : Bool :=
  decide (fcType skb.frameCtl = ftypeData) && decide (fcStype skb.frameCtl &&& 0x0080 ≠ 0)

def qc (skb : Skb) : Byte :=
  if qcIncluded skb then skb.byte (if a4Included skb then 30 else 24) &&& 0x0f else 0

/-- `b0`: flags, nonce and length. -/
def initialBlock (skb : Skb) (pn : List Byte) (dlen : Nat) : Block :=
  fun i =>
    if i.val = 0 then 0x59
    else if i.val = 1 then qc skb
    else if i.val < 8 then skb.byte (10 + (i - 2))
    else if i.val < 14 then pn.getD (i - 8) 0
    else if i.val = 14 then BitVec.ofNat 8 (dlen / 256)
    else BitVec.ofNat 8 dlen

def aad (skb : Skb) (i : Nat) : Byte :=
  let aadLen := 22 + (if a4Included skb then 6 else 0) + (if qcIncluded skb then 2 else 0)
  if i = 0 then 0
  else if i = 1 then BitVec.ofNat 8 aadLen
  else if i = 2 then skb.byte 0 &&& 0x8f
  else if i = 3 then skb.byte 1 &&& 0xc7
  -- `addr1`, `addr2` and `addr3`, which lie in the header where they lie in `aad`.
  else if i < 22 then skb.byte i
  else if i = 22 then skb.byte 22 &&& 0x0f
  else if i = 23 then 0
  else if qcIncluded skb ∧ i = (if a4Included skb then 30 else 24) then qc skb
  else if a4Included skb ∧ i < 30 then skb.byte i
  else 0

def counterBlock (b0 : Block) (i : Nat) : Block :=
  fun j =>
    if j.val = 0 then b0 0 &&& 0x07
    else if j.val = 14 then BitVec.ofNat 8 (i / 256)
    else if j.val = 15 then BitVec.ofNat 8 i
    else b0 j

def ccmpInitBlocks (tfm : Key) (skb : Skb) (pn : List Byte) (dlen : Nat) : Block × Block × Block :=
  let b0 := initialBlock skb pn dlen
  let auth := aes tfm b0
  let auth := aes tfm (xorBlock auth ((List.range 16).map (aad skb)))
  let auth := aes tfm (xorBlock auth ((List.range 16).map fun i => aad skb (16 + i)))
  let b0 := counterBlock b0 0
  (b0, auth, aes tfm b0)

/-- The loop over the blocks of `rtllib_ccmp_encrypt`, with how many are left: the ciphertext and
the authentication block. The last block has what is left of the data. -/
def encryptBlocks (tfm : Key) (b0 : Block) : Nat → Nat → List Byte → Block → List Byte × Block
  | 0, _, pos, b => (pos, b)
  | blocks + 1, i, pos, b =>
    let chunk := pos.take 16
    let b := aes tfm (xorBlock b chunk)
    let e := aes tfm (counterBlock b0 i)
    let r := encryptBlocks tfm b0 blocks (i + 1) (pos.drop 16) b
    (xorData chunk e ++ r.1, r.2)

/-- The loop over the blocks of `rtllib_ccmp_decrypt`. -/
def decryptBlocks (tfm : Key) (b0 : Block) : Nat → Nat → List Byte → Block → List Byte × Block
  | 0, _, pos, a => (pos, a)
  | blocks + 1, i, pos, a =>
    let b := aes tfm (counterBlock b0 i)
    let chunk := xorData (pos.take 16) b
    let a := aes tfm (xorBlock a chunk)
    let r := decryptBlocks tfm b0 blocks (i + 1) (pos.drop 16) a
    (chunk ++ r.1, r.2)

/-! ## Encryption -/

/-- The eight bytes that carry the packet number. -/
def ccmpHeader (pn : List Byte) (keyIdx : Byte) : List Byte :=
  [pn.getD 5 0, pn.getD 4 0, 0, keyIdx <<< 6 ||| 0x20, pn.getD 3 0, pn.getD 2 0, pn.getD 1 0,
    pn.getD 0 0]

/-- `rtllib_ccmp_encrypt`: `none` for a negative result. -/
def rtllibCcmpEncrypt (key : CcmpData) (skb : Skb) (hdrLen : Nat) : Option Skb × CcmpData :=
  if skb.headroom < 8 ∨ skb.tailroom < 8 ∨ skb.len < hdrLen then (none, key)
  else
    let dataLen := skb.len - hdrLen
    let key := { key with txPn := (Digits.increment key.txPn).1 }
    let skb := skb.pushIv hdrLen (ccmpHeader key.txPn key.keyIdx)
    if skb.bHwSec then (some skb, key)
    else
      let blocks := ccmpInitBlocks aes key.tfm skb key.txPn dataLen
      let r := encryptBlocks aes key.tfm blocks.1 ((dataLen + 15) / 16) 1
        (skb.data.drop (hdrLen + 8)) blocks.2.1
      let mic := (List.ofFn (xorBlock r.2 (List.ofFn blocks.2.2))).take 8
      (some ((skb.setFrom (hdrLen + 8) r.1).put mic), key)

/-! ## Decryption -/

/-- `pn` of a received frame, the most significant byte first. -/
def rxFramePn (skb : Skb) (hdrLen : Nat) : List Byte :=
  [skb.byte (hdrLen + 7), skb.byte (hdrLen + 6), skb.byte (hdrLen + 5), skb.byte (hdrLen + 4),
    skb.byte (hdrLen + 1), skb.byte hdrLen]

/-- The check of the MIC in `rtllib_ccmp_decrypt`: the payload, if the MIC is right. -/
def ccmpOpen (key : CcmpData) (skb : Skb) (hdrLen : Nat) : Option (List Byte) :=
  let dataLen := skb.len - hdrLen - 8 - 8
  let blocks := ccmpInitBlocks aes key.tfm skb (rxFramePn skb hdrLen) dataLen
  let mic := xorData (skb.bytes (skb.len - 8) 8) blocks.2.2
  let r := decryptBlocks aes key.tfm blocks.1 ((dataLen + 15) / 16) 1
    (skb.bytes (hdrLen + 8) dataLen) blocks.2.1
  if mic = (List.ofFn r.2).take 8 then some r.1 else none

/-- `rtllib_ccmp_decrypt`: the error, or the key index and the frame without the fields of CCMP. -/
def rtllibCcmpDecrypt (key : CcmpData) (skb : Skb) (hdrLen : Nat) :
    Except Int (Byte × Skb) × CcmpData :=
  if skb.len < hdrLen + 8 + 8 then
    (.error (-1), { key with
      dot11RsnaStatsCcmpFormatErrors := key.dot11RsnaStatsCcmpFormatErrors + 1 })
  else
    let keyidx := skb.byte (hdrLen + 3)
    if keyidx.getLsbD 5 = false then
      (.error (-2), { key with
        dot11RsnaStatsCcmpFormatErrors := key.dot11RsnaStatsCcmpFormatErrors + 1 })
    else
      let keyidx := keyidx >>> 6
      if key.keyIdx ≠ keyidx then (.error (-6), key)
      else if key.keySet = false then (.error (-3), key)
      else
        let pn := rxFramePn skb hdrLen
        if Digits.memcmp pn key.rxPn ≠ .gt then
          (.error (-4), { key with dot11RsnaStatsCcmpReplays := key.dot11RsnaStatsCcmpReplays + 1 })
        else if skb.bHwSec then (.ok (keyidx, (skb.pullIv hdrLen 8).trimEnd 8), key)
        else
          match ccmpOpen aes key skb hdrLen with
          | none => (.error (-5), { key with
              dot11RsnaStatsCcmpDecryptErrors := key.dot11RsnaStatsCcmpDecryptErrors + 1 })
          | some payload =>
            let skb := skb.setFrom (hdrLen + 8) (payload ++ skb.bytes (skb.len - 8) 8)
            (.ok (keyidx, (skb.pullIv hdrLen 8).trimEnd 8), { key with rxPn := pn })

/-! ## Keys -/

def rtllibCcmpSetKey (key : Nat → Byte) (len : Int) (seq : Option (Fin 6 → Byte)) (data : CcmpData) :
    Bool × CcmpData :=
  let data : CcmpData := ⟨fun _ => 0, false, List.replicate 6 0, List.replicate 6 0, 0, 0, 0,
    data.keyIdx, data.tfm⟩
  if len = 16 then
    let tk : Key := fun i => key i
    let rxPn := match seq with
      | some seq => [seq 5, seq 4, seq 3, seq 2, seq 1, seq 0]
      | none => data.rxPn
    (true, { data with key := tk, keySet := true, rxPn, tfm := tk })
  else if len = 0 then (true, { data with keySet := false })
  else (false, data)

/-- `rtllib_ccmp_get_key`, with a buffer for the number or without -/
def rtllibCcmpGetKey (len : Int) (seq : Bool) (data : CcmpData) : KeyReport :=
  if len < 16 then ⟨-1, none, none⟩
  else if data.keySet = false then ⟨0, none, none⟩
  else ⟨16, some (List.ofFn data.key), if seq then some data.txPn.reverse else none⟩

end Rtl8190.Crypt.Ccmp
