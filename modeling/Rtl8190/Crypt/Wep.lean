import Rtl8190.Crypt.Tkip

/-!
# WEP

`rtllib_crypt_wep.c`. RC4 and CRC-32 are parameters.
-/

open Rtl8190.Memory Rtl8190.Rx

namespace Rtl8190.Crypt.Wep

open Tkip (Primitives icv)

structure WepData where
  iv : BitVec 32
  key : List Byte
  keyIdx : Byte
  deriving DecidableEq, Repr

def WepData.keyOctet (wep : WepData) : Byte := wep.keyIdx <<< 6

variable (prim : Primitives)

/-- The `iv` of the next frame: the weak ones are left out. -/
def nextIv (iv : BitVec 32) (klen : Nat) : BitVec 32 :=
  let iv := iv + 1
  if iv &&& 0xff00 = 0xff00 then
    let b : Byte := (iv >>> 16).setWidth 8
    if 3 ≤ b.toNat ∧ b.toNat < klen then iv + 0x0100 else iv
  else iv

/-- The first three bytes of the RC4 key, which are sent. -/
def ivBytes (iv : BitVec 32) : List Byte :=
  [(iv >>> 16).setWidth 8, (iv >>> 8).setWidth 8, iv.setWidth 8]

/-- `prism2_wep_encrypt`: `none` for a result that is not 0, which comes after all changes when RC4
fails. -/
def prism2WepEncrypt (arc4Fails : Bool) (wep : WepData) (skb : Skb) (hdrLen : Nat) :
    Option Skb × WepData :=
  if skb.headroom < 4 ∨ skb.tailroom < 4 ∨ skb.len < hdrLen then (none, wep)
  else
    let wep := { wep with iv := nextIv wep.iv (3 + wep.key.length) }
    let key := ivBytes wep.iv ++ wep.key
    let data := skb.data.drop hdrLen
    let skb := skb.pushIv hdrLen (ivBytes wep.iv ++ [wep.keyOctet])
    if skb.bHwSec then (some skb, wep)
    else
      let out := (skb.put (icv prim data)).setFrom (hdrLen + 4) (prim.arc4 key (data ++ icv prim data))
      (if arc4Fails then none else some out, wep)

/-- The decryption of the payload, and the check of the ICV: the payload, if the ICV is right. -/
def wepOpen (wep : WepData) (skb : Skb) (hdrLen : Nat) : Option (List Byte) :=
  let plen := skb.len - hdrLen - 8
  let plain := prim.arc4 (skb.bytes hdrLen 3 ++ wep.key) (skb.bytes (hdrLen + 4) (plen + 4))
  if icv prim (plain.take plen) = plain.drop plen then some plain else none

/-- `prism2_wep_decrypt`: the error, or the frame without IV and ICV. It changes no state. -/
def prism2WepDecrypt (arc4Fails : Bool) (wep : WepData) (skb : Skb) (hdrLen : Nat) :
    Except Int Skb :=
  if skb.len < hdrLen + 8 then .error (-1)
  else if skb.byte (hdrLen + 3) >>> 6 ≠ wep.keyIdx then .error (-1)
  else if skb.bHwSec then .ok ((skb.pullIv hdrLen 4).trimEnd 4)
  else if arc4Fails then .error (-7)
  else
    match wepOpen prim wep skb hdrLen with
    | none => .error (-2)
    | some plain => .ok (((skb.setFrom (hdrLen + 4) plain).pullIv hdrLen 4).trimEnd 4)

def prism2WepSetKey (key : Nat → Byte) (len : Int) (wep : WepData) : Bool × WepData :=
  if len < 0 ∨ 13 < len then (false, wep)
  else (true, { wep with key := (List.range len.toNat).map key })

/-- `prism2_wep_get_key`, which gives no number. -/
def prism2WepGetKey (len : Int) (wep : WepData) : KeyReport :=
  if len < wep.key.length then ⟨-1, none, none⟩
  else ⟨wep.key.length, some wep.key, none⟩

end Rtl8190.Crypt.Wep
