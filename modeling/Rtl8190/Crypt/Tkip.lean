import Rtl8190.Crypt.Code

/-!
# TKIP

`rtllib_crypt_tkip.c`, on a little-endian host. RC4, CRC-32 and Michael are parameters.
-/

open Rtl8190.Memory Rtl8190.Rx

namespace Rtl8190.Crypt.Tkip

/-! ## Key mixing -/

def sbox : Array (BitVec 16) := #[
  0xC6A5, 0xF884, 0xEE99, 0xF68D, 0xFF0D, 0xD6BD, 0xDEB1, 0x9154,
  0x6050, 0x0203, 0xCEA9, 0x567D, 0xE719, 0xB562, 0x4DE6, 0xEC9A,
  0x8F45, 0x1F9D, 0x8940, 0xFA87, 0xEF15, 0xB2EB, 0x8EC9, 0xFB0B,
  0x41EC, 0xB367, 0x5FFD, 0x45EA, 0x23BF, 0x53F7, 0xE496, 0x9B5B,
  0x75C2, 0xE11C, 0x3DAE, 0x4C6A, 0x6C5A, 0x7E41, 0xF502, 0x834F,
  0x685C, 0x51F4, 0xD134, 0xF908, 0xE293, 0xAB73, 0x6253, 0x2A3F,
  0x080C, 0x9552, 0x4665, 0x9D5E, 0x3028, 0x37A1, 0x0A0F, 0x2FB5,
  0x0E09, 0x2436, 0x1B9B, 0xDF3D, 0xCD26, 0x4E69, 0x7FCD, 0xEA9F,
  0x121B, 0x1D9E, 0x5874, 0x342E, 0x362D, 0xDCB2, 0xB4EE, 0x5BFB,
  0xA4F6, 0x764D, 0xB761, 0x7DCE, 0x527B, 0xDD3E, 0x5E71, 0x1397,
  0xA6F5, 0xB968, 0x0000, 0xC12C, 0x4060, 0xE31F, 0x79C8, 0xB6ED,
  0xD4BE, 0x8D46, 0x67D9, 0x724B, 0x94DE, 0x98D4, 0xB0E8, 0x854A,
  0xBB6B, 0xC52A, 0x4FE5, 0xED16, 0x86C5, 0x9AD7, 0x6655, 0x1194,
  0x8ACF, 0xE910, 0x0406, 0xFE81, 0xA0F0, 0x7844, 0x25BA, 0x4BE3,
  0xA2F3, 0x5DFE, 0x80C0, 0x058A, 0x3FAD, 0x21BC, 0x7048, 0xF104,
  0x63DF, 0x77C1, 0xAF75, 0x4263, 0x2030, 0xE51A, 0xFD0E, 0xBF6D,
  0x814C, 0x1814, 0x2635, 0xC32F, 0xBEE1, 0x35A2, 0x88CC, 0x2E39,
  0x9357, 0x55F2, 0xFC82, 0x7A47, 0xC8AC, 0xBAE7, 0x322B, 0xE695,
  0xC0A0, 0x1998, 0x9ED1, 0xA37F, 0x4466, 0x547E, 0x3BAB, 0x0B83,
  0x8CCA, 0xC729, 0x6BD3, 0x283C, 0xA779, 0xBCE2, 0x161D, 0xAD76,
  0xDB3B, 0x6456, 0x744E, 0x141E, 0x92DB, 0x0C0A, 0x486C, 0xB8E4,
  0x9F5D, 0xBD6E, 0x43EF, 0xC4A6, 0x39A8, 0x31A4, 0xD337, 0xF28B,
  0xD532, 0x8B43, 0x6E59, 0xDAB7, 0x018C, 0xB164, 0x9CD2, 0x49E0,
  0xD8B4, 0xACFA, 0xF307, 0xCF25, 0xCAAF, 0xF48E, 0x47E9, 0x1018,
  0x6FD5, 0xF088, 0x4A6F, 0x5C72, 0x3824, 0x57F1, 0x73C7, 0x9751,
  0xCB23, 0xA17C, 0xE89C, 0x3E21, 0x96DD, 0x61DC, 0x0D86, 0x0F85,
  0xE090, 0x7C42, 0x71C4, 0xCCAA, 0x90D8, 0x0605, 0xF701, 0x1C12,
  0xC2A3, 0x6A5F, 0xAEF9, 0x69D0, 0x1791, 0x9958, 0x3A27, 0x27B9,
  0xD938, 0xEB13, 0x2BB3, 0x2233, 0xD2BB, 0xA970, 0x0789, 0x33A7,
  0x2DB6, 0x3C22, 0x1592, 0xC920, 0x8749, 0xAAFF, 0x5078, 0xA57A,
  0x038F, 0x59F8, 0x0980, 0x1A17, 0x65DA, 0xD731, 0x84C6, 0xD0B8,
  0x82C3, 0x29B0, 0x5A77, 0x1E11, 0x7BCB, 0xA8FC, 0x6DD6, 0x2C3A]

def lo8 (val : BitVec 16) : Byte := val.setWidth 8

def hi8 (val : BitVec 16) : Byte := (val >>> 8).setWidth 8

def s (v : BitVec 16) : BitVec 16 :=
  let t := sbox.getD (hi8 v).toNat 0
  sbox.getD (lo8 v).toNat 0 ^^^ (t <<< 8 ||| t >>> 8)

def rotR1 (val : BitVec 16) : BitVec 16 := val >>> 1 ||| val <<< 15

structure Ttak where
  t0 : BitVec 16
  t1 : BitVec 16
  t2 : BitVec 16
  t3 : BitVec 16
  t4 : BitVec 16
  deriving DecidableEq, Repr

abbrev Key := Fin 32 → Byte

/-- `Mk16(TK[i + 1], TK[i])`, which is also `Mk16_le` of the bytes at `i`. -/
def tk16 (key : Key) (i : Fin 31) : BitVec 16 := key i.succ ++ key i.castSucc

/-- One round of the loop in `tkip_mixing_phase1`, with `j` of 0 or 2. -/
def phase1Round (key : Key) (t : Ttak) (i : Nat) : Ttak :=
  let k := fun (n : Fin 15) => if i % 2 = 0 then tk16 key (n.castLE (by decide))
    else tk16 key ⟨n.val + 2, by omega⟩
  let t0 := t.t0 + s (t.t4 ^^^ k 0)
  let t1 := t.t1 + s (t0 ^^^ k 4)
  let t2 := t.t2 + s (t1 ^^^ k 8)
  let t3 := t.t3 + s (t2 ^^^ k 12)
  let t4 := t.t4 + s (t3 ^^^ k 0) + BitVec.ofNat 16 i
  ⟨t0, t1, t2, t3, t4⟩

def tkipMixingPhase1 (key : Key) (ta : Addr) (iv32 : BitVec 32) : Ttak :=
  (List.range 8).foldl (phase1Round key)
    ⟨iv32.setWidth 16, (iv32 >>> 16).setWidth 16, ta 1 ++ ta 0, ta 3 ++ ta 2, ta 5 ++ ta 4⟩

def tkipMixingPhase2 (key : Key) (ttak : Ttak) (iv16 : BitVec 16) : List Byte :=
  let ppk5 := ttak.t4 + iv16
  let ppk0 := ttak.t0 + s (ppk5 ^^^ tk16 key 0)
  let ppk1 := ttak.t1 + s (ppk0 ^^^ tk16 key 2)
  let ppk2 := ttak.t2 + s (ppk1 ^^^ tk16 key 4)
  let ppk3 := ttak.t3 + s (ppk2 ^^^ tk16 key 6)
  let ppk4 := ttak.t4 + s (ppk3 ^^^ tk16 key 8)
  let ppk5 := ppk5 + s (ppk4 ^^^ tk16 key 10)
  let ppk0 := ppk0 + rotR1 (ppk5 ^^^ tk16 key 12)
  let ppk1 := ppk1 + rotR1 (ppk0 ^^^ tk16 key 14)
  let ppk2 := ppk2 + rotR1 ppk1
  let ppk3 := ppk3 + rotR1 ppk2
  let ppk4 := ppk4 + rotR1 ppk3
  let ppk5 := ppk5 + rotR1 ppk4
  [hi8 iv16, (hi8 iv16 ||| 0x20) &&& 0x7f, lo8 iv16, lo8 ((ppk5 ^^^ tk16 key 0) >>> 1)] ++
    [ppk0, ppk1, ppk2, ppk3, ppk4, ppk5].flatMap le16

/-! ## State -/

structure TkipData where
  key : Key
  keySet : Bool
  txIv32 : BitVec 32
  txIv16 : BitVec 16
  txTtak : Ttak
  txPhase1Done : Bool
  rxIv32 : BitVec 32
  rxIv16 : BitVec 16
  initialized : Bool
  rxTtak : Ttak
  rxPhase1Done : Bool
  rxIv32New : BitVec 32
  rxIv16New : BitVec 16
  dot11RsnaStatsTkipReplays : BitVec 32
  dot11RsnaStatsTkipIcvErrors : BitVec 32
  dot11RsnaStatsTkipLocalMicFailures : BitVec 32
  keyIdx : Byte

structure Primitives where
  /-- The key and the data. -/
  arc4 : List Byte → List Byte → List Byte
  /-- `~crc32_le(~0, ..)` -/
  crc32 : List Byte → BitVec 32
  /-- The key and the message. -/
  michael : List Byte → List Byte → Fin 8 → Byte

variable (prim : Primitives)

def icv (data : List Byte) : List Byte :=
  let crc := prim.crc32 data
  [crc.setWidth 8, (crc >>> 8).setWidth 8, (crc >>> 16).setWidth 8, (crc >>> 24).setWidth 8]

/-! ## Encryption -/

/-- `rtllib_tkip_encrypt`: `none` for a negative result, which comes after all changes when RC4
fails. -/
def rtllibTkipEncrypt (arc4Fails : Bool) (tkey : TkipData) (skb : Skb) (hdrLen : Nat) :
    Option Skb × TkipData :=
  if skb.headroom < 8 ∨ skb.tailroom < 4 ∨ skb.len < hdrLen then (none, tkey)
  else
    let tkey : TkipData :=
      if skb.bHwSec = false ∧ tkey.txPhase1Done = false then
        { tkey with txTtak := tkipMixingPhase1 tkey.key skb.addr2 tkey.txIv32, txPhase1Done := true }
      else { tkey with txPhase1Done := true }
    let rc4key := tkipMixingPhase2 tkey.key tkey.txTtak tkey.txIv16
    let iv16 : List Byte :=
      if skb.bHwSec then
        [hi8 tkey.txIv16, (hi8 tkey.txIv16 ||| 0x20) &&& 0x7f, lo8 tkey.txIv16]
      else rc4key.take 3
    let iv32 := le16 (tkey.txIv32.setWidth 16) ++ le16 ((tkey.txIv32 >>> 16).setWidth 16)
    let data := skb.data.drop hdrLen
    let skb := skb.pushIv hdrLen (iv16 ++ [tkey.keyIdx <<< 6 ||| 0x20] ++ iv32)
    let out : Skb :=
      if skb.bHwSec then skb
      else (skb.put (icv prim data)).setFrom (hdrLen + 8) (prim.arc4 rc4key (data ++ icv prim data))
    let tkey := { tkey with txIv16 := tkey.txIv16 + 1 }
    let tkey : TkipData :=
      if tkey.txIv16 = 0 then { tkey with txPhase1Done := false, txIv32 := tkey.txIv32 + 1 } else tkey
    (if skb.bHwSec = false ∧ arc4Fails = true then none else some out, tkey)

/-! ## Decryption -/

def rxFrameIv16 (skb : Skb) (hdrLen : Nat) : BitVec 16 := skb.byte hdrLen ++ skb.byte (hdrLen + 2)

def rxFrameIv32 (skb : Skb) (hdrLen : Nat) : BitVec 32 :=
  (skb.byte (hdrLen + 7) ++ skb.byte (hdrLen + 6)) ++ (skb.byte (hdrLen + 5) ++ skb.byte (hdrLen + 4))

/-- `!tcb_desc->bHwSec || (skb->cb[0] == 1)` -/
def decryptsInSoftware (skb : Skb) : Bool := !skb.bHwSec || skb.cb0 == 1

def replayed (tkey : TkipData) (iv32 : BitVec 32) (iv16 : BitVec 16) : Bool :=
  (decide (iv32 < tkey.rxIv32) || (decide (iv32 = tkey.rxIv32) && decide (iv16 ≤ tkey.rxIv16))) &&
    tkey.initialized

/-- The phase 1 result for `iv32`, from the cache or computed into it. -/
def rxPhase1 (tkey : TkipData) (ta : Addr) (iv32 : BitVec 32) : TkipData :=
  if iv32 ≠ tkey.rxIv32 ∨ tkey.rxPhase1Done = false then
    { tkey with rxTtak := tkipMixingPhase1 tkey.key ta iv32, rxPhase1Done := true }
  else tkey

/-- The decryption of the payload with the phase 1 result `ttak`, and the check of the ICV: the
payload, if the ICV is right. -/
def tkipOpen (key : Key) (ttak : Ttak) (skb : Skb) (hdrLen : Nat) : Option (List Byte) :=
  let plen := skb.len - hdrLen - 12
  let plain := prim.arc4 (tkipMixingPhase2 key ttak (rxFrameIv16 skb hdrLen))
    (skb.bytes (hdrLen + 8) (plen + 4))
  if icv prim (plain.take plen) = plain.drop plen then some plain else none

def tkipAccept (tkey : TkipData) (skb : Skb) (hdrLen : Nat) (keyidx : Byte) (iv32 : BitVec 32)
    (iv16 : BitVec 16) : Except Int (Byte × Skb) × TkipData :=
  (.ok (keyidx, (skb.pullIv hdrLen 8).trimEnd 4), { tkey with rxIv32New := iv32, rxIv16New := iv16 })

def rtllibTkipDecrypt (arc4Fails : Bool) (tkey : TkipData) (skb : Skb) (hdrLen : Nat) :
    Except Int (Byte × Skb) × TkipData :=
  if skb.len < hdrLen + 8 + 4 then (.error (-1), tkey)
  else
    let keyidx := skb.byte (hdrLen + 3)
    if keyidx.getLsbD 5 = false then (.error (-2), tkey)
    else
      let keyidx := keyidx >>> 6
      if tkey.keyIdx ≠ keyidx then (.error (-6), tkey)
      else if tkey.keySet = false then (.error (-3), tkey)
      else
        let iv16 := rxFrameIv16 skb hdrLen
        let iv32 := rxFrameIv32 skb hdrLen
        if decryptsInSoftware skb then
          if replayed tkey iv32 iv16 then
            (.error (-4), { tkey with
              dot11RsnaStatsTkipReplays := tkey.dot11RsnaStatsTkipReplays + 1 })
          else
            let tkey := rxPhase1 { tkey with initialized := true } skb.addr2 iv32
            if arc4Fails then (.error (-7), tkey)
            else
              match tkipOpen prim tkey.key tkey.rxTtak skb hdrLen with
              | none =>
                (.error (-5), { tkey with
                  rxPhase1Done := if iv32 ≠ tkey.rxIv32 then false else tkey.rxPhase1Done
                  dot11RsnaStatsTkipIcvErrors := tkey.dot11RsnaStatsTkipIcvErrors + 1 })
              | some plain =>
                tkipAccept tkey (skb.setFrom (hdrLen + 8) plain) hdrLen keyidx iv32 iv16
        else tkipAccept tkey skb hdrLen keyidx iv32 iv16

/-! ## Michael -/

/-- `hdr` of `michael_mic_hdr`, with the priority that its callers write into it. -/
def michaelMicHdr (skb : Skb) (hdrLen : Nat) : List Byte :=
  let da := if toDs skb.frameCtl then skb.bytes 16 6 else skb.bytes 4 6
  let sa :=
    if fromDs skb.frameCtl then
      if toDs skb.frameCtl then skb.bytes 24 6 else skb.bytes 16 6
    else skb.bytes 10 6
  let priority := if qosHasSeq skb.frameCtl then skb.byte (hdrLen - 2) &&& 0x07 else 0
  da ++ sa ++ [priority, 0, 0, 0]

def michaelKey (key : Key) (i : Fin 25) : List Byte :=
  List.ofFn fun j : Fin 8 => key ⟨i + j, by omega⟩

/-- `mic` over the payload of `skb` -/
def michaelMic (key : List Byte) (skb : Skb) (hdrLen len : Nat) : List Byte :=
  List.ofFn (prim.michael key (michaelMicHdr skb hdrLen ++ skb.bytes hdrLen len))

def rtllibMichaelMicAdd (michaelFails : Bool) (tkey : TkipData) (skb : Skb) (hdrLen : Nat) :
    Option Skb :=
  if skb.tailroom < 8 ∨ skb.len < hdrLen then none
  else if michaelFails then none
  else some (skb.put (michaelMic prim (michaelKey tkey.key 16) skb hdrLen (skb.len - hdrLen)))

inductive MicVerify where
  /-- The length of the payload is below zero, and as a `size_t` it spans all memory. -/
  | oops
  | failed
  | ok (skb : Skb)

def rtllibMichaelMicVerify (michaelFails forceMicError : Bool) (tkey : TkipData) (skb : Skb)
    (hdrLen : Nat) : MicVerify × TkipData :=
  if tkey.keySet = false then (.failed, tkey)
  else if skb.len < hdrLen + 8 then (.oops, tkey)
  else if michaelFails then (.failed, tkey)
  else
    let mic := michaelMic prim (michaelKey tkey.key 24) skb hdrLen (skb.len - 8 - hdrLen)
    if mic ≠ skb.bytes (skb.len - 8) 8 ∨ forceMicError = true then
      (.failed, { tkey with
        dot11RsnaStatsTkipLocalMicFailures := tkey.dot11RsnaStatsTkipLocalMicFailures + 1 })
    else
      (.ok (skb.trimEnd 8), { tkey with rxIv32 := tkey.rxIv32New, rxIv16 := tkey.rxIv16New })

/-! ## Keys -/

def rtllibTkipSetKey (key : Nat → Byte) (len : Int) (seq : Option (Fin 6 → Byte)) (tkey : TkipData) :
    Bool × TkipData :=
  let tkey : TkipData := ⟨fun _ => 0, false, 0, 0, ⟨0, 0, 0, 0, 0⟩, false, 0, 0, false,
    ⟨0, 0, 0, 0, 0⟩, false, 0, 0, 0, 0, 0, tkey.keyIdx⟩
  if len = 32 then
    let tkey := { tkey with key := fun i => key i, keySet := true, txIv16 := 1 }
    match seq with
    | some seq => (true, { tkey with
        rxIv32 := (seq 5 ++ seq 4) ++ (seq 3 ++ seq 2)
        rxIv16 := seq 1 ++ seq 0 })
    | none => (true, tkey)
  else if len = 0 then (true, tkey)
  else (false, tkey)

/-- `iv32` and `iv16` of `rtllib_tkip_get_key`, which it computes and does not return. -/
def previousTsc (tkey : TkipData) : BitVec 32 × BitVec 16 :=
  (if tkey.txIv16 = 0 then tkey.txIv32 - 1 else tkey.txIv32, tkey.txIv16 - 1)

/-- `rtllib_tkip_get_key`, with a buffer for the number or without -/
def rtllibTkipGetKey (len : Int) (seq : Bool) (tkey : TkipData) : KeyReport :=
  if len < 32 then ⟨-1, none, none⟩
  else if tkey.keySet = false then ⟨0, none, none⟩
  else
    ⟨32, some (List.ofFn tkey.key), if seq then
      some (le16 tkey.txIv16 ++ le16 (tkey.txIv32.setWidth 16) ++
        le16 ((tkey.txIv32 >>> 16).setWidth 16)) else none⟩

end Rtl8190.Crypt.Tkip
