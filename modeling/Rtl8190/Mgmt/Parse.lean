import Rtl8190.Association.Code
import Rtl8190.BlockAck.RoundTrip
import Rtl8190.Rx.Code

/-!
# Received management frames

The parsers of `rtllib_softmac.c` and `rtllib_process_action`. `mem` is memory from `skb->data` on,
also beyond the frame, and `len` is `skb->len`. The headers are packed: 24 bytes, then the fixed
fields.
-/

open Rtl8190.Memory

namespace Rtl8190.Mgmt

def readAddr (mem : Nat → Byte) (off : Nat) : Reads Nat Addr := do
  let addr ← copy (fun i => read mem (off + i)) (fun _ => 0) 6
  pure fun i => addr i

/-! ## Authentication -/

def mfieTypeChallenge : Byte := 16

/-- The part of `auth_parse` that looks for a challenge -/
def authChallenge (mem : Nat → Byte) (len : Nat) : Reads Nat (Option (List Byte)) :=
  if len > 30 + 3 then do
    let id ← read mem 30
    if id = mfieTypeChallenge then do
      let chlen ← read mem 31
      let challenge ← copy (fun i => read mem (32 + i)) (fun _ => 0) chlen.toNat
      pure (some ((List.range chlen.toNat).map challenge))
    else pure none
  else pure none

def authParse (mem : Nat → Byte) (len : Nat) : Reads Nat (BitVec 16 × Option (List Byte)) :=
  if len < 30 - 2 then pure (0xcafe, none)
  else do
    let challenge ← authChallenge mem len
    let status ← read16 mem 28
    pure (status, challenge)

def authRqParse (mem : Nat → Byte) (len : Nat) : Reads Nat (Option (Addr × Nat)) :=
  if len < 30 - 2 then pure none
  else do
    let dest ← readAddr mem 10
    let algorithm ← read16 mem 24
    pure (some (dest, if algorithm ≠ 0 then 13 else 0))

/-! ## Association -/

def assocRqParse (mem : Nat → Byte) (len : Nat) : Reads Nat (Option Addr) :=
  if len < 28 - 2 then pure none
  else do
    let dest ← readAddr mem 10
    pure (some dest)

def assocParse (env : Association.Env) (ieee : Association.Device) (mem : Nat → Byte) (len : Nat) :
    Reads Nat (BitVec 16 × BitVec 16 × Byte) :=
  if len < 30 then pure (0xcafe, ieee.assocId, ieee.asocRetryCount)
  else do
    let aid ← read16 mem 28
    let statusCode ← read16 mem 26
    let counts := (statusCode = 18 ∨ statusCode = 10) ∧ env.mode = Beacon.ieeeG ∧
      ieee.currentNetwork.mode = Beacon.ieeeN24g ∧ ieee.asocRetryCount < 4
    let status ← read16 mem 26
    pure (status, aid &&& 0x3fff, if counts then ieee.asocRetryCount + 1 else 0)

/-! ## Probe requests -/

/-- What a probe request is compared with. `ssid` is the array and whatever lies behind it. -/
structure CurrentNetwork where
  bssid : Addr
  ssid : Nat → Byte
  ssidLen : Byte

def broadcast : Addr := fun _ => 0xff

/-- The loop of `probe_rq_parse`, for at most `fuel` rounds: the place and the length of the SSID,
or that there is none. It yields `none` if it has not ended. -/
def findSsid (mem : Nat → Byte) (skbend : Nat) :
    Nat → Nat → Reads Nat (Option (Option (Nat × Byte)))
  | 0, _ => pure none
  | fuel + 1, tag =>
    if tag + 1 < skbend then do
      let id ← read mem tag
      if id = 0 then do
        let ssidlen ← read mem (tag + 1)
        pure (some (some (tag + 2, ssidlen)))
      else do
        let length ← read mem (tag + 1)
        findSsid mem skbend fuel (tag + 1 + length.toNat + 1)
    else pure (some none)

/-- Whether `strncmp` of the `n` bytes at `s1` with those of `s2` from `i` on is 0 -/
def strncmp (mem s2 : Nat → Byte) : Nat → Nat → Nat → Reads Nat Bool
  | _, _, 0 => pure true
  | s1, i, n + 1 => do
    let c ← read mem s1
    if c ≠ s2 i then pure false
    else if c = 0 then pure true
    else strncmp mem s2 (s1 + 1) (i + 1) n

/-- The end of `probe_rq_parse`: what it returns, and `src` -/
def probeAnswer (net : CurrentNetwork) (mem : Nat → Byte) (src : Addr) :
    Option (Option (Nat × Byte)) → Reads Nat (Option (Int × Option Addr))
  | none => pure none
  | some none => pure (some (1, some src))
  | some (some (ssid, ssidlen)) =>
    if ssidlen = 0 then pure (some (1, some src))
    else do
      let same ← strncmp mem net.ssid ssid 0 ssidlen.toNat
      pure (some (if same then 1 else 0, some src))

def probeRqParse (net : CurrentNetwork) (mem : Nat → Byte) (len : Nat) :
    Reads Nat (Option (Int × Option Addr)) :=
  if len < 24 then pure (some (-1, none))
  else do
    let addr3 ← readAddr mem 16
    if addr3 ≠ net.bssid ∧ addr3 ≠ broadcast then pure (some (-1, none))
    else do
      let src ← readAddr mem 10
      let found ← findSsid mem len len 24
      probeAnswer net mem src found

/-! ## Action frames -/

def rtllibGetPayload (frameCtl : BitVec 16) : Option Nat :=
  match Rx.rtllibGetHdrlen frameCtl with
  | 10 => some 10
  | 16 => some 16
  | 24 => some 24
  | 30 => some 30
  | _ => none

inductive ActionResult where
  | ignored
  | addbaReq (result : BlockAck.AddbaReqResult)
  | addbaRsp (result : BlockAck.AddbaRspResult)
  | delba (result : BlockAck.DelbaResult)

/-- The handlers of the category `ACT_CAT_BA` -/
def processBa (r : BlockAck.Receiver) (mem : Nat → Byte) (len : Nat) (act : Byte) :
    Reads Nat ActionResult :=
  if act = BlockAck.actAddbareq then do
    let result ← BlockAck.rtllibRxAddbaReq r.ieee r.getRxTs r.stack mem len
    pure (.addbaReq result)
  else if act = BlockAck.actAddbarsp then do
    let result ← BlockAck.rtllibRxAddbaRsp r.ieee r.getTxTs mem len
    pure (.addbaRsp result)
  else if act = BlockAck.actDelba then do
    let result ← BlockAck.rtllibRxDelba r.ieee r.getRxTs r.getTxTs mem len
    pure (.delba result)
  else pure .ignored

def rtllibProcessAction (r : BlockAck.Receiver) (mem : Nat → Byte) (len : Nat) :
    Reads Nat ActionResult := do
  let frameCtl ← read16 mem 0
  match rtllibGetPayload frameCtl with
  | none => pure .ignored
  | some payload => do
    let category ← read mem payload
    if category = BlockAck.actCatBa then do
      let act ← read mem (payload + 1)
      processBa r mem len act
    else pure .ignored

end Rtl8190.Mgmt
