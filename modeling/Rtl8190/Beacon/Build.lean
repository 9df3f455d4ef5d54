import Rtl8190.Beacon.Code

/-!
# The beacon that the driver sends

`rtllib_probe_resp` (`rtllib_softmac.c`) makes the probe responses and, but for the frame control,
the beacons of an IBSS or a master. The HT elements it constructs do not go into the frame.
-/

open Rtl8190.Memory

namespace Rtl8190.Beacon

def wlanCapabilityIbss : BitVec 16 := 0x0002
def wlanCapabilityPrivacy : BitVec 16 := 0x0010
def wlanCapabilityShortPreamble : BitVec 16 := 0x0020
def wlanCapabilityShortSlotTime : BitVec 16 := 0x0400

def rtllibStypeProbeResp : BitVec 16 := 0x0050

def erpUseProtection : Byte := 0x02

/-- What `rtllib_probe_resp` reads of `struct rtllib_device`. -/
structure Ieee where
  currentNetwork : Network
  buseprotection : Bool
  devAddr : Addr
  wpaIe : Nat → Byte
  wpaIeLen : Nat
  iwMode : IwMode
  shortSlot : Bool
  hostEncrypt : Bool
  /-- The name in `crypt[tx_keyidx]->ops`, where there is one. -/
  crypt : Option String
  bCurSuppCCK : Bool
  txHeadroom : Nat

/-- A frame: what `skb->data` points to, and `skb->len`. -/
structure Skb where
  data : Nat → Byte
  len : Nat

def copied (src : Nat → Byte) (n : Nat) : List Byte := (List.range n).map src

namespace Ieee

variable (ieee : Ieee)

def encrypt : Bool :=
  ieee.hostEncrypt &&
    match ieee.crypt with
    | some name => decide (name = "WEP" ∨ ieee.wpaIeLen ≠ 0)
    | none => false

def beaconCapability : BitVec 16 :=
  let capability := ieee.currentNetwork.capability
  capability &&& wlanCapabilityIbss ||| capability &&& wlanCapabilityShortPreamble |||
    (if ieee.shortSlot ∧ capability &&& wlanCapabilityShortSlotTime ≠ 0 then
      wlanCapabilityShortSlotTime else 0) |||
    (if ieee.encrypt then wlanCapabilityPrivacy else 0)

/-- The bytes before the elements. `seq_ctl` and `time_stamp` are left as they are in memory. -/
def fixedPart (dest : Addr) (mem : Nat → Byte) : List Byte :=
  le16 rtllibStypeProbeResp ++ le16 0 ++ dest.bytes ++ ieee.devAddr.bytes ++
    Addr.bytes ieee.currentNetwork.bssid ++ copied (fun i => mem (22 + i)) 10 ++
    le16 ieee.currentNetwork.beaconInterval ++ le16 ieee.beaconCapability

/-! ## Lengths -/

def rateLen : Nat := ieee.currentNetwork.ratesLen + 2

def rateExLen : Nat :=
  if 0 < ieee.currentNetwork.ratesExLen then ieee.currentNetwork.ratesExLen + 2 else 0

def atimLen : Nat := if ieee.currentNetwork.capability &&& wlanCapabilityIbss ≠ 0 then 4 else 0

def erpLen : Nat :=
  if ieee.currentNetwork.mode = ieeeG ∨
    (ieee.currentNetwork.mode = ieeeN24g ∧ ieee.bCurSuppCCK) then 3 else 0

def beaconSize : Nat :=
  sizeofProbeResponse + 2 + ieee.currentNetwork.ssidLen + 3 + ieee.rateLen + ieee.rateExLen +
    ieee.atimLen + ieee.erpLen + ieee.wpaIeLen + ieee.txHeadroom

/-! ## Elements -/

def erpinfoContent : Byte := if ieee.buseprotection then erpUseProtection else 0

/-- In ad-hoc mode, `memcpy(&ieee->wpa_ie[14], &ieee->wpa_ie[8], 4)`. -/
def copyGroupSuite : Ieee :=
  if ieee.wpaIeLen ≠ 0 ∧ ieee.iwMode = .adhoc then
    { ieee with wpaIe := fun i => if 14 ≤ i ∧ i < 18 then ieee.wpaIe (i - 6) else ieee.wpaIe i }
  else ieee

def ssidTag : List Byte :=
  [0, BitVec.ofNat 8 ieee.currentNetwork.ssidLen] ++
    copied ieee.currentNetwork.ssid ieee.currentNetwork.ssidLen

def ratesTag : List Byte :=
  [1, BitVec.ofNat 8 (ieee.rateLen - 2)] ++ copied ieee.currentNetwork.rates (ieee.rateLen - 2)

def dsSetTag : List Byte := [3, 1, ieee.currentNetwork.channel]

def atimTag : List Byte :=
  if ieee.atimLen ≠ 0 then [6, 2] ++ le16 ieee.currentNetwork.atimWindow else []

def erpTag : List Byte := if ieee.erpLen ≠ 0 then [42, 1, ieee.erpinfoContent] else []

def ratesExTag : List Byte :=
  if ieee.rateExLen ≠ 0 then
    [50, BitVec.ofNat 8 (ieee.rateExLen - 2)] ++
      copied ieee.currentNetwork.ratesEx (ieee.rateExLen - 2)
  else []

def wpaTag : List Byte := if ieee.wpaIeLen ≠ 0 then copied ieee.wpaIe ieee.wpaIeLen else []

/-- What is written through `tag`, in this order. -/
def tags : List Byte :=
  ieee.ssidTag ++ ieee.ratesTag ++ ieee.dsSetTag ++ ieee.atimTag ++ ieee.erpTag ++
    ieee.ratesExTag ++ ieee.wpaTag

end Ieee

/-- `rtllib_probe_resp`, with the memory that `dev_alloc_skb` finds. The result is the frame, unless
there is none, and what becomes of `ieee`. -/
def rtllibProbeResp (ieee : Ieee) (dest : Addr) : Option (Nat → Byte) → Option Skb × Ieee
  | none => (none, ieee)
  | some mem =>
    let ieee' := ieee.copyGroupSuite
    (some ⟨place (ieee.fixedPart dest mem ++ ieee'.tags) mem, ieee.beaconSize - ieee.txHeadroom⟩,
      ieee')

/-- The bytes of the frame behind the fixed part. -/
def Skb.elementRegion (skb : Skb) : List Byte :=
  copied (fun i => skb.data (sizeofProbeResponse + i)) (skb.len - sizeofProbeResponse)

/-! ## Sizes -/

@[simp] theorem length_copied (src : Nat → Byte) (n : Nat) : (copied src n).length = n := by
  simp [copied]

@[simp] theorem getElem_copied (src : Nat → Byte) (n : Nat) {i : Nat}
    (h : i < (copied src n).length) : (copied src n)[i] = src i := by
  simp [copied]

theorem copied_succ (src : Nat → Byte) (n : Nat) :
    copied src (n + 1) = src 0 :: copied (fun i => src (i + 1)) n := by
  unfold copied
  rw [List.range_succ_eq_map, List.map_cons, List.map_map]
  rfl

namespace Ieee

variable (ieee : Ieee)

@[simp] theorem length_fixedPart (dest : Addr) (mem : Nat → Byte) :
    (ieee.fixedPart dest mem).length = sizeofProbeResponse := by
  simp [fixedPart, le16, Addr.bytes, sizeofProbeResponse]

@[simp] theorem copyGroupSuite_currentNetwork :
    ieee.copyGroupSuite.currentNetwork = ieee.currentNetwork := by
  unfold copyGroupSuite
  split <;> rfl

@[simp] theorem copyGroupSuite_wpaIeLen : ieee.copyGroupSuite.wpaIeLen = ieee.wpaIeLen := by
  unfold copyGroupSuite
  split <;> rfl

theorem length_tags :
    sizeofProbeResponse + ieee.tags.length = ieee.beaconSize - ieee.txHeadroom := by
  -- The size that is allocated is the size that is written.
  have hatim : ieee.atimTag.length = ieee.atimLen := by
    unfold atimTag atimLen
    split_ifs <;> first | rfl | contradiction
  have herp : ieee.erpTag.length = ieee.erpLen := by
    unfold erpTag erpLen
    split_ifs <;> first | rfl | contradiction
  have hex : ieee.ratesExTag.length = ieee.rateExLen := by
    unfold ratesExTag
    split_ifs with h
    · simp only [List.length_append, List.length_cons, List.length_nil, length_copied]
      unfold rateExLen at h ⊢
      split_ifs at h ⊢ <;> omega
    · exact (not_not.mp h).symm
  have hwpa : ieee.wpaTag.length = ieee.wpaIeLen := by
    unfold wpaTag
    split_ifs with h
    · exact length_copied _ _
    · exact (not_not.mp h).symm
  simp only [tags, List.length_append, hatim, herp, hex, hwpa, ssidTag, ratesTag, dsSetTag,
    List.length_cons, List.length_nil, length_copied, beaconSize, rateLen]
  omega

end Ieee

end Rtl8190.Beacon
