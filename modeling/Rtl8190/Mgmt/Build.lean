import Rtl8190.Beacon.Build
import Rtl8190.Lib.Packets
import Rtl8190.Mgmt.Parse

/-!
# The management frames that the driver builds

The builders of `rtllib_softmac.c`, on a little-endian host. `mem` is what the memory holds that
`dev_alloc_skb` finds. All callers of the builders with a `beacon` give them `current_network`.
-/

open Rtl8190.Memory Rtl8190.Packets Rtl8190.Beacon

namespace Rtl8190.Mgmt

structure Pmkid where
  bUsed : Bool
  bssid : Addr
  pmkid : Nat → Byte

/-- What the builders read of `struct rtllib_device` -/
structure Device extends Beacon.Ieee where
  cckModulation : Bool
  ofdmModulation : Bool
  authMode : Int
  associateSeq : BitVec 16
  assocId : BitVec 16
  seqCtrl : BitVec 16
  mode : Byte
  /-- The memory at `wps_ie`, unless it is null. -/
  wpsIe : Option (Nat → Byte)
  wpsIeLen : Nat
  pmkidList : Fin 16 → Pmkid
  /-- `rtllib_ap_sec_type` is there and has `SEC_ALG_TKIP`. -/
  apSecTkip : Bool
  bForcedBgMode : Bool
  bCurrentHTSupport : Bool
  bEnableHT : Bool
  ePeerHTSpecVer : HtSpecVer
  bCurrentRT2RTAggregation : Bool
  bSupportRemoteWakeUp : Bool
  /-- `GetHalfNmodeSupportByAPsHandler` -/
  halfNmode : Bool
  bRegBW40MHz : Bool
  bRegSuppCCK : Bool
  selfMimoPs : BitVec 2
  regdot11HTOperationalRateSet : Nat → Byte
  /-- `IOTAction & HT_IOT_ACT_DISABLE_MCS15` -/
  disableMcs15 : Bool
  /-- `IOTAction & HT_IOT_ACT_DISABLE_MCS14` -/
  disableMcs14 : Bool
  /-- `IOTAction & HT_IOT_ACT_DISABLE_ALL_2SS` -/
  disableAll2ss : Bool

abbrev Skb := Packet Byte

def devAllocSkb (size txHeadroom : Nat) (mem : Nat → Byte) : Skb :=
  Packet.alloc (size - txHeadroom) mem

def headerBytes (frameCtl durationId : BitVec 16) (addr1 addr2 addr3 : Addr) : List Byte :=
  le16 frameCtl ++ le16 durationId ++ addr1.bytes ++ addr2.bytes ++ addr3.bytes

def bitFields (bits : List Bool) : Byte :=
  bits.foldr (fun b byte => (byte <<< 1) ||| (if b then 1 else 0)) 0

/-! ## Helpers -/

namespace Device

variable (d : Device)

def rtllibMfieRateLen : Nat :=
  (if d.cckModulation = true then 4 + 2 else 0) + (if d.ofdmModulation = true then 8 + 2 else 0)

def rtllibMfieBrate : List Byte :=
  if d.cckModulation = true then [1, 4, 0x82, 0x84, 0x8b, 0x96] else []

def rtllibMfieGrate : List Byte :=
  if d.ofdmModulation = true then [50, 8, 0x8c, 0x92, 0x98, 0xa4, 0xb0, 0xc8, 0xe0, 0xec] else []

def rtllibWmmInfo : List Byte := [221, 7, 0x00, 0x50, 0xf2, 0x02, 0x00, 0x01, 0]

def rtllibTurboInfo : List Byte := [221, 7, 0x00, 0xe0, 0x4c, 0x01, 0x02, 0x11, 0x00]

def capabilityMcs : List Byte :=
  let mcs1 := d.regdot11HTOperationalRateSet 1
  let mcs1 := if d.disableMcs15 = true then mcs1 &&& 0x7f else mcs1
  let mcs1 := if d.disableMcs14 = true then mcs1 &&& 0xbf else mcs1
  let mcs1 := if d.disableAll2ss = true then 0 else mcs1
  if d.halfNmode = true then d.regdot11HTOperationalRateSet 0 :: List.replicate 15 0
  else [d.regdot11HTOperationalRateSet 0, mcs1] ++
    copied (fun i => d.regdot11HTOperationalRateSet (2 + i)) 14

/-- `HTConstructCapabilityElement`: the bytes of the element behind its length. The returned length
counts two more. -/
def htConstructCapabilityElement (isEncrypt : Bool) : List Byte :=
  (if d.ePeerHTSpecVer = .ewc then [0x00, 0x90, 0x4c, 0x33] else []) ++
    [bitFields [false, !d.halfNmode && d.bRegBW40MHz, d.selfMimoPs.getLsbD 0,
        d.selfMimoPs.getLsbD 1, false, true, true, true],
      bitFields [false, false, false, true, d.bRegBW40MHz && d.bRegSuppCCK, false, false, false],
      -- `MaxRxAMPDUFactor` 2 and `MPDUDensity` 7, or 3 and 0
      if isEncrypt = true then 0x1e else 3] ++
    d.capabilityMcs ++ List.replicate 7 0

/-- `HTConstructRT2RTAggElement`, likewise -/
def htConstructRt2rtAggElement : List Byte :=
  [0x00, 0xe0, 0x4c, 0x02, 0x01, if d.bSupportRemoteWakeUp = true then 0x18 else 0x10]

def secIsInPmkidList (bssid : Addr) : Option (Fin 16) :=
  (List.finRange 16).find? fun i => (d.pmkidList i).bUsed && decide ((d.pmkidList i).bssid = bssid)

end Device

/-! ## Probe requests -/

def rtllibProbeReq (d : Device) (mem : Nat → Byte) : Skb :=
  let len := d.currentNetwork.ssidLen
  let rateLen := d.rtllibMfieRateLen
  let skb := devAllocSkb (24 + 2 + len + rateLen + d.txHeadroom) d.txHeadroom mem
  let skb := (skb.put 24).store 0 (headerBytes 0x0040 0 broadcast d.devAddr broadcast)
  skb.add (len + 2 + rateLen) ([0, BitVec.ofNat 8 len] ++ copied d.currentNetwork.ssid len ++
    d.rtllibMfieBrate ++ d.rtllibMfieGrate)

/-! ## Authentication -/

/-- The algorithm that `rtllib_authentication_req` writes, if it writes one -/
def authAlgorithm (authMode : Int) : Option (BitVec 16) :=
  if authMode = 0 then some 0
  else if authMode = 1 then some 1
  else if authMode = 2 then some 0
  else none

def rtllibAuthenticationReq (d : Device) (challengelen : Nat) (mem : Nat → Byte) : Skb × Device :=
  let skb := devAllocSkb (30 + challengelen + d.txHeadroom + 4) d.txHeadroom mem
  let frameCtl := if challengelen ≠ 0 then 0x00b0 ||| 0x4000 else 0x00b0
  let bssid := d.currentNetwork.bssid
  let skb := (skb.put 30).store 0 (headerBytes frameCtl 0x013a bssid d.devAddr bssid)
  let skb := match authAlgorithm d.authMode with
    | some algorithm => skb.store 24 (le16 algorithm)
    | none => skb
  (skb.store 26 (le16 d.associateSeq ++ le16 0), { d with associateSeq := d.associateSeq + 1 })

def rtllibAuthChallenge (d : Device) (challenge : List Byte) (mem : Nat → Byte) : Skb × Device :=
  let chlen := challenge.length
  let d := { d with associateSeq := d.associateSeq + 1 }
  let (skb, d) := rtllibAuthenticationReq d (chlen + 2) mem
  (skb.add (chlen + 2) ([16, BitVec.ofNat 8 chlen] ++ challenge), d)

/-- `rtllib_auth_resp`. It sets `skb->len` before it puts the frame. -/
def rtllibAuthResp (d : Device) (status : BitVec 16) (dest : Addr) (mem : Nat → Byte) : Skb :=
  let skb := devAllocSkb (d.txHeadroom + 30 + 1) d.txHeadroom mem
  let skb := { skb with len := 30 }
  let skb := (skb.put 30).store 24 (le16 0 ++ le16 2 ++ le16 status)
  let skb := skb.store 4 (dest.bytes ++ d.devAddr.bytes ++ d.devAddr.bytes)
  skb.store 0 (le16 0x00b0)

/-! ## Responses -/

def rtllibProbeResp (d : Device) (dest : Addr) (mem : Nat → Byte) : Skb × Device :=
  let skb := devAllocSkb d.beaconSize d.txHeadroom mem
  let skb := (skb.put (d.beaconSize - d.txHeadroom)).store 0 (d.fixedPart dest mem)
  let ieee := d.copyGroupSuite
  (skb.store 36 ieee.tags, { d with toIeee := ieee })

def Device.assocCapability (d : Device) : BitVec 16 :=
  (if d.iwMode = .master then 1 else wlanCapabilityIbss) |||
    (if d.shortSlot = true then wlanCapabilityShortSlotTime else 0) |||
    (if d.hostEncrypt = true ∧ d.crypt ≠ none then wlanCapabilityPrivacy else 0)

def rtllibAssocResp (d : Device) (dest : Addr) (mem : Nat → Byte) : Skb × Device :=
  let rateLen := d.rtllibMfieRateLen
  let skb := devAllocSkb (30 + rateLen + d.txHeadroom) d.txHeadroom mem
  let skb := (skb.put 30).store 0 (le16 0x0010)
  let skb := skb.store 4 (dest.bytes ++ d.devAddr.bytes ++ d.devAddr.bytes)
  let skb := skb.store 24 (le16 d.assocCapability ++ le16 0 ++ le16 d.assocId)
  (skb.add rateLen (d.rtllibMfieBrate ++ d.rtllibMfieGrate),
    { d with assocId := if d.assocId = 0x2007 then 0 else d.assocId + 1 })

/-! ## Association requests -/

namespace Device

variable (d : Device)

def withoutHt : Device :=
  if d.apSecTkip = true ∨ d.bForcedBgMode = true then { d with bEnableHT := false, mode := 4 } else d

def htWanted : Bool := d.bCurrentHTSupport && d.bEnableHT

def assocReqCapability : BitVec 16 :=
  let capability := d.currentNetwork.capability
  1 ||| (if capability &&& wlanCapabilityPrivacy ≠ 0 then wlanCapabilityPrivacy else 0) |||
    (if capability &&& wlanCapabilityShortPreamble ≠ 0 then wlanCapabilityShortPreamble else 0) |||
    (if d.shortSlot = true ∧ capability &&& wlanCapabilityShortSlotTime ≠ 0 then
      wlanCapabilityShortSlotTime else 0)

/-! The lengths -/

def assocRateLen : Nat :=
  (if d.currentNetwork.ratesLen ≠ 0 then d.currentNetwork.ratesLen + 2 else 0) +
    (if d.currentNetwork.ratesExLen ≠ 0 then d.currentNetwork.ratesExLen + 2 else 0)

def wmmInfoLen : Nat := if d.currentNetwork.qosData.supported = true then 9 else 0

def turboInfoLen : Nat := if d.currentNetwork.turboEnable = true then 9 else 0

def ckipIeLen : Nat := if d.currentNetwork.bCkipSupported = true then 30 + 2 else 0

def ccxrmIeLen : Nat := if d.currentNetwork.bCcxRmEnable = true then 6 + 2 else 0

def cxvernumIeLen : Nat := if 2 ≤ d.currentNetwork.bssCcxVerNumber then 5 + 2 else 0

def htCapLen : Nat :=
  if d.htWanted = true then (if d.ePeerHTSpecVer = .ewc then 30 + 2 else 26 + 2) else 0

def realtekIeLen : Nat :=
  if d.htWanted = true ∧ d.bCurrentRT2RTAggregation = true then 6 + 2 else 0

def pmkCacheIdx : Option (Fin 16) := d.secIsInPmkidList d.currentNetwork.bssid

def wpaLen : Nat := d.wpaIeLen + if d.pmkCacheIdx ≠ none then 18 else 0

def assocReqSize : Nat :=
  28 + 2 + d.currentNetwork.ssidLen + d.assocRateLen + d.wpaLen + d.wpsIeLen + d.wmmInfoLen +
    d.turboInfoLen + d.htCapLen + d.realtekIeLen + d.ckipIeLen + d.ccxrmIeLen + d.cxvernumIeLen +
    d.txHeadroom

/-! The bytes -/

def assocRates : List Byte :=
  (if d.currentNetwork.ratesLen ≠ 0 then
    [1, BitVec.ofNat 8 d.currentNetwork.ratesLen] ++
      copied d.currentNetwork.rates d.currentNetwork.ratesLen else []) ++
  (if d.currentNetwork.ratesExLen ≠ 0 then
    [50, BitVec.ofNat 8 d.currentNetwork.ratesExLen] ++
      copied d.currentNetwork.ratesEx d.currentNetwork.ratesExLen else [])

/-- The Aironet element, with `SUPPORT_CKIP_PK|SUPPORT_CKIP_MIC` in byte 8 -/
def ckipTag : List Byte := [133, 30, 0x00, 0x01, 0x66, 0, 0, 0, 0, 0, 0x18] ++ List.replicate 21 0

def ccxRmTag : List Byte := [221, 6, 0x00, 0x40, 0x96, 0x01, 0x01, 0x00]

def ccxVerTag : List Byte := [221, 5, 0x00, 0x40, 0x96, 0x03, d.currentNetwork.bssCcxVerNumber]

def htCap : List Byte := d.htConstructCapabilityElement d.encrypt

def htCapTag (id : Byte) : List Byte := [id, BitVec.ofNat 8 (d.htCapLen - 2)] ++ d.htCap

def pmkidTag (i : Fin 16) : List Byte := [1, 0] ++ copied (d.pmkidList i).pmkid 16

def realtekTag : List Byte :=
  [221, BitVec.ofNat 8 (d.realtekIeLen - 2)] ++ d.htConstructRt2rtAggElement

end Device

section

variable (d : Device)

def assocReqFirst (skb : Skb) : Skb :=
  let skb := skb.add d.currentNetwork.ssidLen
    (copied d.currentNetwork.ssid d.currentNetwork.ssidLen)
  let skb := skb.add d.assocRateLen d.assocRates
  let skb := if d.currentNetwork.bCkipSupported = true then skb.add d.ckipIeLen Device.ckipTag else skb
  let skb := if d.currentNetwork.bCcxRmEnable = true then skb.add d.ccxrmIeLen Device.ccxRmTag else skb
  let skb := if 2 ≤ d.currentNetwork.bssCcxVerNumber then skb.add d.cxvernumIeLen d.ccxVerTag else skb
  if d.htWanted = true ∧ d.ePeerHTSpecVer ≠ .ewc then skb.add d.htCapLen (d.htCapTag 45) else skb

def assocReqWpa (skb : Skb) : Skb :=
  let skb := skb.add d.wpaIeLen (if d.wpaLen ≠ 0 then copied d.wpaIe d.wpaIeLen else [])
  match d.pmkCacheIdx with
  | some i => skb.add 18 (d.pmkidTag i)
  | none => skb

def assocReqWps (skb : Skb) : Skb :=
  match d.wpsIe with
  | some ie => if d.wpsIeLen ≠ 0 then skb.add d.wpsIeLen (copied ie d.wpsIeLen) else skb
  | none => skb

/-- The HT capability of a peer with the EWC version, and the Realtek element -/
def assocReqLast (skb : Skb) : Skb :=
  let skb := if d.htWanted = true ∧ d.ePeerHTSpecVer = .ewc then skb.add d.htCapLen (d.htCapTag 221)
    else skb
  if d.htWanted = true ∧ d.bCurrentRT2RTAggregation = true then
    skb.add d.realtekIeLen d.realtekTag else skb

end

def rtllibAssociationReq (d : Device) (mem : Nat → Byte) : Skb × Device :=
  let d := d.withoutHt
  let bssid := d.currentNetwork.bssid
  let skb := devAllocSkb d.assocReqSize d.txHeadroom mem
  let skb := (skb.put (28 + 2)).store 0 (headerBytes 0x0000 37 bssid d.devAddr bssid)
  let skb := skb.store 24 (le16 d.assocReqCapability ++ le16 d.currentNetwork.listenInterval ++
    [0, BitVec.ofNat 8 d.currentNetwork.ssidLen])
  let skb := assocReqFirst d skb
  let skb := assocReqWpa d skb
  let skb := skb.add d.wmmInfoLen (if d.wmmInfoLen ≠ 0 then Device.rtllibWmmInfo else [])
  let skb := assocReqWps d skb
  let skb := skb.add d.turboInfoLen (if d.turboInfoLen ≠ 0 then Device.rtllibTurboInfo else [])
  (assocReqLast d skb, d)

/-! ## Transmission -/

def softmacMgmtXmit (d : Device) (skb : Skb) : Skb := skb.store 22 (le16 (d.seqCtrl <<< 4))

end Rtl8190.Mgmt
