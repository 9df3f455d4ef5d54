import Rtl8190.Lib.Memory

/-!
# High throughput after an association

`HTOnAssocRsp` and the selection of the highest MCS (`rtl819x_HTProc.c`). A read outside of the
table of the rates is `none`. The handlers `set_chan` and `SetBWModeHandler` only program the
hardware.
-/

open Rtl8190.Memory (Byte)

namespace Rtl8190.Ht

abbrev McsSet := Fin 16 → Byte

def mcsFilterAll : McsSet := fun i =>
  (#v[0xff, 0xff, 0xff, 0xff, 0xff, 0xff, 0xff, 0xff, 0xff, 0x1f, 0, 0, 0, 0, 0, 0] :
    Vector Byte 16)[i]

def mcsFilter1ss : McsSet := fun i =>
  (#v[0xff, 0, 0, 0x01, 0, 0, 0, 0, 0, 0, 0, 0, 0, 0, 0, 0] : Vector Byte 16)[i]

/-- `MCS_DATA_RATE`. The first row of the source has 76 values, after which a 0 is filled in. -/
def mcsDataRate (is40MHz isShortGI : Bool) : Vector Nat 77 :=
  match is40MHz, isShortGI with
  | false, false => #v[13, 26, 39, 52, 78, 104, 117, 130, 26, 52, 78, 104, 156, 208, 234, 260,
      39, 78, 117, 234, 312, 351, 390, 52, 104, 156, 208, 312, 416, 468, 520,
      0, 78, 104, 130, 117, 156, 195, 104, 130, 130, 156, 182, 182, 208, 156, 195,
      195, 234, 273, 273, 312, 130, 156, 181, 156, 181, 208, 234, 208, 234, 260, 260,
      286, 195, 234, 273, 234, 273, 312, 351, 312, 351, 390, 390, 429, 0]
  | false, true => #v[14, 29, 43, 58, 87, 116, 130, 144, 29, 58, 87, 116, 173, 231, 260, 289,
      43, 87, 130, 173, 260, 347, 390, 433, 58, 116, 173, 231, 347, 462, 520, 578,
      0, 87, 116, 144, 130, 173, 217, 116, 144, 144, 173, 202, 202, 231, 173, 217,
      217, 260, 303, 303, 347, 144, 173, 202, 173, 202, 231, 260, 231, 260, 289, 289,
      318, 217, 260, 303, 260, 303, 347, 390, 347, 390, 433, 433, 477]
  | true, false => #v[27, 54, 81, 108, 162, 216, 243, 270, 54, 108, 162, 216, 324, 432, 486, 540,
      81, 162, 243, 324, 486, 648, 729, 810, 108, 216, 324, 432, 648, 864, 972, 1080,
      12, 162, 216, 270, 243, 324, 405, 216, 270, 270, 324, 378, 378, 432, 324, 405,
      405, 486, 567, 567, 648, 270, 324, 378, 324, 378, 432, 486, 432, 486, 540, 540,
      594, 405, 486, 567, 486, 567, 648, 729, 648, 729, 810, 810, 891]
  | true, true => #v[30, 60, 90, 120, 180, 240, 270, 300, 60, 120, 180, 240, 360, 480, 540, 600,
      90, 180, 270, 360, 540, 720, 810, 900, 120, 240, 360, 480, 720, 960, 1080, 1200,
      13, 180, 240, 300, 270, 360, 450, 240, 300, 300, 360, 420, 420, 480, 360, 450,
      450, 540, 630, 630, 720, 300, 360, 420, 360, 420, 480, 540, 480, 540, 600, 600,
      660, 450, 540, 630, 540, 630, 720, 810, 720, 810, 900, 900, 990]

inductive HtExtchnlOffset where
  | noExt
  | upper
  | noDef
  | lower
  deriving DecidableEq, Repr

def HtExtchnlOffset.ofBits (b : BitVec 2) : HtExtchnlOffset :=
  if b = 0 then .noExt else if b = 1 then .upper else if b = 2 then .noDef else .lower

/-! ## The elements of the peer -/

/-- `HT_CAPABILITY_ELE`, the fields that are read -/
structure HtCapabilityEle where
  chlWidth : Bool
  mimoPwrSave : BitVec 2
  shortGI20Mhz : Bool
  shortGI40Mhz : Bool
  maxAMSDUSize : Bool
  dssCCk : Bool
  maxRxAMPDUFactor : BitVec 2
  mpduDensity : BitVec 3
  mcs : McsSet

/-- The bits of the fields, and the 16 bytes of `MCS` from the third one on -/
def HtCapabilityEle.ofBytes (b : Fin 32 → Byte) : HtCapabilityEle where
  chlWidth := (b 0).getLsbD 1
  mimoPwrSave := (b 0).extractLsb' 2 2
  shortGI20Mhz := (b 0).getLsbD 5
  shortGI40Mhz := (b 0).getLsbD 6
  maxAMSDUSize := (b 1).getLsbD 3
  dssCCk := (b 1).getLsbD 4
  maxRxAMPDUFactor := (b 2).extractLsb' 0 2
  mpduDensity := (b 2).extractLsb' 2 3
  mcs := fun i => b ⟨3 + i, by omega⟩

/-- `HT_INFORMATION_ELE`, the fields that are read -/
structure HtInformationEle where
  extChlOffset : HtExtchnlOffset
  recommemdedTxWidth : Bool
  optMode : BitVec 2

def HtInformationEle.ofBytes (b : Fin 32 → Byte) : HtInformationEle where
  extChlOffset := .ofBits ((b 1).extractLsb' 0 2)
  recommemdedTxWidth := (b 1).getLsbD 2
  optMode := (b 2).extractLsb' 0 2

/-- Where the element starts in its buffer: behind the four bytes of the form of the EWC, if these
are there. -/
def elementStart (ewc : Byte) (buf : Fin 32 → Byte) : Fin 32 :=
  if buf 0 = 0x00 ∧ buf 1 = 0x90 ∧ buf 2 = 0x4c ∧ buf 3 = ewc then 4 else 0

/-- `HT_IOT_PEER_UNKNOWN`, `HT_IOT_PEER_RALINK` and `HT_IOT_PEER_ATHEROS` -/
abbrev htIotPeerUnknown : Byte := 0
abbrev htIotPeerRalink : Byte := 4
abbrev htIotPeerAtheros : Byte := 5

/-- `RT_HIGH_THROUGHPUT`, the fields of `HTOnAssocRsp` -/
structure HighThroughput where
  bCurrentHTSupport : Bool
  bRegBW40MHz : Bool
  bCurBW40MHz : Bool
  bCurTxBW40MHz : Bool
  bRegShortGI40MHz : Bool
  bCurShortGI40MHz : Bool
  bRegShortGI20MHz : Bool
  bCurShortGI20MHz : Bool
  bRegSuppCCK : Bool
  bCurSuppCCK : Bool
  peerHTCapBuf : Fin 32 → Byte
  peerHTInfoBuf : Fin 32 → Byte
  bAMSDUSupport : Bool
  nAMSDUMaxSize : BitVec 16
  bCurrentAMSDUSupport : Bool
  nCurrentAMSDUMaxSize : BitVec 16
  bAMPDUEnable : Bool
  bCurrentAMPDUEnable : Bool
  ampduFactor : Byte
  currentAMPDUFactor : Byte
  mpduDensity : Byte
  currentMPDUDensity : Byte
  currentOpMode : Byte
  peerMimoPs : Byte
  curSTAExtChnlOffset : HtExtchnlOffset
  bSwBwInProgress : Bool
  bRegRT2RTAggregation : Bool
  bRegRxReorderEnable : Bool
  bCurRxReorderEnable : Bool
  iotPeer : Byte
  iotAction : BitVec 32
  iotRaFunc : Byte

abbrev ieeeA : Nat := 1
abbrev ieeeB : Nat := 2
abbrev ieeeG : Nat := 4
abbrev ieeeN24G : Nat := 16
abbrev ieeeN5G : Nat := 32

/-- `struct rtllib_device`, the fields of `HTOnAssocRsp`. `rtllibApSecType` is the result of the
handler, if there is one, and `halfNmode` the one of `GetHalfNmodeSupportByAPsHandler`. -/
structure State where
  ht : HighThroughput
  mode : Nat
  halfNmode : Bool
  channel : Byte
  rtllibApSecType : Option Byte
  bdRT2RTAggregation : Bool
  pairwiseKeyType : Byte
  regdot11TxHTOperationalRateSet : McsSet
  dot11HTOperationalRateSet : McsSet
  htHighestOperaRate : Byte
  htCurrentOperaRate : Byte

/-! ## The rates -/

def htMcsToDataRate (ht : HighThroughput) (nMcsRate : Byte) : Option Nat :=
  let isShortGI := if ht.bCurBW40MHz then ht.bCurShortGI40MHz else ht.bCurShortGI20MHz
  (mcsDataRate ht.bCurBW40MHz isShortGI)[(nMcsRate &&& 0x7f).toNat]?

/-- The comparison of the inner loop, where `bitMap` is odd -/
def higherMcs (ht : HighThroughput) (bitMap mcs mcsRate : Byte) : Option Byte :=
  if bitMap % 2 ≠ 0 then do
    let new ← htMcsToDataRate ht mcs
    let old ← htMcsToDataRate ht mcsRate
    return if new > old then mcs else mcsRate
  else some mcsRate

/-- The inner loop: `n` more rounds from `j` on -/
def mcsBits (ht : HighThroughput) (i : Fin 16) : Nat → Nat → Byte → Byte → Option Byte
  | 0, _, _, mcsRate => some mcsRate
  | n + 1, j, bitMap, mcsRate => do
    let mcsRate ← higherMcs ht bitMap (BitVec.ofNat 8 (8 * i + j)) mcsRate
    mcsBits ht i n (j + 1) (bitMap >>> 1) mcsRate

/-- The loops of `HTGetHighestMCSRate` -/
def searchMcs (ht : HighThroughput) (availableMcsRate : McsSet) : Option Byte :=
  if ∀ i, availableMcsRate i = 0 then some 0
  else do
    let mcsRate ← (List.finRange 16).foldlM (fun mcsRate i =>
      if availableMcsRate i ≠ 0 then mcsBits ht i 8 0 (availableMcsRate i) mcsRate
      else some mcsRate) 0
    return mcsRate ||| 0x80

def htGetHighestMcsRate (ht : HighThroughput) (pMCSRateSet pMCSFilter : McsSet) : Option Byte :=
  searchMcs ht fun i => pMCSRateSet i &&& pMCSFilter i

/-- `HT_PickMCSRate`, with `RATE_ADPT_1SS_MASK`, `RATE_ADPT_2SS_MASK` and `RATE_ADPT_MCS32_MASK` -/
def htPickMcsRate (mode : Nat) (pOperateMCS : McsSet) : McsSet :=
  if mode = ieeeA ∨ mode = ieeeB ∨ mode = ieeeG then fun _ => 0
  else if mode = ieeeN24G ∨ mode = ieeeN5G then fun i =>
    if i = 0 then pOperateMCS i &&& 0xff
    else if i = 1 then pOperateMCS i &&& 0xf0
    else if i = 3 then pOperateMCS i &&& 0x01
    else pOperateMCS i
  else pOperateMCS

/-- `HTFilterMCSRate`, whose result is `dot11HTOperationalRateSet` -/
def htFilterMcsRate (s : State) (pSupportMCS : McsSet) : McsSet :=
  let pOperateMCS : McsSet := fun i => s.regdot11TxHTOperationalRateSet i &&& pSupportMCS i
  let pOperateMCS := htPickMcsRate s.mode pOperateMCS
  let pOperateMCS : McsSet := fun i => if i = 1 ∧ s.halfNmode = true then 0 else pOperateMCS i
  fun i => if 2 ≤ i then 0 else pOperateMCS i

/-! ## The function -/

/-- `HTSetConnectBwMode`. The callback clears `bSwBwInProgress` again. -/
def htSetConnectBwMode (s : State) (bandwidth : Bool) (offset : HtExtchnlOffset) : State :=
  if s.ht.bRegBW40MHz = false then s
  else if s.ht.bSwBwInProgress = true then s
  else
    let bandwidth := if s.halfNmode then false else bandwidth
    let offset :=
      if s.channel.toNat < 2 ∧ offset = .lower then HtExtchnlOffset.noExt else offset
    let wide := bandwidth = true ∧ (offset = .upper ∨ offset = .lower)
    { s with ht := { s.ht with
      bCurBW40MHz := decide wide
      curSTAExtChnlOffset := if wide then offset else .noExt } }

def htIotActDetermineRaFunc (ht : HighThroughput) (bPeerRx2ss : Bool) : HighThroughput :=
  let peer1r : Byte := if ht.iotPeer = htIotPeerRalink ∧ bPeerRx2ss = false then 0x01 else 0
  let txAmsdu : Byte := if ht.iotAction &&& 0x00000800 ≠ 0 then 0x02 else 0
  { ht with iotRaFunc := (ht.iotRaFunc &&& 0x00) ||| peer1r ||| txAmsdu }

/-- `CurrentAMPDUFactor`, with `KEY_TYPE_NA`, `HT_AGG_SIZE_32K` and `HT_AGG_SIZE_64K` -/
def currentAMPDUFactor (s : State) (cap : HtCapabilityEle) : Byte :=
  let factor := cap.maxRxAMPDUFactor.setWidth 8
  if s.ht.bRegRT2RTAggregation = false then
    if s.ht.ampduFactor > factor then factor else s.ht.ampduFactor
  else if s.bdRT2RTAggregation = true then
    if s.pairwiseKeyType ≠ 0 then factor else 3
  else if factor < 2 then factor else 2

def State.insecure (s : State) : Bool :=
  match s.rtllibApSecType with
  | some secType => secType &&& 0x03 ≠ 0
  | none => false

/-- WEP or TKIP with some peers turns the aggregation off. -/
def currentAMPDUEnable (s : State) : Bool :=
  if s.insecure = true ∧ (s.ht.iotPeer = htIotPeerAtheros ∨ s.ht.iotPeer = htIotPeerUnknown) then false
  else s.ht.bAMPDUEnable

/-- The assignments between the bandwidth and the rates -/
def assignPeer (s : State) (cap : HtCapabilityEle) (info : HtInformationEle) : State :=
  let nMaxAMSDUSize : BitVec 16 := if cap.maxAMSDUSize = false then 3839 else 7935
  let density := cap.mpduDensity.setWidth 8
  { s with ht := { s.ht with
    bCurTxBW40MHz := info.recommemdedTxWidth
    bCurShortGI20MHz := if s.ht.bRegShortGI20MHz then cap.shortGI20Mhz else false
    bCurShortGI40MHz := if s.ht.bRegShortGI40MHz then cap.shortGI40Mhz else false
    bCurSuppCCK := if s.ht.bRegSuppCCK then cap.dssCCk else false
    bCurrentAMSDUSupport := s.ht.bAMSDUSupport
    nCurrentAMSDUMaxSize :=
      if s.ht.nAMSDUMaxSize > nMaxAMSDUSize then nMaxAMSDUSize else s.ht.nAMSDUMaxSize
    bCurrentAMPDUEnable := currentAMPDUEnable s
    currentAMPDUFactor := currentAMPDUFactor s cap
    currentMPDUDensity := if s.ht.mpduDensity > density then s.ht.mpduDensity else density
    bCurRxReorderEnable := s.ht.bRegRxReorderEnable } }

def pMcsFilter (peerMimoPs : Byte) : McsSet :=
  if peerMimoPs = 0 then mcsFilter1ss else mcsFilterAll

/-- `HTOnAssocRsp`. An empty first byte of `MCS` is filled in, in the buffer. -/
def htOnAssocRsp (s : State) : Option State :=
  if s.ht.bCurrentHTSupport = false then some s
  else do
    let start := elementStart 0x33 s.ht.peerHTCapBuf
    let cap := HtCapabilityEle.ofBytes fun i => s.ht.peerHTCapBuf (start + i)
    let infoStart := elementStart 0x34 s.ht.peerHTInfoBuf
    let info := HtInformationEle.ofBytes fun i => s.ht.peerHTInfoBuf (infoStart + i)
    let s := assignPeer (htSetConnectBwMode s cap.chlWidth info.extChlOffset) cap info
    let mcs : McsSet := fun i => if i = 0 ∧ cap.mcs 0 = 0 then 0xff else cap.mcs i
    let ht := { s.ht with
      peerHTCapBuf := fun k =>
        if k = start + 3 ∧ cap.mcs 0 = 0 then 0xff else s.ht.peerHTCapBuf k }
    let ht := htIotActDetermineRaFunc ht (decide (mcs 1 ≠ 0))
    let ht := { ht with peerMimoPs := cap.mimoPwrSave.setWidth 8 }
    let operational := htFilterMcsRate s mcs
    let highest ← htGetHighestMcsRate ht operational (pMcsFilter ht.peerMimoPs)
    return { s with
      ht := { ht with currentOpMode := info.optMode.setWidth 8 }
      dot11HTOperationalRateSet := operational
      htHighestOperaRate := highest
      htCurrentOperaRate := highest }

end Rtl8190.Ht
