import Rtl8190.Beacon.Dot11d

/-!
# Beacons and probe responses

`rtllib_network_init`, `rtllib_parse_info_param` and their helpers (`rtllib_rx.c`), on a
little-endian host. The functions get the frame as memory and its length, and say what they access.
Accesses to a MAC address are to its six bytes and are not noted.
-/

open Rtl8190.Memory Function

namespace Rtl8190.Beacon

/-! ## Memory -/

inductive Arr
  | ssid
  | hiddenSsid
  | rates
  | ratesEx
  | wpaIe
  | rsnIe
  | wzcIe
  | countryIeBuf
  | bdHTCapBuf
  | bdHTInfoBuf
  | ccxRmState
  | timeStamp
  | lastDtimStaTime
  /-- Each of the arrays of `struct rtllib_qos_parameters`. -/
  | qosParameters
  /-- The records of `wmm_param`, as bytes. -/
  | wmmParam
  deriving DecidableEq, Repr

def Arr.size : Arr → Nat
  | .ssid => 33
  | .hiddenSsid => 33
  | .rates => 12
  | .ratesEx => 16
  | .wpaIe => 64
  | .rsnIe => 64
  | .wzcIe => 256
  | .countryIeBuf => 255
  | .bdHTCapBuf => 32
  | .bdHTInfoBuf => 32
  | .ccxRmState => 2
  | .timeStamp => 2
  | .lastDtimStaTime => 2
  | .qosParameters => 4
  | .wmmParam => 16

inductive Access
  /-- A read of the frame, by the fixed fields or by the loop over the elements. -/
  | frame (off : Nat)
  /-- A read of the frame by the decoder of the element at `start` of length `len`. -/
  | element (start len off : Nat)
  | load (a : Arr) (i : Nat)
  | store (a : Arr) (i : Nat)
  /-- A read of `ht_realtek_agg_buf`; `written` says that the byte was written before. -/
  | aggLoad (i : Nat) (written : Bool)
  | aggStore (i : Nat)
  deriving DecidableEq, Repr

/-! ## Data -/

def networkEmptyEssid : BitVec 32 := 0x001
def networkHasOfdm : BitVec 32 := 0x002
def networkHasCck : BitVec 32 := 0x004
def networkHasQosParameters : BitVec 32 := 0x008
def networkHasQosInformation : BitVec 32 := 0x010
def networkHasErpValue : BitVec 32 := 0x400

def rtllibDtimValid : Byte := 1
def rtllibDtimUcast : Byte := 2
def rtllibDtimMbcast : Byte := 4

def rtHtCapUseSoftap : Byte := 0x10
def rtHtCapUse92se : Byte := 0x20

def ieeeA : Byte := 0x01
def ieeeB : Byte := 0x02
def ieeeG : Byte := 0x04
def ieeeN24g : Byte := 0x10
def ieeeN5g : Byte := 0x20

def rtllib52ghzBand : Byte := 0x02

inductive HtSpecVer
  | ieee
  | ewc
  deriving DecidableEq, Inhabited, Repr

inductive HtChannelWidth
  | w20
  | w2040
  deriving DecidableEq, Inhabited, Repr

structure BssHt where
  bdSupportHT : Bool
  bdHTCapBuf : Nat → Byte
  bdHTCapLen : Nat
  bdHTInfoBuf : Nat → Byte
  bdHTInfoLen : Nat
  bdHTSpecVer : HtSpecVer
  bdBandWidth : HtChannelWidth
  bdRT2RTAggregation : Bool
  bdRT2RTLongSlotTime : Bool
  rt2rtHTMode : Byte
  bdHT1R : Bool
  deriving Inhabited

/-- `struct rtllib_qos_data` with its `struct rtllib_qos_parameters`. -/
structure QosData where
  cwMin : Nat → BitVec 16
  cwMax : Nat → BitVec 16
  aifs : Nat → Byte
  flag : Nat → Byte
  txOpLimit : Nat → BitVec 16
  wmmAcm : BitVec 32
  active : Bool
  supported : Bool
  paramCount : Byte
  oldParamCount : Byte
  deriving Inhabited

structure Network where
  bssid : Addr
  channel : Byte
  ssid : Nat → Byte
  ssidLen : Nat
  hiddenSsid : Nat → Byte
  hiddenSsidLen : Nat
  qosData : QosData
  bWithAironetIE : Bool
  bCkipSupported : Bool
  bCcxRmEnable : Bool
  ccxRmState : Nat → BitVec 16
  bMBssidValid : Bool
  mBssidMask : Byte
  mBssid : Addr
  bWithCcxVerNum : Bool
  bssCcxVerNumber : Byte
  capability : BitVec 16
  rates : Nat → Byte
  ratesLen : Nat
  ratesEx : Nat → Byte
  ratesExLen : Nat
  lastScanned : Nat
  mode : Byte
  flags : BitVec 32
  lastAssociate : Nat
  timeStamp : Nat → BitVec 32
  beaconInterval : BitVec 16
  listenInterval : BitVec 16
  atimWindow : BitVec 16
  erpValue : Byte
  wpaIe : Nat → Byte
  wpaIeLen : Nat
  rsnIe : Nat → Byte
  rsnIeLen : Nat
  wzcIe : Nat → Byte
  wzcIeLen : Nat
  timCount : Byte
  timPeriod : Byte
  dtimPeriod : Byte
  dtimData : Byte
  lastDtimStaTime : Nat → Nat
  turboEnable : Bool
  countryIeLen : Nat
  countryIeBuf : Nat → Byte
  bssht : BssHt
  broadcomCapExist : Bool
  realtekCapExit : Bool
  marvellCapExist : Bool
  ralinkCapExist : Bool
  atherosCapExist : Bool
  ciscoCapExist : Bool
  unknownCapExist : Bool
  berpInfoValid : Bool
  signalStrength : Byte
  rssi : Byte
  deriving Inhabited

/-- What the functions read of `struct rtllib_device` and `struct rtllib_rx_stats`, and the clock. -/
structure Env where
  /-- The frame, and what lies behind it. -/
  mem : Nat → Byte
  statsLen : BitVec 16
  signalStrength : Byte
  freq : Byte
  receivedChannel : Byte
  macTime1 : Nat
  jiffies : Nat
  state : RtllibState
  assocId : BitVec 16
  aggregation : Bool
  /-- What `ht_realtek_agg_buf` holds before it is written. -/
  stack : Nat → Byte
  deriving Inhabited

/-- `rx_stats->len = skb->len` in `rtllib_rx_frame_mgmt`. -/
def Env.setLen (env : Env) (skbLen : Nat) : Env := { env with statsLen := BitVec.ofNat 16 skbLen }

/-- The network and the local variables of `rtllib_parse_info_param`. -/
structure ParseState where
  network : Network
  dot11d : Dot11dInfo
  tmpHtcapLen : Nat
  tmpHtinfoLen : Nat
  htRealtekAggLen : Nat
  htRealtekAggBuf : Nat → Option Byte

/-- A `struct rtllib_info_element` at byte `start` of the frame. -/
structure Elem where
  start : Nat
  id : Byte
  len : Nat
  deriving DecidableEq, Repr

variable (env : Env)

def frameByte (off : Nat) : Reads Access Byte := ⟨env.mem off, [.frame off]⟩

def Elem.byte (e : Elem) (off : Nat) : Reads Access Byte :=
  ⟨env.mem (e.start + off), [.element e.start e.len (e.start + off)]⟩

def Elem.data (e : Elem) (i : Nat) : Reads Access Byte := e.byte env (2 + i)

/-- Tests `data[i]` and the following bytes in order, until one differs. -/
def Elem.matches (e : Elem) (i : Nat) : List Byte → Reads Access Bool
  | [] => pure true
  | b :: bs => do
    let x ← e.data env i
    if x = b then e.matches (i + 1) bs else pure false

/-- `memcpy` of `n` bytes at `off` of the element into the array `a`, which holds `buf`. -/
def Elem.memcpy (e : Elem) (off : Nat) (a : Arr) (buf : Nat → Byte) (n : Nat) :
    Reads Access (Nat → Byte) := do
  noteAll (.store a) n
  copy (fun i => e.byte env (off + i)) buf n

/-! ## SSID and rates -/

/-- The loop of `rtllib_is_empty_essid`, which starts at the last byte. -/
def allZero {π : Type} (essid : Nat → Reads π Byte) : Nat → Reads π Bool
  | 0 => pure true
  | n + 1 => do
    let b ← essid n
    if b ≠ 0 then pure false else allZero essid n

def rtllibIsEmptyEssid {π : Type} (essid : Nat → Reads π Byte) (essidLen : Nat) : Reads π Bool :=
  if essidLen = 1 then do
    let b ← essid 0
    if b = 0x20 then pure true else allZero essid essidLen
  else allZero essid essidLen

def parseSsid (e : Elem) (network : Network) : Reads Access Network := do
  let empty ← rtllibIsEmptyEssid (e.data env) e.len
  if empty then pure { network with flags := network.flags ||| networkEmptyEssid }
  else do
    let ssidLen := min e.len 32
    let ssid ← e.memcpy env 2 .ssid network.ssid ssidLen
    noteAll (fun i => .store .ssid (ssidLen + i)) (32 - ssidLen)
    pure { network with
      ssidLen := ssidLen
      ssid := fun i => if ssidLen ≤ i ∧ i < 32 then 0 else ssid i }

def rtllibIsOfdmRate (rate : Byte) : Bool :=
  [0x0C, 0x12, 0x18, 0x24, 0x30, 0x48, 0x60, 0x6C].contains (rate &&& 0x7f)

def rtllibIsCckRate (rate : Byte) : Bool := [0x02, 0x04, 0x0B, 0x16].contains (rate &&& 0x7f)

def ofdmFlags (rate : Byte) (flags : BitVec 32) : BitVec 32 :=
  if rtllibIsOfdmRate rate then
    let flags := flags ||| networkHasOfdm
    if rate &&& 0x80 ≠ 0 then flags &&& ~~~networkHasCck else flags
  else flags

/-- `MFIE_TYPE_RATES`, the first `n` turns of its loop. `snprintf` prints the rate just stored. -/
def ratesLoop (e : Elem) (network : Network) : Nat → Reads Access Network
  | 0 => pure network
  | i + 1 => do
    let network ← ratesLoop e network i
    let rate ← e.data env i
    note (.store .rates i)
    note (.load .rates i)
    let flags := ofdmFlags rate network.flags
    pure { network with
      rates := update network.rates i rate
      flags := if rtllibIsCckRate rate then flags ||| networkHasCck else flags }

/-- `MFIE_TYPE_RATES_EX`, the first `n` turns of its loop. `snprintf` prints `network->rates[i]`. -/
def ratesExLoop (e : Elem) (network : Network) : Nat → Reads Access Network
  | 0 => pure network
  | i + 1 => do
    let network ← ratesExLoop e network i
    let rate ← e.data env i
    note (.store .ratesEx i)
    note (.load .rates i)
    pure { network with
      ratesEx := update network.ratesEx i rate
      flags := ofdmFlags rate network.flags }

def parseRates (e : Elem) (network : Network) : Reads Access Network :=
  ratesLoop env e { network with ratesLen := min e.len 12 } (min e.len 12)

def parseRatesEx (e : Elem) (network : Network) : Reads Access Network :=
  ratesExLoop env e { network with ratesExLen := min e.len 16 } (min e.len 16)

/-! ## One byte -/

def parseDsSet (e : Elem) (network : Network) : Reads Access Network := do
  let b ← e.data env 0
  pure { network with channel := b }

def parseErp (e : Elem) (network : Network) : Reads Access Network := do
  let b ← e.data env 0
  pure { network with erpValue := b, flags := network.flags ||| networkHasErpValue }

def parseIbssSet (e : Elem) (network : Network) : Reads Access Network := do
  let b ← e.data env 0
  pure { network with atimWindow := b.setWidth 16 }

/-! ## TIM -/

/-- The count, the period and, if the station is linked, the time of the TIM. -/
def timFixed (count period control : Byte) (network : Network) : Network :=
  { network with
    timCount := count
    timPeriod := period
    dtimPeriod := period
    lastDtimStaTime := update (update network.lastDtimStaTime 0 env.jiffies) 1 env.macTime1
    dtimData := if control &&& 1 ≠ 0 then rtllibDtimValid ||| rtllibDtimMbcast
      else rtllibDtimValid }

def timBitmap (bits : Byte) (network : Network) : Network :=
  { network with
    dtimData := if bits.getLsbD (env.assocId.toNat % 8) then network.dtimData ||| rtllibDtimUcast
      else network.dtimData
    listenInterval := network.dtimPeriod.setWidth 16 }

def parseTim (e : Elem) (network : Network) : Reads Access Network :=
  if e.len < 4 then pure network
  else do
    let count ← e.data env 0
    let period ← e.data env 1
    if env.state ≠ .linked then
      pure { network with timCount := count, timPeriod := period, dtimPeriod := period }
    else do
      noteAll (.store .lastDtimStaTime) 2
      let control ← e.data env 2
      let network := timFixed env count period control network
      let offset := control.toNat / 2 * 2
      let assocId := env.assocId.toNat
      if assocId < 8 * offset ∨ assocId > 8 * (offset + e.len - 3) then pure network
      else do
        let bits ← e.data env (3 + (assocId / 8 - offset))
        pure (timBitmap env bits network)

/-! ## QoS -/

def qosOui : Nat → Byte := fun i => [0x00, 0x50, 0xF2].getD i 0

def rtllibVerifyQosInfo (qui : Nat → Byte) (subType : Byte) : Bool :=
  qui 4 = subType ∧ qui 0 = qosOui 0 ∧ qui 1 = qosOui 1 ∧ qui 2 = qosOui 2 ∧ qui 3 = 2 ∧ qui 5 = 1

def readQosElement (e : Elem) (size : Nat) (subType : Byte) : Reads Access (Option (Nat → Byte)) :=
  if e.id = 221 ∧ e.len = size then do
    let qui ← copy (e.data env) (fun _ => 0) size
    pure (if rtllibVerifyQosInfo qui subType then some qui else none)
  else pure none

/-- The bits that `rtllib_qos_convert_ac_to_parameters` sets in `wmm_acm` for an access category. -/
def acmBits (aci : Nat) : BitVec 32 :=
  match aci with
  | 1 => 0x09
  | 2 => 0x30
  | 3 => 0xC0
  | _ => 0x06

/-- One turn of the loop of `rtllib_qos_convert_ac_to_parameters`; `ac` are the bytes of the
record. -/
def convertAc (qosData : QosData) (ac : Nat → Byte) : Reads Access QosData := do
  let aci := ((ac 0 &&& 0x60) >>> 5).toNat
  let acm := ac 0 &&& 0x10 ≠ 0
  let aifs := ac 0 &&& 0x0f
  note (.store .qosParameters aci)
  note (.load .qosParameters aci)
  pure { qosData with
    wmmAcm := if acm then qosData.wmmAcm ||| acmBits aci else qosData.wmmAcm
    aifs := update qosData.aifs aci (if aifs < 2 then 2 else aifs)
    cwMin := update qosData.cwMin aci ((ac 1 &&& 0x0F).setWidth 16)
    cwMax := update qosData.cwMax aci ((ac 1 >>> 4).setWidth 16)
    flag := update qosData.flag aci (if acm then 1 else 0)
    txOpLimit := update qosData.txOpLimit aci (ac 3 ++ ac 2) }

/-- `rtllib_qos_convert_ac_to_parameters` on the bytes from `qui` on. The records start at byte 8. -/
def rtllibQosConvertAcToParameters (qui : Nat → Byte) (qosData : QosData) :
    Reads Access QosData := do
  let qosData := { qosData with wmmAcm := 0 }
  let qosData ← convertAc qosData fun i => qui (8 + i)
  let qosData ← convertAc qosData fun i => qui (12 + i)
  let qosData ← convertAc qosData fun i => qui (16 + i)
  convertAc qosData fun i => qui (20 + i)

def rtllibParseQosInfoParamIE (e : Elem) (network : Network) : Reads Access (Option Network) := do
  let info ← readQosElement env e 7 0
  match info with
  | some qui =>
    pure (some { network with
      qosData := { network.qosData with paramCount := qui 6 &&& 0x0F, supported := true }
      flags := network.flags ||| networkHasQosInformation })
  | none => do
    let param ← readQosElement env e 24 1
    match param with
    | some qui => do
      let qosData ← rtllibQosConvertAcToParameters qui network.qosData
      pure (some { network with
        qosData := { qosData with paramCount := qui 6 &&& 0x0F, supported := true }
        flags := network.flags ||| networkHasQosParameters })
    | none => pure none

/-! ## HT -/

def copyHtCap (e : Elem) (bssht : BssHt) : Reads Access BssHt := do
  let capLen := if e.len > 32 then 32 else e.len
  let buf ← e.memcpy env 2 .bdHTCapBuf bssht.bdHTCapBuf capLen
  pure { bssht with bdHTSpecVer := .ewc, bdHTCapLen := capLen, bdHTCapBuf := buf }

/-- `((PHT_CAPABILITY_ELE)(bdHTCapBuf))->MCS[1] == 0` -/
def oneStream (bssht : BssHt) : Reads Access Bool := do
  note (.load .bdHTCapBuf 4)
  pure (bssht.bdHTCapBuf 4 = 0)

def parseHtCap (e : Elem) (st : ParseState) : Reads Access ParseState :=
  if e.len ≠ 0 then do
    let bssht ← copyHtCap env e st.network.bssht
    let bdHT1R ← oneStream bssht
    note (.load .bdHTCapBuf 0)
    let width := if (bssht.bdHTCapBuf 0).getLsbD 1 then HtChannelWidth.w2040 else .w20
    pure { st with
      tmpHtcapLen := e.len
      network := { st.network with
        bssht := { bssht with bdSupportHT := true, bdHT1R := bdHT1R, bdBandWidth := width } } }
  else pure { st with
    tmpHtcapLen := 0
    network := { st.network with
      bssht := { st.network.bssht with bdSupportHT := false, bdHT1R := false, bdBandWidth := .w20 } } }

def copyHtInfo (e : Elem) (ver : HtSpecVer) (bssht : BssHt) : Reads Access BssHt := do
  let infoLen := if e.len > 32 then 32 else e.len
  let buf ← e.memcpy env 2 .bdHTInfoBuf bssht.bdHTInfoBuf infoLen
  pure { bssht with bdHTSpecVer := ver, bdHTInfoLen := infoLen, bdHTInfoBuf := buf }

def parseHtInfo (e : Elem) (st : ParseState) : Reads Access ParseState :=
  if e.len ≠ 0 then do
    let bssht ← copyHtInfo env e .ieee st.network.bssht
    pure { st with tmpHtinfoLen := e.len, network := { st.network with bssht := bssht } }
  else pure { st with tmpHtinfoLen := 0 }

/-! ## Vendor elements -/

/-- `info_element->len >= bytes.length`, and the data starts with these bytes. -/
def Elem.startsWith (e : Elem) (bytes : List Byte) : Reads Access Bool :=
  if bytes.length ≤ e.len then e.matches env 0 bytes else pure false

/-- The EWC HT capability, `tmp_htcap_len == 0` being tested before. -/
def parseEwcCap (e : Elem) (st : ParseState) : Reads Access ParseState :=
  if st.tmpHtcapLen = 0 then do
    let hit ← e.startsWith env [0x00, 0x90, 0x4c, 0x33]
    if hit then do
      let bssht ← copyHtCap env e st.network.bssht
      let bdHT1R ← oneStream bssht
      pure { st with
        tmpHtcapLen := e.len
        network := { st.network with bssht := { bssht with bdSupportHT := true, bdHT1R := bdHT1R } } }
    else pure { st with
      network := { st.network with
        bssht := { st.network.bssht with bdSupportHT := false, bdHT1R := false } } }
  else pure st

def parseEwcInfo (e : Elem) (st : ParseState) : Reads Access ParseState :=
  if st.tmpHtinfoLen = 0 then do
    let hit ← e.startsWith env [0x00, 0x90, 0x4c, 0x34]
    if hit then do
      let bssht ← copyHtInfo env e .ewc st.network.bssht
      pure { st with tmpHtinfoLen := e.len, network := { st.network with bssht := bssht } }
    else pure st
  else pure st

def aggByte (buf : Nat → Option Byte) (i : Nat) : Reads Access Byte :=
  ⟨(buf i).getD (env.stack i), [.aggLoad i (buf i).isSome]⟩

/-- Copies a Realtek aggregation element into the local buffer. -/
def copyAgg (e : Elem) (st : ParseState) : Reads Access ParseState := do
  let hit ← e.startsWith env [0x00, 0xe0, 0x4c, 0x02]
  if hit then do
    noteAll .aggStore e.len
    let bytes ← copy (e.data env) (fun _ => 0) e.len
    pure { st with
      htRealtekAggLen := e.len
      htRealtekAggBuf := fun i => if i < e.len then some (bytes i) else st.htRealtekAggBuf i }
  else pure st

/-- `ht_realtek_agg_buf[4] == 1 && (ht_realtek_agg_buf[5] & mask)` -/
def aggHas (buf : Nat → Option Byte) (mask : Byte) : Reads Access Bool := do
  let b4 ← aggByte env buf 4
  if b4 = 1 then do
    let b5 ← aggByte env buf 5
    pure (b5 &&& mask ≠ 0)
  else pure false

/-- The capabilities in the local buffer, which hold when the network supports HT. -/
def readAgg (st : ParseState) : Reads Access ParseState :=
  if st.htRealtekAggLen ≥ 5 then do
    let slot ← aggHas env st.htRealtekAggBuf 0x02
    let se ← aggHas env st.htRealtekAggBuf rtHtCapUse92se
    let bssht := st.network.bssht
    pure { st with
      network := { st.network with
        realtekCapExit := true
        bssht := { bssht with
          bdRT2RTAggregation := true
          bdRT2RTLongSlotTime := bssht.bdRT2RTLongSlotTime || slot
          rt2rtHTMode := if se then bssht.rt2rtHTMode ||| rtHtCapUse92se else bssht.rt2rtHTMode } } }
  else pure st

/-- The last test of the local buffer. -/
def readSoftap (st : ParseState) : Reads Access ParseState :=
  if st.htRealtekAggLen ≥ 5 then do
    let b5 ← aggByte env st.htRealtekAggBuf 5
    let bssht := st.network.bssht
    pure { st with
      network := { st.network with
        bssht := { bssht with
          rt2rtHTMode := if b5 &&& rtHtCapUseSoftap ≠ 0 then bssht.rt2rtHTMode ||| rtHtCapUseSoftap
            else bssht.rt2rtHTMode } } }
  else pure st

/-- The block under `ieee->aggregation`. -/
def parseRealtekAgg (e : Elem) (st : ParseState) : Reads Access ParseState :=
  if env.aggregation then do
    let st ← (if st.network.bssht.bdSupportHT then do
        let st ← copyAgg env e st
        readAgg env st
      else pure st)
    readSoftap env st
  else pure st

def Elem.anyOui (e : Elem) : List (List Byte) → Reads Access Bool
  | [] => pure false
  | oui :: rest => do
    let hit ← e.startsWith env oui
    if hit then pure true else e.anyOui rest

def parseMakers (e : Elem) (network : Network) : Reads Access Network := do
  let broadcom ← e.anyOui env [[0x00, 0x05, 0xb5], [0x00, 0x0a, 0xf7], [0x00, 0x10, 0x18]]
  let ralink ← e.anyOui env [[0x00, 0x0c, 0x43]]
  let atheros ← e.anyOui env [[0x00, 0x03, 0x7f], [0x00, 0x13, 0x74]]
  let marvell ← e.anyOui env [[0x00, 0x50, 0x43]]
  let cisco ← e.anyOui env [[0x00, 0x40, 0x96]]
  pure { network with
    broadcomCapExist := network.broadcomCapExist || broadcom
    ralinkCapExist := network.ralinkCapExist || ralink
    atherosCapExist := network.atherosCapExist || atheros
    marvellCapExist := network.marvellCapExist || marvell
    ciscoCapExist := network.ciscoCapExist || cisco }

/-- A test on four bytes of an element with more than four. -/
def Elem.longerThan (e : Elem) (bytes : List Byte) : Reads Access Bool :=
  if 4 < e.len then e.matches env 0 bytes else pure false

/-- The CCX radio management element. `&info_element[4]` is eight bytes after its start. -/
def parseCcxRm (e : Elem) (network : Network) : Reads Access Network := do
  let hit ← e.longerThan env [0x00, 0x40, 0x96, 0x01]
  if hit then
    if e.len = 6 then do
      let lo ← e.byte env 8
      let hi ← e.byte env 9
      note (.store .ccxRmState 0)
      let ccxRmState := update network.ccxRmState 0 (hi ++ lo)
      note (.load .ccxRmState 0)
      note (.load .ccxRmState 1)
      let bCcxRmEnable := ccxRmState 0 ≠ 0
      let mask : Byte := (ccxRmState 1).setWidth 8 &&& 0x07
      let network := { network with ccxRmState := ccxRmState, bCcxRmEnable := bCcxRmEnable }
      if mask ≠ 0 then
        let mBssidMask : Byte := 0xff <<< mask.toNat
        pure { network with
          bMBssidValid := true
          mBssidMask := mBssidMask
          mBssid := update network.bssid 5 (network.bssid 5 &&& mBssidMask) }
      else pure { network with bMBssidValid := false, mBssidMask := mask }
    else pure { network with bCcxRmEnable := false }
  else pure network

def parseCcxVersion (e : Elem) (network : Network) : Reads Access Network := do
  let hit ← e.longerThan env [0x00, 0x40, 0x96, 0x03]
  if hit then
    if e.len = 5 then do
      let version ← e.data env 4
      pure { network with bWithCcxVerNum := true, bssCcxVerNumber := version }
    else pure { network with bWithCcxVerNum := false, bssCcxVerNumber := 0 }
  else pure network

/-- The WZC element, copied with its header. -/
def parseWzc (e : Elem) (network : Network) : Reads Access Network := do
  let hit ← e.longerThan env [0x00, 0x50, 0xf2, 0x04]
  if hit then do
    let n := min (e.len + 2) 256
    let wzcIe ← e.memcpy env 0 .wzcIe network.wzcIe n
    pure { network with wzcIe := wzcIe, wzcIeLen := n }
  else pure network

def parseTurbo (e : Elem) (network : Network) : Reads Access Network :=
  if e.len = 7 then do
    let hit ← e.matches env 0 [0x00, 0xe0, 0x4c, 0x01, 0x02]
    pure (if hit then { network with turboEnable := true } else network)
  else pure network

/-- The tests of `MFIE_TYPE_GENERIC` after those for QoS and WPA. -/
def parseVendor (e : Elem) (st : ParseState) : Reads Access ParseState := do
  let network ← parseTurbo env e st.network
  let st ← parseEwcCap env e { st with network := network }
  let st ← parseEwcInfo env e st
  let st ← parseRealtekAgg env e st
  let network ← parseMakers env e st.network
  let network ← parseCcxRm env e network
  let network ← parseCcxVersion env e network
  let network ← parseWzc env e network
  pure { st with network := network }

def parseGeneric (e : Elem) (st : ParseState) : Reads Access ParseState := do
  let qos ← rtllibParseQosInfoParamIE env e st.network
  match qos with
  | some network => pure { st with network := network }
  | none => do
    let wpa ← e.startsWith env [0x00, 0x50, 0xf2, 0x01]
    if wpa then do
      let n := min (e.len + 2) 64
      let wpaIe ← e.memcpy env 0 .wpaIe st.network.wpaIe n
      pure { st with network := { st.network with wpaIe := wpaIe, wpaIeLen := n } }
    else parseVendor env e st

/-! ## The other elements -/

def parseRsn (e : Elem) (network : Network) : Reads Access Network := do
  let n := min (e.len + 2) 64
  let rsnIe ← e.memcpy env 0 .rsnIe network.rsnIe n
  pure { network with rsnIe := rsnIe, rsnIeLen := n }

def parseAironet (e : Elem) (network : Network) : Reads Access Network :=
  if e.len > 8 then do
    let flags ← e.data env 8
    pure { network with
      bWithAironetIE := true
      bCkipSupported := flags &&& 0x08 ≠ 0 ∨ flags &&& 0x10 ≠ 0 }
  else pure { network with bWithAironetIE := false, bCkipSupported := false }

def rtllibExtractCountryIe (e : Elem) (st : ParseState) : Reads Access ParseState :=
  if st.dot11d.bEnabled then do
    let st ← (if e.len ≠ 0 then do
        let buf ← e.memcpy env 2 .countryIeBuf st.network.countryIeBuf e.len
        let st := { st with
          network := { st.network with countryIeBuf := buf, countryIeLen := e.len } }
        if st.dot11d.countryIeLen = 0 then do
          let dot11d ← dot11dUpdateCountryIe (e.data env) st.network.bssid e.len st.dot11d
          pure { st with dot11d := dot11d }
        else pure st
      else pure st)
    pure (if st.dot11d.countryIeSrcAddr = st.network.bssid then
        { st with
          dot11d := { st.dot11d with countryIeWatchdog := st.dot11d.countryIeWatchdog + 1 } }
      else st)
  else pure st

/-! ## The loop -/

def ParseState.setNetwork (st : ParseState) (network : Reads Access Network) :
    Reads Access ParseState := do
  let network ← network
  pure { st with network := network }

/-- The `switch` of `rtllib_parse_info_param`. -/
def parseElement (e : Elem) (st : ParseState) : Reads Access ParseState :=
  match e.id.toNat with
  | 0 => st.setNetwork (parseSsid env e st.network)
  | 1 => st.setNetwork (parseRates env e st.network)
  | 3 => st.setNetwork (parseDsSet env e st.network)
  | 5 => st.setNetwork (parseTim env e st.network)
  | 6 => st.setNetwork (parseIbssSet env e st.network)
  | 7 => rtllibExtractCountryIe env e st
  | 42 => st.setNetwork (parseErp env e st.network)
  | 45 => parseHtCap env e st
  | 48 => st.setNetwork (parseRsn env e st.network)
  | 50 => st.setNetwork (parseRatesEx env e st.network)
  | 61 => parseHtInfo env e st
  | 133 => st.setNetwork (parseAironet env e st.network)
  | 221 => parseGeneric env e st
  | _ => pure st

/-- The loop of `rtllib_parse_info_param` with `length` bytes left from `pos` on. A turn uses two
bytes at least, so that `length` turns are enough. -/
def parseLoop : Nat → Nat → Nat → ParseState → Reads Access ParseState
  | 0, _, _, st => pure st
  | fuel + 1, length, pos, st =>
    if 2 ≤ length then do
      let len ← frameByte env (pos + 1)
      if 2 + len.toNat > length then pure st
      else do
        let id ← frameByte env pos
        let st ← parseElement env ⟨pos, id, len.toNat⟩ st
        parseLoop fuel (length - (2 + len.toNat)) (pos + (2 + len.toNat)) st
    else pure st

/-- `rtllib_parse_info_param` with the elements at `pos`. It always returns 0. -/
def rtllibParseInfoParam (pos : Nat) (length : BitVec 16) (network : Network) (dot11d : Dot11dInfo) :
    Reads Access (Network × Dot11dInfo) := do
  let st ← parseLoop env length.toNat length.toNat pos ⟨network, dot11d, 0, 0, 0, fun _ => none⟩
  let known := st.network.atherosCapExist || st.network.broadcomCapExist ||
    st.network.ciscoCapExist || st.network.ralinkCapExist || st.network.bssht.bdRT2RTAggregation
  pure ({ st.network with unknownCapExist := !known }, st.dot11d)

/-! ## The fixed part -/

def sizeofProbeResponse : Nat := 36

def htInitializeBssDesc (bssht : BssHt) : BssHt :=
  { bssht with
    bdSupportHT := false, bdHTCapBuf := fun _ => 0, bdHTCapLen := 0, bdHTInfoBuf := fun _ => 0
    bdHTInfoLen := 0, bdHTSpecVer := .ieee, bdRT2RTAggregation := false
    bdRT2RTLongSlotTime := false, rt2rtHTMode := 0 }

/-- The fields that `rtllib_network_init` sets before it comes to the elements. `fixed` are the
first 36 bytes of the frame. -/
def initFixed (fixed : Nat → Byte) (network : Network) : Network :=
  let capability := fixed 35 ++ fixed 34
  { network with
    qosData := ⟨fun _ => 0, fun _ => 0, fun _ => 0, fun _ => 0, fun _ => 0, 0, false, false, 0, 0⟩
    bssid := fun i => fixed (16 + i)
    capability := capability
    lastScanned := env.jiffies
    timeStamp := fun i => fixed (27 + 4 * i) ++ fixed (26 + 4 * i) ++ fixed (25 + 4 * i) ++
      fixed (24 + 4 * i)
    beaconInterval := fixed 33 ++ fixed 32
    listenInterval := 0x0A
    ratesLen := 0, ratesExLen := 0, lastAssociate := 0, ssidLen := 0, hiddenSsidLen := 0
    hiddenSsid := fun _ => 0
    atimWindow := 0
    erpValue := if capability.getLsbD 1 then 3 else 0
    berpInfoValid := false, broadcomCapExist := false, ralinkCapExist := false
    atherosCapExist := false, ciscoCapExist := false, unknownCapExist := false
    realtekCapExit := false, marvellCapExist := false, turboEnable := false
    signalStrength := env.signalStrength
    rssi := env.signalStrength
    countryIeLen := 0, countryIeBuf := fun _ => 0
    bssht := htInitializeBssDesc network.bssht
    channel := if env.freq = rtllib52ghzBand then env.receivedChannel else network.channel
    flags := if env.freq = rtllib52ghzBand then 0 else networkHasCck
    wpaIeLen := 0, rsnIeLen := 0, wzcIeLen := 0 }

def modeOf (flags : BitVec 32) : Byte :=
  if env.freq = rtllib52ghzBand then ieeeA
  else (if flags &&& networkHasOfdm ≠ 0 then ieeeG else 0) |||
    (if flags &&& networkHasCck ≠ 0 then ieeeB else 0)

def htMode (mode : Byte) : Byte :=
  if mode = ieeeA then ieeeN5g else if mode &&& (ieeeG ||| ieeeB) ≠ 0 then ieeeN24g else mode

/-- `rtllib_network_init`: `none` when it returns 1. The signal statistics, which nothing here
reads, are left out. -/
def rtllibNetworkInit (network : Network) (dot11d : Dot11dInfo) :
    Reads Access (Option Network × Dot11dInfo) := do
  let fixed ← copy (fun i => frameByte env (16 + i)) (fun _ => 0) 6
  let rest ← copy (fun i => frameByte env (24 + i)) (fun _ => 0) 12
  noteAll (.store .timeStamp) 2
  noteAll (.store .hiddenSsid) 33
  noteAll (.store .countryIeBuf) 255
  let network := initFixed env (fun i => if i < 24 then fixed (i - 16) else rest (i - 24)) network
  let r ← rtllibParseInfoParam env sizeofProbeResponse
    (env.statsLen - BitVec.ofNat 16 sizeofProbeResponse) network dot11d
  let network := r.1
  let mode := modeOf env network.flags
  if mode = 0 then pure (none, r.2)
  else do
    let network := { network with mode := if network.bssht.bdSupportHT then htMode mode else mode }
    let empty ← rtllibIsEmptyEssid (fun i => (⟨network.ssid i, [.load .ssid i]⟩ : Reads Access Byte))
      network.ssidLen
    let flags := if empty then network.flags ||| networkEmptyEssid else network.flags
    pure (some { network with flags := flags }, r.2)

end Rtl8190.Beacon
