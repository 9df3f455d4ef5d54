import Mathlib.Logic.Function.Basic
import Rtl8190.Lib.Memory
import Rtl8190.Lib.Narrow

/-!
# The PHY status of a received frame

`rtl8192_query_rxphystatus` and its conversions (`rtl_core.c`). A `char` is signed. Sums in `int`
and `long` are far from their limits; what is stored in eight bits is a `Narrowed` value.
-/

open Function Rtl8190.Memory Rtl8190.Narrow

namespace Rtl8190.Phy

inductive RfType where
  | rf1T2R
  | rf2T4R
  deriving DecidableEq, Repr

/-- `RF90_PATH_A` .. `RF90_PATH_D` -/
abbrev Path := Fin 4

def paths : List Path := [0, 1, 2, 3]

/-- `struct rtllib_rx_stats`, the fields about the signal -/
structure RxStats where
  signalQuality : Int
  recvSignalPower : Int
  rxPower : Int
  signalStrength : Int
  rxPWDBAll : Int
  rxMIMOSignalStrength : Path → Int
  rxMIMOSignalQuality : Fin 2 → Int
  cckAdcPwdb : Path → Int
  bIsAMPDU : Bool
  bPacketMatchBSSID : Bool
  bIsCCK : Bool
  bPacketToSelf : Bool
  bPacketBeacon : Bool
  bToSelfBA : Bool

def RxStats.cleared : RxStats where
  signalQuality := 0
  recvSignalPower := 0
  rxPower := 0
  signalStrength := 0
  rxPWDBAll := 0
  rxMIMOSignalStrength := fun _ => 0
  rxMIMOSignalQuality := fun _ => 0
  cckAdcPwdb := fun _ => 0
  bIsAMPDU := false
  bPacketMatchBSSID := false
  bIsCCK := false
  bPacketToSelf := false
  bPacketBeacon := false
  bToSelfBA := false

/-- What `rtl8192_query_rxphystatus` reads of the driver: `rf_type`, `DM_RxPathSelTable.Enable`,
`brfpath_rxenable` and bit 9 of the register 0x824 -/
structure Config where
  rfType : RfType
  rxPathSelEnable : Bool
  brfpathRxenable : Path → Bool
  reg824Bit9 : Bool

/-- The flags of a frame, `RxRate` and `RxHT` of its `rx_fwinfo`, and the status report behind it -/
structure Frame where
  packetMatchBssid : Bool
  packetToself : Bool
  packetBeacon : Bool
  toSelfBA : Bool
  rxRate : BitVec 7
  rxHT : Bool
  report : Nat → Byte

/-! ## The two forms of the report -/

/-- `phy_sts_cck_819xpci_t` -/
def Frame.adcPwdbX (f : Frame) (i : Path) : Byte := f.report i
def Frame.sqRpt (f : Frame) : Byte := f.report 4
def Frame.cckAgcRpt (f : Frame) : Byte := f.report 5

/-- `phy_sts_ofdm_819xpci_t` -/
def Frame.trswGainX (f : Frame) (i : Path) : Byte := f.report i
def Frame.pwdbAll (f : Frame) : Byte := f.report 4
def Frame.rxevmX (f : Frame) (i : Fin 2) : Byte := f.report (13 + i)
def Frame.rxsnrX (f : Frame) (i : Path) : Byte := f.report (15 + i)

def Frame.isCck (f : Frame) : Bool :=
  (f.rxRate == 0x00 || f.rxRate == 0x01 || f.rxRate == 0x02 || f.rxRate == 0x03) && !f.rxHT

/-! ## Conversions -/

def rtl819xQueryRxpwrpercentage (antpower : Int) : Narrowed Int :=
  if antpower ≤ -100 ∨ antpower ≥ 20 then pure 0
  else if antpower ≥ 0 then pure 100
  else u8 (100 + antpower)

def rtl819xEvmDbtopercentage (value : Int) : Narrowed Int := do
  let retVal := value
  let retVal := if retVal ≥ 0 then 0 else retVal
  let retVal := if retVal ≤ -33 then -33 else retVal
  let retVal ← s8 (0 - retVal)
  let retVal ← s8 (retVal * 3)
  u8 (if retVal = 99 then 100 else retVal)

def rtl819xSignalScaleMapping (currsig : Int) : Int :=
  if currsig ≥ 61 ∧ currsig ≤ 100 then 90 + (currsig - 60).tdiv 4
  else if currsig ≥ 41 ∧ currsig ≤ 60 then 78 + (currsig - 40).tdiv 2
  else if currsig ≥ 31 ∧ currsig ≤ 40 then 66 + (currsig - 30)
  else if currsig ≥ 21 ∧ currsig ≤ 30 then 54 + (currsig - 20)
  else if currsig ≥ 5 ∧ currsig ≤ 20 then 42 + ((currsig - 5) * 2).tdiv 3
  else if currsig = 4 then 36
  else if currsig = 3 then 27
  else if currsig = 2 then 18
  else if currsig = 1 then 9
  else currsig

/-! ## The function -/

/-- `*pstats` and `*precord_stats`, most of whose fields are assigned together, and
`priv->stats.rxSNRdB` -/
structure Records where
  pstats : RxStats
  precord : RxStats
  rxSNRdB : Path → Int

def Records.both (f : RxStats → RxStats) (s : Records) : Records :=
  { s with pstats := f s.pstats, precord := f s.precord }

/-- What the two branches leave for the end of the function. -/
structure Measured where
  pwdbAll : Int
  rfRxNum : Int
  totalRssi : Int
  records : Records

def cckRxPwrAll (reg824Bit9 : Bool) (agc : Byte) : Narrowed Int :=
  if reg824Bit9 = false then
    let report := (agc &&& 0xc0) >>> 6
    let gain : Int := (agc &&& 0x3e).toNat
    match report.toNat with
    | 3 => s8 (-35 - gain)
    | 2 => s8 (-23 - gain)
    | 1 => s8 (-11 - gain)
    | 0 => s8 (8 - gain)
    | _ => pure 0
  else
    let report := (agc &&& 0x60) >>> 5
    let gain : Int := ((agc &&& 0x1f).toNat : Int) * 2
    match report.toNat with
    | 3 => s8 (-35 - gain)
    | 2 => s8 (-23 - gain)
    | 1 => s8 (-11 - gain)
    | 0 => s8 (-8 - gain)
    | _ => pure 0

def cckQuality (rxPWDBAll : Int) (sqRpt : Byte) : Narrowed Int :=
  if rxPWDBAll > 40 then pure 100
  else do
    let sq : Int := sqRpt.toNat
    if sq > 64 then pure 0
    else if sq < 20 then pure 100
    else u8 (((64 - sq) * 100).tdiv 44)

/-- The loop over `cck_adc_pwdb`: the byte is read as a signed one, and halved. -/
def cckAdc (f : Frame) (s : Records) (i : Path) : Narrowed Records := do
  let cckAdcPwdb ← s8 ((f.adcPwdbX i).toInt.tdiv 2)
  return s.both fun r => { r with cckAdcPwdb := update r.cckAdcPwdb i cckAdcPwdb }

def cckAdcs (cfg : Config) (f : Frame) (s : Records) : Narrowed Records :=
  if cfg.rfType = .rf2T4R ∧ cfg.rxPathSelEnable = true ∧ f.packetMatchBssid = true then
    paths.foldlM (cckAdc f) s
  else pure s

def cckQualities (f : Frame) (s : Records) : Narrowed Records :=
  if f.packetMatchBssid = true then do
    let sq ← cckQuality s.pstats.rxPWDBAll f.sqRpt
    let mimo ← s8 sq
    return s.both fun r =>
      { r with
        signalQuality := sq
        rxMIMOSignalQuality := fun i => if i = 0 then mimo else -1 }
  else pure s

def Records.power (s : Records) (pwdbAll rxPwrAll : Int) : Records :=
  let s := s.both fun r => { r with rxPWDBAll := pwdbAll }
  { s with pstats := { s.pstats with recvSignalPower := rxPwrAll } }

def cckReport (cfg : Config) (f : Frame) (s : Records) : Narrowed Measured := do
  let s ← cckAdcs cfg f s
  let rxPwrAll ← cckRxPwrAll cfg.reg824Bit9 f.cckAgcRpt
  let pwdbAll ← rtl819xQueryRxpwrpercentage rxPwrAll
  let s ← cckQualities f (s.power pwdbAll rxPwrAll)
  return ⟨pwdbAll, 0, 0, s⟩

/-- The loop over the paths counts the enabled ones, and adds up their strengths. -/
structure PathLoop where
  rfRxNum : Int
  totalRssi : Int
  records : Records

def countPath (cfg : Config) (rfRxNum : Int) (i : Path) : Narrowed Int :=
  if cfg.brfpathRxenable i = true then u8 (rfRxNum + 1) else pure rfRxNum

def ofdmPath (cfg : Config) (f : Frame) (s : PathLoop) (i : Path) : Narrowed PathLoop := do
  let rfRxNum ← countPath cfg s.rfRxNum i
  let rxPwr ← s8 (((f.trswGainX i &&& 0x3f).toNat : Int) * 2 - 106)
  let rxSnr ← s8 ((f.rxsnrX i).toInt.tdiv 2)
  let rssi ← rtl819xQueryRxpwrpercentage rxPwr
  let totalRssi := if cfg.brfpathRxenable i = true then s.totalRssi + rssi else s.totalRssi
  let strength ← u8 rssi
  let records := { s.records with rxSNRdB := update s.records.rxSNRdB i rxSnr }
  return ⟨rfRxNum, totalRssi,
    if f.packetMatchBssid = true then records.both fun r =>
      { r with rxMIMOSignalStrength := update r.rxMIMOSignalStrength i strength }
    else records⟩

def Frame.streams (f : Frame) : List (Fin 2) :=
  if f.rxHT = true ∧ f.rxRate ≥ 0x08 ∧ f.rxRate ≤ 0x0f then [0, 1] else [0]

def ofdmStream (f : Frame) (s : Records) (i : Fin 2) : Narrowed Records := do
  let rxEvm ← s8 ((f.rxevmX i).toInt.tdiv 2)
  let evm ← rtl819xEvmDbtopercentage rxEvm
  let quality ← u8 (evm % 256)
  let mimo ← s8 quality
  return if f.packetMatchBssid = true then
      s.both fun r =>
        { r with
          signalQuality := if i = 0 then quality else r.signalQuality
          rxMIMOSignalQuality := update r.rxMIMOSignalQuality i mimo }
    else s

def ofdmReport (cfg : Config) (f : Frame) (s : Records) : Narrowed Measured := do
  let l ← paths.foldlM (ofdmPath cfg f) ⟨0, 0, s⟩
  let rxPwrAll ← s8 ((((f.pwdbAll >>> 1) &&& 0x7f).toNat : Int) - 106)
  let pwdbAll ← rtl819xQueryRxpwrpercentage rxPwrAll
  let s := (l.records.power pwdbAll rxPwrAll).both fun r => { r with rxPower := rxPwrAll }
  let s ← f.streams.foldlM (ofdmStream f) s
  return ⟨pwdbAll, l.rfRxNum, l.totalRssi, s⟩

def measure (cfg : Config) (f : Frame) (s : Records) : Narrowed Measured :=
  if f.isCck = true then cckReport cfg f s else ofdmReport cfg f s

def strengthen (f : Frame) (m : Measured) : Narrowed Records :=
  if f.isCck = true then do
    let strength ← u8 (rtl819xSignalScaleMapping m.pwdbAll)
    let s := m.records.both fun r => { r with signalStrength := strength }
    if m.rfRxNum ≠ 0 then do
      let strength ← u8 (rtl819xSignalScaleMapping (m.totalRssi.tdiv m.rfRxNum))
      return s.both fun r => { r with signalStrength := strength }
    else return s
  else return m.records

/-- The flags, and the qualities that no stream has yet -/
def Frame.header (f : Frame) (r : RxStats) : RxStats :=
  { r with
    bPacketMatchBSSID := f.packetMatchBssid
    bPacketToSelf := f.packetToself
    bIsCCK := f.isCck
    bPacketBeacon := f.packetBeacon
    bToSelfBA := f.toSelfBA
    rxMIMOSignalQuality := fun _ => -1 }

def rtl8192QueryRxphystatus (cfg : Config) (f : Frame) (pstats : RxStats) (rxSNRdB : Path → Int) :
    Narrowed Records := do
  let s : Records := ⟨pstats, .cleared, rxSNRdB⟩
  let m ← measure cfg f (s.both f.header)
  strengthen f m

end Rtl8190.Phy
