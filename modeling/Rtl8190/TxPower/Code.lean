import Rtl8190.Lib.Lanes
import Rtl8190.Power.RfCode

/-!
# Transmit power

`PHY_SetRF8256CCKTxPower` and `PHY_SetRF8256OFDMTxPower` (`r8190_rtl8256.c`), their two callers
`rtl8192_phy_setTxPower` and `rtl8192_SetTxPowerLevel` (`r819xE_phy.c`), and what
`rtl8192_read_eeprom_info` (`rtl8192e.c`) leaves in the power tables. `rf_chip` is `RF_8256`.
-/

open Rtl8190.Lanes
open Rtl8190.Power (RfType)

namespace Rtl8190.TxPower

def mcsTXAGC : Nat := 0x340
def cckTXAGC : Nat := 0x348
def rFPGA0TxGainStage : Nat := 0x80c

/-- `bXBTxAGC | bXCTxAGC | bXDTxAGC` -/
def bXTxAGC : BitVec 32 := 0xf00 ||| 0xf000 ||| 0xf0000

/-- `priv->epromtype` -/
inductive EepromType where
  | eeprom93C46
  | eeprom93C56
  deriving DecidableEq, Repr

def rtCID819xNetcore : Nat := 10

/-- A table by `channel - 1`, for the channels 1 .. 14 -/
abbrev Table := Nat → Byte

structure Tables where
  txPowerLevelCCK : Table
  txPowerLevelOFDM24G : Table
  txPowerLevelCCKA : Table
  txPowerLevelOFDM24GA : Table
  txPowerLevelCCKC : Table
  txPowerLevelOFDM24GC : Table

/-- `priv` is allocated with zeros. -/
def Tables.zero : Tables := ⟨fun _ => 0, fun _ => 0, fun _ => 0, fun _ => 0, fun _ => 0, fun _ => 0⟩

structure Priv where
  epromtype : EepromType
  rfType : RfType
  customerID : Nat
  tables : Tables
  bDynamicTxHighPower : Bool
  bDynamicTxLowPower : Bool
  cckPwEnl : Byte
  cckTxPowerLevelOriginalOffset : BitVec 32
  /-- The two words in use, from `MCS_TXAGC` and `MCS_TXAGC + 4` -/
  mcsTxPowerLevelOriginalOffset : Fin 2 → BitVec 32
  rfCTxPwDiff : Byte
  antennaTxPwDiff : Fin 3 → Byte
  pwrTrack : BitVec 32

/-- What is written to the chip: `write_nic_dword`, or `rtl8192_setBBreg` with a mask -/
inductive Write where
  | dword (addr : Nat) (value : BitVec 32)
  | bbReg (addr : Nat) (mask data : BitVec 32)
  deriving DecidableEq, Repr

/-! ## The EEPROM -/

structure Eeprom where
  type : EepromType
  read : Nat → BitVec 16

def rtl8190EepromId : BitVec 16 := 0x8129
def eepromICVersionChannelPlan : Nat := 0x7c
def eepromRFIndPowerDiff : Nat := 0x14
def eepromTxPwDiffCrystalCap : Nat := 0x16
def eepromTxPwIndexCCK : Nat := 0x18
def eepromTxPwIndexOFDM24G : Nat := 0x26
def eepromC56RfACCKChnl1TxPwIndex : Nat := 0x80
def eepromC56RfCCCKChnl1TxPwIndex : Nat := 0xbc

inductive Version8190 where
  | bd
  | be
  deriving DecidableEq, Repr

namespace Eeprom

/-- `priv->card_8192_version` -/
def version (e : Eeprom) : Version8190 :=
  if e.read 0 = rtl8190EepromId ∧ (e.read (eepromICVersionChannelPlan >>> 1) &&& 0xff00) >>> 8 = 4 then
    .be
  else .bd

/-- Byte `i` of an array that is filled word by word, from `base` on -/
def byteAt (e : Eeprom) (base i : Nat) : Byte := lane (e.read ((base + i / 2 * 2) >>> 1)) (i % 2)

def eepromTxPower (e : Eeprom) (i : Nat) : Byte :=
  if i < 6 then e.byteAt eepromC56RfACCKChnl1TxPwIndex i
  else e.byteAt eepromC56RfCCCKChnl1TxPwIndex (i - 6)

/-- The channels 1 .. 3, 4 .. 9 and 10 .. 14 have one level each. -/
def group (i : Nat) : Nat := if i < 3 then 0 else if i < 9 then 1 else 2

def tables (e : Eeprom) (t : Tables) : Tables :=
  match e.type with
  | .eeprom93C46 =>
    { t with
      txPowerLevelCCK := e.byteAt eepromTxPwIndexCCK
      txPowerLevelOFDM24G := e.byteAt eepromTxPwIndexOFDM24G }
  | .eeprom93C56 =>
    { t with
      txPowerLevelCCKA := fun i => e.eepromTxPower (group i)
      txPowerLevelOFDM24GA := fun i => e.eepromTxPower (3 + group i)
      txPowerLevelCCKC := fun i => e.eepromTxPower (6 + group i)
      txPowerLevelOFDM24GC := fun i => e.eepromTxPower (9 + group i) }

def antennaTxPwDiff (e : Eeprom) (i : Fin 3) : Byte :=
  match e.type with
  | .eeprom93C46 => (e.read (eepromTxPwDiffCrystalCap >>> 1) >>> (4 * i.val)).setWidth 8 &&& 0xf
  | .eeprom93C56 => 0

end Eeprom

def rtl8192ReadEepromInfo (e : Eeprom) (p : Priv) : Priv :=
  let p := { p with epromtype := e.type, rfType := .rf1T2R }
  match e.version with
  | .bd => p
  | .be =>
    { p with
      rfType := if e.read (eepromRFIndPowerDiff >>> 1) &&& 0x80 = 0 then .rf2T4R else .rf1T2R
      tables := e.tables p.tables
      antennaTxPwDiff := e.antennaTxPwDiff }

/-! ## The RF chip -/

def capped (byteVal : Byte) : Byte := if byteVal > 0x24 then 0x24 else byteVal

def limited (p : Priv) (byteVal : Byte) : Byte :=
  let byteVal := capped byteVal
  if p.rfType = .rf2T4R ∧ p.rfCTxPwDiff.toInt > 0 then
    if byteVal.toNat + p.rfCTxPwDiff.toNat > 0x24 then 0x24 - p.rfCTxPwDiff else byteVal
  else byteVal

/-- `powerlevel` in two bytes, as for `CckPwEnl` -/
def twice (powerlevel : Byte) : BitVec 32 := powerlevel.setWidth 32 <<< 8 ||| powerlevel.setWidth 32

def cckTxAGC (p : Priv) (powerlevel : Byte) : BitVec 32 :=
  let txAGC := twice powerlevel + p.cckTxPowerLevelOriginalOffset
  if p.bDynamicTxLowPower then
    if p.customerID = rtCID819xNetcore then 0x2222 else txAGC + twice p.cckPwEnl
  else txAGC

def phySetRF8256CCKTxPower (p : Priv) (powerlevel : Byte) : List Write :=
  let txAGC := cckTxAGC p powerlevel
  let byte0 := limited p (lane txAGC 0)
  let byte1 := limited p (lane txAGC 1)
  [.dword cckTXAGC (byte1.setWidth 32 <<< 8 ||| byte0.setWidth 32)]

def fourTimes (powerlevel : Byte) : BitVec 32 := word fun _ => powerlevel

def limitedWord (p : Priv) (txAGC : BitVec 32) : BitVec 32 := word fun i => limited p (lane txAGC i)

def ofdmTxAGC2 (p : Priv) (powerlevel : Byte) : BitVec 32 :=
  if p.bDynamicTxHighPower then 0x03030303
  else fourTimes powerlevel + p.mcsTxPowerLevelOriginalOffset 1

def phySetRF8256OFDMTxPower (p : Priv) (powerlevel : Byte) : Priv × List Write :=
  let txAGC1 := fourTimes powerlevel + p.mcsTxPowerLevelOriginalOffset 0
  let txAGC2 := ofdmTxAGC2 p powerlevel
  let txAGC2Tmp := fourTimes powerlevel + p.mcsTxPowerLevelOriginalOffset 1
  ({ p with pwrTrack := limitedWord p txAGC2Tmp },
    [.dword mcsTXAGC (limitedWord p txAGC1), .dword (mcsTXAGC + 4) (limitedWord p txAGC2)])

def setRF8256 (p : Priv) (powerlevel powerlevelOFDM24G : Byte) : Priv × List Write :=
  let cck := phySetRF8256CCKTxPower p powerlevel
  let ofdm := phySetRF8256OFDMTxPower p powerlevelOFDM24G
  (ofdm.1, cck ++ ofdm.2)

/-! ## The two callers -/

/-- The differences that `rtl8192_phy_setTxPower` takes from the tables of the paths A and C -/
def setAntPwrDiff (p : Priv) (channel : Nat) : Priv × List Write :=
  let antPwrDiff := p.tables.txPowerLevelOFDM24GC (channel - 1) -
    p.tables.txPowerLevelOFDM24GA (channel - 1)
  let antennaTxPwDiff : Fin 3 → Byte := fun i => if i = 1 then antPwrDiff &&& 0xf else 0
  let u4RegValue := (antennaTxPwDiff 2).setWidth 32 <<< 8 ||| (antennaTxPwDiff 1).setWidth 32 <<< 4 |||
    (antennaTxPwDiff 0).setWidth 32
  ({ p with rfCTxPwDiff := antPwrDiff, antennaTxPwDiff := antennaTxPwDiff },
    [.bbReg rFPGA0TxGainStage bXTxAGC u4RegValue])

def rtl8192PhySetTxPower (p : Priv) (channel : Nat) : Priv × List Write :=
  match p.epromtype with
  | .eeprom93C46 =>
    setRF8256 p (p.tables.txPowerLevelCCK (channel - 1)) (p.tables.txPowerLevelOFDM24G (channel - 1))
  | .eeprom93C56 =>
    match p.rfType with
    | .rf1T2R =>
      setRF8256 p (p.tables.txPowerLevelCCKC (channel - 1))
        (p.tables.txPowerLevelOFDM24GC (channel - 1))
    | .rf2T4R =>
      let diff := setAntPwrDiff p channel
      let power := setRF8256 diff.1 (p.tables.txPowerLevelCCKA (channel - 1))
        (p.tables.txPowerLevelOFDM24GA (channel - 1))
      (power.1, diff.2 ++ power.2)
    | _ => setRF8256 p 0 0

def rtl8192SetTxPowerLevel (p : Priv) (channel : Nat) : Priv × List Write :=
  setRF8256 p (p.tables.txPowerLevelCCK (channel - 1)) (p.tables.txPowerLevelOFDM24G (channel - 1))

end Rtl8190.TxPower
