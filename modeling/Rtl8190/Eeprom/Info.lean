import Rtl8190.Eeprom.Read

/-!
# What the EEPROM says

`rtl8192_get_eeprom_size` and `rtl8192_read_eeprom_info` (`rtl8192e.c`) as a program of word reads. It
runs on the wires, and on the image of the memory.
-/

open Rtl8190.Lanes (lane)
open Rtl8190.Memory Rtl8190.Microwire
open Rtl8190.Power (RfType)
open Rtl8190.TxPower (EepromType Tables rtl8190EepromId eepromICVersionChannelPlan eepromRFIndPowerDiff
  eepromTxPwDiffCrystalCap eepromTxPwIndexCCK eepromTxPwIndexOFDM24G eepromC56RfACCKChnl1TxPwIndex
  eepromC56RfCCCKChnl1TxPwIndex)

namespace Rtl8190.Eeprom

/-! ## The data -/

def eepromVid : Nat := 0x02
def eepromDid : Nat := 0x04
def eepromNodeAddressByte0 : Nat := 0x0c
def eepromThermalMeter : Nat := 0x15
def eepromC56CrystalCap : Nat := 0x17
def eepromCustomerID : Nat := 0x7b
def eepromDefaultThermalMeter : Byte := 0x77
def eepromDefaultTxPower : BitVec 16 := 0x1010
def eepromDefaultTxPowerLevel : Byte := 0x10
def eepromDefaultAntTxPowerDiff : BitVec 16 := 0x0
def eepromDefaultTxPwDiffCrystalCap : Byte := 0x5
def version8190BD : Byte := 0x3
def version8190BE : Byte := 0x4
def channelPlanLen : Nat := 10
def countryCodeWorldWide13 : BitVec 16 := 11

abbrev CustomerId := Nat

def rtCidDefault : CustomerId := 0
def rtCid819xCameo : CustomerId := 6
def rtCid819xRuntop : CustomerId := 7
def rtCidToshiba : CustomerId := 9
def rtCid819xNetcore : CustomerId := 10
def rtCidNettronix : CustomerId := 11
def rtCidDlink : CustomerId := 12
def rtCidPronet : CustomerId := 13

/-- The fields of `priv` and `dev` that are set from the EEPROM -/
structure Info where
  epromtype : EepromType
  autoloadFailFlag : Bool
  eepromVid : BitVec 16
  eepromDid : BitVec 16
  eepromCustomerID : Byte
  eepromChannelPlan : BitVec 16
  card8192Version : Byte
  devAddr : Nat → Byte
  bTXPowerDataReadFromEEPORM : Bool
  rfType : RfType
  eepromLegacyHTTxPowerDiff : Byte
  eepromThermalMeter : Byte
  tssi13dBm : BitVec 16
  eepromAntPwDiff : BitVec 16
  eepromCrystalCap : Byte
  eepromTxPowerLevelCCK : Nat → Byte
  eepromTxPowerLevelOFDM24G : Nat → Byte
  eepromRfACCKChnl1TxPwLevel : Nat → Byte
  eepromRfAOfdmChnlTxPwLevel : Nat → Byte
  eepromRfCCCKChnl1TxPwLevel : Nat → Byte
  eepromRfCOfdmChnlTxPwLevel : Nat → Byte
  tables : Tables
  legacyHTTxPowerDiff : Byte
  antennaTxPwDiff : Fin 3 → Byte
  crystalCap : Byte
  thermalMeter : Nat → Byte
  regChannelPlan : BitVec 16
  channelPlan : BitVec 16
  customerID : CustomerId
  scanDelay : Byte

/-! ## Reads -/

/-- `eprom_read`, whose result is kept in 16 bits -/
def read (addr : Nat) : Program (BitVec 16) := do
  let v ← Program.read (BitVec.ofNat 32 addr) .ret
  pure (v.setWidth 16)

def store16 (buf : Nat → Byte) (i : Nat) (v : BitVec 16) : Nat → Byte :=
  Function.update (Function.update buf i (lane v 0)) (i + 1) (lane v 1)

/-- `n` rounds of a loop that fills an array two bytes at a time -/
def fill (word : Nat → Program (BitVec 16)) (buf : Nat → Byte) : Nat → Program (Nat → Byte)
  | 0 => pure buf
  | n + 1 => do
    let buf ← fill word buf n
    let usValue ← word (2 * n)
    pure (store16 buf (2 * n) usValue)

/-! ## The parts of `rtl8192_read_eeprom_info` -/

/-- The ID, and with a right one the version and what stands beside it -/
def readVersion (p : Info) : Program Info := do
  let eepromId ← read 0
  if eepromId ≠ rtl8190EepromId then
    pure { p with
      autoloadFailFlag := true
      card8192Version := version8190BD
      eepromVid := 0
      eepromDid := 0
      eepromCustomerID := 0
      eepromChannelPlan := 0 }
  else do
    let vid ← read (eepromVid >>> 1)
    let did ← read (eepromDid >>> 1)
    let customer ← read (eepromCustomerID >>> 1)
    let usValue ← read (eepromICVersionChannelPlan >>> 1)
    let icVersion : Byte := ((usValue &&& 0xff00) >>> 8).setWidth 8
    pure { p with
      autoloadFailFlag := false
      eepromVid := vid
      eepromDid := did
      eepromCustomerID := ((customer >>> 8) &&& 0xff).setWidth 8
      eepromChannelPlan := usValue &&& 0xff
      card8192Version :=
        if icVersion = version8190BD ∨ icVersion = version8190BE then icVersion else version8190BD }

def bMacTmpAddr (i : Nat) : Byte := [0x00, 0xe0, 0x4c, 0x00, 0x00, 0x01].getD i 0

def readAddr (p : Info) : Program Info :=
  if p.autoloadFailFlag then
    pure { p with devAddr := fun i => if i < 6 then bMacTmpAddr i else p.devAddr i }
  else do
    let devAddr ← fill (fun i => read ((eepromNodeAddressByte0 + i) >>> 1)) p.devAddr 3
    pure { p with devAddr }

/-- The difference between legacy and HT power, the antennas and the thermal meter -/
def readThermal (p : Info) : Program Info :=
  if p.autoloadFailFlag then
    pure { p with
      eepromLegacyHTTxPowerDiff := 0x04
      eepromThermalMeter := eepromDefaultThermalMeter
      tssi13dBm := eepromDefaultThermalMeter.setWidth 16 * 100 }
  else do
    let tempval ← read (eepromRFIndPowerDiff >>> 1)
    let thermal ← read (eepromThermalMeter >>> 1)
    let meter : Byte := ((thermal &&& 0xff00) >>> 8).setWidth 8
    pure { p with
      eepromLegacyHTTxPowerDiff := (tempval &&& 0xf).setWidth 8
      rfType := if tempval &&& 0x80 = 0 then .rf2T4R else .rf1T2R
      eepromThermalMeter := meter
      tssi13dBm := meter.setWidth 16 * 100 }

def readAntenna46 (p : Info) : Program (BitVec 16 × Byte) :=
  if p.autoloadFailFlag then pure (eepromDefaultAntTxPowerDiff, eepromDefaultTxPwDiffCrystalCap)
  else do
    let usValue ← read (eepromTxPwDiffCrystalCap >>> 1)
    pure (usValue &&& 0x0fff, ((usValue &&& 0xf000) >>> 12).setWidth 8)

def levelWord46 (p : Info) (base i : Nat) : Program (BitVec 16) :=
  if p.autoloadFailFlag then pure eepromDefaultTxPower else read ((base + i) >>> 1)

def readPower46 (p : Info) : Program Info := do
  let ant ← readAntenna46 p
  let cck ← fill (levelWord46 p eepromTxPwIndexCCK) p.eepromTxPowerLevelCCK 7
  let ofdm ← fill (levelWord46 p eepromTxPwIndexOFDM24G) p.eepromTxPowerLevelOFDM24G 7
  pure { p with
    eepromAntPwDiff := ant.1
    eepromCrystalCap := ant.2
    eepromTxPowerLevelCCK := cck
    eepromTxPowerLevelOFDM24G := ofdm
    tables := { p.tables with
      txPowerLevelCCK := fun i => if i < 14 then cck i else p.tables.txPowerLevelCCK i
      txPowerLevelOFDM24G := fun i => if i < 14 then ofdm i else p.tables.txPowerLevelOFDM24G i }
    legacyHTTxPowerDiff := p.eepromLegacyHTTxPowerDiff
    antennaTxPwDiff := fun i => ((ant.1 >>> (4 * i.val)) &&& 0xf).setWidth 8
    crystalCap := ant.2 }

/-- `offset` in the loop over the power levels of an EEPROM of the second type -/
def c56Offset (i : Nat) : Nat :=
  if i < 6 then eepromC56RfACCKChnl1TxPwIndex + i else eepromC56RfCCCKChnl1TxPwIndex + i - 6

/-- The level of channel `i + 1`: the channels 1 .. 3, 4 .. 9 and 10 .. 14 have one each. -/
def spread (levels old : Nat → Byte) (i : Nat) : Byte :=
  if i < 3 then levels 0 else if i < 9 then levels 1 else if i < 14 then levels 2 else old i

def readLevels56 (p : Info) : Program (Byte × (Nat → Byte)) :=
  if p.autoloadFailFlag then pure (eepromDefaultTxPwDiffCrystalCap, fun _ => eepromDefaultTxPowerLevel)
  else do
    let cap ← read (eepromC56CrystalCap >>> 1)
    let eepromTxPower ← fill (fun i => read (c56Offset i >>> 1)) (fun _ => 0) 6
    pure (((cap &&& 0xf000) >>> 12).setWidth 8, eepromTxPower)

def readPower56 (p : Info) : Program Info := do
  let levels ← readLevels56 p
  pure { p with
    eepromAntPwDiff := eepromDefaultAntTxPowerDiff
    eepromCrystalCap := levels.1
    eepromRfACCKChnl1TxPwLevel := levels.2
    eepromRfAOfdmChnlTxPwLevel := fun i => levels.2 (3 + i)
    eepromRfCCCKChnl1TxPwLevel := fun i => levels.2 (6 + i)
    eepromRfCOfdmChnlTxPwLevel := fun i => levels.2 (9 + i)
    tables := { p.tables with
      txPowerLevelCCKA := spread levels.2 p.tables.txPowerLevelCCKA
      txPowerLevelOFDM24GA := spread (fun i => levels.2 (3 + i)) p.tables.txPowerLevelOFDM24GA
      txPowerLevelCCKC := spread (fun i => levels.2 (6 + i)) p.tables.txPowerLevelCCKC
      txPowerLevelOFDM24GC := spread (fun i => levels.2 (9 + i)) p.tables.txPowerLevelOFDM24GC }
    legacyHTTxPowerDiff := p.eepromLegacyHTTxPowerDiff
    antennaTxPwDiff := fun _ => 0
    crystalCap := levels.1 }

def readLevels (p : Info) : Program Info :=
  match p.epromtype with
  | .eeprom93C46 => readPower46 p
  | .eeprom93C56 => readPower56 p

/-- `ThermalMeter`, a nibble for each RF chip -/
def setThermal (p : Info) : Info :=
  { p with
    thermalMeter := fun i =>
      if i = 0 then p.eepromThermalMeter &&& 0xf
      else if i = 1 then (p.eepromThermalMeter &&& 0xf0) >>> 4
      else p.thermalMeter i }

/-- `RTL819X_DEFAULT_RF_TYPE`, before the EEPROM is asked -/
def setDefaults (p : Info) : Info :=
  { p with
    bTXPowerDataReadFromEEPORM := decide (p.card8192Version > version8190BD)
    rfType := .rf1T2R }

/-- All that depends on a version later than `VERSION_8190_BD` -/
def readPower (p : Info) : Program Info :=
  if p.card8192Version > version8190BD then do
    let p ← readThermal (setDefaults p)
    let p ← readLevels p
    pure (setThermal p)
  else pure (setDefaults p)

/-- What the switch over `eeprom_CustomerID` makes of `CustomerID`, `ChannelPlan` and `ScanDelay` -/
def customer (p : Info) : CustomerId × BitVec 16 × Byte :=
  if p.eepromCustomerID = 0x0 then (rtCidDefault, p.channelPlan, p.scanDelay)
  else if p.eepromCustomerID = 0x1 then (rtCid819xCameo, p.channelPlan, p.scanDelay)
  else if p.eepromCustomerID = 0x2 then (rtCid819xRuntop, p.channelPlan, p.scanDelay)
  else if p.eepromCustomerID = 0x5 then (rtCid819xNetcore, p.channelPlan, p.scanDelay)
  else if p.eepromCustomerID = 0x4 then
    (rtCidToshiba, if p.eepromChannelPlan &&& 0x80 ≠ 0 then p.eepromChannelPlan &&& 0x7f else 0,
      p.scanDelay)
  else if p.eepromCustomerID = 0x6 then (rtCidNettronix, p.channelPlan, 100)
  else if p.eepromCustomerID = 0x7 then (rtCidPronet, p.channelPlan, p.scanDelay)
  else if p.eepromCustomerID = 0x8 then (rtCidDlink, p.channelPlan, p.scanDelay)
  else (p.customerID, p.channelPlan, p.scanDelay)

def setPlan (p : Info) : Info :=
  let p := { p with
    channelPlan := if p.regChannelPlan = 0xf then p.eepromChannelPlan else p.regChannelPlan
    customerID :=
      if p.eepromVid = 0x1186 ∧ p.eepromDid = 0x3304 then rtCidDlink else p.customerID }
  let p := { p with
    customerID := (customer p).1
    channelPlan := (customer p).2.1
    scanDelay := (customer p).2.2 }
  let p := { p with
    channelPlan := if p.channelPlan.toNat > channelPlanLen - 1 then 0 else p.channelPlan }
  { p with channelPlan := countryCodeWorldWide13 }

/-- `rtl8192_read_eeprom_info`, without `init_rate_adaptive` -/
def rtl8192ReadEepromInfo (p : Info) : Program Info := do
  let p ← readVersion p
  let p ← readAddr p
  let p ← readPower p
  pure (setPlan p)

/-! ## On the wires -/

variable {n : Nat} {C : Chip n}

def epromCmd9356Sel : Byte := 0x10

/-- The type that `rtl8192_get_eeprom_size` finds -/
def foundType (nic : Nic C) : EepromType :=
  if readNicByte nic &&& epromCmd9356Sel ≠ 0 then .eeprom93C56 else .eeprom93C46

def rtl8192GetEepromSize (nic : Nic C) (p : Info) : Nic C × Info :=
  let p := { p with epromtype := foundType nic }
  (rtl8192ReadEepromInfo p).exec (epromRead p.epromtype) nic

end Rtl8190.Eeprom
