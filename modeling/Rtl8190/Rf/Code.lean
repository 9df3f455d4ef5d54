import Rtl8190.Lib.Banked
import Rtl8190.Phy.Code
import Rtl8190.Power.RfCode

/-!
# Serial access to the RF chip

`rtl8192_phy_SetRFReg` and `rtl8192_phy_QueryRFReg` (`r819xE_phy.c`) over the serial interface of the
RTL8256, in the mode `RF_OP_By_SW_3wire`, the only one that the driver sets. The chip has registers of
twelve bits and takes its page from the bits 8 and 6 of register 0; `PHYRegDef` gives each path
registers of its own.
-/

open Function Rtl8190.Banked
open Rtl8190.Phy (Path)
open Rtl8190.Power (RfType rtl8192CalculateBitShift)

namespace Rtl8190.Rf

def bMask12Bits : BitVec 32 := 0xfff
def bLSSIReadAddress : BitVec 32 := 0x3f000000
def bLSSIReadEdge : BitVec 32 := 0x80000000
def bLSSIReadBackData : BitVec 32 := 0xfff

/-! ## The chip -/

abbrev Word := BitVec 12

abbrev Page := Bool × Bool

def pageOf (v : Word) : Page := (v.getLsbD 8, v.getLsbD 6)

abbrev Rtl8256 := Chip Word Page (BitVec 6)

def threeWire (c : Rtl8256) (dword : BitVec 32) : Rtl8256 :=
  c.write pageOf 0 (dword.extractLsb' 0 6) (dword.extractLsb' 16 12)

/-! ## The driver -/

/-- `RfReg0Value`, and the registers of `PHYRegDef`, of a path -/
structure Radio where
  chip : Rtl8256
  rfReg0Value : BitVec 32
  rfHSSIPara2 : BitVec 32
  rfLSSIReadBack : BitVec 32

structure State where
  radio : Path → Radio
  analogParameter4 : BitVec 32

/-- The new value of a register in `rtl8192_setBBreg`, with a mask other than `bMaskDWord` -/
def setBBreg (originalValue dwBitMask dwData : BitVec 32) : BitVec 32 :=
  originalValue &&& ~~~dwBitMask ||| dwData <<< rtl8192CalculateBitShift dwBitMask

def queryBBReg (originalValue dwBitMask : BitVec 32) : BitVec 32 :=
  (originalValue &&& dwBitMask) >>> rtl8192CalculateBitShift dwBitMask

variable (rfType : RfType)

def rtl8192PhyCheckIsLegalRFPath (eRFPath : Path) : Bool :=
  match rfType with
  | .rf2T4R => true
  | .rf1T2R => eRFPath = 2 ∨ eRFPath = 3
  | _ => true

namespace Radio

def writeReg0 (r : Radio) : Radio := { r with chip := threeWire r.chip (r.rfReg0Value <<< 16) }

def selectPage (r : Radio) (offset : BitVec 32) : Radio × BitVec 32 :=
  if offset ≥ 31 then
    (writeReg0 { r with rfReg0Value := r.rfReg0Value ||| 0x140 }, offset - 30)
  else if offset ≥ 16 then
    (writeReg0 { r with rfReg0Value := (r.rfReg0Value ||| 0x100) &&& ~~~0x40 }, offset - 15)
  else (r, offset)

def restorePage (r : Radio) : Radio := writeReg0 { r with rfReg0Value := r.rfReg0Value &&& 0xebf }

/-- The rising edge of `bLSSIReadEdge` makes the chip put the register at `bLSSIReadAddress` where
the driver reads it. -/
def writeHSSIPara2 (r : Radio) (value : BitVec 32) : Radio :=
  if r.rfHSSIPara2 &&& bLSSIReadEdge = 0 ∧ value &&& bLSSIReadEdge ≠ 0 then
    { r with
      rfHSSIPara2 := value
      rfLSSIReadBack := (r.chip.read pageOf 0 (value.extractLsb' 24 6)).setWidth 32 }
  else { r with rfHSSIPara2 := value }

def readBack (r : Radio) (newOffset : BitVec 32) : Radio × BitVec 32 :=
  let r := r.writeHSSIPara2 (setBBreg r.rfHSSIPara2 bLSSIReadAddress newOffset)
  let r := r.writeHSSIPara2 (setBBreg r.rfHSSIPara2 bLSSIReadEdge 0x0)
  let r := r.writeHSSIPara2 (setBBreg r.rfHSSIPara2 bLSSIReadEdge 0x1)
  (r, queryBBReg r.rfLSSIReadBack bLSSIReadBackData)

/-- What `rtl8192_phy_RFSerialRead` does on the path -/
def serialRead (r : Radio) (offset : BitVec 32) : Radio × BitVec 32 :=
  let paged := r.selectPage offset
  let ret := paged.1.readBack paged.2
  (ret.1.restorePage, ret.2)

/-- What `rtl8192_phy_RFSerialWrite` does on the path -/
def serialWrite (r : Radio) (offset data : BitVec 32) : Radio :=
  let paged := r.selectPage offset
  let dataAndAddr := data <<< 16 ||| paged.2 &&& 0x3f
  let r := { paged.1 with chip := threeWire paged.1.chip dataAndAddr }
  if offset = 0 then { r with rfReg0Value := data } else r.restorePage

end Radio

namespace State

def onPath (s : State) (eRFPath : Path) (r : Radio) : State :=
  { s with radio := update s.radio eRFPath r }

def powerOn (s : State) : State :=
  match rfType with
  | .rf2T4R => { s with analogParameter4 := setBBreg s.analogParameter4 0xf00 0xf }
  | .rf1T2R => { s with analogParameter4 := setBBreg s.analogParameter4 0xc00 0x3 }
  | _ => s

def powerOff (s : State) : State :=
  { s with analogParameter4 := setBBreg s.analogParameter4 0xf00 0x0 }

end State

def rtl8192PhyRFSerialRead (s : State) (eRFPath : Path) (offset : BitVec 32) : State × BitVec 32 :=
  let offset := offset &&& 0x3f
  let s := s.powerOff
  let ret := (s.radio eRFPath).serialRead offset
  ((s.onPath eRFPath ret.1).powerOn rfType, ret.2)

def rtl8192PhyRFSerialWrite (s : State) (eRFPath : Path) (offset data : BitVec 32) : State :=
  let offset := offset &&& 0x3f
  let s := s.powerOff
  (s.onPath eRFPath ((s.radio eRFPath).serialWrite offset data)).powerOn rfType

def rtl8192PhySetRFReg (s : State) (eRFPath : Path) (regAddr bitMask data : BitVec 32) : State :=
  if rtl8192PhyCheckIsLegalRFPath rfType eRFPath then
    if bitMask ≠ bMask12Bits then
      let ret := rtl8192PhyRFSerialRead rfType s eRFPath regAddr
      let newValue := ret.2 &&& ~~~bitMask ||| data <<< rtl8192CalculateBitShift bitMask
      rtl8192PhyRFSerialWrite rfType ret.1 eRFPath regAddr newValue
    else rtl8192PhyRFSerialWrite rfType s eRFPath regAddr data
  else s

def rtl8192PhyQueryRFReg (s : State) (eRFPath : Path) (regAddr bitMask : BitVec 32) :
    State × BitVec 32 :=
  if rtl8192PhyCheckIsLegalRFPath rfType eRFPath then
    let ret := rtl8192PhyRFSerialRead rfType s eRFPath regAddr
    (ret.1, (ret.2 &&& bitMask) >>> rtl8192CalculateBitShift bitMask)
  else (s, 0)

end Rtl8190.Rf
