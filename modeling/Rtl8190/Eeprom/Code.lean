import Rtl8190.Lib.Microwire
import Rtl8190.TxPower.Code

/-!
# Reading the EEPROM

`rtl_eeprom.c`: the host moves the wires of the chip through the bits of `EPROM_CMD`, one register
access at a time. The waits between the accesses are left out.
-/

open Rtl8190.Memory Rtl8190.Microwire
open Rtl8190.TxPower (EepromType)

namespace Rtl8190.Eeprom

/-! ## The register -/

def epromCsShift : Nat := 3
def epromCkShift : Nat := 2
def epromWShift : Nat := 1
def epromRShift : Nat := 0
def epromCmdOperatingModeShift : Nat := 6
def epromCmdProgram : Byte := 2
def epromCmdNormal : Byte := 0

/-- `EPROM_CMD_RESERVED_MASK` and `EPROM_CMD_9356SEL`, which the hardware sets -/
def strapBits : Byte := 0x30

def addrLen : EepromType → Nat
  | .eeprom93C46 => 6
  | .eeprom93C56 => 8

/-- The register `EPROM_CMD`, and the chip behind it. -/
structure Nic {n : Nat} (C : Chip n) where
  cmd : Byte
  strap : Byte
  chip : C.State

variable {n : Nat} {C : Chip n}

/-- The wires follow the register while the mode is `EPROM_CMD_PROGRAM`. -/
def wires (v : Byte) : Pins :=
  if v >>> epromCmdOperatingModeShift = epromCmdProgram then
    ⟨v.getLsbD epromCsShift, v.getLsbD epromCkShift, v.getLsbD epromWShift⟩
  else ⟨false, false, false⟩

/-- `read_nic_byte(dev, EPROM_CMD)`: bit 0 is the chip's output. -/
def readNicByte (nic : Nic C) : Byte :=
  nic.cmd &&& ~~~(strapBits ||| 1) ||| nic.strap &&& strapBits ||| if C.out nic.chip = true then 1 else 0

def writeNicByte (nic : Nic C) (v : Byte) : Nic C :=
  { nic with
    cmd := v
    chip := ((wires nic.cmd).event (wires v)).elim nic.chip (C.react nic.chip) }

/-! ## The driver -/

def epromCs (nic : Nic C) (bit : BitVec 16) : Nic C :=
  if bit ≠ 0 then writeNicByte nic ((1 : Byte) <<< epromCsShift ||| readNicByte nic)
  else writeNicByte nic (readNicByte nic &&& ~~~((1 : Byte) <<< epromCsShift))

def epromCkCycle (nic : Nic C) : Nic C :=
  let nic := writeNicByte nic ((1 : Byte) <<< epromCkShift ||| readNicByte nic)
  writeNicByte nic (readNicByte nic &&& ~~~((1 : Byte) <<< epromCkShift))

def epromW (nic : Nic C) (bit : BitVec 16) : Nic C :=
  if bit ≠ 0 then writeNicByte nic ((1 : Byte) <<< epromWShift ||| readNicByte nic)
  else writeNicByte nic (readNicByte nic &&& ~~~((1 : Byte) <<< epromWShift))

def epromR (nic : Nic C) : BitVec 16 :=
  if readNicByte nic &&& (1 : Byte) <<< epromRShift ≠ 0 then 1 else 0

def epromSendBitsString (nic : Nic C) (b : List (BitVec 16)) : Nic C :=
  b.foldl (fun nic bit => epromCkCycle (epromW nic bit)) nic

def readCmd : List (BitVec 16) := [1, 1, 0]

def addrStr (t : EepromType) (addr : BitVec 32) : List (BitVec 16) :=
  match t with
  | .eeprom93C56 => [7, 6, 5, 4, 3, 2, 1, 0].map fun i => (addr &&& (1 : BitVec 32) <<< i).setWidth 16
  | .eeprom93C46 => [5, 4, 3, 2, 1, 0].map fun i => (addr &&& (1 : BitVec 32) <<< i).setWidth 16

def readBit (s : Nic C × BitVec 32) (i : Nat) : Nic C × BitVec 32 :=
  let nic := epromCkCycle s.1
  (nic, s.2 ||| (epromR nic).setWidth 32 <<< (15 - i))

def epromRead (t : EepromType) (nic : Nic C) (addr : BitVec 32) : Nic C × BitVec 32 :=
  let nic := writeNicByte nic (epromCmdProgram <<< epromCmdOperatingModeShift)
  let nic := epromCkCycle (epromCs nic 1)
  let nic := epromSendBitsString (epromSendBitsString nic readCmd) (addrStr t addr)
  let s := (List.range 16).foldl readBit (epromW nic 0, 0)
  let nic := epromCkCycle (epromCs s.1 0)
  (writeNicByte nic (epromCmdNormal <<< epromCmdOperatingModeShift), s.2)

end Rtl8190.Eeprom
