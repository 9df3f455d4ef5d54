import Rtl8190.Channel.Code
import Rtl8190.Ht.Code

/-!
# Switching the bandwidth and the RF power

`rtl8192_SetBWMode` with its work item, and `SetRFPowerState8190` for every chip (`r819xE_phy.c`), with
the flags that say that one of them is under way. `priv->up` is looked at in the work item only.
-/

open Rtl8190.Memory (Byte)
open Rtl8190.Power (RfPowerState)
open Rtl8190.Ht (HtExtchnlOffset)

namespace Rtl8190.Channel

inductive HtChannelWidth where
  | width20
  | width2040
  deriving DecidableEq, Repr

/-- `HAL_PRIME_CHNL_OFFSET_DONT_CARE`, `_LOWER` and `_UPPER` -/
def halPrimeChnlOffsetDontCare : Nat := 0
def halPrimeChnlOffsetLower : Nat := 1
def halPrimeChnlOffsetUpper : Nat := 2

def bwOpmode : Nat := 0x300
def bwOpmode20MHz : Byte := 0x4
def rFPGA0RFMOD : Nat := 0x800
def rFPGA0AnalogParameter1 : Nat := 0x880
def rFPGA1RFMOD : Nat := 0x900
def rCCK0System : Nat := 0xa00
def rCCK0TxFilter1 : Nat := 0xa20
def rCCK0TxFilter2 : Nat := 0xa24
def rCCK0DebugPort : Nat := 0xa28
def rOFDM0RxDetector1 : Nat := 0xc30
def rOFDM1LSTF : Nat := 0xd00
def bMaskByte0 : BitVec 32 := 0xff
def bADClkPhase : BitVec 32 := 0x4000000

inductive BwWrite where
  | byte (addr : Nat) (value : Byte)
  | dword (addr : Nat) (value : BitVec 32)
  | bbReg (addr : Nat) (mask data : BitVec 32)
  | cckTxPowerTrackBwSwitch
  | phySetRF8256Bandwidth (bandwidth : HtChannelWidth)
  deriving DecidableEq, Repr

structure Driver where
  sw : State
  rf : Power.Rf
  btxpowerTracking : Bool
  currentChannelBW : HtChannelWidth
  nCur40MhzPrimeSC : Nat
  setBWModeInProgress : Bool
  atmSwbw : Int
  /-- The register `BW_OPMODE`, and the writes for the bandwidth -/
  bwOpMode : Byte
  bwWrites : List BwWrite

def bandwidthWrites (btxpowerTracking : Bool) (nCur40MhzPrimeSC : Nat) :
    HtChannelWidth → List BwWrite
  | .width20 =>
    [.bbReg rFPGA0RFMOD 0x1 0x0, .bbReg rFPGA1RFMOD 0x1 0x0] ++
      (if btxpowerTracking = false then
        [.dword rCCK0TxFilter1 0x1a1b0000, .dword rCCK0TxFilter2 0x090e1317,
          .dword rCCK0DebugPort 0x00000204]
      else [.cckTxPowerTrackBwSwitch]) ++
      [.bbReg rFPGA0AnalogParameter1 bADClkPhase 1, .bbReg rOFDM0RxDetector1 bMaskByte0 0x44]
  | .width2040 =>
    [.bbReg rFPGA0RFMOD 0x1 0x1, .bbReg rFPGA1RFMOD 0x1 0x1] ++
      (if btxpowerTracking = false then
        [.dword rCCK0TxFilter1 0x35360000, .dword rCCK0TxFilter2 0x121c252e,
          .dword rCCK0DebugPort 0x00000409]
      else [.cckTxPowerTrackBwSwitch]) ++
      [.bbReg rCCK0System 0x10 (BitVec.ofNat 32 (nCur40MhzPrimeSC >>> 1)),
        .bbReg rOFDM1LSTF 0xc00 (BitVec.ofNat 32 nCur40MhzPrimeSC),
        .bbReg rFPGA0AnalogParameter1 bADClkPhase 0, .bbReg rOFDM0RxDetector1 bMaskByte0 0x42] ++
      if nCur40MhzPrimeSC = halPrimeChnlOffsetUpper then [.bbReg rFPGA0RFMOD 0x60 0x01]
      else if nCur40MhzPrimeSC = halPrimeChnlOffsetLower then [.bbReg rFPGA0RFMOD 0x60 0x02]
      else []

def rtl8192SetBWModeWorkItem (s : Driver) : Driver :=
  if s.sw.rfChip = .rfPseudo11N then { s with setBWModeInProgress := false }
  else if s.sw.up = false then s
  else
    let regBwOpMode :=
      match s.currentChannelBW with
      | .width20 => s.bwOpMode ||| bwOpmode20MHz
      | .width2040 => s.bwOpMode &&& ~~~bwOpmode20MHz
    let s := { s with
      bwOpMode := regBwOpMode
      bwWrites := s.bwWrites ++ [BwWrite.byte bwOpmode regBwOpMode] ++
        bandwidthWrites s.btxpowerTracking s.nCur40MhzPrimeSC s.currentChannelBW ++
        if s.sw.rfChip = RfChip.rf8256 then [BwWrite.phySetRF8256Bandwidth s.currentChannelBW] else [] }
    { s with atmSwbw := s.atmSwbw - 1, setBWModeInProgress := false }

def rtl8192SetBWMode (s : Driver) (bandwidth : HtChannelWidth) (offset : HtExtchnlOffset) : Driver :=
  if s.setBWModeInProgress then s
  else
    rtl8192SetBWModeWorkItem
      { s with
        atmSwbw := s.atmSwbw + 1
        setBWModeInProgress := true
        currentChannelBW := bandwidth
        nCur40MhzPrimeSC :=
          match offset with
          | .lower => halPrimeChnlOffsetUpper
          | .upper => halPrimeChnlOffsetLower
          | .noExt | .noDef => halPrimeChnlOffsetDontCare }

/-- `MAX_TX_QUEUE` and `MAX_DOZE_WAITING_TIMES_9x` -/
def maxTxQueue : Nat := 9
def maxDozeWaitingTimes : Nat := 64

/-- The loop that waits for the transmit queues, where `busy` says whether a queue has packets when it
is looked at. It returns how often it has waited. -/
def doze (busy : Nat → Nat → Bool) (queueID i : Nat) : Nat :=
  if queueID < maxTxQueue then
    if busy queueID i = false then doze busy (queueID + 1) i
    else if i + 1 ≥ maxDozeWaitingTimes then i + 1
    else doze busy queueID (i + 1)
  else i
termination_by (maxTxQueue - queueID, maxDozeWaitingTimes - i)

/-- `SetRFPowerState8190`, with what it returns and how often it has waited. Another chip than the
RTL8256 gets no write. -/
def setRFPowerState8190 (s : Driver) (eRFPowerState : RfPowerState) (bLeisurePs : Bool)
    (busy : Nat → Nat → Bool) : Driver × Bool × Nat :=
  if s.rf.setRFPowerStateInProgress then (s, false, 0)
  else if s.sw.rfChip = .rf8256 then
    let waited := if eRFPowerState ≠ .eRfOn ∧ bLeisurePs then doze busy 0 0 else 0
    let r := Power.setRFPowerState8190 s.sw.rfType eRFPowerState s.rf
    ({ s with rf := r.1 }, r.2, waited)
  else
    ({ s with rf := { s.rf with
        radio := { s.rf.radio with eRFPowerState := eRFPowerState }
        setRFPowerStateInProgress := false } }, true, 0)

end Rtl8190.Channel
