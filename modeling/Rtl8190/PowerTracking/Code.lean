import Mathlib.Algebra.GroupWithZero.Nat
import Rtl8190.Channel.Bandwidth

/-!
# TX power tracking

`dm_TXPowerTrackingCallback_TSSI` with the CCK filter, `CCK_Tx_Power_Track_BW_Switch_TSSI`,
`dm_txpower_reset_recovery` and the indices that `rtl8192_adapter_start` begins with (`rtl_dm.c`,
`r819xE_phy.c`, `rtl8192e.c`). The command to the firmware is left out. A `char` is signed.
-/

open Rtl8190.Channel (BwWrite Driver HtChannelWidth rCCK0DebugPort rCCK0TxFilter1 rCCK0TxFilter2
  rtl8192SetBWMode)
open Rtl8190.Ht (HtExtchnlOffset)
open Rtl8190.Memory (Byte)
open Rtl8190.Power (RfType setBBreg)
open Rtl8190.Registers

namespace Rtl8190.PowerTracking

def rOFDM0XATxIQImbalance : Nat := 0xc80
def rOFDM0XCTxIQImbalance : Nat := 0xc90
def bMaskHWord : BitVec 32 := 0xffff0000
def bMaskLWord : BitVec 32 := 0x0000ffff

def txBBGainTableLength : Nat := 37
def cckTxBBGainTableLength : Nat := 23

def eForTxPowerTrack : Nat := 300

def txbbgainTable : List (BitVec 32) :=
  [0x7f8001fe, 0x788001e2, 0x71c001c7, 0x6b8001ae, 0x65400195, 0x5fc0017f, 0x5a400169,
    0x55400155, 0x50800142, 0x4c000130, 0x47c0011f, 0x43c0010f, 0x40000100, 0x3c8000f2,
    0x390000e4, 0x35c000d7, 0x32c000cb, 0x300000c0, 0x2d4000b5, 0x2ac000ab, 0x288000a2,
    0x26000098, 0x24000090, 0x22000088, 0x20000080, 0x1a00006c, 0x1c800072, 0x18000060,
    0x19800066, 0x15800056, 0x26c0005b, 0x14400051, 0x24400051, 0x1300004c, 0x12000048,
    0x11000044, 0x10000040]

def cckTxbbgainTable : List (List Byte) :=
  [[0x36, 0x35, 0x2e, 0x25, 0x1c, 0x12, 0x09, 0x04], [0x33, 0x32, 0x2b, 0x23, 0x1a, 0x11, 0x08, 0x04],
    [0x30, 0x2f, 0x29, 0x21, 0x19, 0x10, 0x08, 0x03], [0x2d, 0x2d, 0x27, 0x1f, 0x18, 0x0f, 0x08, 0x03],
    [0x2b, 0x2a, 0x25, 0x1e, 0x16, 0x0e, 0x07, 0x03], [0x28, 0x28, 0x22, 0x1c, 0x15, 0x0d, 0x07, 0x03],
    [0x26, 0x25, 0x21, 0x1b, 0x14, 0x0d, 0x06, 0x03], [0x24, 0x23, 0x1f, 0x19, 0x13, 0x0c, 0x06, 0x03],
    [0x22, 0x21, 0x1d, 0x18, 0x11, 0x0b, 0x06, 0x02], [0x20, 0x20, 0x1b, 0x16, 0x11, 0x08, 0x05, 0x02],
    [0x1f, 0x1e, 0x1a, 0x15, 0x10, 0x0a, 0x05, 0x02], [0x1d, 0x1c, 0x18, 0x14, 0x0f, 0x0a, 0x05, 0x02],
    [0x1b, 0x1a, 0x17, 0x13, 0x0e, 0x09, 0x04, 0x02], [0x1a, 0x19, 0x16, 0x12, 0x0d, 0x09, 0x04, 0x02],
    [0x18, 0x17, 0x15, 0x11, 0x0c, 0x08, 0x04, 0x02], [0x17, 0x16, 0x13, 0x10, 0x0c, 0x08, 0x04, 0x02],
    [0x16, 0x15, 0x12, 0x0f, 0x0b, 0x07, 0x04, 0x01], [0x14, 0x14, 0x11, 0x0e, 0x0b, 0x07, 0x03, 0x02],
    [0x13, 0x13, 0x10, 0x0d, 0x0a, 0x06, 0x03, 0x01], [0x12, 0x12, 0x0f, 0x0c, 0x09, 0x06, 0x03, 0x01],
    [0x11, 0x11, 0x0f, 0x0c, 0x09, 0x06, 0x03, 0x01], [0x10, 0x10, 0x0e, 0x0b, 0x08, 0x05, 0x03, 0x01],
    [0x0f, 0x0f, 0x0d, 0x0b, 0x08, 0x05, 0x03, 0x01]]

def cckTxbbgainCh14Table : List (List Byte) :=
  [[0x36, 0x35, 0x2e, 0x1b, 0x00, 0x00, 0x00, 0x00], [0x33, 0x32, 0x2b, 0x19, 0x00, 0x00, 0x00, 0x00],
    [0x30, 0x2f, 0x29, 0x18, 0x00, 0x00, 0x00, 0x00], [0x2d, 0x2d, 0x27, 0x17, 0x00, 0x00, 0x00, 0x00],
    [0x2b, 0x2a, 0x25, 0x15, 0x00, 0x00, 0x00, 0x00], [0x28, 0x28, 0x22, 0x14, 0x00, 0x00, 0x00, 0x00],
    [0x26, 0x25, 0x21, 0x13, 0x00, 0x00, 0x00, 0x00], [0x24, 0x23, 0x1f, 0x12, 0x00, 0x00, 0x00, 0x00],
    [0x22, 0x21, 0x1d, 0x11, 0x00, 0x00, 0x00, 0x00], [0x20, 0x20, 0x1b, 0x10, 0x00, 0x00, 0x00, 0x00],
    [0x1f, 0x1e, 0x1a, 0x0f, 0x00, 0x00, 0x00, 0x00], [0x1d, 0x1c, 0x18, 0x0e, 0x00, 0x00, 0x00, 0x00],
    [0x1b, 0x1a, 0x17, 0x0e, 0x00, 0x00, 0x00, 0x00], [0x1a, 0x19, 0x16, 0x0d, 0x00, 0x00, 0x00, 0x00],
    [0x18, 0x17, 0x15, 0x0c, 0x00, 0x00, 0x00, 0x00], [0x17, 0x16, 0x13, 0x0b, 0x00, 0x00, 0x00, 0x00],
    [0x16, 0x15, 0x12, 0x0b, 0x00, 0x00, 0x00, 0x00], [0x14, 0x14, 0x11, 0x0a, 0x00, 0x00, 0x00, 0x00],
    [0x13, 0x13, 0x10, 0x0a, 0x00, 0x00, 0x00, 0x00], [0x12, 0x12, 0x0f, 0x09, 0x00, 0x00, 0x00, 0x00],
    [0x11, 0x11, 0x0f, 0x09, 0x00, 0x00, 0x00, 0x00], [0x10, 0x10, 0x0e, 0x08, 0x00, 0x00, 0x00, 0x00],
    [0x0f, 0x0f, 0x0d, 0x08, 0x00, 0x00, 0x00, 0x00]]

/-- `rfa_txpowertrackingindex`, `rfa_txpowertrackingindex_real` and `rfa_txpowertracking_default`, or those
of path C -/
structure Tracking where
  index : Byte
  real : Byte
  trackingDefault : Byte
  deriving DecidableEq, Repr

structure State where
  rfType : RfType
  drv : Driver
  /-- `current_network.channel` -/
  channel : Nat
  tssi13dBm : BitVec 16
  regs : Regs
  rfa : Tracking
  rfc : Tracking
  cckPresentAttentuation20Mdefault : Byte
  cckPresentAttentuation40Mdefault : Byte
  cckPresentAttentuationDifference : Byte
  cckPresentAttentuation : Byte
  bcckInCh14 : Bool
  btxpowerTrackingInit : Bool
  bdynamicTxpowerEnable : Bool
  /-- The registers `Pw_Track_Flag` and `FW_Busy_Flag` -/
  pwTrackFlag : Byte
  fwBusyFlag : Byte

/-- An entry of the table. Beyond the table the driver reads what stands behind it. -/
def txbbgain (i : Byte) : BitVec 32 := txbbgainTable.getD i.toNat 0

/-! ## The CCK filter -/

/-- `dm_CCKTxPowerAdjust_TSSI`, the entry of the table -/
def writeCck (r : Regs) (row : List Byte) : Regs :=
  let byte := fun i => (row.getD i 0).setWidth 32
  let r := Field.write r (setBBreg rCCK0TxFilter1 bMaskHWord (byte 0 + byte 1 <<< 8))
  let r := store 4 r rCCK0TxFilter2 (byte 2 + byte 3 <<< 8 + byte 4 <<< 16 + byte 5 <<< 24)
  Field.write r (setBBreg rCCK0DebugPort bMaskLWord (byte 6 + byte 7 <<< 8))

def dmCckTxpowerAdjust (s : State) (binch14 : Bool) : State :=
  let table := if binch14 then cckTxbbgainCh14Table else cckTxbbgainTable
  { s with regs := writeCck s.regs (table.getD s.cckPresentAttentuation.toNat []) }

/-- The sum of the two terms, within the table -/
def attentuation (default difference : Byte) : Byte :=
  let a := default + difference
  let a := if a.toInt > cckTxBBGainTableLength - 1 then BitVec.ofNat 8 (cckTxBBGainTableLength - 1) else a
  if a.toInt < 0 then 0 else a

def setAttentuation (s : State) : State :=
  { s with cckPresentAttentuation :=
      match s.drv.currentChannelBW with
      | .width20 => attentuation s.cckPresentAttentuation20Mdefault s.cckPresentAttentuationDifference
      | .width2040 => attentuation s.cckPresentAttentuation40Mdefault s.cckPresentAttentuationDifference }

def adjustForChannel (s : State) : State :=
  if s.channel = 14 ∧ s.bcckInCh14 = false then dmCckTxpowerAdjust { s with bcckInCh14 := true } true
  else if s.channel ≠ 14 ∧ s.bcckInCh14 = true then dmCckTxpowerAdjust { s with bcckInCh14 := false } false
  else dmCckTxpowerAdjust s s.bcckInCh14

def cckTxPowerTrackBWSwitchTSSI (s : State) : State := adjustForChannel (setAttentuation s)

/-! ## The callback -/

/-- What one look at the firmware finds: `Pw_Track_Flag`, whether a silent reset is in progress, and the
measurement with its five reports -/
structure Poll where
  pwrFlag : Byte
  bResetInProgress : Bool
  avgTSSIMeas : BitVec 16
  report : Fin 5 → Byte

inductive Reply where
  | resetInProgress
  | timeout
  | measured (p : Poll)

def awaitReply : List Poll → Reply
  | [] => .timeout
  | p :: ps =>
    if p.pwrFlag = 0 then if p.bResetInProgress then .resetInProgress else awaitReply ps
    else .measured p

inductive Verdict where
  | nothing
  | filtered
  | done
  | lower
  | raise
  deriving DecidableEq

/-- What the driver makes of a measurement -/
def judge (tssi13dBm : BitVec 16) (p : Poll) : Verdict :=
  if p.avgTSSIMeas = 0 then .nothing
  else if ∃ k, (p.report k).toNat ≤ 20 then .filtered
  else
    let avg := ((List.finRange 5).map fun k => (p.report k).toNat).sum * 100 / 5
    let delta := if avg > tssi13dBm.toNat then avg - tssi13dBm.toNat else tssi13dBm.toNat - avg
    if delta ≤ eForTxPowerTrack then .done
    else if (avg : Int) < tssi13dBm.toNat - eForTxPowerTrack then .lower
    else .raise

/-- One step down; the entries before the fourth are not used. -/
def lowerPath (addr : Nat) (x : Regs × Tracking) : Regs × Tracking :=
  let t := { x.2 with index := x.2.index - 1 }
  if t.real.toNat > 4 then (store 4 x.1 addr (txbbgain (t.real - 1)), { t with real := t.real - 1 })
  else (x.1, t)

def raisePath (addr : Nat) (x : Regs × Tracking) : Regs × Tracking :=
  let t := { x.2 with index := x.2.index + 1, real := x.2.real + 1 }
  (store 4 x.1 addr (txbbgain t.real), t)

/-- An entry of the table for both paths -/
def writeBoth (r : Regs) (i : Byte) : Regs :=
  store 4 (store 4 r rOFDM0XATxIQImbalance (txbbgain i)) rOFDM0XCTxIQImbalance (txbbgain i)

def lower (s : State) : State :=
  if s.rfType = .rf2T4R then
    if s.rfa.index.toNat > 0 ∧ s.rfc.index.toNat > 0 then
      let (r, rfa) := lowerPath rOFDM0XATxIQImbalance (s.regs, s.rfa)
      let (r, rfc) := lowerPath rOFDM0XCTxIQImbalance (r, s.rfc)
      { s with regs := r, rfa := rfa, rfc := rfc }
    else { s with regs := writeBoth s.regs 4 }
  else if s.rfc.index.toNat > 0 then
    let (r, rfc) := lowerPath rOFDM0XCTxIQImbalance (s.regs, s.rfc)
    { s with regs := r, rfc := rfc }
  else { s with regs := store 4 s.regs rOFDM0XCTxIQImbalance (txbbgain 4) }

def raise (s : State) : State :=
  let last := BitVec.ofNat 8 (txBBGainTableLength - 1)
  if s.rfType = .rf2T4R then
    if s.rfa.index.toNat < txBBGainTableLength - 1 ∧ s.rfc.index.toNat < txBBGainTableLength - 1 then
      let (r, rfa) := raisePath rOFDM0XATxIQImbalance (s.regs, s.rfa)
      let (r, rfc) := raisePath rOFDM0XCTxIQImbalance (r, s.rfc)
      { s with regs := r, rfa := rfa, rfc := rfc }
    else { s with regs := writeBoth s.regs last }
  else if s.rfc.index.toNat < txBBGainTableLength - 1 then
    let (r, rfc) := raisePath rOFDM0XCTxIQImbalance (s.regs, s.rfc)
    { s with regs := r, rfc := rfc }
  else { s with regs := store 4 s.regs rOFDM0XCTxIQImbalance (txbbgain last) }

def followIndex (s : State) : State :=
  let s := setAttentuation { s with cckPresentAttentuationDifference :=
      if s.rfType = .rf2T4R then s.rfa.index - s.rfa.trackingDefault else s.rfc.index - s.rfc.trackingDefault }
  if s.cckPresentAttentuation.toInt > -1 ∧ s.cckPresentAttentuation.toInt < cckTxBBGainTableLength then
    adjustForChannel s
  else s

/-- The flags are cleared, and the dynamic power is on again if the run has come to its end. -/
def leave (s : State) (bdynamicTxpowerEnable : Bool) : State :=
  { s with bdynamicTxpowerEnable := bdynamicTxpowerEnable, pwTrackFlag := 0, fwBusyFlag := 0 }

/-- `dm_TXPowerTrackingCallback_TSSI`, with what it finds at each look at the firmware -/
def dmTXPowerTrackingCallbackTSSI (s : State) (polls : Nat → Poll) : State :=
  match awaitReply ((List.range 31).map polls) with
  | .resetInProgress => leave s false
  | .timeout => leave s true
  | .measured p =>
    match judge s.tssi13dBm p with
    | .nothing => leave s false
    | .filtered | .done => leave s true
    | .lower => leave (followIndex (lower s)) true
    | .raise => leave (followIndex (raise s)) true

/-! ## Start and silent resets -/

/-- The entries of the tables of the base band for these registers -/
def phyRegs (r : Regs) : Regs :=
  store 4 (store 4 (store 4 r rCCK0TxFilter1 0x1a1b0000) rOFDM0XATxIQImbalance 0x40000100)
    rOFDM0XCTxIQImbalance 0x40000100

/-- The entry that a register holds -/
def findIndex (value : BitVec 32) (old : Tracking) : Tracking :=
  match txbbgainTable.findIdx? (· = value) with
  | some i => ⟨BitVec.ofNat 8 i, BitVec.ofNat 8 i, BitVec.ofNat 8 i⟩
  | none => old

/-- `rtl8192_adapter_start` outside of a silent reset -/
def rtl8192AdapterStart (s : State) : State :=
  let r := phyRegs s.regs
  let cckDefault :=
    match cckTxbbgainTable.findIdx? (fun row => row.getD 0 0 = r (rCCK0TxFilter1 + 2)) with
    | some i => BitVec.ofNat 8 i
    | none => s.cckPresentAttentuation20Mdefault
  { s with
    regs := r
    drv := { s.drv with btxpowerTracking := true }
    btxpowerTrackingInit := false
    rfa := if s.rfType = .rf2T4R then findIndex (load32 r rOFDM0XATxIQImbalance) s.rfa else s.rfa
    rfc := findIndex (load32 r rOFDM0XCTxIQImbalance) s.rfc
    cckPresentAttentuation20Mdefault := cckDefault
    cckPresentAttentuation40Mdefault := 0
    cckPresentAttentuationDifference := 0
    cckPresentAttentuation := cckDefault }

def dmTxpowerResetRecovery (s : State) : State :=
  let s := { s with regs := store 4 s.regs rOFDM0XATxIQImbalance (txbbgain s.rfa.index) }
  let s := dmCckTxpowerAdjust s s.bcckInCh14
  { s with regs := store 4 s.regs rOFDM0XCTxIQImbalance (txbbgain s.rfc.index) }

/-- A silent reset: the tables are written, and `restores` says whether
`dm_restore_dynamic_mechanism_state` gets to the power tracking. -/
def silentReset (s : State) (restores : Bool) : State :=
  let s := { s with regs := phyRegs s.regs }
  if restores ∧ s.btxpowerTrackingInit ∧ s.drv.btxpowerTracking then dmTxpowerResetRecovery s else s

/-- `rtl8192_SetBWMode`, with what `priv->up` is in its work item -/
def setBWMode (s : State) (bandwidth : HtChannelWidth) (offset : HtExtchnlOffset) (up : Bool) : State :=
  let drv := rtl8192SetBWMode
    { s.drv with sw := { s.drv.sw with up := up }, bwWrites := [] } bandwidth offset
  let s := { s with drv := drv }
  if BwWrite.cckTxPowerTrackBwSwitch ∈ drv.bwWrites then cckTxPowerTrackBWSwitchTSSI s else s

inductive Event where
  | track (polls : Nat → Poll)
  | channel (channel : Nat)
  | setBWMode (bandwidth : HtChannelWidth) (offset : HtExtchnlOffset) (up : Bool)
  | silentReset (restores : Bool)

def step (s : State) : Event → State
  | .track polls => dmTXPowerTrackingCallbackTSSI s polls
  | .channel channel => { s with channel := channel }
  | .setBWMode bandwidth offset up => setBWMode s bandwidth offset up
  | .silentReset restores => silentReset s restores

/-- The driver when it comes up: `priv` is zero before. -/
def poweredUp (s : State) : State :=
  rtl8192AdapterStart { s with rfa := ⟨0, 0, 0⟩, rfc := ⟨0, 0, 0⟩, bcckInCh14 := false }

end Rtl8190.PowerTracking
