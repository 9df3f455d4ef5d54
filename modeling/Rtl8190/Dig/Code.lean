import Rtl8190.Channel.Bandwidth

/-!
# Dynamic initial gain

`dm_ctrl_initgain_byrssi_by_driverrssi` with its three parts (`rtl_dm.c`), and what else writes their
registers: the bandwidth switch, `InitialGain819xPci` and the tables of the base band in a silent reset
(`r819xE_phy.c`, `rtl8192e.c`). The other algorithm is never chosen. The transmit power that `IG_Restore`
sets is in other registers.
-/

open Rtl8190.Channel (BwWrite Driver HtChannelWidth bMaskByte0 rOFDM0RxDetector1 rtl8192SetBWMode)
open Rtl8190.Ht (HtExtchnlOffset)
open Rtl8190.Memory (Byte)
open Rtl8190.Phy (Path paths)
open Rtl8190.Power (rtl8192CalculateBitShift setBBreg)
open Rtl8190.Registers

namespace Rtl8190.Dig

/-- `rOFDM0_XAAGCCore1` .. `rOFDM0_XDAGCCore1` -/
def rOFDM0XAGCCore1 (p : Path) : Nat := 0xc50 + 8 * p

def rCCK0CCA : Nat := 0xa08
def csRatioRegister : Nat := 0xa0a
def ufwp : Nat := 0x318
def bMaskByte1 : BitVec 32 := 0xff00
def bMaskByte2 : BitVec 32 := 0xff0000

inductive DigAlgorithm where
  | byFalseAlarm
  | byRssi
  | beforeConnectByRssiAndAlarm
  | byTowPort
  deriving DecidableEq, Repr

/-- `DIG_PD_AT_LOW_POWER`, `DIG_PD_AT_NORMAL_POWER` and `DIG_PD_AT_HIGH_POWER` -/
inductive PdThstate where
  | atLowPower
  | atNormalPower
  | atHighPower
  deriving DecidableEq, Repr

/-- `DIG_CS_RATIO_LOWER` and `DIG_CS_RATIO_HIGHER` -/
inductive CsRatioState where
  | lower
  | higher
  deriving DecidableEq, Repr

/-- `dm_digtable`, as far as these functions read it -/
structure DigTable where
  digEnableFlag : Bool
  digAlgorithm : DigAlgorithm
  /-- `dbg_mode` is not `DM_DBG_OFF`. -/
  dbgMode : Bool
  digAlgorithmSwitch : Bool
  rssiLowThresh : Int
  rssiHighThresh : Int
  rssiHighPowerLowthresh : Int
  rssiHighPowerHighthresh : Int
  /-- `DIG_STA_CONNECT`, not `DIG_STA_DISCONNECT` -/
  curSTAConnectState : Bool
  preSTAConnectState : Bool
  curpdThstate : PdThstate
  prepdThstate : PdThstate
  curcsRatioState : CsRatioState
  precsRatioState : CsRatioState
  preIgValue : BitVec 32
  curIgValue : BitVec 32
  backoffVal : Byte
  rxGainRangeMax : Byte
  rxGainRangeMin : Byte
  rssiVal : Int

/-- The `static` variables of a part -/
structure Statics where
  initialized : Nat := 0
  forceWrite : Bool := false
  resetCnt : BitVec 32 := 0

structure InitgainBackup where
  xagccore1 : Path → Byte
  cca : Byte

structure State where
  regs : Regs
  drv : Driver
  state : RtllibState
  beScanInprogress : Bool
  card8192Version : Nat
  customerNetcore : Bool
  defaultInitialGain : Byte
  undecoratedSmoothedPwdb : Int
  resetCount : BitVec 32
  bResetInProgress : Bool
  initgainBackup : InitgainBackup
  /-- `rtllib_wx_sync_scan_wq` is between `IG_Backup` and `IG_Restore`. -/
  wxSyncScan : Bool
  dig : DigTable
  fwDig : Nat
  initialGain : Statics
  pdTh : Statics
  csRatio : Statics

def dmDigInit (customerNetcore : Bool) (dig : DigTable) : DigTable :=
  { dig with
    digEnableFlag := true
    digAlgorithm := .byRssi
    dbgMode := false
    digAlgorithmSwitch := false
    curSTAConnectState := false
    preSTAConnectState := false
    rssiLowThresh := 35
    rssiHighThresh := 40
    rssiHighPowerLowthresh := 70
    rssiHighPowerHighthresh := 75
    rssiVal := 50
    backoffVal := 12
    rxGainRangeMax := 0x36
    rxGainRangeMin := if customerNetcore then 0x12 else 0x1c }

/-! ## The three parts -/

def Statics.switched (st : Statics) (digAlgorithmSwitch : Bool) : Statics :=
  if digAlgorithmSwitch then { st with initialized := 0, resetCnt := 0 } else st

/-- After a silent reset the values are to be written again. -/
def Statics.counted (st : Statics) (resetCount : BitVec 32) : Statics :=
  if resetCount ≠ st.resetCnt then { st with forceWrite := true, resetCnt := resetCount } else st

/-- The register does not hold the gain. -/
def Statics.compared (st : Statics) (preIgValue : BitVec 32) (value : Byte) : Statics :=
  if preIgValue ≠ value.setWidth 32 then { st with forceWrite := true } else st

def chooseIgValue (defaultInitialGain : Byte) (dig : DigTable) : DigTable :=
  if dig.preSTAConnectState = dig.curSTAConnectState then
    if dig.curSTAConnectState then
      let gain := dig.rssiVal + 10 - dig.backoffVal.toNat
      { dig with curIgValue :=
          if gain > dig.rxGainRangeMax.toNat then dig.rxGainRangeMax.setWidth 32
          else if gain < dig.rxGainRangeMin.toNat then dig.rxGainRangeMin.setWidth 32
          else BitVec.ofInt 32 gain }
    else if dig.curIgValue = 0 then { dig with curIgValue := defaultInitialGain.setWidth 32 }
    else { dig with curIgValue := dig.preIgValue }
  else { dig with curIgValue := defaultInitialGain.setWidth 32, preIgValue := 0 }

def writeGains (r : Regs) (initialGain : Byte) : Regs :=
  paths.foldl (fun r p => store 1 r (rOFDM0XAGCCore1 p) initialGain) r

def dmInitialGain (s : State) : State :=
  let st := s.initialGain.switched s.dig.digAlgorithmSwitch
  if s.beScanInprogress then { s with initialGain := { st with forceWrite := true } }
  else
    let dig := chooseIgValue s.defaultInitialGain s.dig
    let st := (st.counted s.resetCount).compared dig.preIgValue (s.regs (rOFDM0XAGCCore1 0))
    if dig.preIgValue ≠ dig.curIgValue ∨ st.initialized = 0 ∨ st.forceWrite then
      { s with
        regs := writeGains s.regs (dig.curIgValue.setWidth 8)
        dig := { dig with preIgValue := dig.curIgValue }
        initialGain := { st with initialized := 1, forceWrite := false } }
    else { s with dig := dig, initialGain := st }

/-- The state of the power detection that `dm_pd_th` chooses -/
def choosePdThstate (dig : DigTable) : PdThstate :=
  if dig.preSTAConnectState = dig.curSTAConnectState then
    if dig.curSTAConnectState then
      if dig.rssiVal ≥ dig.rssiHighPowerHighthresh then .atHighPower
      else if dig.rssiVal ≤ dig.rssiLowThresh then .atLowPower
      else if dig.rssiVal ≥ dig.rssiHighThresh ∧ dig.rssiVal < dig.rssiHighPowerLowthresh then
        .atNormalPower
      else dig.prepdThstate
    else .atLowPower
  else .atLowPower

def pdThValue (bandwidth : HtChannelWidth) : PdThstate → Byte
  | .atLowPower => if bandwidth ≠ .width20 then 0x40 else 0x42
  | .atNormalPower => if bandwidth ≠ .width20 then 0x42 else 0x44
  | .atHighPower => if bandwidth ≠ .width20 then 0x41 else 0x43

def dmPdTh (s : State) : State :=
  let st := s.pdTh.switched s.dig.digAlgorithmSwitch
  let dig : DigTable := { s.dig with curpdThstate := choosePdThstate s.dig }
  let st := st.counted s.resetCount
  if dig.prepdThstate ≠ dig.curpdThstate ∨ st.initialized ≤ 3 ∨ st.forceWrite then
    { s with
      regs := store 1 s.regs rOFDM0RxDetector1 (pdThValue s.drv.currentChannelBW dig.curpdThstate)
      dig := { dig with prepdThstate := dig.curpdThstate }
      pdTh := { st with
        initialized := if st.initialized ≤ 3 then st.initialized + 1 else st.initialized
        forceWrite := false } }
  else { s with dig := dig, pdTh := st }

def chooseCsRatioState (dig : DigTable) : CsRatioState :=
  if dig.preSTAConnectState = dig.curSTAConnectState then
    if dig.curSTAConnectState then
      if dig.rssiVal ≤ dig.rssiLowThresh then .lower
      else if dig.rssiVal ≥ dig.rssiHighThresh then .higher
      else dig.precsRatioState
    else .lower
  else .lower

def csRatioValue : CsRatioState → Byte
  | .lower => 0x08
  | .higher => 0xcd

def dmCsRatio (s : State) : State :=
  let st := s.csRatio.switched s.dig.digAlgorithmSwitch
  let dig : DigTable := { s.dig with curcsRatioState := chooseCsRatioState s.dig }
  let st := st.counted s.resetCount
  if dig.precsRatioState ≠ dig.curcsRatioState ∨ st.initialized = 0 ∨ st.forceWrite then
    { s with
      regs := store 1 s.regs csRatioRegister (csRatioValue dig.curcsRatioState)
      dig := { dig with precsRatioState := dig.curcsRatioState }
      csRatio := { st with initialized := 1, forceWrite := false } }
  else { s with dig := dig, csRatio := st }

/-- The start of a tick: the firmware's own control is switched off, and the link and the signal are looked
at. -/
def beginTick (s : State) : State :=
  let fwDig := if s.dig.digAlgorithmSwitch then 0 else s.fwDig
  let off := setBBreg ufwp bMaskByte1 0x8
  { s with
    regs := if fwDig ≤ 3 then [off, off, off].foldl Field.write s.regs else s.regs
    fwDig := if fwDig ≤ 3 then fwDig + 1 else fwDig
    dig := { s.dig with
      curSTAConnectState := s.state = .linked
      rssiVal := if s.dig.dbgMode = false then s.undecoratedSmoothedPwdb else s.dig.rssiVal } }

def dmCtrlInitgainByrssiByDriverrssi (s : State) : State :=
  if s.dig.digEnableFlag = false then s
  else
    let s := dmCsRatio (dmPdTh (dmInitialGain (beginTick s)))
    { s with dig := { s.dig with
        digAlgorithmSwitch := false
        preSTAConnectState := s.dig.curSTAConnectState } }

/-! ## The bandwidth -/

/-- A write of the bandwidth switch. The filter of the CCK power tracking and the RF chip are elsewhere. -/
def applyBw (r : Regs) : BwWrite → Regs
  | .byte addr value => store 1 r addr value
  | .dword addr value => store 4 r addr value
  | .bbReg addr mask data => Field.write r (setBBreg addr mask data)
  | .cckTxPowerTrackBwSwitch | .phySetRF8256Bandwidth _ => r

/-- `rtl8192_SetBWMode`, with what `priv->up` is in its work item -/
def setBWMode (s : State) (bandwidth : HtChannelWidth) (offset : HtExtchnlOffset) (up : Bool) : State :=
  let drv := rtl8192SetBWMode
    { s.drv with sw := { s.drv.sw with up := up }, bwWrites := [] } bandwidth offset
  { s with drv := drv, regs := drv.bwWrites.foldl applyBw s.regs }

/-! ## The backup -/

def rtl8192QueryBBReg (r : Regs) (dwRegAddr : Nat) (dwBitMask : BitVec 32) : BitVec 32 :=
  (load32 r dwRegAddr &&& dwBitMask) >>> rtl8192CalculateBitShift dwBitMask

inductive IgOperation where
  | igBackup
  | igRestore
  deriving DecidableEq, Repr

/-- The firmware's own control is switched off, or on again. -/
def fwDigOff (r : Regs) : Regs := Field.write r (setBBreg ufwp bMaskByte1 0x8)
def fwDigOn (r : Regs) : Regs := Field.write r (setBBreg ufwp bMaskByte1 0x1)

def readBackup (r : Regs) : InitgainBackup where
  xagccore1 p := (rtl8192QueryBBReg r (rOFDM0XAGCCore1 p) bMaskByte0).setWidth 8
  cca := (rtl8192QueryBBReg r rCCK0CCA bMaskByte2).setWidth 8

/-- The mask leaves bit 7 of a gain as it is, but all of the backup is written. -/
def writeBackup (b : InitgainBackup) (r : Regs) : Regs :=
  Field.write
    (paths.foldl (fun r p =>
      Field.write r (setBBreg (rOFDM0XAGCCore1 p) 0x7f ((b.xagccore1 p).setWidth 32))) r)
    (setBBreg rCCK0CCA bMaskByte2 (b.cca.setWidth 32))

def initialGain819xPci (s : State) (operation : IgOperation) (up : Bool) : State :=
  if up = false then s
  else
    let r := if s.dig.digAlgorithm = .byFalseAlarm then fwDigOff s.regs else s.regs
    match operation with
    | .igBackup =>
      { s with
        initgainBackup := readBackup r
        regs := store 1 (writeGains r 0x17) csRatioRegister 0x08 }
    | .igRestore =>
      let r := writeBackup s.initgainBackup r
      { s with regs := if s.dig.digAlgorithm = .byFalseAlarm then fwDigOn r else r }

def dmBbInitialgainBackup (s : State) : State :=
  if s.dig.digAlgorithm = .byRssi then s
  else { s with initgainBackup := readBackup (fwDigOff s.regs), regs := fwDigOff s.regs }

def dmBbInitialgainRestore (s : State) : State :=
  if s.dig.digAlgorithm = .byRssi then s
  else { s with regs := fwDigOn (writeBackup s.initgainBackup (fwDigOff s.regs)) }

/-! ## Silent resets -/

/-- The entries of the tables of the base band for these registers -/
def phyRegArray : List (Nat × BitVec 32) :=
  [(rCCK0CCA, 0x80cd8300), (rOFDM0RxDetector1, 0x6de9ac44), (rOFDM0XAGCCore1 0, 0x69543420),
    (rOFDM0XAGCCore1 1, 0x69543420), (rOFDM0XAGCCore1 2, 0x69543420), (rOFDM0XAGCCore1 3, 0x69543420)]

/-- `rtl8192_adapter_start`: the tables are written, and the first gain is read back. -/
def rtl8192AdapterStart (s : State) : State :=
  let r := phyRegArray.foldl (fun r e => store 4 r e.1 e.2) s.regs
  { s with
    regs := r
    defaultInitialGain :=
      if s.card8192Version > Channel.version8190BD then r (rOFDM0XAGCCore1 0) else s.defaultInitialGain }

/-! ## Runs -/

inductive Event where
  | tick (undecoratedSmoothedPwdb : Int)
  | link (state : RtllibState)
  | setBWMode (bandwidth : HtChannelWidth) (offset : HtExtchnlOffset) (up : Bool)
  /-- `be_scan_inprogress` is set or cleared. -/
  | beScan (inprogress : Bool)
  | initialGain (operation : IgOperation) (up : Bool)
  | resetBegin
  | adapterStart
  /-- `restores` if `dm_restore_dynamic_mechanism_state` gets to the gains -/
  | resetEnd (restores : Bool)
  /-- An RF change is in progress, and the reset is not made. -/
  | resetRefused

def step (s : State) : Event → State
  | .tick pwdb => dmCtrlInitgainByrssiByDriverrssi { s with undecoratedSmoothedPwdb := pwdb }
  | .link state => { s with state := state }
  | .setBWMode bandwidth offset up => setBWMode s bandwidth offset up
  | .beScan inprogress => { s with beScanInprogress := inprogress }
  | .initialGain operation up =>
    { initialGain819xPci s operation up with wxSyncScan := operation = .igBackup }
  | .resetBegin => dmBbInitialgainBackup { s with bResetInProgress := true }
  | .adapterStart => rtl8192AdapterStart s
  | .resetEnd restores =>
    let s := if restores then dmBbInitialgainRestore s else s
    { s with
      regs := store 1 s.regs ufwp 1
      resetCount := s.resetCount + 1
      bResetInProgress := false }
  | .resetRefused => { s with regs := store 1 s.regs ufwp 1, resetCount := s.resetCount + 1 }

/-- The driver when it comes up: `priv` and the static variables are zero before. -/
def poweredUp (s : State) : State :=
  rtl8192AdapterStart
    { s with
      dig := dmDigInit s.customerNetcore
        { s.dig with
          curpdThstate := .atLowPower, prepdThstate := .atLowPower, curcsRatioState := .lower
          precsRatioState := .lower, preIgValue := 0, curIgValue := 0 }
      beScanInprogress := false
      wxSyncScan := false
      bResetInProgress := false
      resetCount := 0
      defaultInitialGain := 0
      initgainBackup := ⟨fun _ => 0, 0⟩
      fwDig := 0
      initialGain := {}
      pdTh := {}
      csRatio := {} }

end Rtl8190.Dig
