import Rtl8190.Power.RfCode

/-!
# Selecting the receive paths

`dm_rxpath_sel_byrssi`, `dm_rf_pathcheck_workitemcallback` and `dm_init_rxpath_selection` (`rtl_dm.c`), with
the writes of `SetRFPowerState8190` and of the tables of the base band to the same registers. The statics
of the function are fields of the state.
-/

open Rtl8190.Memory (Byte)
open Rtl8190.Power (RfPowerState RfType rOFDM0TRxPathEnable rOFDM1TRxPathEnable setBBreg)
open Rtl8190.Registers

namespace Rtl8190.RxPath

/-- One of the paths A to D; there are `RF90_PATH_MAX`. -/
abbrev Path := Fin 4

def rCCK0AFESetting : Nat := 0xa04

/-- `DM_CCK_Rx_Path_Method` -/
inductive CckRxVersion where
  | version1
  | version2
  deriving DecidableEq, Repr

structure DRxPathSel where
  enable : Bool
  dbgMode : Bool
  cckMethod : CckRxVersion
  cckRxPath : Byte
  ssThLow : Byte
  diffTh : Byte
  disabledRF : Byte
  rfRssi : Path → Byte
  rfEnableRssiTh : Path → Byte
  cckPwdbSta : Path → Int

structure State where
  rfType : RfType
  /-- `CustomerID` is `RT_CID_819x_Netcore`. -/
  netcore : Bool
  regs : Regs
  brfpathRxenable : Path → Bool
  table : DRxPathSel
  disabledRfCnt : Byte
  cckRxPathInitialized : Bool

/-- What a run finds beside the state: whether the mode is `WIRELESS_MODE_B`, `rx_rssi_percentage`, and what
the receive path left in `cck_pwdb_sta` -/
structure Input where
  modeB : Bool
  rxRssiPercentage : Path → Byte
  cckPwdbSta : Path → Int

def dmInitRxpathSelection (s : State) : State :=
  { s with table := { s.table with
      enable := true
      ssThLow := 30
      diffTh := 18
      cckMethod := if s.netcore then .version2 else .version1
      dbgMode := false
      disabledRF := 0
      rfRssi := fun _ => 50
      cckPwdbSta := fun _ => -64
      rfEnableRssiTh := fun _ => 100 } }

/-! ## The selection in one pass -/

structure Pick (α : Type) where
  rfNum : Nat
  maxIndex : Path
  secIndex : Path
  minIndex : Path
  tmpMax : α
  tmpSec : α
  tmpMin : α

section

variable {α : Type} [LinearOrder α]

def pickPath (p : Pick α) (i : Path) (cur : α) : Pick α :=
  let p := { p with rfNum := p.rfNum + 1 }
  if p.rfNum = 1 then
    { p with maxIndex := i, secIndex := i, minIndex := i, tmpMax := cur, tmpSec := cur, tmpMin := cur }
  else if p.rfNum = 2 then
    if cur ≥ p.tmpMax then { p with tmpMax := cur, maxIndex := i }
    else { p with tmpSec := cur, tmpMin := cur, secIndex := i, minIndex := i }
  else if cur > p.tmpMax then
    { p with tmpSec := p.tmpMax, secIndex := p.maxIndex, tmpMax := cur, maxIndex := i }
  else if cur = p.tmpMax then { p with tmpSec := cur, secIndex := i }
  else if cur < p.tmpMax ∧ cur > p.tmpSec then { p with tmpSec := cur, secIndex := i }
  else if cur = p.tmpSec then if p.tmpSec = p.tmpMin then { p with tmpSec := cur, secIndex := i } else p
  else if cur < p.tmpSec ∧ cur > p.tmpMin then p
  else if cur = p.tmpMin then if p.tmpSec = p.tmpMin then { p with tmpMin := cur, minIndex := i } else p
  else if cur < p.tmpMin then { p with tmpMin := cur, minIndex := i }
  else p

def pick (zero : α) (enabled : Path → Bool) (value : Path → α) : Pick α :=
  (List.finRange 4).foldl (fun p i => if enabled i then pickPath p i (value i) else p)
    ⟨0, 0, 0, 0, zero, zero, zero⟩

end

/-! ## One run -/

def State.enabled (s : State) (i : Path) : Bool := (s.regs rOFDM0TRxPathEnable).getLsbD i

def prepare (s : State) (input : Input) : State :=
  let cckRxPath := if s.cckRxPathInitialized then s.table.cckRxPath else s.regs 0xa07 &&& 0xf
  { s with
    cckRxPathInitialized := true
    table := { s.table with
      cckRxPath := cckRxPath
      disabledRF := 0xf &&& ~~~s.regs rOFDM0TRxPathEnable
      cckMethod := if input.modeB then .version2 else s.table.cckMethod
      cckPwdbSta := input.cckPwdbSta
      rfRssi := if s.table.dbgMode then s.table.rfRssi else input.rxRssiPercentage } }

def rssiPick (s : State) : Pick Nat := pick 0 s.brfpathRxenable fun i => (s.table.rfRssi i).toNat

def cckPick (s : State) : Pick Int := pick 0 s.brfpathRxenable s.table.cckPwdbSta

/-- The weakest path is weak, and few paths are disabled. -/
def IsWeak (s : State) : Prop :=
  (rssiPick s).tmpMin < s.table.ssThLow.toNat ∧ s.disabledRfCnt.toNat < 2

def Disables (s : State) : Prop :=
  IsWeak s ∧ ((rssiPick s).tmpMax : Int) - (rssiPick s).tmpMin ≥ s.table.diffTh.toNat

instance (s : State) : Decidable (IsWeak s) := inferInstanceAs (Decidable (_ ∧ _))

instance (s : State) : Decidable (Disables s) := inferInstanceAs (Decidable (_ ∧ _))

def setPath (r : Regs) (i : Path) (data : BitVec 32) : Regs :=
  let r := Field.write r (setBBreg rOFDM0TRxPathEnable ((1 : BitVec 32) <<< i.val) data)
  Field.write r (setBBreg rOFDM1TRxPathEnable ((1 : BitVec 32) <<< i.val) data)

/-- The weakest path is disabled, with the value from which on it is enabled again. -/
def disablePath (s : State) (p : Pick Nat) : State :=
  { s with
    regs := setPath s.regs p.minIndex 0
    table := { s.table with
      rfEnableRssiTh := Function.update s.table.rfEnableRssiTh p.minIndex (BitVec.ofNat 8 (p.tmpMax + 5)) }
    disabledRfCnt := s.disabledRfCnt + 1 }

/-- The paths for CCK, the default one first, if they are to be written -/
def cckPaths (s : State) : Option (Path × Path) :=
  let p := rssiPick s
  let q := cckPick s
  match s.table.cckMethod with
  | .version1 => if IsWeak s ∧ p.tmpMax ≠ 0 then some (p.maxIndex, p.secIndex) else none
  | .version2 => if q.tmpMax ≠ -64 then some (q.maxIndex, q.secIndex) else none

def updateCckRxPath (s : State) : Option (Path × Path) → State
  | none => s
  | some (default, optional) =>
    let path := BitVec.ofNat 8 default <<< 2 ||| BitVec.ofNat 8 optional
    { s with
      table := { s.table with cckRxPath := path }
      regs := Field.write s.regs (setBBreg rCCK0AFESetting 0x0f000000 (path.setWidth 32)) }

/-- A path that was disabled before the run is enabled again if the strongest one is strong enough. -/
def enablePath (max : Nat) (s : State) (i : Path) : State :=
  if s.table.disabledRF.getLsbD i ∧ max ≥ (s.table.rfEnableRssiTh i).toNat then
    { s with
      regs := setPath s.regs i 1
      table := { s.table with rfEnableRssiTh := Function.update s.table.rfEnableRssiTh i 100 }
      disabledRfCnt := s.disabledRfCnt - 1 }
  else s

def dmRxpathSelByrssi (s : State) (input : Input) : State :=
  if s.rfType ≠ .rf2T4R then s
  else
    let s := prepare s input
    let p := rssiPick s
    let paths := cckPaths s
    let s := if Disables s then disablePath s p else s
    let s := updateCckRxPath s paths
    (List.finRange 4).foldl (enablePath p.tmpMax) s

def dmRfPathcheckWorkitemcallback (s : State) (input : Input) : State :=
  let s := { s with brfpathRxenable := s.enabled }
  if s.table.enable then dmRxpathSelByrssi s input else s

/-- The entries of the tables of the base band for these registers -/
def phyRegs (rfType : RfType) (r : Regs) : Regs :=
  match rfType with
  | .rf2T4R =>
    store 4 (store 4 (store 4 r rCCK0AFESetting 0xab1f0008) rOFDM0TRxPathEnable 0x500f) rOFDM1TRxPathEnable 0x40f
  | .rf1T2R =>
    store 4 (store 4 (store 4 r rCCK0AFESetting 0x2b1f0008) rOFDM0TRxPathEnable 0x500c) rOFDM1TRxPathEnable 0x40c
  | _ => r

/-! ## Events -/

inductive Event where
  /-- `dm_rxpath_sel_byrssi`, with what is in `brfpath_rxenable` -/
  | selByRssi (brfpathRxenable : Path → Bool) (input : Input)
  | pathCheck (input : Input)
  | reinit
  | silentReset
  | rf (st : RfPowerState)

def step (s : State) : Event → State
  | .selByRssi brfpathRxenable input =>
    dmRxpathSelByrssi { s with brfpathRxenable := brfpathRxenable } input
  | .pathCheck input => dmRfPathcheckWorkitemcallback s input
  | .reinit => dmInitRxpathSelection s
  | .silentReset => { s with regs := phyRegs s.rfType s.regs }
  | .rf st => { s with regs := (Power.rfFields s.rfType st).foldl Field.write s.regs }

/-- The driver when it is loaded: the static counter and the table are zero. -/
def loaded (s : State) : State :=
  dmInitRxpathSelection { s with disabledRfCnt := 0, cckRxPathInitialized := false }

end Rtl8190.RxPath
