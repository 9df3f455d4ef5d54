import Rtl8190.Lib.Memory
import Rtl8190.Lib.Registers

/-!
# Software frame synchronisation

`dm_check_fsync` with `dm_StartSWFsync` and `dm_EndSWFsync`, `dm_fsync_timer_callback` and `dm_init_fsync`
(`rtl_dm.c`), and what a silent reset does to them (`rtl819x_ifsilentreset`, `rtl_core.c`). The checks and the
silent resets come from one work item; a callback comes between them, or within a reset until
`deinit_hal_dm`. The functions for hardware synchronisation are empty.
-/

open Rtl8190.Memory (Byte)
open Rtl8190.Registers

namespace Rtl8190.Fsync

def rOFDM0RxDetector1 : Nat := 0xc30
def rOFDM0RxDetector2 : Nat := 0xc34
def rOFDM0RxDetector3 : Nat := 0xc38
def rOFDM0RxDetector4 : Nat := 0xc3c

def regC38TH : Int := 20

inductive FsyncState where
  | defaultFsync
  | hwFsync
  | swFsync
  deriving DecidableEq, Repr

inductive RegC38State where
  | default
  | nonFsyncOtherAP
  | fsyncAPBCM
  deriving DecidableEq, Repr

structure State where
  fsyncTimeInterval : BitVec 32
  fsyncRateBitmap : BitVec 32
  fsyncRssiThreshold : Byte
  fsyncMultipleTimeinterval : Byte
  fsyncFirstdiffRatethreshold : BitVec 32
  fsyncSeconddiffRatethreshold : BitVec 32
  fsyncState : FsyncState
  framesyncMonitor : Bool
  /-- `fsync_timer`: the milliseconds that it was armed for, while it is pending -/
  fsyncTimer : Option (BitVec 32)
  rateRecord : BitVec 32
  rateCountDiffRecord : BitVec 32
  contiuneDiffCount : BitVec 32
  bswitchFsync : Bool
  resetCount : BitVec 32
  /-- The statics of `dm_check_fsync` -/
  regC38State : RegC38State
  resetCnt : BitVec 32
  framesync : Byte
  /-- `card_8192_version` is above `VERSION_8190_BD`. -/
  laterCard : Bool
  regs : Regs

/-- What the functions find: whether `state` is `RTLLIB_LINKED`, whether `IOTAction` has
`HT_IOT_ACT_CDD_FSYNC`, whether `mode` is `WIRELESS_MODE_N_24G`, and the counters of the rates -/
structure Env where
  linked : Bool
  cddFsync : Bool
  bfsyncEnable : Bool
  modeN24G : Bool
  undecoratedSmoothedPwdb : Int
  receivedRateHistogram : Nat → BitVec 64

/-- The conditions for the synchronisation by software -/
def Env.Wanted (env : Env) : Prop := env.linked ∧ env.bfsyncEnable ∧ env.cddFsync

instance (env : Env) : Decidable env.Wanted := inferInstanceAs (Decidable (_ ∧ _ ∧ _))

/-- `dm_init_fsync`; `bfsync_enable` is left to what a function finds. -/
def dmInitFsync (s : State) : State :=
  { s with
    fsyncTimeInterval := 500
    fsyncRateBitmap := 0x0f000800
    fsyncRssiThreshold := 30
    fsyncMultipleTimeinterval := 3
    fsyncFirstdiffRatethreshold := 100
    fsyncSeconddiffRatethreshold := 200
    fsyncState := .defaultFsync
    framesyncMonitor := true
    fsyncTimer := none }

/-! ## The pattern -/

def writeByte (r : Regs) (addr : Nat) (value : Byte) : Regs := Function.update r addr value

def writePattern (r : Regs) (switched : Bool) : Regs :=
  if switched then writeByte (writeByte r 0xc36 0x00) 0xc3e 0x90
  else writeByte (writeByte r 0xc36 0x40) 0xc3e 0x96

def returnToDefault (s : State) : State :=
  if s.bswitchFsync then { s with bswitchFsync := false, regs := writePattern s.regs false } else s

/-! ## The timer -/

def rateCount (s : State) (env : Env) : BitVec 32 :=
  (List.range 28).foldl (fun count i =>
    if s.fsyncRateBitmap &&& ((1 : BitVec 32) <<< i) ≠ 0 then count + (env.receivedRateHistogram i).setWidth 32 else count) 0

def rateCountDiff (count record : BitVec 32) : BitVec 32 :=
  if count < record then 0xffffffff - count + record else count - record

/-- `ContiuneDiffCount`, and whether the differences say that the pattern is to be switched -/
def countDiff (s : State) (diff : BitVec 32) : BitVec 32 × Bool :=
  let (continued, switch) :=
    if diff < s.rateCountDiffRecord then
      let continued :=
        if s.rateCountDiffRecord - diff ≥ s.fsyncSeconddiffRatethreshold then s.contiuneDiffCount + 1 else 0
      if continued ≥ 2 then (0, true) else (continued, false)
    else (0, false)
  if diff ≤ s.fsyncFirstdiffRatethreshold then (0, true) else (continued, switch)

def dmFsyncTimerCallback (s : State) (env : Env) : State :=
  if env.Wanted then
    let count := rateCount s env
    let diff := rateCountDiff count s.rateRecord
    let (continued, switch) := countDiff s diff
    let s := { s with contiuneDiffCount := continued, rateRecord := count, rateCountDiffRecord := diff }
    if env.undecoratedSmoothedPwdb > s.fsyncRssiThreshold.toNat ∧ switch then
      { s with
        bswitchFsync := !s.bswitchFsync
        regs := writePattern s.regs !s.bswitchFsync
        fsyncTimer := some (s.fsyncTimeInterval * s.fsyncMultipleTimeinterval.setWidth 32) }
    else
      let s := if env.undecoratedSmoothedPwdb ≤ s.fsyncRssiThreshold.toNat then returnToDefault s else s
      { s with fsyncTimer := some s.fsyncTimeInterval }
  else
    let s := returnToDefault s
    { s with contiuneDiffCount := 0, regs := store 4 s.regs rOFDM0RxDetector2 0x164052cd }

def fire (s : State) (env : Env) : State :=
  if s.fsyncTimer.isSome then dmFsyncTimerCallback { s with fsyncTimer := none } env else s

/-! ## The check -/

def dmEndSWFsync (s : State) : State :=
  let s := returnToDefault { s with fsyncTimer := none }
  { s with contiuneDiffCount := 0 }

def dmStartSWFsync (s : State) (env : Env) : State :=
  { s with
    rateRecord := rateCount s env
    contiuneDiffCount := 0
    rateCountDiffRecord := 0
    bswitchFsync := false
    fsyncFirstdiffRatethreshold := if env.modeN24G then 600 else 200
    fsyncSeconddiffRatethreshold := if env.modeN24G then 0xffff else 200
    fsyncTimer := some s.fsyncTimeInterval }

def nextFsyncState (s : State) (env : Env) : State :=
  if env.linked ∧ env.cddFsync then
    if env.bfsyncEnable then
      match s.fsyncState with
      | .defaultFsync | .hwFsync => { dmStartSWFsync s env with fsyncState := .swFsync }
      | .swFsync => s
    else
      match s.fsyncState with
      | .defaultFsync => { s with fsyncState := .hwFsync }
      | .swFsync => { dmEndSWFsync s with fsyncState := .hwFsync }
      | .hwFsync => s
  else
    match s.fsyncState with
    | .hwFsync => { s with fsyncState := .defaultFsync }
    | .swFsync => { dmEndSWFsync s with fsyncState := .defaultFsync }
    | .defaultFsync => s

def setRegC38 (s : State) (value : Byte) (state : RegC38State) : State :=
  { s with regs := writeByte s.regs rOFDM0RxDetector3 value, regC38State := state }

def monitorC38 (s : State) (env : Env) : State :=
  if env.linked ∧ env.cddFsync then
    if s.regC38State ≠ .fsyncAPBCM then setRegC38 s 0x15 .fsyncAPBCM else s
  else if env.linked then
    if env.undecoratedSmoothedPwdb ≤ regC38TH then
      if s.regC38State ≠ .nonFsyncOtherAP then setRegC38 s 0x10 .nonFsyncOtherAP else s
    else if env.undecoratedSmoothedPwdb ≥ regC38TH + 5 then
      if s.regC38State ≠ .default then setRegC38 s s.framesync .default else s
    else s
  else if s.regC38State ≠ .default then setRegC38 s s.framesync .default
  else s

def dmCheckFsync (s : State) (env : Env) : State :=
  let s := nextFsyncState s env
  if s.framesyncMonitor then
    let s := monitorC38 s env
    if s.resetCount ≠ s.resetCnt then { setRegC38 s s.framesync .default with resetCnt := s.resetCount } else s
  else if s.regC38State ≠ .default then setRegC38 s s.framesync .default
  else s

/-! ## Resets -/

def dmBackupDynamicMechanismState (s : State) : State := { s with bswitchFsync := false }

def dmDeInitFsync (s : State) : State := { s with fsyncTimer := none }

/-- The tables of the base band in `rtl8192_adapter_start`, and `rtl8192_phy_getTxPower` -/
def adapterStart (s : State) : State :=
  let r := store 4 (store 4 (store 4 (store 4 s.regs rOFDM0RxDetector1 0x6de9ac44) rOFDM0RxDetector2 0x164052cd)
    rOFDM0RxDetector3 0x00070a14) rOFDM0RxDetector4 0x0a969764
  { s with regs := r, framesync := if s.laterCard then r rOFDM0RxDetector3 else s.framesync }

/-- `rtl819x_ifsilentreset`, until the timer is deleted -/
def resetBegin (s : State) (callbacks : List Env) : State :=
  callbacks.foldl fire (dmBackupDynamicMechanismState s)

/-- `rtl819x_ifsilentreset`, with the callbacks that come before `deinit_hal_dm` -/
def silentReset (s : State) (callbacks : List Env) : State :=
  let s := adapterStart (dmDeInitFsync (resetBegin s callbacks))
  { s with resetCount := s.resetCount + 1 }

/-! ## Events -/

inductive Event where
  | check (env : Env)
  | timer (env : Env)
  | silentReset (callbacks : List Env)
  /-- A silent reset while the RF is being changed: it is only counted. -/
  | resetRefused
  /-- The interface comes up again. -/
  | up

def step (s : State) : Event → State
  | .check env => dmCheckFsync s env
  | .timer env => fire s env
  | .silentReset callbacks => silentReset s callbacks
  | .resetRefused => { s with resetCount := s.resetCount + 1 }
  | .up => adapterStart s

/-- The driver when it is loaded and comes up: `priv` is zero before. -/
def started (s : State) : State :=
  adapterStart (dmInitFsync { s with bswitchFsync := false })

end Rtl8190.Fsync
