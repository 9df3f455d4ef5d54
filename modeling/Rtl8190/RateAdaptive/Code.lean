import Rtl8190.Phy.Code
import Rtl8190.Lib.Run
import Mathlib.Data.BitVec

/-!
# Rate adaptation

`init_rate_adaptive`, `dm_check_rate_adaptive` and what `dm_restore_dynamic_mechanism_state` does
with the rates (`rtl_dm.c`). `RATR0` is the register with the rates that the firmware may use; the
write to `UFWP` that follows each of its writes is left out.
-/

open Rtl8190.Phy (RfType)

namespace Rtl8190.RateAdaptive

def rateAdaptiveTHHigh : Nat := 50
def rateAdaptiveTHLow20M : Nat := 30
def rateAdaptiveTHLow40M : Nat := 10

def rateAllOfdm2ss : BitVec 32 := 0x0ff00000

def bit31 : BitVec 32 := 0x80000000

/-- `dm_ratr_sta_e` -/
inductive RatrState where
  | high
  | middle
  | low
  | max
  deriving DecidableEq, Repr

/-- `rate_adaptive`, without the flag that an `ioctl` sets -/
structure Pra where
  ratrState : RatrState
  highRssiThreshForRa : Nat
  high2lowRssiThreshForRa : Nat
  low2highRssiThreshForRa40M : Nat
  lowRssiThreshForRa40M : Nat
  low2highRssiThreshForRa20M : Nat
  lowRssiThreshForRa20M : Nat
  upperRssiThresholdRatr : BitVec 32
  middleRssiThresholdRatr : BitVec 32
  lowRssiThresholdRatr : BitVec 32
  lowRssiThresholdRatr40M : BitVec 32
  lowRssiThresholdRatr20M : BitVec 32
  pingRssiEnable : Bool
  pingRssiRatr : BitVec 32
  pingRssiThreshForRa : Nat
  lastRatr : BitVec 32

/-- `init_rate_adaptive`; `netcore` is `CustomerID == RT_CID_819x_Netcore`. -/
def initRateAdaptive (rfType : RfType) (netcore : Bool) (pra : Pra) : Pra :=
  let pra := { pra with
    ratrState := .max
    high2lowRssiThreshForRa := rateAdaptiveTHHigh
    low2highRssiThreshForRa20M := rateAdaptiveTHLow20M + 5
    low2highRssiThreshForRa40M := rateAdaptiveTHLow40M + 5
    highRssiThreshForRa := rateAdaptiveTHHigh + 5
    lowRssiThreshForRa20M := rateAdaptiveTHLow20M
    lowRssiThreshForRa40M := rateAdaptiveTHLow40M
    pingRssiEnable := netcore
    pingRssiThreshForRa := 15 }
  match rfType with
  | .rf2T4R => { pra with
      upperRssiThresholdRatr := 0x8f0f0000
      middleRssiThresholdRatr := 0x8f0ff000
      lowRssiThresholdRatr := 0x8f0ff001
      lowRssiThresholdRatr40M := 0x8f0ff005
      lowRssiThresholdRatr20M := 0x8f0ff001
      pingRssiRatr := 0x0000000d }
  | .rf1T2R => { pra with
      upperRssiThresholdRatr := 0x000f0000
      middleRssiThresholdRatr := 0x000ff000
      lowRssiThresholdRatr := 0x000ff001
      lowRssiThresholdRatr40M := 0x000ff005
      lowRssiThresholdRatr20M := 0x000ff001
      pingRssiRatr := 0x0000000d }

structure Env where
  up : Bool
  rateAdaptiveDisabled : Bool
  /-- The mode is `WIRELESS_MODE_N_24G` or `WIRELESS_MODE_N_5G`. -/
  modeN : Bool
  linked : Bool
  bCurTxBW40MHz : Bool
  bCurShortGI40MHz : Bool
  bCurShortGI20MHz : Bool
  /-- `CurrentChannelBW == HT_CHANNEL_WIDTH_20` -/
  channelWidth20 : Bool
  undecoratedSmoothedPwdb : Int
  /-- `GetHalfNmodeSupportByAPsHandler` -/
  halfNmode : Bool
  deriving DecidableEq, Repr

/-- The card; `pingRssiState` is the static variable of `dm_check_rate_adaptive`. -/
structure State where
  rfType : RfType
  pra : Pra
  pingRssiState : Bool
  ratr0 : BitVec 32

def Env.shortGi (env : Env) : Bool :=
  env.bCurTxBW40MHz && env.bCurShortGI40MHz || !env.bCurTxBW40MHz && env.bCurShortGI20MHz

/-- A table with the bit of the short guard interval -/
def withGi (ratr : BitVec 32) (shortGi : Bool) : BitVec 32 :=
  ratr &&& ~~~bit31 ||| if shortGi then bit31 else 0

def updateTables (env : Env) (pra : Pra) : Pra :=
  { pra with
    upperRssiThresholdRatr := withGi pra.upperRssiThresholdRatr env.shortGi
    middleRssiThresholdRatr := withGi pra.middleRssiThresholdRatr env.shortGi
    lowRssiThresholdRatr := withGi (if env.channelWidth20 then pra.lowRssiThresholdRatr20M
      else pra.lowRssiThresholdRatr40M) env.shortGi
    pingRssiRatr := withGi pra.pingRssiRatr env.shortGi }

def thresholds (env : Env) (pra : Pra) : Nat × Nat :=
  match pra.ratrState with
  | .high => (pra.high2lowRssiThreshForRa,
      if env.channelWidth20 then pra.lowRssiThreshForRa20M else pra.lowRssiThreshForRa40M)
  | .low => (pra.highRssiThreshForRa,
      if env.channelWidth20 then pra.low2highRssiThreshForRa20M else pra.low2highRssiThreshForRa40M)
  | .middle | .max => (pra.highRssiThreshForRa,
      if env.channelWidth20 then pra.lowRssiThreshForRa20M else pra.lowRssiThreshForRa40M)

/-- The new state of the strength, and its table -/
def classify (env : Env) (pra : Pra) : RatrState × BitVec 32 :=
  let (highRSSIThreshForRA, lowRSSIThreshForRA) := thresholds env pra
  if env.undecoratedSmoothedPwdb ≥ highRSSIThreshForRA then (.high, pra.upperRssiThresholdRatr)
  else if env.undecoratedSmoothedPwdb ≥ lowRSSIThreshForRA then
    (.middle, pra.middleRssiThresholdRatr)
  else (.low, pra.lowRssiThresholdRatr)

/-- The part for `ping_rssi_enable`: the state, the table and `ping_rssi_state` -/
def checkPing (env : Env) (pra : Pra) (pingRssiState : Bool) (r : RatrState × BitVec 32) :
    (RatrState × BitVec 32) × Bool :=
  if pra.pingRssiEnable then
    if env.undecoratedSmoothedPwdb < (pra.pingRssiThreshForRa + 5 : Nat) then
      if env.undecoratedSmoothedPwdb < pra.pingRssiThreshForRa ∨ pingRssiState then
        ((.low, pra.pingRssiRatr), true)
      else (r, pingRssiState)
    else (r, false)
  else (r, pingRssiState)

/-- The end of the function: `RATR0` is written when it holds something else. -/
def writeRatr (env : Env) (targetRATR : BitVec 32) (s : State) : State :=
  let targetRATR := if env.halfNmode then targetRATR &&& 0xf00fffff else targetRATR
  if targetRATR ≠ s.ratr0 then
    let ratrValue := match s.rfType with
      | .rf1T2R => targetRATR &&& ~~~rateAllOfdm2ss
      | .rf2T4R => targetRATR
    { s with ratr0 := ratrValue, pra := { s.pra with lastRatr := targetRATR } }
  else s

def dmCheckRateAdaptive (env : Env) (s : State) : State :=
  if !env.up then s
  else if env.rateAdaptiveDisabled then s
  else if !env.modeN then s
  else if env.linked then
    let pra := updateTables env s.pra
    let ((ratrState, targetRATR), ping) := checkPing env pra s.pingRssiState (classify env pra)
    writeRatr env targetRATR
      { s with pra := { pra with ratrState := ratrState }, pingRssiState := ping }
  else { s with pra := { s.pra with ratrState := .max } }

/-- `dm_restore_dynamic_mechanism_state`, up to the tracking of the transmit power -/
def dmRestoreDynamicMechanismState (env : Env) (s : State) : State :=
  if !env.up then s
  else if env.rateAdaptiveDisabled then s
  else if !env.modeN then s
  else
    { s with ratr0 := match s.rfType with
      | .rf1T2R => s.pra.lastRatr &&& ~~~rateAllOfdm2ss
      | .rf2T4R => s.pra.lastRatr }

/-! ## Runs -/

inductive Event where
  /-- A round of the watchdog -/
  | tick (env : Env)
  /-- A reset of the chip is over. -/
  | restore (env : Env)
  /-- Somebody else writes `RATR0`, as `rtl8192_update_ratr_table` does, or the chip is reset. -/
  | write (ratr0 : BitVec 32)
  deriving DecidableEq, Repr

def step (s : State) : Event → State
  | .tick env => dmCheckRateAdaptive env s
  | .restore env => dmRestoreDynamicMechanismState env s
  | .write ratr0 => { s with ratr0 := ratr0 }

end Rtl8190.RateAdaptive
