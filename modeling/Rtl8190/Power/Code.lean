import Mathlib.Logic.Function.Basic
import Rtl8190.Types

/-!
# RF changes and silent resets

`RFChangeInProgress`, `ResetProgress`, `bResetInProgress` and `being_init_adapter` are flags that
`MgntActSet_RF_State`, `rtl819x_ifsilentreset`, `rtl8192_down` and `rtl8192_adapter_start` set and
clear by hand. Any number of threads run these functions. A thread takes one step at a time: a
section under `rf_ps_lock`, or the code around one access to a shared flag. `rtl8192_adapter_start`
is compiled without `ENABLE_IPS`.
-/

open Function

namespace Rtl8190.Power

/-! ## The data -/

inductive RfPowerState where
  | eRfOn
  | eRfSleep
  | eRfOff
  deriving DecidableEq, Repr

inductive ResetType where
  | noReset
  | normal
  | silent
  deriving DecidableEq, Repr

abbrev RfChangeSource := BitVec 32

def rfChangeBySw : RfChangeSource := 1 <<< 31
def rfChangeByHw : RfChangeSource := 1 <<< 30
def rfChangeByPs : RfChangeSource := 1 <<< 29
def rfChangeByIps : RfChangeSource := 1 <<< 28
def rfChangeByInit : RfChangeSource := 0

/-- The arguments of `MgntActSet_RF_State`. -/
structure RfRequest where
  stateToSet : RfPowerState
  changeSource : RfChangeSource
  deriving DecidableEq

/-- What `MgntActSet_RF_State` reads and writes between taking and releasing the flag. -/
structure Radio where
  iwMode : IwMode
  state : RtllibState
  eRFPowerState : RfPowerState
  regRfOff : Bool
  rfOffReason : RfChangeSource
  bHwRadioOff : Bool
  blinkedInGpio : Bool
  /-- `associate_procedure_wq` was queued. -/
  associateQueued : Bool
  deriving DecidableEq

/-- What the hardware functions that a step calls give: the results of `rtl8192_BBConfig`,
`init_firmware`, `rtl8192_phy_RFConfig` and `SetRFPowerState8190`. -/
structure Hw where
  bbConfig : Bool
  firmware : Bool
  rfConfig : Bool
  rfPower : Bool
  deriving DecidableEq

/-! ## The body of `MgntActSet_RF_State` -/

def mgntDisconnect (r : Radio) : Radio :=
  if r.state = .linked ∧ (r.iwMode = .adhoc ∨ r.iwMode = .infra) then { r with state := .nolink }
  else r

def phySetRFPowerState (r : Radio) (st : RfPowerState) (hw : Hw) : Radio :=
  if st = r.eRFPowerState then r
  else if hw.rfPower then { r with eRFPowerState := st }
  else r

/-- `case eRfOn`: the radio, `bActionAllowed` and `bConnectBySSID`. -/
def requestOn (r : Radio) (src : RfChangeSource) : Radio × Bool × Bool :=
  let rtState := r.eRFPowerState
  let r := { r with rfOffReason := r.rfOffReason &&& ~~~src }
  let r := if src = rfChangeByHw ∧ r.bHwRadioOff then { r with bHwRadioOff := false } else r
  if r.rfOffReason = 0 then (r, true, decide (rtState = .eRfOff ∧ rfChangeByHw ≤ src))
  else (r, false, false)

def requestOff (r : Radio) (src : RfChangeSource) : Radio :=
  let r :=
    if r.iwMode ≠ .master ∧ (rfChangeByIps < r.rfOffReason ∨ rfChangeByIps < src) then
      mgntDisconnect { r with blinkedInGpio := decide (r.state = .linked) }
    else r
  let r := if src = rfChangeByHw ∧ r.bHwRadioOff = false then { r with bHwRadioOff := true } else r
  { r with rfOffReason := r.rfOffReason ||| src }

/-- What `MgntActSet_RF_State` does while it holds the flag, and `bActionAllowed`. -/
def rfAction (r : Radio) (req : RfRequest) (hw : Hw) : Radio × Bool :=
  match req.stateToSet with
  | .eRfOn =>
    let (r, bActionAllowed, bConnectBySSID) := requestOn r req.changeSource
    if bActionAllowed then
      let r := phySetRFPowerState r .eRfOn hw
      if bConnectBySSID ∧ r.blinkedInGpio then
        ({ r with associateQueued := true, blinkedInGpio := false }, true)
      else (r, true)
    else (r, false)
  | .eRfOff => (phySetRFPowerState (requestOff r req.changeSource) .eRfOff hw, true)
  | .eRfSleep =>
    let r := { r with rfOffReason := r.rfOffReason ||| req.changeSource }
    (phySetRFPowerState r .eRfSleep hw, true)

/-! ## Where a thread is -/

/-- What the last function that the thread ran returned. -/
inductive Ret where
  | void
  | bool (b : Bool)
  | int (i : Int)
  deriving DecidableEq

inductive Pc where
  | idle (r : Ret)
  /-- `MgntActSet_RF_State`, at the head of `while (true)`, with `RFWaitCounter` -/
  | rfTry (req : RfRequest) (n : ℕ)
  /-- in the inner loop, waiting for the flag -/
  | rfWait (req : RfRequest) (n : ℕ)
  | rfBody (req : RfRequest)
  | rfRelease (bActionAllowed : Bool)
  /-- `rtl819x_ifsilentreset`, before the check of `ResetProgress` -/
  | resetCheck
  | resetMark
  | resetLock
  /-- the label `RESET_START`, with `reset_times` -/
  | resetStart (k : ℕ)
  /-- taking the driver down, with `wx_sem` held -/
  | resetDown (k : ℕ)
  /-- `_rtl8192_up` -/
  | resetUp (k : ℕ)
  | initEnter (k : ℕ)
  /-- the label `start` of `rtl8192_adapter_start`, with `retry_times` -/
  | initStart (k n : ℕ)
  | initRf (k : ℕ)
  /-- its label `end`, with `rtStatus` -/
  | initEnd (k : ℕ) (rtStatus : Bool)
  | upReturn (k : ℕ) (status : Bool)
  | resetRelease
  /-- the label `END`; `taken` if it is reached from above and not by the `goto` -/
  | resetEnd (taken : Bool)
  /-- `rtl8192_down`, at the test of `priv->up` -/
  | downCheck
  /-- in its loop, with `RFInProgressTimeOut` -/
  | downTry (n : ℕ)
  /-- behind the `break` of the loop -/
  | downForce
  | downStop
  deriving DecidableEq

/-- Who has taken `priv->wx_sem`. -/
inductive Sem (ι : Type*) where
  | free
  /-- a wireless handler, `rtl8192_open` or `rtl8192_close` -/
  | handler
  | reset (t : ι)
  deriving DecidableEq

structure State (ι : Type*) where
  pc : ι → Pc
  /-- `RFChangeInProgress`, with the thread that set it -/
  setBy : Option ι
  resetProgress : ResetType
  bResetInProgress : Bool
  beingInitAdapter : Bool
  up : Bool
  wxSem : Sem ι
  radio : Radio

variable {ι : Type*}

def State.rfChangeInProgress (s : State ι) : Bool := s.setBy.isSome

inductive Op where
  | setRfState (req : RfRequest)
  | silentReset
  | down
  deriving DecidableEq

def Op.entry : Op → Pc
  | .setRfState req => .rfTry req 0
  | .silentReset => .resetCheck
  | .down => .downCheck

inductive Event (ι : Type*) where
  /-- A thread calls one of the functions. -/
  | call (t : ι) (op : Op)
  /-- A thread takes a step. -/
  | run (t : ι) (hw : Hw)
  /-- Some other path takes `wx_sem`. -/
  | wxDown
  /-- That path releases it. -/
  | wxUp
  /-- `rtl8192_up` was run by another path. -/
  | up

/-! ## The step -/

variable [DecidableEq ι]

def State.goto (s : State ι) (t : ι) (p : Pc) : State ι := { s with pc := update s.pc t p }

@[simp] theorem State.goto_pc_self (s : State ι) (t : ι) (p : Pc) : (s.goto t p).pc t = p :=
  update_self ..

theorem State.goto_pc_of_ne (s : State ι) {t u : ι} (p : Pc) (h : u ≠ t) :
    (s.goto t p).pc u = s.pc u :=
  update_of_ne h ..

@[simp] theorem State.goto_rfChange (s : State ι) (t : ι) (p : Pc) :
    (s.goto t p).rfChangeInProgress = s.rfChangeInProgress := rfl

/-- `priv->RFChangeInProgress = true` -/
def State.takeRf (s : State ι) (t : ι) : State ι := { s with setBy := some t }

/-- `priv->RFChangeInProgress = false` -/
def State.dropRf (s : State ι) : State ι := { s with setBy := none }

/-- `MgntActSet_RF_State` -/
def rfTry (s : State ι) (t : ι) (req : RfRequest) (n : ℕ) : State ι :=
  if s.rfChangeInProgress then s.goto t (.rfWait req n) else (s.takeRf t).goto t (.rfBody req)

def rfWait (s : State ι) (t : ι) (req : RfRequest) (n : ℕ) : State ι :=
  if s.rfChangeInProgress then
    let n := n + 1
    if 100 < n then s.goto t (.idle (.bool false)) else s.goto t (.rfWait req n)
  else s.goto t (.rfTry req n)

def rfBody (s : State ι) (t : ι) (req : RfRequest) (hw : Hw) : State ι :=
  let (radio, bActionAllowed) := rfAction s.radio req hw
  { s with radio := radio }.goto t (.rfRelease bActionAllowed)

/-- `rtl819x_ifsilentreset` -/
def resetCheck (s : State ι) (t : ι) : State ι :=
  if s.resetProgress = .noReset then s.goto t .resetMark else s.goto t (.idle .void)

def resetLock (s : State ι) (t : ι) : State ι :=
  if s.rfChangeInProgress then s.goto t (.resetEnd false)
  else { s.takeRf t with bResetInProgress := true }.goto t (.resetStart 0)

def resetStart (s : State ι) (t : ι) (k : ℕ) : State ι :=
  match s.wxSem with
  | .free =>
    if s.up then { s with up := false, wxSem := .reset t }.goto t (.resetDown k)
    else s.goto t (.idle .void)
  -- `down` sleeps
  | _ => s

/-- `rtl8192_adapter_start` from the label `start` to the firmware download -/
def initStart (s : State ι) (t : ι) (k n : ℕ) (hw : Hw) : State ι :=
  let radio := if s.radio.regRfOff then { s.radio with eRFPowerState := .eRfOff } else s.radio
  let s := { s with radio := radio }
  if hw.bbConfig = false then s.goto t (.upReturn k false)
  else if hw.firmware = false then
    if n < 10 then s.goto t (.initStart k (n + 1)) else s.goto t (.initEnd k false)
  else s.goto t (.initRf k)

def initRf (s : State ι) (t : ι) (k : ℕ) (hw : Hw) : State ι :=
  if s.resetProgress = .noReset ∧ hw.rfConfig = false then s.goto t (.upReturn k false)
  else s.goto t (.initEnd k true)

def upReturn (s : State ι) (t : ι) (k : ℕ) (status : Bool) : State ι :=
  if status = false ∧ k < 3 then s.goto t (.resetStart (k + 1)) else s.goto t .resetRelease

def downCheck (s : State ι) (t : ι) : State ι :=
  if s.up then { s with up := false }.goto t (.downTry 0) else s.goto t (.idle (.int (-1)))

def downTry (s : State ι) (t : ι) (n : ℕ) : State ι :=
  if s.rfChangeInProgress then
    if 100 < n then s.goto t .downForce else s.goto t (.downTry (n + 1))
  else (s.takeRf t).goto t .downStop

/-- One step of the thread `t`. -/
def run (s : State ι) (t : ι) (hw : Hw) : State ι :=
  match s.pc t with
  | .idle _ => s
  | .rfTry req n => rfTry s t req n
  | .rfWait req n => rfWait s t req n
  | .rfBody req => rfBody s t req hw
  | .rfRelease b => s.dropRf.goto t (.idle (.bool b))
  | .resetCheck => resetCheck s t
  | .resetMark => { s with resetProgress := .silent }.goto t .resetLock
  | .resetLock => resetLock s t
  | .resetStart k => resetStart s t k
  | .resetDown k => { s with wxSem := .free }.goto t (.resetUp k)
  | .resetUp k => { s with up := true }.goto t (.initEnter k)
  | .initEnter k => { s with beingInitAdapter := true }.goto t (.initStart k 0)
  | .initStart k n => initStart s t k n hw
  | .initRf k => initRf s t k hw
  | .initEnd k st => { s with beingInitAdapter := false }.goto t (.upReturn k st)
  | .upReturn k st => upReturn s t k st
  | .resetRelease => s.dropRf.goto t (.resetEnd true)
  | .resetEnd _ =>
    { s with resetProgress := .noReset, bResetInProgress := false }.goto t (.idle .void)
  | .downCheck => downCheck s t
  | .downTry n => downTry s t n
  | .downForce => (s.takeRf t).goto t .downStop
  | .downStop => s.dropRf.goto t (.idle (.int 0))

def call (s : State ι) (t : ι) (op : Op) : State ι :=
  match s.pc t with
  | .idle _ => s.goto t op.entry
  | _ => s

def step (s : State ι) : Event ι → State ι
  | .call t op => call s t op
  | .run t hw => run s t hw
  | .wxDown => match s.wxSem with
    | .free => { s with wxSem := .handler }
    | _ => s
  | .wxUp => match s.wxSem with
    | .handler => { s with wxSem := .free }
    | _ => s
  | .up => { s with up := true }

end Rtl8190.Power
