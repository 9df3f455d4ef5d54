import Mathlib.Logic.Function.Basic
import Rtl8190.Lib.Run
import Rtl8190.Types

/-!
# The power-save handshake

`rtllib_sta_ps`, `rtllib_sta_wakeup`, `rtllib_ps_tx_ack` and the two transmit functions
(`rtllib_softmac.c`), the transmit rings and the interrupt (`rtl_core.c`), and
`MgntActSet_802_11_PowerSaveMode` (`rtl_ps.c`, with `ENABLE_LPS`).

The driver has no function for the callbacks `ps_is_queue_empty`, `enter_sleep_state` and
`sta_wake_up`. The first is a parameter here. Of the second, the calls are recorded.

A function that holds a lock makes several steps where code without that lock may come between: the
interrupt reads and clears `ack_tx_to_ieee` and looks at the rings, `rtl8192_tx_resume` and the last
part of a management transmission fill the rings, and `MgntActSet_802_11_PowerSaveMode` sets
`sta_sleep`. `lock` is where the function that holds `ieee->lock` stands.
-/

open Function Rtl8190.Run

namespace Rtl8190.PowerSave

/-! ## State -/

inductive StaSleep where
  /-- 0 -/
  | awake
  /-- 1 -/
  | asleep
  /-- 2: the null frame with the power-management bit is out. -/
  | nullSent
  deriving DecidableEq, Repr

inductive Frame where
  /-- `rtllib_null_func` -/
  | null (pwr : Bool)
  /-- `rtllib_pspoll_func` -/
  | psPoll
  | mgmt
  | data
  deriving DecidableEq, Repr

def Frame.pm : Frame → Bool
  | .null pwr => pwr
  | .psPoll => true
  | .mgmt => false
  | .data => false

inductive Queue where
  /-- `BK_QUEUE`, `BE_QUEUE`, `VI_QUEUE`, `VO_QUEUE` -/
  | ac (i : Fin 4)
  | mgnt
  | high
  deriving DecidableEq, Repr

/-- A frame in a ring, and the `OWN` bit of its descriptor -/
structure Desc where
  frame : Frame
  own : Bool
  deriving DecidableEq, Repr

abbrev Rings := Queue → List Desc

/-- The rings that `rtl8192_is_tx_queue_empty` looks at, in its order; the high queue is not one. -/
def txQueues : List Queue := [.ac 0, .ac 1, .ac 2, .ac 3, .mgnt]

/-- The result of `rtllib_sta_ps_sleep`, which depends on the beacons and the time. -/
inductive PsSleep where
  /-- 0 -/
  | nothing
  /-- 1 -/
  | goToSleep
  /-- 2 -/
  | wakeUp
  deriving DecidableEq, Repr

/-- What the function that holds `ieee->lock` does next. -/
inductive LockPc where
  | free
  /-- `rtllib_sta_ps` does what `rtllib_sta_ps_sleep` says. -/
  | deciding (sleep : PsSleep)
  /-- It found the queues empty, and sets `sta_sleep` and `ack_tx_to_ieee`. -/
  | found
  /-- It sends the null frame. -/
  | announcing
  /-- `rtllib_sta_wakeup` sends a null frame or a PS-Poll frame; `rtllib_sta_ps` may go on then. -/
  | wakingUp (nullFrame : Bool) (sleep : Option PsSleep)
  /-- `rtllib_ps_tx_ack` found `sta_sleep` to be 2, and sets it to 1. -/
  | acking
  /-- `enter_sleep_state` is called. -/
  | entering
  deriving DecidableEq, Repr

def LockPc.holdsMgmtTxLock : LockPc → Bool
  | .found | .announcing | .wakingUp .. => true
  | .free | .deciding _ | .acking | .entering => false

/-- A test of `sta_sleep` or of the queues has been made, and what follows from it has not. -/
def LockPc.decided : LockPc → Bool
  | .found | .acking | .entering => true
  | .free | .deciding _ | .announcing | .wakingUp .. => false

/-- Where `rtl8192_interrupt` stands after it let go of `irq_th_lock`. -/
inductive AckReport where
  | idle
  /-- The next access reads `ack_tx_to_ieee`. -/
  | reaped
  /-- `ack_tx_to_ieee` was set; the next access is to ring `i` of `txQueues`. -/
  | looking (i : Nat)
  /-- The rings were empty; the next access clears `ack_tx_to_ieee`. -/
  | empty
  /-- `rtllib_ps_tx_ack` comes next. -/
  | cleared
  deriving DecidableEq, Repr

/-- The management ring, the last one, was found empty. -/
def AckReport.passed : AckReport → Bool
  | .idle | .reaped => false
  | .looking i => decide (txQueues.length ≤ i)
  | .empty | .cleared => true

structure Config where
  iwMode : IwMode
  state : RtllibState
  psForce : Bool
  bLeisurePs : Bool
  /-- `HT_IOT_ACT_NULL_DATA_POWER_SAVING` in `IOTAction` -/
  nullDataPowerSaving : Bool
  deriving DecidableEq, Repr

structure State where
  cfg : Config
  ps : BitVec 16
  staSleep : StaSleep
  ackTxToIeee : Bool
  polling : Bool
  lock : LockPc
  /-- How many callers of `MgntActSet_802_11_PowerSaveMode` have still to set `sta_sleep`. -/
  waking : Nat
  ackReport : AckReport
  ring : Rings
  /-- How many frames `skb_waitQ` holds. -/
  waitQ : Fin 4 → Nat
  /-- The frames that a function has still to send under `mgmt_tx_lock`, after it set `sta_sleep`. -/
  pending : List Frame
  /-- The power-management bit of the last frame that the AP acknowledged. -/
  apPm : Bool
  /-- `apPm` at each call of `enter_sleep_state`, newest first. -/
  slept : List Bool

def psDisabled : BitVec 16 := 0

/-! ## The rings -/

/-- `rtl8192_hard_start_xmit` and `rtl8192_hard_data_xmit`. The frame is not `sent` if there was no
memory for it, the radio is off, or the ring is full. -/
def State.push (q : Queue) (frame : Frame) (sent : Bool) (s : State) : State :=
  if sent then { s with ring := update s.ring q (s.ring q ++ [⟨frame, true⟩]) } else s

def finish : List Desc → Option (Frame × List Desc)
  | [] => none
  | d :: ds =>
    if d.own then some (d.frame, { d with own := false } :: ds)
    else (finish ds).map fun r => (r.1, d :: r.2)

/-- The hardware is done with a frame, which the AP acknowledged or not. -/
def State.complete (q : Queue) (acked : Bool) (s : State) : State :=
  match finish (s.ring q) with
  | none => s
  | some (frame, ds) =>
    { s with ring := update s.ring q ds, apPm := if acked then frame.pm else s.apPm }

def rtl8192TxIsr (q : Queue) (s : State) : State :=
  { s with ring := update s.ring q ((s.ring q).dropWhile fun d => !d.own) }

def rtl8192IsTxQueueEmpty (ring : Rings) : Bool := txQueues.all fun q => decide (ring q = [])

/-! ## Going to sleep and waking up -/

def rtllibStaPsSendNullFrame (pwr sent : Bool) (s : State) : State := s.push .mgnt (.null pwr) sent

def rtllibStaPsSendPspollFrame (sent : Bool) (s : State) : State := s.push .high .psPoll sent

def enterSleepState (s : State) : State := { s with slept := s.apPm :: s.slept }

/-- `rtllib_sta_wakeup` up to the frame that it sends; `sleep` is for `rtllib_sta_ps`. -/
def rtllibStaWakeup (nl : Bool) (sleep : Option PsSleep) (s : State) : State :=
  if s.staSleep = .awake then
    if nl then
      if s.cfg.nullDataPowerSaving then { s with ackTxToIeee := true, lock := .wakingUp true sleep }
      else { s with ackTxToIeee := true, lock := .wakingUp false sleep }
    else s
  else if nl then
    if s.cfg.nullDataPowerSaving then { s with ackTxToIeee := true, lock := .wakingUp true sleep }
    else { s with ackTxToIeee := true, polling := true, lock := .wakingUp false sleep }
  else { s with staSleep := .awake, polling := false }

/-- `rtllib_ps_tx_ack`, where the null frame was out up to its store to `sta_sleep` -/
def rtllibPsTxAck (success sent : Bool) (s : State) : State :=
  if s.staSleep = .nullSent then
    if success then { s with lock := .acking } else s
  else if s.staSleep = .awake ∧ success = false then
    if s.cfg.nullDataPowerSaving then rtllibStaPsSendNullFrame false sent s
    else rtllibStaPsSendPspollFrame sent s
  else s

/-- The first test of `rtllib_sta_ps` -/
def State.noNeedToPs (s : State) : Prop :=
  s.ps = psDisabled ∨ s.cfg.iwMode ≠ .infra ∨ s.cfg.state ≠ .linked

instance (s : State) : Decidable s.noNeedToPs := inferInstanceAs (Decidable (_ ∨ _))

/-- `rtllib_sta_ps` up to the result of `rtllib_sta_ps_sleep`, or to the frame before that -/
def rtllibStaPs (sleep : PsSleep) (s : State) : State :=
  if s.noNeedToPs then rtllibStaWakeup true (some sleep) s else { s with lock := .deciding sleep }

/-- `rtllib_sta_ps` from the result of `rtllib_sta_ps_sleep` on, up to the next access that others
can come before -/
def staPsSleep (psIsQueueEmpty : Rings → Bool) (sleep : PsSleep) (s : State) : State :=
  match sleep with
  | .nothing => s
  | .goToSleep =>
    if s.staSleep = .asleep then { s with lock := .entering }
    else if s.staSleep = .awake ∧ psIsQueueEmpty s.ring = true then { s with lock := .found }
    else s
  | .wakeUp => rtllibStaWakeup true none s

/-- The function that holds `ieee->lock` goes on. A frame that it sends may be `sent` or not. -/
def goOn (psIsQueueEmpty : Rings → Bool) (sent : Bool) (s : State) : State :=
  match s.lock with
  | .free => s
  | .deciding sleep => staPsSleep psIsQueueEmpty sleep { s with lock := .free }
  | .found => { s with staSleep := .nullSent, ackTxToIeee := true, lock := .announcing }
  | .announcing => rtllibStaPsSendNullFrame true sent { s with lock := .free }
  | .wakingUp nullFrame sleep =>
    let s := { s with lock := sleep.elim .free .deciding }
    if nullFrame then rtllibStaPsSendNullFrame false sent s else rtllibStaPsSendPspollFrame sent s
  | .acking => { s with staSleep := .asleep, lock := .entering }
  | .entering => enterSleepState { s with lock := .free }

/-- `MgntActSet_802_11_PowerSaveMode` up to its test of `sta_sleep` -/
def mgntActSet80211PowerSaveMode (rtPsMode : BitVec 16) (s : State) : State :=
  if s.cfg.iwMode = .adhoc then s
  else
    let s := if s.cfg.psForce then s else { s with ps := rtPsMode }
    if s.staSleep ≠ .awake ∧ rtPsMode = psDisabled then { s with waking := s.waking + 1 } else s

/-- It sets `sta_sleep` to 0 under no lock, and has a frame to send. -/
def awakeImmediately (s : State) : State :=
  { s with
    waking := s.waking - 1
    staSleep := .awake
    pending := s.pending ++ [.null false] }

def leisurePSLeave (s : State) : State :=
  if s.cfg.bLeisurePs = true ∧ s.ps ≠ psDisabled then mgntActSet80211PowerSaveMode psDisabled s
  else s

/-! ## Other frames -/

/-- One fragment in `rtllib_softmac_xmit`. `enough` is about the descriptors. -/
def xmitFragment (ac : Fin 4) (enough sent : Bool) (s : State) : State :=
  if s.waitQ ac ≠ 0 ∨ enough = false then
    if s.waitQ ac < 200 then { s with waitQ := update s.waitQ ac (s.waitQ ac + 1) } else s
  else s.push (.ac ac) .data sent

def rtllibSoftmacXmit (ac : Fin 4) (frags : List (Bool × Bool)) (s : State) : State :=
  frags.foldl (fun s f => xmitFragment ac f.1 f.2 s) (rtllibStaWakeup false none s)

/-- `softmac_mgmt_xmit` until it lets go of `ieee->lock` -/
def softmacMgmtXmit (s : State) : State :=
  let s := rtllibStaWakeup false none s
  { s with pending := s.pending ++ [.mgmt] }

/-- What follows under `mgmt_tx_lock`. A frame that has to wait is not `sent`: nothing takes frames
from the wait queue of the management ring. -/
def sendPending (i : Nat) (sent : Bool) (s : State) : State :=
  match s.pending[i]? with
  | none => s
  | some frame => State.push .mgnt frame sent { s with pending := s.pending.eraseIdx i }

def rtl8192TxResume (ac : Fin 4) (sent : Bool) (s : State) : State :=
  if s.waitQ ac = 0 then s
  else State.push (.ac ac) .data sent { s with waitQ := update s.waitQ ac (s.waitQ ac - 1) }

def rxPoll (moreData sent : Bool) (s : State) : State :=
  if s.cfg.iwMode = .infra ∧ s.staSleep = .asleep ∧ s.polling = true then
    if moreData then rtllibStaPsSendPspollFrame sent s else { s with polling := false }
  else s

def rtl8192Interrupt (q : Queue) (s : State) : State :=
  let s := rtl8192TxIsr q s
  if q = .mgnt then { s with ackReport := .reaped } else s

/-- One access of `rtl8192_interrupt` after it let go of `irq_th_lock`. It always reports a success. -/
def interruptAck (s : State) : State :=
  match s.ackReport with
  | .idle => s
  | .reaped => { s with ackReport := if s.ackTxToIeee then .looking 0 else .idle }
  | .looking i =>
    match txQueues[i]? with
    | none => { s with ackReport := .empty }
    | some q => { s with ackReport := if s.ring q = [] then .looking (i + 1) else .idle }
  | .empty => { s with ackTxToIeee := false, ackReport := .cleared }
  -- what is left of it is in `goOn`; here the next interrupt does not wait for that
  | .cleared => rtllibPsTxAck true false { s with ackReport := .idle }

/-! ## Runs -/

inductive Event where
  | configure (cfg : Config)
  | staPs (sleep : PsSleep)
  | staWakeup (nl : Bool)
  | goOn (sent : Bool)
  | psTxAck (success sent : Bool)
  | softmacXmit (ac : Fin 4) (frags : List (Bool × Bool))
  | mgmtXmit
  | sendPending (i : Nat) (sent : Bool)
  | txResume (ac : Fin 4) (sent : Bool)
  | rx (moreData sent : Bool)
  | setPowerSaveMode (rtPsMode : BitVec 16)
  | awakeImmediately
  | leisurePSLeave
  | complete (q : Queue) (acked : Bool)
  | interrupt (q : Queue)
  | interruptAck

/-- The event cannot come: it needs a lock that is held, or nothing started what it goes on with. -/
def State.blocks (s : State) : Event → Bool
  | .staPs _ | .staWakeup _ | .psTxAck .. | .softmacXmit .. | .mgmtXmit => decide (s.lock ≠ .free)
  | .sendPending .. => s.lock.holdsMgmtTxLock
  | .interruptAck => decide (s.lock ≠ .free ∧ s.ackReport = .cleared)
  | .awakeImmediately => decide (s.waking = 0)
  -- the handler does not interrupt itself
  | .interrupt _ => decide (s.ackReport ≠ .idle)
  | .goOn _ | .configure _ | .txResume .. | .rx .. | .setPowerSaveMode _ | .leisurePSLeave
  | .complete .. => false

variable (psIsQueueEmpty : Rings → Bool)

def perform (s : State) : Event → State
  | .configure cfg => { s with cfg := cfg }
  | .staPs sleep => rtllibStaPs sleep s
  | .staWakeup nl => rtllibStaWakeup nl none s
  | .goOn sent => goOn psIsQueueEmpty sent s
  | .psTxAck success sent => rtllibPsTxAck success sent s
  | .softmacXmit ac frags => rtllibSoftmacXmit ac frags s
  | .mgmtXmit => softmacMgmtXmit s
  | .sendPending i sent => sendPending i sent s
  | .txResume ac sent => rtl8192TxResume ac sent s
  | .rx moreData sent => rxPoll moreData sent s
  | .setPowerSaveMode rtPsMode => mgntActSet80211PowerSaveMode rtPsMode s
  | .awakeImmediately => awakeImmediately s
  | .leisurePSLeave => leisurePSLeave s
  | .complete q acked => s.complete q acked
  | .interrupt q => rtl8192Interrupt q s
  | .interruptAck => interruptAck s

def step (s : State) (e : Event) : State := if s.blocks e then s else perform psIsQueueEmpty s e

def State.init (cfg : Config) : State :=
  { cfg := cfg, ps := psDisabled, staSleep := .awake, ackTxToIeee := false, polling := false,
    lock := .free, waking := 0, ackReport := .idle, ring := fun _ => [], waitQ := fun _ => 0,
    pending := [], apPm := false, slept := [] }

end Rtl8190.PowerSave
