import Rtl8190.Lib.Run
import Rtl8190.Tx.Code

/-!
# The wait queues

`softmac_mgmt_xmit` and `rtllib_softmac_xmit` (`rtllib_softmac.c`), the `DOK` interrupts and
`rtl8192_irq_tx_tasklet` (`rtl_core.c`).

`IEEE_SOFTMAC_SINGLE_QUEUE` is not among the driver's features, and nothing sets `queue_stop`. The
transmit functions hold a lock during their whole run. The tasklet takes no lock that they take,
so a transmission can come between any two of its steps.
-/

namespace Rtl8190.Tx

/-- `check_nic_enough_desc`. `entries` is an `unsigned int`. -/
def checkNicEnoughDesc (ring : TxRing) : Bool :=
  2#32 ≤ BitVec.ofNat 32 entries - BitVec.ofNat 32 ring.queue.length

/-- `UP2AC`. The access categories are the queues of the same numbers. -/
def up2ac (up : Nat) : Queue :=
  if up < 1 then beQueue
  else if up < 3 then bkQueue
  else if up < 4 then beQueue
  else if up < 6 then viQueue
  else voQueue

/-- `txb->queue_index`, as `rtllib_xmit_inter` sets it. -/
def queueIndex (qosActived : Bool) (priority : Nat) : Queue :=
  if qosActived then up2ac priority else beQueue

inductive Tasklet
  | idle
  /-- It is about to look at the wait queue. -/
  | at (queueIndex : Queue)
  /-- It took the frame from the wait queue and has not transmitted it. -/
  | hold (queueIndex : Queue) (skb : Skb)
  deriving DecidableEq, Repr

/-- Frames are numbered in each queue in the order in which they are submitted. `Skb.id` is this
number, and `reached` has the numbers of those that came to the ring, the oldest first. -/
structure State where
  ring : Queue → TxRing
  /-- The hardware's position in the ring. -/
  hw : Queue → Nat
  /-- The `DOK` interrupt of the ring is pending. -/
  intr : Queue → Bool
  skbWaitQ : Queue → List Skb
  /-- `irq_tx_tasklet` is scheduled. -/
  scheduled : Bool
  tasklet : Tasklet
  submitted : Queue → Nat
  reached : Queue → List Nat

def init : State where
  ring := fun _ => allocTxDescRing
  hw := fun _ => 0
  intr := fun _ => false
  skbWaitQ := fun _ => []
  scheduled := false
  tasklet := .idle
  submitted := fun _ => 0
  reached := fun _ => []

/-! ## Transmission -/

/-- The number of the next frame is taken. -/
def State.submit (s : State) (q : Queue) : State :=
  { s with submitted := Function.update s.submitted q (s.submitted q + 1) }

@[simp] theorem submit_ring (s : State) (q : Queue) : (s.submit q).ring = s.ring := rfl
@[simp] theorem submit_hw (s : State) (q : Queue) : (s.submit q).hw = s.hw := rfl
@[simp] theorem submit_intr (s : State) (q : Queue) : (s.submit q).intr = s.intr := rfl
@[simp] theorem submit_skbWaitQ (s : State) (q : Queue) : (s.submit q).skbWaitQ = s.skbWaitQ := rfl
@[simp] theorem submit_scheduled (s : State) (q : Queue) : (s.submit q).scheduled = s.scheduled := rfl
@[simp] theorem submit_tasklet (s : State) (q : Queue) : (s.submit q).tasklet = s.tasklet := rfl
@[simp] theorem submit_reached (s : State) (q : Queue) : (s.submit q).reached = s.reached := rfl

/-- `skb_queue_tail(&ieee->skb_waitQ[q], skb)` -/
def State.enqueue (s : State) (q : Queue) (skb : Skb) : State :=
  { s with skbWaitQ := Function.update s.skbWaitQ q (s.skbWaitQ q ++ [skb]) }

/-- A transmit function was called with the frame and returned `r`. -/
def State.xmit (s : State) (q : Queue) (skb : Skb) (r : TxRing × List Skb) : State :=
  { s with
    ring := Function.update s.ring q r.1
    reached := if (s.ring q).queue.length < r.1.queue.length then
        Function.update s.reached q (s.reached q ++ [skb.id])
      else s.reached }

def softmacMgmtXmit (s : State) (off : Bool) (len : Nat) : State :=
  let skb : Skb := ⟨s.submitted mgntQueue, len⟩
  let s' := s.submit mgntQueue
  if ¬ checkNicEnoughDesc (s.ring mgntQueue) ∨ (s.skbWaitQ mgntQueue).length ≠ 0 then
    s'.enqueue mgntQueue skb
  else s'.xmit mgntQueue skb (rtl8192HardStartXmit mgntQueue off (s.ring mgntQueue) skb)

def rtllibSoftmacXmit (s : State) (q : Queue) (off : Bool) (len : Nat) : State :=
  let skb : Skb := ⟨s.submitted q, len⟩
  let queueLen := (s.skbWaitQ q).length
  let s' := s.submit q
  if queueLen ≠ 0 ∨ ¬ checkNicEnoughDesc (s.ring q) then
    if queueLen < 200 then s'.enqueue q skb else s'
  else s'.xmit q skb (rtl8192HardDataXmit q off (s.ring q) skb)

/-! ## Completion -/

/-- The hardware completes its next frame and raises the interrupt. -/
def State.complete (s : State) (q : Queue) : State :=
  if ((s.ring q).desc (s.hw q)).own then
    let r := Tx.complete (s.ring q) (s.hw q)
    { s with
      ring := Function.update s.ring q r.1
      hw := Function.update s.hw q r.2
      intr := Function.update s.intr q true }
  else s

/-- The interrupt handler finds the interrupt of the ring. -/
def State.txIsr (s : State) (q : Queue) : State :=
  if s.intr q then
    let r := rtl8192TxIsr q (s.ring q)
    { s with
      ring := Function.update s.ring q (r.ring (s.ring q))
      intr := Function.update s.intr q false
      scheduled := s.scheduled || r.schedule }
  else s

/-- `queue_index++` in `rtl8192_tx_resume` -/
def nextQueue (q : Queue) : Tasklet :=
  if q + 1 < txcmdQueue then .at (q + 1) else .idle

def irqTxTasklet (s : State) (off : Bool) : State :=
  match s.tasklet with
  | .idle => if s.scheduled then { s with scheduled := false, tasklet := .at bkQueue } else s
  | .at q =>
    match s.skbWaitQ q with
    | [] => { s with tasklet := nextQueue q }
    | skb :: rest =>
      if checkNicEnoughDesc (s.ring q) then
        { s with skbWaitQ := Function.update s.skbWaitQ q rest, tasklet := .hold q skb }
      else { s with tasklet := nextQueue q }
  | .hold q skb =>
    { s.xmit q skb (rtl8192HardDataXmit q off (s.ring q) skb) with tasklet := .at q }

/-! ## Steps -/

inductive Event
  | mgmtXmit (off : Bool) (len : Nat)
  | dataXmit (qosActived : Bool) (priority : Nat) (off : Bool) (len : Nat)
  | complete (q : Queue)
  | txIsr (q : Queue)
  | tasklet (off : Bool)
  deriving DecidableEq, Repr

def step (s : State) : Event → State
  | .mgmtXmit off len => softmacMgmtXmit s off len
  | .dataXmit qosActived priority off len =>
    rtllibSoftmacXmit s (queueIndex qosActived priority) off len
  | .complete q => s.complete q
  | .txIsr q => s.txIsr q
  | .tasklet off => irqTxTasklet s off

/-- The steps that are due without a transmission: a completion that is outstanding, a pending
interrupt, and the tasklet when it is scheduled or running. -/
def Due (s : State) : Event → Prop
  | .mgmtXmit _ _ => False
  | .dataXmit _ _ _ _ => False
  | .complete q => ((s.ring q).desc (s.hw q)).own = true
  | .txIsr q => s.intr q = true
  | .tasklet _ => s.scheduled = true ∨ s.tasklet ≠ .idle

end Rtl8190.Tx
