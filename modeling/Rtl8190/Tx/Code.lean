import Mathlib.Logic.Function.Basic
import Rtl8190.Lib.Indices

/-!
# The TX rings

`rtl8192_tx`, `rtl819xE_tx_cmd`, `rtl8192_hard_data_xmit`, `rtl8192_hard_start_xmit`,
`rtl8192_tx_isr` and the TX half of `rtl8192_pci_resetdescring` (`rtl_core.c`).

A function changes one ring. It returns the ring and the frames that it gave to `kfree_skb`.
-/

namespace Rtl8190.Tx

/-! ## Queues -/

/-- An index of `priv->tx_ring` (`MAX_TX_QUEUE_COUNT` rings). -/
abbrev Queue := Fin 9

def bkQueue : Queue := 0
def beQueue : Queue := 1
def viQueue : Queue := 2
def voQueue : Queue := 3
def hccaQueue : Queue := 4
def txcmdQueue : Queue := 5
def mgntQueue : Queue := 6
def highQueue : Queue := 7
def beaconQueue : Queue := 8

/-- `ring->entries`, which is `priv->txringcount` for every ring. -/
def entries : Nat := 64

theorem entries_pos : 0 < entries := by decide

/-- `tx_headroom`, the size of `TX_FWINFO_8190PCI`. -/
def txHeadroom : Nat := 8

/-! ## Rings -/

/-- A frame. `id` stands for its address. -/
structure Skb where
  id : Nat
  len : Nat
  deriving DecidableEq, Repr

def Skb.push (skb : Skb) : Skb := { skb with len := skb.len + txHeadroom }

@[simp] theorem Skb.push_id (skb : Skb) : skb.push.id = skb.id := rfl

/-- What a ring uses of a `tx_desc`. `txBuffAddr` is the frame whose mapping was filled in. -/
structure TxDesc where
  own : Bool
  txBuffAddr : Option Nat
  deriving DecidableEq, Repr

structure TxRing where
  desc : Nat → TxDesc
  idx : Nat
  queue : List Skb

/-- The ring that `rtl8192_alloc_tx_desc_ring` leaves. -/
def allocTxDescRing : TxRing := ⟨fun _ => ⟨false, none⟩, 0, []⟩

/-- The first descriptor after those of the queued frames. -/
def TxRing.tail (ring : TxRing) : Nat := (ring.idx + ring.queue.length) % entries

/-- Fills descriptor `idx` for a frame, gives it to the hardware and queues the frame. -/
def TxRing.fill (ring : TxRing) (idx : Nat) (skb : Skb) : TxRing where
  desc := Function.update ring.desc idx ⟨true, some skb.id⟩
  idx := ring.idx
  queue := ring.queue ++ [skb]

def rtl819xETxCmd (ring : TxRing) (skb : Skb) : TxRing := ring.fill ring.tail skb

/-- `rtl8192_tx`. A frame that finds no descriptor is refused with its length, as a `short`. -/
def rtl8192Tx (queueIndex : Queue) (ring : TxRing) (skb : Skb) : TxRing × BitVec 16 :=
  let idx := if queueIndex ≠ beaconQueue then ring.tail else 0
  if (ring.desc idx).own ∧ queueIndex ≠ beaconQueue then (ring, BitVec.ofNat 16 skb.len)
  else (ring.fill idx skb, 0)

/-- The call of `rtl8192_tx` in both functions below. -/
def txOrFree (queueIndex : Queue) (ring : TxRing) (skb : Skb) : TxRing × List Skb :=
  let ret := rtl8192Tx queueIndex ring skb.push
  (ret.1, if ret.2 ≠ 0 then [skb.push] else [])

/-- `rtl8192_hard_data_xmit`. `off` is `bHwRadioOff || !up`. The assertion on the queue only
prints. -/
def rtl8192HardDataXmit (queueIndex : Queue) (off : Bool) (ring : TxRing) (skb : Skb) :
    TxRing × List Skb :=
  if off then (ring, [skb]) else txOrFree queueIndex ring skb

def rtl8192HardStartXmit (queueIndex : Queue) (off : Bool) (ring : TxRing) (skb : Skb) :
    TxRing × List Skb :=
  if queueIndex ≠ txcmdQueue ∧ off then (ring, [skb])
  else if queueIndex = txcmdQueue then (rtl819xETxCmd ring skb, [])
  else txOrFree queueIndex ring skb

/-! ## Completion -/

/-- What `rtl8192_tx_isr` leaves. `schedule` says that it scheduled `irq_tx_tasklet`. -/
structure TxIsr where
  idx : Nat
  queue : List Skb
  freed : List Skb
  schedule : Bool
  deriving DecidableEq, Repr

/-- The loop of `rtl8192_tx_isr`. A descriptor that the hardware still owns makes the function
return. -/
def txIsrLoop (prio : Queue) (desc : Nat → TxDesc) (idx : Nat) : List Skb → TxIsr
  | [] => ⟨idx, [], [], prio ≠ beaconQueue⟩
  | skb :: rest =>
    if prio ≠ beaconQueue then
      if (desc idx).own then ⟨idx, skb :: rest, [], false⟩
      else
        let r := txIsrLoop prio desc ((idx + 1) % entries) rest
        { r with freed := skb :: r.freed }
    else
      let r := txIsrLoop prio desc idx rest
      { r with freed := skb :: r.freed }

def rtl8192TxIsr (prio : Queue) (ring : TxRing) : TxIsr :=
  txIsrLoop prio ring.desc ring.idx ring.queue

def TxIsr.ring (ring : TxRing) (r : TxIsr) : TxRing := { ring with idx := r.idx, queue := r.queue }

/-- `rtl8192_pci_resetdescring` on one TX ring. It does not touch `OWN`. -/
def rtl8192PciResetdescring (ring : TxRing) : TxRing × List Skb :=
  ({ ring with idx := 0, queue := [] }, ring.queue)

/-! ## The hardware

The hardware completes the descriptors in ring order. `hw` is the next one. -/

def complete (ring : TxRing) (hw : Nat) : TxRing × Nat :=
  if (ring.desc hw).own then
    ({ ring with desc := Function.update ring.desc hw { ring.desc hw with own := false } },
      (hw + 1) % entries)
  else (ring, hw)

/-! ## Reading the operations -/

@[simp] theorem complete_idx (ring : TxRing) (hw : Nat) : (complete ring hw).1.idx = ring.idx := by
  unfold complete
  split <;> rfl

@[simp] theorem complete_queue (ring : TxRing) (hw : Nat) :
    (complete ring hw).1.queue = ring.queue := by
  unfold complete
  split <;> rfl

@[simp] theorem fill_queue (ring : TxRing) (idx : Nat) (skb : Skb) :
    (ring.fill idx skb).queue = ring.queue ++ [skb] := rfl

@[simp] theorem fill_idx (ring : TxRing) (idx : Nat) (skb : Skb) :
    (ring.fill idx skb).idx = ring.idx := rfl

theorem rtl8192Tx_of_own {q : Queue} (hq : q ≠ beaconQueue) {ring : TxRing} {skb : Skb}
    (h : (ring.desc ring.tail).own = true) :
    rtl8192Tx q ring skb = (ring, BitVec.ofNat 16 skb.len) := by
  simp [rtl8192Tx, hq, h]

theorem rtl8192Tx_of_not_own {q : Queue} (hq : q ≠ beaconQueue) {ring : TxRing} {skb : Skb}
    (h : (ring.desc ring.tail).own = false) : rtl8192Tx q ring skb = (ring.fill ring.tail skb, 0) := by
  simp [rtl8192Tx, hq, h]

theorem txOrFree_of_own {q : Queue} (hq : q ≠ beaconQueue) {ring : TxRing} {skb : Skb}
    (h : (ring.desc ring.tail).own = true) :
    txOrFree q ring skb = (ring, if BitVec.ofNat 16 skb.push.len ≠ 0 then [skb.push] else []) := by
  rw [txOrFree, rtl8192Tx_of_own hq h]

theorem txOrFree_of_not_own {q : Queue} (hq : q ≠ beaconQueue) {ring : TxRing} {skb : Skb}
    (h : (ring.desc ring.tail).own = false) :
    txOrFree q ring skb = (ring.fill ring.tail skb.push, []) := by
  rw [txOrFree, rtl8192Tx_of_not_own hq h]
  rfl

end Rtl8190.Tx
