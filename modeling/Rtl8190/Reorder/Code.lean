import Rtl8190.Lib.Circular

/-!
# The receive reorder buffer

`AddReorderEntry` and `RxReorderIndicatePacket` of `rtllib_rx.c`; `RxPktPendingTimeout`,
`ResetRxTsEntry` and the receive half of `RemoveTsEntry` of `rtl819x_TSProc.c`.

The functions treat a packet (`struct rtllib_rxb *`) as an opaque value of a type `ρ`. They only
pass it to `rtllib_indicate_packets` or free it, so each of them returns the packets it indicated,
in order, and the packets it freed.
-/

namespace Rtl8190.Reorder

variable {ρ : Type}

/-- `REORDER_WIN_SIZE`, the length of the two indication arrays. -/
def reorderWinSize : Nat := 128

def reorderEntryNum : Nat := 128

/-- `SN_LESS(a, b)`: bit 11 of the difference, which C computes in an `int`. -/
def snLess (a b : Nat) : Bool :=
  (BitVec.ofNat 32 a - BitVec.ofNat 32 b) &&& 0x800#32 != 0#32

/-- A `RX_REORDER_ENTRY` in use. `entry` is its index in `ieee->RxReorderEntry`. Its packet is never
NULL, since the one function that fills the entry dereferences the packet. -/
structure RxReorderEntry (ρ : Type) where
  entry : Nat
  seqNum : Nat
  prxb : ρ
  deriving DecidableEq, Repr

/-- What reordering uses of a `RX_TS_RECORD`. -/
structure RxTsRecord (ρ : Type) where
  rxIndicateSeq : Nat
  rxTimeoutIndicateSeq : Nat
  /-- From `RxPendingPktList.next` to `RxPendingPktList.prev`: the latest packet comes first. -/
  rxPendingPktList : List (RxReorderEntry ρ)
  rxPktPendingTimer : Bool
  deriving DecidableEq, Repr

/-- `ResetRxTsEntry`. It touches neither the list nor the timer. -/
def resetRxTsEntry (pTS : RxTsRecord ρ) : RxTsRecord ρ :=
  { pTS with rxIndicateSeq := 0xffff, rxTimeoutIndicateSeq := 0xffff }

/-- The stream record that `ResetRxTsEntry` leaves when nothing is pending. -/
def freshRxTs : RxTsRecord ρ :=
  resetRxTsEntry ⟨0, 0, [], false⟩

/-- The state after a call, and what the call did with packets. -/
structure Result (ρ : Type) where
  pTS : RxTsRecord ρ
  rxReorderUnusedList : List Nat
  indicated : List ρ
  freed : List ρ
  deriving DecidableEq, Repr

/-! ## Insertion -/

/-- `AddReorderEntry`: `none` when the sequence number is already pending. -/
def addReorderEntry (pReorderEntry : RxReorderEntry ρ) :
    List (RxReorderEntry ρ) → Option (List (RxReorderEntry ρ))
  | [] => some [pReorderEntry]
  | next :: rest =>
    if snLess pReorderEntry.seqNum next.seqNum then
      (addReorderEntry pReorderEntry rest).map (next :: ·)
    else if pReorderEntry.seqNum = next.seqNum then none
    else some (pReorderEntry :: next :: rest)

structure Buffered (ρ : Type) where
  rxPendingPktList : List (RxReorderEntry ρ)
  rxReorderUnusedList : List Nat
  freed : List ρ

/-- The branch that inserts the current packet into the pending list. The packet is freed when it
is a duplicate or when the pool is empty. -/
def bufferPacket (rxReorderUnusedList : List Nat) (prxb : ρ) (seqNum : Nat)
    (rxPendingPktList : List (RxReorderEntry ρ)) : Buffered ρ :=
  match rxReorderUnusedList with
  | [] => ⟨rxPendingPktList, [], [prxb]⟩
  | entry :: unused =>
    match addReorderEntry ⟨entry, seqNum, prxb⟩ rxPendingPktList with
    | none => ⟨rxPendingPktList, unused ++ [entry], [prxb]⟩
    | some pending => ⟨pending, unused, []⟩

/-! ## Release -/

/-- The local variables of a release loop when it ends. `pending` starts at the tail of the list,
where the loop takes its entries from, and `array` is the filled part of the indication array. -/
structure Release (ρ : Type) where
  rxIndicateSeq : Nat
  array : List ρ
  rxReorderUnusedList : List Nat
  pending : List (RxReorderEntry ρ)
  bPktInBuf : Bool

/-- The test that both loops make on the entry at the tail. -/
def releasable (pReorderEntry : RxReorderEntry ρ) (rxIndicateSeq : Nat) : Bool :=
  snLess pReorderEntry.seqNum rxIndicateSeq || pReorderEntry.seqNum == rxIndicateSeq

/-- `RxIndicateSeq` after the entry is taken off the list. -/
def nextIndicateSeq (pReorderEntry : RxReorderEntry ρ) (rxIndicateSeq : Nat) : Nat :=
  if pReorderEntry.seqNum = rxIndicateSeq then (rxIndicateSeq + 1) % 4096 else rxIndicateSeq

def indicateLoop (rxIndicateSeq : Nat) (array : List ρ) (unused : List Nat) :
    List (RxReorderEntry ρ) → Release ρ
  | [] => ⟨rxIndicateSeq, array, unused, [], false⟩
  | prev :: rest =>
    if releasable prev rxIndicateSeq then
      -- This protects the array from overflow.
      if array.length ≥ reorderWinSize then ⟨rxIndicateSeq, array, unused, prev :: rest, true⟩
      else
        indicateLoop (nextIndicateSeq prev rxIndicateSeq) (array ++ [prev.prxb])
          (unused ++ [prev.entry]) rest
    else ⟨rxIndicateSeq, array, unused, prev :: rest, true⟩

/-- The loop of `RxPktPendingTimeout`: its first entry moves `RxIndicateSeq`, and it does not test
for overflow. -/
def timeoutLoop (rxIndicateSeq : Nat) (array : List ρ) (unused : List Nat) :
    List (RxReorderEntry ρ) → Release ρ
  | [] => ⟨rxIndicateSeq, array, unused, [], false⟩
  | prev :: rest =>
    let rxIndicateSeq := if array.length = 0 then prev.seqNum else rxIndicateSeq
    if releasable prev rxIndicateSeq then
      timeoutLoop (nextIndicateSeq prev rxIndicateSeq) (array ++ [prev.prxb])
        (unused ++ [prev.entry]) rest
    else ⟨rxIndicateSeq, array, unused, prev :: rest, true⟩

/-- The end of both functions: indicate the array and handle the pending timer. In
`RxPktPendingTimeout` the timer has just fired, so there is none to delete. -/
def indicateAndArm (pTS : RxTsRecord ρ) (r : Release ρ) (freed : List ρ) : Result ρ :=
  let pTS := { pTS with rxIndicateSeq := r.rxIndicateSeq, rxPendingPktList := r.pending.reverse }
  if 0 < r.array.length then
    let pTS := { pTS with rxPktPendingTimer := false, rxTimeoutIndicateSeq := 0xffff }
    if r.array.length > reorderWinSize then ⟨pTS, r.rxReorderUnusedList, [], freed⟩
    -- `bPktInBuf = false` follows the indication, so the timer stays off here.
    else ⟨pTS, r.rxReorderUnusedList, r.array, freed⟩
  else if r.bPktInBuf ∧ pTS.rxTimeoutIndicateSeq = 0xffff then
    ⟨{ pTS with rxTimeoutIndicateSeq := pTS.rxIndicateSeq, rxPktPendingTimer := true },
      r.rxReorderUnusedList, [], freed⟩
  else ⟨pTS, r.rxReorderUnusedList, [], freed⟩

/-! ## The entry points -/

/-- `WinEnd`. C computes `RxIndicateSeq + WinSize - 1` in an `int` and stores the remainder in a
`u16`. -/
def winEnd (rxIndicateSeq winSize : Nat) : Nat :=
  ((((rxIndicateSeq + winSize : Nat) : Int) - 1).tmod 4096 % 65536).toNat

/-- `RxIndicateSeq` after a window shift. -/
def shiftedStart (winSize seqNum : Nat) : Nat :=
  if seqNum ≥ winSize - 1 then seqNum + 1 - winSize else 4095 - (winSize - (seqNum + 1)) + 1

def rxReorderIndicatePacket (winSize : Nat) (unused : List Nat) (prxb : ρ) (pTS : RxTsRecord ρ)
    (seqNum : Nat) : Result ρ :=
  let winEnd := winEnd pTS.rxIndicateSeq winSize
  let rxIndicateSeq := if pTS.rxIndicateSeq = 0xffff then seqNum else pTS.rxIndicateSeq
  if snLess seqNum rxIndicateSeq then
    ⟨{ pTS with rxIndicateSeq }, unused, [], [prxb]⟩
  else if seqNum = rxIndicateSeq then
    indicateAndArm pTS
      (indicateLoop ((rxIndicateSeq + 1) % 4096) [prxb] unused pTS.rxPendingPktList.reverse) []
  else
    let rxIndicateSeq :=
      if snLess winEnd seqNum then shiftedStart winSize seqNum else rxIndicateSeq
    let b := bufferPacket unused prxb seqNum pTS.rxPendingPktList
    indicateAndArm pTS
      (indicateLoop rxIndicateSeq [] b.rxReorderUnusedList b.rxPendingPktList.reverse) b.freed

/-- `RxPktPendingTimeout`. The timer is no longer pending when its handler runs. -/
def rxPktPendingTimeout (unused : List Nat) (pTS : RxTsRecord ρ) : Result ρ :=
  let pTS := { pTS with rxPktPendingTimer := false }
  if pTS.rxTimeoutIndicateSeq ≠ 0xffff then
    indicateAndArm pTS
      (timeoutLoop pTS.rxIndicateSeq [] unused pTS.rxPendingPktList.reverse) []
  else ⟨pTS, unused, [], []⟩

/-- `RemoveTsEntry` in the direction `RX_DIR`: every pending packet is freed, from the tail. -/
def removeTsEntry (unused : List Nat) (pTS : RxTsRecord ρ) : Result ρ :=
  let taken := pTS.rxPendingPktList.reverse
  ⟨{ pTS with rxPktPendingTimer := false, rxPendingPktList := [] },
    unused ++ taken.map (·.entry), [], taken.map (·.prxb)⟩

/-! ## One stream -/

/-- What happens to one stream. The pool is shared with the other streams, so an event brings the
unused list that the call finds. -/
inductive Event (ρ : Type) where
  | packet (prxb : ρ) (seqNum : Nat) (unused : List Nat)
  | timeout (unused : List Nat)

/-- `SeqNum` is the 12-bit field of the header. -/
def Event.Valid : Event ρ → Prop
  | .packet _ seqNum _ => seqNum < 4096
  | .timeout _ => True

end Rtl8190.Reorder
