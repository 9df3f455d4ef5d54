import Rtl8190.Lib.LinkedList
import Rtl8190.Types

/-!
# Traffic streams

`TSInitialize`, `SearchAdmitTRStream`, `GetTs`, `RemovePeerTS` and `RemoveAllTS` of
`rtl819x_TSProc.c`. The transmit and the receive records live in two heaps of their own: three list
heads and `TOTAL_TS_NUM` records each. A function that walks a list returns `none` when the walk
does not end.
-/

open Rtl8190.LinkedList Function

namespace Rtl8190.TrafficStream

abbrev totalTsNum : Nat := 16

abbrev Record := Fin totalTsNum

inductive TsHead where
  | unused
  | pending
  | admitList
  deriving DecidableEq, Repr

abbrev Node := TsHead ⊕ Record

inductive Direction where
  | up
  | down
  | direct
  | biDir
  deriving DecidableEq, Repr

/-- What the functions use of `TS_COMMON_INFO`. -/
structure TsCommonInfo where
  addr : Addr
  ucTsid : Nat
  ucDirection : Direction
  deriving DecidableEq

def resetTsCommonInfo : TsCommonInfo := ⟨fun _ => 0, 0, .up⟩

structure TsLists where
  heap : Heap Node
  info : Record → TsCommonInfo

abbrev Device := TrSelect → TsLists

/-! ## Initialisation -/

def initHeads (h : Heap Node) : Heap Node :=
  initListHead (initListHead (initListHead h (.inl .admitList)) (.inl .pending)) (.inl .unused)

def addUnused (s : TsLists) (pTS : Record) : TsLists :=
  { s with heap := listAddTail s.heap (.inr pTS) (.inl .unused) }

def initRecord (s : TsLists) (pTS : Record) : TsLists :=
  ⟨initListHead s.heap (.inr pTS), update s.info pTS resetTsCommonInfo⟩

/-- One turn of the first loop. `pRxTS` still points to the first receive record. -/
def initLoop1 (ieee : Device) (count : Record) : Device
  | .txDir => addUnused (initRecord (ieee .txDir) count) count
  | .rxDir => addUnused (ieee .rxDir) 0

/-- One turn of the second loop, before 4.15. -/
def initLoop2 (ieee : Device) (count : Record) : Device
  | .txDir => ieee .txDir
  | .rxDir => addUnused (initRecord (ieee .rxDir) count) count

/-- The three heads of each direction, and the first loop. -/
def initTx (ieee : Device) : Device :=
  let ieee : Device := fun dir => { ieee dir with heap := initHeads (ieee dir).heap }
  (List.finRange totalTsNum).foldl initLoop1 ieee

/-- What `LINUX_VERSION_CODE` selects: `_setup_timer`, or `timer_setup` from 4.15 on. -/
inductive KernelVersion where
  | before415
  | from415
  deriving DecidableEq, Repr

/-- A pointer of a list that a timer can lie over: the number, the null or the function that was
written there is no node of any list. -/
inductive Ptr where
  | node (n : Node)
  | wild
  deriving DecidableEq

def Ptr.toNode : Ptr → Option Node
  | .node n => some n
  | .wild => none

def Ptr.ofNodes (h : Heap Node) : Heap Ptr where
  next p := (p.toNode.map fun n => .node (h.next n)).getD .wild
  prev p := (p.toNode.map fun n => .node (h.prev n)).getD .wild

def allNodes : List Node :=
  [.inl .unused, .inl .pending, .inl .admitList] ++ (List.finRange totalTsNum).map .inr

/-- The lists again, when all pointers lead to nodes. -/
def Ptr.nodes (h : Heap Ptr) : Option (Heap Node) :=
  if ∀ n ∈ allNodes, h.next (.node n) ≠ .wild ∧ h.prev (.node n) ≠ .wild then
    some ⟨fun n => (h.next (.node n)).toNode.getD n, fun n => (h.prev (.node n)).toNode.getD n⟩
  else none

/-- `timer_setup(&pTxTS->TsCommonInfo.SetupTimer, ...)` of the second loop, where `pTxTS` is behind the
last transmit record, at `Rx_TS_Admit_List`. The null of `entry.pprev` goes to `Rx_TS_Pending_List`, the
address of the function to `Rx_TS_Unused_List`, and the flags to the first receive record. `InactTimer`
lies over the timers of that record. -/
def timerSetupBehind (h : Heap Ptr) : Heap Ptr where
  next := update h.next (.node (.inr 0)) .wild
  prev := update (update h.prev (.node (.inl .pending)) .wild) (.node (.inl .unused)) .wild

/-- `list_add_tail(&pRxTS->TsCommonInfo.List, &ieee->Rx_TS_Unused_List)`; there is no writing to the
code of a function. -/
def addUnusedPtr (h : Heap Ptr) (pRxTS : Record) : Option (Heap Ptr) :=
  match h.prev (.node (.inl .unused)) with
  | .node _ => some (listAddTail h (.node (.inr pRxTS)) (.node (.inl .unused)))
  | .wild => none

/-- One turn of the second loop, from 4.15 on. -/
def initLoop2From415 (s : Heap Ptr × (Record → TsCommonInfo)) (count : Record) :
    Option (Heap Ptr × (Record → TsCommonInfo)) := do
  let h := initListHead (timerSetupBehind s.1) (.node (.inr count))
  let h ← addUnusedPtr h count
  pure (h, update s.2 count resetTsCommonInfo)

/-- `TSInitialize`, without the reorder pool. `none` is a call that does not return. -/
def tsInitialize (version : KernelVersion) (ieee : Device) : Option Device :=
  let ieee := initTx ieee
  match version with
  | .before415 => some ((List.finRange totalTsNum).foldl initLoop2 ieee)
  | .from415 => do
    let rx := ieee .rxDir
    let (h, info) ← (List.finRange totalTsNum).foldlM initLoop2From415 (Ptr.ofNodes rx.heap, rx.info)
    let heap ← Ptr.nodes h
    pure (update ieee .rxDir ⟨heap, info⟩)

/-! ## Search -/

def searchDir (iwMode : IwMode) (txRxSelect : TrSelect) (dir : Direction) : Bool :=
  match iwMode, txRxSelect with
  | .master, .txDir => dir = .down ∨ dir = .biDir
  | .master, .rxDir => dir = .up ∨ dir = .biDir
  | .adhoc, .txDir => dir = .up
  | .adhoc, .rxDir => dir = .down
  | _, .txDir => dir = .up ∨ dir = .biDir ∨ dir = .direct
  | _, .rxDir => dir = .down ∨ dir = .biDir ∨ dir = .direct

/-- The three comparisons of the inner loop. -/
def matchesTs (s : TsLists) (addr : Addr) (tid : Nat) (dir : Direction) : Node → Bool
  | .inr pRet =>
    (s.info pRet).addr = addr ∧ (s.info pRet).ucTsid = tid ∧ (s.info pRet).ucDirection = dir
  | .inl _ => false

def searchLoop (iwMode : IwMode) (s : TsLists) (addr : Addr) (tid : Nat) (txRxSelect : TrSelect) :
    List Direction → Option (Option Node)
  | [] => some none
  | dir :: dirs =>
    if searchDir iwMode txRxSelect dir then
      match findEntry s.heap (.inl .admitList) (matchesTs s addr tid dir) totalTsNum
          (s.heap.next (.inl .admitList)) with
      | none => none
      | some (some pRet) => some (some pRet)
      | some none => searchLoop iwMode s addr tid txRxSelect dirs
    else searchLoop iwMode s addr tid txRxSelect dirs

def searchAdmitTrStream (iwMode : IwMode) (s : TsLists) (addr : Addr) (tid : Nat)
    (txRxSelect : TrSelect) : Option (Option Node) :=
  searchLoop iwMode s addr tid txRxSelect [.up, .down, .direct, .biDir]

/-! ## Get and remove -/

def mappedUp (qosSupported : Bool) (tid : Nat) : Option Nat :=
  if qosSupported = false then some 0
  else if tid ≤ 7 then
    some (match tid with
      | 0 | 3 => 0
      | 1 | 2 => 2
      | 4 | 5 => 5
      | _ => 7)
  else none

def newDirection (iwMode : IwMode) (txRxSelect : TrSelect) : Direction :=
  match iwMode, txRxSelect with
  | .master, .txDir => .down
  | .master, .rxDir => .up
  | _, .txDir => .up
  | _, .rxDir => .down

/-- The part of `GetTs` that admits a new stream. -/
def addNewTs (iwMode : IwMode) (s : TsLists) (addr : Addr) (up : Nat) (txRxSelect : TrSelect) :
    Option (Option Node × TsLists) :=
  if listEmpty s.heap (.inl .unused) then some (none, s)
  else
    match s.heap.next (.inl .unused) with
    | .inr pTS =>
      let heap := listDelInit s.heap (.inr pTS)
      let info := update s.info pTS ⟨addr, up, newDirection iwMode txRxSelect⟩
      some (some (.inr pTS), ⟨listAddTail heap (.inr pTS) (.inl .admitList), info⟩)
    | .inl _ => none

/-- `GetTs` on the lists of its direction: the record it found or admitted, and the lists. -/
def getTs (iwMode : IwMode) (qosSupported : Bool) (s : TsLists) (addr : Addr) (tid : Nat)
    (txRxSelect : TrSelect) (bAddNewTs : Bool) : Option (Option Node × TsLists) :=
  if Addr.isMulticast addr then some (none, s)
  else
    match mappedUp qosSupported tid with
    | none => some (none, s)
    | some up =>
      match searchAdmitTrStream iwMode s addr up txRxSelect with
      | none => none
      | some (some pTS) => some (some pTS, s)
      | some none =>
        if bAddNewTs = false then some (none, s) else addNewTs iwMode s addr up txRxSelect

/-- The body of the removal loops. `RemoveTsEntry` touches neither the lists nor the address. -/
def removeEntry (takes : TsCommonInfo → Bool) (s : TsLists) : Node → TsLists
  | .inr pTS =>
    if takes (s.info pTS) then addUnused { s with heap := listDelInit s.heap (.inr pTS) } pTS else s
  | .inl _ => s

def removeFrom (head : TsHead) (takes : TsCommonInfo → Bool) (s : TsLists) : Option TsLists :=
  let pTS := s.heap.next (.inl head)
  forEachSafe (·.heap) (.inl head) (removeEntry takes) totalTsNum s pTS (s.heap.next pTS)

def removeTs (takes : TsCommonInfo → Bool) (s : TsLists) : Option TsLists :=
  (removeFrom .pending takes s).bind (removeFrom .admitList takes)

def removePeerTs (addr : Addr) (s : TsLists) : Option TsLists := removeTs (fun info => info.addr = addr) s

def removeAllTs (s : TsLists) : Option TsLists := removeTs (fun _ => true) s

/-! ## Runs -/

inductive Op where
  | getTs (qosSupported : Bool) (addr : Addr) (tid : Nat) (txRxSelect : TrSelect) (bAddNewTs : Bool)
  | removePeerTs (addr : Addr)
  | removeAllTs

def Op.apply (iwMode : IwMode) (dir : TrSelect) (s : TsLists) : Op → Option TsLists
  | .getTs qosSupported addr tid txRxSelect bAddNewTs =>
    if txRxSelect = dir then
      (TrafficStream.getTs iwMode qosSupported s addr tid dir bAddNewTs).map (·.2)
    else some s
  | .removePeerTs addr => TrafficStream.removePeerTs addr s
  | .removeAllTs => TrafficStream.removeAllTs s

/-- `none` is a call that never returned. -/
def step (iwMode : IwMode) (ieee : Option Device) (op : Op) : Option Device := do
  let ieee ← ieee
  let tx ← op.apply iwMode .txDir (ieee .txDir)
  let rx ← op.apply iwMode .rxDir (ieee .rxDir)
  pure fun
    | .txDir => tx
    | .rxDir => rx

end Rtl8190.TrafficStream
