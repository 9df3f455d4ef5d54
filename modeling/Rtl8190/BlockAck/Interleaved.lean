import Rtl8190.BlockAck.Negotiation

/-!
# The stream under handlers that interleave

The transmit path holds `ieee->lock`, the two receive handlers run in the tasklet, and each timer's
handler runs by itself. No lock keeps one of these five apart from another: between any two accesses
to the stream the others may come. `del_timer_sync` alone waits, for the handler of its timer. A
handler that nothing comes between is the whole handler of `Process` (`tx_alone` to `delba_alone`).
-/

open Rtl8190.Memory Rtl8190.Run Rtl8190.BlockAck.Negotiation

namespace Rtl8190.BlockAck.Interleaved

/-! ## Where a handler is -/

/-- The transmit path in `rtllib_tx_query_agg_cap` and `TsStartAddBaProcess`. Each case names the next
access. -/
inductive TxPc where
  | idle
  /-- reads `bDisable_AddBa` -/
  | disabled
  /-- reads `bAddBaReqInProgress` -/
  | inProgress
  /-- sets `bAddBaReqInProgress` -/
  | set
  /-- `mod_timer` of `TsAddBaTimer` -/
  | arm
  deriving DecidableEq, Repr

/-- `TsAddBaProcess`, that is `TsInitAddBA` on the pending record -/
inductive StartPc where
  | idle
  /-- reads `bValid` -/
  | valid
  /-- clears `bValid` -/
  | deactivate
  /-- `del_timer_sync` -/
  | delete
  /-- fills the record -/
  | fill
  /-- sets `bValid` -/
  | activate
  /-- `mod_timer` -/
  | arm
  deriving DecidableEq, Repr

/-- `BaSetupTimeOut` -/
inductive SetupPc where
  | idle
  /-- clears `bAddBaReqInProgress` -/
  | inProgress
  /-- sets `bAddBaReqDelayed` -/
  | delayed
  /-- clears `bValid` of the pending record -/
  | pending
  deriving DecidableEq, Repr

/-- `TxTsDeleteBA`: it reads `bValid`, clears it, and deletes the timer, of the one record and then of
the other. -/
inductive DeletePc where
  | pending
  | pendingValid
  | pendingTimer
  | admitted
  | admittedValid
  | admittedTimer
  deriving DecidableEq, Repr

/-- `TxBaInactTimeout` -/
inductive InactPc where
  | idle
  | delete (pc : DeletePc)
  deriving DecidableEq, Repr

/-- The tasklet in `rtllib_rx_ADDBARsp` or `rtllib_rx_DELBA`, once `GetTs` has found the stream -/
inductive RxPc where
  | idle
  /-- clears `bAddBaReqInProgress` -/
  | rspInProgress (a : Action)
  /-- reads `bValid` of the admitted record -/
  | rspAdmitted (a : Action)
  /-- reads `bValid` of the pending record -/
  | rspPending (a : Action)
  /-- reads `DialogToken` of the pending record -/
  | rspToken (a : Action)
  /-- clears `bValid` of the pending record -/
  | rspPendingValid (a : Action)
  /-- `del_timer_sync` of the pending record -/
  | rspPendingTimer (a : Action)
  /-- sets `bAddBaReqDelayed` -/
  | rspDelayed (a : Action)
  /-- sets `bDisable_AddBa` -/
  | rspDisable
  /-- fills the admitted record -/
  | rspFill (a : Action)
  /-- clears `bValid` of the admitted record -/
  | rspAdmittedValid (a : Action)
  /-- `del_timer_sync` of the admitted record -/
  | rspAdmittedTimer (a : Action)
  /-- sets `bValid` of the admitted record -/
  | rspActivate (a : Action)
  /-- `mod_timer` of the admitted record -/
  | rspArm (a : Action)
  /-- clears `bUsingBa` -/
  | delbaUsingBa
  /-- clears `bAddBaReqInProgress` -/
  | delbaInProgress
  /-- clears `bAddBaReqDelayed` -/
  | delbaDelayed
  /-- `del_timer_sync` of `TsAddBaTimer` -/
  | delbaTimer
  | delete (pc : DeletePc)

structure State where
  pTxTs : TxTs
  tx : TxPc
  start : StartPc
  setup : SetupPc
  inact : InactPc
  rx : RxPc

structure State.AtRest (s : State) : Prop where
  tx : s.tx = .idle
  start : s.start = .idle
  setup : s.setup = .idle
  inact : s.inact = .idle
  rx : s.rx = .idle

/-- A stream on which no handler works. -/
def resting (pTxTs : TxTs) : State := ⟨pTxTs, .idle, .idle, .idle, .idle, .idle⟩

def State.added (ucTsid : BitVec 4) : State := resting (TxTs.added ucTsid)

/-! ## One access -/

/-- `rtllib_tx_query_agg_cap` up to its test of the admitted record. Where there is an agreement it
goes on with `bUsingBa` alone. -/
def rtllibTxQueryAggCap (env : AggCapEnv) (s : State) : State :=
  if env.returnsEarly then s
  else if s.pTxTs.txAdmittedBaRecord.bValid = false then
    if env.wpaIeLen ≠ 0 ∧ env.pairwiseKeyTypeNa = true then s
    else if env.bdhcp then s
    else { s with tx := .disabled }
  else if s.pTxTs.bUsingBa = false ∧ s.pTxTs.startReached = true then
    { s with pTxTs.bUsingBa := true }
  else s

def txStep (s : State) : State :=
  match s.tx with
  | .idle => s
  | .disabled => { s with tx := if s.pTxTs.bDisableAddBa then .idle else .inProgress }
  | .inProgress => { s with tx := if s.pTxTs.bAddBaReqInProgress then .idle else .set }
  | .set => { s with pTxTs.bAddBaReqInProgress := true, tx := .arm }
  | .arm => { s with pTxTs.tsAddBaTimer := true, tx := .idle }

/-- Its timer fires, or `TsAddBaProcess` goes on. -/
def startStep (s : State) : State :=
  match s.start with
  | .idle =>
    if s.pTxTs.tsAddBaTimer then { s with pTxTs.tsAddBaTimer := false, start := .valid } else s
  | .valid => { s with start := if s.pTxTs.txPendingBaRecord.bValid then .idle else .deactivate }
  | .deactivate => { s with pTxTs.txPendingBaRecord.bValid := false, start := .delete }
  | .delete =>
    if s.setup = .idle then { s with pTxTs.txPendingBaRecord.timer := false, start := .fill } else s
  | .fill =>
    let pBA := initPending s.pTxTs baPolicyImmediate
    { s with
      pTxTs.txPendingBaRecord := { pBA with
        bValid := s.pTxTs.txPendingBaRecord.bValid
        timer := s.pTxTs.txPendingBaRecord.timer }
      start := .activate }
  | .activate => { s with pTxTs.txPendingBaRecord.bValid := true, start := .arm }
  | .arm => { s with pTxTs.txPendingBaRecord.timer := true, start := .idle }

/-- Its timer fires, or `BaSetupTimeOut` goes on. -/
def setupStep (s : State) : State :=
  match s.setup with
  | .idle =>
    if s.pTxTs.txPendingBaRecord.timer then
      { s with pTxTs.txPendingBaRecord.timer := false, setup := .inProgress }
    else s
  | .inProgress => { s with pTxTs.bAddBaReqInProgress := false, setup := .delayed }
  | .delayed => { s with pTxTs.bAddBaReqDelayed := true, setup := .pending }
  | .pending => { s with pTxTs.txPendingBaRecord.bValid := false, setup := .idle }

/-- One access of `TxTsDeleteBA`, and what comes next. `setupIdle` and `inactIdle` say whether
`del_timer_sync` has to wait. -/
def deleteStep (setupIdle inactIdle : Bool) (pTxTs : TxTs) : DeletePc → TxTs × Option DeletePc
  | .pending => (pTxTs, if pTxTs.txPendingBaRecord.bValid then some .pendingValid else some .admitted)
  | .pendingValid => ({ pTxTs with txPendingBaRecord.bValid := false }, some .pendingTimer)
  | .pendingTimer =>
    if setupIdle then ({ pTxTs with txPendingBaRecord.timer := false }, some .admitted)
    else (pTxTs, some .pendingTimer)
  | .admitted => (pTxTs, if pTxTs.txAdmittedBaRecord.bValid then some .admittedValid else none)
  | .admittedValid => ({ pTxTs with txAdmittedBaRecord.bValid := false }, some .admittedTimer)
  | .admittedTimer =>
    if inactIdle then ({ pTxTs with txAdmittedBaRecord.timer := false }, none)
    else (pTxTs, some .admittedTimer)

/-- Its timer fires, or `TxBaInactTimeout` goes on. It deletes its own timer: with SMP
`del_timer_sync` then never returns and the last step does not come, without SMP it does not wait. -/
def inactStep (s : State) : State :=
  match s.inact with
  | .idle =>
    if s.pTxTs.txAdmittedBaRecord.timer then
      { s with pTxTs.txAdmittedBaRecord.timer := false, inact := .delete .pending }
    else s
  | .delete pc =>
    let r := deleteStep (decide (s.setup = .idle)) true s.pTxTs pc
    { s with pTxTs := r.1, inact := r.2.elim .idle .delete }

def dialogToken (a : Action) : Byte := a.mem (sizeofHdr3addr + 2)

def statusCode (a : Action) : BitVec 16 := (read16 a.mem (sizeofHdr3addr + 3)).val

def rspParamSet (a : Action) : BaParamSet := (read16 a.mem (sizeofHdr3addr + 5)).val

def baTimeoutVal (a : Action) : BitVec 16 := (read16 a.mem (sizeofHdr3addr + 7)).val

/-- `*pDelBaParamSet`, where `rtllib_rx_DELBA` looks for it -/
def delbaParamSet (a : Action) : DelbaParamSet :=
  (read16 a.mem ((sizeofHdr3addr + 2) * sizeofHdr3addr)).val

/-- `rtllib_rx_ADDBARsp` until it has found the stream -/
def rtllibRxAddbaRsp (a : Action) (s : State) : State :=
  if a.len < sizeofHdr3addr + 9 then s
  else if a.ieee.qosActive = false ∨ a.ieee.bCurrentHtSupport = false ∨
      a.ieee.bCurrentAmpduEnable = false then s
  else if a.finds (readAddr2 a.mem).val (BaParamSet.tid (rspParamSet a)) then
    { s with rx := .rspInProgress a }
  else s

/-- `rtllib_rx_DELBA` until it has found the stream -/
def rtllibRxDelba (a : Action) (s : State) : State :=
  if a.len < sizeofHdr3addr + 6 then s
  else if a.ieee.qosActive = false ∨ a.ieee.bCurrentHtSupport = false then s
  else if DelbaParamSet.initiator (delbaParamSet a) = 1 then s
  else if a.finds (readAddr2 a.mem).val (DelbaParamSet.tid (delbaParamSet a)) then
    { s with rx := .delbaUsingBa }
  else s

/-- What follows once the pending record is given up -/
def rspDecides (a : Action) : RxPc :=
  if statusCode a = addbaStatusSuccess then
    if BaParamSet.baPolicy (rspParamSet a) = baPolicyDelayed then .rspDelayed a else .rspFill a
  else .rspDelayed a

def rxStep (s : State) : State :=
  match s.rx with
  | .idle => s
  | .rspInProgress a => { s with pTxTs.bAddBaReqInProgress := false, rx := .rspAdmitted a }
  | .rspAdmitted a => { s with rx := if s.pTxTs.txAdmittedBaRecord.bValid then .idle else .rspPending a }
  | .rspPending a => { s with rx := if s.pTxTs.txPendingBaRecord.bValid then .rspToken a else .idle }
  | .rspToken a =>
    { s with
      rx := if dialogToken a ≠ s.pTxTs.txPendingBaRecord.dialogToken then .idle
        else .rspPendingValid a }
  | .rspPendingValid a =>
    { s with pTxTs.txPendingBaRecord.bValid := false, rx := .rspPendingTimer a }
  | .rspPendingTimer a =>
    if s.setup = .idle then
      { s with pTxTs.txPendingBaRecord.timer := false, rx := rspDecides a }
    else s
  | .rspDelayed a =>
    { s with
      pTxTs.bAddBaReqDelayed := true
      rx := if statusCode a = addbaStatusSuccess then .rspAdmittedValid a else .rspDisable }
  | .rspDisable => { s with pTxTs.bDisableAddBa := true, rx := .idle }
  | .rspFill a =>
    { s with
      pTxTs.txAdmittedBaRecord := { s.pTxTs.txAdmittedBaRecord with
        dialogToken := dialogToken a
        baTimeoutValue := baTimeoutVal a
        baStartSeqCtrl := s.pTxTs.txPendingBaRecord.baStartSeqCtrl
        baParamSet := rspParamSet a }
      rx := .rspAdmittedValid a }
  | .rspAdmittedValid a =>
    { s with pTxTs.txAdmittedBaRecord.bValid := false, rx := .rspAdmittedTimer a }
  | .rspAdmittedTimer a =>
    if s.inact = .idle then
      { s with
        pTxTs.txAdmittedBaRecord.timer := false
        -- the delayed policy ends here
        rx := if BaParamSet.baPolicy (rspParamSet a) = baPolicyDelayed then .idle else .rspActivate a }
    else s
  | .rspActivate a => { s with pTxTs.txAdmittedBaRecord.bValid := true, rx := .rspArm a }
  | .rspArm a =>
    { s with
      pTxTs.txAdmittedBaRecord.timer :=
        if baTimeoutVal a ≠ 0 then true else s.pTxTs.txAdmittedBaRecord.timer
      rx := .idle }
  | .delbaUsingBa => { s with pTxTs.bUsingBa := false, rx := .delbaInProgress }
  | .delbaInProgress => { s with pTxTs.bAddBaReqInProgress := false, rx := .delbaDelayed }
  | .delbaDelayed => { s with pTxTs.bAddBaReqDelayed := false, rx := .delbaTimer }
  | .delbaTimer =>
    if s.start = .idle then { s with pTxTs.tsAddBaTimer := false, rx := .delete .pending } else s
  | .delete pc =>
    let r := deleteStep (decide (s.setup = .idle)) (decide (s.inact = .idle)) s.pTxTs pc
    { s with pTxTs := r.1, rx := r.2.elim .idle .delete }

/-! ## Runs -/

inductive Event where
  /-- The transmit path asks what the stream may do with a frame. -/
  | txQueryAggCap (env : AggCapEnv)
  | querySeqnum
  | rxAddbaRsp (a : Action)
  | rxDelba (a : Action)
  /-- A handler makes its next access; a timer's handler begins if its timer is pending. -/
  | tx
  | start
  | setup
  | inact
  | rx

def step (s : State) : Event → State
  | .txQueryAggCap env => if s.tx = .idle then rtllibTxQueryAggCap env s else s
  | .querySeqnum => { s with pTxTs := rtllibQuerySeqnum s.pTxTs }
  | .rxAddbaRsp a =>
    match s.rx with
    | .idle => rtllibRxAddbaRsp a s
    | _ => s
  | .rxDelba a =>
    match s.rx with
    | .idle => rtllibRxDelba a s
    | _ => s
  | .tx => txStep s
  | .start => startStep s
  | .setup => setupStep s
  | .inact => inactStep s
  | .rx => rxStep s

/-! ## A handler by itself -/

@[simp] theorem resting_pTxTs (pTxTs : TxTs) : (resting pTxTs).pTxTs = pTxTs := rfl

section Alone

variable (pTxTs : TxTs)

theorem tsStart_alone : exec step { resting pTxTs with tx := .disabled } (List.replicate 4 .tx) =
    resting (if pTxTs.bDisableAddBa = false then tsStartAddBaProcess pTxTs else pTxTs) := by
  cases hdisable : pTxTs.bDisableAddBa <;> cases hprog : pTxTs.bAddBaReqInProgress
  all_goals
    simp [resting, step, txStep, hdisable, hprog, tsStartAddBaProcess]

theorem tx_alone (env : AggCapEnv) :
    exec step (resting pTxTs) (.txQueryAggCap env :: List.replicate 4 .tx) =
      resting (Negotiation.rtllibTxQueryAggCap env pTxTs) := by
  have hidle : ∀ pTxTs : TxTs, exec step (resting pTxTs) (List.replicate 4 .tx) = resting pTxTs :=
    fun _ => rfl
  rw [exec_cons]
  show exec step (rtllibTxQueryAggCap env (resting pTxTs)) (List.replicate 4 .tx) = _
  unfold rtllibTxQueryAggCap Negotiation.rtllibTxQueryAggCap
  by_cases hearly : env.returnsEarly = true
  · rw [if_pos hearly, if_pos hearly, hidle]
  rw [if_neg hearly, if_neg hearly, resting_pTxTs]
  by_cases hadm : pTxTs.txAdmittedBaRecord.bValid = false
  · rw [if_pos hadm, if_pos hadm]
    split
    · exact hidle pTxTs
    split
    · exact hidle pTxTs
    · exact tsStart_alone pTxTs
  · rw [if_neg hadm, if_neg hadm]
    simp only [resting]
    split
    · exact hidle _
    · exact hidle pTxTs

theorem start_alone (skb : Bool) (sent : List Negotiation.Sent) :
    exec step (resting pTxTs) (List.replicate 7 .start) =
      resting (Negotiation.step ⟨pTxTs, sent⟩ (.tsAddBaProcess skb)).pTxTs := by
  cases htimer : pTxTs.tsAddBaTimer <;> cases hvalid : pTxTs.txPendingBaRecord.bValid
  all_goals
    simp [resting, step, startStep, htimer, hvalid, Negotiation.step, tsAddBaProcess, tsInitAddBa,
      initPending, activateBaEntry, deActivateBaEntry, baSetupTimeout]

theorem setup_alone (sent : List Negotiation.Sent) :
    exec step (resting pTxTs) (List.replicate 4 .setup) =
      resting (Negotiation.step ⟨pTxTs, sent⟩ .baSetupTimeOut).pTxTs := by
  cases htimer : pTxTs.txPendingBaRecord.timer
  all_goals simp [resting, step, setupStep, htimer, Negotiation.step, baSetupTimeOut]

theorem rxDelete_alone :
    exec step { resting pTxTs with rx := .delete .pending } (List.replicate 6 .rx) =
      resting { pTxTs with toTxTsRecord := txTsDeleteBa pTxTs.toTxTsRecord } := by
  cases hpend : pTxTs.txPendingBaRecord.bValid <;> cases hadm : pTxTs.txAdmittedBaRecord.bValid
  all_goals
    simp [resting, step, rxStep, deleteStep, hpend, hadm, txTsDeleteBa, deActivateBaEntry]

theorem inact_alone (skb : Bool) (sent : List Negotiation.Sent) :
    exec step (resting pTxTs) (List.replicate 7 .inact) =
      resting (Negotiation.step ⟨pTxTs, sent⟩ (.txBaInactTimeout skb)).pTxTs := by
  cases htimer : pTxTs.txAdmittedBaRecord.timer <;> cases hpend : pTxTs.txPendingBaRecord.bValid <;>
    cases hadm : pTxTs.txAdmittedBaRecord.bValid
  all_goals
    simp [resting, step, inactStep, deleteStep, htimer, hpend, hadm, Negotiation.step,
      txBaInactTimeout, txTsDeleteBa, deActivateBaEntry]

theorem delbaFound_alone :
    exec step { resting pTxTs with rx := .delbaUsingBa } (List.replicate 10 .rx) =
      resting { pTxTs with toTxTsRecord := txTsDeleteBa { pTxTs.toTxTsRecord with
        bUsingBa := false
        bAddBaReqInProgress := false
        bAddBaReqDelayed := false
        tsAddBaTimer := false } } := by
  have hsplit : List.replicate 10 Event.rx = List.replicate 4 .rx ++ List.replicate 6 .rx := rfl
  rw [hsplit, exec_append]
  exact rxDelete_alone { pTxTs with
    bUsingBa := false
    bAddBaReqInProgress := false
    bAddBaReqDelayed := false
    tsAddBaTimer := false }

theorem delba_alone (a : Action) (sent : List Negotiation.Sent) :
    exec step (resting pTxTs) (.rxDelba a :: List.replicate 10 .rx) =
      resting (Negotiation.step ⟨pTxTs, sent⟩ (.rxDelba a)).pTxTs := by
  have hidle : exec step (resting pTxTs) (List.replicate 10 .rx) = resting pTxTs := rfl
  rw [exec_cons]
  show exec step (rtllibRxDelba a (resting pTxTs)) (List.replicate 10 .rx) =
    resting (rxDelba a ⟨pTxTs, sent⟩).pTxTs
  unfold rtllibRxDelba rxDelba
  have hparams : (read16 a.mem ((sizeofHdr3addr + 2) * sizeofHdr3addr)).val = delbaParamSet a := rfl
  generalize hr : (BlockAck.rtllibRxDelba a.ieee (fun _ _ => none) (a.getTs pTxTs) a.mem a.len).val = r
  simp only [BlockAck.rtllibRxDelba, bind_val, ite_val, pure_val, hparams] at hr
  by_cases hlen : a.len < sizeofHdr3addr + 6
  · rw [if_pos hlen] at hr ⊢
    subst hr
    exact hidle
  rw [if_neg hlen] at hr ⊢
  by_cases hcap : a.ieee.qosActive = false ∨ a.ieee.bCurrentHtSupport = false
  · rw [if_pos hcap] at hr ⊢
    subst hr
    exact hidle
  rw [if_neg hcap] at hr ⊢
  by_cases hinit : DelbaParamSet.initiator (delbaParamSet a) = 1
  · rw [if_pos hinit] at hr ⊢
    subst hr
    exact hidle
  rw [if_neg hinit] at hr ⊢
  by_cases hfinds : a.finds (readAddr2 a.mem).val (DelbaParamSet.tid (delbaParamSet a)) = true
  · rw [if_pos hfinds]
    simp only [Action.getTs, if_pos hfinds, pure_val] at hr
    subst hr
    exact delbaFound_alone pTxTs
  · rw [if_neg hfinds]
    simp only [Action.getTs, if_neg hfinds, pure_val] at hr
    subst hr
    exact hidle

theorem rsp_alone (a : Action) (skb : Bool) (sent : List Negotiation.Sent) :
    exec step (resting pTxTs) (.rxAddbaRsp a :: List.replicate 11 .rx) =
      resting (Negotiation.step ⟨pTxTs, sent⟩ (.rxAddbaRsp a skb)).pTxTs := by
  have hidle : exec step (resting pTxTs) (List.replicate 11 .rx) = resting pTxTs := rfl
  rw [exec_cons]
  show exec step (rtllibRxAddbaRsp a (resting pTxTs)) (List.replicate 11 .rx) =
    resting (rxAddbaRsp a skb ⟨pTxTs, sent⟩).pTxTs
  unfold rtllibRxAddbaRsp rxAddbaRsp
  have htoken : (read a.mem (sizeofHdr3addr + 2)).val = dialogToken a := rfl
  have hstatus : (read16 a.mem (sizeofHdr3addr + 3)).val = statusCode a := rfl
  have hparams : (read16 a.mem (sizeofHdr3addr + 5)).val = rspParamSet a := rfl
  have htimeout : (read16 a.mem (sizeofHdr3addr + 7)).val = baTimeoutVal a := rfl
  generalize hr : (BlockAck.rtllibRxAddbaRsp a.ieee (a.getTs pTxTs) a.mem a.len).val = r
  simp only [BlockAck.rtllibRxAddbaRsp, bind_val, ite_val, pure_val, hparams] at hr
  by_cases hlen : a.len < sizeofHdr3addr + 9
  · rw [if_pos hlen] at hr ⊢
    subst hr
    exact hidle
  rw [if_neg hlen] at hr ⊢
  by_cases hcap : a.ieee.qosActive = false ∨ a.ieee.bCurrentHtSupport = false ∨
      a.ieee.bCurrentAmpduEnable = false
  · rw [if_pos hcap] at hr ⊢
    subst hr
    rw [send_pTxTs]
    exact hidle
  rw [if_neg hcap] at hr ⊢
  by_cases hfinds : a.finds (readAddr2 a.mem).val (BaParamSet.tid (rspParamSet a)) = true
  swap
  · rw [if_neg hfinds]
    simp only [Action.getTs, if_neg hfinds, bind_val, pure_val] at hr
    subst hr
    rw [send_pTxTs]
    exact hidle
  rw [if_pos hfinds]
  simp only [Action.getTs, if_pos hfinds, ite_val, bind_val, pure_val, htoken, hstatus, htimeout] at hr
  by_cases hadm : pTxTs.txAdmittedBaRecord.bValid = true
  · rw [if_pos hadm] at hr
    subst hr
    simp [resting, step, rxStep, hadm, State.put]
  rw [if_neg hadm] at hr
  by_cases hpend : pTxTs.txPendingBaRecord.bValid = false
  · rw [if_pos (.inl hpend)] at hr
    subst hr
    simp [resting, step, rxStep, hadm, hpend, State.put]
  by_cases htoken' : dialogToken a ≠ pTxTs.txPendingBaRecord.dialogToken
  · rw [if_pos (.inr htoken')] at hr
    subst hr
    simp [resting, step, rxStep, hadm, hpend, htoken', State.put]
  rw [if_neg (not_or.mpr ⟨hpend, htoken'⟩)] at hr
  by_cases hst : statusCode a = addbaStatusSuccess
  · rw [if_pos hst] at hr
    by_cases hpol : BaParamSet.baPolicy (rspParamSet a) = baPolicyDelayed
    · rw [if_pos hpol] at hr
      subst hr
      simp [resting, step, rxStep, rspDecides, hadm, hpend, htoken', hst, hpol, State.put,
        deActivateBaEntry]
    · rw [if_neg hpol] at hr
      subst hr
      simp [resting, step, rxStep, rspDecides, hadm, hpend, htoken', hst, hpol, State.put,
        deActivateBaEntry, activateBaEntry]
  · rw [if_neg hst] at hr
    subst hr
    simp [resting, step, rxStep, rspDecides, hadm, hpend, htoken', hst, State.put, deActivateBaEntry]

end Alone
end Rtl8190.BlockAck.Interleaved
