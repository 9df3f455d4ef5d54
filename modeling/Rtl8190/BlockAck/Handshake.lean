import Rtl8190.BlockAck.Negotiation
import Rtl8190.BlockAck.RoundTrip

/-!
# Two stations that negotiate

The originator's transmit stream and the recipient's receive streams, with the frames between them as
bytes. The link may lose a frame, deliver it again and deliver it late; behind the bytes of a frame lies
whatever the buffer held. A handler of a station is one step, as in `Process`.

- `agreement`: whatever the link does, what the originator admits is what the recipient granted to one of
  its requests, and no request is admitted twice.
-/

open Rtl8190.Memory Rtl8190.Run

namespace Rtl8190.BlockAck.Handshake

open Rtl8190.BlockAck.Negotiation (Frame Action rxAddbaRsp rxDelba resetBaEntry initPending)

/-! ## The system -/

structure Stations where
  originator : Addr
  recipient : Addr
  ucTsid : BitVec 4

inductive Reply where
  | addbaRsp (pBA : BaRecord) (statusCode : BitVec 16)
  | delba (pBA : BaRecord) (reasonCode : BitVec 16)
  deriving DecidableEq

/-- A record that the originator admitted, and how many requests it had made by then. -/
structure Admission where
  number : Nat
  record : BaRecord
  deriving DecidableEq

structure State where
  orig : Negotiation.State
  /-- `RxAdmittedBARecord` of the originator's streams, by their TID -/
  recip : BitVec 4 → Option BaRecord
  replies : List Reply
  /-- The requests that the originator made, newest first -/
  made : List BaRecord
  /-- The records that the recipient granted, newest first -/
  granted : List BaRecord
  admissions : List Admission

def State.init (st : Stations) : State :=
  ⟨Negotiation.State.added st.ucTsid, fun _ => none, [], [], [], []⟩

/-- What the link and the two devices are like when a frame arrives. -/
structure Delivery where
  /-- The builder's device, but for its address -/
  sender : Device
  heap : Nat → Byte
  beyond : Nat → Byte
  receiver : Device
  /-- The uninitialised local record of the request handler -/
  stack : BaRecord
  /-- `GetTs` has room for another stream. -/
  room : Bool
  /-- There is a buffer for the answer. -/
  skb : Bool

/-- The recipient sends a frame, if there is a buffer for it. -/
def State.reply (s : State) (skb : Bool) (r : Reply) : State :=
  if skb then { s with replies := r :: s.replies } else s

/-- The originator's stream after a step, and what the step shows: a request that became pending, and a
record that became admitted. -/
def State.setOrig (s : State) (orig : Negotiation.State) : State :=
  { s with
    orig
    made :=
      if s.orig.pTxTs.txPendingBaRecord.bValid = false ∧ orig.pTxTs.txPendingBaRecord.bValid = true then
        orig.pTxTs.txPendingBaRecord :: s.made
      else s.made
    admissions :=
      if s.orig.pTxTs.txAdmittedBaRecord.bValid = false ∧ orig.pTxTs.txAdmittedBaRecord.bValid = true then
        ⟨s.made.length, orig.pTxTs.txAdmittedBaRecord⟩ :: s.admissions
      else s.admissions }

def getRxTs (st : Stations) (s : State) (bAddNewTs : Bool) (addr : Addr) (tid : BitVec 4) : Option BaRecord :=
  if addr = st.originator then
    match s.recip tid with
    | some pBA => some pBA
    | none => if bAddNewTs then some resetBaEntry else none
  else none

def Delivery.builder (d : Delivery) (addr : Addr) : Device := { d.sender with devAddr := addr }

def toRecipient (st : Stations) (d : Delivery) (s : State) : Frame → State
  | .addbaReq pBA =>
    let frame := rtllibAddbaReq (d.builder st.originator) d.heap st.recipient pBA
    match (rtllibRxAddbaReq d.receiver (getRxTs st s d.room) d.stack (place frame d.beyond)
        frame.length).val with
    | .invalidLen => s
    | .failed BA rc => s.reply d.skb (.addbaRsp BA rc)
    | .accepted _ tid pBA =>
      State.reply { s with
        recip := Function.update s.recip tid (some pBA)
        granted := pBA :: s.granted } d.skb (.addbaRsp pBA addbaStatusSuccess)
  | .delba baParamSet reasonCode =>
    let frame := rtllibDelba (d.builder st.originator) d.heap st.recipient
      { resetBaEntry with baParamSet } .txDir reasonCode
    match (rtllibRxDelba d.receiver (getRxTs st s false) (fun _ _ => none) (place frame d.beyond)
        frame.length).val with
    | .rxDeleted _ tid pBa => { s with recip := Function.update s.recip tid (some pBa) }
    | _ => s

def Reply.bytes (st : Stations) (d : Delivery) : Reply → List Byte
  | .addbaRsp pBA statusCode =>
    rtllibAddbaRsp (d.builder st.recipient) d.heap st.originator pBA statusCode
  | .delba pBA reasonCode =>
    rtllibDelba (d.builder st.recipient) d.heap st.originator pBA .rxDir reasonCode

def Reply.action (st : Stations) (d : Delivery) (r : Reply) : Action where
  ieee := d.receiver
  finds := fun addr tid => decide (addr = st.recipient ∧ tid = st.ucTsid)
  mem := place (r.bytes st d) d.beyond
  len := (r.bytes st d).length

def toOriginator (st : Stations) (d : Delivery) (s : State) (r : Reply) : State :=
  match r with
  | .addbaRsp _ _ => s.setOrig (rxAddbaRsp (r.action st d) d.skb s.orig)
  | .delba _ _ => s.setOrig (rxDelba (r.action st d) s.orig)

/-- `TsInitDelBA(.., TX_DIR)`: whichever record was valid, the frame has the parameters of the pending
one. -/
def tsInitDelBaTx (skb : Bool) (s : Negotiation.State) : Negotiation.State :=
  let pTxTs := txTsDeleteBa s.pTxTs.toTxTsRecord
  let s' := s.put pTxTs
  if s.pTxTs.txPendingBaRecord.bValid || s.pTxTs.txAdmittedBaRecord.bValid then
    s'.send skb (.delba pTxTs.txPendingBaRecord.baParamSet delbaReasonEndBa)
  else s'

/-- `TsInitDelBA(.., RX_DIR)`, and then the stream is given back or not. -/
def tsInitDelBaRx (tid : BitVec 4) (remove skb : Bool) (s : State) : State :=
  match s.recip tid with
  | none => s
  | some pBa =>
    let s' := { s with
      recip := Function.update s.recip tid (if remove then none else some (rxTsDeleteBa pBa)) }
    if pBa.bValid then s'.reply skb (.delba (rxTsDeleteBa pBa) delbaReasonEndBa) else s'

inductive Event where
  | txQueryAggCap (env : Negotiation.AggCapEnv)
  | querySeqnum
  | tsAddBaProcess (skb : Bool)
  | baSetupTimeOut
  | txBaInactTimeout (skb : Bool)
  | tsInitDelBaTx (skb : Bool)
  | tsInitDelBaRx (tid : BitVec 4) (remove skb : Bool)
  /-- Any frame that was sent may arrive at any time, and again. -/
  | toRecipient (i : Nat) (d : Delivery)
  | toOriginator (i : Nat) (d : Delivery)

def step (st : Stations) (s : State) : Event → State
  | .txQueryAggCap env => s.setOrig (Negotiation.step s.orig (.txQueryAggCap env))
  | .querySeqnum => s.setOrig (Negotiation.step s.orig .querySeqnum)
  | .tsAddBaProcess skb => s.setOrig (Negotiation.step s.orig (.tsAddBaProcess skb))
  | .baSetupTimeOut => s.setOrig (Negotiation.step s.orig .baSetupTimeOut)
  | .txBaInactTimeout skb => s.setOrig (Negotiation.step s.orig (.txBaInactTimeout skb))
  | .tsInitDelBaTx skb => s.setOrig (tsInitDelBaTx skb s.orig)
  | .tsInitDelBaRx tid remove skb => tsInitDelBaRx tid remove skb s
  | .toRecipient i d =>
    match s.orig.sent[i]? with
    | some x => toRecipient st d s x.frame
    | none => s
  | .toOriginator i d =>
    match s.replies[i]? with
    | some r => toOriginator st d s r
    | none => s

/-! ## What the recipient grants -/

/-- The record `g` was filled from the request `r`. The handler takes the starting sequence control from
behind the frame, so it is not among the fields. -/
structure Grants (r g : BaRecord) : Prop where
  valid : g.bValid = true
  dialogToken : g.dialogToken = r.dialogToken
  baParamSet : ∃ n, (n = 1 ∨ n = 32) ∧ g.baParamSet = BaParamSet.setBufferSize r.baParamSet n
  baTimeoutValue : g.baTimeoutValue = r.baTimeoutValue

theorem rxAddbaReq_cases (sender : Device) (heap beyond : Nat → Byte) (dst : Addr) (pBA : BaRecord)
    (ieee : Device) (getTs : Addr → BitVec 4 → Option BaRecord) (stack : BaRecord) :
    (∃ BA rc, rc ≠ addbaStatusSuccess ∧ (rtllibRxAddbaReq ieee getTs stack
      (place (rtllibAddbaReq sender heap dst pBA) beyond) 33).val = .failed BA rc) ∨
    ∃ g, Grants pBA g ∧ (rtllibRxAddbaReq ieee getTs stack
      (place (rtllibAddbaReq sender heap dst pBA) beyond) 33).val =
        .accepted sender.devAddr (BaParamSet.tid pBA.baParamSet) g := by
  obtain ⟨htoken, hparam, htimeout⟩ := addbaReq_fields sender heap beyond dst pBA
  have hsrc : (readAddr2 (place (rtllibAddbaReq sender heap dst pBA) beyond)).val = sender.devAddr := by
    simpa only [rtllibAddbaReq, List.append_assoc] using readAddr2_place sender heap beyond dst _
  generalize place (rtllibAddbaReq sender heap dst pBA) beyond = mem at *
  simp only [rtllibRxAddbaReq, sizeofHdr3addr, Nat.reduceAdd, Nat.reduceMul, Nat.lt_irrefl, if_false,
    bind_val, hsrc, ite_val, read16_val, hparam]
  by_cases hcap : ieee.qosActive = false ∨ ieee.bCurrentHtSupport = false ∨ ieee.rejectAddbaReq = true
  · rw [if_pos hcap]
    exact Or.inl ⟨_, _, by decide, rfl⟩
  · rw [if_neg hcap]
    cases hts : getTs sender.devAddr (BaParamSet.tid pBA.baParamSet) with
    | none => exact Or.inl ⟨_, _, by decide, rfl⟩
    | some ts =>
      simp only [ite_val]
      by_cases hpol : BaParamSet.baPolicy pBA.baParamSet = baPolicyDelayed
      · rw [if_pos hpol]
        exact Or.inl ⟨_, _, by decide, rfl⟩
      · rw [if_neg hpol]
        refine Or.inr ⟨_, ⟨rfl, htoken, ?_, htimeout⟩, rfl⟩
        refine ⟨if ieee.halfNmode ∨ ieee.allowPeerAggOnePkt then 1 else 32, ?_, rfl⟩
        split
        · exact Or.inl rfl
        · exact Or.inr rfl

/-! ## What the originator admits -/

section Replies

variable (st : Stations) (d : Delivery) (pBA : BaRecord) (statusCode : BitVec 16)

theorem addbaRsp_action :
    let a := Reply.action st d (.addbaRsp pBA statusCode)
    a.mem 26 = pBA.dialogToken ∧ a.mem 28 ++ a.mem 27 = statusCode ∧ a.mem 30 ++ a.mem 29 = pBA.baParamSet ∧
      (readAddr2 a.mem).val = st.recipient := by
  obtain ⟨htoken, hstatus, hparam, _⟩ :=
    addbaRsp_fields (d.builder st.recipient) d.heap d.beyond st.originator pBA statusCode
  refine ⟨htoken, hstatus, hparam, ?_⟩
  show (readAddr2 (place (Reply.bytes st d (.addbaRsp pBA statusCode)) d.beyond)).val =
    (d.builder st.recipient).devAddr
  simpa only [Reply.action, Reply.bytes, rtllibAddbaRsp, List.append_assoc] using
    readAddr2_place (d.builder st.recipient) d.heap d.beyond st.originator _

variable {st d pBA statusCode} {s : Negotiation.State}

theorem rxAddbaRsp_admits (skb : Bool) (h : (Reply.action st d (.addbaRsp pBA statusCode)).Admits s.pTxTs) :
    statusCode = addbaStatusSuccess ∧ pBA.dialogToken = s.pTxTs.txPendingBaRecord.dialogToken ∧
      BaParamSet.tid pBA.baParamSet = st.ucTsid ∧
      ∃ adm : BaRecord, adm.bValid = true ∧ adm.dialogToken = pBA.dialogToken ∧
        adm.baParamSet = pBA.baParamSet ∧ adm.baTimeoutValue = pBA.baTimeoutValue ∧
        adm.baStartSeqCtrl = s.pTxTs.txPendingBaRecord.baStartSeqCtrl ∧
        rxAddbaRsp (Reply.action st d (.addbaRsp pBA statusCode)) skb s =
          s.put { s.pTxTs.toTxTsRecord with
            bAddBaReqInProgress := false
            txPendingBaRecord := deActivateBaEntry s.pTxTs.txPendingBaRecord
            txAdmittedBaRecord := adm } := by
  -- What the originator makes of a reply that it admits.
  obtain ⟨htoken, hstatus, hparam, haddr⟩ := addbaRsp_action st d pBA statusCode
  have hfinds := h.finds
  rw [haddr, hparam] at hfinds
  have htid : BaParamSet.tid pBA.baParamSet = st.ucTsid := by simpa [Reply.action] using hfinds
  obtain rfl : statusCode = addbaStatusSuccess := hstatus.symm.trans h.success
  have hpending : pBA.dialogToken = s.pTxTs.txPendingBaRecord.dialogToken := htoken.symm.trans h.dialogToken
  have himmediate : BaParamSet.baPolicy pBA.baParamSet ≠ baPolicyDelayed := by
    rw [← hparam]
    exact h.immediate
  have hcap : ¬ (d.receiver.qosActive = false ∨ d.receiver.bCurrentHtSupport = false ∨
      d.receiver.bCurrentAmpduEnable = false) := by
    have hqos := h.qosActive
    have hht := h.bCurrentHtSupport
    have hampdu := h.bCurrentAmpduEnable
    simp only [Reply.action] at hqos hht hampdu
    simp [hqos, hht, hampdu]
  refine ⟨rfl, hpending, htid, activateBaEntry (deActivateBaEntry { s.pTxTs.txAdmittedBaRecord with
    dialogToken := pBA.dialogToken
    baTimeoutValue := pBA.baTimeoutValue
    baParamSet := pBA.baParamSet
    baStartSeqCtrl := s.pTxTs.txPendingBaRecord.baStartSeqCtrl }) pBA.baTimeoutValue, rfl, rfl, rfl, rfl, rfl, ?_⟩
  -- The handler's result is that of the handler given the fields.
  have hval : (rtllibRxAddbaRsp (Reply.action st d (.addbaRsp pBA addbaStatusSuccess)).ieee
      ((Reply.action st d (.addbaRsp pBA addbaStatusSuccess)).getTs s.pTxTs)
      (Reply.action st d (.addbaRsp pBA addbaStatusSuccess)).mem
      (Reply.action st d (.addbaRsp pBA addbaStatusSuccess)).len).val = _ :=
    (addbaRsp_recovered (d.builder st.recipient) d.heap d.beyond st.originator ⟨d.receiver,
      fun _ _ => none, (Reply.action st d (.addbaRsp pBA addbaStatusSuccess)).getTs s.pTxTs, resetBaEntry⟩
      pBA addbaStatusSuccess).1
  have hget : (Reply.action st d (.addbaRsp pBA addbaStatusSuccess)).getTs s.pTxTs (d.builder st.recipient).devAddr
      (BaParamSet.tid pBA.baParamSet) = some s.pTxTs.toTxTsRecord := if_pos hfinds
  unfold rxAddbaRsp
  rw [hval]
  simp only [onAddbaRsp, hcap, if_false, hget, h.notAdmitted, Bool.false_eq_true, h.pending, hpending,
    ne_eq, not_true_eq_false, if_true, himmediate]
  rfl

end Replies

/-! ## The originator's other steps -/

/-- A step that starts no request and admits nothing -/
structure Keeps (s s' : Negotiation.State) : Prop where
  pending : s'.pTxTs.txPendingBaRecord = s.pTxTs.txPendingBaRecord ∨
    s'.pTxTs.txPendingBaRecord.bValid = false ∧
      s'.pTxTs.txPendingBaRecord.dialogToken = s.pTxTs.txPendingBaRecord.dialogToken
  admitted : s'.pTxTs.txAdmittedBaRecord = s.pTxTs.txAdmittedBaRecord ∨
    s'.pTxTs.txAdmittedBaRecord.bValid = false
  sent : ∀ x ∈ s'.sent, x ∈ s.sent ∨ ∀ pBA, x.frame ≠ .addbaReq pBA

section Keeps

variable {s s' : Negotiation.State}

theorem Keeps.send (h : Keeps s s') (skb : Bool) (p : BaParamSet) (rc : BitVec 16) :
    Keeps s (s'.send skb (.delba p rc)) where
  pending := by rw [Negotiation.send_pTxTs]; exact h.pending
  admitted := by rw [Negotiation.send_pTxTs]; exact h.admitted
  sent x hx := by
    rcases Negotiation.mem_send hx with hold | rfl
    · exact h.sent x hold
    · exact Or.inr (by simp)

theorem keeps_of_notAdmitted (h : Negotiation.NotAdmitted s s') : Keeps s s' where
  pending := by
    refine h.pending.imp_right fun heq => ?_
    rw [heq]
    exact ⟨rfl, rfl⟩
  admitted := by
    refine h.admitted.imp_right fun heq => ?_
    rw [heq]
    rfl
  sent := h.sent

theorem txTsDeleteBa_keeps {p : TxTsRecord} (hpend : p.txPendingBaRecord = s.pTxTs.txPendingBaRecord) :
    Keeps s (s.put (txTsDeleteBa p)) where
  pending := by
    right
    refine ⟨Negotiation.txTsDeleteBa_pending p, ?_⟩
    show (txTsDeleteBa p).txPendingBaRecord.dialogToken = _
    simp only [txTsDeleteBa, hpend]
    split <;> rfl
  admitted := Or.inr (Negotiation.txTsDeleteBa_admitted p)
  sent _ hx := Or.inl hx

theorem keeps_txQueryAggCap (env : Negotiation.AggCapEnv) :
    Keeps s (Negotiation.step s (.txQueryAggCap env)) := by
  simp only [Negotiation.step]
  rcases Negotiation.rtllibTxQueryAggCap_cases env s.pTxTs with heq | ⟨_, heq⟩ | heq
  · rw [heq]
    exact ⟨Or.inl rfl, Or.inl rfl, fun _ hx => Or.inl hx⟩
  · rw [heq]
    rcases Negotiation.tsStartAddBaProcess_cases s.pTxTs with heq' | ⟨_, heq'⟩
    · rw [heq']
      exact ⟨Or.inl rfl, Or.inl rfl, fun _ hx => Or.inl hx⟩
    · rw [heq']
      exact ⟨Or.inl rfl, Or.inl rfl, fun _ hx => Or.inl hx⟩
  · rw [heq]
    exact ⟨Or.inl rfl, Or.inl rfl, fun _ hx => Or.inl hx⟩

theorem keeps_baSetupTimeOut : Keeps s (Negotiation.step s .baSetupTimeOut) := by
  simp only [Negotiation.step]
  split
  · exact ⟨Or.inr ⟨rfl, rfl⟩, Or.inl rfl, fun _ hx => Or.inl hx⟩
  · exact ⟨Or.inl rfl, Or.inl rfl, fun _ hx => Or.inl hx⟩

theorem keeps_txBaInactTimeout (skb : Bool) : Keeps s (Negotiation.step s (.txBaInactTimeout skb)) := by
  simp only [Negotiation.step]
  split
  · have hput : Keeps s (s.put (txTsDeleteBa { s.pTxTs.toTxTsRecord with
        txAdmittedBaRecord := { s.pTxTs.txAdmittedBaRecord with timer := false } })) :=
      txTsDeleteBa_keeps rfl
    exact hput.send skb _ _
  · exact ⟨Or.inl rfl, Or.inl rfl, fun _ hx => Or.inl hx⟩

theorem keeps_tsInitDelBaTx (skb : Bool) : Keeps s (tsInitDelBaTx skb s) := by
  have hput : Keeps s (s.put (txTsDeleteBa s.pTxTs.toTxTsRecord)) := txTsDeleteBa_keeps rfl
  simp only [tsInitDelBaTx]
  split
  · exact hput.send skb _ _
  · exact hput

theorem keeps_rxDelba (a : Action) : Keeps s (rxDelba a s) := by
  rcases Negotiation.rxDelba_cases a s with heq | heq
  · rw [heq]
    exact ⟨Or.inl rfl, Or.inl rfl, fun _ hx => Or.inl hx⟩
  · rw [heq]
    exact txTsDeleteBa_keeps rfl

theorem tsAddBaProcess_makes (skb : Bool) (s : Negotiation.State) :
    Keeps s (Negotiation.step s (.tsAddBaProcess skb)) ∨
      s.pTxTs.txPendingBaRecord.bValid = false ∧ ∃ r : BaRecord,
        r.bValid = true ∧ r.dialogToken = s.pTxTs.txPendingBaRecord.dialogToken + 1 ∧
        (Negotiation.step s (.tsAddBaProcess skb)).pTxTs.txPendingBaRecord = r ∧
        (Negotiation.step s (.tsAddBaProcess skb)).pTxTs.txAdmittedBaRecord = s.pTxTs.txAdmittedBaRecord ∧
        ∀ x ∈ (Negotiation.step s (.tsAddBaProcess skb)).sent, x ∈ s.sent ∨ x.frame = .addbaReq r := by
  -- The start timer begins a request, or finds one that is pending.
  simp only [Negotiation.step]
  by_cases htimer : s.pTxTs.tsAddBaTimer = true
  · rw [if_pos htimer]
    by_cases hpend : s.pTxTs.txPendingBaRecord.bValid = true
    · left
      have heq : Negotiation.tsAddBaProcess skb s =
          { s with pTxTs := { s.pTxTs with tsAddBaTimer := false } } := if_pos ⟨hpend, rfl⟩
      rw [heq]
      exact ⟨Or.inl rfl, Or.inl rfl, fun _ hx => Or.inl hx⟩
    · right
      have heq : Negotiation.tsAddBaProcess skb s = Negotiation.State.send { s with
          pTxTs := { s.pTxTs with
            txPendingBaRecord := initPending s.pTxTs baPolicyImmediate
            tsAddBaTimer := false } } skb (.addbaReq (initPending s.pTxTs baPolicyImmediate)) :=
        if_neg fun h => hpend h.1
      rw [heq]
      refine ⟨by simpa using hpend, initPending s.pTxTs baPolicyImmediate, rfl, rfl, ?_, ?_, fun x hx => ?_⟩
      · rw [Negotiation.send_pTxTs]
      · rw [Negotiation.send_pTxTs]
      · rcases Negotiation.mem_send hx with hold | rfl
        · exact Or.inl hold
        · exact Or.inr rfl
  · rw [if_neg htimer]
    exact Or.inl ⟨Or.inl rfl, Or.inl rfl, fun _ hx => Or.inl hx⟩

end Keeps

/-! ## The invariant -/

/-- The dialog tokens count the requests, the oldest last. -/
def Numbered : List BaRecord → Prop
  | [] => True
  | r :: older => r.dialogToken = BitVec.ofNat 8 (older.length + 1) ∧ Numbered older

def IsNth (made : List BaRecord) (n : Nat) (r : BaRecord) : Prop :=
  ∃ newer older, made = newer ++ r :: older ∧ older.length + 1 = n

/-- The originator and the recipient have the same agreement. -/
structure Agrees (adm g : BaRecord) : Prop where
  dialogToken : adm.dialogToken = g.dialogToken
  baParamSet : adm.baParamSet = g.baParamSet
  baTimeoutValue : adm.baTimeoutValue = g.baTimeoutValue

/-- What an admission rests on: the request that was pending, and a record that the recipient granted. -/
structure Founded (st : Stations) (made granted : List BaRecord) (a : Admission) : Prop where
  request : ∃ r, IsNth made a.number r ∧ a.record.dialogToken = r.dialogToken ∧
    a.record.baStartSeqCtrl = r.baStartSeqCtrl
  grant : ∃ g ∈ granted, Agrees a.record g
  tid : BaParamSet.tid a.record.baParamSet = st.ucTsid

structure Inv (st : Stations) (s : State) : Prop where
  token : s.orig.pTxTs.txPendingBaRecord.dialogToken = BitVec.ofNat 8 s.made.length
  pending : s.orig.pTxTs.txPendingBaRecord.bValid = true →
    s.made.head? = some s.orig.pTxTs.txPendingBaRecord
  numbered : Numbered s.made
  sent : ∀ x ∈ s.orig.sent, ∀ pBA, x.frame = .addbaReq pBA → pBA ∈ s.made
  granted : ∀ g ∈ s.granted, ∃ r ∈ s.made, Grants r g
  replies : ∀ pBA, Reply.addbaRsp pBA addbaStatusSuccess ∈ s.replies → pBA ∈ s.granted
  admissions : ∀ a ∈ s.admissions, Founded st s.made s.granted a
  number : ∀ a ∈ s.admissions, a.number ≤ s.made.length ∧
    (s.orig.pTxTs.txPendingBaRecord.bValid = true → a.number < s.made.length)
  once : (s.admissions.map (·.number)).Pairwise (· > ·)
  admitted : s.orig.pTxTs.txAdmittedBaRecord.bValid = true →
    ∃ a, s.admissions.head? = some a ∧ a.record = s.orig.pTxTs.txAdmittedBaRecord

section Inv

variable {st : Stations} {s : State}

theorem IsNth.cons {made : List BaRecord} {n : Nat} {r : BaRecord} (h : IsNth made n r) (x : BaRecord) :
    IsNth (x :: made) n r := by
  obtain ⟨newer, older, rfl, hn⟩ := h
  exact ⟨x :: newer, older, rfl, hn⟩

theorem Founded.made {made granted : List BaRecord} {a : Admission} (h : Founded st made granted a)
    (x : BaRecord) : Founded st (x :: made) granted a := by
  obtain ⟨r, hnth, htoken, hstart⟩ := h.request
  exact ⟨⟨r, hnth.cons x, htoken, hstart⟩, h.grant, h.tid⟩

theorem Founded.granted {made granted : List BaRecord} {a : Admission} (h : Founded st made granted a)
    (x : BaRecord) : Founded st made (x :: granted) a := by
  obtain ⟨g, hg, hagrees⟩ := h.grant
  exact ⟨h.request, ⟨g, List.mem_cons_of_mem x hg, hagrees⟩, h.tid⟩

theorem inv_init (st : Stations) : Inv st (State.init st) where
  token := rfl
  pending h := by cases h
  numbered := trivial
  sent _ hx := by cases hx
  granted _ hg := by cases hg
  replies _ hr := by cases hr
  admissions _ ha := by cases ha
  number _ ha := by cases ha
  once := List.Pairwise.nil
  admitted h := by cases h

theorem Inv.keeps (h : Inv st s) {orig : Negotiation.State} (hk : Keeps s.orig orig) :
    Inv st (s.setOrig orig) := by
  -- A step of the originator that starts and admits nothing.
  have hpend : orig.pTxTs.txPendingBaRecord.bValid = true →
      orig.pTxTs.txPendingBaRecord = s.orig.pTxTs.txPendingBaRecord := by
    intro hvalid
    rcases hk.pending with heq | ⟨hfalse, _⟩
    · exact heq
    · simp [hfalse] at hvalid
  have hadm : orig.pTxTs.txAdmittedBaRecord.bValid = true →
      orig.pTxTs.txAdmittedBaRecord = s.orig.pTxTs.txAdmittedBaRecord := by
    intro hvalid
    rcases hk.admitted with heq | hfalse
    · exact heq
    · simp [hfalse] at hvalid
  have hset : s.setOrig orig = { s with orig } := by
    unfold State.setOrig
    rw [if_neg, if_neg]
    · rintro ⟨hold, hnew⟩
      rw [hadm hnew, hold] at hnew
      cases hnew
    · rintro ⟨hold, hnew⟩
      rw [hpend hnew, hold] at hnew
      cases hnew
  rw [hset]
  constructor
  · show orig.pTxTs.txPendingBaRecord.dialogToken = _
    rcases hk.pending with heq | ⟨_, heq⟩
    · rw [heq]
      exact h.token
    · rw [heq]
      exact h.token
  · intro hvalid
    show s.made.head? = some orig.pTxTs.txPendingBaRecord
    rw [hpend hvalid]
    exact h.pending (by rw [← hpend hvalid]; exact hvalid)
  · exact h.numbered
  · intro x hx pBA hframe
    rcases hk.sent x hx with hold | hno
    · exact h.sent x hold pBA hframe
    · exact absurd hframe (hno pBA)
  · exact h.granted
  · exact h.replies
  · exact h.admissions
  · intro a ha
    exact ⟨(h.number a ha).1, fun hvalid => (h.number a ha).2 (by rw [← hpend hvalid]; exact hvalid)⟩
  · exact h.once
  · intro hvalid
    show ∃ a, s.admissions.head? = some a ∧ a.record = orig.pTxTs.txAdmittedBaRecord
    rw [hadm hvalid]
    exact h.admitted (by rw [← hadm hvalid]; exact hvalid)

theorem Inv.makes (h : Inv st s) {orig : Negotiation.State} {r : BaRecord}
    (hold : s.orig.pTxTs.txPendingBaRecord.bValid = false) (hvalid : r.bValid = true)
    (htoken : r.dialogToken = s.orig.pTxTs.txPendingBaRecord.dialogToken + 1)
    (hpend : orig.pTxTs.txPendingBaRecord = r)
    (hadm : orig.pTxTs.txAdmittedBaRecord = s.orig.pTxTs.txAdmittedBaRecord)
    (hsent : ∀ x ∈ orig.sent, x ∈ s.orig.sent ∨ x.frame = .addbaReq r) : Inv st (s.setOrig orig) := by
  -- A request becomes pending.
  have hset : s.setOrig orig = { s with orig, made := r :: s.made } := by
    unfold State.setOrig
    rw [if_pos ⟨hold, by rw [hpend]; exact hvalid⟩, if_neg, hpend]
    rintro ⟨hfalse, htrue⟩
    rw [hadm, hfalse] at htrue
    cases htrue
  have hcount : r.dialogToken = BitVec.ofNat 8 (s.made.length + 1) := by
    rw [htoken, h.token, BitVec.ofNat_add]
    rfl
  rw [hset]
  constructor
  · show orig.pTxTs.txPendingBaRecord.dialogToken = _
    rw [hpend]
    exact hcount
  · intro _
    exact congrArg some hpend.symm
  · exact ⟨hcount, h.numbered⟩
  · intro x hx pBA hframe
    rcases hsent x hx with hx | hx
    · exact List.mem_cons_of_mem r (h.sent x hx pBA hframe)
    · rw [hx] at hframe
      cases hframe
      exact List.mem_cons_self
  · intro g hg
    obtain ⟨r', hr', hgrants⟩ := h.granted g hg
    exact ⟨r', List.mem_cons_of_mem r hr', hgrants⟩
  · exact h.replies
  · exact fun a ha => (h.admissions a ha).made r
  · intro a ha
    have hle := (h.number a ha).1
    exact ⟨Nat.le_succ_of_le hle, fun _ => Nat.lt_succ_of_le hle⟩
  · exact h.once
  · intro hvalid'
    show ∃ a, s.admissions.head? = some a ∧ a.record = orig.pTxTs.txAdmittedBaRecord
    rw [hadm]
    exact h.admitted (by rw [← hadm]; exact hvalid')

/-- A granted record is admitted. The request was pending until now, so it is newer than all that were
admitted. -/
theorem Inv.admits (h : Inv st s) {orig : Negotiation.State} {g adm : BaRecord} (hg : g ∈ s.granted)
    (hold : s.orig.pTxTs.txAdmittedBaRecord.bValid = false)
    (hwas : s.orig.pTxTs.txPendingBaRecord.bValid = true)
    (htoken : g.dialogToken = s.orig.pTxTs.txPendingBaRecord.dialogToken) (hagrees : Agrees adm g)
    (htid : BaParamSet.tid g.baParamSet = st.ucTsid)
    (hstart : adm.baStartSeqCtrl = s.orig.pTxTs.txPendingBaRecord.baStartSeqCtrl)
    (hvalid : adm.bValid = true)
    (hpend : orig.pTxTs.txPendingBaRecord = deActivateBaEntry s.orig.pTxTs.txPendingBaRecord)
    (hadm : orig.pTxTs.txAdmittedBaRecord = adm) (hsent : orig.sent = s.orig.sent) :
    Inv st (s.setOrig orig) := by
  have hset : s.setOrig orig = { s with
      orig
      admissions := ⟨s.made.length, adm⟩ :: s.admissions } := by
    unfold State.setOrig
    rw [if_neg, if_pos ⟨hold, by rw [hadm]; exact hvalid⟩, hadm]
    rintro ⟨_, htrue⟩
    rw [hpend] at htrue
    cases htrue
  have hidle : orig.pTxTs.txPendingBaRecord.bValid = false := by rw [hpend]; rfl
  obtain ⟨older, hmade⟩ : ∃ older, s.made = s.orig.pTxTs.txPendingBaRecord :: older := by
    have hhead := h.pending hwas
    cases hlist : s.made with
    | nil =>
      rw [hlist] at hhead
      cases hhead
    | cons r older =>
      rw [hlist] at hhead
      cases hhead
      exact ⟨older, rfl⟩
  rw [hset]
  constructor
  · show orig.pTxTs.txPendingBaRecord.dialogToken = _
    rw [hpend]
    exact h.token
  · intro htrue
    have htrue : orig.pTxTs.txPendingBaRecord.bValid = true := htrue
    rw [hidle] at htrue
    cases htrue
  · exact h.numbered
  · show ∀ x ∈ orig.sent, _
    rw [hsent]
    exact h.sent
  · exact h.granted
  · exact h.replies
  · intro a ha
    rcases List.mem_cons.mp ha with rfl | ha
    · refine ⟨⟨s.orig.pTxTs.txPendingBaRecord, ⟨[], older, hmade, ?_⟩, ?_, hstart⟩, ⟨g, hg, hagrees⟩, ?_⟩
      · rw [hmade]
        rfl
      · exact hagrees.dialogToken.trans htoken
      · rw [hagrees.baParamSet]
        exact htid
    · exact h.admissions a ha
  · intro a ha
    refine ⟨?_, fun htrue => ?_⟩
    · rcases List.mem_cons.mp ha with rfl | ha
      · exact Nat.le_refl _
      · exact (h.number a ha).1
    · have htrue : orig.pTxTs.txPendingBaRecord.bValid = true := htrue
      rw [hidle] at htrue
      cases htrue
  · rw [List.map_cons, List.pairwise_cons]
    refine ⟨fun n hn => ?_, h.once⟩
    obtain ⟨a, ha, rfl⟩ := List.mem_map.mp hn
    exact (h.number a ha).2 hwas
  · intro _
    exact ⟨_, rfl, hadm.symm⟩

/-- The recipient sends a frame that is no response, or a response to what it granted. -/
theorem Inv.reply (h : Inv st s) (skb : Bool) {r : Reply}
    (hr : ∀ pBA, r = .addbaRsp pBA addbaStatusSuccess → pBA ∈ s.granted) : Inv st (s.reply skb r) := by
  cases skb with
  | false => exact h
  | true =>
    refine ⟨h.token, h.pending, h.numbered, h.sent, h.granted, fun pBA hmem => ?_, h.admissions, h.number,
      h.once, h.admitted⟩
    rcases List.mem_cons.mp hmem with heq | hold
    · exact hr pBA heq.symm
    · exact h.replies pBA hold

theorem Inv.recip (h : Inv st s) (recip : BitVec 4 → Option BaRecord) : Inv st { s with recip } :=
  ⟨h.token, h.pending, h.numbered, h.sent, h.granted, h.replies, h.admissions, h.number, h.once, h.admitted⟩

theorem Inv.grants (h : Inv st s) {r g : BaRecord} (hr : r ∈ s.made) (hg : Grants r g) :
    Inv st { s with granted := g :: s.granted } := by
  refine ⟨h.token, h.pending, h.numbered, h.sent, fun g' hg' => ?_, fun pBA hmem => ?_, fun a ha => ?_,
    h.number, h.once, h.admitted⟩
  · rcases List.mem_cons.mp hg' with rfl | hold
    · exact ⟨r, hr, hg⟩
    · exact h.granted g' hold
  · exact List.mem_cons_of_mem g (h.replies pBA hmem)
  · exact (h.admissions a ha).granted g

/-! ## Runs -/

theorem inv_toRecipient (h : Inv st s) (d : Delivery) {fr : Frame}
    (hfr : ∀ pBA, fr = .addbaReq pBA → pBA ∈ s.made) : Inv st (toRecipient st d s fr) := by
  cases fr with
  | addbaReq pBA =>
    have hcases := rxAddbaReq_cases (d.builder st.originator) d.heap d.beyond st.recipient pBA d.receiver
      (getRxTs st s d.room) d.stack
    simp only [toRecipient, addbaReq_length]
    rcases hcases with ⟨BA, rc, hrc, hval⟩ | ⟨g, hg, hval⟩
    · rw [hval]
      refine h.reply d.skb fun pBA heq => ?_
      cases heq
      exact absurd rfl hrc
    · rw [hval]
      refine ((h.grants (hfr pBA rfl) hg).recip _).reply d.skb fun pBA heq => ?_
      cases heq
      exact List.mem_cons_self
  | delba baParamSet reasonCode =>
    simp only [toRecipient]
    split
    · exact h.recip _
    · exact h

theorem inv_toOriginator (h : Inv st s) (d : Delivery) {r : Reply} (hr : r ∈ s.replies) :
    Inv st (toOriginator st d s r) := by
  cases r with
  | delba pBA reasonCode => exact h.keeps (keeps_rxDelba _)
  | addbaRsp pBA statusCode =>
    simp only [toOriginator]
    rcases Negotiation.rxAddbaRsp_cases (Reply.action st d (.addbaRsp pBA statusCode)) d.skb s.orig with
      ⟨_, hnot⟩ | ⟨hadmits, _⟩
    · exact h.keeps (keeps_of_notAdmitted hnot)
    · obtain ⟨rfl, htoken, htid, adm, hvalid, htoken', hparam, htimeout, hstart, heq⟩ :=
        rxAddbaRsp_admits d.skb hadmits
      rw [heq]
      exact h.admits (h.replies pBA hr) hadmits.notAdmitted hadmits.pending htoken
        ⟨htoken', hparam, htimeout⟩ htid hstart hvalid rfl rfl rfl

theorem inv_tsInitDelBaRx (h : Inv st s) (tid : BitVec 4) (remove skb : Bool) :
    Inv st (tsInitDelBaRx tid remove skb s) := by
  unfold tsInitDelBaRx
  cases hrec : s.recip tid with
  | none => exact h
  | some pBa =>
    have hrecip := h.recip (Function.update s.recip tid (if remove then none else some (rxTsDeleteBa pBa)))
    by_cases hvalid : pBa.bValid = true
    · simp only [hvalid, if_true]
      exact hrecip.reply skb fun _ heq => by cases heq
    · simp only [hvalid]
      exact hrecip

theorem step_inv (h : Inv st s) (e : Event) : Inv st (step st s e) := by
  cases e with
  | txQueryAggCap env => exact h.keeps (keeps_txQueryAggCap env)
  | querySeqnum => exact h.keeps ⟨Or.inl rfl, Or.inl rfl, fun _ hx => Or.inl hx⟩
  | baSetupTimeOut => exact h.keeps keeps_baSetupTimeOut
  | txBaInactTimeout skb => exact h.keeps (keeps_txBaInactTimeout skb)
  | tsInitDelBaTx skb => exact h.keeps (keeps_tsInitDelBaTx skb)
  | tsInitDelBaRx tid remove skb => exact inv_tsInitDelBaRx h tid remove skb
  | tsAddBaProcess skb =>
    rcases tsAddBaProcess_makes skb s.orig with hk | ⟨hold, r, hvalid, htoken, hpend, hadm, hsent⟩
    · exact h.keeps hk
    · exact h.makes hold hvalid htoken hpend hadm hsent
  | toRecipient i d =>
    simp only [step]
    split
    · rename_i x hx
      exact inv_toRecipient h d fun pBA hframe => h.sent x (List.mem_of_getElem? hx) pBA hframe
    · exact h
  | toOriginator i d =>
    simp only [step]
    split
    · rename_i r hr
      exact inv_toOriginator h d (List.mem_of_getElem? hr)
    · exact h

theorem exec_inv_init (st : Stations) (es : List Event) : Inv st (exec (step st) (State.init st) es) :=
  exec_inv (C := fun _ _ => True) (I := Inv st) (fun _ e h _ => step_inv h e) (inv_init st)
    (meets_of_forall fun _ _ => trivial)

theorem Numbered.token_le {made : List BaRecord} (h : Numbered made) {r : BaRecord} (hr : r ∈ made) :
    r.dialogToken.toNat ≤ made.length := by
  induction made with
  | nil => cases hr
  | cons x older ih =>
    rcases List.mem_cons.mp hr with rfl | hold
    · rw [h.1, BitVec.toNat_ofNat]
      exact Nat.mod_le _ _
    · exact Nat.le_succ_of_le (ih h.2 hold)

theorem Numbered.newest {older : List BaRecord} {x y : BaRecord} (h : Numbered (x :: older))
    (hlen : older.length + 1 < 256) (hy : y ∈ older) : x.dialogToken ≠ y.dialogToken := by
  intro heq
  have hle := h.2.token_le hy
  rw [← heq, h.1, BitVec.toNat_ofNat, Nat.mod_eq_of_lt (by omega)] at hle
  omega

theorem eq_of_token {made : List BaRecord} (hnum : Numbered made) (hlen : made.length < 256)
    {r r' : BaRecord} (hr : r ∈ made) (hr' : r' ∈ made) (htoken : r.dialogToken = r'.dialogToken) : r = r' := by
  induction made with
  | nil => cases hr
  | cons x older ih =>
    rw [List.length_cons] at hlen
    rcases List.mem_cons.mp hr with rfl | hold
    · rcases List.mem_cons.mp hr' with rfl | hold'
      · rfl
      · exact absurd htoken (hnum.newest hlen hold')
    · rcases List.mem_cons.mp hr' with rfl | hold'
      · exact absurd htoken.symm (hnum.newest hlen hold)
      · exact ih hnum.2 (by omega) hold hold'

/-- Whatever the link loses, repeats or delays, in every run:
- what the originator has admitted is what the recipient granted to one of its requests, with its token,
  its parameters but for the buffer size, and its timeout, for the TID of the stream;
- below 256 requests that is the request whose starting sequence control the originator uses;
- the admissions belong to different requests, and a valid record is the one that was admitted last. -/
theorem agreement (st : Stations) (es : List Event) :
    let s := exec (step st) (State.init st) es
    (∀ a ∈ s.admissions, BaParamSet.tid a.record.baParamSet = st.ucTsid ∧
      ∃ r ∈ s.made, ∃ g ∈ s.granted, Grants r g ∧ Agrees a.record g ∧
        (s.made.length < 256 → a.record.baStartSeqCtrl = r.baStartSeqCtrl)) ∧
    (s.admissions.map (·.number)).Nodup ∧ (∀ a ∈ s.admissions, ∃ r, IsNth s.made a.number r) ∧
    (s.orig.pTxTs.txAdmittedBaRecord.bValid = true →
      ∃ a, s.admissions.head? = some a ∧ a.record = s.orig.pTxTs.txAdmittedBaRecord) := by
  intro s
  have h : Inv st s := exec_inv_init st es
  refine ⟨fun a ha => ?_, ?_, fun a ha => ?_, h.admitted⟩
  · obtain ⟨⟨r', ⟨newer, older, hmade, _⟩, htoken, hstart⟩, ⟨g, hg, hagrees⟩, htid⟩ := h.admissions a ha
    obtain ⟨r, hr, hgrants⟩ := h.granted g hg
    refine ⟨htid, r, hr, g, hg, hgrants, hagrees, fun hlen => ?_⟩
    have hr' : r' ∈ s.made := by
      rw [hmade]
      simp
    have heq : r = r' := eq_of_token h.numbered hlen hr hr'
      (by rw [← hgrants.dialogToken, ← hagrees.dialogToken, htoken])
    rw [heq]
    exact hstart
  · exact h.once.imp fun hlt => (Nat.ne_of_lt hlt).symm
  · obtain ⟨r, hnth, _⟩ := (h.admissions a ha).request
    exact ⟨r, hnth⟩

/-- A link that loses nothing, between stations that agreed on QoS and HT -/
def good : Delivery :=
  ⟨station 1, fun _ => 0, fun _ => 0, station 2, resetBaEntry, true, true⟩

def pair : Stations := ⟨fun _ => 1, fun _ => 2, 5⟩

/-- The response that arrives twice is admitted once. -/
example : (exec (step pair) (State.init pair) [.txQueryAggCap Negotiation.aggEnv, .tsAddBaProcess true,
    .toRecipient 0 good, .toOriginator 0 good, .toOriginator 0 good]).admissions.length = 1 := by
  decide

end Inv

end Rtl8190.BlockAck.Handshake
