import Rtl8190.BlockAck.Process

/-!
# Block-Ack negotiation on one transmit stream

- `exclusive_iff`: the pending and the admitted record exclude each other, and no request is sent
  over an agreement, in exactly the runs where no response is admitted while `TsAddBaTimer` is still
  pending.
- `exec_progressing`: `bAddBaReqInProgress` always has a timer that takes it down.

Each handler is one step here. The first property fails in the order of whole handlers already. The
second needs them whole: `Wedge` has the handlers in single accesses.
-/

open Rtl8190.Memory Rtl8190.Run

namespace Rtl8190.BlockAck.Negotiation

/-! ## The response that is admitted -/

/-- An ADDBA response that `rtllib_rx_ADDBARsp` admits. -/
structure Action.Admits (a : Action) (pTxTs : TxTs) : Prop where
  len : sizeofHdr3addr + 9 ≤ a.len
  qosActive : a.ieee.qosActive = true
  bCurrentHtSupport : a.ieee.bCurrentHtSupport = true
  bCurrentAmpduEnable : a.ieee.bCurrentAmpduEnable = true
  finds : a.finds (readAddr2 a.mem).val (BaParamSet.tid (a.mem 30 ++ a.mem 29)) = true
  notAdmitted : pTxTs.txAdmittedBaRecord.bValid = false
  pending : pTxTs.txPendingBaRecord.bValid = true
  dialogToken : a.mem 26 = pTxTs.txPendingBaRecord.dialogToken
  success : a.mem 28 ++ a.mem 27 = addbaStatusSuccess
  immediate : BaParamSet.baPolicy (a.mem 30 ++ a.mem 29) ≠ baPolicyDelayed

/-- No response is admitted while `TsAddBaTimer` is still pending. -/
def AdmitsIdle (s : State) : Event → Prop
  | .rxAddbaRsp a _ => a.Admits s.pTxTs → s.pTxTs.tsAddBaTimer = false
  | _ => True

/-! ## What the functions do to the stream -/

@[simp] theorem deActivateBaEntry_bValid (pBA : BaRecord) : (deActivateBaEntry pBA).bValid = false :=
  rfl

@[simp] theorem deActivateBaEntry_timer (pBA : BaRecord) : (deActivateBaEntry pBA).timer = false := rfl

@[simp] theorem activateBaEntry_bValid (pBA : BaRecord) (time : BitVec 16) :
    (activateBaEntry pBA time).bValid = true := rfl

@[simp] theorem txTsDeleteBa_pending (pTxTs : TxTsRecord) :
    (txTsDeleteBa pTxTs).txPendingBaRecord.bValid = false := by
  simp only [txTsDeleteBa]
  split <;> simp_all

@[simp] theorem txTsDeleteBa_admitted (pTxTs : TxTsRecord) :
    (txTsDeleteBa pTxTs).txAdmittedBaRecord.bValid = false := by
  simp only [txTsDeleteBa]
  split <;> simp_all

@[simp] theorem send_pTxTs (s : State) (skb : Bool) (fr : Frame) : (s.send skb fr).pTxTs = s.pTxTs := by
  cases skb <;> rfl

theorem mem_send {s : State} {skb : Bool} {fr : Frame} {x : Sent} (h : x ∈ (s.send skb fr).sent) :
    x ∈ s.sent ∨ x = ⟨fr, s.pTxTs.txAdmittedBaRecord.bValid⟩ := by
  cases skb with
  | false => exact .inl h
  | true => exact (List.mem_cons.mp h).symm

/-- What a response that is not admitted leaves of the stream, and what it makes the station send. -/
structure NotAdmitted (s s' : State) : Prop where
  tsAddBaTimer : s'.pTxTs.tsAddBaTimer = s.pTxTs.tsAddBaTimer
  pending : s'.pTxTs.txPendingBaRecord = s.pTxTs.txPendingBaRecord ∨
    s'.pTxTs.txPendingBaRecord = deActivateBaEntry s.pTxTs.txPendingBaRecord
  admitted : s'.pTxTs.txAdmittedBaRecord = s.pTxTs.txAdmittedBaRecord ∨
    s'.pTxTs.txAdmittedBaRecord = deActivateBaEntry s.pTxTs.txAdmittedBaRecord
  inProgress : s'.pTxTs = s.pTxTs ∨ s'.pTxTs.bAddBaReqInProgress = false
  sent : ∀ x ∈ s'.sent, x ∈ s.sent ∨ ∀ pBA, x.frame ≠ .addbaReq pBA

theorem NotAdmitted.refl (s : State) : NotAdmitted s s :=
  ⟨rfl, .inl rfl, .inl rfl, .inl rfl, fun _ hx => .inl hx⟩

theorem NotAdmitted.send {s s' : State} (h : NotAdmitted s s') (skb : Bool) (p : BaParamSet)
    (rc : BitVec 16) : NotAdmitted s (s'.send skb (.delba p rc)) where
  tsAddBaTimer := by rw [send_pTxTs, h.tsAddBaTimer]
  pending := by rw [send_pTxTs]; exact h.pending
  admitted := by rw [send_pTxTs]; exact h.admitted
  inProgress := by rw [send_pTxTs]; exact h.inProgress
  sent x hx := by
    rcases mem_send hx with hold | rfl
    · exact h.sent x hold
    · exact .inr (by simp)

theorem NotAdmitted.put {s : State} {pTS : TxTsRecord}
    (htimer : pTS.tsAddBaTimer = s.pTxTs.tsAddBaTimer)
    (hpend : pTS.txPendingBaRecord = s.pTxTs.txPendingBaRecord ∨
      pTS.txPendingBaRecord = deActivateBaEntry s.pTxTs.txPendingBaRecord)
    (hadm : pTS.txAdmittedBaRecord = s.pTxTs.txAdmittedBaRecord ∨
      pTS.txAdmittedBaRecord = deActivateBaEntry s.pTxTs.txAdmittedBaRecord)
    (hprog : pTS.bAddBaReqInProgress = false) : NotAdmitted s (s.put pTS) :=
  ⟨htimer, hpend, hadm, .inr hprog, fun _ hx => .inl hx⟩

section Cases

variable (a : Action) (skb : Bool) (s : State)

theorem tsStartAddBaProcess_cases (pTxTS : TxTs) :
    tsStartAddBaProcess pTxTS = pTxTS ∨ (pTxTS.bAddBaReqInProgress = false ∧
      tsStartAddBaProcess pTxTS =
        { pTxTS with bAddBaReqInProgress := true, tsAddBaTimer := true }) := by
  unfold tsStartAddBaProcess
  split
  · exact .inr ⟨‹_›, rfl⟩
  · exact .inl rfl

theorem rtllibTxQueryAggCap_cases (env : AggCapEnv) (pTxTs : TxTs) :
    rtllibTxQueryAggCap env pTxTs = pTxTs ∨
      (pTxTs.txAdmittedBaRecord.bValid = false ∧
        rtllibTxQueryAggCap env pTxTs = tsStartAddBaProcess pTxTs) ∨
      rtllibTxQueryAggCap env pTxTs = { pTxTs with bUsingBa := true } := by
  unfold rtllibTxQueryAggCap
  split_ifs with hearly hadm hna hdhcp hdis hstart
  · exact .inl rfl
  · exact .inl rfl
  · exact .inl rfl
  · exact .inr (.inl ⟨hadm, rfl⟩)
  · exact .inl rfl
  · exact .inr (.inr rfl)
  · exact .inl rfl

theorem rxAddbaRsp_cases :
    (¬ a.Admits s.pTxTs ∧ NotAdmitted s (rxAddbaRsp a skb s)) ∨
      (a.Admits s.pTxTs ∧ ∃ pAdmittedBA : BaRecord,
        rxAddbaRsp a skb s = s.put { s.pTxTs.toTxTsRecord with
          bAddBaReqInProgress := false
          txPendingBaRecord := deActivateBaEntry s.pTxTs.txPendingBaRecord
          txAdmittedBaRecord :=
            activateBaEntry (deActivateBaEntry pAdmittedBA) pAdmittedBA.baTimeoutValue }) := by
  -- What the response handler finds, in the order in which it looks.
  unfold rxAddbaRsp
  generalize hr : (rtllibRxAddbaRsp a.ieee (a.getTs s.pTxTs) a.mem a.len).val = r
  simp only [rtllibRxAddbaRsp, bind_val, ite_val, pure_val, read16_val] at hr
  by_cases hlen : a.len < sizeofHdr3addr + 9
  · rw [if_pos hlen] at hr
    subst hr
    exact .inl ⟨fun h => Nat.not_lt.mpr h.len hlen, .refl s⟩
  rw [if_neg hlen] at hr
  simp only [sizeofHdr3addr, Nat.reduceAdd] at hr
  by_cases hcap : a.ieee.qosActive = false ∨ a.ieee.bCurrentHtSupport = false ∨
      a.ieee.bCurrentAmpduEnable = false
  · rw [if_pos hcap] at hr
    subst hr
    refine .inl ⟨fun h => ?_, .send (.refl s) skb _ _⟩
    simp [h.qosActive, h.bCurrentHtSupport, h.bCurrentAmpduEnable] at hcap
  rw [if_neg hcap] at hr
  simp only [not_or, Bool.not_eq_false] at hcap
  by_cases hfinds : a.finds (readAddr2 a.mem).val (BaParamSet.tid (a.mem 30 ++ a.mem 29)) = true
  · simp only [Action.getTs, if_pos hfinds, ite_val, bind_val, pure_val, read_val] at hr
    by_cases hadm : s.pTxTs.txAdmittedBaRecord.bValid = true
    · simp only [hadm, if_true] at hr
      subst hr
      refine .inl ⟨fun h => ?_, .put rfl (.inl rfl) (.inl rfl) rfl⟩
      simp [h.notAdmitted] at hadm
    simp only [hadm, Bool.false_eq_true, if_false] at hr
    by_cases hpend : s.pTxTs.txPendingBaRecord.bValid = false ∨
        a.mem 26 ≠ s.pTxTs.txPendingBaRecord.dialogToken
    · simp only [hpend, if_true, bind_val, pure_val, read16_val] at hr
      subst hr
      refine .inl ⟨fun h => ?_, .send ?_ skb _ _⟩
      · simp [h.pending, h.dialogToken] at hpend
      · exact .put rfl (.inl rfl) (.inl rfl) rfl
    simp only [hpend, if_false, bind_val, read16_val] at hr
    simp only [not_or, Bool.not_eq_false, not_not] at hpend
    by_cases hst : a.mem 28 ++ a.mem 27 = addbaStatusSuccess
    · simp only [Nat.reduceAdd, hst, if_true] at hr
      by_cases hpol : BaParamSet.baPolicy (a.mem 30 ++ a.mem 29) = baPolicyDelayed
      · simp only [hpol, if_true] at hr
        subst hr
        refine .inl ⟨fun h => h.immediate hpol, .send ?_ skb _ _⟩
        exact .put rfl (.inr rfl) (.inr rfl) rfl
      simp only [hpol, if_false] at hr
      subst hr
      refine .inr ⟨⟨Nat.not_lt.mp hlen, hcap.1, hcap.2.1, hcap.2.2, hfinds, ?_, hpend.1, hpend.2, hst,
        hpol⟩, ?_⟩
      · simpa using hadm
      · exact ⟨{ s.pTxTs.txAdmittedBaRecord with
          dialogToken := a.mem 26, baTimeoutValue := a.mem 32 ++ a.mem 31
          baParamSet := a.mem 30 ++ a.mem 29
          baStartSeqCtrl := s.pTxTs.txPendingBaRecord.baStartSeqCtrl }, rfl⟩
    · simp only [Nat.reduceAdd, hst, if_false] at hr
      subst hr
      refine .inl ⟨fun h => hst h.success, .send ?_ skb _ _⟩
      exact .put rfl (.inr rfl) (.inl rfl) rfl
  · simp only [Action.getTs, if_neg hfinds, bind_val, pure_val, read16_val] at hr
    subst hr
    exact .inl ⟨fun h => hfinds h.finds, .send (.refl s) skb _ _⟩

theorem rxDelba_cases :
    rxDelba a s = s ∨ rxDelba a s = s.put (txTsDeleteBa { s.pTxTs.toTxTsRecord with
      bUsingBa := false
      bAddBaReqInProgress := false
      bAddBaReqDelayed := false
      tsAddBaTimer := false }) := by
  unfold rxDelba
  generalize hr : (rtllibRxDelba a.ieee (fun _ _ => none) (a.getTs s.pTxTs) a.mem a.len).val = r
  simp only [rtllibRxDelba, bind_val, ite_val, pure_val, read16_val] at hr
  by_cases hlen : a.len < sizeofHdr3addr + 6
  · simp only [hlen, if_true] at hr
    exact .inl (by subst hr; rfl)
  by_cases hcap : a.ieee.qosActive = false ∨ a.ieee.bCurrentHtSupport = false
  · simp only [hlen, hcap, if_true, if_false] at hr
    exact .inl (by subst hr; rfl)
  by_cases hinit : DelbaParamSet.initiator (a.mem ((sizeofHdr3addr + 2) * sizeofHdr3addr + 1) ++
      a.mem ((sizeofHdr3addr + 2) * sizeofHdr3addr)) = 1
  · simp only [hlen, hcap, hinit, if_true, if_false, pure_val] at hr
    exact .inl (by subst hr; rfl)
  simp only [hlen, hcap, hinit, if_false, Action.getTs] at hr
  split at hr
  · exact .inl (by subst hr; rfl)
  · rename_i pTxTs hfinds
    split at hfinds
    · cases hfinds
      exact .inr (by subst hr; rfl)
    · cases hfinds

end Cases

/-! ## The two records exclude each other -/

/-- The records are not both valid, and no request was sent over an agreement. -/
structure Exclusive (s : State) : Prop where
  records : s.pTxTs.txPendingBaRecord.bValid = false ∨ s.pTxTs.txAdmittedBaRecord.bValid = false
  sent : ∀ x ∈ s.sent, ∀ pBA, x.frame = .addbaReq pBA → x.admitted = false

/-- The start timer does not outlive the response that it led to. -/
def StartTimerIdle (s : State) : Prop :=
  s.pTxTs.txAdmittedBaRecord.bValid = true → s.pTxTs.tsAddBaTimer = false

theorem Exclusive.of_quiet {s s' : State} (h : Exclusive s)
    (hrec : s'.pTxTs.txPendingBaRecord.bValid = false ∨ s'.pTxTs.txAdmittedBaRecord.bValid = false)
    (hsent : ∀ x ∈ s'.sent, x ∈ s.sent ∨ ∀ pBA, x.frame ≠ .addbaReq pBA) : Exclusive s' where
  records := hrec
  sent x hx pBA hfr := (hsent x hx).elim (fun hold => h.sent x hold pBA hfr) fun hno => absurd hfr (hno pBA)

/-- `TsInitAddBA` from the timer: the pending record is valid, or it becomes so and is asked for. -/
theorem tsAddBaProcess_cases (skb : Bool) (s : State) :
    (s.pTxTs.txPendingBaRecord.bValid = true ∧
      tsAddBaProcess skb s = { s with pTxTs := { s.pTxTs with tsAddBaTimer := false } }) ∨
    (s.pTxTs.txPendingBaRecord.bValid = false ∧ ∃ pBA : BaRecord, pBA.bValid = true ∧ pBA.timer = true ∧
      tsAddBaProcess skb s = State.send { s with pTxTs := { s.pTxTs with
        txPendingBaRecord := pBA, tsAddBaTimer := false } } skb (.addbaReq pBA)) := by
  unfold tsAddBaProcess tsInitAddBa
  by_cases hpend : s.pTxTs.txPendingBaRecord.bValid = true
  · exact .inl ⟨hpend, if_pos ⟨hpend, rfl⟩⟩
  · rw [if_neg fun h => hpend h.1]
    exact .inr ⟨by simpa using hpend, initPending _ baPolicyImmediate, rfl, rfl, rfl⟩

/-- A request over an agreement is what an expiry of the start timer then leads to. -/
theorem exclusive_after_timer_iff {s : State} (h : Exclusive s) :
    (∀ skb, Exclusive (step s (.tsAddBaProcess skb))) ↔ StartTimerIdle s := by
  unfold StartTimerIdle
  simp only [step]
  constructor
  · intro hafter hadm
    by_contra htimer
    have hpend : s.pTxTs.txPendingBaRecord.bValid = false := by
      simpa [hadm] using h.records
    have hex := hafter true
    rw [if_pos (by simpa using htimer)] at hex
    rcases tsAddBaProcess_cases true s with ⟨hvalid, _⟩ | ⟨_, pBA, hvalid, _, heq⟩
    · simp [hvalid] at hpend
    · rw [heq] at hex
      simpa [hvalid, hadm] using hex.records
  · intro hidle skb
    split
    · rename_i htimer
      have hadm : s.pTxTs.txAdmittedBaRecord.bValid = false := by
        by_contra hadm
        simp [hidle (by simpa using hadm)] at htimer
      rcases tsAddBaProcess_cases skb s with ⟨_, heq⟩ | ⟨_, pBA, _, _, heq⟩
      · rw [heq]
        exact h.of_quiet h.records fun x hx => .inl hx
      · rw [heq]
        refine ⟨.inr (by simpa using hadm), fun x hx pBA' hfr => ?_⟩
        rcases mem_send hx with hold | rfl
        · exact h.sent x hold pBA' hfr
        · exact hadm
    · exact h

/-- One step keeps both exactly when it does not admit a response over the start timer. -/
theorem step_exclusive_iff {s : State} (h : Exclusive s) (hidle : StartTimerIdle s) (e : Event) :
    Exclusive (step s e) ∧ StartTimerIdle (step s e) ↔ AdmitsIdle s e := by
  have hquiet : ∀ {pTxTs : TxTs}, (pTxTs.txPendingBaRecord.bValid = false ∨
      pTxTs.txAdmittedBaRecord.bValid = false) → Exclusive { s with pTxTs := pTxTs } :=
    fun hrec => h.of_quiet hrec fun x hx => .inl hx
  cases e with
  | txQueryAggCap env =>
    refine iff_of_true ?_ trivial
    simp only [step]
    rcases rtllibTxQueryAggCap_cases env s.pTxTs with heq | ⟨hadm, heq⟩ | heq
    · rw [heq]
      exact ⟨hquiet h.records, hidle⟩
    · rw [heq]
      rcases tsStartAddBaProcess_cases s.pTxTs with heq' | ⟨_, heq'⟩
      · rw [heq']
        exact ⟨hquiet h.records, hidle⟩
      · rw [heq']
        exact ⟨hquiet h.records, fun hadm' => by simp [hadm] at hadm'⟩
    · rw [heq]
      exact ⟨hquiet h.records, hidle⟩
  | querySeqnum => exact iff_of_true ⟨hquiet h.records, hidle⟩ trivial
  | tsAddBaProcess skb =>
    refine iff_of_true ⟨(exclusive_after_timer_iff h).mpr hidle skb, ?_⟩ trivial
    simp only [step]
    split
    · intro _
      rcases tsAddBaProcess_cases skb s with ⟨_, heq⟩ | ⟨_, pBA, _, _, heq⟩ <;> simp [heq]
    · exact hidle
  | baSetupTimeOut =>
    refine iff_of_true ?_ trivial
    simp only [step]
    split
    · exact ⟨hquiet (.inl rfl), hidle⟩
    · exact ⟨h, hidle⟩
  | txBaInactTimeout skb =>
    refine iff_of_true ?_ trivial
    simp only [step]
    split
    · refine ⟨h.of_quiet (by simp [txBaInactTimeout]) fun x hx => ?_, fun hadm => ?_⟩
      · rcases mem_send hx with hold | rfl
        · exact .inl hold
        · exact .inr (by simp)
      · simp [txBaInactTimeout] at hadm
    · exact ⟨h, hidle⟩
  | rxDelba a =>
    refine iff_of_true ?_ trivial
    simp only [step]
    rcases rxDelba_cases a s with heq | heq
    · rw [heq]
      exact ⟨h, hidle⟩
    · rw [heq]
      exact ⟨hquiet (.inl (txTsDeleteBa_pending _)), fun hadm => by
        simp [State.put] at hadm⟩
  | rxAddbaRsp a skb =>
    simp only [step, AdmitsIdle]
    rcases rxAddbaRsp_cases a skb s with ⟨hno, hnot⟩ | ⟨hadmits, pAdmittedBA, heq⟩
    · refine iff_of_true ⟨h.of_quiet ?_ hnot.sent, fun hadm => ?_⟩ ?_
      · rcases h.records with hpend | hadm
        · left
          rcases hnot.pending with heq | heq <;> simp [heq, hpend]
        · right
          rcases hnot.admitted with heq | heq <;> simp [heq, hadm]
      · rw [hnot.tsAddBaTimer]
        apply hidle
        rcases hnot.admitted with heq | heq
        · rwa [heq] at hadm
        · simp [heq] at hadm
      · exact fun hadmits => absurd hadmits hno
    · rw [heq]
      refine ⟨fun hboth _ => hboth.2 rfl, fun htimer => ⟨hquiet (.inl rfl), fun _ => htimer hadmits⟩⟩

theorem exclusive_added (ucTsid : BitVec 4) : Exclusive (State.added ucTsid) :=
  ⟨.inl rfl, fun _ hx => absurd hx List.not_mem_nil⟩

/-- The records exclude each other in every state of a run, and would after an expiry of the start
timer there, exactly when no step admits a response over that timer. -/
theorem exclusive_iff (ucTsid : BitVec 4) (es : List Event) :
    Meets step AdmitsIdle (State.added ucTsid) es ↔
      ∀ fs, fs <+: es → ∀ skb, Exclusive (exec step (State.added ucTsid) fs) ∧
        Exclusive (exec step (State.added ucTsid) (fs ++ [.tsAddBaProcess skb])) := by
  have hboth : ∀ s, (∀ skb, Exclusive s ∧ Exclusive (step s (.tsAddBaProcess skb))) ↔
      Exclusive s ∧ StartTimerIdle s := fun s =>
    ⟨fun h => ⟨(h true).1, (exclusive_after_timer_iff (h true).1).mp fun skb => (h skb).2⟩,
      fun h skb => ⟨h.1, (exclusive_after_timer_iff h.1).mpr h.2 skb⟩⟩
  simp only [exec_append, exec_cons, exec_nil, hboth]
  exact meets_iff_forall_prefixes (I := fun _ => True) (P := fun s => Exclusive s ∧ StartTimerIdle s)
    (V := fun _ => True) (fun _ _ _ _ _ _ => trivial) (fun s e _ hp _ => step_exclusive_iff hp.1 hp.2 e)
    trivial ⟨exclusive_added ucTsid, fun _ => rfl⟩ fun _ _ => trivial

def aggEnv : AggCapEnv := ⟨true, true, true, false, false, true, true, true, 0, false, false⟩

/-- A response with the token that accepts immediate Block Ack. -/
def acceptedWith (dialogToken : Byte) : Action where
  ieee := ⟨fun _ => 1, fun _ => 1, true, true, true, false, false, false⟩
  finds := fun _ _ => true
  mem := fun i => if i = 26 then dialogToken else if i = 29 then 0x02 else 0
  len := 33

/-- The peer's first response has another token. The transmit path then arms the start timer again,
the second response is admitted, and the timer sends a request over the agreement. -/
theorem not_always_exclusive :
    ¬ ∀ (ucTsid : BitVec 4) (es : List Event), Exclusive (exec step (State.added ucTsid) es) := by
  intro h
  have hex := (h 0 [.txQueryAggCap aggEnv, .tsAddBaProcess true, .rxAddbaRsp (acceptedWith 9) true,
    .txQueryAggCap aggEnv, .rxAddbaRsp (acceptedWith 1) true, .tsAddBaProcess true]).records
  exact absurd hex (by decide)

/-! ## The flag has a timer, between whole handlers -/

/-- The setup timer runs as long as the pending record is valid, and the flag is up only where no
agreement is, with a timer that ends it. -/
structure Progressing (s : State) : Prop where
  setup : s.pTxTs.txPendingBaRecord.bValid = true → s.pTxTs.txPendingBaRecord.timer = true
  inactivity : s.pTxTs.txAdmittedBaRecord.timer = true → s.pTxTs.txAdmittedBaRecord.bValid = true
  notAdmitted : s.pTxTs.bAddBaReqInProgress = true → s.pTxTs.txAdmittedBaRecord.bValid = false
  timer : s.pTxTs.bAddBaReqInProgress = true →
    s.pTxTs.tsAddBaTimer = true ∨ s.pTxTs.txPendingBaRecord.bValid = true

theorem progressing_added (ucTsid : BitVec 4) : Progressing (State.added ucTsid) :=
  ⟨nofun, nofun, nofun, nofun⟩

theorem txTsDeleteBa_admitted_timer {pTxTs : TxTsRecord}
    (h : pTxTs.txAdmittedBaRecord.timer = true → pTxTs.txAdmittedBaRecord.bValid = true) :
    (txTsDeleteBa pTxTs).txAdmittedBaRecord.timer = false := by
  simp only [txTsDeleteBa]
  split
  · rfl
  · rename_i hvalid
    by_contra htimer
    exact hvalid (h (by simpa using htimer))

theorem Progressing.of_idle {s : State} (hprog : s.pTxTs.bAddBaReqInProgress = false)
    (hsetup : s.pTxTs.txPendingBaRecord.bValid = true → s.pTxTs.txPendingBaRecord.timer = true)
    (hinact : s.pTxTs.txAdmittedBaRecord.timer = true → s.pTxTs.txAdmittedBaRecord.bValid = true) :
    Progressing s where
  setup := hsetup
  inactivity := hinact
  notAdmitted h := by simp [hprog] at h
  timer h := by simp [hprog] at h

theorem step_progressing {s : State} (h : Progressing s) (e : Event) : Progressing (step s e) := by
  cases e with
  | txQueryAggCap env =>
    simp only [step]
    rcases rtllibTxQueryAggCap_cases env s.pTxTs with heq | ⟨hadm, heq⟩ | heq
    · rw [heq]
      exact h
    · rw [heq]
      rcases tsStartAddBaProcess_cases s.pTxTs with heq' | ⟨_, heq'⟩
      · rw [heq']
        exact h
      · rw [heq']
        exact ⟨h.setup, h.inactivity, fun _ => hadm, fun _ => .inl rfl⟩
    · rw [heq]
      exact ⟨h.setup, h.inactivity, h.notAdmitted, h.timer⟩
  | querySeqnum => exact ⟨h.setup, h.inactivity, h.notAdmitted, h.timer⟩
  | tsAddBaProcess skb =>
    simp only [step]
    split
    · rcases tsAddBaProcess_cases skb s with ⟨hpend, heq⟩ | ⟨_, pBA, hvalid, htimer, heq⟩
      · rw [heq]
        exact ⟨h.setup, h.inactivity, h.notAdmitted, fun _ => .inr hpend⟩
      · rw [heq]
        refine ⟨?_, ?_, ?_, ?_⟩ <;> rw [send_pTxTs]
        · exact fun _ => htimer
        · exact h.inactivity
        · exact h.notAdmitted
        · exact fun _ => .inr hvalid
    · exact h
  | baSetupTimeOut =>
    simp only [step]
    split
    · exact .of_idle rfl nofun h.inactivity
    · exact h
  | txBaInactTimeout skb =>
    simp only [step]
    split
    · rename_i htimer
      -- There is an agreement, so the flag is down.
      have hprog : s.pTxTs.bAddBaReqInProgress = false := by
        by_contra hprog
        exact absurd (h.notAdmitted (by simpa using hprog)) (by simp [h.inactivity htimer])
      refine .of_idle ?_ (fun hpend => ?_) (fun hinact => ?_)
      · simpa [txBaInactTimeout, txTsDeleteBa] using hprog
      · simp [txBaInactTimeout] at hpend
      · simp [txBaInactTimeout, txTsDeleteBa_admitted_timer] at hinact
    · exact h
  | rxDelba a =>
    simp only [step]
    rcases rxDelba_cases a s with heq | heq
    · rw [heq]
      exact h
    · rw [heq]
      refine .of_idle rfl (fun hpend => ?_) (fun hinact => ?_)
      · simp [State.put] at hpend
      · refine absurd hinact (Bool.eq_false_iff.mp (txTsDeleteBa_admitted_timer ?_))
        exact h.inactivity
  | rxAddbaRsp a skb =>
    simp only [step]
    rcases rxAddbaRsp_cases a skb s with ⟨_, hnot⟩ | ⟨_, pAdmittedBA, heq⟩
    · have hsetup : (rxAddbaRsp a skb s).pTxTs.txPendingBaRecord.bValid = true →
          (rxAddbaRsp a skb s).pTxTs.txPendingBaRecord.timer = true := by
        rcases hnot.pending with heq | heq
        · rw [heq]
          exact h.setup
        · simp [heq]
      have hinact : (rxAddbaRsp a skb s).pTxTs.txAdmittedBaRecord.timer = true →
          (rxAddbaRsp a skb s).pTxTs.txAdmittedBaRecord.bValid = true := by
        rcases hnot.admitted with heq | heq
        · rw [heq]
          exact h.inactivity
        · simp [heq]
      rcases hnot.inProgress with heq | hprog
      · refine ⟨hsetup, hinact, ?_, ?_⟩ <;> rw [heq]
        · exact h.notAdmitted
        · exact h.timer
      · exact .of_idle hprog hsetup hinact
    · rw [heq]
      exact .of_idle rfl nofun fun _ => rfl

theorem exec_progressing (ucTsid : BitVec 4) (es : List Event) :
    Progressing (exec step (State.added ucTsid) es) :=
  exec_inv (C := fun _ _ => True) (I := Progressing) (fun _ e h _ => step_progressing h e)
    (progressing_added ucTsid) (meets_of_forall fun _ _ => trivial)

theorem Progressing.setup_after_start {s : State} (h : Progressing s)
    (hprog : s.pTxTs.bAddBaReqInProgress = true) (skb : Bool) :
    (step s (.tsAddBaProcess skb)).pTxTs.txPendingBaRecord.timer = true := by
  have h' := step_progressing h (.tsAddBaProcess skb)
  apply h'.setup
  simp only [step]
  split
  · rcases tsAddBaProcess_cases skb s with ⟨hpend, heq⟩ | ⟨_, pBA, hvalid, _, heq⟩
    · rw [heq]
      exact hpend
    · rw [heq, send_pTxTs]
      exact hvalid
  · exact (h.timer hprog).resolve_left ‹_›

theorem Progressing.comesDown {s : State} (h : Progressing s) (skb : Bool) :
    (exec step s [.tsAddBaProcess skb, .baSetupTimeOut]).pTxTs.bAddBaReqInProgress = false := by
  -- Expiries of the two timers take the flag down.
  simp only [exec_cons, exec_nil]
  by_cases hprog : s.pTxTs.bAddBaReqInProgress = true
  · have hsetup := h.setup_after_start hprog skb
    generalize step s (.tsAddBaProcess skb) = t at hsetup
    simp only [step, hsetup, if_true]
    rfl
  · have hdown : (step s (.tsAddBaProcess skb)).pTxTs.bAddBaReqInProgress = false := by
      simp only [step]
      split
      · rcases tsAddBaProcess_cases skb s with ⟨_, heq⟩ | ⟨_, pBA, _, _, heq⟩
        · rw [heq]
          simpa using hprog
        · rw [heq, send_pTxTs]
          simpa using hprog
      · simpa using hprog
    generalize step s (.tsAddBaProcess skb) = t at hdown
    simp only [step]
    split
    · rfl
    · exact hdown

end Rtl8190.BlockAck.Negotiation
