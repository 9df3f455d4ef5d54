import Rtl8190.BlockAck.Interleaved

/-!
# The negotiation that wedges

`bAddBaReqInProgress` stays up once `rtllib_rx_DELBA` deletes a start timer that the transmit path
armed after the flag was cleared, until another frame of the peer clears it (`not_always_timed`,
`wedged_stays`). In a run in which the flag is not set, and no request made, while a handler takes
timers away, a flag that is up has a timer (`inProgress_timed_of_clean`).
-/

open Rtl8190.Memory Rtl8190.Run Rtl8190.BlockAck.Negotiation

namespace Rtl8190.BlockAck.Interleaved

/-! ## What is wanted -/

/-- `TsAddBaTimer`, or the setup timer of a valid pending record, is pending. -/
def State.hasTimer (s : State) : Prop :=
  s.pTxTs.tsAddBaTimer = true ∨
    s.pTxTs.txPendingBaRecord.bValid = true ∧ s.pTxTs.txPendingBaRecord.timer = true

instance (s : State) : Decidable s.hasTimer := inferInstanceAs (Decidable (_ ∨ _ ∧ _))

/-- `TsAddBaProcess` has a valid pending record to arm the setup timer for, or will have one. -/
def StartPc.acts (pendingValid : Bool) : StartPc → Bool
  | .idle => false
  | .arm => pendingValid
  | .valid | .deactivate | .delete | .fill | .activate => true

/-- A handler goes on to arm a timer for the flag, or to clear the flag. -/
def State.willAct (s : State) : Prop :=
  s.tx = .arm ∨ s.setup = .inProgress ∨ s.start.acts s.pTxTs.txPendingBaRecord.bValid = true

/-- The timers that are pending run off. -/
def expiries : List Event := List.replicate 7 .start ++ List.replicate 4 .setup

/-- A flag that is up has a timer, and expiries of the timers take it down. Where a handler is under
way it may still have to arm the timer. -/
structure Timed (s : State) : Prop where
  atRest : s.AtRest → s.pTxTs.bAddBaReqInProgress = true → s.hasTimer
  comesDown : s.AtRest → (exec step s expiries).pTxTs.bAddBaReqInProgress = false
  underWay : s.pTxTs.bAddBaReqInProgress = true → s.hasTimer ∨ s.willAct

/-! ## When it holds -/

/-- The tasklet has cleared `bAddBaReqInProgress`. -/
def RxPc.cleared : RxPc → Bool
  | .idle | .rspInProgress _ | .delbaUsingBa | .delbaInProgress => false
  | _ => true

def SetupPc.cleared : SetupPc → Bool
  | .idle | .inProgress => false
  | .delayed | .pending => true

def InactPc.busy : InactPc → Bool
  | .idle => false
  | .delete _ => true

/-- A handler that ends a negotiation or an agreement is past the point where it clears
`bAddBaReqInProgress`. `TxBaInactTimeout` does not clear it. -/
def State.removing (s : State) : Bool := s.rx.cleared || s.setup.cleared || s.inact.busy

/-- The flag is not set, and the pending record not made valid, while something is being removed.
There is no agreement yet when the flag is set. -/
def Clean (s : State) : Event → Prop
  | .tx => s.tx = .set → s.removing = false ∧ s.pTxTs.txAdmittedBaRecord.bValid = false
  | .start => s.start = .activate → s.removing = false
  | _ => True

/-! ## The invariant -/

/-- The tasklet has deleted the timer of the admitted record and not armed it. -/
def RxPc.admits : RxPc → Bool
  | .rspActivate _ | .rspArm _ => true
  | _ => false

def RxPc.arms : RxPc → Bool
  | .rspArm _ => true
  | _ => false

/-- `del_timer_sync` of the pending record comes next. -/
def RxPc.deletesPending : RxPc → Bool
  | .rspPendingTimer _ | .delete .pendingTimer => true
  | _ => false

/-- `del_timer_sync` of the admitted record comes next. -/
def RxPc.deletesAdmitted : RxPc → Bool
  | .rspAdmittedTimer _ | .delete .admittedTimer => true
  | _ => false

def InactPc.deletesPending : InactPc → Bool
  | .delete .pendingTimer => true
  | _ => false

def InactPc.deletesAdmitted : InactPc → Bool
  | .delete .admittedTimer => true
  | _ => false

/-- `TsInitAddBA` is about to make the pending record valid. -/
def StartPc.fills : StartPc → Bool
  | .delete | .fill | .activate => true
  | _ => false

/-- The timer of a record goes with its validity, up to the accesses that come next. -/
structure Records (s : State) : Prop where
  admitted : s.pTxTs.txAdmittedBaRecord.timer = true →
    s.pTxTs.txAdmittedBaRecord.bValid = true ∨ s.rx.deletesAdmitted = true ∨
      s.inact.deletesAdmitted = true
  admits : s.rx.admits = true → s.pTxTs.txAdmittedBaRecord.timer = false ∧ s.inact.busy = false
  arms : s.rx.arms = true → s.pTxTs.txAdmittedBaRecord.bValid = true
  pending : s.pTxTs.txPendingBaRecord.bValid = true →
    s.pTxTs.txPendingBaRecord.timer = true ∨ s.setup ≠ .idle ∨ s.start = .arm
  rxDeletes : s.rx.deletesPending = true → s.pTxTs.txPendingBaRecord.bValid = false
  inactDeletes : s.inact.deletesPending = true → s.pTxTs.txPendingBaRecord.bValid = false
  startFills : s.start.fills = true → s.pTxTs.txPendingBaRecord.bValid = false

structure Inv (s : State) : Prop extends Records s where
  kept : s.pTxTs.bAddBaReqInProgress = true → s.removing = false
  noAgreement : s.pTxTs.bAddBaReqInProgress = true → s.pTxTs.txAdmittedBaRecord.bValid = false
  timed : s.pTxTs.bAddBaReqInProgress = true → s.hasTimer ∨ s.willAct

theorem inv_added (ucTsid : BitVec 4) : Inv (State.added ucTsid) where
  admitted := nofun
  admits := nofun
  arms := nofun
  pending := nofun
  rxDeletes := nofun
  inactDeletes := nofun
  startFills := nofun
  kept := nofun
  noAgreement := nofun
  timed := nofun

section Steps

variable {s : State}

theorem Records.inv (h : Records s) (hdown : s.pTxTs.bAddBaReqInProgress = false) : Inv s where
  toRecords := h
  kept hprog := by simp [hdown] at hprog
  noAgreement hprog := by simp [hdown] at hprog
  timed hprog := by simp [hdown] at hprog

theorem Inv.down (h : Inv s) (hremoving : s.removing = true) : s.pTxTs.bAddBaReqInProgress = false := by
  by_contra hprog
  have hkept := h.kept (by simpa using hprog)
  rw [hremoving] at hkept
  cases hkept

theorem RxPc.cleared_of_deletesPending {rx : RxPc} (h : rx.deletesPending = true) : rx.cleared = true := by
  cases rx <;> first | rfl | cases h

theorem RxPc.cleared_of_deletesAdmitted {rx : RxPc} (h : rx.deletesAdmitted = true) :
    rx.cleared = true := by
  cases rx <;> first | rfl | cases h

theorem InactPc.busy_of_deletesPending {inact : InactPc} (h : inact.deletesPending = true) :
    inact.busy = true := by
  cases inact <;> first | rfl | cases h

theorem InactPc.busy_of_deletesAdmitted {inact : InactPc} (h : inact.deletesAdmitted = true) :
    inact.busy = true := by
  cases inact <;> first | rfl | cases h

theorem RxPc.admits_of_arms {rx : RxPc} (h : rx.arms = true) : rx.admits = true := by
  cases rx <;> first | rfl | cases h

theorem rspDecides_cases (a : Action) : rspDecides a = .rspDelayed a ∨ rspDecides a = .rspFill a := by
  unfold rspDecides
  split
  · split
    · exact .inl rfl
    · exact .inr rfl
  · exact .inl rfl

theorem Inv.noInactivity (h : Inv s) (htimer : s.pTxTs.txAdmittedBaRecord.timer = true) :
    s.pTxTs.bAddBaReqInProgress = false := by
  by_contra hprog
  rw [Bool.not_eq_false] at hprog
  have hkept := h.kept hprog
  simp only [State.removing, Bool.or_eq_false_iff] at hkept
  rcases h.admitted htimer with hvalid | hrx | hinact
  · simp [h.noAgreement hprog] at hvalid
  · simp [RxPc.cleared_of_deletesAdmitted hrx] at hkept
  · simp [InactPc.busy_of_deletesAdmitted hinact] at hkept

theorem inv_tx (h : Inv s) (hclean : Clean s .tx) : Inv (txStep s) := by
  obtain ⟨pTxTs, tx, start, setup, inact, rx⟩ := s
  cases tx with
  | idle => exact h
  | disabled =>
    exact { h with
      timed := fun hprog => (h.timed hprog).imp_right fun hact => .inr (hact.resolve_left (by rintro ⟨⟩)) }
  | inProgress =>
    exact { h with
      timed := fun hprog => (h.timed hprog).imp_right fun hact => .inr (hact.resolve_left (by rintro ⟨⟩)) }
  | set =>
    obtain ⟨hkept, hno⟩ := hclean rfl
    exact { h with
      kept := fun _ => hkept
      noAgreement := fun _ => hno
      timed := fun _ => .inr (.inl rfl) }
  | arm => exact { h with timed := fun _ => .inl (.inl rfl) }

theorem removing_eq_false_iff : s.removing = false ↔
    s.rx.cleared = false ∧ s.setup.cleared = false ∧ s.inact.busy = false := by
  simp [State.removing, and_assoc]

/-- A pending record that is found valid has its timer, or its timeout is under way. -/
theorem Inv.found (h : Inv s) (hstart : s.start = .valid)
    (hvalid : s.pTxTs.txPendingBaRecord.bValid = true)
    (hprog : s.pTxTs.bAddBaReqInProgress = true) : s.hasTimer ∨ s.setup = .inProgress := by
  rcases h.pending hvalid with htimer | hsetup | harm
  · exact .inl (.inr ⟨hvalid, htimer⟩)
  · right
    have hcleared := (removing_eq_false_iff.mp (h.kept hprog)).2.1
    cases hpc : s.setup with
    | idle => exact absurd hpc hsetup
    | inProgress => rfl
    | delayed | pending =>
      rw [hpc] at hcleared
      cases hcleared
  · rw [hstart] at harm
    cases harm

theorem inv_start (h : Inv s) (hclean : Clean s .start) : Inv (startStep s) := by
  obtain ⟨pTxTs, tx, start, setup, inact, rx⟩ := s
  cases start with
  | idle =>
    unfold startStep
    simp only
    split
    · exact { h with
        pending := fun hvalid => (h.pending hvalid).imp_right (·.imp_right (by rintro ⟨⟩))
        startFills := by rintro ⟨⟩
        timed := fun _ => .inr (.inr (.inr rfl)) }
    · exact h
  | valid =>
    cases hvalid : pTxTs.txPendingBaRecord.bValid with
    | true =>
      simp only [startStep, hvalid, if_true]
      exact { h with
        pending := fun hvalid => (h.pending hvalid).imp_right (·.imp_right (by rintro ⟨⟩))
        startFills := by rintro ⟨⟩
        timed := fun hprog => (h.found rfl hvalid hprog).imp_right fun hsetup => .inr (.inl hsetup) }
    | false =>
      simp only [startStep, hvalid, Bool.false_eq_true, if_false]
      exact { h with
        pending := fun hvalid => (h.pending hvalid).imp_right (·.imp_right (by rintro ⟨⟩))
        startFills := by rintro ⟨⟩
        timed := fun _ => .inr (.inr (.inr rfl)) }
  | deactivate =>
    exact { h with
      pending := by rintro ⟨⟩
      rxDeletes := fun _ => rfl
      inactDeletes := fun _ => rfl
      startFills := fun _ => rfl
      timed := fun _ => .inr (.inr (.inr rfl)) }
  | delete =>
    unfold startStep
    simp only
    split
    next hidle =>
      have hinvalid : pTxTs.txPendingBaRecord.bValid = false := h.startFills rfl
      exact { h with
        pending := fun hvalid => by simp [hinvalid] at hvalid
        startFills := fun _ => hinvalid
        timed := fun _ => .inr (.inr (.inr rfl)) }
    next => exact h
  | fill =>
    exact { h with
      pending := fun hvalid => (h.pending hvalid).imp_right (·.imp_right (by rintro ⟨⟩))
      timed := fun _ => .inr (.inr (.inr rfl)) }
  | activate =>
    obtain ⟨hrx, -, hinact⟩ := removing_eq_false_iff.mp (hclean rfl)
    have hnorx (hdeletes : rx.deletesPending = true) : False :=
      Bool.false_ne_true (hrx.symm.trans (RxPc.cleared_of_deletesPending hdeletes))
    have hnoinact (hdeletes : inact.deletesPending = true) : False :=
      Bool.false_ne_true (hinact.symm.trans (InactPc.busy_of_deletesPending hdeletes))
    exact { h with
      pending := fun _ => .inr (.inr rfl)
      rxDeletes := fun hdeletes => (hnorx hdeletes).elim
      inactDeletes := fun hdeletes => (hnoinact hdeletes).elim
      startFills := by rintro ⟨⟩
      timed := fun _ => .inr (.inr (.inr rfl)) }
  | arm =>
    exact { h with
      pending := fun _ => .inl rfl
      startFills := by rintro ⟨⟩
      timed := fun hprog => by
        rcases h.timed hprog with (htimer | ⟨hvalid, -⟩) | htx | hsetup | hvalid
        · exact .inl (.inl htimer)
        · exact .inl (.inr ⟨hvalid, rfl⟩)
        · exact .inr (.inl htx)
        · exact .inr (.inr (.inl hsetup))
        · exact .inl (.inr ⟨hvalid, rfl⟩) }

theorem inv_setup (h : Inv s) : Inv (setupStep s) := by
  obtain ⟨pTxTs, tx, start, setup, inact, rx⟩ := s
  cases setup with
  | idle =>
    unfold setupStep
    simp only
    split
    · exact { h with
        pending := fun _ => .inr (.inl (by rintro ⟨⟩))
        timed := fun _ => .inr (.inr (.inl rfl)) }
    · exact h
  | inProgress =>
    exact Records.inv { h.toRecords with
      pending := fun _ => .inr (.inl (by rintro ⟨⟩)) } rfl
  | delayed =>
    exact Records.inv { h.toRecords with
      pending := fun _ => .inr (.inl (by rintro ⟨⟩)) } (h.down (by simp [State.removing, SetupPc.cleared]))
  | pending =>
    exact Records.inv { h.toRecords with
      pending := by rintro ⟨⟩
      rxDeletes := fun _ => rfl
      inactDeletes := fun _ => rfl
      startFills := fun _ => rfl } (h.down (by simp [State.removing, SetupPc.cleared]))

theorem inv_inact (h : Inv s) : Inv (inactStep s) := by
  obtain ⟨pTxTs, tx, start, setup, inact, rx⟩ := s
  cases inact with
  | idle =>
    unfold inactStep
    simp only
    split
    next htimer =>
      exact Records.inv { h.toRecords with
        admitted := by rintro ⟨⟩
        admits := fun hadmits =>
          (Bool.false_ne_true ((h.admits hadmits).1.symm.trans htimer)).elim
        inactDeletes := by rintro ⟨⟩ } (h.noInactivity htimer)
    next => exact h
  | delete pc =>
    have hdown : pTxTs.bAddBaReqInProgress = false := h.down (by simp [State.removing, InactPc.busy])
    cases pc with
    | pending =>
      cases hvalid : pTxTs.txPendingBaRecord.bValid with
      | true =>
        simp only [inactStep, deleteStep, hvalid, if_true]
        exact Records.inv { h.toRecords with } hdown
      | false =>
        simp only [inactStep, deleteStep, hvalid, Bool.false_eq_true, if_false]
        exact Records.inv { h.toRecords with } hdown
    | pendingValid =>
      exact Records.inv { h.toRecords with
        pending := by rintro ⟨⟩
        rxDeletes := fun _ => rfl
        inactDeletes := fun _ => rfl
        startFills := fun _ => rfl } hdown
    | pendingTimer =>
      have hinvalid : pTxTs.txPendingBaRecord.bValid = false := h.inactDeletes rfl
      by_cases hidle : setup = .idle
      · simp only [inactStep, deleteStep, hidle, decide_true, if_true]
        exact Records.inv { h.toRecords with
          pending := fun hvalid => by simp [hinvalid] at hvalid
          inactDeletes := by rintro ⟨⟩ } hdown
      · simp only [inactStep, deleteStep, hidle, decide_false, Bool.false_eq_true, if_false]
        exact h
    | admitted =>
      cases hvalid : pTxTs.txAdmittedBaRecord.bValid with
      | true =>
        simp only [inactStep, deleteStep, hvalid, if_true]
        exact Records.inv { h.toRecords with } hdown
      | false =>
        simp only [inactStep, deleteStep, hvalid, Bool.false_eq_true, if_false]
        exact Records.inv { h.toRecords with
          admits := fun hrx => (Bool.false_ne_true (h.admits hrx).2.symm).elim } hdown
    | admittedValid =>
      exact Records.inv { h.toRecords with
        admitted := fun _ => .inr (.inr rfl)
        arms := fun harms => by cases (h.admits (RxPc.admits_of_arms harms)).2 } hdown
    | admittedTimer =>
      exact Records.inv { h.toRecords with
        admitted := by rintro ⟨⟩
        admits := fun _ => ⟨rfl, rfl⟩ } hdown

theorem inv_rxDelete {pTxTs : TxTs} {tx : TxPc} {start : StartPc} {setup : SetupPc} {inact : InactPc}
    {pc : DeletePc} (h : Inv ⟨pTxTs, tx, start, setup, inact, .delete pc⟩) :
    Inv (rxStep ⟨pTxTs, tx, start, setup, inact, .delete pc⟩) := by
  -- One access of `TxTsDeleteBA` in the tasklet.
  have hdown : pTxTs.bAddBaReqInProgress = false := h.down (by simp [State.removing, RxPc.cleared])
  cases pc with
  | pending =>
    cases hvalid : pTxTs.txPendingBaRecord.bValid with
    | true =>
      simp only [rxStep, deleteStep, hvalid, if_true]
      exact Records.inv { h.toRecords with } hdown
    | false =>
      simp only [rxStep, deleteStep, hvalid, Bool.false_eq_true, if_false]
      exact Records.inv { h.toRecords with } hdown
  | pendingValid =>
    exact Records.inv { h.toRecords with
      pending := by rintro ⟨⟩
      rxDeletes := fun _ => rfl
      inactDeletes := fun _ => rfl
      startFills := fun _ => rfl } hdown
  | pendingTimer =>
    have hinvalid : pTxTs.txPendingBaRecord.bValid = false := h.rxDeletes rfl
    by_cases hidle : setup = .idle
    · simp only [rxStep, deleteStep, hidle, decide_true, if_true]
      exact Records.inv { h.toRecords with
        pending := fun hvalid => by simp [hinvalid] at hvalid
        rxDeletes := by rintro ⟨⟩ } hdown
    · simp only [rxStep, deleteStep, hidle, decide_false, Bool.false_eq_true, if_false]
      exact h
  | admitted =>
    cases hvalid : pTxTs.txAdmittedBaRecord.bValid with
    | true =>
      simp only [rxStep, deleteStep, hvalid, if_true]
      exact Records.inv { h.toRecords with } hdown
    | false =>
      simp only [rxStep, deleteStep, hvalid, Bool.false_eq_true, if_false]
      exact Records.inv { h.toRecords with } hdown
  | admittedValid =>
    exact Records.inv { h.toRecords with
      admitted := fun _ => .inr (.inl rfl)
      arms := by rintro ⟨⟩ } hdown
  | admittedTimer =>
    by_cases hidle : inact = .idle
    · subst hidle
      exact Records.inv { h.toRecords with
        admitted := by rintro ⟨⟩
        admits := by rintro ⟨⟩ } hdown
    · simp only [rxStep, deleteStep, hidle, decide_false, Bool.false_eq_true, if_false]
      exact h

theorem inv_rspPendingTimer {pTxTs : TxTs} {tx : TxPc} {start : StartPc} {setup : SetupPc}
    {inact : InactPc} {a : Action} (h : Inv ⟨pTxTs, tx, start, setup, inact, .rspPendingTimer a⟩) :
    Inv (rxStep ⟨pTxTs, tx, start, setup, inact, .rspPendingTimer a⟩) := by
  -- The record is not valid any more, so that nothing is said about its timer.
  have hdown : pTxTs.bAddBaReqInProgress = false := h.down (by simp [State.removing, RxPc.cleared])
  have hinvalid : pTxTs.txPendingBaRecord.bValid = false := h.rxDeletes rfl
  have hpending : ¬ pTxTs.txPendingBaRecord.bValid = true := by simp [hinvalid]
  by_cases hidle : setup = .idle
  · simp only [rxStep, if_pos hidle]
    rcases rspDecides_cases a with heq | heq
    · rw [heq]
      exact Records.inv { h.toRecords with
        pending := fun hvalid => absurd hvalid hpending
        rxDeletes := by rintro ⟨⟩ } hdown
    · rw [heq]
      exact Records.inv { h.toRecords with
        pending := fun hvalid => absurd hvalid hpending
        rxDeletes := by rintro ⟨⟩ } hdown
  · simp only [rxStep, if_neg hidle]
    exact h

theorem inv_rspAdmittedTimer {pTxTs : TxTs} {tx : TxPc} {start : StartPc} {setup : SetupPc}
    {inact : InactPc} {a : Action} (h : Inv ⟨pTxTs, tx, start, setup, inact, .rspAdmittedTimer a⟩) :
    Inv (rxStep ⟨pTxTs, tx, start, setup, inact, .rspAdmittedTimer a⟩) := by
  have hdown : pTxTs.bAddBaReqInProgress = false := h.down (by simp [State.removing, RxPc.cleared])
  by_cases hidle : inact = .idle
  · subst hidle
    by_cases hpolicy : BaParamSet.baPolicy (rspParamSet a) = baPolicyDelayed
    · simp only [rxStep, if_true, if_pos hpolicy]
      exact Records.inv { h.toRecords with
        admitted := by rintro ⟨⟩
        admits := by rintro ⟨⟩ } hdown
    · simp only [rxStep, if_true, if_neg hpolicy]
      exact Records.inv { h.toRecords with
        admitted := by rintro ⟨⟩
        admits := fun _ => ⟨rfl, rfl⟩ } hdown
  · simp only [rxStep, if_neg hidle]
    exact h

theorem inv_rx (h : Inv s) : Inv (rxStep s) := by
  obtain ⟨pTxTs, tx, start, setup, inact, rx⟩ := s
  have hdown (hcleared : rx.cleared = true) : pTxTs.bAddBaReqInProgress = false :=
    h.down (by simp [State.removing, hcleared])
  cases rx with
  | idle => exact h
  | rspInProgress a => exact Records.inv { h.toRecords with } rfl
  | rspAdmitted a =>
    cases hvalid : pTxTs.txAdmittedBaRecord.bValid with
    | true =>
      simp only [rxStep, hvalid, if_true]
      exact Records.inv { h.toRecords with } (hdown rfl)
    | false =>
      simp only [rxStep, hvalid, Bool.false_eq_true, if_false]
      exact Records.inv { h.toRecords with } (hdown rfl)
  | rspPending a =>
    cases hvalid : pTxTs.txPendingBaRecord.bValid with
    | true =>
      simp only [rxStep, hvalid, if_true]
      exact Records.inv { h.toRecords with } (hdown rfl)
    | false =>
      simp only [rxStep, hvalid, Bool.false_eq_true, if_false]
      exact Records.inv { h.toRecords with } (hdown rfl)
  | rspToken a =>
    by_cases htoken : dialogToken a ≠ pTxTs.txPendingBaRecord.dialogToken
    · simp only [rxStep, if_pos htoken]
      exact Records.inv { h.toRecords with } (hdown rfl)
    · simp only [rxStep, if_neg htoken]
      exact Records.inv { h.toRecords with } (hdown rfl)
  | rspPendingValid a =>
    exact Records.inv { h.toRecords with
      pending := by rintro ⟨⟩
      rxDeletes := fun _ => rfl
      inactDeletes := fun _ => rfl
      startFills := fun _ => rfl } (hdown rfl)
  | rspPendingTimer a => exact inv_rspPendingTimer h
  | rspDelayed a =>
    by_cases hstatus : statusCode a = addbaStatusSuccess
    · simp only [rxStep, if_pos hstatus]
      exact Records.inv { h.toRecords with } (hdown rfl)
    · simp only [rxStep, if_neg hstatus]
      exact Records.inv { h.toRecords with } (hdown rfl)
  | rspDisable => exact Records.inv { h.toRecords with } (hdown rfl)
  | rspFill a => exact Records.inv { h.toRecords with } (hdown rfl)
  | rspAdmittedValid a =>
    exact Records.inv { h.toRecords with
      admitted := fun _ => .inr (.inl rfl)
      arms := by rintro ⟨⟩ } (hdown rfl)
  | rspAdmittedTimer a => exact inv_rspAdmittedTimer h
  | rspActivate a =>
    exact Records.inv { h.toRecords with
      admitted := fun _ => .inl rfl
      arms := fun _ => rfl } (hdown rfl)
  | rspArm a =>
    exact Records.inv { h.toRecords with
      admitted := fun _ => .inl (h.arms rfl)
      admits := by rintro ⟨⟩
      arms := by rintro ⟨⟩ } (hdown rfl)
  | delbaUsingBa => exact { h with }
  | delbaInProgress => exact Records.inv { h.toRecords with } rfl
  | delbaDelayed => exact Records.inv { h.toRecords with } (hdown rfl)
  | delbaTimer =>
    by_cases hidle : start = .idle
    · simp only [rxStep, if_pos hidle]
      exact Records.inv { h.toRecords with } (hdown rfl)
    · simp only [rxStep, if_neg hidle]
      exact h
  | delete pc => exact inv_rxDelete h

theorem inv_txQueryAggCap (h : Inv s) (hidle : s.tx = .idle) (env : AggCapEnv) :
    Inv (rtllibTxQueryAggCap env s) := by
  obtain ⟨pTxTs, tx, start, setup, inact, rx⟩ := s
  subst hidle
  unfold rtllibTxQueryAggCap
  split_ifs
  · exact h
  · exact h
  · exact h
  · exact { h with
      timed := fun hprog => (h.timed hprog).imp_right fun hact => .inr (hact.resolve_left (by rintro ⟨⟩)) }
  · exact { h with }
  · exact h

theorem inv_rxAddbaRsp (h : Inv s) (hidle : s.rx = .idle) (a : Action) :
    Inv (rtllibRxAddbaRsp a s) := by
  obtain ⟨pTxTs, tx, start, setup, inact, rx⟩ := s
  subst hidle
  unfold rtllibRxAddbaRsp
  split_ifs
  · exact h
  · exact h
  · exact { h with }
  · exact h

theorem inv_rxDelba (h : Inv s) (hidle : s.rx = .idle) (a : Action) : Inv (rtllibRxDelba a s) := by
  obtain ⟨pTxTs, tx, start, setup, inact, rx⟩ := s
  subst hidle
  unfold rtllibRxDelba
  split_ifs
  · exact h
  · exact h
  · exact h
  · exact { h with }
  · exact h

end Steps

theorem inv_step (s : State) (e : Event) (h : Inv s) (hclean : Clean s e) : Inv (step s e) := by
  cases e with
  | txQueryAggCap env =>
    simp only [step]
    split
    next hidle => exact inv_txQueryAggCap h hidle env
    next => exact h
  | querySeqnum => exact { h with }
  | rxAddbaRsp a =>
    simp only [step]
    split
    next hidle => exact inv_rxAddbaRsp h hidle a
    next => exact h
  | rxDelba a =>
    simp only [step]
    split
    next hidle => exact inv_rxDelba h hidle a
    next => exact h
  | tx => exact inv_tx h hclean
  | start => exact inv_start h hclean
  | setup => exact inv_setup h
  | inact => exact inv_inact h
  | rx => exact inv_rx h

/-! ## The flag comes down -/

theorem State.AtRest.eq_resting {s : State} (h : s.AtRest) : s = resting s.pTxTs := by
  obtain ⟨pTxTs, tx, start, setup, inact, rx⟩ := s
  obtain ⟨rfl, rfl, rfl, rfl, rfl⟩ := h
  rfl

theorem Inv.progressing {pTxTs : TxTs} (h : Inv (resting pTxTs)) (sent : List Negotiation.Sent) :
    Progressing ⟨pTxTs, sent⟩ where
  setup hvalid := (h.pending hvalid).resolve_right fun hbusy => hbusy.elim (absurd rfl) nofun
  inactivity htimer := (h.admitted htimer).resolve_right fun hbusy => hbusy.elim nofun nofun
  notAdmitted := h.noAgreement
  timer hprog := by
    rcases h.timed hprog with (htimer | ⟨hvalid, -⟩) | hact
    · exact .inl htimer
    · exact .inr hvalid
    · simp [State.willAct, resting, StartPc.acts] at hact

theorem timed_of_inv {s : State} (h : Inv s) : Timed s where
  atRest hrest hprog := by
    rw [hrest.eq_resting] at h
    have hprogress := h.progressing []
    exact (hprogress.timer hprog).imp_right fun hvalid => ⟨hvalid, hprogress.setup hvalid⟩
  comesDown hrest := by
    rw [hrest.eq_resting] at h ⊢
    rw [expiries, exec_append, start_alone _ true [],
      setup_alone _ (Negotiation.step ⟨s.pTxTs, []⟩ (.tsAddBaProcess true)).sent]
    exact (h.progressing []).comesDown true
  underWay := h.timed

/-! ## Runs -/

/-- A flag that is up has a timer that takes it down in every run in which nothing is being removed
when the transmit path sets it or when a request goes out. -/
theorem inProgress_timed_of_clean (ucTsid : BitVec 4) (es : List Event)
    (hclean : Meets step Clean (State.added ucTsid) es) :
    ∀ fs, fs <+: es → Timed (exec step (State.added ucTsid) fs) := by
  intro fs hfs
  exact timed_of_inv (exec_inv_before inv_step (inv_added ucTsid) hclean fs hfs)

instance (s : State) (e : Event) : Decidable (Clean s e) := by
  unfold Clean
  cases e <;> infer_instance

/-- `aggEnv` and the four accesses that arm the start timer -/
def attempt : List Event := .txQueryAggCap aggEnv :: List.replicate 4 .tx

/-- The station asks, and a second frame to send comes between the accesses of the start timer's
handler. The peer refuses with another token, and another attempt comes before the next request. -/
def busyMorning : List Event :=
  attempt ++ [.start, .start, .txQueryAggCap aggEnv, .start, .tx, .start, .start, .tx, .start, .start] ++
    .rxAddbaRsp (acceptedWith 9) :: List.replicate 4 .rx ++ attempt

theorem inProgress_timed_of_clean_busyMorning :
    (exec step (State.added 5) busyMorning).pTxTs.bAddBaReqInProgress = true ∧
      Timed (exec step (State.added 5) busyMorning) :=
  ⟨by decide, inProgress_timed_of_clean 5 busyMorning (by decide) busyMorning (List.prefix_refl _)⟩

def delba : Action where
  ieee := ⟨fun _ => 1, fun _ => 1, true, true, true, false, false, false⟩
  finds := fun _ _ => true
  mem := fun _ => 0
  len := 30

/-- The transmit path sets the flag and arms the start timer after the DELBA cleared the flag, and the
DELBA deletes the timer. -/
def crossing : List Event :=
  .rxDelba delba :: [.rx, .rx] ++ attempt ++ List.replicate 4 .rx

/-- After the crossing no handler is under way, the flag is up and no timer is pending. -/
theorem not_always_timed :
    ¬ ∀ (ucTsid : BitVec 4) (es : List Event), Timed (exec step (State.added ucTsid) es) := by
  intro h
  have htimer := (h 5 crossing).atRest ⟨by decide, by decide, by decide, by decide, rfl⟩ (by decide)
  exact absurd htimer (by decide)

/-- The flag is up, and no timer and no handler is left to take it down. -/
structure Wedged (s : State) : Prop where
  inProgress : s.pTxTs.bAddBaReqInProgress = true
  tsAddBaTimer : s.pTxTs.tsAddBaTimer = false
  pending : s.pTxTs.txPendingBaRecord.timer = false
  admitted : s.pTxTs.txAdmittedBaRecord.timer = false
  tx : s.tx = .idle ∨ s.tx = .disabled ∨ s.tx = .inProgress
  start : s.start = .idle
  setup : s.setup = .idle
  inact : s.inact = .idle
  rx : s.rx = .idle

/-- No frame of the peer comes to the negotiation. -/
def Unheard (_ : State) : Event → Prop
  | .rxAddbaRsp _ | .rxDelba _ => False
  | _ => True

theorem wedged_step (s : State) (e : Event) (h : Wedged s) (hunheard : Unheard s e) :
    Wedged (step s e) := by
  obtain ⟨pTxTs, tx, start, setup, inact, rx⟩ := s
  obtain ⟨(hprog : pTxTs.bAddBaReqInProgress = true), (hstartTimer : pTxTs.tsAddBaTimer = false),
    (hpending : pTxTs.txPendingBaRecord.timer = false),
    (hadmitted : pTxTs.txAdmittedBaRecord.timer = false), htx, rfl, rfl, rfl, rfl⟩ := h
  have hwedged {tx : TxPc} (htx : tx = .idle ∨ tx = .disabled ∨ tx = .inProgress) :
      Wedged ⟨pTxTs, tx, .idle, .idle, .idle, .idle⟩ :=
    ⟨hprog, hstartTimer, hpending, hadmitted, htx, rfl, rfl, rfl, rfl⟩
  cases e with
  | txQueryAggCap env =>
    simp only [step, rtllibTxQueryAggCap]
    split_ifs
    · exact hwedged htx
    · exact hwedged htx
    · exact hwedged htx
    · exact hwedged (.inr (.inl rfl))
    · exact ⟨hprog, hstartTimer, hpending, hadmitted, htx, rfl, rfl, rfl, rfl⟩
    · exact hwedged htx
    · exact hwedged htx
  | querySeqnum => exact ⟨hprog, hstartTimer, hpending, hadmitted, htx, rfl, rfl, rfl, rfl⟩
  | rxAddbaRsp a => exact hunheard.elim
  | rxDelba a => exact hunheard.elim
  | tx =>
    rcases htx with rfl | rfl | rfl
    · exact hwedged (.inl rfl)
    · simp only [step, txStep]
      apply hwedged
      split
      · exact .inl rfl
      · exact .inr (.inr rfl)
    · simp only [step, txStep, hprog, if_true]
      exact hwedged (.inl rfl)
  | start =>
    simp only [step, startStep, hstartTimer, Bool.false_eq_true, if_false]
    exact hwedged htx
  | setup =>
    simp only [step, setupStep, hpending, Bool.false_eq_true, if_false]
    exact hwedged htx
  | inact =>
    simp only [step, inactStep, hadmitted, Bool.false_eq_true, if_false]
    exact hwedged htx
  | rx => exact hwedged htx

theorem wedged_stays {s : State} (h : Wedged s) {es : List Event} (hes : Meets step Unheard s es) :
    Wedged (exec step s es) :=
  exec_inv wedged_step h hes

example : Wedged (exec step (State.added 5) crossing) :=
  ⟨by decide, by decide, by decide, by decide, .inl (by decide), by decide, by decide, by decide, rfl⟩

end Rtl8190.BlockAck.Interleaved
