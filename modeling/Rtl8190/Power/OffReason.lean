import Rtl8190.Power.RfCode

/-!
# The off reason and the RF state

`RfOffReason` is a set of sources, and `RF_CHANGE_BY_INIT` is the empty one. The driver uses it to
turn the RF off when it suspends, and leaves the reasons as they are.
-/

open Rtl8190.Registers Rtl8190.Run

namespace Rtl8190.Power

variable (rfType : RfType)

/-! ## The functions refine the sections under the flag -/

theorem mgntActSetRFState_radio (req : RfRequest) (s : Rf) (hw : Hw)
    (hhw : hw.rfPower = !s.setRFPowerStateInProgress) :
    ((mgntActSetRFState rfType false req s).1.radio, (mgntActSetRFState rfType false req s).2) =
      rfAction s.radio req hw := by
  -- What the functions do with the radio is what `rfAction` says.
  have hset : ∀ (r : Radio) (st : RfPowerState),
      (setRFPowerState rfType st { s with radio := r }).1.radio = phySetRFPowerState r st hw := by
    intro r st
    unfold setRFPowerState setRFPowerState8190 phySetRFPowerState
    rw [hhw]
    dsimp only
    by_cases hst : st = r.eRFPowerState
    · rw [if_pos hst, if_pos hst]
    · rw [if_neg hst, if_neg hst]
      cases s.setRFPowerStateInProgress <;> rfl
  obtain ⟨st, src⟩ := req
  unfold mgntActSetRFState rfAction
  cases st with
  | eRfOn =>
    dsimp only
    rw [if_neg Bool.false_ne_true]
    generalize requestOn s.radio src = q
    obtain ⟨r, bActionAllowed, bConnectBySSID⟩ := q
    cases bActionAllowed with
    | false => rfl
    | true =>
      dsimp only
      rw [if_pos rfl, if_pos rfl, ← hset]
      split <;> rfl
  | eRfSleep => exact Prod.ext (hset _ _) rfl
  | eRfOff => exact Prod.ext (hset _ _) rfl

/-! ## What the property says -/

def OffReasonAgrees (s : Rf) : Prop :=
  s.radio.rfOffReason = 0 ↔ s.radio.eRFPowerState = .eRfOn

instance : DecidablePred OffReasonAgrees := fun s =>
  inferInstanceAs (Decidable (s.radio.rfOffReason = 0 ↔ s.radio.eRFPowerState = .eRfOn))

/-- The registers that the last effective change wrote are those of the recorded state. -/
def RegistersAgree (s : Rf) : Prop :=
  ∀ st, s.lastSet = some st →
    s.radio.eRFPowerState = st ∧ ∀ f ∈ rfFields rfType st, f.Holds s.regs

/-- The source that asks for the RF to be turned on. -/
def RfEvent.onSource : RfEvent → Option RfChangeSource
  | .setRfState _ ⟨.eRfOn, src⟩ => some src
  | .ipsLeave _ => some rfChangeByIps
  | _ => none

/-- If the step turns the RF on, no other source has its reason recorded. -/
def TurnsOnAlone (s : Rf) (e : RfEvent) : Prop :=
  s.radio.eRFPowerState ≠ .eRfOn → (rfStep rfType s e).radio.eRFPowerState = .eRfOn →
    ∃ src, e.onSource = some src ∧ s.radio.rfOffReason &&& ~~~src = 0

/-- No source without a reason turns the RF off or puts it to sleep. -/
def NotInitOff (s : Rf) : RfEvent → Prop
  | .setRfState refused req =>
    refused = false → req.stateToSet ≠ .eRfOn → s.radio.eRFPowerState = .eRfOn →
      req.changeSource ≠ rfChangeByInit
  | _ => True

structure Rf.Start (s : Rf) : Prop where
  agrees : OffReasonAgrees s
  idle : s.setRFPowerStateInProgress = false
  lastSet : s.lastSet = none

/-! ## The parts -/

theorem rfFields_fit (st : RfPowerState) : ∀ f ∈ rfFields rfType st, f.Fits := by
  cases rfType <;> cases st <;> decide +kernel

theorem rfFields_apart (st : RfPowerState) : (rfFields rfType st).Pairwise Field.Apart := by
  cases rfType <;> cases st <;> decide +kernel

theorem holds_rfFields (st : RfPowerState) (r : Regs) :
    ∀ f ∈ rfFields rfType st, f.Holds ((rfFields rfType st).foldl Field.write r) :=
  Field.holds_writes (rfFields_fit rfType st) (rfFields_apart rfType st) r

structure Changed (s : Rf) (st : RfPowerState) (s' : Rf) : Prop where
  state : s'.radio.eRFPowerState = st
  reason : s'.radio.rfOffReason = s.radio.rfOffReason
  idle : s'.setRFPowerStateInProgress = false
  registers : RegistersAgree rfType s → RegistersAgree rfType s'

theorem setRFPowerState_changed {s : Rf} (h : s.setRFPowerStateInProgress = false)
    (st : RfPowerState) : Changed rfType s st (setRFPowerState rfType st s).1 := by
  unfold setRFPowerState
  by_cases hst : st = s.radio.eRFPowerState
  · rw [if_pos hst]
    exact ⟨hst.symm, rfl, h, id⟩
  · rw [if_neg hst]
    unfold setRFPowerState8190
    rw [h]
    refine ⟨rfl, rfl, rfl, ?_⟩
    intro _ st' hst'
    cases hst'
    exact ⟨rfl, holds_rfFields rfType st s.regs⟩

theorem requestOn_eq (r : Radio) (src : RfChangeSource) :
    (requestOn r src).1.rfOffReason = r.rfOffReason &&& ~~~src ∧
      (requestOn r src).1.eRFPowerState = r.eRFPowerState ∧
      ((requestOn r src).2.1 = true ↔ r.rfOffReason &&& ~~~src = 0) := by
  unfold requestOn
  dsimp only
  by_cases hhw : src = rfChangeByHw ∧ r.bHwRadioOff = true
  · simp only [if_pos hhw]
    by_cases hzero : r.rfOffReason &&& ~~~src = 0
    · rw [if_pos hzero]
      exact ⟨rfl, rfl, fun _ => hzero, fun _ => rfl⟩
    · rw [if_neg hzero]
      exact ⟨rfl, rfl, fun h => absurd h Bool.false_ne_true, fun h => absurd h hzero⟩
  · simp only [if_neg hhw]
    by_cases hzero : r.rfOffReason &&& ~~~src = 0
    · rw [if_pos hzero]
      exact ⟨rfl, rfl, fun _ => hzero, fun _ => rfl⟩
    · rw [if_neg hzero]
      exact ⟨rfl, rfl, fun h => absurd h Bool.false_ne_true, fun h => absurd h hzero⟩

theorem requestOff_eq (r : Radio) (src : RfChangeSource) :
    (requestOff r src).rfOffReason = r.rfOffReason ||| src ∧
      (requestOff r src).eRFPowerState = r.eRFPowerState := by
  have hdisconnect : ∀ r' : Radio, (mgntDisconnect r').rfOffReason = r'.rfOffReason ∧
      (mgntDisconnect r').eRFPowerState = r'.eRFPowerState := by
    intro r'
    unfold mgntDisconnect
    split <;> exact ⟨rfl, rfl⟩
  unfold requestOff
  dsimp only
  split
  · split
    · exact ⟨congrArg (· ||| src) (hdisconnect _).1, (hdisconnect _).2⟩
    · exact ⟨congrArg (· ||| src) (hdisconnect _).1, (hdisconnect _).2⟩
  · split <;> exact ⟨rfl, rfl⟩

inductive Answered (r : Radio) (req : RfRequest) (r' : Radio) : Prop where
  | rejected (hreq : req.stateToSet = .eRfOn) (hother : r.rfOffReason &&& ~~~req.changeSource ≠ 0)
      (hreason : r'.rfOffReason = r.rfOffReason &&& ~~~req.changeSource)
      (hstate : r'.eRFPowerState = r.eRFPowerState)
  | on (hreq : req.stateToSet = .eRfOn) (hother : r.rfOffReason &&& ~~~req.changeSource = 0)
      (hreason : r'.rfOffReason = 0) (hstate : r'.eRFPowerState = .eRfOn)
  | off (hreq : req.stateToSet ≠ .eRfOn)
      (hreason : r'.rfOffReason = r.rfOffReason ||| req.changeSource)
      (hstate : r'.eRFPowerState = req.stateToSet)

/-- What a call keeps whatever it is asked. -/
structure Sound (s s' : Rf) : Prop where
  idle : s'.setRFPowerStateInProgress = false
  registers : RegistersAgree rfType s → RegistersAgree rfType s'

theorem RegistersAgree.radio {s : Rf} (h : RegistersAgree rfType s) {r : Radio}
    (hr : r.eRFPowerState = s.radio.eRFPowerState) : RegistersAgree rfType { s with radio := r } := by
  intro st hst
  exact ⟨hr.trans (h st hst).1, (h st hst).2⟩

theorem mgntActSetRFState_answered {s : Rf} (h : s.setRFPowerStateInProgress = false)
    (req : RfRequest) :
    Answered s.radio req (mgntActSetRFState rfType false req s).1.radio ∧
      Sound rfType s (mgntActSetRFState rfType false req s).1 := by
  obtain ⟨st, src⟩ := req
  unfold mgntActSetRFState
  rw [if_neg Bool.false_ne_true]
  cases st with
  | eRfOn =>
    obtain ⟨hreason, hstate, hallowed⟩ := requestOn_eq s.radio src
    dsimp only
    generalize requestOn s.radio src = q at hreason hstate hallowed ⊢
    obtain ⟨r, bActionAllowed, bConnectBySSID⟩ := q
    have hkeep : RegistersAgree rfType s → RegistersAgree rfType { s with radio := r } :=
      fun hregs => hregs.radio rfType hstate
    cases bActionAllowed with
    | false =>
      have hother : s.radio.rfOffReason &&& ~~~src ≠ 0 := fun hzero =>
        Bool.false_ne_true (hallowed.mpr hzero)
      exact ⟨.rejected rfl hother hreason hstate, ⟨h, hkeep⟩⟩
    | true =>
      have hzero : s.radio.rfOffReason &&& ~~~src = 0 := hallowed.mp rfl
      have hchanged := setRFPowerState_changed rfType (s := { s with radio := r }) h .eRfOn
      have hreason' := hchanged.reason.trans (hreason.trans hzero)
      dsimp only
      rw [if_pos rfl]
      split
      · refine ⟨.on rfl hzero hreason' hchanged.state, ⟨hchanged.idle, ?_⟩⟩
        intro hregs
        exact (hchanged.registers (hkeep hregs)).radio rfType rfl
      · exact ⟨.on rfl hzero hreason' hchanged.state,
          ⟨hchanged.idle, fun hregs => hchanged.registers (hkeep hregs)⟩⟩
  | eRfSleep =>
    have hchanged := setRFPowerState_changed rfType
      (s := { s with radio := { s.radio with rfOffReason := s.radio.rfOffReason ||| src } }) h
      .eRfSleep
    refine ⟨.off (fun hon => by cases hon) hchanged.reason hchanged.state, ⟨hchanged.idle, ?_⟩⟩
    intro hregs
    exact hchanged.registers (hregs.radio rfType rfl)
  | eRfOff =>
    obtain ⟨hreason, hstate⟩ := requestOff_eq s.radio src
    have hchanged := setRFPowerState_changed rfType
      (s := { s with radio := requestOff s.radio src }) h .eRfOff
    refine ⟨.off (fun hon => by cases hon) (hchanged.reason.trans hreason) hchanged.state, ⟨hchanged.idle, ?_⟩⟩
    intro hregs
    exact hchanged.registers (hregs.radio rfType hstate)

/-! ## One step -/

def RfEvent.request (s : Rf) : RfEvent → Option RfRequest
  | .setRfState refused req => if refused then none else some req
  | .ipsEnter refused =>
    if s.EntersIps then if refused then none else some ⟨.eRfOff, rfChangeByIps⟩ else none
  | .ipsLeave refused =>
    if s.LeavesIps then if refused then none else some ⟨.eRfOn, rfChangeByIps⟩ else none
  | .link _ _ => none

def RadioSteps (r : Radio) (req : Option RfRequest) (r' : Radio) : Prop :=
  match req with
  | none => r'.rfOffReason = r.rfOffReason ∧ r'.eRFPowerState = r.eRFPowerState
  | some req => Answered r req r'

theorem mgntActSetRFState_steps {s : Rf} (h : s.setRFPowerStateInProgress = false) (refused : Bool)
    (req : RfRequest) :
    RadioSteps s.radio (if refused then none else some req)
        (mgntActSetRFState rfType refused req s).1.radio ∧
      Sound rfType s (mgntActSetRFState rfType refused req s).1 := by
  cases refused with
  | true => exact ⟨⟨rfl, rfl⟩, ⟨h, id⟩⟩
  | false => exact mgntActSetRFState_answered rfType h req

theorem inactivePsWorkItemCallback_steps {s : Rf} (h : s.setRFPowerStateInProgress = false)
    (refused : Bool) (st : RfPowerState) :
    RadioSteps s.radio (if refused then none else some ⟨st, rfChangeByIps⟩)
        (inactivePsWorkItemCallback rfType refused st s).radio ∧
      Sound rfType s (inactivePsWorkItemCallback rfType refused st s) := by
  obtain ⟨hradio, hsound⟩ := mgntActSetRFState_steps rfType
    (s := { s with bSwRfProcessing := true }) h refused ⟨st, rfChangeByIps⟩
  exact ⟨hradio, ⟨hsound.idle, hsound.registers⟩⟩

theorem rfStep_steps {s : Rf} (h : s.setRFPowerStateInProgress = false) (e : RfEvent) :
    RadioSteps s.radio (e.request s) (rfStep rfType s e).radio ∧
      Sound rfType s (rfStep rfType s e) := by
  cases e with
  | setRfState refused req => exact mgntActSetRFState_steps rfType h refused req
  | ipsEnter refused =>
    unfold RfEvent.request rfStep ipsEnter
    dsimp only
    by_cases hc : s.EntersIps
    · obtain ⟨hradio, hsound⟩ := inactivePsWorkItemCallback_steps rfType
        (s := { s with isRFOff := true, bInPowerSaveMode := true }) h refused .eRfOff
      rw [if_pos hc, if_pos hc]
      exact ⟨hradio, ⟨hsound.idle, hsound.registers⟩⟩
    · rw [if_neg hc, if_neg hc]
      exact ⟨⟨rfl, rfl⟩, ⟨h, id⟩⟩
  | ipsLeave refused =>
    unfold RfEvent.request rfStep ipsLeave
    dsimp only
    by_cases hc : s.LeavesIps
    · obtain ⟨hradio, hsound⟩ := inactivePsWorkItemCallback_steps rfType
        (s := { s with bInPowerSaveMode := false }) h refused .eRfOn
      rw [if_pos hc, if_pos hc]
      exact ⟨hradio, ⟨hsound.idle, hsound.registers⟩⟩
    · rw [if_neg hc, if_neg hc]
      exact ⟨⟨rfl, rfl⟩, ⟨h, id⟩⟩
  | link iwMode state =>
    refine ⟨⟨rfl, rfl⟩, ⟨h, ?_⟩⟩
    intro hregs
    exact hregs.radio rfType rfl

theorem RfEvent.onSource_of_request {s : Rf} {e : RfEvent} {req : RfRequest}
    (h : e.request s = some req) (hon : req.stateToSet = .eRfOn) :
    e.onSource = some req.changeSource := by
  -- A request to turn the RF on comes from the source of the event.
  cases e with
  | setRfState refused req' =>
    cases refused with
    | true => cases h
    | false =>
      cases h
      obtain ⟨st, src⟩ := req
      cases hon
      rfl
  | ipsEnter refused =>
    unfold RfEvent.request at h
    dsimp only at h
    split at h
    · cases refused <;> cases h
      cases hon
    · cases h
  | ipsLeave refused =>
    unfold RfEvent.request at h
    dsimp only at h
    split at h
    · cases refused <;> cases h
      rfl
    · cases h
  | link _ _ => cases h

theorem turnsOnAlone {s : Rf} (h : s.setRFPowerStateInProgress = false) (e : RfEvent) :
    TurnsOnAlone rfType s e := by
  intro hnot hon
  obtain ⟨hradio, -⟩ := rfStep_steps rfType h e
  generalize hreq : e.request s = req at hradio
  cases req with
  | none => exact absurd (hradio.2.symm.trans hon) hnot
  | some req =>
    cases hradio with
    | rejected _ _ _ hstate => exact absurd (hstate.symm.trans hon) hnot
    | on hset hother => exact ⟨_, RfEvent.onSource_of_request hreq hset, hother⟩
    | off hset _ hstate => exact absurd (hstate.symm.trans hon) hset

/-- Of the requests only a call of `MgntActSet_RF_State` can come without a reason. -/
theorem notInitOff_iff (s : Rf) (e : RfEvent) :
    NotInitOff s e ↔ ∀ req, e.request s = some req → req.stateToSet ≠ .eRfOn →
      s.radio.eRFPowerState = .eRfOn → req.changeSource ≠ 0 := by
  cases e with
  | setRfState refused req =>
    cases refused with
    | true => exact ⟨fun _ _ hreq => (by cases hreq), fun _ hrefused => (by cases hrefused)⟩
    | false =>
      constructor
      · intro h req' hreq
        cases hreq
        exact h rfl
      · intro h _
        exact h req rfl
  | ipsEnter refused =>
    refine ⟨fun _ req hreq _ _ => ?_, fun _ => trivial⟩
    unfold RfEvent.request at hreq
    dsimp only at hreq
    split at hreq
    · cases refused <;> cases hreq
      decide
    · cases hreq
  | ipsLeave refused =>
    refine ⟨fun _ req hreq hon _ => ?_, fun _ => trivial⟩
    unfold RfEvent.request at hreq
    dsimp only at hreq
    split at hreq
    · cases refused <;> cases hreq
      exact absurd rfl hon
    · cases hreq
  | link _ _ => exact ⟨fun _ _ hreq => (by cases hreq), fun _ => trivial⟩

/-- The off reason agrees after a step exactly if that is no Off or Sleep by INIT with the RF on. -/
theorem offReasonAgrees_iff {s : Rf} (h : s.setRFPowerStateInProgress = false)
    (hagrees : OffReasonAgrees s) (e : RfEvent) :
    NotInitOff s e ↔ OffReasonAgrees (rfStep rfType s e) := by
  rw [notInitOff_iff]
  obtain ⟨hradio, -⟩ := rfStep_steps rfType h e
  unfold OffReasonAgrees at *
  generalize e.request s = req at hradio
  cases req with
  | none =>
    rw [hradio.1, hradio.2]
    exact ⟨fun _ => hagrees, fun _ req hreq => (by cases hreq)⟩
  | some req =>
    cases hradio with
    | rejected hset hother hreason hstate =>
      refine ⟨fun _ => ?_, fun _ req' hreq hnot => ?_⟩
      · rw [hreason, hstate, ← hagrees]
        -- no reason at all would leave none to the others
        refine ⟨fun hzero => absurd hzero hother, fun hzero => ?_⟩
        rw [hzero] at hother
        exact absurd (BitVec.zero_and ..) hother
      · cases hreq
        exact absurd hset hnot
    | on hset _ hreason hstate =>
      refine ⟨fun _ => ?_, fun _ req' hreq hnot => ?_⟩
      · exact ⟨fun _ => hstate, fun _ => hreason⟩
      · cases hreq
        exact absurd hset hnot
    | off hset hreason hstate =>
      have hor : s.radio.rfOffReason ||| req.changeSource = 0 ↔
          s.radio.rfOffReason = 0 ∧ req.changeSource = 0 := BitVec.or_eq_zero_iff
      have hnot : (rfStep rfType s e).radio.eRFPowerState ≠ .eRfOn := by
        rw [hstate]
        exact hset
      rw [hreason, hor, hagrees]
      constructor
      · intro hinit
        refine ⟨fun hzero => ?_, fun hon => absurd hon hnot⟩
        exact absurd hzero.2 (hinit req rfl hset hzero.1)
      · intro hiff req' hreq _ hon hzero
        cases hreq
        exact hnot (hiff.mp ⟨hon, hzero⟩)

/-! ## Runs -/

/-- In every run the registers are those of the recorded state, and a source turns the RF on only
when no other one has a reason recorded. The off reason is empty exactly while the RF is on, in all
states of the run, exactly when `RF_CHANGE_BY_INIT` never turns off an RF that is on. -/
theorem off_reason_agrees_iff (rfType : RfType) (s : Rf) (h : s.Start) (es : List RfEvent) :
    Meets (rfStep rfType) (fun s e => RegistersAgree rfType (rfStep rfType s e) ∧
        TurnsOnAlone rfType s e) s es ∧
      (Meets (rfStep rfType) NotInitOff s es ↔
        Meets (rfStep rfType) (fun s e => OffReasonAgrees (rfStep rfType s e)) s es) := by
  constructor
  · apply Meets.mono_of_inv (C := fun _ _ => True)
      (I := fun s => s.setRFPowerStateInProgress = false ∧ RegistersAgree rfType s)
    · intro s e hs _
      obtain ⟨-, hsound⟩ := rfStep_steps rfType hs.1 e
      exact ⟨hsound.idle, hsound.registers hs.2⟩
    · intro s e hs _
      obtain ⟨-, hsound⟩ := rfStep_steps rfType hs.1 e
      exact ⟨hsound.registers hs.2, turnsOnAlone rfType hs.1 e⟩
    · refine ⟨h.idle, ?_⟩
      intro st hst
      rw [h.lastSet] at hst
      cases hst
    · exact meets_of_forall fun _ _ => trivial
  · apply meets_congr
      (I := fun s => s.setRFPowerStateInProgress = false ∧ OffReasonAgrees s)
    · intro s e hs he
      obtain ⟨-, hsound⟩ := rfStep_steps rfType hs.1 e
      exact ⟨hsound.idle, (offReasonAgrees_iff rfType hs.1 hs.2 e).mp he⟩
    · intro s e hs
      exact offReasonAgrees_iff rfType hs.1 hs.2 e
    · exact ⟨h.idle, h.agrees⟩

/-- A radio that is on, of a station without a link. -/
def radioOn : Radio := ⟨.infra, .nolink, .eRfOn, false, 0, false, false, false⟩

def rfOn : Rf := ⟨radioOn, fun _ => 0, false, true, false, false, false, none⟩

/-- Two sources turn the RF off, and it stays off until both have turned it on again. -/
def twoSources : List RfEvent :=
  [.setRfState false ⟨.eRfOff, rfChangeByHw⟩, .setRfState false ⟨.eRfOff, rfChangeBySw⟩,
    .setRfState false ⟨.eRfOn, rfChangeByHw⟩, .setRfState false ⟨.eRfOn, rfChangeBySw⟩]

theorem two_sources_agree :
    Meets (rfStep .rf2T4R) (fun s e => RegistersAgree .rf2T4R (rfStep .rf2T4R s e) ∧
        TurnsOnAlone .rf2T4R s e) rfOn twoSources ∧
      (Meets (rfStep .rf2T4R) NotInitOff rfOn twoSources ↔
        Meets (rfStep .rf2T4R) (fun s e => OffReasonAgrees (rfStep .rf2T4R s e)) rfOn
          twoSources) :=
  off_reason_agrees_iff .rf2T4R rfOn ⟨by decide, rfl, rfl⟩ twoSources

/-- The suspend function turns the RF off by `RF_CHANGE_BY_INIT`: it is off without a reason. -/
theorem not_always_agrees : ¬ ∀ (rfType : RfType) (s : Rf), s.Start → ∀ es : List RfEvent,
    Meets (rfStep rfType) (fun s e => OffReasonAgrees (rfStep rfType s e) ∧
      RegistersAgree rfType (rfStep rfType s e) ∧ TurnsOnAlone rfType s e) s es := by
  intro h
  obtain ⟨⟨hagrees, -⟩, -⟩ := h .rf2T4R rfOn ⟨by decide, rfl, rfl⟩
    [.setRfState false ⟨.eRfOff, rfChangeByInit⟩]
  exact absurd hagrees (by decide +kernel)

end Rtl8190.Power
