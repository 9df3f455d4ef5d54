import Rtl8190.Association.Choice
import Rtl8190.Association.Soundness
import Rtl8190.Lib.Run

/-!
# An association attempt goes on

In each of the four states between the choice of a network and the link, `associate_timer`,
`associate_procedure_wq` or `associate_retry_wq` has to be pending, or the station stays there.
`associate_procedure_wq` gives its turn away when the RF is off.
-/

open Rtl8190.Run

namespace Rtl8190.Association

/-! ## What the claim is about -/

def underWay : RtllibState → Bool
  | .associating | .associatingRetry | .associatingAuthenticating | .associatingAuthenticated => true
  | _ => false

/-- A work item is queued, or waits for `wx_sem`. -/
def Work.pending (w : Work) : Bool := w.queued || w.waiting

/-- Something will take the attempt further. -/
def Device.pending (d : Device) : Bool :=
  d.associateTimer || d.associateProcedureWq.pending || d.associateRetryWq.pending

/-- The station is in an attempt and nothing will take it further. -/
structure Stalled (d : Device) : Prop where
  iwMode : d.iwMode = .infra
  protoStarted : d.protoStarted = true
  state : underWay d.state = true
  pending : d.pending = false

structure Progressing (cfg : Config) (d : Device) : Prop where
  pending : d.iwMode = .infra → d.protoStarted = true → underWay d.state = true → d.pending = true
  /-- A response that is not taken does not link the station. -/
  completed : ∀ env f, f.stype = .assocResp → (step cfg d (env, .frame f)).state = .linked →
    d.state = .linked ∨ ∃ d', step cfg d (env, .frame f) = rtllibAssociateComplete d'

/-! ## The steps that give a turn away -/

def Device.procedureTaken (d : Device) : Device :=
  { d with associateProcedureWq := { d.associateProcedureWq with waiting := false } }

def Device.retryTaken (d : Device) : Device :=
  { d with associateRetryWq := { d.associateRetryWq with waiting := false } }

/-- `rtllib_start_protocol` finds an attempt of before. -/
def StartsStalled (d : Device) : Prop :=
  d.wxSem = .free ∧ d.protoStarted = false ∧ Stalled { d with protoStarted := true }

def Stalls (d : Device) : Env × Event → Prop
  | (env, .run .procedure) =>
    d.wxSem = .free ∧ d.associateProcedureWq.waiting = true ∧ env.rfOff = true ∧
      Stalled d.procedureTaken
  | (_, .run .retry) =>
    d.wxSem = .free ∧ d.associateRetryWq.waiting = true ∧ d.state ≠ .associatingRetry ∧
      Stalled d.retryTaken
  | (_, .request .up) => StartsStalled d
  | (_, .request (.setWap true _)) => StartsStalled d
  | _ => False

variable {cfg : Config} {env : Env} {d d' : Device} {f : Frame}

theorem not_stalled_of_pending (h : d.pending = true) : ¬ Stalled d := by
  intro hs
  rw [hs.pending] at h
  exact Bool.false_ne_true h

theorem not_stalled_of_state (h : underWay d.state = false) : ¬ Stalled d := by
  intro hs
  rw [hs.state] at h
  exact Bool.false_ne_true h.symm

theorem not_stalled_of_stopped (h : d.protoStarted = false) : ¬ Stalled d := by
  intro hs
  rw [hs.protoStarted] at h
  exact Bool.false_ne_true h.symm

/-- What a stall is about is left as it was. -/
structure SameTurn (d d' : Device) : Prop where
  iwMode : d'.iwMode = d.iwMode
  protoStarted : d'.protoStarted = d.protoStarted
  state : d'.state = d.state
  pending : d'.pending = d.pending

theorem SameTurn.stalled (h : SameTurn d d') (hs : Stalled d') : Stalled d where
  iwMode := h.iwMode.symm.trans hs.iwMode
  protoStarted := h.protoStarted.symm.trans hs.protoStarted
  state := by
    rw [← h.state]
    exact hs.state
  pending := h.pending.symm.trans hs.pending

theorem not_stalled_of_same (h : ¬ Stalled d) (hd : SameTurn d d') : ¬ Stalled d' := fun hs =>
  h (hd.stalled hs)

/-! ## Requests to the access point -/

theorem pending_of_timer (h : d.associateTimer = true) : d.pending = true := by
  unfold Device.pending
  rw [h]
  rfl

theorem pending_queueProcedure (d : Device) : d.queueProcedure.pending = true := by
  unfold Device.pending
  have hq : d.queueProcedure.associateProcedureWq.pending = true := rfl
  rw [hq, Bool.or_true]
  rfl

theorem pending_queueRetry (d : Device) : d.queueRetry.pending = true := by
  unfold Device.pending
  have hq : d.queueRetry.associateRetryWq.pending = true := rfl
  rw [hq, Bool.or_true]

theorem pending_abort (d : Device) : (rtllibAssociateAbort d).pending = true :=
  pending_queueRetry _

theorem pending_step1 (d : Device) : (rtllibAssociateStep1 env d).pending = true := by
  unfold rtllibAssociateStep1
  split
  · exact pending_of_timer rfl
  · exact pending_abort d

theorem pending_challenge (d : Device) (challenge : List Memory.Byte) :
    (rtllibAuthChallenge env d challenge).pending = true := by
  unfold rtllibAuthChallenge
  split
  · exact pending_of_timer rfl
  · exact pending_abort d

theorem pending_step2 (d : Device) : (rtllibAssociateStep2 env d).pending = true := by
  unfold rtllibAssociateStep2
  dsimp only
  split
  · exact pending_of_timer rfl
  · exact pending_abort _

/-! ## The choice of a network -/

theorem not_stalled_link (d : Device) (net : Beacon.Network) : ¬ Stalled (link d net) := by
  unfold link
  dsimp only
  split
  · exact not_stalled_of_pending (pending_queueProcedure _)
  · exact not_stalled_of_state rfl

theorem not_stalled_newNet (h : ¬ Stalled d) (net : Beacon.Network) :
    ¬ Stalled (rtllibSoftmacNewNet cfg d net) := by
  rw [newNet_eq]
  split
  · exact not_stalled_link d net
  · exact h

theorem not_stalled_checkNets (h : ¬ Stalled d) (nets : List Beacon.Network) :
    ¬ Stalled (checkNets cfg env nets d) := by
  rcases checkNets_cases cfg env d nets with heq | ⟨-, target, -, -, heq⟩
  · rw [heq]
    exact h
  · rw [heq]
    exact not_stalled_link d target

theorem updateCurrent_sameTurn (d : Device) (network : Beacon.Network) :
    SameTurn d (updateCurrent env d network) := by
  unfold updateCurrent
  split
  · exact ⟨rfl, rfl, rfl, rfl⟩
  · exact ⟨rfl, rfl, rfl, rfl⟩

theorem not_stalled_heard (h : ¬ Stalled d) (network : Beacon.Network) (new : Bool) :
    ¬ Stalled (processProbeResponse cfg env d network new) := by
  have hcurrent : ¬ Stalled (updateCurrent env d network) :=
    not_stalled_of_same h (updateCurrent_sameTurn d network)
  unfold processProbeResponse
  split
  · exact not_stalled_newNet hcurrent network
  · exact hcurrent

/-! ## Received frames -/

/-- A response that is not taken leaves the timer alone, or the attempt starts again. -/
theorem not_stalled_assocResp (h : ¬ Stalled d) : ¬ Stalled (rxAssocResp env d f) := by
  unfold rxAssocResp
  dsimp only
  split
  · split
    · exact not_stalled_of_state rfl
    · exact not_stalled_of_same h ⟨rfl, rfl, rfl, rfl⟩
  · split
    · exact not_stalled_of_pending (pending_queueProcedure _)
    · exact not_stalled_of_pending (pending_abort _)

theorem pending_auth (d : Device) : (rxAuth cfg env d f).pending = true := by
  unfold rxAuth
  split
  · exact pending_step2 _
  · split
    · exact pending_step2 _
    · exact pending_challenge _ _
  · exact pending_abort d

theorem not_stalled_leave (h : ¬ Stalled d) : ¬ Stalled (rxLeave d f) := by
  unfold rxLeave
  split
  · exact not_stalled_of_state rfl
  · exact h

theorem not_stalled_softmac (h : ¬ Stalled d) : ¬ Stalled (rtllibRxFrameSoftmac cfg env d f) := by
  unfold rtllibRxFrameSoftmac
  split
  · split
    · split
      · exact not_stalled_assocResp h
      · exact h
    · split
      · exact not_stalled_of_pending (pending_auth d)
      · exact h
    · exact not_stalled_leave h
    · exact h
  · exact h

theorem not_stalled_frame (h : ¬ Stalled d) : ¬ Stalled (rtllibRxFrameMgmt cfg env d f) := by
  have hnoted : ¬ Stalled (if f.stype = .leave ∧ f.isForUs cfg then d.note (.left f.addr2) else d) := by
    split
    · exact not_stalled_of_same h ⟨rfl, rfl, rfl, rfl⟩
    · exact h
  unfold rtllibRxFrameMgmt
  dsimp only
  split
  · exact not_stalled_softmac hnoted
  · exact hnoted

/-! ## Start and stop -/

theorem stop_not_underWay (h : d.protoStarted = true) (shutdown : Bool) :
    underWay (rtllibStopProtocol d shutdown).state = false := by
  unfold rtllibStopProtocol
  rw [if_pos h]
  cases hstate : d.state <;> simp [unlinked, underWay, rtllibDisassociate]

theorem stalled_start_iff (h : d.protoStarted = false) :
    Stalled (rtllibStartProtocol cfg env d) ↔ Stalled { d with protoStarted := true } := by
  -- A station that starts is only moved by the choice of a network.
  have hopened : ∀ c i, Stalled (d.opened c i) ↔ Stalled { d with protoStarted := true } := fun c i =>
    ⟨fun hs => ⟨hs.iwMode, rfl, hs.state, hs.pending⟩, fun hs => ⟨hs.iwMode, rfl, hs.state, hs.pending⟩⟩
  have hother : d.iwMode ≠ .infra → ¬ Stalled { d with protoStarted := true } := fun hne hs =>
    hne hs.iwMode
  have hstart := started_of_stopped cfg env h
  generalize rtllibStartProtocol cfg env d = r at hstart ⊢
  cases hstart with
  | idle => rfl
  | bss c i mode =>
    rw [← hopened c i]
    rcases startBss_cases cfg env (d.opened c i) with heq | ⟨hstate, t, -, -, heq⟩
    · rw [heq]
    · rw [heq]
      refine iff_of_false (not_stalled_link _ t) (not_stalled_of_state ?_)
      rw [hstate]
      rfl
  | ibss c i mode =>
    have hne : d.iwMode ≠ .infra := by
      rw [mode]
      decide
    exact iff_of_false (fun hs => hne hs.iwMode) (hother hne)
  | master c i mode =>
    have hne : d.iwMode ≠ .infra := by
      rw [mode]
      decide
    exact iff_of_false (not_stalled_of_state rfl) (hother hne)
  | monitor c i mode => exact hopened c i

theorem not_stalled_start (h : underWay d.state = false) :
    ¬ Stalled (rtllibStartProtocol cfg env d) := by
  cases hstarted : d.protoStarted with
  | true =>
    rw [start_of_started hstarted]
    exact not_stalled_of_state h
  | false =>
    rw [stalled_start_iff hstarted]
    exact not_stalled_of_state h

/-! ## Work items -/

theorem stalled_procedureWq_iff (env : Env) (d : Device) :
    Stalled (rtllibAssociateProcedureWq env d) ↔ env.rfOff = true ∧ Stalled d := by
  unfold rtllibAssociateProcedureWq
  split
  · next hoff => exact ⟨fun hs => ⟨hoff, hs⟩, fun hs => hs.2⟩
  · next hon => exact iff_of_false (not_stalled_of_pending (pending_step1 d)) fun hs => hon hs.1

theorem stalled_retryWq_iff (cfg : Config) (env : Env) (d : Device) :
    Stalled (rtllibAssociateRetryWq cfg env d) ↔ d.state ≠ .associatingRetry ∧ Stalled d := by
  unfold rtllibAssociateRetryWq
  split
  · next hretry =>
    refine iff_of_false ?_ fun hs => hs.1 hretry.2
    exact not_stalled_checkNets (not_stalled_of_state rfl) _
  · next hskip =>
    constructor
    · intro hs
      exact ⟨fun hstate => hskip ⟨hs.protoStarted, hstate⟩, hs⟩
    · intro hs
      exact hs.2

theorem not_stalled_defaultSsid (h : ¬ Stalled d) (n : Nat) : ¬ Stalled (defaultSsid d n) := by
  unfold defaultSsid
  split
  · exact not_stalled_of_same h ⟨rfl, rfl, rfl, rfl⟩
  · exact h

theorem not_stalled_startIbssWq (h : ¬ Stalled d) : ¬ Stalled (rtllibStartIbssWq cfg env d) := by
  have hnets : ¬ Stalled (rtllibSoftmacCheckAllNets cfg env (defaultSsid d 8)) :=
    not_stalled_checkNets (not_stalled_defaultSsid h 8) _
  exact not_stalled_of_same hnets ⟨rfl, rfl, rfl, rfl⟩

theorem stalled_run_iff (h : ¬ Stalled d) (hfree : d.wxSem = .free) (item : Item) :
    Stalled (runItem cfg env d item) ↔ Stalls d (env, .run item) := by
  cases item with
  | procedure =>
    show Stalled (if d.associateProcedureWq.waiting then _ else d) ↔ _
    split
    · next hwait =>
      have hiff := stalled_procedureWq_iff env d.procedureTaken
      exact hiff.trans ⟨fun hs => ⟨hfree, hwait, hs⟩, fun hs => hs.2.2⟩
    · next hwait => exact iff_of_false h fun hs => hwait hs.2.1
  | retry =>
    show Stalled (if d.associateRetryWq.waiting then _ else d) ↔ _
    split
    · next hwait =>
      have hiff := stalled_retryWq_iff cfg env d.retryTaken
      exact hiff.trans ⟨fun hs => ⟨hfree, hwait, hs⟩, fun hs => hs.2.2⟩
    · next hwait => exact iff_of_false h fun hs => hwait hs.2.1
  | ibss =>
    refine iff_of_false ?_ id
    show ¬ Stalled (if d.startIbssWq.waiting then _ else d)
    split
    · exact not_stalled_startIbssWq (not_stalled_of_same h ⟨rfl, rfl, rfl, rfl⟩)
    · exact h

theorem Work.pending_start (w : Work) : (w.start true).pending = w.pending := by
  rcases w with ⟨queued, waiting⟩
  revert queued waiting
  decide

theorem not_stalled_startItem (h : ¬ Stalled d) (item : Item) : ¬ Stalled (startItem d item) := by
  apply not_stalled_of_same h
  cases item with
  | procedure =>
    refine ⟨rfl, rfl, rfl, ?_⟩
    show (_ || (d.associateProcedureWq.start true).pending || _) = _
    rw [Work.pending_start]
    rfl
  | retry =>
    refine ⟨rfl, rfl, rfl, ?_⟩
    show (_ || (d.associateRetryWq.start true).pending) = _
    rw [Work.pending_start]
    rfl
  | ibss => exact ⟨rfl, rfl, rfl, rfl⟩

/-! ## Requests of the user -/

theorem stalled_setWap_iff (h : ¬ Stalled d) (hfree : d.wxSem = .free) (ifup : Bool) (addr : Addr) :
    Stalled (rtllibWxSetWap cfg env d ifup addr) ↔ ifup = true ∧ StartsStalled d := by
  unfold rtllibWxSetWap
  split
  · next hmaster =>
    refine iff_of_false h ?_
    rintro ⟨-, -, -, hs⟩
    have hinfra : d.iwMode = .infra := hs.iwMode
    rw [hmaster] at hinfra
    cases hinfra
  cases ifup with
  | false => exact iff_of_false (not_stalled_of_same h ⟨rfl, rfl, rfl, rfl⟩) fun hs => nomatch hs.1
  | true =>
    dsimp only
    rw [if_pos rfl, if_pos rfl]
    cases hstarted : d.protoStarted with
    | true =>
      refine iff_of_false (not_stalled_start ?_) fun hs => ?_
      · exact stop_not_underWay hstarted true
      · have hstopped := hs.2.2.1
        rw [hstarted] at hstopped
        cases hstopped
    | false =>
      rw [stop_of_stopped hstarted]
      refine (stalled_start_iff ?_).trans ?_
      · exact hstarted
      exact ⟨fun hs => ⟨rfl, hfree, hstarted, ⟨hs.iwMode, rfl, hs.state, hs.pending⟩⟩,
        fun hs => ⟨hs.2.2.2.iwMode, rfl, hs.2.2.2.state, hs.2.2.2.pending⟩⟩

/-- The settings do not move the station, and neither does a start after a stop. -/
theorem not_stalled_setEssid (h : ¬ Stalled d) (flags : Bool) (essid : List Memory.Byte) :
    ¬ Stalled (rtllibWxSetEssid cfg env d flags essid) := by
  unfold rtllibWxSetEssid
  split
  · exact h
  dsimp only
  cases hstarted : d.protoStarted with
  | true =>
    rw [if_pos rfl, if_pos rfl]
    apply not_stalled_start
    have hidle := stop_not_underWay hstarted true
    split <;> exact hidle
  | false =>
    rw [if_neg Bool.false_ne_true, if_neg Bool.false_ne_true]
    split <;> exact not_stalled_of_stopped hstarted

theorem not_stalled_setMode (h : ¬ Stalled d) (mode : IwMode) :
    ¬ Stalled (rtllibWxSetMode cfg env d mode) := by
  unfold rtllibWxSetMode
  split
  · exact h
  split
  · next hstarted =>
    apply not_stalled_start
    exact stop_not_underWay hstarted true
  · next hstarted => exact not_stalled_of_stopped (Bool.eq_false_iff.mpr hstarted)

theorem not_stalled_setScan (h : ¬ Stalled d) : ¬ Stalled (rtllibWxSetScan d) := by
  unfold rtllibWxSetScan
  split
  · exact not_stalled_of_same h ⟨rfl, rfl, rfl, rfl⟩
  · exact h

theorem not_stalled_setMlme (h : ¬ Stalled d) (linked known : Bool) :
    ¬ Stalled (rtllibWxSetMlme d linked known) := by
  unfold rtllibWxSetMlme
  split
  · exact not_stalled_of_state rfl
  · exact h

theorem not_stalled_wpaMlme (h : ¬ Stalled d) (disassoc : Bool) :
    ¬ Stalled (rtllibWpaMlme d disassoc) := by
  unfold rtllibWpaMlme
  split
  · exact not_stalled_of_state rfl
  · exact h

theorem stalled_up_iff (h : ¬ Stalled d) (hfree : d.wxSem = .free) :
    Stalled (up cfg env d) ↔ StartsStalled d := by
  unfold up
  split
  · cases hstarted : d.protoStarted with
    | true =>
      rw [start_of_started hstarted]
      refine iff_of_false h fun hs => ?_
      have hstopped := hs.2.1
      rw [hstarted] at hstopped
      cases hstopped
    | false =>
      rw [stalled_start_iff hstarted]
      exact ⟨fun hs => ⟨hfree, hstarted, hs⟩, fun hs => hs.2.2⟩
  · next hlinked =>
    rw [not_not] at hlinked
    refine iff_of_false h fun hs => ?_
    have hway : underWay d.state = true := hs.2.2.state
    rw [hlinked] at hway
    cases hway

theorem not_stalled_down (d : Device) : ¬ Stalled (down d) := by
  unfold down
  cases hstarted : d.protoStarted with
  | true => exact not_stalled_of_state (stop_not_underWay hstarted true)
  | false =>
    rw [stop_of_stopped hstarted]
    exact not_stalled_of_stopped hstarted

theorem stalled_request_iff (h : ¬ Stalled d) (hfree : d.wxSem = .free) (r : Request) :
    Stalled (request cfg env d r) ↔ Stalls d (env, .request r) := by
  cases r with
  | setWap ifup addr =>
    refine (stalled_setWap_iff h hfree ifup addr).trans ?_
    cases ifup with
    | true => exact and_iff_right rfl
    | false => exact iff_of_false (fun hs => nomatch hs.1) id
  | setEssid flags essid => exact iff_of_false (not_stalled_setEssid h flags essid) id
  | setMode mode => exact iff_of_false (not_stalled_setMode h mode) id
  | setScan => exact iff_of_false (not_stalled_setScan h) id
  | setMlme linked known => exact iff_of_false (not_stalled_setMlme h linked known) id
  | wpaMlme disassoc => exact iff_of_false (not_stalled_wpaMlme h disassoc) id
  | up => exact stalled_up_iff h hfree
  | down => exact iff_of_false (not_stalled_down d) id

/-! ## Runs -/

theorem stalled_step_iff (h : ¬ Stalled d) (e : Env × Event) :
    Stalled (step cfg d e) ↔ Stalls d e := by
  obtain ⟨env, e⟩ := e
  cases e with
  | frame f => exact iff_of_false (not_stalled_frame h) id
  | heard network new => exact iff_of_false (not_stalled_heard h network new) id
  | associateTimer =>
    refine iff_of_false ?_ id
    show ¬ Stalled (if d.associateTimer then rtllibAssociateAbort { d with associateTimer := false } else d)
    split
    · exact not_stalled_of_pending (pending_abort _)
    · exact h
  | start item => exact iff_of_false (not_stalled_startItem h item) id
  | run item =>
    show Stalled (if d.wxSem = .free then runItem cfg env d item else d) ↔ _
    split
    · next hfree => exact stalled_run_iff h hfree item
    · next hheld =>
      refine iff_of_false h ?_
      cases item with
      | procedure => exact fun hs => hheld hs.1
      | retry => exact fun hs => hheld hs.1
      | ibss => exact id
  | ibssScanDone =>
    refine iff_of_false ?_ id
    show ¬ Stalled (if d.wxSem = .ibssScan then ibssScanDone cfg env d else d)
    split
    · exact not_stalled_of_state rfl
    · exact h
  | syncScan =>
    refine iff_of_false ?_ id
    show ¬ Stalled (if d.wxSem = .scanQueued then _ else d)
    split
    · exact not_stalled_of_state rfl
    · exact h
  | syncScanDone =>
    refine iff_of_false ?_ id
    show ¬ Stalled (if d.wxSem = .scanning then _ else d)
    split
    · exact not_stalled_of_state rfl
    · exact h
  | associateComplete =>
    exact iff_of_false (not_stalled_of_same h ⟨rfl, rfl, rfl, rfl⟩) id
  | roam =>
    refine iff_of_false ?_ id
    show ¬ Stalled (if d.state = .linked ∧ d.iwMode = .infra then _ else d)
    split
    · exact not_stalled_of_pending (pending_queueProcedure _)
    · exact h
  | scanEssid essidLen essid =>
    refine iff_of_false ?_ id
    show ¬ Stalled (copyEssid d essidLen essid)
    unfold copyEssid
    split
    · exact not_stalled_of_same h ⟨rfl, rfl, rfl, rfl⟩
    · exact h
  | request r =>
    show Stalled (if d.wxSem = .free then request cfg env d r else d) ↔ _
    split
    · next hfree => exact stalled_request_iff h hfree r
    · next hheld =>
      refine iff_of_false h ?_
      cases r with
      | setWap ifup addr =>
        cases ifup with
        | true => exact fun hs => hheld hs.1
        | false => exact id
      | up => exact fun hs => hheld hs.1
      | _ => exact id

theorem linked_of_assocResp (hlinked : (rxAssocResp env d f).state = .linked) :
    d.state = .linked ∨ ∃ d', rxAssocResp env d f = rtllibAssociateComplete d' := by
  unfold rxAssocResp at hlinked ⊢
  dsimp only at hlinked ⊢
  split at hlinked
  · next hstatus =>
    rw [if_pos hstatus]
    split at hlinked
    · next hroom =>
      rw [if_pos hroom]
      exact .inr ⟨_, rfl⟩
    · exact .inl hlinked
  · split at hlinked
    · exact .inl hlinked
    · cases hlinked

theorem linked_of_response (hstype : f.stype = .assocResp)
    (hlinked : (rtllibRxFrameMgmt cfg env d f).state = .linked) :
    d.state = .linked ∨ ∃ d', rtllibRxFrameMgmt cfg env d f = rtllibAssociateComplete d' := by
  -- Only `rtllib_associate_complete` links a station that gets a response.
  have hnote : (if f.stype = .leave ∧ f.isForUs cfg then d.note (.left f.addr2) else d) = d := by
    rw [if_neg (by rw [hstype]; exact fun hleave => nomatch hleave.1)]
  unfold rtllibRxFrameMgmt rtllibRxFrameSoftmac at hlinked ⊢
  dsimp only at hlinked ⊢
  rw [hnote, hstype] at hlinked ⊢
  split at hlinked
  · next haddr =>
    rw [if_pos haddr]
    split at hlinked
    · next hassoc =>
      rw [if_pos hassoc]
      dsimp only at hlinked ⊢
      split at hlinked
      · next hstate =>
        rw [if_pos hstate]
        exact linked_of_assocResp hlinked
      · exact .inl hlinked
    · exact .inl hlinked
  · exact .inl hlinked

theorem progressing_iff : Progressing cfg d ↔ ¬ Stalled d := by
  constructor
  · intro h hs
    have hpending := h.pending hs.iwMode hs.protoStarted hs.state
    rw [hs.pending] at hpending
    exact Bool.false_ne_true hpending
  · intro h
    refine ⟨fun hmode hstarted hstate => ?_, fun env f hstype hlinked => ?_⟩
    · apply Bool.of_not_eq_false
      intro hpending
      exact h ⟨hmode, hstarted, hstate, hpending⟩
    · exact linked_of_response hstype hlinked

/-- An attempt goes on exactly in the runs where no turn is given away. -/
theorem progress_iff (cfg : Config) (d : Device) (h : Progressing cfg d) (es : List (Env × Event)) :
    Meets (step cfg) (fun d e => ¬ Stalls d e) d es ↔
      ∀ fs, fs <+: es → Progressing cfg (exec (step cfg) d fs) := by
  simp only [progressing_iff] at h ⊢
  exact meets_iff_forall_prefixes (I := fun _ => True) (P := fun d => ¬ Stalled d)
    (V := fun _ => True) (fun _ _ _ _ _ _ => trivial)
    (fun _ e _ hp _ => not_congr (stalled_step_iff hp e)) trivial h fun _ _ => trivial

/-! The RF is off when the attempt is to begin. -/

def rfOffRun : List (Env × Event) :=
  [.request (.setEssid true [0x6e]), .request .up, .heard accessPoint true].map (quiet, ·) ++
  [.start .procedure, .run .procedure].map ({ quiet with rfOff := true }, ·)

theorem reset_progressing : Progressing station reset :=
  progressing_iff.mpr (not_stalled_of_state rfl)

theorem rfOffRun_stalled : Stalled (exec (step station) reset rfOffRun) :=
  ⟨by decide +kernel, by decide +kernel, by decide +kernel, by decide +kernel⟩

theorem not_always_progressing : ¬ ∀ cfg : Config, cfg.softmacAssociate = true →
    ∀ d, Initial d → ∀ es, Progressing cfg (exec (step cfg) d es) := by
  intro h
  exact progressing_iff.mp (h station rfl reset reset_initial rfOffRun) rfOffRun_stalled

theorem progress_iff_rfOffRun : ¬ Meets (step station) (fun d e => ¬ Stalls d e) reset rfOffRun := by
  rw [progress_iff station reset reset_progressing rfOffRun]
  intro h
  exact progressing_iff.mp (h rfOffRun List.prefix_rfl) rfOffRun_stalled

end Rtl8190.Association
