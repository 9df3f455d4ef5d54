import Rtl8190.Association.Soundness

/-!
# Rejected associations

`AsocRetryCount` is counted and reset by `assoc_parse`, and compared with `RT_ASOC_RETRY_LIMIT` by
`rtllib_rx_frame_softmac`. It never gets that far: no number of rejections ends the attempts, and
every one of them restarts the procedure at once.
-/

open Rtl8190.Memory Rtl8190.Beacon Rtl8190.Run

namespace Rtl8190.Association

abbrev rtAsocRetryLimit : Nat := 5

/-- An answer to the request for an association that this station has sent -/
def Awaited (cfg : Config) (d : Device) (f : Frame) : Prop :=
  f.addr1 = cfg.devAddr ∧ (d.protoStarted = true ∧ cfg.softmacAssociate = true) ∧
    f.stype = .assocResp ∧ d.state = .associatingAuthenticated ∧ d.iwMode = .infra

/-- The response is malformed, or its status is not 0. -/
def Frame.Rejects (f : Frame) : Prop := f.len < 30 ∨ f.le16 26 ≠ 0

def Rejected (cfg : Config) (d : Device) : Env × Event → Prop
  | (_, .frame f) => Awaited cfg d f ∧ f.Rejects
  | _ => False

/-- A rejection because of the rates or the capabilities that `assoc_parse` counts -/
def Counted (d : Device) : Env × Event → Prop
  | (env, .frame f) => 30 ≤ f.len ∧ (f.le16 26 = 18 ∨ f.le16 26 = 10) ∧ env.mode = ieeeG ∧
    d.currentNetwork.mode = ieeeN24g ∧ d.asocRetryCount < 4
  | _ => False

/-- The step neither accepts this station nor chooses a network. -/
def Continues (cfg : Config) (d : Device) : Env × Event → Prop
  | (_, .frame f) => Awaited cfg d f → f.Rejects
  | (_, .heard _ _) => d.state ≠ .nolink
  | (_, .associateTimer) | (_, .start _) | (_, .run .procedure) | (_, .scanEssid _ _) => True
  | _ => False

instance (cfg : Config) (d : Device) (f : Frame) : Decidable (Awaited cfg d f) := by
  unfold Awaited
  infer_instance

instance (f : Frame) : Decidable f.Rejects := inferInstanceAs (Decidable (_ ∨ _))

instance decidableRejected (cfg : Config) (d : Device) :
    (e : Env × Event) → Decidable (Rejected cfg d e)
  | (_, .frame f) => inferInstanceAs (Decidable (Awaited cfg d f ∧ f.Rejects))
  | (_, .heard _ _) | (_, .associateTimer) | (_, .start _) | (_, .run _)
  | (_, .ibssScanDone) | (_, .syncScan) | (_, .syncScanDone) | (_, .associateComplete)
  | (_, .roam) | (_, .scanEssid _ _) | (_, .request _) => isFalse id

instance decidableCounted (d : Device) : (e : Env × Event) → Decidable (Counted d e)
  | (env, .frame f) => inferInstanceAs (Decidable (30 ≤ f.len ∧ (f.le16 26 = 18 ∨ f.le16 26 = 10) ∧
      env.mode = ieeeG ∧ d.currentNetwork.mode = ieeeN24g ∧ d.asocRetryCount < 4))
  | (_, .heard _ _) | (_, .associateTimer) | (_, .start _) | (_, .run _)
  | (_, .ibssScanDone) | (_, .syncScan) | (_, .syncScanDone) | (_, .associateComplete)
  | (_, .roam) | (_, .scanEssid _ _) | (_, .request _) => isFalse id

instance decidableContinues (cfg : Config) (d : Device) :
    (e : Env × Event) → Decidable (Continues cfg d e)
  | (_, .frame f) => inferInstanceAs (Decidable (Awaited cfg d f → f.Rejects))
  | (_, .heard _ _) => inferInstanceAs (Decidable (d.state ≠ .nolink))
  | (_, .associateTimer) | (_, .start _) | (_, .run .procedure) | (_, .scanEssid _ _) => isTrue trivial
  | (_, .run .retry) | (_, .run .ibss) | (_, .ibssScanDone) | (_, .syncScan)
  | (_, .syncScanDone) | (_, .associateComplete) | (_, .roam) | (_, .request _) => isFalse id

def rejections (cfg : Config) : Device → List (Env × Event) → Nat
  | _, [] => 0
  | d, e :: es => (if Rejected cfg d e then 1 else 0) + rejections cfg (step cfg d e) es

/-- Among the rejections of one attempt, as many as the limit, one aborts it. -/
def Aborts (cfg : Config) (d : Device) (gs : List (Env × Event)) : Prop :=
  rtAsocRetryLimit ≤ rejections cfg d gs → ∃ hs e, hs ++ [e] <+: gs ∧
    Rejected cfg (exec (step cfg) d hs) e ∧ (exec (step cfg) d (hs ++ [e])).state = .associatingRetry

/-- Every part of the run in which one network is tried -/
def InAttempts (cfg : Config) (P : Device → List (Env × Event) → Prop) (d : Device)
    (es : List (Env × Event)) : Prop :=
  ∀ fs gs, fs ++ gs <+: es → Meets (step cfg) (Continues cfg) (exec (step cfg) d fs) gs →
    P (exec (step cfg) d fs) gs

def RestartsCounted (cfg : Config) (d : Device) (e : Env × Event) : Prop :=
  Rejected cfg d e → (step cfg d e).associateProcedureWq.queued = true → Counted d e

/-! ## The counter -/

def BelowLimit (d : Device) : Prop := d.asocRetryCount < 5

section

variable {cfg : Config} {env : Env} {d : Device}

theorem below_step1 (h : BelowLimit d) : BelowLimit (rtllibAssociateStep1 env d) := by
  unfold rtllibAssociateStep1
  split_ifs <;> exact h

theorem below_newNet (h : BelowLimit d) (net : Network) :
    BelowLimit (rtllibSoftmacNewNet cfg d net) := by
  have hzero : (0 : Byte) < 5 := by decide
  unfold rtllibSoftmacNewNet
  dsimp only
  split_ifs <;> first | exact h | exact hzero

theorem below_checkNets (h : BelowLimit d) (nets : List Network) :
    BelowLimit (checkNets cfg env nets d) := by
  induction nets generalizing d with
  | nil => exact h
  | cons net nets ih =>
    unfold checkNets
    split_ifs
    · exact h
    · exact ih (below_newNet h net)
    · exact ih h

theorem below_heard (h : BelowLimit d) (network : Network) (new : Bool) :
    BelowLimit (processProbeResponse cfg env d network new) := by
  have hupdate : BelowLimit (updateCurrent env d network) := by
    unfold updateCurrent
    split_ifs <;> exact h
  unfold processProbeResponse
  split_ifs
  · exact below_newNet hupdate network
  · exact hupdate

theorem assocParse_below (h : BelowLimit d) (f : Frame) : (assocParse env d f).2.2 < 5 := by
  unfold assocParse
  split
  · exact h
  · dsimp only
    split_ifs with hcounts
    · have hlt := hcounts.2.2.2
      revert hlt
      generalize d.asocRetryCount = count
      revert count
      decide
    · decide

theorem below_assocResp (h : BelowLimit d) (f : Frame) : BelowLimit (rxAssocResp env d f) := by
  have hparse : (assocParse env d f).2.2 < 5 := assocParse_below h f
  unfold rxAssocResp
  dsimp only
  split_ifs <;> exact hparse

theorem below_step2 (h : BelowLimit d) : BelowLimit (rtllibAssociateStep2 env d) := by
  unfold rtllibAssociateStep2
  dsimp only
  split_ifs <;> exact h

theorem below_auth (h : BelowLimit d) (f : Frame) : BelowLimit (rxAuth cfg env d f) := by
  unfold rxAuth
  split
  · exact below_step2 h
  · split
    · exact below_step2 h
    · unfold rtllibAuthChallenge
      split_ifs <;> exact h
  · exact h

theorem below_frame (h : BelowLimit d) (f : Frame) : BelowLimit (rtllibRxFrameMgmt cfg env d f) := by
  have hnoted : BelowLimit (if f.stype = .leave ∧ f.isForUs cfg then d.note (.left f.addr2) else d) := by
    split_ifs <;> exact h
  unfold rtllibRxFrameMgmt
  dsimp only
  generalize (if f.stype = .leave ∧ f.isForUs cfg then d.note (.left f.addr2) else d) = d at hnoted
  split
  · unfold rtllibRxFrameSoftmac
    split
    · split
      · split
        · exact below_assocResp hnoted f
        · exact hnoted
      · split
        · exact below_auth hnoted f
        · exact hnoted
      · unfold rxLeave
        split_ifs <;> exact hnoted
      · exact hnoted
    · exact hnoted
  · exact hnoted

theorem below_defaultSsid (h : BelowLimit d) (n : Nat) : BelowLimit (defaultSsid d n) := by
  unfold defaultSsid
  split_ifs <;> exact h

theorem below_startIbssWq (h : BelowLimit d) : BelowLimit (rtllibStartIbssWq cfg env d) := by
  have hsearched : BelowLimit (rtllibSoftmacCheckAllNets cfg env (defaultSsid d 8)) :=
    below_checkNets (below_defaultSsid h 8) env.networkList
  exact hsearched

theorem below_start (h : BelowLimit d) : BelowLimit (rtllibStartProtocol cfg env d) := by
  unfold rtllibStartProtocol
  split
  · exact h
  dsimp only
  split
  · exact h
  split
  · unfold rtllibStartBss
    split
    · exact h
    · apply below_checkNets
      exact h
  · exact h
  · apply below_defaultSsid
    exact h
  · exact h

theorem below_stop (h : BelowLimit d) (shutdown : Bool) :
    BelowLimit (rtllibStopProtocol d shutdown) := by
  unfold rtllibStopProtocol
  dsimp only
  split_ifs <;> exact h

theorem below_run (h : BelowLimit d) (item : Item) : BelowLimit (runItem cfg env d item) := by
  unfold runItem
  split
  · split
    · unfold rtllibAssociateProcedureWq
      split
      · exact h
      · exact below_step1 h
    · exact h
  · split
    · unfold rtllibAssociateRetryWq
      split
      · apply below_checkNets
        exact h
      · exact h
    · exact h
  · split
    · apply below_startIbssWq
      exact h
    · exact h

theorem below_request (h : BelowLimit d) (r : Request) : BelowLimit (request cfg env d r) := by
  have hstop := below_stop h true
  cases r with
  | setWap ifup addr =>
    change BelowLimit (rtllibWxSetWap cfg env d ifup addr)
    unfold rtllibWxSetWap
    dsimp only
    split
    · exact h
    · cases ifup with
      | true => exact below_start hstop
      | false => exact h
  | setEssid flags essid =>
    change BelowLimit (rtllibWxSetEssid cfg env d flags essid)
    unfold rtllibWxSetEssid
    dsimp only
    split_ifs <;> first | exact h | exact below_start hstop
  | setMode mode =>
    change BelowLimit (rtllibWxSetMode cfg env d mode)
    unfold rtllibWxSetMode
    split_ifs
    · exact h
    · exact below_start hstop
    · exact h
  | setScan =>
    change BelowLimit (rtllibWxSetScan d)
    unfold rtllibWxSetScan
    split_ifs <;> exact h
  | setMlme linked known =>
    change BelowLimit (rtllibWxSetMlme d linked known)
    unfold rtllibWxSetMlme
    split_ifs <;> exact h
  | wpaMlme disassoc =>
    change BelowLimit (rtllibWpaMlme d disassoc)
    unfold rtllibWpaMlme
    split_ifs <;> exact h
  | up =>
    change BelowLimit (up cfg env d)
    unfold up
    split_ifs
    · exact below_start h
    · exact h
  | down => exact hstop

theorem below_step (h : BelowLimit d) (e : Env × Event) : BelowLimit (step cfg d e) := by
  -- No step brings the counter to the limit.
  obtain ⟨env, e⟩ := e
  cases e with
  | frame f => exact below_frame h f
  | heard network new => exact below_heard h network new
  | start item => cases item <;> exact h
  | run item =>
    change BelowLimit (if d.wxSem = .free then runItem cfg env d item else d)
    split_ifs
    · exact below_run h item
    · exact h
  | request r =>
    change BelowLimit (if d.wxSem = .free then request cfg env d r else d)
    split_ifs
    · exact below_request h r
    · exact h
  | ibssScanDone =>
    change BelowLimit (if d.wxSem = .ibssScan then ibssScanDone cfg env d else d)
    unfold ibssScanDone
    dsimp only
    split_ifs <;> exact h
  | associateComplete => exact h
  | associateTimer =>
    change BelowLimit (if d.associateTimer then _ else d)
    split_ifs <;> exact h
  | syncScan =>
    change BelowLimit (if d.wxSem = .scanQueued then _ else d)
    split_ifs <;> exact h
  | syncScanDone =>
    change BelowLimit (if d.wxSem = .scanning then _ else d)
    split_ifs <;> exact h
  | roam =>
    change BelowLimit (if d.state = .linked ∧ d.iwMode = .infra then _ else d)
    split_ifs <;> exact h
  | scanEssid essidLen essid =>
    change BelowLimit (copyEssid d essidLen essid)
    unfold copyEssid
    split_ifs <;> exact h

theorem below_exec (h : BelowLimit d) (es : List (Env × Event)) :
    BelowLimit (exec (step cfg) d es) := by
  apply exec_inv (I := BelowLimit) (C := fun _ _ => True) (fun _ e h _ => below_step h e) h
  exact meets_of_forall (P := fun _ => True) fun _ _ => trivial

/-! ## Rejections -/

/-- Whatever the reason of a rejection is, the procedure is queued and the state is kept. -/
theorem rejected_step (h : BelowLimit d) {e : Env × Event} (hr : Rejected cfg d e) :
    ∃ count, step cfg d e = { d with asocRetryCount := count }.queueProcedure := by
  obtain ⟨env, e⟩ := e
  cases e with
  | frame f =>
    obtain ⟨⟨haddr, hassoc, hstype, hstate⟩, hrejects⟩ := hr
    have hnote : (if f.stype = .leave ∧ f.isForUs cfg then d.note (.left f.addr2) else d) = d := by
      rw [if_neg (by rw [hstype]; exact fun hleave => nomatch hleave.1)]
    have hstatus : (assocParse env d f).1 ≠ 0 := by
      unfold assocParse
      split
      · exact (by decide : (0xcafe : BitVec 16) ≠ 0)
      · next hlong => exact hrejects.resolve_left hlong
    refine ⟨(assocParse env d f).2.2, ?_⟩
    change rtllibRxFrameMgmt cfg env d f = _
    unfold rtllibRxFrameMgmt rtllibRxFrameSoftmac
    dsimp only
    rw [hnote, if_pos haddr, if_pos hassoc, hstype]
    dsimp only
    rw [if_pos hstate]
    unfold rxAssocResp
    dsimp only
    rw [if_neg hstatus, if_pos (assocParse_below h f)]
  | _ => exact hr.elim

theorem rejected_not_aborted (h : BelowLimit d) {e : Env × Event} (hr : Rejected cfg d e) :
    (step cfg d e).state ≠ .associatingRetry := by
  obtain ⟨count, hstep⟩ := rejected_step h hr
  rw [hstep]
  obtain ⟨env, e⟩ := e
  cases e with
  | frame f =>
    have hstate : d.state = .associatingAuthenticated := hr.1.2.2.2.1
    change d.state ≠ .associatingRetry
    rw [hstate]
    decide
  | _ => exact hr.elim

theorem aborts_iff (h : BelowLimit d) (gs : List (Env × Event)) :
    Aborts cfg d gs ↔ rejections cfg d gs < rtAsocRetryLimit := by
  constructor
  · intro habort
    by_contra hmany
    obtain ⟨hs, e, -, hr, hstate⟩ := habort (Nat.le_of_not_lt hmany)
    rw [exec_append] at hstate
    exact rejected_not_aborted (below_exec h hs) hr hstate
  · intro hfew hmany
    exact absurd hmany (Nat.not_le_of_lt hfew)

theorem restartsCounted_iff (h : BelowLimit d) (e : Env × Event) :
    RestartsCounted cfg d e ↔ (Rejected cfg d e → Counted d e) := by
  constructor
  · intro hrestarts hr
    obtain ⟨count, hstep⟩ := rejected_step h hr
    apply hrestarts hr
    rw [hstep]
    rfl
  · exact fun hcounted hr _ => hcounted hr

end

/-- Rejections are bounded by the limit, and restart the procedure only if they are counted ones,
exactly in the runs where no network rejects this station as often as the limit and every rejection
is a counted one. -/
theorem retry_iff (cfg : Config) (d : Device) (hd : d.asocRetryCount = 0)
    (es : List (Env × Event)) :
    (InAttempts cfg (Aborts cfg) d es ∧ Meets (step cfg) (RestartsCounted cfg) d es) ↔
      InAttempts cfg (fun d gs => rejections cfg d gs < rtAsocRetryLimit) d es ∧
        Meets (step cfg) (fun d e => Rejected cfg d e → Counted d e) d es := by
  have hbelow : BelowLimit d := by
    unfold BelowLimit
    rw [hd]
    decide
  apply and_congr
  · unfold InAttempts
    simp only [aborts_iff (below_exec hbelow _)]
  · apply meets_congr (I := BelowLimit) (fun _ e h _ => below_step h e)
    · exact fun s e h => restartsCounted_iff h e
    · exact hbelow

/-! ## Two runs -/

theorem rejections_append (cfg : Config) (d : Device) (fs gs : List (Env × Event)) :
    rejections cfg d (fs ++ gs) =
      rejections cfg d fs + rejections cfg (exec (step cfg) d fs) gs := by
  induction fs generalizing d with
  | nil => simp [rejections]
  | cons e fs ih =>
    rw [List.cons_append, rejections, rejections, ih, exec_cons]
    omega

theorem inAttempts_of_few {cfg : Config} {d : Device} {es : List (Env × Event)}
    (h : rejections cfg d es < rtAsocRetryLimit) :
    InAttempts cfg (fun d gs => rejections cfg d gs < rtAsocRetryLimit) d es := by
  rintro fs gs ⟨hs, rfl⟩ -
  rw [rejections_append, rejections_append] at h
  omega

/-- An access point in 802.11n, and its response with a status -/
def refusing : Network := { accessPoint with mode := ieeeN24g }

def refusal (status : Byte) (len : Nat) : Frame where
  mem i := if i = 26 then status else (fromAp 0x10).mem i
  len := len

def asking : List (Env × Event) :=
  [.request (.setEssid true [0x6e]), .request .up, .heard refusing true, .start .procedure,
    .run .procedure, .frame (fromAp 0xB0)].map (quiet, ·)

def countedRun : List (Env × Event) := asking ++ [(quiet, .frame (refusal 18 30))]

theorem retry_iff_countedRun :
    InAttempts station (Aborts station) reset countedRun ∧
      Meets (step station) (RestartsCounted station) reset countedRun :=
  (retry_iff station reset rfl countedRun).mpr
    ⟨inAttempts_of_few (by decide +kernel), by decide +kernel⟩

/-- Responses that are too short, as often as the limit -/
def shortRun : List (Env × Event) := List.replicate 5 (quiet, .frame (refusal 0 29))

theorem shortRun_restarts :
    ¬ InAttempts station (Aborts station) reset (asking ++ shortRun) ∧
      ¬ Meets (step station) (RestartsCounted station) reset (asking ++ shortRun) := by
  have hbelow : BelowLimit reset := (by decide : (0 : Byte) < 5)
  constructor
  · intro h
    have habort := h asking shortRun List.prefix_rfl (by decide +kernel)
    rw [aborts_iff (below_exec hbelow asking)] at habort
    revert habort
    decide +kernel
  · intro h
    have hcounted := (meets_congr (I := BelowLimit) (fun _ e h _ => below_step h e)
      (fun _ e h => restartsCounted_iff h e) hbelow).mp h
    revert hcounted
    decide +kernel

end Rtl8190.Association
