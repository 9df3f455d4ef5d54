import Rtl8190.Association.Code
import Rtl8190.Lib.Run

/-!
# Who the station is associated with

A link is justified by a response of the access point to a request that was sent to it, as long as
the access point has not ended it. The code keeps that while nobody else answers, no frame that ends
the link is lost, a scan starts in the state it will return to, and a request of the user finds the
protocol as it was when the request came in.
-/

open Rtl8190.Memory Rtl8190.Beacon Rtl8190.Run

namespace Rtl8190.Association

/-! ## What the claim is about -/

/-- The address of the last association request, if it was not answered yet. -/
def outstanding : List Traffic → Option Addr
  | [] => none
  | .assocReq bssid :: _ => some bssid
  | .accepted _ :: _ => none
  | .authReq .. :: earlier => outstanding earlier
  | .deauth _ :: earlier => outstanding earlier
  | .left _ :: earlier => outstanding earlier

/-- `bssid` has answered a request that was sent to it, and has not ended the link since. -/
def Justified (bssid : Addr) : List Traffic → Prop
  | [] => False
  | .accepted transmitter :: earlier =>
    transmitter = bssid ∧ outstanding earlier = some bssid ∨ Justified bssid earlier
  | .left transmitter :: earlier => transmitter ≠ bssid ∧ Justified bssid earlier
  | .authReq .. :: earlier => Justified bssid earlier
  | .assocReq _ :: earlier => Justified bssid earlier
  | .deauth _ :: earlier => Justified bssid earlier

instance decidableJustified (bssid : Addr) : (ts : List Traffic) → Decidable (Justified bssid ts)
  | [] => isFalse id
  | .accepted transmitter :: earlier =>
    have := decidableJustified bssid earlier
    inferInstanceAs (Decidable (transmitter = bssid ∧ outstanding earlier = some bssid ∨
      Justified bssid earlier))
  | .left transmitter :: earlier =>
    have := decidableJustified bssid earlier
    inferInstanceAs (Decidable (transmitter ≠ bssid ∧ Justified bssid earlier))
  | .authReq .. :: earlier => decidableJustified bssid earlier
  | .assocReq _ :: earlier => decidableJustified bssid earlier
  | .deauth _ :: earlier => decidableJustified bssid earlier

/-- In infrastructure mode, a station that is linked is so with reason. -/
def Sound (d : Device) : Prop :=
  d.iwMode = .infra → d.state = .linked ∨ d.state = .linkedScanning →
    Justified d.currentNetwork.bssid d.traffic

instance (d : Device) : Decidable (Sound d) := by
  unfold Sound
  infer_instance

/-! ## When a step is clean -/

def LinkUp (d : Device) : Prop :=
  d.state = .linked ∨ d.state = .linkedScanning ∨ d.wxSem = .scanning

instance (d : Device) : Decidable (LinkUp d) := by
  unfold LinkUp
  infer_instance

/-- A response with status 0 is taken for one of the access point, whoever sends it. -/
def ForeignResponse (cfg : Config) (d : Device) (f : Frame) : Prop :=
  d.state = .associatingAuthenticated ∧ f.stype = .assocResp ∧ f.addr1 = cfg.devAddr ∧
    30 ≤ f.len ∧ f.le16 26 = 0 ∧ f.addr2 ≠ d.currentNetwork.bssid

/-- A frame that ends the link is ignored in a scan, when it goes to a group, and when its third
address is another one. -/
def LostLeave (cfg : Config) (d : Device) (f : Frame) : Prop :=
  d.iwMode = .infra ∧ LinkUp d ∧ f.stype = .leave ∧ f.isForUs cfg ∧
    f.addr2 = d.currentNetwork.bssid ∧
    ¬ (d.state = .linked ∧ f.addr1 = cfg.devAddr ∧ f.addr3 = d.currentNetwork.bssid)

/-- `wx_sync_scan_wq` takes it for granted that the link is up. -/
def ForcedScan (d : Device) : Prop :=
  d.iwMode = .infra ∧ d.wxSem = .scanQueued ∧ d.state ≠ .linked

/-- `start_ibss_wq` has waited until the mode was another one. -/
def ForcedCell (d : Device) : Prop := d.iwMode = .infra ∧ d.wxSem = .ibssScan

/-- The protocol was started while the request waited. -/
def StaleWap (d : Device) (ifup : Bool) : Prop :=
  d.protoStarted = true ∧ ifup = false ∧
    (d.state = .associatingAuthenticated ∨ d.iwMode = .infra ∧ LinkUp d)

/-- A cell was joined while the protocol was stopped. -/
def CellKept (d : Device) (mode : IwMode) : Prop :=
  mode = .infra ∧ d.protoStarted = false ∧ d.state = .linked

/-- The steps that do not reach one of these defects. -/
def Clean (cfg : Config) (d : Device) : Env × Event → Prop
  | (_, .frame f) => ¬ ForeignResponse cfg d f ∧ ¬ LostLeave cfg d f
  | (_, .syncScan) => ¬ ForcedScan d
  | (_, .ibssScanDone) => ¬ ForcedCell d
  | (_, .request (.setWap ifup _)) => ¬ StaleWap d ifup
  | (_, .request (.setMode mode)) => ¬ CellKept d mode
  | _ => True

/-! ## The invariant -/

structure Inv (d : Device) : Prop where
  authenticated : d.state = .associatingAuthenticated →
    d.protoStarted = true ∧ d.iwMode = .infra ∧
      outstanding d.traffic = some d.currentNetwork.bssid
  linked : d.iwMode = .infra → LinkUp d →
    d.protoStarted = true ∧ Justified d.currentNetwork.bssid d.traffic
  linkedScanning : d.state = .linkedScanning → d.wxSem = .scanning
  scanning : d.wxSem = .scanning → d.state = .linkedScanning ∨ d.state = .associatingRetry
  started : d.wxSem = .scanQueued ∨ d.wxSem = .scanning → d.protoStarted = true

/-- The states on the way to an association request. -/
def Idle (d : Device) : Prop :=
  d.state ≠ .associatingAuthenticated ∧ d.state ≠ .linked ∧ d.state ≠ .linkedScanning

variable {cfg : Config} {env : Env} {d d' : Device} {f : Frame}

theorem Inv.sound (h : Inv d) : Sound d := by
  intro hmode hstate
  refine (h.linked hmode ?_).2
  rcases hstate with hstate | hstate
  · exact .inl hstate
  · exact .inr (.inl hstate)

theorem Inv.of_idle (hidle : Idle d) (hsem : d.wxSem ≠ .scanning)
    (hstarted : d.wxSem = .scanQueued → d.protoStarted = true) : Inv d where
  authenticated hstate := absurd hstate hidle.1
  linked _ hup := by
    rcases hup with hstate | hstate | hscan
    · exact absurd hstate hidle.2.1
    · exact absurd hstate hidle.2.2
    · exact absurd hscan hsem
  linkedScanning hstate := absurd hstate hidle.2.2
  scanning hscan := absurd hscan hsem
  started := by
    rintro (hqueued | hscan)
    · exact hstarted hqueued
    · exact absurd hscan hsem

/-- What the invariant looks at is left as it was. -/
structure Same (d d' : Device) : Prop where
  state : d'.state = d.state
  protoStarted : d'.protoStarted = d.protoStarted
  iwMode : d'.iwMode = d.iwMode
  bssid : d'.currentNetwork.bssid = d.currentNetwork.bssid
  wxSem : d'.wxSem = d.wxSem
  traffic : d'.traffic = d.traffic

theorem Inv.same (h : Inv d) (hd : Same d d') : Inv d' := by
  obtain ⟨hstate, hstarted, hmode, hbssid, hsem, htraffic⟩ := hd
  refine ⟨?_, ?_, ?_, ?_, ?_⟩
  · rw [hstate, hstarted, hmode, hbssid, htraffic]
    exact h.authenticated
  · unfold LinkUp
    rw [hstate, hstarted, hmode, hbssid, hsem, htraffic]
    exact h.linked
  · rw [hstate, hsem]
    exact h.linkedScanning
  · rw [hstate, hsem]
    exact h.scanning
  · rw [hstarted, hsem]
    exact h.started

theorem Inv.not_scanning (h : Inv d) (hstate : d.state ≠ .linkedScanning)
    (hretry : d.state ≠ .associatingRetry) : d.wxSem ≠ .scanning := fun hscan =>
  (h.scanning hscan).elim hstate hretry

theorem Inv.become_idle (h : Inv d) (hidle : Idle d') (hsem : d'.wxSem = d.wxSem)
    (hstarted : d'.protoStarted = d.protoStarted) (hstate : d.state ≠ .linkedScanning)
    (hretry : d.state ≠ .associatingRetry) : Inv d' := by
  refine .of_idle hidle ?_ ?_
  · rw [hsem]
    exact h.not_scanning hstate hretry
  · rw [hsem, hstarted]
    intro hqueued
    exact h.started (.inl hqueued)

/-! ## Requests to the access point -/

theorem Inv.abort (h : Inv d) : Inv (rtllibAssociateAbort d) where
  authenticated hstate := by cases hstate
  linked hmode hup := by
    rcases hup with hstate | hstate | hscan
    · cases hstate
    · cases hstate
    · exact h.linked hmode (.inr (.inr hscan))
  linkedScanning hstate := by cases hstate
  scanning _ := .inr rfl
  started hsem := h.started hsem

theorem Inv.step1 (h : Inv d) (hfree : d.wxSem ≠ .scanning) : Inv (rtllibAssociateStep1 env d) := by
  unfold rtllibAssociateStep1
  split
  · refine .of_idle ⟨by rintro ⟨⟩, by rintro ⟨⟩, by rintro ⟨⟩⟩ hfree ?_
    intro hqueued
    exact h.started (.inl hqueued)
  · exact h.abort

theorem Inv.challenge (h : Inv d) (hstate : d.state = .associatingAuthenticating)
    (challenge : List Byte) : Inv (rtllibAuthChallenge env d challenge) := by
  unfold rtllibAuthChallenge
  split
  · have hidle : Idle d := by
      unfold Idle
      rw [hstate]
      exact ⟨by decide, by decide, by decide⟩
    exact h.become_idle hidle rfl rfl (by rw [hstate]; decide) (by rw [hstate]; decide)
  · exact h.abort

/-- After an association request, its answer is awaited from the current network. -/
theorem Inv.step2 (h : Inv d) (hstate : d.state = .associatingAuthenticating)
    (hstarted : d.protoStarted = true) (hmode : d.iwMode = .infra) :
    Inv (rtllibAssociateStep2 env { d with state := .associatingAuthenticated }) := by
  have hfree := h.not_scanning (by rw [hstate]; decide) (by rw [hstate]; decide)
  unfold rtllibAssociateStep2
  split
  · refine ⟨fun _ => ⟨hstarted, hmode, rfl⟩, ?_, ?_, ?_, ?_⟩
    · rintro - (hlinked | hlinked | hscan)
      · cases hlinked
      · cases hlinked
      · exact absurd hscan hfree
    · rintro ⟨⟩
    · intro hscan
      exact absurd hscan hfree
    · exact h.started
  · refine .of_idle ⟨by rintro ⟨⟩, by rintro ⟨⟩, by rintro ⟨⟩⟩ hfree ?_
    intro hqueued
    exact h.started (.inl hqueued)

/-! ## The choice of a network -/

theorem Inv.newNet (h : Inv d) (net : Network) : Inv (rtllibSoftmacNewNet cfg d net) := by
  unfold rtllibSoftmacNewNet
  split
  · exact h
  rename_i hstate
  rw [not_not] at hstate
  have hfree := h.not_scanning (by rw [hstate]; decide) (by rw [hstate]; decide)
  split
  · exact h
  split
  · exact h
  split
  · exact h
  split
  · by_cases hmode : d.iwMode = .infra
    · simp only [hmode, if_true]
      refine .of_idle ⟨by rintro ⟨⟩, by rintro ⟨⟩, by rintro ⟨⟩⟩ hfree ?_
      intro hqueued
      exact h.started (.inl hqueued)
    · simp only [hmode, if_false]
      refine ⟨?_, fun hinfra => absurd hinfra hmode, ?_, ?_, h.started⟩
      · rintro ⟨⟩
      · rintro ⟨⟩
      · intro hscan
        exact absurd hscan hfree
  · exact h

theorem newNet_wxSem (net : Network) : (rtllibSoftmacNewNet cfg d net).wxSem = d.wxSem := by
  unfold rtllibSoftmacNewNet
  simp only
  split_ifs <;> rfl

theorem Inv.checkNets (h : Inv d) (nets : List Network) :
    Inv (Association.checkNets cfg env nets d) := by
  induction nets generalizing d with
  | nil => exact h
  | cons target rest ih =>
    unfold Association.checkNets
    split
    · exact h
    split
    · exact ih (h.newNet target)
    · exact ih h

theorem checkNets_wxSem (nets : List Network) : (checkNets cfg env nets d).wxSem = d.wxSem := by
  induction nets generalizing d with
  | nil => rfl
  | cons target rest ih =>
    unfold checkNets
    split
    · rfl
    split
    · rw [ih, newNet_wxSem]
    · exact ih

theorem updateNetwork_bssid (dst src : Network) (jiffies : Nat) :
    (updateNetwork dst src jiffies).bssid = dst.bssid := by
  have hssid : (updateNetwork dst src jiffies).bssid = (updateSsid dst src).bssid := rfl
  rw [hssid]
  unfold updateSsid
  split_ifs <;> rfl

theorem Inv.updateCurrent (h : Inv d) (network : Network) :
    Inv (Association.updateCurrent env d network) := by
  unfold Association.updateCurrent
  split
  · exact h.same ⟨rfl, rfl, rfl, updateNetwork_bssid .., rfl, rfl⟩
  · exact h

theorem Inv.heard (h : Inv d) (network : Network) (new : Bool) :
    Inv (processProbeResponse cfg env d network new) := by
  unfold processProbeResponse
  split
  · exact (h.updateCurrent network).newNet network
  · exact h.updateCurrent network

/-! ## Received frames -/

theorem Inv.left (h : Inv d) {transmitter : Addr}
    (hother : d.iwMode = .infra → LinkUp d → transmitter ≠ d.currentNetwork.bssid) :
    Inv (d.note (.left transmitter)) where
  authenticated := h.authenticated
  linked hmode hup := ⟨(h.linked hmode hup).1, hother hmode hup, (h.linked hmode hup).2⟩
  linkedScanning := h.linkedScanning
  scanning := h.scanning
  started := h.started

theorem Inv.assocResp (h : Inv d) (hstate : d.state = .associatingAuthenticated)
    (hfrom : 30 ≤ f.len → f.le16 26 = 0 → f.addr2 = d.currentNetwork.bssid) :
    Inv (rxAssocResp env d f) := by
  obtain ⟨hstarted, hmode, hout⟩ := h.authenticated hstate
  have hfree := h.not_scanning (by rw [hstate]; decide) (by rw [hstate]; decide)
  unfold rxAssocResp
  simp only
  split
  · rename_i hstatus
    split
    · have hlen : 30 ≤ f.len := by
        by_contra hshort
        have hcode : (assocParse env d f).1 = 0xcafe := by
          unfold assocParse
          rw [if_pos (by omega)]
        rw [hcode] at hstatus
        exact absurd hstatus (by decide)
      have hok : f.le16 26 = 0 := by
        unfold assocParse at hstatus
        rw [if_neg (by omega)] at hstatus
        exact hstatus
      refine ⟨by rintro ⟨⟩, fun _ _ => ⟨hstarted, .inl ⟨hfrom hlen hok, hout⟩⟩, by rintro ⟨⟩, ?_, ?_⟩
      · intro hscan
        exact absurd hscan hfree
      · exact h.started
    · exact h.same ⟨rfl, rfl, rfl, rfl, rfl, rfl⟩
  split
  · exact h.same ⟨rfl, rfl, rfl, rfl, rfl, rfl⟩
  · have hcount : Inv { d with asocRetryCount := (assocParse env d f).2.2 } :=
      h.same ⟨rfl, rfl, rfl, rfl, rfl, rfl⟩
    exact hcount.abort

theorem Inv.auth (h : Inv d) (hstate : d.state = .associatingAuthenticating)
    (hstarted : d.protoStarted = true) (hmode : d.iwMode = .infra) : Inv (rxAuth cfg env d f) := by
  unfold rxAuth
  split
  · exact h.step2 hstate hstarted hmode
  · split
    · exact h.step2 hstate hstarted hmode
    · exact h.challenge hstate _
  · exact h.abort

theorem Inv.leave (h : Inv d) : Inv (rxLeave d f) := by
  unfold rxLeave
  split
  · rename_i hleave
    refine h.become_idle ⟨by rintro ⟨⟩, by rintro ⟨⟩, by rintro ⟨⟩⟩ rfl rfl ?_ ?_
    · rw [hleave.2.1]
      decide
    · rw [hleave.2.1]
      decide
  · exact h

theorem Inv.softmac (h : Inv d)
    (hfrom : d.state = .associatingAuthenticated → f.stype = .assocResp → 30 ≤ f.len →
      f.le16 26 = 0 → f.addr2 = d.currentNetwork.bssid) :
    Inv (rtllibRxFrameSoftmac cfg env d f) := by
  unfold rtllibRxFrameSoftmac
  split
  · rename_i hstarted
    split
    · rename_i hstype
      split
      · rename_i hresp
        exact h.assocResp hresp.1 (hfrom hresp.1 hstype)
      · exact h
    · split
      · rename_i hauth
        exact h.auth hauth.1 hstarted.1 hauth.2
      · exact h
    · exact h.leave
    · exact h
  · exact h

/-- The frame that ends the station's link is acted on when nothing keeps the code from it. -/
theorem Inv.left_station (h : Inv d) (hcfg : cfg.softmacAssociate = true) (hmode : d.iwMode = .infra)
    (hup : LinkUp d) (hstype : f.stype = .leave) (hstate : d.state = .linked)
    (haddr3 : f.addr3 = d.currentNetwork.bssid) :
    Inv (rtllibRxFrameSoftmac cfg env (d.note (.left f.addr2)) f) := by
  have hstarted := (h.linked hmode hup).1
  have hidle : Inv (rxLeave (d.note (.left f.addr2)) f) := by
    have hleave : f.addr3 = (d.note (.left f.addr2)).currentNetwork.bssid ∧
        (d.note (.left f.addr2)).state = .linked ∧ (d.note (.left f.addr2)).iwMode = .infra :=
      ⟨haddr3, hstate, hmode⟩
    unfold rxLeave
    rw [if_pos hleave]
    refine h.become_idle ⟨by rintro ⟨⟩, by rintro ⟨⟩, by rintro ⟨⟩⟩ rfl rfl ?_ ?_
    · rw [hstate]
      decide
    · rw [hstate]
      decide
  unfold rtllibRxFrameSoftmac
  rw [if_pos ⟨hstarted, hcfg⟩, hstype]
  exact hidle

theorem Inv.frame (h : Inv d) (hcfg : cfg.softmacAssociate = true)
    (hforeign : ¬ ForeignResponse cfg d f) (hlost : ¬ LostLeave cfg d f) :
    Inv (rtllibRxFrameMgmt cfg env d f) := by
  have hfrom (haddr1 : f.addr1 = cfg.devAddr) : d.state = .associatingAuthenticated →
      f.stype = .assocResp → 30 ≤ f.len → f.le16 26 = 0 → f.addr2 = d.currentNetwork.bssid := by
    intro hstate hstype hlen hstatus
    by_contra hne
    exact hforeign ⟨hstate, hstype, haddr1, hlen, hstatus, hne⟩
  unfold rtllibRxFrameMgmt
  by_cases hleave : f.stype = .leave ∧ f.isForUs cfg = true
  · simp only [hleave, and_self, if_true]
    by_cases hours : d.iwMode = .infra ∧ LinkUp d ∧ f.addr2 = d.currentNetwork.bssid
    · obtain ⟨hmode, hup, hbssid⟩ := hours
      have hacted : d.state = .linked ∧ f.addr1 = cfg.devAddr ∧
          f.addr3 = d.currentNetwork.bssid := by
        by_contra hnot
        exact hlost ⟨hmode, hup, hleave.1, hleave.2, hbssid, hnot⟩
      rw [if_pos hacted.2.1]
      exact h.left_station hcfg hmode hup hleave.1 hacted.1 hacted.2.2
    · have hnoted : Inv (d.note (.left f.addr2)) :=
        h.left fun hmode hup hbssid => hours ⟨hmode, hup, hbssid⟩
      split
      · rename_i haddr1
        exact hnoted.softmac (hfrom haddr1)
      · exact hnoted
  · simp only [hleave, if_false]
    split
    · rename_i haddr1
      exact h.softmac (hfrom haddr1)
    · exact h

/-! ## Start and stop -/

/-- There is nothing to justify, and no answer is awaited. -/
def Detached (d : Device) : Prop :=
  d.state ≠ .associatingAuthenticated ∧ (d.iwMode = .infra → ¬ LinkUp d)

theorem Inv.detached_of_stopped (h : Inv d) (hstopped : d.protoStarted = false) : Detached d := by
  refine ⟨fun hstate => ?_, fun hmode hup => ?_⟩
  · have hstarted := (h.authenticated hstate).1
    rw [hstopped] at hstarted
    cases hstarted
  · have hstarted := (h.linked hmode hup).1
    rw [hstopped] at hstarted
    cases hstarted

theorem Inv.of_detached (h : Inv d) (hd : Detached d) (net : Network) (wapSet : Bool) :
    Inv { d with currentNetwork := net, wapSet := wapSet } where
  authenticated hstate := absurd hstate hd.1
  linked hmode hup := absurd hup (hd.2 hmode)
  linkedScanning := h.linkedScanning
  scanning := h.scanning
  started := h.started

theorem stop_wxSem (shutdown : Bool) : (rtllibStopProtocol d shutdown).wxSem = d.wxSem := by
  unfold rtllibStopProtocol
  simp only
  split_ifs <;> rfl

/-- A protocol that was started is stopped without a link, since no scan goes on. -/
theorem stop_state (h : Inv d) (hfree : d.wxSem = .free) (hstarted : d.protoStarted = true)
    (shutdown : Bool) : (rtllibStopProtocol d shutdown).state = .nolink := by
  unfold rtllibStopProtocol
  rw [if_pos hstarted]
  cases hstate : d.state with
  | linkedScanning =>
    have hscan := h.linkedScanning hstate
    rw [hfree] at hscan
    cases hscan
  | linked => simp [unlinked, rtllibDisassociate]
  | nolink => simp [unlinked]
  | associating => simp [unlinked]
  | associatingRetry => simp [unlinked]
  | associatingAuthenticating => simp [unlinked]
  | associatingAuthenticated => simp [unlinked]

theorem Inv.of_nolink (hstate : d.state = .nolink) (hfree : d.wxSem = .free) : Inv d := by
  refine .of_idle ⟨?_, ?_, ?_⟩ ?_ ?_
  · rw [hstate]
    decide
  · rw [hstate]
    decide
  · rw [hstate]
    decide
  · rw [hfree]
    decide
  · rw [hfree]
    rintro ⟨⟩

theorem stop_of_stopped (hstopped : d.protoStarted = false) (shutdown : Bool) :
    rtllibStopProtocol d shutdown = d := by
  unfold rtllibStopProtocol
  rw [if_neg (by rw [hstopped]; decide)]

theorem Inv.stop (h : Inv d) (hfree : d.wxSem = .free) (shutdown : Bool) :
    Inv (rtllibStopProtocol d shutdown) ∧ Detached (rtllibStopProtocol d shutdown) := by
  cases hstarted : d.protoStarted with
  | false =>
    rw [stop_of_stopped hstarted]
    exact ⟨h, h.detached_of_stopped hstarted⟩
  | true =>
    have hstate := stop_state h hfree hstarted shutdown
    have hsem : (rtllibStopProtocol d shutdown).wxSem = .free := (stop_wxSem shutdown).trans hfree
    refine ⟨.of_nolink hstate hsem, ?_, ?_⟩
    · rw [hstate]
      decide
    · rintro - (hup | hup | hup)
      · rw [hstate] at hup
        cases hup
      · rw [hstate] at hup
        cases hup
      · rw [hsem] at hup
        cases hup

theorem Inv.protocolStarted (h : Inv d) : Inv { d with protoStarted := true } where
  authenticated hstate := ⟨rfl, (h.authenticated hstate).2⟩
  linked hmode hup := ⟨rfl, (h.linked hmode hup).2⟩
  linkedScanning := h.linkedScanning
  scanning := h.scanning
  started _ := rfl

theorem Inv.startBss (h : Inv d) : Inv (rtllibStartBss cfg env d) := by
  unfold rtllibStartBss
  split
  · exact h
  · exact h.checkNets _

theorem Inv.link (hmode : d.iwMode ≠ .infra) (hfree : d.wxSem = .free) (hstate : d.state = .linked) :
    Inv d where
  authenticated hauth := by
  -- In other modes the station may be linked without reason.
    rw [hstate] at hauth
    cases hauth
  linked hinfra := absurd hinfra hmode
  linkedScanning hscan := by
    rw [hstate] at hscan
    cases hscan
  scanning hscan := by
    rw [hfree] at hscan
    cases hscan
  started := by
    rw [hfree]
    rintro (⟨⟨⟩⟩ | ⟨⟨⟩⟩)

theorem defaultSsid_iwMode (n : Nat) : (defaultSsid d n).iwMode = d.iwMode := by
  unfold defaultSsid
  split_ifs <;> rfl

theorem defaultSsid_wxSem (n : Nat) : (defaultSsid d n).wxSem = d.wxSem := by
  unfold defaultSsid
  split_ifs <;> rfl

theorem Inv.defaultSsid (h : Inv d) (n : Nat) : Inv (Association.defaultSsid d n) := by
  unfold Association.defaultSsid
  split
  · exact h.same ⟨rfl, rfl, rfl, rfl, rfl, rfl⟩
  · exact h

theorem Inv.start (h : Inv d) (hfree : d.wxSem = .free) : Inv (rtllibStartProtocol cfg env d) := by
  unfold rtllibStartProtocol
  split
  · exact h
  simp only
  split
  · exact h.protocolStarted
  split
  · exact Inv.startBss (h.protocolStarted.same ⟨rfl, rfl, rfl, rfl, rfl, rfl⟩)
  · exact h.protocolStarted.same ⟨rfl, rfl, rfl, rfl, rfl, rfl⟩
  · rename_i hmaster
    refine .link ?_ ?_ rfl
    · show (Association.defaultSsid _ _).iwMode ≠ _
      rw [defaultSsid_iwMode]
      show d.iwMode ≠ _
      rw [hmaster]
      decide
    · show (Association.defaultSsid _ _).wxSem = _
      rw [defaultSsid_wxSem]
      exact hfree
  · exact h.protocolStarted.same ⟨rfl, rfl, rfl, rfl, rfl, rfl⟩

/-! ## Work items -/

theorem Inv.ibssScan (h : Inv d) (hfree : d.wxSem = .free) : Inv { d with wxSem := .ibssScan } := by
  have hscan : d.state ≠ .linkedScanning := by
    intro hstate
    have hsem := h.linkedScanning hstate
    rw [hfree] at hsem
    cases hsem
  refine ⟨h.authenticated, ?_, fun hstate => absurd hstate hscan, ?_, ?_⟩
  · rintro hmode (hup | hup | ⟨⟨⟩⟩)
    · exact h.linked hmode (.inl hup)
    · exact absurd hup hscan
  · rintro ⟨⟩
  · rintro (⟨⟨⟩⟩ | ⟨⟨⟩⟩)

theorem Inv.procedureWq (h : Inv d) (hfree : d.wxSem = .free) :
    Inv (rtllibAssociateProcedureWq env d) := by
  unfold rtllibAssociateProcedureWq
  split
  · exact h
  · refine h.step1 ?_
    rw [hfree]
    decide

theorem Inv.retryWq (h : Inv d) (hfree : d.wxSem = .free) :
    Inv (rtllibAssociateRetryWq cfg env d) := by
  unfold rtllibAssociateRetryWq
  split
  · refine Inv.checkNets ?_ _
    exact .of_nolink rfl hfree
  · exact h

theorem Inv.startIbssWq (h : Inv d) (hfree : d.wxSem = .free) :
    Inv (rtllibStartIbssWq cfg env d) := by
  have hsearched : Inv (rtllibSoftmacCheckAllNets cfg env (Association.defaultSsid d 8)) :=
    (h.defaultSsid 8).checkNets env.networkList
  refine hsearched.ibssScan ?_
  unfold rtllibSoftmacCheckAllNets
  rw [checkNets_wxSem, defaultSsid_wxSem]
  exact hfree

theorem Inv.run (h : Inv d) (hfree : d.wxSem = .free) (item : Item) : Inv (runItem cfg env d item) := by
  cases item with
  | procedure =>
    show Inv (if d.associateProcedureWq.waiting then _ else d)
    split
    · refine Inv.procedureWq ?_ hfree
      exact h.same ⟨rfl, rfl, rfl, rfl, rfl, rfl⟩
    · exact h
  | retry =>
    show Inv (if d.associateRetryWq.waiting then _ else d)
    split
    · refine Inv.retryWq ?_ hfree
      exact h.same ⟨rfl, rfl, rfl, rfl, rfl, rfl⟩
    · exact h
  | ibss =>
    show Inv (if d.startIbssWq.waiting then _ else d)
    split
    · refine Inv.startIbssWq ?_ hfree
      exact h.same ⟨rfl, rfl, rfl, rfl, rfl, rfl⟩
    · exact h

theorem Inv.cell (hsem : d.wxSem = .ibssScan) (hforced : ¬ ForcedCell d) :
    Inv (Association.ibssScanDone cfg env d) := by
  refine .link ?_ rfl rfl
  have hmode : (Association.ibssScanDone cfg env d).iwMode = d.iwMode := by
    unfold Association.ibssScanDone
    simp only
    split_ifs <;> rfl
  rw [hmode]
  exact fun hinfra => hforced ⟨hinfra, hsem⟩

theorem Inv.syncScan (h : Inv d) (hsem : d.wxSem = .scanQueued) (hforced : ¬ ForcedScan d) :
    Inv { d with state := .linkedScanning, wxSem := .scanning } where
  authenticated := by rintro ⟨⟩
  linked hmode _ := by
    have hstate : d.state = .linked := by
      by_contra hne
      exact hforced ⟨hmode, hsem, hne⟩
    exact h.linked hmode (.inl hstate)
  linkedScanning _ := rfl
  scanning _ := .inl rfl
  started _ := h.started (.inl hsem)

theorem Inv.syncScanDone (h : Inv d) (hsem : d.wxSem = .scanning) :
    Inv { d with state := .linked, wxSem := .free } where
  authenticated := by rintro ⟨⟩
  linked hmode _ := h.linked hmode (.inr (.inr hsem))
  linkedScanning := by rintro ⟨⟩
  scanning := by rintro ⟨⟩
  started := by rintro (⟨⟨⟩⟩ | ⟨⟨⟩⟩)

theorem Inv.roam (h : Inv d) (hstate : d.state = .linked) :
    Inv { d with state := .associating }.queueProcedure := by
  refine h.become_idle ⟨by rintro ⟨⟩, by rintro ⟨⟩, by rintro ⟨⟩⟩ rfl rfl ?_ ?_
  · rw [hstate]
    decide
  · rw [hstate]
    decide

/-! ## Requests of the user -/

theorem Inv.setWap (h : Inv d) (hfree : d.wxSem = .free) {ifup : Bool} (hstale : ¬ StaleWap d ifup)
    (addr : Addr) : Inv (rtllibWxSetWap cfg env d ifup addr) := by
  unfold rtllibWxSetWap
  split
  · exact h
  cases ifup with
  | true =>
    obtain ⟨hinv, hdetached⟩ := h.stop hfree true
    have hwap := hinv.of_detached hdetached
      { (rtllibStopProtocol d true).currentNetwork with bssid := addr } (decide (addr ≠ fun _ => 0))
    exact hwap.start ((stop_wxSem true).trans hfree)
  | false =>
    have hdetached : Detached d := by
      cases hstarted : d.protoStarted with
      | false => exact h.detached_of_stopped hstarted
      | true =>
        refine ⟨fun hstate => ?_, fun hmode hup => ?_⟩
        · exact hstale ⟨hstarted, rfl, .inl hstate⟩
        · exact hstale ⟨hstarted, rfl, .inr ⟨hmode, hup⟩⟩
    exact h.of_detached hdetached _ _

theorem Inv.setEssid (h : Inv d) (hfree : d.wxSem = .free) (flags : Bool) (essid : List Byte) :
    Inv (rtllibWxSetEssid cfg env d flags essid) := by
  unfold rtllibWxSetEssid
  split
  · exact h
  have hstop : Inv (if d.protoStarted then rtllibStopProtocol d true else d) ∧
      (if d.protoStarted then rtllibStopProtocol d true else d).wxSem = .free := by
    split
    · exact ⟨(h.stop hfree true).1, (stop_wxSem true).trans hfree⟩
    · exact ⟨h, hfree⟩
  simp only
  generalize (if d.protoStarted then rtllibStopProtocol d true else d) = d₁ at hstop ⊢
  obtain ⟨hinv, hsem⟩ := hstop
  have hset : Inv (if flags = true ∧ essid ≠ [] then
        { d₁ with
          currentNetwork := { d₁.currentNetwork with
            ssid := strncpy d₁.currentNetwork.ssid (fun i => essid.getD i 0) (min essid.length 32)
            ssidLen := min essid.length 32 }
          ssidSet := true }
      else
        { d₁ with
          currentNetwork := { d₁.currentNetwork with
            ssid := Function.update d₁.currentNetwork.ssid 0 0, ssidLen := 0 }
          ssidSet := false }) := by
    split
    · exact hinv.same ⟨rfl, rfl, rfl, rfl, rfl, rfl⟩
    · exact hinv.same ⟨rfl, rfl, rfl, rfl, rfl, rfl⟩
  split
  · refine hset.start ?_
    split <;> exact hsem
  · exact hset

theorem Inv.setMode (h : Inv d) (hfree : d.wxSem = .free) {mode : IwMode} (hkept : ¬ CellKept d mode) :
    Inv (rtllibWxSetMode cfg env d mode) := by
  unfold rtllibWxSetMode
  split
  · exact h
  split
  · rename_i hstarted
    have hsem : (rtllibStopProtocol d true).wxSem = .free := (stop_wxSem true).trans hfree
    have hmode : Inv { rtllibStopProtocol d true with iwMode := mode } :=
      .of_nolink (stop_state h hfree hstarted true) hsem
    exact hmode.start hsem
  · rename_i hstarted
    rw [Bool.not_eq_true] at hstarted
    refine ⟨?_, ?_, h.linkedScanning, h.scanning, h.started⟩
    · intro hstate
      exact absurd hstate (h.detached_of_stopped hstarted).1
    · intro hinfra hup
      rcases hup with hup | hup | hup
      · exact absurd ⟨hinfra, hstarted, hup⟩ hkept
      · have hscan := h.linkedScanning hup
        rw [hfree] at hscan
        cases hscan
      · have hscan : d.wxSem = .scanning := hup
        rw [hfree] at hscan
        cases hscan

theorem Inv.setScan (h : Inv d) (hfree : d.wxSem = .free) : Inv (rtllibWxSetScan d) := by
  unfold rtllibWxSetScan
  split
  · rename_i hscan
    obtain ⟨-, hstarted, hstate⟩ := hscan
    refine ⟨h.authenticated, ?_, ?_, ?_, fun _ => hstarted⟩
    · intro hmode _
      exact h.linked hmode (.inl hstate)
    · intro hscan
      have hsem := h.linkedScanning hscan
      rw [hfree] at hsem
      cases hsem
    · rintro ⟨⟩
  · exact h

theorem Inv.setMlme (h : Inv d) (hfree : d.wxSem = .free) (linked known : Bool) :
    Inv (rtllibWxSetMlme d linked known) := by
  unfold rtllibWxSetMlme
  split
  · exact .of_nolink rfl hfree
  · exact h

theorem Inv.wpaMlme (h : Inv d) (hfree : d.wxSem = .free) (disassoc : Bool) :
    Inv (rtllibWpaMlme d disassoc) := by
  unfold rtllibWpaMlme
  split
  · exact .of_nolink rfl hfree
  · exact h

theorem Inv.request (h : Inv d) (hfree : d.wxSem = .free) {r : Request}
    (hclean : Clean cfg d (env, .request r)) : Inv (Association.request cfg env d r) := by
  cases r with
  | setWap ifup addr => exact h.setWap hfree hclean addr
  | setEssid flags essid => exact h.setEssid hfree flags essid
  | setMode mode => exact h.setMode hfree hclean
  | setScan => exact h.setScan hfree
  | setMlme linked known => exact h.setMlme hfree linked known
  | wpaMlme disassoc => exact h.wpaMlme hfree disassoc
  | up =>
    show Inv (up cfg env d)
    unfold up
    split
    · exact h.start hfree
    · exact h
  | down =>
    obtain ⟨hinv, hdetached⟩ := h.stop hfree true
    exact hinv.of_detached hdetached default _

/-! ## Runs -/

theorem inv_step (hcfg : cfg.softmacAssociate = true) (h : Inv d) {e : Env × Event}
    (hclean : Clean cfg d e) : Inv (step cfg d e) := by
  obtain ⟨env, e⟩ := e
  cases e with
  | frame f => exact h.frame hcfg hclean.1 hclean.2
  | heard network new => exact h.heard network new
  | associateTimer =>
    show Inv (if d.associateTimer then rtllibAssociateAbort { d with associateTimer := false } else d)
    split
    · have htimer : Inv { d with associateTimer := false } := h.same ⟨rfl, rfl, rfl, rfl, rfl, rfl⟩
      exact htimer.abort
    · exact h
  | start item =>
    cases item with
    | procedure => exact h.same ⟨rfl, rfl, rfl, rfl, rfl, rfl⟩
    | retry => exact h.same ⟨rfl, rfl, rfl, rfl, rfl, rfl⟩
    | ibss => exact h.same ⟨rfl, rfl, rfl, rfl, rfl, rfl⟩
  | run item =>
    show Inv (if d.wxSem = .free then runItem cfg env d item else d)
    split
    · rename_i hfree
      exact h.run hfree item
    · exact h
  | ibssScanDone =>
    show Inv (if d.wxSem = .ibssScan then Association.ibssScanDone cfg env d else d)
    split
    · rename_i hsem
      exact .cell hsem hclean
    · exact h
  | syncScan =>
    show Inv (if d.wxSem = .scanQueued then _ else d)
    split
    · rename_i hsem
      exact h.syncScan hsem hclean
    · exact h
  | syncScanDone =>
    show Inv (if d.wxSem = .scanning then _ else d)
    split
    · rename_i hsem
      exact h.syncScanDone hsem
    · exact h
  | associateComplete => exact h.same ⟨rfl, rfl, rfl, rfl, rfl, rfl⟩
  | roam =>
    show Inv (if d.state = .linked ∧ d.iwMode = .infra then _ else d)
    split
    · rename_i hroam
      exact h.roam hroam.1
    · exact h
  | scanEssid essidLen essid =>
    show Inv (copyEssid d essidLen essid)
    unfold copyEssid
    split
    · exact h.same ⟨rfl, rfl, rfl, rfl, rfl, rfl⟩
    · exact h
  | request r =>
    show Inv (if d.wxSem = .free then Association.request cfg env d r else d)
    split
    · rename_i hfree
      exact h.request hfree hclean
    · exact h

/-- The device after `rtllib_softmac_init`, in infrastructure mode. -/
structure Initial (d : Device) : Prop where
  state : d.state = .nolink
  wxSem : d.wxSem = .free
  iwMode : d.iwMode = .infra
  protoStarted : d.protoStarted = false
  traffic : d.traffic = []

/-- In a run of clean steps the station is linked only with reason, in every state. -/
theorem linked_sound_of_clean (hcfg : cfg.softmacAssociate = true) (hd : Initial d)
    {es : List (Env × Event)} (hes : Meets (step cfg) (Clean cfg) d es) :
    ∀ fs, fs <+: es → Sound (exec (step cfg) d fs) := by
  intro fs hfs
  have hinit : Inv d := .of_nolink hd.state hd.wxSem
  exact (exec_inv_before (C := Clean cfg) (fun _ _ h hclean => inv_step hcfg h hclean) hinit hes fs hfs).sound

/-! ## Two runs -/

def station : Config where
  devAddr := fun _ => 2
  softmacAssociate := true
  ibssMaxjoinChal := 14
  ibssStartChnl := 1
  scanAge := 0
  bGlobalDomain := false
  openWep := false
  cckModulation := true
  ofdmModulation := true

def quiet : Env where
  jiffies := 0
  networkList := []
  dot11d := { (default : Dot11dInfo) with channelMap := fun _ => 1 }
  mode := ieeeG
  rfOff := false
  skb := true
  network := true
  random := fun _ => 0

def reset : Device where
  state := .nolink
  protoStarted := false
  iwMode := .infra
  currentNetwork := default
  wapSet := false
  ssidSet := false
  asocRetryCount := 0
  assocId := 0
  associateTimer := false
  associateProcedureWq := default
  associateRetryWq := default
  startIbssWq := default
  associateCompleteWq := false
  wxSem := .free
  traffic := []

/-- The network `n` of the access point `04:04:04:04:04:04`. -/
def accessPoint : Network :=
  { (default : Network) with
    bssid := fun _ => 4, ssid := fun i => if i = 0 then 0x6e else 0, ssidLen := 1, capability := 1 }

/-- A frame of the access point to the station, with zeros behind the header. -/
def fromAp (frameCtl : Byte) : Frame where
  mem i := if i = 0 then frameCtl else if 4 ≤ i ∧ i < 10 then 2 else if 10 ≤ i ∧ i < 22 then 4 else 0
  len := 30

def joining : List Event :=
  [.request (.setEssid true [0x6e]), .request .up, .heard accessPoint true, .start .procedure,
    .run .procedure, .frame (fromAp 0xB0), .frame (fromAp 0x10)]

def joiningRun : List (Env × Event) := joining.map (quiet, ·)

theorem reset_initial : Initial reset := ⟨rfl, rfl, rfl, rfl, rfl⟩

instance (cfg : Config) (d : Device) (e : Env × Event) : Decidable (Clean cfg d e) := by
  unfold Clean ForeignResponse LostLeave ForcedScan ForcedCell StaleWap CellKept
  split <;> infer_instance

theorem joiningRun_clean : Meets (step station) (Clean station) reset joiningRun := by
  decide +kernel

theorem linked_sound_of_clean_joining :
    (exec (step station) reset joiningRun).state = .linked ∧
      Sound (exec (step station) reset joiningRun) :=
  ⟨by decide +kernel,
    linked_sound_of_clean rfl reset_initial joiningRun_clean joiningRun List.prefix_rfl⟩

/-- The access point ends the link while the station scans. -/
def lostRun : List (Env × Event) :=
  joiningRun ++ [.request .setScan, .syncScan, .frame (fromAp 0xC0), .syncScanDone].map (quiet, ·)

theorem not_always_linked_sound : ¬ ∀ cfg : Config, cfg.softmacAssociate = true →
    ∀ d, Initial d → ∀ es, Sound (exec (step cfg) d es) := by
  intro h
  have hsound := h station rfl reset reset_initial lostRun
  revert hsound
  decide +kernel

end Rtl8190.Association
