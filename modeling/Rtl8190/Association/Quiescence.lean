import Rtl8190.Association.Choice
import Rtl8190.Association.Soundness
import Rtl8190.Lib.Run

/-!
# After `rtllib_stop_protocol`

A stop cancels what is queued, but not `associate_procedure_wq`, and it cannot cancel what already
waits for `wx_sem`. Beacons are looked at whether the protocol is started or not. What comes after a
stop runs on until the next start, together with the background scan.
-/

open Rtl8190.Memory Rtl8190.Beacon Rtl8190.Run

namespace Rtl8190.Association

/-! ## The background scan -/

/-- What `rtllib_softmac_scan_wq` finds. -/
structure Scan where
  ieeeUp : Bool
  rfOff : Bool
  beScanInprogress : Bool
  scanning : Bool
  scanWatchDog : Nat
  channelMap : Nat → Byte

/-- The next channel of the map, if `scan_watch_dog` leaves as many tries. -/
def nextChannel (map : Nat → Byte) : (tries channel : Nat) → Option Nat
  | 0, _ => none
  | tries + 1, channel =>
    let channel := (channel + 1) % maxChannelNumber
    if map channel ≠ 0 then some channel else nextChannel map tries channel

/-- `rtllib_softmac_scan_wq`: it asks for probe responses on the next channel, or ends the scan and
puts the channel back. -/
def rtllibSoftmacScanWq (scan : Scan) (d : Device) : Device :=
  if scan.ieeeUp = false ∨ scan.rfOff ∨ scan.beScanInprogress then d
  else
    let net := d.currentNetwork
    match nextChannel scan.channelMap (maxChannelNumber + 1 - scan.scanWatchDog) net.channel.toNat with
    | none => d
    | some channel =>
      if scan.scanning then { d with currentNetwork := { net with channel := BitVec.ofNat 8 channel } }
      else d

/-- What may come after a stop. -/
inductive Late where
  | event (env : Env) (e : Event)
  | scanWq (scan : Scan)

def lateStep (cfg : Config) (d : Device) : Late → Device
  | .event env e => step cfg d (env, e)
  | .scanWq scan => rtllibSoftmacScanWq scan d

/-- `rtllib_start_protocol` is called. While the protocol is stopped, no other request calls it. -/
def Late.Starts : Late → Prop
  | .event _ (.request .up) => True
  | .event _ (.request (.setWap true _)) => True
  | _ => False

/-! ## What the claim is about -/

def Traffic.isRequest : Traffic → Bool
  | .authReq .. | .assocReq _ => true
  | _ => false

def Device.requests (d : Device) : List Traffic := d.traffic.filter Traffic.isRequest

/-- Nothing was sent but `sent`, and there is no attempt and no link. -/
structure Quiescent (sent : List Traffic) (d : Device) : Prop where
  state : d.state = .nolink
  requests : d.requests = sent

/-- `associate_procedure_wq` or `start_ibss_wq` goes on, or a beacon is taken for a network to
join. -/
def Wakes (cfg : Config) (d : Device) : Late → Prop
  | .event env (.heard network new) =>
    new = true ∧ cfg.softmacAssociate = true ∧ Suits cfg (updateCurrent env d network) network
  | .event env (.run .procedure) =>
    d.wxSem = .free ∧ d.associateProcedureWq.waiting = true ∧ env.rfOff = false
  | .event env (.run .ibss) =>
    d.wxSem = .free ∧ d.startIbssWq.waiting = true ∧
      ∃ target ∈ env.networkList, Candidate cfg env (defaultSsid d 8) target
  | .event _ .ibssScanDone => d.wxSem = .ibssScan
  | _ => False

structure Stopped (d : Device) : Prop where
  protoStarted : d.protoStarted = false
  associateTimer : d.associateTimer = false
  wxSem : d.wxSem = .free ∨ d.wxSem = .ibssScan

variable {cfg : Config} {env : Env} {d d' : Device} {sent : List Traffic}

/-! ## The stop -/

theorem stop_stopped (h : d.protoStarted = true) (hfree : d.wxSem = .free) :
    Stopped (rtllibStopProtocol d true) := by
  refine ⟨?_, ?_, .inl ((stop_wxSem true).trans hfree)⟩
  · unfold rtllibStopProtocol
    rw [if_pos h]
    dsimp only
    split_ifs <;> rfl
  · unfold rtllibStopProtocol
    rw [if_pos h]
    dsimp only
    split_ifs <;> rfl

/-- `rtllib_stop_protocol` does not know of the scan of a linked station. It has `wx_sem` then. -/
theorem stop_nolink_iff (h : d.protoStarted = true) :
    (rtllibStopProtocol d true).state = .nolink ↔ d.state ≠ .linkedScanning := by
  unfold rtllibStopProtocol
  rw [if_pos h]
  cases hstate : d.state <;> simp [unlinked, rtllibDisassociate]

/-! ## The steps -/

/-- What a stop has settled is left as it was. -/
structure Still (d d' : Device) : Prop where
  state : d'.state = d.state
  requests : d'.requests = d.requests
  protoStarted : d'.protoStarted = d.protoStarted
  associateTimer : d'.associateTimer = d.associateTimer
  wxSem : d'.wxSem = d.wxSem

theorem Still.refl (d : Device) : Still d d := ⟨rfl, rfl, rfl, rfl, rfl⟩

theorem Still.trans {d₁ d₂ d₃ : Device} (h : Still d₁ d₂) (h' : Still d₂ d₃) : Still d₁ d₃ :=
  ⟨h'.state.trans h.state, h'.requests.trans h.requests, h'.protoStarted.trans h.protoStarted,
    h'.associateTimer.trans h.associateTimer, h'.wxSem.trans h.wxSem⟩

theorem Stopped.still (h : Stopped d) (hd : Still d d') : Stopped d' := by
  refine ⟨hd.protoStarted.trans h.protoStarted, hd.associateTimer.trans h.associateTimer, ?_⟩
  rw [hd.wxSem]
  exact h.wxSem

/-- A step either leaves the station quiet, or it wakes it and the state shows it. -/
def Outcome (sent : List Traffic) (wakes : Prop) (d : Device) : Prop :=
  ¬ wakes ∧ Stopped d ∧ Quiescent sent d ∨ wakes ∧ d.state ≠ .nolink

structure Asleep (sent : List Traffic) (d : Device) : Prop where
  stopped : Stopped d
  quiescent : Quiescent sent d

theorem Asleep.still {wakes : Prop} (h : Asleep sent d) (hw : ¬ wakes) (hd : Still d d') :
    Outcome sent wakes d' := by
  refine .inl ⟨hw, h.stopped.still hd, hd.state.trans h.quiescent.state, ?_⟩
  exact hd.requests.trans h.quiescent.requests

theorem requests_note_left (d : Device) (transmitter : Addr) :
    (d.note (.left transmitter)).requests = d.requests := rfl

theorem frame_still (h : Stopped d) (f : Frame) : Still d (rtllibRxFrameMgmt cfg env d f) := by
  have hsoftmac : ∀ d', d'.protoStarted = false → rtllibRxFrameSoftmac cfg env d' f = d' := by
    intro d' hd'
    unfold rtllibRxFrameSoftmac
    rw [if_neg (by rw [hd']; exact fun hstarted => nomatch hstarted.1)]
  have hnote : Still d (if f.stype = .leave ∧ f.isForUs cfg then d.note (.left f.addr2) else d) := by
    split
    · exact ⟨rfl, requests_note_left d f.addr2, rfl, rfl, rfl⟩
    · exact .refl d
  unfold rtllibRxFrameMgmt
  dsimp only
  split
  · rw [hsoftmac _ (hnote.protoStarted.trans h.protoStarted)]
    exact hnote
  · exact hnote

theorem updateCurrent_still (env : Env) (d : Device) (network : Network) :
    Still d (updateCurrent env d network) := by
  unfold updateCurrent
  split
  · exact ⟨rfl, rfl, rfl, rfl, rfl⟩
  · exact .refl d

theorem Asleep.heard (h : Asleep sent d) (network : Network) (new : Bool) :
    Outcome sent (Wakes cfg d (.event env (.heard network new)))
      (processProbeResponse cfg env d network new) := by
  have hcurrent := updateCurrent_still env d network
  unfold processProbeResponse
  split
  · next hnew =>
    by_cases hsuits : Suits cfg (updateCurrent env d network) network
    · have hstate := hcurrent.state.trans h.quiescent.state
      rw [newNet_of_suits hstate hsuits]
      exact .inr ⟨⟨hnew.1, hnew.2, hsuits⟩, link_state_ne _ network⟩
    · rw [newNet_of_not_suits hsuits]
      exact h.still (fun hw => hsuits hw.2.2) hcurrent
  · next hold => exact h.still (fun hw => hold ⟨hw.1, hw.2.1⟩) hcurrent

theorem step1_state_ne (d : Device) : (rtllibAssociateStep1 env d).state ≠ .nolink := by
  unfold rtllibAssociateStep1
  split
  · intro h
    cases h
  · intro h
    cases h

theorem defaultSsid_still (n : Nat) : Still d (defaultSsid d n) := by
  unfold defaultSsid
  split
  · exact ⟨rfl, rfl, rfl, rfl, rfl⟩
  · exact .refl d

theorem Asleep.startIbssWq (h : Asleep sent d) {wakes : Prop}
    (hw : wakes ↔ ∃ target ∈ env.networkList, Candidate cfg env (defaultSsid d 8) target) :
    Outcome sent wakes (rtllibStartIbssWq cfg env d) := by
  have hssid := defaultSsid_still (d := d) 8
  unfold rtllibStartIbssWq rtllibSoftmacCheckAllNets
  by_cases hcand : ∃ target ∈ env.networkList, Candidate cfg env (defaultSsid d 8) target
  · obtain ⟨target, -, -, heq⟩ :=
      checkNets_of_some env.networkList (hssid.state.trans h.quiescent.state) hcand
    rw [heq]
    exact .inr ⟨hw.mpr hcand, link_state_ne _ target⟩
  · rw [checkNets_of_none env.networkList fun target hmem hc => hcand ⟨target, hmem, hc⟩]
    have hstopped := h.stopped.still hssid
    refine .inl ⟨fun hwakes => hcand (hw.mp hwakes), ?_, ?_⟩
    · exact ⟨hstopped.protoStarted, hstopped.associateTimer, .inr rfl⟩
    · exact ⟨hssid.state.trans h.quiescent.state, hssid.requests.trans h.quiescent.requests⟩

theorem candidate_ibss (d : Device) (w : Work) (target : Network) :
    Candidate cfg env (defaultSsid { d with startIbssWq := w } 8) target ↔
      Candidate cfg env (defaultSsid d 8) target := by
  unfold defaultSsid
  dsimp only
  split
  · exact Iff.rfl
  · exact Iff.rfl

theorem Asleep.run (h : Asleep sent d) (item : Item) :
    Outcome sent (Wakes cfg d (.event env (.run item)))
      (if d.wxSem = .free then runItem cfg env d item else d) := by
  split
  · next hfree =>
    cases item with
    | procedure =>
      show Outcome _ _ (if d.associateProcedureWq.waiting then _ else d)
      split
      · next hwait =>
        unfold rtllibAssociateProcedureWq
        split
        · next hoff =>
          refine h.still ?_ ⟨rfl, rfl, rfl, rfl, rfl⟩
          rintro ⟨-, -, hon⟩
          rw [hoff] at hon
          cases hon
        · next hon => exact .inr ⟨⟨hfree, hwait, Bool.eq_false_iff.mpr hon⟩, step1_state_ne _⟩
      · next hwait => exact h.still (fun hw => hwait hw.2.1) (.refl d)
    | retry =>
      show Outcome _ _ (if d.associateRetryWq.waiting then _ else d)
      split
      · unfold rtllibAssociateRetryWq
        rw [if_neg (by rw [h.stopped.protoStarted]; exact fun hs => nomatch hs.1)]
        exact h.still id ⟨rfl, rfl, rfl, rfl, rfl⟩
      · exact h.still id (.refl d)
    | ibss =>
      show Outcome _ _ (if d.startIbssWq.waiting then _ else d)
      split
      · next hwait =>
        have htaken : Asleep sent { d with startIbssWq := { d.startIbssWq with waiting := false } } :=
          ⟨h.stopped.still ⟨rfl, rfl, rfl, rfl, rfl⟩, ⟨h.quiescent.state, h.quiescent.requests⟩⟩
        apply htaken.startIbssWq
        simp only [candidate_ibss]
        exact ⟨fun hw => hw.2.2, fun hc => ⟨hfree, hwait, hc⟩⟩
      · next hwait => exact h.still (fun hw => hwait hw.2.1) (.refl d)
  · next hheld =>
    refine h.still ?_ (.refl d)
    cases item with
    | procedure => exact fun hw => hheld hw.1
    | retry => exact id
    | ibss => exact fun hw => hheld hw.1

theorem request_still (h : Stopped d) (hstate : d.state = .nolink) {r : Request}
    (hr : ¬ Late.Starts (.event env (.request r))) : Still d (request cfg env d r) := by
  -- A request that does not start the protocol only changes the settings.
  cases r with
  | setWap ifup addr =>
    cases ifup with
    | true => exact absurd trivial hr
    | false =>
      show Still d (rtllibWxSetWap cfg env d false addr)
      unfold rtllibWxSetWap
      split
      · exact .refl d
      · exact ⟨rfl, rfl, rfl, rfl, rfl⟩
  | setEssid flags essid =>
    show Still d (rtllibWxSetEssid cfg env d flags essid)
    unfold rtllibWxSetEssid
    split
    · exact .refl d
    dsimp only
    rw [h.protoStarted, if_neg Bool.false_ne_true, if_neg Bool.false_ne_true]
    split
    · exact ⟨rfl, rfl, rfl, rfl, rfl⟩
    · exact ⟨rfl, rfl, rfl, rfl, rfl⟩
  | setMode mode =>
    show Still d (rtllibWxSetMode cfg env d mode)
    unfold rtllibWxSetMode
    split
    · exact .refl d
    rw [if_neg (by rw [h.protoStarted]; exact Bool.false_ne_true)]
    exact ⟨rfl, rfl, rfl, rfl, rfl⟩
  | setScan =>
    show Still d (rtllibWxSetScan d)
    unfold rtllibWxSetScan
    rw [if_neg (by rw [h.protoStarted]; exact fun hs => nomatch hs.2.1)]
    exact .refl d
  | setMlme linked known =>
    show Still d (rtllibWxSetMlme d linked known)
    unfold rtllibWxSetMlme
    split
    · exact ⟨hstate.symm, rfl, rfl, rfl, rfl⟩
    · exact .refl d
  | wpaMlme disassoc =>
    show Still d (rtllibWpaMlme d disassoc)
    unfold rtllibWpaMlme
    split
    · exact ⟨hstate.symm, rfl, rfl, rfl, rfl⟩
    · exact .refl d
  | up => exact absurd trivial hr
  | down =>
    show Still d (down d)
    unfold down
    rw [stop_of_stopped h.protoStarted]
    exact ⟨rfl, rfl, rfl, rfl, rfl⟩

theorem scanWq_still (scan : Scan) : Still d (rtllibSoftmacScanWq scan d) := by
  unfold rtllibSoftmacScanWq
  split
  · exact .refl d
  dsimp only
  split
  · exact .refl d
  · split
    · exact ⟨rfl, rfl, rfl, rfl, rfl⟩
    · exact .refl d

theorem Stopped.wxSem_ne (h : Stopped d) : d.wxSem ≠ .scanQueued ∧ d.wxSem ≠ .scanning := by
  rcases h.wxSem with hsem | hsem <;> rw [hsem] <;> exact ⟨nofun, nofun⟩

theorem Asleep.step (cfg : Config) (h : Asleep sent d) {e : Late} (he : ¬ e.Starts) :
    Outcome sent (Wakes cfg d e) (lateStep cfg d e) := by
  cases e with
  | scanWq scan => exact h.still id (scanWq_still scan)
  | event env e =>
    cases e with
    | frame f => exact h.still id (frame_still h.stopped f)
    | heard network new => exact h.heard network new
    | associateTimer =>
      refine h.still id ?_
      show Still d (if d.associateTimer then _ else d)
      rw [if_neg (by rw [h.stopped.associateTimer]; exact Bool.false_ne_true)]
      exact .refl d
    | start item =>
      refine h.still id ?_
      cases item <;> exact ⟨rfl, rfl, rfl, rfl, rfl⟩
    | run item => exact h.run item
    | ibssScanDone =>
      show Outcome _ _ (if d.wxSem = .ibssScan then ibssScanDone cfg env d else d)
      split
      · next hsem => exact .inr ⟨hsem, nofun⟩
      · next hsem => exact h.still hsem (.refl d)
    | syncScan =>
      refine h.still id ?_
      show Still d (if d.wxSem = .scanQueued then _ else d)
      rw [if_neg h.stopped.wxSem_ne.1]
      exact .refl d
    | syncScanDone =>
      refine h.still id ?_
      show Still d (if d.wxSem = .scanning then _ else d)
      rw [if_neg h.stopped.wxSem_ne.2]
      exact .refl d
    | associateComplete => exact h.still id ⟨rfl, rfl, rfl, rfl, rfl⟩
    | roam =>
      refine h.still id ?_
      show Still d (if d.state = .linked ∧ d.iwMode = .infra then _ else d)
      rw [if_neg (by rw [h.quiescent.state]; exact fun hs => nomatch hs.1)]
      exact .refl d
    | scanEssid essidLen essid =>
      refine h.still id ?_
      show Still d (copyEssid d essidLen essid)
      unfold copyEssid
      split
      · exact ⟨rfl, rfl, rfl, rfl, rfl⟩
      · exact .refl d
    | request r =>
      refine h.still id ?_
      show Still d (if d.wxSem = .free then request cfg env d r else d)
      split
      · exact request_still h.stopped h.quiescent.state he
      · exact .refl d

/-! ## Runs -/

/-- A device that was stopped stays quiet exactly in the runs where nothing wakes it. -/
theorem quiescent_iff (cfg : Config) (d : Device) (hstarted : d.protoStarted = true)
    (hfree : d.wxSem = .free) (es : List Late) (hes : ∀ e ∈ es, ¬ e.Starts) :
    d.state ≠ .linkedScanning ∧
        Meets (lateStep cfg) (fun d e => ¬ Wakes cfg d e) (rtllibStopProtocol d true) es ↔
      ∀ fs, fs <+: es → Quiescent (rtllibStopProtocol d true).requests
        (exec (lateStep cfg) (rtllibStopProtocol d true) fs) := by
  have hrun : Quiescent (rtllibStopProtocol d true).requests (rtllibStopProtocol d true) →
      (Meets (lateStep cfg) (fun d e => ¬ Wakes cfg d e) (rtllibStopProtocol d true) es ↔
        ∀ fs, fs <+: es → Quiescent (rtllibStopProtocol d true).requests
          (exec (lateStep cfg) (rtllibStopProtocol d true) fs)) := by
    intro hq
    refine meets_iff_forall_prefixes (I := Stopped) (V := fun e => ¬ e.Starts) ?_ ?_
      (stop_stopped hstarted hfree) hq hes
    · intro d e hs hq he hw
      rcases Asleep.step cfg ⟨hs, hq⟩ he with h | h
      · exact h.2.1
      · exact absurd h.1 hw
    · intro d e hs hq he
      rcases Asleep.step cfg ⟨hs, hq⟩ he with h | h
      · exact iff_of_true h.2.2 h.1
      · exact iff_of_false (fun hq' => h.2 hq'.state) (not_not.mpr h.1)
  constructor
  · rintro ⟨hstate, hm⟩
    exact (hrun ⟨(stop_nolink_iff hstarted).mpr hstate, rfl⟩).mp hm
  · intro h
    have hq := h [] (List.nil_prefix)
    exact ⟨(stop_nolink_iff hstarted).mp hq.state, (hrun hq).mpr h⟩

/-! The work item of an attempt is still queued when the user gives up. -/

def choosing : Device :=
  exec (step station) reset
    ([.request (.setEssid true [0x6e]), .request .up, .heard accessPoint true].map (quiet, ·))

def lateRun : List Late := [.event quiet (.start .procedure), .event quiet (.run .procedure)]

theorem lateRun_sends : (exec (lateStep station) (rtllibStopProtocol choosing true) lateRun).state ≠
    .nolink := by
  decide +kernel

theorem not_always_quiescent : ¬ ∀ (cfg : Config) (d : Device), d.protoStarted = true →
    d.wxSem = .free → ∀ es : List Late, (∀ e ∈ es, ¬ e.Starts) →
      Quiescent (rtllibStopProtocol d true).requests
        (exec (lateStep cfg) (rtllibStopProtocol d true) es) := by
  intro h
  have hquiet := h station choosing (by decide +kernel) (by decide +kernel) lateRun
    (by rintro e (_ | ⟨_, _ | ⟨_, ⟨⟩⟩⟩) <;> exact id)
  exact lateRun_sends hquiet.state

theorem quiescent_iff_lateRun : ¬ (choosing.state ≠ .linkedScanning ∧
    Meets (lateStep station) (fun d e => ¬ Wakes station d e) (rtllibStopProtocol choosing true)
      lateRun) := by
  rw [quiescent_iff station choosing (by decide +kernel) (by decide +kernel) lateRun
    (by rintro e (_ | ⟨_, _ | ⟨_, ⟨⟩⟩⟩) <;> exact id)]
  intro h
  exact lateRun_sends (h lateRun List.prefix_rfl).state

end Rtl8190.Association
