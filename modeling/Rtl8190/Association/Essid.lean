import Rtl8190.Association.Code
import Rtl8190.Beacon.Stored
import Rtl8190.Lib.Run

/-!
# Where SSIDs are written

The functions that write an SSID, with the places that they write: the requests of the user, the
networks that are heard and joined, and the cells that are started.
-/

open Rtl8190.Memory Rtl8190.Beacon Rtl8190.LinkedList Rtl8190.Run

namespace Rtl8190.Association

structure Station where
  d : Device
  heap : Heap NetworkNode
  slot : Slot → Network
  dot11d : Dot11dInfo

def Station.networks (s : Station) : Networks := ⟨s.heap, s.slot, s.d.currentNetwork, s.dot11d⟩

def Station.withNetworks (s : Station) (n : Networks) : Station where
  d := { s.d with currentNetwork := n.currentNetwork }
  heap := n.heap
  slot := n.slot
  dot11d := n.dot11d

/-- What `rtllib_start_bss` finds. -/
def Station.env (s : Station) (env : Env) : Env := { env with dot11d := s.dot11d }

/-! ## Networks that are joined -/

def strncpyAccesses (a : Arr) (dst src : Nat → Byte) (n : Nat) : Reads Access (Nat → Byte) := do
  noteAll (.store a) n
  pure (strncpy dst src n)

def revealAccesses (net : Network) : Reads Access Network :=
  if broadcasts net = false ∧ net.hiddenSsidLen > 0 then do
    let ssid ← strncpyAccesses .ssid net.ssid net.hiddenSsid net.hiddenSsidLen
    pure { net with ssid := ssid, ssidLen := net.hiddenSsidLen }
  else pure net

/-- The current network is copied as a whole. `tmp_ssid` is as large as `ssid`, and what is written
to it is noted in its place. -/
def joinedAccesses (d : Device) (net : Network) : Reads Access Network :=
  if broadcasts net || decide (net.hiddenSsidLen > 0) then do
    noteAll (.store .ssid) 33
    noteAll (.store .hiddenSsid) 33
    pure (reveal net)
  else do
    noteAll (.store .ssid) 32
    noteAll (.store .ssid) 33
    noteAll (.store .hiddenSsid) 33
    let ssid ← strncpyAccesses .ssid net.ssid d.currentNetwork.ssid 32
    pure { net with ssid := ssid, ssidLen := d.currentNetwork.ssidLen }

/-- `rtllib_softmac_new_net`: the device, and `net` with its SSID if that was hidden. -/
def newNetAccesses (cfg : Config) (d : Device) (net : Network) : Reads Access (Device × Network) :=
  if d.state ≠ .nolink then pure (d, net)
  else if d.iwMode = .infra ∧ net.ess = false then pure (d, net)
  else if d.iwMode = .adhoc ∧ net.ibss = false then pure (d, net)
  else if d.iwMode = .adhoc ∧ net.channel > cfg.ibssMaxjoinChal then pure (d, net)
  else if d.iwMode = .infra ∨ d.iwMode = .adhoc then do
    let revealed ← revealAccesses net
    if selects d net then do
      let current ← joinedAccesses d net
      let d := { d with currentNetwork := current }
      if d.iwMode = .infra then
        pure ({ d with asocRetryCount := 0, state := .associating }.queueProcedure, revealed)
      else pure ({ d with state := .linked }, revealed)
    else pure (d, revealed)
  else pure (d, net)

/-- `rtllib_softmac_new_net` for an entry of the list. -/
def newNetSlot (cfg : Config) (s : Station) (i : Slot) : Reads Access Station := do
  let r ← newNetAccesses cfg s.d (s.slot i)
  pure { s with d := r.1, slot := Function.update s.slot i r.2 }

/-- The loop of `rtllib_softmac_check_all_nets`. -/
def checkSlots (cfg : Config) (env : Env) : Nat → NetworkNode → Station → Reads Access Station
  | fuel + 1, .inr target, s => do
    if s.d.state ≠ .nolink then pure s
    else
      let s ← if recent cfg env (s.slot target) then newNetSlot cfg s target else pure s
      checkSlots cfg env fuel (s.heap.next (.inr target)) s
  | _, _, s => pure s

def checkAllNets (cfg : Config) (env : Env) (s : Station) : Reads Access Station :=
  checkSlots cfg env maxNetworkCount (s.heap.next (.inl .networkList)) s

/-! ## Cells -/

def defaultSsidAccesses (d : Device) (n : Nat) : Reads Access Device :=
  if d.currentNetwork.ssidLen = 0 then do
    let ssid ← strncpyAccesses .ssid d.currentNetwork.ssid (fun i => defaultTxEssid.getD i 0) n
    pure { d with
      currentNetwork := { d.currentNetwork with ssid := ssid, ssidLen := defaultTxEssid.length }
      ssidSet := true }
  else pure d

def startMasterBss (cfg : Config) (d : Device) : Reads Access Device := do
  let d ← defaultSsidAccesses { d with assocId := 1 } 32
  pure { d with currentNetwork := { d.currentNetwork with bssid := cfg.devAddr }, state := .linked }

def startBss (cfg : Config) (env : Env) (s : Station) : Reads Access Station :=
  if s.dot11d.bEnabled ∧ s.dot11d.countryIeLen = 0 ∧ cfg.bGlobalDomain = false then pure s
  else checkAllNets cfg env s

def startProtocol (cfg : Config) (env : Env) (s : Station) : Reads Access Station :=
  if s.d.protoStarted then pure s
  else
    let d := { s.d with protoStarted := true }
    match startChannel (s.env env) d with
    | none => pure { s with d }
    | some channel =>
      let interval := d.currentNetwork.beaconInterval
      let d := { d with currentNetwork := { d.currentNetwork with
        channel := channel, beaconInterval := if interval = 0 then 100 else interval } }
      match d.iwMode with
      | .infra => startBss cfg env { s with d }
      | .adhoc => pure { s with d := { d with startIbssWq := { d.startIbssWq with queued := true } } }
      | .master => do
        let d ← startMasterBss cfg d
        pure { s with d }
      | .monitor => pure { s with d }

/-- `start_ibss_wq` up to its scan. -/
def startIbss (cfg : Config) (env : Env) (s : Station) : Reads Access Station := do
  let d ← defaultSsidAccesses s.d 8
  checkAllNets cfg env { s with d }

/-! ## Requests -/

/-- A request to scan, and what `r8192_wx_set_scan` looks at first. -/
structure ScanRequest where
  bHwRadioOff : Bool
  up : Bool
  bBusyTraffic : Bool
  /-- `flags & IW_SCAN_THIS_ESSID` -/
  thisEssid : Bool
  essidLen : Byte
  essid : Nat → Byte

def ScanRequest.Accepted (r : ScanRequest) : Prop :=
  r.bHwRadioOff = false ∧ r.up = true ∧ r.bBusyTraffic = false

instance (r : ScanRequest) : Decidable r.Accepted := by unfold ScanRequest.Accepted; infer_instance

def copyScanEssid (d : Device) (r : ScanRequest) : Reads Access Device :=
  if r.thisEssid ∧ r.essidLen ≠ 0 then do
    noteAll (.store .ssid) r.essidLen.toNat
    pure { d with
      currentNetwork := { d.currentNetwork with
        ssid := overwrite d.currentNetwork.ssid r.essid r.essidLen.toNat
        ssidLen := r.essidLen.toNat } }
  else pure d

/-- `r8192_wx_set_scan`. What a scan hears without a link comes in frames. -/
def wxSetScan (d : Device) (r : ScanRequest) : Reads Access Device :=
  if r.Accepted then do
    let d ← copyScanEssid d r
    pure (if d.state = .linked then rtllibWxSetScan d else d)
  else pure d

def wxSetEssid (cfg : Config) (env : Env) (s : Station) (flags : Bool) (essid : List Byte) :
    Reads Access Station :=
  if s.d.iwMode = .monitor then pure s
  else do
    let started := s.d.protoStarted
    let len := min essid.length 32
    let d := if started then rtllibStopProtocol s.d true else s.d
    let d ← if flags ∧ essid ≠ [] then do
        let ssid ← strncpyAccesses .ssid d.currentNetwork.ssid (fun i => essid.getD i 0) len
        pure { d with
          currentNetwork := { d.currentNetwork with ssid := ssid, ssidLen := len }, ssidSet := true }
      else do
        noteAll (.store .ssid) 1
        pure { d with
          currentNetwork := { d.currentNetwork with
            ssid := Function.update d.currentNetwork.ssid 0 0, ssidLen := 0 }
          ssidSet := false }
    if started then startProtocol cfg env { s with d } else pure { s with d }

def wxSetMode (cfg : Config) (env : Env) (s : Station) (mode : IwMode) : Reads Access Station :=
  if mode = .master ∨ mode = s.d.iwMode then pure s
  else if s.d.protoStarted then
    startProtocol cfg env { s with d := { rtllibStopProtocol s.d true with iwMode := mode } }
  else pure { s with d := { s.d with iwMode := mode } }

/-! ## Frames -/

/-- What a frame writes into the entry that it is kept in. -/
def storeEntry (wmm : Bool) (s : Station) (network : Network) (jiffies : Nat) :
    Beacon.Outcome → Reads Access Unit
  | .ignored => pure ()
  | .updated target => do
    let _ ← updateNetworkAccesses wmm (s.slot target) network jiffies
    pure ()
  | .added _ | .evicted _ => do
    noteAll (.store .ssid) 33
    noteAll (.store .hiddenSsid) 33

def parseAccesses (call : Call) (dot11d : Dot11dInfo) : Reads Access Unit :=
  if call.alloc then do
    let _ ← rtllibNetworkInit call.env default dot11d
    pure ()
  else pure ()

def updateCurrentAccesses (wmm : Bool) (current network : Network) (jiffies : Nat) :
    Reads Access Unit :=
  if isSameNetwork current network (decide (network.ssidLen ≠ 0)) then do
    let _ ← updateNetworkAccesses wmm current network jiffies
    pure ()
  else pure ()

def processFrame (cfg : Config) (w : Nat) (wmm : Bool) (call : Call) (s : Station) :
    Reads Access Station := do
  parseAccesses call s.dot11d
  match (describedNetwork call s.dot11d).1, rtllibProcessProbeResponse w call s.networks with
  | some network, some (outcome, newNet, networks) =>
    updateCurrentAccesses wmm s.d.currentNetwork network call.jiffies
    storeEntry wmm s network call.jiffies outcome
    let s := s.withNetworks networks
    match newNet with
    | some net => do
      let r ← newNetAccesses cfg s.d net
      pure { s with d := r.1 }
    | none => pure s
  | _, some (_, _, networks) => pure (s.withNetworks networks)
  | _, none => pure s

/-! ## Runs -/

inductive EssidEvent where
  | setScan (r : ScanRequest)
  | setEssid (flags : Bool) (essid : List Byte)
  | setMode (mode : IwMode)
  /-- `rtllib_softmac_new_net` for an entry of the list. -/
  | newNet (i : Slot)
  /-- The interface goes up. -/
  | startProtocol
  | startIbss
  | createCell
  | startMaster
  | frame (w : Nat) (wmm : Bool) (call : Call)

def runEssid (cfg : Config) (s : Station) : Env × EssidEvent → Reads Access Station
  | (_, .setScan r) => do
    let d ← wxSetScan s.d r
    pure { s with d }
  | (env, .setEssid flags essid) => wxSetEssid cfg env s flags essid
  | (env, .setMode mode) => wxSetMode cfg env s mode
  | (_, .newNet i) => newNetSlot cfg s i
  | (env, .startProtocol) => startProtocol cfg env s
  | (env, .startIbss) => startIbss cfg env s
  | (env, .createCell) => pure { s with d := ibssScanDone cfg env s.d }
  | (_, .startMaster) => do
    let d ← startMasterBss cfg s.d
    pure { s with d }
  | (_, .frame w wmm call) => processFrame cfg w wmm call s

def essidStep (cfg : Config) (s : Station) (e : Env × EssidEvent) : Station := (runEssid cfg s e).val

def Station.reset (d : Device) (heap : Heap NetworkNode) (dot11d : Dot11dInfo) : Station where
  d := { d with currentNetwork := default }
  heap := heap
  slot := fun _ => default
  dot11d := dot11d

/-! ## What is kept -/

/-- No length of a network is beyond its array. -/
structure Station.Ok (s : Station) : Prop where
  currentNetwork : s.d.currentNetwork.lengths.Ok
  slot : ∀ i, (s.slot i).lengths.Ok

/-- The computation writes inside the arrays and leaves lengths that are. -/
abbrev StationKeeps (m : Reads Access Station) : Prop := m.Ensures InArray Station.Ok

abbrev DeviceKeeps (m : Reads Access Device) : Prop :=
  m.Ensures InArray fun d => d.currentNetwork.lengths.Ok

variable {cfg : Config} {env : Env} {s : Station} {d : Device} {net : Network}

theorem noteAll_inArray {a : Arr} {n : Nat} (h : n ≤ a.size) :
    (noteAll (.store a) n : Reads Access Unit).Within InArray := by
  rw [within_noteAll]
  intro i hi
  exact Nat.lt_of_lt_of_le hi h

theorem strncpyAccesses_inArray {a : Arr} {dst src : Nat → Byte} {n : Nat} (h : n ≤ a.size) :
    (strncpyAccesses a dst src n).Within InArray := by
  unfold strncpyAccesses
  rw [within_bind]
  exact ⟨noteAll_inArray h, within_pure _⟩

theorem revealAccesses_val (net : Network) : (revealAccesses net).val = reveal net := by
  unfold revealAccesses reveal
  split
  · rfl
  · rfl

theorem reveal_lengths (hnet : net.lengths.Ok) : (reveal net).lengths.Ok := by
  unfold reveal
  split
  · exact { hnet with ssidLen := hnet.hiddenSsidLen }
  · exact hnet

theorem revealAccesses_keeps (hnet : net.lengths.Ok) :
    (revealAccesses net).Ensures InArray fun n => n.lengths.Ok := by
  refine ⟨?_, ?_⟩
  · unfold revealAccesses
    split
    · rw [within_bind]
      exact ⟨strncpyAccesses_inArray (hnet.hiddenSsidLen.trans (by decide)), within_pure _⟩
    · exact within_pure _
  · rw [revealAccesses_val]
    exact reveal_lengths hnet

theorem joinedAccesses_val (d : Device) (net : Network) : (joinedAccesses d net).val = joined d net := by
  unfold joinedAccesses joined
  split
  · rfl
  · rfl

theorem joinedAccesses_keeps (hd : d.currentNetwork.lengths.Ok) (hnet : net.lengths.Ok) :
    (joinedAccesses d net).Ensures InArray fun n => n.lengths.Ok := by
  unfold joinedAccesses
  split
  · apply Reads.Ensures.after (noteAll_inArray (by decide))
    intro _
    apply Reads.Ensures.after (noteAll_inArray (by decide))
    intro _
    exact .pure (reveal_lengths hnet)
  · apply Reads.Ensures.after (noteAll_inArray (by decide))
    intro _
    apply Reads.Ensures.after (noteAll_inArray (by decide))
    intro _
    apply Reads.Ensures.after (noteAll_inArray (by decide))
    intro _
    apply Reads.Ensures.after (strncpyAccesses_inArray (by decide))
    intro _
    exact .pure { hnet with ssidLen := hd.ssidLen }

theorem newNetAccesses_val (cfg : Config) (d : Device) (net : Network) :
    (newNetAccesses cfg d net).val.1 = rtllibSoftmacNewNet cfg d net := by
  -- The accesses are those of the association state machine.
  unfold newNetAccesses rtllibSoftmacNewNet
  by_cases hstate : d.state ≠ .nolink
  · rw [if_pos hstate, if_pos hstate]
    rfl
  rw [if_neg hstate, if_neg hstate]
  by_cases hess : d.iwMode = .infra ∧ net.ess = false
  · rw [if_pos hess, if_pos hess]
    rfl
  rw [if_neg hess, if_neg hess]
  by_cases hibss : d.iwMode = .adhoc ∧ net.ibss = false
  · rw [if_pos hibss, if_pos hibss]
    rfl
  rw [if_neg hibss, if_neg hibss]
  by_cases hchannel : d.iwMode = .adhoc ∧ net.channel > cfg.ibssMaxjoinChal
  · rw [if_pos hchannel, if_pos hchannel]
    rfl
  rw [if_neg hchannel, if_neg hchannel]
  by_cases hmode : d.iwMode = .infra ∨ d.iwMode = .adhoc
  · rw [if_pos hmode]
    by_cases hsel : selects d net = true
    · rw [if_pos ⟨hmode, hsel⟩]
      simp only [hsel, if_true, bind_val, joinedAccesses_val, ite_val, pure_val]
      by_cases hinfra : d.iwMode = .infra
      · simp only [hinfra, if_true]
      · simp only [hinfra, if_false]
    · rw [if_neg fun h => hsel h.2]
      simp only [hsel, Bool.false_eq_true, if_false, bind_val, pure_val]
  · rw [if_neg hmode, if_neg fun h => hmode h.1]
    rfl

def OfferOk (r : Device × Network) : Prop := r.1.currentNetwork.lengths.Ok ∧ r.2.lengths.Ok

theorem newNetAccesses_keeps (hd : d.currentNetwork.lengths.Ok) (hnet : net.lengths.Ok) :
    (newNetAccesses cfg d net).Ensures InArray OfferOk := by
  unfold newNetAccesses
  split_ifs
  · exact .pure ⟨hd, hnet⟩
  · exact .pure ⟨hd, hnet⟩
  · exact .pure ⟨hd, hnet⟩
  · exact .pure ⟨hd, hnet⟩
  · apply (revealAccesses_keeps hnet).bind
    intro revealed hrevealed
    apply (joinedAccesses_keeps hd hnet).bind
    intro current hcurrent
    simp only
    split
    · exact .pure ⟨hcurrent, hrevealed⟩
    · exact .pure ⟨hcurrent, hrevealed⟩
  · apply (revealAccesses_keeps hnet).bind
    intro revealed hrevealed
    exact .pure ⟨hd, hrevealed⟩
  · exact .pure ⟨hd, hnet⟩

theorem newNetSlot_keeps (h : s.Ok) (i : Slot) : StationKeeps (newNetSlot cfg s i) := by
  unfold newNetSlot
  apply (newNetAccesses_keeps h.currentNetwork (h.slot i)).bind
  rintro r ⟨hcurrent, hentry⟩
  refine .pure ⟨hcurrent, fun j => ?_⟩
  show (Function.update s.slot i r.2 j).lengths.Ok
  rcases eq_or_ne j i with rfl | hj
  · rw [Function.update_self]
    exact hentry
  · rw [Function.update_of_ne hj]
    exact h.slot j

theorem checkSlots_keeps (fuel : Nat) (node : NetworkNode) (h : s.Ok) :
    StationKeeps (checkSlots cfg env fuel node s) := by
  induction fuel generalizing node s with
  | zero =>
    unfold checkSlots
    exact .pure h
  | succ fuel ih =>
    cases node with
    | inl head =>
      unfold checkSlots
      exact .pure h
    | inr target =>
      unfold checkSlots
      split
      · exact .pure h
      · split
        · apply (newNetSlot_keeps h target).bind
          intro s' hs'
          exact ih _ hs'
        · apply (Reads.Ensures.pure h).bind
          intro s' hs'
          exact ih _ hs'

theorem checkAllNets_keeps (h : s.Ok) : StationKeeps (checkAllNets cfg env s) := by
  unfold checkAllNets
  exact checkSlots_keeps _ _ h

theorem defaultSsidAccesses_val (d : Device) (n : Nat) :
    (defaultSsidAccesses d n).val = defaultSsid d n := by
  unfold defaultSsidAccesses defaultSsid
  split
  · rfl
  · rfl

theorem defaultSsidAccesses_keeps {n : Nat} (hn : n ≤ 33) (hd : d.currentNetwork.lengths.Ok) :
    DeviceKeeps (defaultSsidAccesses d n) := by
  unfold defaultSsidAccesses
  split
  · apply Reads.Ensures.after (strncpyAccesses_inArray hn)
    intro ssid
    exact .pure { hd with ssidLen := show 7 ≤ 32 by decide }
  · exact .pure hd

theorem startMasterBss_keeps (hd : d.currentNetwork.lengths.Ok) : DeviceKeeps (startMasterBss cfg d) := by
  unfold startMasterBss
  apply (defaultSsidAccesses_keeps (d := { d with assocId := 1 }) (by decide) hd).bind
  intro d' hd'
  exact .pure { hd' with }

theorem startBss_keeps (h : s.Ok) : StationKeeps (startBss cfg env s) := by
  unfold startBss
  split
  · exact .pure h
  · exact checkAllNets_keeps h

theorem startProtocol_keeps (h : s.Ok) : StationKeeps (startProtocol cfg env s) := by
  unfold startProtocol
  split
  · exact .pure h
  · simp only
    split
    · exact .pure ⟨h.currentNetwork, h.slot⟩
    · have hd : ∀ channel interval, Network.lengths { s.d.currentNetwork with
          channel := channel, beaconInterval := interval } |>.Ok := fun _ _ => { h.currentNetwork with }
      split
      · exact startBss_keeps ⟨hd _ _, h.slot⟩
      · exact .pure ⟨hd _ _, h.slot⟩
      · refine Reads.Ensures.bind (startMasterBss_keeps ?_) ?_
        · exact hd _ _
        · intro d' hd'
          exact .pure ⟨hd', h.slot⟩
      · exact .pure ⟨hd _ _, h.slot⟩

theorem startIbss_keeps (h : s.Ok) : StationKeeps (startIbss cfg env s) := by
  unfold startIbss
  apply (defaultSsidAccesses_keeps (by decide) h.currentNetwork).bind
  intro d' hd'
  exact checkAllNets_keeps ⟨hd', h.slot⟩

theorem stop_currentNetwork (d : Device) (shutdown : Bool) :
    (rtllibStopProtocol d shutdown).currentNetwork = d.currentNetwork := by
  unfold rtllibStopProtocol
  simp only
  split_ifs <;> rfl

theorem createCell_lengths (env : Env) (hd : d.currentNetwork.lengths.Ok) :
    (createCell cfg env d).lengths.Ok := by
  have hcck : (if cfg.cckModulation then 4 else 0) ≤ 12 := by split <;> decide
  have hofdm : (if cfg.ofdmModulation then 8 else 0) ≤ 16 := by split <;> decide
  exact { hd with ratesLen := hcck, ratesExLen := hofdm }

theorem ibssScanDone_lengths (env : Env) (hd : d.currentNetwork.lengths.Ok) :
    (ibssScanDone cfg env d).currentNetwork.lengths.Ok := by
  unfold ibssScanDone
  split
  · exact createCell_lengths env hd
  · exact hd

theorem wxSetEssid_keeps (h : s.Ok) (flags : Bool) (essid : List Byte) :
    StationKeeps (wxSetEssid cfg env s flags essid) := by
  have hlen : min essid.length 32 ≤ 32 := Nat.min_le_right _ _
  have hd : (if s.d.protoStarted then rtllibStopProtocol s.d true else s.d).currentNetwork.lengths.Ok := by
    split
    · rw [stop_currentNetwork]
      exact h.currentNetwork
    · exact h.currentNetwork
  have hgo : ∀ d : Device, d.currentNetwork.lengths.Ok →
      StationKeeps (if s.d.protoStarted then startProtocol cfg env { s with d } else pure { s with d }) := by
    intro d hd
    split
    · exact startProtocol_keeps ⟨hd, h.slot⟩
    · exact .pure ⟨hd, h.slot⟩
  unfold wxSetEssid
  split
  · exact .pure h
  · simp only
    split
    · apply Reads.Ensures.after (strncpyAccesses_inArray (hlen.trans (by decide)))
      intro ssid
      exact hgo _ { hd with ssidLen := hlen }
    · apply Reads.Ensures.after (noteAll_inArray (by decide))
      intro _
      exact hgo _ { hd with ssidLen := Nat.zero_le _ }

theorem wxSetMode_keeps (h : s.Ok) (mode : IwMode) : StationKeeps (wxSetMode cfg env s mode) := by
  unfold wxSetMode
  split
  · exact .pure h
  · split
    · refine startProtocol_keeps ⟨?_, h.slot⟩
      show (rtllibStopProtocol s.d true).currentNetwork.lengths.Ok
      rw [stop_currentNetwork]
      exact h.currentNetwork
    · exact .pure ⟨h.currentNetwork, h.slot⟩

theorem described_lengths {call : Call} {dot11d : Dot11dInfo} {network : Network}
    (hnetwork : (describedNetwork call dot11d).1 = some network) : network.lengths.Ok := by
  unfold describedNetwork at hnetwork
  split at hnetwork
  · have hfits := (rtllibNetworkInit_fits call.env default dot11d).lengths
    obtain ⟨hsome, -⟩ := Option.filter_eq_some_iff.mp hnetwork
    rw [hsome] at hfits
    exact hfits
  · cases hnetwork

theorem parseAccesses_inArray (call : Call) (dot11d : Dot11dInfo) :
    (parseAccesses call dot11d).Within InArray := by
  unfold parseAccesses
  split
  · rw [within_bind]
    exact ⟨(rtllibNetworkInit_fits _ _ _).within, within_pure _⟩
  · exact within_pure _

theorem updateCurrentAccesses_inArray (wmm : Bool) {current : Network} (hcurrent : current.lengths.Ok)
    (hnet : net.lengths.Ok) (jiffies : Nat) :
    (updateCurrentAccesses wmm current net jiffies).Within InArray := by
  unfold updateCurrentAccesses
  split
  · rw [within_bind]
    exact ⟨updateNetwork_inArray wmm _ hcurrent hnet, within_pure _⟩
  · exact within_pure _

theorem storeEntry_inArray (h : s.Ok) (wmm : Bool) (hnet : net.lengths.Ok) (jiffies : Nat)
    (outcome : Beacon.Outcome) : (storeEntry wmm s net jiffies outcome).Within InArray := by
  unfold storeEntry
  cases outcome with
  | ignored => exact within_pure _
  | updated target =>
    rw [within_bind]
    exact ⟨updateNetwork_inArray wmm jiffies (h.slot target) hnet, within_pure _⟩
  | added target =>
    rw [within_bind]
    exact ⟨noteAll_inArray (by decide), noteAll_inArray (by decide)⟩
  | evicted target =>
    rw [within_bind]
    exact ⟨noteAll_inArray (by decide), noteAll_inArray (by decide)⟩

theorem processFrame_keeps (h : s.Ok) (w : Nat) (wmm : Bool) (call : Call) :
    StationKeeps (processFrame cfg w wmm call s) := by
  have hnetworks : s.networks.LengthsOk := ⟨h.slot, h.currentNetwork⟩
  have hwith : ∀ {n : Networks}, n.LengthsOk → (s.withNetworks n).Ok := fun hn =>
    ⟨hn.currentNetwork, hn.slot⟩
  unfold processFrame
  apply Reads.Ensures.after (parseAccesses_inArray call s.dot11d)
  intro _
  cases hres : rtllibProcessProbeResponse w call s.networks with
  | none =>
    simp only
    exact .pure h
  | some r =>
    obtain ⟨outcome, newNet, networks⟩ := r
    obtain ⟨hok, hnew⟩ := rtllibProcessProbeResponse_lengths hnetworks hres
    cases hdescribed : (describedNetwork call s.dot11d).1 with
    | none =>
      simp only
      exact .pure (hwith hok)
    | some network =>
      have hnetwork := described_lengths hdescribed
      simp only
      apply Reads.Ensures.after (updateCurrentAccesses_inArray wmm h.currentNetwork hnetwork _)
      intro _
      apply Reads.Ensures.after (storeEntry_inArray h wmm hnetwork _ outcome)
      intro _
      cases newNet with
      | none => exact .pure (hwith hok)
      | some net =>
        simp only
        refine Reads.Ensures.bind (newNetAccesses_keeps ?_ (hnew net rfl)) ?_
        · exact hok.currentNetwork
        · rintro r ⟨hcurrent, -⟩
          exact .pure ⟨hcurrent, hok.slot⟩

/-! ## Scan requests -/

/-- The ESSID of a scan request that is let in is no longer than an ESSID. -/
def ScanFits (_ : Station) : Env × EssidEvent → Prop
  | (_, .setScan r) => r.Accepted → r.thisEssid → r.essidLen.toNat ≤ 32
  | _ => True

/-- `IW_ESSID_MAX_SIZE` bounds the SSIDs of the current network. -/
def SsidBounded (s : Station) : Prop :=
  s.d.currentNetwork.ssidLen ≤ 32 ∧ s.d.currentNetwork.hiddenSsidLen ≤ 32

theorem copyScanEssid_keeps (hd : d.currentNetwork.lengths.Ok) {r : ScanRequest}
    (hfits : r.thisEssid → r.essidLen.toNat ≤ 32) : DeviceKeeps (copyScanEssid d r) := by
  unfold copyScanEssid
  split
  · next hthis =>
    have hlen := hfits hthis.1
    apply Reads.Ensures.after (noteAll_inArray (hlen.trans (by decide)))
    intro _
    exact .pure { hd with ssidLen := hlen }
  · exact .pure hd

theorem wxSetScan_keeps (hd : d.currentNetwork.lengths.Ok) {r : ScanRequest}
    (hfits : r.Accepted → r.thisEssid → r.essidLen.toNat ≤ 32) : DeviceKeeps (wxSetScan d r) := by
  unfold wxSetScan
  split
  · next hacc =>
    refine Reads.Ensures.bind (copyScanEssid_keeps hd (hfits hacc)) fun d' hd' => .pure ?_
    unfold rtllibWxSetScan
    split_ifs <;> exact hd'
  · exact .pure hd

theorem wxSetScan_ssidLen {r : ScanRequest} (hacc : r.Accepted) (hthis : r.thisEssid = true)
    (hlen : r.essidLen ≠ 0) : (wxSetScan d r).val.currentNetwork.ssidLen = r.essidLen.toNat := by
  -- The length that was claimed is stored as it is.
  have hscan : ∀ d : Device, (if d.state = .linked then rtllibWxSetScan d else d).currentNetwork =
      d.currentNetwork := by
    intro d
    unfold rtllibWxSetScan
    split_ifs <;> rfl
  have hcopy : (copyScanEssid d r).val.currentNetwork.ssidLen = r.essidLen.toNat := by
    unfold copyScanEssid
    rw [if_pos ⟨hthis, hlen⟩]
    rfl
  unfold wxSetScan
  rw [if_pos hacc]
  simp only [bind_val, pure_val, hscan, hcopy]

theorem runEssid_keeps (h : s.Ok) {e : Env × EssidEvent} (hfits : ScanFits s e) :
    StationKeeps (runEssid cfg s e) := by
  obtain ⟨env, e⟩ := e
  cases e with
  | setScan r =>
    apply (wxSetScan_keeps h.currentNetwork hfits).bind
    intro d' hd'
    exact .pure ⟨hd', h.slot⟩
  | setEssid flags essid => exact wxSetEssid_keeps h flags essid
  | setMode mode => exact wxSetMode_keeps h mode
  | newNet i => exact newNetSlot_keeps h i
  | startProtocol => exact startProtocol_keeps h
  | startIbss => exact startIbss_keeps h
  | createCell => exact .pure ⟨ibssScanDone_lengths env h.currentNetwork, h.slot⟩
  | startMaster =>
    apply (startMasterBss_keeps h.currentNetwork).bind
    intro d' hd'
    exact .pure ⟨hd', h.slot⟩
  | frame w wmm call => exact processFrame_keeps h w wmm call

theorem scanFits_of_bounded {e : Env × EssidEvent} (h : SsidBounded (essidStep cfg s e)) :
    ScanFits s e := by
  obtain ⟨env, e⟩ := e
  cases e with
  | setScan r =>
    intro hacc hthis
    rcases eq_or_ne r.essidLen 0 with hzero | hlen
    · rw [hzero]
      exact Nat.zero_le _
    · rw [← wxSetScan_ssidLen (d := s.d) hacc hthis hlen]
      exact h.1
  | _ => trivial

/-- In every run the lengths of the current network stay within `IW_ESSID_MAX_SIZE`, and all writes
inside the arrays, exactly when every scan request that is let in has an ESSID of at most 32
bytes. -/
theorem ssid_within_iff (cfg : Config) (d : Device) (heap : Heap NetworkNode) (dot11d : Dot11dInfo)
    (es : List (Env × EssidEvent)) :
    Meets (essidStep cfg) ScanFits (.reset d heap dot11d) es ↔
      Meets (essidStep cfg) (fun s e => (runEssid cfg s e).Within InArray ∧
        SsidBounded (essidStep cfg s e)) (.reset d heap dot11d) es := by
  apply meets_congr (I := Station.Ok)
  · intro s e h hfits
    exact (runEssid_keeps h hfits).result
  · intro s e h
    constructor
    · intro hfits
      have hkeeps : StationKeeps (runEssid cfg s e) := runEssid_keeps h hfits
      have hlengths := hkeeps.result.currentNetwork
      exact ⟨hkeeps.within, hlengths.ssidLen, hlengths.hiddenSsidLen⟩
    · rintro ⟨-, hbounded⟩
      exact scanFits_of_bounded hbounded
  · have hdefault : (default : Network).lengths.Ok := by
      constructor <;> exact Nat.zero_le _
    exact ⟨hdefault, fun _ => hdefault⟩

/-- A request to scan for an ESSID that is said to have 255 bytes. -/
def longScan : ScanRequest := ⟨false, true, false, true, 255, fun _ => 0x41⟩

/-- It is stored over the end of the array, and with that length. -/
theorem not_always_within : ¬ ∀ (cfg : Config) (d : Device) (heap : Heap NetworkNode)
    (dot11d : Dot11dInfo) (es : List (Env × EssidEvent)),
    Meets (essidStep cfg) (fun s e => (runEssid cfg s e).Within InArray ∧
      SsidBounded (essidStep cfg s e)) (.reset d heap dot11d) es := by
  intro h
  let cfg : Config := ⟨fun _ => 0, true, 14, 1, 0, false, false, true, true⟩
  let env : Env := ⟨0, [], default, 0, false, true, true, fun _ => 0⟩
  let d : Device := ⟨.nolink, false, .infra, default, false, false, 0, 0, false, default, default,
    default, false, .free, []⟩
  obtain ⟨⟨hwithin, -⟩, -⟩ := h cfg d ⟨id, id⟩ default [(env, .setScan longScan)]
  exact absurd hwithin (by decide +kernel)

end Rtl8190.Association
