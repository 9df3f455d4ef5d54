import Rtl8190.Association.Choice
import Rtl8190.Association.Soundness
import Rtl8190.Lib.Run

/-!
# The networks that the user selects

What SIWAP and SIWESSID ask for is stored in `current_network`, with `wap_set` and `ssid_set`. The
network that is joined takes its place, `rtllib_disassociate` clears `wap_set`, `rtl8192_down`
clears the network and the SSID is compared as a string. Here the wish is kept apart, so that every
network that the driver starts to join can be held against it.
-/

open Rtl8190.Memory Rtl8190.Beacon Rtl8190.Run

namespace Rtl8190.Association

/-! ## The wish -/

/-- What the user has asked for last. -/
structure Wish where
  /-- A valid address of an access point. -/
  ap : Option Addr
  ssid : Option (List Byte)

/-- The wish after a request. A request that the mode does not allow is refused. -/
def Wish.after (w : Wish) (d : Device) : Event → Wish
  | .request (.setWap _ addr) =>
    if d.wxSem = .free ∧ d.iwMode ≠ .master then
      { w with ap := if addr = fun _ => 0 then none else some addr }
    else w
  | .request (.setEssid flags essid) =>
    if d.wxSem = .free ∧ d.iwMode ≠ .monitor then
      { w with ssid := if flags ∧ essid ≠ [] then some (essid.take 32) else none }
    else w
  | _ => w

def ssidBytes (net : Network) : List Byte := (List.range net.ssidLen).map net.ssid

def knownSsid (net : Network) : Option (List Byte) :=
  if broadcasts net then some (ssidBytes net)
  else if net.hiddenSsidLen > 0 then some ((List.range net.hiddenSsidLen).map net.hiddenSsid)
  else none

structure Fits (w : Wish) (mode : IwMode) (net : Network) (used : List Byte) : Prop where
  ess : mode = .infra → net.ess = true
  ibss : mode = .adhoc → net.ibss = true
  ssid : ∀ ssid, w.ssid = some ssid → knownSsid net = some ssid ∨ knownSsid net = none ∧ used = ssid
  bssid : ∀ ap, w.ap = some ap → net.bssid = ap

/-! ## Where a step looks for a network -/

def storeWap (d : Device) (addr : Addr) : Device :=
  { d with
    currentNetwork := { d.currentNetwork with bssid := addr }, wapSet := decide (addr ≠ fun _ => 0) }

def storeEssid (d : Device) (flags : Bool) (essid : List Byte) : Device :=
  let net := d.currentNetwork
  let len := min essid.length 32
  if flags ∧ essid ≠ [] then
    { d with
      currentNetwork := { net with
        ssid := strncpy net.ssid (fun i => essid.getD i 0) len, ssidLen := len }
      ssidSet := true }
  else
    { d with
      currentNetwork := { net with ssid := Function.update net.ssid 0 0, ssidLen := 0 }
      ssidSet := false }

/-- A device that calls `rtllib_softmac_new_net`, and the networks it goes through. -/
structure Look where
  device : Device
  nets : List Network

def recentNets (cfg : Config) (env : Env) : List Network := env.networkList.filter (recent cfg env)

def lookAtStart (cfg : Config) (env : Env) (d : Device) : Option Look :=
  if d.protoStarted then none
  else
    match startChannel env { d with protoStarted := true } with
    | none => none
    | some channel =>
      let interval := d.currentNetwork.beaconInterval
      if d.iwMode ≠ .infra ∨
          env.dot11d.bEnabled ∧ env.dot11d.countryIeLen = 0 ∧ cfg.bGlobalDomain = false then none
      else some ⟨d.opened channel (if interval = 0 then 100 else interval), recentNets cfg env⟩

def lookAtRequest (cfg : Config) (env : Env) (d : Device) : Request → Option Look
  | .setWap ifup addr =>
    if d.iwMode = .master ∨ ifup = false then none
    else lookAtStart cfg env (storeWap (rtllibStopProtocol d true) addr)
  | .setEssid flags essid =>
    if d.iwMode = .monitor ∨ d.protoStarted = false then none
    else lookAtStart cfg env (storeEssid (rtllibStopProtocol d true) flags essid)
  | .setMode mode =>
    if (mode = .master ∨ mode = d.iwMode) ∨ d.protoStarted = false then none
    else lookAtStart cfg env { rtllibStopProtocol d true with iwMode := mode }
  | .up => if d.state ≠ .linked then lookAtStart cfg env d else none
  | .setScan => none
  | .setMlme _ _ => none
  | .wpaMlme _ => none
  | .down => none

def look (cfg : Config) (d : Device) : Env × Event → Option Look
  | (env, .heard network new) =>
    if new ∧ cfg.softmacAssociate then some ⟨updateCurrent env d network, [network]⟩ else none
  | (env, .run .retry) =>
    if (d.wxSem = .free ∧ d.associateRetryWq.waiting) ∧ d.protoStarted ∧ d.state = .associatingRetry
    then some ⟨{ d with
      associateRetryWq := { d.associateRetryWq with waiting := false }, state := .nolink },
      recentNets cfg env⟩
    else none
  | (env, .run .ibss) =>
    if d.wxSem = .free ∧ d.startIbssWq.waiting then
      some ⟨defaultSsid { d with startIbssWq := { d.startIbssWq with waiting := false } } 8,
        recentNets cfg env⟩
    else none
  | (env, .request r) => if d.wxSem = .free then lookAtRequest cfg env d r else none
  | _ => none

def Look.choice (cfg : Config) (l : Look) : Option Network :=
  if l.device.state = .nolink then l.nets.find? fun net => decide (Suits cfg l.device net) else none

def Look.result (cfg : Config) (l : Look) : Device :=
  match l.choice cfg with
  | some net => link l.device net
  | none => l.device

/-- `start_ibss_wq` goes on to scan. -/
def afterLook : Event → Device → Device
  | .run .ibss, d => { d with wxSem := .ibssScan }
  | _, d => d

/-! ## What is watched -/

/-- The device with the wish, and the network that was chosen since the settings last changed. -/
structure Watched where
  device : Device
  wish : Wish
  picked : Option Network

/-- The settings or the network change other than by a choice. -/
def forgets (d : Device) : Event → Bool
  | .request .up => false
  | .request .setScan => false
  | .request (.setMlme _ _) => false
  | .request (.wpaMlme _) => false
  | .request _ => d.wxSem = .free
  | .ibssScanDone => d.wxSem = .ibssScan
  | _ => false

def watch (cfg : Config) (s : Watched) (e : Env × Event) : Watched where
  device := step cfg s.device e
  wish := s.wish.after s.device e.2
  picked :=
    match (look cfg s.device e).bind (·.choice cfg) with
    | some net => some net
    | none => if forgets s.device e.2 then none else s.picked

/-- `associate_procedure_wq` asks the access point for authentication. -/
def Begins (d : Device) : Env × Event → Prop
  | (env, .run .procedure) =>
    d.wxSem = .free ∧ d.associateProcedureWq.waiting = true ∧ env.rfOff = false
  | _ => False

/-- The networks that a step starts to join are what the user has asked for: one that is chosen, and
one whose authentication begins, which must have been chosen for the wish. -/
structure Respects (cfg : Config) (s : Watched) (e : Env × Event) : Prop where
  chosen : ∀ l net, look cfg s.device e = some l → l.choice cfg = some net →
    Fits (s.wish.after s.device e.2) l.device.iwMode net (ssidBytes (joined l.device net))
  begun : Begins s.device e → ∃ net, s.picked = some net ∧
    net.bssid = s.device.currentNetwork.bssid ∧
    Fits s.wish s.device.iwMode net (ssidBytes s.device.currentNetwork)

/-! ## The steps that forget the wish -/

/-- The frame makes `rtllib_rx_frame_softmac` call `rtllib_disassociate`. -/
def Leaves (cfg : Config) (d : Device) (f : Frame) : Prop :=
  (d.protoStarted = true ∧ cfg.softmacAssociate = true) ∧ f.addr1 = cfg.devAddr ∧
    f.stype = .leave ∧ f.addr3 = d.currentNetwork.bssid ∧ d.state = .linked ∧ d.iwMode = .infra

/-- `rtllib_stop_protocol` calls it. -/
def StopsLink (d : Device) : Prop := d.protoStarted = true ∧ d.state = .linked

/-- `wap_set` is not cleared while the user's address is in force, an SSID has no zero byte, the
interface does not go down with settings in force, and `associate_procedure_wq` is not left over
from before the settings. A scan for one ESSID is for the requested one. -/
def Heeds (cfg : Config) (s : Watched) : Env × Event → Prop
  | (_, .frame f) => Leaves cfg s.device f → s.wish.ap = none
  | (_, .request (.setEssid flags essid)) =>
    s.device.wxSem = .free → s.device.iwMode ≠ .monitor →
      (StopsLink s.device → s.wish.ap = none) ∧ (flags = true → 0 ∉ essid.take 32)
  | (_, .request (.setMode mode)) =>
    s.device.wxSem = .free → ¬ (mode = .master ∨ mode = s.device.iwMode) →
      StopsLink s.device → s.wish.ap = none
  | (_, .request (.setMlme linked known)) =>
    s.device.wxSem = .free → linked = true ∧ known = true → s.wish.ap = none
  | (_, .request (.wpaMlme disassoc)) =>
    s.device.wxSem = .free → disassoc = true → s.wish.ap = none
  | (_, .request .down) => s.device.wxSem = .free → s.wish.ap = none ∧ s.wish.ssid = none
  | (env, .run .procedure) => Begins s.device (env, .run .procedure) → s.picked.isSome = true
  | (_, .scanEssid essidLen essid) =>
    essidLen ≠ 0 → essidLen.toNat ≤ 32 ∧
      ∀ ssid ∈ s.wish.ssid, (List.range essidLen.toNat).map essid = ssid
  | _ => True

variable {cfg : Config} {env : Env} {d d' : Device} {net : Network} {w : Wish}

/-! ## SSIDs as strings -/

theorem strncmpEq_of_ne_zero {a b : Nat → Byte} {n : Nat} (ha : ∀ i < n, a i ≠ 0)
    (h : strncmpEq a b n = true) : ∀ i < n, a i = b i := by
  intro i hi
  unfold strncmpEq at h
  rw [List.all_eq_true] at h
  rcases of_decide_eq_true (h i (List.mem_range.mpr hi)) with heq | hzero
  · exact heq
  · obtain ⟨j, hj, hz⟩ := List.any_eq_true.mp hzero
    exact absurd (of_decide_eq_true hz).1 (ha j (lt_trans (List.mem_range.mp hj) hi))

theorem strncpy_of_ne_zero {dst src : Nat → Byte} {n : Nat} (h : ∀ i < n, src i ≠ 0) :
    ∀ i < n, strncpy dst src n i = src i := by
  intro i hi
  unfold strncpy
  rw [if_pos hi, if_neg]
  intro hzero
  obtain ⟨j, hj, hz⟩ := List.any_eq_true.mp hzero
  exact h j (lt_trans (List.mem_range.mp hj) hi) (of_decide_eq_true hz)

theorem map_range_congr {a b : Nat → Byte} {n : Nat} (h : ∀ i < n, a i = b i) :
    (List.range n).map a = (List.range n).map b :=
  List.map_congr_left fun i hi => h i (List.mem_range.mp hi)

theorem ne_zero_of_map {a : Nat → Byte} {n : Nat} (h : 0 ∉ (List.range n).map a) :
    ∀ i < n, a i ≠ 0 := by
  intro i hi hz
  exact h (List.mem_map.mpr ⟨i, List.mem_range.mpr hi, hz⟩)

/-- What `ssidmatch` finds equal is equal, if the user's SSID has no zero byte. -/
theorem known_of_matches {current : Network} (hzero : 0 ∉ ssidBytes current)
    (hsome : broadcasts net = true ∨ net.hiddenSsidLen > 0) (h : ssidMatches current net = true) :
    knownSsid net = some (ssidBytes current) := by
  have hne := ne_zero_of_map hzero
  unfold ssidMatches at h
  unfold knownSsid
  split at h
  · next hbroad =>
    obtain ⟨hlen, hcmp⟩ := of_decide_eq_true h
    rw [if_pos hbroad]
    unfold ssidBytes
    rw [hlen] at hne ⊢
    exact congrArg some (map_range_congr fun i hi => (strncmpEq_of_ne_zero hne hcmp i hi).symm)
  · next hhidden =>
    obtain ⟨hlen, hcmp⟩ := of_decide_eq_true h
    rw [if_neg hhidden, if_pos (hsome.resolve_left hhidden)]
    unfold ssidBytes
    rw [hlen] at hne ⊢
    exact congrArg some (map_range_congr fun i hi => (strncmpEq_of_ne_zero hne hcmp i hi).symm)

theorem joined_of_known {ssid : List Byte} (hzero : 0 ∉ ssid) (h : knownSsid net = some ssid) :
    ssidBytes (joined d net) = ssid := by
  -- A known SSID without a zero byte is the one that is joined.
  unfold knownSsid at h
  unfold joined
  split at h
  · next hbroad =>
    have hreveal : reveal net = net := by
      unfold reveal
      rw [if_neg fun hh => absurd hbroad (by rw [hh.1]; exact Bool.false_ne_true)]
    rw [if_pos (by rw [hbroad]; rfl), hreveal]
    exact Option.some.inj h
  · next hhidden =>
    split at h
    · next hlen =>
      obtain rfl := Option.some.inj h
      have hfalse := Bool.eq_false_iff.mpr hhidden
      have hreveal : reveal net = { net with
          ssid := strncpy net.ssid net.hiddenSsid net.hiddenSsidLen
          ssidLen := net.hiddenSsidLen } := by
        unfold reveal
        rw [if_pos ⟨hfalse, hlen⟩]
      rw [if_pos (by rw [decide_eq_true hlen, Bool.or_true]), hreveal]
      exact map_range_congr (strncpy_of_ne_zero (ne_zero_of_map hzero))
    · cases h

theorem joined_of_unknown (hzero : 0 ∉ ssidBytes d.currentNetwork)
    (hlen : d.currentNetwork.ssidLen ≤ 32) (h : knownSsid net = none) :
    ssidBytes (joined d net) = ssidBytes d.currentNetwork := by
  -- Where the SSID is not known, the user's is taken.
  unfold knownSsid at h
  unfold joined
  split at h
  · cases h
  · next hhidden =>
    split at h
    · cases h
    · next hnone =>
      rw [if_neg (by simp [hhidden, hnone])]
      refine map_range_congr fun i hi => ?_
      have hne := ne_zero_of_map hzero
      show strncpy net.ssid d.currentNetwork.ssid 32 i = d.currentNetwork.ssid i
      have hi' : i < d.currentNetwork.ssidLen := hi
      unfold strncpy
      rw [if_pos (lt_of_lt_of_le hi' hlen), if_neg]
      intro hz
      obtain ⟨j, hj, hz⟩ := List.any_eq_true.mp hz
      exact hne j (lt_trans (List.mem_range.mp hj) hi') (of_decide_eq_true hz)

theorem joined_bssid (d : Device) (net : Network) : (joined d net).bssid = net.bssid := by
  unfold joined reveal
  split
  · split <;> rfl
  · rfl

/-! ## What the driver keeps of the wish -/

/-- An SSID that the driver can store and compare. -/
structure Plain (ssid : List Byte) : Prop where
  noZero : 0 ∉ ssid
  length : ssid.length ≤ 32
  nonempty : ssid ≠ []

structure Keeps (w : Wish) (d : Device) : Prop where
  ssid : ∀ ssid, w.ssid = some ssid →
    d.ssidSet = true ∧ ssidBytes d.currentNetwork = ssid ∧ Plain ssid
  ap : ∀ ap, w.ap = some ap → d.wapSet = true ∧ d.currentNetwork.bssid = ap
  iwMode : d.iwMode ≠ .master

/-- The settings are left as they were. -/
structure SameNet (d d' : Device) : Prop where
  ssid : ssidBytes d'.currentNetwork = ssidBytes d.currentNetwork
  bssid : d'.currentNetwork.bssid = d.currentNetwork.bssid
  ssidSet : d'.ssidSet = d.ssidSet
  wapSet : d'.wapSet = d.wapSet
  iwMode : d'.iwMode = d.iwMode

theorem SameNet.refl (d : Device) : SameNet d d := ⟨rfl, rfl, rfl, rfl, rfl⟩

theorem Keeps.same (h : Keeps w d) (hd : SameNet d d') : Keeps w d' where
  ssid := by
    intro ssid hw
    rw [hd.ssidSet, hd.ssid]
    exact h.ssid ssid hw
  ap := by
    intro ap hw
    rw [hd.wapSet, hd.bssid]
    exact h.ap ap hw
  iwMode := by
    rw [hd.iwMode]
    exact h.iwMode

theorem ssidBytes_length (net : Network) : (ssidBytes net).length = net.ssidLen := by
  unfold ssidBytes
  rw [List.length_map, List.length_range]

theorem link_currentNetwork (d : Device) (net : Network) :
    (link d net).currentNetwork = joined d net := by
  unfold link
  dsimp only
  split <;> rfl

theorem link_settings (d : Device) (net : Network) :
    (link d net).ssidSet = d.ssidSet ∧ (link d net).wapSet = d.wapSet ∧
      (link d net).iwMode = d.iwMode := by
  unfold link
  dsimp only
  split <;> exact ⟨rfl, rfl, rfl⟩

theorem Keeps.fits (h : Keeps w d) (hsuits : Suits cfg d net) :
    Fits w d.iwMode net (ssidBytes (joined d net)) := by
  -- A network that suits the device fits the wish.
  obtain ⟨hmode, hsel⟩ := hsuits
  have hcap : (d.iwMode = .infra → net.ess = true) ∧ (d.iwMode = .adhoc → net.ibss = true) := by
    rcases hmode with ⟨hinfra, hess⟩ | ⟨hadhoc, hibss, -⟩
    · refine ⟨fun _ => hess, fun hm => ?_⟩
      rw [hinfra] at hm
      cases hm
    · refine ⟨fun hm => ?_, fun _ => hibss⟩
      rw [hadhoc] at hm
      cases hm
  unfold selects at hsel
  dsimp only at hsel
  refine ⟨hcap.1, hcap.2, fun ssid hw => ?_, fun ap hw => ?_⟩
  · obtain ⟨hset, hbytes, hplain⟩ := h.ssid ssid hw
    have hzero : 0 ∉ ssidBytes d.currentNetwork := by
      rw [hbytes]
      exact hplain.noZero
    by_cases hsome : broadcasts net = true ∨ net.hiddenSsidLen > 0
    · have hmatch : ssidMatches d.currentNetwork net = true := by
        have hbroad : (broadcasts net || decide (net.hiddenSsidLen > 0)) = true := by simpa using hsome
        rw [hset, hbroad] at hsel
        by_contra hno
        simp [hno] at hsel
      left
      rw [known_of_matches hzero hsome hmatch, hbytes]
    · right
      have hunknown : knownSsid net = none := by
        unfold knownSsid
        rw [if_neg fun hb => hsome (.inl hb), if_neg fun hl => hsome (.inr hl)]
      have hlen : d.currentNetwork.ssidLen ≤ 32 := by
        rw [← ssidBytes_length, hbytes]
        exact hplain.length
      exact ⟨hunknown, (joined_of_unknown hzero hlen hunknown).trans hbytes⟩
  · obtain ⟨hset, hbssid⟩ := h.ap ap hw
    rw [hset] at hsel
    by_contra hne
    rw [hbssid, decide_eq_false (fun heq => hne heq.symm)] at hsel
    simp at hsel

theorem Keeps.link (h : Keeps w d) (hsuits : Suits cfg d net) : Keeps w (link d net) := by
  -- The network that takes the place of the settings keeps them.
  have hfits := h.fits hsuits
  obtain ⟨hssid, hwap, hmode⟩ := link_settings d net
  refine ⟨fun ssid hw => ?_, fun ap hw => ?_, ?_⟩
  · obtain ⟨hset, -, hplain⟩ := h.ssid ssid hw
    rw [hssid, link_currentNetwork]
    refine ⟨hset, ?_, hplain⟩
    rcases hfits.ssid ssid hw with hknown | ⟨-, hused⟩
    · exact joined_of_known hplain.noZero hknown
    · exact hused
  · rw [hwap, link_currentNetwork, joined_bssid]
    exact ⟨(h.ap ap hw).1, hfits.bssid ap hw⟩
  · rw [hmode]
    exact h.iwMode

/-! ## What a look does -/

theorem Look.choice_mem {l : Look} (h : l.choice cfg = some net) :
    l.device.state = .nolink ∧ Suits cfg l.device net := by
  unfold Look.choice at h
  split at h
  · next hstate =>
    have hsuits := List.find?_some (p := fun net => decide (Suits cfg l.device net)) h
    exact ⟨hstate, of_decide_eq_true hsuits⟩
  · cases h

theorem Keeps.result {l : Look} (h : Keeps w l.device) : Keeps w (l.result cfg) := by
  unfold Look.result
  split
  · next hchoice => exact h.link (Look.choice_mem hchoice).2
  · exact h

theorem newNet_eq_result (cfg : Config) (d : Device) (net : Network) :
    rtllibSoftmacNewNet cfg d net = (Look.mk d [net]).result cfg := by
  rw [newNet_eq]
  unfold Look.result Look.choice
  by_cases hstate : d.state = .nolink
  · by_cases hsuits : Suits cfg d net
    · simp [hstate, hsuits]
    · simp [hsuits]
  · simp [hstate]

theorem checkNets_eq_result (cfg : Config) (env : Env) (nets : List Network) (d : Device) :
    checkNets cfg env nets d = (Look.mk d (nets.filter (recent cfg env))).result cfg := by
  induction nets with
  | nil =>
    unfold Look.result Look.choice checkNets
    split
    · next hchoice =>
      dsimp only at hchoice
      split at hchoice
      · cases hchoice
      · cases hchoice
    · rfl
  | cons target rest ih =>
    unfold checkNets
    by_cases hstate : d.state = .nolink
    · rw [if_neg (not_not.mpr hstate)]
      by_cases hrecent : recent cfg env target = true
      · rw [if_pos hrecent, List.filter_cons_of_pos hrecent]
        by_cases hsuits : Suits cfg d target
        · rw [newNet_of_suits hstate hsuits, checkNets_of_state_ne (link_state_ne d target)]
          unfold Look.result Look.choice
          simp [hstate, hsuits]
        · rw [newNet_of_not_suits hsuits, ih]
          unfold Look.result Look.choice
          simp [hsuits]
      · rw [if_neg hrecent, List.filter_cons_of_neg hrecent]
        exact ih
    · rw [if_pos hstate]
      unfold Look.result Look.choice
      simp [hstate]

theorem opened_sameNet (d : Device) (c : Byte) (i : BitVec 16) : SameNet d (d.opened c i) :=
  ⟨rfl, rfl, rfl, rfl, rfl⟩

theorem startBss_eq_result (hcountry : ¬ (env.dot11d.bEnabled ∧ env.dot11d.countryIeLen = 0 ∧
    cfg.bGlobalDomain = false)) (d : Device) :
    rtllibStartBss cfg env d = (Look.mk d (recentNets cfg env)).result cfg := by
  unfold rtllibStartBss rtllibSoftmacCheckAllNets
  rw [if_neg hcountry]
  exact checkNets_eq_result cfg env env.networkList d

theorem start_of_look {l : Look} (h : lookAtStart cfg env d = some l) :
    SameNet d l.device ∧ rtllibStartProtocol cfg env d = l.result cfg := by
  unfold lookAtStart at h
  split at h
  · cases h
  next hstopped =>
  split at h
  · cases h
  next channel hchannel =>
  dsimp only at h
  split at h
  · cases h
  next hlooks =>
  obtain rfl := Option.some.inj h
  refine ⟨opened_sameNet .., ?_⟩
  obtain ⟨hinfra, hcountry⟩ := not_or.mp hlooks
  rw [not_not] at hinfra
  rw [← startBss_eq_result hcountry]
  unfold rtllibStartProtocol
  rw [if_neg hstopped]
  dsimp only
  rw [hchannel]
  dsimp only
  split
  · rfl
  all_goals
    next hmode =>
    rw [hinfra] at hmode
    cases hmode

theorem start_of_no_look (hmaster : d.iwMode ≠ .master) (h : lookAtStart cfg env d = none) :
    SameNet d (rtllibStartProtocol cfg env d) := by
  -- A start that looks for no network leaves the settings alone.
  unfold lookAtStart at h
  unfold rtllibStartProtocol
  by_cases hstarted : d.protoStarted = true
  · rw [if_pos hstarted]
    exact .refl d
  rw [if_neg hstarted] at h ⊢
  dsimp only
  generalize startChannel env { d with protoStarted := true } = channel at h ⊢
  cases channel with
  | none => exact ⟨rfl, rfl, rfl, rfl, rfl⟩
  | some channel =>
    dsimp only at h ⊢
    by_cases hblocked : d.iwMode ≠ .infra ∨
        env.dot11d.bEnabled ∧ env.dot11d.countryIeLen = 0 ∧ cfg.bGlobalDomain = false
    · split
      · next hinfra =>
        unfold rtllibStartBss
        rw [if_pos (hblocked.resolve_left (not_not.mpr hinfra))]
        exact ⟨rfl, rfl, rfl, rfl, rfl⟩
      · exact ⟨rfl, rfl, rfl, rfl, rfl⟩
      · next hmode => exact absurd hmode hmaster
      · exact ⟨rfl, rfl, rfl, rfl, rfl⟩
    · rw [if_neg hblocked] at h
      cases h

/-! ## The settings -/

/-- All but `wap_set` and the address. -/
structure SameSsid (d d' : Device) : Prop where
  ssid : ssidBytes d'.currentNetwork = ssidBytes d.currentNetwork
  ssidSet : d'.ssidSet = d.ssidSet
  iwMode : d'.iwMode = d.iwMode

theorem SameNet.sameSsid (h : SameNet d d') : SameSsid d d' := ⟨h.ssid, h.ssidSet, h.iwMode⟩

theorem Keeps.of_no_ap (h : Keeps w d) (hd : SameSsid d d') (hap : w.ap = none) : Keeps w d' where
  ssid := by
    intro ssid hw
    rw [hd.ssidSet, hd.ssid]
    exact h.ssid ssid hw
  ap := by
    intro ap hw
    rw [hap] at hw
    cases hw
  iwMode := by
    rw [hd.iwMode]
    exact h.iwMode

theorem stop_sameSsid (d : Device) (shutdown : Bool) :
    SameSsid d (rtllibStopProtocol d shutdown) := by
  unfold rtllibStopProtocol
  split
  · dsimp only
    split_ifs <;> exact ⟨rfl, rfl, rfl⟩
  · exact ⟨rfl, rfl, rfl⟩

theorem stop_sameNet (h : ¬ StopsLink d) (shutdown : Bool) :
    SameNet d (rtllibStopProtocol d shutdown) := by
  unfold rtllibStopProtocol
  split
  · next hstarted =>
    have hstate : d.state ≠ .linked := fun hs => h ⟨hstarted, hs⟩
    cases hs : d.state <;> first | exact absurd hs hstate | exact ⟨rfl, rfl, rfl, rfl, rfl⟩
  · exact .refl d

theorem Keeps.stop (h : Keeps w d) (hlink : StopsLink d → w.ap = none) (shutdown : Bool) :
    Keeps w (rtllibStopProtocol d shutdown) := by
  by_cases hstops : StopsLink d
  · exact h.of_no_ap (stop_sameSsid d shutdown) (hlink hstops)
  · exact h.same (stop_sameNet hstops shutdown)

theorem Keeps.storeWap (h : Keeps w d) (hd : SameSsid d d') (addr : Addr) :
    Keeps { w with ap := if addr = fun _ => 0 then none else some addr } (storeWap d' addr) where
  ssid := by
    intro ssid hw
    obtain ⟨hset, hbytes, hplain⟩ := h.ssid ssid hw
    exact ⟨hd.ssidSet.trans hset, hd.ssid.trans hbytes, hplain⟩
  ap := by
    intro ap hw
    dsimp only at hw
    split at hw
    · cases hw
    · next haddr => exact ⟨decide_eq_true haddr, Option.some.inj hw⟩
  iwMode := by
    have hmode := h.iwMode
    rw [← hd.iwMode] at hmode
    exact hmode

theorem storeEssid_ap (d : Device) (flags : Bool) (essid : List Byte) :
    (storeEssid d flags essid).wapSet = d.wapSet ∧
      (storeEssid d flags essid).currentNetwork.bssid = d.currentNetwork.bssid ∧
      (storeEssid d flags essid).iwMode = d.iwMode := by
  unfold storeEssid
  dsimp only
  split <;> exact ⟨rfl, rfl, rfl⟩

theorem take_eq_map (essid : List Byte) :
    essid.take 32 = (List.range (min essid.length 32)).map fun i => essid.getD i 0 := by
  apply List.ext_getElem
  · simp [Nat.min_comm]
  · intro i hi _
    have hlen : i < essid.length := by
      rw [List.length_take] at hi
      omega
    simp [hlen]

theorem storeEssid_bytes {essid : List Byte} (hne : essid ≠ []) (hzero : 0 ∉ essid.take 32)
    (d : Device) :
    (storeEssid d true essid).ssidSet = true ∧
      ssidBytes (storeEssid d true essid).currentNetwork = essid.take 32 := by
  unfold storeEssid
  dsimp only
  rw [if_pos ⟨rfl, hne⟩]
  refine ⟨rfl, ?_⟩
  rw [take_eq_map] at hzero ⊢
  exact map_range_congr (strncpy_of_ne_zero (ne_zero_of_map hzero))

theorem Keeps.storeEssid (h : Keeps w d) (flags : Bool) {essid : List Byte}
    (hzero : flags = true → 0 ∉ essid.take 32) :
    Keeps { w with ssid := if flags ∧ essid ≠ [] then some (essid.take 32) else none }
      (storeEssid d flags essid) := by
  obtain ⟨hwap, hbssid, hmode⟩ := storeEssid_ap d flags essid
  refine ⟨fun ssid hw => ?_, fun ap hw => ?_, ?_⟩
  · dsimp only at hw
    split at hw
    · next hset =>
      obtain ⟨rfl, hne⟩ := hset
      obtain rfl := Option.some.inj hw
      obtain ⟨hssid, hbytes⟩ := storeEssid_bytes hne (hzero rfl) d
      refine ⟨hssid, hbytes, hzero rfl, List.length_take_le 32 essid, ?_⟩
      simpa using hne
    · cases hw
  · rw [hwap, hbssid]
    exact h.ap ap hw
  · rw [hmode]
    exact h.iwMode

/-! ## The events -/

structure Anchored (d d' : Device) : Prop where
  bssid : d'.currentNetwork.bssid = d.currentNetwork.bssid
  iwMode : d'.iwMode = d.iwMode

theorem SameNet.anchored (h : SameNet d d') : Anchored d d' := ⟨h.bssid, h.iwMode⟩

/-- What a step comes to: `w` is the wish after it, `forget` says that settings may change. -/
structure Comes (cfg : Config) (w : Wish) (forget : Prop) (d : Device) (e : Env × Event) : Prop where
  looked : ∀ l, look cfg d e = some l → Keeps w l.device ∧
    step cfg d e = afterLook e.2 (l.result cfg) ∧ (¬ forget → Anchored d l.device)
  stayed : look cfg d e = none → Keeps w (step cfg d e) ∧ (¬ forget → Anchored d (step cfg d e))

theorem Keeps.comes {forget : Prop} {e : Env × Event} (h : Keeps w d) (hlook : look cfg d e = none)
    (hd : SameNet d (step cfg d e)) : Comes cfg w forget d e where
  looked := by
    intro l hl
    rw [hlook] at hl
    cases hl
  stayed _ := ⟨h.same hd, fun _ => hd.anchored⟩

theorem updateSsid_bytes {dst src : Network}
    (h : isSameNetwork dst src (decide (src.ssidLen ≠ 0)) = true) :
    ssidBytes (updateSsid dst src) = ssidBytes dst := by
  obtain ⟨hlen, -, -, hmem, -⟩ := of_decide_eq_true h
  unfold updateSsid
  split
  · next hpos =>
    have hbroad : decide (src.ssidLen ≠ 0) = true := decide_eq_true (by omega)
    rw [hbroad] at hlen hmem
    have hlen := hlen.resolve_right (by decide)
    have hmem := hmem.resolve_right (by decide)
    split
    · rfl
    · unfold ssidBytes
      rw [← hlen]
      refine map_range_congr fun i hi => ?_
      show overwrite _ src.ssid dst.ssidLen i = dst.ssid i
      unfold overwrite
      rw [if_pos hi]
      unfold memEq at hmem
      exact (of_decide_eq_true (List.all_eq_true.mp hmem i (List.mem_range.mpr hi))).symm
  · rfl

theorem updateCurrent_sameNet (env : Env) (d : Device) (network : Network) :
    SameNet d (updateCurrent env d network) := by
  unfold updateCurrent
  split
  · next hsame => exact ⟨updateSsid_bytes hsame, updateNetwork_bssid .., rfl, rfl, rfl⟩
  · exact .refl d

theorem Keeps.heard {forget : Prop} (h : Keeps w d) (network : Network) (new : Bool) :
    Comes cfg w forget d (env, .heard network new) := by
  have hcurrent := updateCurrent_sameNet env d network
  constructor
  · intro l hl
    unfold look at hl
    dsimp only at hl
    split at hl
    · next hnew =>
      obtain rfl := Option.some.inj hl
      refine ⟨h.same hcurrent, ?_, fun _ => hcurrent.anchored⟩
      show processProbeResponse cfg env d network new = _
      unfold processProbeResponse
      rw [if_pos hnew, newNet_eq_result]
      rfl
    · cases hl
  · intro hl
    unfold look at hl
    dsimp only at hl
    split at hl
    · cases hl
    · next hold =>
      have hstep : step cfg d (env, .heard network new) = updateCurrent env d network := by
        show processProbeResponse cfg env d network new = _
        unfold processProbeResponse
        rw [if_neg hold]
      rw [hstep]
      exact ⟨h.same hcurrent, fun _ => hcurrent.anchored⟩

theorem step2_sameNet (d : Device) (state : RtllibState) :
    SameNet d (rtllibAssociateStep2 env { d with state := state }) := by
  unfold rtllibAssociateStep2
  dsimp only
  split <;> exact ⟨rfl, rfl, rfl, rfl, rfl⟩

theorem auth_sameNet (f : Frame) : SameNet d (rxAuth cfg env d f) := by
  unfold rxAuth
  split
  · exact step2_sameNet d _
  · split
    · exact step2_sameNet d _
    · unfold rtllibAuthChallenge
      split <;> exact ⟨rfl, rfl, rfl, rfl, rfl⟩
  · exact ⟨rfl, rfl, rfl, rfl, rfl⟩

theorem assocResp_sameNet (f : Frame) : SameNet d (rxAssocResp env d f) := by
  unfold rxAssocResp
  dsimp only
  split
  · split <;> exact ⟨rfl, rfl, rfl, rfl, rfl⟩
  · split <;> exact ⟨rfl, rfl, rfl, rfl, rfl⟩

theorem softmac_sameNet {f : Frame} (haddr : f.addr1 = cfg.devAddr) (h : ¬ Leaves cfg d f) :
    SameNet d (rtllibRxFrameSoftmac cfg env d f) := by
  -- Only a frame that ends the link clears `wap_set`.
  unfold rtllibRxFrameSoftmac
  split
  · next hstarted =>
    split
    · split
      · exact assocResp_sameNet f
      · exact .refl d
    · split
      · exact auth_sameNet f
      · exact .refl d
    · next hstype =>
      unfold rxLeave
      rw [if_neg fun hl => h ⟨hstarted, haddr, hstype, hl⟩]
      exact .refl d
    · exact .refl d
  · exact .refl d

theorem softmac_sameSsid (cfg : Config) (env : Env) (d : Device) (f : Frame) :
    SameSsid d (rtllibRxFrameSoftmac cfg env d f) ∧
      Anchored d (rtllibRxFrameSoftmac cfg env d f) := by
  unfold rtllibRxFrameSoftmac
  split
  · split
    · split
      · exact ⟨(assocResp_sameNet f).sameSsid, (assocResp_sameNet f).anchored⟩
      · exact ⟨⟨rfl, rfl, rfl⟩, ⟨rfl, rfl⟩⟩
    · split
      · exact ⟨(auth_sameNet f).sameSsid, (auth_sameNet f).anchored⟩
      · exact ⟨⟨rfl, rfl, rfl⟩, ⟨rfl, rfl⟩⟩
    · unfold rxLeave
      split <;> exact ⟨⟨rfl, rfl, rfl⟩, ⟨rfl, rfl⟩⟩
    · exact ⟨⟨rfl, rfl, rfl⟩, ⟨rfl, rfl⟩⟩
  · exact ⟨⟨rfl, rfl, rfl⟩, ⟨rfl, rfl⟩⟩

theorem Keeps.frame {forget : Prop} (h : Keeps w d) (f : Frame)
    (hleaves : Leaves cfg d f → w.ap = none) : Comes cfg w forget d (env, .frame f) := by
  constructor
  · intro l hl
    cases hl
  intro _
  have hnote : ∀ n : Device, n = (if f.stype = .leave ∧ f.isForUs cfg then d.note (.left f.addr2) else d) →
      SameNet d n ∧ (Leaves cfg n f → Leaves cfg d f) := by
    rintro n rfl
    split
    · exact ⟨⟨rfl, rfl, rfl, rfl, rfl⟩, id⟩
    · exact ⟨.refl d, id⟩
  show Keeps w (rtllibRxFrameMgmt cfg env d f) ∧ (_ → Anchored d (rtllibRxFrameMgmt cfg env d f))
  unfold rtllibRxFrameMgmt
  dsimp only
  obtain ⟨hsame, hlater⟩ := hnote _ rfl
  generalize (if f.stype = .leave ∧ f.isForUs cfg then d.note (.left f.addr2) else d) = n
    at hsame hlater ⊢
  split
  · next haddr =>
    obtain ⟨hssid, hanchored⟩ := softmac_sameSsid cfg env n f
    refine ⟨?_, fun _ => ⟨hanchored.bssid.trans hsame.bssid, hanchored.iwMode.trans hsame.iwMode⟩⟩
    by_cases hl : Leaves cfg n f
    · exact (h.same hsame).of_no_ap hssid (hleaves (hlater hl))
    · exact (h.same hsame).same (softmac_sameNet haddr hl)
  · exact ⟨h.same hsame, fun _ => hsame.anchored⟩

theorem Keeps.defaultSsid (h : Keeps w d) (n : Nat) : Keeps w (defaultSsid d n) := by
  unfold Association.defaultSsid
  split
  · next hlen =>
    refine ⟨fun ssid hw => ?_, h.ap, h.iwMode⟩
    obtain ⟨-, hbytes, hplain⟩ := h.ssid ssid hw
    have hzero := ssidBytes_length d.currentNetwork
    rw [hbytes, hlen] at hzero
    exact absurd (List.length_eq_zero_iff.mp hzero) hplain.nonempty
  · exact h

theorem defaultSsid_anchored (n : Nat) : Anchored d (defaultSsid d n) := by
  unfold defaultSsid
  split <;> exact ⟨rfl, rfl⟩

theorem Keeps.run {forget : Prop} (h : Keeps w d) (item : Item) :
    Comes cfg w forget d (env, .run item) := by
  by_cases hfree : d.wxSem = .free
  case neg =>
    have hstep : step cfg d (env, .run item) = d := if_neg hfree
    have hlook : look cfg d (env, .run item) = none := by
      cases item with
      | procedure => rfl
      | retry => exact if_neg fun hl => hfree hl.1.1
      | ibss => exact if_neg fun hl => hfree hl.1
    refine h.comes hlook ?_
    rw [hstep]
    exact .refl d
  have hstep : step cfg d (env, .run item) = runItem cfg env d item := if_pos hfree
  cases item with
  | procedure =>
    refine h.comes rfl ?_
    rw [hstep]
    unfold runItem rtllibAssociateProcedureWq
    dsimp only
    split
    · split
      · exact ⟨rfl, rfl, rfl, rfl, rfl⟩
      · unfold rtllibAssociateStep1
        split <;> exact ⟨rfl, rfl, rfl, rfl, rfl⟩
    · exact .refl d
  | retry =>
    by_cases hwait : d.associateRetryWq.waiting = true
    case neg =>
      refine h.comes (if_neg fun hl => hwait hl.1.2) ?_
      rw [hstep]
      show SameNet d (if d.associateRetryWq.waiting then _ else d)
      rw [if_neg hwait]
      exact .refl d
    have hrun : runItem cfg env d .retry = rtllibAssociateRetryWq cfg env
        { d with associateRetryWq := { d.associateRetryWq with waiting := false } } := if_pos hwait
    by_cases hretry : d.protoStarted = true ∧ d.state = .associatingRetry
    · constructor
      · intro l hl
        unfold look at hl
        dsimp only at hl
        rw [if_pos ⟨⟨hfree, hwait⟩, hretry⟩] at hl
        obtain rfl := Option.some.inj hl
        refine ⟨h.same ⟨rfl, rfl, rfl, rfl, rfl⟩, ?_, fun _ => ⟨rfl, rfl⟩⟩
        rw [hstep, hrun]
        unfold rtllibAssociateRetryWq rtllibSoftmacCheckAllNets
        rw [if_pos hretry, checkNets_eq_result]
        rfl
      · intro hl
        unfold look at hl
        dsimp only at hl
        rw [if_pos ⟨⟨hfree, hwait⟩, hretry⟩] at hl
        cases hl
    · refine h.comes (if_neg fun hl => hretry hl.2) ?_
      rw [hstep, hrun]
      unfold rtllibAssociateRetryWq
      rw [if_neg hretry]
      exact ⟨rfl, rfl, rfl, rfl, rfl⟩
  | ibss =>
    by_cases hwait : d.startIbssWq.waiting = true
    case neg =>
      refine h.comes (if_neg fun hl => hwait hl.2) ?_
      rw [hstep]
      show SameNet d (if d.startIbssWq.waiting then _ else d)
      rw [if_neg hwait]
      exact .refl d
    have hrun : runItem cfg env d .ibss = rtllibStartIbssWq cfg env
        { d with startIbssWq := { d.startIbssWq with waiting := false } } := if_pos hwait
    constructor
    · intro l hl
      unfold look at hl
      dsimp only at hl
      rw [if_pos ⟨hfree, hwait⟩] at hl
      obtain rfl := Option.some.inj hl
      have hkeeps : Keeps w { d with startIbssWq := { d.startIbssWq with waiting := false } } :=
        h.same ⟨rfl, rfl, rfl, rfl, rfl⟩
      refine ⟨hkeeps.defaultSsid 8, ?_, fun _ => ?_⟩
      · rw [hstep, hrun]
        unfold rtllibStartIbssWq rtllibSoftmacCheckAllNets
        rw [checkNets_eq_result]
        rfl
      · have hanchored := defaultSsid_anchored
          (d := { d with startIbssWq := { d.startIbssWq with waiting := false } }) 8
        exact ⟨hanchored.bssid, hanchored.iwMode⟩
    · intro hl
      unfold look at hl
      dsimp only at hl
      rw [if_pos ⟨hfree, hwait⟩] at hl
      cases hl

theorem Keeps.ibssScanDone {forget : Prop} (h : Keeps w d)
    (hforget : d.wxSem = .ibssScan → forget) : Comes cfg w forget d (env, .ibssScanDone) := by
  -- A cell that is created keeps the user's address and SSID.
  constructor
  · intro l hl
    cases hl
  intro _
  show Keeps w (if d.wxSem = .ibssScan then Association.ibssScanDone cfg env d else d) ∧
    (¬ forget → Anchored d (if d.wxSem = .ibssScan then Association.ibssScanDone cfg env d else d))
  split
  · next hsem =>
    refine ⟨?_, fun hno => absurd (hforget hsem) hno⟩
    unfold Association.ibssScanDone
    dsimp only
    split
    · refine ⟨h.ssid, fun ap hw => ?_, h.iwMode⟩
      obtain ⟨hset, hbssid⟩ := h.ap ap hw
      refine ⟨hset, ?_⟩
      show (if d.wapSet then d.currentNetwork.bssid else randomizeCell env.random) = ap
      rw [if_pos hset]
      exact hbssid
    · exact h.same ⟨rfl, rfl, rfl, rfl, rfl⟩
  · exact ⟨h, fun _ => ⟨rfl, rfl⟩⟩

/-! ## The requests -/

theorem Keeps.comesStart {forget : Prop} {r : Request} (h : Keeps w d')
    (hlook : look cfg d (env, .request r) = lookAtStart cfg env d')
    (hstep : step cfg d (env, .request r) = rtllibStartProtocol cfg env d')
    (hanchored : ¬ forget → Anchored d d') : Comes cfg w forget d (env, .request r) := by
  -- A request that ends with a start of the protocol.
  have htrans : ∀ {d'' : Device}, SameNet d' d'' → ¬ forget → Anchored d d'' := by
    intro d'' hsame hno
    obtain ⟨hbssid, hmode⟩ := hanchored hno
    exact ⟨hsame.bssid.trans hbssid, hsame.iwMode.trans hmode⟩
  constructor
  · intro l hl
    rw [hlook] at hl
    obtain ⟨hsame, hstart⟩ := start_of_look hl
    exact ⟨h.same hsame, hstep.trans hstart, htrans hsame⟩
  · intro hl
    rw [hlook] at hl
    have hsame := start_of_no_look h.iwMode hl
    rw [hstep]
    exact ⟨h.same hsame, htrans hsame⟩

theorem Keeps.comesIdle {forget : Prop} {r : Request} (h : Keeps w d')
    (hlook : look cfg d (env, .request r) = none) (hstep : step cfg d (env, .request r) = d')
    (hanchored : ¬ forget → Anchored d d') : Comes cfg w forget d (env, .request r) where
  looked := by
    intro l hl
    rw [hlook] at hl
    cases hl
  stayed _ := by
    rw [hstep]
    exact ⟨h, hanchored⟩

theorem step_request (hfree : d.wxSem = .free) (r : Request) :
    step cfg d (env, .request r) = request cfg env d r := if_pos hfree

theorem look_request (hfree : d.wxSem = .free) (r : Request) :
    look cfg d (env, .request r) = lookAtRequest cfg env d r := if_pos hfree

theorem Keeps.setWap {forget : Prop} (h : Keeps w d) (hfree : d.wxSem = .free) (hforget : forget)
    (ifup : Bool) (addr : Addr) :
    Comes cfg { w with ap := if addr = fun _ => 0 then none else some addr } forget d
      (env, .request (.setWap ifup addr)) := by
  cases ifup with
  | false =>
    have hkeeps := h.storeWap (SameNet.refl d).sameSsid addr
    refine hkeeps.comesIdle ?_ ?_ fun hno => absurd hforget hno
    · rw [look_request hfree]
      exact if_pos (.inr rfl)
    · rw [step_request hfree]
      exact if_neg h.iwMode
  | true =>
    have hkeeps := h.storeWap (stop_sameSsid d true) addr
    refine hkeeps.comesStart ?_ ?_ fun hno => absurd hforget hno
    · rw [look_request hfree]
      exact if_neg (by rintro (hm | ⟨⟨⟩⟩); exact h.iwMode hm)
    · rw [step_request hfree]
      exact if_neg h.iwMode

theorem setEssid_eq (hmode : d.iwMode ≠ .monitor) (flags : Bool) (essid : List Byte) :
    rtllibWxSetEssid cfg env d flags essid =
      if d.protoStarted then
        rtllibStartProtocol cfg env (storeEssid (rtllibStopProtocol d true) flags essid)
      else storeEssid d flags essid := by
  unfold rtllibWxSetEssid storeEssid
  rw [if_neg hmode]
  dsimp only
  split <;> rfl

theorem Keeps.setEssid {forget : Prop} (h : Keeps w d) (hfree : d.wxSem = .free)
    (hmode : d.iwMode ≠ .monitor) (hforget : forget) {flags : Bool} {essid : List Byte}
    (hlink : StopsLink d → w.ap = none) (hzero : flags = true → 0 ∉ essid.take 32) :
    Comes cfg { w with ssid := if flags ∧ essid ≠ [] then some (essid.take 32) else none } forget d
      (env, .request (.setEssid flags essid)) := by
  have hstep : step cfg d (env, .request (.setEssid flags essid)) =
      rtllibWxSetEssid cfg env d flags essid := if_pos hfree
  rw [setEssid_eq hmode] at hstep
  cases hstarted : d.protoStarted with
  | true =>
    rw [if_pos hstarted] at hstep
    refine ((h.stop hlink true).storeEssid flags hzero).comesStart ?_ hstep
      fun hno => absurd hforget hno
    rw [look_request hfree]
    refine if_neg ?_
    rintro (hm | hs)
    · exact hmode hm
    · rw [hstarted] at hs
      cases hs
  | false =>
    rw [if_neg (by rw [hstarted]; exact Bool.false_ne_true)] at hstep
    refine (h.storeEssid flags hzero).comesIdle ?_ hstep fun hno => absurd hforget hno
    rw [look_request hfree]
    exact if_pos (.inr hstarted)

theorem Keeps.setMode {forget : Prop} (h : Keeps w d) (hfree : d.wxSem = .free) {mode : IwMode}
    (hmode : ¬ (mode = .master ∨ mode = d.iwMode)) (hforget : forget)
    (hlink : StopsLink d → w.ap = none) : Comes cfg w forget d (env, .request (.setMode mode)) := by
  have hmaster : mode ≠ .master := fun hm => hmode (.inl hm)
  have hstep : step cfg d (env, .request (.setMode mode)) = rtllibWxSetMode cfg env d mode :=
    if_pos hfree
  unfold rtllibWxSetMode at hstep
  rw [if_neg hmode] at hstep
  cases hstarted : d.protoStarted with
  | true =>
    rw [if_pos hstarted] at hstep
    have hstop := h.stop hlink true
    have hkeeps : Keeps w { rtllibStopProtocol d true with iwMode := mode } :=
      ⟨hstop.ssid, hstop.ap, hmaster⟩
    refine hkeeps.comesStart ?_ hstep fun hno => absurd hforget hno
    rw [look_request hfree]
    refine if_neg ?_
    rintro (hm | hs)
    · exact hmode hm
    · rw [hstarted] at hs
      cases hs
  | false =>
    rw [if_neg (by rw [hstarted]; exact Bool.false_ne_true)] at hstep
    have hkeeps : Keeps w { d with iwMode := mode } := ⟨h.ssid, h.ap, hmaster⟩
    refine hkeeps.comesIdle ?_ hstep fun hno => absurd hforget hno
    rw [look_request hfree]
    exact if_pos (.inr hstarted)

theorem Keeps.up {forget : Prop} (h : Keeps w d) (hfree : d.wxSem = .free) :
    Comes cfg w forget d (env, .request .up) := by
  by_cases hstate : d.state = .linked
  · refine h.comesIdle ?_ ?_ fun _ => ⟨rfl, rfl⟩
    · rw [look_request hfree]
      exact if_neg (not_not.mpr hstate)
    · rw [step_request hfree]
      exact if_neg (not_not.mpr hstate)
  · refine h.comesStart ?_ ?_ fun _ => ⟨rfl, rfl⟩
    · rw [look_request hfree]
      exact if_pos hstate
    · rw [step_request hfree]
      exact if_pos hstate

theorem Keeps.setMlme {forget : Prop} (h : Keeps w d) (hfree : d.wxSem = .free) {linked known : Bool}
    (hap : linked = true ∧ known = true → w.ap = none) :
    Comes cfg w forget d (env, .request (.setMlme linked known)) := by
  have hstep : Keeps w (rtllibWxSetMlme d linked known) ∧
      Anchored d (rtllibWxSetMlme d linked known) := by
    unfold rtllibWxSetMlme
    split
    · next hleave => exact ⟨h.of_no_ap ⟨rfl, rfl, rfl⟩ (hap hleave), rfl, rfl⟩
    · exact ⟨h, rfl, rfl⟩
  exact hstep.1.comesIdle (look_request hfree _) (step_request hfree _) fun _ => hstep.2

theorem Keeps.wpaMlme {forget : Prop} (h : Keeps w d) (hfree : d.wxSem = .free) {disassoc : Bool}
    (hap : disassoc = true → w.ap = none) :
    Comes cfg w forget d (env, .request (.wpaMlme disassoc)) := by
  have hstep : Keeps w (rtllibWpaMlme d disassoc) ∧ Anchored d (rtllibWpaMlme d disassoc) := by
    unfold rtllibWpaMlme
    split
    · next hleave => exact ⟨h.of_no_ap ⟨rfl, rfl, rfl⟩ (hap hleave), rfl, rfl⟩
    · exact ⟨h, rfl, rfl⟩
  exact hstep.1.comesIdle (look_request hfree _) (step_request hfree _) fun _ => hstep.2

theorem Keeps.down {forget : Prop} (h : Keeps w d) (hfree : d.wxSem = .free) (hforget : forget)
    (hap : w.ap = none) (hssid : w.ssid = none) : Comes cfg w forget d (env, .request .down) := by
  -- Once the interface is down no setting is in force.
  have hkeeps : Keeps w (Association.down d) := by
    refine ⟨fun ssid hw => ?_, fun ap hw => ?_, ?_⟩
    · rw [hssid] at hw
      cases hw
    · rw [hap] at hw
      cases hw
    · show (rtllibStopProtocol d true).iwMode ≠ .master
      rw [(stop_sameSsid d true).iwMode]
      exact h.iwMode
  refine hkeeps.comesIdle ?_ ?_ fun hno => absurd hforget hno
  · exact look_request hfree .down
  · exact step_request hfree .down

theorem Keeps.waits {forget : Prop} (h : Keeps w d) (hfree : d.wxSem ≠ .free) (r : Request) :
    Comes cfg w forget d (env, .request r) :=
  h.comesIdle (if_neg hfree) (if_neg hfree) fun _ => ⟨rfl, rfl⟩

theorem Keeps.refused {forget : Prop} (h : Keeps w d) (hfree : d.wxSem = .free) {r : Request}
    (hlook : lookAtRequest cfg env d r = none) (hrequest : request cfg env d r = d) :
    Comes cfg w forget d (env, .request r) := by
  refine h.comesIdle ?_ ?_ fun _ => ⟨rfl, rfl⟩
  · rw [look_request hfree]
    exact hlook
  · rw [step_request hfree]
    exact hrequest

theorem Keeps.request {s : Watched} (h : Keeps s.wish s.device) {r : Request}
    (hheeds : Heeds cfg s (env, .request r)) :
    Comes cfg (s.wish.after s.device (.request r)) (forgets s.device (.request r) = true) s.device
      (env, .request r) := by
  by_cases hfree : s.device.wxSem = .free
  case neg =>
    have hwish : s.wish.after s.device (.request r) = s.wish := by
      unfold Wish.after
      split
      · exact if_neg fun hl => hfree hl.1
      · exact if_neg fun hl => hfree hl.1
      · rfl
    rw [hwish]
    exact h.waits hfree r
  have hforget : decide (s.device.wxSem = .free) = true := decide_eq_true hfree
  cases r with
  | setWap ifup addr =>
    unfold Wish.after
    dsimp only
    rw [if_pos ⟨hfree, h.iwMode⟩]
    exact h.setWap hfree hforget ifup addr
  | setEssid flags essid =>
    unfold Wish.after
    dsimp only
    by_cases hmode : s.device.iwMode = .monitor
    · rw [if_neg fun hl => hl.2 hmode]
      exact h.refused hfree (if_pos (.inl hmode)) (if_pos hmode)
    · rw [if_pos ⟨hfree, hmode⟩]
      obtain ⟨hlink, hzero⟩ := hheeds hfree hmode
      exact h.setEssid hfree hmode hforget hlink hzero
  | setMode mode =>
    by_cases hmode : mode = .master ∨ mode = s.device.iwMode
    · exact h.refused hfree (if_pos (.inl hmode)) (if_pos hmode)
    · exact h.setMode hfree hmode hforget (hheeds hfree hmode)
  | setScan =>
    refine h.comes (look_request hfree .setScan) ?_
    rw [step_request hfree]
    unfold Association.request rtllibWxSetScan
    dsimp only
    split
    · exact ⟨rfl, rfl, rfl, rfl, rfl⟩
    · exact .refl s.device
  | setMlme linked known => exact h.setMlme hfree (hheeds hfree)
  | wpaMlme disassoc => exact h.wpaMlme hfree (hheeds hfree)
  | up => exact h.up hfree
  | down =>
    obtain ⟨hap, hssid⟩ := hheeds hfree
    exact h.down hfree hforget hap hssid

theorem Keeps.scanEssid {forget : Prop} {s : Watched} (h : Keeps s.wish s.device) (essidLen : Byte)
    (essid : Nat → Byte) (hheeds : Heeds cfg s (env, .scanEssid essidLen essid)) :
    Comes cfg s.wish forget s.device (env, .scanEssid essidLen essid) where
  looked := by
  -- A scan for the requested SSID leaves the settings as they are.
    intro l hl
    cases hl
  stayed _ := by
    show Keeps s.wish (copyEssid s.device essidLen essid) ∧ (_ → Anchored _ (copyEssid _ essidLen essid))
    unfold copyEssid
    split
    · next hlen =>
      refine ⟨⟨fun ssid hw => ?_, h.ap, h.iwMode⟩, fun _ => ⟨rfl, rfl⟩⟩
      obtain ⟨hset, -, hplain⟩ := h.ssid ssid hw
      refine ⟨hset, ?_, hplain⟩
      rw [← (hheeds hlen).2 ssid hw]
      exact map_range_congr fun i hi => if_pos hi
    · exact ⟨h, fun _ => (SameNet.refl s.device).anchored⟩

/-! ## Steps and runs -/

theorem Keeps.event {s : Watched} (h : Keeps s.wish s.device) {e : Env × Event}
    (hheeds : Heeds cfg s e) : Comes cfg (s.wish.after s.device e.2)
      (forgets s.device e.2 = true) s.device e := by
  obtain ⟨env, event⟩ := e
  cases event with
  | frame f => exact h.frame f hheeds
  | heard network new => exact h.heard network new
  | run item => exact h.run item
  | ibssScanDone => exact h.ibssScanDone decide_eq_true
  | request r => exact h.request hheeds
  | scanEssid essidLen essid => exact h.scanEssid essidLen essid hheeds
  -- What is left only moves the station.
  | start item =>
    refine h.comes rfl ?_
    cases item <;> exact ⟨rfl, rfl, rfl, rfl, rfl⟩
  | associateComplete => exact h.comes rfl ⟨rfl, rfl, rfl, rfl, rfl⟩
  | associateTimer | syncScan | syncScanDone | roam =>
    refine h.comes rfl ?_
    unfold step
    dsimp only
    split <;> exact ⟨rfl, rfl, rfl, rfl, rfl⟩

/-- The wish is kept, and the network that was chosen last is one that the user has asked for. -/
structure Faithful (s : Watched) : Prop where
  keeps : Keeps s.wish s.device
  picked : ∀ net, s.picked = some net → net.bssid = s.device.currentNetwork.bssid ∧
    Fits s.wish s.device.iwMode net (ssidBytes s.device.currentNetwork)

theorem afterLook_sameNet (event : Event) (d : Device) : SameNet d (afterLook event d) := by
  unfold afterLook
  split <;> exact ⟨rfl, rfl, rfl, rfl, rfl⟩

theorem after_of_not_forgets {event : Event} (h : ¬ forgets d event = true) (w : Wish) :
    w.after d event = w := by
  unfold Wish.after
  split
  · exact if_neg fun hl => h (decide_eq_true hl.1)
  · exact if_neg fun hl => h (decide_eq_true hl.1)
  · rfl

theorem Faithful.anchored {s : Watched} (h : Faithful s) (hkeeps : Keeps s.wish d)
    (hd : Anchored s.device d) (hpicked : s.picked = some net) :
    net.bssid = d.currentNetwork.bssid ∧ Fits s.wish d.iwMode net (ssidBytes d.currentNetwork) := by
  obtain ⟨hbssid, hfits⟩ := h.picked net hpicked
  rw [hd.bssid, hd.iwMode]
  refine ⟨hbssid, hfits.ess, hfits.ibss, fun ssid hw => ?_, hfits.bssid⟩
  rcases hfits.ssid ssid hw with hknown | ⟨hunknown, -⟩
  · exact .inl hknown
  · exact .inr ⟨hunknown, (hkeeps.ssid ssid hw).2.1⟩

theorem Faithful.watch {s : Watched} {e : Env × Event} (h : Faithful s) (hheeds : Heeds cfg s e) :
    Faithful (watch cfg s e) := by
  have hcomes := h.keeps.event hheeds
  have hstays : ∀ {net' d'}, Keeps (s.wish.after s.device e.2) d' →
      (¬ forgets s.device e.2 = true → Anchored s.device d') →
      (if forgets s.device e.2 then none else s.picked) = some net' →
      net'.bssid = d'.currentNetwork.bssid ∧
        Fits (s.wish.after s.device e.2) d'.iwMode net' (ssidBytes d'.currentNetwork) := by
    intro net' d' hkeeps hanchored hpicked
    split at hpicked
    · cases hpicked
    · next hno =>
      rw [after_of_not_forgets hno] at hkeeps ⊢
      exact h.anchored hkeeps (hanchored hno) hpicked
  unfold Association.watch
  cases hlook : look cfg s.device e with
  | none =>
    obtain ⟨hkeeps, hanchored⟩ := hcomes.stayed hlook
    exact ⟨hkeeps, fun net hpicked => hstays hkeeps hanchored hpicked⟩
  | some l =>
    obtain ⟨hkeeps, hstep, hanchored⟩ := hcomes.looked l hlook
    have hafter := afterLook_sameNet e.2 (l.result cfg)
    rw [← hstep] at hafter
    refine ⟨hkeeps.result.same hafter, ?_⟩
    dsimp only [Option.bind_some]
    rw [hafter.ssid, hafter.bssid, hafter.iwMode]
    unfold Look.result
    cases hchoice : l.choice cfg with
    | none => exact fun net hpicked => hstays hkeeps hanchored hpicked
    | some chosen =>
      intro net hpicked
      obtain rfl := Option.some.inj hpicked
      dsimp only
      rw [link_currentNetwork, joined_bssid, (link_settings l.device chosen).2.2]
      exact ⟨rfl, hkeeps.fits (Look.choice_mem hchoice).2⟩

theorem Faithful.respects {s : Watched} {e : Env × Event} (h : Faithful s)
    (hheeds : Heeds cfg s e) : Respects cfg s e where
  chosen := by
    intro l net hlook hchoice
    exact ((h.keeps.event hheeds).looked l hlook).1.fits (Look.choice_mem hchoice).2
  begun := by
    intro hbegins
    have hpicked : s.picked.isSome = true := by
      unfold Begins at hbegins
      split at hbegins
      · exact hheeds hbegins
      · exact hbegins.elim
    obtain ⟨net, hnet⟩ := Option.isSome_iff_exists.mp hpicked
    exact ⟨net, hnet, h.picked net hnet⟩

def Watched.fresh (d : Device) : Watched := ⟨d, ⟨none, none⟩, none⟩

theorem faithful_fresh (hmode : d.iwMode ≠ .master) : Faithful (.fresh d) where
  keeps := by
    refine ⟨fun ssid hw => ?_, fun ap hw => ?_, hmode⟩ <;> cases hw
  picked := by
    intro net hpicked
    cases hpicked

/-- In a run that heeds the wish, the driver only starts to join what the user has asked for. -/
theorem joins_only_selected (cfg : Config) (d : Device) (hmode : d.iwMode ≠ .master)
    (es : List (Env × Event)) (hes : Meets (watch cfg) (Heeds cfg) (.fresh d) es) :
    Meets (watch cfg) (Respects cfg) (.fresh d) es := by
  apply Meets.mono_of_inv (I := Faithful) _ _ (faithful_fresh hmode) hes
  · intro s e h hheeds
    exact h.watch hheeds
  · intro s e h hheeds
    exact h.respects hheeds

instance decidableHeeds (cfg : Config) (s : Watched) : (e : Env × Event) → Decidable (Heeds cfg s e)
  | (env, .run .procedure) => by unfold Heeds Begins; infer_instance
  | (_, .frame f) => by unfold Heeds Leaves; infer_instance
  | (_, .request (.setEssid flags essid)) => by unfold Heeds StopsLink; infer_instance
  | (_, .request (.setMode mode)) => by unfold Heeds StopsLink; infer_instance
  | (_, .request (.setMlme _ _)) => by unfold Heeds; infer_instance
  | (_, .request (.wpaMlme _)) => by unfold Heeds; infer_instance
  | (_, .request .down) => by unfold Heeds; infer_instance
  | (_, .run .retry) => .isTrue trivial
  | (_, .run .ibss) => .isTrue trivial
  | (_, .request (.setWap _ _)) => .isTrue trivial
  | (_, .request .setScan) => .isTrue trivial
  | (_, .request .up) => .isTrue trivial
  | (_, .heard _ _) => .isTrue trivial
  | (_, .associateTimer) => .isTrue trivial
  | (_, .start _) => .isTrue trivial
  | (_, .ibssScanDone) => .isTrue trivial
  | (_, .syncScan) => .isTrue trivial
  | (_, .syncScanDone) => .isTrue trivial
  | (_, .associateComplete) => .isTrue trivial
  | (_, .roam) => .isTrue trivial
  | (_, .scanEssid essidLen essid) => by unfold Heeds; infer_instance

/-- The user asks for the network `n` and for the address of its access point. -/
def selecting : List Event :=
  [.request (.setEssid true [0x6e]), .request (.setWap false fun _ => 4), .request .up,
    .heard accessPoint true, .start .procedure, .run .procedure, .frame (fromAp 0xB0),
    .frame (fromAp 0x10)]

theorem joins_only_selected_selecting :
    (exec (watch station) (.fresh reset) (selecting.map (quiet, ·))).device.state = .linked ∧
      Meets (watch station) (Respects station) (.fresh reset) (selecting.map (quiet, ·)) :=
  ⟨by decide +kernel, joins_only_selected station reset (by decide) _ (by decide +kernel)⟩

def rival : Network := { accessPoint with bssid := fun _ => 5 }

def leaving : List (Env × Event) := (selecting ++ [Event.frame (fromAp 0xC0)]).map (quiet, ·)

def strayRun : List (Env × Event) := leaving ++ [(quiet, .heard rival true)]

theorem not_always_selected : ¬ ∀ cfg d, d.iwMode ≠ .master → ∀ es,
    Meets (watch cfg) (Respects cfg) (.fresh d) es := by
  intro h
  have hrun := h station reset (by decide) strayRun
  unfold strayRun at hrun
  rw [meets_append] at hrun
  obtain ⟨-, hheard, -⟩ := hrun
  generalize hs : exec (watch station) (.fresh reset) leaving = s at hheard
  have hlook : look station s.device (quiet, .heard rival true) =
      some ⟨updateCurrent quiet s.device rival, [rival]⟩ := rfl
  have hchoice : Look.choice station ⟨updateCurrent quiet s.device rival, [rival]⟩ = some rival := by
    subst hs
    unfold Look.choice
    rw [if_pos (by decide +kernel)]
    exact List.find?_cons_of_pos (by decide +kernel)
  have hwish : s.wish.ap = some fun _ => 4 := by
    subst hs
    decide +kernel
  have hbssid := (hheard.chosen _ rival hlook hchoice).bssid _ hwish
  exact absurd hbssid (by decide)

end Rtl8190.Association
