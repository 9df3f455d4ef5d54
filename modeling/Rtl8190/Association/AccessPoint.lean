import Rtl8190.Association.Soundness
import Rtl8190.Mgmt.BuildSafety
import Rtl8190.Mgmt.ParseSafety

/-!
# An access point and its stations

The driver in master mode answers authentication and association requests. Its stations run the
association machine. Frames are bytes; they may be lost, repeated and delayed, and the access point
may hear anything. Only its own association responses are not forged. Then the association ids that
the stations hold are those that the access point gave them.
-/

open Rtl8190.Memory Rtl8190.Beacon Rtl8190.Run

namespace Rtl8190.Association.AccessPoint

/-! ## The access point -/

structure Master extends Mgmt.Device where
  protoStarted : Bool
  /-- `softmac_features & IEEE_SOFTMAC_ASSOCIATE` -/
  softmacAssociate : Bool

/-- What a step of the access point finds: the memory of a new skb, if there is one. -/
abbrev Memory := Option (Nat → Byte)

def frameOf (skb : Mgmt.Skb) : Frame := ⟨skb.data, skb.len⟩

def softmacMgmtXmit (ap : Master) (skb : Mgmt.Skb) : Master × List Frame :=
  ({ ap with seqCtrl := if ap.seqCtrl = 0xfff then 0 else ap.seqCtrl + 1 },
    [frameOf (Mgmt.softmacMgmtXmit ap.toDevice skb)])

def rtllibRespToAuth (ap : Master) (s : Nat) (dest : Addr) : Memory → Master × List Frame
  | some mem => softmacMgmtXmit ap (Mgmt.rtllibAuthResp ap.toDevice (BitVec.ofNat 16 s) dest mem)
  | none => (ap, [])

def rtllibRespToAssocRq (ap : Master) (dest : Addr) : Memory → Master × List Frame
  | some mem =>
    -- `rtllib_assoc_resp` moves `assoc_id` on; the frame has what it was before.
    let (ap', frames) := softmacMgmtXmit ap (Mgmt.rtllibAssocResp ap.toDevice dest mem).1
    ({ ap' with assocId := (Mgmt.rtllibAssocResp ap.toDevice dest mem).2.assocId }, frames)
  | none => (ap, [])

def rtllibRxAuthRq (ap : Master) (f : Frame) (mem : Memory) : Master × List Frame :=
  match (Mgmt.authRqParse f.mem f.len).val with
  | some (dest, status) => rtllibRespToAuth ap status dest mem
  | none => (ap, [])

def rtllibRxAssocRq (ap : Master) (f : Frame) (mem : Memory) : Master × List Frame :=
  match (Mgmt.assocRqParse f.mem f.len).val with
  | some dest => rtllibRespToAssocRq ap dest mem
  | none => (ap, [])

def rtllibRxFrameSoftmac (ap : Master) (f : Frame) (mem : Memory) : Master × List Frame :=
  if ap.protoStarted ∧ ap.softmacAssociate ∧ ap.iwMode = .master then
    if f.mem 0 &&& 0xf0 = 0x00 ∨ f.mem 0 &&& 0xf0 = 0x20 then rtllibRxAssocRq ap f mem
    else if f.mem 0 &&& 0xf0 = 0xB0 then rtllibRxAuthRq ap f mem
    else (ap, [])
  else (ap, [])

/-- `rtllib_rx_frame_mgmt`, without what `rtllib_rx_mgt` does -/
def rtllibRxFrameMgmt (ap : Master) (f : Frame) (mem : Memory) : Master × List Frame :=
  if f.addr1 = ap.devAddr then rtllibRxFrameSoftmac ap f mem else (ap, [])

def rtllibStartMasterBss (ap : Master) : Master :=
  { ap with
    assocId := 1
    currentNetwork := { ap.currentNetwork with
      bssid := ap.devAddr
      ssid := if ap.currentNetwork.ssidLen = 0 then
        strncpy ap.currentNetwork.ssid (fun i => defaultTxEssid.getD i 0) 32
        else ap.currentNetwork.ssid
      ssidLen := if ap.currentNetwork.ssidLen = 0 then defaultTxEssid.length
        else ap.currentNetwork.ssidLen } }

/-! ## The cell -/

/-- `air` is what the access point has sent so far. -/
structure Cell (ι : Type) where
  ap : Master
  air : List Frame
  stations : ι → Device

inductive Event (ι : Type) where
  | station (i : ι) (env : Env) (e : Association.Event)
  | master (f : Frame) (mem : Memory)

section

variable {ι : Type} [DecidableEq ι]

def step (cfg : ι → Config) (s : Cell ι) : Event ι → Cell ι
  | .station i env e =>
    { s with stations := Function.update s.stations i (Association.step (cfg i) (s.stations i) (env, e)) }
  | .master f mem =>
    let (ap, frames) := rtllibRxFrameMgmt s.ap f mem
    { s with ap := ap, air := s.air ++ frames }

/-- A frame as it was sent. What lies behind it in memory may be anything. -/
def SameFrame (f g : Frame) : Prop := f.len = g.len ∧ ∀ k < g.len, f.mem k = g.mem k

/-- The station does not hear an association response that pretends to be of the access point. -/
def Genuine (s : Cell ι) : Event ι → Prop
  | .station _ _ (.frame f) =>
    f.stype = .assocResp → f.addr2 = s.ap.devAddr → ∃ g ∈ s.air, SameFrame f g
  | _ => True

/-- All stations before they do anything, and the access point at its start -/
def start (ap : Master) (stations : ι → Device) : Cell ι := ⟨rtllibStartMasterBss ap, [], stations⟩

end

/-- The association responses that were sent: to whom, and with which id -/
def grants (air : List Frame) : List (Addr × BitVec 16) :=
  (air.filter fun f => f.stype = .assocResp).map fun f => (f.addr1, f.le16 28)

/-- Who sent the last association response that the station has accepted -/
def lastAccepted : List Traffic → Option Addr
  | [] => none
  | .accepted transmitter :: _ => some transmitter
  | .authReq .. :: earlier => lastAccepted earlier
  | .assocReq _ :: earlier => lastAccepted earlier
  | .deauth _ :: earlier => lastAccepted earlier
  | .left _ :: earlier => lastAccepted earlier

/-! ## What a station does to its id -/

/-- A station that is no access point keeps its id, and has accepted nothing. -/
def Keeps (d d' : Device) : Prop :=
  d.iwMode ≠ .master →
    d'.iwMode ≠ .master ∧ d'.assocId = d.assocId ∧ lastAccepted d'.traffic = lastAccepted d.traffic

theorem Keeps.refl (d : Device) : Keeps d d := fun h => ⟨h, rfl, rfl⟩

theorem Keeps.trans {d d' d'' : Device} (h : Keeps d d') (h' : Keeps d' d'') : Keeps d d'' := by
  intro hmode
  obtain ⟨h1, h2, h3⟩ := h hmode
  obtain ⟨h4, h5, h6⟩ := h' h1
  exact ⟨h4, h5.trans h2, h6.trans h3⟩

theorem Keeps.of_eq {d d' : Device} (hmode : d'.iwMode = d.iwMode) (hid : d'.assocId = d.assocId)
    (htraffic : d'.traffic = d.traffic) : Keeps d d' := fun h => ⟨hmode ▸ h, hid, by rw [htraffic]⟩

theorem Keeps.of_same {d d' d'' : Device} (h : Keeps d' d'') (hmode : d'.iwMode = d.iwMode)
    (hid : d'.assocId = d.assocId) (htraffic : d'.traffic = d.traffic) : Keeps d d'' :=
  Keeps.trans (.of_eq hmode hid htraffic) h

section

variable (cfg : Config) (env : Env) (d : Device)

theorem keeps_abort : Keeps d (rtllibAssociateAbort d) := .of_eq rfl rfl rfl

theorem keeps_step1 : Keeps d (rtllibAssociateStep1 env d) := by
  unfold rtllibAssociateStep1
  split
  · exact fun h => ⟨h, rfl, rfl⟩
  · exact keeps_abort d

theorem keeps_challenge (challenge : List Byte) : Keeps d (rtllibAuthChallenge env d challenge) := by
  unfold rtllibAuthChallenge
  split
  · exact fun h => ⟨h, rfl, rfl⟩
  · exact keeps_abort d

theorem keeps_step2 : Keeps d (rtllibAssociateStep2 env d) := by
  unfold rtllibAssociateStep2
  dsimp only
  split
  · exact fun h => ⟨h, rfl, rfl⟩
  · exact fun h => ⟨h, rfl, rfl⟩

theorem keeps_newNet (net : Network) : Keeps d (rtllibSoftmacNewNet cfg d net) := by
  unfold rtllibSoftmacNewNet
  dsimp only
  split_ifs <;> exact .of_eq rfl rfl rfl

theorem keeps_checkNets (nets : List Network) : Keeps d (checkNets cfg env nets d) := by
  induction nets generalizing d with
  | nil => exact .refl d
  | cons target rest ih =>
    unfold checkNets
    split
    · exact .refl d
    · split
      · exact (keeps_newNet cfg d target).trans (ih _)
      · exact ih d

theorem keeps_updateCurrent (network : Network) : Keeps d (updateCurrent env d network) := by
  unfold updateCurrent
  split
  · exact .of_eq rfl rfl rfl
  · exact .refl d

theorem keeps_heard (network : Network) (new : Bool) :
    Keeps d (processProbeResponse cfg env d network new) := by
  unfold processProbeResponse
  split
  · exact (keeps_updateCurrent env d network).trans (keeps_newNet cfg _ network)
  · exact keeps_updateCurrent env d network

theorem keeps_rxAuth (f : Frame) : Keeps d (rxAuth cfg env d f) := by
  have hstep2 : Keeps d (rtllibAssociateStep2 env { d with state := .associatingAuthenticated }) :=
    (keeps_step2 env _).of_same rfl rfl rfl
  unfold rxAuth
  split
  · exact hstep2
  · split
    · exact hstep2
    · exact keeps_challenge env d _
  · exact keeps_abort d

theorem keeps_rxLeave (f : Frame) : Keeps d (rxLeave d f) := by
  unfold rxLeave
  split
  · exact .of_eq rfl rfl rfl
  · exact .refl d

/-! ### Start and stop -/

theorem keeps_startProtocol : Keeps d (rtllibStartProtocol cfg env d) := by
  unfold rtllibStartProtocol
  dsimp only
  split
  · exact .refl d
  · split
    · exact .of_eq rfl rfl rfl
    · intro hmode
      split
      · unfold rtllibStartBss
        split
        · exact ⟨hmode, rfl, rfl⟩
        · exact (keeps_checkNets cfg env _ env.networkList).of_same rfl rfl rfl hmode
      · exact ⟨hmode, rfl, rfl⟩
      · rename_i hmaster
        exact absurd hmaster hmode
      · exact ⟨hmode, rfl, rfl⟩

theorem keeps_stopProtocol (shutdown : Bool) : Keeps d (rtllibStopProtocol d shutdown) := by
  unfold rtllibStopProtocol
  dsimp only
  split
  · split <;> split <;> exact fun h => ⟨h, rfl, rfl⟩
  · exact .refl d

theorem keeps_defaultSsid (n : Nat) : Keeps d (defaultSsid d n) := by
  unfold defaultSsid
  split
  · exact .of_eq rfl rfl rfl
  · exact .refl d

/-! ### Work items and requests -/

theorem keeps_run (item : Item) : Keeps d (runItem cfg env d item) := by
  cases item with
  | procedure =>
    simp only [runItem]
    split
    · unfold rtllibAssociateProcedureWq
      split
      · exact .of_eq rfl rfl rfl
      · exact (keeps_step1 env _).of_same rfl rfl rfl
    · exact .refl d
  | retry =>
    simp only [runItem]
    split
    · unfold rtllibAssociateRetryWq
      split
      · exact (keeps_checkNets cfg env _ env.networkList).of_same rfl rfl rfl
      · exact .of_eq rfl rfl rfl
    · exact .refl d
  | ibss =>
    simp only [runItem]
    split
    · have hssid : Keeps d (defaultSsid
          { d with startIbssWq := { d.startIbssWq with waiting := false } } 8) :=
        (keeps_defaultSsid _ 8).of_same rfl rfl rfl
      exact (hssid.trans (keeps_checkNets cfg env _ env.networkList)).trans (.of_eq rfl rfl rfl)
    · exact .refl d

theorem keeps_setWap (ifup : Bool) (addr : Addr) : Keeps d (rtllibWxSetWap cfg env d ifup addr) := by
  have hstop : Keeps d (if ifup then rtllibStopProtocol d true else d) := by
    split
    · exact keeps_stopProtocol d true
    · exact .refl d
  unfold rtllibWxSetWap
  dsimp only
  split
  · exact .refl d
  · refine hstop.trans ?_
    split
    · exact (keeps_startProtocol cfg env _).of_same rfl rfl rfl
    · exact .of_eq rfl rfl rfl

theorem keeps_setEssid (flags : Bool) (essid : List Byte) :
    Keeps d (rtllibWxSetEssid cfg env d flags essid) := by
  have hstop : Keeps d (if d.protoStarted then rtllibStopProtocol d true else d) := by
    split
    · exact keeps_stopProtocol d true
    · exact .refl d
  unfold rtllibWxSetEssid
  dsimp only
  split
  · exact .refl d
  · refine hstop.trans ?_
    generalize (if d.protoStarted then rtllibStopProtocol d true else d) = d'
    split <;> split
    · exact (keeps_startProtocol cfg env _).of_same rfl rfl rfl
    · exact (keeps_startProtocol cfg env _).of_same rfl rfl rfl
    · exact .of_eq rfl rfl rfl
    · exact .of_eq rfl rfl rfl

theorem keeps_setMode (mode : IwMode) : Keeps d (rtllibWxSetMode cfg env d mode) := by
  unfold rtllibWxSetMode
  split
  · exact .refl d
  · rename_i hmode
    have hset (d' : Device) : Keeps d' { d' with iwMode := mode } :=
      fun _ => ⟨fun h => hmode (.inl h), rfl, rfl⟩
    split
    · exact ((keeps_stopProtocol d true).trans (hset _)).trans (keeps_startProtocol cfg env _)
    · exact hset d

theorem keeps_request (r : Request) : Keeps d (request cfg env d r) := by
  cases r with
  | setWap ifup addr => exact keeps_setWap cfg env d ifup addr
  | setEssid flags essid => exact keeps_setEssid cfg env d flags essid
  | setMode mode => exact keeps_setMode cfg env d mode
  | setScan =>
    simp only [request, rtllibWxSetScan]
    split
    · exact .of_eq rfl rfl rfl
    · exact .refl d
  | setMlme linked known =>
    simp only [request, rtllibWxSetMlme]
    split
    · exact fun hmode => ⟨hmode, rfl, rfl⟩
    · exact .refl d
  | wpaMlme disassoc =>
    simp only [request, rtllibWpaMlme]
    split
    · exact .of_eq rfl rfl rfl
    · exact .refl d
  | up =>
    simp only [request, Association.up]
    split
    · exact keeps_startProtocol cfg env d
    · exact .refl d
  | down => exact (keeps_stopProtocol d true).trans (.of_eq rfl rfl rfl)

/-! ### Received frames -/

/-- A station accepts an association response that is for it: its id comes from there. -/
def Accepts (cfg : Config) (d' : Device) (f : Frame) : Prop :=
  f.stype = .assocResp ∧ f.addr1 = cfg.devAddr ∧ 30 ≤ f.len ∧ d'.assocId = f.le16 28 &&& 0x3fff ∧
    lastAccepted d'.traffic = some f.addr2

theorem rxAssocResp_cases (f : Frame) :
    Keeps d (rxAssocResp env d f) ∨
      30 ≤ f.len ∧ (rxAssocResp env d f).assocId = f.le16 28 &&& 0x3fff ∧
        lastAccepted (rxAssocResp env d f).traffic = some f.addr2 ∧
          (rxAssocResp env d f).iwMode = d.iwMode := by
  unfold rxAssocResp
  dsimp only
  split
  · rename_i hstatus
    split
    · right
      have hlen : 30 ≤ f.len := by
        by_contra hshort
        simp [assocParse, Nat.lt_of_not_le hshort] at hstatus
      refine ⟨hlen, ?_, rfl, rfl⟩
      simp [rtllibAssociateComplete, Device.note, assocParse, Nat.not_lt.mpr hlen]
    · exact .inl (.of_eq rfl rfl rfl)
  · left
    split
    · exact .of_eq rfl rfl rfl
    · exact .of_eq rfl rfl rfl

theorem frame_cases (f : Frame) :
    Keeps d (Association.rtllibRxFrameMgmt cfg env d f) ∨
      Accepts cfg (Association.rtllibRxFrameMgmt cfg env d f) f ∧
        (Association.rtllibRxFrameMgmt cfg env d f).iwMode = d.iwMode := by
  have hnote : Keeps d (if f.stype = .leave ∧ f.isForUs cfg then d.note (.left f.addr2) else d) := by
    split
    · exact fun h => ⟨h, rfl, rfl⟩
    · exact .refl d
  have hmode : (if f.stype = .leave ∧ f.isForUs cfg then d.note (.left f.addr2) else d).iwMode =
      d.iwMode := by
    split <;> rfl
  unfold Association.rtllibRxFrameMgmt
  dsimp only
  generalize (if f.stype = .leave ∧ f.isForUs cfg then d.note (.left f.addr2) else d) = d' at *
  split
  · rename_i haddr
    unfold Association.rtllibRxFrameSoftmac
    split
    · split
      · rename_i hstype
        split
        · rcases rxAssocResp_cases env d' f with h | ⟨hlen, hid, hlast, hmode'⟩
          · exact .inl (hnote.trans h)
          · exact .inr ⟨⟨hstype, haddr, hlen, hid, hlast⟩, hmode'.trans hmode⟩
        · exact .inl hnote
      · split
        · exact .inl (hnote.trans (keeps_rxAuth cfg env d' f))
        · exact .inl hnote
      · exact .inl (hnote.trans (keeps_rxLeave d' f))
      · exact .inl hnote
    · exact .inl hnote
  · exact .inl hnote

theorem step_cases (e : Association.Event) :
    Keeps d (Association.step cfg d (env, e)) ∨
      ∃ f, e = .frame f ∧ Accepts cfg (Association.step cfg d (env, e)) f ∧
        (Association.step cfg d (env, e)).iwMode = d.iwMode := by
  -- Whatever a station does, it keeps its id or takes over that of a response.
  cases e with
  | frame f =>
    rcases frame_cases cfg env d f with h | h
    · exact .inl h
    · exact .inr ⟨f, rfl, h⟩
  | heard network new => exact .inl (keeps_heard cfg env d network new)
  | associateTimer =>
    left
    show Keeps d (if d.associateTimer then _ else d)
    split
    · exact (keeps_abort _).of_same rfl rfl rfl
    · exact .refl d
  | start item => cases item <;> exact .inl (.of_eq rfl rfl rfl)
  | run item =>
    left
    show Keeps d (if d.wxSem = .free then runItem cfg env d item else d)
    split
    · exact keeps_run cfg env d item
    · exact .refl d
  | ibssScanDone =>
    left
    show Keeps d (if d.wxSem = .ibssScan then Association.ibssScanDone cfg env d else d)
    split
    · unfold Association.ibssScanDone
      dsimp only
      split
      · exact .of_eq rfl rfl rfl
      · exact .of_eq rfl rfl rfl
    · exact .refl d
  | syncScan =>
    left
    show Keeps d (if d.wxSem = .scanQueued then _ else d)
    split
    · exact .of_eq rfl rfl rfl
    · exact .refl d
  | syncScanDone =>
    left
    show Keeps d (if d.wxSem = .scanning then _ else d)
    split
    · exact .of_eq rfl rfl rfl
    · exact .refl d
  | associateComplete => exact .inl (.of_eq rfl rfl rfl)
  | roam =>
    left
    show Keeps d (if d.state = .linked ∧ d.iwMode = .infra then _ else d)
    split
    · exact .of_eq rfl rfl rfl
    · exact .refl d
  | scanEssid essidLen essid =>
    left
    show Keeps d (copyEssid d essidLen essid)
    unfold copyEssid
    split
    · exact .of_eq rfl rfl rfl
    · exact .refl d
  | request r =>
    left
    show Keeps d (if d.wxSem = .free then Association.request cfg env d r else d)
    split
    · exact keeps_request cfg env d r
    · exact .refl d

end

/-! ## What the access point does -/

section

variable (ap : Master) (dest : Addr) (mem : Nat → Byte)

theorem frameOf_mem {skb : Mgmt.Skb} {bs : List Byte} (h : skb.bytes = bs) {k : Nat} {b : Byte}
    (hk : bs[k]? = some b) : (frameOf skb).mem k = b := by
  subst h
  obtain ⟨hlt, rfl⟩ := List.getElem?_eq_some_iff.mp hk
  exact (Packets.Packet.getElem_bytes skb hlt).symm

theorem assocResp_frame :
    let f := frameOf (Mgmt.softmacMgmtXmit ap.toDevice (Mgmt.rtllibAssocResp ap.toDevice dest mem).1)
    f.stype = .assocResp ∧ f.addr1 = dest ∧ f.le16 28 = ap.assocId ∧ 30 ≤ f.len := by
  intro f
  have hbytes := Mgmt.sent_bytes ap.toDevice mem (.assocResp dest)
  refine ⟨?_, ?_, ?_, ?_⟩
  · have h0 : f.mem 0 = 0x10 := frameOf_mem hbytes rfl
    simp only [Frame.stype, h0]
    rfl
  · funext i
    fin_cases i <;> exact frameOf_mem hbytes rfl
  · have h28 : f.mem 28 = ap.assocId.setWidth 8 := frameOf_mem hbytes rfl
    have h29 : f.mem 29 = (ap.assocId >>> 8).setWidth 8 := frameOf_mem hbytes rfl
    rw [Frame.le16, h28, h29]
    exact hi_append_lo _
  · exact Nat.le_add_right 30 _

theorem authResp_frame (s : BitVec 16) :
    (frameOf (Mgmt.softmacMgmtXmit ap.toDevice
      (Mgmt.rtllibAuthResp ap.toDevice s dest mem))).stype = .auth := by
  have h0 : (frameOf (Mgmt.softmacMgmtXmit ap.toDevice
      (Mgmt.rtllibAuthResp ap.toDevice s dest mem))).mem 0 = 0xb0 := rfl
  simp only [Frame.stype, h0]
  rfl

end

/-- An association or reassociation request for the access point at `a` -/
def IsRequest (a : Addr) (f : Frame) : Prop :=
  f.addr1 = a ∧ (f.mem 0 &&& 0xf0 = 0x00 ∨ f.mem 0 &&& 0xf0 = 0x20)

structure Answers (ap ap' : Master) (f g : Frame) : Prop where
  request : IsRequest ap.devAddr f
  stype : g.stype = .assocResp
  addr1 : g.addr1 = f.addr2
  aid : g.le16 28 = ap.assocId
  len : 30 ≤ g.len
  next : ap'.assocId = if ap.assocId = 0x2007 then 0 else ap.assocId + 1

theorem assocRqParse_val (f : Frame) : (Mgmt.assocRqParse f.mem f.len).val =
    if f.len < 26 then none else some f.addr2 := by
  unfold Mgmt.assocRqParse
  split
  · rfl
  · rw [bind_val, Mgmt.readAddr_val]
    rfl

/-- The access point gives an id away in one response, and keeps its counter otherwise. -/
theorem rxFrame_cases (ap : Master) (f : Frame) (mem : Memory) :
    let r := rtllibRxFrameMgmt ap f mem
    r.1.devAddr = ap.devAddr ∧
      (r.1.assocId = ap.assocId ∧ (∀ g ∈ r.2, g.stype ≠ .assocResp) ∨
        ∃ g, r.2 = [g] ∧ Answers ap r.1 f g) := by
  have hquiet : (ap, ([] : List Frame)).1.devAddr = ap.devAddr ∧
      ((ap, ([] : List Frame)).1.assocId = ap.assocId ∧
          (∀ g ∈ (ap, ([] : List Frame)).2, g.stype ≠ .assocResp) ∨
        ∃ g, (ap, ([] : List Frame)).2 = [g] ∧ Answers ap (ap, ([] : List Frame)).1 f g) :=
    ⟨rfl, .inl ⟨rfl, fun g hg => absurd hg List.not_mem_nil⟩⟩
  unfold rtllibRxFrameMgmt rtllibRxFrameSoftmac
  split_ifs with haddr hmaster hrq hauth
  · unfold rtllibRxAssocRq
    rw [assocRqParse_val]
    split_ifs with hshort
    · exact hquiet
    · cases mem with
      | none => exact hquiet
      | some mem =>
        obtain ⟨hstype, haddr1, haid, hlen⟩ := assocResp_frame ap f.addr2 mem
        exact ⟨rfl, .inr ⟨_, rfl, ⟨haddr, hrq⟩, hstype, haddr1, haid, hlen, rfl⟩⟩
  · unfold rtllibRxAuthRq
    split
    · cases mem with
      | none => exact hquiet
      | some mem =>
        refine ⟨rfl, .inl ⟨rfl, fun g hg => ?_⟩⟩
        rw [List.mem_singleton.mp hg, authResp_frame]
        decide
    · exact hquiet
  · exact hquiet
  · exact hquiet
  · exact hquiet

/-! ## The invariant -/

section

variable {ι : Type} [DecidableEq ι] {cfg : ι → Config} {a : Addr} {s : Cell ι}

/-- The id of response `m`, counted from 0 -/
def aidOf (m : Nat) : Nat := (1 + m) % 0x2008

structure Inv (cfg : ι → Config) (a : Addr) (es : List (Event ι)) (s : Cell ι) : Prop where
  devAddr : s.ap.devAddr = a
  counter : s.ap.assocId.toNat = aidOf (grants s.air).length
  ids : (grants s.air).map (·.2.toNat) = (List.range (grants s.air).length).map aidOf
  len : ∀ g ∈ s.air, g.stype = .assocResp → 30 ≤ g.len
  asked : ∀ g ∈ grants s.air, ∃ f mem, Event.master f mem ∈ es ∧ IsRequest a f ∧ f.addr2 = g.1
  mode : ∀ i, (s.stations i).iwMode ≠ .master
  granted : ∀ i, lastAccepted (s.stations i).traffic = some a →
    ((cfg i).devAddr, (s.stations i).assocId) ∈ grants s.air

omit [DecidableEq ι] in
theorem Inv.aid_lt {es : List (Event ι)} (h : Inv cfg a es s) {g : Addr × BitVec 16}
    (hg : g ∈ grants s.air) : g.2.toNat < 0x2008 := by
  have hmem : g.2.toNat ∈ (grants s.air).map (·.2.toNat) := List.mem_map_of_mem hg
  rw [h.ids] at hmem
  obtain ⟨m, -, hm⟩ := List.mem_map.mp hmem
  rw [← hm]
  exact Nat.mod_lt _ (by omega)

theorem and_3fff {x : BitVec 16} (h : x.toNat < 0x2008) : x &&& 0x3fff = x := by
  apply BitVec.eq_of_toNat_eq
  have hmask : (0x3fff : BitVec 16).toNat = 2 ^ 14 - 1 := rfl
  rw [BitVec.toNat_and, hmask, Nat.and_two_pow_sub_one_eq_mod]
  exact Nat.mod_eq_of_lt (by omega)

omit [DecidableEq ι] in
theorem Inv.accept {es : List (Event ι)} (h : Inv cfg a es s) {i : ι} {f g : Frame} {d : Device}
    (hg : g ∈ s.air) (hsame : SameFrame f g) (hf : Accepts (cfg i) d f) :
    ((cfg i).devAddr, d.assocId) ∈ grants s.air := by
  -- A response that arrives as it was sent gives the id that was sent.
  obtain ⟨hstype, haddr1, hlen, hid, -⟩ := hf
  obtain ⟨hl, hmem⟩ := hsame
  have h0 : f.mem 0 = g.mem 0 := hmem 0 (by omega)
  have hgtype : g.stype = .assocResp := by
    rw [← hstype, Frame.stype, Frame.stype, h0]
  have hgaddr : g.addr1 = (cfg i).devAddr := by
    rw [← haddr1]
    funext k
    exact (hmem (4 + k) (by omega)).symm
  have haid : f.le16 28 = g.le16 28 := by
    rw [Frame.le16, Frame.le16, hmem 28 (by omega), hmem 29 (by omega)]
  have hgrant : (g.addr1, g.le16 28) ∈ grants s.air :=
    List.mem_map.mpr ⟨g, List.mem_filter.mpr ⟨hg, by simpa using hgtype⟩, rfl⟩
  rw [hid, haid, and_3fff (h.aid_lt hgrant), ← hgaddr]
  exact hgrant

theorem Inv.station {es : List (Event ι)} (h : Inv cfg a es s) (i : ι) (env : Env)
    (e : Association.Event) (he : Genuine s (.station i env e)) :
    Inv cfg a (es ++ [.station i env e]) (step cfg s (.station i env e)) := by
  have hself : Function.update s.stations i (Association.step (cfg i) (s.stations i) (env, e)) i =
      Association.step (cfg i) (s.stations i) (env, e) := Function.update_self ..
  have hcases := step_cases (cfg i) env (s.stations i) e
  refine ⟨h.devAddr, h.counter, h.ids, h.len, fun g hg => ?_, fun j => ?_, fun j => ?_⟩
  · obtain ⟨f, mem, hf, hrest⟩ := h.asked g hg
    exact ⟨f, mem, List.mem_append_left _ hf, hrest⟩
  · by_cases hj : j = i
    · subst hj
      simp only [step, hself]
      rcases hcases with hkeep | ⟨f, rfl, -, hmode⟩
      · exact (hkeep (h.mode j)).1
      · rw [hmode]
        exact h.mode j
    · simp only [step, Function.update_of_ne hj]
      exact h.mode j
  · by_cases hj : j = i
    · subst hj
      simp only [step, hself]
      rcases hcases with hkeep | ⟨f, rfl, hacc, -⟩
      · obtain ⟨-, hid, hlast⟩ := hkeep (h.mode j)
        rw [hid, hlast]
        exact h.granted j
      · intro hlast
        have hfrom : f.addr2 = a := Option.some_injective _ (hacc.2.2.2.2.symm.trans hlast)
        obtain ⟨g, hg, hsame⟩ := he hacc.1 (hfrom.trans h.devAddr.symm)
        exact h.accept hg hsame hacc
    · simp only [step, Function.update_of_ne hj]
      exact h.granted j

theorem grants_append (air frames : List Frame) :
    grants (air ++ frames) = grants air ++ grants frames := by
  simp [grants]

theorem Inv.master {es : List (Event ι)} (h : Inv cfg a es s) (f : Frame) (mem : Memory) :
    Inv cfg a (es ++ [.master f mem]) (step cfg s (.master f mem)) := by
  obtain ⟨haddr, hcases⟩ := rxFrame_cases s.ap f mem
  have hasked : ∀ g ∈ grants s.air, ∃ f' mem', Event.master f' mem' ∈ es ++ [.master f mem] ∧
      IsRequest a f' ∧ f'.addr2 = g.1 := by
    intro g hg
    obtain ⟨f', mem', hf, hrest⟩ := h.asked g hg
    exact ⟨f', mem', List.mem_append_left _ hf, hrest⟩
  have hair : (step cfg s (.master f mem)).air = s.air ++ (rtllibRxFrameMgmt s.ap f mem).2 := rfl
  rcases hcases with ⟨hid, hother⟩ | ⟨g, hframes, hans⟩
  · have hgrants : grants (s.air ++ (rtllibRxFrameMgmt s.ap f mem).2) = grants s.air := by
      have hnone : (rtllibRxFrameMgmt s.ap f mem).2.filter (fun f => f.stype = .assocResp) = [] :=
        List.filter_eq_nil_iff.mpr fun g hg => by simpa using hother g hg
      rw [grants_append]
      simp only [grants, hnone, List.map_nil, List.append_nil]
    refine ⟨haddr.trans h.devAddr, ?_, ?_, fun g hg htype => ?_, ?_, h.mode, ?_⟩
    · simp only [step, hgrants, hid]
      exact h.counter
    · simp only [step, hgrants]
      exact h.ids
    · rw [hair] at hg
      rcases List.mem_append.mp hg with hg | hg
      · exact h.len g hg htype
      · exact absurd htype (hother g hg)
    · simp only [step, hgrants]
      exact hasked
    · simp only [step, hgrants]
      exact h.granted
  · have hgrants : grants (s.air ++ (rtllibRxFrameMgmt s.ap f mem).2) =
        grants s.air ++ [(f.addr2, s.ap.assocId)] := by
      rw [grants_append, hframes]
      simp [grants, hans.stype, hans.addr1, hans.aid]
    have hcount := h.counter
    refine ⟨haddr.trans h.devAddr, ?_, ?_, fun g' hg htype => ?_, fun g' hg => ?_, h.mode,
      fun i hi => ?_⟩
    · simp only [step, hgrants, hans.next, List.length_append, List.length_singleton]
      simp only [aidOf] at hcount ⊢
      have hone : (1 : BitVec 16).toNat = 1 := rfl
      have hzero : (0 : BitVec 16).toNat = 0 := rfl
      have htop : (0x2007 : BitVec 16).toNat = 0x2007 := rfl
      split_ifs with hlast
      · rw [hlast, htop] at hcount
        rw [hzero]
        omega
      · have hne : s.ap.assocId.toNat ≠ 0x2007 := fun heq => hlast (BitVec.eq_of_toNat_eq heq)
        rw [BitVec.toNat_add, hone]
        omega
    · simp only [step, hgrants, List.map_append, List.length_append, List.length_singleton,
        List.range_succ, h.ids, List.map_cons, List.map_nil, hcount]
    · rw [hair, hframes] at hg
      rcases List.mem_append.mp hg with hg | hg
      · exact h.len g' hg htype
      · rw [List.mem_singleton.mp hg]
        exact hans.len
    · simp only [step, hgrants] at hg
      rcases List.mem_append.mp hg with hg | hg
      · exact hasked g' hg
      · rw [List.mem_singleton.mp hg]
        exact ⟨f, mem, by simp, h.devAddr ▸ hans.request, rfl⟩
    · simp only [step, hgrants]
      exact List.mem_append_left _ (h.granted i hi)

theorem inv_exec (ap : Master) (stations : ι → Device) (hmode : ∀ i, (stations i).iwMode ≠ .master)
    (hnew : ∀ i, lastAccepted (stations i).traffic = none) (es : List (Event ι))
    (hes : Meets (step cfg) Genuine (start ap stations) es) :
    Inv cfg ap.devAddr es (exec (step cfg) (start ap stations) es) := by
  induction es using List.reverseRecOn with
  | nil =>
    exact ⟨rfl, rfl, rfl, by simp [start], by simp [start, grants], hmode, fun i hi => by
      simp [start, hnew] at hi⟩
  | append_singleton es e ih =>
    obtain ⟨hbefore, he, -⟩ := (meets_append ..).mp hes
    rw [exec_append, exec_cons, exec_nil]
    cases e with
    | station i env e => exact (ih hbefore).station i env e he
    | master f mem => exact (ih hbefore).master f mem

/-! ## Main result -/

/-- In every run in which nobody forges the access point's responses, a station that has last been
accepted by the access point holds the id of one response that was sent to it, on its own request.
Up to `0x2008` responses, no two stations hold the same id. -/
theorem ids_agree (ap : Master) (stations : ι → Device) (hmode : ∀ i, (stations i).iwMode ≠ .master)
    (hnew : ∀ i, lastAccepted (stations i).traffic = none) (es : List (Event ι))
    (hes : Meets (step cfg) Genuine (start ap stations) es) :
    let s := exec (step cfg) (start ap stations) es
    (∀ i, lastAccepted (s.stations i).traffic = some ap.devAddr →
      ∃ m, (grants s.air)[m]? = some ((cfg i).devAddr, (s.stations i).assocId) ∧
        (s.stations i).assocId.toNat = (1 + m) % 0x2008 ∧
          ∃ f mem, Event.master f mem ∈ es ∧ IsRequest ap.devAddr f ∧ f.addr2 = (cfg i).devAddr) ∧
      ∀ i j, lastAccepted (s.stations i).traffic = some ap.devAddr →
        lastAccepted (s.stations j).traffic = some ap.devAddr →
          (cfg i).devAddr ≠ (cfg j).devAddr → (grants s.air).length ≤ 0x2008 →
            (s.stations i).assocId ≠ (s.stations j).assocId := by
  intro s
  have h : Inv cfg ap.devAddr es s := inv_exec ap stations hmode hnew es hes
  have hid : ∀ i, lastAccepted (s.stations i).traffic = some ap.devAddr →
      ∃ m, (grants s.air)[m]? = some ((cfg i).devAddr, (s.stations i).assocId) ∧
        (s.stations i).assocId.toNat = aidOf m ∧ m < (grants s.air).length := by
    intro i hi
    obtain ⟨m, hm⟩ := List.mem_iff_getElem?.mp (h.granted i hi)
    have hlt : m < (grants s.air).length := (List.getElem?_eq_some_iff.mp hm).1
    have hids := congrArg (·[m]?) h.ids
    simp only [List.getElem?_map, hm, List.getElem?_range hlt, Option.map_some] at hids
    exact ⟨m, hm, Option.some_injective _ hids, hlt⟩
  refine ⟨fun i hi => ?_, fun i j hi hj hne hfew heq => ?_⟩
  · obtain ⟨m, hm, hval, -⟩ := hid i hi
    exact ⟨m, hm, hval, h.asked _ (h.granted i hi)⟩
  · obtain ⟨m, hm, hval, hlt⟩ := hid i hi
    obtain ⟨k, hk, hval', hlt'⟩ := hid j hj
    have hmod : aidOf m = aidOf k := by rw [← hval, ← hval', heq]
    obtain rfl : m = k := by
      simp only [aidOf] at hmod
      omega
    rw [hm] at hk
    exact hne (congrArg Prod.fst (Option.some_injective _ hk))

end

/-! ## Two stations -/

def corner : Master :=
  { Mgmt.associating false with
    devAddr := fun _ => 4, iwMode := .master, protoStarted := true, softmacAssociate := true }

def stationCfg (i : Bool) : Config := { station with devAddr := fun _ => if i then 3 else 2 }

def cellFrame (frameCtl addr1 addr2 : Byte) (rest : List Byte) : Frame where
  mem := place ([frameCtl, 0, 0, 0] ++ List.replicate 6 addr1 ++ List.replicate 6 addr2 ++
    List.replicate 6 4 ++ rest) fun _ => 0xff
  len := 22 + rest.length

def join (i : Bool) (addr : Byte) : List (Event Bool) :=
  [Association.Event.request (.setEssid true [0x6e]), .request .up, .heard accessPoint true,
    .start .procedure, .run .procedure,
    .frame (cellFrame 0xB0 addr 4 [0, 0, 0, 0, 2, 0, 0, 0])].map (.station i quiet) ++
  [.master (cellFrame 0x00 4 addr [0, 0, 0x11, 4, 0, 0]) (some fun _ => 0)]

/-- The response number `n` of the access point, with the id `n + 1` -/
def response (addr n : Byte) : Frame :=
  cellFrame 0x10 addr 4 ([n <<< 4, 0, 0x11, 4, 0, 0, n + 1, 0] ++
    (Mgmt.Builder.assocResp default).elements corner.toDevice fun _ => 0)

/-- The second station has its response before the first one, which gets it twice. -/
def joinBoth : List (Event Bool) :=
  join false 2 ++ join true 3 ++ [.station true quiet (.frame (response 3 1)),
    .station false quiet (.frame (response 2 0)), .station false quiet (.frame (response 2 0))]

instance (f g : Frame) : Decidable (SameFrame f g) :=
  inferInstanceAs (Decidable (f.len = g.len ∧ ∀ k < g.len, f.mem k = g.mem k))

instance {ι : Type} (s : Cell ι) (e : Event ι) : Decidable (Genuine s e) := by
  unfold Genuine
  split <;> infer_instance

theorem joinBoth_genuine :
    Meets (step stationCfg) Genuine (start corner fun _ => reset) joinBoth := by
  decide +kernel

theorem ids_agree_both :
    let s := exec (step stationCfg) (start corner fun _ => reset) joinBoth
    lastAccepted (s.stations false).traffic = some corner.devAddr ∧
      (s.stations false).assocId ≠ (s.stations true).assocId :=
  have hfalse : lastAccepted ((exec (step stationCfg) (start corner fun _ => reset)
      joinBoth).stations false).traffic = some corner.devAddr := by decide +kernel
  have htrue : lastAccepted ((exec (step stationCfg) (start corner fun _ => reset)
      joinBoth).stations true).traffic = some corner.devAddr := by decide +kernel
  ⟨hfalse, (ids_agree corner (fun _ => reset) (by decide) (fun _ => rfl) joinBoth joinBoth_genuine).2
    false true hfalse htrue (by decide) (by decide +kernel)⟩

end Rtl8190.Association.AccessPoint
