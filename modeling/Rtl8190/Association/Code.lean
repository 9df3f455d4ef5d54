import Rtl8190.Beacon.Networks

/-!
# The association state machine

`rtllib_softmac.c` from `rtllib_associate_abort` to `rtllib_start_protocol`, with the requests of
`rtllib_softmac_wx.c`. A handler runs to its end, except where it sleeps: the two synchronous scans
and every wait for `wx_sem` are steps of their own. What goes over the air is noted. Rates, HT and
QoS settings, LEDs, statistics and the background scan do not bear on the state and are left out.
-/

open Rtl8190.Memory Rtl8190.Beacon

namespace Rtl8190.Association

/-! ## Data -/

structure Frame where
  mem : Nat → Byte
  len : Nat

def Frame.addr (f : Frame) (off : Nat) : Addr := fun i => f.mem (off + i)
def Frame.addr1 (f : Frame) : Addr := f.addr 4
def Frame.addr2 (f : Frame) : Addr := f.addr 10
def Frame.addr3 (f : Frame) : Addr := f.addr 16

def Frame.le16 (f : Frame) (off : Nat) : BitVec 16 := f.mem (off + 1) ++ f.mem off

/-- The subtypes that `rtllib_rx_frame_softmac` tells apart in a station. -/
inductive Subtype where
  | assocResp
  | auth
  | leave
  | other
  deriving DecidableEq, Repr

/-- `WLAN_FC_GET_STYPE(header->frame_ctl)` -/
def Frame.stype (f : Frame) : Subtype :=
  match (f.mem 0 &&& 0xf0).toNat with
  | 0x10 | 0x30 => .assocResp
  | 0xB0 => .auth
  | 0xA0 | 0xC0 => .leave
  | _ => .other

/-- What passes over the air. `bssid` is the address that a frame of this station goes to. -/
inductive Traffic where
  | authReq (bssid : Addr) (challenge : Option (List Byte))
  | assocReq (bssid : Addr)
  | deauth (bssid : Addr)
  /-- A response to an association request was accepted. -/
  | accepted (transmitter : Addr)
  /-- A deauthentication or disassociation for this station was received. -/
  | left (transmitter : Addr)

/-- A work item may be queued again while it waits for `wx_sem`. -/
structure Work where
  queued : Bool
  waiting : Bool
  deriving DecidableEq, Inhabited, Repr

/-- Who holds `wx_sem` between two steps. -/
inductive WxSem where
  | free
  /-- `rtllib_wx_set_scan` has left it to `wx_sync_scan_wq`, which is queued. -/
  | scanQueued
  | scanning
  /-- `start_ibss_wq` scans. -/
  | ibssScan
  deriving DecidableEq, Inhabited, Repr

structure Config where
  devAddr : Addr
  /-- `softmac_features & IEEE_SOFTMAC_ASSOCIATE` -/
  softmacAssociate : Bool
  ibssMaxjoinChal : Byte
  ibssStartChnl : Byte
  scanAge : Nat
  bGlobalDomain : Bool
  openWep : Bool
  cckModulation : Bool
  ofdmModulation : Bool

/-- What a step finds that other components keep, and the outcome of its allocations. -/
structure Env where
  jiffies : Nat
  networkList : List Network
  dot11d : Dot11dInfo
  mode : Byte
  /-- `eRFPowerState == eRfOff` -/
  rfOff : Bool
  /-- Whether there is an skb for a request. -/
  skb : Bool
  /-- Whether there is room for the `struct rtllib_network` of a response. -/
  network : Bool
  random : Addr

structure Device where
  state : RtllibState
  protoStarted : Bool
  iwMode : IwMode
  currentNetwork : Network
  wapSet : Bool
  ssidSet : Bool
  asocRetryCount : Byte
  assocId : BitVec 16
  /-- Whether `associate_timer` is pending. -/
  associateTimer : Bool
  associateProcedureWq : Work
  associateRetryWq : Work
  startIbssWq : Work
  associateCompleteWq : Bool
  wxSem : WxSem
  /-- Newest first. -/
  traffic : List Traffic

def Device.queueProcedure (d : Device) : Device :=
  { d with associateProcedureWq := { d.associateProcedureWq with queued := true } }

def Device.queueRetry (d : Device) : Device :=
  { d with associateRetryWq := { d.associateRetryWq with queued := true } }

def Device.note (d : Device) (t : Traffic) : Device := { d with traffic := t :: d.traffic }

/-! ## Requests to the access point -/

def rtllibAssociateAbort (d : Device) : Device :=
  { d with state := .associatingRetry }.queueRetry

def rtllibAssociateStep1 (env : Env) (d : Device) : Device :=
  if env.skb then
    { d with state := .associatingAuthenticating, associateTimer := true }.note
      (.authReq d.currentNetwork.bssid none)
  else rtllibAssociateAbort d

def rtllibAuthChallenge (env : Env) (d : Device) (challenge : List Byte) : Device :=
  if env.skb then
    { d with associateTimer := true }.note (.authReq d.currentNetwork.bssid (some challenge))
  else rtllibAssociateAbort d

def rtllibAssociateStep2 (env : Env) (d : Device) : Device :=
  let d := { d with associateTimer := false }
  if env.skb then
    { d with associateTimer := true }.note (.assocReq d.currentNetwork.bssid)
  else rtllibAssociateAbort d

def rtllibAssociateComplete (d : Device) : Device :=
  { d with associateTimer := false, state := .linked, associateCompleteWq := true }

/-! ## The choice of a network -/

def strncpy (dst src : Nat → Byte) (n : Nat) : Nat → Byte := fun i =>
  if i < n then if (List.range i).any fun j => src j = 0 then 0 else src i else dst i

def broadcasts (net : Network) : Bool := !(net.ssidLen = 0 ∨ net.ssid 0 = 0)

def ssidMatches (current net : Network) : Bool :=
  if broadcasts net then
    current.ssidLen = net.ssidLen ∧ strncmpEq current.ssid net.ssid net.ssidLen
  else
    current.ssidLen = net.hiddenSsidLen ∧ strncmpEq current.ssid net.hiddenSsid net.hiddenSsidLen

/-- `net` when a hidden SSID that is known has been put in its place. -/
def reveal (net : Network) : Network :=
  if broadcasts net = false ∧ net.hiddenSsidLen > 0 then
    { net with
      ssid := strncpy net.ssid net.hiddenSsid net.hiddenSsidLen, ssidLen := net.hiddenSsidLen }
  else net

/-- Whether the user's settings select the network. -/
def selects (d : Device) (net : Network) : Bool :=
  let ssidbroad := broadcasts net || decide (net.hiddenSsidLen > 0)
  let ssidmatch := ssidMatches d.currentNetwork net
  (d.wapSet && decide (d.currentNetwork.bssid = net.bssid) &&
      (d.ssidSet && ssidbroad && ssidmatch || ssidbroad && !d.ssidSet || !ssidbroad && d.ssidSet)) ||
    !d.wapSet && d.ssidSet && ssidbroad && ssidmatch

/-- The network that is joined: one whose SSID stays hidden gets the user's. -/
def joined (d : Device) (net : Network) : Network :=
  if broadcasts net || decide (net.hiddenSsidLen > 0) then reveal net
  else
    { net with
      ssid := strncpy net.ssid d.currentNetwork.ssid 32, ssidLen := d.currentNetwork.ssidLen }

def rtllibSoftmacNewNet (cfg : Config) (d : Device) (net : Network) : Device :=
  if d.state ≠ .nolink then d
  else if d.iwMode = .infra ∧ net.ess = false then d
  else if d.iwMode = .adhoc ∧ net.ibss = false then d
  else if d.iwMode = .adhoc ∧ net.channel > cfg.ibssMaxjoinChal then d
  else if (d.iwMode = .infra ∨ d.iwMode = .adhoc) ∧ selects d net then
    let d := { d with currentNetwork := joined d net }
    if d.iwMode = .infra then { d with asocRetryCount := 0, state := .associating }.queueProcedure
    else { d with state := .linked }
  else d

/-- `time_after(target->last_scanned + ieee->scan_age, jiffies)`, unless there is no limit. -/
def recent (cfg : Config) (env : Env) (target : Network) : Bool :=
  cfg.scanAge = 0 ∨
    (BitVec.ofNat 64 env.jiffies - BitVec.ofNat 64 (target.lastScanned + cfg.scanAge)).msb

def checkNets (cfg : Config) (env : Env) : List Network → Device → Device
  | [], d => d
  | target :: rest, d =>
    if d.state ≠ .nolink then d
    else checkNets cfg env rest (if recent cfg env target then rtllibSoftmacNewNet cfg d target else d)

def rtllibSoftmacCheckAllNets (cfg : Config) (env : Env) (d : Device) : Device :=
  checkNets cfg env env.networkList d

def updateCurrent (env : Env) (d : Device) (network : Network) : Device :=
  if isSameNetwork d.currentNetwork network (decide (network.ssidLen ≠ 0)) then
    { d with currentNetwork := updateNetwork d.currentNetwork network env.jiffies }
  else d

/-- `rtllib_process_probe_response` for a network that it does not filter out: the current network
is updated, and a new or an expired one is considered. -/
def processProbeResponse (cfg : Config) (env : Env) (d : Device) (network : Network) (new : Bool) :
    Device :=
  if new ∧ cfg.softmacAssociate then rtllibSoftmacNewNet cfg (updateCurrent env d network) network
  else updateCurrent env d network

/-! ## Received frames -/

/-- The error code, and the challenge text if there is one. -/
def authParse (f : Frame) : BitVec 16 × Option (List Byte) :=
  if f.len < 28 then (0xcafe, none)
  else (f.le16 28, if f.len > 33 ∧ f.mem 30 = 16 then
    some ((List.range (f.mem 31).toNat).map fun i => f.mem (32 + i)) else none)

def assocParse (env : Env) (d : Device) (f : Frame) : BitVec 16 × BitVec 16 × Byte :=
  if f.len < 30 then (0xcafe, d.assocId, d.asocRetryCount)
  else
    let status := f.le16 26
    let counts := (status = 18 ∨ status = 10) ∧ env.mode = ieeeG ∧
      d.currentNetwork.mode = ieeeN24g ∧ d.asocRetryCount < 4
    (status, f.le16 28 &&& 0x3fff, if counts then d.asocRetryCount + 1 else 0)

def rtllibDisassociate (d : Device) : Device := { d with state := .nolink, wapSet := false }

def rxAssocResp (env : Env) (d : Device) (f : Frame) : Device :=
  let r := assocParse env d f
  let d := { d with asocRetryCount := r.2.2 }
  if r.1 = 0 then
    -- `rtllib_parse_info_param` always returns 0, so that only the allocation fails.
    if env.network then
      rtllibAssociateComplete ({ d with state := .linked, assocId := r.2.1 }.note (.accepted f.addr2))
    else d
  else if d.asocRetryCount < 5 then d.queueProcedure
  else rtllibAssociateAbort d

def rxAuth (cfg : Config) (env : Env) (d : Device) (f : Frame) : Device :=
  match authParse f with
  | (0, none) => rtllibAssociateStep2 env { d with state := .associatingAuthenticated }
  | (0, some challenge) =>
    if cfg.openWep then rtllibAssociateStep2 env { d with state := .associatingAuthenticated }
    else rtllibAuthChallenge env d challenge
  | _ => rtllibAssociateAbort d

def rxLeave (d : Device) (f : Frame) : Device :=
  if f.addr3 = d.currentNetwork.bssid ∧ d.state = .linked ∧ d.iwMode = .infra then
    (rtllibDisassociate { d with state := .associating }).queueProcedure
  else d

/-- `rtllib_rx_frame_softmac`; the frames of a master and action frames leave the state alone. -/
def rtllibRxFrameSoftmac (cfg : Config) (env : Env) (d : Device) (f : Frame) : Device :=
  if d.protoStarted ∧ cfg.softmacAssociate then
    match f.stype with
    | .assocResp =>
      if d.state = .associatingAuthenticated ∧ d.iwMode = .infra then rxAssocResp env d f else d
    | .auth =>
      if d.state = .associatingAuthenticating ∧ d.iwMode = .infra then rxAuth cfg env d f else d
    | .leave => rxLeave d f
    | .other => d
  else d

/-- Whether the frame is for this station, or for a group. -/
def Frame.isForUs (cfg : Config) (f : Frame) : Bool := f.addr1 = cfg.devAddr ∨ f.addr1.isMulticast

/-- `rtllib_rx_frame_mgmt`, without what `rtllib_rx_mgt` does. -/
def rtllibRxFrameMgmt (cfg : Config) (env : Env) (d : Device) (f : Frame) : Device :=
  let d := if f.stype = .leave ∧ f.isForUs cfg then d.note (.left f.addr2) else d
  if f.addr1 = cfg.devAddr then rtllibRxFrameSoftmac cfg env d f else d

/-! ## Start and stop -/

def defaultTxEssid : List Byte := [0x50, 0x65, 0x6e, 0x67, 0x75, 0x69, 0x6e]

/-- The SSID of a cell that is created without one; `n` bytes are written. -/
def defaultSsid (d : Device) (n : Nat) : Device :=
  if d.currentNetwork.ssidLen = 0 then
    { d with
      currentNetwork := { d.currentNetwork with
        ssid := strncpy d.currentNetwork.ssid (fun i => defaultTxEssid.getD i 0) n
        ssidLen := defaultTxEssid.length }
      ssidSet := true }
  else d

def rtllibStartMasterBss (cfg : Config) (d : Device) : Device :=
  let d := defaultSsid { d with assocId := 1 } 32
  { d with currentNetwork := { d.currentNetwork with bssid := cfg.devAddr }, state := .linked }

def rtllibStartBss (cfg : Config) (env : Env) (d : Device) : Device :=
  if env.dot11d.bEnabled ∧ env.dot11d.countryIeLen = 0 ∧ cfg.bGlobalDomain = false then d
  else rtllibSoftmacCheckAllNets cfg env d

/-- The first channel that may be used, if the network has none. -/
def startChannel (env : Env) (d : Device) : Option Byte :=
  if d.currentNetwork.channel = 0 then
    ((List.range' 1 maxChannelNumber).find? fun c => env.dot11d.channelMap c ≠ 0).map (BitVec.ofNat 8)
  else some d.currentNetwork.channel

def rtllibStartProtocol (cfg : Config) (env : Env) (d : Device) : Device :=
  if d.protoStarted then d
  else
    let d := { d with protoStarted := true }
    match startChannel env d with
    | none => d
    | some channel =>
      let interval := d.currentNetwork.beaconInterval
      let d := { d with currentNetwork := { d.currentNetwork with
        channel := channel, beaconInterval := if interval = 0 then 100 else interval } }
      match d.iwMode with
      | .infra => rtllibStartBss cfg env d
      | .adhoc => { d with startIbssWq := { d.startIbssWq with queued := true } }
      | .master => rtllibStartMasterBss cfg d
      | .monitor => d

def unlinked (state : RtllibState) : Bool := state ≠ .linked ∧ state ≠ .linkedScanning

def rtllibStopProtocol (d : Device) (shutdown : Bool) : Device :=
  if d.protoStarted then
    let d := { d with
      protoStarted := !shutdown
      associateTimer := false
      associateRetryWq := { d.associateRetryWq with queued := false }
      startIbssWq := { d.startIbssWq with queued := false } }
    let d := if unlinked d.state then { d with state := .nolink } else d
    if d.state = .linked then rtllibDisassociate (d.note (.deauth d.currentNetwork.bssid)) else d
  else d

/-! ## Work items -/

/-- `associate_procedure_wq` when it has `wx_sem`. -/
def rtllibAssociateProcedureWq (env : Env) (d : Device) : Device :=
  if env.rfOff then d else rtllibAssociateStep1 env d

/-- `associate_retry_wq` when it has `wx_sem`. -/
def rtllibAssociateRetryWq (cfg : Config) (env : Env) (d : Device) : Device :=
  if d.protoStarted ∧ d.state = .associatingRetry then
    rtllibSoftmacCheckAllNets cfg env { d with state := .nolink }
  else d

/-- `start_ibss_wq` when it has `wx_sem`, up to its scan. -/
def rtllibStartIbssWq (cfg : Config) (env : Env) (d : Device) : Device :=
  { rtllibSoftmacCheckAllNets cfg env (defaultSsid d 8) with wxSem := .ibssScan }

def randomizeCell (random : Addr) : Addr := fun i => if i = 0 then random 0 &&& 0xfe ||| 0x02 else random i

def cellRates : List Byte := [0x82, 0x84, 0x8b, 0x96]

def cellRatesEx : List Byte := [0x0c, 0x12, 0x18, 0x24, 0x30, 0x48, 0x60, 0x6c]

def createCell (cfg : Config) (env : Env) (d : Device) : Network :=
  let net := d.currentNetwork
  { net with
    channel := cfg.ibssStartChnl
    bssid := if d.wapSet then net.bssid else randomizeCell env.random
    rates := if cfg.cckModulation then overwrite net.rates (fun i => cellRates.getD i 0) 4 else net.rates
    ratesLen := if cfg.cckModulation then 4 else 0
    ratesEx := if cfg.ofdmModulation then overwrite net.ratesEx (fun i => cellRatesEx.getD i 0) 8
      else net.ratesEx
    ratesExLen := if cfg.ofdmModulation then 8 else 0
    mode := env.mode
    atimWindow := 0
    capability := 0x0002 }

/-- The rest of `start_ibss_wq`, after its scan. -/
def ibssScanDone (cfg : Config) (env : Env) (d : Device) : Device :=
  let d := if d.state = .nolink then { d with currentNetwork := createCell cfg env d } else d
  { d with state := .linked, wxSem := .free }

/-! ## Requests of the user -/

/-- `ifup` is what `proto_started` was before the request had `wx_sem`. -/
def rtllibWxSetWap (cfg : Config) (env : Env) (d : Device) (ifup : Bool) (addr : Addr) : Device :=
  if d.iwMode = .master then d
  else
    let d := if ifup then rtllibStopProtocol d true else d
    let d := { d with
      currentNetwork := { d.currentNetwork with bssid := addr }, wapSet := decide (addr ≠ fun _ => 0) }
    if ifup then rtllibStartProtocol cfg env d else d

def rtllibWxSetEssid (cfg : Config) (env : Env) (d : Device) (flags : Bool) (essid : List Byte) :
    Device :=
  if d.iwMode = .monitor then d
  else
    let started := d.protoStarted
    let len := min essid.length 32
    let d := if started then rtllibStopProtocol d true else d
    let net := d.currentNetwork
    let d := if flags ∧ essid ≠ [] then
        { d with
          currentNetwork := { net with
            ssid := strncpy net.ssid (fun i => essid.getD i 0) len, ssidLen := len }
          ssidSet := true }
      else
        { d with
          currentNetwork := { net with ssid := Function.update net.ssid 0 0, ssidLen := 0 }
          ssidSet := false }
    if started then rtllibStartProtocol cfg env d else d

/-- `IW_MODE_AUTO` counts as infrastructure mode; a mode the card does not have is refused. -/
def rtllibWxSetMode (cfg : Config) (env : Env) (d : Device) (mode : IwMode) : Device :=
  if mode = .master ∨ mode = d.iwMode then d
  else if d.protoStarted then
    rtllibStartProtocol cfg env { rtllibStopProtocol d true with iwMode := mode }
  else { d with iwMode := mode }

/-- What `r8192_wx_set_scan` does with the ESSID of its request, before it waits for a semaphore. One
of more than 32 bytes goes over the end of the array, into fields that do not bear on the state. -/
def copyEssid (d : Device) (essidLen : Byte) (essid : Nat → Byte) : Device :=
  if essidLen ≠ 0 then
    { d with
      currentNetwork := { d.currentNetwork with
        ssid := overwrite d.currentNetwork.ssid essid essidLen.toNat, ssidLen := essidLen.toNat } }
  else d

def rtllibWxSetScan (d : Device) : Device :=
  if d.iwMode ≠ .monitor ∧ d.protoStarted ∧ d.state = .linked then { d with wxSem := .scanQueued }
  else d

/-- `known` says that the command is to deauthenticate or to disassociate. -/
def rtllibWxSetMlme (d : Device) (linked known : Bool) : Device :=
  if linked ∧ known then rtllibDisassociate (d.note (.deauth d.currentNetwork.bssid)) else d

def rtllibWpaMlme (d : Device) (disassoc : Bool) : Device :=
  if disassoc then rtllibDisassociate d else d

/-- The interface goes up: `_rtl8192_up` -/
def up (cfg : Config) (env : Env) (d : Device) : Device :=
  if d.state ≠ .linked then rtllibStartProtocol cfg env d else d

/-- The interface goes down: `rtl8192_down` -/
def down (d : Device) : Device := { rtllibStopProtocol d true with currentNetwork := default }

/-! ## Steps -/

inductive Item where
  | procedure
  | retry
  | ibss
  deriving DecidableEq, Repr

inductive Request where
  | setWap (ifup : Bool) (addr : Addr)
  | setEssid (flags : Bool) (essid : List Byte)
  | setMode (mode : IwMode)
  | setScan
  /-- `SIOCSIWMLME`; `linked` is what the state was before the wait for `wx_sem`. -/
  | setMlme (linked known : Bool)
  /-- The MLME command of the WPA ioctl -/
  | wpaMlme (disassoc : Bool)
  | up
  | down

inductive Event where
  | frame (f : Frame)
  | heard (network : Network) (new : Bool)
  | associateTimer
  /-- A queued work item starts, up to its wait for `wx_sem`. -/
  | start (item : Item)
  /-- It gets `wx_sem`. -/
  | run (item : Item)
  | ibssScanDone
  | syncScan
  | syncScanDone
  | associateComplete
  /-- The watchdog has not heard the access point. -/
  | roam
  /-- A request to scan with `IW_SCAN_THIS_ESSID` -/
  | scanEssid (essidLen : Byte) (essid : Nat → Byte)
  | request (r : Request)

/-- A queued item starts when its last run is over; `proceeds` is what it checks first. -/
def Work.start (w : Work) (proceeds : Bool) : Work :=
  if w.queued ∧ w.waiting = false then ⟨false, proceeds⟩ else w

def startItem (d : Device) : Item → Device
  | .procedure => { d with associateProcedureWq := d.associateProcedureWq.start true }
  | .retry => { d with associateRetryWq := d.associateRetryWq.start true }
  | .ibss => { d with startIbssWq := d.startIbssWq.start d.protoStarted }

def runItem (cfg : Config) (env : Env) (d : Device) : Item → Device
  | .procedure =>
    if d.associateProcedureWq.waiting then
      rtllibAssociateProcedureWq env
        { d with associateProcedureWq := { d.associateProcedureWq with waiting := false } }
    else d
  | .retry =>
    if d.associateRetryWq.waiting then
      rtllibAssociateRetryWq cfg env
        { d with associateRetryWq := { d.associateRetryWq with waiting := false } }
    else d
  | .ibss =>
    if d.startIbssWq.waiting then
      rtllibStartIbssWq cfg env { d with startIbssWq := { d.startIbssWq with waiting := false } }
    else d

def request (cfg : Config) (env : Env) (d : Device) : Request → Device
  | .setWap ifup addr => rtllibWxSetWap cfg env d ifup addr
  | .setEssid flags essid => rtllibWxSetEssid cfg env d flags essid
  | .setMode mode => rtllibWxSetMode cfg env d mode
  | .setScan => rtllibWxSetScan d
  | .setMlme linked known => rtllibWxSetMlme d linked known
  | .wpaMlme disassoc => rtllibWpaMlme d disassoc
  | .up => up cfg env d
  | .down => down d

/-- One step. What waits for `wx_sem` does nothing while it is held. -/
def step (cfg : Config) (d : Device) : Env × Event → Device
  | (env, .frame f) => rtllibRxFrameMgmt cfg env d f
  | (env, .heard network new) => processProbeResponse cfg env d network new
  | (_, .associateTimer) =>
    if d.associateTimer then rtllibAssociateAbort { d with associateTimer := false } else d
  | (_, .start item) => startItem d item
  | (env, .run item) => if d.wxSem = .free then runItem cfg env d item else d
  | (env, .ibssScanDone) => if d.wxSem = .ibssScan then ibssScanDone cfg env d else d
  | (_, .syncScan) =>
    if d.wxSem = .scanQueued then { d with state := .linkedScanning, wxSem := .scanning } else d
  | (_, .syncScanDone) =>
    if d.wxSem = .scanning then { d with state := .linked, wxSem := .free } else d
  | (_, .associateComplete) => { d with associateCompleteWq := false }
  | (_, .roam) =>
    if d.state = .linked ∧ d.iwMode = .infra then { d with state := .associating }.queueProcedure
    else d
  | (_, .scanEssid essidLen essid) => copyEssid d essidLen essid
  | (env, .request r) => if d.wxSem = .free then request cfg env d r else d

end Rtl8190.Association
