import Rtl8190.Beacon.Code
import Rtl8190.Lib.LinkedList

/-!
# The list of networks

`rtllib_process_probe_response` and its helpers (`rtllib_rx.c`). `jiffies` is an `unsigned long` of
`w` bits. What `rtllib_softmac_new_net` and `handle_beacon` do is left to other modules; the first
gets the network that is returned. A call returns `none` when a walk over a list does not end, or
when it uses a null pointer.
-/

open Rtl8190.Memory Rtl8190.LinkedList Function

namespace Rtl8190.Beacon

abbrev maxNetworkCount : Nat := 96

abbrev Slot := Fin maxNetworkCount

inductive NetworkHead where
  | networkFreeList
  | networkList
  deriving DecidableEq, Repr

abbrev NetworkNode := NetworkHead ⊕ Slot

structure Networks where
  heap : Heap NetworkNode
  slot : Slot → Network
  currentNetwork : Network
  dot11d : Dot11dInfo

def rtllibNetworksInitialize (s : Networks) : Networks :=
  let heap := initListHead (initListHead s.heap (.inl .networkFreeList)) (.inl .networkList)
  let addFree (heap : Heap NetworkNode) (i : Slot) := listAddTail heap (.inr i) (.inl .networkFreeList)
  { s with heap := (List.finRange maxNetworkCount).foldl addFree heap }

/-! ## Comparison -/

def Network.ess (network : Network) : Bool := network.capability.getLsbD 0

def Network.ibss (network : Network) : Bool := network.capability.getLsbD 1

def memEq (a b : Nat → Byte) (n : Nat) : Bool := (List.range n).all fun i => a i = b i

def isSameNetwork (src dst : Network) (ssidbroad : Bool) : Bool :=
  (src.ssidLen = dst.ssidLen ∨ ssidbroad = false) ∧ src.channel = dst.channel ∧
    src.bssid = dst.bssid ∧ (memEq src.ssid dst.ssid src.ssidLen ∨ ssidbroad = false) ∧
    src.ibss = dst.ibss ∧ src.ess = dst.ess

/-! ## Update -/

def overwrite {β : Type} (dst src : Nat → β) (n : Nat) : Nat → β :=
  fun i => if i < n then src i else dst i

/-- The SSID of `update_network`: that of a hidden network is kept apart. -/
def updateSsid (dst src : Network) : Network :=
  if src.ssidLen > 0 then
    if dst.ssidLen = 0 then
      { dst with
        hiddenSsid := overwrite (overwrite dst.hiddenSsid (fun _ => 0) 33) src.ssid src.ssidLen
        hiddenSsidLen := src.ssidLen }
    else
      { dst with
        ssid := overwrite (overwrite dst.ssid (fun _ => 0) dst.ssidLen) src.ssid src.ssidLen
        ssidLen := src.ssidLen }
  else dst

def updateBssHt (dst src : BssHt) : BssHt :=
  { dst with
    bdSupportHT := src.bdSupportHT
    bdRT2RTAggregation := src.bdRT2RTAggregation
    bdHTCapLen := src.bdHTCapLen
    bdHTCapBuf := overwrite dst.bdHTCapBuf src.bdHTCapBuf src.bdHTCapLen
    bdHTInfoLen := src.bdHTInfoLen
    bdHTInfoBuf := overwrite dst.bdHTInfoBuf src.bdHTInfoBuf src.bdHTInfoLen
    bdHTSpecVer := src.bdHTSpecVer
    bdRT2RTLongSlotTime := src.bdRT2RTLongSlotTime }

def updateQosData (dst src : QosData) (flags : BitVec 32) : QosData :=
  let qosData := if flags &&& networkHasQosParameters ≠ 0 then src
    else { dst with supported := src.supported }
  { qosData with active := dst.active, oldParamCount := dst.paramCount }

def updateNetwork (dst src : Network) (jiffies : Nat) : Network :=
  let hasErp := src.flags &&& networkHasErpValue ≠ 0
  { updateSsid dst src with
    capability := src.capability
    rates := overwrite dst.rates src.rates src.ratesLen
    ratesLen := src.ratesLen
    ratesEx := overwrite dst.ratesEx src.ratesEx src.ratesExLen
    ratesExLen := src.ratesExLen
    mode := src.mode
    flags := src.flags
    timeStamp := overwrite dst.timeStamp src.timeStamp 2
    erpValue := if hasErp then src.erpValue else dst.erpValue
    berpInfoValid := if hasErp then true else dst.berpInfoValid
    beaconInterval := src.beaconInterval
    listenInterval := src.listenInterval
    atimWindow := src.atimWindow
    dtimPeriod := src.dtimPeriod
    dtimData := src.dtimData
    lastDtimStaTime := overwrite dst.lastDtimStaTime src.lastDtimStaTime 2
    timCount := src.timCount
    timPeriod := src.timPeriod
    bssht := updateBssHt dst.bssht src.bssht
    broadcomCapExist := src.broadcomCapExist
    ralinkCapExist := src.ralinkCapExist
    atherosCapExist := src.atherosCapExist
    realtekCapExit := src.realtekCapExit
    marvellCapExist := src.marvellCapExist
    ciscoCapExist := src.ciscoCapExist
    unknownCapExist := src.unknownCapExist
    wpaIe := overwrite dst.wpaIe src.wpaIe src.wpaIeLen
    wpaIeLen := src.wpaIeLen
    rsnIe := overwrite dst.rsnIe src.rsnIe src.rsnIeLen
    rsnIeLen := src.rsnIeLen
    wzcIe := overwrite dst.wzcIe src.wzcIe src.wzcIeLen
    wzcIeLen := src.wzcIeLen
    lastScanned := jiffies
    qosData := updateQosData dst.qosData src.qosData src.flags
    signalStrength := src.signalStrength
    rssi := src.rssi
    turboEnable := src.turboEnable
    countryIeLen := src.countryIeLen
    countryIeBuf := overwrite dst.countryIeBuf src.countryIeBuf src.countryIeLen
    bWithAironetIE := src.bWithAironetIE
    bCkipSupported := src.bCkipSupported
    -- Two bytes, which is one element.
    ccxRmState := overwrite dst.ccxRmState src.ccxRmState 1
    bCcxRmEnable := src.bCcxRmEnable
    mBssidMask := src.mBssidMask
    bMBssidValid := src.bMBssidValid
    mBssid := src.mBssid
    bWithCcxVerNum := src.bWithCcxVerNum
    bssCcxVerNumber := src.bssCcxVerNumber }

/-- `src` after `update_network`, which sets `berp_info_valid` on both sides. -/
def sourceAfter (src : Network) : Network :=
  { src with
    berpInfoValid := if src.flags &&& networkHasErpValue ≠ 0 then true else src.berpInfoValid }

/-! ## The call -/

/-- What a call finds besides the lists. -/
structure Call where
  /-- The frame, with `jiffies` when it is parsed. -/
  env : Env
  /-- `jiffies` when the lists are searched. -/
  jiffies : Nat
  alloc : Bool
  bGlobalDomain : Bool
  scanAge : Nat
  /-- `softmac_features & IEEE_SOFTMAC_ASSOCIATE` -/
  softmacAssociate : Bool

inductive Outcome where
  /-- The frame is dropped before the lists are searched. -/
  | ignored
  | updated (target : Slot)
  | added (target : Slot)
  /-- The entry makes way for a new one. -/
  | evicted (target : Slot)
  deriving DecidableEq

def isLegalChannel (dot11d : Dot11dInfo) (channel : Byte) : Bool :=
  channel.toNat ≤ maxChannelNumber ∧ dot11d.channelMap channel.toNat ≠ 0

/-- The last channel for a frame without country information. -/
def globalLastChannel (env : Env) : Nat :=
  -- Probe responses are filtered more strictly than beacons.
  if env.mem 0 &&& 0xf0 = 0x50 then 11 else 14

def channelOk (call : Call) (dot11d : Dot11dInfo) (channel : Byte) : Bool :=
  isLegalChannel dot11d channel ∧
    (call.bGlobalDomain → dot11d.countryIeLen = 0 → channel.toNat ≤ globalLastChannel call.env)

/-- `network`, unless the frame is dropped. -/
def describedNetwork (call : Call) (dot11d : Dot11dInfo) : Option Network × Dot11dInfo :=
  if call.alloc then
    let r := (rtllibNetworkInit call.env default dot11d).val
    (r.1.filter fun network => channelOk call r.2 network.channel, r.2)
  else (none, dot11d)

/-- The loop over `network_list`: the entry that is the same network, if there is one, and the
oldest of those before. -/
def searchLoop (s : Networks) (network : Network) :
    Nat → NetworkNode → Option Slot → Option (Option Slot × Option Slot)
  | _, .inl head, oldest => if head = .networkList then some (none, oldest) else none
  | fuel, .inr target, oldest =>
    if isSameNetwork (s.slot target) network (decide ((s.slot target).ssidLen ≠ 0)) then
      some (some target, oldest)
    else
      let older := oldest.all fun o => (s.slot target).lastScanned < (s.slot o).lastScanned
      match fuel with
      | 0 => none
      | fuel + 1 =>
        searchLoop s network fuel (s.heap.next (.inr target)) (if older then some target else oldest)

def newSlot (s : Networks) (oldest : Option Slot) : Option Outcome :=
  if listEmpty s.heap (.inl .networkFreeList) then oldest.map .evicted
  else
    match s.heap.next (.inl .networkFreeList) with
    | .inr target => some (.added target)
    | .inl _ => none

/-- `list_del`, `memcpy` and `list_add_tail` -/
def putNetwork (s : Networks) (target : Slot) (network : Network) : Networks :=
  { s with
    heap := listAddTail (listDel s.heap (.inr target)) (.inr target) (.inl .networkList)
    slot := update s.slot target network }

def strncmpEq (a b : Nat → Byte) (n : Nat) : Bool :=
  (List.range n).all fun i => a i = b i ∨ (List.range i).any fun j => a j = 0 ∧ b j = 0

/-- `renew`: whether a network that is on the list counts as new. -/
def renew (w : Nat) (call : Call) (currentNetwork target network : Network) : Bool :=
  let expiry := BitVec.ofNat w (target.lastScanned + call.scanAge)
  !(BitVec.ofNat w call.jiffies - expiry).msb ||
    decide (target.ssidLen = 0 ∧
      (network.ssidLen > 0 ∧ target.hiddenSsidLen = 0 ∨
        currentNetwork.ssidLen = network.ssidLen ∧
          strncmpEq currentNetwork.ssid network.ssid network.ssidLen ∧ call.env.state = .nolink))

/-- The current network is updated too when the frame describes it. -/
def updateCurrent (s : Networks) (network : Network) (jiffies : Nat) : Networks :=
  if isSameNetwork s.currentNetwork network (decide (network.ssidLen ≠ 0)) then
    { s with currentNetwork := updateNetwork s.currentNetwork network jiffies }
  else s

/-- The network of the frame after that. -/
def seenByCurrent (currentNetwork network : Network) : Network :=
  { network with
    berpInfoValid :=
      if isSameNetwork currentNetwork network (decide (network.ssidLen ≠ 0)) then
        (sourceAfter network).berpInfoValid
      else network.berpInfoValid }

def putOrUpdate (w : Nat) (call : Call) (s : Networks) (network : Network) :
    Option (Outcome × Option Network × Networks) :=
  let newNet (new : Bool) (network : Network) :=
    if new ∧ call.softmacAssociate then some network else none
  match searchLoop s network maxNetworkCount (s.heap.next (.inl .networkList)) none with
  | none => none
  | some (some target, _) =>
    some (.updated target,
      newNet (renew w call s.currentNetwork (s.slot target) network) (sourceAfter network),
      { s with slot := update s.slot target (updateNetwork (s.slot target) network call.jiffies) })
  | some (none, oldest) =>
    match newSlot s oldest with
    | some (.evicted target) => some (.evicted target, newNet true network, putNetwork s target network)
    | some (.added target) => some (.added target, newNet true network, putNetwork s target network)
    | _ => none

/-- `rtllib_process_probe_response`: how it ends, and the network that
`rtllib_softmac_new_net` gets. -/
def rtllibProcessProbeResponse (w : Nat) (call : Call) (s : Networks) :
    Option (Outcome × Option Network × Networks) :=
  let d := describedNetwork call s.dot11d
  let s := { s with dot11d := d.2 }
  match d.1 with
  | none => some (.ignored, none, s)
  | some network =>
    putOrUpdate w call (updateCurrent s network call.jiffies)
      (seenByCurrent s.currentNetwork network)

end Rtl8190.Beacon
