import Mathlib.Algebra.Group.Nat.Defs
import Mathlib.Data.Fintype.Card
import Mathlib.Data.List.MinMax
import Rtl8190.Beacon.Decoders
import Rtl8190.Beacon.Networks
import Rtl8190.Lib.Run

/-!
# The list of networks stays sound

In every run each slot is on one list, no two listed networks have the same key, and a network that
is listed is not listed again. The eviction takes the least `last_scanned`, which is the entry
scanned longest ago exactly when `jiffies` has not wrapped in between (`networks_sound`).
-/

open Rtl8190.Memory Rtl8190.LinkedList Rtl8190.Run Function

namespace Rtl8190.Beacon

/-! ## The parser keeps the time stamp -/

section Stamp

variable {env : Env} {e : Elem}

theorem parseHtCap_stamp (st : ParseState) :
    (parseHtCap env e st).val.network.lastScanned = st.network.lastScanned := by
  unfold parseHtCap
  split <;> rfl

theorem parseHtInfo_stamp (st : ParseState) :
    (parseHtInfo env e st).val.network.lastScanned = st.network.lastScanned := by
  unfold parseHtInfo
  split <;> rfl

theorem country_stamp (st : ParseState) :
    (rtllibExtractCountryIe env e st).val.network.lastScanned = st.network.lastScanned := by
  simp only [rtllibExtractCountryIe, ite_val, bind_val, pure_val]
  split_ifs <;> rfl

theorem parseEwcCap_stamp (st : ParseState) :
    (parseEwcCap env e st).val.network.lastScanned = st.network.lastScanned := by
  simp only [parseEwcCap, ite_val, bind_val, pure_val]
  split_ifs <;> rfl

theorem parseEwcInfo_stamp (st : ParseState) :
    (parseEwcInfo env e st).val.network.lastScanned = st.network.lastScanned := by
  simp only [parseEwcInfo, ite_val, bind_val, pure_val]
  split_ifs <;> rfl

theorem copyAgg_stamp (st : ParseState) :
    (copyAgg env e st).val.network = st.network := by
  simp only [copyAgg, ite_val, bind_val, pure_val]
  split <;> rfl

theorem readAgg_stamp (st : ParseState) :
    (readAgg env st).val.network.lastScanned = st.network.lastScanned := by
  unfold readAgg
  split <;> rfl

theorem readSoftap_stamp (st : ParseState) :
    (readSoftap env st).val.network.lastScanned = st.network.lastScanned := by
  unfold readSoftap
  split <;> rfl

theorem parseRealtekAgg_stamp (st : ParseState) :
    (parseRealtekAgg env e st).val.network.lastScanned = st.network.lastScanned := by
  simp only [parseRealtekAgg, ite_val, bind_val, pure_val]
  split
  · rw [readSoftap_stamp]
    split
    · rw [readAgg_stamp, copyAgg_stamp]
    · rfl
  · rfl

theorem parseVendor_stamp (st : ParseState) :
    (parseVendor env e st).val.network.lastScanned = st.network.lastScanned := by
  simp only [parseVendor, bind_val, pure_val]
  rw [(Network.Keeps.wzc _).lastScanned, (Network.Keeps.ccxVersion _).lastScanned,
    (Network.Keeps.ccxRm _).lastScanned, (Network.Keeps.makers _).lastScanned, parseRealtekAgg_stamp,
    parseEwcInfo_stamp, parseEwcCap_stamp]
  exact (Network.Keeps.turbo _).lastScanned

theorem parseGeneric_stamp (st : ParseState) :
    (parseGeneric env e st).val.network.lastScanned = st.network.lastScanned := by
  simp only [parseGeneric, bind_val]
  generalize hqos : (rtllibParseQosInfoParamIE env e st.network).val = qos
  cases qos with
  | some network => exact (parseQos_some hqos).1.lastScanned
  | none =>
    simp only [bind_val, ite_val]
    split
    · rfl
    · exact parseVendor_stamp st

theorem parseElement_stamp (st : ParseState) :
    (parseElement env e st).val.network.lastScanned = st.network.lastScanned := by
  unfold parseElement
  split
  case h_1 => exact (Network.Keeps.ssid _).lastScanned
  case h_2 => exact (Network.Keeps.rates _).lastScanned
  case h_3 => exact (Network.Keeps.dsSet _).lastScanned
  case h_4 => exact (Network.Keeps.tim _).lastScanned
  case h_5 => exact (Network.Keeps.ibssSet _).lastScanned
  case h_6 => exact country_stamp st
  case h_7 => exact (Network.Keeps.erp _).lastScanned
  case h_8 => exact parseHtCap_stamp st
  case h_9 => exact (Network.Keeps.rsn _).lastScanned
  case h_10 => exact (Network.Keeps.ratesEx _).lastScanned
  case h_11 => exact parseHtInfo_stamp st
  case h_12 => exact (Network.Keeps.aironet _).lastScanned
  case h_13 => exact parseGeneric_stamp st
  case h_14 => rfl

theorem parseLoop_stamp (fuel length pos : Nat) (st : ParseState) :
    (parseLoop env fuel length pos st).val.network.lastScanned = st.network.lastScanned := by
  induction fuel generalizing length pos st with
  | zero => rfl
  | succ fuel ih =>
    simp only [parseLoop, ite_val, bind_val, pure_val]
    split
    · split
      · rfl
      · rw [ih, parseElement_stamp]
    · rfl

theorem networkInit_stamp {network network' : Network} {dot11d : Dot11dInfo}
    (h : (rtllibNetworkInit env network dot11d).val.1 = some network') :
    network'.lastScanned = env.jiffies := by
  simp only [rtllibNetworkInit, bind_val, ite_val, pure_val] at h
  split at h
  · cases h
  · obtain rfl := Option.some.inj h
    exact parseLoop_stamp ..

end Stamp

theorem describedNetwork_stamp {call : Call} {dot11d dot11d' : Dot11dInfo} {network : Network}
    (h : describedNetwork call dot11d = (some network, dot11d')) :
    network.lastScanned = call.env.jiffies := by
  unfold describedNetwork at h
  split at h
  · exact networkInit_stamp (Option.filter_eq_some_iff.mp (Prod.mk.inj h).1).1
  · cases h

/-! ## Keys -/

/-- What tells one network from another. -/
structure Key where
  bssid : Addr
  channel : Byte
  ssid : List Byte
  ess : Bool
  ibss : Bool
  deriving DecidableEq

def Network.key (network : Network) : Key :=
  ⟨network.bssid, network.channel, (List.range network.ssidLen).map network.ssid, network.ess,
    network.ibss⟩

/-- The comparison of the loop over the list. -/
def Same (target network : Network) : Prop :=
  isSameNetwork target network (decide (target.ssidLen ≠ 0)) = true

instance (target network : Network) : Decidable (Same target network) :=
  inferInstanceAs (Decidable (_ = true))

theorem memEq_iff {a b : Nat → Byte} {n : Nat} :
    memEq a b n = true ↔ (List.range n).map a = (List.range n).map b := by
  simp [memEq, List.map_inj_left]

/-- Listed networks whose SSID is known are compared by their keys, hidden ones without the SSID. -/
theorem same_iff {target network : Network} : Same target network ↔
    { target.key with ssid := [] } = { network.key with ssid := [] } ∧
      (target.ssidLen ≠ 0 → target.key.ssid = network.key.ssid) := by
  simp only [Same, isSameNetwork, Network.key, Key.mk.injEq, decide_eq_true_eq, decide_eq_false_iff_not,
    not_not, true_and, memEq_iff]
  constructor
  · rintro ⟨hlen, hch, hbssid, hssid, hibss, hess⟩
    refine ⟨⟨hbssid, hch, hess, hibss⟩, fun hne => ?_⟩
    rw [hssid.resolve_right hne, hlen.resolve_right hne]
  · rintro ⟨⟨hbssid, hch, hess, hibss⟩, hssid⟩
    by_cases hne : target.ssidLen = 0
    · exact ⟨.inr hne, hch, hbssid, .inr hne, hibss, hess⟩
    · have hssid := hssid hne
      have hlen : target.ssidLen = network.ssidLen := by simpa using congrArg List.length hssid
      exact ⟨.inl hlen, hch, hbssid, .inl (by rw [hssid, hlen]), hibss, hess⟩

theorem same_of_key {target network : Network} (h : target.key = network.key) :
    Same target network := by
  rw [same_iff, h]
  exact ⟨rfl, fun _ => rfl⟩

theorem updateSsid_key {dst src : Network} (h : dst.ssidLen ≠ 0 → dst.key.ssid = src.key.ssid) :
    (updateSsid dst src).key = dst.key := by
  unfold updateSsid
  split
  · split
    · rfl
    · rename_i hne
      simp only [Network.key] at h ⊢
      have hcopy : (List.range src.ssidLen).map
          (overwrite (overwrite dst.ssid (fun _ => 0) dst.ssidLen) src.ssid src.ssidLen) =
          (List.range src.ssidLen).map src.ssid := by
        rw [List.map_inj_left]
        intro i hi
        simp [overwrite, List.mem_range.mp hi]
      rw [hcopy, ← h hne]
      rfl
  · rfl

theorem updateNetwork_key {dst src : Network} (h : Same dst src) (jiffies : Nat) :
    (updateNetwork dst src jiffies).key = dst.key := by
  obtain ⟨hrest, hssid⟩ := same_iff.mp h
  simp only [Network.key, Key.mk.injEq] at hrest
  have hupdate : (updateNetwork dst src jiffies).key =
      { (updateSsid dst src).key with ess := src.ess, ibss := src.ibss } := rfl
  rw [hupdate, updateSsid_key hssid, ← hrest.2.2.2.1, ← hrest.2.2.2.2]
  rfl

/-! ## Search -/

section Search

variable {s : Networks}

/-- The fold of the loop. -/
def older (s : Networks) (oldest : Option Slot) (target : Slot) : Option Slot :=
  if oldest.all fun o => (s.slot target).lastScanned < (s.slot o).lastScanned then some target
  else oldest

theorem searchLoop_seg {a : NetworkNode} {l : List Slot} {fuel : Nat} (network : Network)
    (oldest : Option Slot) (hs : Seg s.heap a (l.map .inr) (.inl .networkList)) (hfuel : l.length ≤ fuel) :
    (∃ i ∈ l, Same (s.slot i) network ∧
      ∃ o, searchLoop s network fuel (s.heap.next a) oldest = some (some i, o)) ∨
    (∀ i ∈ l, ¬ Same (s.slot i) network) ∧
      searchLoop s network fuel (s.heap.next a) oldest = some (none, l.foldl (older s) oldest) := by
  induction l generalizing a fuel oldest with
  | nil =>
    rw [show s.heap.next a = .inl .networkList from hs.1]
    refine .inr ⟨by simp, ?_⟩
    unfold searchLoop
    rfl
  | cons i l ih =>
    obtain ⟨fuel, rfl⟩ : ∃ n, fuel = n + 1 := ⟨fuel - 1, by simp at hfuel; omega⟩
    rw [show s.heap.next a = .inr i from hs.1]
    unfold searchLoop
    by_cases hsame : isSameNetwork (s.slot i) network (decide ((s.slot i).ssidLen ≠ 0)) = true
    · rw [if_pos hsame]
      exact .inl ⟨i, by simp, hsame, _, rfl⟩
    · rw [if_neg hsame]
      rcases ih (older s oldest i) hs.2.2 (by simpa using hfuel) with
        ⟨j, hj, hsame', o, heq⟩ | ⟨hno, heq⟩
      · exact .inl ⟨j, by simp [hj], hsame', o, heq⟩
      · exact .inr ⟨by simpa using ⟨hsame, hno⟩, heq⟩

theorem foldl_older (l : List Slot) :
    l.foldl (older s) none = l.argmin fun i => (s.slot i).lastScanned := by
  unfold List.argmin
  congr 1
  funext oldest i
  cases oldest with
  | none => rfl
  | some o => simp [older, List.argAux]

end Search

/-! ## One call -/

/-- What a call can do to lists that hold `f`. -/
inductive Does (call : Call) (s : Networks) (f : NetworkHead → List Slot) : Outcome → Networks → Prop
  | ignored {s' : Networks} (heap : s'.heap = s.heap) (slot : s'.slot = s.slot)
      (described : (describedNetwork call s.dot11d).1 = none) : Does call s f .ignored s'
  | updated {s' : Networks} {network : Network} {i : Slot} (heap : s'.heap = s.heap)
      (slot : s'.slot = update s.slot i (updateNetwork (s.slot i) network call.jiffies))
      (described : (describedNetwork call s.dot11d).1 = some network)
      (mem : i ∈ f .networkList) (same : Same (s.slot i) network) : Does call s f (.updated i) s'
  /-- The new network takes the slot `i`, which was on the list `k`. -/
  | put {s' : Networks} {network : Network} {i : Slot} {k : NetworkHead} {o : Outcome}
      (heap : s'.heap = listAddTail (listDel s.heap (.inr i)) (.inr i) (.inl .networkList))
      (slot : s'.slot = update s.slot i (seenByCurrent s.currentNetwork network))
      (described : (describedNetwork call s.dot11d).1 = some network)
      (mem : i ∈ f k) (new : ∀ j ∈ f .networkList, ¬ Same (s.slot j) network)
      (outcome : o = .added i ∧ k = .networkFreeList ∨
        o = .evicted i ∧ k = .networkList ∧ f .networkFreeList = [] ∧
          (f .networkList).argmin (fun j => (s.slot j).lastScanned) = some i) :
      Does call s f o s'

section OneCall

variable {w : Nat} {call : Call} {s : Networks} {f : NetworkHead → List Slot}

theorem slots_length_le (hr : Rings s.heap f) (k : NetworkHead) : (f k).length ≤ maxNetworkCount := by
  have hnodup : (f k).Nodup := hr.nodup k
  simpa using hnodup.length_le_card

theorem newSlot_cases (hr : Rings s.heap f) (hcov : ∀ i, ∃ k, i ∈ f k) :
    (∃ i ∈ f .networkFreeList, ∀ oldest, newSlot s oldest = some (.added i)) ∨
      f .networkFreeList = [] ∧ ∃ i ∈ f .networkList,
        (f .networkList).argmin (fun j => (s.slot j).lastScanned) = some i ∧
          newSlot s (some i) = some (.evicted i) := by
  -- The slot for a new network.
  have hring := hr.ring .networkFreeList
  cases hfree : f .networkFreeList with
  | cons i rest =>
    refine .inl ⟨i, List.mem_cons_self, fun oldest => ?_⟩
    have hne : ¬ listEmpty s.heap (.inl .networkFreeList) := by
      rw [hring.listEmpty_iff, hfree]
      simp
    have hnext : s.heap.next (.inl .networkFreeList) = .inr i := by
      rw [hring.seg.next_eq]
      simp [hfree]
    simp only [newSlot, if_neg hne, hnext]
  | nil =>
    have hempty : listEmpty s.heap (.inl .networkFreeList) := by
      rw [hring.listEmpty_iff, hfree]
      rfl
    have hmem : (0 : Slot) ∈ f .networkList := by
      obtain ⟨k, hk⟩ := hcov 0
      cases k with
      | networkFreeList => simp [hfree] at hk
      | networkList => exact hk
    cases hmin : (f .networkList).argmin fun j => (s.slot j).lastScanned with
    | none =>
      rw [List.argmin_eq_none] at hmin
      simp [hmin] at hmem
    | some i =>
      refine .inr ⟨rfl, i, List.argmin_mem hmin, rfl, ?_⟩
      simp only [newSlot, if_pos hempty, Option.map_some]

theorem updateCurrent_same (network : Network) (jiffies : Nat) :
    (updateCurrent s network jiffies).heap = s.heap ∧ (updateCurrent s network jiffies).slot = s.slot := by
  unfold updateCurrent
  split <;> exact ⟨rfl, rfl⟩

theorem process_does (hr : Rings s.heap f) (hcov : ∀ i, ∃ k, i ∈ f k) :
    ∃ o new s', rtllibProcessProbeResponse w call s = some (o, new, s') ∧ Does call s f o s' := by
  -- A call always returns.
  simp only [rtllibProcessProbeResponse]
  cases hd : (describedNetwork call s.dot11d).1 with
  | none => exact ⟨_, _, _, rfl, .ignored rfl rfl hd⟩
  | some network =>
    simp only
    obtain ⟨hheap, hslot⟩ := updateCurrent_same
      (s := { s with dot11d := (describedNetwork call s.dot11d).2 }) network call.jiffies
    generalize updateCurrent { s with dot11d := (describedNetwork call s.dot11d).2 } network
      call.jiffies = s₁ at hheap hslot
    simp only at hheap hslot
    have hr₁ : Rings s₁.heap f := by rwa [hheap]
    unfold putOrUpdate
    rcases searchLoop_seg (seenByCurrent s.currentNetwork network) none
        (hr₁.ring .networkList).seg (slots_length_le hr .networkList) with
      ⟨i, hi, hsame, o, hsearch⟩ | ⟨hnew, hsearch⟩
    · rw [hslot] at hsame
      simp only [hsearch]
      exact ⟨_, _, _, rfl, .updated hheap (by rw [← hslot]; rfl) hd hi hsame⟩
    · rw [foldl_older] at hsearch
      rw [hslot] at hnew
      simp only [hsearch]
      rcases newSlot_cases hr₁ hcov with ⟨i, hi, hput⟩ | ⟨hfree, i, hi, hmin, hput⟩
      · simp only [hput]
        exact ⟨_, _, _, rfl, .put (by rw [← hheap]; rfl) (by rw [← hslot]; rfl) hd hi hnew
          (.inl ⟨rfl, rfl⟩)⟩
      · simp only [hmin, hput]
        rw [hslot] at hmin
        exact ⟨_, _, _, rfl, .put (by rw [← hheap]; rfl) (by rw [← hslot]; rfl) hd hi hnew
          (.inr ⟨rfl, rfl, hfree, hmin⟩)⟩

theorem process_dot11d {s' : Networks} {o : Outcome} {new : Option Network}
    (h : rtllibProcessProbeResponse w call s = some (o, new, s')) :
    s'.dot11d = (describedNetwork call s.dot11d).2 := by
  simp only [rtllibProcessProbeResponse] at h
  split at h
  · cases h
    rfl
  · rename_i network _
    have hcurrent : ∀ s : Networks, (updateCurrent s network call.jiffies).dot11d = s.dot11d := fun s => by
      unfold updateCurrent
      split <;> rfl
    generalize hs₁ : updateCurrent _ network call.jiffies = s₁ at h
    have hd : s₁.dot11d = (describedNetwork call s.dot11d).2 := by rw [← hs₁, hcurrent]
    rw [← hd]
    unfold putOrUpdate at h
    repeat' split at h
    all_goals cases h <;> rfl

end OneCall

/-! ## Runs -/

structure State where
  networks : Networks
  /-- The number of jiffies since the start, of which the kernel keeps `w` bits. -/
  clock : Nat
  /-- The clock when the network in a slot was scanned. -/
  scannedAt : Slot → Nat
  oops : Bool

inductive Event where
  /-- A frame arrives after `ticks` jiffies, and the lists are searched `later` jiffies after that. -/
  | frame (call : Call) (ticks later : Nat)
  /-- What other code may change. -/
  | other (currentNetwork : Network) (dot11d : Dot11dInfo)

variable (w : Nat)

def Call.atTime (call : Call) (now later : Nat) : Call :=
  { call with env := { call.env with jiffies := now % 2 ^ w }, jiffies := later % 2 ^ w }

def State.call (s : State) (call : Call) (ticks later : Nat) : Call :=
  call.atTime w (s.clock + ticks) (s.clock + ticks + later)

def stamp (scannedAt : Slot → Nat) (now later : Nat) : Outcome → Slot → Nat
  | .ignored => scannedAt
  | .updated i => update scannedAt i later
  | .added i => update scannedAt i now
  | .evicted i => update scannedAt i now

def step (s : State) : Event → State
  | .frame call ticks later =>
    match rtllibProcessProbeResponse w (s.call w call ticks later) s.networks with
    | none => { s with oops := true }
    | some (o, _, networks) =>
      { s with
        networks := networks
        clock := s.clock + ticks + later
        scannedAt := stamp s.scannedAt (s.clock + ticks) (s.clock + ticks + later) o }
  | .other currentNetwork dot11d =>
    { s with networks := { s.networks with currentNetwork := currentNetwork, dot11d := dot11d } }

def State.init (networks : Networks) (clock : Nat) (scannedAt : Slot → Nat) : State :=
  ⟨rtllibNetworksInitialize networks, clock, scannedAt, false⟩

/-- The slots on a list, as a walk over it meets them. -/
def State.slotsOn (s : State) (head : NetworkHead) : List Slot :=
  entries s.networks.heap maxNetworkCount (s.networks.heap.next (.inl head))

def State.listed (s : State) : List Slot := s.slotsOn .networkList

/-- What the lists promise: every slot is on one list, and the keys of the listed networks differ. -/
structure Sound (s : State) : Prop where
  oops : s.oops = false
  rings : Rings s.networks.heap s.slotsOn
  covers : ∀ i, ∃ k, i ∈ s.slotsOn k
  unique : ∀ i ∈ s.listed, ∀ j ∈ s.listed,
    (s.networks.slot i).key = (s.networks.slot j).key → i = j

/-- The time stamps of the listed networks. -/
structure Stamped (s : State) : Prop where
  stamp : ∀ i ∈ s.listed, (s.networks.slot i).lastScanned = s.scannedAt i % 2 ^ w
  past : ∀ i ∈ s.listed, s.scannedAt i ≤ s.clock

section Invariant

variable {w} {s : State} {f : NetworkHead → List Slot}

theorem slotsOn_eq (hr : Rings s.networks.heap f) : s.slotsOn = f := by
  funext k
  exact entries_seg (hr.ring k).seg (slots_length_le hr k)

theorem Sound.of_rings (hr : Rings s.networks.heap f) (hoops : s.oops = false)
    (hcov : ∀ i, ∃ k, i ∈ f k)
    (hunique : ∀ i ∈ f .networkList, ∀ j ∈ f .networkList,
      (s.networks.slot i).key = (s.networks.slot j).key → i = j) : Sound s := by
  have hf := slotsOn_eq hr
  exact ⟨hoops, hf ▸ hr, hf ▸ hcov, by rw [State.listed, hf]; exact hunique⟩

theorem sound_addFree {heap : Heap NetworkNode} {slots : List Slot} (hslots : slots.Nodup)
    (hall : ∀ i, i ∈ slots) (hoops : s.oops = false)
    (hheap : s.networks.heap = slots.foldl (fun heap i => listAddTail heap (.inr i) (.inl .networkFreeList))
      (initListHead (initListHead heap (.inl .networkFreeList)) (.inl .networkList))) :
    Sound s ∧ s.listed = [] := by
  -- The lists once every slot of `slots` was added to the free one.
  have hempty : Rings (initListHead (initListHead heap (.inl .networkFreeList)) (.inl .networkList))
      (fun _ : NetworkHead => ([] : List Slot)) := by
    refine ⟨fun k => ?_, fun _ _ _ hx => by cases hx⟩
    cases k with
    | networkList => exact ring_initListHead
    | networkFreeList => exact ring_initListHead.link_frame (by simp) (by simp)
  have hr : Rings s.networks.heap (update (fun _ => []) .networkFreeList slots) := by
    rw [hheap]
    exact hempty.foldl_listAddTail hslots fun _ _ _ => List.not_mem_nil
  refine ⟨.of_rings hr hoops (fun i => ⟨.networkFreeList, by simp [hall i]⟩) (by simp), ?_⟩
  rw [State.listed, slotsOn_eq hr]
  simp

theorem sound_init (networks : Networks) (clock : Nat) (scannedAt : Slot → Nat) :
    Sound (State.init networks clock scannedAt) ∧
      (State.init networks clock scannedAt).listed = [] :=
  sound_addFree (List.nodup_finRange _) List.mem_finRange rfl rfl

theorem step_frame (h : Sound s) (call : Call) (ticks later : Nat) :
    ∃ o new networks,
      rtllibProcessProbeResponse w (s.call w call ticks later) s.networks = some (o, new, networks) ∧
      Does (s.call w call ticks later) s.networks s.slotsOn o networks ∧
      step w s (.frame call ticks later) = { s with
        networks := networks
        clock := s.clock + ticks + later
        scannedAt := stamp s.scannedAt (s.clock + ticks) (s.clock + ticks + later) o } := by
  obtain ⟨o, new, networks, hprocess, hdoes⟩ := process_does h.rings h.covers
  exact ⟨o, new, networks, hprocess, hdoes, by simp only [step, hprocess]⟩

theorem put_rings (hr : Rings s.networks.heap f) {networks : Networks} {i : Slot} {k : NetworkHead}
    (mem : i ∈ f k) (heap : networks.heap =
      listAddTail (listDel s.networks.heap (.inr i)) (.inr i) (.inl .networkList)) :
    Rings networks.heap (move f i k .networkList) := by
  rw [heap, ← listAddTail_listDelInit _ (by simp)]
  exact hr.move mem .networkList

theorem Sound.step (h : Sound s) (e : Event) : Sound (step w s e) := by
  cases e with
  | other currentNetwork dot11d => exact ⟨h.oops, h.rings, h.covers, h.unique⟩
  | frame call ticks later =>
    obtain ⟨o, new, networks, -, hdoes, hstep⟩ := step_frame (w := w) h call ticks later
    rw [hstep]
    cases hdoes with
    | ignored heap slot => exact .of_rings (heap ▸ h.rings) h.oops h.covers (slot ▸ h.unique)
    | @updated _ network i heap slot _ mem same =>
      have hkey : ∀ j, (networks.slot j).key = (s.networks.slot j).key := fun j => by
        rw [slot]
        by_cases hj : j = i
        · rw [hj, update_self, updateNetwork_key same]
        · rw [update_of_ne hj]
      refine .of_rings (heap ▸ h.rings) h.oops h.covers fun j hj j' hj' heq => ?_
      exact h.unique j hj j' hj' (by rw [← hkey, ← hkey]; exact heq)
    | @put _ network i k _ heap slot _ mem new _ =>
      have hmem := h.rings.mem_move mem .networkList
      have hr := put_rings h.rings mem heap
      have hself : (networks.slot i).key = network.key := by rw [slot, update_self]; rfl
      have hother : ∀ j, j ≠ i → networks.slot j = s.networks.slot j := fun j hj => by
        rw [slot, update_of_ne hj]
      have hnew : ∀ j, j ≠ i → j ∈ s.slotsOn .networkList → (networks.slot j).key ≠ network.key :=
        fun j hj hjl heq => new j hjl (same_of_key (by rw [← hother j hj]; exact heq))
      refine .of_rings hr h.oops (fun j => ?_) fun j hj j' hj' heq => ?_
      · by_cases hj : j = i
        · exact ⟨.networkList, (hmem .networkList j).mpr (.inl ⟨hj, rfl⟩)⟩
        · obtain ⟨k', hk'⟩ := h.covers j
          exact ⟨k', (hmem k' j).mpr (.inr ⟨hj, hk'⟩)⟩
      · simp only at heq
        rcases (hmem .networkList j).mp hj with ⟨rfl, -⟩ | ⟨hne, hjl⟩
        · rcases (hmem .networkList j').mp hj' with ⟨rfl, -⟩ | ⟨hne', hjl'⟩
          · rfl
          · exact absurd heq.symm (by rw [hself]; exact hnew j' hne' hjl')
        · rcases (hmem .networkList j').mp hj' with ⟨rfl, -⟩ | ⟨hne', hjl'⟩
          · exact absurd heq (by rw [hself]; exact hnew j hne hjl)
          · exact h.unique j hjl j' hjl' (by rw [← hother j hne, ← hother j' hne']; exact heq)

theorem Sound.listed_step (h : Sound s) {call : Call} {ticks later : Nat} {network : Network}
    (hd : (describedNetwork (s.call w call ticks later) s.networks.dot11d).1 = some network)
    (hkey : ∃ i ∈ s.listed, (s.networks.slot i).key = network.key) :
    (Beacon.step w s (.frame call ticks later)).listed = s.listed := by
  obtain ⟨o, new, networks, -, hdoes, hstep⟩ := step_frame (w := w) h call ticks later
  rw [hstep]
  cases hdoes with
  | ignored heap => simp only [State.listed, State.slotsOn, heap]
  | updated heap => simp only [State.listed, State.slotsOn, heap]
  | put _ _ hd' _ hnew =>
    obtain rfl := Option.some.inj (hd.symm.trans hd')
    obtain ⟨i, hi, hkey⟩ := hkey
    exact absurd (same_of_key hkey) (hnew i hi)

theorem Stamped.scan (h : Stamped w s) {i : Slot} {time : Nat} {s' : State}
    (hlisted : ∀ j ∈ s'.listed, j = i ∨ j ∈ s.listed)
    (hslot : ∀ j, j ≠ i → s'.networks.slot j = s.networks.slot j)
    (hscanned : s'.scannedAt = update s.scannedAt i time)
    (hstamp : (s'.networks.slot i).lastScanned = time % 2 ^ w) (hclock : s.clock ≤ s'.clock)
    (htime : time ≤ s'.clock) : Stamped w s' := by
  -- The time stamps after the network in slot `i` was scanned at `time`.
  have hold : ∀ j ∈ s'.listed, j ≠ i → j ∈ s.listed := fun j hj hne => (hlisted j hj).resolve_left hne
  constructor
  · intro j hj
    by_cases hne : j = i
    · rw [hne, hstamp, hscanned, update_self]
    · rw [hslot j hne, hscanned, update_of_ne hne]
      exact h.stamp j (hold j hj hne)
  · intro j hj
    by_cases hne : j = i
    · rw [hne, hscanned, update_self]
      exact htime
    · rw [hscanned, update_of_ne hne]
      exact (h.past j (hold j hj hne)).trans hclock

theorem Stamped.step (h : Stamped w s) (hs : Sound s) (e : Event) : Stamped w (step w s e) := by
  cases e with
  | other currentNetwork dot11d => exact ⟨h.stamp, h.past⟩
  | frame call ticks later =>
    obtain ⟨o, new, networks, -, hdoes, hstep⟩ := step_frame (w := w) hs call ticks later
    rw [hstep]
    have hclock : s.clock ≤ s.clock + ticks + later := by omega
    generalize hs' : ({ s with
      networks := networks
      clock := s.clock + ticks + later
      scannedAt := Beacon.stamp s.scannedAt (s.clock + ticks) (s.clock + ticks + later) o } : State) = s'
    have hnetworks : s'.networks = networks := by rw [← hs']
    have hclock' : s'.clock = s.clock + ticks + later := by rw [← hs']
    have hscanned : s'.scannedAt =
      Beacon.stamp s.scannedAt (s.clock + ticks) (s.clock + ticks + later) o := by rw [← hs']
    have hsame (heap : networks.heap = s.networks.heap) : s'.listed = s.listed := by
      simp only [State.listed, State.slotsOn, hnetworks, heap]
    cases hdoes with
    | ignored heap slot =>
      constructor
      · rw [hsame heap, hnetworks, slot, hscanned]
        exact h.stamp
      · rw [hsame heap, hscanned, hclock']
        exact fun j hj => (h.past j hj).trans hclock
    | @updated _ network i heap slot =>
      refine h.scan (i := i) (fun j hj => .inr (hsame heap ▸ hj)) (fun j hj => ?_) hscanned ?_
        (hclock'.symm ▸ hclock) hclock'.ge
      · rw [hnetworks, slot, update_of_ne hj]
      · rw [hnetworks, slot, update_self]
        rfl
    | @put _ network i k o heap slot hd mem new outcome =>
      have hlisted : ∀ j ∈ s'.listed, j = i ∨ j ∈ s.listed := fun j hj => by
        rw [State.listed, slotsOn_eq (f := move s.slotsOn i k .networkList)
          (hnetworks ▸ put_rings hs.rings mem heap)] at hj
        exact ((hs.rings.mem_move mem .networkList .networkList j).mp hj).imp And.left And.right
      have hscanned' : s'.scannedAt = update s.scannedAt i (s.clock + ticks) := by
        rcases outcome with ⟨rfl, -⟩ | ⟨rfl, -⟩ <;> exact hscanned
      refine h.scan hlisted (fun j hj => ?_) hscanned' ?_ (hclock'.symm ▸ hclock)
        (by rw [hclock']; omega)
      · rw [hnetworks, slot, update_of_ne hj]
      · rw [hnetworks, slot, update_self]
        exact describedNetwork_stamp (Prod.ext hd rfl)

theorem listed_length (h : Sound s) : s.listed.length = maxNetworkCount ↔ s.slotsOn .networkFreeList = [] := by
  have hnodup : s.listed.Nodup := h.rings.nodup .networkList
  constructor
  · intro hlen
    rw [List.eq_nil_iff_forall_not_mem]
    intro i hi
    have hnot : i ∉ s.listed := fun hm => by cases h.rings.disjoint _ _ i hi hm
    have hle := (List.nodup_cons.mpr ⟨hnot, hnodup⟩).length_le_card
    rw [List.length_cons, hlen, Fintype.card_fin] at hle
    omega
  · intro hfree
    have hall : ∀ i, i ∈ s.listed := fun i => by
      obtain ⟨k, hk⟩ := h.covers i
      cases k with
      | networkFreeList => simp [hfree] at hk
      | networkList => exact hk
    have huniv : s.listed.toFinset = Finset.univ := Finset.eq_univ_of_forall fun i => by simp [hall i]
    rw [← List.toFinset_card_of_nodup hnodup, huniv, Finset.card_univ, Fintype.card_fin]

theorem sound_exec (w : Nat) (networks : Networks) (clock : Nat) (scannedAt : Slot → Nat)
    (es : List Event) : Sound (exec (step w) (State.init networks clock scannedAt) es) ∧
      Stamped w (exec (step w) (State.init networks clock scannedAt) es) := by
  obtain ⟨hsound, hlisted⟩ := sound_init networks clock scannedAt
  refine exec_inv (I := fun s : State => Sound s ∧ Stamped w s)
    (fun s e h _ => ⟨h.1.step e, h.2.step h.1 e⟩) ⟨hsound, ?_, ?_⟩ (meets_of_forall fun _ _ => trivial)
  · simp [hlisted]
  · simp [hlisted]

end Invariant

/-! ## Eviction -/

def NeedsRoom (s : State) (call : Call) : Prop :=
  s.slotsOn .networkFreeList = [] ∧ ∃ network,
    (describedNetwork call s.networks.dot11d).1 = some network ∧
      ∀ j ∈ s.listed, ¬ Same (s.networks.slot j) network

/-- The network in the slot was scanned longest ago, and `last_scanned` says so: no other value is
less, and an equal one stands behind it on the list. -/
structure OldestFirst (s : State) (i : Slot) : Prop where
  mem : i ∈ s.listed
  oldest : ∀ j ∈ s.listed, s.scannedAt i ≤ s.scannedAt j
  least : ∀ j ∈ s.listed, (s.networks.slot i).lastScanned ≤ (s.networks.slot j).lastScanned
  first : ∀ j ∈ s.listed, (s.networks.slot j).lastScanned = (s.networks.slot i).lastScanned →
    s.listed.idxOf i ≤ s.listed.idxOf j

/-- When room is needed, the wraps of `jiffies` do not hide what was scanned longest ago. -/
def Clean (w : Nat) (s : State) : Event → Prop
  | .frame call ticks later => NeedsRoom s (s.call w call ticks later) → ∃ i, OldestFirst s i
  | .other .. => True

/-- The entry that makes way, if one does, was scanned longest ago. -/
def EvictsOldest (w : Nat) (s : State) : Event → Prop
  | .frame call ticks later => ∀ i new networks,
      rtllibProcessProbeResponse w (s.call w call ticks later) s.networks =
        some (.evicted i, new, networks) → ∀ j ∈ s.listed, s.scannedAt i ≤ s.scannedAt j
  | .other .. => True

/-- The listed networks were scanned between the same two wraps of `jiffies`. -/
def NoWrap (w : Nat) (s : State) : Prop :=
  ∀ i ∈ s.listed, ∀ j ∈ s.listed, s.scannedAt i / 2 ^ w = s.scannedAt j / 2 ^ w

section Eviction

variable {w : Nat} {s : State}

theorem oldestFirst_iff {i : Slot} : OldestFirst s i ↔
    s.listed.argmin (fun j => (s.networks.slot j).lastScanned) = some i ∧
      ∀ j ∈ s.listed, s.scannedAt i ≤ s.scannedAt j := by
  rw [List.argmin_eq_some_iff]
  constructor
  · exact fun h => ⟨⟨h.mem, h.least, fun j hj hle => h.first j hj (hle.antisymm (h.least j hj))⟩, h.oldest⟩
  · exact fun ⟨⟨hmem, hleast, hfirst⟩, hold⟩ => ⟨hmem, hold, hleast, fun j hj heq => hfirst j hj heq.le⟩

theorem evictsOldest_iff (h : Sound s) (e : Event) : EvictsOldest w s e ↔ Clean w s e := by
  -- One step evicts the right entry exactly when it is clean.
  cases e with
  | other currentNetwork dot11d => exact Iff.rfl
  | frame call ticks later =>
    obtain ⟨o, new, networks, hprocess, hdoes, -⟩ := step_frame (w := w) h call ticks later
    simp only [EvictsOldest, Clean, hprocess]
    cases hdoes with
    | ignored _ _ hd =>
      refine iff_of_true (fun i new' networks' heq => by cases heq) ?_
      rintro ⟨-, network, hd', -⟩
      rw [hd] at hd'
      cases hd'
    | updated _ _ hd hmem hsame =>
      refine iff_of_true (fun i new' networks' heq => by cases heq) ?_
      rintro ⟨-, network, hd', hno⟩
      obtain rfl := Option.some.inj (hd.symm.trans hd')
      exact absurd hsame (hno _ hmem)
    | put _ _ hd hmem hnew houtcome =>
      rcases houtcome with ⟨rfl, rfl⟩ | ⟨rfl, rfl, hfree, hmin⟩
      · refine iff_of_true (fun i new' networks' heq => by cases heq) ?_
        rintro ⟨hfree, -⟩
        rw [hfree] at hmem
        cases hmem
      · constructor
        · exact fun hev _ => ⟨_, oldestFirst_iff.mpr ⟨hmin, hev _ _ _ rfl⟩⟩
        · intro hclean i new' networks' heq
          cases heq
          obtain ⟨i', hi'⟩ := hclean ⟨hfree, _, hd, hnew⟩
          obtain ⟨hmin', hold⟩ := oldestFirst_iff.mp hi'
          obtain rfl := Option.some.inj (hmin'.symm.trans hmin)
          exact hold

theorem clean_of_noWrap (h : Sound s) (hstamped : Stamped w s) (hwrap : NoWrap w s) (e : Event) :
    Clean w s e := by
  cases e with
  | other currentNetwork dot11d => trivial
  | frame call ticks later =>
    rintro ⟨hfree, -⟩
    cases hmin : s.listed.argmin fun j => (s.networks.slot j).lastScanned with
    | none =>
      exfalso
      have hnil : s.slotsOn .networkList = [] := List.argmin_eq_none.mp hmin
      obtain ⟨k, hk⟩ := h.covers 0
      cases k with
      | networkFreeList => simp [hfree] at hk
      | networkList => simp [hnil] at hk
    | some i =>
      obtain ⟨hmem, hleast, -⟩ := List.argmin_eq_some_iff.mp hmin
      refine ⟨i, oldestFirst_iff.mpr ⟨hmin, fun j hj => ?_⟩⟩
      have hle := hleast j hj
      rw [hstamped.stamp i hmem, hstamped.stamp j hj] at hle
      calc s.scannedAt i = 2 ^ w * (s.scannedAt i / 2 ^ w) + s.scannedAt i % 2 ^ w :=
            (Nat.div_add_mod ..).symm
        _ ≤ 2 ^ w * (s.scannedAt j / 2 ^ w) + s.scannedAt j % 2 ^ w := by
            rw [hwrap i hmem j hj]
            exact Nat.add_le_add_left hle _
        _ = s.scannedAt j := Nat.div_add_mod ..

end Eviction

/-! ## A wrap of `jiffies` -/

def allChannels : Dot11dInfo := { (default : Dot11dInfo) with channelMap := fun _ => 1 }

/-- A beacon of 39 bytes from the access point `i`: the fixed part and the channel. -/
def beacon (i : Nat) : Call where
  env := { (default : Env) with
    mem := fun off =>
      if off = 16 then BitVec.ofNat 8 i else if off = 36 then 3 else if off = 37 ∨ off = 38 then 1 else 0
    statsLen := 39 }
  jiffies := 0
  alloc := true
  bGlobalDomain := false
  scanAge := 0
  softmacAssociate := true

theorem parseInfoParam_dsSet {env : Env} {pos : Nat} (network : Network) (dot11d : Dot11dInfo)
    (hid : env.mem pos = 3) (hone : env.mem (pos + 1) = 1) :
    ∃ network', (rtllibParseInfoParam env pos 3 network dot11d).val = (network', dot11d) ∧
      network'.bssid = network.bssid ∧ network'.flags = network.flags ∧
      network'.channel = env.mem (pos + 2) := by
  have hloop : ∀ st, (parseLoop env 3 3 pos st).val =
      { st with network := { st.network with channel := env.mem (pos + 2) } } := fun st => by
    simp [parseLoop, hone, hid, parseElement, ParseState.setNetwork, parseDsSet]
  simp only [rtllibParseInfoParam, bind_val, pure_val, show (3 : BitVec 16).toNat = 3 from rfl, hloop]
  exact ⟨_, rfl, rfl, rfl, rfl⟩

theorem networkInit_dsSet {env : Env} (dot11d : Dot11dInfo) (hlen : env.statsLen = 39)
    (hid : env.mem 36 = 3) (hone : env.mem 37 = 1) (hfreq : env.freq ≠ rtllib52ghzBand) :
    ∃ network, (rtllibNetworkInit env default dot11d).val = (some network, dot11d) ∧
      network.bssid = (fun i : Fin 6 => env.mem (16 + i)) ∧ network.channel = env.mem 38 := by
  -- A frame whose only element is a DS parameter set.
  simp only [rtllibNetworkInit, bind_val, ite_val, pure_val, sizeofProbeResponse, hlen]
  generalize hfixed : initFixed env _ _ = fixed
  have hflags : fixed.flags = networkHasCck := by
    rw [← hfixed]
    exact if_neg hfreq
  have hbssid : fixed.bssid = fun i : Fin 6 => env.mem (16 + i) := by
    rw [← hfixed]
    funext i
    simp only [initFixed, copy_val, frameByte_val]
    grind
  obtain ⟨network, hparse, hb, hf, hc⟩ := parseInfoParam_dsSet fixed dot11d hid hone
  rw [show (39 - BitVec.ofNat 16 36 : BitVec 16) = 3 from rfl, hparse]
  simp only
  rw [if_neg (by simp only [modeOf, if_neg hfreq, hf, hflags]; decide)]
  exact ⟨_, rfl, hb.trans hbssid, hc⟩

theorem describedNetwork_beacon (w i now later : Nat) :
    ∃ network, describedNetwork ((beacon i).atTime w now later) allChannels = (some network, allChannels) ∧
      network.bssid 0 = BitVec.ofNat 8 i := by
  obtain ⟨network, hinit, hbssid, hch⟩ := networkInit_dsSet allChannels
    (show ((beacon i).atTime w now later).env.statsLen = 39 from rfl) rfl rfl
    (show (default : Env).freq ≠ rtllib52ghzBand by decide)
  refine ⟨network, ?_, ?_⟩
  · have hok : channelOk ((beacon i).atTime w now later) allChannels network.channel = true := by
      rw [hch]
      rfl
    have halloc : ((beacon i).atTime w now later).alloc = true := rfl
    simp only [describedNetwork, hinit, halloc, if_true, Option.filter_some, hok]
  · rw [hbssid]
    rfl

section Wrap

variable {w n : Nat} {s : State}

/-- The clock when frame `m` is scanned: it wraps between the first frame and the second. -/
def scanTime (w m : Nat) : Nat := 2 ^ w - 1 + if m = 0 then 0 else 1

/-- One frame for each of the access points, the first one jiffy before the wrap. -/
def beaconFrame (m : Nat) : Event := .frame (beacon m) (if m = 1 then 1 else 0) 0

def beaconRun (n : Nat) : List Event := (List.range n).map beaconFrame

/-- The first `n` access points are listed in order. -/
structure Filled (w n : Nat) (s : State) : Prop where
  dot11d : s.networks.dot11d = allChannels
  clock : s.clock = scanTime w (n - 1)
  listed : s.listed.map (fun i => ((s.networks.slot i).bssid 0, s.scannedAt i)) =
    (List.range n).map fun m => (BitVec.ofNat 8 m, scanTime w m)

theorem Filled.new (h : Filled w n s) (hn : n ≤ maxNetworkCount) (now later : Nat) :
    ∃ network, describedNetwork ((beacon n).atTime w now later) s.networks.dot11d = (some network, allChannels) ∧
      network.bssid 0 = BitVec.ofNat 8 n ∧ ∀ j ∈ s.listed, ¬ Same (s.networks.slot j) network := by
  obtain ⟨network, hd, hb⟩ := describedNetwork_beacon w n now later
  refine ⟨network, h.dot11d ▸ hd, hb, fun j hj hsame => ?_⟩
  have hbssid : (s.networks.slot j).bssid = network.bssid := congrArg Key.bssid (same_iff.mp hsame).1
  have hmem := List.mem_map_of_mem (f := fun i => ((s.networks.slot i).bssid 0, s.scannedAt i)) hj
  rw [h.listed, List.mem_map] at hmem
  obtain ⟨m, hm, heq⟩ := hmem
  rw [hbssid, hb, Prod.mk.injEq] at heq
  have := congrArg BitVec.toNat heq.1
  simp only [BitVec.toNat_ofNat, List.mem_range, maxNetworkCount] at this hm hn
  omega

theorem Filled.step (h : Filled w n s) (hs : Sound s) (hn : n < maxNetworkCount) :
    Filled w (n + 1) (Beacon.step w s (beaconFrame n)) := by
  obtain ⟨network, hd, hb, hnew⟩ := h.new hn.le (s.clock + if n = 1 then 1 else 0)
    (s.clock + (if n = 1 then 1 else 0) + 0)
  obtain ⟨o, new, networks, hprocess, hdoes, hstep⟩ := step_frame (w := w) hs (beacon n)
    (if n = 1 then 1 else 0) 0
  have hdot11d := process_dot11d hprocess
  have hd' := congrArg Prod.fst hd
  have hclock : s.clock + (if n = 1 then 1 else 0) = scanTime w n := by
    rw [h.clock]
    unfold scanTime
    grind
  rw [beaconFrame, hstep]
  cases hdoes with
  | ignored _ _ hd'' => cases hd'.symm.trans hd''
  | updated _ _ hd'' hmem hsame =>
    obtain rfl := Option.some.inj (hd'.symm.trans hd'')
    exact absurd hsame (hnew _ hmem)
  | @put _ _ i k _ heap slot hd'' hmem _ houtcome =>
    obtain rfl := Option.some.inj (hd'.symm.trans hd'')
    rcases houtcome with ⟨rfl, rfl⟩ | ⟨-, -, hfree, -⟩
    · have hnot : i ∉ s.listed := fun hm => by cases hs.rings.disjoint _ _ i hmem hm
      generalize hs' : ({ s with
        networks := networks
        clock := s.clock + (if n = 1 then 1 else 0) + 0
        scannedAt := stamp s.scannedAt (s.clock + if n = 1 then 1 else 0)
          (s.clock + (if n = 1 then 1 else 0) + 0) (.added i) } : State) = s'
      have hlisted : s'.listed = s.listed ++ [i] := by
        have hr := put_rings hs.rings hmem heap
        rw [State.listed, slotsOn_eq (f := move s.slotsOn i .networkFreeList .networkList)
          (by rw [← hs']; exact hr), move, update_self]
        exact congrArg (· ++ [i]) (List.erase_of_not_mem hnot)
      refine ⟨?_, ?_, ?_⟩
      · rw [← hs', hdot11d]
        exact congrArg Prod.snd hd
      · rw [← hs']
        exact hclock
      · have hold : ∀ j ∈ s.listed, j ≠ i := fun j hj hji => hnot (hji ▸ hj)
        rw [hlisted, List.map_append, List.range_succ, List.map_append, ← h.listed]
        congr 1
        · refine List.map_congr_left fun j hj => ?_
          rw [← hs']
          simp only [slot, stamp, update_of_ne (hold j hj)]
        · have hbssid : (seenByCurrent s.networks.currentNetwork network).bssid 0 = .ofNat 8 n := hb
          rw [← hs']
          simp only [slot, stamp, update_self, List.map_cons, List.map_nil, hbssid, hclock]
    · have hlen := congrArg List.length h.listed
      rw [List.length_map, (listed_length hs).mpr hfree] at hlen
      simp at hlen
      omega

theorem filled_run {networks : Networks} (hdot11d : networks.dot11d = allChannels)
    (scannedAt : Slot → Nat) (hn : n ≤ maxNetworkCount) :
    Filled w n (exec (Beacon.step w) (State.init networks (2 ^ w - 1) scannedAt) (beaconRun n)) := by
  induction n with
  | zero =>
    refine ⟨hdot11d, rfl, ?_⟩
    rw [beaconRun, List.range_zero, List.map_nil, exec_nil, (sound_init ..).2]
    rfl
  | succ n ih =>
    rw [beaconRun, List.range_succ, List.map_append, exec_append]
    exact (ih (by omega)).step (sound_exec ..).1 hn

/-- With all slots taken, the entry scanned longest ago has the greatest time stamp. -/
theorem Filled.not_clean (h : Filled w maxNetworkCount s) (hs : Sound s) (hst : Stamped w s) (hw : 0 < w) :
    ¬ Clean w s (beaconFrame maxNetworkCount) := by
  intro hclean
  obtain ⟨network, hd, -, hnew⟩ := h.new le_rfl (s.clock + 0) (s.clock + 0 + 0)
  have hlen := congrArg List.length h.listed
  rw [List.length_map, List.length_map, List.length_range] at hlen
  obtain ⟨i, hi⟩ := hclean ⟨(listed_length hs).mp hlen, network, congrArg Prod.fst hd, hnew⟩
  have hscan : ∀ m < maxNetworkCount, ∃ j ∈ s.listed, s.scannedAt j = scanTime w m := fun m hm => by
    have hmem : (BitVec.ofNat 8 m, scanTime w m) ∈
        s.listed.map fun i => ((s.networks.slot i).bssid 0, s.scannedAt i) := by
      rw [h.listed]
      exact List.mem_map_of_mem (List.mem_range.mpr hm)
    obtain ⟨j, hj, heq⟩ := List.mem_map.mp hmem
    exact ⟨j, hj, congrArg Prod.snd heq⟩
  obtain ⟨j₀, hj₀, hscan₀⟩ := hscan 0 (by decide)
  obtain ⟨j₁, hj₁, hscan₁⟩ := hscan 1 (by decide)
  have hold := hi.oldest j₀ hj₀
  have hleast := hi.least j₁ hj₁
  have hmem := List.mem_map_of_mem (f := fun i => ((s.networks.slot i).bssid 0, s.scannedAt i)) hi.mem
  rw [h.listed, List.mem_map] at hmem
  obtain ⟨m, -, heq⟩ := hmem
  have hm : scanTime w m = s.scannedAt i := congrArg Prod.snd heq
  have hpow : 2 ≤ 2 ^ w := Nat.pow_le_pow_right (n := 2) (by decide) hw
  rw [hst.stamp i hi.mem, hst.stamp j₁ hj₁, hscan₁] at hleast
  rw [hscan₀] at hold
  simp only [scanTime] at hleast hold hm
  have hi' : s.scannedAt i = 2 ^ w - 1 := by
    split at hm <;> simp at hold <;> omega
  rw [hi', Nat.mod_eq_of_lt (by omega), if_neg (by decide), Nat.sub_add_cancel (by omega), Nat.mod_self] at hleast
  omega

end Wrap

/-! ## Main result -/

/-- In every state of a run each slot is on one list and the keys differ; a frame whose network is
listed adds no entry; and the evictions of the run take what was scanned longest ago exactly when
its steps are clean, as they are when `jiffies` does not wrap. -/
theorem networks_sound (w : Nat) (networks : Networks) (clock : Nat) (scannedAt : Slot → Nat)
    (es : List Event) :
    let run := exec (step w) (State.init networks clock scannedAt)
    (Sound (run es) ∧ Stamped w (run es)) ∧
    (∀ call ticks later network,
      (describedNetwork ((run es).call w call ticks later) (run es).networks.dot11d).1 = some network →
      (∃ i ∈ (run es).listed, ((run es).networks.slot i).key = network.key) →
      (run (es ++ [.frame call ticks later])).listed = (run es).listed) ∧
    (Meets (step w) (Clean w) (State.init networks clock scannedAt) es ↔
      ∀ fs e, fs ++ [e] <+: es → EvictsOldest w (run fs) e) ∧
    ((∀ fs, fs <+: es → NoWrap w (run fs)) →
      Meets (step w) (Clean w) (State.init networks clock scannedAt) es) := by
  intro run
  have hrun : ∀ fs, Sound (run fs) ∧ Stamped w (run fs) := sound_exec w networks clock scannedAt
  refine ⟨hrun es, fun call ticks later network hd hkey => ?_, ?_, fun hwrap => ?_⟩
  · rw [show run (es ++ [.frame call ticks later]) = step w (run es) (.frame call ticks later) from
      exec_append ..]
    exact (hrun es).1.listed_step hd hkey
  · rw [meets_iff_forall_step]
    exact forall₃_congr fun fs e _ => (evictsOldest_iff (hrun fs).1 e).symm
  · refine meets_iff_forall_step.mpr fun fs e hfs => ?_
    exact clean_of_noWrap (hrun fs).1 (hrun fs).2 (hwrap fs ((List.prefix_append fs [e]).trans hfs)) e

/-- 96 access points are scanned, the first one jiffy before `jiffies` wraps. For the next one the
second makes way. -/
theorem not_always_evictsOldest : ¬ ∀ (w : Nat) (networks : Networks) (clock : Nat) (scannedAt : Slot → Nat)
    (es fs : List Event) (e : Event), fs ++ [e] <+: es →
      EvictsOldest w (exec (Beacon.step w) (State.init networks clock scannedAt) fs) e := by
  intro h
  let networks : Networks :=
    ⟨⟨fun _ => .inl .networkList, fun _ => .inl .networkList⟩, fun _ => default, default, allChannels⟩
  have hrun := sound_exec 64 networks (2 ^ 64 - 1) (fun _ => 0) (beaconRun maxNetworkCount)
  refine (filled_run rfl (fun _ => 0) le_rfl).not_clean hrun.1 hrun.2 (by decide) ?_
  exact (evictsOldest_iff hrun.1 _).mp (h 64 _ _ _ _ _ _ (List.prefix_refl _))

end Rtl8190.Beacon
