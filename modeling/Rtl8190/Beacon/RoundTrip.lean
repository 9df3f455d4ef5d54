import Rtl8190.Beacon.Bounds
import Rtl8190.Beacon.Build
import Rtl8190.Beacon.Learn

/-!
# What a receiver learns from our beacon

`rtllib_probe_resp` writes a list of elements, and `rtllib_parse_info_param` learns what they say.
-/

open Rtl8190.Memory Rtl8190.Elements

namespace Rtl8190.Beacon

/-! ## The elements of our beacon -/

/-- `wpa_ie` is one element, whose length byte counts what follows it. -/
structure Ieee.HasIe (ieee : Ieee) : Prop where
  length : ieee.wpaIeLen = 2 + (ieee.wpaIe 1).toNat
  short : ieee.wpaIeLen ≤ 64

structure Ieee.HasWpaIe (ieee : Ieee) : Prop extends ieee.HasIe where
  id : ieee.wpaIe 0 = 221
  long : 6 ≤ ieee.wpaIeLen
  oui : copied (fun i => ieee.wpaIe (2 + i)) 4 = [0x00, 0x50, 0xf2, 0x01]

structure Ieee.HasRsnIe (ieee : Ieee) : Prop extends ieee.HasIe where
  id : ieee.wpaIe 0 = 48

/-- The lengths are those of the arrays, and `wpa_ie` is a WPA or RSN element if it is there. -/
structure Ieee.InBounds (ieee : Ieee) : Prop where
  ssid : ieee.currentNetwork.ssidLen ≤ 32
  rates : ieee.currentNetwork.ratesLen ≤ 12
  ratesEx : ieee.currentNetwork.ratesExLen ≤ 16
  wpa : ieee.wpaIeLen = 0 ∨ ieee.HasWpaIe ∨ ieee.HasRsnIe

namespace Ieee

variable {ieee : Ieee}

theorem HasIe.length_data (h : ieee.HasIe) :
    (copied (fun i => ieee.wpaIe (2 + i)) (ieee.wpaIeLen - 2)).length ≤ 62 := by
  rw [length_copied]
  have := h.short
  omega

theorem HasIe.copied_eq (h : ieee.HasIe) : copied ieee.wpaIe ieee.wpaIeLen =
    ieee.wpaIe 0 :: BitVec.ofNat 8 (ieee.wpaIeLen - 2) ::
      copied (fun i => ieee.wpaIe (2 + i)) (ieee.wpaIeLen - 2) := by
  have hlen : BitVec.ofNat 8 (ieee.wpaIeLen - 2) = ieee.wpaIe 1 := by
    rw [h.length, Nat.add_sub_cancel_left, BitVec.ofNat_toNat, BitVec.setWidth_eq]
  obtain ⟨n, hn⟩ : ∃ n, ieee.wpaIeLen = n + 2 := ⟨_, h.length.trans (Nat.add_comm _ _)⟩
  rw [hlen, hn, Nat.add_sub_cancel, copied_succ, copied_succ]
  simp only [Nat.zero_add, Nat.add_assoc, Nat.reduceAdd, Nat.add_comm 2]

theorem HasWpaIe.oui_data (h : ieee.HasWpaIe) :
    [0x00, 0x50, 0xf2, 0x01] <+: copied (fun i => ieee.wpaIe (2 + i)) (ieee.wpaIeLen - 2) := by
  have := h.long
  rw [← h.oui]
  unfold copied
  rw [show ieee.wpaIeLen - 2 = 4 + (ieee.wpaIeLen - 6) by omega, List.range_add, List.map_append]
  exact List.prefix_append _ _

variable (ieee)

inductive WpaInfos : List Info → Prop
  | none (h : ieee.wpaIeLen = 0) : WpaInfos []
  | wpa (h : ieee.HasWpaIe) : WpaInfos [.wpa _ h.length_data h.oui_data]
  | rsn (h : ieee.HasRsnIe) : WpaInfos [.rsn _ h.length_data]

/-- What the elements of the beacon say, those for `wpa_ie` being `wpa`. -/
def infos (h : ieee.InBounds) (wpa : List Info) : List Info :=
  [.ssid (copied ieee.currentNetwork.ssid ieee.currentNetwork.ssidLen)
      ((length_copied _ _).trans_le h.ssid),
    .rates (copied ieee.currentNetwork.rates ieee.currentNetwork.ratesLen)
      ((length_copied _ _).trans_le h.rates),
    .dsSet ieee.currentNetwork.channel] ++
  (if ieee.atimLen ≠ 0 then [.ibssSet ieee.currentNetwork.atimWindow] else []) ++
  (if ieee.erpLen ≠ 0 then [.erp ieee.erpinfoContent] else []) ++
  (if ieee.rateExLen ≠ 0 then
    [.ratesEx (copied ieee.currentNetwork.ratesEx ieee.currentNetwork.ratesExLen)
      ((length_copied _ _).trans_le h.ratesEx)] else []) ++
  wpa

variable {ieee} {wpa : List Info}

theorem HasWpaIe.bytes_eq (h : ieee.HasWpaIe) :
    (Info.wpa _ h.length_data h.oui_data).element.bytes = copied ieee.wpaIe ieee.wpaIeLen := by
  rw [h.copied_eq, h.id]
  simp only [Element.bytes, Info.element, Info.id, Info.data, length_copied]

theorem HasRsnIe.bytes_eq (h : ieee.HasRsnIe) :
    (Info.rsn _ h.length_data).element.bytes = copied ieee.wpaIe ieee.wpaIeLen := by
  rw [h.copied_eq, h.id]
  simp only [Element.bytes, Info.element, Info.id, Info.data, length_copied]

theorem HasIe.ne_zero (h : ieee.HasIe) : ieee.wpaIeLen ≠ 0 := by
  have := h.length
  omega

theorem wpaTag_eq (h : ieee.WpaInfos wpa) : ieee.wpaTag = encode (wpa.map Info.element) := by
  unfold wpaTag
  cases h with
  | none h => rw [if_neg (not_not.mpr h)]; rfl
  | wpa h => rw [if_pos h.ne_zero, ← h.bytes_eq]; exact (List.append_nil _).symm
  | rsn h => rw [if_pos h.ne_zero, ← h.bytes_eq]; exact (List.append_nil _).symm

theorem ratesExTag_eq (h : ieee.currentNetwork.ratesExLen ≤ 16) : ieee.ratesExTag =
    encode ((if ieee.rateExLen ≠ 0 then
      [.ratesEx (copied ieee.currentNetwork.ratesEx ieee.currentNetwork.ratesExLen)
        ((length_copied _ _).trans_le h)] else []).map Info.element) := by
  unfold ratesExTag
  split_ifs with hlen
  · have : ieee.rateExLen - 2 = ieee.currentNetwork.ratesExLen := by
      unfold rateExLen at hlen ⊢
      split_ifs at hlen ⊢
      · exact Nat.add_sub_cancel _ _
      · contradiction
    simp [this, Element.bytes, Info.element, Info.id, Info.data]
  · rfl

theorem tags_eq (h : ieee.InBounds) (hwpa : ieee.WpaInfos wpa) :
    ieee.tags = encode ((ieee.infos h wpa).map Info.element) := by
  have hatim : ieee.atimTag = encode ((if ieee.atimLen ≠ 0 then
      [.ibssSet ieee.currentNetwork.atimWindow] else []).map Info.element) := by
    unfold atimTag
    split_ifs <;> rfl
  have herp : ieee.erpTag = encode ((if ieee.erpLen ≠ 0 then
      [.erp ieee.erpinfoContent] else []).map Info.element) := by
    unfold erpTag
    split_ifs <;> rfl
  simp only [tags, infos, List.map_append, encode_append, ← hatim, ← herp,
    ← ratesExTag_eq h.ratesEx, ← wpaTag_eq hwpa]
  simp [ssidTag, ratesTag, dsSetTag, rateLen, Element.bytes, Info.element, Info.id, Info.data]

theorem WpaInfos.id_of_mem (h : ieee.WpaInfos wpa) {i : Info} (hi : i ∈ wpa) :
    i.id = 221 ∨ i.id = 48 := by
  cases h with
  | none => cases hi
  | wpa h => rw [List.mem_singleton.mp hi]; exact .inl rfl
  | rsn h => rw [List.mem_singleton.mp hi]; exact .inr rfl

theorem mem_infos_iff (h : ieee.InBounds) {i : Info} : i ∈ ieee.infos h wpa ↔
    i = .ssid (copied ieee.currentNetwork.ssid ieee.currentNetwork.ssidLen)
        ((length_copied _ _).trans_le h.ssid) ∨
      i = .rates (copied ieee.currentNetwork.rates ieee.currentNetwork.ratesLen)
        ((length_copied _ _).trans_le h.rates) ∨
      i = .dsSet ieee.currentNetwork.channel ∨
      (ieee.atimLen ≠ 0 ∧ i = .ibssSet ieee.currentNetwork.atimWindow) ∨
      (ieee.erpLen ≠ 0 ∧ i = .erp ieee.erpinfoContent) ∨
      (ieee.rateExLen ≠ 0 ∧
        i = .ratesEx (copied ieee.currentNetwork.ratesEx ieee.currentNetwork.ratesExLen)
          ((length_copied _ _).trans_le h.ratesEx)) ∨ i ∈ wpa := by
  simp only [infos, List.mem_append, List.mem_cons, List.not_mem_nil, or_false,
    List.mem_ite_nil_right, or_assoc]

theorem infos_nodup (h : ieee.InBounds) (hwpa : ieee.WpaInfos wpa) :
    ((ieee.infos h wpa).map Info.id).Nodup := by
  have hids (c : Prop) [Decidable c] (i : Info) :
      (if c then [i] else []).map Info.id = if c then [i.id] else [] := by
    split <;> rfl
  have hwpa' : wpa.map Info.id = [] ∨ wpa.map Info.id = [221] ∨ wpa.map Info.id = [48] := by
    cases hwpa <;> simp [Info.id]
  simp only [infos, List.map_append, hids, List.map_cons, List.map_nil, Info.id]
  rcases hwpa' with hw | hw | hw <;> rw [hw] <;> split_ifs <;> decide

end Ieee

/-! ## What is recovered -/

def SameSsid (network heard : Network) : Prop :=
  heard.ssidLen = network.ssidLen ∧ ∀ i < network.ssidLen, heard.ssid i = network.ssid i

def SameRates (network heard : Network) : Prop :=
  heard.ratesLen = network.ratesLen ∧ ∀ i < network.ratesLen, heard.rates i = network.rates i

def SameRatesEx (network heard : Network) : Prop :=
  heard.ratesExLen = network.ratesExLen ∧
    ∀ i < network.ratesExLen, heard.ratesEx i = network.ratesEx i

def SameWpaIe (ieee : Ieee) (heard : Network) : Prop :=
  heard.wpaIeLen = ieee.wpaIeLen ∧ ∀ i < ieee.wpaIeLen, heard.wpaIe i = ieee.wpaIe i

def SameRsnIe (ieee : Ieee) (heard : Network) : Prop :=
  heard.rsnIeLen = ieee.wpaIeLen ∧ ∀ i < ieee.wpaIeLen, heard.rsnIe i = ieee.wpaIe i

def Network.useProtection (network : Network) : Bool := network.erpValue &&& erpUseProtection ≠ 0

/-- What a receiver gets out of the beacon of `ieee`, the call having left `ieee'`. -/
structure Recovered (ieee ieee' : Ieee) (heard : Network) : Prop where
  ssid : ¬ EmptyEssid (copied ieee.currentNetwork.ssid ieee.currentNetwork.ssidLen) →
    SameSsid ieee.currentNetwork heard
  hidden : EmptyEssid (copied ieee.currentNetwork.ssid ieee.currentNetwork.ssidLen) →
    heard.ssidLen = 0
  rates : SameRates ieee.currentNetwork heard
  ratesEx : SameRatesEx ieee.currentNetwork heard
  channel : heard.channel = ieee.currentNetwork.channel
  protection : ieee.erpLen ≠ 0 → heard.useProtection = ieee.buseprotection
  /-- Without an ERP element, an IBSS is taken to use protection. -/
  noErp : ieee.erpLen = 0 → heard.useProtection = ieee.currentNetwork.capability.getLsbD 1
  atimWindow : ieee.atimLen ≠ 0 → ieee.currentNetwork.atimWindow < 256 →
    heard.atimWindow = ieee.currentNetwork.atimWindow
  noAtim : ieee.atimLen = 0 → heard.atimWindow = 0
  wpaIe : ¬ ieee.HasRsnIe → SameWpaIe ieee' heard
  rsnIe : ieee.HasRsnIe → heard.wpaIeLen = 0 ∧ SameRsnIe ieee' heard

theorem Recovered.setUnknown {ieee ieee' : Ieee} {heard : Network} (h : Recovered ieee ieee' heard)
    (unknown : Bool) : Recovered ieee ieee' { heard with unknownCapExist := unknown } :=
  ⟨h.ssid, h.hidden, h.rates, h.ratesEx, h.channel, h.protection, h.noErp, h.atimWindow, h.noAtim,
    h.wpaIe, h.rsnIe⟩

/-- The network before the elements are parsed. -/
structure Blank (ieee : Ieee) (network : Network) : Prop where
  ssid : network.ssidLen = 0
  ratesEx : network.ratesExLen = 0
  atim : network.atimWindow = 0
  wpa : network.wpaIeLen = 0
  erp : network.useProtection = ieee.currentNetwork.capability.getLsbD 1

section

variable {ieee : Ieee} {wpa : List Info} {network : Network}

theorem forall_copied {src f : Nat → Byte} {n : Nat}
    (h : ∀ i (hi : i < (copied src n).length), f i = (copied src n)[i]) : ∀ i < n, f i = src i := by
  intro i hi
  rw [h i ((length_copied _ _).symm ▸ hi), getElem_copied]

theorem Ieee.HasWpaIe.same (h : ieee.HasWpaIe) {heard : Network}
    (hknown : (Info.wpa _ h.length_data h.oui_data).KnownTo heard) : SameWpaIe ieee heard := by
  obtain ⟨hlen, hbytes⟩ := hknown
  rw [length_copied] at hlen
  rw [h.bytes_eq] at hbytes
  have := h.length
  exact ⟨by omega, forall_copied hbytes⟩

theorem Ieee.HasRsnIe.same (h : ieee.HasRsnIe) {heard : Network}
    (hknown : (Info.rsn _ h.length_data).KnownTo heard) : SameRsnIe ieee heard := by
  obtain ⟨hlen, hbytes⟩ := hknown
  rw [length_copied] at hlen
  rw [h.bytes_eq] at hbytes
  have := h.length
  exact ⟨by omega, forall_copied hbytes⟩

/-- What an element with this identifier leaves as it is. -/
structure Learnt (id : Byte) (network network' : Network) : Prop where
  ssid : id ≠ 0 → network'.ssidLen = network.ssidLen
  atim : id ≠ 6 → network'.atimWindow = network.atimWindow
  erp : id ≠ 42 → network'.erpValue = network.erpValue
  ratesEx : id ≠ 50 → network'.ratesExLen = network.ratesExLen
  wpa : id ≠ 221 → network'.wpaIeLen = network.wpaIeLen

theorem learn_learnt (i : Info) (network : Network) : Learnt i.id network (learn network i) := by
  constructor
  all_goals
    intro h
    cases i <;> first | rfl | exact absurd rfl h

/-- Why an element with this identifier is in the beacon. -/
structure Ieee.Sends (ieee : Ieee) (id : Byte) : Prop where
  atim : id = 6 → ieee.atimLen ≠ 0
  erp : id = 42 → ieee.erpLen ≠ 0
  ratesEx : id = 50 → ieee.rateExLen ≠ 0
  wpa : id = 221 → ieee.HasWpaIe

theorem Ieee.sends_of_mem (h : ieee.InBounds) (hwpa : ieee.WpaInfos wpa) {i : Info}
    (hi : i ∈ ieee.infos h wpa) : ieee.Sends i.id := by
  rcases (Ieee.mem_infos_iff h).mp hi with rfl | rfl | rfl | ⟨hc, rfl⟩ | ⟨hc, rfl⟩ | ⟨hc, rfl⟩ | hw
  case inr.inr.inr.inr.inr.inr =>
    cases hwpa with
    | none => cases hw
    | wpa hw' => rw [List.mem_singleton.mp hw]; constructor <;> simp [Info.id, hw']
    | rsn hw' => rw [List.mem_singleton.mp hw]; constructor <;> simp [Info.id]
  all_goals constructor <;> simp_all [Info.id]

theorem recovered_hidden (h : ieee.InBounds) (hwpa : ieee.WpaInfos wpa)
    (hempty : EmptyEssid (copied ieee.currentNetwork.ssid ieee.currentNetwork.ssidLen)) :
    ((ieee.infos h wpa).foldl learn network).ssidLen = network.ssidLen := by
  apply foldl_learn_keeps Network.ssidLen
  intro i hi network
  by_cases hid : i.id = 0
  · rcases (Ieee.mem_infos_iff h).mp hi with rfl | rfl | rfl | ⟨-, rfl⟩ | ⟨-, rfl⟩ | ⟨-, rfl⟩ | hw
    case inl => exact if_pos hempty
    case inr.inr.inr.inr.inr.inr =>
      rcases hwpa.id_of_mem hw with hw | hw
      all_goals
        rw [hid] at hw
        cases hw
    all_goals cases hid
  · exact (learn_learnt i network).ssid hid

theorem recovered_foldl (h : ieee.InBounds) (hwpa : ieee.WpaInfos wpa)
    (hblank : Blank ieee network) :
    Recovered ieee ieee ((ieee.infos h wpa).foldl learn network) := by
  -- All that the elements say, and what they do not mention, as it was before.
  have hknown {i : Info} (hi : i ∈ ieee.infos h wpa) :=
    Info.knownTo_foldl (ieee.infos_nodup h hwpa) hi network
  have hmem {i : Info} (hi : _) : i ∈ ieee.infos h wpa := (Ieee.mem_infos_iff h).mpr hi
  have hmemWpa {i : Info} (hi : i ∈ wpa) : i ∈ ieee.infos h wpa := List.mem_append_right _ hi
  constructor
  case ssid =>
    intro hne
    obtain ⟨hlen, hbytes⟩ := hknown (hmem (.inl rfl)) hne
    exact ⟨hlen.trans (length_copied _ _), forall_copied hbytes⟩
  case hidden => exact fun hempty => (recovered_hidden h hwpa hempty).trans hblank.ssid
  case rates =>
    obtain ⟨hlen, hbytes⟩ := hknown (hmem (.inr (.inl rfl)))
    exact ⟨hlen.trans (length_copied _ _), forall_copied hbytes⟩
  case ratesEx =>
    by_cases hex : ieee.rateExLen = 0
    · have hzero : ieee.currentNetwork.ratesExLen = 0 := by
        unfold Ieee.rateExLen at hex
        split_ifs at hex with hpos
        exact Nat.eq_zero_of_not_pos hpos
      have hkept : ((ieee.infos h wpa).foldl learn network).ratesExLen = network.ratesExLen := by
        apply foldl_learn_keeps Network.ratesExLen
        intro i hi network
        exact (learn_learnt i network).ratesEx fun hid =>
          (Ieee.sends_of_mem h hwpa hi).ratesEx hid hex
      exact ⟨(hkept.trans hblank.ratesEx).trans hzero.symm, fun i hi => by omega⟩
    · obtain ⟨hlen, hbytes⟩ :=
        hknown (hmem (.inr (.inr (.inr (.inr (.inr (.inl ⟨hex, rfl⟩)))))))
      exact ⟨hlen.trans (length_copied _ _), forall_copied hbytes⟩
  case channel => exact hknown (hmem (.inr (.inr (.inl rfl))))
  case protection =>
    intro herp
    have hvalue := hknown (hmem (.inr (.inr (.inr (.inr (.inl ⟨herp, rfl⟩))))))
    unfold Network.useProtection
    rw [show _ = ieee.erpinfoContent from hvalue, Ieee.erpinfoContent]
    cases ieee.buseprotection <;> rfl
  case noErp =>
    intro hnone
    have hkept : ((ieee.infos h wpa).foldl learn network).erpValue = network.erpValue := by
      apply foldl_learn_keeps Network.erpValue
      intro i hi network
      exact (learn_learnt i network).erp fun hid => (Ieee.sends_of_mem h hwpa hi).erp hid hnone
    rw [← hblank.erp]
    unfold Network.useProtection
    rw [hkept]
  case atimWindow =>
    intro hatim hsmall
    have hvalue := hknown (hmem (.inr (.inr (.inr (.inl ⟨hatim, rfl⟩)))))
    refine Eq.trans hvalue (BitVec.eq_of_toNat_eq ?_)
    have : ieee.currentNetwork.atimWindow.toNat < 256 := hsmall
    simp only [BitVec.toNat_setWidth]
    omega
  case noAtim =>
    intro hnone
    refine (foldl_learn_keeps Network.atimWindow ?_ network).trans hblank.atim
    intro i hi network
    exact (learn_learnt i network).atim fun hid => (Ieee.sends_of_mem h hwpa hi).atim hid hnone
  case wpaIe =>
    intro hrsn
    cases hwpa with
    | none hlen =>
      have hkept : ((ieee.infos h []).foldl learn network).wpaIeLen = network.wpaIeLen :=
        foldl_learn_keeps Network.wpaIeLen (fun i hi network =>
          (learn_learnt i network).wpa fun hid =>
            ((Ieee.sends_of_mem h (.none hlen) hi).wpa hid).ne_zero hlen) network
      exact ⟨(hkept.trans hblank.wpa).trans hlen.symm, fun i hi => by omega⟩
    | wpa hw =>
      exact hw.same (hknown (hmemWpa (List.mem_singleton_self _)))
    | rsn hw => exact absurd hw hrsn
  case rsnIe =>
    intro hrsn
    have hne : ¬ ieee.HasWpaIe := by
      intro hw
      have hid := hw.id
      rw [hrsn.id] at hid
      cases hid
    have hkept : ((ieee.infos h wpa).foldl learn network).wpaIeLen = network.wpaIeLen :=
      foldl_learn_keeps Network.wpaIeLen (fun i hi network =>
        (learn_learnt i network).wpa fun hid => hne ((Ieee.sends_of_mem h hwpa hi).wpa hid)) network
    refine ⟨hkept.trans hblank.wpa, ?_⟩
    cases hwpa with
    | none hlen => exact absurd hlen hrsn.ne_zero
    | wpa hw => exact absurd hw hne
    | rsn hw =>
      exact hw.same (hknown (hmemWpa (List.mem_singleton_self _)))

end

/-! ## The frame -/

def Env.receive (env : Env) (skb : Skb) : Env := { env.setLen skb.len with mem := skb.data }

/-- What `rtllib_parse_info_param` makes of a received frame. `rtllib_network_init` gives it the
elements, and a network whose other fields are those of the fixed part. -/
def parsed (env : Env) (skb : Skb) (network : Network) (dot11d : Dot11dInfo) : Network :=
  (rtllibParseInfoParam (env.receive skb) sizeofProbeResponse
    ((env.receive skb).statsLen - BitVec.ofNat 16 sizeofProbeResponse)
    (initFixed (env.receive skb) skb.data network) dot11d).val.1

theorem holds_place (bs : List Byte) (beyond : Nat → Byte) : Holds (place bs beyond) 0 bs := by
  intro i hi
  rw [Nat.zero_add, place_of_lt hi, List.get_eq_getElem]

theorem copied_of_holds {mem : Nat → Byte} {pos : Nat} {bs : List Byte} (h : Holds mem pos bs) :
    copied (fun i => mem (pos + i)) bs.length = bs := by
  apply List.ext_getElem (length_copied _ _)
  intro i hi hi'
  rw [getElem_copied, h i hi']

namespace Ieee

variable {ieee : Ieee}

theorem getLsbD_beaconCapability (ieee : Ieee) :
    ieee.beaconCapability.getLsbD 1 = ieee.currentNetwork.capability.getLsbD 1 := by
  have hslot (c : Prop) [Decidable c] :
      (if c then wlanCapabilityShortSlotTime else 0).getLsbD 1 = false := by
    split <;> rfl
  have hprivacy (c : Prop) [Decidable c] :
      (if c then wlanCapabilityPrivacy else 0).getLsbD 1 = false := by
    split <;> rfl
  have hibss : wlanCapabilityIbss.getLsbD 1 = true := rfl
  have hpreamble : wlanCapabilityShortPreamble.getLsbD 1 = false := rfl
  unfold beaconCapability
  simp only [BitVec.getLsbD_or, BitVec.getLsbD_and, hslot, hprivacy, hibss, hpreamble,
    Bool.and_true, Bool.and_false, Bool.or_false]

theorem blank_initFixed {env : Env} (network : Network)
    (h : Holds env.mem 34 (le16 ieee.beaconCapability)) :
    Blank ieee (initFixed env env.mem network) := by
  refine ⟨rfl, rfl, rfl, rfl, ?_⟩
  have hcap : env.mem 35 ++ env.mem 34 = ieee.beaconCapability := by
    rw [h.head, h.tail.head]
    exact hi_append_lo _
  unfold Network.useProtection initFixed
  simp only [hcap, getLsbD_beaconCapability]
  cases ieee.currentNetwork.capability.getLsbD 1 <;> rfl

theorem HasIe.copyGroupSuite (h : ieee.HasIe) : ieee.copyGroupSuite.HasIe := by
  unfold Ieee.copyGroupSuite
  split
  · exact ⟨h.length, h.short⟩
  · exact h

theorem HasWpaIe.copyGroupSuite (h : ieee.HasWpaIe) : ieee.copyGroupSuite.HasWpaIe := by
  refine ⟨h.toHasIe.copyGroupSuite, ?_, ?_, ?_⟩
  all_goals
    unfold Ieee.copyGroupSuite
    split
  · exact h.id
  · exact h.id
  · exact h.long
  · exact h.long
  · exact h.oui
  · exact h.oui

theorem HasRsnIe.copyGroupSuite (h : ieee.HasRsnIe) : ieee.copyGroupSuite.HasRsnIe := by
  refine ⟨h.toHasIe.copyGroupSuite, ?_⟩
  unfold Ieee.copyGroupSuite
  split <;> exact h.id

theorem InBounds.copyGroupSuite (h : ieee.InBounds) : ieee.copyGroupSuite.InBounds := by
  constructor
  · rw [copyGroupSuite_currentNetwork]
    exact h.ssid
  · rw [copyGroupSuite_currentNetwork]
    exact h.rates
  · rw [copyGroupSuite_currentNetwork]
    exact h.ratesEx
  · rw [copyGroupSuite_wpaIeLen]
    exact h.wpa.imp id (Or.imp HasWpaIe.copyGroupSuite HasRsnIe.copyGroupSuite)

theorem HasRsnIe.of_copyGroupSuite (h : ieee.copyGroupSuite.HasRsnIe) : ieee.HasRsnIe := by
  unfold Ieee.copyGroupSuite at h
  split at h
  · exact ⟨⟨h.length, h.short⟩, h.id⟩
  · exact h

theorem recovered_copyGroupSuite {heard : Network}
    (h : Recovered ieee.copyGroupSuite ieee.copyGroupSuite heard) :
    Recovered ieee ieee.copyGroupSuite heard := by
  -- The call changes nothing but bytes of `wpa_ie` behind the header.
  have hsame : ieee.copyGroupSuite.erpLen = ieee.erpLen ∧
      ieee.copyGroupSuite.buseprotection = ieee.buseprotection := by
    unfold copyGroupSuite
    split <;> exact ⟨rfl, rfl⟩
  have hatim : ieee.copyGroupSuite.atimLen = ieee.atimLen := by
    unfold atimLen
    rw [copyGroupSuite_currentNetwork]
  obtain ⟨hssid, hhidden, hrates, hratesEx, hchannel, hprot, hnoErp, hwindow, hnoAtim, hwpa,
    hrsn⟩ := h
  rw [copyGroupSuite_currentNetwork] at hssid hhidden hrates hratesEx hchannel hnoErp hwindow
  rw [hsame.1] at hprot hnoErp
  rw [hsame.2] at hprot
  rw [hatim] at hwindow hnoAtim
  exact ⟨hssid, hhidden, hrates, hratesEx, hchannel, hprot, hnoErp, hwindow, hnoAtim,
    fun hnone => hwpa (mt HasRsnIe.of_copyGroupSuite hnone), fun h => hrsn h.copyGroupSuite⟩

theorem InBounds.wpaInfos (h : ieee.InBounds) : ∃ wpa, ieee.WpaInfos wpa := by
  rcases h.wpa with hlen | hwpa | hrsn
  · exact ⟨_, .none hlen⟩
  · exact ⟨_, .wpa hwpa⟩
  · exact ⟨_, .rsn hrsn⟩

theorem InBounds.length_tags_lt (h : ieee.InBounds) : ieee.tags.length < 65536 := by
  -- The elements leave room in a `u16`.
  have hsize := ieee.length_tags
  have hssid := h.ssid
  have hrates := h.rates
  have hex : ieee.rateExLen ≤ 18 := by
    have := h.ratesEx
    unfold rateExLen
    split <;> omega
  have hatim : ieee.atimLen ≤ 4 := by
    unfold atimLen
    split <;> omega
  have herp : ieee.erpLen ≤ 3 := by
    unfold erpLen
    split <;> omega
  have hwpa : ieee.wpaIeLen ≤ 64 := by
    rcases h.wpa with hlen | hw | hw
    · omega
    · exact hw.short
    · exact hw.short
  unfold beaconSize rateLen at hsize
  omega

variable (ieee)

def frame (dest : Addr) (mem : Nat → Byte) : Skb :=
  ⟨place (ieee.fixedPart dest mem ++ ieee.tags) mem, sizeofProbeResponse + ieee.tags.length⟩

theorem rtllibProbeResp_eq (dest : Addr) (mem : Nat → Byte) :
    rtllibProbeResp ieee dest (some mem) =
      (some (ieee.copyGroupSuite.frame dest mem), ieee.copyGroupSuite) := by
  have hfixed : ieee.copyGroupSuite.fixedPart dest mem = ieee.fixedPart dest mem := by
    unfold copyGroupSuite
    split <;> rfl
  have hsize : ieee.copyGroupSuite.beaconSize - ieee.copyGroupSuite.txHeadroom =
      ieee.beaconSize - ieee.txHeadroom := by
    unfold copyGroupSuite
    split <;> rfl
  unfold frame
  rw [hfixed, length_tags, hsize]
  rfl

theorem holds_frame (dest : Addr) (mem : Nat → Byte) :
    Holds (ieee.frame dest mem).data sizeofProbeResponse ieee.tags := by
  have h := (holds_place (ieee.fixedPart dest mem ++ ieee.tags) mem).right
  rw [Nat.zero_add, length_fixedPart] at h
  exact h

theorem elementRegion_frame (dest : Addr) (mem : Nat → Byte) :
    (ieee.frame dest mem).elementRegion = ieee.tags := by
  unfold Skb.elementRegion
  rw [show (ieee.frame dest mem).len - sizeofProbeResponse = ieee.tags.length from
    Nat.add_sub_cancel_left _ _]
  exact copied_of_holds (ieee.holds_frame dest mem)

theorem holds_capability (dest : Addr) (mem : Nat → Byte) :
    Holds (ieee.frame dest mem).data 34 (le16 ieee.beaconCapability) := by
  have h := (holds_place (ieee.fixedPart dest mem ++ ieee.tags) mem).left.right
  rw [Nat.zero_add] at h
  exact h

variable {ieee}

theorem recovered_frame (h : ieee.InBounds) (dest : Addr) (mem : Nat → Byte) (env : Env)
    (network : Network) (dot11d : Dot11dInfo) :
    Recovered ieee ieee (parsed env (ieee.frame dest mem) network dot11d) := by
  obtain ⟨wpa, hwpa⟩ := h.wpaInfos
  have hholds : Holds (env.receive (ieee.frame dest mem)).mem sizeofProbeResponse ieee.tags :=
    ieee.holds_frame dest mem
  have hlength : ((env.receive (ieee.frame dest mem)).statsLen -
      BitVec.ofNat 16 sizeofProbeResponse).toNat = ieee.tags.length := by
    calc _ = (ieee.frame dest mem).len - 36 := ?_
      _ = ieee.tags.length := Nat.add_sub_cancel_left _ _
    refine (u16_length (Nat.le_add_right _ _)).trans (Nat.mod_eq_of_lt ?_)
    exact (Nat.add_sub_cancel_left _ _).trans_lt h.length_tags_lt
  rw [tags_eq h hwpa] at hholds hlength
  have hcap : Holds (env.receive (ieee.frame dest mem)).mem 34 (le16 ieee.beaconCapability) :=
    ieee.holds_capability dest mem
  obtain ⟨unknown, hparsed⟩ := rtllibParseInfoParam_infos hholds hlength
    (initFixed (env.receive (ieee.frame dest mem)) (ieee.frame dest mem).data network) dot11d
  unfold parsed
  rw [hparsed]
  exact (recovered_foldl h hwpa (blank_initFixed network hcap)).setUnknown unknown

end Ieee

/-- **What our beacon tells.** Its elements are well formed, and a receiver gets out of them what
went into them. -/
theorem probe_resp_parsed {ieee : Ieee} (h : ieee.InBounds) (dest : Addr) (mem : Nat → Byte)
    (env : Env) (network : Network) (dot11d : Dot11dInfo) :
    ∃ skb ieee', rtllibProbeResp ieee dest (some mem) = (some skb, ieee') ∧
      WellFormed skb.elementRegion ∧ Recovered ieee ieee' (parsed env skb network dot11d) := by
  obtain ⟨wpa, hwpa⟩ := h.copyGroupSuite.wpaInfos
  refine ⟨_, _, ieee.rtllibProbeResp_eq dest mem, ?_, ?_⟩
  · rw [Ieee.elementRegion_frame, Ieee.tags_eq h.copyGroupSuite hwpa]
    exact ⟨_, rfl⟩
  · apply Ieee.recovered_copyGroupSuite
    exact Ieee.recovered_frame h.copyGroupSuite dest mem env network dot11d

/-! ## Networks -/

/-- A WPA element with TKIP for the group and CCMP for the pairs. -/
def mixedWpaIe : List Byte :=
  [0xdd, 22, 0x00, 0x50, 0xf2, 0x01, 1, 0, 0x00, 0x50, 0xf2, 0x02, 1, 0, 0x00, 0x50, 0xf2, 0x04,
    1, 0, 0x00, 0x50, 0xf2, 0x02]

def exampleIeee (name : List Byte) (mode : Byte) (capability : BitVec 16) : Ieee where
  currentNetwork := { (default : Network) with
    ssid := fun i => name.getD i 0
    ssidLen := name.length
    rates := fun i => [0x82, 0x84, 0x0b, 0x16].getD i 0
    ratesLen := 4
    ratesEx := fun i => [0x0c, 0x12, 0x18, 0x24].getD i 0
    ratesExLen := 4
    channel := 6
    mode := mode
    capability := capability
    atimWindow := 10 }
  buseprotection := false
  devAddr := fun _ => 2
  wpaIe := fun i => mixedWpaIe.getD i 0
  wpaIeLen := 24
  iwMode := .adhoc
  shortSlot := true
  hostEncrypt := true
  crypt := some "TKIP"
  bCurSuppCCK := false
  txHeadroom := 64

theorem exampleIeee_inBounds {name : List Byte} (h : name.length ≤ 32) (mode : Byte)
    (capability : BitVec 16) : (exampleIeee name mode capability).InBounds := by
  have hwpa : (exampleIeee name mode capability).HasWpaIe :=
    ⟨⟨rfl, show 24 ≤ 64 by decide⟩, rfl, show 6 ≤ 24 by decide, rfl⟩
  exact ⟨h, show 4 ≤ 12 by decide, show 4 ≤ 16 by decide, .inr (.inl hwpa)⟩

theorem probe_resp_parsed_example :
    ∃ skb ieee',
      rtllibProbeResp (exampleIeee [0x61, 0x64] ieeeG 2) (fun _ => 0xff) (some fun _ => 0) =
        (some skb, ieee') ∧
      WellFormed skb.elementRegion ∧
      Recovered (exampleIeee [0x61, 0x64] ieeeG 2) ieee' (parsed default skb default default) :=
  probe_resp_parsed (exampleIeee_inBounds (by decide) ieeeG 2) (fun _ => 0xff) (fun _ => 0) default
    default default

def heardFrom (ieee : Ieee) : Option Network :=
  (rtllibProbeResp ieee (fun _ => 0xff) (some fun _ => 0)).1.map fun skb =>
    parsed default skb default default

theorem heardFrom_eq {ieee : Ieee} (h : ieee.InBounds) :
    ∃ heard, heardFrom ieee = some heard ∧ Recovered ieee ieee.copyGroupSuite heard := by
  refine ⟨_, ?_, Ieee.recovered_copyGroupSuite
    (Ieee.recovered_frame h.copyGroupSuite (fun _ => 0xff) (fun _ => 0) default default default)⟩
  unfold heardFrom
  rw [Ieee.rtllibProbeResp_eq]
  rfl

/-- An 802.11b network whose name is a space, and one that is no IBSS. The name of the first, its
protection and its pairwise cipher suite get lost, and the ATIM window of the second. -/
theorem not_always_same :
    ((exampleIeee [0x20] ieeeB 2).InBounds ∧
      ∃ heard, heardFrom (exampleIeee [0x20] ieeeB 2) = some heard ∧
      ¬ SameSsid (exampleIeee [0x20] ieeeB 2).currentNetwork heard ∧
      heard.useProtection ≠ (exampleIeee [0x20] ieeeB 2).buseprotection ∧
      ¬ SameWpaIe (exampleIeee [0x20] ieeeB 2) heard) ∧
    (exampleIeee [0x61] ieeeB 0).InBounds ∧
      ∃ heard, heardFrom (exampleIeee [0x61] ieeeB 0) = some heard ∧
      heard.atimWindow ≠ (exampleIeee [0x61] ieeeB 0).currentNetwork.atimWindow := by
  have hibss := exampleIeee_inBounds (show ([0x20] : List Byte).length ≤ 32 by decide) ieeeB 2
  have hother := exampleIeee_inBounds (show ([0x61] : List Byte).length ≤ 32 by decide) ieeeB 0
  obtain ⟨heard, heq, hrec⟩ := heardFrom_eq hibss
  obtain ⟨heard', heq', hrec'⟩ := heardFrom_eq hother
  refine ⟨⟨hibss, heard, heq, ?_, ?_, ?_⟩, hother, heard', heq', ?_⟩
  · intro hsame
    have hlen := hsame.1
    rw [hrec.hidden (.inl rfl)] at hlen
    cases hlen
  · rw [hrec.noErp rfl]
    decide
  · intro hsame
    have hwpa : ¬ (exampleIeee [0x20] ieeeB 2).HasRsnIe := by
      intro hrsn
      have hid := hrsn.id
      revert hid
      decide
    have hbyte := ((hrec.wpaIe hwpa).2 17 (by decide)).symm.trans (hsame.2 17 (by decide))
    revert hbyte
    decide
  · rw [hrec'.noAtim rfl]
    decide

end Rtl8190.Beacon
