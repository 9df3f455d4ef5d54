import Rtl8190.Mgmt.Build
import Rtl8190.Lib.Elements

/-!
# Management frames, as they are sent

For each builder the bytes of its frame: what it writes, and what it leaves as the memory was. From
this follow which frames are completely written, and which end with well-formed elements.
-/

open Rtl8190.Memory Rtl8190.Packets Rtl8190.Elements Rtl8190.Beacon
open Packet (Appends appends_id appends_add appends_if holds_alloc holds_two)

namespace Rtl8190.Mgmt

/-- The builders, with what they get besides the device -/
inductive Builder where
  | probeReq
  | authReq
  | authChallenge (challenge : List Byte) (fits : challenge.length < 256)
  | probeResp (dest : Addr)
  | assocResp (dest : Addr)
  | authResp (status : BitVec 16) (dest : Addr)
  | assocReq

namespace Builder

def build (d : Device) (mem : Nat → Byte) : Builder → Skb
  | probeReq => rtllibProbeReq d mem
  | authReq => (rtllibAuthenticationReq d 0 mem).1
  | authChallenge challenge _ => (rtllibAuthChallenge d challenge mem).1
  | probeResp dest => (rtllibProbeResp d dest mem).1
  | assocResp dest => (rtllibAssocResp d dest mem).1
  | authResp status dest => rtllibAuthResp d status dest mem
  | assocReq => (rtllibAssociationReq d mem).1

def sent (d : Device) (mem : Nat → Byte) (b : Builder) : Skb := softmacMgmtXmit d (b.build d mem)

def fixed : Builder → Nat
  | probeReq => 24
  | authReq | authChallenge _ _ | assocResp _ | authResp _ _ => 30
  | probeResp _ => 36
  | assocReq => 28

/-! ## The bytes -/

/-- The frame up to `seq_ctl` -/
def head (d : Device) (mem : Nat → Byte) : Builder → List Byte
  | probeReq => headerBytes 0x0040 0 broadcast d.devAddr broadcast
  | authReq => headerBytes 0x00b0 0x013a d.currentNetwork.bssid d.devAddr d.currentNetwork.bssid
  | authChallenge _ _ =>
    headerBytes (0x00b0 ||| 0x4000) 0x013a d.currentNetwork.bssid d.devAddr d.currentNetwork.bssid
  | probeResp dest => headerBytes rtllibStypeProbeResp 0 dest d.devAddr d.currentNetwork.bssid
  | assocResp dest =>
    le16 0x0010 ++ [mem 2, mem 3] ++ dest.bytes ++ d.devAddr.bytes ++ d.devAddr.bytes
  | authResp _ dest =>
    le16 0x00b0 ++ [mem 2, mem 3] ++ dest.bytes ++ d.devAddr.bytes ++ d.devAddr.bytes
  | assocReq => headerBytes 0x0000 37 d.currentNetwork.bssid d.devAddr d.currentNetwork.bssid

def algorithmBytes (d : Device) (mem : Nat → Byte) : List Byte :=
  match authAlgorithm d.authMode with
  | some algorithm => le16 algorithm
  | none => [mem 24, mem 25]

def fields (d : Device) (mem : Nat → Byte) : Builder → List Byte
  | probeReq => []
  | authReq => algorithmBytes d mem ++ le16 d.associateSeq ++ le16 0
  | authChallenge _ _ => algorithmBytes d mem ++ le16 (d.associateSeq + 1) ++ le16 0
  | probeResp _ => copied (fun i => mem (24 + i)) 8 ++ le16 d.currentNetwork.beaconInterval ++
      le16 d.beaconCapability
  | assocResp _ => le16 d.assocCapability ++ le16 0 ++ le16 d.assocId
  | authResp status _ => le16 0 ++ le16 2 ++ le16 status
  | assocReq => le16 d.assocReqCapability ++ le16 d.currentNetwork.listenInterval

end Builder

namespace Device

variable (d : Device)

def firstElements : List Byte :=
  [0, BitVec.ofNat 8 d.currentNetwork.ssidLen] ++
    copied d.currentNetwork.ssid d.currentNetwork.ssidLen ++ d.assocRates ++
    (if d.currentNetwork.bCkipSupported = true then ckipTag else []) ++
    (if d.currentNetwork.bCcxRmEnable = true then ccxRmTag else []) ++
    (if 2 ≤ d.currentNetwork.bssCcxVerNumber then d.ccxVerTag else []) ++
    (if d.htWanted = true ∧ d.ePeerHTSpecVer ≠ .ewc then d.htCapTag 45 else [])

def wpaBytes : List Byte :=
  copied d.wpaIe d.wpaIeLen ++
    match d.pmkCacheIdx with
    | some i => d.pmkidTag i
    | none => []

def wpsBytes : List Byte :=
  match d.wpsIe with
  | some ie => copied ie d.wpsIeLen
  | none => []

def lastElements : List Byte :=
  d.wpaBytes ++ (if d.wmmInfoLen ≠ 0 then rtllibWmmInfo else []) ++ d.wpsBytes ++
    (if d.turboInfoLen ≠ 0 then rtllibTurboInfo else []) ++
    (if d.htWanted = true ∧ d.ePeerHTSpecVer = .ewc then d.htCapTag 221 else []) ++
    (if d.htWanted = true ∧ d.bCurrentRT2RTAggregation = true then d.realtekTag else [])

end Device

/-- What follows the fixed fields -/
def Builder.elements (d : Device) (mem : Nat → Byte) : Builder → List Byte
  | probeReq => [0, BitVec.ofNat 8 d.currentNetwork.ssidLen] ++
      copied d.currentNetwork.ssid d.currentNetwork.ssidLen ++ d.rtllibMfieBrate ++
      d.rtllibMfieGrate
  | authReq => []
  | authChallenge challenge _ => [16, BitVec.ofNat 8 challenge.length] ++ challenge
  | probeResp _ => d.copyGroupSuite.tags
  | assocResp _ => d.rtllibMfieBrate ++ d.rtllibMfieGrate
  | authResp _ _ => copied (fun i => mem (30 + i)) 30
  | assocReq => d.withoutHt.firstElements ++ d.withoutHt.lastElements

section

variable (d : Device) (mem : Nat → Byte)

theorem holds_header (size txHeadroom : Nat) (hdr : List Byte) (h : hdr.length = 22) :
    (((devAllocSkb size txHeadroom mem).put 24).store 0 hdr).Holds (hdr ++ [mem 22, mem 23]) := by
  have hput : ((devAllocSkb size txHeadroom mem).put 24).Holds
      ([] ++ (List.range 22).map mem ++ [mem 22, mem 23]) := ⟨rfl, rfl⟩
  exact hput.store rfl (by rw [h]; rfl)

theorem length_rates :
    (d.rtllibMfieBrate ++ d.rtllibMfieGrate).length = d.rtllibMfieRateLen := by
  unfold Device.rtllibMfieBrate Device.rtllibMfieGrate Device.rtllibMfieRateLen
  split_ifs <;> rfl

theorem probeReq_holds : (rtllibProbeReq d mem).Holds
    (Builder.probeReq.head d mem ++ [mem 22, mem 23] ++ Builder.probeReq.elements d mem) := by
  have hlen : (Builder.probeReq.elements d mem).length =
      d.currentNetwork.ssidLen + 2 + d.rtllibMfieRateLen := by
    unfold Builder.elements
    rw [← length_rates, List.append_assoc, List.length_append, List.length_append, length_copied]
    simp only [List.length_cons, List.length_nil]
    omega
  exact (holds_header mem _ _ _ rfl).add hlen

theorem authenticationReq_holds (challengelen : Nat) :
    (rtllibAuthenticationReq d challengelen mem).1.Holds
      (headerBytes (if challengelen ≠ 0 then 0x00b0 ||| 0x4000 else 0x00b0) 0x013a
        d.currentNetwork.bssid d.devAddr d.currentNetwork.bssid ++ [mem 22, mem 23] ++
        (Builder.algorithmBytes d mem ++ le16 d.associateSeq ++ le16 0)) := by
  unfold rtllibAuthenticationReq Builder.algorithmBytes
  generalize authAlgorithm d.authMode = algorithm
  cases algorithm <;> exact ⟨rfl, rfl⟩

theorem authChallenge_holds (challenge : List Byte) (fits : challenge.length < 256) :
    (rtllibAuthChallenge d challenge mem).1.Holds
      ((Builder.authChallenge challenge fits).head d mem ++ [mem 22, mem 23] ++
        (Builder.authChallenge challenge fits).fields d mem ++
        (Builder.authChallenge challenge fits).elements d mem) := by
  have hreq := authenticationReq_holds { d with associateSeq := d.associateSeq + 1 } mem
    (challenge.length + 2)
  rw [if_pos (Nat.succ_ne_zero _)] at hreq
  have hlen : ([16, BitVec.ofNat 8 challenge.length] ++ challenge).length =
      challenge.length + 2 := by
    rw [List.length_append, Nat.add_comm]
    rfl
  exact hreq.add hlen

theorem copyGroupSuite_beaconSize (ieee : Ieee) :
    ieee.copyGroupSuite.beaconSize - ieee.copyGroupSuite.txHeadroom =
      ieee.beaconSize - ieee.txHeadroom := by
  unfold Ieee.copyGroupSuite
  split <;> rfl

theorem probeResp_holds (dest : Addr) : (rtllibProbeResp d dest mem).1.Holds
    (d.fixedPart dest mem ++ d.copyGroupSuite.tags) := by
  have hsize := d.copyGroupSuite.length_tags
  rw [copyGroupSuite_beaconSize, ← Ieee.length_fixedPart d.toIeee dest mem] at hsize
  have hfilled := holds_two (d.beaconSize - d.txHeadroom) mem hsize
  rw [Ieee.length_fixedPart] at hfilled
  exact hfilled

theorem probeResp_frame (dest : Addr) : (rtllibProbeResp d dest mem).1.bytes =
    copied (place (d.fixedPart dest mem ++ d.copyGroupSuite.tags) mem)
      (d.beaconSize - d.txHeadroom) := by
  have hlen : d.beaconSize - d.txHeadroom =
      (d.fixedPart dest mem ++ d.copyGroupSuite.tags).length := by
    rw [List.length_append, Ieee.length_fixedPart, Ieee.length_tags, copyGroupSuite_beaconSize]
  rw [(probeResp_holds d mem dest).bytes, hlen]
  apply List.ext_getElem
  · rw [length_copied]
  · intro i hi hi'
    rw [getElem_copied, place_of_lt hi]
    rfl

theorem assocResp_holds (dest : Addr) : (rtllibAssocResp d dest mem).1.Holds
    ((Builder.assocResp dest).head d mem ++ [mem 22, mem 23] ++
      (Builder.assocResp dest).fields d mem ++ (Builder.assocResp dest).elements d mem) := by
  unfold rtllibAssocResp
  dsimp only
  apply Packet.Holds.add _ (length_rates d)
  exact ⟨rfl, rfl⟩

/-! ## The association request -/

theorem length_assocRates : d.assocRates.length = d.assocRateLen := by
  unfold Device.assocRates Device.assocRateLen
  rw [List.length_append]
  split_ifs <;> simp

theorem length_htConstructCapabilityElement (isEncrypt : Bool) :
    (d.htConstructCapabilityElement isEncrypt).length =
      if d.ePeerHTSpecVer = .ewc then 30 else 26 := by
  have hmcs : d.capabilityMcs.length = 16 := by
    unfold Device.capabilityMcs
    dsimp only
    split_ifs <;> simp
  unfold Device.htConstructCapabilityElement
  simp only [List.length_append, hmcs]
  split_ifs <;> rfl

theorem length_htCapTag (id : Byte) (h : d.htWanted = true) :
    (d.htCapTag id).length = d.htCapLen := by
  unfold Device.htCapTag Device.htCap Device.htCapLen
  rw [if_pos h, List.length_append, length_htConstructCapabilityElement]
  split_ifs <;> rfl

theorem length_ckipTag (h : d.currentNetwork.bCkipSupported = true) :
    Device.ckipTag.length = d.ckipIeLen := (if_pos h).symm

theorem length_ccxRmTag (h : d.currentNetwork.bCcxRmEnable = true) :
    Device.ccxRmTag.length = d.ccxrmIeLen := (if_pos h).symm

theorem length_ccxVerTag (h : 2 ≤ d.currentNetwork.bssCcxVerNumber) :
    d.ccxVerTag.length = d.cxvernumIeLen := (if_pos h).symm

theorem length_realtekTag (h : d.htWanted = true ∧ d.bCurrentRT2RTAggregation = true) :
    d.realtekTag.length = d.realtekIeLen := (if_pos h).symm

theorem first_appends : Appends (assocReqFirst d)
    (copied d.currentNetwork.ssid d.currentNetwork.ssidLen ++ d.assocRates ++
      (if d.currentNetwork.bCkipSupported = true then Device.ckipTag else []) ++
      (if d.currentNetwork.bCcxRmEnable = true then Device.ccxRmTag else []) ++
      (if 2 ≤ d.currentNetwork.bssCcxVerNumber then d.ccxVerTag else []) ++
      (if d.htWanted = true ∧ d.ePeerHTSpecVer ≠ .ewc then d.htCapTag 45 else [])) := by
  have hssid := (appends_add (length_copied d.currentNetwork.ssid d.currentNetwork.ssidLen)).comp
    (appends_add (length_assocRates d))
  have hccx := ((hssid.comp (appends_if fun h => appends_add (length_ckipTag d h))).comp
    (appends_if fun h => appends_add (length_ccxRmTag d h))).comp
    (appends_if fun h => appends_add (length_ccxVerTag d h))
  exact hccx.comp (appends_if fun h => appends_add (length_htCapTag d 45 h.1))

theorem wpa_appends : Appends (assocReqWpa d) d.wpaBytes := by
  have hcopy : (if d.wpaLen ≠ 0 then copied d.wpaIe d.wpaIeLen else []) =
      copied d.wpaIe d.wpaIeLen := by
    by_cases h : d.wpaLen ≠ 0
    · rw [if_pos h]
    · have hzero : d.wpaIeLen = 0 := Nat.eq_zero_of_add_eq_zero_right (not_not.mp h)
      rw [if_neg h, hzero]
      rfl
  unfold assocReqWpa Device.wpaBytes
  rw [hcopy]
  cases d.pmkCacheIdx with
  | none =>
    rw [List.append_nil]
    exact appends_add (length_copied _ _)
  | some i =>
    have hpmkid : (d.pmkidTag i).length = 18 := rfl
    exact (appends_add (length_copied _ _)).comp (appends_add hpmkid)

theorem wps_appends : Appends (assocReqWps d) d.wpsBytes := by
  unfold assocReqWps Device.wpsBytes
  cases d.wpsIe with
  | none => exact appends_id
  | some ie =>
    dsimp only
    split_ifs with h
    · exact appends_add (length_copied _ _)
    · rw [not_not.mp h]
      exact appends_id

theorem last_appends : Appends (assocReqLast d)
    ((if d.htWanted = true ∧ d.ePeerHTSpecVer = .ewc then d.htCapTag 221 else []) ++
      (if d.htWanted = true ∧ d.bCurrentRT2RTAggregation = true then d.realtekTag else [])) := by
  exact (appends_if fun h => appends_add (length_htCapTag d 221 h.1)).comp
    (appends_if fun h => appends_add (length_realtekTag d h))

theorem length_wmm : (if d.wmmInfoLen ≠ 0 then Device.rtllibWmmInfo else []).length =
    d.wmmInfoLen := by
  unfold Device.wmmInfoLen
  split_ifs <;> first | rfl | contradiction

theorem length_turbo : (if d.turboInfoLen ≠ 0 then Device.rtllibTurboInfo else []).length =
    d.turboInfoLen := by
  unfold Device.turboInfoLen
  split_ifs <;> first | rfl | contradiction

theorem withoutHt_toIeee : d.withoutHt.toIeee = d.toIeee := by
  unfold Device.withoutHt
  split <;> rfl

theorem start_holds (size : Nat) :
    ((((devAllocSkb size d.txHeadroom mem).put (28 + 2)).store 0 (headerBytes 0x0000 37
      d.currentNetwork.bssid d.devAddr d.currentNetwork.bssid)).store 24
      (le16 d.assocReqCapability ++ le16 d.currentNetwork.listenInterval ++
        [0, BitVec.ofNat 8 d.currentNetwork.ssidLen])).Holds
      (Builder.assocReq.head d mem ++ [mem 22, mem 23] ++ Builder.assocReq.fields d mem ++
        [0, BitVec.ofNat 8 d.currentNetwork.ssidLen]) := ⟨rfl, rfl⟩

theorem associationReq_holds :
    (rtllibAssociationReq d mem).1.Holds
      (Builder.assocReq.head d mem ++ [mem 22, mem 23] ++ Builder.assocReq.fields d mem ++
        Builder.assocReq.elements d mem) ∧
    (rtllibAssociationReq d mem).1.room = d.withoutHt.assocReqSize - d.txHeadroom := by
  have hhead : Builder.assocReq.head d.withoutHt mem = Builder.assocReq.head d mem := by
    unfold Builder.head
    rw [withoutHt_toIeee]
  have hfields : Builder.assocReq.fields d.withoutHt mem = Builder.assocReq.fields d mem := by
    unfold Builder.fields Device.assocReqCapability
    rw [withoutHt_toIeee]
  have happ := (((((first_appends d.withoutHt).comp (wpa_appends d.withoutHt)).comp
    (appends_add (length_wmm d.withoutHt))).comp (wps_appends d.withoutHt)).comp
    (appends_add (length_turbo d.withoutHt))).comp (last_appends d.withoutHt)
  obtain ⟨hholds, hroom⟩ := happ _ _ (start_holds d.withoutHt mem d.withoutHt.assocReqSize)
  rw [hhead, hfields] at hholds
  constructor
  · unfold Builder.elements Device.firstElements Device.lastElements
    simp only [List.append_assoc] at hholds ⊢
    exact hholds
  · rw [← withoutHt_toIeee d]
    exact hroom

/-! ## Frames in memory -/

theorem build_holds (b : Builder) (h : ∀ status dest, b ≠ .authResp status dest) :
    (b.build d mem).Holds
      (b.head d mem ++ [mem 22, mem 23] ++ b.fields d mem ++ b.elements d mem) := by
  -- All builders but one leave a packet that ends where its room ends.
  cases b with
  | probeReq =>
    rw [Builder.fields, List.append_nil]
    exact probeReq_holds d mem
  | authReq =>
    rw [Builder.elements, List.append_nil]
    exact authenticationReq_holds d mem 0
  | authChallenge challenge fits => exact authChallenge_holds d mem challenge fits
  | probeResp dest => exact probeResp_holds d mem dest
  | assocResp dest => exact assocResp_holds d mem dest
  | authResp status dest => exact absurd rfl (h status dest)
  | assocReq => exact (associationReq_holds d mem).1

theorem authResp_bytes (status : BitVec 16) (dest : Addr) :
    (rtllibAuthResp d status dest mem).bytes = (Builder.authResp status dest).head d mem ++
      [mem 22, mem 23] ++ (Builder.authResp status dest).fields d mem ++
      (Builder.authResp status dest).elements d mem := rfl

theorem length_head (b : Builder) : (b.head d mem).length = 22 := by
  cases b <;> rfl

theorem length_fields (b : Builder) : (b.fields d mem).length = b.fixed - 24 := by
  have halgorithm : (Builder.algorithmBytes d mem).length = 2 := by
    unfold Builder.algorithmBytes
    split <;> rfl
  cases b with
  | authReq | authChallenge =>
    unfold Builder.fields
    rw [List.length_append, List.length_append, halgorithm]
    rfl
  | _ => rfl

theorem sent_bytes (b : Builder) : (b.sent d mem).bytes =
    b.head d mem ++ le16 (d.seqCtrl <<< 4) ++ (b.fields d mem ++ b.elements d mem) := by
  have hbuild : (b.build d mem).bytes =
      b.head d mem ++ [mem 22, mem 23] ++ (b.fields d mem ++ b.elements d mem) := by
    rw [← List.append_assoc]
    by_cases h : ∀ status dest, b ≠ .authResp status dest
    · exact (build_holds d mem b h).bytes
    · push Not at h
      obtain ⟨status, dest, rfl⟩ := h
      exact authResp_bytes d mem status dest
  exact Packet.bytes_store hbuild (length_head d mem b) rfl

theorem drop_fixed (b : Builder) : (b.sent d mem).bytes.drop b.fixed = b.elements d mem := by
  rw [sent_bytes, ← List.append_assoc]
  apply List.drop_left'
  rw [List.length_append, List.length_append, length_head, length_fields]
  cases b <;> rfl

/-! ## Sizes -/

theorem length_if {c : Prop} [Decidable c] {bs : List Byte} {n : Nat} (h : c → bs.length = n)
    (hnot : ¬ c → n = 0) : (if c then bs else []).length = n := by
  split_ifs with hc
  · exact h hc
  · exact (hnot hc).symm

theorem length_htCaps :
    (if d.htWanted = true ∧ d.ePeerHTSpecVer ≠ .ewc then d.htCapTag 45 else []).length +
      (if d.htWanted = true ∧ d.ePeerHTSpecVer = .ewc then d.htCapTag 221 else []).length =
    d.htCapLen := by
  by_cases hwanted : d.htWanted = true
  · by_cases hewc : d.ePeerHTSpecVer = .ewc
    · simp [hwanted, hewc, length_htCapTag]
    · simp [hwanted, hewc, length_htCapTag]
  · simp [hwanted, Device.htCapLen]

theorem length_wpaBytes : d.wpaBytes.length = d.wpaLen := by
  unfold Device.wpaBytes Device.wpaLen
  cases d.pmkCacheIdx with
  | none => simp
  | some i =>
    rw [List.length_append, length_copied]
    rfl

theorem length_wpsBytes : d.wpsBytes.length ≤ d.wpsIeLen := by
  unfold Device.wpsBytes
  split
  · rw [length_copied]
  · exact Nat.zero_le _

theorem length_assocReq :
    28 + (d.firstElements ++ d.lastElements).length ≤ d.assocReqSize - d.txHeadroom := by
  have hckip := length_if (length_ckipTag d) fun h => if_neg h
  have hccxrm := length_if (length_ccxRmTag d) fun h => if_neg h
  have hccxver := length_if (length_ccxVerTag d) fun h => if_neg h
  have hrealtek := length_if (length_realtekTag d) fun h => if_neg h
  have hht := length_htCaps d
  have hwps := length_wpsBytes d
  unfold Device.firstElements Device.lastElements Device.assocReqSize
  simp only [List.length_append, List.length_cons, List.length_nil, length_copied,
    length_assocRates, hckip, hccxrm, hccxver, hrealtek, length_wpaBytes, length_wmm, length_turbo]
  omega

theorem authenticationReq_size (challengelen : Nat) :
    (rtllibAuthenticationReq d challengelen mem).1.tail = 0 + 30 ∧
      (rtllibAuthenticationReq d challengelen mem).1.room =
        30 + challengelen + d.txHeadroom + 4 - d.txHeadroom := by
  unfold rtllibAuthenticationReq
  cases authAlgorithm d.authMode <;> exact ⟨rfl, rfl⟩

theorem tail_le_room (b : Builder) : (b.build d mem).tail ≤ (b.build d mem).room := by
  -- Every builder allocates what it puts.
  cases b with
  | probeReq =>
    change 0 + 24 + (d.currentNetwork.ssidLen + 2 + d.rtllibMfieRateLen) ≤
      24 + 2 + d.currentNetwork.ssidLen + d.rtllibMfieRateLen + d.txHeadroom - d.txHeadroom
    omega
  | authReq =>
    obtain ⟨htail, hroom⟩ := authenticationReq_size d mem 0
    change (rtllibAuthenticationReq d 0 mem).1.tail ≤ (rtllibAuthenticationReq d 0 mem).1.room
    omega
  | authChallenge challenge fits =>
    obtain ⟨htail, hroom⟩ := authenticationReq_size
      { d with associateSeq := d.associateSeq + 1 } mem (challenge.length + 2)
    change (rtllibAuthenticationReq { d with associateSeq := d.associateSeq + 1 }
      (challenge.length + 2) mem).1.tail + (challenge.length + 2) ≤
      (rtllibAuthenticationReq { d with associateSeq := d.associateSeq + 1 }
        (challenge.length + 2) mem).1.room
    omega
  | probeResp dest =>
    change 0 + (d.beaconSize - d.txHeadroom) ≤ d.beaconSize - d.txHeadroom
    omega
  | assocResp dest =>
    change 0 + 30 + d.rtllibMfieRateLen ≤ 30 + d.rtllibMfieRateLen + d.txHeadroom - d.txHeadroom
    omega
  | authResp status dest =>
    change 0 + 30 ≤ d.txHeadroom + 30 + 1 - d.txHeadroom
    omega
  | assocReq =>
    obtain ⟨hholds, hroom⟩ := associationReq_holds d mem
    change (rtllibAssociationReq d mem).1.tail ≤ (rtllibAssociationReq d mem).1.room
    rw [hholds.tail, hroom, List.length_append, List.length_append, List.length_append, length_head,
      length_fields, ← withoutHt_toIeee d]
    exact length_assocReq d.withoutHt

end

/-! ## What is not written -/

section

variable (d : Device)

/-- No byte of the frame depends on what the memory held. -/
def Written (b : Builder) : Prop := ∀ mem mem', (b.sent d mem).bytes = (b.sent d mem').bytes

/-- The builder writes all bytes: an authentication request its algorithm. A probe response lacks
the time stamp, an association or authentication response the duration. -/
def Builder.Filled : Builder → Prop
  | probeReq | assocReq => True
  | authReq | authChallenge _ _ => d.authMode = 0 ∨ d.authMode = 1 ∨ d.authMode = 2
  | probeResp _ | assocResp _ | authResp _ _ => False

variable {d}

theorem not_written {b : Builder} (i : Nat)
    (h : ∀ mem, (b.sent d mem).bytes[i]? = some (mem i)) : ¬ Written d b := by
  intro hwritten
  have hsame := congrArg (fun bs => bs[i]?) (hwritten (fun _ => 0) fun _ => 1)
  simp only [h] at hsame
  cases hsame

theorem authAlgorithm_none_iff (authMode : Int) :
    authAlgorithm authMode = none ↔ ¬ (authMode = 0 ∨ authMode = 1 ∨ authMode = 2) := by
  unfold authAlgorithm
  split_ifs with h₀ h₁ h₂
  · simp [h₀]
  · simp [h₁]
  · simp [h₂]
  · simp [h₀, h₁, h₂]

theorem algorithmBytes_eq (h : d.authMode = 0 ∨ d.authMode = 1 ∨ d.authMode = 2)
    (mem mem' : Nat → Byte) : Builder.algorithmBytes d mem = Builder.algorithmBytes d mem' := by
  unfold Builder.algorithmBytes
  cases halgorithm : authAlgorithm d.authMode with
  | none => exact absurd h ((authAlgorithm_none_iff _).mp halgorithm)
  | some algorithm => rfl

theorem algorithmBytes_none (h : ¬ (d.authMode = 0 ∨ d.authMode = 1 ∨ d.authMode = 2))
    (mem : Nat → Byte) : Builder.algorithmBytes d mem = [mem 24, mem 25] := by
  unfold Builder.algorithmBytes
  rw [(authAlgorithm_none_iff _).mpr h]

theorem written_iff (b : Builder) : Written d b ↔ b.Filled d := by
  cases b with
  | probeReq | assocReq =>
    refine iff_of_true (fun mem mem' => ?_) trivial
    rw [sent_bytes, sent_bytes]
    rfl
  | authReq | authChallenge =>
    by_cases h : d.authMode = 0 ∨ d.authMode = 1 ∨ d.authMode = 2
    · refine iff_of_true (fun mem mem' => ?_) h
      rw [sent_bytes, sent_bytes]
      unfold Builder.fields
      rw [algorithmBytes_eq h mem mem']
      rfl
    · refine iff_of_false (not_written 24 fun mem => ?_) h
      rw [sent_bytes]
      unfold Builder.fields
      rw [algorithmBytes_none h]
      rfl
  | probeResp dest =>
    refine iff_of_false (not_written 24 fun mem => ?_) id
    rw [sent_bytes]
    rfl
  | assocResp | authResp =>
    refine iff_of_false (not_written 2 fun mem => ?_) id
    rw [sent_bytes]
    rfl

end

/-! ## The elements -/

section

variable (d : Device)

structure Device.InBounds : Prop where
  ssid : d.currentNetwork.ssidLen ≤ 32
  rates : d.currentNetwork.ratesLen ≤ 12
  ratesEx : d.currentNetwork.ratesExLen ≤ 16
  wpaIe : d.wpaIeLen ≤ 64
  wpsIe : d.wpsIeLen ≤ 64

/-- What follows the fixed fields is a sequence of elements. -/
def ElementsFit (b : Builder) : Prop :=
  ∀ mem, WellFormed ((b.sent d mem).bytes.drop b.fixed)

/-- The bytes of the user are elements where they stand. An authentication response has 30 bytes
that nobody wrote. -/
def Builder.Parses : Builder → Prop
  | probeResp _ => WellFormed d.copyGroupSuite.wpaTag
  | assocReq => WellFormed d.withoutHt.lastElements
  | authResp _ _ => False
  | probeReq | authReq | authChallenge _ _ | assocResp _ => True

variable {d}

theorem wellFormed_tag (id : Byte) (src : Nat → Byte) {n : Nat} (h : n < 256) :
    WellFormed ([id, BitVec.ofNat 8 n] ++ copied src n) := by
  have helement : WellFormed
      (id :: BitVec.ofNat 8 (copied src n).length :: copied src n) :=
    wellFormed_element id _ (by rw [length_copied]; exact h)
  rw [length_copied] at helement
  exact helement

theorem wellFormed_rates (d : Device) : WellFormed (d.rtllibMfieBrate ++ d.rtllibMfieGrate) := by
  have hbrate : WellFormed d.rtllibMfieBrate :=
    wellFormed_if fun _ => wellFormed_element 1 [0x82, 0x84, 0x8b, 0x96] (by decide)
  have hgrate : WellFormed d.rtllibMfieGrate :=
    wellFormed_if fun _ =>
      wellFormed_element 50 [0x8c, 0x92, 0x98, 0xa4, 0xb0, 0xc8, 0xe0, 0xec] (by decide)
  exact hbrate.append hgrate

theorem probeReq_elements (h : d.InBounds) (mem : Nat → Byte) :
    WellFormed (Builder.probeReq.elements d mem) := by
  have hssid := wellFormed_tag 0 d.currentNetwork.ssid (Nat.lt_of_le_of_lt h.ssid (by decide))
  unfold Builder.elements
  rw [List.append_assoc]
  exact hssid.append (wellFormed_rates d)

theorem tags_iff {ieee : Ieee} (hssid : ieee.currentNetwork.ssidLen < 256)
    (hrates : ieee.currentNetwork.ratesLen < 256) (hratesEx : ieee.currentNetwork.ratesExLen < 256) :
    WellFormed ieee.tags ↔ WellFormed ieee.wpaTag := by
  -- The elements of a probe response before `wpa_ie`.
  have hssidTag : WellFormed ieee.ssidTag := wellFormed_tag 0 _ hssid
  have hratesTag : WellFormed ieee.ratesTag := wellFormed_tag 1 _ hrates
  have hdsSet : WellFormed ieee.dsSetTag :=
    wellFormed_element 3 [ieee.currentNetwork.channel] (by simp)
  have hatim : WellFormed ieee.atimTag :=
    wellFormed_if fun _ => wellFormed_element 6 (le16 ieee.currentNetwork.atimWindow) (by simp [le16])
  have herp : WellFormed ieee.erpTag :=
    wellFormed_if fun _ => wellFormed_element 42 [ieee.erpinfoContent] (by simp)
  have hratesExTag : WellFormed ieee.ratesExTag := by
    apply wellFormed_if
    intro _
    apply wellFormed_tag
    unfold Ieee.rateExLen
    split_ifs <;> omega
  exact (((((hssidTag.append hratesTag).append hdsSet).append hatim).append herp).append
    hratesExTag).append_iff _

theorem wellFormed_assocRates (h : d.InBounds) : WellFormed d.assocRates := by
  have hrates := h.rates
  have hratesEx := h.ratesEx
  exact (wellFormed_if fun _ => wellFormed_tag 1 _ (by omega)).append
    (wellFormed_if fun _ => wellFormed_tag 50 _ (by omega))

theorem wellFormed_htCapTag (id : Byte) (h : d.htWanted = true) : WellFormed (d.htCapTag id) := by
  have hlen : d.htCap.length = d.htCapLen - 2 := by
    have htag := length_htCapTag d id h
    unfold Device.htCapTag at htag
    rw [List.length_append] at htag
    simp only [List.length_cons, List.length_nil] at htag
    omega
  have hshort : d.htCap.length < 256 := by
    unfold Device.htCap
    rw [length_htConstructCapabilityElement]
    split_ifs <;> decide
  unfold Device.htCapTag
  rw [← hlen]
  exact wellFormed_element id d.htCap hshort

theorem wellFormed_firstElements (h : d.InBounds) : WellFormed d.firstElements := by
  have hssid := wellFormed_tag 0 d.currentNetwork.ssid (Nat.lt_of_le_of_lt h.ssid (by decide))
  have hckip : WellFormed Device.ckipTag :=
    ⟨[⟨133, [0x00, 0x01, 0x66, 0, 0, 0, 0, 0, 0x18] ++ List.replicate 21 0, by decide⟩], rfl⟩
  have hccxrm : WellFormed Device.ccxRmTag :=
    wellFormed_element 221 [0x00, 0x40, 0x96, 0x01, 0x01, 0x00] (by decide)
  have hccxver : WellFormed d.ccxVerTag :=
    wellFormed_element 221 [0x00, 0x40, 0x96, 0x03, d.currentNetwork.bssCcxVerNumber] (by simp)
  have hrates := hssid.append (wellFormed_assocRates h)
  unfold Device.firstElements
  refine WellFormed.append ?_ (wellFormed_if fun hht => wellFormed_htCapTag 45 hht.1)
  refine WellFormed.append ?_ (wellFormed_if fun _ => hccxver)
  refine WellFormed.append ?_ (wellFormed_if fun _ => hccxrm)
  exact hrates.append (wellFormed_if fun _ => hckip)

theorem withoutHt_inBounds (h : d.InBounds) : d.withoutHt.InBounds := by
  unfold Device.withoutHt
  split
  · exact ⟨h.ssid, h.rates, h.ratesEx, h.wpaIe, h.wpsIe⟩
  · exact h

theorem elementsFit_iff (h : d.InBounds) (b : Builder) : ElementsFit d b ↔ b.Parses d := by
  unfold ElementsFit
  simp only [drop_fixed]
  cases b with
  | probeReq => exact iff_of_true (probeReq_elements h) trivial
  | authReq => exact iff_of_true (fun _ => wellFormed_nil) trivial
  | authChallenge challenge fits =>
    exact iff_of_true (fun _ => wellFormed_element 16 challenge fits) trivial
  | probeResp dest =>
    have htags : WellFormed d.copyGroupSuite.tags ↔ WellFormed d.copyGroupSuite.wpaTag := by
      have hssid := h.ssid
      have hrates := h.rates
      have hratesEx := h.ratesEx
      apply tags_iff <;> rw [Ieee.copyGroupSuite_currentNetwork] <;> omega
    exact ⟨fun hfit => htags.mp (hfit fun _ => 0), fun hwpa _ => htags.mpr hwpa⟩
  | assocResp dest => exact iff_of_true (fun _ => wellFormed_rates d) trivial
  | authResp status dest =>
    refine iff_of_false (fun hfit => ?_) id
    -- The length of the first element could be 255.
    have hlong := hfit fun _ => 0xff
    unfold Builder.elements at hlong
    rw [copied_succ, copied_succ, wellFormed_cons_iff, length_copied] at hlong
    exact absurd hlong.1 (by decide)
  | assocReq =>
    have hlast := (wellFormed_firstElements (withoutHt_inBounds h)).append_iff
      d.withoutHt.lastElements
    exact ⟨fun hfit => hlast.mp (hfit fun _ => 0), fun hlast' _ => hlast.mpr hlast'⟩

theorem wellFormed_realtekTag (h : d.htWanted = true ∧ d.bCurrentRT2RTAggregation = true) :
    WellFormed d.realtekTag := by
  have hlen : d.realtekIeLen - 2 = d.htConstructRt2rtAggElement.length := by
    unfold Device.realtekIeLen
    rw [if_pos h]
    rfl
  unfold Device.realtekTag
  rw [hlen]
  exact wellFormed_element 221 d.htConstructRt2rtAggElement
    (by simp [Device.htConstructRt2rtAggElement])

theorem wellFormed_lastElements (hwpa : WellFormed d.wpaBytes) (hwps : WellFormed d.wpsBytes) :
    WellFormed d.lastElements := by
  have hwmm : WellFormed Device.rtllibWmmInfo :=
    wellFormed_element 221 [0x00, 0x50, 0xf2, 0x02, 0x00, 0x01, 0] (by decide)
  have hturbo : WellFormed Device.rtllibTurboInfo :=
    wellFormed_element 221 [0x00, 0xe0, 0x4c, 0x01, 0x02, 0x11, 0x00] (by decide)
  unfold Device.lastElements
  refine WellFormed.append ?_ (wellFormed_if wellFormed_realtekTag)
  refine WellFormed.append ?_ (wellFormed_if fun hht => wellFormed_htCapTag 221 hht.1)
  refine WellFormed.append ?_ (wellFormed_if fun _ => hturbo)
  refine WellFormed.append ?_ hwps
  exact hwpa.append (wellFormed_if fun _ => hwmm)

/-- The user gave whole elements, and no PMKID is known for the network. -/
structure Device.WholeElements (d : Device) : Prop where
  wpaIe : WellFormed (copied d.wpaIe d.wpaIeLen)
  wpsIe : WellFormed d.wpsBytes
  pmkid : d.pmkCacheIdx = none

theorem assocReq_parses (h : d.WholeElements) : Builder.assocReq.Parses d := by
  have hbytes : WellFormed d.wpaBytes := by
    unfold Device.wpaBytes
    rw [h.pmkid, List.append_nil]
    exact h.wpaIe
  unfold Builder.Parses Device.withoutHt
  dsimp only
  split
  · exact wellFormed_lastElements hbytes h.wpsIe
  · exact wellFormed_lastElements hbytes h.wpsIe

/-! ## Main result -/

/-- Every builder allocates what it puts, and it is known which ones write every byte of what is sent
and end with well-formed elements. An association request does if what the user gave does. -/
theorem builder_iff (h : d.InBounds) (b : Builder) :
    (∀ mem, (b.build d mem).tail ≤ (b.build d mem).room) ∧
      (Written d b ↔ b.Filled d) ∧ (ElementsFit d b ↔ b.Parses d) ∧
      (d.WholeElements → ElementsFit d .assocReq) :=
  ⟨fun mem => tail_le_room d mem b, written_iff b, elementsFit_iff h b,
    fun hwhole => (elementsFit_iff h .assocReq).mpr (assocReq_parses hwhole)⟩

end

/-- A station with the RSN element `30 02 01 00`, and a PMKID for its network or not -/
def associating (pmkid : Bool) : Device where
  currentNetwork := { (default : Network) with ssidLen := 2, ratesLen := 4 }
  buseprotection := false
  devAddr := fun _ => 1
  wpaIe := place [0x30, 2, 1, 0] fun _ => 0
  wpaIeLen := 4
  iwMode := .infra
  shortSlot := true
  hostEncrypt := true
  crypt := some "CCMP"
  bCurSuppCCK := false
  txHeadroom := 16
  cckModulation := true
  ofdmModulation := true
  authMode := 0
  associateSeq := 0
  assocId := 0
  seqCtrl := 0
  mode := 0x10
  wpsIe := none
  wpsIeLen := 0
  pmkidList := fun _ => ⟨pmkid, default, fun _ => 0xff⟩
  apSecTkip := false
  bForcedBgMode := false
  bCurrentHTSupport := true
  bEnableHT := true
  ePeerHTSpecVer := .ewc
  bCurrentRT2RTAggregation := true
  bSupportRemoteWakeUp := false
  halfNmode := false
  bRegBW40MHz := true
  bRegSuppCCK := true
  selfMimoPs := 3
  regdot11HTOperationalRateSet := fun _ => 0xff
  disableMcs15 := false
  disableMcs14 := false
  disableAll2ss := false

theorem associating_inBounds (pmkid : Bool) : (associating pmkid).InBounds := by
  cases pmkid <;> constructor <;> decide

theorem associating_sound :
    (∀ mem, (Builder.assocReq.build (associating false) mem).tail ≤
      (Builder.assocReq.build (associating false) mem).room) ∧
    Written (associating false) .assocReq ∧ ElementsFit (associating false) .assocReq := by
  have h := builder_iff (associating_inBounds false) .assocReq
  have hwpa : WellFormed (copied (associating false).wpaIe (associating false).wpaIeLen) :=
    wellFormed_element 0x30 [1, 0] (by decide)
  exact ⟨h.1, h.2.1.mpr trivial, h.2.2.2 ⟨hwpa, wellFormed_nil, rfl⟩⟩

/-- The responses of the station are not written to the end, an authentication response has no
elements, and a known PMKID comes behind the RSN element. -/
theorem associating_unsound :
    ¬ Written (associating false) (.probeResp default) ∧
    ¬ Written (associating false) (.assocResp default) ∧
    ¬ Written (associating false) (.authResp 0 default) ∧
    ¬ ElementsFit (associating false) (.authResp 0 default) ∧
    ¬ ElementsFit (associating true) .assocReq := by
  refine ⟨fun h => (written_iff _).mp h, fun h => (written_iff _).mp h,
    fun h => (written_iff _).mp h, fun h => (elementsFit_iff (associating_inBounds _) _).mp h,
    fun h => ?_⟩
  have hlast : WellFormed (associating true).withoutHt.lastElements :=
    (elementsFit_iff (associating_inBounds _) _).mp h
  -- The first byte of the PMKID is taken for an identifier, the second one for a length.
  have hbytes : (associating true).withoutHt.lastElements = 0x30 :: 2 :: 1 :: 0 :: 1 :: 0 :: 0xff ::
      0xff :: (associating true).withoutHt.lastElements.drop 8 := by decide +kernel
  rw [hbytes, wellFormed_cons_iff] at hlast
  have hrest := hlast.2
  change WellFormed (1 :: 0 :: 0xff :: 0xff :: _) at hrest
  rw [wellFormed_cons_iff] at hrest
  have hpmkid := hrest.2
  change WellFormed (0xff :: 0xff :: _) at hpmkid
  rw [wellFormed_cons_iff] at hpmkid
  exact absurd hpmkid.1 (by decide +kernel)

end Rtl8190.Mgmt
