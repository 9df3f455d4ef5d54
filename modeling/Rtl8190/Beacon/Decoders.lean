import Rtl8190.Beacon.Code

/-!
# The decoders of one element

What each decoder accesses and which fields it leaves alone. Each guards its reads, but for a few
slips.
-/

open Rtl8190.Memory Function

namespace Rtl8190.Beacon

/-- The access is to the frame of `n` bytes, to the element that is being decoded, inside an array
of the network, or to a byte of the local buffer that was written. -/
def Legal (n : Nat) : Access → Prop
  | .frame off => off < n
  | .element start len off => off < start + (2 + len) ∧ off < n
  | .load a i => i < a.size
  | .store _ _ => True
  | .aggLoad _ written => written = true
  | .aggStore _ => True

instance (n : Nat) : DecidablePred (Legal n) := fun a => by
  cases a <;> unfold Legal <;> infer_instance

variable (env : Env)

def Elem.Begins (e : Elem) (i : Nat) : List Byte → Prop
  | [] => True
  | b :: bs => env.mem (e.start + (2 + i)) = b ∧ e.Begins (i + 1) bs

instance Elem.decidableBegins (e : Elem) : (i : Nat) → (bs : List Byte) → Decidable (e.Begins env i bs)
  | _, [] => isTrue trivial
  | i, b :: bs =>
    have := Elem.decidableBegins e (i + 1) bs
    inferInstanceAs (Decidable (env.mem (e.start + (2 + i)) = b ∧ e.Begins env (i + 1) bs))

/-- A TIM element whose partial virtual bitmap ends right before the byte of the association id. -/
def TimOff (e : Elem) : Prop :=
  4 ≤ e.len ∧ env.state = .linked ∧
    env.assocId.toNat = 8 * ((env.mem (e.start + (2 + 2))).toNat / 2 * 2 + e.len - 3)

instance (e : Elem) : Decidable (TimOff env e) := by unfold TimOff; infer_instance

/-! ## Reads of an element -/

variable {env} {e : Elem} {n : Nat}

@[simp] theorem frameByte_val (off : Nat) : (frameByte env off).val = env.mem off := by
  rw [frameByte]

@[simp] theorem byte_val (off : Nat) : (e.byte env off).val = env.mem (e.start + off) := by
  rw [Elem.byte]

@[simp] theorem data_val (i : Nat) : (e.data env i).val = env.mem (e.start + (2 + i)) := by
  rw [Elem.data, byte_val]

@[simp] theorem within_frameByte (off : Nat) : (frameByte env off).Within (Legal n) ↔ off < n :=
  List.forall_mem_singleton

theorem within_byte (hin : e.start + (2 + e.len) ≤ n) (off : Nat) :
    (e.byte env off).Within (Legal n) ↔ off < 2 + e.len := by
  refine List.forall_mem_singleton.trans ?_
  simp only [Legal]
  omega

theorem within_data (hin : e.start + (2 + e.len) ≤ n) (i : Nat) :
    (e.data env i).Within (Legal n) ↔ i < e.len := by
  rw [Elem.data, within_byte hin]
  omega

theorem matches_val (i : Nat) (bs : List Byte) :
    (e.matches env i bs).val = true ↔ e.Begins env i bs := by
  induction bs generalizing i with
  | nil => simp [Elem.matches, Elem.Begins]
  | cons b bs ih =>
    simp only [Elem.matches, bind_val, ite_val, pure_val, data_val, Elem.Begins, ← ih]
    split <;> simp [*]

theorem within_matches (hin : e.start + (2 + e.len) ≤ n) {i : Nat} {bs : List Byte}
    (h : i + bs.length ≤ e.len) : (e.matches env i bs).Within (Legal n) := by
  induction bs generalizing i with
  | nil => exact within_pure _
  | cons b bs ih =>
    simp only [List.length_cons] at h
    simp only [Elem.matches, within_bind, within_data hin, within_ite, within_pure]
    exact ⟨by omega, fun _ => ih (by omega), fun _ => trivial⟩

theorem startsWith_val (bs : List Byte) :
    (e.startsWith env bs).val = true ↔ bs.length ≤ e.len ∧ e.Begins env 0 bs := by
  unfold Elem.startsWith
  split <;> simp [matches_val, *]

theorem within_startsWith (hin : e.start + (2 + e.len) ≤ n) (bs : List Byte) :
    (e.startsWith env bs).Within (Legal n) := by
  unfold Elem.startsWith
  split_ifs with h
  · exact within_matches hin (by omega)
  · exact within_pure _

theorem longerThan_val (bs : List Byte) :
    (e.longerThan env bs).val = true ↔ 4 < e.len ∧ e.Begins env 0 bs := by
  unfold Elem.longerThan
  split <;> simp [matches_val, *]

theorem within_longerThan (hin : e.start + (2 + e.len) ≤ n) (bs : List Byte) (hbs : bs.length ≤ 5) :
    (e.longerThan env bs).Within (Legal n) := by
  unfold Elem.longerThan
  split_ifs with h
  · exact within_matches hin (by omega)
  · exact within_pure _

theorem within_anyOui (hin : e.start + (2 + e.len) ≤ n) (ouis : List (List Byte)) :
    (e.anyOui env ouis).Within (Legal n) := by
  induction ouis with
  | nil => exact within_pure _
  | cons oui ouis ih =>
    simp only [Elem.anyOui, within_bind, within_ite, within_pure, within_startsWith hin, ih]
    simp

theorem within_memcpy (hin : e.start + (2 + e.len) ≤ n) {off k : Nat} (h : off + k ≤ 2 + e.len)
    {a : Arr} {buf : Nat → Byte} : (e.memcpy env off a buf k).Within (Legal n) := by
  simp only [Elem.memcpy, within_bind, within_noteAll, within_copy, within_byte hin]
  exact ⟨fun _ _ => trivial, fun _ _ => by omega⟩

theorem within_allZero {π : Type} {P : π → Prop} {essid : Nat → Reads π Byte} {k : Nat}
    (h : ∀ i < k, (essid i).Within P) : (allZero essid k).Within P := by
  induction k with
  | zero => exact within_pure _
  | succ k ih =>
    simp only [allZero, within_bind, within_ite, within_pure]
    exact ⟨h k (by omega), fun _ => trivial, fun _ => ih fun i hi => h i (by omega)⟩

theorem within_isEmptyEssid {π : Type} {P : π → Prop} {essid : Nat → Reads π Byte} {k : Nat}
    (h : ∀ i < k, (essid i).Within P) : (rtllibIsEmptyEssid essid k).Within P := by
  have hz := within_allZero h
  unfold rtllibIsEmptyEssid
  split_ifs with hk
  · simp only [within_bind, within_ite, within_pure]
    exact ⟨h 0 (by omega), fun _ => trivial, fun _ => hz⟩
  · exact hz

/-! ## One decoder after the other -/

theorem aci_lt (b : Byte) : ((b &&& 0x60) >>> 5).toNat < 4 := by
  revert b
  decide +kernel

theorem convertAc_within (qosData : QosData) (ac : Nat → Byte) :
    (convertAc qosData ac).Within (Legal n) := by
  simp only [convertAc, within_bind, within_note, within_pure]
  exact ⟨trivial, aci_lt _, trivial⟩

theorem rtllibQosConvertAcToParameters_within (qui : Nat → Byte) (qosData : QosData) :
    (rtllibQosConvertAcToParameters qui qosData).Within (Legal n) := by
  simp only [rtllibQosConvertAcToParameters, within_bind, convertAc_within, and_self]

section Decoders

variable (hin : e.start + (2 + e.len) ≤ n) (network : Network)
include hin

theorem parseSsid_within : (parseSsid env e network).Within (Legal n) := by
  have hempty : (rtllibIsEmptyEssid (e.data env) e.len).Within (Legal n) :=
    within_isEmptyEssid fun i hi => (within_data hin i).mpr hi
  have hcopy : (e.memcpy env 2 .ssid network.ssid (min e.len 32)).Within (Legal n) :=
    within_memcpy hin (by omega)
  simp only [parseSsid, within_bind, within_ite, within_pure, within_noteAll, hempty, hcopy]
  simp [Legal]

theorem ratesLoop_within {k : Nat} (hk : k ≤ e.len) (hk' : k ≤ 12) :
    (ratesLoop env e network k).Within (Legal n) := by
  induction k with
  | zero => exact within_pure _
  | succ k ih =>
    simp only [ratesLoop, within_bind, within_note, within_pure, within_data hin, Legal, Arr.size]
    exact ⟨ih (by omega) (by omega), by omega, trivial, by omega, trivial⟩

theorem parseRates_within : (parseRates env e network).Within (Legal n) :=
  ratesLoop_within hin _ (by omega) (by omega)

theorem ratesExLoop_within_iff {k : Nat} (hk : k ≤ e.len) :
    (ratesExLoop env e network k).Within (Legal n) ↔ k ≤ 12 := by
  induction k with
  | zero => simp [ratesExLoop]
  | succ k ih =>
    simp only [ratesExLoop, within_bind, within_note, within_pure, within_data hin,
      ih (by omega), Legal, Arr.size, true_and, and_true]
    omega

theorem parseRatesEx_within_iff : (parseRatesEx env e network).Within (Legal n) ↔ e.len ≤ 12 := by
  rw [parseRatesEx, ratesExLoop_within_iff hin _ (by omega)]
  omega

theorem parseDsSet_within_iff : (parseDsSet env e network).Within (Legal n) ↔ 0 < e.len := by
  simp [parseDsSet, within_data hin]

theorem parseErp_within_iff : (parseErp env e network).Within (Legal n) ↔ 0 < e.len := by
  simp [parseErp, within_data hin]

theorem parseIbssSet_within_iff : (parseIbssSet env e network).Within (Legal n) ↔ 0 < e.len := by
  simp [parseIbssSet, within_data hin]

theorem parseTim_within_iff : (parseTim env e network).Within (Legal n) ↔ ¬ TimOff env e := by
  -- The bound on the association id lets the byte after the bitmap through.
  have hstore : (noteAll (.store .lastDtimStaTime) 2).Within (Legal n) :=
    (within_noteAll _ _).mpr fun _ _ => trivial
  simp only [parseTim, TimOff, within_ite, within_bind, within_data hin, within_pure, data_val,
    hstore]
  generalize (env.mem (e.start + (2 + 2))).toNat / 2 * 2 = offset
  by_cases hlink : env.state = .linked
  · simp only [hlink, ne_eq, not_true_eq_false, not_false_eq_true, true_implies,
      implies_true, true_and, and_true]
    omega
  · simp only [hlink, ne_eq, not_false_eq_true, not_true_eq_false, false_implies,
      implies_true, true_and, and_true, false_and, and_false, iff_true]
    omega

theorem parseRsn_within : (parseRsn env e network).Within (Legal n) := by
  simp only [parseRsn, within_bind, within_pure, and_true]
  exact within_memcpy hin (by omega)

theorem parseAironet_within : (parseAironet env e network).Within (Legal n) := by
  simp only [parseAironet, within_ite, within_bind, within_data hin, within_pure]
  exact ⟨fun h => ⟨h, trivial⟩, fun _ => trivial⟩

theorem readQosElement_within (size : Nat) (subType : Byte) :
    (readQosElement env e size subType).Within (Legal n) := by
  unfold readQosElement
  split_ifs with h
  · simp only [within_bind, within_copy, within_pure, and_true]
    exact fun i hi => (within_data hin i).mpr (by omega)
  · exact within_pure _

theorem parseQos_within : (rtllibParseQosInfoParamIE env e network).Within (Legal n) := by
  unfold rtllibParseQosInfoParamIE
  simp only [within_bind, readQosElement_within hin, true_and]
  split
  · exact within_pure _
  · simp only [within_bind, readQosElement_within hin, true_and]
    split
    · simp only [within_bind, within_pure, and_true]
      exact rtllibQosConvertAcToParameters_within _ _
    · exact within_pure _

theorem copyHtCap_within (bssht : BssHt) : (copyHtCap env e bssht).Within (Legal n) := by
  simp only [copyHtCap, within_bind, within_pure, and_true]
  exact within_memcpy hin (by split <;> omega)

theorem copyHtInfo_within (ver : HtSpecVer) (bssht : BssHt) :
    (copyHtInfo env e ver bssht).Within (Legal n) := by
  simp only [copyHtInfo, within_bind, within_pure, and_true]
  exact within_memcpy hin (by split <;> omega)

theorem parseHtCap_within (st : ParseState) : (parseHtCap env e st).Within (Legal n) := by
  simp only [parseHtCap, oneStream, within_ite, within_bind, within_pure, within_note,
    copyHtCap_within hin]
  simp [Legal, Arr.size]

theorem parseHtInfo_within (st : ParseState) : (parseHtInfo env e st).Within (Legal n) := by
  simp only [parseHtInfo, within_ite, within_bind, within_pure, copyHtInfo_within hin]
  simp

theorem parseEwcCap_within (st : ParseState) : (parseEwcCap env e st).Within (Legal n) := by
  simp only [parseEwcCap, oneStream, within_ite, within_bind, within_pure, within_note,
    within_startsWith hin, copyHtCap_within hin]
  simp [Legal, Arr.size]

theorem parseEwcInfo_within (st : ParseState) : (parseEwcInfo env e st).Within (Legal n) := by
  simp only [parseEwcInfo, within_ite, within_bind, within_pure, within_startsWith hin,
    copyHtInfo_within hin]
  simp

theorem parseMakers_within : (parseMakers env e network).Within (Legal n) := by
  simp only [parseMakers, within_bind, within_pure, within_anyOui hin]
  simp

/-- The index is that of an array of elements, so that the copy starts at byte 8 of the element. -/
theorem parseCcxRm_within_iff : (parseCcxRm env e network).Within (Legal n) ↔
    ¬ (e.Begins env 0 [0x00, 0x40, 0x96, 0x01] ∧ e.len = 6) := by
  simp only [parseCcxRm, within_bind, within_ite, within_pure, within_note, within_byte hin,
    within_longerThan hin [0x00, 0x40, 0x96, 0x01] (by decide), longerThan_val]
  constructor
  · rintro ⟨-, h, -⟩ ⟨hb, hlen⟩
    have := (h ⟨by omega, hb⟩).1 hlen
    omega
  · intro h
    exact ⟨trivial, fun hb => ⟨fun hlen => absurd ⟨hb.2, hlen⟩ h, fun _ => trivial⟩, fun _ => trivial⟩

theorem parseCcxVersion_within : (parseCcxVersion env e network).Within (Legal n) := by
  simp only [parseCcxVersion, within_bind, within_ite, within_pure, within_data hin,
    within_longerThan hin [0x00, 0x40, 0x96, 0x03] (by decide)]
  exact ⟨trivial, fun _ => ⟨fun hlen => ⟨by omega, trivial⟩, fun _ => trivial⟩, fun _ => trivial⟩

theorem parseWzc_within : (parseWzc env e network).Within (Legal n) := by
  have hcopy : (e.memcpy env 0 .wzcIe network.wzcIe (min (e.len + 2) 256)).Within (Legal n) :=
    within_memcpy hin (by omega)
  simp only [parseWzc, within_bind, within_ite, within_pure, hcopy,
    within_longerThan hin [0x00, 0x50, 0xf2, 0x04] (by decide)]
  simp

theorem parseTurbo_within : (parseTurbo env e network).Within (Legal n) := by
  unfold parseTurbo
  split_ifs with h
  · simp only [within_bind, within_pure, and_true]
    exact within_matches hin (by simp [h])
  · exact within_pure _

theorem rtllibExtractCountryIe_within (st : ParseState) :
    (rtllibExtractCountryIe env e st).Within (Legal n) := by
  have hcopy : (e.memcpy env 2 .countryIeBuf st.network.countryIeBuf e.len).Within (Legal n) :=
    within_memcpy hin le_rfl
  have hupdate (hlen : e.len ≠ 0) (a : Addr) (info : Dot11dInfo) :
      (dot11dUpdateCountryIe (e.data env) a e.len info).Within (Legal n) :=
    within_dot11dUpdateCountryIe (fun i hi => (within_data hin i).mpr hi) le_rfl (numTriples_le hlen)
  simp only [rtllibExtractCountryIe, within_bind, within_ite, within_pure, hcopy]
  simp only [implies_true, and_true, true_and]
  exact fun _ hlen _ => hupdate hlen _ _

end Decoders

/-! ## What the decoders keep -/

/-- The decoders of one field leave these alone. -/
structure Network.Keeps (network network' : Network) : Prop where
  bssht : network'.bssht = network.bssht
  ssidLen : network.ssidLen ≤ 32 → network'.ssidLen ≤ 32
  lastScanned : network'.lastScanned = network.lastScanned

namespace Network.Keeps

variable {network network' network'' : Network}

theorem refl : network.Keeps network := ⟨rfl, id, rfl⟩

theorem trans (h : network.Keeps network') (h' : network'.Keeps network'') :
    network.Keeps network'' :=
  ⟨h'.bssht.trans h.bssht, h'.ssidLen ∘ h.ssidLen, h'.lastScanned.trans h.lastScanned⟩

variable (network)

theorem ssid : network.Keeps (parseSsid env e network).val := by
  unfold parseSsid
  simp only [bind_val, ite_val, pure_val]
  split
  · exact ⟨rfl, id, rfl⟩
  · exact ⟨rfl, fun _ => by simp only; omega, rfl⟩

theorem ratesLoop (k : Nat) : network.Keeps (Beacon.ratesLoop env e network k).val := by
  induction k with
  | zero => exact refl
  | succ k ih => exact ih.trans ⟨rfl, id, rfl⟩

theorem ratesExLoop (k : Nat) : network.Keeps (Beacon.ratesExLoop env e network k).val := by
  induction k with
  | zero => exact refl
  | succ k ih => exact ih.trans ⟨rfl, id, rfl⟩

theorem rates : network.Keeps (parseRates env e network).val := by
  unfold parseRates
  refine trans ?_ (ratesLoop _ _)
  exact ⟨rfl, id, rfl⟩

theorem ratesEx : network.Keeps (parseRatesEx env e network).val := by
  unfold parseRatesEx
  refine trans ?_ (ratesExLoop _ _)
  exact ⟨rfl, id, rfl⟩

theorem dsSet : network.Keeps (parseDsSet env e network).val := ⟨rfl, id, rfl⟩

theorem erp : network.Keeps (parseErp env e network).val := ⟨rfl, id, rfl⟩

theorem ibssSet : network.Keeps (parseIbssSet env e network).val := ⟨rfl, id, rfl⟩

theorem tim : network.Keeps (parseTim env e network).val := by
  simp only [parseTim, ite_val, bind_val, pure_val]
  split
  · exact refl
  · split
    · exact ⟨rfl, id, rfl⟩
    · split <;> exact ⟨rfl, id, rfl⟩

theorem rsn : network.Keeps (parseRsn env e network).val := ⟨rfl, id, rfl⟩

theorem aironet : network.Keeps (parseAironet env e network).val := by
  unfold parseAironet
  split <;> exact ⟨rfl, id, rfl⟩

theorem turbo : network.Keeps (parseTurbo env e network).val := by
  simp only [parseTurbo, ite_val, bind_val, pure_val]
  split
  · split <;> exact ⟨rfl, id, rfl⟩
  · exact refl

theorem makers : network.Keeps (parseMakers env e network).val := ⟨rfl, id, rfl⟩

theorem ccxRm : network.Keeps (parseCcxRm env e network).val := by
  simp only [parseCcxRm, ite_val, bind_val, pure_val]
  split
  · split
    · split <;> exact ⟨rfl, id, rfl⟩
    · exact ⟨rfl, id, rfl⟩
  · exact refl

theorem ccxVersion : network.Keeps (parseCcxVersion env e network).val := by
  simp only [parseCcxVersion, ite_val, bind_val, pure_val]
  split
  · split <;> exact ⟨rfl, id, rfl⟩
  · exact refl

theorem wzc : network.Keeps (parseWzc env e network).val := by
  simp only [parseWzc, ite_val, bind_val, pure_val]
  split
  · exact ⟨rfl, id, rfl⟩
  · exact refl

end Network.Keeps

theorem readQosElement_some {size : Nat} {subType : Byte} {qui : Nat → Byte}
    (h : (readQosElement env e size subType).val = some qui) (hsize : 1 < size) :
    env.mem (e.start + (2 + 1)) = 0x50 := by
  simp only [readQosElement, ite_val, bind_val, pure_val, copy_val] at h
  split at h
  · split at h
    · next hverify =>
      simp only [rtllibVerifyQosInfo, qosOui, decide_eq_true_eq, data_val, hsize, if_true] at hverify
      exact hverify.2.2.1
    · cases h
  · cases h

theorem parseQos_some {network network' : Network}
    (h : (rtllibParseQosInfoParamIE env e network).val = some network') :
    network.Keeps network' ∧ env.mem (e.start + (2 + 1)) = 0x50 := by
  simp only [rtllibParseQosInfoParamIE, bind_val] at h
  split at h
  · next hinfo =>
    cases h
    exact ⟨⟨rfl, id, rfl⟩, readQosElement_some hinfo (by decide)⟩
  · simp only [bind_val] at h
    split at h
    · next hparam =>
      cases h
      exact ⟨⟨rfl, id, rfl⟩, readQosElement_some hparam (by decide)⟩
    · cases h

end Rtl8190.Beacon
