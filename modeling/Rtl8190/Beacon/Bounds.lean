import Rtl8190.Beacon.Decoders

/-!
# What a beacon makes the decoders access

The decoders share the network and a local buffer. An invariant on these leads from the decoders of
one element to the exact condition on a frame under which every access is legal.
-/

open Rtl8190.Memory

namespace Rtl8190.Beacon

/-! ## The condition -/

variable (env : Env)

/-- The decoder of the element stays within it and within the arrays. -/
def ElemOk (e : Elem) : Prop :=
  match e.id.toNat with
  | 3 => 0 < e.len
  | 5 => ¬ TimOff env e
  | 6 => 0 < e.len
  | 42 => 0 < e.len
  | 50 => e.len ≤ 12
  | 221 => ¬ (e.Begins env 0 [0x00, 0x40, 0x96, 0x01] ∧ e.len = 6)
  | _ => True

def IsAgg (e : Elem) : Prop := e.id = 221 ∧ 4 ≤ e.len ∧ e.Begins env 0 [0x00, 0xe0, 0x4c, 0x02]

def IsEwcCap (e : Elem) : Prop := e.id = 221 ∧ 4 ≤ e.len ∧ e.Begins env 0 [0x00, 0x90, 0x4c, 0x33]

instance (e : Elem) : Decidable (ElemOk env e) := by unfold ElemOk; split <;> infer_instance
instance (e : Elem) : Decidable (IsAgg env e) := by unfold IsAgg; infer_instance
instance (e : Elem) : Decidable (IsEwcCap env e) := by unfold IsEwcCap; infer_instance

/-- Whether the network supports HT, as far as the elements up to and with `e` tell. -/
def htAfter (ht : Bool) (e : Elem) : Bool :=
  if e.id = 45 then e.len ≠ 0 else ht || decide (IsEwcCap env e)

/-- Whether an aggregation element of six bytes or more was copied. -/
def longAfter (ht long : Bool) (e : Elem) : Bool :=
  long || (ht && decide (IsAgg env e ∧ 6 ≤ e.len))

/-- No aggregation element of five bytes comes first. -/
def AggOk (ht long : Bool) : List Elem → Prop
  | [] => True
  | e :: es =>
    (ht = true → IsAgg env e → e.len = 5 → long = true) ∧
      AggOk (htAfter env ht e) (longAfter env ht long e) es

instance decidableAggOk : (ht long : Bool) → (es : List Elem) → Decidable (AggOk env ht long es)
  | _, _, [] => isTrue trivial
  | ht, long, e :: es =>
    have := decidableAggOk (htAfter env ht e) (longAfter env ht long e) es
    inferInstanceAs (Decidable ((ht = true → IsAgg env e → e.len = 5 → long = true) ∧
      AggOk env (htAfter env ht e) (longAfter env ht long e) es))

/-- The elements of the `length` bytes from `pos` on, up to the first that does not fit. -/
def elements : Nat → Nat → Nat → List Elem
  | 0, _, _ => []
  | fuel + 1, length, pos =>
    if 2 ≤ length then
      let len := (env.mem (pos + 1)).toNat
      if 2 + len > length then []
      else ⟨pos, env.mem pos, len⟩ :: elements fuel (length - (2 + len)) (pos + (2 + len))
    else []

/-! ## The local variables -/

/-- What holds between two elements: `ht` says that the network supports HT, and `long` that byte 5
of `ht_realtek_agg_buf` is written. -/
structure Inv (ht long : Bool) (st : ParseState) : Prop where
  ssidLen : st.network.ssidLen ≤ 32
  support : st.network.bssht.bdSupportHT = ht
  htcap : st.tmpHtcapLen = 0 ↔ ht = false
  written : 5 ≤ st.htRealtekAggLen →
    (st.htRealtekAggBuf 4).isSome = true ∧ (st.htRealtekAggBuf 5).isSome = true
  long : env.aggregation = true → (st.htRealtekAggBuf 5).isSome = long

/-- An aggregation element of five bytes is not the first. -/
def AggStep (ht long : Bool) (e : Elem) : Prop :=
  ht = true → IsAgg env e → e.len = 5 → long = true

variable {env} {e : Elem} {n : Nat} {ht long : Bool} {st : ParseState}

theorem Inv.of_keeps (hinv : Inv env ht long st) {network : Network}
    (h : st.network.Keeps network) : Inv env ht long { st with network := network } :=
  ⟨h.ssidLen hinv.ssidLen, h.bssht ▸ hinv.support, hinv.htcap, hinv.written, hinv.long⟩

theorem not_isAgg_of_ne (h : e.id.toNat ≠ 221) : ¬ IsAgg env e := fun hagg => by simp [hagg.1] at h

theorem not_isEwcCap_of_ne (h : e.id.toNat ≠ 221) : ¬ IsEwcCap env e :=
  fun hcap => by simp [hcap.1] at h

theorem not_isAgg_of_byte (h : env.mem (e.start + (2 + 1)) = 0x50) : ¬ IsAgg env e := by
  rintro ⟨-, -, -, hb, -⟩
  simp [h] at hb

theorem not_isEwcCap_of_byte (h : env.mem (e.start + (2 + 1)) = 0x50) : ¬ IsEwcCap env e := by
  rintro ⟨-, -, -, hb, -⟩
  simp [h] at hb

theorem not_isEwcCap_of_isAgg (h : IsAgg env e) : ¬ IsEwcCap env e := by
  rintro ⟨-, -, -, hb, -⟩
  have := h.2.2.2.1
  simp [hb] at this

theorem longAfter_of_not_isAgg (h : ¬ IsAgg env e) : longAfter env ht long e = long := by
  simp [longAfter, h]

theorem htAfter_of_not_isEwcCap (h : ¬ IsEwcCap env e) (hid : e.id.toNat ≠ 45) :
    htAfter env ht e = ht := by
  have hne : e.id ≠ 45 := by rintro heq; simp [heq] at hid
  rw [htAfter, if_neg hne]
  simp [h]

@[simp] theorem setNetwork_val (m : Reads Access Network) :
    (st.setNetwork m).val = { st with network := m.val } := rfl

@[simp] theorem within_setNetwork {P : Access → Prop} (m : Reads Access Network) :
    (st.setNetwork m).Within P ↔ m.Within P := by
  simp [ParseState.setNetwork]

theorem Inv.htCap (hinv : Inv env ht long st) (hid : e.id.toNat = 45) :
    Inv env (htAfter env ht e) (longAfter env ht long e) (parseHtCap env e st).val := by
  have heq : e.id = 45 := BitVec.eq_of_toNat_eq hid
  rw [longAfter_of_not_isAgg (not_isAgg_of_ne (by omega)), htAfter, if_pos heq]
  unfold parseHtCap
  split_ifs with h
  · exact ⟨hinv.ssidLen, by simp [h], by simp [h], hinv.written, hinv.long⟩
  · exact ⟨hinv.ssidLen, by simp [h], by simp [h], hinv.written, hinv.long⟩

theorem Inv.htInfo (hinv : Inv env ht long st) : Inv env ht long (parseHtInfo env e st).val := by
  unfold parseHtInfo
  split_ifs
  · exact ⟨hinv.ssidLen, hinv.support, hinv.htcap, hinv.written, hinv.long⟩
  · exact ⟨hinv.ssidLen, hinv.support, hinv.htcap, hinv.written, hinv.long⟩

theorem Inv.country (hinv : Inv env ht long st) :
    Inv env ht long (rtllibExtractCountryIe env e st).val := by
  have hcopy (buf : Nat → Byte) (dot11d : Dot11dInfo) : Inv env ht long { st with
      network := { st.network with countryIeBuf := buf, countryIeLen := e.len }, dot11d := dot11d } :=
    ⟨hinv.ssidLen, hinv.support, hinv.htcap, hinv.written, hinv.long⟩
  have hdot11d (dot11d : Dot11dInfo) : Inv env ht long { st with dot11d := dot11d } :=
    ⟨hinv.ssidLen, hinv.support, hinv.htcap, hinv.written, hinv.long⟩
  simp only [rtllibExtractCountryIe, ite_val, bind_val, pure_val]
  split_ifs
  all_goals first | exact hcopy _ _ | exact hdot11d _

/-! ## Vendor elements -/

section Vendor

variable (hid : e.id = 221)
include hid

theorem startsWith_cap : (e.startsWith env [0x00, 0x90, 0x4c, 0x33]).val = true ↔ IsEwcCap env e := by
  rw [startsWith_val]
  exact ⟨fun h => ⟨hid, h⟩, fun h => h.2⟩

theorem startsWith_agg : (e.startsWith env [0x00, 0xe0, 0x4c, 0x02]).val = true ↔ IsAgg env e := by
  rw [startsWith_val]
  exact ⟨fun h => ⟨hid, h⟩, fun h => h.2⟩

theorem Inv.ewcCap (hinv : Inv env ht long st) :
    Inv env (ht || decide (IsEwcCap env e)) long (parseEwcCap env e st).val := by
  simp only [parseEwcCap, ite_val, bind_val, pure_val, startsWith_cap hid]
  split_ifs with hcap hhit
  · have hlen := hhit.2.1
    exact ⟨hinv.ssidLen, by simp [hhit], by simp [hhit]; omega, hinv.written, hinv.long⟩
  · have hht := hinv.htcap.mp hcap
    exact ⟨hinv.ssidLen, by simp [hhit, hht], by simp [hhit, hht, hcap], hinv.written, hinv.long⟩
  · have hht : ht = true := by simpa using mt hinv.htcap.mpr hcap
    exact ⟨hinv.ssidLen, by simp [hinv.support, hht], by simp [hht, hcap], hinv.written, hinv.long⟩

omit hid in
theorem Inv.ewcInfo (hinv : Inv env ht long st) : Inv env ht long (parseEwcInfo env e st).val := by
  simp only [parseEwcInfo, ite_val, bind_val, pure_val]
  split_ifs
  · exact ⟨hinv.ssidLen, hinv.support, hinv.htcap, hinv.written, hinv.long⟩
  · exact hinv
  · exact hinv

theorem copyAgg_val (st : ParseState) : (copyAgg env e st).val =
    if IsAgg env e then { st with
      htRealtekAggLen := e.len
      htRealtekAggBuf := fun i =>
        if i < e.len then some (env.mem (e.start + (2 + i))) else st.htRealtekAggBuf i }
    else st := by
  simp only [copyAgg, bind_val, ite_val, pure_val, startsWith_agg hid, copy_val, data_val]
  split
  · congr 1
    funext i
    split <;> rfl
  · rfl

theorem Inv.copyAgg (hinv : Inv env true long st) (hagg : env.aggregation = true)
    (hok : AggStep env true long e) :
    Inv env true (longAfter env true long e) (copyAgg env e st).val := by
  rw [copyAgg_val hid]
  split_ifs with hhit
  · have h5 : (if 5 < e.len then some (env.mem (e.start + (2 + 5))) else st.htRealtekAggBuf 5).isSome
        = longAfter env true long e := by
      split_ifs with hlen
      · simp [longAfter, hhit]
        omega
      · simp [longAfter, hinv.long hagg]
        omega
    refine ⟨hinv.ssidLen, hinv.support, hinv.htcap, fun hlen => ⟨?_, h5.trans ?_⟩, fun _ => h5⟩
    · have hlen : 5 ≤ e.len := hlen
      simp [show 4 < e.len by omega]
    · have hlen : 5 ≤ e.len := hlen
      rcases Nat.eq_or_lt_of_le hlen with heq | hlt
      · simp [longAfter, hok rfl hhit heq.symm]
      · simp [longAfter, hhit]
        omega
  · rwa [longAfter_of_not_isAgg hhit]

end Vendor

theorem copyAgg_within (hin : e.start + (2 + e.len) ≤ n) :
    (copyAgg env e st).Within (Legal n) := by
  simp only [copyAgg, within_bind, within_ite, within_pure, within_startsWith hin, within_noteAll,
    within_copy, within_data hin]
  exact ⟨trivial, fun _ => ⟨fun _ _ => trivial, fun _ h => h, trivial⟩, fun _ => trivial⟩

theorem within_aggByte (buf : Nat → Option Byte) (i : Nat) :
    (aggByte env buf i).Within (Legal n) ↔ (buf i).isSome = true :=
  List.forall_mem_singleton

theorem aggHas_within {buf : Nat → Option Byte} (h4 : (buf 4).isSome = true)
    (h5 : (buf 5).isSome = true) (mask : Byte) : (aggHas env buf mask).Within (Legal n) := by
  simp only [aggHas, within_bind, within_ite, within_pure, within_aggByte, h4, h5]
  simp

theorem readAgg_within (hinv : Inv env ht long st) : (readAgg env st).Within (Legal n) := by
  unfold readAgg
  split_ifs with h
  · obtain ⟨h4, h5⟩ := hinv.written h
    simp only [within_bind, within_pure, aggHas_within h4 h5, and_self]
  · exact within_pure _

theorem readSoftap_within_iff : (readSoftap env st).Within (Legal n) ↔
    (5 ≤ st.htRealtekAggLen → (st.htRealtekAggBuf 5).isSome = true) := by
  simp only [readSoftap, within_ite, within_bind, within_pure, within_aggByte]
  simp

theorem Inv.readAgg (hinv : Inv env ht long st) : Inv env ht long (readAgg env st).val := by
  unfold Beacon.readAgg
  split_ifs
  · exact ⟨hinv.ssidLen, hinv.support, hinv.htcap, hinv.written, hinv.long⟩
  · exact hinv

theorem Inv.readSoftap (hinv : Inv env ht long st) : Inv env ht long (readSoftap env st).val := by
  unfold Beacon.readSoftap
  split_ifs
  · exact ⟨hinv.ssidLen, hinv.support, hinv.htcap, hinv.written, hinv.long⟩
  · exact hinv

theorem readAgg_agg (st : ParseState) :
    (readAgg env st).val.htRealtekAggLen = st.htRealtekAggLen ∧
      (readAgg env st).val.htRealtekAggBuf = st.htRealtekAggBuf := by
  unfold readAgg
  split_ifs <;> exact ⟨rfl, rfl⟩

theorem parseRealtekAgg_within_iff (hid : e.id = 221) (hin : e.start + (2 + e.len) ≤ n)
    (hinv : Inv env ht long st) : (parseRealtekAgg env e st).Within (Legal n) ↔
      (env.aggregation = true → AggStep env ht long e) := by
  cases hagg : env.aggregation with
  | false => simp [parseRealtekAgg, hagg]
  | true =>
    simp only [parseRealtekAgg, hagg, if_true, within_bind, hinv.support, true_implies]
    cases ht with
    | false => simpa [AggStep, readSoftap_within_iff] using fun h => (hinv.written h).2
    | true =>
      simp only [if_true, within_bind, bind_val, copyAgg_within hin, true_and]
      constructor
      · rintro ⟨-, hsoft⟩ - hhit hlen
        rw [readSoftap_within_iff, (readAgg_agg _).1, (readAgg_agg _).2, copyAgg_val hid,
          if_pos hhit] at hsoft
        simpa [hlen, hinv.long hagg] using hsoft
      · intro hok
        have hcopy := hinv.copyAgg hid hagg hok
        exact ⟨readAgg_within hcopy,
          readSoftap_within_iff.mpr fun h => (hcopy.readAgg.written h).2⟩

theorem Inv.realtekAgg (hid : e.id = 221) (hinv : Inv env ht long st)
    (hok : env.aggregation = true → AggStep env ht long e) :
    Inv env ht (longAfter env ht long e) (parseRealtekAgg env e st).val := by
  cases hagg : env.aggregation with
  | false =>
    simp only [parseRealtekAgg, hagg, Bool.false_eq_true, if_false, pure_val]
    exact ⟨hinv.ssidLen, hinv.support, hinv.htcap, hinv.written, by simp [hagg]⟩
  | true =>
    simp only [parseRealtekAgg, hagg, if_true, hinv.support, bind_val, ite_val, pure_val]
    cases ht with
    | false => simpa [longAfter] using hinv.readSoftap
    | true => exact (hinv.copyAgg hid hagg (hok hagg)).readAgg.readSoftap

theorem aggStep_or_iff : AggStep env (ht || decide (IsEwcCap env e)) long e ↔ AggStep env ht long e := by
  by_cases h : IsEwcCap env e
  · have hagg : ¬ IsAgg env e := fun hagg => not_isEwcCap_of_isAgg hagg h
    simp [AggStep, hagg]
  · simp [h]

theorem longAfter_or : longAfter env (ht || decide (IsEwcCap env e)) long e = longAfter env ht long e := by
  by_cases h : IsEwcCap env e
  · have hagg : ¬ IsAgg env e := fun hagg => not_isEwcCap_of_isAgg hagg h
    simp [longAfter, hagg]
  · simp [h]

theorem elemOk_generic (hid : e.id = 221) :
    ElemOk env e ↔ ¬ (e.Begins env 0 [0x00, 0x40, 0x96, 0x01] ∧ e.len = 6) := by
  simp only [ElemOk, hid]
  rfl

theorem Inv.beforeMakers (hid : e.id = 221) (hinv : Inv env ht long st) :
    Inv env (ht || decide (IsEwcCap env e)) long (parseEwcInfo env e (parseEwcCap env e
      { st with network := (parseTurbo env e st.network).val }).val).val :=
  ((hinv.of_keeps (.turbo _)).ewcCap hid).ewcInfo

theorem parseVendor_within_iff (hid : e.id = 221) (hin : e.start + (2 + e.len) ≤ n)
    (hinv : Inv env ht long st) : (parseVendor env e st).Within (Legal n) ↔
      ElemOk env e ∧ (env.aggregation = true → AggStep env ht long e) := by
  rw [elemOk_generic hid, ← aggStep_or_iff]
  simp only [parseVendor, within_bind, within_pure, parseTurbo_within hin, parseEwcCap_within hin,
    parseEwcInfo_within hin, parseRealtekAgg_within_iff hid hin (hinv.beforeMakers hid),
    parseMakers_within hin, parseCcxRm_within_iff hin, parseCcxVersion_within hin,
    parseWzc_within hin, true_and, and_true]
  exact and_comm

theorem Inv.vendor (hid : e.id = 221) (hinv : Inv env ht long st)
    (hok : env.aggregation = true → AggStep env ht long e) :
    Inv env (htAfter env ht e) (longAfter env ht long e) (parseVendor env e st).val := by
  have hne : ¬ e.id = 45 := by simp [hid]
  rw [htAfter, if_neg hne, ← longAfter_or]
  rw [← aggStep_or_iff] at hok
  exact ((hinv.beforeMakers hid).realtekAgg hid hok).of_keeps
    ((((Network.Keeps.makers _).trans (.ccxRm _)).trans (.ccxVersion _)).trans (.wzc _))

/-- The tests on later elements do not hold for the elements that `parseGeneric` takes first. -/
theorem generic_of_byte (ht long : Bool) (hid : e.id = 221) (hb : env.mem (e.start + (2 + 1)) = 0x50) :
    ElemOk env e ∧ (env.aggregation = true → AggStep env ht long e) ∧ htAfter env ht e = ht ∧
      longAfter env ht long e = long := by
  have hagg := not_isAgg_of_byte hb
  refine ⟨?_, fun _ _ h => absurd h hagg, ?_, longAfter_of_not_isAgg hagg⟩
  · rw [elemOk_generic hid]
    rintro ⟨⟨-, h, -⟩, -⟩
    simp [hb] at h
  · exact htAfter_of_not_isEwcCap (not_isEwcCap_of_byte hb) (by simp [hid])

theorem parseGeneric_within_iff (hid : e.id = 221) (hin : e.start + (2 + e.len) ≤ n)
    (hinv : Inv env ht long st) : (parseGeneric env e st).Within (Legal n) ↔
      ElemOk env e ∧ (env.aggregation = true → AggStep env ht long e) := by
  simp only [parseGeneric, within_bind, parseQos_within hin, true_and]
  split
  · next hqos =>
    have h := generic_of_byte ht long hid (parseQos_some hqos).2
    exact iff_of_true (within_pure _) ⟨h.1, h.2.1⟩
  · simp only [within_bind, within_startsWith hin, true_and]
    split_ifs with hwpa
    · have hbegins := (startsWith_val _).mp hwpa
      have h := generic_of_byte ht long hid hbegins.2.2.1
      refine iff_of_true ?_ ⟨h.1, h.2.1⟩
      simp only [within_bind, within_pure, and_true]
      exact within_memcpy hin (by omega)
    · exact parseVendor_within_iff hid hin hinv

theorem Inv.generic (hid : e.id = 221) (hinv : Inv env ht long st)
    (hok : env.aggregation = true → AggStep env ht long e) :
    Inv env (htAfter env ht e) (longAfter env ht long e) (parseGeneric env e st).val := by
  simp only [parseGeneric, bind_val]
  split
  · next hqos =>
    obtain ⟨hkeeps, hb⟩ := parseQos_some hqos
    obtain ⟨-, -, hht, hlong⟩ := generic_of_byte ht long hid hb
    rw [hht, hlong]
    exact hinv.of_keeps hkeeps
  · simp only [bind_val]
    split_ifs with hwpa
    · have hbegins := (startsWith_val _).mp hwpa
      obtain ⟨-, -, hht, hlong⟩ := generic_of_byte ht long hid hbegins.2.2.1
      rw [hht, hlong]
      exact hinv.of_keeps ⟨rfl, id, rfl⟩
    · exact hinv.vendor hid hok

/-! ## One element -/

theorem not_aggStep_id (h : e.id.toNat ≠ 221) : AggStep env ht long e :=
  fun _ hagg => absurd hagg (not_isAgg_of_ne h)

theorem parseElement_within_iff (hin : e.start + (2 + e.len) ≤ n) (hinv : Inv env ht long st) :
    (parseElement env e st).Within (Legal n) ↔
      ElemOk env e ∧ (env.aggregation = true → AggStep env ht long e) := by
  by_cases hid : e.id.toNat = 221
  · have heq : e.id = 221 := BitVec.eq_of_toNat_eq hid
    rw [← parseGeneric_within_iff heq hin hinv]
    simp only [parseElement, hid]
  · have hstep : env.aggregation = true → AggStep env ht long e := fun _ => not_aggStep_id hid
    simp only [and_iff_left hstep, parseElement, ElemOk]
    split <;> simp_all only [within_setNetwork, within_pure, parseSsid_within hin,
      parseRates_within hin, parseDsSet_within_iff hin, parseTim_within_iff hin,
      parseIbssSet_within_iff hin, rtllibExtractCountryIe_within hin, parseErp_within_iff hin,
      parseHtCap_within hin, parseRsn_within hin, parseRatesEx_within_iff hin,
      parseHtInfo_within hin, parseAironet_within hin, not_true_eq_false]

theorem Inv.element (hinv : Inv env ht long st)
    (hok : env.aggregation = true → AggStep env ht long e) :
    Inv env (htAfter env ht e) (longAfter env ht long e) (parseElement env e st).val := by
  have hkeep (hid : e.id.toNat ≠ 45) (hid' : e.id.toNat ≠ 221) {st' : ParseState}
      (h : Inv env ht long st') : Inv env (htAfter env ht e) (longAfter env ht long e) st' := by
    rwa [htAfter_of_not_isEwcCap (not_isEwcCap_of_ne hid') hid,
      longAfter_of_not_isAgg (not_isAgg_of_ne hid')]
  unfold parseElement
  split
  case h_1 => exact hkeep (by omega) (by omega) (hinv.of_keeps (.ssid _))
  case h_2 => exact hkeep (by omega) (by omega) (hinv.of_keeps (.rates _))
  case h_3 => exact hkeep (by omega) (by omega) (hinv.of_keeps (.dsSet _))
  case h_4 => exact hkeep (by omega) (by omega) (hinv.of_keeps (.tim _))
  case h_5 => exact hkeep (by omega) (by omega) (hinv.of_keeps (.ibssSet _))
  case h_6 => exact hkeep (by omega) (by omega) hinv.country
  case h_7 => exact hkeep (by omega) (by omega) (hinv.of_keeps (.erp _))
  case h_8 hid => exact hinv.htCap hid
  case h_9 => exact hkeep (by omega) (by omega) (hinv.of_keeps (.rsn _))
  case h_10 => exact hkeep (by omega) (by omega) (hinv.of_keeps (.ratesEx _))
  case h_11 => exact hkeep (by omega) (by omega) hinv.htInfo
  case h_12 => exact hkeep (by omega) (by omega) (hinv.of_keeps (.aironet _))
  case h_13 hid => exact hinv.generic (BitVec.eq_of_toNat_eq hid) hok
  case h_14 => exact hkeep (by assumption) (by assumption) hinv

/-! ## A frame -/

theorem parseLoop_within_iff {fuel length pos : Nat} (hin : pos + length ≤ n)
    (hinv : Inv env ht long st) : (parseLoop env fuel length pos st).Within (Legal n) ↔
      (∀ e ∈ elements env fuel length pos, ElemOk env e) ∧
        (env.aggregation = true → AggOk env ht long (elements env fuel length pos)) := by
  induction fuel generalizing length pos ht long st with
  | zero => simp [parseLoop, elements, AggOk]
  | succ fuel ih =>
    simp only [parseLoop, elements]
    by_cases hlen : 2 ≤ length
    · simp only [hlen, if_true, within_bind, within_frameByte, frameByte_val]
      have hpos : pos + 1 < n := by omega
      by_cases hfit : 2 + (env.mem (pos + 1)).toNat > length
      · simp [hfit, hpos, AggOk]
      · generalize he : (⟨pos, env.mem pos, (env.mem (pos + 1)).toNat⟩ : Elem) = e
        have hin' : e.start + (2 + e.len) ≤ n := by subst he; simp only; omega
        simp only [hfit, hpos, show pos < n by omega, if_false, within_bind, within_frameByte,
          frameByte_val, true_and, List.forall_mem_cons, AggOk, he,
          parseElement_within_iff hin' hinv]
        constructor
        · rintro ⟨⟨hok, hstep⟩, hrest⟩
          have hrest := (ih (by omega) (hinv.element hstep)).mp hrest
          exact ⟨⟨hok, hrest.1⟩, fun hagg => ⟨hstep hagg, hrest.2 hagg⟩⟩
        · rintro ⟨⟨hok, hall⟩, hagg⟩
          have hstep := fun h => (hagg h).1
          exact ⟨⟨hok, hstep⟩, (ih (by omega) (hinv.element hstep)).mpr
            ⟨hall, fun h => (hagg h).2⟩⟩
    · simp [hlen, AggOk]

theorem parseLoop_ssidLen {fuel length pos : Nat} (hin : pos + length ≤ n)
    (hinv : Inv env ht long st) (h : (parseLoop env fuel length pos st).Within (Legal n)) :
    (parseLoop env fuel length pos st).val.network.ssidLen ≤ 32 := by
  -- As long as the decoders stay within bounds, so does `ssid_len`.
  induction fuel generalizing length pos ht long st with
  | zero => exact hinv.ssidLen
  | succ fuel ih =>
    simp only [parseLoop] at h ⊢
    by_cases hlen : 2 ≤ length
    · simp only [hlen, if_true, within_bind, bind_val, frameByte_val] at h ⊢
      by_cases hfit : 2 + (env.mem (pos + 1)).toNat > length
      · simpa [hfit] using hinv.ssidLen
      · simp only [hfit, if_false, within_bind, bind_val, frameByte_val] at h ⊢
        have hstep := ((parseElement_within_iff (by simp only; omega) hinv).mp h.2.2.1).2
        exact ih (by omega) (hinv.element hstep) h.2.2.2
    · simpa [hlen] using hinv.ssidLen

variable (env)

/-- The elements of a frame of `n` bytes. The length left for them is a `u16`. -/
def frameElements (n : Nat) : List Elem :=
  elements env ((n - 36) % 65536) ((n - 36) % 65536) 36

/-- The frame has its fixed part, and each element is one that its decoder guards. -/
structure FrameOk (n : Nat) : Prop where
  fixed : 36 ≤ n
  elems : ∀ e ∈ frameElements env n, ElemOk env e
  agg : env.aggregation = true → AggOk env false false (frameElements env n)

variable {env}

theorem Inv.init (fixed : Nat → Byte) (network : Network) (dot11d : Dot11dInfo) :
    Inv env false false ⟨initFixed env fixed network, dot11d, 0, 0, 0, fun _ => none⟩ :=
  ⟨Nat.zero_le _, rfl, by simp, by simp, by simp⟩

theorem u16_length (hn : 36 ≤ n) :
    (BitVec.ofNat 16 n - BitVec.ofNat 16 sizeofProbeResponse).toNat = (n - 36) % 65536 := by
  simp only [sizeofProbeResponse, BitVec.toNat_sub, BitVec.toNat_ofNat]
  omega

theorem rtllibNetworkInit_within_iff (n : Nat) (hlen : env.statsLen = BitVec.ofNat 16 n)
    (network : Network) (dot11d : Dot11dInfo) :
    (rtllibNetworkInit env network dot11d).Within (Legal n) ↔ FrameOk env n := by
  have hstores (a : Arr) (k : Nat) : (noteAll (.store a) k).Within (Legal n) :=
    (within_noteAll _ _).mpr fun _ _ => trivial
  simp only [rtllibNetworkInit, within_bind, within_copy, within_frameByte, hstores, true_and,
    rtllibParseInfoParam, within_pure, and_true, bind_val, pure_val, hlen]
  constructor
  · rintro ⟨-, hfixed, hloop, -⟩
    have hn : 36 ≤ n := hfixed 11 (by omega)
    rw [u16_length hn, parseLoop_within_iff (by simp only [sizeofProbeResponse]; omega) (Inv.init _ _ _)]
      at hloop
    exact ⟨hn, hloop.1, hloop.2⟩
  · rintro ⟨hn, helems, hagg⟩
    rw [u16_length hn]
    have hin : sizeofProbeResponse + (n - 36) % 65536 ≤ n := by
      simp only [sizeofProbeResponse]
      omega
    have hloop (fixed : Nat → Byte) :=
      (parseLoop_within_iff hin (Inv.init fixed network dot11d)).mpr ⟨helems, hagg⟩
    have hssid (fixed : Nat → Byte) :=
      parseLoop_ssidLen hin (Inv.init fixed network dot11d) (hloop fixed)
    refine ⟨fun i hi => by omega, fun i hi => by omega, hloop _, (within_ite _ _ _).mpr ?_⟩
    refine ⟨fun _ => within_pure _, fun _ => ?_⟩
    simp only [within_bind, within_pure, and_true]
    refine within_isEmptyEssid fun i hi => List.forall_mem_singleton.mpr ?_
    exact Nat.lt_of_lt_of_le hi (Nat.le_succ_of_le (hssid _))

/-- Whatever the frame and the memory behind it, no access goes out of bounds exactly when the frame
is `FrameOk`. -/
theorem network_init_bounds_iff (env : Env) (n : Nat) (network : Network) (dot11d : Dot11dInfo) :
    (rtllibNetworkInit (env.setLen n) network dot11d).Within (Legal n) ↔ FrameOk (env.setLen n) n :=
  rtllibNetworkInit_within_iff n rfl network dot11d

/-- A beacon of 38 bytes with an empty DS parameter set. -/
def dsSetBeacon : Env :=
  { (default : Env) with mem := fun i => if i = 36 then 3 else 0 }

theorem not_always_in_bounds : ¬ ∀ (env : Env) (n : Nat), 24 ≤ n →
    ∀ (network : Network) (dot11d : Dot11dInfo),
      (rtllibNetworkInit (env.setLen n) network dot11d).Within (Legal n) := by
  intro h
  have hwithin := h dsSetBeacon 38 (by decide) default default
  revert hwithin
  decide +kernel

end Rtl8190.Beacon
