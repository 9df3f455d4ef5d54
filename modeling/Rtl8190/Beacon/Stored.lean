import Rtl8190.Beacon.Decoders
import Rtl8190.Beacon.Networks
import Rtl8190.Lib.Run

/-!
# What is stored in a network

`rtllib_parse_info_param`, `rtllib_network_init` and `update_network` write inside the arrays of
`struct rtllib_network`, and store no length beyond the size of its array.
-/

open Rtl8190.Memory Rtl8190.Run Function

namespace Rtl8190.Beacon

/-! ## Lengths -/

structure Lengths where
  ssidLen : Nat
  hiddenSsidLen : Nat
  ratesLen : Nat
  ratesExLen : Nat
  wpaIeLen : Nat
  rsnIeLen : Nat
  wzcIeLen : Nat
  bdHTCapLen : Nat
  bdHTInfoLen : Nat
  countryIeLen : Nat

def Network.lengths (network : Network) : Lengths where
  ssidLen := network.ssidLen
  hiddenSsidLen := network.hiddenSsidLen
  ratesLen := network.ratesLen
  ratesExLen := network.ratesExLen
  wpaIeLen := network.wpaIeLen
  rsnIeLen := network.rsnIeLen
  wzcIeLen := network.wzcIeLen
  bdHTCapLen := network.bssht.bdHTCapLen
  bdHTInfoLen := network.bssht.bdHTInfoLen
  countryIeLen := network.countryIeLen

/-- No length is beyond the size of its array. The arrays of an SSID have one byte more. -/
structure Lengths.Ok (l : Lengths) : Prop where
  ssidLen : l.ssidLen ≤ 32
  hiddenSsidLen : l.hiddenSsidLen ≤ 32
  ratesLen : l.ratesLen ≤ 12
  ratesExLen : l.ratesExLen ≤ 16
  wpaIeLen : l.wpaIeLen ≤ 64
  rsnIeLen : l.rsnIeLen ≤ 64
  wzcIeLen : l.wzcIeLen ≤ 256
  bdHTCapLen : l.bdHTCapLen ≤ 32
  bdHTInfoLen : l.bdHTInfoLen ≤ 32
  countryIeLen : l.countryIeLen ≤ 255

def InArray : Access → Prop
  | .store a i => i < a.size
  | _ => True

instance : DecidablePred InArray
  | .store a i => inferInstanceAs (Decidable (i < a.size))
  | .frame _ | .element _ _ _ | .load _ _ | .aggLoad _ _ | .aggStore _ => isTrue trivial

/-- The stores are inside their arrays, and the network `f` of the result has lengths that are. -/
structure Fits {α : Type} (f : α → Network) (m : Reads Access α) : Prop where
  within : m.Within InArray
  lengths : (f m.val).lengths.Ok

namespace Fits

variable {α β : Type} {f : α → Network} {g : β → Network}

theorem pure {a : α} (h : (f a).lengths.Ok) : Fits f (pure a) := ⟨within_pure a, h⟩

theorem bind {m : Reads Access α} {k : α → Reads Access β} (h : Fits f m)
    (hk : ∀ a, (f a).lengths.Ok → Fits g (k a)) : Fits g (m >>= k) :=
  ⟨(within_bind m k).mpr ⟨h.within, (hk _ h.lengths).within⟩, (hk _ h.lengths).lengths⟩

theorem after {m : Reads Access α} {k : α → Reads Access β} (h : m.Within InArray)
    (hk : ∀ a, Fits g (k a)) : Fits g (m >>= k) :=
  ⟨(within_bind m k).mpr ⟨h, (hk _).within⟩, (hk _).lengths⟩

theorem ite {c : Prop} [Decidable c] {m m' : Reads Access α} (h : c → Fits f m)
    (h' : ¬ c → Fits f m') : Fits f (if c then m else m') := by
  split
  · exact h ‹_›
  · exact h' ‹_›

end Fits

/-! ## Reads -/

variable {env : Env} {e : Elem}

@[simp] theorem byte_inArray (off : Nat) : (e.byte env off).Within InArray :=
  List.forall_mem_singleton.mpr trivial

@[simp] theorem data_inArray (i : Nat) : (e.data env i).Within InArray := byte_inArray _

@[simp] theorem frameByte_inArray (off : Nat) : (frameByte env off).Within InArray :=
  List.forall_mem_singleton.mpr trivial

@[simp] theorem matches_inArray (i : Nat) (bs : List Byte) : (e.matches env i bs).Within InArray := by
  induction bs generalizing i with
  | nil => exact within_pure _
  | cons b bs ih =>
    unfold Elem.matches
    simp [within_ite, ih]

@[simp] theorem startsWith_inArray (bs : List Byte) : (e.startsWith env bs).Within InArray := by
  unfold Elem.startsWith
  simp [within_ite]

@[simp] theorem longerThan_inArray (bs : List Byte) : (e.longerThan env bs).Within InArray := by
  unfold Elem.longerThan
  simp [within_ite]

@[simp] theorem anyOui_inArray (ouis : List (List Byte)) : (e.anyOui env ouis).Within InArray := by
  induction ouis with
  | nil => exact within_pure _
  | cons oui ouis ih =>
    unfold Elem.anyOui
    simp [within_ite, ih]

theorem memcpy_inArray {off k : Nat} {a : Arr} {buf : Nat → Byte} (h : k ≤ a.size) :
    (e.memcpy env off a buf k).Within InArray := by
  unfold Elem.memcpy
  rw [within_bind]
  refine ⟨(within_noteAll _ _).mpr fun i hi => ?_, (within_copy _ _ _).mpr fun i _ => byte_inArray _⟩
  exact Nat.lt_of_lt_of_le hi h

theorem readQosElement_inArray (size : Nat) (subType : Byte) :
    (readQosElement env e size subType).Within InArray := by
  unfold readQosElement
  simp [within_ite]

/-! ## The decoders -/

section Decoders

variable {network : Network} (h : network.lengths.Ok)
include h

theorem parseSsid_fits : Fits id (parseSsid env e network) := by
  unfold parseSsid
  apply Fits.after
  · exact within_isEmptyEssid fun i _ => data_inArray i
  intro empty
  apply Fits.ite
  · intro _
    exact .pure h
  · intro _
    refine .after (memcpy_inArray (by simp only [Arr.size]; omega)) fun ssid => ?_
    refine .after ((within_noteAll _ _).mpr fun i hi => ?_) fun _ => ?_
    · simp only [InArray, Arr.size]
      omega
    · exact .pure { h with ssidLen := by simp only [Network.lengths, id]; omega }

theorem ratesLoop_fits {k : Nat} (hk : k ≤ 12) : Fits id (ratesLoop env e network k) := by
  induction k with
  | zero => exact .pure h
  | succ k ih =>
    unfold ratesLoop
    refine .bind (ih (by omega)) fun network hnetwork => ?_
    refine .after (data_inArray _) fun rate => ?_
    refine .after ((within_note _).mpr ?_) fun _ => ?_
    · simp only [InArray, Arr.size]
      omega
    · exact .after ((within_note _).mpr trivial) fun _ => .pure hnetwork

theorem ratesExLoop_fits {k : Nat} (hk : k ≤ 16) : Fits id (ratesExLoop env e network k) := by
  induction k with
  | zero => exact .pure h
  | succ k ih =>
    unfold ratesExLoop
    refine .bind (ih (by omega)) fun network hnetwork => ?_
    refine .after (data_inArray _) fun rate => ?_
    refine .after ((within_note _).mpr ?_) fun _ => ?_
    · simp only [InArray, Arr.size]
      omega
    · exact .after ((within_note _).mpr trivial) fun _ => .pure hnetwork

theorem parseRates_fits : Fits id (parseRates env e network) := by
  unfold parseRates
  apply ratesLoop_fits
  · exact { h with ratesLen := by simp only [Network.lengths]; omega }
  · omega

theorem parseRatesEx_fits : Fits id (parseRatesEx env e network) := by
  unfold parseRatesEx
  apply ratesExLoop_fits
  · exact { h with ratesExLen := by simp only [Network.lengths]; omega }
  · omega

theorem parseDsSet_fits : Fits id (parseDsSet env e network) :=
  .after (data_inArray _) fun _ => .pure h

theorem parseErp_fits : Fits id (parseErp env e network) :=
  .after (data_inArray _) fun _ => .pure h

theorem parseIbssSet_fits : Fits id (parseIbssSet env e network) :=
  .after (data_inArray _) fun _ => .pure h

theorem parseTim_fits : Fits id (parseTim env e network) := by
  unfold parseTim
  apply Fits.ite
  · intro _
    exact .pure h
  intro _
  refine .after (data_inArray _) fun count => .after (data_inArray _) fun period => ?_
  apply Fits.ite
  · intro _
    exact .pure h
  intro _
  refine .after ((within_noteAll _ _).mpr fun i hi => hi) fun _ => ?_
  refine .after (data_inArray _) fun control => ?_
  apply Fits.ite
  · intro _
    exact .pure h
  · intro _
    exact .after (data_inArray _) fun bits => .pure h

theorem parseRsn_fits : Fits id (parseRsn env e network) := by
  unfold parseRsn
  refine .after (memcpy_inArray (by simp only [Arr.size]; omega)) fun rsnIe => ?_
  exact .pure { h with rsnIeLen := by simp only [Network.lengths, id]; omega }

theorem parseAironet_fits : Fits id (parseAironet env e network) := by
  unfold parseAironet
  apply Fits.ite
  · intro _
    exact .after (data_inArray _) fun _ => .pure h
  · intro _
    exact .pure h

theorem parseTurbo_fits : Fits id (parseTurbo env e network) := by
  unfold parseTurbo
  apply Fits.ite
  · intro _
    refine .after (matches_inArray _ _) fun hit => .pure ?_
    split
    · exact h
    · exact h
  · intro _
    exact .pure h

theorem parseMakers_fits : Fits id (parseMakers env e network) := by
  unfold parseMakers
  refine .after (anyOui_inArray _) fun _ => .after (anyOui_inArray _) fun _ => ?_
  refine .after (anyOui_inArray _) fun _ => .after (anyOui_inArray _) fun _ => ?_
  exact .after (anyOui_inArray _) fun _ => .pure h

theorem parseCcxRm_fits : Fits id (parseCcxRm env e network) := by
  unfold parseCcxRm
  refine .after (longerThan_inArray _) fun hit => ?_
  apply Fits.ite
  · intro _
    apply Fits.ite
    · intro _
      refine .after (byte_inArray _) fun lo => .after (byte_inArray _) fun hi => ?_
      refine .after ((within_note _).mpr (by decide)) fun _ => ?_
      refine .after ((within_note _).mpr trivial) fun _ => ?_
      refine .after ((within_note _).mpr trivial) fun _ => ?_
      apply Fits.ite
      · intro _
        exact .pure h
      · intro _
        exact .pure h
    · intro _
      exact .pure h
  · intro _
    exact .pure h

theorem parseCcxVersion_fits : Fits id (parseCcxVersion env e network) := by
  unfold parseCcxVersion
  refine .after (longerThan_inArray _) fun hit => ?_
  apply Fits.ite
  · intro _
    apply Fits.ite
    · intro _
      exact .after (data_inArray _) fun _ => .pure h
    · intro _
      exact .pure h
  · intro _
    exact .pure h

theorem parseWzc_fits : Fits id (parseWzc env e network) := by
  unfold parseWzc
  refine .after (longerThan_inArray _) fun hit => ?_
  apply Fits.ite
  · intro _
    refine .after (memcpy_inArray (by simp only [Arr.size]; omega)) fun wzcIe => ?_
    exact .pure { h with wzcIeLen := by simp only [Network.lengths, id]; omega }
  · intro _
    exact .pure h

omit h in
theorem convertAc_inArray (qosData : QosData) (ac : Nat → Byte) :
    (convertAc qosData ac).Within InArray := by
  unfold convertAc
  simp only [within_bind, within_note, within_pure]
  exact ⟨aci_lt _, trivial, trivial⟩

theorem parseQos_fits :
    Fits (fun r => r.getD network) (rtllibParseQosInfoParamIE env e network) := by
  unfold rtllibParseQosInfoParamIE
  refine .after (readQosElement_inArray _ _) fun info => ?_
  cases info with
  | some qui => exact .pure h
  | none =>
    refine .after (readQosElement_inArray _ _) fun param => ?_
    cases param with
    | some qui =>
      refine .after ?_ fun qosData => .pure h
      unfold rtllibQosConvertAcToParameters
      simp only [within_bind, convertAc_inArray, and_self]
    | none => exact .pure h

end Decoders

section States

variable {st : ParseState} (h : st.network.lengths.Ok)
include h

theorem copyHtCap_fits :
    Fits (fun bssht => { st.network with bssht := bssht }) (copyHtCap env e st.network.bssht) := by
  unfold copyHtCap
  simp only
  split
  · refine .after (memcpy_inArray le_rfl) fun buf => .pure ?_
    exact { h with bdHTCapLen := le_rfl }
  · rename_i hlen
    refine .after (memcpy_inArray (by simp only [Arr.size]; omega)) fun buf => .pure ?_
    exact { h with bdHTCapLen := by simp only [Network.lengths]; omega }

theorem copyHtInfo_fits (ver : HtSpecVer) :
    Fits (fun bssht => { st.network with bssht := bssht }) (copyHtInfo env e ver st.network.bssht) := by
  unfold copyHtInfo
  simp only
  split
  · refine .after (memcpy_inArray le_rfl) fun buf => .pure ?_
    exact { h with bdHTInfoLen := le_rfl }
  · rename_i hlen
    refine .after (memcpy_inArray (by simp only [Arr.size]; omega)) fun buf => .pure ?_
    exact { h with bdHTInfoLen := by simp only [Network.lengths]; omega }

omit h in
theorem oneStream_inArray (bssht : BssHt) : (oneStream bssht).Within InArray := by
  unfold oneStream
  simp only [within_bind, within_note, within_pure, and_true]
  trivial

theorem parseHtCap_fits : Fits ParseState.network (parseHtCap env e st) := by
  unfold parseHtCap
  apply Fits.ite
  · intro _
    refine .bind (copyHtCap_fits h) fun bssht hbssht => ?_
    refine .after (oneStream_inArray _) fun bdHT1R => ?_
    exact .after ((within_note _).mpr trivial) fun _ => .pure hbssht
  · intro _
    exact .pure h

theorem parseHtInfo_fits : Fits ParseState.network (parseHtInfo env e st) := by
  unfold parseHtInfo
  apply Fits.ite
  · intro _
    exact .bind (copyHtInfo_fits h _) fun bssht hbssht => .pure hbssht
  · intro _
    exact .pure h

theorem parseEwcCap_fits : Fits ParseState.network (parseEwcCap env e st) := by
  unfold parseEwcCap
  apply Fits.ite
  · intro _
    refine .after (startsWith_inArray _) fun hit => ?_
    apply Fits.ite
    · intro _
      refine .bind (copyHtCap_fits h) fun bssht hbssht => ?_
      exact .after (oneStream_inArray _) fun bdHT1R => .pure hbssht
    · intro _
      exact .pure h
  · intro _
    exact .pure h

theorem parseEwcInfo_fits : Fits ParseState.network (parseEwcInfo env e st) := by
  unfold parseEwcInfo
  apply Fits.ite
  · intro _
    refine .after (startsWith_inArray _) fun hit => ?_
    apply Fits.ite
    · intro _
      exact .bind (copyHtInfo_fits h _) fun bssht hbssht => .pure hbssht
    · intro _
      exact .pure h
  · intro _
    exact .pure h

omit h in
theorem aggByte_inArray (buf : Nat → Option Byte) (i : Nat) : (aggByte env buf i).Within InArray :=
  List.forall_mem_singleton.mpr trivial

omit h in
theorem aggHas_inArray (buf : Nat → Option Byte) (mask : Byte) :
    (aggHas env buf mask).Within InArray := by
  unfold aggHas
  simp [within_ite, aggByte_inArray]

theorem copyAgg_fits : Fits ParseState.network (copyAgg env e st) := by
  unfold copyAgg
  refine .after (startsWith_inArray _) fun hit => ?_
  apply Fits.ite
  · intro _
    refine .after ((within_noteAll _ _).mpr fun _ _ => trivial) fun _ => ?_
    exact .after ((within_copy _ _ _).mpr fun i _ => data_inArray i) fun bytes => .pure h
  · intro _
    exact .pure h

theorem readAgg_fits : Fits ParseState.network (readAgg env st) := by
  unfold readAgg
  apply Fits.ite
  · intro _
    refine .after (aggHas_inArray _ _) fun slot => ?_
    exact .after (aggHas_inArray _ _) fun se => .pure h
  · intro _
    exact .pure h

theorem readSoftap_fits : Fits ParseState.network (readSoftap env st) := by
  unfold readSoftap
  apply Fits.ite
  · intro _
    exact .after (aggByte_inArray _ _) fun b5 => .pure h
  · intro _
    exact .pure h

theorem parseRealtekAgg_fits : Fits ParseState.network (parseRealtekAgg env e st) := by
  unfold parseRealtekAgg
  apply Fits.ite
  · intro _
    refine Fits.bind (f := ParseState.network) ?_ fun st' h' => readSoftap_fits h'
    apply Fits.ite
    · intro _
      exact .bind (copyAgg_fits h) fun st' h' => readAgg_fits h'
    · intro _
      exact .pure h
  · intro _
    exact .pure h

theorem parseVendor_fits : Fits ParseState.network (parseVendor env e st) := by
  unfold parseVendor
  refine .bind (parseTurbo_fits h) fun network hnetwork => ?_
  refine .bind (parseEwcCap_fits hnetwork) fun st₁ h₁ => ?_
  refine .bind (parseEwcInfo_fits h₁) fun st₂ h₂ => ?_
  refine .bind (parseRealtekAgg_fits h₂) fun st₃ h₃ => ?_
  refine .bind (parseMakers_fits h₃) fun network hnetwork => ?_
  refine .bind (parseCcxRm_fits hnetwork) fun network hnetwork => ?_
  refine .bind (parseCcxVersion_fits hnetwork) fun network hnetwork => ?_
  exact .bind (parseWzc_fits hnetwork) fun network hnetwork => .pure hnetwork

theorem parseGeneric_fits : Fits ParseState.network (parseGeneric env e st) := by
  unfold parseGeneric
  refine .bind (parseQos_fits h) fun qos hqos => ?_
  cases qos with
  | some network => exact .pure hqos
  | none =>
    refine .after (startsWith_inArray _) fun wpa => ?_
    apply Fits.ite
    · intro _
      refine .after (memcpy_inArray (by simp only [Arr.size]; omega)) fun wpaIe => .pure ?_
      exact { h with wpaIeLen := by simp only [Network.lengths]; omega }
    · intro _
      exact parseVendor_fits h

omit h in
theorem dot11dUpdateCountryIe_inArray (pTaddr : Addr) (len : Nat) (info : Dot11dInfo) :
    (dot11dUpdateCountryIe (e.data env) pTaddr len info).Within InArray :=
  @within_dot11dUpdateCountryIe _ _ _ _ (len + 3 + 3 * numTriples len)
    (fun i _ => data_inArray i) (by omega) (by omega) _ _

theorem rtllibExtractCountryIe_fits (hlen : e.len < 256) :
    Fits ParseState.network (rtllibExtractCountryIe env e st) := by
  unfold rtllibExtractCountryIe
  apply Fits.ite
  · intro _
    refine Fits.bind (f := ParseState.network) ?_ fun st' h' => .pure ?_
    · apply Fits.ite
      · intro _
        refine .after (memcpy_inArray (by simp only [Arr.size]; omega)) fun buf => ?_
        have hcopied : (Network.lengths { st.network with
            countryIeBuf := buf, countryIeLen := e.len }).Ok :=
          { h with countryIeLen := by simp only [Network.lengths]; omega }
        apply Fits.ite
        · intro _
          exact .after (dot11dUpdateCountryIe_inArray _ _ _) fun dot11d => .pure hcopied
        · intro _
          exact .pure hcopied
      · intro _
        exact .pure h
    · split
      · exact h'
      · exact h'
  · intro _
    exact .pure h

omit h in
theorem setNetwork_fits {m : Reads Access Network} (hm : Fits id m) :
    Fits ParseState.network (st.setNetwork m) := by
  unfold ParseState.setNetwork
  exact .bind hm fun network hnetwork => .pure hnetwork

theorem parseElement_fits (hlen : e.len < 256) : Fits ParseState.network (parseElement env e st) := by
  -- Whatever the element, whose length is a byte.
  unfold parseElement
  split
  · exact setNetwork_fits (parseSsid_fits h)
  · exact setNetwork_fits (parseRates_fits h)
  · exact setNetwork_fits (parseDsSet_fits h)
  · exact setNetwork_fits (parseTim_fits h)
  · exact setNetwork_fits (parseIbssSet_fits h)
  · exact rtllibExtractCountryIe_fits h hlen
  · exact setNetwork_fits (parseErp_fits h)
  · exact parseHtCap_fits h
  · exact setNetwork_fits (parseRsn_fits h)
  · exact setNetwork_fits (parseRatesEx_fits h)
  · exact parseHtInfo_fits h
  · exact setNetwork_fits (parseAironet_fits h)
  · exact parseGeneric_fits h
  · exact .pure h

theorem parseLoop_fits {fuel length pos : Nat} :
    Fits ParseState.network (parseLoop env fuel length pos st) := by
  -- The loop, by induction on its turns.
  induction fuel generalizing length pos st with
  | zero => exact .pure h
  | succ fuel ih =>
    unfold parseLoop
    apply Fits.ite
    · intro _
      refine .after (frameByte_inArray _) fun len => ?_
      apply Fits.ite
      · intro _
        exact .pure h
      · intro _
        refine .after (frameByte_inArray _) fun elemId => ?_
        exact .bind (parseElement_fits h len.isLt) fun st' h' => ih h'
    · intro _
      exact .pure h

end States

/-! ## The loop ends -/

/-- The loop of `rtllib_parse_info_param` with `length` bytes left from `pos` on ends in the last
state. -/
inductive LoopEnds (env : Env) : Nat → Nat → ParseState → ParseState → Prop
  | done {length pos : Nat} {st : ParseState} (h : length < 2) : LoopEnds env length pos st st
  /-- `break` -/
  | cut {length pos : Nat} {st : ParseState} (h : 2 ≤ length)
      (hcut : length < 2 + (env.mem (pos + 1)).toNat) : LoopEnds env length pos st st
  | turn {length pos : Nat} {st st' : ParseState} (h : 2 ≤ length)
      (hfit : 2 + (env.mem (pos + 1)).toNat ≤ length)
      (rest : LoopEnds env (length - (2 + (env.mem (pos + 1)).toNat))
        (pos + (2 + (env.mem (pos + 1)).toNat))
        (parseElement env ⟨pos, env.mem pos, (env.mem (pos + 1)).toNat⟩ st).val st') :
      LoopEnds env length pos st st'

theorem parseLoop_ends {fuel length pos : Nat} {st : ParseState} (h : length ≤ fuel) :
    LoopEnds env length pos st (parseLoop env fuel length pos st).val := by
  induction fuel generalizing length pos st with
  | zero => exact .done (by omega)
  | succ fuel ih =>
    unfold parseLoop
    split
    · rename_i hlength
      simp only [bind_val, frameByte_val]
      split
      · exact .cut hlength (by omega)
      · exact .turn hlength (by omega) (ih (by omega))
    · exact .done (by omega)

/-! ## A frame -/

variable {network : Network}

theorem rtllibParseInfoParam_fits (env : Env) (h : network.lengths.Ok) (pos : Nat)
    (length : BitVec 16) (dot11d : Dot11dInfo) :
    Fits (·.1) (rtllibParseInfoParam env pos length network dot11d) := by
  unfold rtllibParseInfoParam
  exact .bind (f := ParseState.network) (parseLoop_fits h) fun st hst => .pure hst

theorem initFixed_lengths (fixed : Nat → Byte) (network : Network) :
    (initFixed env fixed network).lengths.Ok := by
  constructor <;> exact Nat.zero_le _

theorem rtllibNetworkInit_fits (env : Env) (network : Network) (dot11d : Dot11dInfo) :
    Fits (fun r => r.1.getD default) (rtllibNetworkInit env network dot11d) := by
  have hdefault : (default : Network).lengths.Ok := by
    constructor <;> exact Nat.zero_le _
  unfold rtllibNetworkInit
  refine .after ((within_copy _ _ _).mpr fun i _ => frameByte_inArray _) fun fixed => ?_
  refine .after ((within_copy _ _ _).mpr fun i _ => frameByte_inArray _) fun rest => ?_
  refine .after ((within_noteAll _ _).mpr fun i hi => hi) fun _ => ?_
  refine .after ((within_noteAll _ _).mpr fun i hi => hi) fun _ => ?_
  refine .after ((within_noteAll _ _).mpr fun i hi => hi) fun _ => ?_
  refine .bind (rtllibParseInfoParam_fits env (initFixed_lengths _ _) _ _ _) fun r hr => ?_
  apply Fits.ite
  · intro _
    exact .pure hdefault
  · intro _
    refine .after ?_ fun empty => .pure hr
    exact within_isEmptyEssid fun i _ => List.forall_mem_singleton.mpr trivial

/-! ## `update_network` -/

/-- `memcpy` of `n` units from one array of a network into one of another network. -/
def copyArray {β : Type} (source target : Arr) (dst src : Nat → β) (n : Nat) :
    Reads Access (Nat → β) := do
  noteAll (.load source) n
  noteAll (.store target) n
  pure (overwrite dst src n)

def updateSsidAccesses (dst src : Network) : Reads Access Network :=
  if src.ssidLen > 0 then
    if dst.ssidLen = 0 then do
      noteAll (.store .hiddenSsid) 33
      let hiddenSsid ← copyArray .ssid .hiddenSsid (overwrite dst.hiddenSsid (fun _ => 0) 33) src.ssid
        src.ssidLen
      pure { dst with hiddenSsid := hiddenSsid, hiddenSsidLen := src.ssidLen }
    else do
      noteAll (.store .ssid) dst.ssidLen
      let ssid ← copyArray .ssid .ssid (overwrite dst.ssid (fun _ => 0) dst.ssidLen) src.ssid
        src.ssidLen
      pure { dst with ssid := ssid, ssidLen := src.ssidLen }
  else pure dst

/-- `updateNetwork` with what it accesses. `wmm` says that `src->wmm_param` is copied. -/
def updateNetworkAccesses (wmm : Bool) (dst src : Network) (jiffies : Nat) :
    Reads Access Network := do
  let rates ← copyArray .rates .rates dst.rates src.rates src.ratesLen
  let ratesEx ← copyArray .ratesEx .ratesEx dst.ratesEx src.ratesEx src.ratesExLen
  let named ← updateSsidAccesses dst src
  let timeStamp ← copyArray .timeStamp .timeStamp dst.timeStamp src.timeStamp 2
  let lastDtimStaTime ← copyArray .lastDtimStaTime .lastDtimStaTime dst.lastDtimStaTime
    src.lastDtimStaTime 2
  let bdHTCapBuf ← copyArray .bdHTCapBuf .bdHTCapBuf dst.bssht.bdHTCapBuf src.bssht.bdHTCapBuf
    src.bssht.bdHTCapLen
  let bdHTInfoBuf ← copyArray .bdHTInfoBuf .bdHTInfoBuf dst.bssht.bdHTInfoBuf src.bssht.bdHTInfoBuf
    src.bssht.bdHTInfoLen
  let wpaIe ← copyArray .wpaIe .wpaIe dst.wpaIe src.wpaIe src.wpaIeLen
  let rsnIe ← copyArray .rsnIe .rsnIe dst.rsnIe src.rsnIe src.rsnIeLen
  let wzcIe ← copyArray .wzcIe .wzcIe dst.wzcIe src.wzcIe src.wzcIeLen
  noteAll (.store .wmmParam) (if wmm then 16 else 0)
  let countryIeBuf ← copyArray .countryIeBuf .countryIeBuf dst.countryIeBuf src.countryIeBuf
    src.countryIeLen
  let ccxRmState ← copyArray .ccxRmState .ccxRmState dst.ccxRmState src.ccxRmState 1
  let network := updateNetwork dst src jiffies
  pure { network with
    rates := rates
    ratesEx := ratesEx
    ssid := named.ssid
    ssidLen := named.ssidLen
    hiddenSsid := named.hiddenSsid
    hiddenSsidLen := named.hiddenSsidLen
    timeStamp := timeStamp
    lastDtimStaTime := lastDtimStaTime
    bssht := { network.bssht with bdHTCapBuf := bdHTCapBuf, bdHTInfoBuf := bdHTInfoBuf }
    wpaIe := wpaIe
    rsnIe := rsnIe
    wzcIe := wzcIe
    countryIeBuf := countryIeBuf
    ccxRmState := ccxRmState }

theorem updateSsidAccesses_val (dst src : Network) :
    (updateSsidAccesses dst src).val = updateSsid dst src := by
  unfold updateSsidAccesses updateSsid
  split
  · split
    · rfl
    · rfl
  · rfl

theorem updateNetworkAccesses_val (wmm : Bool) (dst src : Network) (jiffies : Nat) :
    (updateNetworkAccesses wmm dst src jiffies).val = updateNetwork dst src jiffies := by
  unfold updateNetworkAccesses
  simp only [bind_val, updateSsidAccesses_val]
  rfl

theorem copyArray_inArray {β : Type} {source target : Arr} {dst src : Nat → β} {n : Nat}
    (h : n ≤ target.size) : (copyArray source target dst src n).Within InArray := by
  unfold copyArray
  simp only [within_bind, within_noteAll, within_pure, and_true]
  exact ⟨fun _ _ => trivial, fun i hi => Nat.lt_of_lt_of_le hi h⟩

theorem updateSsidAccesses_inArray {dst src : Network} (hdst : dst.lengths.Ok)
    (hsrc : src.lengths.Ok) : (updateSsidAccesses dst src).Within InArray := by
  have hcopy {target : Arr} (h : 32 ≤ target.size) (buf : Nat → Byte) :
      (copyArray .ssid target buf src.ssid src.ssidLen).Within InArray :=
    copyArray_inArray (hsrc.ssidLen.trans h)
  unfold updateSsidAccesses
  split
  · split
    · simp only [within_bind, within_noteAll, within_pure, and_true]
      exact ⟨fun i hi => hi, hcopy (by decide) _⟩
    · simp only [within_bind, within_noteAll, within_pure, and_true]
      refine ⟨fun i hi => ?_, hcopy (by decide) _⟩
      exact Nat.lt_of_lt_of_le hi (hdst.ssidLen.trans (by decide))
  · exact within_pure _

theorem updateNetwork_inArray {dst src : Network} (wmm : Bool) (jiffies : Nat)
    (hdst : dst.lengths.Ok) (hsrc : src.lengths.Ok) :
    (updateNetworkAccesses wmm dst src jiffies).Within InArray := by
  unfold updateNetworkAccesses
  simp only [within_bind, within_pure, and_true]
  refine ⟨copyArray_inArray hsrc.ratesLen, copyArray_inArray hsrc.ratesExLen,
    updateSsidAccesses_inArray hdst hsrc, copyArray_inArray le_rfl, copyArray_inArray le_rfl,
    copyArray_inArray hsrc.bdHTCapLen, copyArray_inArray hsrc.bdHTInfoLen,
    copyArray_inArray hsrc.wpaIeLen, copyArray_inArray hsrc.rsnIeLen,
    copyArray_inArray hsrc.wzcIeLen, ?_, copyArray_inArray hsrc.countryIeLen,
    copyArray_inArray (by decide)⟩
  rw [within_noteAll]
  intro i hi
  show i < 16
  split at hi
  · exact hi
  · omega

theorem updateNetwork_lengths {dst src : Network} (jiffies : Nat) (hdst : dst.lengths.Ok)
    (hsrc : src.lengths.Ok) : (updateNetwork dst src jiffies).lengths.Ok := by
  have hnamed : (updateSsid dst src).ssidLen ≤ 32 ∧ (updateSsid dst src).hiddenSsidLen ≤ 32 := by
    unfold updateSsid
    split
    · split
      · exact ⟨hdst.ssidLen, hsrc.ssidLen⟩
      · exact ⟨hsrc.ssidLen, hdst.hiddenSsidLen⟩
    · exact ⟨hdst.ssidLen, hdst.hiddenSsidLen⟩
  exact { hsrc with ssidLen := hnamed.1, hiddenSsidLen := hnamed.2 }

/-! ## Chains of calls -/

structure Records where
  record : Nat → Network
  dot11d : Dot11dInfo

inductive RecordCall where
  | networkInit (i : Nat) (env : Env)
  | parseInfoParam (i : Nat) (env : Env) (pos : Nat) (length : BitVec 16)
  | updateNetwork (dst src : Nat) (wmm : Bool) (jiffies : Nat)
  /-- `memcpy(dst, src, sizeof(*dst))` -/
  | copyNetwork (dst src : Nat)

/-- A network that `rtllib_network_init` refuses is freed. What is allocated there next is zero. -/
def runCall (s : Records) : RecordCall → Reads Access Records
  | .networkInit i env => do
    let r ← rtllibNetworkInit env (s.record i) s.dot11d
    pure ⟨update s.record i (r.1.getD default), r.2⟩
  | .parseInfoParam i env pos length => do
    let r ← rtllibParseInfoParam env pos length (s.record i) s.dot11d
    pure ⟨update s.record i r.1, r.2⟩
  | .updateNetwork dst src wmm jiffies => do
    let network ← updateNetworkAccesses wmm (s.record dst) (s.record src) jiffies
    pure { s with record := update (update s.record src (sourceAfter (s.record src))) dst network }
  | .copyNetwork dst src => pure { s with record := update s.record dst (s.record src) }

def callStep (s : Records) (call : RecordCall) : Records := (runCall s call).val

def Records.Ok (s : Records) : Prop := ∀ i, (s.record i).lengths.Ok

theorem Records.Ok.update {s : Records} (h : s.Ok) {i : Nat} {network : Network}
    (hnetwork : network.lengths.Ok) (dot11d : Dot11dInfo) :
    Records.Ok ⟨Function.update s.record i network, dot11d⟩ := by
  intro j
  show (Function.update s.record i network j).lengths.Ok
  by_cases hj : j = i
  · rw [hj, update_self]
    exact hnetwork
  · rw [update_of_ne hj]
    exact h j

/-- The step lemma: a call stays inside the arrays, and leaves lengths that do. -/
theorem runCall_ok {s : Records} (h : s.Ok) (call : RecordCall) :
    (runCall s call).Within InArray ∧ (callStep s call).Ok := by
  unfold callStep
  cases call with
  | networkInit i env =>
    have hfits := rtllibNetworkInit_fits env (s.record i) s.dot11d
    unfold runCall
    rw [within_bind]
    exact ⟨⟨hfits.within, within_pure _⟩, h.update hfits.lengths _⟩
  | parseInfoParam i env pos length =>
    have hfits := rtllibParseInfoParam_fits env (h i) pos length s.dot11d
    unfold runCall
    rw [within_bind]
    exact ⟨⟨hfits.within, within_pure _⟩, h.update hfits.lengths _⟩
  | updateNetwork dst src wmm jiffies =>
    unfold runCall
    rw [within_bind, bind_val, updateNetworkAccesses_val]
    refine ⟨⟨updateNetwork_inArray wmm jiffies (h dst) (h src), within_pure _⟩, ?_⟩
    have hsource : (sourceAfter (s.record src)).lengths.Ok := h src
    exact (h.update hsource s.dot11d).update (updateNetwork_lengths jiffies (h dst) (h src)) _
  | copyNetwork dst src => exact ⟨within_pure _, h.update (h src) _⟩

def zeroedRecords (dot11d : Dot11dInfo) : Records := ⟨fun _ => default, dot11d⟩

theorem zeroedRecords_ok (dot11d : Dot11dInfo) : (zeroedRecords dot11d).Ok := by
  intro i
  constructor <;> exact Nat.zero_le _

/-- In every chain of calls, on any frames, no call writes outside an array of a network, no length
is beyond its array, and the loop over the elements ends. -/
theorem networks_stored_within (dot11d : Dot11dInfo) (calls : List RecordCall) :
    Meets callStep (fun s call => (runCall s call).Within InArray) (zeroedRecords dot11d) calls ∧
      (∀ before, before <+: calls → (exec callStep (zeroedRecords dot11d) before).Ok) ∧
      ∀ (env : Env) (length pos : Nat) (st : ParseState),
        LoopEnds env length pos st (parseLoop env length length pos st).val := by
  have hok (before : List RecordCall) : (exec callStep (zeroedRecords dot11d) before).Ok := by
    apply exec_inv (C := fun _ _ => True) (I := Records.Ok) (fun s call h _ => (runCall_ok h call).2)
      (zeroedRecords_ok dot11d)
    exact meets_of_forall fun _ _ => trivial
  refine ⟨?_, fun before _ => hok before, fun env length pos st => parseLoop_ends le_rfl⟩
  rw [meets_iff_forall_step]
  intro before call _
  exact (runCall_ok (hok before) call).1

/-! ## The list of networks -/

structure Networks.LengthsOk (s : Networks) : Prop where
  slot : ∀ i, (s.slot i).lengths.Ok
  currentNetwork : s.currentNetwork.lengths.Ok

theorem Networks.LengthsOk.put {s : Networks} (h : s.LengthsOk) {network : Network}
    (hnetwork : network.lengths.Ok) (target : Slot) (i : Slot) :
    (update s.slot target network i).lengths.Ok := by
  by_cases hi : i = target
  · rw [hi, update_self]
    exact hnetwork
  · rw [update_of_ne hi]
    exact h.slot i

theorem Networks.LengthsOk.updateCurrent {s : Networks} (h : s.LengthsOk) {network : Network}
    (hnetwork : network.lengths.Ok) (jiffies : Nat) : (updateCurrent s network jiffies).LengthsOk := by
  unfold Beacon.updateCurrent
  split
  · exact ⟨h.slot, updateNetwork_lengths jiffies h.currentNetwork hnetwork⟩
  · exact h

theorem putOrUpdate_lengths {w : Nat} {call : Call} {s s' : Networks} {outcome : Outcome}
    {network : Network} {newNet : Option Network} (h : s.LengthsOk) (hnetwork : network.lengths.Ok)
    (hcall : putOrUpdate w call s network = some (outcome, newNet, s')) :
    s'.LengthsOk ∧ ∀ network ∈ newNet, network.lengths.Ok := by
  have hnew {new : Prop} [Decidable new] {handed other : Network} (hhanded : handed.lengths.Ok)
      (hother : other ∈ if new then some handed else none) : other.lengths.Ok := by
    split at hother
    · cases hother
      exact hhanded
    · cases hother
  have hsource : (sourceAfter network).lengths.Ok := hnetwork
  unfold putOrUpdate at hcall
  simp only at hcall
  split at hcall
  · cases hcall
  · cases hcall
    refine ⟨⟨?_, h.currentNetwork⟩, fun other => hnew hsource⟩
    exact h.put (updateNetwork_lengths call.jiffies (h.slot _) hnetwork) _
  · split at hcall
    · cases hcall
      exact ⟨⟨h.put hnetwork _, h.currentNetwork⟩, fun other => hnew hnetwork⟩
    · cases hcall
      exact ⟨⟨h.put hnetwork _, h.currentNetwork⟩, fun other => hnew hnetwork⟩
    · cases hcall

/-- `rtllib_process_probe_response` keeps the lengths, and hands on a network whose lengths are
within its arrays. -/
theorem rtllibProcessProbeResponse_lengths {w : Nat} {call : Call} {s s' : Networks}
    {outcome : Outcome} {newNet : Option Network} (h : s.LengthsOk)
    (hcall : rtllibProcessProbeResponse w call s = some (outcome, newNet, s')) :
    s'.LengthsOk ∧ ∀ network ∈ newNet, network.lengths.Ok := by
  unfold rtllibProcessProbeResponse at hcall
  simp only at hcall
  have hparsed : Networks.LengthsOk { s with dot11d := (describedNetwork call s.dot11d).2 } :=
    ⟨h.slot, h.currentNetwork⟩
  cases hdescribed : (describedNetwork call s.dot11d).1 with
  | none =>
    rw [hdescribed] at hcall
    cases hcall
    exact ⟨hparsed, fun network hnetwork => by cases hnetwork⟩
  | some network =>
    have hnetwork : network.lengths.Ok := by
      unfold describedNetwork at hdescribed
      split at hdescribed
      · have hfits := (rtllibNetworkInit_fits call.env default s.dot11d).lengths
        obtain ⟨hsome, -⟩ := Option.filter_eq_some_iff.mp hdescribed
        rw [hsome] at hfits
        exact hfits
      · cases hdescribed
    rw [hdescribed] at hcall
    have hseen : (seenByCurrent s.currentNetwork network).lengths.Ok := hnetwork
    exact putOrUpdate_lengths (hparsed.updateCurrent hnetwork call.jiffies) hseen hcall

end Rtl8190.Beacon
