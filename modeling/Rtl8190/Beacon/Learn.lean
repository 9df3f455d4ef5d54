import Rtl8190.Beacon.Decoders
import Rtl8190.Lib.Elements

/-!
# What the parser learns from elements

Each element of a list says something about a network, and `rtllib_parse_info_param` learns it.
-/

open Rtl8190.Memory Rtl8190.Elements Function

namespace Rtl8190.Beacon

/-! ## The elements -/

/-- What an element of a beacon of ours says. -/
inductive Info where
  | ssid (bytes : List Byte) (h : bytes.length ≤ 32)
  | rates (bytes : List Byte) (h : bytes.length ≤ 12)
  | dsSet (channel : Byte)
  | ibssSet (atimWindow : BitVec 16)
  | erp (value : Byte)
  | ratesEx (bytes : List Byte) (h : bytes.length ≤ 16)
  | wpa (data : List Byte) (h : data.length ≤ 62) (oui : [0x00, 0x50, 0xf2, 0x01] <+: data)
  | rsn (data : List Byte) (h : data.length ≤ 62)

namespace Info

def id : Info → Byte
  | ssid .. => 0
  | rates .. => 1
  | dsSet .. => 3
  | ibssSet .. => 6
  | erp .. => 42
  | rsn .. => 48
  | ratesEx .. => 50
  | wpa .. => 221

def data : Info → List Byte
  | ssid bytes _ => bytes
  | rates bytes _ => bytes
  | dsSet channel => [channel]
  | ibssSet atimWindow => le16 atimWindow
  | erp value => [value]
  | ratesEx bytes _ => bytes
  | wpa data _ _ => data
  | rsn data _ => data

theorem length_data (i : Info) : i.data.length ≤ 62 := by
  cases i <;> simp only [data, le16, List.length_cons, List.length_nil] <;> omega

def element (i : Info) : Element := ⟨i.id, i.data, Nat.lt_of_le_of_lt i.length_data (by omega)⟩

end Info

/-- An SSID that `rtllib_is_empty_essid` takes for a hidden one. -/
def EmptyEssid (bytes : List Byte) : Prop := bytes = [0x20] ∨ ∀ b ∈ bytes, b = 0

instance (bytes : List Byte) : Decidable (EmptyEssid bytes) := by unfold EmptyEssid; infer_instance

def ratesFlags (bytes : List Byte) (flags : BitVec 32) : BitVec 32 :=
  bytes.foldl (fun flags rate =>
    let flags := ofdmFlags rate flags
    if rtllibIsCckRate rate then flags ||| networkHasCck else flags) flags

def ratesExFlags (bytes : List Byte) (flags : BitVec 32) : BitVec 32 :=
  bytes.foldl (fun flags rate => ofdmFlags rate flags) flags

/-- What becomes of a network when the element is parsed. -/
def learn (network : Network) : Info → Network
  | .ssid bytes _ =>
    { network with
      flags := if EmptyEssid bytes then network.flags ||| networkEmptyEssid else network.flags
      ssidLen := if EmptyEssid bytes then network.ssidLen else bytes.length
      ssid := if EmptyEssid bytes then network.ssid else
        fun i => if bytes.length ≤ i ∧ i < 32 then 0 else place bytes network.ssid i }
  | .rates bytes _ =>
    { network with
      ratesLen := bytes.length
      rates := place bytes network.rates
      flags := ratesFlags bytes network.flags }
  | .dsSet channel => { network with channel := channel }
  | .ibssSet atimWindow => { network with atimWindow := (atimWindow.setWidth 8).setWidth 16 }
  | .erp value => { network with erpValue := value, flags := network.flags ||| networkHasErpValue }
  | .ratesEx bytes _ =>
    { network with
      ratesExLen := bytes.length
      ratesEx := place bytes network.ratesEx
      flags := ratesExFlags bytes network.flags }
  | .wpa data h oui =>
    { network with
      wpaIe := place (Info.wpa data h oui).element.bytes network.wpaIe
      wpaIeLen := 2 + data.length }
  | .rsn data h =>
    { network with
      rsnIe := place (Info.rsn data h).element.bytes network.rsnIe
      rsnIeLen := 2 + data.length }

/-! ## The parser learns an element -/

section

variable {env : Env} {e : Elem}

theorem allZero_val {π : Type} (essid : Nat → Reads π Byte) (n : Nat) :
    (allZero essid n).val = true ↔ ∀ i < n, (essid i).val = 0 := by
  induction n with
  | zero => simp [allZero]
  | succ n ih =>
    simp only [allZero, bind_val, ite_val, pure_val]
    rw [Nat.forall_lt_succ_right, ← ih]
    split <;> simp_all

theorem isEmptyEssid_val {bytes : List Byte} {essid : Nat → Reads Access Byte}
    (h : ∀ i (hi : i < bytes.length), (essid i).val = bytes[i]) :
    (rtllibIsEmptyEssid essid bytes.length).val = true ↔ EmptyEssid bytes := by
  have hall : (allZero essid bytes.length).val = true ↔ ∀ b ∈ bytes, b = 0 := by
    rw [allZero_val, List.forall_mem_iff_getElem]
    exact forall₂_congr fun i hi => by rw [h i hi]
  unfold rtllibIsEmptyEssid EmptyEssid
  split
  · rename_i hone
    obtain ⟨b, rfl⟩ := List.length_eq_one_iff.mp hone
    have hb : (essid 0).val = b := h 0 Nat.one_pos
    simp only [bind_val, ite_val, pure_val, hb, List.cons.injEq, and_true]
    split
    · simp [*]
    · rename_i hspace
      rw [or_iff_right hspace]
      exact hall
  · rename_i hone
    rw [hall, or_iff_right]
    rintro rfl
    exact hone rfl

theorem memcpy_val {bs : List Byte} {off : Nat} (a : Arr) (buf : Nat → Byte)
    (h : Holds env.mem (e.start + off) bs) :
    (e.memcpy env off a buf bs.length).val = place bs buf := by
  rw [← h.place_eq]
  simp only [Elem.memcpy, bind_val, copy_val, byte_val, Nat.add_assoc]

theorem place_take_succ {bs : List Byte} {n : Nat} (h : n < bs.length) (buf : Nat → Byte) :
    update (place (bs.take n) buf) n bs[n] = place (bs.take (n + 1)) buf := by
  funext i
  simp only [update_apply, place, List.length_take, List.get_eq_getElem, List.getElem_take]
  grind

variable (network : Network) {bytes : List Byte} (h : Holds env.mem (e.start + 2) bytes)

include h

theorem ratesLoop_val {n : Nat} (hn : n ≤ bytes.length) :
    (ratesLoop env e network n).val =
      { network with
        rates := place (bytes.take n) network.rates
        flags := ratesFlags (bytes.take n) network.flags } := by
  induction n with
  | zero => rfl
  | succ n ih =>
    have hb : env.mem (e.start + (2 + n)) = bytes[n] := by
      rw [← Nat.add_assoc]
      exact h n hn
    simp only [ratesLoop, bind_val, pure_val, data_val, ih (by omega), hb, place_take_succ hn]
    congr 1
    rw [ratesFlags, ratesFlags, List.take_succ_eq_append_getElem hn, List.foldl_append]
    rfl

theorem ratesExLoop_val {n : Nat} (hn : n ≤ bytes.length) :
    (ratesExLoop env e network n).val =
      { network with
        ratesEx := place (bytes.take n) network.ratesEx
        flags := ratesExFlags (bytes.take n) network.flags } := by
  induction n with
  | zero => rfl
  | succ n ih =>
    have hb : env.mem (e.start + (2 + n)) = bytes[n] := by
      rw [← Nat.add_assoc]
      exact h n hn
    simp only [ratesExLoop, bind_val, pure_val, data_val, ih (by omega), hb, place_take_succ hn]
    congr 1
    rw [ratesExFlags, ratesExFlags, List.take_succ_eq_append_getElem hn, List.foldl_append]
    rfl

variable (hlen : e.len = bytes.length)

include hlen

theorem parseSsid_val (h32 : bytes.length ≤ 32) :
    (parseSsid env e network).val = learn network (.ssid bytes h32) := by
  have hempty : (rtllibIsEmptyEssid (e.data env) bytes.length).val = true ↔ EmptyEssid bytes := by
    refine isEmptyEssid_val fun i hi => ?_
    rw [data_val, ← Nat.add_assoc]
    exact h i hi
  simp only [parseSsid, hlen, bind_val, ite_val, pure_val, hempty, Nat.min_eq_left h32,
    memcpy_val .ssid network.ssid h, learn]
  split <;> rfl

theorem parseRates_val (h12 : bytes.length ≤ 12) :
    (parseRates env e network).val = learn network (.rates bytes h12) := by
  unfold parseRates
  rw [hlen, Nat.min_eq_left h12, ratesLoop_val _ h le_rfl, List.take_length]
  rfl

theorem parseRatesEx_val (h16 : bytes.length ≤ 16) :
    (parseRatesEx env e network).val = learn network (.ratesEx bytes h16) := by
  unfold parseRatesEx
  rw [hlen, Nat.min_eq_left h16, ratesExLoop_val _ h le_rfl, List.take_length]
  rfl

end

section

variable {env : Env} {pos : Nat} {data : List Byte}

theorem parseRsn_val (network : Network) (h62 : data.length ≤ 62)
    (h : Holds env.mem pos (Info.rsn data h62).element.bytes) :
    (parseRsn env ⟨pos, 48, data.length⟩ network).val = learn network (.rsn data h62) := by
  have hn : min (data.length + 2) 64 = (Info.rsn data h62).element.bytes.length := by
    rw [Element.length_bytes, Nat.add_comm]
    exact Nat.min_eq_left (Nat.add_le_add_left h62 2)
  simp only [parseRsn, hn, bind_val, pure_val]
  rw [memcpy_val .rsnIe network.rsnIe h, Element.length_bytes]
  rfl

theorem readQosElement_wpa {e : Elem} {size : Nat} {subType : Byte} (hsize : 4 ≤ size)
    (htype : env.mem (e.start + (2 + 3)) = 1) : (readQosElement env e size subType).val = none := by
  unfold readQosElement
  split
  · simp only [bind_val, pure_val, copy_val, data_val]
    rw [if_neg]
    simp only [rtllibVerifyQosInfo, decide_eq_true_eq]
    rintro ⟨-, -, -, -, h3, -⟩
    rw [if_pos (by omega), htype] at h3
    cases h3
  · rfl

theorem parseGeneric_val (st : ParseState) (h62 : data.length ≤ 62)
    (oui : [0x00, 0x50, 0xf2, 0x01] <+: data)
    (h : Holds env.mem pos (Info.wpa data h62 oui).element.bytes) :
    (parseGeneric env ⟨pos, 221, data.length⟩ st).val =
      { st with network := learn st.network (.wpa data h62 oui) } := by
  have hdata : Holds env.mem (pos + 2) data := h.tail.tail
  have ⟨rest, hrest⟩ := oui
  have hbegins : (⟨pos, 221, data.length⟩ : Elem).Begins env 0 [0x00, 0x50, 0xf2, 0x01] := by
    rw [← hrest] at hdata
    exact ⟨hdata 0 (by simp), hdata 1 (by simp), hdata 2 (by simp), hdata 3 (by simp), trivial⟩
  have hqos : (rtllibParseQosInfoParamIE env ⟨pos, 221, data.length⟩ st.network).val = none := by
    have hinfo : (readQosElement env ⟨pos, 221, data.length⟩ 7 0).val = none :=
      readQosElement_wpa (by omega) hbegins.2.2.2.1
    have hparam : (readQosElement env ⟨pos, 221, data.length⟩ 24 1).val = none :=
      readQosElement_wpa (by omega) hbegins.2.2.2.1
    simp only [rtllibParseQosInfoParamIE, bind_val, hinfo, hparam, pure_val]
  have hstarts : ((⟨pos, 221, data.length⟩ : Elem).startsWith env [0x00, 0x50, 0xf2, 0x01]).val =
      true := by
    refine (startsWith_val _).mpr ⟨?_, hbegins⟩
    rw [← hrest]
    simp
  have hn : min (data.length + 2) 64 = (Info.wpa data h62 oui).element.bytes.length := by
    rw [Element.length_bytes, Nat.add_comm]
    exact Nat.min_eq_left (Nat.add_le_add_left h62 2)
  simp only [parseGeneric, bind_val, hqos, hstarts, if_true, hn, pure_val]
  rw [memcpy_val .wpaIe st.network.wpaIe h, Element.length_bytes]
  rfl

end

theorem parseElement_info {env : Env} (i : Info) (pos : Nat) (st : ParseState)
    (h : Holds env.mem pos i.element.bytes) :
    (parseElement env ⟨pos, i.id, i.data.length⟩ st).val =
      { st with network := learn st.network i } := by
  -- The switch, on an element of ours.
  have hdata : Holds env.mem (pos + 2) i.data := h.tail.tail
  cases i with
  | ssid bytes h32 =>
    exact congrArg (fun n => { st with network := n })
      (parseSsid_val (e := ⟨pos, 0, bytes.length⟩) st.network hdata rfl h32)
  | rates bytes h12 =>
    exact congrArg (fun n => { st with network := n })
      (parseRates_val (e := ⟨pos, 1, bytes.length⟩) st.network hdata rfl h12)
  | dsSet channel =>
    exact congrArg (fun b => { st with network := { st.network with channel := b } }) hdata.head
  | ibssSet atimWindow =>
    exact congrArg (fun b : Byte => { st with network := { st.network with
      atimWindow := b.setWidth 16 } }) hdata.head
  | erp value =>
    exact congrArg (fun b => { st with network := { st.network with
      erpValue := b, flags := st.network.flags ||| networkHasErpValue } }) hdata.head
  | ratesEx bytes h16 =>
    exact congrArg (fun n => { st with network := n })
      (parseRatesEx_val (e := ⟨pos, 50, bytes.length⟩) st.network hdata rfl h16)
  | wpa data h62 oui => exact parseGeneric_val st h62 oui h
  | rsn data h62 =>
    exact congrArg (fun n => { st with network := n }) (parseRsn_val st.network h62 h)

/-! ## The parser learns a list of elements -/

theorem parseLoop_val (env : Env) (fuel length pos : Nat) (st : ParseState) :
    (parseLoop env fuel length pos st).val =
      scan env.mem (fun pos id len st => (parseElement env ⟨pos, id, len⟩ st).val) fuel length pos
        st := by
  induction fuel generalizing length pos st with
  | zero => rfl
  | succ fuel ih =>
    simp only [parseLoop, scan, ite_val, bind_val, pure_val, frameByte_val, ih]

theorem rtllibParseInfoParam_infos {env : Env} {pos : Nat} {length : BitVec 16} {is : List Info}
    (h : Holds env.mem pos (encode (is.map Info.element)))
    (hlength : length.toNat = (encode (is.map Info.element)).length) (network : Network)
    (dot11d : Dot11dInfo) :
    ∃ unknown, (rtllibParseInfoParam env pos length network dot11d).val.1 =
      { is.foldl learn network with unknownCapExist := unknown } := by
  have hloop (st : ParseState) : (parseLoop env length.toNat length.toNat pos st).val =
      is.foldl (fun st i => { st with network := learn st.network i }) st := by
    rw [parseLoop_val, hlength]
    exact scan_encode (fun i pos st h => parseElement_info i pos st h) h le_rfl
  have hnetwork (st : ParseState) :
      (is.foldl (fun st i => { st with network := learn st.network i }) st : ParseState).network =
        is.foldl learn st.network :=
    (List.foldl_hom ParseState.network fun _ _ => rfl).symm
  simp only [rtllibParseInfoParam, bind_val, pure_val, hloop, hnetwork]
  exact ⟨_, rfl⟩

namespace Info

/-- The network has what the element says. The parser keeps eight bits of the ATIM window. -/
def KnownTo (network : Network) : Info → Prop
  | ssid bytes _ => ¬ EmptyEssid bytes →
    network.ssidLen = bytes.length ∧ ∀ i (h : i < bytes.length), network.ssid i = bytes[i]
  | rates bytes _ =>
    network.ratesLen = bytes.length ∧ ∀ i (h : i < bytes.length), network.rates i = bytes[i]
  | dsSet channel => network.channel = channel
  | ibssSet atimWindow => network.atimWindow = (atimWindow.setWidth 8).setWidth 16
  | erp value => network.erpValue = value
  | ratesEx bytes _ =>
    network.ratesExLen = bytes.length ∧ ∀ i (h : i < bytes.length), network.ratesEx i = bytes[i]
  | wpa data h oui => network.wpaIeLen = 2 + data.length ∧
    ∀ i (hi : i < (wpa data h oui).element.bytes.length),
      network.wpaIe i = (wpa data h oui).element.bytes[i]
  | rsn data h => network.rsnIeLen = 2 + data.length ∧
    ∀ i (hi : i < (rsn data h).element.bytes.length),
      network.rsnIe i = (rsn data h).element.bytes[i]

theorem knownTo_learn (network : Network) (i : Info) : i.KnownTo (learn network i) := by
  cases i with
  | ssid bytes h =>
    intro hne
    simp only [learn, if_neg hne]
    refine ⟨trivial, fun i hi => ?_⟩
    rw [if_neg (by omega), place_of_lt hi, List.get_eq_getElem]
  | dsSet | ibssSet | erp => rfl
  | rates | ratesEx | wpa | rsn => exact ⟨rfl, fun i hi => place_of_lt hi⟩

theorem KnownTo.learn {network : Network} {i : Info} (h : i.KnownTo network) (j : Info)
    (hne : i.id ≠ j.id) : i.KnownTo (Beacon.learn network j) := by
  cases i <;> cases j <;> first | exact h | exact absurd rfl hne

/-- Where no two elements are of one kind, all that they say is known in the end. -/
theorem knownTo_foldl {is : List Info} (hnodup : (is.map Info.id).Nodup) {i : Info} (hi : i ∈ is)
    (network : Network) : i.KnownTo (is.foldl Beacon.learn network) := by
  induction is using List.reverseRecOn with
  | nil => cases hi
  | append_singleton is j ih =>
    rw [List.map_append, List.nodup_append] at hnodup
    rw [List.foldl_append]
    rcases List.mem_append.mp hi with hi | hi
    · exact (ih hnodup.1 hi).learn j
        (hnodup.2.2 _ (List.mem_map_of_mem hi) _ (List.mem_map_of_mem (List.mem_singleton_self j)))
    · rw [List.mem_singleton.mp hi]
      exact knownTo_learn _ j

end Info

theorem foldl_learn_keeps {α : Type} (f : Network → α) {is : List Info}
    (h : ∀ i ∈ is, ∀ network, f (learn network i) = f network) (network : Network) :
    f (is.foldl learn network) = f network := by
  induction is generalizing network with
  | nil => rfl
  | cons i is ih =>
    rw [List.foldl_cons, ih fun j hj => h j (List.mem_cons_of_mem i hj)]
    exact h i List.mem_cons_self network

end Rtl8190.Beacon
