import Mathlib.Data.Nat.Basic
import Rtl8190.Ht.Code
import Rtl8190.Lib.Best

/-!
# The highest rate

After `HTOnAssocRsp`, `HTHighestOperaRate` is the fastest MCS of the operational rates under the
filter for the peer. The search starts from MCS 0, whether or not it is in the set; but only MCS 0 to
15 get through the filters, and among these MCS 0 is the slowest one in every table.
-/

open Rtl8190.Memory (Byte)
open Rtl8190.Best

namespace Rtl8190.Ht

def McsSet.Contains (set : McsSet) (i : Nat) : Prop :=
  ∃ h : i < 128, (set ⟨i / 8, by omega⟩).getLsbD (i % 8) = true

def State.masked (s : State) : McsSet := fun i =>
  s.dot11HTOperationalRateSet i &&& pMcsFilter s.ht.peerMimoPs i

/-- `MCS_DATA_RATE` of MCS `i`, for the bandwidth and the guard interval of the connection -/
def State.dataRate (s : State) (i : Nat) : Option Nat :=
  (mcsDataRate s.ht.bCurBW40MHz
    (if s.ht.bCurBW40MHz then s.ht.bCurShortGI40MHz else s.ht.bCurShortGI20MHz))[i]?

/-- `HTHighestOperaRate` is 0 exactly if no MCS is left, and else a fastest one with its mark. -/
structure State.Highest (s : State) : Prop where
  zero_iff : s.htHighestOperaRate = 0 ↔ ∀ i, ¬ s.masked.Contains i
  inTable : ∀ i, s.masked.Contains i → i < 77
  fastest : (∃ i, s.masked.Contains i) →
    ∃ i rate, s.masked.Contains i ∧ s.htHighestOperaRate = 0x80 ||| BitVec.ofNat 8 i ∧
      s.dataRate i = some rate ∧
      ∀ j, s.masked.Contains j → ∃ other, s.dataRate j = some other ∧ other ≤ rate

/-! ## The search -/

section

variable (ht : HighThroughput)

def InTable (mcs : Byte) : Prop := (mcs &&& 0x7f).toNat < 77

def rate (mcs : Byte) : Nat := (htMcsToDataRate ht mcs).getD 0

theorem htMcsToDataRate_eq {mcs : Byte} (h : InTable mcs) :
    htMcsToDataRate ht mcs = some (rate ht mcs) := by
  unfold rate htMcsToDataRate
  dsimp only
  rw [Vector.getElem?_eq_getElem h]
  rfl

theorem odd_iff (bitMap : Byte) : bitMap % 2 ≠ 0 ↔ bitMap.getLsbD 0 = true := by
  revert bitMap
  decide

theorem higherMcs_eq {bitMap mcs mcsRate : Byte} (hrate : InTable mcsRate)
    (hmcs : bitMap.getLsbD 0 = true → InTable mcs) :
    higherMcs ht bitMap mcs mcsRate =
      some (if bitMap.getLsbD 0 = true ∧ rate ht mcsRate < rate ht mcs then mcs else mcsRate) := by
  unfold higherMcs
  by_cases h : bitMap.getLsbD 0 = true
  · rw [if_pos ((odd_iff bitMap).mpr h), htMcsToDataRate_eq ht (hmcs h),
      htMcsToDataRate_eq ht hrate]
    simp only [h, true_and]
    rfl
  · rw [if_neg (mt (odd_iff bitMap).mp h), if_neg fun hand => h hand.1]

def bitIndices (i : Fin 16) (n j : Nat) (bitMap : Byte) : List Byte :=
  ((List.range n).filter bitMap.getLsbD).map fun k => BitVec.ofNat 8 (8 * i + (j + k))

theorem bitIndices_succ (i : Fin 16) (n j : Nat) (bitMap : Byte) :
    bitIndices i (n + 1) j bitMap =
      (if bitMap.getLsbD 0 = true then [BitVec.ofNat 8 (8 * i + j)] else []) ++
        bitIndices i n (j + 1) (bitMap >>> 1) := by
  have hshift : (bitMap >>> 1).getLsbD = bitMap.getLsbD ∘ Nat.succ := by
    funext k
    rw [BitVec.getLsbD_ushiftRight, Nat.add_comm]
    rfl
  unfold bitIndices
  rw [List.range_succ_eq_map, List.filter_cons, List.filter_map, hshift]
  have hindex : (fun k => BitVec.ofNat 8 (8 * i + (j + k))) ∘ Nat.succ =
      fun k => BitVec.ofNat 8 (8 * i + (j + 1 + k)) := by
    funext k
    have hsucc : j + Nat.succ k = j + 1 + k := by omega
    rw [Function.comp_apply, hsucc]
  split_ifs
  · rw [List.map_cons, List.map_map, hindex]
    rfl
  · rw [List.map_map, hindex]
    rfl

theorem mcsBits_eq (i : Fin 16) {n j : Nat} {bitMap mcsRate : Byte} (hrate : InTable mcsRate)
    (hall : ∀ mcs ∈ bitIndices i n j bitMap, InTable mcs) :
    mcsBits ht i n j bitMap mcsRate = some (best (rate ht) mcsRate (bitIndices i n j bitMap)) := by
  induction n generalizing j bitMap mcsRate with
  | zero => rfl
  | succ n ih =>
    rw [bitIndices_succ] at hall ⊢
    obtain ⟨hbit, hrest⟩ := List.forall_mem_append.mp hall
    have hmcs (h : bitMap.getLsbD 0 = true) : InTable (BitVec.ofNat 8 (8 * i + j)) := by
      apply hbit
      rw [if_pos h]
      exact List.mem_singleton_self _
    unfold mcsBits
    rw [higherMcs_eq ht hrate hmcs, Option.bind_eq_bind, Option.bind_some, best_append]
    by_cases h : bitMap.getLsbD 0 = true
    · simp only [h, true_and, if_true, best_cons, best_nil]
      apply ih _ hrest
      split_ifs
      · exact hmcs h
      · exact hrate
    · rw [if_neg (fun hand => h hand.1), if_neg h]
      exact ih hrate hrest

def members (set : McsSet) (l : List (Fin 16)) : List Byte := l.flatMap fun i => bitIndices i 8 0 (set i)

theorem mcsBytes_eq (set : McsSet) (l : List (Fin 16)) {mcsRate : Byte} (hrate : InTable mcsRate)
    (hall : ∀ mcs ∈ members set l, InTable mcs) :
    l.foldlM (fun mcsRate i =>
        if set i ≠ 0 then mcsBits ht i 8 0 (set i) mcsRate else some mcsRate) mcsRate =
      some (best (rate ht) mcsRate (members set l)) := by
  induction l generalizing mcsRate with
  | nil => rfl
  | cons i l ih =>
    have hcons : members set (i :: l) = bitIndices i 8 0 (set i) ++ members set l :=
      List.flatMap_cons
    rw [hcons] at hall ⊢
    obtain ⟨hbyte, hrest⟩ := List.forall_mem_append.mp hall
    have hbest : InTable (best (rate ht) mcsRate (bitIndices i 8 0 (set i))) := by
      rcases List.mem_cons.mp (best_mem (rate ht) mcsRate (bitIndices i 8 0 (set i))) with h | h
      · rw [h]
        exact hrate
      · exact hbyte _ h
    rw [List.foldlM_cons, best_append, ← ih hbest hrest]
    by_cases h : set i = 0
    · have hnone : bitIndices i 8 0 (set i) = [] := by
        rw [h]
        rfl
      rw [if_neg (not_not.mpr h), hnone]
      rfl
    · rw [if_pos h, mcsBits_eq ht i hrate hbyte]
      rfl

end

theorem mem_bitIndices {i : Fin 16} {set : McsSet} {mcs : Byte} :
    mcs ∈ bitIndices i 8 0 (set i) ↔
      ∃ k < 8, (set i).getLsbD k = true ∧ mcs = BitVec.ofNat 8 (8 * i + k) := by
  unfold bitIndices
  simp only [List.mem_map, List.mem_filter, List.mem_range, Nat.zero_add]
  constructor
  · rintro ⟨k, ⟨hk, hbit⟩, rfl⟩
    exact ⟨k, hk, hbit, rfl⟩
  · rintro ⟨k, hk, hbit, rfl⟩
    exact ⟨k, ⟨hk, hbit⟩, rfl⟩

theorem mem_members {set : McsSet} {mcs : Byte} :
    mcs ∈ members set (List.finRange 16) ↔ set.Contains mcs.toNat := by
  unfold members McsSet.Contains
  simp only [List.mem_flatMap, List.mem_finRange, true_and, mem_bitIndices]
  constructor
  · rintro ⟨i, k, hk, hbit, rfl⟩
    have hi := i.isLt
    have hmcs : (BitVec.ofNat 8 (8 * i + k)).toNat = 8 * i + k := by
      rw [BitVec.toNat_ofNat]
      omega
    refine ⟨by omega, ?_⟩
    have hdiv : (⟨(BitVec.ofNat 8 (8 * i + k)).toNat / 8, by omega⟩ : Fin 16) = i := by
      apply Fin.ext
      dsimp only
      omega
    have hmod : (BitVec.ofNat 8 (8 * i + k)).toNat % 8 = k := by omega
    rw [hdiv, hmod]
    exact hbit
  · rintro ⟨hlt, hbit⟩
    refine ⟨_, _, Nat.mod_lt _ (by decide), hbit, ?_⟩
    apply BitVec.eq_of_toNat_eq
    rw [BitVec.toNat_ofNat]
    dsimp only
    omega

theorem forall_not_contains_iff {set : McsSet} : (∀ i, ¬ set.Contains i) ↔ ∀ i, set i = 0 := by
  -- A set is empty exactly if its bytes are 0.
  constructor
  · intro h i
    apply BitVec.eq_of_getLsbD_eq
    intro k hk
    have hi := i.isLt
    have hnot := h (8 * i + k)
    have hdiv : (⟨(8 * i + k) / 8, by omega⟩ : Fin 16) = i := by
      apply Fin.ext
      dsimp only
      omega
    have hmod : (8 * i + k) % 8 = k := by omega
    change (set i).getLsbD k = (0#8).getLsbD k
    rw [BitVec.getLsbD_zero]
    by_contra hbit
    apply hnot
    refine ⟨by omega, ?_⟩
    rw [hdiv, hmod]
    exact (Bool.not_eq_false _).mp hbit
  · rintro h i ⟨hlt, hbit⟩
    rw [h] at hbit
    exact absurd (hbit.symm.trans BitVec.getLsbD_zero) (by decide)

/-! ## Rates below 16 -/

/-- Only MCS 0 to 15 are left. -/
def McsSet.Low (set : McsSet) : Prop := ∀ i, set.Contains i → i < 16

theorem inTable_of_lt {mcs : Byte} (h : mcs.toNat < 16) : InTable mcs := by
  unfold InTable
  rw [BitVec.toNat_and]
  exact Nat.lt_of_le_of_lt Nat.and_le_left (by omega)

theorem rate_zero_lt (ht : HighThroughput) {mcs : Byte} (hlt : mcs.toNat < 16) (hne : mcs ≠ 0) :
    rate ht 0 < rate ht mcs := by
  have hall : ∀ is40MHz isShortGI : Bool, ∀ m : Fin 16, m ≠ 0 →
      ((mcsDataRate is40MHz isShortGI)[((0 : Byte) &&& 0x7f).toNat]?).getD 0 <
        ((mcsDataRate is40MHz isShortGI)[(BitVec.ofNat 8 m &&& 0x7f).toNat]?).getD 0 := by decide
  have hmcs : BitVec.ofNat 8 mcs.toNat = mcs := BitVec.ofNat_toNat _ _ ▸ BitVec.setWidth_eq mcs
  have h := hall ht.bCurBW40MHz
    (if ht.bCurBW40MHz then ht.bCurShortGI40MHz else ht.bCurShortGI20MHz) ⟨mcs.toNat, hlt⟩ (by
      intro hzero
      have hzero : mcs.toNat = 0 := congrArg Fin.val hzero
      exact hne (BitVec.eq_of_toNat_eq hzero))
  rw [hmcs] at h
  exact h

theorem searchMcs_spec (ht : HighThroughput) {set : McsSet} (hlow : set.Low) :
    ∃ highest, searchMcs ht set = some highest ∧ (highest = 0 ↔ ∀ i, ¬ set.Contains i) ∧
      ((∃ i, set.Contains i) → ∃ mcs : Byte, set.Contains mcs.toNat ∧ highest = mcs ||| 0x80 ∧
        ∀ other : Byte, set.Contains other.toNat → rate ht other ≤ rate ht mcs) := by
  -- The search in a set without MCS 16 and above.
  unfold searchMcs
  by_cases hempty : ∀ i, set i = 0
  · have hnone := forall_not_contains_iff.mpr hempty
    rw [if_pos hempty]
    exact ⟨0, rfl, iff_of_true rfl hnone, fun ⟨i, hi⟩ => absurd hi (hnone i)⟩
  · have hall : ∀ mcs ∈ members set (List.finRange 16), InTable mcs :=
      fun mcs hmcs => inTable_of_lt (hlow _ (mem_members.mp hmcs))
    have hworst : ∀ mcs ∈ members set (List.finRange 16), mcs ≠ 0 → rate ht 0 < rate ht mcs :=
      fun mcs hmcs => rate_zero_lt ht (hlow _ (mem_members.mp hmcs))
    have hsome : ∃ i, set.Contains i := by
      by_contra hnone
      push Not at hnone
      exact hempty (forall_not_contains_iff.mp hnone)
    have hne : members set (List.finRange 16) ≠ [] := by
      obtain ⟨i, hi⟩ := hsome
      have hmem : BitVec.ofNat 8 i ∈ members set (List.finRange 16) := by
        rw [mem_members, BitVec.toNat_ofNat, Nat.mod_eq_of_lt (by have := hlow i hi; omega)]
        exact hi
      exact List.ne_nil_of_mem hmem
    rw [if_neg hempty, mcsBytes_eq ht set _ (inTable_of_lt (by decide)) hall]
    have hbest := best_mem_of_worst (rate ht) hworst hne
    refine ⟨_, rfl, ?_, fun _ => ⟨_, mem_members.mp hbest, rfl, ?_⟩⟩
    · refine iff_of_false (fun hzero => ?_) fun hnone => hsome.elim hnone
      have hmark := congrArg (BitVec.getLsbD · 7) hzero
      simp at hmark
    · intro other hother
      exact le_best (rate ht) (mem_members.mpr hother)

theorem htFilterMcsRate_low (s : State) (mcs filter : McsSet) :
    McsSet.Low fun i => htFilterMcsRate s mcs i &&& filter i := by
  -- The filter of the operational rates leaves MCS 0 to 15.
  rintro i ⟨hlt, hbit⟩
  by_contra hge
  have hhigh : (2 : Fin 16) ≤ ⟨i / 8, by omega⟩ := by
    rw [Fin.le_def]
    change 2 ≤ i / 8
    omega
  have hzero : htFilterMcsRate s mcs ⟨i / 8, by omega⟩ = 0 := if_pos hhigh
  dsimp only at hbit
  rw [hzero, BitVec.getLsbD_and] at hbit
  have hfalse : (0 : Byte).getLsbD (i % 8) = false := BitVec.getLsbD_zero
  rw [hfalse] at hbit
  exact absurd hbit (by simp)

theorem rate_eq (s : State) {i : Nat} (h : i < 77) :
    s.dataRate i = some (rate s.ht (BitVec.ofNat 8 i)) := by
  have hmask : (BitVec.ofNat 8 i &&& 0x7f).toNat = i := by
    rw [BitVec.toNat_and, BitVec.toNat_ofNat]
    change i % 256 &&& 2 ^ 7 - 1 = i
    rw [Nat.and_two_pow_sub_one_eq_mod]
    omega
  have htable : InTable (BitVec.ofNat 8 i) := by
    unfold InTable
    rw [hmask]
    exact h
  rw [← htMcsToDataRate_eq s.ht htable]
  unfold htMcsToDataRate State.dataRate
  rw [hmask]

theorem highest_of_filter (s : State) (ht : HighThroughput) (mcs : McsSet) (opMode : Byte) :
    ∃ s', (do
        let highest ←
          htGetHighestMcsRate ht (htFilterMcsRate s mcs) (pMcsFilter ht.peerMimoPs)
        return { s with
          ht := { ht with currentOpMode := opMode }
          dot11HTOperationalRateSet := htFilterMcsRate s mcs
          htHighestOperaRate := highest
          htCurrentOperaRate := highest }) = some s' ∧ s'.Highest := by
  -- The end of `HTOnAssocRsp`, from whatever the assignments before it are.
  have hlow := htFilterMcsRate_low s mcs (pMcsFilter ht.peerMimoPs)
  obtain ⟨highest, hsearch, hzero, hfastest⟩ := searchMcs_spec ht hlow
  unfold htGetHighestMcsRate
  rw [hsearch]
  refine ⟨_, rfl, hzero, fun i hi => ?_, fun hsome => ?_⟩
  · have := hlow i hi
    omega
  · obtain ⟨best, hbest, rfl, hmax⟩ := hfastest hsome
    have hlt := hlow _ hbest
    have hindex (i : Nat) (hi : i < 16) : (BitVec.ofNat 8 i).toNat = i :=
      Nat.mod_eq_of_lt (by omega)
    refine ⟨best.toNat, _, hbest, ?_, rate_eq _ (by omega), fun j hj => ?_⟩
    · rw [BitVec.ofNat_toNat, BitVec.setWidth_eq]
      exact BitVec.or_comm _ _
    · have hjlt := hlow j hj
      refine ⟨_, rate_eq _ (by omega), ?_⟩
      rw [BitVec.ofNat_toNat, BitVec.setWidth_eq]
      apply hmax
      rw [hindex j hjlt]
      exact hj

/-- After every association with HT, `HTHighestOperaRate` is 0 or the fastest one of the MCS left. -/
theorem htOnAssocRsp_highest (s : State) (h : s.ht.bCurrentHTSupport = true) :
    ∃ s', htOnAssocRsp s = some s' ∧ s'.Highest := by
  have hsupport : ¬ s.ht.bCurrentHTSupport = false := by
    rw [h]
    decide
  unfold htOnAssocRsp
  rw [if_neg hsupport]
  exact highest_of_filter _ _ _ _

/-- A connection in 802.11n to a peer with two streams, whose capability element starts with `info` -/
def twoStreams (info : Byte) : State where
  ht := {
    bCurrentHTSupport := true
    bRegBW40MHz := true
    bCurBW40MHz := false
    bCurTxBW40MHz := false
    bRegShortGI40MHz := true
    bCurShortGI40MHz := false
    bRegShortGI20MHz := true
    bCurShortGI20MHz := false
    bRegSuppCCK := true
    bCurSuppCCK := false
    peerHTCapBuf := fun i => if i = 0 then info else if i = 3 ∨ i = 4 then 0xff else 0
    peerHTInfoBuf := fun _ => 0
    bAMSDUSupport := false
    nAMSDUMaxSize := 7935
    bCurrentAMSDUSupport := false
    nCurrentAMSDUMaxSize := 7935
    bAMPDUEnable := true
    bCurrentAMPDUEnable := false
    ampduFactor := 2
    currentAMPDUFactor := 2
    mpduDensity := 0
    currentMPDUDensity := 0
    currentOpMode := 0
    peerMimoPs := 3
    curSTAExtChnlOffset := .noExt
    bSwBwInProgress := false
    bRegRT2RTAggregation := false
    bRegRxReorderEnable := true
    bCurRxReorderEnable := false
    iotPeer := htIotPeerUnknown
    iotAction := 0
    iotRaFunc := 0 }
  mode := ieeeN24G
  halfNmode := false
  channel := 6
  rtllibApSecType := none
  bdRT2RTAggregation := false
  pairwiseKeyType := 0
  regdot11TxHTOperationalRateSet := fun i => if i = 0 ∨ i = 1 then 0xff else 0
  dot11HTOperationalRateSet := fun _ => 0
  htHighestOperaRate := 0
  htCurrentOperaRate := 0

theorem htOnAssocRsp_twoStreams :
    ∃ s', htOnAssocRsp (twoStreams 0x2c) = some s' ∧ s'.Highest :=
  htOnAssocRsp_highest (twoStreams 0x2c) rfl

/-- With static power save, the second stream is masked: MCS 7 instead of MCS 15. -/
example : (htOnAssocRsp (twoStreams 0x2c)).map State.htHighestOperaRate = some 0x8f ∧
    (htOnAssocRsp (twoStreams 0x20)).map State.htHighestOperaRate = some 0x87 := by decide

end Rtl8190.Ht
