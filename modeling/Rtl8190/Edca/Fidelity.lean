import Mathlib.Algebra.Group.Nat.Defs
import Rtl8190.Edca.Code

/-!
# What the parameter registers hold

The product of AIFSN and slot time is kept in a byte, so it can lose bits, and the ACM bit is looked
for in a field that the parser has masked out.
-/

open Rtl8190.Beacon Rtl8190.Memory Rtl8190.Registers Rtl8190.Run

namespace Rtl8190.Edca

/-! ## What the element announces -/

inductive AccessCategory where
  | be
  | bk
  | vi
  | vo
  deriving DecidableEq, Repr

namespace AccessCategory

def aci : AccessCategory → Nat
  | be => 0
  | bk => 1
  | vi => 2
  | vo => 3

def register : AccessCategory → Nat
  | be => edcaparaBe
  | bk => edcaparaBk
  | vi => edcaparaVi
  | vo => edcaparaVo

end AccessCategory

structure AcRecord where
  aciAifsn : Byte
  ecwMinMax : Byte
  txopLow : Byte
  txopHigh : Byte
  deriving DecidableEq, Repr

namespace AcRecord

variable (r : AcRecord)

def aci : Nat := r.aciAifsn.toNat / 32 % 4

/-- The AIFSN; less than two stands for two. -/
def aifsn : Nat := max 2 (r.aciAifsn.toNat % 16)

def acm : Bool := r.aciAifsn.getLsbD 4

def ecwMin : Nat := r.ecwMinMax.toNat % 16

def ecwMax : Nat := r.ecwMinMax.toNat / 16

def txopLimit : Nat := r.txopLow.toNat + 256 * r.txopHigh.toNat

def aifs (mode : Byte) : Nat := r.aifsn * (slotTime mode).toNat + (aSifsTime mode).toNat

end AcRecord

def recordAt (ac : Nat → Byte) : AcRecord := ⟨ac 0, ac 1, ac 2, ac 3⟩

/-- The four records of a parameter element; `qui` are its bytes after the header. -/
def records (qui : Nat → Byte) : List AcRecord :=
  [8, 12, 16, 20].map fun off => recordAt fun i => qui (off + i)

def recordOf (qui : Nat → Byte) (ac : AccessCategory) : Option AcRecord :=
  (records qui).reverse.find? fun r => r.aci = ac.aci

/-- The fields of a parameter register are those of the record. -/
structure HoldsParameters (reg : BitVec 32) (r : AcRecord) (mode : Byte) : Prop where
  aifs : (reg.extractLsb' 0 8).toNat = r.aifs mode
  ecwMin : (reg.extractLsb' 8 4).toNat = r.ecwMin
  ecwMax : (reg.extractLsb' 12 4).toNat = r.ecwMax
  txopLimit : (reg.extractLsb' 16 16).toNat = r.txopLimit

/-- Every access category has a record, and its register holds it. -/
def Faithful (qui : Nat → Byte) (d : Device) : Prop :=
  ∀ ac : AccessCategory, ∃ r, recordOf qui ac = some r ∧
    HoldsParameters (load32 d.regs ac.register) r d.currentNetwork.mode

/-- `AcmHw_BeqEn` is set exactly when the ACM bit was announced for best effort. -/
def AcmFaithful (qui : Nat → Byte) (d : Device) : Prop :=
  (d.regs acmHwCtrl).getLsbD 1 = true ↔ ∃ r, recordOf qui .be = some r ∧ r.acm = true

/-! ## The stored parameters -/

/-- The parameters at index `i` are those of the record. -/
structure Stored (q : QosData) (i : Nat) (r : AcRecord) : Prop where
  aifs : (q.aifs i).toNat = r.aifsn
  cwMin : (q.cwMin i).toNat = r.ecwMin
  cwMax : (q.cwMax i).toNat = r.ecwMax
  txOpLimit : (q.txOpLimit i).toNat = r.txopLimit

theorem toNat_aci (b : Byte) : ((b &&& 0x60) >>> 5).toNat = b.toNat / 32 % 4 := by
  revert b
  decide +kernel

theorem toNat_aifs (b : Byte) :
    (if b &&& 0x0f < 2 then (2 : Byte) else b &&& 0x0f).toNat = max 2 (b.toNat % 16) := by
  revert b
  decide +kernel

theorem toNat_low (b : Byte) : ((b &&& 0x0F).setWidth 16).toNat = b.toNat % 16 := by
  revert b
  decide +kernel

theorem toNat_high (b : Byte) : ((b >>> 4).setWidth 16).toNat = b.toNat / 16 := by
  revert b
  decide +kernel

theorem toNat_append (hi lo : Byte) : (hi ++ lo).toNat = lo.toNat + 256 * hi.toNat := by
  rw [BitVec.toNat_append, ← Nat.shiftLeft_add_eq_or_of_lt lo.isLt, Nat.shiftLeft_eq]
  omega

theorem convertAc_stored {q : QosData} {i : Nat} {r : AcRecord} (ac : Nat → Byte)
    (h : (recordAt ac).aci = i ∧ r = recordAt ac ∨ (recordAt ac).aci ≠ i ∧ Stored q i r) :
    Stored (convertAc q ac).val i r := by
  -- A record is stored at its own index, and leaves the others alone.
  have haci : ((ac 0 &&& 0x60) >>> 5).toNat = (recordAt ac).aci := toNat_aci _
  simp only [convertAc, bind_val, pure_val, haci]
  rcases h with ⟨rfl, rfl⟩ | ⟨hne, h⟩
  · constructor
    · simp only [Function.update_self]
      exact toNat_aifs _
    · simp only [Function.update_self]
      exact toNat_low _
    · simp only [Function.update_self]
      exact toNat_high _
    · simp only [Function.update_self]
      exact toNat_append _ _
  · have hne' := Ne.symm hne
    constructor
    · simp only [Function.update_of_ne hne']
      exact h.aifs
    · simp only [Function.update_of_ne hne']
      exact h.cwMin
    · simp only [Function.update_of_ne hne']
      exact h.cwMax
    · simp only [Function.update_of_ne hne']
      exact h.txOpLimit

theorem foldl_convertAc_stored {q : QosData} {i : Nat} {r : AcRecord} (acs : List (Nat → Byte))
    (h : (acs.map recordAt).reverse.find? (fun r => r.aci = i) = some r) :
    Stored (acs.foldl (fun q ac => (convertAc q ac).val) q) i r := by
  induction acs using List.reverseRecOn with
  | nil => cases h
  | append_singleton acs ac ih =>
    rw [List.foldl_append]
    simp only [List.map_append, List.map_singleton, List.reverse_append, List.reverse_singleton,
      List.singleton_append] at h
    apply convertAc_stored
    by_cases haci : (recordAt ac).aci = i
    · left
      rw [List.find?_cons_of_pos (by simpa using haci)] at h
      cases h
      exact ⟨haci, rfl⟩
    · right
      rw [List.find?_cons_of_neg (by simpa using haci)] at h
      exact ⟨haci, ih h⟩

theorem convertAcs_stored {qui : Nat → Byte} {q : QosData} {ac : AccessCategory} {r : AcRecord}
    (h : recordOf qui ac = some r) :
    Stored (rtllibQosConvertAcToParameters qui q).val ac.aci r :=
  foldl_convertAc_stored ([8, 12, 16, 20].map fun off i => qui (off + i)) h

def quiOf (env : Env) (e : Elem) (i : Nat) : Byte := env.mem (e.start + (2 + i))

theorem parse_eq {env : Env} {e : Elem} {network network' : Network}
    (h : (rtllibParseQosInfoParamIE env e network).val = some network') (hlen : e.len = 24) :
    ∃ qui, (∀ i < 24, qui i = quiOf env e i) ∧
      network' = { network with
        qosData := { (rtllibQosConvertAcToParameters qui network.qosData).val with
          paramCount := qui 6 &&& 0x0F, supported := true }
        flags := network.flags ||| networkHasQosParameters } := by
  -- The parser accepts a parameter element after it has read its 24 bytes.
  have hinfo : (readQosElement env e 7 0).val = none := by
    unfold readQosElement
    rw [if_neg (by omega)]
    rfl
  simp only [rtllibParseQosInfoParamIE, bind_val, hinfo] at h
  generalize hparam : (readQosElement env e 24 1).val = param at h
  cases param with
  | none => cases h
  | some qui =>
    cases h
    refine ⟨qui, ?_, rfl⟩
    intro i hi
    simp only [readQosElement, ite_val, bind_val, pure_val, copy_val] at hparam
    split at hparam
    · split at hparam
      · cases hparam
        exact if_pos hi
      · cases hparam
    · cases hparam

theorem parse_stored {env : Env} {e : Elem} {network network' : Network}
    (h : (rtllibParseQosInfoParamIE env e network).val = some network') (hlen : e.len = 24)
    {ac : AccessCategory} {r : AcRecord} (hr : recordOf (quiOf env e) ac = some r) :
    Stored network'.qosData ac.aci r := by
  obtain ⟨qui, hqui, rfl⟩ := parse_eq h hlen
  have hrecords : recordOf qui ac = recordOf (quiOf env e) ac := by
    unfold recordOf records recordAt
    simp (disch := omega) only [List.map_cons, List.map_nil, hqui]
  have hstored := convertAcs_stored (q := network.qosData) (hrecords.trans hr)
  exact ⟨hstored.aifs, hstored.cwMin, hstored.cwMax, hstored.txOpLimit⟩

/-! ## One register -/

theorem getLsbD_of_toNat_lt {w n i : Nat} {x : BitVec w} (h : x.toNat < 2 ^ n) (hi : n ≤ i) :
    x.getLsbD i = false := by
  unfold BitVec.getLsbD
  exact Nat.testBit_lt_two_pow (Nat.lt_of_lt_of_le h (Nat.pow_le_pow_right (by decide) hi))

section

variable {txOpLimit cwMax cwMin : BitVec 16} {a : Byte}

theorem acParam_aifs : (acParam txOpLimit cwMax cwMin a).extractLsb' 0 8 = a := by
  apply BitVec.eq_of_getLsbD_eq
  intro i hi
  unfold acParam
  simp [hi, show i < 32 by omega, show i < 16 by omega, show i < 12 by omega]

theorem acParam_ecwMin (hmin : cwMin.toNat < 16) :
    ((acParam txOpLimit cwMax cwMin a).extractLsb' 8 4).toNat = cwMin.toNat := by
  have h : (acParam txOpLimit cwMax cwMin a).extractLsb' 8 4 = cwMin.setWidth 4 := by
    apply BitVec.eq_of_getLsbD_eq
    intro i hi
    unfold acParam
    simp [hi, show 8 + i < 32 by omega, show 8 + i < 16 by omega, show 8 + i < 12 by omega]
  rw [h, BitVec.toNat_setWidth]
  omega

theorem acParam_ecwMax (hmax : cwMax.toNat < 16) (hmin : cwMin.toNat < 16) :
    ((acParam txOpLimit cwMax cwMin a).extractLsb' 12 4).toNat = cwMax.toNat := by
  have h : (acParam txOpLimit cwMax cwMin a).extractLsb' 12 4 = cwMax.setWidth 4 := by
    apply BitVec.eq_of_getLsbD_eq
    intro i hi
    have hlow : cwMin.getLsbD (12 + i - 8) = false :=
      getLsbD_of_toNat_lt (n := 4) hmin (by omega)
    have hbyte : a.getLsbD (12 + i) = false := BitVec.getLsbD_of_ge a _ (by omega)
    unfold acParam
    simp [hi, hlow, hbyte, show 12 + i < 32 by omega, show 12 + i < 16 by omega,
      show ¬ 12 + i < 12 by omega]
  rw [h, BitVec.toNat_setWidth]
  omega

theorem acParam_txopLimit (hmax : cwMax.toNat < 16) (hmin : cwMin.toNat < 16) :
    (acParam txOpLimit cwMax cwMin a).extractLsb' 16 16 = txOpLimit := by
  apply BitVec.eq_of_getLsbD_eq
  intro i hi
  have hlow : cwMin.getLsbD (16 + i - 8) = false := getLsbD_of_toNat_lt (n := 4) hmin (by omega)
  have hhigh : cwMax.getLsbD (16 + i - 12) = false := getLsbD_of_toNat_lt (n := 4) hmax (by omega)
  have hbyte : a.getLsbD (16 + i) = false := BitVec.getLsbD_of_ge a _ (by omega)
  unfold acParam
  simp [hi, hlow, hhigh, hbyte, show 16 + i < 32 by omega, show ¬ 16 + i < 16 by omega]

end

theorem AcRecord.ecwMin_lt (r : AcRecord) : r.ecwMin < 16 := Nat.mod_lt _ (by decide)

theorem AcRecord.ecwMax_lt (r : AcRecord) : r.ecwMax < 16 := by
  have := r.ecwMinMax.isLt
  unfold AcRecord.ecwMax
  omega

theorem AcRecord.aifsn_bounds (r : AcRecord) : 2 ≤ r.aifsn ∧ r.aifsn < 16 := by
  unfold AcRecord.aifsn
  omega

theorem holdsParameters_iff {q : QosData} {i : Nat} {r : AcRecord} (h : Stored q i r) (a : Byte)
    (mode : Byte) :
    HoldsParameters (acParam (q.txOpLimit i) (q.cwMax i) (q.cwMin i) a) r mode ↔
      a.toNat = r.aifs mode := by
  -- All fields but the AIFS are right whenever the parameters are.
  have hmin : (q.cwMin i).toNat < 16 := by
    rw [h.cwMin]
    exact r.ecwMin_lt
  have hmax : (q.cwMax i).toNat < 16 := by
    rw [h.cwMax]
    exact r.ecwMax_lt
  constructor
  · intro hholds
    rw [← hholds.aifs, acParam_aifs]
  · intro haifs
    constructor
    · rw [acParam_aifs, haifs]
    · rw [acParam_ecwMin hmin, h.cwMin]
    · rw [acParam_ecwMax hmax hmin, h.cwMax]
    · rw [acParam_txopLimit hmax hmin, h.txOpLimit]

/-- What `u1bAIFS` is, the slot time of one mode being taken with the SIFS of another. -/
theorem toNat_u1bAIFS {q : QosData} {i : Nat} {r : AcRecord} (h : Stored q i r) (mode mode' : Byte) :
    (q.aifs i * slotTime mode + aSifsTime mode').toNat =
      (r.aifsn * (slotTime mode).toNat + (aSifsTime mode').toNat) % 256 := by
  rw [BitVec.toNat_add, BitVec.toNat_mul, h.aifs]
  omega

theorem slotTime_cases (mode : Byte) : (slotTime mode).toNat = 9 ∨ (slotTime mode).toNat = 20 := by
  unfold slotTime
  split
  · left
    rfl
  · right
    rfl

theorem aSifsTime_cases (mode : Byte) :
    (aSifsTime mode).toNat = 16 ∨ (aSifsTime mode).toNat = 10 := by
  unfold aSifsTime
  split
  · left
    rfl
  · right
    rfl

/-- With the slot time of the network, the AIFS is right exactly when it fits into the byte. -/
theorem u1bAIFS_iff {q : QosData} {i : Nat} {r : AcRecord} (h : Stored q i r) (mode : Byte) :
    (q.aifs i * slotTime mode + aSifsTime mode).toNat = r.aifs mode ↔ r.aifs mode < 256 := by
  rw [toNat_u1bAIFS h]
  unfold AcRecord.aifs
  constructor
  · intro heq
    omega
  · intro hlt
    exact Nat.mod_eq_of_lt hlt

/-- An AIFS that fits is right with another mode's slot time exactly when that is the same. -/
theorem u1bAIFS_other_iff {q : QosData} {i : Nat} {r : AcRecord} (h : Stored q i r)
    (mode mode' : Byte) (hfits : r.aifs mode < 256) :
    (q.aifs i * slotTime mode' + aSifsTime mode).toNat = r.aifs mode ↔
      slotTime mode' = slotTime mode := by
  rw [toNat_u1bAIFS h, BitVec.toNat_inj.symm]
  unfold AcRecord.aifs at *
  have hbounds := r.aifsn_bounds
  have hsifs := aSifsTime_cases mode
  rcases slotTime_cases mode with hslot | hslot
  · rw [hslot] at hfits ⊢
    rcases slotTime_cases mode' with hslot' | hslot'
    · rw [hslot']
      omega
    · rw [hslot']
      omega
  · rw [hslot] at hfits ⊢
    rcases slotTime_cases mode' with hslot' | hslot'
    · rw [hslot']
      omega
    · rw [hslot']
      omega

/-! ## Activation -/

/-- The parameters of the current network are those that the element announces. -/
def Announced (qui : Nat → Byte) (q : QosData) : Prop :=
  ∀ ac r, recordOf qui ac = some r → Stored q ac.aci r

theorem associationResp_current {env : Env} {e : Elem} {network network' : Network} {w : Watch}
    (h : (rtllibParseQosInfoParamIE env e network).val = some network') (hlen : e.len = 24)
    (hlinked : w.state = .linked) (hinfra : w.iwMode = .infra) (d : Device) :
    copyParameters (rtl8192QosAssociationResp w network' d).currentNetwork.qosData
        network'.qosData =
      (rtl8192QosAssociationResp w network' d).currentNetwork.qosData := by
  have hflag : network'.flags &&& networkHasQosParameters ≠ 0 := by
    obtain ⟨qui, -, hnet⟩ := parse_eq h hlen
    rw [hnet]
    intro hzero
    have hbit := congrArg (BitVec.getLsbD · 3) hzero
    simp [networkHasQosParameters] at hbit
  unfold rtl8192QosAssociationResp
  rw [if_neg (not_not_intro hlinked), if_neg (not_not_intro hinfra)]
  simp only [if_pos hflag]
  rfl

def acDword (network : Network) (mode : Byte) (i : Nat) : BitVec 32 :=
  acParam (network.qosData.txOpLimit i) (network.qosData.cwMax i) (network.qosData.cwMin i)
    (network.qosData.aifs i * slotTime mode + aSifsTime network.mode)

theorem activate_eq {w : Watch} (hlinked : w.state = .linked) (d : Device) :
    rtl8192QosActivate w d =
      { d with
        regs :=
          store 4 (store 4 (store 4 (store 4 d.regs
            edcaparaBe (acDword d.currentNetwork d.currentNetwork.mode 0))
            edcaparaBk (acDword d.currentNetwork d.currentNetwork.mode 1))
            edcaparaVi (acDword d.currentNetwork d.currentNetwork.mode 2))
            edcaparaVo (acDword d.currentNetwork d.currentNetwork.mode 3) } := by
  unfold rtl8192QosActivate
  rw [if_neg (by simpa using hlinked)]
  rfl

theorem activate_load {w : Watch} (hlinked : w.state = .linked) (d : Device)
    (ac : AccessCategory) :
    load32 (rtl8192QosActivate w d).regs ac.register =
      acDword d.currentNetwork d.currentNetwork.mode ac.aci := by
  rw [activate_eq hlinked]
  cases ac with
  | be =>
    rw [load32_store_of_disjoint (by decide), load32_store_of_disjoint (by decide),
      load32_store_of_disjoint (by decide)]
    exact load32_store _ _ _
  | bk =>
    rw [load32_store_of_disjoint (by decide), load32_store_of_disjoint (by decide)]
    exact load32_store _ _ _
  | vi =>
    rw [load32_store_of_disjoint (by decide)]
    exact load32_store _ _ _
  | vo => exact load32_store _ _ _

/-- Every access category has a record, and its AIFS fits into a byte. -/
def Fits (qui : Nat → Byte) (mode : Byte) : Prop :=
  ∀ ac, ∃ r, recordOf qui ac = some r ∧ r.aifs mode < 256

theorem activate_faithful_iff {qui : Nat → Byte} {w : Watch} {d : Device}
    (hlinked : w.state = .linked) (hann : Announced qui d.currentNetwork.qosData) :
    Faithful qui (rtl8192QosActivate w d) ↔ Fits qui d.currentNetwork.mode := by
  have hnetwork : (rtl8192QosActivate w d).currentNetwork = d.currentNetwork := by
    rw [activate_eq hlinked]
  unfold Faithful Fits
  apply forall_congr'
  intro ac
  apply exists_congr
  intro r
  apply and_congr_right
  intro hr
  rw [hnetwork, activate_load hlinked]
  unfold acDword
  rw [holdsParameters_iff (hann ac r hr), u1bAIFS_iff (hann ac r hr)]

/-! ## Turbo -/

def Restores (d : Device) : Event → Prop
  | .received _ => False
  | .check w => ¬ w.exits ∧ d.bisAnyNonbepkts = true ∧ d.bcurrentTurboEDCA = true

instance (d : Device) : DecidablePred (Restores d)
  | .received _ => isFalse id
  | .check w => inferInstanceAs (Decidable (¬ w.exits ∧ d.bisAnyNonbepkts = true ∧
      d.bcurrentTurboEDCA = true))

/-- A step leaves the network alone, and the registers of the access categories but best effort. -/
structure Keeps (d d' : Device) : Prop where
  network : d'.currentNetwork = d.currentNetwork
  others : ∀ ac : AccessCategory, ac ≠ .be → load32 d'.regs ac.register = load32 d.regs ac.register

theorem Keeps.rfl {d : Device} : Keeps d d := ⟨Eq.refl _, fun _ _ => Eq.refl _⟩

theorem load32_be {ac : AccessCategory} (hac : ac ≠ .be) (r : Regs) (v : BitVec 32) :
    load32 (store 4 r edcaparaBe v) ac.register = load32 r ac.register := by
  apply load32_store_of_disjoint
  cases ac with
  | be => exact absurd (Eq.refl _) hac
  | bk => decide
  | vi => decide
  | vo => decide

theorem load32_acm (ac : AccessCategory) (r : Regs) (v : Byte) :
    load32 (store 1 r acmHwCtrl v) ac.register = load32 r ac.register := by
  apply load32_store_of_disjoint
  cases ac <;> decide

theorem Keeps.writeUplink (w : Watch) (d : Device) : Keeps d (writeUplink w d) := by
  unfold Edca.writeUplink
  split
  · exact ⟨Eq.refl _, fun ac hac => load32_be hac _ _⟩
  · exact .rfl

theorem Keeps.writeDownlink (w : Watch) (d : Device) : Keeps d (writeDownlink w d) := by
  unfold Edca.writeDownlink
  split
  · exact ⟨Eq.refl _, fun ac hac => load32_be hac _ _⟩
  · exact .rfl

theorem Keeps.turboOn (w : Watch) (d : Device) : Keeps d (turboOn w d) := by
  have hup := Keeps.writeUplink w d
  have hdown := Keeps.writeDownlink w d
  unfold Edca.turboOn
  constructor
  · dsimp only
    split
    · split
      · exact hup.network
      · exact hdown.network
    · split
      · exact hdown.network
      · exact hup.network
  · dsimp only
    intro ac hac
    split
    · split
      · exact hup.others ac hac
      · exact hdown.others ac hac
    · split
      · exact hdown.others ac hac
      · exact hup.others ac hac

/-- A step that does not restore either turns turbo on or leaves all registers alone. -/
theorem step_of_not_restores {d : Device} {e : Event} (h : ¬ Restores d e) :
    Keeps d (step d e) ∧ ((step d e).bcurrentTurboEDCA = false →
      d.bcurrentTurboEDCA = false ∧ (step d e).regs = d.regs) := by
  cases e with
  | received tid =>
    unfold step
    dsimp only
    split
    · exact ⟨⟨Eq.refl _, fun _ _ => Eq.refl _⟩, fun hoff => ⟨hoff, Eq.refl _⟩⟩
    · exact ⟨.rfl, fun hoff => ⟨hoff, Eq.refl _⟩⟩
  | check w =>
    show Keeps d (dmCheckEdcaTurbo w d) ∧ _
    unfold step dmCheckEdcaTurbo
    by_cases hexits : w.exits
    · simp only [if_pos hexits]
      exact ⟨⟨Eq.refl _, fun _ _ => Eq.refl _⟩, fun hoff => ⟨hoff, trivial⟩⟩
    · simp only [if_neg hexits]
      by_cases hnonbe : d.bisAnyNonbepkts = true
      · have hoff : ¬ d.bcurrentTurboEDCA = true := fun hturbo => h ⟨hexits, hnonbe, hturbo⟩
        rw [if_neg (not_not_intro hnonbe), if_neg hoff]
        exact ⟨⟨Eq.refl _, fun _ _ => Eq.refl _⟩, fun hoff => ⟨hoff, Eq.refl _⟩⟩
      · rw [if_pos hnonbe]
        have hkeeps := Keeps.turboOn w d
        exact ⟨⟨hkeeps.network, hkeeps.others⟩, fun hoff => by cases hoff⟩

theorem restore_acm (w : Watch) {d : Device} (h : (d.currentNetwork.qosData.aifs 0).toNat < 16) :
    ((restore w d).regs acmHwCtrl).getLsbD 1 = false := by
  have hacm : (d.currentNetwork.qosData.aifs 0).getLsbD 4 = false :=
    getLsbD_of_toNat_lt (n := 4) h (Nat.le_refl 4)
  unfold restore Device.writeNicByte
  dsimp only
  rw [store_byte, if_neg (by simpa [writeAcParam, dmInitEdcaTurbo, Device.writeNicDword] using hacm)]
  simp [acmHwBeqEn]

/-- A step that restores writes the register of best effort anew, and clears `AcmHw_BeqEn` if the
stored AIFSN is one of four bits. -/
theorem step_of_restores {d : Device} {w : Watch} (h : Restores d (.check w)) :
    Keeps d (step d (.check w)) ∧
      load32 (step d (.check w)).regs edcaparaBe = acDword d.currentNetwork w.mode 0 ∧
      ((d.currentNetwork.qosData.aifs 0).toNat < 16 →
        ((step d (.check w)).regs acmHwCtrl).getLsbD 1 = false) := by
  obtain ⟨hexits, hnonbe, hturbo⟩ := h
  have heq : step d (.check w) =
      { restore w d with
        bisAnyNonbepkts := false
        lastTxOkCnt := w.txbytesunicast
        lastRxOkCnt := w.rxbytesunicast } := by
    show dmCheckEdcaTurbo w d = _
    unfold dmCheckEdcaTurbo
    rw [if_neg hexits, if_neg (not_not_intro hnonbe), if_pos hturbo]
  rw [heq]
  refine ⟨⟨Eq.refl _, ?_⟩, ?_, ?_⟩
  · intro ac hac
    exact (load32_acm ac _ _).trans (load32_be hac _ _)
  · exact (load32_acm .be _ _).trans (load32_store _ _ _)
  · exact restore_acm w

/-! ## Runs -/

/-- The parameters are right after the step if turbo is off, and so is the ACM bit after a
restore. -/
def StepFaithful (qui : Nat → Byte) (d : Device) (e : Event) : Prop :=
  ((step d e).bcurrentTurboEDCA = false → Faithful qui (step d e)) ∧
    (Restores d e → AcmFaithful qui (step d e))

/-- A restore takes the slot time of the network, and no ACM bit was announced for best effort. -/
def RestoresRight (qui : Nat → Byte) (d : Device) : Event → Prop
  | .received _ => True
  | .check w => Restores d (.check w) → slotTime w.mode = slotTime d.currentNetwork.mode ∧
      ∀ r, recordOf qui .be = some r → r.acm = false

/-- All registers are right, that of best effort while turbo is off. -/
structure Activated (qui : Nat → Byte) (network : Network) (d : Device) : Prop where
  current : d.currentNetwork = network
  others : ∀ ac : AccessCategory, ac ≠ .be → ∃ r, recordOf qui ac = some r ∧
    HoldsParameters (load32 d.regs ac.register) r network.mode
  be : d.bcurrentTurboEDCA = false → ∃ r, recordOf qui .be = some r ∧
    HoldsParameters (load32 d.regs edcaparaBe) r network.mode

theorem Activated.faithful {qui : Nat → Byte} {network : Network} {d : Device}
    (h : Activated qui network d) (hoff : d.bcurrentTurboEDCA = false) : Faithful qui d := by
  intro ac
  rw [h.current]
  by_cases hac : ac = .be
  · subst hac
    exact h.be hoff
  · exact h.others ac hac

section

variable {qui : Nat → Byte} {network : Network} {d : Device} {e : Event}

theorem Activated.keeps (h : Activated qui network d) {d' : Device} (hkeeps : Keeps d d')
    (hbe : d'.bcurrentTurboEDCA = false → ∃ r, recordOf qui .be = some r ∧
      HoldsParameters (load32 d'.regs edcaparaBe) r network.mode) : Activated qui network d' := by
  refine ⟨hkeeps.network.trans h.current, ?_, hbe⟩
  intro ac hac
  rw [hkeeps.others ac hac]
  exact h.others ac hac

theorem Activated.step_of_not_restores (h : Activated qui network d) (he : ¬ Restores d e) :
    Activated qui network (step d e) := by
  obtain ⟨hkeeps, hoff⟩ := Edca.step_of_not_restores he
  apply h.keeps hkeeps
  intro hoff'
  obtain ⟨hturbo, hregs⟩ := hoff hoff'
  rw [hregs]
  exact h.be hturbo

/-- After a restore the register of best effort is right exactly when the slot times agree. -/
theorem restores_be_iff {w : Watch} (hann : Announced qui d.currentNetwork.qosData)
    (hfits : Fits qui d.currentNetwork.mode) (he : Restores d (.check w)) :
    (∃ r, recordOf qui .be = some r ∧ HoldsParameters (load32 (step d (.check w)).regs edcaparaBe) r
      d.currentNetwork.mode) ↔ slotTime w.mode = slotTime d.currentNetwork.mode := by
  obtain ⟨-, hload, -⟩ := step_of_restores he
  obtain ⟨r, hr, hlt⟩ := hfits .be
  have hstored : Stored d.currentNetwork.qosData 0 r := hann .be r hr
  rw [← u1bAIFS_other_iff hstored d.currentNetwork.mode w.mode hlt,
    ← holdsParameters_iff hstored, hload]
  constructor
  · rintro ⟨r', hr', hholds⟩
    cases hr.symm.trans hr'
    exact hholds
  · intro hholds
    exact ⟨r, hr, hholds⟩

theorem restores_acm_iff {w : Watch} (hann : Announced qui d.currentNetwork.qosData)
    (hfits : Fits qui d.currentNetwork.mode) (he : Restores d (.check w)) :
    AcmFaithful qui (step d (.check w)) ↔ ∀ r, recordOf qui .be = some r → r.acm = false := by
  obtain ⟨r, hr, -⟩ := hfits .be
  have hstored : Stored d.currentNetwork.qosData 0 r := hann .be r hr
  obtain ⟨-, -, hcleared⟩ := step_of_restores he
  have hclear := hcleared (by
    rw [hstored.aifs]
    exact r.aifsn_bounds.2)
  unfold AcmFaithful
  simp only [hclear, hr, Option.some.injEq, exists_eq_left', forall_eq', Bool.false_eq_true,
    false_iff, Bool.not_eq_true]

theorem Activated.step (h : Activated qui network d) (hann : Announced qui network.qosData)
    (hfits : Fits qui network.mode) (he : RestoresRight qui d e) :
    Activated qui network (step d e) := by
  by_cases hrestores : Restores d e
  · cases e with
    | received tid => exact hrestores.elim
    | check w =>
      obtain ⟨hkeeps, -, -⟩ := step_of_restores hrestores
      have hnetwork := h.current
      subst hnetwork
      apply h.keeps hkeeps
      intro _
      exact (restores_be_iff hann hfits hrestores).mpr (he hrestores).1
  · exact h.step_of_not_restores hrestores

theorem Activated.stepFaithful_iff (h : Activated qui network d)
    (hann : Announced qui network.qosData) (hfits : Fits qui network.mode) :
    RestoresRight qui d e ↔ StepFaithful qui d e := by
  have hnetwork := h.current
  subst hnetwork
  constructor
  · intro he
    constructor
    · exact (h.step hann hfits he).faithful
    · intro hrestores
      cases e with
      | received tid => exact hrestores.elim
      | check w => exact (restores_acm_iff hann hfits hrestores).mpr (he hrestores).2
  · rintro ⟨hfaithful, hacm⟩
    cases e with
    | received tid => trivial
    | check w =>
      intro hrestores
      refine ⟨?_, (restores_acm_iff hann hfits hrestores).mp (hacm hrestores)⟩
      obtain ⟨hkeeps, -, -⟩ := step_of_restores hrestores
      have hbe := hfaithful (by
        show (dmCheckEdcaTurbo w d).bcurrentTurboEDCA = false
        unfold dmCheckEdcaTurbo
        rw [if_neg hrestores.1, if_neg (not_not_intro hrestores.2.1), if_pos hrestores.2.2]
        rfl) .be
      rw [hkeeps.network] at hbe
      exact (restores_be_iff hann hfits hrestores).mp hbe

end

/-- After activation and in every run of checks the registers hold what the element announces, and
the ACM bit is right after every restore, exactly when each access category has a record whose AIFS
fits into a byte, and a check restores only with the slot time of the network and if no ACM bit was
announced for best effort. -/
theorem edca_faithful_iff (env : Env) (e : Elem) (network network' : Network) (w : Watch) (d : Device)
    (es : List Event) (hparsed : (rtllibParseQosInfoParamIE env e network).val = some network')
    (hparameters : e.len = 24)
    (hcurrent : copyParameters d.currentNetwork.qosData network'.qosData = d.currentNetwork.qosData)
    (hlinked : w.state = .linked) :
    (Fits (quiOf env e) d.currentNetwork.mode ∧
      Meets step (RestoresRight (quiOf env e)) (rtl8192QosActivate w d) es) ↔
    (Faithful (quiOf env e) (rtl8192QosActivate w d) ∧
      Meets step (StepFaithful (quiOf env e)) (rtl8192QosActivate w d) es) := by
  have hann : Announced (quiOf env e) d.currentNetwork.qosData := by
    intro ac r hr
    have hstored := parse_stored hparsed hparameters hr
    rw [← hcurrent]
    exact ⟨hstored.aifs, hstored.cwMin, hstored.cwMax, hstored.txOpLimit⟩
  have hfaithful := activate_faithful_iff hlinked hann
  rw [hfaithful]
  apply and_congr_right
  intro hfits
  have hactivated := hfaithful.mpr hfits
  have hnetwork : (rtl8192QosActivate w d).currentNetwork = d.currentNetwork := by
    rw [activate_eq hlinked]
  apply meets_congr (I := Activated (quiOf env e) d.currentNetwork)
  · intro d' e' h he
    exact h.step hann hfits he
  · intro d' e' h
    exact h.stepFaithful_iff hann hfits
  · refine ⟨hnetwork, ?_, ?_⟩
    · intro ac _
      rw [← hnetwork]
      exact hactivated ac
    · intro _
      rw [← hnetwork]
      exact hactivated .be

/-- An element with the record `be` for best effort, and common ones for the others. -/
def elementWith (be : List Byte) : Env :=
  { (default : Env) with
    mem := fun i => ([221, 24, 0x00, 0x50, 0xF2, 2, 1, 1, 0, 0] ++ be ++
      [0x27, 0xA4, 0, 0, 0x42, 0x43, 0x5E, 0, 0x62, 0x32, 0x2F, 0]).getD i 0 }

/-- A device whose current network has the parameters of the element and this mode. -/
def deviceWith (env : Env) (mode : Byte) : Device :=
  let q := ((rtllibParseQosInfoParamIE env ⟨0, 221, 24⟩ default).val.map (·.qosData)).getD default
  ⟨fun _ => 0, { (default : Network) with mode := mode, qosData := q }, 0, false, false, false, 0, 0⟩

def watchIn (mode : Byte) : Watch := ⟨.infra, .linked, mode, 0, .unknown, 0, 0⟩

/-- In mode G turbo is turned on, and off again after a frame that is not best effort. -/
theorem faithful_g :
    let d := deviceWith (elementWith [0x03, 0xA4, 0, 0]) ieeeG
    Faithful (quiOf (elementWith [0x03, 0xA4, 0, 0]) ⟨0, 221, 24⟩)
        (rtl8192QosActivate (watchIn ieeeG) d) ∧
      Meets step (StepFaithful (quiOf (elementWith [0x03, 0xA4, 0, 0]) ⟨0, 221, 24⟩))
        (rtl8192QosActivate (watchIn ieeeG) d)
        [.check (watchIn ieeeG), .received 5, .check (watchIn ieeeG)] := by
  refine (edca_faithful_iff (elementWith [0x03, 0xA4, 0, 0]) ⟨0, 221, 24⟩ default _ (watchIn ieeeG)
    (deviceWith (elementWith [0x03, 0xA4, 0, 0]) ieeeG) _ rfl rfl rfl rfl).mp ⟨?_, ?_⟩
  · intro ac
    cases ac <;> exact ⟨_, rfl, by decide⟩
  · refine ⟨?_, trivial, ?_, trivial⟩
    · rintro ⟨-, h, -⟩
      exact absurd h (by decide)
    · intro _
      refine ⟨rfl, ?_⟩
      intro r hr
      cases hr
      rfl

/-- In mode B an AIFSN of 13 makes an AIFS of 270, of which the byte keeps 14. -/
theorem not_always_faithful : ¬ ∀ (env : Env) (e : Elem) (network network' : Network) (w : Watch)
    (d : Device) (es : List Event),
    (rtllibParseQosInfoParamIE env e network).val = some network' → e.len = 24 →
    copyParameters d.currentNetwork.qosData network'.qosData = d.currentNetwork.qosData →
    w.state = .linked →
    Faithful (quiOf env e) (rtl8192QosActivate w d) ∧
      Meets step (StepFaithful (quiOf env e)) (rtl8192QosActivate w d) es := by
  intro h
  obtain ⟨hfaithful, -⟩ := h (elementWith [0x0D, 0xA4, 0, 0]) ⟨0, 221, 24⟩ default _ (watchIn ieeeB)
    (deviceWith (elementWith [0x0D, 0xA4, 0, 0]) ieeeB) [] rfl rfl rfl rfl
  obtain ⟨r, hr, hholds⟩ := hfaithful .be
  cases hr
  exact absurd hholds.aifs (by decide +kernel)

end Rtl8190.Edca
