import Rtl8190.Link.Code

/-!
# The registers mirror the link

A link change in infrastructure or ad hoc mode that finds the station linked writes everything. The
other routines write parts, and leave the last two bytes of the BSSID or the link bits as they were.
-/

open Rtl8190.Memory Rtl8190.Registers Rtl8190.Run

namespace Rtl8190.Link

/-! ## The property -/

def Net.msrCode (net : Net) : Byte :=
  if net.state = .linked then
    match net.iwMode with
    | .infra => msrLinkManaged
    | .adhoc => msrLinkAdhoc
    | .master => msrLinkMaster
    | .monitor => msrLinkNone
  else msrLinkNone

/-- The mode is one in which the BSSID of frames is checked. -/
def Net.Station (net : Net) : Prop := net.iwMode = .infra ∨ net.iwMode = .adhoc

instance : DecidablePred Net.Station := fun net =>
  inferInstanceAs (Decidable (net.iwMode = .infra ∨ net.iwMode = .adhoc))

/-- `RCR_CBSSID` is to be set. -/
def Net.ChecksBssid (net : Net) : Prop := net.Station ∧ net.state = .linked

instance : DecidablePred Net.ChecksBssid := fun net =>
  inferInstanceAs (Decidable (net.Station ∧ net.state = .linked))

structure Mirror (d : Device) : Prop where
  bssid : ∀ i < 6, d.regs (bssidr + i) = d.net.bssid i
  msr : d.regs msr &&& msrLinkMask = d.net.msrCode
  cbssid : (load32 d.regs rcr).getLsbD 23 = true ↔ d.net.ChecksBssid
  receiveConfig : d.receiveConfig = load32 d.regs rcr

/-! ## What the functions write -/

/-- The three registers are as they were. -/
structure Leaves (r r' : Regs) : Prop where
  bssid : ∀ i < 6, r' (bssidr + i) = r (bssidr + i)
  msr : r' msr = r msr
  rcr : load32 r' rcr = load32 r rcr

theorem Leaves.rfl {r : Regs} : Leaves r r := ⟨fun _ _ => Eq.refl _, Eq.refl _, Eq.refl _⟩

theorem Leaves.trans {r r' r'' : Regs} (h : Leaves r r') (h' : Leaves r' r'') : Leaves r r'' :=
  ⟨fun i hi => (h'.bssid i hi).trans (h.bssid i hi), h'.msr.trans h.msr, h'.rcr.trans h.rcr⟩

theorem Leaves.store {r r' : Regs} (h : Leaves r r') (n a : Nat) (v : BitVec (8 * n))
    (hlow : Link.rcr + 4 ≤ a) (hhigh : a + n ≤ Link.msr) : Leaves r (store n r' a v) := by
  constructor
  · intro i hi
    unfold Link.rcr at hlow
    rw [store_of_not_mem (Or.inl (by unfold bssidr; omega))]
    exact h.bssid i hi
  · rw [store_of_not_mem (Or.inr hhigh)]
    exact h.msr
  · rw [load32_store_of_disjoint (Or.inl hlow)]
    exact h.rcr

theorem Leaves.writeBeaconRegs (b : BitVec 16) (r : Regs) : Leaves r (writeBeaconRegs b r) := by
  unfold Link.writeBeaconRegs
  have h := Leaves.rfl (r := r)
  have h := h.store 2 atimwnd (2 : BitVec 16) (by decide) (by decide)
  have h := h.store 2 bcnDmatime (256 : BitVec 16) (by decide) (by decide)
  have h := h.store 2 bcnInterval b (by decide) (by decide)
  have h := h.store 2 bcnDrvEarlyInt (10 : BitVec 16) (by decide) (by decide)
  have h := h.store 1 bcnErrThresh (100 : BitVec 8) (by decide) (by decide)
  exact h.store 2 bcnTcfg _ (by decide) (by decide)

theorem netUpdate_eq (d : Device) :
    (∀ i < 6, (rtl8192NetUpdate d).regs (bssidr + i) = d.net.bssid i) ∧
      (rtl8192NetUpdate d).regs msr = d.regs msr ∧
      load32 (rtl8192NetUpdate d).regs rcr = load32 d.regs rcr := by
  -- The six bytes are written, and the other registers left.
  have hbssid : ∀ i < 6, store 2 (store 4 d.regs bssidr (load32 d.net.bssid 0)) (bssidr + 4)
      (load16 d.net.bssid 4) (bssidr + i) = d.net.bssid i := by
    intro i hi
    by_cases hlow : i < 4
    · rw [store_of_not_mem (Or.inl (by omega)), store_load32 hlow, Nat.zero_add]
    · rw [show bssidr + i = bssidr + 4 + (i - 4) by omega, store_load16 (by omega),
        show 4 + (i - 4) = i by omega]
  have hmsr : store 2 (store 4 d.regs bssidr (load32 d.net.bssid 0)) (bssidr + 4)
      (load16 d.net.bssid 4) msr = d.regs msr := by
    rw [store_of_not_mem (by decide), store_of_not_mem (by decide)]
  have hrcr : load32 (store 2 (store 4 d.regs bssidr (load32 d.net.bssid 0)) (bssidr + 4)
      (load16 d.net.bssid 4)) rcr = load32 d.regs rcr := by
    rw [load32_store_of_disjoint (by decide), load32_store_of_disjoint (by decide)]
  unfold rtl8192NetUpdate
  dsimp only
  split
  · have hleaves := Leaves.writeBeaconRegs d.net.beaconInterval
      (store 2 (store 4 d.regs bssidr (load32 d.net.bssid 0)) (bssidr + 4) (load16 d.net.bssid 4))
    refine ⟨?_, hleaves.msr.trans hmsr, hleaves.rcr.trans hrcr⟩
    intro i hi
    exact (hleaves.bssid i hi).trans (hbssid i hi)
  · exact ⟨hbssid, hmsr, hrcr⟩

theorem and_linkMask {code : Byte} (h : code &&& msrLinkMask = code) (b : Byte) :
    (b &&& ~~~msrLinkMask ||| code) &&& msrLinkMask = code := by
  rw [BitVec.and_or_distrib_right, h, BitVec.and_assoc, BitVec.and_comm (~~~msrLinkMask)]
  simp

theorem store_msr (r : Regs) (v : Byte) :
    (∀ i < 6, store 1 r msr v (bssidr + i) = r (bssidr + i)) ∧ store 1 r msr v msr = v ∧
      load32 (store 1 r msr v) rcr = load32 r rcr := by
  refine ⟨?_, store_byte r msr v, load32_store_of_disjoint (by decide)⟩
  intro i hi
  exact store_of_not_mem (Or.inl (by unfold bssidr msr; omega))

theorem store_rcr (r : Regs) (v : BitVec 32) :
    (∀ i < 6, store 4 r rcr v (bssidr + i) = r (bssidr + i)) ∧ store 4 r rcr v msr = r msr ∧
      load32 (store 4 r rcr v) rcr = v := by
  refine ⟨?_, store_of_not_mem (by decide), load32_store r rcr v⟩
  intro i hi
  exact store_of_not_mem (Or.inl (by unfold bssidr rcr; omega))

theorem updateMsr_msr (d : Device) :
    (rtl8192UpdateMsr d).regs msr &&& msrLinkMask = d.net.msrCode := by
  unfold rtl8192UpdateMsr Net.msrCode
  dsimp only
  rw [store_byte]
  cases d.net.iwMode with
  | infra => by_cases hlinked : d.net.state = .linked <;> simp only [hlinked, if_true, if_false] <;>
      exact and_linkMask (by decide) _
  | adhoc => by_cases hlinked : d.net.state = .linked <;> simp only [hlinked, if_true, if_false] <;>
      exact and_linkMask (by decide) _
  | master => by_cases hlinked : d.net.state = .linked <;> simp only [hlinked, if_true, if_false] <;>
      exact and_linkMask (by decide) _
  | monitor =>
    dsimp only
    rw [ite_self, BitVec.and_assoc, BitVec.and_comm (~~~msrLinkMask)]
    simp [msrLinkNone]

theorem updateMsr_leaves (d : Device) :
    (∀ i < 6, (rtl8192UpdateMsr d).regs (bssidr + i) = d.regs (bssidr + i)) ∧
      load32 (rtl8192UpdateMsr d).regs rcr = load32 d.regs rcr := by
  unfold rtl8192UpdateMsr
  obtain ⟨hbssid, -, hrcr⟩ := store_msr d.regs
    (match d.net.iwMode with
      | .infra => d.regs msr &&& ~~~msrLinkMask |||
          (if d.net.state = .linked then msrLinkManaged else msrLinkNone)
      | .adhoc => d.regs msr &&& ~~~msrLinkMask |||
          (if d.net.state = .linked then msrLinkAdhoc else msrLinkNone)
      | .master => d.regs msr &&& ~~~msrLinkMask |||
          (if d.net.state = .linked then msrLinkMaster else msrLinkNone)
      | .monitor => d.regs msr &&& ~~~msrLinkMask)
  exact ⟨hbssid, hrcr⟩

def Net.setCbssid (net : Net) (reg : BitVec 32) : BitVec 32 :=
  if net.Station then if net.state = .linked then reg ||| rcrCbssid else reg &&& ~~~rcrCbssid
  else reg

theorem updateRcr_eq (d : Device) :
    (∀ i < 6, (updateRcr d).regs (bssidr + i) = d.regs (bssidr + i)) ∧
      (updateRcr d).regs msr = d.regs msr ∧
      load32 (updateRcr d).regs rcr = d.net.setCbssid (load32 d.regs rcr) ∧
      (updateRcr d).receiveConfig =
        if d.net.Station then load32 (updateRcr d).regs rcr else d.receiveConfig := by
  unfold Net.setCbssid
  by_cases hstation : d.net.Station
  · let reg := if d.net.state = .linked then load32 d.regs rcr ||| rcrCbssid
      else load32 d.regs rcr &&& ~~~rcrCbssid
    have heq : updateRcr d = { d with receiveConfig := reg, regs := store 4 d.regs rcr reg } :=
      if_pos hstation
    obtain ⟨hbssid, hmsr, hrcr⟩ := store_rcr d.regs reg
    rw [heq, if_pos hstation, if_pos hstation]
    exact ⟨hbssid, hmsr, hrcr, hrcr.symm⟩
  · have heq : updateRcr d = d := if_neg hstation
    rw [heq, if_neg hstation, if_neg hstation]
    exact ⟨fun _ _ => rfl, rfl, rfl, rfl⟩

theorem Net.setCbssid_iff {net : Net} (h : net.Station) (reg : BitVec 32) :
    (net.setCbssid reg).getLsbD 23 = true ↔ net.ChecksBssid := by
  unfold Net.setCbssid Net.ChecksBssid
  rw [if_pos h]
  by_cases hlinked : net.state = .linked
  · simp [hlinked, h, rcrCbssid]
  · simp [hlinked, rcrCbssid]

structure Changed (d d' : Device) : Prop where
  net : d'.net = d.net
  bssid : ∀ i < 6, d'.regs (bssidr + i) =
    if d.net.state = .linked then d.net.bssid i else d.regs (bssidr + i)
  msr : d'.regs msr &&& msrLinkMask = d.net.msrCode
  rcr : load32 d'.regs rcr = d.net.setCbssid (load32 d.regs rcr)
  receiveConfig : d'.receiveConfig =
    if d.net.Station then load32 d'.regs Link.rcr else d.receiveConfig

theorem linkChange_changed (d : Device) : Changed d (rtl8192LinkChange d) := by
  -- the device before `rtl8192_update_msr`
  let e : Device := if d.net.state = .linked then rtl8192NetUpdate d
    else { d with regs := store 1 d.regs 0x173 (0 : BitVec 8) }
  have he : e.net = d.net ∧ e.receiveConfig = d.receiveConfig ∧
      load32 e.regs rcr = load32 d.regs rcr ∧ ∀ i < 6, e.regs (bssidr + i) =
        if d.net.state = .linked then d.net.bssid i else d.regs (bssidr + i) := by
    unfold e
    by_cases hlinked : d.net.state = .linked
    · simp only [if_pos hlinked]
      exact ⟨rfl, rfl, (netUpdate_eq d).2.2, (netUpdate_eq d).1⟩
    · have hleaves := Leaves.rfl.store (r := d.regs) 1 0x173 0 (by decide) (by decide)
      simp only [if_neg hlinked]
      exact ⟨trivial, trivial, hleaves.rcr, hleaves.bssid⟩
  obtain ⟨hnet, hconfig, hrcr, hbssid⟩ := he
  obtain ⟨hbssid', hrcr'⟩ := updateMsr_leaves e
  have hmsr' := updateMsr_msr e
  have hnet' : (rtl8192UpdateMsr e).net = d.net := hnet
  obtain ⟨hbssid'', hmsr'', hrcr'', hconfig''⟩ := updateRcr_eq (rtl8192UpdateMsr e)
  rw [hnet'] at hrcr'' hconfig''
  rw [hnet] at hmsr'
  refine ⟨?_, ?_, ?_, ?_, ?_⟩
  · show (updateRcr (rtl8192UpdateMsr e)).net = d.net
    unfold updateRcr
    split <;> exact hnet
  · intro i hi
    exact (hbssid'' i hi).trans ((hbssid' i hi).trans (hbssid i hi))
  · exact (congrArg (· &&& msrLinkMask) hmsr'').trans hmsr'
  · rw [← hrcr, ← hrcr']
    exact hrcr''
  · rw [← hconfig]
    exact hconfig''

section

variable {d : Device}

/-- A link change after the registers have mirrored the link of `d`, of which only `MSR` may have
changed since. -/
theorem linkChange_mirror_iff (h : Mirror d) {e : Device}
    (hbssid : ∀ i < 6, e.regs (bssidr + i) = d.regs (bssidr + i))
    (hrcr : load32 e.regs rcr = load32 d.regs rcr) (hconfig : e.receiveConfig = d.receiveConfig) :
    Mirror (rtl8192LinkChange e) ↔
      (e.net.state ≠ .linked → ∀ i < 6, e.net.bssid i = d.net.bssid i) ∧
        (¬ e.net.Station → ¬ d.net.ChecksBssid) := by
  have hchanged := linkChange_changed e
  constructor
  · intro hmirror
    constructor
    · intro hlinked i hi
      have hi' := (hchanged.bssid i hi).symm.trans (hmirror.bssid i hi)
      rw [if_neg hlinked, hbssid i hi, h.bssid i hi, hchanged.net] at hi'
      exact hi'.symm
    · intro hstation hchecks
      have hbit := hmirror.cbssid.mp (by
        rw [hchanged.rcr, Net.setCbssid, if_neg hstation, hrcr]
        exact h.cbssid.mpr hchecks)
      rw [hchanged.net] at hbit
      exact hstation hbit.1
  · rintro ⟨hnolink, hother⟩
    constructor
    · intro i hi
      rw [hchanged.bssid i hi, hchanged.net]
      split
      · rfl
      · next hlinked =>
        rw [hbssid i hi, h.bssid i hi]
        exact (hnolink hlinked i hi).symm
    · rw [hchanged.msr, hchanged.net]
    · rw [hchanged.rcr, hchanged.net]
      by_cases hstation : e.net.Station
      · exact Net.setCbssid_iff hstation _
      · rw [Net.setCbssid, if_neg hstation, hrcr, h.cbssid]
        exact ⟨fun hc => absurd hc (hother hstation), fun hc => absurd hc.1 hstation⟩
    · rw [hchanged.receiveConfig, hchanged.rcr]
      split
      · rfl
      · next hstation => rw [Net.setCbssid, if_neg hstation, hrcr, hconfig, h.receiveConfig]

/-- A link change that finds a station linked makes the registers mirror the link. -/
theorem linkChange_mirror {e : Device} (hlinked : e.net.state = .linked) (hstation : e.net.Station) :
    Mirror (rtl8192LinkChange e) := by
  have hchanged := linkChange_changed e
  refine ⟨?_, ?_, ?_, ?_⟩
  · intro i hi
    rw [hchanged.bssid i hi, if_pos hlinked, hchanged.net]
  · rw [hchanged.msr, hchanged.net]
  · rw [hchanged.rcr, hchanged.net]
    exact Net.setCbssid_iff hstation _
  · rw [hchanged.receiveConfig, if_pos hstation]

/-! ## Hardware variables -/

theorem setHwReg_bssid (val : Nat → Byte) (d : Device) :
    (∀ i < 6, (rtl8192eSetHwReg .bssid val d).regs (bssidr + i) =
      if i < 4 then val i else d.regs (bssidr + i)) ∧
      (rtl8192eSetHwReg .bssid val d).regs msr = d.regs msr ∧
      load32 (rtl8192eSetHwReg .bssid val d).regs rcr = load32 d.regs rcr := by
  -- The second write of the BSSID ends where the first one does.
  unfold rtl8192eSetHwReg
  dsimp only
  refine ⟨?_, ?_, ?_⟩
  · intro i hi
    by_cases h4 : i < 4
    · rw [if_pos h4]
      by_cases h2 : i < 2
      · rw [store_of_not_mem (Or.inl (by omega)), store_load32 h4, Nat.zero_add]
      · rw [show bssidr + i = bssidr + 2 + (i - 2) by omega, store_load16 (by omega),
          show 2 + (i - 2) = i by omega]
    · rw [if_neg h4, store_of_not_mem (Or.inr (by omega)), store_of_not_mem (Or.inr (by omega))]
  · rw [store_of_not_mem (by decide), store_of_not_mem (by decide)]
  · rw [load32_store_of_disjoint (by decide), load32_store_of_disjoint (by decide)]

theorem opModeMsr_le (opMode : BitVec 32) : opModeMsr opMode &&& msrLinkMask = opModeMsr opMode := by
  unfold opModeMsr
  split <;> decide

theorem setHwReg_mediaStatus (val : Nat → Byte) (d : Device) :
    (∀ i < 6, (rtl8192eSetHwReg .mediaStatus val d).regs (bssidr + i) = d.regs (bssidr + i)) ∧
      (rtl8192eSetHwReg .mediaStatus val d).regs msr &&& msrLinkMask = opModeMsr (load32 val 0) ∧
      load32 (rtl8192eSetHwReg .mediaStatus val d).regs rcr = load32 d.regs rcr := by
  obtain ⟨hbssid, hmsr, hrcr⟩ := store_msr d.regs (d.regs msr &&& 0xfc ||| opModeMsr (load32 val 0))
  refine ⟨hbssid, ?_, hrcr⟩
  exact (congrArg (· &&& msrLinkMask) hmsr).trans (and_linkMask (opModeMsr_le _) _)

/-- `RCR` after `HW_VAR_CECHK_BSSID`. -/
def checkBssid (type : Byte) (reg : BitVec 32) : BitVec 32 :=
  if type = 1 then reg ||| rcrCbssid else if type = 0 then reg &&& ~~~rcrCbssid else reg

theorem setHwReg_cechkBssid (val : Nat → Byte) (d : Device) :
    (∀ i < 6, (rtl8192eSetHwReg .cechkBssid val d).regs (bssidr + i) = d.regs (bssidr + i)) ∧
      (rtl8192eSetHwReg .cechkBssid val d).regs msr = d.regs msr ∧
      load32 (rtl8192eSetHwReg .cechkBssid val d).regs rcr =
        checkBssid (val 0) (load32 d.regs rcr) ∧
      (rtl8192eSetHwReg .cechkBssid val d).receiveConfig =
        load32 (rtl8192eSetHwReg .cechkBssid val d).regs rcr := by
  obtain ⟨hbssid, hmsr, hrcr⟩ := store_rcr d.regs (checkBssid (val 0) (load32 d.regs rcr))
  exact ⟨hbssid, hmsr, hrcr, hrcr.symm⟩

theorem setHwReg_bssid_mirror_iff (h : Mirror d) (val : Nat → Byte) :
    Mirror (rtl8192eSetHwReg .bssid val d) ↔ ∀ i < 4, val i = d.net.bssid i := by
  obtain ⟨hbssid, hmsr, hrcr⟩ := setHwReg_bssid val d
  constructor
  · intro hmirror i hi
    have hi' := (hbssid i (by omega)).symm.trans (hmirror.bssid i (by omega))
    rw [if_pos hi] at hi'
    exact hi'
  · intro hval
    refine ⟨?_, ?_, ?_, ?_⟩
    · intro i hi
      rw [hbssid i hi]
      split
      · next hi' => exact hval i hi'
      · exact h.bssid i hi
    · rw [hmsr]
      exact h.msr
    · rw [hrcr]
      exact h.cbssid
    · rw [hrcr]
      exact h.receiveConfig

theorem setHwReg_mediaStatus_mirror_iff (h : Mirror d) (val : Nat → Byte) :
    Mirror (rtl8192eSetHwReg .mediaStatus val d) ↔ opModeMsr (load32 val 0) = d.net.msrCode := by
  obtain ⟨hbssid, hmsr, hrcr⟩ := setHwReg_mediaStatus val d
  constructor
  · intro hmirror
    exact hmsr.symm.trans hmirror.msr
  · intro hcode
    refine ⟨?_, hmsr.trans hcode, ?_, ?_⟩
    · intro i hi
      exact (hbssid i hi).trans (h.bssid i hi)
    · rw [hrcr]
      exact h.cbssid
    · rw [hrcr]
      exact h.receiveConfig

theorem setHwReg_cechkBssid_mirror_iff (h : Mirror d) (val : Nat → Byte) :
    Mirror (rtl8192eSetHwReg .cechkBssid val d) ↔
      (val 0 = 1 → d.net.ChecksBssid) ∧ (val 0 = 0 → ¬ d.net.ChecksBssid) := by
  obtain ⟨hbssid, hmsr, hrcr, hconfig⟩ := setHwReg_cechkBssid val d
  have hiff : Mirror (rtl8192eSetHwReg .cechkBssid val d) ↔
      ((checkBssid (val 0) (load32 d.regs rcr)).getLsbD 23 = true ↔ d.net.ChecksBssid) := by
    constructor
    · intro hmirror
      rw [← hrcr]
      exact hmirror.cbssid
    · intro hbit
      refine ⟨?_, ?_, ?_, hconfig⟩
      · intro i hi
        exact (hbssid i hi).trans (h.bssid i hi)
      · exact (congrArg (· &&& msrLinkMask) hmsr).trans h.msr
      · rw [hrcr]
        exact hbit
  rw [hiff]
  unfold checkBssid
  by_cases hone : val 0 = 1
  · simp [hone, rcrCbssid]
  · by_cases hzero : val 0 = 0
    · simp [hzero, rcrCbssid]
    · rw [if_neg hone, if_neg hzero]
      exact ⟨fun _ => ⟨fun h1 => absurd h1 hone, fun h0 => absurd h0 hzero⟩, fun _ => h.cbssid⟩

/-! ## Disconnecting -/

theorem toNat_load32_mod (m : Nat → Byte) : (load32 m 0).toNat % 256 = (m 0).toNat := by
  have h := congrArg BitVec.toNat (extract_load32 m 0 (show 0 < 4 by decide))
  rw [BitVec.extractLsb'_toNat] at h
  simpa using h

theorem opModeMsr_noLink (stack : Nat → Byte) :
    opModeMsr (load32 (local8 rtOpModeNoLink stack) 0) = msrLinkNone := by
  have h := toNat_load32_mod (local8 rtOpModeNoLink stack)
  have h3 : (local8 rtOpModeNoLink stack 0).toNat = 3 := rfl
  unfold opModeMsr
  split
  · omega
  · omega
  · omega
  · rfl

theorem mgntDisconnectIBSS_mirror_iff (h : Mirror d) (stack : Nat → Byte) :
    Mirror (mgntDisconnectIBSS stack d) ↔ d.net.bssid 4 = 0x55 ∧ d.net.bssid 5 = 0x55 := by
  let net : Net :=
    { d.net with state := .nolink, bssid := fun i => if i < 6 then 0x55 else d.net.bssid i }
  let d1 := rtl8192eSetHwReg .bssid net.bssid { d with net := net }
  let d2 := rtl8192eSetHwReg .mediaStatus (local8 rtOpModeNoLink stack) d1
  obtain ⟨hbssid1, -, -⟩ := setHwReg_bssid net.bssid { d with net := net }
  obtain ⟨hbssid2, hmsr2, -⟩ := setHwReg_mediaStatus (local8 rtOpModeNoLink stack) d1
  obtain ⟨hbssid3, hmsr3, hrcr3, hconfig3⟩ := setHwReg_cechkBssid (local8 0 stack) d2
  have hnet : (mgntDisconnectIBSS stack d).net = net := rfl
  have hbssid : ∀ i < 6, (mgntDisconnectIBSS stack d).regs (bssidr + i) =
      if i < 4 then 0x55 else d.net.bssid i := by
    intro i hi
    refine ((hbssid3 i hi).trans ((hbssid2 i hi).trans (hbssid1 i hi))).trans ?_
    split
    · exact if_pos hi
    · exact h.bssid i hi
  have hmsr : (mgntDisconnectIBSS stack d).regs msr &&& msrLinkMask = net.msrCode :=
    ((congrArg (· &&& msrLinkMask) hmsr3).trans hmsr2).trans (opModeMsr_noLink stack)
  have hchecks : ¬ net.ChecksBssid := fun hc => by cases hc.2
  constructor
  · intro hmirror
    have hbytes : ∀ i, 4 ≤ i → i < 6 → d.net.bssid i = 0x55 := by
      intro i hle hi
      have hi' := (hbssid i hi).symm.trans (hmirror.bssid i hi)
      rw [if_neg (by omega), hnet] at hi'
      exact hi'.trans (if_pos hi)
    exact ⟨hbytes 4 (by decide) (by decide), hbytes 5 (by decide) (by decide)⟩
  · rintro ⟨h4, h5⟩
    refine ⟨?_, hmsr, ?_, hconfig3⟩
    · intro i hi
      rw [hbssid i hi, hnet]
      refine Eq.trans ?_ (if_pos hi).symm
      split
      · rfl
      · next hge =>
        have hcases : i = 4 ∨ i = 5 := by omega
        rcases hcases with rfl | rfl
        · exact h4
        · exact h5
    · have hclear : (checkBssid 0 (load32 d2.regs rcr)).getLsbD 23 = false := by
        simp [checkBssid, rcrCbssid]
      rw [hnet]
      refine ⟨fun hset => ?_, fun hc => absurd hc hchecks⟩
      rw [show load32 (mgntDisconnectIBSS stack d).regs rcr = _ from hrcr3] at hset
      exact absurd (hset.symm.trans hclear) Bool.noConfusion

theorem mgntDisconnectAP_not_mirror (h : Mirror d) (hlinked : d.net.state = .linked)
    (hinfra : d.net.iwMode = .infra) (stack : Nat → Byte) : ¬ Mirror (mgntDisconnectAP stack d) := by
  obtain ⟨-, hmsr, -, -⟩ := setHwReg_cechkBssid (local8 0 stack) d
  intro hmirror
  have hmanaged : d.net.msrCode = msrLinkManaged := by
    unfold Net.msrCode
    rw [if_pos hlinked, hinfra]
  have hcode := ((congrArg (· &&& msrLinkMask) hmsr).trans h.msr).symm.trans hmirror.msr
  have hnone : (mgntDisconnectAP stack d).net.msrCode = msrLinkNone := if_neg (fun hl => by cases hl)
  rw [hmanaged, hnone] at hcode
  exact absurd hcode (by decide)

/-! ## Runs -/

/-- The step leaves nothing of the link that the registers do not show. -/
def Shows (d : Device) : Event → Prop
  | .linkChange net => (net.state ≠ .linked → ∀ i < 6, net.bssid i = d.net.bssid i) ∧
      (¬ net.Station → ¬ d.net.ChecksBssid)
  | .setHwReg .bssid val => ∀ i < 4, val i = d.net.bssid i
  | .setHwReg .mediaStatus val => opModeMsr (load32 val 0) = d.net.msrCode
  | .setHwReg .cechkBssid val =>
      (val 0 = 1 → d.net.ChecksBssid) ∧ (val 0 = 0 → ¬ d.net.ChecksBssid)
  | .mgntDisconnect _ => d.net.state = .linked → d.net.iwMode ≠ .infra ∧
      (d.net.iwMode = .adhoc → d.net.bssid 4 = 0x55 ∧ d.net.bssid 5 = 0x55)
  | .startIbss net => ¬ net.Station → ¬ d.net.ChecksBssid

theorem mgntDisconnect_mirror_iff (h : Mirror d) (stack : Nat → Byte) :
    Shows d (.mgntDisconnect stack) ↔ Mirror (mgntDisconnect stack d) := by
  unfold mgntDisconnect Shows
  by_cases hlinked : d.net.state = .linked
  · rw [if_pos hlinked]
    by_cases hadhoc : d.net.iwMode = .adhoc
    · have hmode : (mgntDisconnectIBSS stack d).net.iwMode = .adhoc := hadhoc
      simp only [if_pos hadhoc, hmode, reduceCtorEq, if_false]
      rw [mgntDisconnectIBSS_mirror_iff h]
      simp [hlinked, hadhoc]
    · simp only [if_neg hadhoc]
      by_cases hinfra : d.net.iwMode = .infra
      · rw [if_pos hinfra]
        constructor
        · intro hshows
          exact absurd hinfra (hshows hlinked).1
        · intro hmirror
          exact absurd hmirror (mgntDisconnectAP_not_mirror h hlinked hinfra stack)
      · rw [if_neg hinfra]
        exact ⟨fun _ => h, fun _ _ => ⟨hinfra, fun ha => absurd ha hadhoc⟩⟩
  · rw [if_neg hlinked]
    exact ⟨fun _ => h, fun _ hl => absurd hl hlinked⟩

theorem step_mirror_iff (h : Mirror d) (e : Event) : Shows d e ↔ Mirror (step d e) := by
  cases e with
  | linkChange net =>
    exact (linkChange_mirror_iff h (e := { d with net := net }) (fun _ _ => rfl) rfl rfl).symm
  | setHwReg v val =>
    cases v with
    | bssid => exact (setHwReg_bssid_mirror_iff h val).symm
    | mediaStatus => exact (setHwReg_mediaStatus_mirror_iff h val).symm
    | cechkBssid => exact (setHwReg_cechkBssid_mirror_iff h val).symm
  | mgntDisconnect stack => exact mgntDisconnect_mirror_iff h stack
  | startIbss net =>
    let val : Nat → Byte := fun i => (stateNumber net.state).extractLsb' (8 * i) 8
    obtain ⟨hbssid, -, hrcr⟩ := setHwReg_mediaStatus val { d with net := net }
    have hiff := linkChange_mirror_iff h
      (e := { rtl8192eSetHwReg .mediaStatus val { d with net := net } with
        net := { net with state := .linked } }) hbssid hrcr rfl
    constructor
    · intro hshows
      exact hiff.mpr ⟨fun hnot => absurd rfl hnot, hshows⟩
    · intro hmirror
      exact (hiff.mp hmirror).2

end

/-- In every run from a state in which the registers mirror the link they do so after every step,
exactly when no step leaves a part behind: a BSSID or a `CBSSID` bit that a link change does not
write, a variable with another value than the link, the end of an infrastructure link, or that of
an IBSS link whose BSSID does not end in 55:55. -/
theorem mirror_iff (d : Device) (h : Mirror d) (es : List Event) :
    Meets step Shows d es ↔ Meets step (fun d e => Mirror (step d e)) d es := by
  apply meets_congr (I := Mirror)
  · intro d e hd he
    exact (step_mirror_iff hd e).mp he
  · intro d e hd
    exact step_mirror_iff hd e
  · exact h

/-- The station without a link, the registers all zero. -/
def noLink : Device := ⟨fun _ => 0, 0, ⟨.infra, .nolink, fun _ => 0, 100⟩⟩

def linkedTo (iwMode : IwMode) : Net :=
  ⟨iwMode, .linked, fun i => [0x02, 0, 0, 0, 0, 0x01].getD i 0, 100⟩

theorem noLink_mirror : Mirror noLink where
  bssid := fun _ _ => rfl
  msr := by decide
  cbssid := by decide
  receiveConfig := by decide

/-- The station joins a network, sets the BSSID again, and leaves by a link change. -/
theorem mirror_join_leave :
    Meets step Shows noLink
        [.linkChange (linkedTo .infra), .setHwReg .bssid (linkedTo .infra).bssid,
          .linkChange { linkedTo .infra with state := .nolink }] ↔
      Meets step (fun d e => Mirror (step d e)) noLink
        [.linkChange (linkedTo .infra), .setHwReg .bssid (linkedTo .infra).bssid,
          .linkChange { linkedTo .infra with state := .nolink }] :=
  mirror_iff noLink noLink_mirror _

/-- After `MgntDisconnect` the link bits of a managed station stay. -/
theorem not_always_mirror : ¬ ∀ (d : Device), Mirror d → ∀ es : List Event,
    Meets step (fun d e => Mirror (step d e)) d es := by
  intro h
  obtain ⟨-, hdisconnected, -⟩ := h noLink noLink_mirror
    [.linkChange (linkedTo .infra), .mgntDisconnect fun _ => 0]
  exact absurd hdisconnected.msr (by decide +kernel)

end Rtl8190.Link
