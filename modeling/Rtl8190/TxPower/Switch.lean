import Rtl8190.TxPower.Lanes

/-!
# Transmit power on a channel switch

`rtl8192_SetTxPowerLevel` reads only the tables that an EEPROM of the first type fills, and leaves
the difference of path C as it is.
-/

open Rtl8190.Lanes
open Rtl8190.Power (RfType)

namespace Rtl8190.TxPower

variable {p : Priv} {e : Eeprom} {channel : Nat}

/-- The values written to the power registers, in order -/
def dwords (ws : List Write) : List (Nat × BitVec 32) :=
  ws.filterMap fun w =>
    match w with
    | .dword addr value => some (addr, value)
    | .bbReg _ _ _ => none

def Priv.withOffsets (p : Priv) (cck : BitVec 32) (mcs : Fin 2 → BitVec 32) : Priv :=
  { p with cckTxPowerLevelOriginalOffset := cck, mcsTxPowerLevelOriginalOffset := mcs }

/-- A channel switch writes what `rtl8192_phy_setTxPower` does, whatever the offsets are that the
chip holds. -/
def SameAgc (p : Priv) (channel : Nat) : Prop :=
  ∀ cck mcs, dwords (rtl8192SetTxPowerLevel (p.withOffsets cck mcs) channel).2 =
    dwords (rtl8192PhySetTxPower (p.withOffsets cck mcs) channel).2

def Priv.channelDiff (p : Priv) (channel : Nat) : Byte :=
  p.tables.txPowerLevelOFDM24GC (channel - 1) - p.tables.txPowerLevelOFDM24GA (channel - 1)

def Priv.pathCck (p : Priv) (channel : Nat) : Byte :=
  if p.rfType = .rf1T2R then p.tables.txPowerLevelCCKC (channel - 1)
  else p.tables.txPowerLevelCCKA (channel - 1)

def Priv.pathOfdm (p : Priv) (channel : Nat) : Byte :=
  if p.rfType = .rf1T2R then p.tables.txPowerLevelOFDM24GC (channel - 1)
  else p.tables.txPowerLevelOFDM24GA (channel - 1)

def SameDiff (p : Priv) (channel : Nat) : Prop :=
  p.rfType = .rf2T4R → (p.rfCTxPwDiff.toInt ≤ 0 ∧ (p.channelDiff channel).toInt ≤ 0) ∨
    p.rfCTxPwDiff = p.channelDiff channel

/-- The difference of the channel leaves no choice for the power. -/
def Saturated (p : Priv) (channel : Nat) : Prop :=
  p.rfType = .rf2T4R ∧ (p.channelDiff channel).toInt ≥ 0x24

/-- With an EEPROM of the second type, the tables of a channel switch are zero. -/
def ZeroLevels (p : Priv) (channel : Nat) : Prop :=
  p.pathOfdm channel = 0 ∧ (p.pathCck channel = 0 ∨ p.CckFixed)

instance (p : Priv) (channel : Nat) : Decidable (SameDiff p channel) :=
  inferInstanceAs (Decidable (p.rfType = .rf2T4R →
    (p.rfCTxPwDiff.toInt ≤ 0 ∧ (p.channelDiff channel).toInt ≤ 0) ∨
      p.rfCTxPwDiff = p.channelDiff channel))

instance (p : Priv) (channel : Nat) : Decidable (Saturated p channel) :=
  inferInstanceAs (Decidable (p.rfType = .rf2T4R ∧ (p.channelDiff channel).toInt ≥ 0x24))

instance (p : Priv) (channel : Nat) : Decidable (ZeroLevels p channel) :=
  inferInstanceAs (Decidable (p.pathOfdm channel = 0 ∧ (p.pathCck channel = 0 ∨ p.CckFixed)))

/-! ## The limit under two differences -/

/-- The state after `rtl8192_phy_setTxPower` has taken the difference of the channel -/
def Priv.withDiff (p : Priv) (diff : Byte) : Priv := { p with rfCTxPwDiff := diff }

theorem differs_withDiff (diff : Byte) :
    (p.withDiff diff).Differs ↔ p.rfType = .rf2T4R ∧ diff.toInt > 0 := Iff.rfl

theorem ne_zero_of_differs (h : p.Differs) : p.rfCTxPwDiff ≠ 0 := by
  intro hzero
  have hpos := h.2
  rw [hzero] at hpos
  exact absurd hpos (by decide)

theorem limited_full (p : Priv) :
    limited p 0x24 = 0x24 - if p.Differs then p.rfCTxPwDiff else 0 := by
  have hcap : capped 0x24 = 0x24 := rfl
  split
  · rename_i hd
    have hne := ne_zero_of_differs hd
    rw [limited_of_differs hd, hcap, if_pos]
    rw [show (0x24 : Byte).toNat = 0x24 by rfl]
    have hnat : p.rfCTxPwDiff.toNat ≠ 0 := fun h => hne (BitVec.eq_of_toNat_eq h)
    omega
  · rename_i hd
    rw [limited_of_not_differs hd, hcap]
    rfl

theorem limited_withDiff {diff : Byte}
    (h : p.rfType = .rf2T4R → (p.rfCTxPwDiff.toInt ≤ 0 ∧ diff.toInt ≤ 0) ∨ p.rfCTxPwDiff = diff)
    (x : Byte) : limited (p.withDiff diff) x = limited p x := by
  by_cases hrf : p.rfType = .rf2T4R
  · rcases h hrf with ⟨hle, hle'⟩ | heq
    · rw [limited_of_not_differs fun hd => absurd ((differs_withDiff diff).mp hd).2 (by omega),
        limited_of_not_differs fun hd => absurd hd.2 (by omega)]
    · rw [← heq]
      rfl
  · rw [limited_of_not_differs fun hd => hrf ((differs_withDiff diff).mp hd).1,
      limited_of_not_differs fun hd => hrf hd.1]

theorem sameDiff_of_limited {diff : Byte} (hrf : p.rfType = .rf2T4R)
    (h : limited p 0x24 = limited (p.withDiff diff) 0x24) :
    (p.rfCTxPwDiff.toInt ≤ 0 ∧ diff.toInt ≤ 0) ∨ p.rfCTxPwDiff = diff := by
  have hsub : ∀ a b : Byte, 0x24 - a = 0x24 - b → a = b := by
    intro a b hab
    bv_omega
  rw [limited_full, limited_full] at h
  have heff := hsub _ _ h
  by_cases hd : p.Differs
  · rw [if_pos hd] at heff
    have hd' : (p.withDiff diff).Differs := by
      by_contra hd'
      rw [if_neg hd'] at heff
      exact ne_zero_of_differs hd heff
    rw [if_pos hd'] at heff
    exact Or.inr heff
  · rw [if_neg hd] at heff
    have hd' : ¬ (p.withDiff diff).Differs := by
      intro hd'
      rw [if_pos hd'] at heff
      exact ne_zero_of_differs hd' heff.symm
    exact Or.inl ⟨Int.not_lt.mp fun hpos => hd ⟨hrf, hpos⟩, Int.not_lt.mp fun hpos => hd' ⟨hrf, hpos⟩⟩

/-! ## The words under two levels -/

theorem limited_of_saturated (h : p.Differs) (hbig : p.rfCTxPwDiff.toInt ≥ 0x24) (x y : Byte) :
    limited p x = limited p y := by
  -- A difference that leaves no choice gives all bytes the same power.
  have hnat : 0x24 ≤ p.rfCTxPwDiff.toNat := by
    rw [BitVec.toInt_eq_toNat_cond] at hbig
    split at hbig <;> omega
  have hconst : ∀ z : Byte, limited p z = 0x24 - p.rfCTxPwDiff := by
    intro z
    rw [limited_of_differs h]
    split
    · rfl
    · rename_i hle
      have hz : capped z = 0 := BitVec.eq_of_toNat_eq (by simp; omega)
      have hd : p.rfCTxPwDiff = 0x24 := by
        apply BitVec.eq_of_toNat_eq
        rw [hz] at hle
        simp at hle ⊢
        omega
      rw [hz, hd]
      rfl
  rw [hconst x, hconst y]

theorem limited_eq_zero_iff (h : p.Differs → p.rfCTxPwDiff.toInt < 0x24) (x : Byte) :
    limited p x = limited p 0 ↔ x = 0 := by
  -- Elsewhere the power of zero is zero only for a level of zero.
  have hfit : p.DiffFits ∧ 0 < p.ceiling := by
    unfold Priv.DiffFits Priv.ceiling
    by_cases hd : p.Differs
    · have hlt := h hd
      have hpos := hd.2
      rw [BitVec.toInt_eq_toNat_cond] at hlt hpos
      rw [if_pos hd]
      split at hlt <;> omega
    · simp [hd]
  rw [← BitVec.toNat_inj, toNat_limited hfit.1, toNat_limited hfit.1, ← BitVec.toNat_inj]
  simp only [BitVec.toNat_zero, BitVec.ofNat_eq_ofNat]
  have hceil := hfit.2
  omega

theorem dwords_setRF8256 (p : Priv) (cck ofdm : Byte) :
    dwords (setRF8256 p cck ofdm).2 =
      [(cckTXAGC, (limited p (lane (cckTxAGC p cck) 1)).setWidth 32 <<< 8 |||
          (limited p (lane (cckTxAGC p cck) 0)).setWidth 32),
        (mcsTXAGC, limitedWord p (fourTimes ofdm + p.mcsTxPowerLevelOriginalOffset 0)),
        (mcsTXAGC + 4, limitedWord p (ofdmTxAGC2 p ofdm))] := rfl

theorem dwords_setTxPowerLevel (p : Priv) (channel : Nat) :
    dwords (rtl8192SetTxPowerLevel p channel).2 =
      dwords (setRF8256 p (p.tables.txPowerLevelCCK (channel - 1))
        (p.tables.txPowerLevelOFDM24G (channel - 1))).2 := rfl

/-- With an EEPROM of the second type, the difference and the levels are those of the paths. -/
theorem dwords_phySetTxPower (h : p.epromtype = .eeprom93C56)
    (hrf : p.rfType = .rf1T2R ∨ p.rfType = .rf2T4R) (channel : Nat) :
    dwords (rtl8192PhySetTxPower p channel).2 =
      dwords (setRF8256 (if p.rfType = .rf2T4R then p.withDiff (p.channelDiff channel) else p)
        (p.pathCck channel) (p.pathOfdm channel)).2 := by
  unfold rtl8192PhySetTxPower Priv.pathCck Priv.pathOfdm
  rcases hrf with hrf | hrf
  · rw [h, hrf]
    rfl
  · rw [h, hrf]
    rfl

/-! ## The two functions -/

/-- The state whose difference `rtl8192_phy_setTxPower` uses -/
def Priv.phyPriv (p : Priv) (channel : Nat) : Priv :=
  if p.rfType = .rf2T4R then p.withDiff (p.channelDiff channel) else p

/-- An EEPROM of the second type leaves the tables of a channel switch empty. -/
structure Priv.SecondType (p : Priv) : Prop where
  type : p.epromtype = .eeprom93C56
  rf : p.rfType = .rf1T2R ∨ p.rfType = .rf2T4R
  cck : ∀ i, p.tables.txPowerLevelCCK i = 0
  ofdm : ∀ i, p.tables.txPowerLevelOFDM24G i = 0

theorem sameAgc_iff_words (h : p.SecondType) :
    SameAgc p channel ↔ ∀ cck mcs,
      dwords (setRF8256 (p.withOffsets cck mcs) 0 0).2 =
        dwords (setRF8256 ((p.phyPriv channel).withOffsets cck mcs) (p.pathCck channel)
          (p.pathOfdm channel)).2 := by
  unfold SameAgc
  refine forall₂_congr fun cck mcs => ?_
  rw [dwords_setTxPowerLevel, dwords_phySetTxPower (p := p.withOffsets cck mcs) h.type h.rf]
  have hcck : (p.withOffsets cck mcs).tables.txPowerLevelCCK (channel - 1) = 0 := h.cck _
  have hofdm : (p.withOffsets cck mcs).tables.txPowerLevelOFDM24G (channel - 1) = 0 := h.ofdm _
  rw [hcck, hofdm]
  have hphy : (p.phyPriv channel).withOffsets cck mcs =
      if (p.withOffsets cck mcs).rfType = .rf2T4R then
        (p.withOffsets cck mcs).withDiff ((p.withOffsets cck mcs).channelDiff channel)
      else p.withOffsets cck mcs := by
    unfold Priv.phyPriv
    split <;> rename_i hrf
    · exact (if_pos hrf).symm
    · exact (if_neg hrf).symm
  rw [hphy]
  rfl

theorem limited_phyPriv (h : SameDiff p channel) (x : Byte) :
    limited (p.phyPriv channel) x = limited p x := by
  unfold Priv.phyPriv
  split
  · exact limited_withDiff h x
  · rfl

theorem words_eq_of_limited {r : Priv} (hr : ∀ x, limited r x = limited p x)
    {cck cck' ofdm ofdm' : Byte}
    (hcck : ∀ i < 2, limited p (lane (cckTxAGC p cck) i) = limited p (lane (cckTxAGC r cck') i))
    (hmcs : ∀ i < 4, limited p (lane (fourTimes ofdm + p.mcsTxPowerLevelOriginalOffset 0) i) =
      limited p (lane (fourTimes ofdm' + r.mcsTxPowerLevelOriginalOffset 0) i))
    (hmcs4 : ∀ i < 4, limited p (lane (ofdmTxAGC2 p ofdm) i) =
      limited p (lane (ofdmTxAGC2 r ofdm') i)) :
    dwords (setRF8256 p cck ofdm).2 = dwords (setRF8256 r cck' ofdm').2 := by
  have hword : ∀ {x y : BitVec 32},
      (∀ i < 4, limited p (lane x i) = limited p (lane y i)) → limitedWord p x = limitedWord r y :=
    fun h => word_congr fun i hi => (h i hi).trans (hr _).symm
  rw [dwords_setRF8256, dwords_setRF8256, hword hmcs, hword hmcs4, hr, hr, hcck 0 (by omega),
    hcck 1 (by omega)]

theorem phyPriv_cckTxAGC (cck : BitVec 32) (mcs : Fin 2 → BitVec 32) (level : Byte) :
    cckTxAGC ((p.phyPriv channel).withOffsets cck mcs) level =
      cckTxAGC (p.withOffsets cck mcs) level := by
  unfold Priv.phyPriv
  split <;> rfl

theorem phyPriv_ofdmTxAGC2 (cck : BitVec 32) (mcs : Fin 2 → BitVec 32) (level : Byte) :
    ofdmTxAGC2 ((p.phyPriv channel).withOffsets cck mcs) level =
      ofdmTxAGC2 (p.withOffsets cck mcs) level := by
  unfold Priv.phyPriv
  split <;> rfl

theorem cckTxAGC_of_fixed (h : p.CckFixed) (level : Byte) : cckTxAGC p level = 0x2222 := by
  unfold cckTxAGC
  dsimp only
  rw [if_pos h.1, if_pos h.2]

theorem differs_of_saturated (h : SameDiff p channel) (hs : Saturated p channel) :
    p.Differs ∧ p.rfCTxPwDiff.toInt ≥ 0x24 := by
  rcases h hs.1 with ⟨hle, hle'⟩ | heq
  · exact absurd hs.2 (by omega)
  · have hbig := hs.2
    rw [← heq] at hbig
    exact ⟨⟨hs.1, by omega⟩, hbig⟩

theorem sameAgc_of_agrees (h : p.SecondType) (hd : SameDiff p channel)
    (hl : Saturated p channel ∨ ZeroLevels p channel) : SameAgc p channel := by
  rw [sameAgc_iff_words h]
  intro cck mcs
  have hlim : ∀ x, limited ((p.phyPriv channel).withOffsets cck mcs) x =
      limited (p.withOffsets cck mcs) x := fun x => limited_phyPriv hd x
  rcases hl with hs | ⟨hofdm, hcck⟩
  · obtain ⟨hdiff, hbig⟩ := differs_of_saturated hd hs
    have hconst : ∀ x y, limited (p.withOffsets cck mcs) x = limited (p.withOffsets cck mcs) y :=
      fun x y => limited_of_saturated hdiff hbig x y
    exact words_eq_of_limited hlim (fun _ _ => hconst _ _) (fun _ _ => hconst _ _)
      (fun _ _ => hconst _ _)
  · rw [hofdm]
    refine words_eq_of_limited hlim (fun i _ => ?_) (fun i _ => rfl) (fun i _ => ?_)
    · rw [phyPriv_cckTxAGC]
      rcases hcck with hcck | hfixed
      · rw [hcck]
      · rw [cckTxAGC_of_fixed (p := p.withOffsets cck mcs) hfixed,
          cckTxAGC_of_fixed (p := p.withOffsets cck mcs) hfixed]
    · rw [phyPriv_ofdmTxAGC2]

theorem bytes_of_dwords {r : Priv} {cck cck' ofdm ofdm' : Byte}
    (h : dwords (setRF8256 p cck ofdm).2 = dwords (setRF8256 r cck' ofdm').2) :
    limited p (lane (cckTxAGC p cck) 0) = limited r (lane (cckTxAGC r cck') 0) ∧
      limited p (lane (fourTimes ofdm + p.mcsTxPowerLevelOriginalOffset 0) 0) =
        limited r (lane (fourTimes ofdm' + r.mcsTxPowerLevelOriginalOffset 0) 0) := by
  rw [dwords_setRF8256, dwords_setRF8256] at h
  simp only [List.cons.injEq, Prod.mk.injEq, true_and, and_true] at h
  obtain ⟨hcck, hmcs, -⟩ := h
  constructor
  · have hlane := congrArg (lane · 0) hcck
    rw [lane_twoBytes _ _ 0 (by omega), lane_twoBytes _ _ 0 (by omega)] at hlane
    exact hlane
  · have hlane := congrArg (lane · 0) hmcs
    rw [lane_limitedWord _ (by omega), lane_limitedWord _ (by omega)] at hlane
    exact hlane

theorem toNat_lane_fourTimes_add (level : Byte) (x : BitVec 32) :
    (lane (fourTimes level + x) 0).toNat = (level.toNat + (lane x 0).toNat) % 256 := by
  have hpacks := (packs_word fun _ => level).add (packs_lanes x)
  exact hpacks.toNat_lane (by omega)

theorem lane_twice (level : Byte) : lane (twice level) 0 = level := by
  have hpacks := (packs_twice level).toNat_lane (i := 0) (by omega)
  apply BitVec.eq_of_toNat_eq
  rw [hpacks]
  exact Nat.mod_eq_of_lt level.isLt

theorem limited_of_full {x : Byte} (h : 0x24 ≤ x.toNat) : limited p x = limited p 0x24 := by
  have hcap : capped x = capped 0x24 := by
    apply BitVec.eq_of_toNat_eq
    rw [toNat_capped, toNat_capped, Nat.min_eq_right h]
    rfl
  unfold limited
  rw [hcap]

def offsetOver (level : Byte) : Byte := if level.toNat ≤ 0x24 then 0x24 else 0xff

theorem offsetOver_full (level : Byte) :
    0x24 ≤ (offsetOver level).toNat ∧ 0x24 ≤ (level.toNat + (offsetOver level).toNat) % 256 := by
  have hlt := level.isLt
  unfold offsetOver
  split
  · rw [show (0x24 : Byte).toNat = 0x24 by rfl]
    omega
  · rw [show (0xff : Byte).toNat = 0xff by rfl]
    omega

theorem sameDiff_of_sameAgc (h : p.SecondType) (hs : SameAgc p channel) : SameDiff p channel := by
  intro hrf
  rw [sameAgc_iff_words h] at hs
  have hphy : p.phyPriv channel = p.withDiff (p.channelDiff channel) := if_pos hrf
  have hbytes := (bytes_of_dwords (hs 0 fun _ => word fun _ => offsetOver (p.pathOfdm channel))).2
  obtain ⟨hover, hover'⟩ := offsetOver_full (p.pathOfdm channel)
  have hoff : lane (word fun _ => offsetOver (p.pathOfdm channel)) 0 =
      offsetOver (p.pathOfdm channel) := lane_word _ (by omega)
  have hleft : 0x24 ≤ (lane (fourTimes 0 + word fun _ => offsetOver (p.pathOfdm channel)) 0).toNat := by
    rw [toNat_lane_fourTimes_add, hoff, show (0 : Byte).toNat = 0 by rfl, Nat.zero_add,
      Nat.mod_eq_of_lt (by omega)]
    exact hover
  have hright : 0x24 ≤ (lane (fourTimes (p.pathOfdm channel) +
      word fun _ => offsetOver (p.pathOfdm channel)) 0).toNat := by
    rw [toNat_lane_fourTimes_add, hoff]
    exact hover'
  have hfull := (limited_of_full hleft).symm.trans (hbytes.trans (limited_of_full hright))
  rw [hphy] at hfull
  exact sameDiff_of_limited hrf hfull

theorem levels_of_sameAgc (h : p.SecondType) (hs : SameAgc p channel) (hsat : ¬ Saturated p channel) :
    ZeroLevels p channel := by
  have hd := sameDiff_of_sameAgc h hs
  have hsmall : p.Differs → p.rfCTxPwDiff.toInt < 0x24 := by
    intro hdiff
    rcases hd hdiff.1 with ⟨hle, -⟩ | heq
    · omega
    · rw [heq]
      exact Int.not_le.mp fun hbig => hsat ⟨hdiff.1, hbig⟩
  rw [sameAgc_iff_words h] at hs
  -- The offset of CCK takes away what the low power state adds.
  have hbytes := bytes_of_dwords
    (hs (if p.bDynamicTxLowPower then - twice p.cckPwEnl else 0#32) fun _ => 0#32)
  constructor
  · have hofdm := hbytes.2.trans (limited_phyPriv hd _)
    have hzero : lane (fourTimes 0 + 0#32) 0 = 0 := by decide
    have hlevel : lane (fourTimes (p.pathOfdm channel) + 0#32) 0 = p.pathOfdm channel := by
      rw [BitVec.add_zero]
      exact lane_word _ (by omega)
    exact (limited_eq_zero_iff hsmall _).mp
      ((congrArg (limited p) hlevel).symm.trans (hofdm.symm.trans (congrArg (limited p) hzero)))
  · by_cases hfixed : p.CckFixed
    · exact Or.inr hfixed
    · have hcck := hbytes.1.trans (limited_phyPriv hd _)
      rw [phyPriv_cckTxAGC] at hcck
      have hword : ∀ level, cckTxAGC (p.withOffsets
          (if p.bDynamicTxLowPower then - twice p.cckPwEnl else 0#32) fun _ => 0#32) level = twice level := by
        intro level
        unfold cckTxAGC Priv.withOffsets
        dsimp only
        split
        · rename_i hlow
          rw [if_neg fun hid => hfixed ⟨hlow, hid⟩, BitVec.add_assoc, BitVec.add_left_neg,
            BitVec.add_zero]
        · rw [BitVec.add_zero]
      rw [hword, hword, lane_twice, lane_twice] at hcck
      exact Or.inl ((limited_eq_zero_iff hsmall _).mp hcck.symm)

/-! ## From the EEPROM -/

def initial (e : Eeprom) (p : Priv) : Priv := rtl8192ReadEepromInfo e { p with tables := Tables.zero }

theorem initial_secondType (h : e.type = .eeprom93C56) : (initial e p).SecondType := by
  unfold initial rtl8192ReadEepromInfo
  cases e.version <;> constructor
  all_goals simp [h, Eeprom.tables, Tables.zero]
  exact (Classical.em _).symm

/-- The second type of EEPROM is filled, but a channel switch does not read its tables. -/
def Agrees (p : Priv) (channel : Nat) : Prop :=
  SameDiff p channel ∧ (Saturated p channel ∨ ZeroLevels p channel)

instance (p : Priv) (channel : Nat) : Decidable (Agrees p channel) :=
  inferInstanceAs (Decidable (SameDiff p channel ∧ (Saturated p channel ∨ ZeroLevels p channel)))

theorem agrees_of_unread (h : e.version = .bd) : Agrees (initial e p) channel := by
  have hrf : (initial e p).rfType = .rf1T2R := by
    simp [initial, rtl8192ReadEepromInfo, h]
  have hzero : ZeroLevels (initial e p) channel := by
    simp [ZeroLevels, Priv.pathOfdm, Priv.pathCck, initial, rtl8192ReadEepromInfo, h, Tables.zero]
  refine ⟨fun hrf' => ?_, Or.inr hzero⟩
  rw [hrf] at hrf'
  cases hrf'

/-- A channel switch writes the power of `rtl8192_phy_setTxPower` for an EEPROM of the first type
and for one that is not read, and else only where zeros and an old difference give the same. -/
theorem switch_power_iff (e : Eeprom) (p : Priv) (channel : Nat) :
    SameAgc (initial e p) channel ↔
      e.type = .eeprom93C46 ∨ e.version = .bd ∨ Agrees (initial e p) channel := by
  constructor
  · intro hs
    cases htype : e.type with
    | eeprom93C46 => exact Or.inl rfl
    | eeprom93C56 =>
      have hsecond := initial_secondType (p := p) htype
      refine Or.inr (Or.inr ⟨sameDiff_of_sameAgc hsecond hs, ?_⟩)
      exact or_iff_not_imp_left.mpr (levels_of_sameAgc hsecond hs)
  · intro h
    cases htype : e.type with
    | eeprom93C46 =>
      have hfirst : (initial e p).epromtype = .eeprom93C46 := by
        unfold initial rtl8192ReadEepromInfo
        cases e.version <;> exact htype
      intro cck mcs
      unfold rtl8192PhySetTxPower
      have hoff : ((initial e p).withOffsets cck mcs).epromtype = .eeprom93C46 := hfirst
      rw [hoff]
      rfl
    | eeprom93C56 =>
      have hagrees : Agrees (initial e p) channel := by
        rcases h with h | h | h
        · rw [htype] at h
          cases h
        · exact agrees_of_unread h
        · exact h
      exact sameAgc_of_agrees (initial_secondType htype) hagrees.1 hagrees.2

/-- An EEPROM of the second type whose levels are all 0x10 -/
def evenEeprom : Eeprom where
  type := .eeprom93C56
  read := fun a => if a = 0 then 0x8129 else if a = 0x3e then 0x0400 else 0x1010

example : dwords (rtl8192PhySetTxPower (initial evenEeprom farApart) 6).2 =
    [(0x348, 0x1010), (0x340, 0x1a1c1d1f), (0x344, 0x16171819)] := by decide

theorem not_always_same_power : ¬ ∀ (e : Eeprom) (p : Priv) (channel : Nat),
    1 ≤ channel → channel ≤ 14 →
      dwords (rtl8192SetTxPowerLevel (initial e p) channel).2 =
        dwords (rtl8192PhySetTxPower (initial e p) channel).2 := by
  intro h
  exact absurd (h evenEeprom { farApart with rfCTxPwDiff := 0 } 6 (by decide) (by decide)) (by decide)

end Rtl8190.TxPower
