import Rtl8190.TxPower.Code

/-!
# The lanes of the transmit power

What each byte of `CCK_TXAGC` and `MCS_TXAGC` is to be, and when it is: the words are added before
their bytes are taken apart, so a byte gets what the byte below it has too much.
-/

open Rtl8190.Lanes
open Rtl8190.Power (RfType)

namespace Rtl8190.TxPower

variable {p : Priv} {i : Nat}

/-! ## What a lane is to be -/

/-- Path C gets another power than path A, and a greater one. -/
def Priv.Differs (p : Priv) : Prop := p.rfType = .rf2T4R ∧ p.rfCTxPwDiff.toInt > 0

instance : DecidablePred Priv.Differs := fun p =>
  inferInstanceAs (Decidable (p.rfType = .rf2T4R ∧ p.rfCTxPwDiff.toInt > 0))

/-- The power of a lane whose level and offset make `v` -/
def lawful (p : Priv) (v : Nat) : Nat :=
  if p.Differs then min (min v 0x24) (0x24 - p.rfCTxPwDiff.toNat) else min v 0x24

/-- The low power state adds `CckPwEnl` to the offset of each lane. -/
def cckSum (p : Priv) (powerlevel : Byte) (i : Nat) : Nat :=
  powerlevel.toNat + (lane p.cckTxPowerLevelOriginalOffset i).toNat +
    if p.bDynamicTxLowPower then p.cckPwEnl.toNat else 0

def mcsSum (p : Priv) (w : Fin 2) (powerlevel : Byte) (i : Nat) : Nat :=
  powerlevel.toNat + (lane (p.mcsTxPowerLevelOriginalOffset w) i).toNat

/-- The low power state has a fixed pattern for CCK. -/
def Priv.CckFixed (p : Priv) : Prop := p.bDynamicTxLowPower = true ∧ p.customerID = rtCID819xNetcore

instance : DecidablePred Priv.CckFixed := fun p =>
  inferInstanceAs (Decidable (p.bDynamicTxLowPower = true ∧ p.customerID = rtCID819xNetcore))

/-- Each byte written to `CCK_TXAGC` is the power of its own lane. -/
def CckRight (p : Priv) (powerlevel : Byte) : Prop :=
  ¬ p.CckFixed → ∀ v, .dword cckTXAGC v ∈ phySetRF8256CCKTxPower p powerlevel →
    ∀ i < 2, (lane v i).toNat = lawful p (cckSum p powerlevel i)

/-- Each byte written to `MCS_TXAGC` is the power of its own lane, in the high power state those of
the first word. -/
def OfdmRight (p : Priv) (powerlevel : Byte) : Prop :=
  (∀ v, .dword mcsTXAGC v ∈ (phySetRF8256OFDMTxPower p powerlevel).2 →
    ∀ i < 4, (lane v i).toNat = lawful p (mcsSum p 0 powerlevel i)) ∧
  (p.bDynamicTxHighPower = false →
    ∀ v, .dword (mcsTXAGC + 4) v ∈ (phySetRF8256OFDMTxPower p powerlevel).2 →
      ∀ i < 4, (lane v i).toNat = lawful p (mcsSum p 1 powerlevel i))

/-! ## When it is -/

/-- The greatest power of a lane -/
def Priv.ceiling (p : Priv) : Nat := if p.Differs then 0x24 - p.rfCTxPwDiff.toNat else 0x24

/-- The difference fits under the limit. -/
def Priv.DiffFits (p : Priv) : Prop := p.Differs → p.rfCTxPwDiff.toNat ≤ 0x24

/-- A lane below the limit gets nothing from the lanes below it, and one at the limit is not taken
over the end of its byte by more than keeps it there. -/
def LaneHolds (p : Priv) (s : Nat → Nat) (i : Nat) : Prop :=
  (s i < p.ceiling → carry 256 s i = 0) ∧
    (p.ceiling ≤ s i → p.ceiling ≤ (s i + carry 256 s i) % 256)

instance : DecidablePred Priv.DiffFits := fun p =>
  inferInstanceAs (Decidable (p.Differs → p.rfCTxPwDiff.toNat ≤ 0x24))

instance (p : Priv) (s : Nat → Nat) (i : Nat) : Decidable (LaneHolds p s i) :=
  inferInstanceAs (Decidable ((s i < p.ceiling → carry 256 s i = 0) ∧
    (p.ceiling ≤ s i → p.ceiling ≤ (s i + carry 256 s i) % 256)))

theorem lawful_eq (p : Priv) (v : Nat) : lawful p v = min v p.ceiling := by
  unfold lawful Priv.ceiling
  split
  · omega
  · rfl

theorem ceiling_le (p : Priv) : p.ceiling ≤ 0x24 := by
  unfold Priv.ceiling
  split <;> omega

theorem toNat_lt_of_differs (h : p.Differs) : p.rfCTxPwDiff.toNat < 128 := by
  have hpos := h.2
  rw [BitVec.toInt_eq_toNat_cond] at hpos
  split at hpos <;> omega

theorem limited_of_not_differs (h : ¬ p.Differs) (x : Byte) : limited p x = capped x := if_neg h

theorem limited_of_differs (h : p.Differs) (x : Byte) :
    limited p x = if (capped x).toNat + p.rfCTxPwDiff.toNat > 0x24 then 0x24 - p.rfCTxPwDiff
      else capped x := if_pos h

theorem toNat_capped (x : Byte) : (capped x).toNat = min x.toNat 0x24 := by
  unfold capped
  split
  · rename_i h
    have hx : 0x24 < x.toNat := h
    rw [Nat.min_eq_right hx.le]
    rfl
  · rename_i h
    have hx : ¬ 0x24 < x.toNat := h
    omega

theorem toNat_limited (h : p.DiffFits) (x : Byte) : (limited p x).toNat = min x.toNat p.ceiling := by
  unfold Priv.ceiling
  by_cases hd : p.Differs
  · have hfit := h hd
    have hsub : (0x24 - p.rfCTxPwDiff : Byte).toNat = 0x24 - p.rfCTxPwDiff.toNat :=
      BitVec.toNat_sub_of_le hfit
    have hcap := toNat_capped x
    rw [limited_of_differs hd, if_pos hd]
    split
    · rw [hsub]
      omega
    · omega
  · rw [limited_of_not_differs hd, if_neg hd, toNat_capped]

theorem toNat_limited_of_not_fits (h : ¬ p.DiffFits) (x : Byte) : 0x24 < (limited p x).toNat := by
  unfold Priv.DiffFits at h
  push Not at h
  obtain ⟨hd, hbig⟩ := h
  have hlt := toNat_lt_of_differs hd
  rw [limited_of_differs hd, if_pos (by omega), BitVec.toNat_sub,
    show (0x24 : Byte).toNat = 0x24 by rfl]
  omega

theorem limited_eq_lawful_iff {x : BitVec 32} {s : Nat → Nat} (h : p.DiffFits) (hx : Packs x s)
    (hs : ∀ j, s j ≤ 3 * 255) (hi : i < 4) :
    (limited p (lane x i)).toNat = lawful p (s i) ↔ LaneHolds p s i := by
  have hcarry := carry_lt (b := 256) (by decide) (by decide) hs i
  have hceil := ceiling_le p
  rw [toNat_limited h, lawful_eq, hx.toNat_lane hi]
  unfold LaneHolds
  by_cases hlow : s i < p.ceiling
  · rw [Nat.mod_eq_of_lt (by omega)]
    omega
  · omega

theorem lawful_le (p : Priv) (v : Nat) : lawful p v ≤ 0x24 := by
  rw [lawful_eq]
  exact (Nat.min_le_right _ _).trans (ceiling_le p)

theorem word_lawful_iff {x : BitVec 32} {s : Nat → Nat} {n : Nat} (hx : Packs x s)
    (hs : ∀ j, s j ≤ 3 * 255) (hn : 0 < n) (hn4 : n ≤ 4) :
    (∀ i < n, (limited p (lane x i)).toNat = lawful p (s i)) ↔
      p.DiffFits ∧ ∀ i < n, LaneHolds p s i := by
  by_cases hfit : p.DiffFits
  · simp only [hfit, true_and]
    refine forall₂_congr fun i hi => ?_
    exact limited_eq_lawful_iff hfit hx hs (by omega)
  · simp only [hfit, false_and, iff_false]
    intro hall
    have hbig := toNat_limited_of_not_fits hfit (lane x 0)
    have hle := lawful_le p (s 0)
    rw [hall 0 hn] at hbig
    omega

theorem laneHolds_congr {s t : Nat → Nat} (h : ∀ j ≤ i, s j = t j) :
    LaneHolds p s i ↔ LaneHolds p t i := by
  unfold LaneHolds
  rw [h i (Nat.le_refl i), carry_congr fun j hj => h j (Nat.le_of_lt hj)]

/-! ## The words -/

theorem packs_twice (x : Byte) : Packs (twice x) fun i => if i < 2 then x.toNat else 0 := by
  have hword : twice x = word fun i => if i < 2 then x else 0 := by
    simp [twice, word]
  rw [hword]
  refine (packs_word _).congr fun j hj => ?_
  split <;> rfl

theorem packs_cckTxAGC (h : ¬ p.CckFixed) (level : Byte) :
    ∃ t, Packs (cckTxAGC p level) t ∧ (∀ j, t j ≤ 3 * 255) ∧ ∀ i < 2, t i = cckSum p level i := by
  -- `TxAGC` for CCK, a word of which two bytes are used.
  have hbase := (packs_twice level).add (packs_lanes p.cckTxPowerLevelOriginalOffset)
  have hbyte : ∀ x : Byte, x.toNat ≤ 255 := fun x => Nat.le_of_lt_succ x.isLt
  unfold cckTxAGC
  by_cases hlow : p.bDynamicTxLowPower
  · have hid : ¬ p.customerID = rtCID819xNetcore := fun hid => h ⟨hlow, hid⟩
    rw [if_pos hlow, if_neg hid]
    refine ⟨_, hbase.add (packs_twice p.cckPwEnl), fun j => ?_, fun i hi => ?_⟩
    · have h1 := hbyte level
      have h2 := hbyte (lane p.cckTxPowerLevelOriginalOffset j)
      have h3 := hbyte p.cckPwEnl
      split <;> omega
    · simp [cckSum, hi, hlow]
  · rw [if_neg hlow]
    refine ⟨_, hbase, fun j => ?_, fun i hi => ?_⟩
    · have h1 := hbyte level
      have h2 := hbyte (lane p.cckTxPowerLevelOriginalOffset j)
      split <;> omega
    · simp [cckSum, hi, hlow]

theorem packs_mcs (p : Priv) (w : Fin 2) (level : Byte) :
    Packs (fourTimes level + p.mcsTxPowerLevelOriginalOffset w) (mcsSum p w level) :=
  (packs_word _).add (packs_lanes _)

theorem mcsSum_le (p : Priv) (w : Fin 2) (level : Byte) (i : Nat) : mcsSum p w level i ≤ 3 * 255 := by
  have h1 := level.isLt
  have h2 := (lane (p.mcsTxPowerLevelOriginalOffset w) i).isLt
  unfold mcsSum
  omega

theorem lane_twoBytes (b0 b1 : Byte) : ∀ i < 2,
    lane (b1.setWidth 32 <<< 8 ||| b0.setWidth 32) i = if i = 0 then b0 else b1 := by
  have hword : (b1.setWidth 32 <<< 8 ||| b0.setWidth 32 : BitVec 32) =
      word fun i => if i = 0 then b0 else if i = 1 then b1 else 0 := by
    simp [word]
  intro i hi
  rw [hword, lane_word _ (by omega)]
  have hcases : i = 0 ∨ i = 1 := by omega
  rcases hcases with rfl | rfl <;> rfl

theorem lane_limitedWord (x : BitVec 32) (hi : i < 4) :
    lane (limitedWord p x) i = limited p (lane x i) := lane_word _ hi

theorem mem_cck {v : BitVec 32} {level : Byte} :
    .dword cckTXAGC v ∈ phySetRF8256CCKTxPower p level ↔
      v = (limited p (lane (cckTxAGC p level) 1)).setWidth 32 <<< 8 |||
        (limited p (lane (cckTxAGC p level) 0)).setWidth 32 := by
  simp [phySetRF8256CCKTxPower]

theorem mem_mcs {v : BitVec 32} {level : Byte} :
    .dword mcsTXAGC v ∈ (phySetRF8256OFDMTxPower p level).2 ↔
      v = limitedWord p (fourTimes level + p.mcsTxPowerLevelOriginalOffset 0) := by
  simp [phySetRF8256OFDMTxPower]

theorem mem_mcs4 {v : BitVec 32} {level : Byte} :
    .dword (mcsTXAGC + 4) v ∈ (phySetRF8256OFDMTxPower p level).2 ↔
      v = limitedWord p (ofdmTxAGC2 p level) := by
  simp [phySetRF8256OFDMTxPower]

/-! ## The two functions -/

theorem cckRight_iff (p : Priv) (level : Byte) :
    CckRight p level ↔
      (¬ p.CckFixed → p.DiffFits ∧ ∀ i < 2, LaneHolds p (cckSum p level) i) := by
  unfold CckRight
  simp only [mem_cck, forall_eq]
  refine forall_congr' fun hfixed => ?_
  obtain ⟨t, hpacks, hle, hsum⟩ := packs_cckTxAGC hfixed level
  have hlane : ∀ i < 2, LaneHolds p (cckSum p level) i ↔ LaneHolds p t i := fun i hi =>
    laneHolds_congr fun j hj => (hsum j (by omega)).symm
  have hiff := word_lawful_iff (p := p) hpacks hle (show 0 < 2 by omega) (by omega)
  have hright : (∀ i < 2, LaneHolds p (cckSum p level) i) ↔ ∀ i < 2, LaneHolds p t i :=
    forall₂_congr hlane
  rw [hright, ← hiff]
  refine forall₂_congr fun i hi => ?_
  rw [lane_twoBytes _ _ i hi, hsum i hi]
  have hcases : i = 0 ∨ i = 1 := by omega
  rcases hcases with rfl | rfl <;> rfl

theorem mcs_word_iff (p : Priv) (w : Fin 2) (level : Byte) :
    (∀ i < 4, (lane (limitedWord p (fourTimes level + p.mcsTxPowerLevelOriginalOffset w)) i).toNat =
        lawful p (mcsSum p w level i)) ↔
      p.DiffFits ∧ ∀ i < 4, LaneHolds p (mcsSum p w level) i := by
  rw [← word_lawful_iff (packs_mcs p w level) (mcsSum_le p w level) (by omega) (by omega)]
  refine forall₂_congr fun i hi => ?_
  rw [lane_limitedWord _ hi]

theorem ofdmRight_iff (p : Priv) (level : Byte) :
    OfdmRight p level ↔ p.DiffFits ∧ (∀ i < 4, LaneHolds p (mcsSum p 0 level) i) ∧
      (p.bDynamicTxHighPower = false → ∀ i < 4, LaneHolds p (mcsSum p 1 level) i) := by
  unfold OfdmRight
  simp only [mem_mcs, mem_mcs4, forall_eq]
  rw [mcs_word_iff, and_assoc]
  refine and_congr_right fun hfit => and_congr_right fun _ => forall_congr' fun hhigh => ?_
  have hword : ofdmTxAGC2 p level = fourTimes level + p.mcsTxPowerLevelOriginalOffset 1 := by
    unfold ofdmTxAGC2
    rw [if_neg (by simp [hhigh])]
  rw [hword, mcs_word_iff]
  exact and_iff_right hfit

/-- No lane is spoiled by another one, and the difference fits. -/
def LanesHold (p : Priv) (powerlevel powerlevelOFDM24G : Byte) : Prop :=
  p.DiffFits ∧ (¬ p.CckFixed → ∀ i < 2, LaneHolds p (cckSum p powerlevel) i) ∧
    (∀ i < 4, LaneHolds p (mcsSum p 0 powerlevelOFDM24G) i) ∧
    (p.bDynamicTxHighPower = false → ∀ i < 4, LaneHolds p (mcsSum p 1 powerlevelOFDM24G) i)

theorem tx_power_lanes_iff (p : Priv) (powerlevel powerlevelOFDM24G : Byte) :
    CckRight p powerlevel ∧ OfdmRight p powerlevelOFDM24G ↔
      LanesHold p powerlevel powerlevelOFDM24G := by
  rw [cckRight_iff, ofdmRight_iff]
  unfold LanesHold
  constructor
  · rintro ⟨hcck, hfit, hmcs, hmcs4⟩
    exact ⟨hfit, fun hfixed => (hcck hfixed).2, hmcs, hmcs4⟩
  · rintro ⟨hfit, hcck, hmcs, hmcs4⟩
    exact ⟨fun hfixed => ⟨hfit, hcck hfixed⟩, hfit, hmcs, hmcs4⟩

/-- With the offsets of the tables in use, a level up to 0xf0 goes over no byte. -/
theorem laneHolds_of_lt {s : Nat → Nat} (h : ∀ j ≤ i, s j < 256) : LaneHolds p s i := by
  have hcarry : carry 256 s i = 0 := carry_eq_zero fun j hj => h j (Nat.le_of_lt hj)
  unfold LaneHolds
  rw [hcarry, Nat.add_zero, Nat.mod_eq_of_lt (h i (Nat.le_refl i))]
  exact ⟨fun _ => rfl, id⟩

/-- A card of four antennas whose path C is 0x30 above path A -/
def farApart : Priv where
  epromtype := .eeprom93C56
  rfType := .rf2T4R
  customerID := 0
  tables := Tables.zero
  bDynamicTxHighPower := false
  bDynamicTxLowPower := false
  cckPwEnl := 6
  cckTxPowerLevelOriginalOffset := 0
  mcsTxPowerLevelOriginalOffset := fun i => if i = 0 then 0x0a0c0d0f else 0x06070809
  rfCTxPwDiff := 0x30
  antennaTxPwDiff := fun _ => 0
  pwrTrack := 0

example : (phySetRF8256OFDMTxPower farApart 0x10).2 =
    [.dword 0x340 0xf4f4f4f4, .dword 0x344 0xf4f4f4f4] := by decide

theorem not_always_lanes_right : ¬ ∀ (p : Priv) (powerlevel powerlevelOFDM24G : Byte),
    CckRight p powerlevel ∧ OfdmRight p powerlevelOFDM24G := by
  intro h
  have hofdm := (h farApart 0x10 0x10).2
  rw [ofdmRight_iff] at hofdm
  exact absurd hofdm.1 (by decide)

end Rtl8190.TxPower
