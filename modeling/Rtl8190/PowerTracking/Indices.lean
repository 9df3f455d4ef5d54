import Rtl8190.Channel.InProgress
import Rtl8190.Lib.Run
import Rtl8190.PowerTracking.Code

/-!
# The indices of the power tracking

The second index of a path stays behind by up to four entries where the first one goes below the fourth.
It leaves the table where the first one does not, and a silent reset writes the twelfth entry whatever it is.
-/

open Rtl8190.Channel (BwWrite Driver HtChannelWidth rCCK0DebugPort rCCK0TxFilter1 rCCK0TxFilter2)
open Rtl8190.Memory (Byte)
open Rtl8190.Power (RfType setBBreg)
open Rtl8190.Registers
open Rtl8190.Run

namespace Rtl8190.PowerTracking

variable {s : State}

/-- What was written to the registers of the paths -/
def State.gainA (s : State) : BitVec 32 := load32 s.regs rOFDM0XATxIQImbalance

def State.gainC (s : State) : BitVec 32 := load32 s.regs rOFDM0XCTxIQImbalance

/-! ## What is to hold -/

/-- The indices lie within their tables. -/
structure InTables (s : State) : Prop where
  rfa : s.rfa.index.toNat < txBBGainTableLength ∧ s.rfa.real.toNat < txBBGainTableLength
  rfc : s.rfc.index.toNat < txBBGainTableLength ∧ s.rfc.real.toNat < txBBGainTableLength
  cck : 0 ≤ s.cckPresentAttentuation.toInt ∧ s.cckPresentAttentuation.toInt < cckTxBBGainTableLength

/-- Path C has the entry of its index. -/
def RightC (s : State) : Prop := InTables s ∧ s.gainC = txbbgain s.rfc.real

def RightA (s : State) : Prop := s.gainA = txbbgain s.rfa.real

/-- The measurement that a run of the tracking finds -/
def verdict (s : State) (polls : Nat → Poll) : Verdict :=
  match awaitReply ((List.range 31).map polls) with
  | .resetInProgress | .timeout => .nothing
  | .measured p => judge s.tssi13dBm p

/-- A step up has an entry to go to, and a silent reset finds the second index where it began. -/
def Clean (s : State) : Event → Prop
  | .track polls => verdict s polls = .raise → s.rfc.real.toNat < 36 ∨ s.rfc.index.toNat = 36
  | .silentReset _ => s.rfc.real = 12
  | _ => True

/-! ## Invariants -/

/-- The second index does not go below the fourth entry, and comes back with the first. -/
structure Tracking.Near (t : Tracking) : Prop where
  index : t.index.toNat ≤ 36
  low : 4 ≤ t.real.toNat
  behind : t.index.toNat ≤ t.real.toNat
  ahead : t.real.toNat ≤ t.index.toNat + 4

structure Sound (s : State) : Prop where
  init : s.btxpowerTrackingInit = false
  cck : 0 ≤ s.cckPresentAttentuation.toInt ∧ s.cckPresentAttentuation.toInt < cckTxBBGainTableLength
  near : s.rfc.Near
  both : s.rfType = .rf2T4R →
    s.rfa.index = s.rfc.index ∧ s.rfa.real = s.rfc.real ∧ s.gainA = s.gainC
  one : s.rfType ≠ .rf2T4R → s.rfa.index = 0 ∧ s.rfa.real = 0 ∧ s.gainA = txbbgain 12

theorem rightC_iff (h : Sound s) :
    RightC s ↔ s.rfc.real.toNat ≤ 36 ∧ s.gainC = txbbgain s.rfc.real := by
  have hindex := h.near.index
  unfold RightC
  constructor
  · rintro ⟨htables, hgain⟩
    exact ⟨Nat.lt_succ_iff.mp htables.rfc.2, hgain⟩
  · rintro ⟨hreal, hgain⟩
    have hrfc : s.rfc.index.toNat < txBBGainTableLength ∧ s.rfc.real.toNat < txBBGainTableLength :=
      ⟨Nat.lt_succ_iff.mpr hindex, Nat.lt_succ_iff.mpr hreal⟩
    refine ⟨⟨?_, hrfc, h.cck⟩, hgain⟩
    by_cases htype : s.rfType = .rf2T4R
    · rw [(h.both htype).1, (h.both htype).2.1]
      exact hrfc
    · rw [(h.one htype).1, (h.one htype).2.1]
      decide

/-! ## The table -/

theorem txbbgain_injective : ∀ i < 37, ∀ j < 37, txbbgain (BitVec.ofNat 8 i) = txbbgain (BitVec.ofNat 8 j) →
    i = j := by decide

/-! ## The CCK filter -/

theorem attentuation_range (default difference : Byte) :
    0 ≤ (attentuation default difference).toInt ∧
      (attentuation default difference).toInt < cckTxBBGainTableLength := by
  unfold attentuation
  generalize default + difference = a
  dsimp only
  by_cases hbig : a.toInt > cckTxBBGainTableLength - 1
  · rw [if_pos hbig]
    decide
  · rw [if_neg hbig]
    split
    · decide
    · exact ⟨by omega, by omega⟩

theorem setAttentuation_range (s : State) :
    0 ≤ (setAttentuation s).cckPresentAttentuation.toInt ∧
      (setAttentuation s).cckPresentAttentuation.toInt < cckTxBBGainTableLength := by
  unfold setAttentuation
  split
  all_goals exact attentuation_range _ _

/-- The indices, the registers of the paths and the attenuation stay. -/
structure Kept (s s' : State) : Prop where
  rfType : s'.rfType = s.rfType
  init : s'.btxpowerTrackingInit = s.btxpowerTrackingInit
  rfa : s'.rfa = s.rfa
  rfc : s'.rfc = s.rfc
  gainA : s'.gainA = s.gainA
  gainC : s'.gainC = s.gainC

theorem Kept.trans {s' s'' : State} (h : Kept s s') (h' : Kept s' s'') : Kept s s'' where
  rfType := h'.rfType.trans h.rfType
  init := h'.init.trans h.init
  rfa := h'.rfa.trans h.rfa
  rfc := h'.rfc.trans h.rfc
  gainA := h'.gainA.trans h.gainA
  gainC := h'.gainC.trans h.gainC

theorem Sound.of_kept {s' : State} (h : Sound s) (hkept : Kept s s')
    (hcck : 0 ≤ s'.cckPresentAttentuation.toInt ∧ s'.cckPresentAttentuation.toInt < cckTxBBGainTableLength) :
    Sound s' := by
  constructor
  · exact hkept.init.trans h.init
  · exact hcck
  all_goals simp only [hkept.rfType, hkept.rfa, hkept.rfc, hkept.gainA, hkept.gainC]
  · exact h.near
  · exact h.both
  · exact h.one

theorem rightC_of_kept {s' : State} (h : Sound s) (h' : Sound s') (hkept : Kept s s') : RightC s' ↔ RightC s := by
  rw [rightC_iff h, rightC_iff h', hkept.rfc, hkept.gainC]

theorem load32_writeCck (r : Regs) (row : List Byte) {x : Nat} (h : 0xa2c ≤ x) :
    load32 (writeCck r row) x = load32 r x := by
  have h1 : rCCK0TxFilter1 = 0xa20 := rfl
  have h2 : rCCK0TxFilter2 = 0xa24 := rfl
  have h3 : rCCK0DebugPort = 0xa28 := rfl
  simp only [writeCck, Field.write, setBBreg]
  rw [load32_store_of_disjoint (by omega), load32_store_of_disjoint (by omega),
    load32_store_of_disjoint (by omega)]

theorem dmCckTxpowerAdjust_kept (s : State) (binch14 : Bool) :
    Kept s (dmCckTxpowerAdjust s binch14) ∧
      (dmCckTxpowerAdjust s binch14).cckPresentAttentuation = s.cckPresentAttentuation := by
  refine ⟨⟨rfl, rfl, rfl, rfl, ?_, ?_⟩, rfl⟩
  · exact load32_writeCck _ _ (by decide)
  · exact load32_writeCck _ _ (by decide)

theorem adjustForChannel_kept (s : State) :
    Kept s (adjustForChannel s) ∧
      (adjustForChannel s).cckPresentAttentuation = s.cckPresentAttentuation := by
  have hflag (b : Bool) : Kept s { s with bcckInCh14 := b } := ⟨rfl, rfl, rfl, rfl, rfl, rfl⟩
  have hadjust (b : Bool) := dmCckTxpowerAdjust_kept { s with bcckInCh14 := b } b
  unfold adjustForChannel
  split_ifs
  · exact ⟨(hflag true).trans (hadjust true).1, (hadjust true).2⟩
  · exact ⟨(hflag false).trans (hadjust false).1, (hadjust false).2⟩
  · exact dmCckTxpowerAdjust_kept s s.bcckInCh14

theorem setAttentuation_kept (s : State) : Kept s (setAttentuation s) := ⟨rfl, rfl, rfl, rfl, rfl, rfl⟩

theorem cckTxPowerTrackBWSwitchTSSI_kept (s : State) :
    Kept s (cckTxPowerTrackBWSwitchTSSI s) ∧
      0 ≤ (cckTxPowerTrackBWSwitchTSSI s).cckPresentAttentuation.toInt ∧
      (cckTxPowerTrackBWSwitchTSSI s).cckPresentAttentuation.toInt < cckTxBBGainTableLength := by
  obtain ⟨hkept, hcck⟩ := adjustForChannel_kept (setAttentuation s)
  unfold cckTxPowerTrackBWSwitchTSSI
  rw [hcck]
  exact ⟨(setAttentuation_kept s).trans hkept, setAttentuation_range s⟩

theorem followIndex_kept (s : State) :
    Kept s (followIndex s) ∧
      0 ≤ (followIndex s).cckPresentAttentuation.toInt ∧
      (followIndex s).cckPresentAttentuation.toInt < cckTxBBGainTableLength := by
  -- The last test of the attenuation does not fail.
  unfold followIndex
  dsimp only
  rw [if_pos ⟨lt_of_lt_of_le (by decide) (setAttentuation_range _).1, (setAttentuation_range _).2⟩]
  have hset (b : Byte) : Kept s { s with cckPresentAttentuationDifference := b } :=
    ⟨rfl, rfl, rfl, rfl, rfl, rfl⟩
  obtain ⟨hkept, hrange⟩ := cckTxPowerTrackBWSwitchTSSI_kept { s with
    cckPresentAttentuationDifference :=
      if s.rfType = .rf2T4R then s.rfa.index - s.rfa.trackingDefault else s.rfc.index - s.rfc.trackingDefault }
  exact ⟨(hset _).trans hkept, hrange⟩

theorem leave_kept (s : State) (b : Bool) : Kept s (leave s b) := ⟨rfl, rfl, rfl, rfl, rfl, rfl⟩

theorem setBWMode_kept (h : Sound s) (bandwidth : HtChannelWidth) (offset : Ht.HtExtchnlOffset) (up : Bool) :
    Kept s (setBWMode s bandwidth offset up) ∧ Sound (setBWMode s bandwidth offset up) := by
  have hdrv (drv : Driver) : Kept s { s with drv := drv } := ⟨rfl, rfl, rfl, rfl, rfl, rfl⟩
  unfold setBWMode
  dsimp only
  generalize Channel.rtl8192SetBWMode _ bandwidth offset = drv
  split
  · obtain ⟨hkept, hrange⟩ := cckTxPowerTrackBWSwitchTSSI_kept { s with drv := drv }
    have hkept := (hdrv _).trans hkept
    exact ⟨hkept, h.of_kept hkept hrange⟩
  · exact ⟨hdrv drv, h.of_kept (hdrv drv) h.cck⟩

/-! ## One step of a path -/

theorem lowerPath_spec (addr : Nat) (r : Regs) (t : Tracking) :
    (lowerPath addr (r, t)).2.index = t.index - 1 ∧
    (lowerPath addr (r, t)).2.real = (if t.real.toNat > 4 then t.real - 1 else t.real) ∧
    load32 (lowerPath addr (r, t)).1 addr =
      (if t.real.toNat > 4 then txbbgain (t.real - 1) else load32 r addr) ∧
    ∀ x, x + 4 ≤ addr ∨ addr + 4 ≤ x → load32 (lowerPath addr (r, t)).1 x = load32 r x := by
  unfold lowerPath
  dsimp only
  split
  · exact ⟨rfl, rfl, load32_store _ _ _, fun x hx => load32_store_of_disjoint hx⟩
  · exact ⟨rfl, rfl, rfl, fun _ _ => rfl⟩

theorem lowerPath_entry {addr : Nat} {r : Regs} {t : Tracking} (h : load32 r addr = txbbgain t.real) :
    load32 (lowerPath addr (r, t)).1 addr = txbbgain (lowerPath addr (r, t)).2.real := by
  obtain ⟨_, hreal, hgain, _⟩ := lowerPath_spec addr r t
  rw [hreal, hgain]
  split
  · rfl
  · exact h

theorem raisePath_spec (addr : Nat) (r : Regs) (t : Tracking) :
    (raisePath addr (r, t)).2.index = t.index + 1 ∧ (raisePath addr (r, t)).2.real = t.real + 1 ∧
    load32 (raisePath addr (r, t)).1 addr = txbbgain (t.real + 1) ∧
    ∀ x, x + 4 ≤ addr ∨ addr + 4 ≤ x → load32 (raisePath addr (r, t)).1 x = load32 r x :=
  ⟨rfl, rfl, load32_store _ _ _, fun _ hx => load32_store_of_disjoint hx⟩

theorem Tracking.Near.lower {t t' : Tracking} (h : t.Near) (hpos : 0 < t.index.toNat)
    (hindex : t'.index = t.index - 1) (hreal : t'.real = if t.real.toNat > 4 then t.real - 1 else t.real) :
    t'.Near ∧ t'.real.toNat ≤ t.real.toNat := by
  obtain ⟨_, _, _, _⟩ := h
  have hindex : t'.index.toNat = t.index.toNat - 1 := by
    rw [hindex]
    bv_omega
  have hreal : t'.real.toNat = if t.real.toNat > 4 then t.real.toNat - 1 else t.real.toNat := by
    rw [hreal]
    split
    · bv_omega
    · rfl
  split at hreal
  all_goals exact ⟨⟨by omega, by omega, by omega, by omega⟩, by omega⟩

theorem Tracking.Near.raise {t t' : Tracking} (h : t.Near) (hlt : t.index.toNat < 36)
    (hindex : t'.index = t.index + 1) (hreal : t'.real = t.real + 1) :
    t'.Near ∧ t'.real.toNat = t.real.toNat + 1 := by
  obtain ⟨_, _, _, _⟩ := h
  have hindex : t'.index.toNat = t.index.toNat + 1 := by
    rw [hindex]
    bv_omega
  have hreal : t'.real.toNat = t.real.toNat + 1 := by
    rw [hreal]
    bv_omega
  exact ⟨⟨by omega, by omega, by omega, by omega⟩, hreal⟩

/-! ## The steps -/

theorem load32_A_store_C (r : Regs) (v : BitVec 32) :
    load32 (store 4 r rOFDM0XCTxIQImbalance v) rOFDM0XATxIQImbalance = load32 r rOFDM0XATxIQImbalance :=
  load32_store_of_disjoint (Or.inl (by decide))

theorem gains_writeBoth (r : Regs) (i : Byte) :
    load32 (writeBoth r i) rOFDM0XATxIQImbalance = load32 (writeBoth r i) rOFDM0XCTxIQImbalance := by
  unfold writeBoth
  rw [load32_A_store_C, load32_store, load32_store]

/-- Where the first index is at the bottom, the second one is at the fourth entry. -/
theorem Sound.floor (h : Sound s) (hzero : ¬ s.rfc.index.toNat > 0) : s.rfc.real = 4 := by
  have hlow := h.near.low
  have hahead := h.near.ahead
  apply BitVec.eq_of_toNat_eq
  show s.rfc.real.toNat = 4
  omega

/-- The entry at an end of the table, written for the paths that the board has. -/
theorem entry_sound (h : Sound s) {r : Regs} {i : Byte} (hentry : load32 r rOFDM0XCTxIQImbalance = txbbgain i)
    (hboth : s.rfType = .rf2T4R → load32 r rOFDM0XATxIQImbalance = load32 r rOFDM0XCTxIQImbalance)
    (hone : s.rfType ≠ .rf2T4R → load32 r rOFDM0XATxIQImbalance = s.gainA) :
    Sound { s with regs := r } ∧ (s.rfc.real = i → i.toNat ≤ 36 → RightC { s with regs := r }) := by
  have hsound : Sound { s with regs := r } :=
    ⟨h.init, h.cck, h.near, fun ht => ⟨(h.both ht).1, (h.both ht).2.1, hboth ht⟩,
      fun ht => ⟨(h.one ht).1, (h.one ht).2.1, (hone ht).trans (h.one ht).2.2⟩⟩
  refine ⟨hsound, fun hreal hi => ?_⟩
  rw [rightC_iff hsound]
  show s.rfc.real.toNat ≤ 36 ∧ load32 r _ = txbbgain s.rfc.real
  rw [hreal]
  exact ⟨hi, hentry⟩

theorem lower_sound_of_both (h : Sound s) (htype : s.rfType = .rf2T4R) :
    Sound (lower s) ∧ (RightC s → RightC (lower s)) := by
  obtain ⟨hindex, hreal, hgain⟩ := h.both htype
  by_cases hpos : s.rfc.index.toNat > 0
  · let a := lowerPath rOFDM0XATxIQImbalance (s.regs, s.rfa)
    let c := lowerPath rOFDM0XCTxIQImbalance (a.1, s.rfc)
    have heq : lower s = { s with regs := c.1, rfa := a.2, rfc := c.2 } := by
      unfold lower
      rw [if_pos htype, if_pos ⟨hindex ▸ hpos, hpos⟩]
    obtain ⟨hindexA, hrealA, hgainA, hotherA⟩ := lowerPath_spec rOFDM0XATxIQImbalance s.regs s.rfa
    obtain ⟨hindexC, hrealC, hgainC, hotherC⟩ := lowerPath_spec rOFDM0XCTxIQImbalance a.1 s.rfc
    have hkeepC : load32 a.1 rOFDM0XCTxIQImbalance = s.gainC := hotherA _ (Or.inr (by decide))
    have hkeepA : load32 c.1 rOFDM0XATxIQImbalance = load32 a.1 rOFDM0XATxIQImbalance :=
      hotherC _ (Or.inl (by decide))
    obtain ⟨hnear, hle⟩ := h.near.lower hpos hindexC hrealC
    have hsound : Sound (lower s) := by
      rw [heq]
      refine ⟨h.init, h.cck, hnear, fun _ => ⟨?_, ?_, ?_⟩, fun h => absurd htype h⟩
      · rw [hindexA, hindexC, hindex]
      · rw [hrealA, hrealC, hreal]
      · show load32 c.1 rOFDM0XATxIQImbalance = load32 c.1 rOFDM0XCTxIQImbalance
        rw [hkeepA, hgainA, hgainC, hkeepC, hreal]
        split
        · rfl
        · exact hgain
    refine ⟨hsound, fun hright => ?_⟩
    obtain ⟨hmax, hentry⟩ := (rightC_iff h).mp hright
    rw [rightC_iff hsound, heq]
    exact ⟨le_trans hle hmax, lowerPath_entry (hkeepC.trans hentry)⟩
  · have heq : lower s = { s with regs := writeBoth s.regs 4 } := by
      unfold lower
      rw [if_pos htype, if_neg fun h => hpos h.2]
    obtain ⟨hsound, hright⟩ := entry_sound h (load32_store _ _ _) (fun _ => gains_writeBoth s.regs 4)
      (fun h => absurd htype h)
    rw [heq]
    exact ⟨hsound, fun _ => hright (h.floor hpos) (by decide)⟩

theorem lower_sound_of_one (h : Sound s) (htype : s.rfType ≠ .rf2T4R) :
    Sound (lower s) ∧ (RightC s → RightC (lower s)) := by
  obtain ⟨hindex, hreal, hgain⟩ := h.one htype
  by_cases hpos : s.rfc.index.toNat > 0
  · let c := lowerPath rOFDM0XCTxIQImbalance (s.regs, s.rfc)
    have heq : lower s = { s with regs := c.1, rfc := c.2 } := by
      unfold lower
      rw [if_neg htype, if_pos hpos]
    obtain ⟨hindexC, hrealC, _, hotherC⟩ := lowerPath_spec rOFDM0XCTxIQImbalance s.regs s.rfc
    obtain ⟨hnear, hle⟩ := h.near.lower hpos hindexC hrealC
    have hsound : Sound (lower s) := by
      rw [heq]
      refine ⟨h.init, h.cck, hnear, fun h => absurd h htype, fun _ => ⟨hindex, hreal, ?_⟩⟩
      exact (hotherC _ (Or.inl (by decide))).trans hgain
    refine ⟨hsound, fun hright => ?_⟩
    obtain ⟨hmax, hentry⟩ := (rightC_iff h).mp hright
    rw [rightC_iff hsound, heq]
    exact ⟨le_trans hle hmax, lowerPath_entry hentry⟩
  · have heq : lower s = { s with regs := store 4 s.regs rOFDM0XCTxIQImbalance (txbbgain 4) } := by
      unfold lower
      rw [if_neg htype, if_neg hpos]
    obtain ⟨hsound, hright⟩ := entry_sound h (load32_store s.regs rOFDM0XCTxIQImbalance (txbbgain 4))
      (fun h => absurd h htype) (fun _ => load32_A_store_C _ _)
    rw [heq]
    exact ⟨hsound, fun _ => hright (h.floor hpos) (by decide)⟩

theorem lower_sound (h : Sound s) : Sound (lower s) ∧ (RightC s → RightC (lower s)) := by
  by_cases htype : s.rfType = .rf2T4R
  · exact lower_sound_of_both h htype
  · exact lower_sound_of_one h htype

theorem raise_sound_of_lt (h : Sound s) (hlt : s.rfc.index.toNat < 36) :
    Sound (raise s) ∧ (RightC (raise s) ↔ s.rfc.real.toNat < 36) := by
  -- A step up has the entry of the next index, if there is one.
  by_cases htype : s.rfType = .rf2T4R
  · obtain ⟨hindex, hreal, hgain⟩ := h.both htype
    let a := raisePath rOFDM0XATxIQImbalance (s.regs, s.rfa)
    let c := raisePath rOFDM0XCTxIQImbalance (a.1, s.rfc)
    have heq : raise s = { s with regs := c.1, rfa := a.2, rfc := c.2 } := by
      have hlast : s.rfa.index.toNat < txBBGainTableLength - 1 ∧
          s.rfc.index.toNat < txBBGainTableLength - 1 := ⟨by rw [hindex]; exact hlt, hlt⟩
      unfold raise
      dsimp only
      rw [if_pos htype, if_pos hlast]
    obtain ⟨hindexA, hrealA, hgainA, _⟩ := raisePath_spec rOFDM0XATxIQImbalance s.regs s.rfa
    obtain ⟨hindexC, hrealC, hgainC, hotherC⟩ := raisePath_spec rOFDM0XCTxIQImbalance a.1 s.rfc
    have hkeepA : load32 c.1 rOFDM0XATxIQImbalance = load32 a.1 rOFDM0XATxIQImbalance :=
      hotherC _ (Or.inl (by decide))
    obtain ⟨hnear, hup⟩ := h.near.raise hlt hindexC hrealC
    have hsound : Sound (raise s) := by
      rw [heq]
      refine ⟨h.init, h.cck, hnear, fun _ => ⟨?_, ?_, ?_⟩, fun h => absurd htype h⟩
      · rw [hindexA, hindexC, hindex]
      · rw [hrealA, hrealC, hreal]
      · show load32 c.1 rOFDM0XATxIQImbalance = load32 c.1 rOFDM0XCTxIQImbalance
        rw [hkeepA, hgainA, hgainC, hreal]
    refine ⟨hsound, ?_⟩
    rw [rightC_iff hsound, heq]
    show c.2.real.toNat ≤ 36 ∧ load32 c.1 _ = txbbgain c.2.real ↔ _
    rw [hup, hgainC, hrealC, and_iff_left rfl]
    exact Nat.lt_iff_add_one_le.symm
  · obtain ⟨hindex, hreal, hgain⟩ := h.one htype
    let c := raisePath rOFDM0XCTxIQImbalance (s.regs, s.rfc)
    have heq : raise s = { s with regs := c.1, rfc := c.2 } := by
      unfold raise
      dsimp only
      rw [if_neg htype, if_pos (show s.rfc.index.toNat < txBBGainTableLength - 1 from hlt)]
    obtain ⟨hindexC, hrealC, hgainC, hotherC⟩ := raisePath_spec rOFDM0XCTxIQImbalance s.regs s.rfc
    obtain ⟨hnear, hup⟩ := h.near.raise hlt hindexC hrealC
    have hsound : Sound (raise s) := by
      rw [heq]
      refine ⟨h.init, h.cck, hnear, fun h => absurd h htype, fun _ => ⟨hindex, hreal, ?_⟩⟩
      exact (hotherC _ (Or.inl (by decide))).trans hgain
    refine ⟨hsound, ?_⟩
    rw [rightC_iff hsound, heq]
    show c.2.real.toNat ≤ 36 ∧ load32 c.1 _ = txbbgain c.2.real ↔ _
    rw [hup, hgainC, hrealC, and_iff_left rfl]
    exact Nat.lt_iff_add_one_le.symm

theorem raise_sound_of_top (h : Sound s) (htop : ¬ s.rfc.index.toNat < 36) :
    Sound (raise s) ∧ (RightC s → RightC (raise s)) := by
  have hfull (hright : RightC s) : s.rfc.real = 36 := by
    have hmax := ((rightC_iff h).mp hright).1
    have hbehind := h.near.behind
    apply BitVec.eq_of_toNat_eq
    show s.rfc.real.toNat = 36
    omega
  by_cases htype : s.rfType = .rf2T4R
  · have heq : raise s = { s with regs := writeBoth s.regs 36 } := by
      unfold raise
      dsimp only
      rw [if_pos htype, if_neg fun h => htop h.2]
      rfl
    obtain ⟨hsound, hright⟩ := entry_sound h (load32_store _ _ _) (fun _ => gains_writeBoth s.regs 36)
      (fun h => absurd htype h)
    rw [heq]
    exact ⟨hsound, fun h => hright (hfull h) (by decide)⟩
  · have heq : raise s = { s with regs := store 4 s.regs rOFDM0XCTxIQImbalance (txbbgain 36) } := by
      unfold raise
      dsimp only
      rw [if_neg htype, if_neg (show ¬ s.rfc.index.toNat < txBBGainTableLength - 1 from htop)]
      rfl
    obtain ⟨hsound, hright⟩ := entry_sound h (load32_store s.regs rOFDM0XCTxIQImbalance (txbbgain 36))
      (fun h => absurd h htype) (fun _ => load32_A_store_C _ _)
    rw [heq]
    exact ⟨hsound, fun h => hright (hfull h) (by decide)⟩

theorem raise_sound (h : Sound s) :
    Sound (raise s) ∧
      (RightC s → (RightC (raise s) ↔ s.rfc.real.toNat < 36 ∨ s.rfc.index.toNat = 36)) := by
  have hindex := h.near.index
  by_cases hlt : s.rfc.index.toNat < 36
  · obtain ⟨hsound, hright⟩ := raise_sound_of_lt h hlt
    exact ⟨hsound, fun _ => hright.trans (or_iff_left (by omega)).symm⟩
  · obtain ⟨hsound, hright⟩ := raise_sound_of_top h hlt
    exact ⟨hsound, fun h => iff_of_true (hright h) (Or.inr (by omega))⟩

theorem finish_sound (h : Sound s) (b : Bool) :
    Sound (leave (followIndex s) b) ∧ (RightC (leave (followIndex s) b) ↔ RightC s) := by
  obtain ⟨hkept, hrange⟩ := followIndex_kept s
  have hkept := hkept.trans (leave_kept (followIndex s) b)
  have hsound := h.of_kept hkept hrange
  exact ⟨hsound, rightC_of_kept h hsound hkept⟩

theorem leave_sound (h : Sound s) (b : Bool) : Sound (leave s b) ∧ (RightC (leave s b) ↔ RightC s) := by
  have hsound := h.of_kept (leave_kept s b) h.cck
  exact ⟨hsound, rightC_of_kept h hsound (leave_kept s b)⟩

theorem dmTXPowerTrackingCallbackTSSI_sound (h : Sound s) (polls : Nat → Poll) :
    Sound (dmTXPowerTrackingCallbackTSSI s polls) ∧
      (RightC s → (RightC (dmTXPowerTrackingCallbackTSSI s polls) ↔ Clean s (.track polls))) := by
  have hleave (b : Bool) (hv : verdict s polls ≠ .raise) :
      Sound (leave s b) ∧ (RightC s → (RightC (leave s b) ↔ Clean s (.track polls))) :=
    ⟨(leave_sound h b).1, fun hright => iff_of_true ((leave_sound h b).2.mpr hright) fun h => absurd h hv⟩
  unfold dmTXPowerTrackingCallbackTSSI
  cases hreply : awaitReply ((List.range 31).map polls) with
  | resetInProgress => exact hleave false (by simp [verdict, hreply])
  | timeout => exact hleave true (by simp [verdict, hreply])
  | measured p =>
    have hverdict : verdict s polls = judge s.tssi13dBm p := by simp [verdict, hreply]
    dsimp only
    cases hjudge : judge s.tssi13dBm p with
    | nothing => exact hleave false (by simp [hverdict, hjudge])
    | filtered => exact hleave true (by simp [hverdict, hjudge])
    | done => exact hleave true (by simp [hverdict, hjudge])
    | lower =>
      obtain ⟨hsound, hright⟩ := lower_sound h
      obtain ⟨hsound', hright'⟩ := finish_sound hsound true
      exact ⟨hsound', fun h => iff_of_true (hright'.mpr (hright h)) fun hv => by simp [hverdict, hjudge] at hv⟩
    | raise =>
      obtain ⟨hsound, hright⟩ := raise_sound h
      obtain ⟨hsound', hright'⟩ := finish_sound hsound true
      refine ⟨hsound', fun h => ?_⟩
      rw [hright', hright h]
      simp [Clean, hverdict, hjudge]

/-! ## Silent resets -/

theorem gains_phyRegs (r : Regs) :
    load32 (phyRegs r) rOFDM0XATxIQImbalance = txbbgain 12 ∧
      load32 (phyRegs r) rOFDM0XCTxIQImbalance = txbbgain 12 := by
  unfold phyRegs
  rw [load32_A_store_C, load32_store, load32_store]
  exact ⟨rfl, rfl⟩

/-- The recovery does not run, and the registers have the entry of the tables of the base band. -/
theorem silentReset_sound (h : Sound s) (restores : Bool) :
    Sound (silentReset s restores) ∧
      (RightC s → (RightC (silentReset s restores) ↔ s.rfc.real = 12)) := by
  obtain ⟨hgainA, hgainC⟩ := gains_phyRegs s.regs
  have heq : silentReset s restores = { s with regs := phyRegs s.regs } := by
    unfold silentReset
    simp [h.init]
  have hsound : Sound (silentReset s restores) := by
    rw [heq]
    exact ⟨h.init, h.cck, h.near, fun ht => ⟨(h.both ht).1, (h.both ht).2.1, hgainA.trans hgainC.symm⟩,
      fun ht => ⟨(h.one ht).1, (h.one ht).2.1, hgainA⟩⟩
  refine ⟨hsound, fun hright => ?_⟩
  have hmax := ((rightC_iff h).mp hright).1
  rw [rightC_iff hsound, heq]
  show s.rfc.real.toNat ≤ 36 ∧ load32 (phyRegs s.regs) _ = txbbgain s.rfc.real ↔ _
  rw [hgainC, and_iff_right hmax]
  constructor
  · intro hentry
    have h12 := txbbgain_injective 12 (by decide) s.rfc.real.toNat (by omega) (by simpa using hentry)
    exact BitVec.eq_of_toNat_eq h12.symm
  · intro hreal
    rw [hreal]

/-! ## Runs -/

theorem step_sound (h : Sound s) (e : Event) :
    Sound (step s e) ∧ (RightC s → (RightC (step s e) ↔ Clean s e)) := by
  cases e with
  | track polls => exact dmTXPowerTrackingCallbackTSSI_sound h polls
  | channel channel =>
    have hkept : Kept s { s with channel := channel } := ⟨rfl, rfl, rfl, rfl, rfl, rfl⟩
    have hsound := h.of_kept hkept h.cck
    exact ⟨hsound, fun hr => iff_of_true ((rightC_of_kept h hsound hkept).mpr hr) trivial⟩
  | setBWMode bandwidth offset up =>
    obtain ⟨hkept, hsound⟩ := setBWMode_kept h bandwidth offset up
    exact ⟨hsound, fun hr => iff_of_true ((rightC_of_kept h hsound hkept).mpr hr) trivial⟩
  | silentReset restores => exact silentReset_sound h restores

theorem lower_rfType (s : State) : (lower s).rfType = s.rfType := by
  unfold lower
  split_ifs <;> rfl

theorem raise_rfType (s : State) : (raise s).rfType = s.rfType := by
  unfold raise
  dsimp only
  split_ifs <;> rfl

theorem step_rfType (h : Sound s) (e : Event) : (step s e).rfType = s.rfType := by
  cases e with
  | track polls =>
    show (dmTXPowerTrackingCallbackTSSI s polls).rfType = _
    unfold dmTXPowerTrackingCallbackTSSI
    split
    · rfl
    · rfl
    · split
      · rfl
      · rfl
      · rfl
      · exact (followIndex_kept (lower s)).1.rfType.trans (lower_rfType s)
      · exact (followIndex_kept (raise s)).1.rfType.trans (raise_rfType s)
  | channel channel => rfl
  | setBWMode bandwidth offset up => exact (setBWMode_kept h bandwidth offset up).1.rfType
  | silentReset restores =>
    show (silentReset s restores).rfType = _
    unfold silentReset
    dsimp only
    split <;> rfl

/-- The filter that the tables of the base band begin with is an entry of the table of the driver. -/
theorem phyRegs_filter (r : Regs) : phyRegs r (rCCK0TxFilter1 + 2) = 0x1b := by
  unfold phyRegs
  rw [store_of_not_mem (Or.inl (by decide)), store_of_not_mem (Or.inl (by decide)),
    store_of_mem (by decide) (by decide)]
  rfl

theorem poweredUp_sound (s : State) : Sound (poweredUp s) ∧ RightC (poweredUp s) := by
  obtain ⟨hgainA, hgainC⟩ := gains_phyRegs s.regs
  have hrfc : (poweredUp s).rfc = ⟨12, 12, 12⟩ := by
    show findIndex (load32 (phyRegs s.regs) rOFDM0XCTxIQImbalance) _ = _
    rw [hgainC]
    rfl
  have hcck : (poweredUp s).cckPresentAttentuation = 12 := by
    simp only [poweredUp, rtl8192AdapterStart, phyRegs_filter]
    rfl
  have hrfa (ht : s.rfType = .rf2T4R) : (poweredUp s).rfa = ⟨12, 12, 12⟩ := by
    simp only [poweredUp, rtl8192AdapterStart, if_pos ht, hgainA]
    rfl
  have hrfa' (ht : s.rfType ≠ .rf2T4R) : (poweredUp s).rfa = ⟨0, 0, 0⟩ := by
    simp only [poweredUp, rtl8192AdapterStart, if_neg ht]
  have hsound : Sound (poweredUp s) := by
    constructor
    · rfl
    · rw [hcck]
      decide
    · rw [hrfc]
      exact ⟨by decide, by decide, by decide, by decide⟩
    · intro ht
      rw [hrfc, hrfa ht]
      exact ⟨rfl, rfl, hgainA.trans hgainC.symm⟩
    · intro ht
      rw [hrfa' ht]
      exact ⟨rfl, rfl, hgainA⟩
  refine ⟨hsound, (rightC_iff hsound).mpr ?_⟩
  rw [hrfc]
  exact ⟨by decide, hgainC⟩

theorem rightA_iff (h : Sound s) (hright : RightC s) : RightA s ↔ s.rfType = .rf2T4R := by
  unfold RightA
  by_cases htype : s.rfType = .rf2T4R
  · refine iff_of_true ?_ htype
    rw [(h.both htype).2.2, (h.both htype).2.1]
    exact hright.2
  · refine iff_of_false ?_ htype
    rw [(h.one htype).2.2, (h.one htype).2.1]
    decide

/-- In a run, the indices stay in their tables and the register of path C follows its index exactly when
every step up has an entry to go to and every silent reset finds the second index at the twelfth entry. The
register of path A does so too exactly on boards with two transmitters. -/
theorem indices_right_iff (s : State) (es : List Event) :
    ((∀ fs, fs <+: es → RightC (exec step (poweredUp s) fs)) ↔ Meets step Clean (poweredUp s) es) ∧
    ((∀ fs, fs <+: es → RightC (exec step (poweredUp s) fs) ∧ RightA (exec step (poweredUp s) fs)) ↔
      s.rfType = .rf2T4R ∧ Meets step Clean (poweredUp s) es) := by
  obtain ⟨hsound, hright⟩ := poweredUp_sound s
  have hruns : Meets step Clean (poweredUp s) es ↔
      ∀ fs, fs <+: es → RightC (exec step (poweredUp s) fs) :=
    meets_iff_forall_prefixes (V := fun _ => True) (fun s e h _ _ _ => (step_sound h e).1)
      (fun s e h hr _ => (step_sound h e).2 hr) hsound hright fun _ _ => trivial
  -- The type of the board stays, and with it what path A is tracked by.
  have hstate (fs : List Event) :
      Sound (exec step (poweredUp s) fs) ∧ (exec step (poweredUp s) fs).rfType = s.rfType :=
    exec_inv (I := fun x => Sound x ∧ x.rfType = s.rfType) (C := fun _ _ => True)
      (fun x e h _ => ⟨(step_sound h.1 e).1, (step_rfType h.1 e).trans h.2⟩) ⟨hsound, rfl⟩
      (meets_of_forall fun _ _ => trivial)
  refine ⟨hruns.symm, ?_⟩
  rw [hruns]
  constructor
  · intro h
    obtain ⟨hrightC, hrightA⟩ := h [] (List.nil_prefix)
    exact ⟨(rightA_iff hsound hrightC).mp hrightA, fun fs hfs => (h fs hfs).1⟩
  · rintro ⟨htype, h⟩ fs hfs
    obtain ⟨hsound, hkept⟩ := hstate fs
    exact ⟨h fs hfs, (rightA_iff hsound (h fs hfs)).mpr (hkept.trans htype)⟩

/-! ## Two runs that go wrong -/

/-- A board with two transmitters and a target of 80 -/
def twoTransmitters : State where
  rfType := .rf2T4R
  drv := Channel.idleDriver .rf8256
  channel := 1
  tssi13dBm := 8000
  regs := fun _ => 0
  rfa := ⟨0, 0, 0⟩
  rfc := ⟨0, 0, 0⟩
  cckPresentAttentuation20Mdefault := 0
  cckPresentAttentuation40Mdefault := 0
  cckPresentAttentuationDifference := 0
  cckPresentAttentuation := 0
  bcckInCh14 := false
  btxpowerTrackingInit := false
  bdynamicTxpowerEnable := false
  pwTrackFlag := 0
  fwBusyFlag := 0

/-- The firmware reports the same value five times. -/
def reports (value : Byte) : Event := .track fun _ => ⟨1, false, 1, fun _ => value⟩

/-- Nine steps down leave the second index at 4, and 33 steps up take it out of the table; a silent reset
after one step down writes the twelfth entry, and the index says the eleventh. -/
theorem indices_out_of_table :
    (exec step (poweredUp twoTransmitters)
      (List.replicate 9 (reports 60) ++ List.replicate 33 (reports 100))).rfc.real = 37 ∧
    ¬ RightC (exec step (poweredUp twoTransmitters)
      (List.replicate 9 (reports 60) ++ List.replicate 33 (reports 100))) ∧
    (exec step (poweredUp twoTransmitters) [reports 60, .silentReset true]).rfc.real = 11 ∧
    ¬ RightC (exec step (poweredUp twoTransmitters) [reports 60, .silentReset true]) := by
  refine ⟨by decide +kernel, fun h => ?_, by decide +kernel, fun h => ?_⟩
  · have hout : ¬ (exec step (poweredUp twoTransmitters)
        (List.replicate 9 (reports 60) ++ List.replicate 33 (reports 100))).rfc.real.toNat < 37 := by
      decide +kernel
    exact hout h.1.rfc.2
  · have hentry : (exec step (poweredUp twoTransmitters) [reports 60, .silentReset true]).gainC ≠
        txbbgain (exec step (poweredUp twoTransmitters) [reports 60, .silentReset true]).rfc.real := by
      decide +kernel
    exact hentry h.2

end Rtl8190.PowerTracking
