import Rtl8190.Dig.Bytes
import Rtl8190.Lib.Cached

/-!
# A tick of the dynamic initial gain

The three parts are cached writes: each is right from a state that is due.
-/

open Rtl8190.Cached
open Rtl8190.Channel (HtChannelWidth rOFDM0RxDetector1)
open Rtl8190.Memory (Byte)
open Rtl8190.Phy (Path paths)
open Rtl8190.Registers

namespace Rtl8190.Dig

variable {s : State}

/-! ## What calls for a write -/

def State.nextCount (s : State) : BitVec 32 :=
  if s.bResetInProgress then s.resetCount + 1 else s.resetCount

def Statics.Wanted (st : Statics) (limit : Nat) (count : BitVec 32) : Prop :=
  st.initialized ≤ limit ∨ st.forceWrite = true ∨ count ≠ st.resetCnt

instance (st : Statics) (limit : Nat) (count : BitVec 32) : Decidable (st.Wanted limit count) :=
  inferInstanceAs (Decidable (st.initialized ≤ limit ∨ st.forceWrite = true ∨ count ≠ st.resetCnt))

/-- What a part has looked at before it chooses to write -/
def Statics.Writes (st : Statics) (limit : Nat) (digAlgorithmSwitch : Bool) (count : BitVec 32) : Prop :=
  ((st.switched digAlgorithmSwitch).counted count).initialized ≤ limit ∨
    ((st.switched digAlgorithmSwitch).counted count).forceWrite = true

instance (st : Statics) (limit : Nat) (sw : Bool) (count : BitVec 32) :
    Decidable (st.Writes limit sw count) :=
  inferInstanceAs (Decidable (((st.switched sw).counted count).initialized ≤ limit ∨
    ((st.switched sw).counted count).forceWrite = true))

theorem Statics.Wanted.writes {st : Statics} {limit : Nat} {count : BitVec 32} (h : st.Wanted limit count)
    (digAlgorithmSwitch : Bool) : st.Writes limit digAlgorithmSwitch count := by
  unfold Statics.Writes Statics.switched Statics.counted
  unfold Statics.Wanted at h
  grind

def State.pdCopy (s : State) : Copy PdThstate Byte := ⟨s.regs rOFDM0RxDetector1, s.dig.prepdThstate⟩

def State.csCopy (s : State) : Copy CsRatioState Byte := ⟨s.regs csRatioRegister, s.dig.precsRatioState⟩

def PdWanted (s : State) : Prop := s.pdTh.Wanted 3 s.nextCount

def CsWanted (s : State) : Prop := s.csRatio.Wanted 0 s.nextCount

def PdDue (s : State) : Prop := Due (pdThValue s.drv.currentChannelBW) (PdWanted s) s.pdCopy

def CsDue (s : State) : Prop := Due csRatioValue (CsWanted s) s.csCopy

/-! ## The parts -/

theorem dmPdTh_spec (s : State) :
    ∃ r pre st, dmPdTh s = { s with
        regs := r
        dig := { s.dig with curpdThstate := choosePdThstate s.dig, prepdThstate := pre }
        pdTh := st } ∧
      ⟨r rOFDM0RxDetector1, pre⟩ = refresh (pdThValue s.drv.currentChannelBW)
        (s.pdTh.Writes 3 s.dig.digAlgorithmSwitch s.resetCount) s.pdCopy (choosePdThstate s.dig) ∧
      ∀ x, x ≠ rOFDM0RxDetector1 → r x = s.regs x := by
  unfold dmPdTh
  dsimp only
  split
  · rename_i hwrite
    refine ⟨_, _, _, rfl, ?_, fun x hx => store_of_not_mem (by omega)⟩
    rw [store_byte]
    exact (refresh_of_write hwrite).symm
  · rename_i hskip
    exact ⟨s.regs, s.dig.prepdThstate, _, rfl, (refresh_of_skip hskip).symm, fun x _ => rfl⟩

theorem dmCsRatio_spec (s : State) :
    ∃ r pre st, dmCsRatio s = { s with
        regs := r
        dig := { s.dig with curcsRatioState := chooseCsRatioState s.dig, precsRatioState := pre }
        csRatio := st } ∧
      ⟨r csRatioRegister, pre⟩ = refresh csRatioValue
        (s.csRatio.Writes 0 s.dig.digAlgorithmSwitch s.resetCount) s.csCopy (chooseCsRatioState s.dig) ∧
      ∀ x, x ≠ csRatioRegister → r x = s.regs x := by
  unfold dmCsRatio
  dsimp only
  split
  · rename_i hwrite
    refine ⟨_, _, _, rfl, ?_, fun x hx => store_of_not_mem (by omega)⟩
    rw [store_byte]
    exact (refresh_of_write (hwrite.imp_right fun h => h.imp_left Nat.le_zero.mpr)).symm
  · rename_i hskip
    refine ⟨s.regs, s.dig.precsRatioState, _, rfl, ?_, fun x _ => rfl⟩
    exact (refresh_of_skip fun h => hskip (h.imp_right fun h => h.imp_left Nat.le_zero.mp)).symm

/-! ## The gain -/

def DigTable.InRange (dig : DigTable) (v : BitVec 32) : Prop :=
  dig.rxGainRangeMin.toNat ≤ v.toNat ∧ v.toNat ≤ dig.rxGainRangeMax.toNat

def DigTable.MayChoose (dig : DigTable) (defaultInitialGain : Byte) (v : BitVec 32) : Prop :=
  v = defaultInitialGain.setWidth 32 ∨ dig.InRange v

structure GainSound (s : State) : Prop where
  ranges : s.dig.rxGainRangeMin.toNat ≤ s.dig.rxGainRangeMax.toNat
  same : s.dig.preIgValue = s.dig.curIgValue
  chosen : s.dig.curIgValue = 0 ∨ s.dig.MayChoose s.defaultInitialGain s.dig.curIgValue
  level : ∀ p, s.regs (rOFDM0XAGCCore1 p) = s.regs (rOFDM0XAGCCore1 0)

theorem chooseIgValue_spec (d : Byte) (dig : DigTable) :
    ∃ pre cur, chooseIgValue d dig = { dig with preIgValue := pre, curIgValue := cur } ∧
      (dig.rxGainRangeMin.toNat ≤ dig.rxGainRangeMax.toNat → dig.preIgValue = dig.curIgValue →
        dig.curIgValue = 0 ∨ dig.MayChoose d dig.curIgValue → dig.MayChoose d cur) := by
  unfold chooseIgValue
  split
  · split
    · refine ⟨dig.preIgValue, _, rfl, fun hle _ _ => Or.inr ?_⟩
      have hmax := dig.rxGainRangeMax.isLt
      unfold DigTable.InRange
      split
      · rw [BitVec.toNat_setWidth]
        omega
      · split
        · rw [BitVec.toNat_setWidth]
          omega
        · rw [BitVec.toNat_ofInt]
          omega
    · split
      · exact ⟨_, _, rfl, fun _ _ _ => Or.inl rfl⟩
      · rename_i hne
        refine ⟨_, _, rfl, fun _ hsame hchosen => ?_⟩
        rw [hsame]
        exact hchosen.resolve_left hne
  · exact ⟨_, _, rfl, fun _ _ _ => Or.inl rfl⟩

theorem DigTable.MayChoose.byte {dig : DigTable} {d : Byte} {v : BitVec 32} (h : dig.MayChoose d v) :
    (v.setWidth 8).setWidth 32 = v := by
  have hlt : v.toNat < 256 := by
    rcases h with rfl | h
    · rw [BitVec.toNat_setWidth]
      omega
    · exact lt_of_le_of_lt h.2 dig.rxGainRangeMax.isLt
  apply BitVec.eq_of_toNat_eq
  simp only [BitVec.toNat_setWidth]
  omega

theorem dmInitialGain_spec (s : State) :
    ∃ r pre cur st, dmInitialGain s = { s with
        regs := r
        dig := { s.dig with preIgValue := pre, curIgValue := cur }
        initialGain := st } ∧
      (∀ x, (∀ p, x ≠ rOFDM0XAGCCore1 p) → r x = s.regs x) ∧
      (GainSound s → pre = cur ∧ (∀ p, r (rOFDM0XAGCCore1 p) = r (rOFDM0XAGCCore1 0)) ∧
        (cur = 0 ∨ s.dig.MayChoose s.defaultInitialGain cur) ∧
        (s.beScanInprogress = false → s.dig.MayChoose s.defaultInitialGain cur ∧
          (r (rOFDM0XAGCCore1 0)).setWidth 32 = pre)) := by
  obtain ⟨pre, cur, hchoose, hmay⟩ := chooseIgValue_spec s.defaultInitialGain s.dig
  unfold dmInitialGain
  rw [hchoose]
  dsimp only
  split
  · rename_i hscan
    refine ⟨s.regs, s.dig.preIgValue, s.dig.curIgValue, _, rfl, fun _ _ => rfl, fun h => ?_⟩
    exact ⟨h.same, h.level, h.chosen, fun hno => absurd hscan (by simp [hno])⟩
  · split
    · refine ⟨_, _, _, _, rfl, fun x hx => writeGains_other _ hx, fun h => ?_⟩
      have hcur := hmay h.ranges h.same h.chosen
      refine ⟨rfl, fun p => ?_, Or.inr hcur, fun _ => ⟨hcur, ?_⟩⟩
      · rw [writeGains_gain, writeGains_gain]
      · rw [writeGains_gain]
        exact hcur.byte
    · rename_i hskip
      refine ⟨s.regs, pre, cur, _, rfl, fun _ _ => rfl, fun h => ?_⟩
      have hcur := hmay h.ranges h.same h.chosen
      obtain ⟨hsame, hwrites⟩ := not_or.mp hskip
      refine ⟨not_not.mp hsame, h.level, Or.inr hcur, fun _ => ⟨hcur, ?_⟩⟩
      -- a register that does not hold the gain would have forced the write
      by_contra hne
      refine (not_or.mp hwrites).2 ?_
      rw [Statics.compared, if_pos fun h => hne h.symm]

theorem nextCount_of_not_reset (h : s.bResetInProgress = false) : s.nextCount = s.resetCount :=
  if_neg (by simp [h])

theorem PdDue.dmPdTh (h : PdDue s) (hreset : s.bResetInProgress = false) :
    (dmPdTh s).regs rOFDM0RxDetector1 =
      pdThValue s.drv.currentChannelBW (choosePdThstate s.dig) := by
  obtain ⟨r, pre, st, heq, hcopy, -⟩ := dmPdTh_spec s
  have hdue := h.mono (w := s.pdTh.Writes 3 s.dig.digAlgorithmSwitch s.resetCount) fun hw => by
    rw [PdWanted, nextCount_of_not_reset hreset] at hw
    exact hw.writes _
  rw [heq, ← held_refresh hdue, ← hcopy]

end Rtl8190.Dig
