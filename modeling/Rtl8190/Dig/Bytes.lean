import Rtl8190.Channel.InProgress
import Rtl8190.Dig.Code
import Mathlib.Tactic.FinCases

/-!
# The bytes of the initial gain

What each write does to the four gains, to the ratio and to the threshold of the power detection.
-/

open Rtl8190.Channel (BwWrite Driver HtChannelWidth bandwidthWrites bMaskByte0 rOFDM0RxDetector1)
open Rtl8190.Ht (HtExtchnlOffset)
open Rtl8190.Memory (Byte)
open Rtl8190.Phy (Path paths)
open Rtl8190.Power (setBBreg)
open Rtl8190.Registers

namespace Rtl8190.Dig

variable {s : State} {r : Regs}

/-- The bytes that the three parts write -/
inductive Watched : Nat → Prop where
  | gain (p : Path) : Watched (rOFDM0XAGCCore1 p)
  | csRatio : Watched csRatioRegister
  | pdTh : Watched rOFDM0RxDetector1

/-! ## Single writes -/

theorem store_one (r : Regs) (a : Nat) (v : Byte) : store 1 r a v = Function.update r a v := by
  funext x
  by_cases hx : x = a
  · rw [hx, store_byte, Function.update_self]
  · rw [store_of_not_mem (by omega), Function.update_of_ne hx]

theorem write_low (r : Regs) (f : Field) :
    Field.write r f f.addr = r f.addr &&& ~~~(f.mask.extractLsb' 0 8) ||| f.value.extractLsb' 0 8 :=
  Field.write_byte r f (show 0 < 4 by decide)

theorem fwDigOff_watched {x : Nat} (h : Watched x) : fwDigOff r x = r x := by
  apply Field.write_of_not_mem
  cases h with
  | gain p => exact Or.inr (by simp [setBBreg, ufwp, rOFDM0XAGCCore1]; omega)
  | csRatio => decide
  | pdTh => decide

theorem ufwp_watched {x : Nat} (h : Watched x) (v : Byte) : store 1 r ufwp v x = r x := by
  apply store_of_not_mem
  cases h with
  | gain p => exact Or.inr (by simp [ufwp, rOFDM0XAGCCore1]; omega)
  | csRatio => decide
  | pdTh => decide

theorem writeGains_gain (r : Regs) (v : Byte) (p : Path) : writeGains r v (rOFDM0XAGCCore1 p) = v := by
  unfold writeGains
  simp only [store_one, paths, List.foldl]
  fin_cases p <;> simp [rOFDM0XAGCCore1]

theorem writeGains_other (v : Byte) {x : Nat} (h : ∀ p, x ≠ rOFDM0XAGCCore1 p) :
    writeGains r v x = r x := by
  unfold writeGains
  simp only [store_one, paths, List.foldl, ne_eq, h, not_false_eq_true, Function.update_of_ne]

theorem csRatio_ne_gain (p : Path) : csRatioRegister ≠ rOFDM0XAGCCore1 p := by
  unfold csRatioRegister rOFDM0XAGCCore1
  omega

theorem pdTh_ne_gain (p : Path) : rOFDM0RxDetector1 ≠ rOFDM0XAGCCore1 p := by
  unfold rOFDM0RxDetector1 rOFDM0XAGCCore1
  omega

/-! ## The backup -/

theorem setWidth_and_shift {v mask : BitVec 32} {k : Nat} (h : ∀ i < 8, mask.getLsbD (k + i) = true) :
    ((v &&& mask) >>> k).setWidth 8 = v.extractLsb' k 8 := by
  apply BitVec.eq_of_getLsbD_eq
  intro i hi
  rw [BitVec.getLsbD_setWidth, BitVec.getLsbD_ushiftRight, BitVec.getLsbD_and, h i hi,
    BitVec.getLsbD_extractLsb', Bool.and_true]

theorem extract_shiftLeft (v : Byte) {k : Nat} (h : k + 8 ≤ 32) :
    (v.setWidth 32 <<< k).extractLsb' k 8 = v := by
  apply BitVec.eq_of_getLsbD_eq
  intro i hi
  rw [BitVec.getLsbD_extractLsb', BitVec.getLsbD_shiftLeft, BitVec.getLsbD_setWidth]
  simp [hi, show k + i < 32 by omega, show i < 32 by omega]

theorem readBackup_gain (r : Regs) (p : Path) :
    (readBackup r).xagccore1 p = r (rOFDM0XAGCCore1 p) := by
  have hread : (readBackup r).xagccore1 p =
      ((load32 r (rOFDM0XAGCCore1 p) &&& bMaskByte0) >>> 0).setWidth 8 := rfl
  rw [hread, setWidth_and_shift (by decide)]
  exact extract_load32 r _ (show 0 < 4 by decide)

theorem readBackup_cca (r : Regs) : (readBackup r).cca = r csRatioRegister := by
  have hread : (readBackup r).cca = ((load32 r rCCK0CCA &&& bMaskByte2) >>> 16).setWidth 8 := rfl
  rw [hread, setWidth_and_shift (by decide)]
  exact extract_load32 r _ (show 2 < 4 by decide)

theorem write_gainField (r : Regs) (v : Byte) (p q : Path) :
    Field.write r (setBBreg (rOFDM0XAGCCore1 p) 0x7f (v.setWidth 32)) (rOFDM0XAGCCore1 q) =
      if q = p then r (rOFDM0XAGCCore1 q) &&& 0x80 ||| v else r (rOFDM0XAGCCore1 q) := by
  -- The top bit of a gain is left alone.
  by_cases hq : q = p
  · subst hq
    rw [if_pos rfl]
    refine (write_low r (setBBreg (rOFDM0XAGCCore1 q) 0x7f (v.setWidth 32))).trans ?_
    have hmask : ~~~((setBBreg (rOFDM0XAGCCore1 q) 0x7f (v.setWidth 32)).mask.extractLsb' 0 8) = 0x80 := by
      simp [setBBreg]
    have hvalue : (setBBreg (rOFDM0XAGCCore1 q) 0x7f (v.setWidth 32)).value.extractLsb' 0 8 = v :=
      extract_shiftLeft v (k := 0) (by decide)
    rw [hmask, hvalue]
    rfl
  · rw [if_neg hq]
    apply Field.write_of_not_mem
    have hne : q.val ≠ p.val := fun h => hq (Fin.ext h)
    simp only [setBBreg, rOFDM0XAGCCore1]
    omega

theorem writeBackup_gain (b : InitgainBackup) (r : Regs) (p : Path) :
    writeBackup b r (rOFDM0XAGCCore1 p) = r (rOFDM0XAGCCore1 p) &&& 0x80 ||| b.xagccore1 p := by
  unfold writeBackup
  rw [Field.write_of_not_mem (by simp only [setBBreg, rCCK0CCA, rOFDM0XAGCCore1]; omega)]
  simp only [paths, List.foldl, write_gainField]
  fin_cases p <;> simp

theorem writeBackup_csRatio (b : InitgainBackup) (r : Regs) :
    writeBackup b r csRatioRegister = b.cca := by
  unfold writeBackup
  refine (Field.write_byte _ (setBBreg rCCK0CCA bMaskByte2 (b.cca.setWidth 32))
    (show 2 < 4 by decide)).trans ?_
  have hmask : ~~~((setBBreg rCCK0CCA bMaskByte2 (b.cca.setWidth 32)).mask.extractLsb' (8 * 2) 8) = 0 := by
    simp [setBBreg, bMaskByte2]
  have hvalue : (setBBreg rCCK0CCA bMaskByte2 (b.cca.setWidth 32)).value.extractLsb' (8 * 2) 8 = b.cca :=
    extract_shiftLeft b.cca (k := 16) (by decide)
  rw [hmask, hvalue]
  simp

theorem writeBackup_pdTh (b : InitgainBackup) (r : Regs) :
    writeBackup b r rOFDM0RxDetector1 = r rOFDM0RxDetector1 := by
  unfold writeBackup
  simp only [paths, List.foldl]
  repeat rw [Field.write_of_not_mem
    (by simp only [setBBreg, rCCK0CCA, rOFDM0XAGCCore1, rOFDM0RxDetector1]; decide)]

/-! ## `InitialGain819xPci`, with the algorithm that is chosen -/

theorem igBackup_eq (h : s.dig.digAlgorithm = .byRssi) :
    initialGain819xPci s .igBackup true = { s with
      initgainBackup := readBackup s.regs
      regs := store 1 (writeGains s.regs 0x17) csRatioRegister 0x08 } := by
  simp [initialGain819xPci, h]

theorem igRestore_eq (h : s.dig.digAlgorithm = .byRssi) :
    initialGain819xPci s .igRestore true = { s with regs := writeBackup s.initgainBackup s.regs } := by
  simp [initialGain819xPci, h]

theorem initialGain_down (operation : IgOperation) : initialGain819xPci s operation false = s := if_pos rfl

theorem backupWrites_gain (r : Regs) (p : Path) :
    store 1 (writeGains r 0x17) csRatioRegister 0x08 (rOFDM0XAGCCore1 p) = 0x17 := by
  have hne := csRatio_ne_gain p
  rw [store_of_not_mem (by omega), writeGains_gain]

theorem backupWrites_pdTh (r : Regs) :
    store 1 (writeGains r 0x17) csRatioRegister 0x08 rOFDM0RxDetector1 = r rOFDM0RxDetector1 := by
  rw [store_of_not_mem (by decide), writeGains_other _ pdTh_ne_gain]

/-! ## The tables of the base band -/

theorem adapterStart_gain (s : State) (p : Path) :
    (rtl8192AdapterStart s).regs (rOFDM0XAGCCore1 p) = 0x20 := by
  fin_cases p <;> rfl

/-! ## The bandwidth -/

def Misses (x : Nat) : BwWrite → Prop
  | .byte addr _ => x ≠ addr
  | .dword addr _ | .bbReg addr _ _ => x < addr ∨ addr + 4 ≤ x
  | .cckTxPowerTrackBwSwitch | .phySetRF8256Bandwidth _ => True

theorem applyBw_of_misses {x : Nat} {w : BwWrite} (h : Misses x w) : applyBw r w x = r x := by
  cases w with
  | byte addr value =>
    have hne : x ≠ addr := h
    exact store_of_not_mem (by omega)
  | dword addr value => exact store_of_not_mem h
  | bbReg addr mask data => exact Field.write_of_not_mem h
  | cckTxPowerTrackBwSwitch => rfl
  | phySetRF8256Bandwidth bandwidth => rfl

theorem foldl_applyBw_of_misses {x : Nat} {ws : List BwWrite} (h : ∀ w ∈ ws, Misses x w) (r : Regs) :
    ws.foldl applyBw r x = r x := by
  induction ws generalizing r with
  | nil => rfl
  | cons w ws ih =>
    rw [List.foldl_cons, ih fun w hw => h w (List.mem_cons_of_mem _ hw)]
    exact applyBw_of_misses (h w List.mem_cons_self)

def bwPdTh : HtChannelWidth → Byte
  | .width20 => 0x44
  | .width2040 => 0x42

theorem bandwidthWrites_misses (btxpowerTracking : Bool) (sc : Nat) (bandwidth : HtChannelWidth)
    {x : Nat} (h : Watched x) (hx : x ≠ rOFDM0RxDetector1) :
    ∀ w ∈ bandwidthWrites btxpowerTracking sc bandwidth, Misses x w := by
  have hrange : x = 0xa0a ∨ 0xc50 ≤ x ∧ x ≤ 0xc68 := by
    cases h with
    | gain p =>
      refine Or.inr ⟨?_, ?_⟩
      · exact Nat.le_add_right _ _
      · simp only [rOFDM0XAGCCore1]
        omega
    | csRatio => exact Or.inl rfl
    | pdTh => exact absurd rfl hx
  unfold bandwidthWrites
  cases bandwidth with
  | width20 =>
    simp only [List.forall_mem_append]
    refine ⟨⟨?_, ?_⟩, ?_⟩
    · simp [Misses, Channel.rFPGA0RFMOD, Channel.rFPGA1RFMOD]
      omega
    · split
      · simp [Misses, Channel.rCCK0TxFilter1, Channel.rCCK0TxFilter2, Channel.rCCK0DebugPort]
        omega
      · simp [Misses]
    · simp [Misses, Channel.rFPGA0AnalogParameter1, rOFDM0RxDetector1]
      omega
  | width2040 =>
    simp only [List.forall_mem_append]
    refine ⟨⟨⟨?_, ?_⟩, ?_⟩, ?_⟩
    · simp [Misses, Channel.rFPGA0RFMOD, Channel.rFPGA1RFMOD]
      omega
    · split
      · simp [Misses, Channel.rCCK0TxFilter1, Channel.rCCK0TxFilter2, Channel.rCCK0DebugPort]
        omega
      · simp [Misses]
    · simp [Misses, Channel.rCCK0System, Channel.rOFDM1LSTF, Channel.rFPGA0AnalogParameter1,
        rOFDM0RxDetector1]
      omega
    · split
      · simp [Misses, Channel.rFPGA0RFMOD]
        omega
      · split
        · simp [Misses, Channel.rFPGA0RFMOD]
          omega
        · simp

theorem applyBw_pdTh (r : Regs) (v : Byte) :
    applyBw r (.bbReg rOFDM0RxDetector1 bMaskByte0 (v.setWidth 32)) rOFDM0RxDetector1 = v := by
  refine (write_low r (setBBreg rOFDM0RxDetector1 bMaskByte0 (v.setWidth 32))).trans ?_
  have hmask : ~~~((setBBreg rOFDM0RxDetector1 bMaskByte0 (v.setWidth 32)).mask.extractLsb' 0 8) = 0 := by
    simp [setBBreg, bMaskByte0]
  have hvalue : (setBBreg rOFDM0RxDetector1 bMaskByte0 (v.setWidth 32)).value.extractLsb' 0 8 = v :=
    extract_shiftLeft v (k := 0) (by decide)
  rw [hmask, hvalue]
  simp

theorem bandwidthWrites_pdTh (btxpowerTracking : Bool) (sc : Nat) (bandwidth : HtChannelWidth) (r : Regs) :
    (bandwidthWrites btxpowerTracking sc bandwidth).foldl applyBw r rOFDM0RxDetector1 =
      bwPdTh bandwidth := by
  unfold bandwidthWrites
  cases bandwidth with
  | width20 =>
    dsimp only
    rw [List.foldl_append]
    exact applyBw_pdTh _ 0x44
  | width2040 =>
    dsimp only
    rw [List.foldl_append, foldl_applyBw_of_misses, List.foldl_append]
    · exact applyBw_pdTh _ 0x42
    · split
      · simp [Misses, rOFDM0RxDetector1, Channel.rFPGA0RFMOD]
      · split
        · simp [Misses, rOFDM0RxDetector1, Channel.rFPGA0RFMOD]
        · simp

/-- What the work item of the bandwidth switch is called on finds the interface up and a chip it knows. -/
def CarriedOut (s : State) (up : Bool) : Prop := s.drv.sw.rfChip ≠ .rfPseudo11N ∧ up = true

instance (s : State) (up : Bool) : Decidable (CarriedOut s up) :=
  inferInstanceAs (Decidable (s.drv.sw.rfChip ≠ .rfPseudo11N ∧ up = true))

theorem workItem_writes {d : Driver} (h : d.bwWrites = []) :
    (Channel.rtl8192SetBWModeWorkItem d).currentChannelBW = d.currentChannelBW ∧
      ((d.sw.rfChip ≠ .rfPseudo11N ∧ d.sw.up = true →
        ∃ v rest, (Channel.rtl8192SetBWModeWorkItem d).bwWrites = [.byte Channel.bwOpmode v] ++
            bandwidthWrites d.btxpowerTracking d.nCur40MhzPrimeSC d.currentChannelBW ++ rest ∧
          ∀ w ∈ rest, ∀ x, Misses x w) ∧
      (¬ (d.sw.rfChip ≠ .rfPseudo11N ∧ d.sw.up = true) →
        (Channel.rtl8192SetBWModeWorkItem d).bwWrites = [])) := by
  unfold Channel.rtl8192SetBWModeWorkItem
  by_cases hchip : d.sw.rfChip = .rfPseudo11N
  · simp [hchip, h]
  · by_cases hup : d.sw.up = true
    · rw [if_neg hchip, if_neg (by simp [hup])]
      refine ⟨rfl, fun _ => ⟨_, _, congrArg (· ++ _ ++ _ ++ _) h, ?_⟩,
        fun hnot => absurd ⟨hchip, hup⟩ hnot⟩
      split
      · simp [Misses]
      · simp
    · simp [hchip, hup, h]

theorem bwOpmode_misses {x : Nat} (h : Watched x) (v : Byte) : Misses x (.byte Channel.bwOpmode v) := by
  cases h with
  | gain p =>
    simp only [Misses, rOFDM0XAGCCore1, Channel.bwOpmode]
    omega
  | csRatio => exact nofun
  | pdTh => exact nofun

theorem setBWMode_busy (h : s.drv.setBWModeInProgress = true) (bandwidth : HtChannelWidth)
    (offset : HtExtchnlOffset) (up : Bool) :
    (setBWMode s bandwidth offset up).drv.currentChannelBW = s.drv.currentChannelBW ∧
      (setBWMode s bandwidth offset up).regs = s.regs := by
  have hdrv := Channel.setBWMode_stuck
    (s := { s.drv with sw := { s.drv.sw with up := up }, bwWrites := [] }) h bandwidth offset
  have hbw := congrArg Driver.currentChannelBW hdrv
  have hregs := congrArg (fun drv : Driver => drv.bwWrites.foldl applyBw s.regs) hdrv
  exact ⟨hbw, hregs⟩

theorem setBWMode_free (h : s.drv.setBWModeInProgress = false) (bandwidth : HtChannelWidth)
    (offset : HtExtchnlOffset) (up : Bool) :
    (setBWMode s bandwidth offset up).drv.currentChannelBW = bandwidth ∧
      (setBWMode s bandwidth offset up).regs rOFDM0RxDetector1 =
        (if CarriedOut s up then bwPdTh bandwidth else s.regs rOFDM0RxDetector1) ∧
      ∀ x, Watched x → x ≠ rOFDM0RxDetector1 → (setBWMode s bandwidth offset up).regs x = s.regs x := by
  -- The bandwidth, the threshold and the other bytes after a switch.
  have hdrv := Channel.setBWMode_of_clear
    (s := { s.drv with sw := { s.drv.sw with up := up }, bwWrites := [] }) h bandwidth offset
  have hregs : (setBWMode s bandwidth offset up).regs = _ :=
    congrArg (fun drv : Driver => drv.bwWrites.foldl applyBw s.regs) hdrv
  obtain ⟨hbw, hcarried, hnot⟩ := workItem_writes
    (d := Channel.requested { s.drv with sw := { s.drv.sw with up := up }, bwWrites := [] } bandwidth
      offset) rfl
  refine ⟨(congrArg Driver.currentChannelBW hdrv).trans hbw, ?_⟩
  rw [hregs]
  by_cases hdone : CarriedOut s up
  · obtain ⟨v, rest, hwrites, hrest⟩ := hcarried hdone
    rw [hwrites, List.foldl_append, List.foldl_append, if_pos hdone]
    refine ⟨?_, fun x hx hne => ?_⟩
    · rw [foldl_applyBw_of_misses fun w hw => hrest w hw _, bandwidthWrites_pdTh]
      rfl
    · rw [foldl_applyBw_of_misses fun w hw => hrest w hw _,
        foldl_applyBw_of_misses (bandwidthWrites_misses _ _ _ hx hne)]
      exact applyBw_of_misses (bwOpmode_misses hx v)
  · rw [hnot hdone, if_neg hdone]
    exact ⟨rfl, fun x _ _ => rfl⟩

end Rtl8190.Dig
