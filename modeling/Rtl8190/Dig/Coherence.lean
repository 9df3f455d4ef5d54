import Rtl8190.Dig.Tick
import Rtl8190.Lib.Run

/-!
# Coherence of the dynamic initial gain

A tick with no scan in progress leaves the registers as its states say, if what was written behind the
controls since their last write agrees with the states, or a write is wanted anyway.
-/

open Rtl8190.Cached
open Rtl8190.Channel (HtChannelWidth rOFDM0RxDetector1)
open Rtl8190.Memory (Byte)
open Rtl8190.Phy (Path paths)
open Rtl8190.Registers
open Rtl8190.Run

namespace Rtl8190.Dig

variable {s t : State}

/-! ## What is to hold -/

/-- The registers after a tick with no scan in progress -/
structure Right (s : State) : Prop where
  pdTh : s.regs rOFDM0RxDetector1 = pdThValue s.drv.currentChannelBW s.dig.curpdThstate
  csRatio : s.regs csRatioRegister = csRatioValue s.dig.curcsRatioState
  gains : ∀ p, (s.regs (rOFDM0XAGCCore1 p)).setWidth 32 = s.dig.preIgValue
  chosen : s.dig.MayChoose s.defaultInitialGain s.dig.preIgValue

def NoScan (s : State) : Prop := s.beScanInprogress = false ∧ s.wxSyncScan = false

structure Coherent (s : State) : Prop where
  enabled : s.dig.digEnableFlag = true
  algorithm : s.dig.digAlgorithm = .byRssi
  first : s.card8192Version > Channel.version8190BD → s.defaultInitialGain = 0x20
  gain : GainSound s
  backup : ∀ p, s.initgainBackup.xagccore1 p = s.initgainBackup.xagccore1 0
  pdTh : PdDue s
  csRatio : s.wxSyncScan = false → CsDue s
  reset : s.bResetInProgress = true → PdWanted s ∧ CsWanted s

def Allowed (s : State) : Event → Prop
  | .tick _ | .resetBegin | .resetRefused => s.bResetInProgress = false
  | .adapterStart | .resetEnd _ => s.bResetInProgress = true
  | _ => True

/-- What is written behind the controls agrees with their states, or a write is wanted anyway; the count
of resets has not come round to the one that they know. -/
def Clean (s : State) : Event → Prop
  | .setBWMode bandwidth _ up =>
    s.drv.setBWModeInProgress = true ∨ PdWanted s ∨
      if CarriedOut s up then s.dig.prepdThstate = .atNormalPower
      else s.regs rOFDM0RxDetector1 = pdThValue bandwidth s.dig.prepdThstate
  | .initialGain .igRestore up =>
    CsWanted s ∨ (if up then s.initgainBackup.cca else s.regs csRatioRegister) =
      csRatioValue s.dig.precsRatioState
  | .resetBegin | .resetRefused =>
    s.resetCount + 1 ≠ s.pdTh.resetCnt ∧ s.resetCount + 1 ≠ s.csRatio.resetCnt
  | _ => True

/-! ## States that look the same to a control -/

theorem PdDue.congr (h : PdDue s) (hbw : t.drv.currentChannelBW = s.drv.currentChannelBW)
    (hwanted : PdWanted s → PdWanted t) (hreg : t.regs rOFDM0RxDetector1 = s.regs rOFDM0RxDetector1)
    (hstate : t.dig.prepdThstate = s.dig.prepdThstate) : PdDue t := by
  unfold PdDue State.pdCopy at *
  rw [hbw, hreg, hstate]
  exact h.mono hwanted

theorem CsDue.congr (h : CsDue s) (hwanted : CsWanted s → CsWanted t)
    (hreg : t.regs csRatioRegister = s.regs csRatioRegister)
    (hstate : t.dig.precsRatioState = s.dig.precsRatioState) : CsDue t := by
  unfold CsDue State.csCopy at *
  rw [hreg, hstate]
  exact h.mono hwanted

theorem beginTick_watched {x : Nat} (h : Watched x) : (beginTick s).regs x = s.regs x := by
  have hoff : ∀ r : Regs, Field.write r (Power.setBBreg ufwp bMaskByte1 0x8) x = r x := fun r =>
    fwDigOff_watched h
  unfold beginTick
  dsimp only
  generalize (if s.dig.digAlgorithmSwitch = true then 0 else s.fwDig) = fwDig
  split
  · simp only [List.foldl, hoff]
  · rfl

/-! ## A tick -/

theorem Coherent.beginTick (h : Coherent s) : Coherent (beginTick s) := by
  have hpd : (Dig.beginTick s).regs rOFDM0RxDetector1 = s.regs rOFDM0RxDetector1 :=
    beginTick_watched .pdTh
  have hcs : (Dig.beginTick s).regs csRatioRegister = s.regs csRatioRegister := beginTick_watched .csRatio
  refine ⟨h.enabled, h.algorithm, h.first, ⟨h.gain.ranges, h.gain.same, h.gain.chosen, fun p => ?_⟩,
    h.backup, h.pdTh.congr rfl id hpd rfl, fun hscan => (h.csRatio hscan).congr id hcs rfl, h.reset⟩
  rw [beginTick_watched (.gain p), beginTick_watched (.gain 0)]
  exact h.gain.level p

theorem Coherent.initialGain (h : Coherent s) :
    Coherent (dmInitialGain s) ∧
      (s.beScanInprogress = false →
        (∀ p, ((dmInitialGain s).regs (rOFDM0XAGCCore1 p)).setWidth 32 =
          (dmInitialGain s).dig.preIgValue) ∧
        (dmInitialGain s).dig.MayChoose s.defaultInitialGain (dmInitialGain s).dig.preIgValue) := by
  obtain ⟨r, pre, cur, st, heq, hother, hgain⟩ := dmInitialGain_spec s
  obtain ⟨hsame, hlevel, hchosen, hright⟩ := hgain h.gain
  have hpd : r rOFDM0RxDetector1 = s.regs rOFDM0RxDetector1 := hother _ pdTh_ne_gain
  have hcs : r csRatioRegister = s.regs csRatioRegister := hother _ csRatio_ne_gain
  rw [heq]
  constructor
  · exact ⟨h.enabled, h.algorithm, h.first, ⟨h.gain.ranges, hsame, hchosen, hlevel⟩, h.backup,
      h.pdTh.congr rfl id hpd rfl, fun hscan => (h.csRatio hscan).congr id hcs rfl, h.reset⟩
  · intro hscan
    obtain ⟨hmay, hfirst⟩ := hright hscan
    exact ⟨fun p => (congrArg (BitVec.setWidth 32) (hlevel p)).trans hfirst, hsame ▸ hmay⟩

theorem Coherent.pdThreshold (h : Coherent s) (hreset : s.bResetInProgress = false) :
    Coherent (dmPdTh s) ∧ (dmPdTh s).regs rOFDM0RxDetector1 =
      pdThValue s.drv.currentChannelBW (dmPdTh s).dig.curpdThstate := by
  obtain ⟨r, pre, st, heq, hcopy, hother⟩ := dmPdTh_spec s
  have hdue := h.pdTh.mono (w := s.pdTh.Writes 3 s.dig.digAlgorithmSwitch s.resetCount) fun hw => by
    rw [PdWanted, nextCount_of_not_reset hreset] at hw
    exact hw.writes _
  have hheld : r rOFDM0RxDetector1 = pdThValue s.drv.currentChannelBW (choosePdThstate s.dig) :=
    (congrArg Copy.held hcopy).trans (held_refresh hdue)
  have hkey : pre = choosePdThstate s.dig := (congrArg Copy.key hcopy).trans key_refresh
  have hcs : r csRatioRegister = s.regs csRatioRegister := hother _ (by decide)
  rw [heq]
  refine ⟨⟨h.enabled, h.algorithm, h.first,
    ⟨h.gain.ranges, h.gain.same, h.gain.chosen, fun p => ?_⟩, h.backup, Or.inr ?_,
    fun hscan => (h.csRatio hscan).congr id hcs rfl, fun hno => ?_⟩, hheld⟩
  · have hne := fun p => (pdTh_ne_gain p).symm
    refine (hother _ (hne p)).trans ((h.gain.level p).trans (hother _ (hne 0)).symm)
  · exact hheld.trans (congrArg (pdThValue s.drv.currentChannelBW) hkey.symm)
  · exact absurd (hreset.symm.trans hno) (by decide)

theorem Coherent.ratio (h : Coherent s) (hreset : s.bResetInProgress = false) :
    Coherent (dmCsRatio s) ∧ (s.wxSyncScan = false →
      (dmCsRatio s).regs csRatioRegister = csRatioValue (dmCsRatio s).dig.curcsRatioState) := by
  obtain ⟨r, pre, st, heq, hcopy, hother⟩ := dmCsRatio_spec s
  have hheld : s.wxSyncScan = false → r csRatioRegister = csRatioValue (chooseCsRatioState s.dig) := by
    intro hscan
    have hdue := (h.csRatio hscan).mono (w := s.csRatio.Writes 0 s.dig.digAlgorithmSwitch s.resetCount)
      fun hw => by
        rw [CsWanted, nextCount_of_not_reset hreset] at hw
        exact hw.writes _
    exact (congrArg Copy.held hcopy).trans (held_refresh hdue)
  have hkey : pre = chooseCsRatioState s.dig := (congrArg Copy.key hcopy).trans key_refresh
  have hpd : r rOFDM0RxDetector1 = s.regs rOFDM0RxDetector1 := hother _ (by decide)
  rw [heq]
  refine ⟨⟨h.enabled, h.algorithm, h.first,
    ⟨h.gain.ranges, h.gain.same, h.gain.chosen, fun p => ?_⟩, h.backup, h.pdTh.congr rfl id hpd rfl,
    fun hscan => Or.inr ?_, fun hno => ?_⟩, hheld⟩
  · have hne := fun p => (csRatio_ne_gain p).symm
    exact (hother _ (hne p)).trans ((h.gain.level p).trans (hother _ (hne 0)).symm)
  · exact (hheld hscan).trans (congrArg csRatioValue hkey.symm)
  · exact absurd (hreset.symm.trans hno) (by decide)

theorem Coherent.endTick (h : Coherent s) :
    Coherent { s with dig := { s.dig with
      digAlgorithmSwitch := false, preSTAConnectState := s.dig.curSTAConnectState } } :=
  ⟨h.enabled, h.algorithm, h.first, ⟨h.gain.ranges, h.gain.same, h.gain.chosen, h.gain.level⟩,
    h.backup, h.pdTh, h.csRatio, h.reset⟩

theorem Coherent.tick (h : Coherent s) (hreset : s.bResetInProgress = false) :
    Coherent (dmCtrlInitgainByrssiByDriverrssi s) ∧
      (NoScan s → Right (dmCtrlInitgainByrssiByDriverrssi s)) := by
  obtain ⟨h1, hgain⟩ := h.beginTick.initialGain
  obtain ⟨r1, pre1, cur1, st1, heq1, -, -⟩ := dmInitialGain_spec (Dig.beginTick s)
  have hreset1 : (dmInitialGain (Dig.beginTick s)).bResetInProgress = false := by rw [heq1]; exact hreset
  obtain ⟨h2, hpd⟩ := h1.pdThreshold hreset1
  obtain ⟨r2, pre2, st2, heq2, -, hother2⟩ := dmPdTh_spec (dmInitialGain (Dig.beginTick s))
  have hreset2 : (dmPdTh (dmInitialGain (Dig.beginTick s))).bResetInProgress = false := by
    rw [heq2]
    exact hreset1
  obtain ⟨h3, hcs⟩ := h2.ratio hreset2
  obtain ⟨r3, pre3, st3, heq3, -, hother3⟩ := dmCsRatio_spec (dmPdTh (dmInitialGain (Dig.beginTick s)))
  unfold dmCtrlInitgainByrssiByDriverrssi
  rw [if_neg (by simp [h.enabled])]
  dsimp only
  refine ⟨h3.endTick, fun hscan => ?_⟩
  have hwx : (dmPdTh (dmInitialGain (Dig.beginTick s))).wxSyncScan = false := by
    rw [heq2, heq1]
    exact hscan.2
  obtain ⟨hgains, hmay⟩ := hgain hscan.1
  constructor
  · have hkeep : (dmCsRatio (dmPdTh (dmInitialGain (Dig.beginTick s)))).regs rOFDM0RxDetector1 =
        (dmPdTh (dmInitialGain (Dig.beginTick s))).regs rOFDM0RxDetector1 := by
      rw [heq3]
      exact hother3 _ (by decide)
    rw [hkeep, hpd, heq3, heq2]
  · exact hcs hwx
  · intro p
    have hkeep3 : (dmCsRatio (dmPdTh (dmInitialGain (Dig.beginTick s)))).regs (rOFDM0XAGCCore1 p) =
        (dmPdTh (dmInitialGain (Dig.beginTick s))).regs (rOFDM0XAGCCore1 p) := by
      rw [heq3]
      exact hother3 _ (csRatio_ne_gain p).symm
    have hkeep2 : (dmPdTh (dmInitialGain (Dig.beginTick s))).regs (rOFDM0XAGCCore1 p) =
        (dmInitialGain (Dig.beginTick s)).regs (rOFDM0XAGCCore1 p) := by
      rw [heq2]
      exact hother2 _ (pdTh_ne_gain p).symm
    rw [hkeep3, hkeep2, hgains p, heq3, heq2]
  · rw [heq1] at hmay
    rw [heq3, heq2, heq1]
    exact hmay

/-! ## The other steps -/

theorem bwPdTh_eq (bandwidth : HtChannelWidth) : bwPdTh bandwidth = pdThValue bandwidth .atNormalPower := by
  cases bandwidth <;> rfl

theorem Coherent.setBWMode (h : Coherent s) {bandwidth : HtChannelWidth} {offset : Ht.HtExtchnlOffset}
    {up : Bool} (hc : Clean s (.setBWMode bandwidth offset up)) :
    Coherent (setBWMode s bandwidth offset up) := by
  cases hbusy : s.drv.setBWModeInProgress with
  | true =>
    obtain ⟨hbw, hregs⟩ := setBWMode_busy hbusy bandwidth offset up
    refine ⟨h.enabled, h.algorithm, h.first, ⟨h.gain.ranges, h.gain.same, h.gain.chosen, ?_⟩, h.backup,
      h.pdTh.congr hbw id (congrFun hregs _) rfl,
      fun hscan => (h.csRatio hscan).congr id (congrFun hregs _) rfl, h.reset⟩
    rw [hregs]
    exact h.gain.level
  | false =>
    obtain ⟨hbw, hpd, hother⟩ := setBWMode_free hbusy bandwidth offset up
    have hgain := fun p => hother _ (.gain p) (pdTh_ne_gain p).symm
    refine ⟨h.enabled, h.algorithm, h.first, ⟨h.gain.ranges, h.gain.same, h.gain.chosen, fun p => ?_⟩,
      h.backup, ?_, fun hscan => (h.csRatio hscan).congr id (hother _ .csRatio (by decide)) rfl, h.reset⟩
    · rw [hgain p, hgain 0]
      exact h.gain.level p
    · rcases hc with hc | hwanted | hc
      · exact absurd (hbusy.symm.trans hc) (by decide)
      · exact Or.inl hwanted
      · refine Or.inr (hpd.trans ?_)
        have hkeep : (Dig.setBWMode s bandwidth offset up).pdCopy.key = s.dig.prepdThstate := rfl
        rw [hbw, hkeep]
        split
        · rename_i hdone
          rw [if_pos hdone] at hc
          rw [hc, bwPdTh_eq]
        · rename_i hnot
          rw [if_neg hnot] at hc
          exact hc

theorem Coherent.initialGain819xPci (h : Coherent s) {operation : IgOperation} {up : Bool}
    (hc : Clean s (.initialGain operation up)) : Coherent (step s (.initialGain operation up)) := by
  cases up with
  | false =>
    have hstep : step s (.initialGain operation false) =
        { s with wxSyncScan := operation = .igBackup } := by
      simp only [step, initialGain_down]
    rw [hstep]
    refine ⟨h.enabled, h.algorithm, h.first, ⟨h.gain.ranges, h.gain.same, h.gain.chosen, h.gain.level⟩,
      h.backup, h.pdTh, fun hscan => ?_, h.reset⟩
    cases operation with
    | igBackup => cases hscan
    | igRestore => exact hc
  | true =>
    cases operation with
    | igBackup =>
      simp only [step, igBackup_eq h.algorithm]
      refine ⟨h.enabled, h.algorithm, h.first, ⟨h.gain.ranges, h.gain.same, h.gain.chosen, fun p => ?_⟩,
        fun p => ?_, h.pdTh.congr rfl id (backupWrites_pdTh _) rfl, nofun, h.reset⟩
      · exact (backupWrites_gain s.regs p).trans (backupWrites_gain s.regs 0).symm
      · exact (readBackup_gain s.regs p).trans ((h.gain.level p).trans (readBackup_gain s.regs 0).symm)
    | igRestore =>
      simp only [step, igRestore_eq h.algorithm]
      refine ⟨h.enabled, h.algorithm, h.first, ⟨h.gain.ranges, h.gain.same, h.gain.chosen, fun p => ?_⟩,
        h.backup, h.pdTh.congr rfl id (writeBackup_pdTh s.initgainBackup s.regs) rfl, fun _ => ?_, h.reset⟩
      · dsimp only
        rw [writeBackup_gain, writeBackup_gain, h.gain.level p, h.backup p]
      · exact hc.imp_right (writeBackup_csRatio _ _).trans

/-! ## Silent resets -/

theorem adapterStart_first (h : s.card8192Version > Channel.version8190BD) :
    (rtl8192AdapterStart s).defaultInitialGain = 0x20 := (if_pos h).trans (adapterStart_gain s 0)

theorem adapterStart_first_old (h : ¬ s.card8192Version > Channel.version8190BD) :
    (rtl8192AdapterStart s).defaultInitialGain = s.defaultInitialGain := if_neg h

theorem Coherent.adapterStart (h : Coherent s) (hreset : s.bResetInProgress = true) :
    Coherent (rtl8192AdapterStart s) := by
  obtain ⟨hpd, hcs⟩ := h.reset hreset
  have hfirst : (rtl8192AdapterStart s).defaultInitialGain = s.defaultInitialGain := by
    by_cases hversion : s.card8192Version > Channel.version8190BD
    · rw [h.first hversion]
      exact adapterStart_first hversion
    · exact adapterStart_first_old hversion
  refine ⟨h.enabled, h.algorithm, fun hversion => ?_, ⟨h.gain.ranges, h.gain.same, ?_, fun p => ?_⟩,
    h.backup, Or.inl hpd, fun _ => Or.inl hcs, h.reset⟩
  · rw [hfirst]
    exact h.first hversion
  · rw [hfirst]
    exact h.gain.chosen
  · rw [adapterStart_gain, adapterStart_gain]

theorem Statics.Wanted.moved {st : Statics} {limit : Nat} {count : BitVec 32} (h : count ≠ st.resetCnt) :
    st.Wanted limit count := Or.inr (Or.inr h)

theorem Coherent.resetBegin (h : Coherent s) (hpd : s.resetCount + 1 ≠ s.pdTh.resetCnt)
    (hcs : s.resetCount + 1 ≠ s.csRatio.resetCnt) : Coherent (step s .resetBegin) := by
  have hstep : step s .resetBegin = { s with bResetInProgress := true } := if_pos h.algorithm
  rw [hstep]
  have hpd' : PdWanted { s with bResetInProgress := true } := Statics.Wanted.moved hpd
  have hcs' : CsWanted { s with bResetInProgress := true } := Statics.Wanted.moved hcs
  exact ⟨h.enabled, h.algorithm, h.first, ⟨h.gain.ranges, h.gain.same, h.gain.chosen, h.gain.level⟩,
    h.backup, Or.inl hpd', fun _ => Or.inl hcs', fun _ => ⟨hpd', hcs'⟩⟩

theorem Coherent.resetEnd (h : Coherent s) (hreset : s.bResetInProgress = true) (restores : Bool) :
    Coherent (step s (.resetEnd restores)) := by
  have hrestore : (if restores then dmBbInitialgainRestore s else s) = s := by
    unfold dmBbInitialgainRestore
    rw [if_pos h.algorithm, ite_self]
  obtain ⟨hpd, hcs⟩ := h.reset hreset
  have hcount : s.nextCount = s.resetCount + 1 := if_pos hreset
  unfold PdWanted at hpd
  unfold CsWanted at hcs
  rw [hcount] at hpd hcs
  unfold step
  dsimp only
  rw [hrestore]
  refine ⟨h.enabled, h.algorithm, h.first, ⟨h.gain.ranges, h.gain.same, h.gain.chosen, fun p => ?_⟩,
    h.backup, Or.inl hpd, fun _ => Or.inl hcs, nofun⟩
  exact (ufwp_watched (.gain p) 1).trans ((h.gain.level p).trans (ufwp_watched (.gain 0) 1).symm)

theorem Coherent.resetRefused (h : Coherent s) (hreset : s.bResetInProgress = false)
    (hpd : s.resetCount + 1 ≠ s.pdTh.resetCnt) (hcs : s.resetCount + 1 ≠ s.csRatio.resetCnt) :
    Coherent (step s .resetRefused) := by
  have hcount : (step s .resetRefused).nextCount = s.resetCount + 1 :=
    nextCount_of_not_reset (s := step s .resetRefused) hreset
  have hpd' : PdWanted (step s .resetRefused) := by
    rw [PdWanted, hcount]
    exact Statics.Wanted.moved hpd
  have hcs' : CsWanted (step s .resetRefused) := by
    rw [CsWanted, hcount]
    exact Statics.Wanted.moved hcs
  refine ⟨h.enabled, h.algorithm, h.first, ⟨h.gain.ranges, h.gain.same, h.gain.chosen, fun p => ?_⟩,
    h.backup, Or.inl hpd', fun _ => Or.inl hcs', fun hno => absurd (hreset.symm.trans hno) (by decide)⟩
  exact (ufwp_watched (.gain p) 1).trans ((h.gain.level p).trans (ufwp_watched (.gain 0) 1).symm)

/-! ## Runs -/

theorem Coherent.withPwdb (h : Coherent s) (pwdb : Int) :
    Coherent { s with undecoratedSmoothedPwdb := pwdb } :=
  ⟨h.enabled, h.algorithm, h.first, ⟨h.gain.ranges, h.gain.same, h.gain.chosen, h.gain.level⟩,
    h.backup, h.pdTh, h.csRatio, h.reset⟩

theorem Coherent.step (h : Coherent s) {e : Event} (ha : Allowed s e) (hc : Clean s e) :
    Coherent (step s e) := by
  cases e with
  | tick pwdb => exact ((h.withPwdb pwdb).tick ha).1
  | link state =>
    exact ⟨h.enabled, h.algorithm, h.first, ⟨h.gain.ranges, h.gain.same, h.gain.chosen, h.gain.level⟩,
      h.backup, h.pdTh, h.csRatio, h.reset⟩
  | setBWMode bandwidth offset up => exact h.setBWMode hc
  | beScan inprogress =>
    exact ⟨h.enabled, h.algorithm, h.first, ⟨h.gain.ranges, h.gain.same, h.gain.chosen, h.gain.level⟩,
      h.backup, h.pdTh, h.csRatio, h.reset⟩
  | initialGain operation up => exact h.initialGain819xPci hc
  | resetBegin => exact h.resetBegin hc.1 hc.2
  | adapterStart => exact h.adapterStart ha
  | resetEnd restores => exact h.resetEnd ha restores
  | resetRefused => exact h.resetRefused ha hc.1 hc.2

theorem coherent_poweredUp (s : State) : Coherent (poweredUp s) := by
  refine ⟨rfl, rfl, fun hversion => ?_, ⟨?_, rfl, Or.inl rfl, fun p => ?_⟩, fun p => rfl,
    Or.inl (Or.inl (Nat.zero_le 3)), fun _ => Or.inl (Or.inl (Nat.le_refl 0)), nofun⟩
  · exact adapterStart_first hversion
  · have hmin : (poweredUp s).dig.rxGainRangeMin = if s.customerNetcore then 0x12 else 0x1c := rfl
    have hmax : (poweredUp s).dig.rxGainRangeMax = 0x36 := rfl
    rw [hmin, hmax]
    split <;> decide
  · exact (adapterStart_gain _ p).trans (adapterStart_gain _ 0).symm

/-- In every run whose steps are clean, a tick with no scan in progress leaves the registers as its
states say. -/
theorem right_of_clean (s : State) (es : List Event) (ha : Meets step Allowed (poweredUp s) es)
    (hc : Meets step Clean (poweredUp s) es) (fs : List Event) (pwdb : Int)
    (hfs : fs ++ [.tick pwdb] <+: es) (hscan : NoScan (exec step (poweredUp s) fs)) :
    Right (exec step (poweredUp s) (fs ++ [.tick pwdb])) := by
  obtain ⟨hrun, hlast, -⟩ := (meets_append _ _ _ _ _).mp ((ha.and hc).before hfs)
  have h : Coherent (exec step (poweredUp s) fs) :=
    exec_inv (fun _ _ h hac => h.step hac.1 hac.2) (coherent_poweredUp s) hrun
  rw [exec_append]
  have h' : Coherent { exec step (poweredUp s) fs with undecoratedSmoothedPwdb := pwdb } :=
    h.withPwdb pwdb
  exact (h'.tick hlast.1).2 hscan

def card : State where
  regs := fun _ => 0
  drv := Channel.idleDriver .rf8256
  state := .nolink
  beScanInprogress := false
  card8192Version := 4
  customerNetcore := false
  defaultInitialGain := 0
  undecoratedSmoothedPwdb := -1
  resetCount := 0
  bResetInProgress := false
  initgainBackup := ⟨fun _ => 0, 0⟩
  wxSyncScan := false
  dig := dmDigInit false
    { digEnableFlag := false, digAlgorithm := .byFalseAlarm, dbgMode := false, digAlgorithmSwitch := false
      rssiLowThresh := 0, rssiHighThresh := 0, rssiHighPowerLowthresh := 0, rssiHighPowerHighthresh := 0
      curSTAConnectState := false, preSTAConnectState := false, curpdThstate := .atLowPower
      prepdThstate := .atLowPower, curcsRatioState := .lower, precsRatioState := .lower, preIgValue := 0
      curIgValue := 0, backoffVal := 0, rxGainRangeMax := 0, rxGainRangeMin := 0, rssiVal := 0 }
  fwDig := 0
  initialGain := {}
  pdTh := {}
  csRatio := {}

/-- Two ticks, with a link and a switch to 40 MHz between them -/
def linkRun : List Event := [.tick (-1), .link .linked, .setBWMode .width2040 .lower true]

theorem right_of_clean_link : Right (exec step (poweredUp card) (linkRun ++ [.tick 50])) :=
  right_of_clean card (linkRun ++ [Event.tick 50]) ⟨rfl, trivial, trivial, rfl, trivial⟩
    ⟨trivial, trivial, Or.inr (Or.inl (Or.inl (by decide))), trivial, trivial⟩ linkRun 50
    (List.prefix_refl _) ⟨rfl, rfl⟩

/-- Four ticks and a switch to 40 MHz, which writes the threshold for normal power -/
def switchRun : List Event :=
  [.tick (-1), .tick (-1), .tick (-1), .tick (-1), .setBWMode .width2040 .lower true]

/-- The next tick finds the state for low power unchanged, and leaves the threshold. -/
theorem threshold_not_always_written : ¬ ∀ (s : State) (es : List Event), Meets step Allowed (poweredUp s) es →
    ∀ fs pwdb, fs ++ [.tick pwdb] <+: es → NoScan (exec step (poweredUp s) fs) →
      Right (exec step (poweredUp s) (fs ++ [.tick pwdb])) := by
  intro h
  have hright := h card (switchRun ++ [Event.tick (-1)]) ⟨rfl, rfl, rfl, rfl, trivial, rfl, trivial⟩ switchRun
    (-1) (List.prefix_refl _) ⟨rfl, rfl⟩
  exact absurd hright.pdTh (by decide)

end Rtl8190.Dig
