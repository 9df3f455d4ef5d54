import Rtl8190.Dig.Coherence

/-!
# The initial gain after a scan

Whatever the five registers hold before a scan, `IG_Restore` gives them back what they held at
`IG_Backup`. The mask leaves bit 7 of a gain alone, but all that is written during the scan has bit 7 clear.
-/

open Rtl8190.Channel (HtChannelWidth rOFDM0RxDetector1)
open Rtl8190.Memory (Byte)
open Rtl8190.Phy (Path paths)
open Rtl8190.Registers
open Rtl8190.Run

namespace Rtl8190.Dig

variable {s : State}

/-! ## Runs with scans -/

/-- A step of the driver, or other contents of the registers before a scan -/
abbrev ScanEvent := Event ⊕ Regs

def scanStep (s : State) : ScanEvent → State
  | .inl e => step s e
  | .inr r => { s with regs := r }

/-- `wx_sem` is held from before `IG_Backup` until after `IG_Restore`; the interface is up at both. -/
def ScanAllowed (s : State) : ScanEvent → Prop
  | .inl (.initialGain .igBackup up) => s.wxSyncScan = false ∧ up = true
  | .inl (.initialGain .igRestore up) => s.wxSyncScan = true ∧ up = true
  | .inl _ => True
  | .inr _ => s.wxSyncScan = false

def IsInitialGain : ScanEvent → Prop
  | .inl (.initialGain _ _) => True
  | _ => False

def State.contents (s : State) : InitgainBackup where
  xagccore1 p := s.regs (rOFDM0XAGCCore1 p)
  cca := s.regs csRatioRegister

theorem readBackup_eq (s : State) : readBackup s.regs = s.contents := by
  have hgain : (readBackup s.regs).xagccore1 = s.contents.xagccore1 := funext fun p => readBackup_gain _ p
  have hcca : (readBackup s.regs).cca = s.contents.cca := readBackup_cca _
  calc readBackup s.regs = ⟨(readBackup s.regs).xagccore1, (readBackup s.regs).cca⟩ := rfl
    _ = s.contents := by rw [hgain, hcca]

/-! ## Bit 7 -/

/-- What the control may write into a gain has bit 7 clear. -/
structure Low (s : State) : Prop where
  algorithm : s.dig.digAlgorithm = .byRssi
  min : s.dig.rxGainRangeMin.toNat < 128
  max : s.dig.rxGainRangeMax.toNat < 128
  first : s.defaultInitialGain.toNat < 128
  pre : s.dig.preIgValue.toNat < 128
  cur : s.dig.curIgValue.toNat < 128

def LowGains (s : State) : Prop := ∀ p, (s.regs (rOFDM0XAGCCore1 p)).toNat < 128

theorem chooseIgValue_low {d : Byte} {dig : DigTable} (hmin : dig.rxGainRangeMin.toNat < 128)
    (hmax : dig.rxGainRangeMax.toNat < 128) (hd : d.toNat < 128) (hpre : dig.preIgValue.toNat < 128) :
    ∃ pre cur, chooseIgValue d dig = { dig with preIgValue := pre, curIgValue := cur } ∧
      pre.toNat < 128 ∧ cur.toNat < 128 := by
  have hfirst : (d.setWidth 32).toNat < 128 := by
    rw [BitVec.toNat_setWidth]
    omega
  unfold chooseIgValue
  split
  · split
    · refine ⟨dig.preIgValue, _, rfl, hpre, ?_⟩
      split
      · rw [BitVec.toNat_setWidth]
        omega
      · split
        · rw [BitVec.toNat_setWidth]
          omega
        · rw [BitVec.toNat_ofInt]
          omega
    · split
      · exact ⟨_, _, rfl, hpre, hfirst⟩
      · exact ⟨_, _, rfl, hpre, hpre⟩
  · exact ⟨_, _, rfl, by decide, hfirst⟩

theorem Low.initialGain (h : Low s) :
    Low (dmInitialGain s) ∧ (LowGains s → LowGains (dmInitialGain s)) := by
  obtain ⟨pre, cur, hchoose, hpre, hcur⟩ := chooseIgValue_low h.min h.max h.first h.pre
  unfold dmInitialGain
  rw [hchoose]
  dsimp only
  split
  · exact ⟨⟨h.algorithm, h.min, h.max, h.first, h.pre, h.cur⟩, id⟩
  · split
    · refine ⟨⟨h.algorithm, h.min, h.max, h.first, hcur, hcur⟩, fun _ p => ?_⟩
      dsimp only
      rw [writeGains_gain, BitVec.toNat_setWidth]
      omega
    · exact ⟨⟨h.algorithm, h.min, h.max, h.first, hpre, hcur⟩, id⟩

/-! ## Steps -/

/-- What a step other than `InitialGain819xPci` keeps -/
structure Keeps (s t : State) : Prop where
  low : Low s → Low t
  gains : LowGains s → LowGains t
  backup : t.initgainBackup = s.initgainBackup
  wxSyncScan : t.wxSyncScan = s.wxSyncScan

theorem Keeps.trans {s t u : State} (h : Keeps s t) (h' : Keeps t u) : Keeps s u :=
  ⟨h'.low ∘ h.low, h'.gains ∘ h.gains, h'.backup.trans h.backup, h'.wxSyncScan.trans h.wxSyncScan⟩

theorem keeps_beginTick (s : State) : Keeps s (beginTick s) := by
  refine ⟨fun h => ⟨h.algorithm, h.min, h.max, h.first, h.pre, h.cur⟩, fun h p => ?_, rfl, rfl⟩
  rw [beginTick_watched (.gain p)]
  exact h p

theorem keeps_dmPdTh (s : State) : Keeps s (dmPdTh s) := by
  obtain ⟨r, pre, st, heq, -, hother⟩ := dmPdTh_spec s
  rw [heq]
  refine ⟨fun h => ⟨h.algorithm, h.min, h.max, h.first, h.pre, h.cur⟩, fun h p => ?_, rfl, rfl⟩
  dsimp only
  rw [hother _ (pdTh_ne_gain p).symm]
  exact h p

theorem keeps_dmCsRatio (s : State) : Keeps s (dmCsRatio s) := by
  obtain ⟨r, pre, st, heq, -, hother⟩ := dmCsRatio_spec s
  rw [heq]
  refine ⟨fun h => ⟨h.algorithm, h.min, h.max, h.first, h.pre, h.cur⟩, fun h p => ?_, rfl, rfl⟩
  dsimp only
  rw [hother _ (csRatio_ne_gain p).symm]
  exact h p

theorem Low.keeps_tick (h : Low s) : Keeps s (dmCtrlInitgainByrssiByDriverrssi s) := by
  -- The gains stay low from a state that is low.
  unfold dmCtrlInitgainByrssiByDriverrssi
  split
  · exact ⟨id, id, rfl, rfl⟩
  · have hbegin := keeps_beginTick s
    have hgain : Keeps (beginTick s) (dmInitialGain (beginTick s)) := by
      obtain ⟨r, pre, cur, st, heq, -, -⟩ := dmInitialGain_spec (beginTick s)
      have hlow := (hbegin.low h).initialGain
      refine ⟨fun _ => hlow.1, hlow.2, ?_, ?_⟩
      · rw [heq]
      · rw [heq]
    have hall := ((hbegin.trans hgain).trans (keeps_dmPdTh _)).trans (keeps_dmCsRatio _)
    dsimp only
    exact ⟨fun h => ⟨(hall.low h).algorithm, (hall.low h).min, (hall.low h).max, (hall.low h).first,
      (hall.low h).pre, (hall.low h).cur⟩, hall.gains, hall.backup, hall.wxSyncScan⟩

theorem keeps_setBWMode (s : State) (bandwidth : HtChannelWidth) (offset : Ht.HtExtchnlOffset)
    (up : Bool) : Keeps s (setBWMode s bandwidth offset up) := by
  refine ⟨fun h => ⟨h.algorithm, h.min, h.max, h.first, h.pre, h.cur⟩, fun h p => ?_, rfl, rfl⟩
  have hgain : (setBWMode s bandwidth offset up).regs (rOFDM0XAGCCore1 p) = s.regs (rOFDM0XAGCCore1 p) := by
    cases hbusy : s.drv.setBWModeInProgress with
    | true => rw [(setBWMode_busy hbusy bandwidth offset up).2]
    | false => exact (setBWMode_free hbusy bandwidth offset up).2.2 _ (.gain p) (pdTh_ne_gain p).symm
  rw [hgain]
  exact h p

theorem keeps_ufwp (s : State) {t : State} (hregs : t.regs = store 1 s.regs ufwp 1)
    (hdig : t.dig = s.dig) (hfirst : t.defaultInitialGain = s.defaultInitialGain)
    (hbackup : t.initgainBackup = s.initgainBackup) (hscan : t.wxSyncScan = s.wxSyncScan) :
    Keeps s t := by
  refine ⟨fun h => ?_, fun h p => ?_, hbackup, hscan⟩
  · exact ⟨hdig ▸ h.algorithm, hdig ▸ h.min, hdig ▸ h.max, hfirst ▸ h.first, hdig ▸ h.pre, hdig ▸ h.cur⟩
  · rw [hregs, ufwp_watched (.gain p)]
    exact h p

theorem keeps_adapterStart (s : State) : Keeps s (rtl8192AdapterStart s) := by
  have hgain : LowGains (rtl8192AdapterStart s) := by
    intro p
    rw [adapterStart_gain]
    decide
  refine ⟨fun h => ⟨h.algorithm, h.min, h.max, ?_, h.pre, h.cur⟩, fun _ => hgain, rfl, rfl⟩
  by_cases hversion : s.card8192Version > Channel.version8190BD
  · rw [adapterStart_first hversion]
    decide
  · rw [adapterStart_first_old hversion]
    exact h.first

theorem Low.keeps_step (h : Low s) {e : Event} (he : ¬ IsInitialGain (.inl e)) : Keeps s (step s e) := by
  cases e with
  | tick pwdb =>
    have h' : Low { s with undecoratedSmoothedPwdb := pwdb } :=
      ⟨h.algorithm, h.min, h.max, h.first, h.pre, h.cur⟩
    obtain ⟨hlow, hgains, hbackup, hscan⟩ := h'.keeps_tick
    exact ⟨fun _ => hlow h', hgains, hbackup, hscan⟩
  | link state => exact ⟨fun h => ⟨h.algorithm, h.min, h.max, h.first, h.pre, h.cur⟩, id, rfl, rfl⟩
  | setBWMode bandwidth offset up => exact keeps_setBWMode s bandwidth offset up
  | beScan inprogress =>
    exact ⟨fun h => ⟨h.algorithm, h.min, h.max, h.first, h.pre, h.cur⟩, id, rfl, rfl⟩
  | initialGain operation up => exact absurd trivial he
  | resetBegin =>
    have hstep : step s .resetBegin = { s with bResetInProgress := true } := if_pos h.algorithm
    rw [hstep]
    exact ⟨fun h => ⟨h.algorithm, h.min, h.max, h.first, h.pre, h.cur⟩, id, rfl, rfl⟩
  | adapterStart => exact keeps_adapterStart s
  | resetEnd restores =>
    have hrestore : (if restores then dmBbInitialgainRestore s else s) = s := by
      unfold dmBbInitialgainRestore
      rw [if_pos h.algorithm, ite_self]
    unfold step
    dsimp only
    rw [hrestore]
    exact keeps_ufwp s rfl rfl rfl rfl rfl
  | resetRefused => exact keeps_ufwp s rfl rfl rfl rfl rfl

/-! ## Scans -/

/-- Between `IG_Backup` and `IG_Restore` the gains have bit 7 clear. -/
structure ScanInv (s : State) : Prop where
  low : Low s
  gains : s.wxSyncScan = true → LowGains s

theorem scanStep_igBackup (h : Low s) :
    scanStep s (.inl (.initialGain .igBackup true)) = { s with
      initgainBackup := s.contents
      regs := store 1 (writeGains s.regs 0x17) csRatioRegister 0x08
      wxSyncScan := true } := by
  simp only [scanStep, step, igBackup_eq h.algorithm, readBackup_eq]
  rfl

theorem scanStep_igRestore (h : Low s) :
    scanStep s (.inl (.initialGain .igRestore true)) = { s with
      regs := writeBackup s.initgainBackup s.regs
      wxSyncScan := false } := by
  simp only [scanStep, step, igRestore_eq h.algorithm]
  rfl

theorem ScanInv.step (h : ScanInv s) {e : ScanEvent} (ha : ScanAllowed s e) : ScanInv (scanStep s e) := by
  have hlow := h.low
  rcases e with e | r
  · by_cases he : IsInitialGain (.inl e)
    · cases e with
      | initialGain operation up =>
        cases operation with
        | igBackup =>
          obtain ⟨-, rfl⟩ := ha
          rw [scanStep_igBackup hlow]
          refine ⟨⟨hlow.algorithm, hlow.min, hlow.max, hlow.first, hlow.pre, hlow.cur⟩, fun _ p => ?_⟩
          dsimp only
          rw [backupWrites_gain]
          decide
        | igRestore =>
          obtain ⟨-, rfl⟩ := ha
          rw [scanStep_igRestore hlow]
          exact ⟨⟨hlow.algorithm, hlow.min, hlow.max, hlow.first, hlow.pre, hlow.cur⟩, nofun⟩
      | _ => exact absurd he id
    · have hkeep := hlow.keeps_step he
      exact ⟨hkeep.low hlow, fun hscan => hkeep.gains (h.gains (hkeep.wxSyncScan ▸ hscan))⟩
  · exact ⟨⟨hlow.algorithm, hlow.min, hlow.max, hlow.first, hlow.pre, hlow.cur⟩,
      fun hscan => absurd (ha.symm.trans hscan) (by decide)⟩

theorem scanInv_poweredUp (s : State) : ScanInv (poweredUp s) := by
  have hmin : (poweredUp s).dig.rxGainRangeMin = if s.customerNetcore then 0x12 else 0x1c := rfl
  have hmax : (0x36 : Byte).toNat < 128 := by decide
  have hzero : (0 : BitVec 32).toNat < 128 := by decide
  refine ⟨⟨rfl, ?_, hmax, ?_, hzero, hzero⟩, nofun⟩
  · rw [hmin]
    split <;> decide
  · by_cases hversion : (poweredUp s).card8192Version > Channel.version8190BD
    · rw [(coherent_poweredUp s).first hversion]
      decide
    · have hfirst : (poweredUp s).defaultInitialGain = 0 := adapterStart_first_old hversion
      rw [hfirst]
      decide

theorem scan_split {s : State} (hs : s.wxSyncScan = false) (h : ScanInv s) (fs : List ScanEvent)
    (ha : Meets scanStep ScanAllowed s fs) (hscan : (exec scanStep s fs).wxSyncScan = true) :
    ∃ gs acts, fs = gs ++ .inl (.initialGain .igBackup true) :: acts ∧
      (∀ e ∈ acts, ¬ IsInitialGain e) ∧
      (exec scanStep s fs).initgainBackup = (exec scanStep s gs).contents := by
  -- A scan that is under way has its backup from its start.
  induction fs using List.reverseRecOn with
  | nil => exact absurd (hs.symm.trans hscan) (by decide)
  | append_singleton fs e ih =>
    obtain ⟨hfs, he, -⟩ := (meets_append _ _ _ _ _).mp ha
    have hinv : ScanInv (exec scanStep s fs) := exec_inv (fun _ _ h ha => h.step ha) h hfs
    rw [exec_append] at hscan ⊢
    dsimp only [exec_cons, exec_nil] at hscan ⊢
    rcases e with e | r
    · by_cases hedge : IsInitialGain (.inl e)
      · cases e with
        | initialGain operation up =>
          cases operation with
          | igBackup =>
            obtain ⟨-, rfl⟩ := he
            refine ⟨fs, [], rfl, nofun, ?_⟩
            rw [scanStep_igBackup hinv.low]
          | igRestore =>
            obtain ⟨-, rfl⟩ := he
            rw [scanStep_igRestore hinv.low] at hscan
            cases hscan
        | _ => exact absurd hedge id
      · have hkeep := hinv.low.keeps_step hedge
        obtain ⟨gs, acts, rfl, hacts, hbackup⟩ := ih hfs (hkeep.wxSyncScan ▸ hscan)
        refine ⟨gs, acts ++ [.inl e], by simp, ?_, hkeep.backup.trans hbackup⟩
        intro f hf
        rcases List.mem_append.mp hf with hf | hf
        · exact hacts f hf
        · obtain rfl := List.mem_singleton.mp hf
          exact hedge
    · exact absurd (he.symm.trans hscan) (by decide)

theorem and_eq_zero_of_lt {v : Byte} (h : v.toNat < 128) : v &&& 0x80 = 0 := by
  revert v
  decide

theorem writeBackup_low (h : LowGains s) (b : InitgainBackup) :
    State.contents { s with regs := writeBackup b s.regs } = b := by
  have hgain : (State.contents { s with regs := writeBackup b s.regs }).xagccore1 = b.xagccore1 := by
    funext p
    refine (writeBackup_gain b s.regs p).trans ?_
    rw [and_eq_zero_of_lt (h p)]
    exact BitVec.zero_or
  have hcca : (State.contents { s with regs := writeBackup b s.regs }).cca = b.cca :=
    writeBackup_csRatio b s.regs
  calc State.contents { s with regs := writeBackup b s.regs }
      = ⟨(State.contents { s with regs := writeBackup b s.regs }).xagccore1,
          (State.contents { s with regs := writeBackup b s.regs }).cca⟩ := rfl
    _ = b := by rw [hgain, hcca]

/-- Each `IG_Restore` gives the registers what they held at the `IG_Backup` of its scan. -/
theorem restore_gives_backup (s : State) (fs : List ScanEvent) (up : Bool)
    (ha : Meets scanStep ScanAllowed (poweredUp s) (fs ++ [.inl (.initialGain .igRestore up)])) :
    ∃ gs acts, fs = gs ++ .inl (.initialGain .igBackup true) :: acts ∧
      (∀ e ∈ acts, ¬ IsInitialGain e) ∧
      (exec scanStep (poweredUp s) (fs ++ [.inl (.initialGain .igRestore up)])).contents =
        (exec scanStep (poweredUp s) gs).contents := by
  obtain ⟨hfs, ⟨hscan, rfl⟩, -⟩ := (meets_append _ _ _ _ _).mp ha
  have hinv : ScanInv (exec scanStep (poweredUp s) fs) :=
    exec_inv (fun _ _ h ha => h.step ha) (scanInv_poweredUp s) hfs
  obtain ⟨gs, acts, heq, hacts, hbackup⟩ := scan_split rfl (scanInv_poweredUp s) fs hfs hscan
  refine ⟨gs, acts, heq, hacts, ?_⟩
  rw [exec_append]
  dsimp only [exec_cons, exec_nil]
  rw [scanStep_igRestore hinv.low, ← hbackup]
  exact writeBackup_low (hinv.gains hscan) _

/-- A scan from registers full of ones, with ticks and a silent reset in it -/
def fullScan : List ScanEvent :=
  [.inr fun _ => 0xff, .inl (.initialGain .igBackup true), .inl (.tick 50), .inl (.beScan true),
    .inl (.tick 50), .inl .resetBegin, .inl .adapterStart, .inl (.resetEnd true), .inl (.beScan false),
    .inl (.tick 20)]

theorem restore_gives_backup_full : ∃ gs acts,
    fullScan = gs ++ .inl (.initialGain .igBackup true) :: acts ∧ (∀ e ∈ acts, ¬ IsInitialGain e) ∧
      (exec scanStep (poweredUp card) (fullScan ++ [.inl (.initialGain .igRestore true)])).contents =
        (exec scanStep (poweredUp card) gs).contents :=
  restore_gives_backup card fullScan true
    ⟨rfl, ⟨rfl, rfl⟩, trivial, trivial, trivial, trivial, trivial, trivial, trivial, trivial, ⟨rfl, rfl⟩,
      trivial⟩

end Rtl8190.Dig
