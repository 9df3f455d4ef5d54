import Mathlib.Algebra.Order.Ring.Int
import Rtl8190.Phy.Process
import Rtl8190.Phy.Report

/-!
# The sliding windows

Every window of `rtl8192_process_phyinfo` has the last samples that were fed to it, with their total,
and publishes their mean. Only for the CCK readings, which may be negative, does this depend on the
samples: their total is divided as an unsigned number.
-/

open Rtl8190.Narrow Rtl8190.SlidingWindow

namespace Rtl8190.Phy

/-! ## Histories -/

def RxStats.FedCck (cfg : Config) (r : RxStats) : Prop :=
  r.Accepted ∧ cfg.rfType = .rf2T4R ∧ cfg.rxPathSelEnable = true ∧ r.bIsCCK = true ∧
    (r.bPacketToSelf = true ∨ r.bPacketBeacon = true)

instance (cfg : Config) (r : RxStats) : Decidable (r.FedCck cfg) :=
  inferInstanceAs (Decidable (_ ∧ _))

def RxStats.FedBeacon (r : RxStats) : Prop := r.Accepted ∧ r.bPacketBeacon = true

instance (r : RxStats) : Decidable r.FedBeacon := inferInstanceAs (Decidable (_ ∧ _))

def RxStats.FedEvm (r : RxStats) : Prop := r.Accepted ∧ r.signalQuality ≠ 0 ∧ r.Ours

instance (r : RxStats) : Decidable r.FedEvm := inferInstanceAs (Decidable (_ ∧ _))

/-- The samples that the frames of `l`, newest first, have fed to each window -/
def strengths (l : List RxStats) : List Int := l.map RxStats.signalStrength

def cckReadings (cfg : Config) (l : List RxStats) (i : Path) : List Int :=
  (l.filter fun r => decide (r.FedCck cfg)).map fun r => r.cckAdcPwdb i

def beaconPwdbs (l : List RxStats) : List Int :=
  (l.filter fun r => decide r.FedBeacon).map RxStats.rxPWDBAll

def qualities (l : List RxStats) : List Int :=
  (l.filter fun r => decide r.FedEvm).map RxStats.signalQuality

def windowMean (window : Nat) (h : List Int) : Int :=
  (windowSum window h).tdiv (windowNum window h)

/-- One of the four CCK windows -/
def RtSmoothData4RF.ring (w : RtSmoothData4RF) (i : Path) : Ring 32 100 :=
  ⟨w.elements i, w.index, w.totalNum, w.totalVal i⟩

/-- Every window has the last samples of its history, inside of its array, and their total. -/
structure Windows (cfg : Config) (l : List RxStats) (st : PhyStats) : Prop where
  strength : Represents phyRssiSlidWinMax st.slideRssi (strengths l)
  quality : Represents phyRssiSlidWinMax st.slideEvm (qualities l)
  beacon : Represents phyBeaconRssiSlidWinMax st.slideBeacon (beaconPwdbs l)
  cck : ∀ i, Represents phyRssiSlidWinMax (st.cckAdcPwdb.ring i) (cckReadings cfg l i)

/-- What is published after the frame `r` is the truncated mean of the windows that it was fed to.
From the one of the beacons, 3 is taken off. -/
structure Published (cfg : Config) (older : List RxStats) (r : RxStats) (st : PhyStats)
    (r' : RxStats) : Prop where
  strength : st.signalStrength =
    rtl819xTranslateTodbm (windowMean phyRssiSlidWinMax (strengths (r :: older))).toNat
  quality : r.FedEvm → st.signalQuality = windowMean phyRssiSlidWinMax (qualities (r :: older))
  beacon : r.FedBeacon →
    r'.rxPWDBAll = (if 3 ≤ windowMean phyBeaconRssiSlidWinMax (beaconPwdbs (r :: older)) then
      windowMean phyBeaconRssiSlidWinMax (beaconPwdbs (r :: older)) - 3
    else windowMean phyBeaconRssiSlidWinMax (beaconPwdbs (r :: older)))
  cck : r.FedCck cfg →
    ∀ i, st.cckPwdbSta i = windowMean phyRssiSlidWinMax (cckReadings cfg (r :: older) i)

def run (cfg : Config) : List RxStats → Option PhyStats
  | [] => some .init
  | r :: older => do
    let st ← run cfg older
    let (st, _) ← rtl8192ProcessPhyinfo cfg st r
    return st

/-- After the frames `older`, newest first, the frame `r` goes into its windows, none of which is
indexed outside of its array, and their means are published. -/
def KeepsWindows (cfg : Config) (older : List RxStats) (r : RxStats) : Prop :=
  ∃ st st' r', run cfg older = some st ∧ rtl8192ProcessPhyinfo cfg st r = some (st', r') ∧
    Windows cfg (r :: older) st' ∧ Published cfg older r st' r'

/-! ## Means -/

theorem windowSum_bounds (window : Nat) {lo hi : Int} {h : List Int}
    (hmem : ∀ v ∈ h, lo ≤ v ∧ v ≤ hi) :
    windowNum window h * lo ≤ windowSum window h ∧
      windowSum window h ≤ windowNum window h * hi := by
  unfold windowSum windowNum
  induction h generalizing window with
  | nil => simp
  | cons v h ih =>
    cases window with
    | zero => simp
    | succ n =>
      obtain ⟨hv, hmem⟩ := List.forall_mem_cons.mp hmem
      obtain ⟨hlow, hhigh⟩ := ih n hmem
      rw [List.take_succ_cons, List.sum_cons, List.length_cons, Nat.succ_min_succ]
      push_cast at hlow hhigh ⊢
      rw [add_mul, add_mul, one_mul, one_mul]
      omega

theorem windowNum_le (window : Nat) (h : List Int) : windowNum window h ≤ window :=
  Nat.min_le_right _ _

theorem mean_eq {w cap window : Nat} {r : Ring w cap} {h : List Int}
    (hr : Represents window r h) (hnonneg : 0 ≤ windowSum window h)
    (hsmall : windowSum window h < 2 ^ w) :
    ((r.total.toNat / r.num : Nat) : Int) = windowMean window h := by
  obtain ⟨n, hn⟩ := Int.eq_ofNat_of_zero_le hnonneg
  rw [hn] at hsmall
  have hlt : n < 2 ^ w := by exact_mod_cast hsmall
  rw [hr.total, hr.num, hn]
  unfold windowMean
  rw [hn, BitVec.ofInt_natCast, BitVec.toNat_ofNat, Nat.mod_eq_of_lt hlt,
    Int.tdiv_eq_ediv_of_nonneg (Int.natCast_nonneg n)]
  exact_mod_cast rfl

theorem mean_ne {cap window : Nat} {r : Ring 32 cap} {h : List Int} (hr : Represents window r h)
    (hpos : 0 < windowNum window h) (hshort : windowNum window h ≤ 100)
    (hneg : windowSum window h < 0) (hsmall : -12800 ≤ windowSum window h) :
    ((r.total.toNat / r.num : Nat) : Int) ≠ windowMean window h := by
  -- A negative total is taken for a large one.
  have htotal : (r.total.toNat : Int) = 2 ^ 32 + windowSum window h := by
    rw [hr.total, BitVec.toNat_ofInt, Int.toNat_of_nonneg (Int.emod_nonneg _ (by decide))]
    omega
  have hquot : 0 < r.total.toNat / r.num := by
    rw [hr.num]
    apply Nat.div_pos _ hpos
    omega
  have hmean : windowMean window h ≤ 0 := by
    unfold windowMean
    rw [← Int.neg_neg (windowSum window h), Int.neg_tdiv]
    have := Int.tdiv_nonneg (show 0 ≤ -windowSum window h by omega)
      (Int.natCast_nonneg (windowNum window h))
    omega
  omega

/-! ## The parts of the function -/

theorem cckReadings_fed {cfg : Config} {r : RxStats} (h : r.FedCck cfg) (l : List RxStats)
    (i : Path) : cckReadings cfg (r :: l) i = r.cckAdcPwdb i :: cckReadings cfg l i := by
  simp [cckReadings, h]

theorem cckReadings_not_fed {cfg : Config} {r : RxStats} (h : ¬ r.FedCck cfg) (l : List RxStats)
    (i : Path) : cckReadings cfg (r :: l) i = cckReadings cfg l i := by
  simp [cckReadings, h]

theorem beaconPwdbs_fed {r : RxStats} (h : r.FedBeacon) (l : List RxStats) :
    beaconPwdbs (r :: l) = r.rxPWDBAll :: beaconPwdbs l := by
  simp [beaconPwdbs, h]

theorem beaconPwdbs_not_fed {r : RxStats} (h : ¬ r.FedBeacon) (l : List RxStats) :
    beaconPwdbs (r :: l) = beaconPwdbs l := by
  simp [beaconPwdbs, h]

theorem qualities_fed {r : RxStats} (h : r.FedEvm) (l : List RxStats) :
    qualities (r :: l) = r.signalQuality :: qualities l := by
  simp [qualities, h]

theorem qualities_not_fed {r : RxStats} (h : ¬ r.FedEvm) (l : List RxStats) :
    qualities (r :: l) = qualities l := by
  simp [qualities, h]

/-- What a window publishes, in the arithmetic of the code -/
def quotient {w cap : Nat} (ring : Ring w cap) : Int := (ring.total.toNat / ring.num : Nat)

section

variable {cfg : Config} (st : PhyStats) {r : RxStats} {l : List RxStats}

theorem slideSignalStrength_spec
    (hr : Represents phyRssiSlidWinMax st.slideRssi (strengths l)) :
    ∃ ring, slideSignalStrength st r = some { st with
        slideRssi := ring
        signalStrength := rtl819xTranslateTodbm (ring.total.toNat / ring.num % 256) } ∧
      Represents phyRssiSlidWinMax ring (strengths (r :: l)) := by
  obtain ⟨ring, hpush, hring⟩ := push_represents (Nat.le_refl 100) hr r.signalStrength
  unfold slideSignalStrength
  rw [hpush]
  exact ⟨ring, rfl, hring⟩

theorem rtl8190ProcessCckRxpathsel_spec (hacc : r.Accepted)
    (hr : ∀ i, Represents phyRssiSlidWinMax (st.cckAdcPwdb.ring i) (cckReadings cfg l i)) :
    ∃ w sta smoothed, rtl8190ProcessCckRxpathsel cfg st r = some { st with
        cckAdcPwdb := w
        cckPwdbSta := sta
        undecoratedSmoothedCckAdcPwdb := smoothed } ∧
      (∀ i, Represents phyRssiSlidWinMax (w.ring i) (cckReadings cfg (r :: l) i)) ∧
      (r.FedCck cfg → ∀ i, sta i = quotient (w.ring i)) := by
  -- The four CCK windows are fed in step.
  by_cases hfed : r.FedCck cfg
  · have hindex (i : Path) : (st.cckAdcPwdb.ring i).index < 100 := (hr i).index
    unfold rtl8190ProcessCckRxpathsel
    rw [if_pos hfed.2]
    dsimp only
    rw [dif_pos (show st.cckAdcPwdb.index < 100 from hindex 0)]
    refine ⟨_, _, _, rfl, fun i => ?_, fun _ i => rfl⟩
    obtain ⟨ring, hpush, hring⟩ := push_represents (Nat.le_refl 100) (hr i) (r.cckAdcPwdb i)
    unfold Ring.push at hpush
    rw [dif_pos (hindex i), Option.some.injEq] at hpush
    rw [cckReadings_fed hfed]
    rw [← hpush] at hring
    exact hring
  · have hnot : rtl8190ProcessCckRxpathsel cfg st r = some st :=
      if_neg fun h => hfed ⟨hacc, h⟩
    rw [hnot]
    refine ⟨_, _, _, rfl, fun i => ?_, fun h => absurd h hfed⟩
    rw [cckReadings_not_fed hfed]
    exact hr i

theorem slideBeaconPwdb_spec (hacc : r.Accepted)
    (hr : Represents phyBeaconRssiSlidWinMax st.slideBeacon (beaconPwdbs l)) :
    ∃ ring v, slideBeaconPwdb st r = some ({ st with slideBeacon := ring },
        { r with rxPWDBAll := v }) ∧
      Represents phyBeaconRssiSlidWinMax ring (beaconPwdbs (r :: l)) ∧
      (r.FedBeacon → v = if 3 ≤ quotient ring then quotient ring - 3 else quotient ring) := by
  unfold slideBeaconPwdb
  by_cases hfed : r.bPacketBeacon = true
  · obtain ⟨ring, hpush, hring⟩ := push_represents (show 10 ≤ 100 by decide) hr r.rxPWDBAll
    rw [if_pos hfed, hpush, beaconPwdbs_fed ⟨hacc, hfed⟩]
    exact ⟨ring, _, rfl, hring, fun _ => rfl⟩
  · have hnot : ¬ r.FedBeacon := fun h => hfed h.2
    rw [if_neg hfed, beaconPwdbs_not_fed hnot]
    exact ⟨_, _, rfl, hr, fun h => absurd h hnot⟩

theorem slideEvm_spec (hacc : r.Accepted) (v : Int)
    (hr : Represents phyRssiSlidWinMax st.slideEvm (qualities l)) :
    ∃ ring quality percent percentages,
      slideEvm st { r with rxPWDBAll := v } = some { st with
        slideEvm := ring
        signalQuality := quality
        lastSignalStrengthInpercent := percent
        rxEvmPercentage := percentages } ∧
      Represents phyRssiSlidWinMax ring (qualities (r :: l)) ∧
      (r.FedEvm → quality = quotient ring) := by
  by_cases hfed : r.signalQuality ≠ 0 ∧ r.Ours
  · obtain ⟨ring, hpush, hring⟩ := push_represents (Nat.le_refl 100) hr r.signalQuality
    have hslide : slideEvm st { r with rxPWDBAll := v } =
        (st.slideEvm.push phyRssiSlidWinMax r.signalQuality).bind _ := if_pos hfed
    rw [hslide, hpush, qualities_fed ⟨hacc, hfed⟩]
    exact ⟨ring, _, _, _, rfl, hring, fun _ => rfl⟩
  · have hnot : ¬ r.FedEvm := fun h => hfed h.2
    have hslide : slideEvm st { r with rxPWDBAll := v } = some st := if_neg hfed
    rw [hslide, qualities_not_fed hnot]
    exact ⟨_, _, _, _, rfl, hr, fun h => absurd h hnot⟩

end

/-- What is published, in the arithmetic of the code. -/
structure Quotients (cfg : Config) (r : RxStats) (st : PhyStats) (r' : RxStats) : Prop where
  strength : st.signalStrength =
    rtl819xTranslateTodbm (st.slideRssi.total.toNat / st.slideRssi.num % 256)
  quality : r.FedEvm → st.signalQuality = quotient st.slideEvm
  beacon : r.FedBeacon → r'.rxPWDBAll =
    if 3 ≤ quotient st.slideBeacon then quotient st.slideBeacon - 3 else quotient st.slideBeacon
  cck : r.FedCck cfg → ∀ i, st.cckPwdbSta i = quotient (st.cckAdcPwdb.ring i)

theorem rssiPercentages_eq (cfg : Config) (st : PhyStats) (r : RxStats) :
    ∃ percentages, rssiPercentages cfg st r = { st with rxRssiPercentage := percentages } ∧
      ∀ path, percentages path =
        if (r.bIsCCK = false ∧ r.bPacketToSelf = true) ∧ path < 2 ∧
            rtl8192PhyCheckIsLegalRFPath cfg.rfType path = true then
          smoothRssi (st.rxRssiPercentage path) (r.rxMIMOSignalStrength path)
        else st.rxRssiPercentage path := by
  unfold rssiPercentages
  split
  · next hfed => exact ⟨_, rfl, fun path => by simp only [hfed, true_and]⟩
  · next hnot => exact ⟨_, rfl, fun path => by simp only [hnot, false_and, if_false]⟩

theorem pwdb_eq (st : PhyStats) (r : RxStats) :
    ∃ smoothed power, pwdb st r =
        { st with undecoratedSmoothedPwdb := smoothed, recvSignalPower := power } ∧
      smoothed =
        if r.Ours then smoothPwdb st.undecoratedSmoothedPwdb r.rxPWDBAll
        else st.undecoratedSmoothedPwdb := by
  unfold pwdb
  split
  · exact ⟨_, _, rfl, rfl⟩
  · exact ⟨_, _, rfl, rfl⟩

/-- What a frame does to the windows behind the first test, where it is accepted. -/
theorem accepted_windows (cfg : Config) {l : List RxStats} (st : PhyStats) {r : RxStats}
    (hacc : r.Accepted) (hevm : Represents phyRssiSlidWinMax st.slideEvm (qualities l))
    (hbeacon : Represents phyBeaconRssiSlidWinMax st.slideBeacon (beaconPwdbs l))
    (hcck : ∀ i, Represents phyRssiSlidWinMax (st.cckAdcPwdb.ring i) (cckReadings cfg l i)) :
    ∃ st' r', (do
        let st ← rtl8190ProcessCckRxpathsel cfg st r
        let (st, r) ← slideBeaconPwdb (rssiPercentages cfg st r) r
        let st ← slideEvm (pwdb st r) r
        return (st, r)) = some (st', r') ∧
      st'.slideRssi = st.slideRssi ∧ st'.signalStrength = st.signalStrength ∧
      Represents phyRssiSlidWinMax st'.slideEvm (qualities (r :: l)) ∧
      Represents phyBeaconRssiSlidWinMax st'.slideBeacon (beaconPwdbs (r :: l)) ∧
      (∀ i, Represents phyRssiSlidWinMax (st'.cckAdcPwdb.ring i) (cckReadings cfg (r :: l) i)) ∧
      (r.FedEvm → st'.signalQuality = quotient st'.slideEvm) ∧
      (r.FedBeacon → r'.rxPWDBAll =
        if 3 ≤ quotient st'.slideBeacon then quotient st'.slideBeacon - 3
        else quotient st'.slideBeacon) ∧
      (r.FedCck cfg → ∀ i, st'.cckPwdbSta i = quotient (st'.cckAdcPwdb.ring i)) := by
  obtain ⟨w, sta, smoothed, hproc, hw, hsta⟩ := rtl8190ProcessCckRxpathsel_spec st hacc hcck
  obtain ⟨percentages, hrssi, -⟩ := rssiPercentages_eq cfg { st with
    cckAdcPwdb := w
    cckPwdbSta := sta
    undecoratedSmoothedCckAdcPwdb := smoothed } r
  obtain ⟨beacons, v, hslide, hbeacons, hv⟩ := slideBeaconPwdb_spec { st with
    cckAdcPwdb := w
    cckPwdbSta := sta
    undecoratedSmoothedCckAdcPwdb := smoothed
    rxRssiPercentage := percentages } hacc hbeacon
  obtain ⟨pwdbs, power, hpwdb, -⟩ := pwdb_eq { st with
    cckAdcPwdb := w
    cckPwdbSta := sta
    undecoratedSmoothedCckAdcPwdb := smoothed
    rxRssiPercentage := percentages
    slideBeacon := beacons } { r with rxPWDBAll := v }
  obtain ⟨evms, quality, percent, streams, hquality, hevms, hq⟩ := slideEvm_spec { st with
    cckAdcPwdb := w
    cckPwdbSta := sta
    undecoratedSmoothedCckAdcPwdb := smoothed
    rxRssiPercentage := percentages
    slideBeacon := beacons
    undecoratedSmoothedPwdb := pwdbs
    recvSignalPower := power } hacc v hevm
  rw [hproc, Option.bind_eq_bind, Option.bind_some, hrssi, hslide, Option.bind_eq_bind,
    Option.bind_some]
  dsimp only
  dsimp only at hpwdb
  rw [hpwdb, hquality]
  exact ⟨_, _, rfl, rfl, rfl, hevms, hbeacons, hw, hq, hv, hsta⟩

theorem rtl8192ProcessPhyinfo_windows (cfg : Config) {l : List RxStats} {st : PhyStats}
    (h : Windows cfg l st) (r : RxStats) :
    ∃ st' r', rtl8192ProcessPhyinfo cfg st r = some (st', r') ∧ Windows cfg (r :: l) st' ∧
      Quotients cfg r st' r' := by
  -- Every frame goes through, and into its windows.
  obtain ⟨ring, hslide, hring⟩ := slideSignalStrength_spec st (r := r) h.strength
  unfold rtl8192ProcessPhyinfo
  rw [hslide, Option.bind_eq_bind, Option.bind_some]
  by_cases hacc : r.Accepted
  · rw [if_pos hacc]
    obtain ⟨st', r', hrest, hrssi, hstrength, hevm, hbeacon, hcck, hq, hv, hsta⟩ :=
      accepted_windows cfg { st with
        slideRssi := ring
        signalStrength := rtl819xTranslateTodbm (ring.total.toNat / ring.num % 256) } hacc
        h.quality h.beacon h.cck
    refine ⟨st', r', hrest, ⟨?_, hevm, hbeacon, hcck⟩, ?_, hq, hv, hsta⟩
    · rw [hrssi]
      exact hring
    · rw [hstrength, hrssi]
  · rw [if_neg hacc]
    have hcck : ¬ r.FedCck cfg := fun h => hacc h.1
    have hbeacon : ¬ r.FedBeacon := fun h => hacc h.1
    have hevm : ¬ r.FedEvm := fun h => hacc h.1
    refine ⟨_, _, rfl, ⟨hring, ?_, ?_, ?_⟩, rfl, fun h => absurd h hevm, fun h => absurd h hbeacon,
      fun h => absurd h hcck⟩
    · rw [qualities_not_fed hevm]
      exact h.quality
    · rw [beaconPwdbs_not_fed hbeacon]
      exact h.beacon
    · intro i
      rw [cckReadings_not_fed hcck]
      exact h.cck i

/-! ## Runs -/

theorem windows_init (cfg : Config) : Windows cfg [] .init where
  strength := represents_empty (by decide) _
  quality := represents_empty (by decide) _
  beacon := represents_empty (by decide) _
  cck := fun _ => represents_empty (by decide) _

theorem run_windows (cfg : Config) (l : List RxStats) :
    ∃ st, run cfg l = some st ∧ Windows cfg l st := by
  induction l with
  | nil => exact ⟨_, rfl, windows_init cfg⟩
  | cons r older ih =>
    obtain ⟨st, hrun, hst⟩ := ih
    obtain ⟨st', r', hstep, hst', -⟩ := rtl8192ProcessPhyinfo_windows cfg hst r
    refine ⟨st', ?_, hst'⟩
    unfold run
    rw [hrun, Option.bind_eq_bind, Option.bind_some, hstep]
    rfl

theorem quotient_percent {w cap window : Nat} {ring : Ring w cap} {h : List Int}
    (hr : Represents window ring h) (hw : 32 ≤ w) (hwindow : window ≤ 100)
    (hmem : ∀ v ∈ h, Percent v) : quotient ring = windowMean window h := by
  obtain ⟨hlow, hhigh⟩ := windowSum_bounds window hmem
  have hnum := windowNum_le window h
  have hpow : (2 : Int) ^ 32 ≤ 2 ^ w := pow_le_pow_right₀ (by decide) hw
  exact mean_eq hr (by omega) (by omega)

theorem windowMean_percent {window : Nat} {h : List Int} (hmem : ∀ v ∈ h, Percent v) :
    Percent (windowMean window h) := by
  obtain ⟨hlow, hhigh⟩ := windowSum_bounds window hmem
  rw [mul_zero] at hlow
  unfold windowMean Percent
  rw [Int.tdiv_eq_ediv_of_nonneg hlow]
  refine ⟨Int.ediv_nonneg hlow (Int.natCast_nonneg _), ?_⟩
  rcases Nat.eq_zero_or_pos (windowNum window h) with hzero | hpos
  · rw [hzero]
    simp
  · exact Int.ediv_le_of_le_mul (by exact_mod_cast hpos) (by rw [mul_comm]; exact hhigh)

theorem beaconPwdbs_percent {l : List RxStats} (hrange : ∀ x ∈ l, x.InRange) :
    ∀ v ∈ beaconPwdbs l, Percent v := by
  intro v hv
  obtain ⟨x, hx, rfl⟩ := List.mem_map.mp hv
  exact (hrange x (List.mem_filter.mp hx).1).rxPWDBAll

/-- Where the CCK readings in the windows add up to something negative, nothing else is wrong. -/
theorem published_iff {cfg : Config} {older : List RxStats} {r : RxStats}
    (hrange : ∀ x ∈ r :: older, x.InRange) {st : PhyStats} {r' : RxStats}
    (h : Windows cfg (r :: older) st) (hq : Quotients cfg r st r') :
    Published cfg older r st r' ↔ (r.FedCck cfg →
      ∀ i, 0 ≤ windowSum phyRssiSlidWinMax (cckReadings cfg (r :: older) i)) := by
  have hstrengths : ∀ v ∈ strengths (r :: older), Percent v := by
    intro v hv
    obtain ⟨x, hx, rfl⟩ := List.mem_map.mp hv
    exact (hrange x hx).signalStrength
  have hqualities : ∀ v ∈ qualities (r :: older), Percent v := by
    intro v hv
    obtain ⟨x, hx, rfl⟩ := List.mem_map.mp hv
    exact (hrange x (List.mem_filter.mp hx).1).signalQuality
  have hreadings (i : Path) : ∀ v ∈ cckReadings cfg (r :: older) i, -128 ≤ v ∧ v ≤ 127 := by
    intro v hv
    obtain ⟨x, hx, rfl⟩ := List.mem_map.mp hv
    have hchar := (hrange x (List.mem_filter.mp hx).1).cckAdcPwdb i
    exact ⟨hchar.1, Int.le_of_lt_add_one hchar.2⟩
  have hstrength := quotient_percent h.strength (by decide) (by decide) hstrengths
  have hquality := quotient_percent h.quality (by decide) (by decide) hqualities
  have hbeacon := quotient_percent h.beacon (by decide) (by decide) (beaconPwdbs_percent hrange)
  constructor
  · intro hpub hfed i
    by_contra hneg
    obtain ⟨hlow, -⟩ := windowSum_bounds phyRssiSlidWinMax (hreadings i)
    have hnum : windowNum phyRssiSlidWinMax (cckReadings cfg (r :: older) i) ≤ 100 :=
      windowNum_le _ _
    have hpos : 0 < windowNum phyRssiSlidWinMax (cckReadings cfg (r :: older) i) := by
      rw [cckReadings_fed hfed]
      exact windowNum_pos (by decide) _ _
    have hne := mean_ne (h.cck i) hpos hnum (by omega) (by omega)
    exact hne ((hq.cck hfed i).symm.trans (hpub.cck hfed i))
  · intro hnonneg
    refine ⟨?_, fun hfed => ?_, fun hfed => ?_, fun hfed i => ?_⟩
    · rw [hq.strength]
      obtain ⟨h0, h100⟩ : Percent (windowMean 100 _) := windowMean_percent hstrengths
      rw [← hstrength] at h0 h100 ⊢
      unfold quotient at h100 ⊢
      rw [Int.toNat_natCast, Nat.mod_eq_of_lt (by omega)]
    · rw [hq.quality hfed, hquality]
    · rw [hq.beacon hfed, hbeacon]
    · rw [hq.cck hfed i]
      obtain ⟨-, hhigh⟩ := windowSum_bounds phyRssiSlidWinMax (hreadings i)
      have hnum : windowNum phyRssiSlidWinMax (cckReadings cfg (r :: older) i) ≤ 100 :=
        windowNum_le _ _
      exact mean_eq (h.cck i) (hnonneg hfed i) (by omega)

/-- What is published is right after every sequence of frames, unless this frame is fed to the CCK
windows and the readings in one of them add up to something negative. -/
theorem keepsWindows_iff (cfg : Config) (older : List RxStats) (r : RxStats)
    (hrange : ∀ x ∈ r :: older, x.InRange) :
    KeepsWindows cfg older r ↔ (r.FedCck cfg →
      ∀ i, 0 ≤ windowSum phyRssiSlidWinMax (cckReadings cfg (r :: older) i)) := by
  obtain ⟨st, hrun, hst⟩ := run_windows cfg older
  obtain ⟨st', r', hstep, hst', hq⟩ := rtl8192ProcessPhyinfo_windows cfg hst r
  rw [← published_iff hrange hst' hq]
  constructor
  · rintro ⟨s, s', x, hrun', hstep', -, hpub⟩
    obtain rfl : st = s := Option.some.inj (hrun.symm.trans hrun')
    obtain ⟨rfl, rfl⟩ := Prod.mk.inj (Option.some.inj (hstep.symm.trans hstep'))
    exact hpub
  · intro hpub
    exact ⟨st, st', r', hrun, hstep, hst', hpub⟩

/-- A CCK beacon of the joined network, with the reading `v` on all paths -/
def beaconStats (v : Int) : RxStats :=
  { RxStats.cleared with
    bPacketMatchBSSID := true
    bIsCCK := true
    bPacketBeacon := true
    cckAdcPwdb := fun _ => v }

theorem beaconStats_inRange {v : Int} (h : IsChar v) : (beaconStats v).InRange :=
  { RxStats.inRange_cleared with cckAdcPwdb := fun _ => h }

theorem keepsWindows_beacons : KeepsWindows .all [beaconStats 5] (beaconStats (-3)) := by
  apply (keepsWindows_iff .all [beaconStats 5] (beaconStats (-3)) _).mpr
  · intro _ i
    exact (by decide : (0 : Int) ≤ 2)
  · intro x hx
    simp only [List.mem_cons, List.not_mem_nil, or_false] at hx
    rcases hx with rfl | rfl
    · exact beaconStats_inRange (by decide)
    · exact beaconStats_inRange (by decide)

/-- The mean of a single reading of -1 is published as 4294967295. -/
theorem keepsWindows_negative : ¬ KeepsWindows .all [] (beaconStats (-1)) := by
  rintro ⟨st, st', r', hrun, hstep, -, hpub⟩
  obtain rfl : PhyStats.init = st := Option.some.inj hrun
  obtain ⟨s, x, hstep', hs, hq⟩ :=
    rtl8192ProcessPhyinfo_windows .all (windows_init .all) (beaconStats (-1))
  obtain ⟨rfl, rfl⟩ := Prod.mk.inj (Option.some.inj (hstep'.symm.trans hstep))
  have hrange : ∀ x ∈ [beaconStats (-1)], x.InRange := by
    intro x hx
    rw [List.mem_singleton.mp hx]
    exact beaconStats_inRange (by decide)
  have hsum := (published_iff hrange hs hq).mp hpub (by decide) 0
  exact absurd hsum (by decide)

theorem translateRxSignalStuff819xpci_inRange (cfg : Config) {l : List RxStats} {st : PhyStats}
    (h : Windows cfg l st) {previous pstats : RxStats} (hp : pstats.InRange)
    (rxSNRdB : Path → Int) (f : Frame) :
    ∃ st' previous' pstats',
      translateRxSignalStuff819xpci cfg st previous pstats rxSNRdB f =
        some (st', previous', pstats') ∧
      Windows cfg (previous :: l) st' ∧ previous'.InRange ∧ pstats'.InRange := by
  obtain ⟨st', r', hstep, hst', -⟩ := rtl8192ProcessPhyinfo_windows cfg h previous
  obtain ⟨-, hrange, -⟩ := rtl8192QueryRxphystatus_inRange cfg f hp rxSNRdB
  unfold translateRxSignalStuff819xpci
  rw [hstep, Option.bind_eq_bind, Option.bind_some]
  exact ⟨_, _, _, rfl, hst', { hrange.precord with }, hrange.pstats⟩

end Rtl8190.Phy
