import Rtl8190.Lib.Filter
import Rtl8190.Phy.Windows

/-!
# The smoothed values

Each smoothed value of `rtl8192_process_phyinfo` is a filter over the samples that the frames feed
to it. The ones of the paths A and B and of the PWDB follow their samples; the other ones stop short
of some samples, since a division by 20 that truncates moves a value by less than its distance.
-/

open Rtl8190.Narrow Rtl8190.Filter

namespace Rtl8190.Phy

/-- The smoothed values: `rx_rssi_percentage` of a path, `undecorated_smoothed_pwdb`,
`undecorated_smoothed_cck_adc_pwdb` of a path and `rx_evm_percentage` of a stream -/
inductive Smoothed where
  | rssi (path : Path)
  | pwdb
  | cckAdc (path : Path)
  | evm (stream : Fin 2)

namespace Smoothed

def value : Smoothed → PhyStats → Int
  | rssi path, st => st.rxRssiPercentage path
  | pwdb, st => st.undecoratedSmoothedPwdb
  | cckAdc path, st => st.undecoratedSmoothedCckAdcPwdb path
  | evm stream, st => st.rxEvmPercentage stream

/-- What the code makes of a value and a sample. No path from C on is updated. -/
def update : Smoothed → Int → Int → Int
  | rssi path, old, new => if path < 2 then smoothRssi old new else old
  | pwdb, old, new => smoothPwdb old new
  | cckAdc _, old, new => smoothCckAdcPwdb old new
  | evm _, old, new => smoothEvm old new

/-- What a frame feeds to a value, from its statistics as the function leaves them. For
`rx_rssi_percentage` every legal path has samples. -/
def sample (cfg : Config) (r : RxStats) : Smoothed → Option Int
  | rssi path =>
    if r.Accepted ∧ r.bIsCCK = false ∧ r.bPacketToSelf = true ∧
        rtl8192PhyCheckIsLegalRFPath cfg.rfType path = true then
      some (r.rxMIMOSignalStrength path)
    else none
  | pwdb => if r.Accepted ∧ r.Ours then some r.rxPWDBAll else none
  | cckAdc path => if r.FedCck cfg then some (r.cckAdcPwdb path) else none
  | evm stream =>
    if r.FedEvm ∧ r.rxMIMOSignalQuality stream ≠ -1 then some (r.rxMIMOSignalQuality stream)
    else none

/-- A sample that some frame can feed -/
def IsSample (cfg : Config) : Smoothed → Int → Prop
  | rssi path, v => rtl8192PhyCheckIsLegalRFPath cfg.rfType path = true ∧ Percent v
  | pwdb, v => Percent v
  | cckAdc _, v => (cfg.rfType = .rf2T4R ∧ cfg.rxPathSelEnable = true) ∧ IsChar v
  | evm _, v => Percent v

end Smoothed

/-! ## Histories -/

/-- The samples that the frames of `l`, newest first, have fed to a value -/
def samples (cfg : Config) (x : Smoothed) : List RxStats → List Int
  | [] => []
  | r :: older =>
    let v := do
      let st ← run cfg older
      let (_, r) ← rtl8192ProcessPhyinfo cfg st r
      x.sample cfg r
    v.toList ++ samples cfg x older

/-- In every state of the run, the value is between the smallest and the largest of its initial
value and its samples. -/
def StaysWithin (cfg : Config) (x : Smoothed) (l : List RxStats) : Prop :=
  ∀ older, older <:+ l →
    ∃ st, run cfg older = some st ∧ Within (x.value .init) (samples cfg x older) (x.value st)

def Near (c p : Int) : Prop := (p - c).natAbs ≤ 1

/-- After `l`, some number of samples `c`, and no other ones, brings the value to within 1 of `c`,
whatever the frames are that feed them. -/
def Reaches (cfg : Config) (x : Smoothed) (l : List RxStats) (c : Int) : Prop :=
  ∃ n, ∀ tail m, (∀ r ∈ tail, r.InRange) →
    samples cfg x (tail ++ l) = List.replicate m c ++ samples cfg x l → n ≤ m →
    ∃ part st, part <:+ tail ∧ run cfg (part ++ l) = some st ∧ Near c (x.value st)

/-- A frame of the readings 0 moves a CCK value of -1, which has had no positive reading. -/
def Overshoots (cfg : Config) (older : List RxStats) (r : RxStats) : Smoothed → Prop
  | .cckAdc path => r.FedCck cfg ∧ r.cckAdcPwdb path = 0 ∧
    (∃ st, run cfg older = some st ∧ st.undecoratedSmoothedCckAdcPwdb path = -1) ∧
    ∀ v ∈ cckReadings cfg older path, v ≤ 0
  | _ => False

/-- Where equal samples `c` get a value of `p` to within 1 of them. -/
def Smoothed.CanReach : Smoothed → Int → Int → Prop
  | .rssi path, p, c => path < 2 ∨ Near c p
  | .pwdb, _, _ => True
  | .cckAdc _, p, c => -1 ≤ c ∨ p ≤ c + 1
  | .evm _, p, c => p = 0 ∨ c - 1 ≤ p

/-! ## The parts of the function -/

section

variable {cfg : Config} {st st' : PhyStats} {r r' : RxStats}

theorem slideSignalStrength_eq (h : slideSignalStrength st r = some st') :
    ∃ ring strength, st' = { st with slideRssi := ring, signalStrength := strength } := by
  unfold slideSignalStrength at h
  obtain ⟨ring, -, h⟩ := Option.bind_eq_some_iff.mp h
  exact ⟨ring, _, (Option.some.inj h).symm⟩

theorem rtl8190ProcessCckRxpathsel_eq (hacc : r.Accepted)
    (h : rtl8190ProcessCckRxpathsel cfg st r = some st') :
    ∃ w sta smoothed, st' = { st with
        cckAdcPwdb := w
        cckPwdbSta := sta
        undecoratedSmoothedCckAdcPwdb := smoothed } ∧
      ∀ i, smoothed i =
        if r.FedCck cfg then smoothCckAdcPwdb (st.undecoratedSmoothedCckAdcPwdb i) (r.cckAdcPwdb i)
        else st.undecoratedSmoothedCckAdcPwdb i := by
  unfold rtl8190ProcessCckRxpathsel at h
  split at h
  · next hfed =>
    have hfed : r.FedCck cfg := ⟨hacc, hfed⟩
    dsimp only at h
    split at h
    · exact ⟨_, _, _, (Option.some.inj h).symm, fun i => (if_pos hfed).symm⟩
    · cases h
  · next hnot =>
    have hnot : ¬ r.FedCck cfg := fun hfed => hnot hfed.2
    exact ⟨_, _, _, (Option.some.inj h).symm, fun i => (if_neg hnot).symm⟩

theorem slideBeaconPwdb_eq (h : slideBeaconPwdb st r = some (st', r')) :
    ∃ ring v, st' = { st with slideBeacon := ring } ∧ r' = { r with rxPWDBAll := v } ∧
      (r.bPacketBeacon = false → v = r.rxPWDBAll) := by
  unfold slideBeaconPwdb at h
  split at h
  · next hbeacon =>
    obtain ⟨ring, -, h⟩ := Option.bind_eq_some_iff.mp h
    obtain ⟨rfl, rfl⟩ := Prod.mk.inj (Option.some.inj h)
    exact ⟨ring, _, rfl, rfl, fun hnot => absurd (hbeacon.symm.trans hnot) (by decide)⟩
  · obtain ⟨rfl, rfl⟩ := Prod.mk.inj (Option.some.inj h)
    exact ⟨_, _, rfl, rfl, fun _ => rfl⟩

theorem slideEvm_eq (h : slideEvm st r = some st') :
    ∃ ring quality percent percentages, st' = { st with
        slideEvm := ring
        signalQuality := quality
        lastSignalStrengthInpercent := percent
        rxEvmPercentage := percentages } ∧
      ∀ i, percentages i =
        if (r.signalQuality ≠ 0 ∧ r.Ours) ∧ r.rxMIMOSignalQuality i ≠ -1 then
          smoothEvm (st.rxEvmPercentage i) (r.rxMIMOSignalQuality i)
        else st.rxEvmPercentage i := by
  unfold slideEvm at h
  split at h
  · next hfed =>
    obtain ⟨ring, -, h⟩ := Option.bind_eq_some_iff.mp h
    refine ⟨_, _, _, _, (Option.some.inj h).symm, fun i => ?_⟩
    exact if_congr (and_iff_right hfed).symm rfl rfl
  · next hnot =>
    exact ⟨_, _, _, _, (Option.some.inj h).symm, fun i => (if_neg fun hfed => hnot hfed.1).symm⟩

theorem rtl8192ProcessPhyinfo_frame (h : rtl8192ProcessPhyinfo cfg st r = some (st', r')) :
    ∃ v, r' = { r with rxPWDBAll := v } ∧ (¬ r.FedBeacon → v = r.rxPWDBAll) := by
  -- Of the frame, only `RxPWDBAll` is changed, and this only of a beacon.
  unfold rtl8192ProcessPhyinfo at h
  obtain ⟨st₁, -, h⟩ := Option.bind_eq_some_iff.mp h
  split at h
  · next hacc =>
    obtain ⟨st₂, -, h⟩ := Option.bind_eq_some_iff.mp h
    obtain ⟨⟨st₃, r₃⟩, hslide, h⟩ := Option.bind_eq_some_iff.mp h
    obtain ⟨st₄, -, h⟩ := Option.bind_eq_some_iff.mp h
    obtain ⟨-, rfl⟩ := Prod.mk.inj (Option.some.inj h)
    obtain ⟨-, v, -, rfl, hv⟩ := slideBeaconPwdb_eq hslide
    refine ⟨v, rfl, fun hnot => hv ?_⟩
    exact Bool.eq_false_iff.mpr fun hbeacon => hnot ⟨hacc, hbeacon⟩
  · obtain ⟨-, rfl⟩ := Prod.mk.inj (Option.some.inj h)
    exact ⟨_, rfl, fun _ => rfl⟩

theorem elim_ite {c : Prop} [Decidable c] (v old : Int) (f : Int → Int) :
    (if c then some v else none).elim old f = if c then f v else old := by
  split_ifs
  · rfl
  · rfl

theorem rtl8192ProcessPhyinfo_value (h : rtl8192ProcessPhyinfo cfg st r = some (st', r'))
    (x : Smoothed) :
    x.value st' = (x.sample cfg r').elim (x.value st) (x.update (x.value st)) := by
  -- A frame moves a value by its sample, if it has one, and nothing else does.
  unfold rtl8192ProcessPhyinfo at h
  obtain ⟨st₁, hstrength, h⟩ := Option.bind_eq_some_iff.mp h
  obtain ⟨ring, strength, rfl⟩ := slideSignalStrength_eq hstrength
  split at h
  · next hacc =>
    obtain ⟨st₂, hcck, h⟩ := Option.bind_eq_some_iff.mp h
    obtain ⟨w, sta, adcs, rfl, hadcs⟩ := rtl8190ProcessCckRxpathsel_eq hacc hcck
    obtain ⟨percentages, hrssi, hpercentages⟩ := rssiPercentages_eq cfg { st with
      slideRssi := ring
      signalStrength := strength
      cckAdcPwdb := w
      cckPwdbSta := sta
      undecoratedSmoothedCckAdcPwdb := adcs } r
    obtain ⟨⟨st₃, r₃⟩, hslide, h⟩ := Option.bind_eq_some_iff.mp h
    rw [hrssi] at hslide
    obtain ⟨beacons, v, rfl, rfl, -⟩ := slideBeaconPwdb_eq hslide
    obtain ⟨st₄, hevm, h⟩ := Option.bind_eq_some_iff.mp h
    obtain ⟨smoothed, power, hpwdb, hsmoothed⟩ := pwdb_eq { st with
      slideRssi := ring
      signalStrength := strength
      cckAdcPwdb := w
      cckPwdbSta := sta
      undecoratedSmoothedCckAdcPwdb := adcs
      rxRssiPercentage := percentages
      slideBeacon := beacons } { r with rxPWDBAll := v }
    dsimp only at hevm hpwdb
    rw [hpwdb] at hevm
    obtain ⟨evms, quality, percent, streams, rfl, hstreams⟩ := slideEvm_eq hevm
    obtain ⟨rfl, rfl⟩ := Prod.mk.inj (Option.some.inj h)
    have hacc : ({ r with rxPWDBAll := v } : RxStats).Accepted := hacc
    cases x with
    | rssi path =>
      refine (hpercentages path).trans ?_
      rw [Smoothed.sample, elim_ite, Smoothed.update]
      split_ifs <;> tauto
    | pwdb =>
      refine hsmoothed.trans ?_
      rw [Smoothed.sample, elim_ite]
      exact if_congr (and_iff_right hacc).symm rfl rfl
    | cckAdc path =>
      refine (hadcs path).trans ?_
      rw [Smoothed.sample, elim_ite]
      rfl
    | evm stream =>
      refine (hstreams stream).trans ?_
      rw [Smoothed.sample, elim_ite]
      exact if_congr (and_congr_left' (and_iff_right hacc).symm) rfl rfl
  · next hacc =>
    obtain ⟨rfl, rfl⟩ := Prod.mk.inj (Option.some.inj h)
    have hcck : ¬ r.FedCck cfg := fun hfed => hacc hfed.1
    have hevm : ¬ r.FedEvm := fun hfed => hacc hfed.1
    cases x <;> simp [Smoothed.sample, Smoothed.value, hacc, hcck, hevm]

end

/-! ## The filters -/

theorem smooth_bounds (p v : Int) :
    (0 ≤ p * 19 + v → 20 * smooth p v ≤ p * 19 + v ∧ p * 19 + v < 20 * smooth p v + 20) ∧
      (p * 19 + v ≤ 0 → 20 * smooth p v - 20 < p * 19 + v ∧ p * 19 + v ≤ 20 * smooth p v) := by
  -- The division loses less than one, towards 0.
  have hdiv : 20 * smooth p v + (p * 19 + v).tmod 20 = p * 19 + v :=
    Int.mul_tdiv_add_tmod (p * 19 + v) 20
  have hlt := Int.tmod_lt_of_pos (p * 19 + v) (show (0 : Int) < 20 by decide)
  have hgt := Int.lt_tmod_of_pos (p * 19 + v) (show (0 : Int) < 20 by decide)
  constructor
  · intro h
    have := Int.tmod_nonneg 20 h
    omega
  · intro h
    have := Int.tmod_nonneg 20 (show 0 ≤ -(p * 19 + v) by omega)
    rw [Int.neg_tmod] at this
    omega

/-- On percentages it goes down by at least 1, and up by less than the distance. -/
theorem smooth_percent {p v : Int} (hp : Percent p) (hv : Percent v) :
    (p ≤ v → p ≤ smooth p v ∧ smooth p v ≤ v) ∧ (p < v → smooth p v < v) ∧
      (v < p → v ≤ smooth p v ∧ smooth p v < p) := by
  have hbounds := (smooth_bounds p v).1 (by unfold Percent at hp hv; omega)
  unfold Percent at hp hv
  omega

/-- A percentage takes the first sample, and then goes towards each, unless it is there. -/
theorem smoothRssi_spec {p v : Int} (hp : Percent p) (hv : Percent v) :
    (p = 0 → smoothRssi p v = v) ∧ (p < v → p < smoothRssi p v ∧ smoothRssi p v ≤ v) ∧
      (v < p → v ≤ smoothRssi p v ∧ smoothRssi p v < p) ∧ (p = v → smoothRssi p v = p) := by
  have hsame := smooth_percent hv hv
  have hbounds := smooth_percent hp hv
  unfold Percent at hp hv
  unfold smoothRssi u8
  dsimp only
  split_ifs <;> omega

theorem smoothEvm_spec {p v : Int} (hp : Percent p) (hv : Percent v) :
    (p = 0 → smoothEvm p v = v) ∧ (p ≠ 0 → smoothEvm p v = smooth p v) := by
  have hsame := smooth_percent hv hv
  have hbounds := smooth_percent hp hv
  unfold Percent at hp hv
  unfold smoothEvm u8
  dsimp only
  rw [mul_one, Int.emod_eq_of_lt hv.1 (by omega)]
  split_ifs <;> omega

theorem smoothPwdb_spec {p v : Int} (hv : Percent v) :
    (p = -1 → smoothPwdb p v = v) ∧
      (0 ≤ p → (p < v → p < smoothPwdb p v ∧ smoothPwdb p v ≤ v) ∧
        (v < p → v ≤ smoothPwdb p v ∧ smoothPwdb p v < p) ∧ (p = v → smoothPwdb p v = p)) := by
  have hbounds := smooth_bounds p v
  have hfirst := smooth_bounds v v
  unfold Percent at hv
  unfold smoothPwdb
  dsimp only
  split_ifs <;> omega

theorem smoothCckAdcPwdb_up {p v : Int} (hp : IsChar p) (hup : p < v) :
    p < smoothCckAdcPwdb p v ∧ (p < 0 ∧ v = p + 1 → smoothCckAdcPwdb p v = v + 1) ∧
      (¬ (p < 0 ∧ v = p + 1) → smoothCckAdcPwdb p v ≤ v) := by
  have hbounds := smooth_bounds p v
  unfold IsChar at hp
  unfold smoothCckAdcPwdb
  rw [s8_eq_pure (by omega) (by omega), pure_val, if_pos hup]
  omega

theorem smoothCckAdcPwdb_down {p v : Int} (hp : IsChar p) (hdown : v ≤ p) :
    smoothCckAdcPwdb p v = smooth p v ∧ v ≤ smooth p v ∧ smooth p v ≤ p := by
  have hbounds := smooth_bounds p v
  unfold IsChar at hp
  unfold smoothCckAdcPwdb
  rw [s8_eq_pure (by omega) (by omega), pure_val, if_neg (by omega)]
  omega

namespace Smoothed

def Range : Smoothed → Int → Prop
  | rssi _, p => Percent p
  | .pwdb, p => p = -1 ∨ Percent p
  | cckAdc _, p => IsChar p
  | evm _, p => Percent p

theorem range_init (x : Smoothed) : x.Range (x.value .init) := by
  cases x
  · exact percent_zero
  · exact .inl rfl
  · exact (by decide : IsChar 0)
  · exact percent_zero

theorem range_update {cfg : Config} (x : Smoothed) (p v : Int) (hp : x.Range p)
    (hv : x.IsSample cfg v) : x.Range (x.update p v) := by
  cases x with
  | rssi path =>
    change Percent (if path < 2 then smoothRssi p v else p)
    have hspec := smoothRssi_spec hp hv.2
    obtain ⟨-, hv⟩ := hv
    change Percent p at hp
    unfold Percent at hp hv ⊢
    split_ifs <;> omega
  | pwdb =>
    change smoothPwdb p v = -1 ∨ Percent (smoothPwdb p v)
    change p = -1 ∨ Percent p at hp
    have hspec := smoothPwdb_spec (p := p) hv
    unfold IsSample Percent at hv
    unfold Percent at hp ⊢
    omega
  | cckAdc path =>
    change IsChar (smoothCckAdcPwdb p v)
    obtain ⟨-, hv⟩ := hv
    rcases lt_or_ge p v with hup | hdown
    · have hspec := smoothCckAdcPwdb_up hp hup
      change IsChar p at hp
      unfold IsChar at hp hv ⊢
      omega
    · have hspec := smoothCckAdcPwdb_down hp hdown
      change IsChar p at hp
      unfold IsChar at hp hv ⊢
      omega
  | evm stream =>
    change Percent (smoothEvm p v)
    have hspec := smoothEvm_spec hp hv
    have hbounds := smooth_percent hp hv
    change Percent p at hp
    unfold IsSample Percent at hv
    unfold Percent at hp ⊢
    omega

/-- Between the value and the sample, unless it is a CCK value that rises by one from below 0 -/
theorem update_between {cfg : Config} (x : Smoothed) {p v : Int} (hp : x.Range p)
    (hv : x.IsSample cfg v) (hnot : ¬ ((∃ path, x = cckAdc path) ∧ p < 0 ∧ v = p + 1)) :
    min p v ≤ x.update p v ∧ x.update p v ≤ max p v := by
  cases x with
  | rssi path =>
    change min p v ≤ (if path < 2 then smoothRssi p v else p) ∧
      (if path < 2 then smoothRssi p v else p) ≤ max p v
    have hspec := smoothRssi_spec hp hv.2
    split_ifs <;> omega
  | pwdb =>
    change min p v ≤ smoothPwdb p v ∧ smoothPwdb p v ≤ max p v
    change p = -1 ∨ Percent p at hp
    have hspec := smoothPwdb_spec (p := p) hv
    unfold Percent at hp
    omega
  | cckAdc path =>
    change min p v ≤ smoothCckAdcPwdb p v ∧ smoothCckAdcPwdb p v ≤ max p v
    have hnot : ¬ (p < 0 ∧ v = p + 1) := fun h => hnot ⟨⟨path, rfl⟩, h⟩
    rcases lt_or_ge p v with hup | hdown
    · have hspec := smoothCckAdcPwdb_up hp hup
      omega
    · have hspec := smoothCckAdcPwdb_down hp hdown
      omega
  | evm stream =>
    change min p v ≤ smoothEvm p v ∧ smoothEvm p v ≤ max p v
    have hspec := smoothEvm_spec hp hv
    have hbounds := smooth_percent hp hv
    omega

/-- Only a CCK value can leave the bounds of its samples, and only from -1 over a 0. -/
theorem within_update_iff {cfg : Config} (x : Smoothed) {p v : Int} {h : List Int}
    (hp : x.Range p) (hv : x.IsSample cfg v) (hwithin : Within (x.value .init) h p) :
    Within (x.value .init) (v :: h) (x.update p v) ↔
      ¬ ((∃ path, x = cckAdc path) ∧ v = 0 ∧ p = -1 ∧ ∀ w ∈ h, w ≤ 0) := by
  by_cases hover : (∃ path, x = cckAdc path) ∧ p < 0 ∧ v = p + 1
  · obtain ⟨⟨path, rfl⟩, hneg, rfl⟩ := hover
    have hup : smoothCckAdcPwdb p (p + 1) = p + 1 + 1 :=
      (smoothCckAdcPwdb_up hp (Int.lt_succ p)).2.1 ⟨hneg, rfl⟩
    change Within 0 ((p + 1) :: h) (smoothCckAdcPwdb p (p + 1)) ↔ _
    rw [hup]
    constructor
    · rintro ⟨-, w, hw, hle⟩ ⟨-, -, hone, hall⟩
      rcases List.mem_cons.mp hw with rfl | hw
      · omega
      rcases List.mem_cons.mp hw with rfl | hw
      · omega
      · have := hall w hw
        omega
    · intro hnot
      obtain ⟨⟨a, ha, hap⟩, -⟩ := hwithin
      refine ⟨⟨a, ?_, by omega⟩, ?_⟩
      · rcases List.mem_cons.mp ha with rfl | ha
        · exact List.mem_cons_self
        · exact List.mem_cons_of_mem _ (List.mem_cons_of_mem _ ha)
      by_cases hone : p = -1
      · have hpos : ∃ w ∈ h, 0 < w := by
          by_contra hnone
          push Not at hnone
          exact hnot ⟨⟨path, rfl⟩, by omega, hone, hnone⟩
        obtain ⟨w, hw, hpos⟩ := hpos
        exact ⟨w, List.mem_cons_of_mem _ (List.mem_cons_of_mem _ hw), by omega⟩
      · exact ⟨0, List.mem_cons_self, by omega⟩
  · have hbetween := update_between x hp hv hover
    refine iff_of_true (hwithin.step hbetween.1 hbetween.2) fun h => hover ⟨h.1, ?_⟩
    omega

end Smoothed

/-! ## Runs -/

section

variable {cfg : Config}

theorem run_cons {r : RxStats} {older : List RxStats} {st' : PhyStats}
    (h : run cfg (r :: older) = some st') :
    ∃ st r', run cfg older = some st ∧ rtl8192ProcessPhyinfo cfg st r = some (st', r') := by
  unfold run at h
  obtain ⟨st, hst, h⟩ := Option.bind_eq_some_iff.mp h
  obtain ⟨⟨st₁, r'⟩, hstep, h⟩ := Option.bind_eq_some_iff.mp h
  obtain rfl := Option.some.inj h
  exact ⟨st, r', hst, hstep⟩

theorem samples_cons {r r' : RxStats} {older : List RxStats} {st st' : PhyStats}
    (hrun : run cfg older = some st) (hstep : rtl8192ProcessPhyinfo cfg st r = some (st', r'))
    (x : Smoothed) :
    samples cfg x (r :: older) = (x.sample cfg r').toList ++ samples cfg x older := by
  simp [samples, hrun, hstep]

theorem value_run (x : Smoothed) {l : List RxStats} {st : PhyStats} (h : run cfg l = some st) :
    x.value st = filtered x.update (x.value .init) (samples cfg x l) := by
  induction l generalizing st with
  | nil =>
    obtain rfl := Option.some.inj h
    rfl
  | cons r older ih =>
    obtain ⟨st₀, r', hrun, hstep⟩ := run_cons h
    rw [samples_cons hrun hstep, rtl8192ProcessPhyinfo_value hstep, ih hrun]
    cases x.sample cfg r' with
    | none => rfl
    | some v => rfl

/-- `RxPWDBAll` of a frame is a percentage also after the mean of the beacons has replaced it. -/
theorem pwdb_percent {l : List RxStats} {r : RxStats} {pwdb : Int} {st st' : PhyStats}
    (hrange : ∀ x ∈ r :: l, x.InRange) (hst : Windows cfg l st)
    (hstep : rtl8192ProcessPhyinfo cfg st r = some (st', { r with rxPWDBAll := pwdb })) :
    Percent pwdb := by
  by_cases hbeacon : r.FedBeacon
  · obtain ⟨st₁, r₁, hstep₁, hst₁, hq⟩ := rtl8192ProcessPhyinfo_windows cfg hst r
    obtain ⟨rfl, rfl⟩ := Prod.mk.inj (Option.some.inj (hstep₁.symm.trans hstep))
    have hmem := beaconPwdbs_percent hrange
    have hmean : Percent (windowMean phyBeaconRssiSlidWinMax (beaconPwdbs (r :: l))) :=
      windowMean_percent hmem
    rw [← quotient_percent hst₁.beacon (by decide) (by decide) hmem] at hmean
    have hpwdb := hq.beacon hbeacon
    dsimp only at hpwdb
    unfold Percent at hmean ⊢
    split_ifs at hpwdb <;> omega
  · obtain ⟨v, hv, hsame⟩ := rtl8192ProcessPhyinfo_frame hstep
    have hv : pwdb = v := congrArg RxStats.rxPWDBAll hv
    rw [hv, hsame hbeacon]
    exact (hrange r List.mem_cons_self).rxPWDBAll

theorem sample_isSample {l : List RxStats} {r r' : RxStats} {st st' : PhyStats}
    (hrange : ∀ x ∈ r :: l, x.InRange) (hst : Windows cfg l st)
    (hstep : rtl8192ProcessPhyinfo cfg st r = some (st', r')) {x : Smoothed} {v : Int}
    (h : x.sample cfg r' = some v) : x.IsSample cfg v := by
  -- What a frame feeds is a possible sample.
  obtain ⟨pwdb, rfl, hpwdb⟩ := rtl8192ProcessPhyinfo_frame hstep
  have hr : r.InRange := hrange r List.mem_cons_self
  cases x with
  | rssi path =>
    obtain ⟨hfed, h⟩ := Option.ite_none_right_eq_some.mp h
    obtain rfl := Option.some.inj h
    exact ⟨hfed.2.2.2, hr.rxMIMOSignalStrength path⟩
  | pwdb =>
    obtain ⟨-, h⟩ := Option.ite_none_right_eq_some.mp h
    obtain rfl := Option.some.inj h
    exact pwdb_percent hrange hst hstep
  | cckAdc path =>
    obtain ⟨hfed, h⟩ := Option.ite_none_right_eq_some.mp h
    obtain rfl := Option.some.inj h
    exact ⟨⟨hfed.2.1, hfed.2.2.1⟩, hr.cckAdcPwdb path⟩
  | evm stream =>
    obtain ⟨hfed, h⟩ := Option.ite_none_right_eq_some.mp h
    obtain rfl := Option.some.inj h
    exact (hr.rxMIMOSignalQuality stream).resolve_left hfed.2

theorem samples_isSample {l : List RxStats} (hrange : ∀ r ∈ l, r.InRange) (x : Smoothed) :
    ∀ v ∈ samples cfg x l, x.IsSample cfg v := by
  induction l with
  | nil => simp [samples]
  | cons r older ih =>
    obtain ⟨st, hrun, hst⟩ := run_windows cfg older
    obtain ⟨st', r', hstep, -⟩ := rtl8192ProcessPhyinfo_windows cfg hst r
    rw [samples_cons hrun hstep]
    intro v hv
    rcases List.mem_append.mp hv with hv | hv
    · exact sample_isSample hrange hst hstep (Option.mem_toList.mp hv)
    · exact ih (List.forall_mem_cons.mp hrange).2 v hv

theorem range_run (x : Smoothed) {l : List RxStats} (hrange : ∀ r ∈ l, r.InRange) {st : PhyStats}
    (h : run cfg l = some st) : x.Range (x.value st) := by
  rw [value_run x h]
  exact filtered_inv x.range_update x.range_init (samples_isSample hrange x)

theorem samples_cckAdc (path : Path) (l : List RxStats) :
    samples cfg (.cckAdc path) l = cckReadings cfg l path := by
  induction l with
  | nil => rfl
  | cons r older ih =>
    obtain ⟨st, hrun, hst⟩ := run_windows cfg older
    obtain ⟨st', r', hstep, -⟩ := rtl8192ProcessPhyinfo_windows cfg hst r
    obtain ⟨v, rfl, -⟩ := rtl8192ProcessPhyinfo_frame hstep
    rw [samples_cons hrun hstep, ih]
    by_cases hfed : r.FedCck cfg
    · rw [cckReadings_fed hfed]
      have hsample : Smoothed.sample cfg { r with rxPWDBAll := v } (.cckAdc path) =
        some (r.cckAdcPwdb path) := if_pos hfed
      rw [hsample]
      rfl
    · rw [cckReadings_not_fed hfed]
      have hsample : Smoothed.sample cfg { r with rxPWDBAll := v } (.cckAdc path) = none :=
        if_neg hfed
      rw [hsample]
      rfl

/-! ## Bounds -/

theorem overshoots_iff {older : List RxStats} {r r' : RxStats} {st st' : PhyStats}
    (hrun : run cfg older = some st) (hstep : rtl8192ProcessPhyinfo cfg st r = some (st', r'))
    (x : Smoothed) :
    Overshoots cfg older r x ↔ x.sample cfg r' = some 0 ∧ (∃ path, x = .cckAdc path) ∧
      x.value st = -1 ∧ ∀ v ∈ samples cfg x older, v ≤ 0 := by
  obtain ⟨v, rfl, -⟩ := rtl8192ProcessPhyinfo_frame hstep
  cases x with
  | cckAdc path =>
    rw [samples_cckAdc]
    constructor
    · rintro ⟨hfed, hzero, ⟨s, hrun', hone⟩, hall⟩
      obtain rfl : st = s := Option.some.inj (hrun.symm.trans hrun')
      have hsample : Smoothed.sample cfg { r with rxPWDBAll := v } (.cckAdc path) =
        some (r.cckAdcPwdb path) := if_pos hfed
      rw [hsample, hzero]
      exact ⟨rfl, ⟨path, rfl⟩, hone, hall⟩
    · rintro ⟨hsample, -, hone, hall⟩
      obtain ⟨hfed, hzero⟩ := Option.ite_none_right_eq_some.mp hsample
      exact ⟨hfed, Option.some.inj hzero, ⟨st, hrun, hone⟩, hall⟩
  | rssi path => simp [Overshoots]
  | pwdb => simp [Overshoots]
  | evm stream => simp [Overshoots]

/-- The value is within its bounds after a frame, unless this frame makes it overshoot. -/
theorem within_cons_iff {older : List RxStats} {r : RxStats} {st : PhyStats}
    (hrange : ∀ x ∈ r :: older, x.InRange) (x : Smoothed) (hrun : run cfg older = some st)
    (hwithin : Within (x.value .init) (samples cfg x older) (x.value st)) :
    (∃ st', run cfg (r :: older) = some st' ∧
        Within (x.value .init) (samples cfg x (r :: older)) (x.value st')) ↔
      ¬ Overshoots cfg older r x := by
  obtain ⟨st₀, hrun₀, hst⟩ := run_windows cfg older
  obtain rfl : st = st₀ := Option.some.inj (hrun.symm.trans hrun₀)
  obtain ⟨st', r', hstep, -⟩ := rtl8192ProcessPhyinfo_windows cfg hst r
  have hrun' : run cfg (r :: older) = some st' := by
    unfold run
    rw [hrun, Option.bind_eq_bind, Option.bind_some, hstep]
    rfl
  simp only [hrun', Option.some.injEq, exists_eq_left']
  rw [overshoots_iff hrun hstep, samples_cons hrun hstep, rtl8192ProcessPhyinfo_value hstep]
  cases hsample : x.sample cfg r' with
  | none =>
    simp only [Option.toList_none, List.nil_append, Option.elim_none, reduceCtorEq, false_and,
      not_false_eq_true, iff_true]
    exact hwithin
  | some v =>
    have hv := sample_isSample hrange hst hstep hsample
    have hp := range_run x (List.forall_mem_cons.mp hrange).2 hrun
    simp only [Option.toList_some, List.cons_append, List.nil_append, Option.elim_some,
      Option.some.injEq]
    rw [Smoothed.within_update_iff x hp hv hwithin]
    tauto

theorem staysWithin_iff (x : Smoothed) {l : List RxStats} (hrange : ∀ r ∈ l, r.InRange) :
    StaysWithin cfg x l ↔ ∀ older r, r :: older <:+ l → ¬ Overshoots cfg older r x := by
  unfold StaysWithin
  induction l with
  | nil =>
    simp only [List.suffix_nil, forall_eq, reduceCtorEq, false_implies, implies_true, iff_true]
    exact ⟨_, rfl, within_nil _⟩
  | cons r older ih =>
    have ih := ih (List.forall_mem_cons.mp hrange).2
    have hsuffix : older <:+ r :: older := List.suffix_cons r older
    constructor
    · intro h older' r' hs
      rcases List.suffix_cons_iff.mp hs with heq | hs
      · obtain ⟨rfl, rfl⟩ := List.cons.inj heq
        obtain ⟨st, hrun, hwithin⟩ := h older' hsuffix
        exact (within_cons_iff hrange x hrun hwithin).mp (h _ List.suffix_rfl)
      · exact ih.mp (fun o ho => h o (ho.trans hsuffix)) older' r' hs
    · intro h older' hs
      have hrest := ih.mpr fun o r' ho => h o r' (ho.trans hsuffix)
      rcases List.suffix_cons_iff.mp hs with rfl | hs
      · obtain ⟨st, hrun, hwithin⟩ := hrest older List.suffix_rfl
        exact (within_cons_iff hrange x hrun hwithin).mpr (h older r List.suffix_rfl)
      · exact hrest older' hs

/-! ## Convergence -/

theorem update_closer (x : Smoothed) {p c : Int} (hp : x.Range p) (hc : x.IsSample cfg c)
    (h : x.CanReach p c) :
    x.CanReach (x.update p c) c ∧ (Near c p → Near c (x.update p c)) ∧
      (¬ Near c p → (x.update p c - c).natAbs < (p - c).natAbs) := by
  unfold Near
  cases x with
  | rssi path =>
    change (path < 2 ∨ Near c (if path < 2 then smoothRssi p c else p)) ∧
      (_ → ((if path < 2 then smoothRssi p c else p) - c).natAbs ≤ 1) ∧
      (_ → ((if path < 2 then smoothRssi p c else p) - c).natAbs < _)
    change path < 2 ∨ Near c p at h
    have hspec := smoothRssi_spec hp hc.2
    obtain ⟨-, hc⟩ := hc
    change Percent p at hp
    unfold Percent at hp hc
    by_cases hpath : path < 2
    · rw [if_pos hpath]
      refine ⟨.inl hpath, ?_, ?_⟩ <;> omega
    · have hnear := h.resolve_left hpath
      rw [if_neg hpath]
      exact ⟨.inr hnear, id, fun hfar => absurd hnear hfar⟩
  | pwdb =>
    change True ∧ (_ → (smoothPwdb p c - c).natAbs ≤ 1) ∧ (_ → (smoothPwdb p c - c).natAbs < _)
    change p = -1 ∨ Percent p at hp
    have hspec := smoothPwdb_spec (p := p) hc
    unfold Percent at hp
    refine ⟨trivial, ?_, ?_⟩ <;> omega
  | cckAdc path =>
    change (-1 ≤ c ∨ smoothCckAdcPwdb p c ≤ c + 1) ∧
      (_ → (smoothCckAdcPwdb p c - c).natAbs ≤ 1) ∧ (_ → (smoothCckAdcPwdb p c - c).natAbs < _)
    change -1 ≤ c ∨ p ≤ c + 1 at h
    rcases lt_or_ge p c with hup | hdown
    · have hspec := smoothCckAdcPwdb_up hp hup
      omega
    · have hspec := smoothCckAdcPwdb_down hp hdown
      have hbounds := smooth_bounds p c
      rw [hspec.1]
      omega
  | evm stream =>
    change (smoothEvm p c = 0 ∨ c - 1 ≤ smoothEvm p c) ∧
      (_ → (smoothEvm p c - c).natAbs ≤ 1) ∧ (_ → (smoothEvm p c - c).natAbs < _)
    change p = 0 ∨ c - 1 ≤ p at h
    have hspec := smoothEvm_spec hp hc
    have hbounds := smooth_percent hp hc
    omega

theorem value_tail (x : Smoothed) {tail l : List RxStats} {st st' : PhyStats} {m : Nat} {c : Int}
    (hrun : run cfg l = some st) (hrun' : run cfg (tail ++ l) = some st')
    (hfed : samples cfg x (tail ++ l) = List.replicate m c ++ samples cfg x l) :
    x.value st' = (x.update · c)^[m] (x.value st) := by
  rw [value_run x hrun', value_run x hrun, hfed, filtered_replicate_append]

theorem reaches_of_canReach (x : Smoothed) {l : List RxStats} (hrange : ∀ r ∈ l, r.InRange)
    {st : PhyStats} (hrun : run cfg l = some st) {c : Int} (hc : x.IsSample cfg c)
    (h : x.CanReach (x.value st) c) : Reaches cfg x l c := by
  refine ⟨(x.value st - c).natAbs, fun tail m _ hfed hm => ?_⟩
  obtain ⟨st', hrun', -⟩ := run_windows cfg (tail ++ l)
  refine ⟨tail, st', List.suffix_rfl, hrun', ?_⟩
  rw [value_tail x hrun hrun' hfed]
  have hstep (p : Int) (hp : x.Range p ∧ x.CanReach p c) := update_closer x hp.1 hc hp.2
  apply iterate_near (I := fun p => x.Range p ∧ x.CanReach p c) (d := fun p => (p - c).natAbs)
  · exact fun p hp => ⟨x.range_update p c hp.1 hc, (hstep p hp).1⟩
  · exact fun p hp => (hstep p hp).2.1
  · exact fun p hp hfar => (hstep p hp).2.2 (by unfold Near; omega)
  · exact ⟨range_run x hrange hrun, h⟩
  · omega

theorem reaches_of_not_isSample (x : Smoothed) {l : List RxStats} (hrange : ∀ r ∈ l, r.InRange)
    {c : Int} (hc : ¬ x.IsSample cfg c) : Reaches cfg x l c := by
  refine ⟨1, fun tail m htail hfed hm => ?_⟩
  exfalso
  apply hc
  apply samples_isSample (l := tail ++ l) _ x
  · rw [hfed, List.mem_append]
    exact .inl (List.mem_replicate.mpr ⟨by omega, rfl⟩)
  · intro r hr
    rcases List.mem_append.mp hr with hr | hr
    · exact htail r hr
    · exact hrange r hr

/-- A frame that feeds `c`, again and again, does not help a value that it keeps away from `c`. -/
theorem not_reaches (x : Smoothed) {A : Int → Prop} {c : Int} {r : RxStats} (hr : r.InRange)
    (hfeeds : ∀ v, x.sample cfg { r with rxPWDBAll := v } = some c)
    (hinv : ∀ p, A p → A (x.update p c)) (hfar : ∀ p, A p → ¬ Near c p)
    {l : List RxStats} {st : PhyStats} (hrun : run cfg l = some st) (h : A (x.value st)) :
    ¬ Reaches cfg x l c := by
  have hfed (n : Nat) :
      samples cfg x (List.replicate n r ++ l) = List.replicate n c ++ samples cfg x l := by
    induction n with
    | zero => rfl
    | succ n ih =>
      obtain ⟨s, hs, hwindows⟩ := run_windows cfg (List.replicate n r ++ l)
      obtain ⟨s', r', hstep, -⟩ := rtl8192ProcessPhyinfo_windows cfg hwindows r
      obtain ⟨v, rfl, -⟩ := rtl8192ProcessPhyinfo_frame hstep
      rw [List.replicate_succ, List.cons_append, samples_cons hs hstep, hfeeds, ih]
      rfl
  rintro ⟨n, hn⟩
  obtain ⟨part, st', hpart, hrun', hnear⟩ := hn (List.replicate n r) n
    (fun y hy => (List.mem_replicate.mp hy).2 ▸ hr) (hfed n) le_rfl
  obtain ⟨k, rfl⟩ : ∃ k, part = List.replicate k r :=
    ⟨part.length, List.eq_replicate_iff.mpr
      ⟨rfl, fun y hy => (List.mem_replicate.mp (hpart.subset hy)).2⟩⟩
  apply hfar _ _ hnear
  rw [value_tail x hrun hrun' (hfed _)]
  exact iterate_inv hinv h _

end

/-- A frame for this station with the strength `c` on all paths, and one with the quality `c` in all
streams -/
def strengthStats (c : Int) : RxStats :=
  { RxStats.cleared with
    bPacketMatchBSSID := true
    bPacketToSelf := true
    rxMIMOSignalStrength := fun _ => c }

def qualityStats (c : Int) : RxStats :=
  { RxStats.cleared with
    bPacketMatchBSSID := true
    bPacketToSelf := true
    signalQuality := 100
    rxMIMOSignalQuality := fun _ => c }

theorem strengthStats_inRange {c : Int} (h : Percent c) : (strengthStats c).InRange :=
  { RxStats.inRange_cleared with rxMIMOSignalStrength := fun _ => h }

theorem qualityStats_inRange {c : Int} (h : Percent c) : (qualityStats c).InRange :=
  { RxStats.inRange_cleared with
    signalQuality := (by decide : Percent 100)
    rxMIMOSignalQuality := fun _ => .inr h }

theorem not_reaches_of_not_canReach {cfg : Config} (x : Smoothed) {l : List RxStats}
    (hrange : ∀ r ∈ l, r.InRange) {st : PhyStats} (hrun : run cfg l = some st) {c : Int}
    (hc : x.IsSample cfg c) (h : ¬ x.CanReach (x.value st) c) : ¬ Reaches cfg x l c := by
  have hp := range_run x hrange hrun
  cases x with
  | rssi path =>
    obtain ⟨hpath, hfar⟩ := not_or.mp h
    apply not_reaches (.rssi path) (A := fun p => ¬ Near c p) (strengthStats_inRange hc.2)
    · exact fun v => if_pos ⟨⟨.inl rfl, rfl⟩, rfl, rfl, hc.1⟩
    · intro p hp
      change ¬ Near c (if path < 2 then smoothRssi p c else p)
      rw [if_neg hpath]
      exact hp
    · exact fun p hp => hp
    · exact hrun
    · exact hfar
  | pwdb => exact absurd trivial h
  | cckAdc path =>
    obtain ⟨hlow, hhigh⟩ := not_or.mp h
    have hc' := hc.2
    apply not_reaches (.cckAdc path) (A := fun p => IsChar p ∧ c + 2 ≤ p)
      (beaconStats_inRange hc.2)
    · exact fun v => if_pos ⟨⟨.inl rfl, rfl⟩, hc.1.1, hc.1.2, rfl, .inr rfl⟩
    · rintro p ⟨hp, haway⟩
      change IsChar (smoothCckAdcPwdb p c) ∧ c + 2 ≤ smoothCckAdcPwdb p c
      have hspec := smoothCckAdcPwdb_down hp (show c ≤ p by omega)
      have hbounds := smooth_bounds p c
      rw [hspec.1]
      unfold IsChar at hp hc' ⊢
      omega
    · rintro p ⟨-, haway⟩
      unfold Near
      omega
    · exact hrun
    · exact ⟨hp, by omega⟩
  | evm stream =>
    obtain ⟨hzero, hlow⟩ := not_or.mp h
    have hc' := hc
    apply not_reaches (.evm stream) (A := fun p => (Percent p ∧ p ≠ 0) ∧ p ≤ c - 2)
      (qualityStats_inRange hc)
    · intro v
      have hmark : c ≠ -1 := by
        rintro rfl
        exact absurd hc.1 (by decide)
      have hquality : (100 : Int) ≠ 0 := by decide
      exact if_pos ⟨⟨⟨.inl rfl, rfl⟩, hquality, .inl rfl⟩, hmark⟩
    · rintro p ⟨⟨hp, hnonzero⟩, haway⟩
      change (Percent (smoothEvm p c) ∧ smoothEvm p c ≠ 0) ∧ smoothEvm p c ≤ c - 2
      have hspec := smoothEvm_spec hp hc
      have hbounds := smooth_percent hp hc
      have hdiv := smooth_bounds p c
      rw [hspec.2 hnonzero]
      unfold Smoothed.IsSample at hc'
      unfold Percent at hp hc' ⊢
      omega
    · rintro p ⟨-, haway⟩
      unfold Near
      omega
    · exact hrun
    · exact ⟨⟨hp, hzero⟩, by omega⟩

/-- After every sequence of frames, each smoothed value has stayed within the bounds of its samples
unless a CCK value has overshot, and equal samples get it near to them under the condition that its
filter has for this. -/
theorem smoothing_iff (cfg : Config) (x : Smoothed) (l : List RxStats)
    (hrange : ∀ r ∈ l, r.InRange) (c : Int) :
    (StaysWithin cfg x l ↔ ∀ older r, r :: older <:+ l → ¬ Overshoots cfg older r x) ∧
      (Reaches cfg x l c ↔
        (x.IsSample cfg c → ∀ st, run cfg l = some st → x.CanReach (x.value st) c)) := by
  refine ⟨staysWithin_iff x hrange, ?_⟩
  obtain ⟨st, hrun, -⟩ := run_windows cfg l
  constructor
  · intro hreaches hc s hs
    by_contra hnot
    exact not_reaches_of_not_canReach x hrange hs hc hnot hreaches
  · intro h
    by_cases hc : x.IsSample cfg c
    · exact reaches_of_canReach x hrange hrun hc (h hc st hrun)
    · exact reaches_of_not_isSample x hrange hc

theorem smoothing_strength :
    StaysWithin .all (.rssi 0) [strengthStats 50] ∧
      Reaches .all (.rssi 0) [strengthStats 50] 60 := by
  have hrange : ∀ r ∈ [strengthStats 50], r.InRange := by
    simp only [List.mem_singleton, forall_eq]
    exact strengthStats_inRange (by decide)
  obtain ⟨hwithin, hreaches⟩ := smoothing_iff .all (.rssi 0) [strengthStats 50] hrange 60
  exact ⟨hwithin.mpr fun _ _ _ h => h, hreaches.mpr fun _ _ _ => .inl (by decide)⟩

/-- Readings of -10 never move a CCK value off 0, and after one of -20, one of 0 makes it 1. -/
theorem smoothing_negative :
    ¬ Reaches .all (.cckAdc 0) [] (-10) ∧
      ¬ StaysWithin .all (.cckAdc 0) [beaconStats 0, beaconStats (-20)] := by
  constructor
  · apply not_reaches_of_not_canReach (.cckAdc 0) (by simp) (show run .all [] = some .init from rfl)
    · exact ⟨⟨rfl, rfl⟩, by decide⟩
    · exact not_or.mpr ⟨by decide, (by decide : ¬ (0 : Int) ≤ -10 + 1)⟩
  · have hrange : ∀ r ∈ [beaconStats 0, beaconStats (-20)], r.InRange := by
      simp only [List.mem_cons, List.not_mem_nil, or_false, forall_eq_or_imp, forall_eq]
      exact ⟨beaconStats_inRange (by decide), beaconStats_inRange (by decide)⟩
    rw [staysWithin_iff (.cckAdc 0) hrange]
    intro h
    apply h [beaconStats (-20)] (beaconStats 0) List.suffix_rfl
    obtain ⟨st, hrun, -⟩ := run_windows .all [beaconStats (-20)]
    refine ⟨by decide, rfl, ⟨st, hrun, ?_⟩, by decide⟩
    have hvalue := value_run (.cckAdc 0) hrun
    rw [samples_cckAdc] at hvalue
    exact hvalue

end Rtl8190.Phy
