import Rtl8190.Lib.SlidingWindow
import Rtl8190.Phy.Code

/-!
# The statistics of the received frames

`rtl8192_process_phyinfo` and `rtl8190_process_cck_rxpathsel` (`rtl_core.c`): sliding windows for
what is shown to the user, and smoothed values for the driver. The counters of one device stand in
`priv->stats` and in static variables. A `long` has 64 bits.
-/

open Rtl8190.Narrow Rtl8190.SlidingWindow

namespace Rtl8190.Phy

/-- `PHY_RSSI_SLID_WIN_MAX`, `PHY_Beacon_RSSI_SLID_WIN_MAX` and `Rx_Smooth_Factor` -/
abbrev phyRssiSlidWinMax : Nat := 100
abbrev phyBeaconRssiSlidWinMax : Nat := 10
abbrev rxSmoothFactor : Int := 20

/-- `RT_SMOOTH_DATA_4RF`: four windows with one index and one count. -/
structure RtSmoothData4RF where
  elements : Path → Vector Int 100
  index : Nat
  totalNum : Nat
  totalVal : Path → BitVec 32

/-- `priv->stats` with its static indices and counts, `DM_RxPathSelTable.cck_pwdb_sta`, and the
smoothed values of `priv` -/
structure PhyStats where
  slideRssi : Ring 64 100
  slideEvm : Ring 64 100
  slideBeacon : Ring 32 100
  cckAdcPwdb : RtSmoothData4RF
  cckPwdbSta : Path → Int
  signalStrength : Int
  signalQuality : Int
  lastSignalStrengthInpercent : Int
  recvSignalPower : Int
  rxRssiPercentage : Path → Int
  rxEvmPercentage : Fin 2 → Int
  undecoratedSmoothedPwdb : Int
  undecoratedSmoothedCckAdcPwdb : Path → Int

/-- Cleared memory, with the marks of `init_hal_dm` and of the path selection -/
def PhyStats.init : PhyStats where
  slideRssi := ⟨.replicate 100 0, 0, 0, 0⟩
  slideEvm := ⟨.replicate 100 0, 0, 0, 0⟩
  slideBeacon := ⟨.replicate 100 0, 0, 0, 0⟩
  cckAdcPwdb := ⟨fun _ => .replicate 100 0, 0, 0, fun _ => 0⟩
  cckPwdbSta := fun _ => -64
  signalStrength := 0
  signalQuality := 0
  lastSignalStrengthInpercent := 0
  recvSignalPower := 0
  rxRssiPercentage := fun _ => 0
  rxEvmPercentage := fun _ => 0
  undecoratedSmoothedPwdb := -1
  undecoratedSmoothedCckAdcPwdb := fun _ => 0

/-! ## Smoothing -/

/-- The division of C, which truncates towards 0 -/
def smooth (old new : Int) : Int := (old * (rxSmoothFactor - 1) + new).tdiv rxSmoothFactor

/-- One path of `rx_rssi_percentage`, in a `u8` whose 0 means that there is no value yet -/
def smoothRssi (old new : Int) : Int :=
  let p := if old = 0 then new else old
  if new > p then (u8 ((u8 (smooth p new)).val + 1)).val else (u8 (smooth p new)).val

/-- `undecorated_smoothed_pwdb`, whose negative values mean that there is no value yet -/
def smoothPwdb (old new : Int) : Int :=
  let p := if old < 0 then new else old
  if new > p % 2 ^ 32 then smooth p new + 1 else smooth p new

/-- One path of `undecorated_smoothed_cck_adc_pwdb`, which the comparison reads as a `char` -/
def smoothCckAdcPwdb (old new : Int) : Int :=
  if new > (s8 old).val then smooth old new + 1 else smooth old new

/-- One stream of `rx_evm_percentage`, in a `u8` whose 0 means that there is no value yet -/
def smoothEvm (old new : Int) : Int :=
  let p := if old = 0 then (u8 new).val else old
  (u8 (smooth p (new * 1))).val

/-! ## The function -/

def rtl819xTranslateTodbm (signalStrengthIndex : Nat) : Int :=
  ((signalStrengthIndex + 1) / 2 : Nat) - 95

def rtl8192PhyCheckIsLegalRFPath (rfType : RfType) (path : Path) : Bool :=
  match rfType with
  | .rf2T4R => true
  | .rf1T2R => decide (path = 2 ∨ path = 3)

def rtl819xUpdateRxsignalstatistics (old new : Int) : Int :=
  let p := if old = 0 then new else old
  let weighting := if new > p then 5 else if new < p then -5 else 0
  (p * 5 + new + weighting).tdiv 6

/-- `rtl8190_process_cck_rxpathsel`; `none` is an access outside of the arrays. The average is one
of `u32`. -/
def rtl8190ProcessCckRxpathsel (cfg : Config) (st : PhyStats) (r : RxStats) : Option PhyStats :=
  if cfg.rfType = .rf2T4R ∧ cfg.rxPathSelEnable = true ∧ r.bIsCCK = true ∧
      (r.bPacketToSelf = true ∨ r.bPacketBeacon = true) then
    let w := st.cckAdcPwdb
    if h : w.index < 100 then
      let full := w.totalNum ≥ phyRssiSlidWinMax
      let totalNum := if full then phyRssiSlidWinMax else w.totalNum + 1
      let totalVal (i : Path) :=
        (if full then w.totalVal i - BitVec.ofInt 32 (w.elements i)[w.index] else w.totalVal i) +
          BitVec.ofInt 32 (r.cckAdcPwdb i)
      some { st with
        cckAdcPwdb := {
          elements := fun i => (w.elements i).set w.index (r.cckAdcPwdb i) h
          index := if w.index + 1 ≥ phyRssiSlidWinMax then 0 else w.index + 1
          totalNum := totalNum
          totalVal := totalVal }
        cckPwdbSta := fun i => ((totalVal i).toNat / totalNum : Nat)
        undecoratedSmoothedCckAdcPwdb := fun i =>
          smoothCckAdcPwdb (st.undecoratedSmoothedCckAdcPwdb i) (r.cckAdcPwdb i) }
    else none
  else some st

/-- The first window: every frame counts. -/
def slideSignalStrength (st : PhyStats) (r : RxStats) : Option PhyStats := do
  let ring ← st.slideRssi.push phyRssiSlidWinMax r.signalStrength
  return { st with
    slideRssi := ring
    signalStrength := rtl819xTranslateTodbm (ring.total.toNat / ring.num % 256) }

/-- The loop over the paths stops before `RF90_PATH_C`. -/
def rssiPercentages (cfg : Config) (st : PhyStats) (r : RxStats) : PhyStats :=
  if r.bIsCCK = false ∧ r.bPacketToSelf = true then
    { st with rxRssiPercentage := fun path =>
        if path < 2 ∧ rtl8192PhyCheckIsLegalRFPath cfg.rfType path = true then
          smoothRssi (st.rxRssiPercentage path) (r.rxMIMOSignalStrength path)
        else st.rxRssiPercentage path }
  else st

/-- The window of the beacons, whose mean replaces `RxPWDBAll` -/
def slideBeaconPwdb (st : PhyStats) (r : RxStats) : Option (PhyStats × RxStats) :=
  if r.bPacketBeacon = true then do
    let ring ← st.slideBeacon.push phyBeaconRssiSlidWinMax r.rxPWDBAll
    let rxPWDBAll : Int := (ring.total.toNat / ring.num : Nat)
    return ({ st with slideBeacon := ring },
      { r with rxPWDBAll := if rxPWDBAll ≥ 3 then rxPWDBAll - 3 else rxPWDBAll })
  else some (st, r)

/-- The frame is for this station, or a beacon of its network. -/
def RxStats.Ours (r : RxStats) : Prop :=
  r.bPacketToSelf = true ∨ r.bPacketBeacon = true ∨ r.bToSelfBA = true

instance (r : RxStats) : Decidable r.Ours := inferInstanceAs (Decidable (_ ∨ _))

def pwdb (st : PhyStats) (r : RxStats) : PhyStats :=
  if r.Ours then
    { st with
      undecoratedSmoothedPwdb := smoothPwdb st.undecoratedSmoothedPwdb r.rxPWDBAll
      recvSignalPower := rtl819xUpdateRxsignalstatistics st.recvSignalPower r.recvSignalPower }
  else st

def slideEvm (st : PhyStats) (r : RxStats) : Option PhyStats :=
  if r.signalQuality ≠ 0 ∧ r.Ours then do
    let ring ← st.slideEvm.push phyRssiSlidWinMax r.signalQuality
    return { st with
      slideEvm := ring
      signalQuality := (ring.total.toNat / ring.num : Nat)
      lastSignalStrengthInpercent := (ring.total.toNat / ring.num : Nat)
      rxEvmPercentage := fun i =>
        if r.rxMIMOSignalQuality i ≠ -1 then
          smoothEvm (st.rxEvmPercentage i) (r.rxMIMOSignalQuality i)
        else st.rxEvmPercentage i }
  else some st

/-- The frame takes part in more than the first window. -/
def RxStats.Accepted (r : RxStats) : Prop :=
  (r.bPacketMatchBSSID = true ∨ r.bToSelfBA = true) ∧ r.bIsAMPDU = false

instance (r : RxStats) : Decidable r.Accepted := inferInstanceAs (Decidable (_ ∧ _))

def rtl8192ProcessPhyinfo (cfg : Config) (st : PhyStats) (r : RxStats) :
    Option (PhyStats × RxStats) := do
  let st ← slideSignalStrength st r
  if r.Accepted then
    let st ← rtl8190ProcessCckRxpathsel cfg st r
    let (st, r) ← slideBeaconPwdb (rssiPercentages cfg st r) r
    let st ← slideEvm (pwdb st r) r
    return (st, r)
  else return (st, r)

def translateRxSignalStuff819xpci (cfg : Config) (st : PhyStats) (previous pstats : RxStats)
    (rxSNRdB : Path → Int) (f : Frame) : Option (PhyStats × RxStats × RxStats) := do
  let (st, _) ← rtl8192ProcessPhyinfo cfg st previous
  let s := (rtl8192QueryRxphystatus cfg f pstats rxSNRdB).val
  return (st, { s.precord with bIsAMPDU := pstats.bIsAMPDU }, s.pstats)

end Rtl8190.Phy
