import Mathlib.Tactic.Ring
import Rtl8190.Phy.Code

/-!
# What a PHY status report yields

The percentages are in range and no conversion to eight bits loses anything. The strength that is
shown to the user is not the one of the report, except for CCK frames.
-/

open Function Rtl8190.Narrow
open Rtl8190.Memory (Byte)

namespace Rtl8190.Phy

def Percent (v : Int) : Prop := 0 ≤ v ∧ v ≤ 100

instance (v : Int) : Decidable (Percent v) := inferInstanceAs (Decidable (_ ∧ _))

theorem percent_zero : Percent 0 := by decide

def IsChar (v : Int) : Prop := -128 ≤ v ∧ v < 128

instance (v : Int) : Decidable (IsChar v) := inferInstanceAs (Decidable (_ ∧ _))

/-! ## Conversions -/

theorem rtl819xQueryRxpwrpercentage_percent (antpower : Int) :
    (rtl819xQueryRxpwrpercentage antpower).exact = true ∧
      Percent (rtl819xQueryRxpwrpercentage antpower).val := by
  unfold rtl819xQueryRxpwrpercentage Percent
  split_ifs with hout hfull
  · exact ⟨rfl, by simp⟩
  · exact ⟨rfl, by simp⟩
  · rw [u8_eq_pure (by omega) (by omega), pure_val]
    exact ⟨rfl, by omega, by omega⟩

theorem rtl819xEvmDbtopercentage_percent (value : Int) :
    (rtl819xEvmDbtopercentage value).exact = true ∧
      Percent (rtl819xEvmDbtopercentage value).val := by
  unfold rtl819xEvmDbtopercentage Percent
  simp only
  have hclamp : ∃ v : Int, -33 ≤ v ∧ v ≤ 0 ∧
      (if (if value ≥ 0 then 0 else value) ≤ -33 then -33
        else (if value ≥ 0 then 0 else value)) = v := by
    refine ⟨_, ?_, ?_, rfl⟩
    · split_ifs <;> omega
    · split_ifs <;> omega
  obtain ⟨v, hlow, hhigh, hv⟩ := hclamp
  rw [hv, s8_eq_pure (by omega) (by omega), bind_exact, bind_val, pure_val,
    s8_eq_pure (by omega) (by omega), bind_exact, bind_val, pure_val,
    u8_eq_pure (by split_ifs <;> omega) (by split_ifs <;> omega), pure_val]
  refine ⟨rfl, ?_, ?_⟩
  · split_ifs <;> omega
  · split_ifs <;> omega

theorem rtl819xSignalScaleMapping_percent {currsig : Int} (h : Percent currsig) :
    Percent (rtl819xSignalScaleMapping currsig) := by
  obtain ⟨h0, h100⟩ := h
  unfold rtl819xSignalScaleMapping Percent
  split_ifs <;> first | omega | (rw [Int.tdiv_eq_ediv_of_nonneg (by omega)]; omega)

theorem rtl819xSignalScaleMapping_eq_zero_iff {currsig : Int} (h : Percent currsig) :
    rtl819xSignalScaleMapping currsig = 0 ↔ currsig = 0 := by
  obtain ⟨h0, h100⟩ := h
  unfold rtl819xSignalScaleMapping
  split_ifs <;> first | omega | (rw [Int.tdiv_eq_ediv_of_nonneg (by omega)]; omega)

theorem cckRxPwrAll_exact (reg824Bit9 : Bool) (agc : Byte) :
    (cckRxPwrAll reg824Bit9 agc).exact = true := by
  have hlong : (agc &&& 0x3e).toNat ≤ 0x3e := by
    rw [BitVec.toNat_and]
    exact Nat.and_le_right
  have hshort : (agc &&& 0x1f).toNat ≤ 0x1f := by
    rw [BitVec.toNat_and]
    exact Nat.and_le_right
  unfold cckRxPwrAll
  simp only
  split_ifs
  · split <;> first | rfl | (rw [s8_eq_pure (by omega) (by omega)]; rfl)
  · split <;> first | rfl | (rw [s8_eq_pure (by omega) (by omega)]; rfl)

theorem cckQuality_percent (rxPWDBAll : Int) (sqRpt : Byte) :
    (cckQuality rxPWDBAll sqRpt).exact = true ∧ Percent (cckQuality rxPWDBAll sqRpt).val := by
  unfold cckQuality
  simp only
  split_ifs with hstrong hbad hgood
  · exact ⟨rfl, by decide⟩
  · exact ⟨rfl, by decide⟩
  · exact ⟨rfl, by decide⟩
  · have hdiv : ((64 - (sqRpt.toNat : Int)) * 100).tdiv 44 = (64 - (sqRpt.toNat : Int)) * 100 / 44 :=
      Int.tdiv_eq_ediv_of_nonneg (by omega)
    rw [hdiv, u8_eq_pure (by omega) (by omega), pure_val]
    exact ⟨rfl, by omega, by omega⟩

theorem half_exact (b : Byte) : (s8 (b.toInt.tdiv 2)).exact = true := by
  have hlow := BitVec.le_toInt b
  have hhigh := BitVec.toInt_lt (x := b)
  simp only [show (2 : Int) ^ (8 - 1) = 128 by rfl] at hlow hhigh
  have htdiv := Int.mul_tdiv_add_tmod b.toInt 2
  have hmod := Int.tmod_lt_of_pos b.toInt (show (0 : Int) < 2 by decide)
  have hmod' := Int.lt_tmod_of_pos b.toInt (show (0 : Int) < 2 by decide)
  unfold s8
  simp only [decide_eq_true_eq]
  omega

/-! ## Ranges -/

/-- What may stand in the statistics of a frame. A quality of -1 marks a stream that the frame does
not have. -/
structure RxStats.InRange (r : RxStats) : Prop where
  rxPWDBAll : Percent r.rxPWDBAll
  signalQuality : Percent r.signalQuality
  signalStrength : Percent r.signalStrength
  rxMIMOSignalStrength : ∀ i, Percent (r.rxMIMOSignalStrength i)
  rxMIMOSignalQuality : ∀ i, r.rxMIMOSignalQuality i = -1 ∨ Percent (r.rxMIMOSignalQuality i)
  cckAdcPwdb : ∀ i, IsChar (r.cckAdcPwdb i)

theorem RxStats.inRange_cleared : RxStats.cleared.InRange where
  rxPWDBAll := percent_zero
  signalQuality := percent_zero
  signalStrength := percent_zero
  rxMIMOSignalStrength := fun _ => percent_zero
  rxMIMOSignalQuality := fun _ => .inr percent_zero
  cckAdcPwdb := fun _ => (by decide : IsChar 0)

structure Records.InRange (s : Records) : Prop where
  pstats : s.pstats.InRange
  precord : s.precord.InRange

theorem Records.InRange.both {s : Records} (h : s.InRange) {f : RxStats → RxStats}
    (hf : ∀ r, r.InRange → (f r).InRange) : (s.both f).InRange :=
  ⟨hf _ h.pstats, hf _ h.precord⟩

theorem Records.InRange.recvSignalPower {s : Records} (h : s.InRange) (power : Int) :
    ({ s with pstats := { s.pstats with recvSignalPower := power } } : Records).InRange :=
  ⟨{ h.pstats with }, h.precord⟩

theorem RxStats.InRange.header {r : RxStats} (h : r.InRange) (f : Frame) : (f.header r).InRange :=
  { h with rxMIMOSignalQuality := fun _ => .inl rfl }

theorem forall_update {ι : Type} [DecidableEq ι] {P : Int → Prop} {g : ι → Int} (h : ∀ i, P (g i))
    (i : ι) {v : Int} (hv : P v) (k : ι) : P (update g i v k) := by
  rw [update_apply]
  split_ifs
  · exact hv
  · exact h k

/-! ## CCK frames -/

/-- No stream has a quality yet. -/
structure Records.Unrated (s : Records) : Prop where
  pstats : ∀ i, s.pstats.rxMIMOSignalQuality i = -1
  precord : ∀ i, s.precord.rxMIMOSignalQuality i = -1

theorem cckAdc_inRange (f : Frame) (s : Records) (i : Path) (h : s.InRange ∧ s.Unrated) :
    (cckAdc f s i).exact = true ∧ (cckAdc f s i).val.InRange ∧ (cckAdc f s i).val.Unrated := by
  have hexact := half_exact (f.adcPwdbX i)
  have hchar : IsChar (s8 ((f.adcPwdbX i).toInt.tdiv 2)).val := by
    obtain ⟨hlow, hhigh⟩ := of_decide_eq_true hexact
    rw [s8_eq_pure hlow hhigh]
    exact ⟨hlow, hhigh⟩
  unfold cckAdc
  rw [bind_exact, bind_val, hexact, pure_val]
  refine ⟨rfl, h.1.both fun r hr => ?_, ⟨h.2.pstats, h.2.precord⟩⟩
  exact { hr with cckAdcPwdb := forall_update hr.cckAdcPwdb i hchar }

def Frame.reported (f : Frame) : List (Fin 2) :=
  if f.packetMatchBssid = false then [] else if f.isCck = true then [0] else f.streams

/-- Just the streams of the frame have a quality. -/
structure Records.Reported (f : Frame) (s : Records) : Prop where
  pstats : ∀ i, s.pstats.rxMIMOSignalQuality i ≠ -1 ↔ i ∈ f.reported
  precord : ∀ i, s.precord.rxMIMOSignalQuality i ≠ -1 ↔ i ∈ f.reported

theorem Records.Unrated.reported {f : Frame} (hmatch : f.packetMatchBssid = false) {s : Records}
    (h : s.Unrated) : s.Reported f := by
  have hnone : f.reported = [] := if_pos hmatch
  constructor
  · intro i
    simp [hnone, h.pstats i]
  · intro i
    simp [hnone, h.precord i]

theorem Percent.ne_neg_one {v : Int} (h : Percent v) : v ≠ -1 := by
  have := h.1
  omega

theorem Percent.s8 {v : Int} (h : Percent v) : s8 v = pure v := by
  obtain ⟨h0, h100⟩ := h
  exact s8_eq_pure (by omega) (by omega)

theorem Percent.u8 {v : Int} (h : Percent v) : u8 v = pure v := by
  obtain ⟨h0, h100⟩ := h
  exact u8_eq_pure h0 (by omega)

/-- What a branch of the function leaves, from records whose streams have no quality. -/
structure Measures (f : Frame) (m : Narrowed Measured) : Prop where
  exact : m.exact = true
  inRange : m.val.records.InRange
  reported : m.val.records.Reported f
  pwdbAll : Percent m.val.pwdbAll
  pstats : m.val.records.pstats.rxPWDBAll = m.val.pwdbAll
  precord : m.val.records.precord.rxPWDBAll = m.val.pwdbAll

theorem cckAdcs_inRange (cfg : Config) (f : Frame) {s : Records} (h : s.InRange)
    (hnone : s.Unrated) : (cckAdcs cfg f s).exact = true ∧ (cckAdcs cfg f s).val.InRange ∧
      (cckAdcs cfg f s).val.Unrated := by
  unfold cckAdcs
  split_ifs
  · exact foldlM_inv (cckAdc_inRange f) paths ⟨h, hnone⟩
  · exact ⟨rfl, h, hnone⟩

theorem cckQualities_inRange {f : Frame} (hcck : f.isCck = true) {s : Records} (h : s.InRange)
    (hnone : s.Unrated) : (cckQualities f s).exact = true ∧ (cckQualities f s).val.InRange ∧
      (cckQualities f s).val.Reported f := by
  obtain ⟨hexact, hsq⟩ := cckQuality_percent s.pstats.rxPWDBAll f.sqRpt
  unfold cckQualities
  split_ifs with hmatch
  · have hreported : f.reported = [0] := by
      unfold Frame.reported
      simp [hmatch, hcck]
    have hstream (i : Fin 2) :
        (if i = 0 then (cckQuality s.pstats.rxPWDBAll f.sqRpt).val else -1) ≠ -1 ↔ i = 0 := by
      split_ifs with hi
      · simp [hi, hsq.ne_neg_one]
      · simp [hi]
    rw [bind_exact, bind_val, hexact, hsq.s8, pure_bind, pure_val]
    refine ⟨rfl, h.both fun r hr => ?_, ?_, ?_⟩
    · refine { hr with signalQuality := hsq, rxMIMOSignalQuality := fun i => ?_ }
      simp only
      split_ifs
      · exact .inr hsq
      · exact .inl rfl
    · intro i
      rw [hreported, List.mem_singleton]
      exact hstream i
    · intro i
      rw [hreported, List.mem_singleton]
      exact hstream i
  · exact ⟨rfl, h, hnone.reported (by simpa using hmatch)⟩

theorem cckQualities_rxPWDBAll (f : Frame) (s : Records) :
    (cckQualities f s).val.pstats.rxPWDBAll = s.pstats.rxPWDBAll ∧
      (cckQualities f s).val.precord.rxPWDBAll = s.precord.rxPWDBAll := by
  unfold cckQualities
  split_ifs
  · exact ⟨rfl, rfl⟩
  · exact ⟨rfl, rfl⟩

theorem Records.InRange.power {s : Records} (h : s.InRange) {pwdbAll : Int}
    (hpwdb : Percent pwdbAll) (rxPwrAll : Int) : (s.power pwdbAll rxPwrAll).InRange :=
  ⟨{ h.pstats with rxPWDBAll := hpwdb }, { h.precord with rxPWDBAll := hpwdb }⟩

theorem cckReport_measures (cfg : Config) {f : Frame} (hcck : f.isCck = true) {s : Records}
    (h : s.InRange) (hnone : s.Unrated) :
    Measures f (cckReport cfg f s) ∧ (cckReport cfg f s).val.rfRxNum = 0 := by
  obtain ⟨hadc, hs, hnone⟩ := cckAdcs_inRange cfg f h hnone
  have hpwr := cckRxPwrAll_exact cfg.reg824Bit9 f.cckAgcRpt
  obtain ⟨hpct, hpwdb⟩ :=
    rtl819xQueryRxpwrpercentage_percent (cckRxPwrAll cfg.reg824Bit9 f.cckAgcRpt).val
  obtain ⟨hquality, hrange, hreported⟩ :=
    cckQualities_inRange hcck (hs.power hpwdb (cckRxPwrAll cfg.reg824Bit9 f.cckAgcRpt).val)
      ⟨hnone.pstats, hnone.precord⟩
  unfold cckReport
  obtain ⟨hpstats, hprecord⟩ := cckQualities_rxPWDBAll f
    ((cckAdcs cfg f s).val.power
      (rtl819xQueryRxpwrpercentage (cckRxPwrAll cfg.reg824Bit9 f.cckAgcRpt).val).val
      (cckRxPwrAll cfg.reg824Bit9 f.cckAgcRpt).val)
  refine ⟨⟨?_, hrange, hreported, hpwdb, hpstats, hprecord⟩, rfl⟩
  simp only [bind_exact, pure_exact, hadc, hpwr, hpct, hquality, Bool.and_self]

/-! ## OFDM and HT frames -/

def Frame.percent (f : Frame) (i : Path) : Int :=
  (rtl819xQueryRxpwrpercentage (((f.trswGainX i &&& 0x3f).toNat : Int) * 2 - 106)).val

theorem gain_s8 (b : Byte) :
    s8 (((b &&& 0x3f).toNat : Int) * 2 - 106) = pure (((b &&& 0x3f).toNat : Int) * 2 - 106) := by
  have hgain : (b &&& 0x3f).toNat ≤ 0x3f := by
    rw [BitVec.toNat_and]
    exact Nat.and_le_right
  exact s8_eq_pure (by omega) (by omega)

/-- Records in range, whose streams have no quality, and whose strength is the old one. -/
structure Records.Fresh (strength : Int) (s : Records) : Prop where
  inRange : s.InRange
  unrated : s.Unrated
  pstats : s.pstats.signalStrength = strength
  precord : s.precord.signalStrength = 0

theorem ofdmPath_spec (cfg : Config) (f : Frame) (i : Path) {strength : Int} {s : PathLoop}
    (h : s.records.Fresh strength) (hnum : 0 ≤ s.rfRxNum) (hlt : s.rfRxNum < 255) :
    ∃ records, ofdmPath cfg f s i = pure
        ⟨if cfg.brfpathRxenable i = true then s.rfRxNum + 1 else s.rfRxNum,
          if cfg.brfpathRxenable i = true then s.totalRssi + f.percent i else s.totalRssi,
          records⟩ ∧
      records.Fresh strength := by
  -- One round of the loop over the paths.
  obtain ⟨hpct, hpercent⟩ :=
    rtl819xQueryRxpwrpercentage_percent (((f.trswGainX i &&& 0x3f).toNat : Int) * 2 - 106)
  have hcount : countPath cfg s.rfRxNum i =
      pure (if cfg.brfpathRxenable i = true then s.rfRxNum + 1 else s.rfRxNum) := by
    unfold countPath
    split_ifs
    · exact u8_eq_pure (by omega) (by omega)
    · rfl
  have hrange (r : RxStats) (hr : r.InRange) :
      { r with rxMIMOSignalStrength := update r.rxMIMOSignalStrength i (f.percent i) }.InRange :=
    { hr with rxMIMOSignalStrength := forall_update hr.rxMIMOSignalStrength i hpercent }
  unfold ofdmPath
  rw [hcount, pure_bind, gain_s8, pure_bind, eq_pure_of_exact (half_exact _), pure_bind,
    eq_pure_of_exact hpct, pure_bind, hpercent.u8, pure_bind]
  refine ⟨_, rfl, ?_⟩
  split_ifs
  · exact ⟨⟨hrange _ h.inRange.pstats, hrange _ h.inRange.precord⟩,
      ⟨h.unrated.pstats, h.unrated.precord⟩, h.pstats, h.precord⟩
  · exact ⟨⟨h.inRange.pstats, h.inRange.precord⟩, ⟨h.unrated.pstats, h.unrated.precord⟩, h.pstats,
      h.precord⟩

def Config.enabled (cfg : Config) (l : List Path) : List Path :=
  l.filter fun i => cfg.brfpathRxenable i

theorem ofdmPaths_spec (cfg : Config) (f : Frame) {strength : Int} (l : List Path) {s : PathLoop}
    (h : s.records.Fresh strength) (hnum : 0 ≤ s.rfRxNum) (hlt : s.rfRxNum + l.length < 256) :
    ∃ records, l.foldlM (ofdmPath cfg f) s = pure
        ⟨s.rfRxNum + (cfg.enabled l).length,
          s.totalRssi + ((cfg.enabled l).map f.percent).sum, records⟩ ∧
      records.Fresh strength := by
  -- The loop counts the enabled paths, and adds up their strengths.
  induction l generalizing s with
  | nil =>
    refine ⟨s.records, ?_, h⟩
    simp [Config.enabled]
  | cons i l ih =>
    rw [List.length_cons] at hlt
    obtain ⟨records, hround, hrecords⟩ := ofdmPath_spec cfg f i h hnum (by omega)
    rw [List.foldlM_cons, hround, pure_bind]
    have hrest := ih (s := ⟨if cfg.brfpathRxenable i = true then s.rfRxNum + 1 else s.rfRxNum,
      if cfg.brfpathRxenable i = true then s.totalRssi + f.percent i else s.totalRssi, records⟩)
      hrecords (by simp only; split_ifs <;> omega) (by simp only; split_ifs <;> omega)
    obtain ⟨records', hloop, hrecords'⟩ := hrest
    refine ⟨records', ?_, hrecords'⟩
    rw [hloop]
    by_cases hi : cfg.brfpathRxenable i = true
    · simp only [hi, if_true, Config.enabled, List.filter_cons_of_pos, List.length_cons,
        List.map_cons, List.sum_cons, Nat.cast_add, Nat.cast_one]
      rw [add_assoc, add_assoc, add_comm (1 : Int)]
    · simp [hi, Config.enabled]

theorem ofdmStream_spec (f : Frame) (i : Fin 2) (s : Records) :
    ∃ q, Percent q ∧ ofdmStream f s i = pure (if f.packetMatchBssid = true then
      s.both fun r =>
        { r with
          signalQuality := if i = 0 then q else r.signalQuality
          rxMIMOSignalQuality := update r.rxMIMOSignalQuality i q }
      else s) := by
  obtain ⟨hexact, hpercent⟩ :=
    rtl819xEvmDbtopercentage_percent (s8 ((f.rxevmX i).toInt.tdiv 2)).val
  refine ⟨_, hpercent, ?_⟩
  have hmod : (rtl819xEvmDbtopercentage (s8 ((f.rxevmX i).toInt.tdiv 2)).val).val % 256 =
      (rtl819xEvmDbtopercentage (s8 ((f.rxevmX i).toInt.tdiv 2)).val).val := by
    obtain ⟨h0, h100⟩ := hpercent
    omega
  unfold ofdmStream
  rw [eq_pure_of_exact (half_exact _), pure_bind, eq_pure_of_exact hexact, pure_bind, hmod,
    hpercent.u8, pure_bind, hpercent.s8, pure_bind]
  rfl

/-- What the loop over the streams keeps, and which streams have got a quality. -/
structure Records.Rated (f : Frame) (done : List (Fin 2)) (strength : Int) (s : Records) :
    Prop where
  inRange : s.InRange
  rated_pstats : ∀ i, s.pstats.rxMIMOSignalQuality i ≠ -1 ↔
    f.packetMatchBssid = true ∧ i ∈ done
  rated_precord : ∀ i, s.precord.rxMIMOSignalQuality i ≠ -1 ↔
    f.packetMatchBssid = true ∧ i ∈ done
  pstats : s.pstats.signalStrength = strength
  precord : s.precord.signalStrength = 0

theorem Records.Fresh.rated {f : Frame} {strength : Int} {s : Records} (h : s.Fresh strength) :
    s.Rated f [] strength :=
  ⟨h.inRange, fun i => by simp [h.unrated.pstats i], fun i => by simp [h.unrated.precord i],
    h.pstats, h.precord⟩

theorem ofdmStreams_rated {f : Frame} {strength : Int} (l done : List (Fin 2)) {s : Records}
    (h : s.Rated f done strength) :
    ∃ s', l.foldlM (ofdmStream f) s = pure s' ∧ s'.Rated f (l.reverse ++ done) strength := by
  induction l generalizing s done with
  | nil => exact ⟨s, rfl, h⟩
  | cons i l ih =>
    obtain ⟨q, hq, hround⟩ := ofdmStream_spec f i s
    have hrange (r : RxStats) (hr : r.InRange) :
        { r with
          signalQuality := if i = 0 then q else r.signalQuality
          rxMIMOSignalQuality := update r.rxMIMOSignalQuality i q }.InRange := by
      refine { hr with
        signalQuality := ?_
        rxMIMOSignalQuality := forall_update (P := fun v => v = -1 ∨ Percent v)
          hr.rxMIMOSignalQuality i (.inr hq) }
      simp only
      split_ifs
      · exact hq
      · exact hr.signalQuality
    have hrated (g : Fin 2 → Int) (hmatch : f.packetMatchBssid = true)
        (hg : ∀ k, g k ≠ -1 ↔ f.packetMatchBssid = true ∧ k ∈ done) (k : Fin 2) :
        update g i q k ≠ -1 ↔ f.packetMatchBssid = true ∧ k ∈ i :: done := by
      rw [update_apply, List.mem_cons]
      split_ifs with hk
      · simp [hk, hq.ne_neg_one, hmatch]
      · rw [hg k]
        simp [hk]
    have hnext : ∃ s', ofdmStream f s i = pure s' ∧ s'.Rated f (i :: done) strength := by
      refine ⟨_, hround, ?_⟩
      by_cases hmatch : f.packetMatchBssid = true
      · rw [if_pos hmatch]
        exact ⟨h.inRange.both hrange, hrated _ hmatch h.rated_pstats,
          hrated _ hmatch h.rated_precord, h.pstats, h.precord⟩
      · rw [if_neg hmatch]
        refine ⟨h.inRange, ?_, ?_, h.pstats, h.precord⟩
        · intro k
          rw [h.rated_pstats k]
          simp [hmatch]
        · intro k
          rw [h.rated_precord k]
          simp [hmatch]
    obtain ⟨s', hs', hrated'⟩ := hnext
    rw [List.foldlM_cons, hs', pure_bind, List.reverse_cons, List.append_assoc]
    exact ih (i :: done) hrated'

theorem ofdmStreams_rxPWDBAll (f : Frame) (l : List (Fin 2)) (s : Records) :
    (l.foldlM (ofdmStream f) s).val.pstats.rxPWDBAll = s.pstats.rxPWDBAll ∧
      (l.foldlM (ofdmStream f) s).val.precord.rxPWDBAll = s.precord.rxPWDBAll := by
  induction l generalizing s with
  | nil => exact ⟨rfl, rfl⟩
  | cons i l ih =>
    obtain ⟨q, -, hround⟩ := ofdmStream_spec f i s
    rw [List.foldlM_cons, hround, pure_bind, (ih _).1, (ih _).2]
    by_cases hmatch : f.packetMatchBssid = true
    · rw [if_pos hmatch]
      exact ⟨rfl, rfl⟩
    · rw [if_neg hmatch]
      exact ⟨rfl, rfl⟩

def Config.mean (cfg : Config) (f : Frame) : Int :=
  ((cfg.enabled paths).map f.percent).sum.tdiv (cfg.enabled paths).length

theorem pwdbAll_s8 (b : Byte) :
    s8 ((((b >>> 1) &&& 0x7f).toNat : Int) - 106) =
      pure ((((b >>> 1) &&& 0x7f).toNat : Int) - 106) := by
  have hand : ((b >>> 1) &&& 0x7f).toNat ≤ 0x7f := by
    rw [BitVec.toNat_and]
    exact Nat.and_le_right
  exact s8_eq_pure (by omega) (by omega)

theorem Records.Fresh.power {strength : Int} {s : Records} (h : s.Fresh strength) {pwdbAll : Int}
    (hpwdb : Percent pwdbAll) (rxPwrAll : Int) :
    ((s.power pwdbAll rxPwrAll).both fun r => { r with rxPower := rxPwrAll }).Fresh strength :=
  ⟨⟨{ h.inRange.pstats with rxPWDBAll := hpwdb }, { h.inRange.precord with rxPWDBAll := hpwdb }⟩,
    ⟨h.unrated.pstats, h.unrated.precord⟩, h.pstats, h.precord⟩

theorem Records.Rated.reported {f : Frame} (hofdm : f.isCck = false) {strength : Int} {s : Records}
    (h : s.Rated f (f.streams.reverse ++ []) strength) : s.Reported f := by
  have hmem (i : Fin 2) : (f.packetMatchBssid = true ∧ i ∈ f.streams.reverse ++ []) ↔
      i ∈ f.reported := by
    unfold Frame.reported
    by_cases hmatch : f.packetMatchBssid = true
    · simp [hmatch, hofdm]
    · simp [hmatch]
  exact ⟨fun i => (h.rated_pstats i).trans (hmem i), fun i => (h.rated_precord i).trans (hmem i)⟩

/-- An OFDM or HT frame leaves the number and the total for the mean, and the old strength. -/
theorem ofdmReport_spec (cfg : Config) {f : Frame} (hofdm : f.isCck = false) {strength : Int}
    {s : Records} (h : s.Fresh strength) :
    Measures f (ofdmReport cfg f s) ∧
      (ofdmReport cfg f s).val.totalRssi.tdiv (ofdmReport cfg f s).val.rfRxNum = cfg.mean f ∧
      (ofdmReport cfg f s).val.records.pstats.signalStrength = strength ∧
      (ofdmReport cfg f s).val.records.precord.signalStrength = 0 := by
  have hfew : (0 : Int) + (paths.length : Nat) < 256 := by decide
  obtain ⟨records, hloop, hrecords⟩ :=
    ofdmPaths_spec cfg f paths (s := ⟨0, 0, s⟩) h (Int.le_refl 0) hfew
  obtain ⟨hpct, hpwdb⟩ := rtl819xQueryRxpwrpercentage_percent
    ((((f.pwdbAll >>> 1) &&& 0x7f).toNat : Int) - 106)
  have hfresh := hrecords.power hpwdb ((((f.pwdbAll >>> 1) &&& 0x7f).toNat : Int) - 106)
  obtain ⟨s', hstreams, hrated⟩ := ofdmStreams_rated f.streams [] (hfresh.rated (f := f))
  obtain ⟨hpstats, hprecord⟩ := ofdmStreams_rxPWDBAll f f.streams
    ((records.power (rtl819xQueryRxpwrpercentage
      ((((f.pwdbAll >>> 1) &&& 0x7f).toNat : Int) - 106)).val
      ((((f.pwdbAll >>> 1) &&& 0x7f).toNat : Int) - 106)).both
        fun r => { r with rxPower := (((f.pwdbAll >>> 1) &&& 0x7f).toNat : Int) - 106 })
  rw [hstreams, pure_val] at hpstats hprecord
  have hreport : ofdmReport cfg f s = pure
      ⟨(rtl819xQueryRxpwrpercentage ((((f.pwdbAll >>> 1) &&& 0x7f).toNat : Int) - 106)).val,
        0 + (cfg.enabled paths).length, 0 + ((cfg.enabled paths).map f.percent).sum, s'⟩ := by
    unfold ofdmReport
    rw [hloop, pure_bind, pwdbAll_s8, pure_bind, eq_pure_of_exact hpct, pure_bind]
    simp only [pure_val, hstreams, pure_bind]
  rw [hreport, pure_val]
  refine ⟨⟨rfl, hrated.inRange, hrated.reported hofdm, hpwdb, hpstats, hprecord⟩, ?_,
    hrated.pstats, hrated.precord⟩
  rw [Int.zero_add, Int.zero_add, Config.mean]

/-! ## The function -/

theorem fresh_header (f : Frame) {pstats : RxStats} (h : pstats.InRange) (rxSNRdB : Path → Int) :
    ((⟨pstats, .cleared, rxSNRdB⟩ : Records).both f.header).Fresh pstats.signalStrength :=
  ⟨⟨h.header f, RxStats.inRange_cleared.header f⟩, ⟨fun _ => rfl, fun _ => rfl⟩, rfl, rfl⟩

theorem rtl8192QueryRxphystatus_cck (cfg : Config) {f : Frame} (hcck : f.isCck = true)
    {pstats : RxStats} (h : pstats.InRange) (rxSNRdB : Path → Int) :
    ∃ s : Records, rtl8192QueryRxphystatus cfg f pstats rxSNRdB = pure s ∧ s.InRange ∧
      s.Reported f ∧
      s.pstats.signalStrength = rtl819xSignalScaleMapping s.pstats.rxPWDBAll ∧
      s.precord.signalStrength = rtl819xSignalScaleMapping s.precord.rxPWDBAll := by
  -- For a CCK frame, the strength is the one of the report.
  have hfresh := fresh_header f h rxSNRdB
  obtain ⟨hm, hnum⟩ := cckReport_measures cfg hcck hfresh.inRange hfresh.unrated
  unfold rtl8192QueryRxphystatus measure
  dsimp only
  rw [if_pos hcck, eq_pure_of_exact hm.exact, pure_bind]
  have hstrength := rtl819xSignalScaleMapping_percent hm.pwdbAll
  unfold strengthen
  rw [if_pos hcck, hstrength.u8, pure_bind, if_neg (not_not.mpr hnum)]
  refine ⟨_, rfl, hm.inRange.both fun r hr => { hr with signalStrength := hstrength },
    ⟨hm.reported.pstats, hm.reported.precord⟩, ?_, ?_⟩
  · exact congrArg rtl819xSignalScaleMapping hm.pstats.symm
  · exact congrArg rtl819xSignalScaleMapping hm.precord.symm

theorem rtl8192QueryRxphystatus_ofdm (cfg : Config) {f : Frame} (hofdm : f.isCck = false)
    {pstats : RxStats} (h : pstats.InRange) (rxSNRdB : Path → Int) :
    ∃ s : Records, rtl8192QueryRxphystatus cfg f pstats rxSNRdB = pure s ∧ s.InRange ∧
      s.Reported f ∧ s.pstats.signalStrength = pstats.signalStrength ∧
      s.precord.signalStrength = 0 := by
  have hnot : ¬ f.isCck = true := by simp [hofdm]
  obtain ⟨hm, -, hpstats, hprecord⟩ := ofdmReport_spec cfg hofdm (fresh_header f h rxSNRdB)
  unfold rtl8192QueryRxphystatus measure
  dsimp only
  rw [if_neg hnot, eq_pure_of_exact hm.exact, pure_bind]
  unfold strengthen
  rw [if_neg hnot]
  exact ⟨_, rfl, hm.inRange, hm.reported, hpstats, hprecord⟩

/-- What the function yields is always in range, and never a value that was cut off. -/
theorem rtl8192QueryRxphystatus_inRange (cfg : Config) (f : Frame) {pstats : RxStats}
    (h : pstats.InRange) (rxSNRdB : Path → Int) :
    (rtl8192QueryRxphystatus cfg f pstats rxSNRdB).exact = true ∧
      (rtl8192QueryRxphystatus cfg f pstats rxSNRdB).val.InRange ∧
      (rtl8192QueryRxphystatus cfg f pstats rxSNRdB).val.Reported f := by
  cases hcck : f.isCck with
  | true =>
    obtain ⟨s, hs, hrange, hreported, -⟩ := rtl8192QueryRxphystatus_cck cfg hcck h rxSNRdB
    rw [hs]
    exact ⟨rfl, hrange, hreported⟩
  | false =>
    obtain ⟨s, hs, hrange, hreported, -⟩ := rtl8192QueryRxphystatus_ofdm cfg hcck h rxSNRdB
    rw [hs]
    exact ⟨rfl, hrange, hreported⟩

/-- The results are in range and exact, and the strength is the one that is measured: by the PWDB of
a CCK frame, and by the mean over the enabled paths of another one. -/
structure Yields (cfg : Config) (f : Frame) (out : Narrowed Records) : Prop where
  exact : out.exact = true
  inRange : out.val.InRange
  reported : out.val.Reported f
  cck : f.isCck = true →
    out.val.pstats.signalStrength = rtl819xSignalScaleMapping out.val.pstats.rxPWDBAll ∧
      out.val.precord.signalStrength = rtl819xSignalScaleMapping out.val.precord.rxPWDBAll
  ofdm : f.isCck = false → cfg.enabled paths ≠ [] →
    out.val.pstats.signalStrength = rtl819xSignalScaleMapping (cfg.mean f) ∧
      out.val.precord.signalStrength = rtl819xSignalScaleMapping (cfg.mean f)

theorem Frame.percent_percent (f : Frame) (i : Path) : Percent (f.percent i) :=
  (rtl819xQueryRxpwrpercentage_percent _).2

theorem sum_percent (f : Frame) (l : List Path) :
    0 ≤ (l.map f.percent).sum ∧ (l.map f.percent).sum ≤ 100 * l.length := by
  induction l with
  | nil => simp
  | cons i l ih =>
    obtain ⟨h0, h100⟩ := f.percent_percent i
    rw [List.map_cons, List.sum_cons, List.length_cons]
    omega

theorem mean_eq_zero_iff (cfg : Config) (f : Frame) (hne : cfg.enabled paths ≠ []) :
    Percent (cfg.mean f) ∧ (cfg.mean f = 0 ↔
      ((cfg.enabled paths).map f.percent).sum < (cfg.enabled paths).length) := by
  -- The mean is 0 only where hardly any path has a strength.
  obtain ⟨h0, h100⟩ := sum_percent f (cfg.enabled paths)
  have hpos : (0 : Int) < (cfg.enabled paths).length := by
    exact_mod_cast List.length_pos_of_ne_nil hne
  unfold Config.mean Percent
  generalize ((cfg.enabled paths).map f.percent).sum = total at h0 h100
  generalize ((cfg.enabled paths).length : Int) = n at hpos h100
  rw [Int.tdiv_eq_ediv_of_nonneg h0]
  refine ⟨⟨Int.ediv_nonneg h0 (Int.le_of_lt hpos), ?_⟩, ?_⟩
  · exact Int.ediv_le_of_le_mul hpos (by omega)
  · constructor
    · intro hzero
      have hlt := Int.lt_ediv_add_one_mul_self total hpos
      rw [hzero] at hlt
      omega
    · intro hlt
      exact Int.ediv_eq_zero_of_lt h0 hlt

/-- The function yields what it should for CCK frames only, and for such others as have no strength
to show, with no older strength in `*pstats`. -/
theorem rtl8192QueryRxphystatus_yields_iff (cfg : Config) (f : Frame) {pstats : RxStats}
    (h : pstats.InRange) (rxSNRdB : Path → Int) :
    Yields cfg f (rtl8192QueryRxphystatus cfg f pstats rxSNRdB) ↔
      f.isCck = true ∨ cfg.enabled paths = [] ∨
        (((cfg.enabled paths).map f.percent).sum < (cfg.enabled paths).length ∧
          pstats.signalStrength = 0) := by
  obtain ⟨hexact, hrange, hreported⟩ := rtl8192QueryRxphystatus_inRange cfg f h rxSNRdB
  cases hcck : f.isCck with
  | true =>
    obtain ⟨s, hs, -, -, hstrength⟩ := rtl8192QueryRxphystatus_cck cfg hcck h rxSNRdB
    refine iff_of_true ⟨hexact, hrange, hreported, fun _ => ?_, fun hofdm => ?_⟩ (.inl rfl)
    · rw [hs]
      exact hstrength
    · exact absurd hofdm (by simp [hcck])
  | false =>
    obtain ⟨s, hs, -, -, hpstats, hprecord⟩ := rtl8192QueryRxphystatus_ofdm cfg hcck h rxSNRdB
    constructor
    · intro hyields
      by_cases hne : cfg.enabled paths = []
      · exact .inr (.inl hne)
      · obtain ⟨hpercent, hmean⟩ := mean_eq_zero_iff cfg f hne
        obtain ⟨hold, hnew⟩ := hyields.ofdm hcck hne
        rw [hs, pure_val, hpstats] at hold
        rw [hs, pure_val, hprecord] at hnew
        have hzero := (rtl819xSignalScaleMapping_eq_zero_iff hpercent).mp hnew.symm
        exact .inr (.inr ⟨hmean.mp hzero, hold.trans hnew.symm⟩)
    · intro hcond
      refine ⟨hexact, hrange, hreported, fun h => absurd h (by simp [hcck]), fun _ hne => ?_⟩
      rcases hcond with hcond | hcond | ⟨hsum, hold⟩
      · exact absurd hcond (by simp)
      · exact absurd hcond hne
      · obtain ⟨hpercent, hmean⟩ := mean_eq_zero_iff cfg f hne
        have hzero : rtl819xSignalScaleMapping (cfg.mean f) = 0 :=
          (rtl819xSignalScaleMapping_eq_zero_iff hpercent).mpr (hmean.mpr hsum)
        rw [hs, pure_val, hpstats, hprecord, hzero]
        exact ⟨hold, rfl⟩

def Config.all : Config := ⟨.rf2T4R, true, fun _ => true, false⟩

def Frame.beacon : Frame := ⟨true, false, true, false, 0x00, false, fun _ => 0x40⟩

/-- A frame for this station at MCS 7, with half of the full strength on all paths -/
def Frame.mcs7 : Frame := ⟨true, true, false, false, 0x07, true, fun _ => 0x20⟩

theorem rtl8192QueryRxphystatus_yields_beacon :
    Yields .all .beacon (rtl8192QueryRxphystatus .all .beacon .cleared fun _ => 0) :=
  (rtl8192QueryRxphystatus_yields_iff .all .beacon RxStats.inRange_cleared fun _ => 0).mpr
    (.inl (by decide))

/-- The strength of an HT frame is lost. -/
theorem rtl8192QueryRxphystatus_mcs7 :
    ¬ Yields .all .mcs7 (rtl8192QueryRxphystatus .all .mcs7 .cleared fun _ => 0) := by
  intro hyields
  obtain ⟨-, hstrength⟩ := hyields.ofdm (by decide) (by decide)
  exact absurd hstrength (by decide)

end Rtl8190.Phy
