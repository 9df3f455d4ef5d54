import Rtl8190.Watchdog.Code

/-!
# A card that stands still is noticed

Without an `ioctl` there is a reset only where a counter is compared and has the value of its latest
comparison, or 0 at the first. (The check reads the counter of the receiver more often than it compares
it.) A receiver that stands still does not go unnoticed for more than 19 rounds.
-/

open Rtl8190.Run Rtl8190.Trace

namespace Rtl8190.Watchdog

/-! ## One check -/

section
variable {r : Round} {s : State}

/-- The check compares the counter of the transmitter. -/
def Round.readsTx (r : Round) : Bool := r.rfOn && r.checkFwTxCnt

def Round.hears (r : Round) : Bool := r.rfOn && r.infra && r.linked

/-- The check compares the counter of the receiver. -/
def readsRx (r : Round) (s : State) : Bool := r.hears && !decide (s.rxChkCnt + 1 < r.rxPeriod)

/-- The transmitter stands where it stood. -/
def txStands (r : Round) (s : State) : Bool := r.readsTx && s.txCounter == r.regTxCounter

/-- The receiver stands where it stood. -/
def rxStands (r : Round) (s : State) : Bool := readsRx r s && s.rxCounter == r.regRxCounter

theorem txCheck_eq : (if r.rfOn then txCheckStuck r s else (.noReset, s, [])) =
    (if txStands r s then .silent else .noReset,
      { s with txCounter := if r.readsTx then r.regTxCounter else s.txCounter },
      if r.readsTx then [.tx r.regTxCounter] else []) := by
  unfold txCheckStuck halTxCheckStuck819xPci txStands Round.readsTx
  cases r.rfOn <;> cases r.checkFwTxCnt <;> simp

theorem rxCheck_eq : (if r.rfOn ∧ r.infra ∧ r.linked then rxCheckStuck r s else (.noReset, s, [])) =
    (if rxStands r s then .silent else .noReset,
      { s with
        rxCounter := if readsRx r s then r.regRxCounter else s.rxCounter
        rxChkCnt := if readsRx r s then 0 else if r.hears then s.rxChkCnt + 1 else s.rxChkCnt },
      if readsRx r s then [.rx r.regRxCounter] else []) := by
  unfold rxCheckStuck halRxCheckStuck8190Pci rxStands readsRx Round.hears
  generalize s.rxChkCnt + 1 = rxChkCnt
  by_cases hdue : rxChkCnt < r.rxPeriod <;>
    cases r.rfOn <;> cases r.infra <;> cases r.linked <;> simp [hdue]

def checked (r : Round) (s : State) : State where
  txCounter := if r.readsTx then r.regTxCounter else s.txCounter
  rxCounter := if readsRx r s then r.regRxCounter else s.rxCounter
  rxChkCnt := if readsRx r s then 0 else if r.hears then s.rxChkCnt + 1 else s.rxChkCnt
  checkResetCnt := s.checkResetCnt

def readings (r : Round) (s : State) : List Seen :=
  (if r.readsTx then [.tx r.regTxCounter] else []) ++
    if readsRx r s then [.rx r.regRxCounter] else []

theorem rtl819xIfcheckResetornot_spec : rtl819xIfcheckResetornot r s =
    (if txStands r s || rxStands r s then .silent else .noReset, checked r s, readings r s) := by
  unfold rtl819xIfcheckResetornot
  rw [txCheck_eq]
  dsimp only
  rw [rxCheck_eq]
  have hrx (c : BitVec 16) : rxStands r { s with txCounter := c } = rxStands r s := rfl
  have hreads (c : BitVec 16) : readsRx r { s with txCounter := c } = readsRx r s := rfl
  simp only [hrx, hreads]
  refine Prod.ext ?_ rfl
  cases txStands r s <;> cases rxStands r s <;> rfl

/-- The round looks at the card at all. -/
def Round.live (r : Round) : Bool := r.up && !r.bHwRadioOff

def checks (r : Round) (s : State) : Bool :=
  decide (s.checkResetCnt ≥ 3) && !r.isRoaming && !r.rfChangeInProgress && !r.bSwRfProcessing

theorem rtl819xWatchdogWqcallback_spec : rtl819xWatchdogWqcallback s r =
    if r.live then
      if checks r s then
        ({ checked r s with checkResetCnt := 3 }, readings r s ++
          if r.forceReset || !r.bDisableNormalResetCheck && (txStands r s || rxStands r s) then
            [.reset] else [])
      else ({ s with checkResetCnt := s.checkResetCnt + 1 },
        if r.forceReset then [.reset] else [])
    else (s, []) := by
  have hearly : (!r.up || r.bHwRadioOff) = !r.live := by
    unfold Round.live
    cases r.up <;> cases r.bHwRadioOff <;> rfl
  have hcond : (s.checkResetCnt ≥ 3 ∧ !r.isRoaming ∧ !r.rfChangeInProgress ∧ !r.bSwRfProcessing) ↔
      checks r s = true := by
    simp [checks, and_assoc]
  unfold rtl819xWatchdogWqcallback
  simp only [hearly, hcond, rtl819xIfcheckResetornot_spec]
  cases r.live with
  | false => rfl
  | true =>
    cases checks r s with
    | false => simp
    | true =>
      have htx (n : BitVec 8) : txStands r { s with checkResetCnt := n } = txStands r s := rfl
      have hrx (n : BitVec 8) : rxStands r { s with checkResetCnt := n } = rxStands r s := rfl
      simp only [htx, hrx]
      cases txStands r s <;> cases rxStands r s <;> cases r.forceReset <;>
        cases r.bDisableNormalResetCheck <;> rfl

end

/-! ## Runs -/

def start : State := ⟨0, 0, 0, 0⟩

section
variable {r : Round} {s : State}

theorem latest_tx_readings (a : BitVec 16) (hreset : Bool) :
    latest Seen.tx? a (readings r s ++ if hreset then [.reset] else []) =
      if r.readsTx then r.regTxCounter else a := by
  unfold readings
  cases r.readsTx <;> cases readsRx r s <;> cases hreset <;> rfl

theorem latest_rx_readings (a : BitVec 16) (hreset : Bool) :
    latest Seen.rx? a (readings r s ++ if hreset then [.reset] else []) =
      if readsRx r s then r.regRxCounter else a := by
  unfold readings
  cases r.readsTx <;> cases readsRx r s <;> cases hreset <;> rfl

theorem latest_forced (read : Seen → Option (BitVec 16)) (hread : read .reset = none)
    (a : BitVec 16) (forced : Bool) :
    latest read a (if forced then [.reset] else []) = a := by
  cases forced with
  | false => rfl
  | true => simp [latest, hread]

theorem txCounter_step : (rtl819xWatchdogWqcallback s r).1.txCounter =
    latest Seen.tx? s.txCounter (rtl819xWatchdogWqcallback s r).2 := by
  rw [rtl819xWatchdogWqcallback_spec]
  cases r.live with
  | false => rfl
  | true =>
    cases checks r s with
    | false => exact (latest_forced _ rfl _ _).symm
    | true => exact (latest_tx_readings _ _).symm

theorem rxCounter_step : (rtl819xWatchdogWqcallback s r).1.rxCounter =
    latest Seen.rx? s.rxCounter (rtl819xWatchdogWqcallback s r).2 := by
  rw [rtl819xWatchdogWqcallback_spec]
  cases r.live with
  | false => rfl
  | true =>
    cases checks r s with
    | false => exact (latest_forced _ rfl _ _).symm
    | true => exact (latest_rx_readings _ _).symm

theorem mem_readings_tx {c : BitVec 16} :
    .tx c ∈ (rtl819xWatchdogWqcallback s r).2 ↔
      r.live = true ∧ checks r s = true ∧ r.readsTx = true ∧ c = r.regTxCounter := by
  rw [rtl819xWatchdogWqcallback_spec]
  unfold readings
  split_ifs <;> simp_all

theorem mem_readings_rx {c : BitVec 16} :
    .rx c ∈ (rtl819xWatchdogWqcallback s r).2 ↔
      r.live = true ∧ checks r s = true ∧ readsRx r s = true ∧ c = r.regRxCounter := by
  rw [rtl819xWatchdogWqcallback_spec]
  unfold readings
  split_ifs <;> simp_all

theorem mem_reset :
    .reset ∈ (rtl819xWatchdogWqcallback s r).2 ↔
      r.live = true ∧ (r.forceReset = true ∨ r.bDisableNormalResetCheck = false ∧
        checks r s = true ∧ (txStands r s = true ∨ rxStands r s = true)) := by
  rw [rtl819xWatchdogWqcallback_spec]
  unfold readings
  split_ifs <;> simp_all

/-! ## A card that stands still -/

theorem rxPeriod_le (r : Round) : r.rxPeriod ≤ 8 := by
  unfold Round.rxPeriod
  split_ifs <;> decide

/-- The receiver is checked in one of 8 rounds at least. -/
def Counts (s : State) : Prop := s.rxChkCnt ≤ 7

theorem Counts.checked (h : Counts s) : Counts (checked r s) := by
  have hle := rxPeriod_le r
  unfold Counts at h ⊢
  unfold Watchdog.checked readsRx
  dsimp only
  generalize r.rxPeriod = period at hle
  split_ifs with hreads hhears
  · decide
  · simp only [hhears, Bool.true_and, Bool.not_eq_true', decide_eq_false_iff_not, not_not] at hreads
    bv_omega
  · exact h

theorem Counts.step (h : Counts s) : Counts (rtl819xWatchdogWqcallback s r).1 := by
  rw [rtl819xWatchdogWqcallback_spec]
  cases r.live with
  | false => exact h
  | true =>
    cases checks r s with
    | false => exact h
    | true => exact h.checked (r := r)

def Round.calm (r : Round) : Bool :=
  r.live && !r.isRoaming && !r.rfChangeInProgress && !r.bSwRfProcessing &&
    !r.bDisableNormalResetCheck

/-- The rounds to the reset, for a receiver that stands at `c` -/
def rxRank (c : BitVec 16) (s : State) : Nat :=
  (3 - s.checkResetCnt.toNat) + (7 - s.rxChkCnt.toNat) + if s.rxCounter = c then 0 else 8

/-- The rounds to the reset, for a transmitter that stands at `c` -/
def txRank (c : BitVec 16) (s : State) : Nat :=
  (3 - s.checkResetCnt.toNat) + if s.txCounter = c then 0 else 1

theorem checks_of_calm (hcalm : r.calm = true) : checks r s = decide (s.checkResetCnt ≥ 3) := by
  simp only [Round.calm, Bool.and_eq_true, Bool.not_eq_true'] at hcalm
  obtain ⟨⟨⟨⟨-, hroaming⟩, hrf⟩, hsw⟩, -⟩ := hcalm
  simp [checks, hroaming, hrf, hsw]

theorem live_of_calm (hcalm : r.calm = true) :
    r.live = true ∧ r.bDisableNormalResetCheck = false := by
  simp only [Round.calm, Bool.and_eq_true, Bool.not_eq_true'] at hcalm
  exact ⟨hcalm.1.1.1.1, hcalm.2⟩

theorem step_waiting (hcalm : r.calm = true) (h : s.checkResetCnt < 3) :
    (rtl819xWatchdogWqcallback s r).1 = { s with checkResetCnt := s.checkResetCnt + 1 } := by
  have hchecks : checks r s = false := by
    rw [checks_of_calm hcalm]
    exact decide_eq_false (BitVec.not_le.mpr h)
  rw [rtl819xWatchdogWqcallback_spec, (live_of_calm hcalm).1, hchecks]
  rfl

theorem step_checking (hcalm : r.calm = true) (h : 3 ≤ s.checkResetCnt) :
    (rtl819xWatchdogWqcallback s r).1 = { checked r s with checkResetCnt := 3 } := by
  have hchecks : checks r s = true := by
    rw [checks_of_calm hcalm]
    exact decide_eq_true h
  rw [rtl819xWatchdogWqcallback_spec, (live_of_calm hcalm).1, hchecks]
  rfl

theorem reset_of_stands (hcalm : r.calm = true) (h : 3 ≤ s.checkResetCnt)
    (hstands : txStands r s = true ∨ rxStands r s = true) :
    .reset ∈ (rtl819xWatchdogWqcallback s r).2 := by
  obtain ⟨hlive, hdisable⟩ := live_of_calm hcalm
  refine mem_reset.mpr ⟨hlive, .inr ⟨hdisable, ?_, hstands⟩⟩
  rw [checks_of_calm hcalm]
  exact decide_eq_true h

theorem rxRank_step {c : BitVec 16} (hI : Counts s) (hcalm : r.calm = true)
    (hhears : r.hears = true) (hreg : r.regRxCounter = c) :
    .reset ∈ (rtl819xWatchdogWqcallback s r).2 ∨
      Counts (rtl819xWatchdogWqcallback s r).1 ∧
        rxRank c (rtl819xWatchdogWqcallback s r).1 < rxRank c s := by
  subst hreg
  by_cases hcheck : 3 ≤ s.checkResetCnt
  · by_cases hstands : rxStands r s = true
    · exact .inl (reset_of_stands hcalm hcheck (.inr hstands))
    · refine .inr ⟨hI.step, ?_⟩
      have hcnt : 3 ≤ s.checkResetCnt.toNat := hcheck
      have hold : s.rxChkCnt.toNat ≤ 7 := hI
      rw [step_checking hcalm hcheck]
      unfold rxRank checked
      simp only [hhears, if_true]
      cases hreads : readsRx r s with
      | true =>
        -- a check that finds the receiver elsewhere takes over its counter
        have hmoved : s.rxCounter ≠ r.regRxCounter := by
          simpa [rxStands, hreads] using hstands
        simp [hmoved]
      | false =>
        have hnew : Counts (checked r s) := hI.checked
        have hnext : (s.rxChkCnt + 1).toNat = s.rxChkCnt.toNat + 1 := by bv_omega
        simp only [Counts, checked, hreads, hhears, if_true] at hnew
        have hle : (s.rxChkCnt + 1).toNat ≤ 7 := hnew
        simp
        omega
  · refine .inr ⟨hI.step, ?_⟩
    have hwait := BitVec.not_le.mp hcheck
    have hcnt : s.checkResetCnt.toNat < 3 := hwait
    have hnext : (s.checkResetCnt + 1).toNat = s.checkResetCnt.toNat + 1 := by bv_omega
    rw [step_waiting hcalm hwait]
    unfold rxRank
    dsimp only
    omega

theorem txRank_step {c : BitVec 16} (hcalm : r.calm = true) (hreads : r.readsTx = true)
    (hreg : r.regTxCounter = c) :
    .reset ∈ (rtl819xWatchdogWqcallback s r).2 ∨
      txRank c (rtl819xWatchdogWqcallback s r).1 < txRank c s := by
  subst hreg
  by_cases hcheck : 3 ≤ s.checkResetCnt
  · by_cases hstands : txStands r s = true
    · exact .inl (reset_of_stands hcalm hcheck (.inl hstands))
    · have hcnt : 3 ≤ s.checkResetCnt.toNat := hcheck
      have hmoved : s.txCounter ≠ r.regTxCounter := by simpa [txStands, hreads] using hstands
      rw [step_checking hcalm hcheck]
      unfold txRank checked
      simp [hreads, hmoved]
  · have hwait := BitVec.not_le.mp hcheck
    have hcnt : s.checkResetCnt.toNat < 3 := hwait
    have hnext : (s.checkResetCnt + 1).toNat = s.checkResetCnt.toNat + 1 := by bv_omega
    rw [step_waiting hcalm hwait]
    unfold txRank
    dsimp only
    omega

end

theorem counts_after (rs : List Round) : Counts (after rtl819xWatchdogWqcallback start rs) := by
  refine exec_inv (C := fun _ _ => True) (fun s r h _ => h.step) ?_ (meets_of_forall fun _ _ => ?_)
  · unfold Counts start
    decide
  · trivial

/-- A counter that stands still, with something to count, is noticed within the time of the checks. -/
theorem standing_noticed (rs ds : List Round) (c : BitVec 16)
    (hcalm : ∀ d ∈ ds, d.calm = true)
    (hds : (∀ d ∈ ds, d.hears = true ∧ d.regRxCounter = c) ∧ 19 ≤ ds.length ∨
      (∀ d ∈ ds, d.readsTx = true ∧ d.regTxCounter = c) ∧ 5 ≤ ds.length) :
    .reset ∈ trace rtl819xWatchdogWqcallback (after rtl819xWatchdogWqcallback start rs) ds := by
  have hcounts := counts_after rs
  generalize after rtl819xWatchdogWqcallback start rs = s at hcounts
  rcases hds with ⟨hrx, hlen⟩ | ⟨htx, hlen⟩
  · apply mem_trace_of_decreasing (μ := rxRank c)
      (C := fun d => d.calm = true ∧ d.hears = true ∧ d.regRxCounter = c)
      (fun s d hs hd => rxRank_step hs hd.1 hd.2.1 hd.2.2) hcounts
      (fun d hd => ⟨hcalm d hd, hrx d hd⟩)
    unfold rxRank
    split_ifs <;> omega
  · apply mem_trace_of_decreasing (I := fun _ => True) (μ := txRank c)
      (C := fun d => d.calm = true ∧ d.readsTx = true ∧ d.regTxCounter = c)
      (fun s d _ hd => (txRank_step hd.1 hd.2.1 hd.2.2).imp_right fun h => ⟨trivial, h⟩) trivial
      (fun d hd => ⟨hcalm d hd, htx d hd⟩)
    unfold txRank
    split_ifs <;> omega

/-- There is a reset where it was asked for, and where a counter that is compared has the value of its
latest comparison; that of the transmitter is compared only with a frame in a queue, that of the
receiver only on a link. A counter that stands still is noticed within 19 rounds, or 5. -/
theorem stuck_noticed (rs : List Round) :
    let s := after rtl819xWatchdogWqcallback start rs
    let seen := trace rtl819xWatchdogWqcallback start rs
    (∀ r, .reset ∈ (rtl819xWatchdogWqcallback s r).2 ↔
      r.live = true ∧ (r.forceReset = true ∨ r.bDisableNormalResetCheck = false ∧
        (.tx (latest Seen.tx? 0 seen) ∈ (rtl819xWatchdogWqcallback s r).2 ∨
          .rx (latest Seen.rx? 0 seen) ∈ (rtl819xWatchdogWqcallback s r).2))) ∧
    (∀ r c, .tx c ∈ (rtl819xWatchdogWqcallback s r).2 →
      r.rfOn = true ∧ r.checkFwTxCnt = true ∧ c = r.regTxCounter) ∧
    (∀ r c, .rx c ∈ (rtl819xWatchdogWqcallback s r).2 →
      r.rfOn = true ∧ r.infra = true ∧ r.linked = true ∧ c = r.regRxCounter) ∧
    ∀ (ds : List Round) (c : BitVec 16), (∀ d ∈ ds, d.calm = true) →
      (∀ d ∈ ds, d.hears = true ∧ d.regRxCounter = c) ∧ 19 ≤ ds.length ∨
        (∀ d ∈ ds, d.readsTx = true ∧ d.regTxCounter = c) ∧ 5 ≤ ds.length →
      .reset ∈ trace rtl819xWatchdogWqcallback s ds := by
  intro s seen
  have htx : s.txCounter = latest Seen.tx? 0 seen := remembers (fun _ _ => txCounter_step) start rs
  have hrx : s.rxCounter = latest Seen.rx? 0 seen := remembers (fun _ _ => rxCounter_step) start rs
  refine ⟨fun r => ?_, fun r c hc => ?_, fun r c hc => ?_, standing_noticed rs⟩
  · rw [mem_reset, mem_readings_tx, mem_readings_rx, ← htx, ← hrx]
    simp only [txStands, rxStands, Bool.and_eq_true, beq_iff_eq]
    tauto
  · obtain ⟨-, -, hreads, rfl⟩ := mem_readings_tx.mp hc
    simp only [Round.readsTx, Bool.and_eq_true] at hreads
    exact ⟨hreads.1, hreads.2, rfl⟩
  · obtain ⟨-, -, hreads, rfl⟩ := mem_readings_rx.mp hc
    simp only [readsRx, Round.hears, Bool.and_eq_true] at hreads
    exact ⟨hreads.1.1.1, hreads.1.1.2, hreads.1.2, rfl⟩

/-- A linked round with a weak signal and empty queues, in which the receiver's counter is at 7 -/
def still : Round where
  up := true
  bHwRadioOff := false
  isRoaming := false
  rfChangeInProgress := false
  bSwRfProcessing := false
  bDisableNormalResetCheck := false
  forceReset := false
  rfOn := true
  infra := true
  linked := true
  queueLen := fun _ => 0
  regTxCounter := 0
  regRxCounter := 7
  undecoratedSmoothedPwdb := 5
  channelWidth20 := true

theorem stuck_noticed_still :
    .reset ∈ trace rtl819xWatchdogWqcallback start (List.replicate 19 still) := by
  have hstill {P : Round → Prop} (h : P still) : ∀ d ∈ List.replicate 19 still, P d :=
    fun d hd => List.eq_of_mem_replicate hd ▸ h
  exact (stuck_noticed []).2.2.2 (List.replicate 19 still) 7 (hstill rfl)
    (.inl ⟨hstill ⟨rfl, rfl⟩, by simp⟩)

end Rtl8190.Watchdog
