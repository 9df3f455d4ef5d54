import Rtl8190.Lib.Hysteresis
import Rtl8190.RateAdaptive.Code

/-!
# The rates follow the strength of the signal

Each border between two rate sets is a switch with two thresholds, so that the rate set is a matter
of what the watchdog has seen since the link came up. Whatever else writes `RATR0`, the next round
puts it right.
-/

open Rtl8190.Run Rtl8190.Phy Rtl8190.Hysteresis

namespace Rtl8190.RateAdaptive

/-! ## What the watchdog sees -/

/-- The round gets to the state of the link. -/
def Env.counts (env : Env) : Bool := env.up && !env.rateAdaptiveDisabled && env.modeN

/-- The round finds a link whose strength has `p`. -/
def Env.sees (env : Env) (p : Int → Bool) : Bool := env.linked && p env.undecoratedSmoothedPwdb

/-- The strength is high from 55 on, until it falls below 50. -/
def strongRises : Event → Bool
  | .tick env => env.counts && env.sees fun pwdb => 55 ≤ pwdb
  | _ => false

def strongKeeps : Event → Bool
  | .tick env => !env.counts || env.sees fun pwdb => 50 ≤ pwdb
  | _ => true

/-- The strength calls for the rates of a ping test below 15, until it reaches 20. Losing the link
does not change that. -/
def nearRises (netcore : Bool) : Event → Bool
  | .tick env => netcore && env.counts && env.sees fun pwdb => pwdb < 15
  | _ => false

def nearKeeps (netcore : Bool) : Event → Bool
  | .tick env => netcore && (!env.counts || !env.linked || env.sees fun pwdb => pwdb < 20)
  | _ => netcore

/-- The events, each with whether the ping test applies after it -/
def marked (netcore : Bool) : Bool → List Event → List (Event × Bool)
  | _, [] => []
  | near, e :: es =>
    (e, latch (nearRises netcore) (nearKeeps netcore) near e) ::
      marked netcore (latch (nearRises netcore) (nearKeeps netcore) near e) es

/-- The strength is low below 30 until it reaches 35, and below 10 and 15 in a channel of 40 MHz. It
is also low while the ping test applies. -/
def weakRises : Event × Bool → Bool
  | (.tick env, near) =>
    env.counts && env.sees fun pwdb => near || pwdb < if env.channelWidth20 then 30 else 10
  | _ => false

def weakKeeps : Event × Bool → Bool
  | (.tick env, near) =>
    !env.counts || env.sees fun pwdb => near || pwdb < if env.channelWidth20 then 35 else 15
  | _ => true

/-- The rates for a state, or those of the ping test -/
def rates (rfType : RfType) (near channelWidth20 : Bool) (ratrState : RatrState) : BitVec 32 :=
  let mcs : BitVec 32 := match rfType with
    | .rf2T4R => 0x0f000000
    | .rf1T2R => 0
  if near then 0x0000000d
  else match ratrState with
    | .high => mcs ||| 0x000f0000
    | .middle | .max => mcs ||| 0x000ff000
    | .low => mcs ||| if channelWidth20 then 0x000ff001 else 0x000ff005

/-- With the bit of the short guard interval, and without the second stream for half N mode -/
def ratr (rfType : RfType) (env : Env) (near : Bool) (ratrState : RatrState) : BitVec 32 :=
  withGi (rates rfType near env.channelWidth20 ratrState) env.shortGi &&&
    if env.halfNmode then 0xf00fffff else 0xffffffff

/-! ## The tables -/

/-- The thresholds and the tables are those of `init_rate_adaptive`, up to the bit of the guard
interval. -/
structure Initialized (rfType : RfType) (netcore : Bool) (pra : Pra) : Prop where
  high2low : pra.high2lowRssiThreshForRa = 50
  high : pra.highRssiThreshForRa = 55
  low2high40M : pra.low2highRssiThreshForRa40M = 15
  low2high20M : pra.low2highRssiThreshForRa20M = 35
  low40M : pra.lowRssiThreshForRa40M = 10
  low20M : pra.lowRssiThreshForRa20M = 30
  pingEnable : pra.pingRssiEnable = netcore
  pingThresh : pra.pingRssiThreshForRa = 15
  upper : ∀ gi, withGi pra.upperRssiThresholdRatr gi = withGi (rates rfType false true .high) gi
  middle : ∀ gi, withGi pra.middleRssiThresholdRatr gi = withGi (rates rfType false true .middle) gi
  low : ∀ gi width20,
    withGi (if width20 then pra.lowRssiThresholdRatr20M else pra.lowRssiThresholdRatr40M) gi =
      withGi (rates rfType false width20 .low) gi
  ping : ∀ gi, withGi pra.pingRssiRatr gi = withGi (rates rfType true true .low) gi

theorem initialized_init (rfType : RfType) (netcore : Bool) (pra : Pra) :
    Initialized rfType netcore (initRateAdaptive rfType netcore pra) := by
  cases rfType
  all_goals
    refine ⟨rfl, rfl, rfl, rfl, rfl, rfl, rfl, rfl, ?_, ?_, ?_, ?_⟩ <;>
      simp only [initRateAdaptive] <;> decide

theorem withGi_withGi (ratr : BitVec 32) (gi gi' : Bool) :
    withGi (withGi ratr gi) gi' = withGi ratr gi' := by
  have hbit : (if gi then bit31 else 0) &&& ~~~bit31 = 0#32 := by cases gi <;> rfl
  unfold withGi
  rw [BitVec.and_or_distrib_right, BitVec.and_assoc, BitVec.and_self, hbit, BitVec.or_zero]

theorem Initialized.updateTables {rfType : RfType} {netcore : Bool} {pra : Pra}
    (h : Initialized rfType netcore pra) (env : Env) :
    Initialized rfType netcore (updateTables env pra) where
  high2low := h.high2low
  high := h.high
  low2high40M := h.low2high40M
  low2high20M := h.low2high20M
  low40M := h.low40M
  low20M := h.low20M
  pingEnable := h.pingEnable
  pingThresh := h.pingThresh
  upper gi := (withGi_withGi ..).trans (h.upper gi)
  middle gi := (withGi_withGi ..).trans (h.middle gi)
  low := h.low
  ping gi := (withGi_withGi ..).trans (h.ping gi)

/-! ## One round -/

section
variable {rfType : RfType} {netcore : Bool} (env : Env) {s : State}

theorem dmCheckRateAdaptive_idle (h : env.counts = false) : dmCheckRateAdaptive env s = s := by
  unfold Env.counts at h
  unfold dmCheckRateAdaptive
  grind

theorem dmCheckRateAdaptive_unlinked (h : env.counts = true) (hlinked : env.linked = false) :
    dmCheckRateAdaptive env s = { s with pra := { s.pra with ratrState := .max } } := by
  unfold Env.counts at h
  unfold dmCheckRateAdaptive
  grind

/-- What a round finds out about a link -/
def Env.outcome (env : Env) (s : State) : (RatrState × BitVec 32) × Bool :=
  checkPing env (updateTables env s.pra) s.pingRssiState (classify env (updateTables env s.pra))

theorem dmCheckRateAdaptive_linked (h : env.counts = true) (hlinked : env.linked = true) :
    dmCheckRateAdaptive env s = writeRatr env (env.outcome s).1.2
      { s with
        pra := { updateTables env s.pra with ratrState := (env.outcome s).1.1 }
        pingRssiState := (env.outcome s).2 } := by
  simp only [Env.counts, Bool.and_eq_true, Bool.not_eq_true'] at h
  obtain ⟨⟨hup, hdisabled⟩, hmode⟩ := h
  simp [dmCheckRateAdaptive, hup, hdisabled, hmode, hlinked, Env.outcome]

theorem writeRatr_spec (targetRATR : BitVec 32)
    (h2ss : s.rfType = .rf1T2R → targetRATR &&& ~~~rateAllOfdm2ss = targetRATR) :
    ∃ lastRatr, writeRatr env targetRATR s =
      { s with
        pra := { s.pra with lastRatr := lastRatr }
        ratr0 := targetRATR &&& if env.halfNmode then 0xf00fffff else 0xffffffff } := by
  -- The register ends with the rates, whether they had to be written or not.
  have htarget : (if env.halfNmode then targetRATR &&& 0xf00fffff else targetRATR) =
      targetRATR &&& if env.halfNmode then 0xf00fffff else 0xffffffff := by
    cases env.halfNmode with
    | false => exact (BitVec.and_allOnes (x := targetRATR)).symm
    | true => rfl
  unfold writeRatr
  rw [htarget]
  generalize (if env.halfNmode then 0xf00fffff else 0xffffffff : BitVec 32) = mask
  by_cases hsame : targetRATR &&& mask = s.ratr0
  · exact ⟨s.pra.lastRatr, by simp [hsame]⟩
  · refine ⟨targetRATR &&& mask, ?_⟩
    cases hrf : s.rfType with
    | rf2T4R => simp [hsame]
    | rf1T2R =>
      have hclear : targetRATR &&& mask &&& ~~~rateAllOfdm2ss = targetRATR &&& mask := by
        rw [BitVec.and_assoc, BitVec.and_comm mask, ← BitVec.and_assoc, h2ss hrf]
      simp [hsame, hclear]

theorem thresholds_eq (h : Initialized rfType netcore s.pra) :
    thresholds env s.pra =
      (if s.pra.ratrState = .high then 50 else 55,
        if s.pra.ratrState = .low then if env.channelWidth20 then 35 else 15
        else if env.channelWidth20 then 30 else 10) := by
  unfold thresholds
  rw [h.high2low, h.high, h.low2high40M, h.low2high20M, h.low40M, h.low20M]
  cases s.pra.ratrState <;> simp

theorem outcome_ping (h : Initialized rfType netcore s.pra) :
    (env.outcome s).2 =
      if netcore then
        if s.pingRssiState then decide (env.undecoratedSmoothedPwdb < 20)
        else decide (env.undecoratedSmoothedPwdb < 15)
      else s.pingRssiState := by
  unfold Env.outcome checkPing
  have hen := (h.updateTables env).pingEnable
  have hth := (h.updateTables env).pingThresh
  rw [hen, hth]
  cases netcore <;> cases s.pingRssiState <;> grind

theorem outcome_fst (h : Initialized rfType netcore s.pra)
    (hping : s.pingRssiState = true → netcore = true) :
    (env.outcome s).1 =
      if (env.outcome s).2 then (.low, (updateTables env s.pra).pingRssiRatr)
      else classify env (updateTables env s.pra) := by
  unfold Env.outcome checkPing
  have hen := (h.updateTables env).pingEnable
  have hth := (h.updateTables env).pingThresh
  rw [hen, hth]
  cases netcore <;> cases hs : s.pingRssiState <;> grind

theorem outcome_state (h : Initialized rfType netcore s.pra)
    (hping : s.pingRssiState = true → netcore = true) :
    (env.outcome s).1.1 =
      if (env.outcome s).2 then .low
      else if (if s.pra.ratrState = .high then 50 else 55) ≤ env.undecoratedSmoothedPwdb then .high
      else if (if s.pra.ratrState = .low then if env.channelWidth20 then 35 else 15
        else if env.channelWidth20 then 30 else 10) ≤ env.undecoratedSmoothedPwdb then .middle
      else .low := by
  have hth := thresholds_eq env (s := { s with pra := updateTables env s.pra })
    (h.updateTables env)
  have hsame : (updateTables env s.pra).ratrState = s.pra.ratrState := rfl
  rw [outcome_fst env h hping]
  split
  · rfl
  · unfold classify
    rw [hth, hsame]
    dsimp only
    grind

theorem outcome_ratr (h : Initialized rfType netcore s.pra)
    (hping : s.pingRssiState = true → netcore = true) :
    (env.outcome s).1.2 =
      withGi (rates rfType (env.outcome s).2 env.channelWidth20 (env.outcome s).1.1)
        env.shortGi := by
  -- The table is that of the state.
  have hfst := outcome_fst env h hping
  cases hnear : (env.outcome s).2 with
  | true =>
    rw [hnear, if_pos rfl] at hfst
    rw [hfst]
    exact h.ping env.shortGi
  | false =>
    rw [hnear, if_neg Bool.false_ne_true] at hfst
    rw [hfst]
    unfold classify
    cases thresholds env (updateTables env s.pra) with | mk high low
    dsimp only
    split_ifs
    · exact h.upper env.shortGi
    · exact h.middle env.shortGi
    · exact h.low env.shortGi env.channelWidth20

theorem rates_1T2R (near width20 shortGi : Bool) (ratrState : RatrState) :
    withGi (rates .rf1T2R near width20 ratrState) shortGi &&& ~~~rateAllOfdm2ss =
      withGi (rates .rf1T2R near width20 ratrState) shortGi := by
  revert near width20 shortGi
  cases ratrState <;> decide

theorem dmCheckRateAdaptive_spec (h : Initialized rfType netcore s.pra) (hrf : s.rfType = rfType)
    (hping : s.pingRssiState = true → netcore = true) (hcounts : env.counts = true)
    (hlinked : env.linked = true) :
    ∃ lastRatr, dmCheckRateAdaptive env s =
      { rfType := rfType
        pra := { updateTables env s.pra with
          ratrState := (env.outcome s).1.1
          lastRatr := lastRatr }
        pingRssiState := (env.outcome s).2
        ratr0 := ratr rfType env (env.outcome s).2 (env.outcome s).1.1 } := by
  subst hrf
  rw [dmCheckRateAdaptive_linked env hcounts hlinked, outcome_ratr env h hping]
  obtain ⟨lastRatr, heq⟩ := writeRatr_spec env
    (s := { s with
      pra := { updateTables env s.pra with ratrState := (env.outcome s).1.1 }
      pingRssiState := (env.outcome s).2 })
    (withGi (rates s.rfType (env.outcome s).2 env.channelWidth20 (env.outcome s).1.1) env.shortGi)
    (fun hrf => by rw [show s.rfType = .rf1T2R from hrf]; exact rates_1T2R ..)
  exact ⟨lastRatr, heq⟩

end

/-! ## Runs -/

@[simp] theorem marked_concat (netcore near : Bool) (es : List Event) (e : Event) :
    marked netcore near (es ++ [e]) = marked netcore near es ++
      [(e, exec (latch (nearRises netcore) (nearKeeps netcore)) near (es ++ [e]))] := by
  induction es generalizing near with
  | nil => rfl
  | cons f es ih => simp [marked, ih]

/-! ### The switches are such -/

theorem strong_keeps (e : Event) (h : strongRises e = true) : strongKeeps e = true := by
  cases e with
  | tick env => grind [strongRises, strongKeeps, Env.sees]
  | restore env => rfl
  | write ratr0 => rfl

theorem near_keeps (netcore : Bool) (e : Event) (h : nearRises netcore e = true) :
    nearKeeps netcore e = true := by
  cases e with
  | tick env => grind [nearRises, nearKeeps, Env.sees]
  | restore env => exact absurd h Bool.false_ne_true
  | write ratr0 => exact absurd h Bool.false_ne_true

theorem weak_keeps (e : Event × Bool) (h : weakRises e = true) : weakKeeps e = true := by
  obtain ⟨e, near⟩ := e
  cases e with
  | tick env => grind [weakRises, weakKeeps, Env.sees]
  | restore env => rfl
  | write ratr0 => rfl

theorem netcore_of_near {netcore : Bool} {es : List Event}
    (h : exec (latch (nearRises netcore) (nearKeeps netcore)) false es = true) :
    netcore = true := by
  obtain ⟨-, e, -, -, hrises, -⟩ := (exec_latch_iff (near_keeps netcore) es).mp h
  cases e with
  | tick env =>
    simp only [nearRises, Bool.and_eq_true] at hrises
    exact hrises.1.1
  | restore env => exact absurd hrises Bool.false_ne_true
  | write ratr0 => exact absurd hrises Bool.false_ne_true

/-- The state is what the history says. -/
structure Follows (rfType : RfType) (netcore : Bool) (es : List Event) (s : State) : Prop where
  rf : s.rfType = rfType
  initialized : Initialized rfType netcore s.pra
  near : s.pingRssiState = exec (latch (nearRises netcore) (nearKeeps netcore)) false es
  strong : decide (s.pra.ratrState = .high) = exec (latch strongRises strongKeeps) false es
  weak : decide (s.pra.ratrState = .low) =
    exec (latch weakRises weakKeeps) false (marked netcore false es)

section
variable {rfType : RfType} {netcore : Bool} {es : List Event} {s : State}

theorem Follows.ofPing (h : Follows rfType netcore es s) (hping : s.pingRssiState = true) :
    netcore = true :=
  netcore_of_near (h.near ▸ hping)

theorem Follows.concat (h : Follows rfType netcore es s) {e : Event} {s' : State}
    (hrf : s'.rfType = s.rfType) (hinit : Initialized rfType netcore s'.pra)
    (hnear : s'.pingRssiState = latch (nearRises netcore) (nearKeeps netcore) s.pingRssiState e)
    (hstrong : decide (s'.pra.ratrState = .high) =
      latch strongRises strongKeeps (decide (s.pra.ratrState = .high)) e)
    (hweak : decide (s'.pra.ratrState = .low) =
      latch weakRises weakKeeps (decide (s.pra.ratrState = .low)) (e, s'.pingRssiState)) :
    Follows rfType netcore (es ++ [e]) s' := by
  have hnear' : s'.pingRssiState =
      exec (latch (nearRises netcore) (nearKeeps netcore)) false (es ++ [e]) := by
    rw [exec_append, exec_cons, exec_nil, ← h.near, hnear]
  refine ⟨hrf.trans h.rf, hinit, hnear', ?_, ?_⟩
  · rw [exec_append, exec_cons, exec_nil, ← h.strong, hstrong]
  · rw [marked_concat, exec_append, exec_cons, exec_nil, ← h.weak, ← hnear', hweak]

/-- An event that the function does not see, or does not act on, leaves the switches alone. -/
theorem Follows.skip (h : Follows rfType netcore es s) {e : Event} {s' : State}
    (hrf : s'.rfType = s.rfType) (hpra : s'.pra = s.pra)
    (hping : s'.pingRssiState = s.pingRssiState)
    (hidle : ∀ env, e = .tick env → env.counts = false) :
    Follows rfType netcore (es ++ [e]) s' := by
  have hon := h.ofPing
  refine h.concat hrf (hpra ▸ h.initialized) ?_ ?_ ?_
  · rw [hping]
    cases e with
    | tick env => grind [latch, nearRises, nearKeeps]
    | restore env => grind [latch, nearRises, nearKeeps]
    | write ratr0 => grind [latch, nearRises, nearKeeps]
  · rw [hpra]
    cases e with
    | tick env => grind [latch, strongRises, strongKeeps]
    | restore env => grind [latch, strongRises, strongKeeps]
    | write ratr0 => grind [latch, strongRises, strongKeeps]
  · rw [hpra]
    cases e with
    | tick env => grind [latch, weakRises, weakKeeps]
    | restore env => grind [latch, weakRises, weakKeeps]
    | write ratr0 => grind [latch, weakRises, weakKeeps]

theorem Follows.unlinked (h : Follows rfType netcore es s) {env : Env} (hcounts : env.counts = true)
    (hlinked : env.linked = false) :
    Follows rfType netcore (es ++ [.tick env]) (dmCheckRateAdaptive env s) := by
  have hon := h.ofPing
  rw [dmCheckRateAdaptive_unlinked env hcounts hlinked]
  refine h.concat rfl { h.initialized with } ?_ ?_ ?_
  · grind [latch, nearRises, nearKeeps, Env.sees]
  · grind [latch, strongRises, strongKeeps, Env.sees]
  · grind [latch, weakRises, weakKeeps, Env.sees]

theorem Follows.linked (h : Follows rfType netcore es s) {env : Env} (hcounts : env.counts = true)
    (hlinked : env.linked = true) :
    Follows rfType netcore (es ++ [.tick env]) (dmCheckRateAdaptive env s) := by
  have hon := h.ofPing
  have hping := outcome_ping env h.initialized
  have hstate := outcome_state env h.initialized hon
  obtain ⟨lastRatr, heq⟩ := dmCheckRateAdaptive_spec env h.initialized h.rf hon hcounts hlinked
  rw [heq]
  refine h.concat h.rf.symm { h.initialized.updateTables env with } ?_ ?_ ?_
  · grind [latch, nearRises, nearKeeps, Env.sees]
  · dsimp only
    rw [hstate]
    grind [latch, strongRises, strongKeeps, Env.sees]
  · dsimp only
    rw [hstate]
    grind [latch, weakRises, weakKeeps, Env.sees]

theorem Follows.step (h : Follows rfType netcore es s) (e : Event) :
    Follows rfType netcore (es ++ [e]) (step s e) := by
  -- What one event preserves.
  cases e with
  | write ratr0 => exact h.skip rfl rfl rfl (by simp)
  | restore env =>
    have hframe : dmRestoreDynamicMechanismState env s =
        { s with ratr0 := (dmRestoreDynamicMechanismState env s).ratr0 } := by
      unfold dmRestoreDynamicMechanismState
      split_ifs <;> rfl
    rw [RateAdaptive.step, hframe]
    exact h.skip rfl rfl rfl (by simp)
  | tick env =>
    cases hcounts : env.counts with
    | false =>
      refine h.skip ?_ ?_ ?_ (fun env' heq => Event.tick.inj heq ▸ hcounts) <;>
        rw [RateAdaptive.step, dmCheckRateAdaptive_idle env hcounts]
    | true =>
      cases hlinked : env.linked with
      | false => exact h.unlinked hcounts hlinked
      | true => exact h.linked hcounts hlinked

end

def start (rfType : RfType) (netcore : Bool) (pra : Pra) (ratr0 : BitVec 32) : State :=
  ⟨rfType, initRateAdaptive rfType netcore pra, false, ratr0⟩

theorem follows (rfType : RfType) (netcore : Bool) (pra : Pra) (ratr0 : BitVec 32)
    (es : List Event) : Follows rfType netcore es (exec step (start rfType netcore pra ratr0) es) := by
  induction es using List.reverseRecOn with
  | nil =>
    refine ⟨rfl, initialized_init .., rfl, ?_, ?_⟩ <;> cases rfType <;> rfl
  | append_singleton es e ih =>
    rw [exec_append, exec_cons, exec_nil]
    exact ih.step e

/-- After any round of a link the rates are those of its history: the borders at 50, 30 or 10 and 15,
each with its 5 points of slack, and nothing that anybody else wrote to the register. -/
theorem rates_follow (rfType : RfType) (netcore : Bool) (pra : Pra) (ratr0 : BitVec 32)
    (es : List Event) (env : Env) (hcounts : env.counts = true) (hlinked : env.linked = true) :
    let s := exec step (start rfType netcore pra ratr0) (es ++ [.tick env])
    (s.pra.ratrState = .high ↔ Held strongRises strongKeeps (es ++ [.tick env])) ∧
    (s.pra.ratrState = .low ↔
      Held weakRises weakKeeps (marked netcore false (es ++ [.tick env]))) ∧
    (s.pingRssiState = true ↔ Held (nearRises netcore) (nearKeeps netcore) (es ++ [.tick env])) ∧
    s.pra.ratrState ≠ .max ∧
    s.ratr0 = ratr rfType env s.pingRssiState s.pra.ratrState := by
  have hes := follows rfType netcore pra ratr0 es
  have h := follows rfType netcore pra ratr0 (es ++ [.tick env])
  refine ⟨?_, ?_, ?_, ?_⟩
  · rw [← exec_latch_iff strong_keeps, ← h.strong, decide_eq_true_iff]
  · rw [← exec_latch_iff weak_keeps, ← h.weak, decide_eq_true_iff]
  · rw [← exec_latch_iff (near_keeps netcore), ← h.near]
  · rw [exec_append, exec_cons, exec_nil]
    obtain ⟨lastRatr, heq⟩ :=
      dmCheckRateAdaptive_spec env hes.initialized hes.rf hes.ofPing hcounts hlinked
    have hstate := outcome_state env hes.initialized hes.ofPing
    rw [step, heq]
    dsimp only
    refine ⟨?_, rfl⟩
    rw [hstate]
    split_ifs <;> exact RatrState.noConfusion

/-- A link at 52 that was never better, on a card whose register somebody else has written -/
theorem rates_follow_middle :
    let pra : Pra := ⟨.max, 0, 0, 0, 0, 0, 0, 0, 0, 0, 0, 0, false, 0, 0, 0⟩
    let env : Env := ⟨true, false, true, true, false, false, true, true, 52, false⟩
    let es : List Event := [.tick { env with undecoratedSmoothedPwdb := 33 }, .write 0]
    let s := exec step (start .rf2T4R true pra 0) (es ++ [.tick env])
    ¬ Held strongRises strongKeeps (es ++ [.tick env]) ∧ s.ratr0 = 0x8f0ff000 := by
  intro pra env es s
  obtain ⟨hhigh, hlow, hping, -, hratr⟩ := rates_follow .rf2T4R true pra 0 es env rfl rfl
  have hstate : s.pra.ratrState = .middle := by decide
  have hnear : s.pingRssiState = false := by decide
  refine ⟨fun h => ?_, ?_⟩
  · rw [← hhigh] at h
    exact RatrState.noConfusion (hstate.symm.trans h)
  · rw [hratr, hstate, hnear]
    decide

end Rtl8190.RateAdaptive
