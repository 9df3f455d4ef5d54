import Rtl8190.Channel.Code

/-!
# When a channel switch keeps its word

A switch takes three turns of the loop, writes the channel to the RF chip once on each legal path, and
`priv->chan` is the channel of the chip: unless a legal channel is beyond those of the chip, or the
channel is refused or illegal and `priv->chan` changes without it.
-/

open Function
open Rtl8190.Memory (Byte)
open Rtl8190.Phy (Path paths)
open Rtl8190.Rf (rtl8192PhyCheckIsLegalRFPath bMask12Bits offsetOf)

namespace Rtl8190.Channel

variable {s : State} {channel : Byte}

/-! ## What a switch is to do -/

def State.legalPaths (s : State) : List Path :=
  paths.filter fun p => rtl8192PhyCheckIsLegalRFPath s.rfType p

/-- The channel register of every legal path holds the channel. -/
def State.Names (s : State) (chan : Nat) : Prop :=
  ∀ p ∈ s.legalPaths, (s.rf p (offsetOf rZebra1Channel)).toNat = chan * 128

instance (s : State) (chan : Nat) : Decidable (s.Names chan) :=
  inferInstanceAs (Decidable (∀ p ∈ s.legalPaths,
    (s.rf p (offsetOf rZebra1Channel)).toNat = chan * 128))

def channelWrites (s : State) (chan : BitVec 16) : List RfWrite :=
  s.legalPaths.map fun p => ⟨p, rZebra1Channel, chan.setWidth 32 <<< 7⟩

/-- The channel of `priv->chan` was written once to each legal path, which holds it, or nothing was
written and `priv->chan` is the channel of the chip. -/
def Follows (s s' : State) : Prop :=
  s'.Names s'.chan.toNat ∧
    (s'.rfWrites = s.rfWrites ++ channelWrites s s'.chan ∨ s'.rfWrites = s.rfWrites)

/-- The call ends if the interface stays up, uses no index outside the tables, and `priv->chan`
follows the chip. -/
def Right (s : State) (channel : Byte) : Prop :=
  (∀ ups, rtl8192PhySwChnl s channel ups ≠ .outside) ∧
    ∃ n s' r, rtl8192PhySwChnl s channel (List.replicate n true) = .returned (s', r) ∧ Follows s s'

def target (channel : Byte) : Byte := if channel = 0 then 1 else channel

/-- The call is refused, the channel is one of the chip, or the chip is on it already. -/
def Suits (s : State) (channel : Byte) : Prop :=
  if s.swChnlInProgress ∨ modeRefuses s.mode channel then s.Names s.chan.toNat
  else if isLegalChannel s.channelMap (target channel) then (target channel).toNat ≤ 14
  else s.Names (target channel).toNat

instance (s : State) (channel : Byte) : Decidable (Suits s channel) :=
  inferInstanceAs (Decidable (if s.swChnlInProgress ∨ modeRefuses s.mode channel then
    s.Names s.chan.toNat
  else if isLegalChannel s.channelMap (target channel) then (target channel).toNat ≤ 14
  else s.Names (target channel).toNat))

/-! ## The writes -/

/-- What a write to the RF chip leaves alone -/
structure SameSwitch (s s' : State) : Prop where
  up : s'.up = s.up
  rfChip : s'.rfChip = s.rfChip
  rfType : s'.rfType = s.rfType
  channelMap : s'.channelMap = s.channelMap
  chan : s'.chan = s.chan

theorem SameSwitch.trans {s s' s'' : State} (h : SameSwitch s s') (h' : SameSwitch s' s'') :
    SameSwitch s s'' :=
  ⟨h'.up.trans h.up, h'.rfChip.trans h.rfChip, h'.rfType.trans h.rfType,
    h'.channelMap.trans h.channelMap, h'.chan.trans h.chan⟩

theorem setRFReg_same (s : State) (p : Path) (regAddr data : BitVec 32) :
    SameSwitch s (setRFReg s p regAddr data) := by
  unfold setRFReg
  split <;> exact ⟨rfl, rfl, rfl, rfl, rfl⟩

theorem setRFReg_rfWrites (s : State) (p : Path) (regAddr data : BitVec 32) :
    (setRFReg s p regAddr data).rfWrites = s.rfWrites ++
      ([p].filter fun p => rtl8192PhyCheckIsLegalRFPath s.rfType p).map fun p => ⟨p, regAddr, data⟩ := by
  unfold setRFReg
  split
  · rename_i h
    simp [h]
  · rename_i h
    simp [h]

theorem setRFReg_rf (s : State) (p q : Path) (regAddr data : BitVec 32) :
    (setRFReg s p regAddr data).rf q (offsetOf regAddr) =
      if q = p ∧ rtl8192PhyCheckIsLegalRFPath s.rfType p = true then data.setWidth 12
      else s.rf q (offsetOf regAddr) := by
  unfold setRFReg
  by_cases hlegal : rtl8192PhyCheckIsLegalRFPath s.rfType p = true
  · by_cases hq : q = p
    · subst hq
      simp [hlegal, Rf.flatStep, Rf.merged]
    · simp [hlegal, hq, Rf.flatStep]
  · simp [hlegal]

theorem writePaths_spec (regAddr data : BitVec 32) (ps : List Path) (s : State) :
    let s' := ps.foldl (fun s p => setRFReg s p regAddr data) s
    SameSwitch s s' ∧
      s'.rfWrites = s.rfWrites ++
        (ps.filter fun p => rtl8192PhyCheckIsLegalRFPath s.rfType p).map
          (fun p => RfWrite.mk p regAddr data) ∧
      ∀ q, rtl8192PhyCheckIsLegalRFPath s.rfType q = true →
        q ∈ ps ∨ s.rf q (offsetOf regAddr) = data.setWidth 12 →
          s'.rf q (offsetOf regAddr) = data.setWidth 12 := by
  -- The writes of a value to one register of several paths.
  induction ps generalizing s with
  | nil =>
    refine ⟨⟨rfl, rfl, rfl, rfl, rfl⟩, by simp, fun q _ hq => ?_⟩
    exact hq.resolve_left List.not_mem_nil
  | cons p ps ih =>
    have hsame := setRFReg_same s p regAddr data
    obtain ⟨hsame', hwrites, hrf⟩ := ih (setRFReg s p regAddr data)
    refine ⟨hsame.trans hsame', ?_, fun q hlegal hq => ?_⟩
    · refine hwrites.trans ?_
      rw [setRFReg_rfWrites, hsame.rfType, List.append_assoc, ← List.map_append, ← List.filter_append]
      rfl
    · refine hrf q (hsame.rfType ▸ hlegal) ?_
      rw [setRFReg_rf]
      by_cases hqp : q = p
      · subst hqp
        exact Or.inr (if_pos ⟨rfl, hlegal⟩)
      · rw [if_neg fun h => hqp h.1]
        exact hq.imp_left fun h => (List.mem_cons.mp h).resolve_left hqp

/-! ## The turns -/

def channelTable (channel : Byte) : CmdTable :=
  fill [⟨.rfWriteReg, rZebra1Channel, channel.setWidth 32, 10⟩, cmdEnd]

theorem rfDependCmd_some (h1 : 1 ≤ channel.toNat) (h14 : channel.toNat ≤ 14) :
    rfDependCmd .rf8256 channel = some (channelTable channel) := if_pos ⟨h1, h14⟩

theorem rfDependCmd_none (h14 : ¬ channel.toNat ≤ 14) : rfDependCmd .rf8256 channel = none :=
  if_neg fun h => h14 h.2

theorem findCmd_first (channel : Byte) :
    findCmd (channelTable channel) 3 0 0 = .cmd 0 0 ⟨.setTxPowerLevel, 0, 0, 0⟩ := rfl

theorem findCmd_second (channel : Byte) :
    findCmd (channelTable channel) 3 0 1 =
      .cmd 1 0 ⟨.rfWriteReg, rZebra1Channel, channel.setWidth 32, 10⟩ := rfl

theorem findCmd_third (channel : Byte) : findCmd (channelTable channel) 3 1 1 = .finished 0 := rfl

theorem swChnlStepByStep_illegal (h : isLegalChannel s.channelMap channel = false) :
    swChnlStepByStep s channel = (s, .finished) := if_pos h

/-- A legal channel that the chip does not have: the function asks for another turn. -/
theorem swChnlStepByStep_beyond (hlegal : isLegalChannel s.channelMap channel = true)
    (hchip : s.rfChip = .rf8256) (h14 : ¬ channel.toNat ≤ 14) :
    swChnlStepByStep s channel = (s, .again none) := by
  unfold swChnlStepByStep
  rw [if_neg (by simp [hlegal]), hchip, rfDependCmd_none h14]

structure Tuned (s : State) (channel : Byte) : Prop where
  chip : s.rfChip = .rf8256
  legal : isLegalChannel s.channelMap channel = true
  pos : 1 ≤ channel.toNat
  le : channel.toNat ≤ 14

theorem Tuned.same (h : Tuned s channel) {s' : State} (hs : SameSwitch s s') : Tuned s' channel :=
  ⟨hs.rfChip.trans h.chip, by rw [hs.channelMap, h.legal], h.pos, h.le⟩

theorem Tuned.swChnlStepByStep (h : Tuned s channel) :
    Channel.swChnlStepByStep s channel =
      match findCmd (channelTable channel) 3 s.swChnlStage s.swChnlStep with
      | .finished step => ({ s with swChnlStage := 2, swChnlStep := step }, .finished)
      | .outside => (s, .outside)
      | .cmd stage step cmd =>
        ({ execute s channel cmd with swChnlStage := stage, swChnlStep := step + 1 },
          .again (some cmd.msDelay)) := by
  have htable : rfDependCmd s.rfChip channel = some (channelTable channel) := by
    rw [h.chip, rfDependCmd_some h.pos h.le]
  unfold Channel.swChnlStepByStep
  rw [if_neg (by simp [h.legal])]
  generalize rfDependCmd s.rfChip channel = table at htable ⊢
  subst htable
  rfl

/-- The first turn sets the power, the second one writes the channel, the third one finds the end. -/
def afterFirst (s : State) (channel : Byte) : State :=
  { execute s channel ⟨.setTxPowerLevel, 0, 0, 0⟩ with swChnlStage := 0, swChnlStep := 1 }

def afterSecond (s : State) (channel : Byte) : State :=
  { paths.foldl (fun s p => setRFReg s p rZebra1Channel (channel.setWidth 32 <<< 7)) s with
    swChnlStage := 1, swChnlStep := 1 }

theorem afterFirst_same (s : State) (channel : Byte) : SameSwitch s (afterFirst s channel) := by
  unfold afterFirst execute
  dsimp only
  split <;> exact ⟨rfl, rfl, rfl, rfl, rfl⟩

theorem afterFirst_rf (s : State) (channel : Byte) :
    (afterFirst s channel).rf = s.rf ∧ (afterFirst s channel).rfWrites = s.rfWrites := by
  unfold afterFirst execute
  dsimp only
  split <;> exact ⟨rfl, rfl⟩

theorem afterSecond_same (s : State) (channel : Byte) : SameSwitch s (afterSecond s channel) := by
  obtain ⟨hup, hchip, htype, hmap, hchan⟩ :=
    (writePaths_spec rZebra1Channel (channel.setWidth 32 <<< 7) paths s).1
  exact ⟨hup, hchip, htype, hmap, hchan⟩

theorem Tuned.first (h : Tuned s channel) (hstage : s.swChnlStage = 0) (hstep : s.swChnlStep = 0) :
    Channel.swChnlStepByStep s channel = (afterFirst s channel, .again (some 0)) := by
  rw [h.swChnlStepByStep, hstage, hstep, findCmd_first]
  rfl

theorem Tuned.second (h : Tuned s channel) :
    Channel.swChnlStepByStep (afterFirst s channel) channel =
      (afterSecond (afterFirst s channel) channel, .again (some 10)) := by
  rw [(h.same (afterFirst_same s channel)).swChnlStepByStep]
  rw [show (afterFirst s channel).swChnlStage = 0 by rfl,
    show (afterFirst s channel).swChnlStep = 1 by rfl, findCmd_second]
  rfl

theorem Tuned.third (h : Tuned s channel) :
    Channel.swChnlStepByStep (afterSecond s channel) channel =
      ({ afterSecond s channel with swChnlStage := 2, swChnlStep := 0 }, .finished) := by
  rw [(h.same (afterSecond_same s channel)).swChnlStepByStep]
  rw [show (afterSecond s channel).swChnlStage = 1 by rfl,
    show (afterSecond s channel).swChnlStep = 1 by rfl, findCmd_third]

/-! ## The loop -/

theorem finish_illegal (h : isLegalChannel s.channelMap channel = false) (up : Bool)
    (ups : List Bool) : finishSwChnlNow channel (up :: ups) s = .returned s := by
  unfold finishSwChnlNow
  rw [swChnlStepByStep_illegal h]

/-- Nothing but the interface ends the loop for a channel that the chip does not have. -/
theorem finish_beyond (hlegal : isLegalChannel s.channelMap channel = true)
    (hchip : s.rfChip = .rf8256) (h14 : ¬ channel.toNat ≤ 14) (n : Nat) :
    finishSwChnlNow channel (List.replicate n true) s = .running s := by
  induction n with
  | zero => rfl
  | succ n ih =>
    rw [List.replicate_succ, finishSwChnlNow, swChnlStepByStep_beyond hlegal hchip h14]
    exact ih

theorem finish_beyond_inside (hlegal : isLegalChannel s.channelMap channel = true)
    (hchip : s.rfChip = .rf8256) (h14 : ¬ channel.toNat ≤ 14) (ups : List Bool) :
    finishSwChnlNow channel ups s ≠ .outside := by
  induction ups with
  | nil => exact nofun
  | cons up ups ih =>
    rw [finishSwChnlNow, swChnlStepByStep_beyond hlegal hchip h14]
    dsimp only
    split
    · exact ih
    · exact nofun

def switched (s : State) (channel : Byte) : State :=
  { afterSecond (afterFirst s channel) channel with swChnlStage := 2, swChnlStep := 0 }

theorem Tuned.finish (h : Tuned s channel) (hstage : s.swChnlStage = 0) (hstep : s.swChnlStep = 0)
    (ups : List Bool) :
    finishSwChnlNow channel (true :: true :: true :: ups) s = .returned (switched s channel) := by
  rw [finishSwChnlNow, h.first hstage hstep]
  dsimp only
  rw [if_pos rfl, finishSwChnlNow, h.second]
  dsimp only
  rw [if_pos rfl, finishSwChnlNow, (h.same (afterFirst_same s channel)).third]
  rfl

theorem Tuned.finish_inside (h : Tuned s channel) (hstage : s.swChnlStage = 0)
    (hstep : s.swChnlStep = 0) (ups : List Bool) : finishSwChnlNow channel ups s ≠ .outside := by
  match ups with
  | [] => exact nofun
  | false :: _ =>
    rw [finishSwChnlNow, h.first hstage hstep]
    exact nofun
  | [true] =>
    rw [finishSwChnlNow, h.first hstage hstep]
    exact nofun
  | true :: false :: _ =>
    rw [finishSwChnlNow, h.first hstage hstep]
    dsimp only
    rw [if_pos rfl, finishSwChnlNow, h.second]
    exact nofun
  | [true, true] =>
    rw [finishSwChnlNow, h.first hstage hstep]
    dsimp only
    rw [if_pos rfl, finishSwChnlNow, h.second]
    exact nofun
  | true :: true :: _ :: _ =>
    rw [finishSwChnlNow, h.first hstage hstep]
    dsimp only
    rw [if_pos rfl, finishSwChnlNow, h.second]
    dsimp only
    rw [if_pos rfl, finishSwChnlNow, (h.same (afterFirst_same s channel)).third]
    exact nofun

theorem Tuned.switched (h : Tuned s channel) (hchan : s.chan = channel.setWidth 16) :
    (switched s channel).chan = s.chan ∧ (Channel.switched s channel).Names s.chan.toNat ∧
      (Channel.switched s channel).rfWrites = s.rfWrites ++ channelWrites s s.chan := by
  -- The chip is on the channel, after one write on each legal path.
  have hfirst := afterFirst_same s channel
  obtain ⟨hsame, hwrites, hrf⟩ :=
    writePaths_spec rZebra1Channel (channel.setWidth 32 <<< 7) paths (afterFirst s channel)
  have hdata : s.chan.setWidth 32 <<< 7 = channel.setWidth 32 <<< 7 := by
    rw [hchan, BitVec.setWidth_setWidth (by omega)]
  refine ⟨hsame.chan.trans hfirst.chan, fun p hp => ?_, ?_⟩
  · have htype : (Channel.switched s channel).rfType = s.rfType := hsame.rfType.trans hfirst.rfType
    obtain ⟨hmem, hlegal⟩ := List.mem_filter.mp hp
    have hlegal' : rtl8192PhyCheckIsLegalRFPath (afterFirst s channel).rfType p = true := by
      rw [hfirst.rfType, ← htype]
      exact hlegal
    have hreg := hrf p hlegal' (Or.inl hmem)
    refine (congrArg BitVec.toNat hreg).trans ?_
    have h14 := h.le
    rw [hchan]
    simp only [BitVec.toNat_setWidth, BitVec.toNat_shiftLeft, Nat.shiftLeft_eq]
    omega
  · refine hwrites.trans ?_
    rw [(afterFirst_rf s channel).2, hfirst.rfType, ← hdata]
    rfl

/-! ## The switch -/

def started (s : State) (channel : Byte) : State :=
  { s with
    swChnlInProgress := true, chan := (target channel).setWidth 16, swChnlStage := 0, swChnlStep := 0 }

def Refused (s : State) (channel : Byte) : Prop :=
  s.swChnlInProgress = true ∨ modeRefuses s.mode channel = true

instance (s : State) (channel : Byte) : Decidable (Refused s channel) :=
  inferInstanceAs (Decidable (s.swChnlInProgress = true ∨ modeRefuses s.mode channel = true))

theorem swChnl_refused (h : Refused s channel) (ups : List Bool) :
    rtl8192PhySwChnl s channel ups = .returned (s, false) := by
  unfold rtl8192PhySwChnl
  by_cases hup : s.up = false
  · rw [if_pos hup]
  · rw [if_neg hup]
    rcases h with h | h
    · rw [if_pos h]
    · rw [if_pos h]
      exact ite_self _

theorem swChnl_accepted (hup : s.up = true) (h : ¬ Refused s channel) (ups : List Bool) :
    rtl8192PhySwChnl s channel ups =
      match ups with
      | [] => .running (started s channel)
      | false :: _ => .returned ({ started s channel with up := false, swChnlInProgress := false }, true)
      | true :: ups =>
        match finishSwChnlNow (target channel) ups (started s channel) with
        | .returned s => .returned ({ s with swChnlInProgress := false }, true)
        | .running s => .running s
        | .outside => .outside := by
  unfold Refused at h
  push Not at h
  unfold rtl8192PhySwChnl
  rw [if_neg (by simp [hup]), if_neg h.1, if_neg h.2]
  rfl

theorem target_pos (channel : Byte) : 1 ≤ (target channel).toNat := by
  unfold target
  split
  · decide
  · rename_i h
    have hne : channel.toNat ≠ 0 := fun h0 => h (BitVec.eq_of_toNat_eq h0)
    omega

theorem follows_iff_of_unwritten {s' : State} (hrf : s'.rf = s.rf) (htype : s'.rfType = s.rfType)
    (hwrites : s'.rfWrites = s.rfWrites) : Follows s s' ↔ s.Names s'.chan.toNat := by
  have hnames : s'.Names s'.chan.toNat ↔ s.Names s'.chan.toNat := by
    unfold State.Names State.legalPaths
    rw [hrf, htype]
  exact ⟨fun h => hnames.mp h.1, fun h => ⟨hnames.mpr h, Or.inr hwrites⟩⟩

theorem right_refused (h : Refused s channel) : Right s channel ↔ s.Names s.chan.toNat := by
  unfold Right
  simp only [swChnl_refused h]
  rw [← follows_iff_of_unwritten rfl rfl rfl]
  constructor
  · rintro ⟨-, n, s', r, heq, hfollows⟩
    cases heq
    exact hfollows
  · intro hfollows
    exact ⟨fun _ => nofun, 0, s, false, rfl, hfollows⟩

theorem started_chan (s : State) (channel : Byte) :
    (started s channel).chan.toNat = (target channel).toNat := by
  have hlt := (target channel).isLt
  simp only [started, BitVec.toNat_setWidth]
  omega

theorem swChnl_returned (hup : s.up = true) (h : ¬ Refused s channel) {ups : List Bool} {s' : State}
    (hfinish : finishSwChnlNow (target channel) ups (started s channel) = .returned s') :
    rtl8192PhySwChnl s channel (true :: ups) = .returned ({ s' with swChnlInProgress := false }, true) := by
  rw [swChnl_accepted hup h]
  dsimp only
  rw [hfinish]

theorem swChnl_inside (hup : s.up = true) (h : ¬ Refused s channel)
    (hfinish : ∀ ups, finishSwChnlNow (target channel) ups (started s channel) ≠ .outside)
    (ups : List Bool) : rtl8192PhySwChnl s channel ups ≠ .outside := by
  rw [swChnl_accepted hup h]
  match ups with
  | [] => exact nofun
  | false :: _ => exact nofun
  | true :: ups =>
    have hne := hfinish ups
    dsimp only
    split
    · exact nofun
    · exact nofun
    · rename_i heq
      exact fun _ => hne heq

theorem right_illegal (hup : s.up = true) (h : ¬ Refused s channel)
    (hlegal : isLegalChannel s.channelMap (target channel) = false) :
    Right s channel ↔ s.Names (target channel).toNat := by
  have hfinish : ∀ up ups, finishSwChnlNow (target channel) (up :: ups) (started s channel) =
      .returned (started s channel) := fun up ups =>
    finish_illegal (s := started s channel) hlegal up ups
  have hdone : ∀ up ups, rtl8192PhySwChnl s channel (true :: up :: ups) =
      .returned ({ started s channel with swChnlInProgress := false }, true) := fun up ups =>
    swChnl_returned hup h (hfinish up ups)
  have hiff : Follows s { started s channel with swChnlInProgress := false } ↔ _ :=
    follows_iff_of_unwritten rfl rfl rfl
  have hchan : { started s channel with swChnlInProgress := false }.chan.toNat =
      (target channel).toNat := started_chan s channel
  rw [hchan] at hiff
  rw [← hiff]
  constructor
  · rintro ⟨-, n, s', r, heq, hfollows⟩
    match n with
    | 0 =>
      rw [swChnl_accepted hup h] at heq
      cases heq
    | 1 =>
      rw [swChnl_accepted hup h] at heq
      cases heq
    | n + 2 =>
      rw [List.replicate_succ, List.replicate_succ, hdone] at heq
      cases heq
      exact hfollows
  · intro hfollows
    refine ⟨swChnl_inside hup h fun ups => ?_, 2, _, true, hdone true [], hfollows⟩
    match ups with
    | [] => exact nofun
    | up :: ups =>
      rw [hfinish]
      exact nofun

theorem right_beyond (hup : s.up = true) (hchip : s.rfChip = .rf8256) (h : ¬ Refused s channel)
    (hlegal : isLegalChannel s.channelMap (target channel) = true)
    (h14 : ¬ (target channel).toNat ≤ 14) : ¬ Right s channel := by
  rintro ⟨-, n, s', r, heq, -⟩
  rw [swChnl_accepted hup h] at heq
  match n with
  | 0 => cases heq
  | n + 1 =>
    rw [List.replicate_succ] at heq
    dsimp only at heq
    rw [finish_beyond (s := started s channel) hlegal hchip h14] at heq
    cases heq

theorem right_tuned (hup : s.up = true) (hchip : s.rfChip = .rf8256) (h : ¬ Refused s channel)
    (hlegal : isLegalChannel s.channelMap (target channel) = true)
    (h14 : (target channel).toNat ≤ 14) : Right s channel := by
  have htuned : Tuned (started s channel) (target channel) := ⟨hchip, hlegal, target_pos channel, h14⟩
  obtain ⟨hchan, hnames, hwrites⟩ := htuned.switched rfl
  refine ⟨swChnl_inside hup h (htuned.finish_inside rfl rfl), 4, _, true,
    swChnl_returned hup h (htuned.finish rfl rfl []), ?_, Or.inl ?_⟩
  · rw [← hchan] at hnames
    exact hnames
  · rw [← hchan] at hwrites
    exact hwrites

/-- With the chip of this driver and the interface up. -/
theorem sw_chnl_right_iff (s : State) (channel : Byte) (hchip : s.rfChip = .rf8256)
    (hup : s.up = true) : Right s channel ↔ Suits s channel := by
  unfold Suits
  split
  · rename_i h
    exact right_refused h
  · rename_i h
    split
    · rename_i hlegal
      by_cases h14 : (target channel).toNat ≤ 14
      · exact iff_of_true (right_tuned hup hchip h hlegal h14) h14
      · exact iff_of_false (right_beyond hup hchip h hlegal h14) h14
    · rename_i hlegal
      exact right_illegal hup h (by simpa using hlegal)

/-- The maps of legal channels that the driver makes -/
inductive Produced : (Nat → Byte) → Prop where
  | channelmap (plan : Nat) (hplan : plan < 13) (channelMap : Nat → Byte) :
      Produced (dot11dChannelmap plan channelMap)
  | reset : Produced dot11dReset
  | countryIe (ie : Nat → Byte) (pTaddr : Addr) (len : Nat) (info : Beacon.Dot11dInfo) :
      Produced (Beacon.dot11dUpdateCountryIe (Memory.read ie) pTaddr len info).val.channelMap

/-- The chip on channel 6, in a mode of the 2.4 GHz band, with the plan that the driver uses -/
def onSix : State where
  up := true
  mode := .n24G
  rfChip := .rf8256
  rfType := .rf1T2R
  icCut := 4
  channelMap := dot11dChannelmap 11 fun _ => 0
  swChnlInProgress := false
  swChnlStage := 0
  swChnlStep := 0
  chan := 6
  rf := fun _ _ => 0x300
  rfWrites := []
  powerCalls := []
  portWrites := []

theorem sw_chnl_right_iff_eleven : Right onSix 11 :=
  (sw_chnl_right_iff onSix 11 rfl rfl).mpr (by decide)

/-- Channel 14 is not legal; the call returns with `priv->chan` on it and the chip on channel 6. -/
theorem not_always_right : ¬ ∀ (s : State) (channel : Byte), s.rfChip = .rf8256 → s.up = true →
    Produced s.channelMap → Right s channel := by
  intro h
  have hright := h onSix 14 rfl rfl (.channelmap 11 (by decide) _)
  rw [right_illegal rfl (by decide) (by decide)] at hright
  exact absurd hright (by decide)

/-- The bytes of a country element that allows the channels 36 .. 39 -/
def highBand (i : Nat) : Byte := [0x55, 0x53, 0x20, 36, 4, 20].getD i 0

/-- In a mode of the 5 GHz band, the switch to one of them goes on for ever. -/
example : ¬ Right { onSix with
    mode := .n5G
    channelMap := (Beacon.dot11dUpdateCountryIe (Memory.read highBand) default 6 default).val.channelMap }
    36 :=
  right_beyond rfl rfl (by decide) (by decide) (by decide)

end Rtl8190.Channel
