import Rtl8190.Channel.Bandwidth
import Rtl8190.Channel.Switch
import Rtl8190.Lib.Run

/-!
# The flags of operations under way

Each call that has ended has cleared its flag, but for a bandwidth switch whose work item finds the
interface down: that one leaves its flag set and `atm_swbw` raised, and no switch is made any more. For
the chip `RF_PSEUDO_11N` the flag is cleared and `atm_swbw` stays raised.
-/

open Rtl8190.Memory (Byte)
open Rtl8190.Power (RfPowerState)
open Rtl8190.Ht (HtExtchnlOffset)
open Rtl8190.Run

namespace Rtl8190.Channel

variable {s : Driver}

/-! ## Calls -/

/-- The calls, with what `priv->up` is when they look at it and what the transmit queues show -/
inductive Call where
  | setBWMode (bandwidth : HtChannelWidth) (offset : HtExtchnlOffset) (up : Bool)
  | swChnl (channel : Byte) (up : Bool) (ups : List Bool)
  | setRFPowerState8190 (eRFPowerState : RfPowerState) (bLeisurePs : Bool) (busy : Nat → Nat → Bool)

def withUp (s : Driver) (up : Bool) : Driver := { s with sw := { s.sw with up := up } }

/-- The driver after a call. A switch of the channel that has not returned is still under way. -/
def callStep (s : Driver) : Call → Driver
  | .setBWMode bandwidth offset up => rtl8192SetBWMode (withUp s up) bandwidth offset
  | .swChnl channel up ups =>
    match rtl8192PhySwChnl (withUp s up).sw channel ups with
    | .returned (sw, _) => { s with sw := sw }
    | .running sw => { s with sw := sw }
    | .outside => withUp s up
  | .setRFPowerState8190 eRFPowerState bLeisurePs busy =>
    (setRFPowerState8190 s eRFPowerState bLeisurePs busy).1

def Returns (s : Driver) : Call → Prop
  | .swChnl channel up ups => ∃ r, rtl8192PhySwChnl (withUp s up).sw channel ups = .returned r
  | _ => True

/-- No operation is under way, and `atm_swbw` is `n`. -/
structure Idle (n : Int) (s : Driver) : Prop where
  bandwidth : s.setBWModeInProgress = false
  channel : s.sw.swChnlInProgress = false
  power : s.rf.setRFPowerStateInProgress = false
  count : s.atmSwbw = n

/-- The work item finds the interface up, and a chip that it knows. -/
def Clean (s : Driver) : Call → Prop
  | .setBWMode _ _ up => s.sw.rfChip ≠ .rfPseudo11N ∧ up = true
  | _ => True

instance (s : Driver) (c : Call) : Decidable (Clean s c) :=
  match c with
  | .setBWMode _ _ up => inferInstanceAs (Decidable (s.sw.rfChip ≠ .rfPseudo11N ∧ up = true))
  | .swChnl _ _ _ => isTrue trivial
  | .setRFPowerState8190 .. => isTrue trivial

/-! ## The calls one by one -/

theorem setBWModeWorkItem_spec (s : Driver) :
    (rtl8192SetBWModeWorkItem s).sw = s.sw ∧ (rtl8192SetBWModeWorkItem s).rf = s.rf ∧
      (rtl8192SetBWModeWorkItem s).setBWModeInProgress =
        (if s.sw.rfChip = .rfPseudo11N ∨ s.sw.up = true then false else s.setBWModeInProgress) ∧
      (rtl8192SetBWModeWorkItem s).atmSwbw =
        if s.sw.rfChip ≠ .rfPseudo11N ∧ s.sw.up = true then s.atmSwbw - 1 else s.atmSwbw := by
  unfold rtl8192SetBWModeWorkItem
  by_cases hchip : s.sw.rfChip = .rfPseudo11N
  · simp [hchip]
  · by_cases hup : s.sw.up = true
    · simp [hchip, hup]
    · simp [hchip, hup]

/-- The state in which a bandwidth switch starts its work item -/
def requested (s : Driver) (bandwidth : HtChannelWidth) (offset : HtExtchnlOffset) : Driver :=
  { s with
    atmSwbw := s.atmSwbw + 1
    setBWModeInProgress := true
    currentChannelBW := bandwidth
    nCur40MhzPrimeSC :=
      match offset with
      | .lower => halPrimeChnlOffsetUpper
      | .upper => halPrimeChnlOffsetLower
      | .noExt | .noDef => halPrimeChnlOffsetDontCare }

theorem setBWMode_of_clear (h : s.setBWModeInProgress = false) (bandwidth : HtChannelWidth)
    (offset : HtExtchnlOffset) :
    rtl8192SetBWMode s bandwidth offset =
      rtl8192SetBWModeWorkItem (requested s bandwidth offset) := by
  unfold rtl8192SetBWMode
  rw [if_neg (by simp [h])]
  rfl

theorem setBWMode_idle_iff {n : Int} (h : Idle n s) (bandwidth : HtChannelWidth)
    (offset : HtExtchnlOffset) (up : Bool) :
    Idle n (rtl8192SetBWMode (withUp s up) bandwidth offset) ↔
      s.sw.rfChip ≠ .rfPseudo11N ∧ up = true := by
  rw [setBWMode_of_clear (s := withUp s up) h.bandwidth]
  obtain ⟨hsw, hrf, hbw, hcount⟩ := setBWModeWorkItem_spec (requested (withUp s up) bandwidth offset)
  have hbw : _ = if s.sw.rfChip = .rfPseudo11N ∨ up = true then false else true := hbw
  have hcount : _ = if s.sw.rfChip ≠ .rfPseudo11N ∧ up = true then s.atmSwbw + 1 - 1
    else s.atmSwbw + 1 := hcount
  have hn : s.atmSwbw = n := h.count
  constructor
  · intro hidle
    by_contra hnot
    rw [if_neg hnot] at hcount
    have hc := hcount.symm.trans hidle.count
    omega
  · intro hclean
    refine ⟨?_, ?_, ?_, ?_⟩
    · rw [hbw, if_pos (Or.inr hclean.2)]
    · rw [hsw]
      exact h.channel
    · rw [hrf]
      exact h.power
    · rw [hcount, if_pos hclean]
      omega

theorem swChnl_flag {s s' : State} {channel : Byte} {ups : List Bool} {r : Bool}
    (h : s.swChnlInProgress = false) (hret : rtl8192PhySwChnl s channel ups = .returned (s', r)) :
    s'.swChnlInProgress = false := by
  -- A switch of the channel that has ended has cleared the flag.
  unfold rtl8192PhySwChnl at hret
  split at hret
  · cases hret
    exact h
  · split at hret
    · cases hret
      exact h
    · split at hret
      · cases hret
        exact h
      · match ups with
        | [] => cases hret
        | false :: _ =>
          cases hret
          rfl
        | true :: ups =>
          dsimp only at hret
          split at hret
          · cases hret
            rfl
          · cases hret
          · cases hret

theorem setRFPowerState8190_flag (h : s.rf.setRFPowerStateInProgress = false)
    (eRFPowerState : RfPowerState) (bLeisurePs : Bool) (busy : Nat → Nat → Bool) :
    let s' := (setRFPowerState8190 s eRFPowerState bLeisurePs busy).1
    s'.rf.setRFPowerStateInProgress = false ∧ s'.sw = s.sw ∧
      s'.setBWModeInProgress = s.setBWModeInProgress ∧ s'.atmSwbw = s.atmSwbw := by
  unfold setRFPowerState8190
  rw [if_neg (by simp [h])]
  split
  · have hflag : (Power.setRFPowerState8190 s.sw.rfType eRFPowerState s.rf).1.setRFPowerStateInProgress =
        false := by
      unfold Power.setRFPowerState8190
      rw [if_neg (by simp [h])]
    exact ⟨hflag, rfl, rfl, rfl⟩
  · exact ⟨rfl, rfl, rfl, rfl⟩

theorem doze_le (busy : Nat → Nat → Bool) (queueID i : Nat) (h : i < maxDozeWaitingTimes) :
    doze busy queueID i ≤ maxDozeWaitingTimes := by
  fun_induction doze busy queueID i with
  | case1 queueID i _ _ ih => exact ih h
  | case2 queueID i _ _ hend => exact h
  | case3 queueID i _ _ hend ih => exact ih (Nat.not_le.mp hend)
  | case4 queueID i _ => exact h.le

/-- Whatever the transmit queues show, the wait for them ends. -/
theorem setRFPowerState8190_waited_le (s : Driver) (eRFPowerState : RfPowerState)
    (bLeisurePs : Bool) (busy : Nat → Nat → Bool) :
    (setRFPowerState8190 s eRFPowerState bLeisurePs busy).2.2 ≤ maxDozeWaitingTimes := by
  unfold setRFPowerState8190
  split
  · exact Nat.zero_le _
  · split
    · dsimp only
      split
      · exact doze_le busy 0 0 (by decide)
      · exact Nat.zero_le _
    · exact Nat.zero_le _

/-! ## Runs -/

theorem idle_callStep_iff {n : Int} (h : Idle n s) {c : Call} (hret : Returns s c) :
    Idle n (callStep s c) ↔ Clean s c := by
  cases c with
  | setBWMode bandwidth offset up => exact setBWMode_idle_iff h bandwidth offset up
  | swChnl channel up ups =>
    obtain ⟨⟨sw, r⟩, hreturned⟩ := hret
    have hflag := swChnl_flag (s := (withUp s up).sw) h.channel hreturned
    have hstep : callStep s (.swChnl channel up ups) = { s with sw := sw } := by
      unfold callStep
      dsimp only
      rw [hreturned]
    rw [hstep]
    exact iff_of_true ⟨h.bandwidth, hflag, h.power, h.count⟩ trivial
  | setRFPowerState8190 eRFPowerState bLeisurePs busy =>
    obtain ⟨hpower, hsw, hbw, hcount⟩ :=
      setRFPowerState8190_flag h.power eRFPowerState bLeisurePs busy
    refine iff_of_true ⟨hbw.trans h.bandwidth, ?_, hpower, hcount.trans h.count⟩ trivial
    unfold callStep
    rw [hsw]
    exact h.channel

/-- All flags are clear after every call, and `atm_swbw` is back, in the runs whose bandwidth switches
find the interface up and a chip that they know. -/
theorem flags_clear_iff_clean (s : Driver) (cs : List Call) (h : Idle s.atmSwbw s)
    (hret : Meets callStep Returns s cs) :
    Meets callStep Clean s cs ↔ ∀ ds, ds <+: cs → Idle s.atmSwbw (exec callStep s ds) :=
  meets_iff_forall_prefixes_of_meets (I := fun _ => True) (P := Idle s.atmSwbw)
    (fun _ _ _ _ _ _ => trivial) (fun _ _ _ hp hv => idle_callStep_iff hp hv) trivial h hret

/-- The driver with a chip, on channel 6, with no operation under way -/
def idleDriver (rfChip : RfChip) : Driver where
  sw := { onSix with rfChip := rfChip }
  rf :=
    { radio :=
        { iwMode := .infra, state := .linked, eRFPowerState := .eRfOn, regRfOff := false
          rfOffReason := 0, bHwRadioOff := false, blinkedInGpio := false, associateQueued := false }
      regs := fun _ => 0
      setRFPowerStateInProgress := false
      bInactivePs := false
      bSwRfProcessing := false
      isRFOff := false
      bInPowerSaveMode := false
      lastSet := none }
  btxpowerTracking := false
  currentChannelBW := .width20
  nCur40MhzPrimeSC := 0
  setBWModeInProgress := false
  atmSwbw := 0
  bwOpMode := 0
  bwWrites := []

theorem idle_idleDriver (rfChip : RfChip) : Idle 0 (idleDriver rfChip) := ⟨rfl, rfl, rfl, rfl⟩

/-- Two bandwidth switches, with a switch to a channel that is not legal and the RF switched off between
them -/
def fourCalls : List Call :=
  [.setBWMode .width2040 .lower true, .swChnl 14 true [true, true],
    .setRFPowerState8190 .eRfOff true fun queueID i => queueID = 1 ∧ i < 3,
    .setBWMode .width20 .noExt true]

theorem flags_clear_iff_clean_four : Meets callStep Clean (idleDriver .rf8256) fourCalls ∧
    (Meets callStep Clean (idleDriver .rf8256) fourCalls ↔
      ∀ ds, ds <+: fourCalls → Idle 0 (exec callStep (idleDriver .rf8256) ds)) :=
  ⟨⟨⟨nofun, rfl⟩, trivial, trivial, ⟨nofun, rfl⟩, trivial⟩,
    flags_clear_iff_clean (idleDriver .rf8256) fourCalls (idle_idleDriver .rf8256)
      ⟨trivial, ⟨_, rfl⟩, trivial, trivial, trivial⟩⟩

/-- A bandwidth switch with the interface down leaves its flag set, and the next one is refused. -/
theorem not_always_clear : ¬ ∀ (s : Driver) (cs : List Call), s.sw.rfChip = .rf8256 →
    Idle s.atmSwbw s → Meets callStep Returns s cs → Idle s.atmSwbw (exec callStep s cs) := by
  intro h
  have hidle := h (idleDriver .rf8256) [.setBWMode .width2040 .lower false] rfl
    (idle_idleDriver .rf8256) ⟨trivial, trivial⟩
  exact absurd hidle.bandwidth (by decide)

theorem setBWMode_stuck (h : s.setBWModeInProgress = true) (bandwidth : HtChannelWidth)
    (offset : HtExtchnlOffset) : rtl8192SetBWMode s bandwidth offset = s := if_pos h

end Rtl8190.Channel
