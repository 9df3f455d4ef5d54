import Rtl8190.Fsync.Code
import Rtl8190.Lib.Run

/-!
# The timer, the counters and the pattern

A callback that finds the conditions not met does not arm the timer again, and a silent reset deletes it; both
leave `fsync_state`. The difference of the counters is wrong whenever they wrap.
-/

open Rtl8190.Memory (Byte)
open Rtl8190.Registers
open Rtl8190.Run

namespace Rtl8190.Fsync

variable {s : State} {env : Env}

/-! ## What is to hold -/

def Switched (r : Regs) : Prop := r 0xc36 = 0x00 ∧ r 0xc3e = 0x90

def PatternRight (s : State) : Prop := Switched s.regs ↔ s.bswitchFsync = true

/-- The difference that a callback uses is the one modulo `2 ^ 32`. -/
def DiffRight (s : State) (env : Env) : Prop :=
  s.fsyncTimer.isSome → env.Wanted →
    rateCountDiff (rateCount s env) s.rateRecord = rateCount s env - s.rateRecord

/-- The driver, with whether the timer has died since the last check: a callback found the conditions not met,
or a silent reset was done -/
structure Watched where
  s : State
  died : Bool

def watch (w : Watched) (e : Event) : Watched where
  s := step w.s e
  died :=
    match e with
    | .check _ => false
    | .timer env => w.died || (w.s.fsyncTimer.isSome && !decide env.Wanted)
    | .silentReset _ => true
    | .resetRefused => w.died
    | .up => w.died

/-- After a check, the timer is armed where the state says so; the differences are right; the pattern follows
the flag. -/
def Right (w : Watched) (e : Event) : Prop :=
  PatternRight (watch w e).s ∧
  match e with
  | .check _ => (watch w e).s.fsyncState = .swFsync → (watch w e).s.fsyncTimer.isSome
  | .timer env => DiffRight w.s env
  | .silentReset callbacks => Meets fire DiffRight (dmBackupDynamicMechanismState w.s) callbacks
  | .resetRefused => True
  | .up => True

/-- A callback that compares finds the counters not wrapped. -/
def NoWrap (s : State) (env : Env) : Prop :=
  s.fsyncTimer.isSome → env.Wanted → s.rateRecord ≤ rateCount s env

/-- The timer has not died where a check leaves it to run, the counters do not wrap, and the tables are written
with the flag clear. -/
def Clean (w : Watched) : Event → Prop
  | .check env => w.died = true → w.s.fsyncState = .swFsync → ¬ env.Wanted
  | .timer env => NoWrap w.s env
  | .silentReset callbacks =>
    Meets fire NoWrap (dmBackupDynamicMechanismState w.s) callbacks ∧ (resetBegin w.s callbacks).bswitchFsync = false
  | .resetRefused => True
  | .up => w.s.bswitchFsync = false

/-! ## The difference of the counters -/

theorem rateCountDiff_eq_iff (count record : BitVec 32) :
    rateCountDiff count record = count - record ↔ record ≤ count := by
  -- After a wrap the difference has the wrong parity.
  unfold rateCountDiff
  split
  next hlt =>
    refine iff_of_false (fun heq => ?_) (BitVec.not_le.mpr hlt)
    have hparity : (0xffffffff - count + record).toNat = (count - record).toNat := congrArg BitVec.toNat heq
    have hmax : (0xffffffff : BitVec 32).toNat = 4294967295 := rfl
    rw [BitVec.toNat_add, BitVec.toNat_sub, BitVec.toNat_sub, hmax] at hparity
    have hcount := count.isLt
    have hrecord := record.isLt
    have hlt : count.toNat < record.toNat := hlt
    clear heq hmax
    omega
  next hge => exact iff_of_true rfl (BitVec.not_lt.mp hge)

theorem diffRight_iff (s : State) (env : Env) : DiffRight s env ↔ NoWrap s env := by
  unfold DiffRight NoWrap
  rw [rateCountDiff_eq_iff]

/-! ## The pattern -/

/-- The registers have the pattern of the flag. -/
def Follows (s : State) : Prop :=
  if s.bswitchFsync then Switched s.regs else s.regs 0xc36 = 0x40 ∧ s.regs 0xc3e = 0x96

theorem Follows.patternRight (h : Follows s) : PatternRight s := by
  unfold Follows at h
  unfold PatternRight Switched
  split at h
  next hflag => exact iff_of_true h hflag
  next hflag =>
    refine iff_of_false ?_ hflag
    rw [h.1]
    rintro ⟨hzero, _⟩
    exact absurd hzero (by decide)

theorem writePattern_spec (r : Regs) (b : Bool) :
    if b then Switched (writePattern r b) else writePattern r b 0xc36 = 0x40 ∧ writePattern r b 0xc3e = 0x96 := by
  match b with
  | true => exact ⟨rfl, rfl⟩
  | false => exact ⟨rfl, rfl⟩

theorem returnToDefault_flag (s : State) : (returnToDefault s).bswitchFsync = false := by
  unfold returnToDefault
  split
  next => rfl
  next hflag => exact Bool.eq_false_iff.mpr hflag

theorem returnToDefault_spec (h : Follows s) :
    (returnToDefault s).regs 0xc36 = 0x40 ∧ (returnToDefault s).regs 0xc3e = 0x96 ∧
      (returnToDefault s).fsyncState = s.fsyncState ∧ (returnToDefault s).fsyncTimer = s.fsyncTimer := by
  unfold returnToDefault
  split
  next => exact ⟨rfl, rfl, rfl, rfl⟩
  next hflag =>
    unfold Follows at h
    rw [if_neg hflag] at h
    exact ⟨h.1, h.2, rfl, rfl⟩

theorem follows_iff_of_clear (hflag : s.bswitchFsync = false) :
    Follows s ↔ s.regs 0xc36 = 0x40 ∧ s.regs 0xc3e = 0x96 := by
  unfold Follows
  rw [if_neg (by simp [hflag])]

theorem Follows.of_regs {s' : State} (h : Follows s) (hflag : s'.bswitchFsync = s.bswitchFsync)
    (h36 : s'.regs 0xc36 = s.regs 0xc36) (h3e : s'.regs 0xc3e = s.regs 0xc3e) : Follows s' := by
  unfold Follows Switched at *
  rw [hflag, h36, h3e]
  exact h

/-! ## The callback -/

/-- A callback keeps the pattern and the state, and arms the timer again where the conditions are met. -/
theorem callback_spec (h : Follows s) (hoff : s.fsyncTimer = none) (env : Env) :
    Follows (dmFsyncTimerCallback s env) ∧ (dmFsyncTimerCallback s env).fsyncState = s.fsyncState ∧
      ((dmFsyncTimerCallback s env).fsyncTimer.isSome ↔ env.Wanted) := by
  unfold dmFsyncTimerCallback
  by_cases hwanted : env.Wanted
  · rw [if_pos hwanted]
    dsimp only
    generalize rateCountDiff (rateCount s env) s.rateRecord = diff
    generalize rateCount s env = count
    have hsame : Follows { s with
        contiuneDiffCount := (countDiff s diff).1, rateRecord := count, rateCountDiffRecord := diff } := h
    split
    next =>
      refine ⟨?_, rfl, iff_of_true rfl hwanted⟩
      exact writePattern_spec s.regs !s.bswitchFsync
    next =>
      split
      next =>
        obtain ⟨h36, h3e, hstate, _⟩ := returnToDefault_spec hsame
        exact ⟨(follows_iff_of_clear (returnToDefault_flag _)).mpr ⟨h36, h3e⟩, hstate, iff_of_true rfl hwanted⟩
      next => exact ⟨h, rfl, iff_of_true rfl hwanted⟩
  · rw [if_neg hwanted]
    obtain ⟨_, h3e, hstate, htimer⟩ := returnToDefault_spec h
    refine ⟨(follows_iff_of_clear ?_).mpr ⟨?_, ?_⟩, hstate, ?_⟩
    · exact returnToDefault_flag s
    · dsimp only
      rw [store_of_mem (by decide) (by decide)]
      rfl
    · dsimp only
      rw [store_of_not_mem (Or.inr (by decide))]
      exact h3e
    · dsimp only
      rw [htimer, hoff]
      simp [hwanted]

theorem fire_spec (h : Follows s) (env : Env) :
    Follows (fire s env) ∧ (fire s env).fsyncState = s.fsyncState ∧
      ((fire s env).fsyncTimer.isSome ↔ s.fsyncTimer.isSome ∧ env.Wanted) := by
  unfold fire
  split
  next harmed =>
    have hfollows : Follows { s with fsyncTimer := none } := h
    obtain ⟨hkeep, hstate, htimer⟩ := callback_spec hfollows rfl env
    exact ⟨hkeep, hstate, htimer.trans (by simp [harmed])⟩
  next harmed => exact ⟨h, rfl, by simp [harmed]⟩

/-- The callback comes, and decides to switch the pattern. -/
def Switches (s : State) (env : Env) : Prop :=
  s.fsyncTimer.isSome ∧ env.Wanted ∧ env.undecoratedSmoothedPwdb > s.fsyncRssiThreshold.toNat ∧
    (countDiff s (rateCountDiff (rateCount s env) s.rateRecord)).2 = true

theorem fire_flag (hflag : s.bswitchFsync = false) (h : ¬ Switches s env) : (fire s env).bswitchFsync = false := by
  -- Only a callback that switches sets the flag.
  unfold fire
  split
  next harmed =>
    unfold dmFsyncTimerCallback
    split
    next hwanted =>
      dsimp only
      split
      next hswitch => exact absurd ⟨harmed, hwanted, hswitch.1, hswitch.2⟩ h
      next =>
        split
        next => exact returnToDefault_flag _
        next => exact hflag
    next => exact returnToDefault_flag _
  next => exact hflag

/-- A silent reset finds the flag clear, unless a callback sets it before the timer is deleted. -/
theorem resetBegin_flag {callbacks : List Env}
    (h : Meets fire (fun s env => ¬ Switches s env) (dmBackupDynamicMechanismState s) callbacks) :
    (resetBegin s callbacks).bswitchFsync = false :=
  exec_inv (I := fun s => s.bswitchFsync = false) (fun _ _ hflag h => fire_flag hflag h) rfl h

/-! ## The tables -/

theorem adapterStart_regs (s : State) :
    (adapterStart s).regs 0xc36 = 0x40 ∧ (adapterStart s).regs 0xc3e = 0x96 := by
  unfold adapterStart
  dsimp only
  constructor
  · rw [store_of_not_mem (Or.inl (by decide)), store_of_not_mem (Or.inl (by decide)),
      store_of_mem (by decide) (by decide)]
    rfl
  · rw [store_of_mem (by decide) (by decide)]
    rfl

theorem adapterStart_follows (h : s.bswitchFsync = false) : Follows (adapterStart s) := by
  have hflag : (adapterStart s).bswitchFsync = false := h
  rw [follows_iff_of_clear hflag]
  exact adapterStart_regs s

theorem adapterStart_patternRight (s : State) : PatternRight (adapterStart s) ↔ s.bswitchFsync = false := by
  have hdefault : ¬ Switched (adapterStart s).regs := by
    unfold Switched
    rw [(adapterStart_regs s).1]
    rintro ⟨hzero, _⟩
    exact absurd hzero (by decide)
  unfold PatternRight
  rw [iff_false_left hdefault, Bool.not_eq_true]
  rfl

/-! ## The check -/

/-- Everything but `0xc38` and what is noted about it -/
structure Kept (s s' : State) : Prop where
  bswitchFsync : s'.bswitchFsync = s.bswitchFsync
  fsyncState : s'.fsyncState = s.fsyncState
  fsyncTimer : s'.fsyncTimer = s.fsyncTimer
  c36 : s'.regs 0xc36 = s.regs 0xc36
  c3e : s'.regs 0xc3e = s.regs 0xc3e

theorem Kept.refl (s : State) : Kept s s := ⟨rfl, rfl, rfl, rfl, rfl⟩

theorem Kept.trans {s' s'' : State} (h : Kept s s') (h' : Kept s' s'') : Kept s s'' :=
  ⟨h'.1.trans h.1, h'.2.trans h.2, h'.3.trans h.3, h'.4.trans h.4, h'.5.trans h.5⟩

theorem setRegC38_kept (s : State) (value : Byte) (state : RegC38State) : Kept s (setRegC38 s value state) :=
  ⟨rfl, rfl, rfl, Function.update_of_ne (show 0xc36 ≠ rOFDM0RxDetector3 by decide) value _,
    Function.update_of_ne (show 0xc3e ≠ rOFDM0RxDetector3 by decide) value _⟩

theorem monitorC38_kept (s : State) (env : Env) : Kept s (monitorC38 s env) := by
  unfold monitorC38
  split_ifs
  all_goals first | exact Kept.refl s | exact setRegC38_kept s _ _

theorem dmCheckFsync_kept (s : State) (env : Env) : Kept (nextFsyncState s env) (dmCheckFsync s env) := by
  unfold dmCheckFsync
  generalize nextFsyncState s env = n
  dsimp only
  split
  next =>
    apply (monitorC38_kept n env).trans
    split
    next =>
      have hset := setRegC38_kept (monitorC38 n env) (monitorC38 n env).framesync .default
      exact ⟨hset.1, hset.2, hset.3, hset.4, hset.5⟩
    next => exact Kept.refl _
  next =>
    split
    next => exact setRegC38_kept n _ _
    next => exact Kept.refl n

/-- The pattern follows the flag; the timer is not armed and the flag is clear where the state is another one;
where it is this one the timer is armed unless it has died. -/
structure Sound (w : Watched) : Prop where
  follows : Follows w.s
  idle : w.s.fsyncState ≠ .swFsync → w.s.bswitchFsync = false ∧ w.s.fsyncTimer = none
  running : w.s.fsyncState = .swFsync → (w.s.fsyncTimer.isSome ↔ w.died = false)

theorem dmEndSWFsync_spec (h : Follows s) :
    (dmEndSWFsync s).bswitchFsync = false ∧ (dmEndSWFsync s).regs 0xc36 = 0x40 ∧
      (dmEndSWFsync s).regs 0xc3e = 0x96 ∧ (dmEndSWFsync s).fsyncTimer = none := by
  have hoff : Follows { s with fsyncTimer := none } := h
  obtain ⟨h36, h3e, _, htimer⟩ := returnToDefault_spec hoff
  exact ⟨returnToDefault_flag _, h36, h3e, htimer⟩

theorem nextFsyncState_spec {w : Watched} (h : Sound w) (env : Env) :
    Follows (nextFsyncState w.s env) ∧
    ((nextFsyncState w.s env).fsyncState ≠ .swFsync →
      (nextFsyncState w.s env).bswitchFsync = false ∧ (nextFsyncState w.s env).fsyncTimer = none ∧
        Clean w (.check env)) ∧
    ((nextFsyncState w.s env).fsyncState = .swFsync →
      ((nextFsyncState w.s env).fsyncTimer.isSome ↔ Clean w (.check env))) := by
  -- What a check makes of the state: it ends, it runs on, or it starts.
  have hclean (hwanted : ¬ env.Wanted) : Clean w (.check env) := fun _ _ => hwanted
  have hclean' (hstate : w.s.fsyncState ≠ .swFsync) : Clean w (.check env) := fun _ hsw => absurd hsw hstate
  -- What is left to show where the synchronisation has ended, or has not begun
  have hidle (n : State) (hflag : n.bswitchFsync = false) (htimer : n.fsyncTimer = none)
      (hregs : n.regs 0xc36 = 0x40 ∧ n.regs 0xc3e = 0x96) (hstate : n.fsyncState ≠ .swFsync)
      (hc : Clean w (.check env)) :
      Follows n ∧ (n.fsyncState ≠ .swFsync →
        n.bswitchFsync = false ∧ n.fsyncTimer = none ∧ Clean w (.check env)) ∧
      (n.fsyncState = .swFsync → (n.fsyncTimer.isSome ↔ Clean w (.check env))) :=
    ⟨(follows_iff_of_clear hflag).mpr hregs, fun _ => ⟨hflag, htimer, hc⟩, fun hsw => absurd hsw hstate⟩
  have hdefault (hstate : w.s.fsyncState ≠ .swFsync) := (follows_iff_of_clear (h.idle hstate).1).mp h.follows
  obtain ⟨hflagEnd, h36End, h3eEnd, htimerEnd⟩ := dmEndSWFsync_spec h.follows
  unfold nextFsyncState
  by_cases hlinked : env.linked ∧ env.cddFsync
  · rw [if_pos hlinked]
    by_cases henable : env.bfsyncEnable
    · rw [if_pos henable]
      have hstart (hstate : w.s.fsyncState ≠ .swFsync) :
          Follows { dmStartSWFsync w.s env with fsyncState := .swFsync } :=
        (follows_iff_of_clear rfl).mpr (hdefault hstate)
      cases hstate : w.s.fsyncState with
      | defaultFsync =>
        have hne : w.s.fsyncState ≠ .swFsync := by simp [hstate]
        exact ⟨hstart hne, fun hsw => absurd rfl hsw, fun _ => iff_of_true rfl (hclean' hne)⟩
      | hwFsync =>
        have hne : w.s.fsyncState ≠ .swFsync := by simp [hstate]
        exact ⟨hstart hne, fun hsw => absurd rfl hsw, fun _ => iff_of_true rfl (hclean' hne)⟩
      | swFsync =>
        refine ⟨h.follows, fun hsw => absurd hstate hsw, fun _ => ?_⟩
        rw [h.running hstate]
        constructor
        · intro hlive hdied
          exact absurd hdied (by simp [hlive])
        · intro hc
          by_contra hdied
          exact hc (Bool.not_eq_false _ ▸ hdied) hstate ⟨hlinked.1, henable, hlinked.2⟩
    · rw [if_neg henable]
      have hc := hclean fun hw => henable hw.2.1
      cases hstate : w.s.fsyncState with
      | defaultFsync =>
        have hne : w.s.fsyncState ≠ .swFsync := by simp [hstate]
        exact hidle _ (h.idle hne).1 (h.idle hne).2 (hdefault hne) (by simp) hc
      | hwFsync =>
        have hne : w.s.fsyncState ≠ .swFsync := by simp [hstate]
        exact hidle _ (h.idle hne).1 (h.idle hne).2 (hdefault hne) hne hc
      | swFsync => exact hidle _ hflagEnd htimerEnd ⟨h36End, h3eEnd⟩ (by simp) hc
  · rw [if_neg hlinked]
    have hc := hclean fun hw => hlinked ⟨hw.1, hw.2.2⟩
    cases hstate : w.s.fsyncState with
    | defaultFsync =>
      have hne : w.s.fsyncState ≠ .swFsync := by simp [hstate]
      exact hidle _ (h.idle hne).1 (h.idle hne).2 (hdefault hne) hne hc
    | hwFsync =>
      have hne : w.s.fsyncState ≠ .swFsync := by simp [hstate]
      exact hidle _ (h.idle hne).1 (h.idle hne).2 (hdefault hne) (by simp) hc
    | swFsync => exact hidle _ hflagEnd htimerEnd ⟨h36End, h3eEnd⟩ (by simp) hc

/-! ## Runs -/

theorem Sound.check {w : Watched} (h : Sound w) (env : Env) :
    (Right w (.check env) ↔ Clean w (.check env)) ∧
      (Clean w (.check env) → Sound (watch w (.check env))) := by
  obtain ⟨hfollows, hidle, hrunning⟩ := nextFsyncState_spec h env
  have hkept := dmCheckFsync_kept w.s env
  have hfollows : Follows (dmCheckFsync w.s env) := hfollows.of_regs hkept.1 hkept.4 hkept.5
  rw [← hkept.2, ← hkept.3] at hrunning
  rw [← hkept.1, ← hkept.2, ← hkept.3] at hidle
  constructor
  · constructor
    · rintro ⟨_, harmed⟩
      by_cases hstate : (dmCheckFsync w.s env).fsyncState = .swFsync
      · exact (hrunning hstate).mp (harmed hstate)
      · exact (hidle hstate).2.2
    · intro hc
      exact ⟨hfollows.patternRight, fun hstate => (hrunning hstate).mpr hc⟩
  · intro hc
    exact ⟨hfollows, fun hstate => ⟨(hidle hstate).1, (hidle hstate).2.1⟩,
      fun hstate => iff_of_true ((hrunning hstate).mpr hc) rfl⟩

theorem Sound.timer {w : Watched} (h : Sound w) (env : Env) :
    (Right w (.timer env) ↔ Clean w (.timer env)) ∧ Sound (watch w (.timer env)) := by
  obtain ⟨hfollows, hstate, htimer⟩ := fire_spec h.follows env
  refine ⟨?_, hfollows, fun hne => ?_, fun hsw => ?_⟩
  · refine Iff.trans ?_ (diffRight_iff w.s env)
    exact and_iff_right hfollows.patternRight
  · change (fire w.s env).fsyncState ≠ _ at hne
    rw [hstate] at hne
    -- The timer was not armed, so nothing has happened.
    have hoff := (h.idle hne).2
    have hsame : fire w.s env = w.s := if_neg (by simp [hoff])
    show (fire w.s env).bswitchFsync = false ∧ (fire w.s env).fsyncTimer = none
    rw [hsame]
    exact h.idle hne
  · change (fire w.s env).fsyncState = _ at hsw
    rw [hstate] at hsw
    have hrunning := h.running hsw
    refine htimer.trans ?_
    show _ ↔ (w.died || (w.s.fsyncTimer.isSome && !decide env.Wanted)) = false
    rw [hrunning]
    by_cases hdied : w.died = false
    · simp [hdied, hrunning.mpr hdied]
    · simp [hdied]

theorem Sound.silentReset {w : Watched} (callbacks : List Env) :
    (Right w (.silentReset callbacks) ↔ Clean w (.silentReset callbacks)) ∧
      (Clean w (.silentReset callbacks) → Sound (watch w (.silentReset callbacks))) := by
  have hmeets : Meets fire DiffRight (dmBackupDynamicMechanismState w.s) callbacks ↔
      Meets fire NoWrap (dmBackupDynamicMechanismState w.s) callbacks :=
    ⟨fun h => h.mono fun s env => (diffRight_iff s env).mp, fun h => h.mono fun s env => (diffRight_iff s env).mpr⟩
  have hpattern := adapterStart_patternRight (dmDeInitFsync (resetBegin w.s callbacks))
  constructor
  · exact (and_congr hpattern hmeets).trans and_comm
  · rintro ⟨_, hflag⟩
    have hfollows := adapterStart_follows (s := dmDeInitFsync (resetBegin w.s callbacks)) hflag
    exact ⟨hfollows, fun _ => ⟨hflag, rfl⟩, fun _ => iff_of_false nofun nofun⟩

theorem Sound.resetRefused {w : Watched} (h : Sound w) :
    (Right w .resetRefused ↔ Clean w .resetRefused) ∧ Sound (watch w .resetRefused) := by
  have hfollows : Follows (watch w .resetRefused).s := h.follows
  exact ⟨iff_of_true ⟨hfollows.patternRight, trivial⟩ trivial, hfollows, h.idle, h.running⟩

theorem Sound.up {w : Watched} (h : Sound w) :
    (Right w .up ↔ Clean w .up) ∧ (Clean w .up → Sound (watch w .up)) := by
  have hpattern := adapterStart_patternRight w.s
  constructor
  · exact (and_iff_left trivial).trans hpattern
  · intro hflag
    exact ⟨adapterStart_follows hflag, h.idle, h.running⟩

theorem Sound.step {w : Watched} (h : Sound w) (e : Event) :
    (Right w e ↔ Clean w e) ∧ (Clean w e → Sound (watch w e)) := by
  cases e with
  | check env => exact h.check env
  | timer env => exact ⟨(h.timer env).1, fun _ => (h.timer env).2⟩
  | silentReset callbacks => exact Sound.silentReset callbacks
  | resetRefused => exact ⟨h.resetRefused.1, fun _ => h.resetRefused.2⟩
  | up => exact h.up

theorem started_sound (s : State) : Sound ⟨started s, false⟩ where
  follows := adapterStart_follows rfl
  idle := fun _ => ⟨rfl, rfl⟩
  running := nofun

/-- From the start, the timer, the differences and the pattern are right in every step of a run exactly when all
steps are clean. -/
theorem fsync_right_iff (s : State) (es : List Event) :
    Meets watch Right ⟨started s, false⟩ es ↔ Meets watch Clean ⟨started s, false⟩ es :=
  meets_congr (fun _ e h hr => (h.step e).2 ((h.step e).1.mp hr)) (fun _ e h => (h.step e).1) (started_sound s)

/-! ## Two runs that go wrong -/

def poweredOn : State where
  fsyncTimeInterval := 0
  fsyncRateBitmap := 0
  fsyncRssiThreshold := 0
  fsyncMultipleTimeinterval := 0
  fsyncFirstdiffRatethreshold := 0
  fsyncSeconddiffRatethreshold := 0
  fsyncState := .defaultFsync
  framesyncMonitor := false
  fsyncTimer := none
  rateRecord := 0
  rateCountDiffRecord := 0
  contiuneDiffCount := 0
  bswitchFsync := false
  resetCount := 0
  regC38State := .default
  resetCnt := 0
  framesync := 0
  laterCard := true
  regs := fun _ => 0

/-- Linked to an access point that wants it, with the packets received at one of the rates -/
def linkedEnv (received : BitVec 64) : Env :=
  ⟨true, true, true, true, 60, fun i => if i = 24 then received else 0⟩

/-- After a silent reset the state says that the synchronisation runs, and the timer is not armed. From 5 packets to
`2 ^ 32 + 3`, the difference is 1. -/
theorem timer_dead_and_diff_wrong :
    (exec watch ⟨started poweredOn, false⟩
      [.check (linkedEnv 0), .silentReset [], .check (linkedEnv 0)]).s.fsyncState = .swFsync ∧
    (exec watch ⟨started poweredOn, false⟩
      [.check (linkedEnv 0), .silentReset [], .check (linkedEnv 0)]).s.fsyncTimer = none ∧
    (exec watch ⟨started poweredOn, false⟩
      [.check (linkedEnv 5), .timer (linkedEnv 0x100000003)]).s.rateCountDiffRecord = 1 ∧
    ¬ Meets watch Right ⟨started poweredOn, false⟩
      [.check (linkedEnv 0), .silentReset [], .check (linkedEnv 0)] ∧
    ¬ Meets watch Right ⟨started poweredOn, false⟩ [.check (linkedEnv 5), .timer (linkedEnv 0x100000003)] := by
  refine ⟨by decide +kernel, by decide +kernel, by decide +kernel, ?_, ?_⟩
  · rintro ⟨_, _, ⟨_, harmed⟩, _⟩
    exact absurd (harmed (by decide +kernel)) (by decide +kernel)
  · rintro ⟨_, ⟨_, hdiff⟩, _⟩
    exact absurd (hdiff (by decide +kernel) (by decide +kernel)) (by decide +kernel)

end Rtl8190.Fsync
