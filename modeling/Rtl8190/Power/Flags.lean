import Rtl8190.Lib.Flag
import Rtl8190.Lib.Run
import Rtl8190.Power.Code

/-!
# The flags follow the operations

Four steps go wrong: `rtl819x_ifsilentreset` returns with its flags set where it finds the driver
down, the last `rtl8192_adapter_start` of a reset leaves `being_init_adapter` set where
`rtl8192_BBConfig` fails, the label `END` clears the flags of another reset, and `rtl8192_down`
takes `RFChangeInProgress` from its holder after a hundred tries. In a run without them every flag
is set exactly while an operation holds it.
-/

open Function Rtl8190.Run Rtl8190.Flag

namespace Rtl8190.Power

/-! ## The places -/

/-- Between taking and releasing `RFChangeInProgress`. -/
def Pc.holds : Pc → Bool
  | .rfBody _ | .rfRelease _ => true
  | .resetStart _ | .resetDown _ | .resetUp _ | .initEnter _ | .initStart _ _ => true
  | .initRf _ | .initEnd _ _ | .upReturn _ _ | .resetRelease => true
  | .downStop => true
  | _ => false

/-- Between setting `ResetProgress` and setting it back. -/
def Pc.resetting : Pc → Bool
  | .resetLock => true
  | .resetStart _ | .resetDown _ | .resetUp _ | .initEnter _ | .initStart _ _ => true
  | .initRf _ | .initEnd _ _ | .upReturn _ _ | .resetRelease => true
  | .resetEnd _ => true
  | _ => false

/-- Between setting `bResetInProgress` and clearing it. -/
def Pc.inReset : Pc → Bool
  | .resetStart _ | .resetDown _ | .resetUp _ | .initEnter _ | .initStart _ _ => true
  | .initRf _ | .initEnd _ _ | .upReturn _ _ | .resetRelease => true
  | .resetEnd taken => taken
  | _ => false

/-- In `rtl8192_adapter_start`. -/
def Pc.initializing : Pc → Bool
  | .initStart _ _ | .initRf _ | .initEnd _ _ => true
  | _ => false

/-- In `rtl8192_adapter_start`, or bound to run it unless the reset breaks off. -/
def Pc.mayInit : Pc → Bool
  | .resetStart _ | .resetDown _ | .resetUp _ | .initEnter _ | .initStart _ _ => true
  | .initRf _ | .initEnd _ _ => true
  | .upReturn k status => !status && decide (k < 3)
  | _ => false

/-- Waiting for `RFChangeInProgress`. -/
def Pc.waits : Pc → Bool
  | .rfTry _ _ | .rfWait _ _ | .downTry _ | .downForce => true
  | _ => false

theorem Pc.holds_of_mayInit {p : Pc} (h : p.mayInit = true) : p.holds = true := by
  cases p <;> first | rfl | exact absurd h Bool.false_ne_true

theorem Pc.not_inReset {p : Pc} (h : p.resetting = false) : p.inReset = false := by
  cases p <;> first | rfl | exact absurd h.symm Bool.false_ne_true

theorem Pc.not_holds_of_waits {p : Pc} (h : p.waits = true) : p.holds = false := by
  cases p <;> first | rfl | exact absurd h Bool.false_ne_true

/-- A move that touches no flag but `RFChangeInProgress`. -/
structure Pc.Near (p q : Pc) : Prop where
  resetting : q.resetting = p.resetting
  inReset : q.inReset = p.inReset
  initializing : q.initializing = true → p.initializing = true
  mayInit : p.mayInit = true → q.mayInit = true

variable {ι : Type*} {s : State ι} {t : ι} {p : Pc} {hw : Hw}

/-! ## What holds in every state -/

/-- `being_init_adapter` is set all through `rtl8192_adapter_start`, and never when no operation
will run the function to its end any more. -/
structure InitFlag (flag : Bool) (pc : ι → Pc) : Prop where
  initializing : ∀ t, (pc t).initializing = true → flag = true
  mayInit : flag = true → ∃ t, (pc t).mayInit = true

structure Kept (s : State ι) : Prop where
  holder : Holder s.setBy Pc.holds s.pc
  resetProgress : Follows (decide (s.resetProgress = .silent)) Pc.resetting s.pc
  bResetInProgress : Follows s.bResetInProgress Pc.inReset s.pc
  beingInit : InitFlag s.beingInitAdapter s.pc

/-- Before the first operation: `rtl8192_init_priv_variable` has cleared the flags. -/
structure Quiet (s : State ι) : Prop where
  idle : ∀ t, ∃ r, s.pc t = .idle r
  setBy : s.setBy = none
  resetProgress : s.resetProgress ≠ .silent
  bResetInProgress : s.bResetInProgress = false
  beingInitAdapter : s.beingInitAdapter = false

theorem Quiet.kept (h : Quiet s) : Kept s := by
  have hidle : ∀ role : Pc → Bool, (∀ r, role (.idle r) = false) → ∀ t, role (s.pc t) = false := by
    intro role hrole t
    obtain ⟨r, hr⟩ := h.idle t
    rw [hr, hrole]
  constructor
  · rw [h.setBy]
    exact holder_none (hidle Pc.holds fun _ => rfl)
  · rw [decide_eq_false h.resetProgress]
    exact follows_false (hidle Pc.resetting fun _ => rfl)
  · rw [h.bResetInProgress]
    exact follows_false (hidle Pc.inReset fun _ => rfl)
  · constructor
    · intro t ht
      rw [hidle Pc.initializing (fun _ => rfl)] at ht
      exact absurd ht Bool.false_ne_true
    · intro hb
      rw [h.beingInitAdapter] at hb
      exact absurd hb Bool.false_ne_true

theorem setBy_eq_none (h : ¬ s.rfChangeInProgress = true) : s.setBy = none := by
  unfold State.rfChangeInProgress at h
  rwa [Option.not_isSome_iff_eq_none] at h

variable [DecidableEq ι]

/-- What the flags are for. -/
structure Orderly (s : State ι) : Prop where
  /-- At most one operation is between taking and releasing `RFChangeInProgress`. -/
  exclusive : ∀ t u, (s.pc t).holds = true → (s.pc u).holds = true → t = u
  /-- It is the one that set the flag. -/
  setter : ∀ t, (s.pc t).holds = true → s.setBy = some t
  /-- No other clears it. -/
  cleared : ∀ t hw, s.rfChangeInProgress = true → (run s t hw).rfChangeInProgress = false →
    s.setBy = some t
  /-- A flag is set only while an operation that will set it back is under way. -/
  rfChange : s.rfChangeInProgress = true ↔ ∃ t, (s.pc t).holds = true
  resetProgress : s.resetProgress = .silent ↔ ∃ t, (s.pc t).resetting = true
  bResetInProgress : s.bResetInProgress = true ↔ ∃ t, (s.pc t).inReset = true
  initializing : ∀ t, (s.pc t).initializing = true → s.beingInitAdapter = true
  beingInit : s.beingInitAdapter = true → ∃ t, (s.pc t).mayInit = true
  /-- No operation waits for itself. -/
  waits : ∀ t, (s.pc t).waits = true → s.setBy ≠ some t

/-- The step of a thread at the place is none of the four. -/
def CompletesAt (s : State ι) (t : ι) (hw : Hw) : Pc → Prop
  | .resetStart _ => s.wxSem = .free → s.up = true
  | .initStart k _ => hw.bbConfig = true ∨ k < 3
  | .resetEnd _ => ∀ u, u ≠ t → (s.pc u).resetting = false
  | .downForce => s.rfChangeInProgress = false
  | _ => True

def Completes (s : State ι) : Event ι → Prop
  | .run t hw => CompletesAt s t hw (s.pc t)
  | _ => True

/-! ## The moves -/

theorem InitFlag.keep {flag : Bool} {pc : ι → Pc} (h : InitFlag flag pc)
    (hi : p.initializing = true → (pc t).initializing = true)
    (hm : (pc t).mayInit = true → p.mayInit = true) : InitFlag flag (update pc t p) where
  initializing := by
    intro u hu
    rw [role_update Pc.initializing pc t p u] at hu
    split at hu
    · exact h.initializing t (hi hu)
    · exact h.initializing u hu
  mayInit := by
    intro hb
    obtain ⟨u, hu⟩ := h.mayInit hb
    refine ⟨u, ?_⟩
    rw [role_update Pc.mayInit pc t p u]
    split
    · next hut => exact hm (hut ▸ hu)
    · exact hu

theorem InitFlag.raise {pc : ι → Pc} (hp : p.mayInit = true) : InitFlag true (update pc t p) :=
  ⟨fun _ _ => rfl, fun _ => ⟨t, by rw [update_self, hp]⟩⟩

theorem InitFlag.lower {pc : ι → Pc} (hp : p.initializing = false)
    (h : ∀ u, u ≠ t → (pc u).initializing = false) : InitFlag false (update pc t p) where
  initializing := by
    intro u hu
    rw [role_update Pc.initializing pc t p u] at hu
    split at hu
    · exact hp.symm.trans hu
    · next hut => exact (h u hut).symm.trans hu
  mayInit := nofun

theorem Kept.goto (h : Kept s) (hp : Pc.Near (s.pc t) p) (hh : p.holds = (s.pc t).holds) :
    Kept (s.goto t p) where
  holder := h.holder.keep hh
  resetProgress := h.resetProgress.keep hp.resetting
  bResetInProgress := h.bResetInProgress.keep hp.inReset
  beingInit := h.beingInit.keep hp.initializing hp.mayInit

theorem Kept.take (h : Kept s) (hfree : s.setBy = none) (hp : Pc.Near (s.pc t) p)
    (hh : p.holds = true) : Kept ((s.takeRf t).goto t p) where
  holder := Holder.take (hfree ▸ h.holder) hh
  resetProgress := h.resetProgress.keep hp.resetting
  bResetInProgress := h.bResetInProgress.keep hp.inReset
  beingInit := h.beingInit.keep hp.initializing hp.mayInit

theorem Kept.drop (h : Kept s) (hp : Pc.Near (s.pc t) p) (ht : (s.pc t).holds = true)
    (hh : p.holds = false) : Kept (s.dropRf.goto t p) where
  holder := h.holder.drop ht hh
  resetProgress := h.resetProgress.keep hp.resetting
  bResetInProgress := h.bResetInProgress.keep hp.inReset
  beingInit := h.beingInit.keep hp.initializing hp.mayInit

/-! ## The functions -/

theorem Kept.rfTry {req : RfRequest} {n : ℕ} (h : Kept s) (hpc : s.pc t = .rfTry req n) :
    Kept (rfTry s t req n) := by
  unfold Power.rfTry
  split
  · apply h.goto <;> rw [hpc]
    · exact ⟨rfl, rfl, id, id⟩
    · rfl
  · next hfree =>
    apply h.take (setBy_eq_none hfree) ?_ rfl
    rw [hpc]
    exact ⟨rfl, rfl, id, id⟩

theorem Kept.rfWait {req : RfRequest} {n : ℕ} (h : Kept s) (hpc : s.pc t = .rfWait req n) :
    Kept (rfWait s t req n) := by
  unfold Power.rfWait
  dsimp only
  split_ifs <;>
  · apply h.goto <;> rw [hpc]
    · exact ⟨rfl, rfl, id, id⟩
    · rfl

theorem Kept.rfBody {req : RfRequest} (h : Kept s) (hpc : s.pc t = .rfBody req) :
    Kept (rfBody s t req hw) := by
  have hk : Kept { s with radio := (rfAction s.radio req hw).1 } :=
    ⟨h.holder, h.resetProgress, h.bResetInProgress, h.beingInit⟩
  unfold Power.rfBody
  apply hk.goto <;> rw [hpc]
  · exact ⟨rfl, rfl, id, id⟩
  · rfl

theorem Kept.resetCheck (h : Kept s) (hpc : s.pc t = .resetCheck) : Kept (resetCheck s t) := by
  unfold Power.resetCheck
  split_ifs <;>
  · apply h.goto <;> rw [hpc]
    · exact ⟨rfl, rfl, id, id⟩
    · rfl

theorem Kept.resetMark (h : Kept s) (hpc : s.pc t = .resetMark) :
    Kept ({ s with resetProgress := .silent }.goto t .resetLock) where
  holder := h.holder.keep (by rw [hpc]; rfl)
  resetProgress := Follows.raise rfl
  bResetInProgress := h.bResetInProgress.keep (by rw [hpc]; rfl)
  beingInit := h.beingInit.keep (by rw [hpc]; exact id) (by rw [hpc]; exact id)

theorem Kept.resetLock (h : Kept s) (hpc : s.pc t = .resetLock) : Kept (resetLock s t) := by
  unfold Power.resetLock
  split
  · apply h.goto <;> rw [hpc]
    · exact ⟨rfl, rfl, id, id⟩
    · rfl
  · next hfree =>
    exact
      { holder := Holder.take (setBy_eq_none hfree ▸ h.holder) rfl
        resetProgress := h.resetProgress.keep (by rw [hpc]; rfl)
        bResetInProgress := Follows.raise rfl
        beingInit := h.beingInit.keep (by rw [hpc]; exact id) fun _ => rfl }

theorem Kept.resetStart {k : ℕ} (h : Kept s) (hpc : s.pc t = .resetStart k) :
    Kept (resetStart s t k) ↔ (s.wxSem = .free → s.up = true) := by
  unfold Power.resetStart
  split
  · next hsem =>
    rw [hsem]
    split
    · next hup =>
      have hk : Kept { s with up := false, wxSem := .reset t } :=
        ⟨h.holder, h.resetProgress, h.bResetInProgress, h.beingInit⟩
      refine iff_of_true ?_ fun _ => hup
      apply hk.goto <;> rw [hpc]
      · exact ⟨rfl, rfl, id, id⟩
      · rfl
    · next hup =>
      refine iff_of_false ?_ fun hc => hup (hc rfl)
      intro hk
      -- The thread is gone and the flag is still its own.
      have hset : s.setBy = some t := (h.holder t).mpr (by rw [hpc]; rfl)
      have hheld := (hk.holder t).mp hset
      rw [State.goto_pc_self] at hheld
      exact Bool.false_ne_true hheld
  · next hsem => exact iff_of_true h fun hc => absurd hc hsem

theorem Kept.initEnter {k : ℕ} (h : Kept s) (hpc : s.pc t = .initEnter k) :
    Kept ({ s with beingInitAdapter := true }.goto t (.initStart k 0)) where
  holder := h.holder.keep (by rw [hpc]; rfl)
  resetProgress := h.resetProgress.keep (by rw [hpc]; rfl)
  bResetInProgress := h.bResetInProgress.keep (by rw [hpc]; rfl)
  beingInit := InitFlag.raise rfl

/-- The flag is left set where the function breaks off and the reset has no other try. -/
theorem Kept.breakOff {k n : ℕ} (h : Kept s) (hpc : s.pc t = .initStart k n) :
    Kept (s.goto t (.upReturn k false)) ↔ k < 3 := by
  have hheld : (s.pc t).holds = true := by
    rw [hpc]
    rfl
  constructor
  · intro hk
    have hflag : s.beingInitAdapter = true := h.beingInit.initializing t (by rw [hpc]; rfl)
    obtain ⟨u, hu⟩ := hk.beingInit.mayInit hflag
    rw [State.goto, role_update Pc.mayInit s.pc t _ u] at hu
    split at hu
    · simpa [Pc.mayInit] using hu
    · next hut =>
      have hother := Pc.holds_of_mayInit hu
      rw [h.holder.others hheld hut] at hother
      exact absurd hother Bool.false_ne_true
  · intro hk
    apply h.goto <;> rw [hpc]
    · exact ⟨rfl, rfl, nofun, fun _ => by simpa [Pc.mayInit] using hk⟩
    · rfl

theorem Kept.initStart {k n : ℕ} (h : Kept s) (hpc : s.pc t = .initStart k n) :
    Kept (initStart s t k n hw) ↔ (hw.bbConfig = true ∨ k < 3) := by
  unfold Power.initStart
  extract_lets _ _ s'
  have hk : Kept s' := ⟨h.holder, h.resetProgress, h.bResetInProgress, h.beingInit⟩
  have hpc' : s'.pc t = .initStart k n := hpc
  split
  · next hbb =>
    rw [hk.breakOff hpc', hbb]
    simp
  · next hbb =>
    refine iff_of_true ?_ (.inl (Bool.of_not_eq_false hbb))
    split_ifs <;>
    · apply hk.goto <;> rw [hpc']
      · exact ⟨rfl, rfl, fun _ => rfl, fun _ => rfl⟩
      · rfl

theorem Kept.initRf {k : ℕ} (h : Kept s) (hpc : s.pc t = .initRf k) :
    Kept (initRf s t k hw) := by
  have hsilent : s.resetProgress = .silent := by
    have := h.resetProgress.mpr ⟨t, by rw [hpc]; rfl⟩
    exact of_decide_eq_true this
  unfold Power.initRf
  rw [if_neg (by simp [hsilent])]
  apply h.goto <;> rw [hpc]
  · exact ⟨rfl, rfl, fun _ => rfl, fun _ => rfl⟩
  · rfl

theorem Kept.initEnd {k : ℕ} {st : Bool} (h : Kept s) (hpc : s.pc t = .initEnd k st) :
    Kept ({ s with beingInitAdapter := false }.goto t (.upReturn k st)) where
  holder := h.holder.keep (by rw [hpc]; rfl)
  resetProgress := h.resetProgress.keep (by rw [hpc]; rfl)
  bResetInProgress := h.bResetInProgress.keep (by rw [hpc]; rfl)
  beingInit := by
    apply InitFlag.lower rfl
    intro u hu
    have hother := h.holder.others (by rw [hpc]; rfl) hu
    cases hp : s.pc u <;> first | rfl | (rw [hp] at hother; exact absurd hother.symm Bool.false_ne_true)

theorem Kept.upReturn {k : ℕ} {st : Bool} (h : Kept s) (hpc : s.pc t = .upReturn k st) :
    Kept (upReturn s t k st) := by
  unfold Power.upReturn
  split
  · apply h.goto <;> rw [hpc]
    · exact ⟨rfl, rfl, nofun, fun _ => rfl⟩
    · rfl
  · next hlast =>
    apply h.goto <;> rw [hpc]
    · refine ⟨rfl, rfl, nofun, fun hm => absurd ?_ hlast⟩
      simpa [Pc.mayInit] using hm
    · rfl

theorem Kept.resetEnd {taken : Bool} (h : Kept s) (hpc : s.pc t = .resetEnd taken) :
    Kept ({ s with resetProgress := .noReset, bResetInProgress := false }.goto t (.idle .void)) ↔
      ∀ u, u ≠ t → (s.pc u).resetting = false := by
  constructor
  · intro hk
    exact (follows_lower_iff rfl).mp hk.resetProgress
  · intro hothers
    exact
      { holder := h.holder.keep (by rw [hpc]; rfl)
        resetProgress := (follows_lower_iff rfl).mpr hothers
        bResetInProgress := (follows_lower_iff rfl).mpr fun u hu => Pc.not_inReset (hothers u hu)
        beingInit := h.beingInit.keep nofun (by rw [hpc]; exact id) }

theorem Kept.downCheck (h : Kept s) (hpc : s.pc t = .downCheck) : Kept (downCheck s t) := by
  have hk : Kept { s with up := false } :=
    ⟨h.holder, h.resetProgress, h.bResetInProgress, h.beingInit⟩
  unfold Power.downCheck
  split
  · apply hk.goto <;> rw [hpc]
    · exact ⟨rfl, rfl, id, id⟩
    · rfl
  · apply h.goto <;> rw [hpc]
    · exact ⟨rfl, rfl, id, id⟩
    · rfl

theorem Kept.downTry {n : ℕ} (h : Kept s) (hpc : s.pc t = .downTry n) : Kept (downTry s t n) := by
  unfold Power.downTry
  split
  · split_ifs <;>
    · apply h.goto <;> rw [hpc]
      · exact ⟨rfl, rfl, id, id⟩
      · rfl
  · next hfree =>
    apply h.take (setBy_eq_none hfree) ?_ rfl
    rw [hpc]
    exact ⟨rfl, rfl, id, id⟩

theorem Kept.downForce (h : Kept s) (hpc : s.pc t = .downForce) :
    Kept ((s.takeRf t).goto t .downStop) ↔ s.rfChangeInProgress = false := by
  -- The flag is taken whether or not it is free.
  constructor
  · intro hk
    rw [Bool.eq_false_iff]
    intro hset
    obtain ⟨u, hu⟩ := Option.isSome_iff_exists.mp hset
    have hheld := (h.holder u).mp hu
    have hut : u ≠ t := by
      rintro rfl
      rw [hpc] at hheld
      exact Bool.false_ne_true hheld
    have hnot := hk.holder.others (t := t) (by rw [State.goto_pc_self]; rfl) hut
    rw [State.goto_pc_of_ne _ _ hut] at hnot
    exact Bool.false_ne_true (hnot.symm.trans hheld)
  · intro hfree
    have hnone := setBy_eq_none (Bool.eq_false_iff.mp hfree)
    apply h.take hnone ?_ rfl
    rw [hpc]
    exact ⟨rfl, rfl, id, id⟩

/-! ## Runs -/

theorem kept_run_iff (h : Kept s) : Kept (run s t hw) ↔ CompletesAt s t hw (s.pc t) := by
  unfold run
  cases hpc : s.pc t with
  | idle => exact iff_of_true h trivial
  | rfTry => exact iff_of_true (h.rfTry hpc) trivial
  | rfWait => exact iff_of_true (h.rfWait hpc) trivial
  | rfBody => exact iff_of_true (h.rfBody hpc) trivial
  | rfRelease =>
    refine iff_of_true ?_ trivial
    apply h.drop ?_ ?_ rfl <;> rw [hpc]
    · exact ⟨rfl, rfl, id, id⟩
    · rfl
  | resetCheck => exact iff_of_true (h.resetCheck hpc) trivial
  | resetMark => exact iff_of_true (h.resetMark hpc) trivial
  | resetLock => exact iff_of_true (h.resetLock hpc) trivial
  | resetStart => exact h.resetStart hpc
  | resetDown =>
    refine iff_of_true ?_ trivial
    have hk : Kept { s with wxSem := .free } :=
      ⟨h.holder, h.resetProgress, h.bResetInProgress, h.beingInit⟩
    apply hk.goto <;> rw [hpc]
    · exact ⟨rfl, rfl, id, id⟩
    · rfl
  | resetUp =>
    refine iff_of_true ?_ trivial
    have hk : Kept { s with up := true } :=
      ⟨h.holder, h.resetProgress, h.bResetInProgress, h.beingInit⟩
    apply hk.goto <;> rw [hpc]
    · exact ⟨rfl, rfl, id, id⟩
    · rfl
  | initEnter => exact iff_of_true (h.initEnter hpc) trivial
  | initStart => exact h.initStart hpc
  | initRf => exact iff_of_true (h.initRf hpc) trivial
  | initEnd => exact iff_of_true (h.initEnd hpc) trivial
  | upReturn => exact iff_of_true (h.upReturn hpc) trivial
  | resetRelease =>
    refine iff_of_true ?_ trivial
    apply h.drop ?_ ?_ rfl <;> rw [hpc]
    · exact ⟨rfl, rfl, id, id⟩
    · rfl
  | resetEnd => exact h.resetEnd hpc
  | downCheck => exact iff_of_true (h.downCheck hpc) trivial
  | downTry => exact iff_of_true (h.downTry hpc) trivial
  | downForce => exact h.downForce hpc
  | downStop =>
    refine iff_of_true ?_ trivial
    apply h.drop ?_ ?_ rfl <;> rw [hpc]
    · exact ⟨rfl, rfl, id, id⟩
    · rfl

theorem Kept.call {op : Op} (h : Kept s) : Kept (call s t op) := by
  unfold Power.call
  split
  · next hpc =>
    apply h.goto <;> rw [hpc]
    · cases op <;> exact ⟨rfl, rfl, id, id⟩
    · cases op <;> rfl
  · exact h

theorem kept_step_iff (e : Event ι) (h : Kept s) : Kept (step s e) ↔ Completes s e := by
  cases e with
  | call t op => exact iff_of_true h.call trivial
  | run t hw => exact kept_run_iff h
  | wxDown =>
    refine iff_of_true ?_ trivial
    unfold step
    dsimp only
    split
    · exact ⟨h.holder, h.resetProgress, h.bResetInProgress, h.beingInit⟩
    · exact h
  | wxUp =>
    refine iff_of_true ?_ trivial
    unfold step
    dsimp only
    split
    · exact ⟨h.holder, h.resetProgress, h.bResetInProgress, h.beingInit⟩
    · exact h
  | up => exact iff_of_true ⟨h.holder, h.resetProgress, h.bResetInProgress, h.beingInit⟩ trivial

theorem rfChange_run (hs : s.rfChangeInProgress = true) (ht : (s.pc t).holds = false) :
    (run s t hw).rfChangeInProgress = true := by
  unfold run
  cases hpc : s.pc t with
  | idle | resetMark | resetEnd => exact hs
  | rfTry =>
    dsimp only
    unfold Power.rfTry
    rw [if_pos hs]
    exact hs
  | rfWait =>
    dsimp only
    unfold Power.rfWait
    dsimp only
    rw [if_pos hs]
    split <;> exact hs
  | resetCheck =>
    dsimp only
    unfold Power.resetCheck
    split <;> exact hs
  | resetLock =>
    dsimp only
    unfold Power.resetLock
    rw [if_pos hs]
    exact hs
  | downCheck =>
    dsimp only
    unfold Power.downCheck
    split <;> exact hs
  | downTry =>
    dsimp only
    unfold Power.downTry
    rw [if_pos hs]
    split <;> exact hs
  | downForce => rfl
  | _ =>
    rw [hpc] at ht
    exact absurd ht.symm Bool.false_ne_true

theorem holds_of_cleared (hs : s.rfChangeInProgress = true)
    (hc : (run s t hw).rfChangeInProgress = false) : (s.pc t).holds = true := by
  apply Bool.of_not_eq_false
  intro ht
  rw [rfChange_run hs ht] at hc
  exact Bool.false_ne_true hc.symm

theorem Kept.orderly (h : Kept s) : Orderly s where
  exclusive := fun _ _ ht hu => h.holder.exclusive ht hu
  setter := fun t ht => (h.holder t).mpr ht
  cleared := fun t _ hs hc => (h.holder t).mpr (holds_of_cleared hs hc)
  rfChange := h.holder.follows
  resetProgress := decide_eq_true_iff.symm.trans h.resetProgress
  bResetInProgress := h.bResetInProgress
  initializing := h.beingInit.initializing
  beingInit := h.beingInit.mayInit
  waits := by
    intro t ht hs
    have hheld := (h.holder t).mp hs
    rw [Pc.not_holds_of_waits ht] at hheld
    exact Bool.false_ne_true hheld

theorem orderly_iff_kept : Orderly s ↔ Kept s := by
  refine ⟨fun h => ?_, Kept.orderly⟩
  refine ⟨fun t => ⟨fun hs => ?_, h.setter t⟩, decide_eq_true_iff.trans h.resetProgress,
    h.bResetInProgress, ⟨h.initializing, h.beingInit⟩⟩
  have hset : s.rfChangeInProgress = true := by
    unfold State.rfChangeInProgress
    rw [hs]
    rfl
  obtain ⟨u, hu⟩ := h.rfChange.mp hset
  obtain rfl : u = t := by
    have hsu := h.setter u hu
    rw [hs] at hsu
    exact (Option.some.inj hsu).symm
  exact hu

theorem Orderly.quiet (h : Orderly s) (hidle : ∀ t, ∃ r, s.pc t = .idle r) : Quiet s := by
  have hnot : ∀ role : Pc → Bool, (∀ r, role (.idle r) = false) → ¬ ∃ t, role (s.pc t) = true := by
    rintro role hrole ⟨t, ht⟩
    obtain ⟨r, hr⟩ := hidle t
    rw [hr, hrole] at ht
    exact Bool.false_ne_true ht
  constructor
  · exact hidle
  · exact setBy_eq_none fun hs => hnot Pc.holds (fun _ => rfl) (h.rfChange.mp hs)
  · exact fun hs => hnot Pc.resetting (fun _ => rfl) (h.resetProgress.mp hs)
  · exact Bool.eq_false_iff.mpr fun hs => hnot Pc.inReset (fun _ => rfl) (h.bResetInProgress.mp hs)
  · exact Bool.eq_false_iff.mpr fun hs => hnot Pc.mayInit (fun _ => rfl) (h.beingInit hs)

/-- The flags follow the operations exactly in the runs without one of the four steps. -/
theorem flags_orderly_iff (s : State ι) (h : Quiet s) (es : List (Event ι)) :
    Meets step Completes s es ↔ ∀ fs, fs <+: es → Orderly (exec step s fs) := by
  simp only [orderly_iff_kept]
  exact meets_iff_forall_prefixes (I := fun _ => True) (V := fun _ => True)
    (fun _ _ _ _ _ _ => trivial) (fun _ e _ hk _ => kept_step_iff e hk) trivial h.kept
    fun _ _ => trivial

/-! `rtl8192_close` takes the driver down between the check of `ResetProgress` and the lock. -/

def quietUp : State Bool where
  pc := fun _ => .idle .void
  setBy := none
  resetProgress := .noReset
  bResetInProgress := false
  beingInitAdapter := false
  up := true
  wxSem := .free
  radio := ⟨.infra, .linked, .eRfOn, false, 0, false, false, false⟩

theorem quietUp_quiet : Quiet quietUp :=
  ⟨fun _ => ⟨_, rfl⟩, rfl, by decide, rfl, rfl⟩

def working : Hw := ⟨true, true, true, true⟩

/-- The reset is the thread `false`, `rtl8192_close` the thread `true`. -/
def closedInReset : List (Event Bool) :=
  [.call false .silentReset, .run false working, .run false working] ++
  [.wxDown, .call true .down, .run true working, .run true working, .run true working, .wxUp] ++
  [.run false working, .run false working]

theorem flags_not_always_orderly :
    ¬ ∀ (s : State Bool) (es : List (Event Bool)), Quiet s → Orderly (exec step s es) := by
  intro h
  obtain ⟨t, ht⟩ := (h quietUp closedInReset quietUp_quiet).rfChange.mp (by decide)
  revert ht
  revert t
  decide

theorem flags_orderly_iff_closedInReset :
    ¬ Meets step Completes quietUp closedInReset := by
  rw [flags_orderly_iff quietUp quietUp_quiet closedInReset]
  intro h
  obtain ⟨t, ht⟩ := (h closedInReset List.prefix_rfl).rfChange.mp (by decide)
  revert ht
  revert t
  decide

end Rtl8190.Power
