import Rtl8190.PowerSave.Code

/-!
# When the AP knows that the station sleeps

The station sleeps only after the AP acknowledged the null frame with the power-management bit, and
waits only while that frame is out or its acknowledgement is on the way, in every run in which no
frame comes in between and none is lost (`handshake_of_clean`). The interrupt reports a success for
every frame, and it may report one frame and put the station to sleep with the next.
`rtllib_sta_wakeup` and the wait queues let frames without the bit out that leave `sta_sleep` as it
is.
-/

open Function Rtl8190.Run

namespace Rtl8190.PowerSave

/-! ## The handshake -/

/-- The frame that announces the sleep is in the management ring. -/
def State.nullInFlight (s : State) : Prop := ∃ d ∈ s.ring .mgnt, d.frame = .null true

instance (s : State) : Decidable s.nullInFlight := inferInstanceAs (Decidable (∃ d ∈ _, _))

/-- `rtllib_sta_ps` has set `sta_sleep`, and sends the frame next. -/
def State.beingSent (s : State) : Prop := s.lock = .announcing

/-- The interrupt goes on to the store of `rtllib_ps_tx_ack`. -/
def State.reports (s : State) : Prop := ∃ n, (interruptAck^[n] s).lock = .acking

/-- `rtllib_ps_tx_ack` is about to put the station to sleep, or the interrupt that took the frame out
of its ring comes to that when it has the lock. -/
def State.beingReported (s : State) : Prop := s.lock = .acking ∨ State.reports { s with lock := .free }

structure Handshake (s : State) : Prop where
  /-- At each call of `enter_sleep_state` the last acknowledged frame had the bit. -/
  slept : ∀ pm ∈ s.slept, pm = true
  waits : s.staSleep = .nullSent →
    s.nullInFlight ∧ s.ackTxToIeee = true ∨ s.beingSent ∨ s.beingReported
  /-- The AP does not take a dozing station for awake. -/
  dozes : s.staSleep = .asleep → s.apPm = true

/-- Nothing goes wrong in the step. -/
def Clean (s : State) : Event → Prop
  | .goOn sent =>
    match s.lock with
    -- the null frame goes out, and the interrupt is not about to report another frame
    | .announcing => s.staSleep = .nullSent → sent = true ∧ s.ackReport.passed = false
    -- no null frame takes the sleep back
    | .wakingUp nullFrame _ => nullFrame = true → sent = true → s.staSleep = .awake
    | _ => True
  | .psTxAck success _ => success = true → s.staSleep ≠ .nullSent
  | .sendPending i sent =>
    i < s.pending.length → sent = true → s.staSleep = .awake ∧ s.lock.decided = false
  | .txResume ac sent => s.waitQ ac ≠ 0 → sent = true → s.staSleep = .awake ∧ s.lock.decided = false
  | .complete q acked => q = .mgnt → s.staSleep = .nullSent → acked = true
  | _ => True

/-! ## The invariant -/

/-- No ring but the high one holds a frame. -/
def State.quiet (s : State) : Prop := (∀ i, s.ring (.ac i) = []) ∧ s.ring .mgnt = []

/-- The null frame is alone in the rings, and the AP has acknowledged it if the hardware is done with
it. The interrupt has not taken the rings for empty. -/
structure Announced (s : State) : Prop where
  ack : s.ackTxToIeee = true
  quiet : ∀ i, s.ring (.ac i) = []
  alone : ∃ d, s.ring .mgnt = [d] ∧ d.frame = .null true ∧ (d.own = false → s.apPm = true)
  unseen : s.ackReport.passed = false

/-- The AP acknowledged the null frame, and the interrupt took it out of its ring. -/
structure Acknowledged (s : State) : Prop where
  pm : s.apPm = true
  quiet : s.quiet
  reporting : s.ackReport = .cleared ∨ s.ackTxToIeee = true ∧ s.ackReport ≠ .idle

/-- The station sleeps, or goes to sleep whatever `sta_sleep` is now. -/
def State.dozing (s : State) : Prop := s.staSleep = .asleep ∨ s.lock = .acking ∨ s.lock = .entering

structure Inv (s : State) : Prop where
  slept : ∀ pm ∈ s.slept, pm = true
  high : ∀ d ∈ s.ring .high, d.frame.pm = true
  bits : s.staSleep ≠ .awake ∨ s.lock.decided = true → ∀ q, ∀ d ∈ s.ring q, d.frame.pm = true
  asleep : s.dozing → s.apPm = true
  nullSent : s.staSleep = .nullSent →
    s.lock = .announcing ∨ s.lock = .acking ∨ Announced s ∨ Acknowledged s
  found : s.lock = .found → s.staSleep = .awake ∧ s.quiet
  announcing : s.lock = .announcing → s.staSleep ≠ .asleep
  empty : s.lock = .announcing → s.staSleep = .nullSent → s.quiet
  ack : s.lock = .announcing → s.staSleep = .nullSent →
    s.ackTxToIeee = true ∨ s.ackReport = .cleared

/-! ### What the interrupt goes on to -/

section Report

variable {s : State}

theorem reports_of_next (h : (interruptAck s).reports) : s.reports := by
  obtain ⟨n, hn⟩ := h
  exact ⟨n + 1, hn⟩

theorem reports_cleared (hreport : s.ackReport = .cleared) (hsleep : s.staSleep = .nullSent) :
    s.reports := by
  refine ⟨1, ?_⟩
  show (interruptAck s).lock = .acking
  simp [interruptAck, hreport, rtllibPsTxAck, hsleep]

theorem reports_empty (hreport : s.ackReport = .empty) (hsleep : s.staSleep = .nullSent) :
    s.reports := by
  apply reports_of_next
  have hnext : interruptAck s = { s with ackTxToIeee := false, ackReport := .cleared } := by
    simp only [interruptAck, hreport]
  rw [hnext]
  exact reports_cleared rfl hsleep

theorem ring_of_quiet (hquiet : s.quiet) {i : Nat} {q : Queue} (hq : txQueues[i]? = some q) :
    s.ring q = [] := by
  have hmem : q ∈ txQueues := List.mem_of_getElem? hq
  simp only [txQueues, List.mem_cons, List.not_mem_nil, or_false] at hmem
  rcases hmem with rfl | rfl | rfl | rfl | rfl
  all_goals first | exact hquiet.1 _ | exact hquiet.2

theorem reports_looking {i : Nat} (hreport : s.ackReport = .looking i) (hquiet : s.quiet)
    (hsleep : s.staSleep = .nullSent) : s.reports := by
  -- Whatever rings are left to look at, they are empty.
  induction hn : txQueues.length - i generalizing s i with
  | zero =>
    have hq : txQueues[i]? = none := List.getElem?_eq_none (by omega)
    apply reports_of_next
    have hnext : interruptAck s = { s with ackReport := .empty } := by
      simp only [interruptAck, hreport, hq]
    rw [hnext]
    exact reports_empty rfl hsleep
  | succ n ih =>
    have hq : txQueues[i]? = some txQueues[i] := List.getElem?_eq_getElem (by omega)
    apply reports_of_next
    have hnext : interruptAck s = { s with ackReport := .looking (i + 1) } := by
      simp only [interruptAck, hreport, hq, ring_of_quiet hquiet hq, if_true]
    rw [hnext]
    exact ih rfl hquiet hsleep (by omega)

theorem Acknowledged.reports (h : Acknowledged s) (hsleep : s.staSleep = .nullSent) : s.reports := by
  cases hreport : s.ackReport with
  | cleared => exact reports_cleared hreport hsleep
  | empty => exact reports_empty hreport hsleep
  | looking i => exact reports_looking hreport h.quiet hsleep
  | reaped =>
    apply reports_of_next
    have hack : s.ackTxToIeee = true := by simpa [hreport] using h.reporting
    have hnext : interruptAck s = { s with ackReport := .looking 0 } := by
      simp only [interruptAck, hreport, hack, if_true]
    rw [hnext]
    exact reports_looking rfl h.quiet hsleep
  | idle => simpa [hreport] using h.reporting

end Report

theorem Inv.handshake {s : State} (h : Inv s) : Handshake s where
  slept := h.slept
  waits := by
    intro hsleep
    rcases h.nullSent hsleep with hsends | hacking | ⟨hack, -, ⟨d, hring, hframe, -⟩, -⟩ | hacked
    · exact .inr (.inl hsends)
    · exact .inr (.inr (.inl hacking))
    · exact .inl ⟨⟨d, by simp [hring], hframe⟩, hack⟩
    · have hfree : Acknowledged { s with lock := .free } := ⟨hacked.pm, hacked.quiet, hacked.reporting⟩
      exact .inr (.inr (.inr (hfree.reports hsleep)))
  dozes heq := h.asleep (.inl heq)

theorem inv_init (cfg : Config) : Inv (State.init cfg) where
  slept := by simp [State.init]
  high := by simp [State.init]
  bits := by simp [State.init]
  asleep := by simp [State.init, State.dozing]
  nullSent := by simp [State.init]
  found := by simp [State.init]
  announcing := by simp [State.init]
  empty := by simp [State.init]
  ack := by simp [State.init]

section Parts

variable {s : State}

theorem Inv.congr {s' : State} (h : Inv s) (hslept : s'.slept = s.slept) (hring : s'.ring = s.ring)
    (hsleep : s'.staSleep = s.staSleep) (hpm : s'.apPm = s.apPm)
    (hreport : s'.ackReport = s.ackReport) (hlock : s'.lock = s.lock)
    (hack : s.ackTxToIeee = true → s'.ackTxToIeee = true) : Inv s' := by
  -- Only these fields take part.
  have hquiet : s'.quiet = s.quiet := by simp only [State.quiet, hring]
  constructor
  · rw [hslept]
    exact h.slept
  · rw [hring]
    exact h.high
  · rw [hring, hsleep, hlock]
    exact h.bits
  · rw [State.dozing, hsleep, hpm, hlock]
    exact h.asleep
  · rw [hsleep, hlock]
    intro heq
    refine (h.nullSent heq).imp_right fun hsent => hsent.imp_right fun hsent => ?_
    rcases hsent with hs | hs
    · refine .inl ⟨hack hs.ack, hring ▸ hs.quiet, ?_, hreport ▸ hs.unseen⟩
      rw [hring, hpm]
      exact hs.alone
    · refine .inr ⟨hpm ▸ hs.pm, hquiet ▸ hs.quiet, ?_⟩
      rw [hreport]
      exact hs.reporting.imp_right fun hreading => ⟨hack hreading.1, hreading.2⟩
  · rw [hsleep, hlock, hquiet]
    exact h.found
  · rw [hsleep, hlock]
    exact h.announcing
  · rw [hsleep, hlock, hquiet]
    exact h.empty
  · rw [hsleep, hlock, hreport]
    exact fun hsends heq => (h.ack hsends heq).imp_left hack

/-- Neither a sleep nor its announcement is under way. -/
def LockPc.neutral : LockPc → Bool
  | .free | .deciding _ | .wakingUp .. => true
  | .found | .announcing | .acking | .entering => false

theorem LockPc.not_decided {pc : LockPc} (h : pc.neutral = true) : pc.decided = false := by
  cases pc <;> first | rfl | cases h

theorem LockPc.decided_iff {pc : LockPc} :
    pc.decided = true ↔ pc = .found ∨ pc = .acking ∨ pc = .entering := by
  cases pc <;> simp [LockPc.decided]

theorem Inv.setLock (h : Inv s) (hneutral : s.lock.neutral = true) {lock : LockPc}
    (hneutral' : lock.neutral = true) : Inv { s with lock := lock } := by
  have hother (pc : LockPc) (hpc : pc.neutral = false) : lock ≠ pc := by
    rintro rfl
    rw [hpc] at hneutral'
    cases hneutral'
  exact {
    slept := h.slept
    high := h.high
    bits := fun hd => h.bits (hd.imp_right fun hdecided => by
      rw [LockPc.not_decided hneutral'] at hdecided
      cases hdecided)
    asleep := by
      rintro (heq | heq | heq)
      · exact h.asleep (.inl heq)
      · exact absurd heq (hother .acking rfl)
      · exact absurd heq (hother .entering rfl)
    nullSent := by
      intro heq
      rcases h.nullSent heq with hlock | hlock | hs | hs
      · rw [hlock] at hneutral
        cases hneutral
      · rw [hlock] at hneutral
        cases hneutral
      · exact .inr (.inr (.inl ⟨hs.ack, hs.quiet, hs.alone, hs.unseen⟩))
      · exact .inr (.inr (.inr ⟨hs.pm, hs.quiet, hs.reporting⟩))
    found := fun heq => absurd heq (hother .found rfl)
    announcing := fun heq => absurd heq (hother .announcing rfl)
    empty := fun heq => absurd heq (hother .announcing rfl)
    ack := fun heq => absurd heq (hother .announcing rfl) }

theorem inv_awake (hslept : ∀ pm ∈ s.slept, pm = true) (hhigh : ∀ d ∈ s.ring .high, d.frame.pm = true)
    (hawake : s.staSleep = .awake) (hlock : s.lock.decided = false) : Inv s := by
  have hnot (pc : LockPc) (hpc : pc.decided = true) : s.lock ≠ pc := by
    rintro heq
    rw [heq, hpc] at hlock
    cases hlock
  exact {
    slept := hslept
    high := hhigh
    bits := by
      rintro (hne | hdecided)
      · exact absurd hawake hne
      · rw [hlock] at hdecided
        cases hdecided
    asleep := by
      rintro (heq | heq | heq)
      · rw [hawake] at heq
        cases heq
      · exact absurd heq (hnot .acking rfl)
      · exact absurd heq (hnot .entering rfl)
    nullSent := fun heq => by rw [hawake] at heq; cases heq
    found := fun heq => absurd heq (hnot .found rfl)
    announcing := fun _ heq => by rw [hawake] at heq; cases heq
    empty := fun _ heq => by rw [hawake] at heq; cases heq
    ack := fun _ heq => by rw [hawake] at heq; cases heq }

/-- While the null frame is out, its ring and the high ring are the only ones in use. -/
theorem inv_nullSent (hslept : ∀ pm ∈ s.slept, pm = true)
    (hhigh : ∀ d ∈ s.ring .high, d.frame.pm = true) (hsent : s.staSleep = .nullSent)
    (hfree : s.lock = .free) (h : Announced s) : Inv s := by
  have hnot (pc : LockPc) (hpc : pc ≠ .free) : s.lock ≠ pc := hfree ▸ hpc.symm
  exact {
    slept := hslept
    high := hhigh
    bits := by
      intro _ q d hd
      cases q with
      | ac i =>
        rw [h.quiet i] at hd
        cases hd
      | mgnt =>
        obtain ⟨d', hring, hframe, -⟩ := h.alone
        rw [hring, List.mem_singleton] at hd
        rw [hd, hframe]
        rfl
      | high => exact hhigh d hd
    asleep := by
      rintro (heq | heq | heq)
      · rw [hsent] at heq
        cases heq
      · exact absurd heq (hnot .acking (by simp))
      · exact absurd heq (hnot .entering (by simp))
    nullSent := fun _ => .inr (.inr (.inl h))
    found := fun heq => absurd heq (hnot .found (by simp))
    announcing := fun heq => absurd heq (hnot .announcing (by simp))
    empty := fun heq => absurd heq (hnot .announcing (by simp))
    ack := fun heq => absurd heq (hnot .announcing (by simp)) }

theorem Inv.setReport (h : Inv s) {ackReport : AckReport} {ackTxToIeee : Bool}
    (hsent : Announced s ∨ Acknowledged s →
      Announced { s with ackReport := ackReport, ackTxToIeee := ackTxToIeee } ∨
        Acknowledged { s with ackReport := ackReport, ackTxToIeee := ackTxToIeee })
    (hack : s.ackTxToIeee = true ∨ s.ackReport = .cleared →
      ackTxToIeee = true ∨ ackReport = .cleared) :
    Inv { s with ackReport := ackReport, ackTxToIeee := ackTxToIeee } where
  slept := h.slept
  high := h.high
  bits := h.bits
  asleep := h.asleep
  nullSent heq := (h.nullSent heq).imp_right fun hs => hs.imp_right hsent
  found := h.found
  announcing := h.announcing
  empty := h.empty
  ack hsends heq := hack (h.ack hsends heq)

theorem Inv.setRing (h : Inv s) {ring : Rings} {apPm : Bool}
    (hhigh : ∀ d ∈ ring .high, d.frame.pm = true)
    (hbits : s.staSleep ≠ .awake ∨ s.lock.decided = true → ∀ q, ∀ d ∈ ring q, d.frame.pm = true)
    (hasleep : s.dozing → apPm = true)
    (hsent : s.staSleep = .nullSent → Announced s ∨ Acknowledged s →
      Announced { s with ring := ring, apPm := apPm } ∨ Acknowledged { s with ring := ring, apPm := apPm })
    (hquiet : s.quiet → State.quiet { s with ring := ring }) :
    Inv { s with ring := ring, apPm := apPm } where
  slept := h.slept
  high := hhigh
  bits := hbits
  asleep := hasleep
  nullSent heq := (h.nullSent heq).imp_right fun hs => hs.imp_right (hsent heq)
  found hfound := (h.found hfound).imp_right hquiet
  announcing := h.announcing
  empty hsends heq := hquiet (h.empty hsends heq)
  ack := h.ack

theorem Inv.push_awake (h : Inv s) (hawake : s.staSleep = .awake) (hlock : s.lock.decided = false)
    {q : Queue} (hq : q ≠ .high) (frame : Frame) (sent : Bool) : Inv (s.push q frame sent) := by
  unfold State.push
  split
  · refine inv_awake h.slept ?_ hawake hlock
    show ∀ d ∈ update s.ring q (s.ring q ++ [⟨frame, true⟩]) .high, d.frame.pm = true
    rw [update_of_ne hq.symm]
    exact h.high
  · exact h

theorem State.quiet.mono {s' : State} (h : s.quiet)
    (hsub : ∀ q, q ≠ .high → s.ring q = [] → s'.ring q = []) : s'.quiet :=
  ⟨fun i => hsub (.ac i) (by simp) (h.1 i), hsub .mgnt (by simp) h.2⟩

theorem Inv.sendPspoll (h : Inv s) (sent : Bool) : Inv (rtllibStaPsSendPspollFrame sent s) := by
  -- A PS-Poll frame has the bit.
  unfold rtllibStaPsSendPspollFrame State.push
  split
  · have hhigh : ∀ d ∈ s.ring .high ++ [⟨.psPoll, true⟩], d.frame.pm = true := by
      intro d hd
      rcases List.mem_append.mp hd with hd | hd
      · exact h.high d hd
      · rw [List.mem_singleton.mp hd]
        rfl
    have hothers (q : Queue) (hq : q ≠ .high) :
        update s.ring .high (s.ring .high ++ [⟨.psPoll, true⟩]) q = s.ring q := update_of_ne hq _ _
    apply h.setRing
    · rw [update_self]
      exact hhigh
    · intro hdoze q d hd
      by_cases hq : q = .high
      · subst hq
        rw [update_self] at hd
        exact hhigh d hd
      · rw [hothers q hq] at hd
        exact h.bits hdoze q d hd
    · exact h.asleep
    · rintro - (hs | hs)
      · obtain ⟨d, hmgnt, hrest⟩ := hs.alone
        exact .inl ⟨hs.ack, fun i => (hothers (.ac i) (by simp)).trans (hs.quiet i),
          ⟨d, (hothers .mgnt (by simp)).trans hmgnt, hrest⟩, hs.unseen⟩
      · exact .inr ⟨hs.pm, hs.quiet.mono fun q hq hnil => (hothers q hq).trans hnil, hs.reporting⟩
    · exact fun hquiet => hquiet.mono fun q hq hnil => (hothers q hq).trans hnil
  · exact h

theorem Inv.setAwake (h : Inv s) (polling : Bool) :
    Inv { s with staSleep := .awake, polling := polling } where
  slept := h.slept
  high := h.high
  bits hd := h.bits (hd.imp_left fun hne => absurd rfl hne)
  asleep hd := h.asleep (hd.imp_left fun heq => by cases heq)
  nullSent heq := by cases heq
  found hfound := ⟨rfl, (h.found hfound).2⟩
  announcing _ heq := by cases heq
  empty _ heq := by cases heq
  ack _ heq := by cases heq

end Parts

/-! ## The steps -/

section Steps

variable {s : State}

/-! ### The holder of the lock -/

theorem inv_wakeup (h : Inv s) (hneutral : s.lock.neutral = true) (nl : Bool) (sleep : Option PsSleep) :
    Inv (rtllibStaWakeup nl sleep s) := by
  have hack : Inv { s with ackTxToIeee := true } := h.congr rfl rfl rfl rfl rfl rfl fun _ => rfl
  have hpoll : Inv { s with ackTxToIeee := true, polling := true } :=
    h.congr rfl rfl rfl rfl rfl rfl fun _ => rfl
  unfold rtllibStaWakeup
  split
  · split
    · split
      · exact hack.setLock hneutral rfl
      · exact hack.setLock hneutral rfl
    · exact h
  · split
    · split
      · exact hack.setLock hneutral rfl
      · exact hpoll.setLock hneutral rfl
    · exact h.setAwake false

theorem quiet_of_empty (hempty : rtl8192IsTxQueueEmpty s.ring = true) : s.quiet := by
  simp only [rtl8192IsTxQueueEmpty, txQueues, List.all_cons, List.all_nil, Bool.and_true,
    Bool.and_eq_true, decide_eq_true_eq] at hempty
  obtain ⟨h0, h1, h2, h3, hmgnt⟩ := hempty
  have hquiet (i : Fin 4) : s.ring (.ac i) = [] :=
    match i with
    | 0 => h0
    | 1 => h1
    | 2 => h2
    | 3 => h3
  exact ⟨hquiet, hmgnt⟩

theorem bits_of_quiet (hhigh : ∀ d ∈ s.ring .high, d.frame.pm = true) (hquiet : s.quiet) (q : Queue) :
    ∀ d ∈ s.ring q, d.frame.pm = true := by
  cases q with
  | ac i => simp [hquiet.1 i]
  | mgnt => simp [hquiet.2]
  | high => exact hhigh

theorem Inv.enter (h : Inv s) (hasleep : s.staSleep = .asleep) : Inv { s with lock := .entering } where
  slept := h.slept
  high := h.high
  bits _ := h.bits (.inl (by simp [hasleep]))
  asleep _ := h.asleep (.inl hasleep)
  nullSent heq := by
    rw [hasleep] at heq
    cases heq
  found heq := by cases heq
  announcing heq := by cases heq
  empty heq := by cases heq
  ack heq := by cases heq

theorem Inv.findEmpty (h : Inv s) (hawake : s.staSleep = .awake) (hquiet : s.quiet) :
    Inv { s with lock := .found } where
  slept := h.slept
  high := h.high
  bits _ := bits_of_quiet h.high hquiet
  asleep := by
    rintro (heq | heq | heq)
    · rw [hawake] at heq
      cases heq
    · cases heq
    · cases heq
  nullSent heq := by
    rw [hawake] at heq
    cases heq
  found _ := ⟨hawake, hquiet⟩
  announcing heq := by cases heq
  empty heq := by cases heq
  ack heq := by cases heq

theorem inv_staPsSleep (h : Inv s) (hneutral : s.lock.neutral = true) {psIsQueueEmpty : Rings → Bool}
    (hempty : ∀ ring, psIsQueueEmpty ring = true → rtl8192IsTxQueueEmpty ring = true)
    (sleep : PsSleep) : Inv (staPsSleep psIsQueueEmpty sleep s) := by
  cases sleep with
  | nothing => exact h
  | wakeUp => exact inv_wakeup h hneutral true none
  | goToSleep =>
    unfold staPsSleep
    simp only
    by_cases hasleep : s.staSleep = .asleep
    · rw [if_pos hasleep]
      exact h.enter hasleep
    rw [if_neg hasleep]
    by_cases hstart : s.staSleep = .awake ∧ psIsQueueEmpty s.ring = true
    · rw [if_pos hstart]
      exact h.findEmpty hstart.1 (quiet_of_empty (hempty _ hstart.2))
    · rw [if_neg hstart]
      exact h

theorem Inv.storeNullSent (h : Inv s) (hfound : s.lock = .found) :
    Inv { s with staSleep := .nullSent, ackTxToIeee := true, lock := .announcing } where
  slept := h.slept
  high := h.high
  bits _ := h.bits (.inr (by simp [hfound, LockPc.decided]))
  asleep := by rintro (heq | heq | heq) <;> cases heq
  nullSent _ := .inl rfl
  found heq := by cases heq
  announcing _ heq := by cases heq
  empty _ _ := (h.found hfound).2
  ack _ _ := .inl rfl

theorem inv_announce (h : Inv s) (hsends : s.lock = .announcing) {sent : Bool}
    (hclean : s.staSleep = .nullSent → sent = true ∧ s.ackReport.passed = false) :
    Inv (rtllibStaPsSendNullFrame true sent { s with lock := .free }) := by
  cases hsleep : s.staSleep with
  | asleep => exact absurd hsleep (h.announcing hsends)
  | awake =>
    have hfree : Inv { s with staSleep := .awake, lock := .free } :=
      inv_awake h.slept h.high rfl rfl
    exact hfree.push_awake rfl rfl (q := .mgnt) (by simp) _ _
  | nullSent =>
    -- The null frame is the only one in its ring, whatever the interrupt is at.
    obtain ⟨rfl, hunseen⟩ := hclean hsleep
    obtain ⟨hquiet, hempty⟩ := h.empty hsends hsleep
    have hack : s.ackTxToIeee = true := by
      refine (h.ack hsends hsleep).resolve_right fun hcleared => ?_
      rw [hcleared] at hunseen
      cases hunseen
    have hmgnt : update s.ring .mgnt (s.ring .mgnt ++ [⟨.null true, true⟩]) .mgnt =
        [⟨.null true, true⟩] := by rw [update_self, hempty, List.nil_append]
    have hothers (q : Queue) (hq : q ≠ .mgnt) :
        update s.ring .mgnt (s.ring .mgnt ++ [⟨.null true, true⟩]) q = s.ring q :=
      update_of_ne hq _ _
    refine inv_nullSent h.slept ?_ rfl rfl ⟨hack, ?_, ⟨_, hmgnt, rfl, ?_⟩, hunseen⟩
    · exact (hothers .high (by simp)).symm ▸ h.high
    · intro i
      exact (hothers (.ac i) (by simp)).trans (hquiet i)
    · intro hown
      cases hown

theorem Inv.storeAsleep (h : Inv s) (hacking : s.lock = .acking) :
    Inv { s with staSleep := .asleep, lock := .entering } where
  slept := h.slept
  high := h.high
  bits _ := h.bits (.inr (by simp [hacking, LockPc.decided]))
  asleep _ := h.asleep (.inr (.inl hacking))
  nullSent heq := by cases heq
  found heq := by cases heq
  announcing heq := by cases heq
  empty heq := by cases heq
  ack heq := by cases heq

theorem Inv.enterSleep (h : Inv s) (hentering : s.lock = .entering) :
    Inv (enterSleepState { s with lock := .free }) where
  slept := by
    -- A station that sleeps has the AP's word for it.
    intro pm hmem
    rcases List.mem_cons.mp hmem with rfl | hmem
    · exact h.asleep (.inr (.inr hentering))
    · exact h.slept pm hmem
  high := h.high
  bits hd := h.bits (hd.imp_right fun hdecided => by cases hdecided)
  asleep _ := h.asleep (.inr (.inr hentering))
  nullSent heq := by
    rcases h.nullSent heq with hlock | hlock | hs | hs
    · rw [hentering] at hlock
      cases hlock
    · rw [hentering] at hlock
      cases hlock
    · exact .inr (.inr (.inl ⟨hs.ack, hs.quiet, hs.alone, hs.unseen⟩))
    · exact .inr (.inr (.inr ⟨hs.pm, hs.quiet, hs.reporting⟩))
  found heq := by cases heq
  announcing heq := by cases heq
  empty heq := by cases heq
  ack heq := by cases heq

theorem inv_wakingUp (h : Inv s) {nullFrame : Bool} {sleep : Option PsSleep}
    (hlock : s.lock = .wakingUp nullFrame sleep) {sent : Bool}
    (hclean : nullFrame = true → sent = true → s.staSleep = .awake) :
    Inv (if nullFrame then
        rtllibStaPsSendNullFrame false sent { s with lock := sleep.elim .free .deciding }
      else rtllibStaPsSendPspollFrame sent { s with lock := sleep.elim .free .deciding }) := by
  have hneutral : (sleep.elim LockPc.free .deciding).neutral = true := by cases sleep <;> rfl
  have hnext : Inv { s with lock := sleep.elim .free .deciding } :=
    h.setLock (by rw [hlock]; rfl) hneutral
  split
  next hnull =>
    cases sent with
    | false => exact hnext
    | true => exact hnext.push_awake (hclean hnull rfl) (LockPc.not_decided hneutral) (by simp) _ _
  next => exact hnext.sendPspoll sent

theorem inv_goOn (h : Inv s) {psIsQueueEmpty : Rings → Bool}
    (hempty : ∀ ring, psIsQueueEmpty ring = true → rtl8192IsTxQueueEmpty ring = true) {sent : Bool}
    (hclean : Clean s (.goOn sent)) : Inv (goOn psIsQueueEmpty sent s) := by
  unfold goOn
  unfold Clean at hclean
  cases hlock : s.lock with
  | free => exact h
  | deciding sleep =>
    have hfree : Inv { s with lock := .free } := h.setLock (by rw [hlock]; rfl) rfl
    exact inv_staPsSleep hfree rfl hempty sleep
  | found => exact h.storeNullSent hlock
  | announcing =>
    rw [hlock] at hclean
    exact inv_announce h hlock hclean
  | wakingUp nullFrame sleep =>
    rw [hlock] at hclean
    exact inv_wakingUp h hlock hclean
  | acking => exact h.storeAsleep hlock
  | entering => exact h.enterSleep hlock

theorem inv_staPs (h : Inv s) (hfree : s.lock = .free) (sleep : PsSleep) :
    Inv (rtllibStaPs sleep s) := by
  have hneutral : s.lock.neutral = true := by rw [hfree]; rfl
  unfold rtllibStaPs
  split
  · exact inv_wakeup h hneutral true (some sleep)
  · exact h.setLock hneutral rfl

theorem Inv.acknowledge (h : Inv s) (hsent : s.staSleep = .nullSent) (hpm : s.apPm = true)
    (ackReport : AckReport) : Inv { s with ackReport := ackReport, lock := .acking } where
  slept := h.slept
  high := h.high
  bits _ := h.bits (.inl (by simp [hsent]))
  asleep _ := hpm
  nullSent _ := .inr (.inl rfl)
  found heq := by cases heq
  announcing heq := by cases heq
  empty heq := by cases heq
  ack heq := by cases heq

theorem inv_psTxAck (h : Inv s) (hfree : s.lock = .free) {success sent : Bool}
    (hclean : success = true → s.staSleep = .nullSent → s.apPm = true) :
    Inv (rtllibPsTxAck success sent s) := by
  unfold rtllibPsTxAck
  by_cases hsent : s.staSleep = .nullSent
  · rw [if_pos hsent]
    split
    next hsuccess => exact h.acknowledge hsent (hclean hsuccess hsent) s.ackReport
    next => exact h
  rw [if_neg hsent]
  split
  next hfailed =>
    split
    · exact h.push_awake hfailed.1 (by rw [hfree]; rfl) (by simp) _ _
    · exact h.sendPspoll sent
  next => exact h

/-! ### The others -/

theorem inv_mgntActSet (h : Inv s) (rtPsMode : BitVec 16) :
    Inv (mgntActSet80211PowerSaveMode rtPsMode s) := by
  unfold mgntActSet80211PowerSaveMode
  split
  · exact h
  have hps : Inv (if s.cfg.psForce = true then s else { s with ps := rtPsMode }) := by
    split
    · exact h
    · exact h.congr rfl rfl rfl rfl rfl rfl id
  simp only
  generalize (if s.cfg.psForce = true then s else { s with ps := rtPsMode }) = s' at hps ⊢
  split
  · exact hps.congr rfl rfl rfl rfl rfl rfl id
  · exact hps

theorem inv_awakeImmediately (h : Inv s) : Inv (awakeImmediately s) :=
  (h.setAwake s.polling).congr rfl rfl rfl rfl rfl rfl id

theorem inv_leave (h : Inv s) : Inv (leisurePSLeave s) := by
  unfold leisurePSLeave
  split
  · exact inv_mgntActSet h psDisabled
  · exact h

theorem inv_xmitFragment (h : Inv s) (hawake : s.staSleep = .awake) (hfree : s.lock = .free)
    (ac : Fin 4) (enough sent : Bool) : Inv (xmitFragment ac enough sent s) ∧
      (xmitFragment ac enough sent s).staSleep = .awake ∧
      (xmitFragment ac enough sent s).lock = .free := by
  unfold xmitFragment
  split
  · split
    · exact ⟨h.congr rfl rfl rfl rfl rfl rfl id, hawake, hfree⟩
    · exact ⟨h, hawake, hfree⟩
  · refine ⟨h.push_awake hawake (by rw [hfree]; rfl) (by simp) _ _, ?_⟩
    unfold State.push
    split <;> exact ⟨hawake, hfree⟩

theorem awake_of_data (s : State) : (rtllibStaWakeup false none s).staSleep = .awake := by
  unfold rtllibStaWakeup
  split
  next hawake => simpa using hawake
  next => simp

theorem lock_of_data (s : State) : (rtllibStaWakeup false none s).lock = s.lock := by
  unfold rtllibStaWakeup
  split <;> simp

theorem inv_softmacXmit (h : Inv s) (hfree : s.lock = .free) (ac : Fin 4)
    (frags : List (Bool × Bool)) : Inv (rtllibSoftmacXmit ac frags s) := by
  unfold rtllibSoftmacXmit
  have hwake : Inv (rtllibStaWakeup false none s) := inv_wakeup h (by rw [hfree]; rfl) false none
  have hawake := awake_of_data s
  have hstill := (lock_of_data s).trans hfree
  generalize rtllibStaWakeup false none s = s' at hwake hawake hstill
  induction frags generalizing s' with
  | nil => exact hwake
  | cons f frags ih =>
    obtain ⟨hinv, hawake', hstill'⟩ := inv_xmitFragment hwake hawake hstill ac f.1 f.2
    exact ih _ hinv hawake' hstill'

theorem inv_sendPending (h : Inv s) {i : Nat} {sent : Bool} (hclean : Clean s (.sendPending i sent)) :
    Inv (sendPending i sent s) := by
  unfold sendPending
  split
  · exact h
  next frame hframe =>
    have hi : i < s.pending.length := (List.getElem?_eq_some_iff.mp hframe).1
    have hrest : Inv { s with pending := s.pending.eraseIdx i } :=
      h.congr rfl rfl rfl rfl rfl rfl id
    cases sent with
    | false => exact hrest
    | true =>
      obtain ⟨hawake, hlock⟩ := hclean hi rfl
      exact hrest.push_awake hawake hlock (by simp) _ _

theorem inv_txResume (h : Inv s) {ac : Fin 4} {sent : Bool} (hclean : Clean s (.txResume ac sent)) :
    Inv (rtl8192TxResume ac sent s) := by
  unfold rtl8192TxResume
  split
  · exact h
  next hwaits =>
    have hrest : Inv { s with waitQ := update s.waitQ ac (s.waitQ ac - 1) } :=
      h.congr rfl rfl rfl rfl rfl rfl id
    cases sent with
    | false => exact hrest
    | true =>
      obtain ⟨hawake, hlock⟩ := hclean hwaits rfl
      exact hrest.push_awake hawake hlock (by simp) _ _

theorem inv_rx (h : Inv s) (moreData sent : Bool) : Inv (rxPoll moreData sent s) := by
  unfold rxPoll
  split
  · split
    · exact h.sendPspoll sent
    · exact h.congr rfl rfl rfl rfl rfl rfl id
  · exact h

/-! ### The hardware -/

theorem finish_bits {ds ds' : List Desc} {frame : Frame} (h : finish ds = some (frame, ds'))
    (hbits : ∀ d ∈ ds, d.frame.pm = true) :
    frame.pm = true ∧ ∀ d ∈ ds', d.frame.pm = true := by
  induction ds generalizing frame ds' with
  | nil => cases h
  | cons d ds ih =>
    obtain ⟨hd, hds⟩ := List.forall_mem_cons.mp hbits
    unfold finish at h
    split at h
    · cases h
      exact ⟨hd, List.forall_mem_cons.mpr ⟨hd, hds⟩⟩
    · obtain ⟨⟨frame', ds''⟩, hfinish, heq⟩ := Option.map_eq_some_iff.mp h
      cases heq
      obtain ⟨hframe, hrest⟩ := ih hfinish hds
      exact ⟨hframe, List.forall_mem_cons.mpr ⟨hd, hrest⟩⟩

theorem Announced.complete (hs : Announced s) {q : Queue} {acked : Bool} {frame : Frame}
    {ds : List Desc} (hfinish : finish (s.ring q) = some (frame, ds)) (hbit : frame.pm = true)
    (hacked : q = .mgnt → acked = true) :
    Announced { s with
      ring := update s.ring q ds
      apPm := if acked then frame.pm else s.apPm } := by
  -- The AP gets the null frame, or another one with the bit.
  obtain ⟨d, hmgnt, hframe, hown⟩ := hs.alone
  have hothers (q' : Queue) (hq' : q' ≠ q) : update s.ring q ds q' = s.ring q' :=
    update_of_ne hq' _ _
  cases q with
  | ac i =>
    rw [hs.quiet i] at hfinish
    cases hfinish
  | high =>
    refine ⟨hs.ack, fun i => (hothers (.ac i) (by simp)).trans (hs.quiet i),
      ⟨d, (hothers .mgnt (by simp)).trans hmgnt, hframe, fun hdone => ?_⟩, hs.unseen⟩
    split
    · exact hbit
    · exact hown hdone
  | mgnt =>
    rw [hmgnt] at hfinish
    unfold finish at hfinish
    split at hfinish
    · cases hfinish
      have hdone : update s.ring .mgnt [{ d with own := false }] .mgnt = [{ d with own := false }] :=
        update_self ..
      refine ⟨hs.ack, fun i => (hothers (.ac i) (by simp)).trans (hs.quiet i),
        ⟨{ d with own := false }, hdone, hframe, fun _ => ?_⟩, hs.unseen⟩
      rw [hacked rfl]
      exact hbit
    · cases hfinish

theorem bits_of_dozing (h : s.dozing) : s.staSleep ≠ .awake ∨ s.lock.decided = true := by
  rcases h with h | h | h
  · exact .inl (by simp [h])
  · exact .inr (by simp [h, LockPc.decided])
  · exact .inr (by simp [h, LockPc.decided])

theorem inv_complete (h : Inv s) {q : Queue} {acked : Bool} (hclean : Clean s (.complete q acked)) :
    Inv (s.complete q acked) := by
  unfold State.complete
  split
  · exact h
  next frame ds hfinish =>
    have hring (hb : ∀ d ∈ s.ring q, d.frame.pm = true) (q' : Queue)
        (hq' : ∀ d ∈ s.ring q', d.frame.pm = true) : ∀ d ∈ update s.ring q ds q', d.frame.pm = true := by
      by_cases hq : q' = q
      · subst hq
        rw [update_self]
        exact (finish_bits hfinish hb).2
      · rw [update_of_ne hq]
        exact hq'
    have hnil (q' : Queue) (hq' : s.ring q' = []) : update s.ring q ds q' = [] := by
      have hne : q' ≠ q := by
        rintro rfl
        rw [hq'] at hfinish
        cases hfinish
      rw [update_of_ne hne]
      exact hq'
    have hbit (hd : s.staSleep ≠ .awake ∨ s.lock.decided = true) : frame.pm = true :=
      (finish_bits hfinish (h.bits hd q)).1
    apply h.setRing
    · by_cases hq : q = .high
      · subst hq
        exact hring h.high _ h.high
      · rw [update_of_ne (Ne.symm hq)]
        exact h.high
    · intro hd q'
      exact hring (h.bits hd q) q' (h.bits hd q')
    · intro hdoze
      split
      · exact hbit (bits_of_dozing hdoze)
      · exact h.asleep hdoze
    · intro heq
      have hne : s.staSleep ≠ .awake := by simp [heq]
      rintro (hs | hs)
      · exact .inl (hs.complete hfinish (hbit (.inl hne)) fun hq => hclean hq heq)
      · refine .inr ⟨?_, hs.quiet.mono fun q' _ => hnil q', hs.reporting⟩
        split
        · exact hbit (.inl hne)
        · exact hs.pm
    · exact fun hquiet => hquiet.mono fun q' _ => hnil q'

theorem mem_txIsr {q q' : Queue} {d : Desc} (hd : d ∈ (rtl8192TxIsr q s).ring q') :
    d ∈ s.ring q' := by
  change d ∈ update s.ring q ((s.ring q).dropWhile fun d => !d.own) q' at hd
  by_cases hq : q' = q
  · subst hq
    rw [update_self] at hd
    exact (List.dropWhile_sublist _).subset hd
  · rwa [update_of_ne hq] at hd

theorem txIsr_of_nil {q q' : Queue} (h : s.ring q' = []) : (rtl8192TxIsr q s).ring q' = [] := by
  apply List.eq_nil_iff_forall_not_mem.mpr
  intro d hd
  have hmem := mem_txIsr hd
  rw [h] at hmem
  cases hmem

/-- The interrupt takes nothing from an empty ring, and nothing unacknowledged from the others. -/
theorem inv_txIsr (h : Inv s) (hidle : s.ackReport = .idle) (q : Queue)
    (hsent : s.staSleep = .nullSent → Announced s → (rtl8192TxIsr q s).ring .mgnt = s.ring .mgnt) :
    Inv (rtl8192TxIsr q s) := by
  apply h.setRing
  · exact fun d hd => h.high d (mem_txIsr hd)
  · exact fun hdoze q' d hd => h.bits hdoze q' d (mem_txIsr hd)
  · exact h.asleep
  · rintro heq (hs | hs)
    · obtain ⟨d, hmgnt, hrest⟩ := hs.alone
      exact .inl ⟨hs.ack, fun i => txIsr_of_nil (hs.quiet i), ⟨d, (hsent heq hs).trans hmgnt, hrest⟩,
        hs.unseen⟩
    · exact absurd hs.reporting (by simp [hidle])
  · exact fun hquiet => hquiet.mono fun q' _ hnil => txIsr_of_nil hnil

theorem Announced.reap (hs : Announced s) : Announced { s with ackReport := .reaped } :=
  ⟨hs.ack, hs.quiet, hs.alone, rfl⟩

theorem Inv.reap (h : Inv s) (hidle : s.ackReport = .idle) :
    Inv { s with ackReport := .reaped } := by
  apply h.setReport
  · rintro (hs | hs)
    · exact .inl hs.reap
    · exact absurd hs.reporting (by simp [hidle])
  · exact fun hack => .inl (hack.resolve_right (by simp [hidle]))

theorem inv_interrupt_done (h : Inv s) (heq : s.staSleep = .nullSent) (hs : Announced s) {d : Desc}
    (hmgnt : s.ring .mgnt = [d]) (hown : d.own = false) : Inv (rtl8192Interrupt .mgnt s) := by
  -- The interrupt takes the null frame, which the AP has acknowledged.
  have hpm : s.apPm = true := by
    obtain ⟨d', hmgnt', -, hdone⟩ := hs.alone
    rw [hmgnt] at hmgnt'
    cases hmgnt'
    exact hdone hown
  have hreaped : (rtl8192TxIsr .mgnt s).ring .mgnt = [] := by
    change update s.ring .mgnt ((s.ring .mgnt).dropWhile fun d => !d.own) .mgnt = []
    rw [update_self, hmgnt]
    simp [hown]
  have hquiet (i : Fin 4) : (rtl8192TxIsr .mgnt s).ring (.ac i) = [] := txIsr_of_nil (hs.quiet i)
  have hacked : Acknowledged { rtl8192TxIsr .mgnt s with ackReport := .reaped } :=
    ⟨hpm, ⟨hquiet, hreaped⟩, .inr ⟨hs.ack, by simp⟩⟩
  have hinterrupt : rtl8192Interrupt .mgnt s = { rtl8192TxIsr .mgnt s with ackReport := .reaped } := by
    simp [rtl8192Interrupt]
  rw [hinterrupt]
  exact {
    slept := h.slept
    high := fun d hd => h.high d (mem_txIsr (q := .mgnt) hd)
    bits := fun hdoze q d hd => h.bits hdoze q d (mem_txIsr (q := .mgnt) hd)
    asleep := h.asleep
    nullSent := fun _ => .inr (.inr (.inr hacked))
    found := fun hfound => by
      have hawake := (h.found hfound).1
      rw [heq] at hawake
      cases hawake
    announcing := h.announcing
    empty := fun _ _ => ⟨hquiet, hreaped⟩
    ack := fun _ _ => .inl hs.ack }

theorem inv_interrupt (h : Inv s) (hidle : s.ackReport = .idle) (q : Queue) :
    Inv (rtl8192Interrupt q s) := by
  by_cases hdone : s.staSleep = .nullSent ∧ Announced s ∧
      (rtl8192TxIsr q s).ring .mgnt ≠ s.ring .mgnt
  · obtain ⟨heq, hs, hchanged⟩ := hdone
    obtain ⟨d, hmgnt, -, -⟩ := hs.alone
    change update s.ring q ((s.ring q).dropWhile fun d => !d.own) .mgnt ≠ s.ring .mgnt at hchanged
    by_cases hq : Queue.mgnt = q
    · subst hq
      have hown : d.own = false := by
        by_contra hown
        rw [update_self, hmgnt] at hchanged
        exact hchanged (by simp [hown])
      exact inv_interrupt_done h heq hs hmgnt hown
    · exact absurd (update_of_ne hq _ _) hchanged
  have hisr : Inv (rtl8192TxIsr q s) :=
    inv_txIsr h hidle q fun heq hs => not_not.mp fun hne => hdone ⟨heq, hs, hne⟩
  unfold rtl8192Interrupt
  simp only
  split
  · exact hisr.reap hidle
  · exact hisr

theorem Announced.look (hs : Announced s) {i : Nat} (hreport : s.ackReport = .looking i) {q : Queue}
    (hq : txQueues[i]? = some q) :
    Announced { s with ackReport := if s.ring q = [] then .looking (i + 1) else .idle } := by
  -- The scan stops at the null frame.
  refine ⟨hs.ack, hs.quiet, hs.alone, ?_⟩
  obtain ⟨d, hmgnt, -⟩ := hs.alone
  have hi : i < txQueues.length := (List.getElem?_eq_some_iff.mp hq).1
  split
  next hnil =>
    have hlast : i ≠ 4 := by
      rintro rfl
      cases hq
      rw [hmgnt] at hnil
      cases hnil
    have hlength : txQueues.length = 5 := rfl
    simp only [AckReport.passed, decide_eq_false_iff_not]
    omega
  next => rfl

theorem Inv.ended (h : Inv s) (hfree : s.lock = .free)
    (hsent : s.staSleep ≠ .nullSent) : Inv { s with ackReport := .idle } where
  slept := h.slept
  high := h.high
  bits := h.bits
  asleep := h.asleep
  nullSent heq := absurd heq hsent
  found := h.found
  announcing := h.announcing
  empty := h.empty
  ack hsends := by
    rw [hfree] at hsends
    cases hsends

/-- While the interrupt reads and clears, a null frame in its ring stays announced, and one that is
gone stays acknowledged. -/
theorem inv_interruptAck (h : Inv s) (hlock : s.ackReport = .cleared → s.lock = .free) :
    Inv (interruptAck s) := by
  unfold interruptAck
  split
  next => exact h
  next hreport =>
    apply h.setReport
    · rintro (hs | hs)
      · exact .inl ⟨hs.ack, hs.quiet, hs.alone, by simp [hs.ack, AckReport.passed, txQueues]⟩
      · have hack : s.ackTxToIeee = true := by simpa [hreport] using hs.reporting
        exact .inr ⟨hs.pm, hs.quiet, .inr ⟨hack, by simp [hack]⟩⟩
    · exact fun hack => .inl (hack.resolve_right (by simp [hreport]))
  next i hreport =>
    have hstill (hack : s.ackTxToIeee = true ∨ s.ackReport = .cleared) : s.ackTxToIeee = true :=
      hack.resolve_right (by simp [hreport])
    split
    next hq =>
      apply h.setReport
      · rintro (hs | hs)
        · have hi : txQueues.length ≤ i := List.getElem?_eq_none_iff.mp hq
          have hunseen := hs.unseen
          rw [hreport] at hunseen
          exact absurd hi (by simpa [AckReport.passed] using hunseen)
        · exact .inr ⟨hs.pm, hs.quiet, .inr ⟨by simpa [hreport] using hs.reporting, by simp⟩⟩
      · exact fun hack => .inl (hstill hack)
    next q hq =>
      apply h.setReport
      · rintro (hs | hs)
        · exact .inl (hs.look hreport hq)
        · have hack : s.ackTxToIeee = true := by simpa [hreport] using hs.reporting
          exact .inr ⟨hs.pm, hs.quiet, .inr ⟨hack, by simp [ring_of_quiet hs.quiet hq]⟩⟩
      · exact fun hack => .inl (hstill hack)
  next hreport =>
    apply h.setReport
    · rintro (hs | hs)
      · have hunseen := hs.unseen
        rw [hreport] at hunseen
        cases hunseen
      · exact .inr ⟨hs.pm, hs.quiet, .inl rfl⟩
    · exact fun _ => .inr rfl
  next hreport =>
    have hfree := hlock hreport
    by_cases heq : s.staSleep = .nullSent
    · have hpm : s.apPm = true := by
        rcases h.nullSent heq with hsends | hacking | hs | hs
        · rw [hfree] at hsends
          cases hsends
        · exact h.asleep (.inr (.inl hacking))
        · have hunseen := hs.unseen
          rw [hreport] at hunseen
          cases hunseen
        · exact hs.pm
      have hacked : rtllibPsTxAck true false { s with ackReport := .idle } =
          { s with ackReport := .idle, lock := .acking } := (if_pos heq).trans (if_pos rfl)
      rw [hacked]
      exact h.acknowledge heq hpm .idle
    · exact inv_psTxAck (h.ended hfree heq) hfree fun _ hsent => absurd hsent heq

end Steps

/-! ## Runs -/

variable {psIsQueueEmpty : Rings → Bool}

theorem inv_perform (hempty : ∀ ring, psIsQueueEmpty ring = true → rtl8192IsTxQueueEmpty ring = true)
    {s : State} {e : Event} (h : Inv s) (hclean : Clean s e) (hfree : s.blocks e = false) :
    Inv (perform psIsQueueEmpty s e) := by
  -- An event that is not blocked and needs the lock finds it free.
  cases e with
  | configure cfg => exact h.congr rfl rfl rfl rfl rfl rfl id
  | staPs sleep => exact inv_staPs h (by simpa [State.blocks] using hfree) sleep
  | staWakeup nl =>
    have hlock : s.lock = .free := by simpa [State.blocks] using hfree
    exact inv_wakeup h (by rw [hlock]; rfl) nl none
  | goOn sent => exact inv_goOn h hempty hclean
  | psTxAck success sent =>
    exact inv_psTxAck h (by simpa [State.blocks] using hfree)
      fun hsuccess heq => absurd heq (hclean hsuccess)
  | softmacXmit ac frags => exact inv_softmacXmit h (by simpa [State.blocks] using hfree) ac frags
  | mgmtXmit =>
    have hlock : s.lock = .free := by simpa [State.blocks] using hfree
    have hwake : Inv (rtllibStaWakeup false none s) := inv_wakeup h (by rw [hlock]; rfl) false none
    exact hwake.congr rfl rfl rfl rfl rfl rfl id
  | sendPending i sent => exact inv_sendPending h hclean
  | txResume ac sent => exact inv_txResume h hclean
  | rx moreData sent => exact inv_rx h moreData sent
  | setPowerSaveMode rtPsMode => exact inv_mgntActSet h rtPsMode
  | awakeImmediately => exact inv_awakeImmediately h
  | leisurePSLeave => exact inv_leave h
  | complete q acked => exact inv_complete h hclean
  | interrupt q => exact inv_interrupt h (by simpa [State.blocks] using hfree) q
  | interruptAck => exact inv_interruptAck h fun hreport => by simpa [State.blocks, hreport] using hfree

theorem inv_step (hempty : ∀ ring, psIsQueueEmpty ring = true → rtl8192IsTxQueueEmpty ring = true)
    (s : State) (e : Event) (h : Inv s) (hclean : Clean s e) : Inv (step psIsQueueEmpty s e) := by
  unfold step
  split
  next => exact h
  next hfree => exact inv_perform hempty h hclean (by simpa using hfree)

/-- In a run without lost null frames, and without frames that come between, the station sleeps and
waits as announced. -/
theorem handshake_of_clean (psIsQueueEmpty : Rings → Bool)
    (hempty : ∀ ring, psIsQueueEmpty ring = true → rtl8192IsTxQueueEmpty ring = true) (cfg : Config)
    (es : List Event) (hclean : Meets (step psIsQueueEmpty) Clean (State.init cfg) es) :
    ∀ fs, fs <+: es → Handshake (exec (step psIsQueueEmpty) (State.init cfg) fs) := by
  intro fs hfs
  exact (exec_inv_before (inv_step hempty) (inv_init cfg) hclean fs hfs).handshake

def linked : Config := ⟨.infra, .linked, false, true, false⟩

/-- The management interrupt, and its report, which looks at five rings -/
def mgntInterrupt : List Event := .interrupt .mgnt :: List.replicate 9 .interruptAck

/-- `rtllib_sta_ps` finds the queues empty, sets `sta_sleep` and sends the null frame. -/
def goToSleep : List Event := .staPs .goToSleep :: List.replicate 3 (.goOn true)

/-- The station sleeps, polls for a frame, sleeps again, and is woken up by data. -/
def quietNight : List Event :=
  .setPowerSaveMode 3 :: goToSleep ++ .complete .mgnt true :: mgntInterrupt ++
    [.goOn true, .goOn true, .staPs .wakeUp, .goOn true, .goOn true, .complete .high true,
      .interrupt .high, .staPs .goToSleep, .goOn true, .goOn true,
      .softmacXmit 1 [(true, true)], .complete (.ac 1) true, .interrupt (.ac 1)]

instance (s : State) (e : Event) : Decidable (Clean s e) := by
  unfold Clean
  cases e
  case goOn sent => cases s.lock <;> infer_instance
  all_goals infer_instance

theorem handshake_of_clean_quietNight :
    Handshake (exec (step rtl8192IsTxQueueEmpty) (State.init linked) quietNight) :=
  handshake_of_clean rtl8192IsTxQueueEmpty (fun _ h => h) linked quietNight (by decide) quietNight
    (List.prefix_refl _)

/-- The null frame is lost, and the interrupt reports a success. -/
theorem not_always_handshake :
    ¬ ∀ (cfg : Config) (es : List Event),
      Handshake (exec (step rtl8192IsTxQueueEmpty) (State.init cfg) es) := by
  intro h
  have hslept := (h linked (.setPowerSaveMode 3 :: goToSleep ++ .complete .mgnt false :: mgntInterrupt ++
    [.goOn true, .goOn true])).slept false (by decide)
  cases hslept

end Rtl8190.PowerSave
