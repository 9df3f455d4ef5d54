import Rtl8190.Lib.Run
import Rtl8190.RxRing.Code

/-!
# Buffers of the RX ring

A descriptor that belongs to the hardware needs a buffer that the ring alone holds, and the address
of that buffer. `rtl8192_rx` gives the old buffer away before it has a new one, and
`rtl8192_alloc_rx_desc_ring` calls a ring complete that is not.
-/

open Rtl8190.Memory Rtl8190.Run Function

namespace Rtl8190.RxRing

variable (cfg : Config)

/-! ## The property -/

/-- Every descriptor of the hardware has a live buffer, which only this slot of the ring refers to,
and the address of its mapping. The last descriptor ends the ring. -/
def Owned (s : State) : Prop :=
  s.rxRing = true →
    (∀ i < cfg.rxringcount, (s.desc i).own = true → ∃ p, s.rxBuf i = some p ∧
      (s.skb p).holder = .ring ∧ (s.skb p).mapping = some (s.desc i).bufferAddress ∧
      ∀ j < cfg.rxringcount, s.rxBuf j = some p → j = i) ∧
    (s.desc (cfg.rxringcount - 1)).eor = true

def handsOver (s : State) (t : Turn) : Prop :=
  ¬ (s.oops = true ∨ ¬ s.rxRing = true ∨ (s.desc s.rxIdx).own = true) ∧ (s.received t).desc.bad = false

instance (s : State) (t : Turn) : Decidable (handsOver s t) := inferInstanceAs (Decidable (_ ∧ _))

/-- No allocation of a buffer fails. -/
def AllocOk (s : State) : Event → Prop
  | .alloc ring alloc => ¬ (s.oops = true ∨ s.rxRing = true) → ring = true →
      ∀ i < cfg.rxringcount, (alloc i).isSome = true
  | .turn t => handsOver s t → t.newSkb.isSome = true
  | _ => True

/-! ## Slots -/

structure Slot (s : State) (i p : Nat) : Prop where
  rxBuf : s.rxBuf i = some p
  old : p < s.nextSkb
  skb : s.skb p = ⟨.ring, some (s.desc i).bufferAddress, (s.desc i).bufferAddress⟩

/-- The first `k` slots have buffers of their own, but for slot `i`. -/
structure FilledBut (s : State) (k i : Nat) : Prop where
  slot : ∀ j < k, j ≠ i → ∃ p, Slot s j p
  distinct : ∀ j < k, ∀ l < k, j ≠ i → l ≠ i → s.rxBuf j = s.rxBuf l → j = l

structure Filled (s : State) (k : Nat) : Prop where
  slot : ∀ j < k, ∃ p, Slot s j p
  distinct : ∀ j < k, ∀ l < k, s.rxBuf j = s.rxBuf l → j = l

variable {s s' : State} {k i p : Nat}

theorem Filled.but (h : Filled s k) : FilledBut s k i :=
  ⟨fun j hj _ => h.slot j hj, fun j hj l hl _ _ => h.distinct j hj l hl⟩

theorem Filled.same (h : Filled s k) (hbuf : s'.rxBuf = s.rxBuf) (hskb : s'.skb = s.skb)
    (hnext : s'.nextSkb = s.nextSkb)
    (hdesc : ∀ j, (s'.desc j).bufferAddress = (s.desc j).bufferAddress) : Filled s' k where
  slot := by
  -- The descriptors keep their addresses.
    intro j hj
    obtain ⟨p, hp⟩ := h.slot j hj
    refine ⟨p, ?_, ?_, ?_⟩
    · rw [hbuf]
      exact hp.rxBuf
    · rw [hnext]
      exact hp.old
    · rw [hskb, hdesc]
      exact hp.skb
  distinct := by
    rw [hbuf]
    exact h.distinct

theorem FilledBut.fill (h : FilledBut s k i) (hbuf : ∀ j, j ≠ i → s'.rxBuf j = s.rxBuf j)
    (hskb : ∀ j < k, j ≠ i → ∀ q, s.rxBuf j = some q → s'.skb q = s.skb q)
    (hdesc : ∀ j, j ≠ i → (s'.desc j).bufferAddress = (s.desc j).bufferAddress)
    (hnext : s.nextSkb ≤ s'.nextSkb) (hp : Slot s' i p)
    (hnew : ∀ j < k, j ≠ i → s.rxBuf j ≠ some p) : Filled s' k where
  slot := by
  -- What one slot has is changed, and then that slot is filled.
    intro j hj
    by_cases hji : j = i
    · exact ⟨p, hji ▸ hp⟩
    · obtain ⟨q, hq⟩ := h.slot j hj hji
      refine ⟨q, ?_, Nat.lt_of_lt_of_le hq.old hnext, ?_⟩
      · rw [hbuf j hji]
        exact hq.rxBuf
      · rw [hskb j hj hji q hq.rxBuf, hdesc j hji]
        exact hq.skb
  distinct := by
    intro j hj l hl heq
    by_cases hji : j = i
    · by_cases hli : l = i
      · exact hji.trans hli.symm
      · rw [hji, hp.rxBuf, hbuf l hli] at heq
        exact absurd heq.symm (hnew l hl hli)
    · by_cases hli : l = i
      · rw [hli, hp.rxBuf, hbuf j hji] at heq
        exact absurd heq (hnew j hj hji)
      · rw [hbuf j hji, hbuf l hli] at heq
        exact h.distinct j hj l hl hji hli heq

/-! ## The invariant -/

/-- The ring is as a complete allocation leaves it. -/
structure Inv (s : State) : Prop where
  oops : s.oops = false
  filled : s.rxRing = true → Filled s cfg.rxringcount
  eor : s.rxRing = true → (s.desc (cfg.rxringcount - 1)).eor = true
  rxIdx : s.rxRing = true → s.rxIdx < cfg.rxringcount

variable {cfg}

theorem Inv.owned (h : Inv cfg s) : Owned cfg s := by
  intro hring
  refine ⟨fun i hi _ => ?_, h.eor hring⟩
  obtain ⟨p, hp⟩ := (h.filled hring).slot i hi
  refine ⟨p, hp.rxBuf, ?_, ?_, fun j hj hjp => ?_⟩
  · rw [hp.skb]
  · rw [hp.skb]
  · exact (h.filled hring).distinct j hj i hi (hjp.trans hp.rxBuf.symm)

/-! ## Allocation -/

variable {alloc : Nat → Option (BitVec 32)} {left : Nat}

theorem allocLoop_filled (cfg : Config) (h : Filled s i)
    (halloc : ∀ j, i ≤ j → j < i + left → (alloc j).isSome = true) :
    (allocLoop cfg alloc left i s).1 = true ∧ Filled (allocLoop cfg alloc left i s).2 (i + left) := by
  -- The buffers for the slots from `i` on can be allocated.
  induction left generalizing i s with
  | zero => exact ⟨rfl, h⟩
  | succ left ih =>
    unfold allocLoop
    obtain ⟨addr, haddr⟩ := Option.isSome_iff_exists.mp (halloc i le_rfl (by omega))
    rw [haddr]
    simp only
    rw [show i + (left + 1) = i + 1 + left by omega]
    refine ih ?_ fun j hj hj' => halloc j (by omega) (by omega)
    have hbut : FilledBut s (i + 1) i :=
      ⟨fun j hj hji => h.slot j (by omega), fun j hj l hl hji hli => h.distinct j (by omega) l (by omega)⟩
    refine hbut.fill ?_ ?_ ?_ ?_ (p := s.nextSkb) ?_ ?_
    · intro j hji
      exact update_of_ne hji _ _
    · intro j hj hji q hq
      obtain ⟨p, hp⟩ := hbut.slot j hj hji
      have hqp : q = p := Option.some.inj (hq.symm.trans hp.rxBuf)
      have hold := hp.old
      exact update_of_ne (by omega) _ _
    · intro j hji
      simp only [State.putSkb, update_of_ne hji]
    · exact Nat.le_succ _
    · exact ⟨update_self _ _ _, Nat.lt_succ_self _, by simp [State.putSkb]⟩
    · intro j hj hji hq
      obtain ⟨p, hp⟩ := hbut.slot j hj hji
      have hqp : s.nextSkb = p := Option.some.inj (hq.symm.trans hp.rxBuf)
      have hold := hp.old
      omega

theorem allocLoop_fails (cfg : Config) (h : ∃ j, i ≤ j ∧ j < i + left ∧ alloc j = none) :
    (allocLoop cfg alloc left i s).1 = false := by
  -- One of the buffers cannot be allocated.
  induction left generalizing i s with
  | zero => omega
  | succ left ih =>
    obtain ⟨j, hij, hj, hnone⟩ := h
    unfold allocLoop
    split
    · rfl
    · rename_i addr haddr
      refine ih ⟨j, ?_, by omega, hnone⟩
      have hne : i ≠ j := by
        rintro rfl
        rw [hnone] at haddr
        cases haddr
      omega

theorem allocLoop_keeps :
    (allocLoop cfg alloc left i s).2.rxRing = s.rxRing ∧
      (allocLoop cfg alloc left i s).2.oops = s.oops ∧
      (allocLoop cfg alloc left i s).2.rxIdx = s.rxIdx ∧
      ∀ j, ((allocLoop cfg alloc left i s).2.desc j).eor = (s.desc j).eor := by
  induction left generalizing i s with
  | zero => exact ⟨rfl, rfl, rfl, fun _ => rfl⟩
  | succ left ih =>
    unfold allocLoop
    split
    · exact ⟨rfl, rfl, rfl, fun _ => rfl⟩
    · refine ⟨ih.1, ih.2.1, ih.2.2.1, fun j => (ih.2.2.2 j).trans ?_⟩
      simp only [update_apply]
      split
      · rename_i hji
        rw [hji]
        rfl
      · rfl

theorem Inv.allocRing (hoops : s.oops = false)
    (halloc : ∀ i < cfg.rxringcount, (alloc i).isSome = true) :
    Inv cfg (rtl8192AllocRxDescRing cfg true alloc s) := by
  have hempty : Filled { s with
      rxRing := true, desc := fun _ => ⟨0, false, false, 0, 0, false, false, false, 0⟩, rxIdx := 0 } 0 :=
    ⟨fun j hj => absurd hj (Nat.not_lt_zero j), fun j hj => absurd hj (Nat.not_lt_zero j)⟩
  obtain ⟨hend, hfilled⟩ := allocLoop_filled cfg hempty fun j _ hj =>
    halloc j (by rwa [Nat.zero_add] at hj)
  rw [Nat.zero_add] at hfilled
  unfold rtl8192AllocRxDescRing
  simp only [if_true, hend]
  refine ⟨allocLoop_keeps.2.1.trans hoops, fun _ => hfilled.same rfl rfl rfl fun j => ?_, fun _ => ?_,
    fun _ => ?_⟩
  · simp only [update_apply]
    split
    · rename_i hj
      rw [hj]
    · rfl
  · simp only [update_self]
  · rw [allocLoop_keeps.2.2.1]
    exact cfg.pos

theorem not_owned_alloc (h : ∃ i < cfg.rxringcount, alloc i = none) :
    ¬ Owned cfg (rtl8192AllocRxDescRing cfg true alloc s) := by
  obtain ⟨i, hi, hnone⟩ := h
  have hfails := allocLoop_fails cfg
    (s := { s with
      rxRing := true, desc := fun _ => ⟨0, false, false, 0, 0, false, false, false, 0⟩, rxIdx := 0 })
    ⟨i, Nat.zero_le i, by rwa [Nat.zero_add], hnone⟩
  unfold rtl8192AllocRxDescRing
  simp only [if_true, hfails]
  intro howned
  have heor := (howned allocLoop_keeps.1).2
  simp [allocLoop_keeps.2.2.2] at heor

/-! ## One turn -/

theorem rearm_own (q : Nat) : ((s.rearm cfg q).desc s.rxIdx).own = true := by
  simp [State.rearm]

theorem Inv.rearm (hfilled : FilledBut s cfg.rxringcount s.rxIdx) (hoops : s.oops = false)
    (heor : (s.desc (cfg.rxringcount - 1)).eor = true) {addr : BitVec 32}
    (hbuf : s.rxBuf s.rxIdx = some p) (hold : p < s.nextSkb) (hskb : s.skb p = ⟨.ring, some addr, addr⟩)
    (hnew : ∀ j < cfg.rxringcount, j ≠ s.rxIdx → s.rxBuf j ≠ some p) : Inv cfg (s.rearm cfg p) where
  oops := hoops
  filled := by
  -- A turn goes on with the next slot.
    intro _
    refine hfilled.fill (fun _ _ => rfl) (fun _ _ _ _ _ => rfl) ?_ le_rfl ⟨hbuf, hold, ?_⟩ hnew
    · intro j hj
      simp only [State.rearm, update_of_ne hj]
    · simp only [State.rearm, update_self, hskb]
  eor := by
    intro _
    simp only [State.rearm, update_apply]
    split
    · rename_i hlast
      rw [if_pos hlast.symm]
    · exact heor
  rxIdx := fun _ => Nat.mod_lt _ cfg.pos

theorem Filled.handOver (h : Filled s k) (hi : i < k) (hbuf : s.rxBuf i = some p) (t : Turn) :
    FilledBut (s.handOver p t) k i where
  slot := by
    intro j hj hji
    obtain ⟨q, hq⟩ := h.slot j hj
    have hne : q ≠ p := by
      rintro rfl
      exact hji (h.distinct j hj i hi (hq.rxBuf.trans hbuf.symm))
    refine ⟨q, hq.rxBuf, hq.old, ?_⟩
    simp only [State.handOver, update_of_ne hne]
    exact hq.skb
  distinct := fun j hj l hl _ _ => h.distinct j hj l hl

theorem FilledBut.not_next (h : FilledBut s k i) (j : Nat) (hj : j < k) (hji : j ≠ i) :
    s.rxBuf j ≠ some s.nextSkb := by
  intro hq
  obtain ⟨p, hp⟩ := h.slot j hj hji
  have hqp : s.nextSkb = p := Option.some.inj (hq.symm.trans hp.rxBuf)
  have hold := hp.old
  omega

theorem FilledBut.putSkb (h : FilledBut s k i) (addr : BitVec 32) : FilledBut (s.putSkb i addr) k i where
  slot := by
  -- The slot that is not filled gets a new buffer.
    intro j hj hji
    obtain ⟨q, hq⟩ := h.slot j hj hji
    have hold := hq.old
    refine ⟨q, ?_, Nat.lt_succ_of_lt hold, ?_⟩
    · unfold State.putSkb
      exact (update_of_ne hji _ _).trans hq.rxBuf
    · unfold State.putSkb
      exact (update_of_ne (by omega) _ _).trans hq.skb
  distinct := by
    intro j hj l hl hji hli heq
    unfold State.putSkb at heq
    simp only [update_of_ne hji, update_of_ne hli] at heq
    exact h.distinct j hj l hl hji hli heq

theorem FilledBut.putSkb_new (h : FilledBut s k i) (addr : BitVec 32) (j : Nat) (hj : j < k)
    (hji : j ≠ i) : (s.putSkb i addr).rxBuf j ≠ some s.nextSkb := by
  unfold State.putSkb
  simp only [update_of_ne hji]
  exact h.not_next j hj hji

/-- The step lemma for a turn: it keeps the invariant exactly when it does not lack a buffer. -/
theorem rxTurn_cases (h : Inv cfg s) (hring : s.rxRing = true) (t : Turn) :
    (((s.received t).desc.bad = true ∨ t.newSkb.isSome = true) → Inv cfg (rxTurn cfg s t)) ∧
      ((s.received t).desc.bad = false → t.newSkb = none → ¬ Owned cfg (rxTurn cfg s t)) := by
  have hidx := h.rxIdx hring
  have hfilled := h.filled hring
  obtain ⟨p, hp⟩ := hfilled.slot s.rxIdx hidx
  have hother (j : Nat) (hj : j < cfg.rxringcount) (hji : j ≠ s.rxIdx) : s.rxBuf j ≠ some p :=
    fun hjp => hji (hfilled.distinct j hj _ hidx (hjp.trans hp.rxBuf.symm))
  unfold rxTurn
  rw [hp.rxBuf]
  simp only
  cases hbad : (s.received t).desc.bad with
  | true =>
    refine ⟨fun _ => ?_, fun hno => absurd hno (by simp)⟩
    simp only [if_true]
    have hsame : Filled { s with batch := handle s.batch (s.received t) t.rtllibRx } cfg.rxringcount :=
      hfilled.same rfl rfl rfl fun _ => rfl
    exact Inv.rearm hsame.but h.oops (h.eor hring) hp.rxBuf hp.old hp.skb hother
  | false =>
    simp only [Bool.false_eq_true, if_false, false_or, true_implies]
    have hsame : Filled { s with batch := handle s.batch (s.received t) t.rtllibRx } cfg.rxringcount :=
      hfilled.same rfl rfl rfl fun _ => rfl
    have hbut := hsame.handOver hidx hp.rxBuf t
    cases hnew : t.newSkb with
    | none =>
      refine ⟨fun hsome => absurd hsome (by simp), fun _ howned => ?_⟩
      obtain ⟨q, hq, hholder, -⟩ := (howned hring).1 s.rxIdx hidx (rearm_own _)
      obtain rfl : p = q := Option.some.inj (hp.rxBuf.symm.trans hq)
      simp only [State.rearm, State.handOver, update_self] at hholder
      split at hholder
      · cases hholder
      · cases hholder
    | some addr =>
      refine ⟨fun _ => ?_, fun hno => absurd hno (by simp)⟩
      exact Inv.rearm (hbut.putSkb addr) h.oops (h.eor hring) (update_self _ _ _)
        (Nat.lt_succ_self _) (update_self _ _ _) (hbut.putSkb_new addr)

/-! ## Every run -/

theorem Inv.freeRxRing (hoops : s.oops = false) : Inv cfg (rtl8192FreeRxRing cfg s) where
  oops := hoops
  filled := by
    unfold rtl8192FreeRxRing
    rintro ⟨⟩
  eor := by
    unfold rtl8192FreeRxRing
    rintro ⟨⟩
  rxIdx := by
    unfold rtl8192FreeRxRing
    rintro ⟨⟩

theorem Inv.pciResetdescring (h : Inv cfg s) : Inv cfg (rtl8192PciResetdescring cfg s) := by
  unfold rtl8192PciResetdescring
  split
  · refine ⟨h.oops, fun hring => (h.filled hring).same rfl rfl rfl fun j => ?_, fun hring => ?_,
      fun _ => cfg.pos⟩
    · simp only
      split
      · rfl
      · rfl
    · simp only
      split
      · exact h.eor hring
      · exact h.eor hring
  · exact h

theorem Inv.hardware (h : Inv cfg s) (length : BitVec 14) (crc32 icv swDec : Bool)
    (rxDrvInfoSize : Byte) (shift : BitVec 2) :
    Inv cfg (step cfg s (.hardware i length crc32 icv swDec rxDrvInfoSize shift)) := by
  -- The hardware does not change an address.
  unfold step
  simp only
  split
  · refine ⟨h.oops, fun hring => (h.filled hring).same rfl rfl rfl fun j => ?_, fun hring => ?_,
      h.rxIdx⟩
    · simp only [update_apply]
      split
      · rename_i hj
        rw [hj]
      · rfl
    · simp only [update_apply]
      split
      · rename_i hj
        rw [← hj]
        exact h.eor hring
      · exact h.eor hring
  · exact h

theorem Inv.start (h : Inv cfg s) : Inv cfg (step cfg s .start) :=
  ⟨h.oops, fun hring => (h.filled hring).same rfl rfl rfl fun _ => rfl, h.eor, h.rxIdx⟩

/-- The step lemma: a step keeps the invariant if no allocation fails in it, and it breaks the
property if one does. -/
theorem Inv.step (h : Inv cfg s) (e : Event) :
    (AllocOk cfg s e → Inv cfg (step cfg s e)) ∧ (Owned cfg (RxRing.step cfg s e) → AllocOk cfg s e) := by
  cases e with
  | alloc ring alloc =>
    by_cases hguard : s.oops = true ∨ s.rxRing = true
    · refine ⟨fun _ => ?_, fun _ hno => absurd hguard hno⟩
      unfold RxRing.step
      simp only [if_pos hguard]
      exact h
    · unfold RxRing.step
      simp only [if_neg hguard]
      cases ring with
      | false =>
        unfold rtl8192AllocRxDescRing
        exact ⟨fun _ => h, fun _ _ hno => absurd hno (by simp)⟩
      | true =>
        refine ⟨fun hok => Inv.allocRing h.oops (hok hguard rfl), fun howned _ _ i hi => ?_⟩
        cases halloc : alloc i with
        | none => exact absurd howned (not_owned_alloc ⟨i, hi, halloc⟩)
        | some _ => rfl
  | free =>
    refine ⟨fun _ => ?_, fun _ => trivial⟩
    unfold RxRing.step
    simp only
    split
    · exact h
    · exact Inv.freeRxRing h.oops
  | reset =>
    refine ⟨fun _ => ?_, fun _ => trivial⟩
    unfold RxRing.step
    simp only
    split
    · exact h
    · exact h.pciResetdescring
  | hardware i length crc32 icv swDec rxDrvInfoSize shift =>
    exact ⟨fun _ => h.hardware length crc32 icv swDec rxDrvInfoSize shift, fun _ => trivial⟩
  | start => exact ⟨fun _ => h.start, fun _ => trivial⟩
  | turn t =>
    by_cases hguard : s.oops = true ∨ ¬ s.rxRing = true ∨ (s.desc s.rxIdx).own = true
    · refine ⟨fun _ => ?_, fun _ hno => absurd hguard hno.1⟩
      unfold RxRing.step
      simp only [if_pos hguard]
      exact h
    · have hring : s.rxRing = true := by
        by_contra hno
        exact hguard (Or.inr (Or.inl hno))
      obtain ⟨hkeeps, hbreaks⟩ := rxTurn_cases h hring t
      unfold RxRing.step
      simp only [if_neg hguard]
      constructor
      · intro hok
        apply hkeeps
        cases hbad : (s.received t).desc.bad with
        | true => exact Or.inl rfl
        | false => exact Or.inr (hok ⟨hguard, hbad⟩)
      · rintro howned ⟨_, hbad⟩
        cases hnew : t.newSkb with
        | none => exact absurd howned (hbreaks hbad hnew)
        | some _ => rfl

theorem rxTurn_keeps (t : Turn) : (rxTurn cfg s t).rxRing = s.rxRing := by
  unfold rxTurn
  split
  · rfl
  · simp only
    split
    · rfl
    · split
      · rfl
      · rfl

theorem exec_turns_of_stopped (h : s.oops = true ∨ (s.desc s.rxIdx).own = true) (ts : List Turn) :
    exec (step cfg) s (ts.map Event.turn) = s := by
  induction ts with
  | nil => rfl
  | cons t ts ih =>
    have hstop : step cfg s (.turn t) = s := if_pos (h.imp_right Or.inr)
    rw [List.map_cons, exec_cons, hstop, ih]

theorem rxLoop_eq (hring : s.rxRing = true) (count : Nat) (ts : List Turn) :
    rxLoop cfg count ts s = exec (step cfg) s ((ts.take count).map Event.turn) := by
  induction count generalizing s ts with
  | zero =>
    unfold rxLoop
    rfl
  | succ count ih =>
    cases ts with
    | nil =>
      unfold rxLoop
      rfl
    | cons t ts =>
      unfold rxLoop
      by_cases hstop : s.oops = true ∨ (s.desc s.rxIdx).own = true
      · rw [if_pos hstop, exec_turns_of_stopped hstop]
      · have hgoes : step cfg s (.turn t) = rxTurn cfg s t := by
          refine if_neg ?_
          rintro (hoops | hno | hown)
          · exact hstop (Or.inl hoops)
          · exact hno hring
          · exact hstop (Or.inr hown)
        rw [if_neg hstop, List.take_succ_cons, List.map_cons, exec_cons, hgoes]
        exact ih ((rxTurn_keeps t).trans hring) ts

theorem rtl8192Rx_eq (hring : s.rxRing = true) (turns : List Turn) :
    rtl8192Rx cfg turns s =
      exec (step cfg) s (.start :: (turns.take cfg.rxringcount).map Event.turn) := by
  unfold rtl8192Rx
  rw [exec_cons]
  exact rxLoop_eq (s := step cfg s .start) hring _ turns

/-- From a driver without a ring, every descriptor that the hardware gets has its own buffer, in all
states of a run, exactly when no allocation of a buffer fails in the run. -/
theorem rx_ring_owned_iff (hring : s.rxRing = false) (hoops : s.oops = false) (es : List Event) :
    Meets (step cfg) (AllocOk cfg) s es ↔ ∀ fs, fs <+: es → Owned cfg (exec (step cfg) s fs) := by
  have hnone : ¬ s.rxRing = true := by simp [hring]
  have hinv : Inv cfg s :=
    ⟨hoops, fun h => absurd h hnone, fun h => absurd h hnone, fun h => absurd h hnone⟩
  refine meets_iff_forall_prefixes (I := Inv cfg) (P := Owned cfg) (V := fun _ => True) ?_ ?_ hinv
    hinv.owned fun _ _ => trivial
  · intro s e h _ _ hok
    exact (h.step e).1 hok
  · intro s e h _ _
    exact ⟨(h.step e).2, fun hok => ((h.step e).1 hok).owned⟩

/-! ## A buffer that is not replaced -/

def twoConfig : Config := ⟨2, 9100, by decide⟩

def noRing : State where
  rxRing := false
  desc := fun _ => ⟨0, false, false, 0, 0, false, false, false, 0⟩
  rxBuf := fun _ => none
  rxIdx := 0
  skb := fun _ => ⟨.freed, none, 0⟩
  nextSkb := 0
  batch := startBatch (0, 0)
  oops := false

def frameTurn (newSkb : Option (BitVec 32)) : Turn where
  buf := fun i => if i = 0 then 0x08 else 0
  settings := ⟨fun _ => 0, fun _ => 0, false, false, false⟩
  tsfHigh := 0
  rssi := 0
  rtllibRx := ⟨true, false, none, none⟩
  garbage := 0
  newSkb := newSkb

def oneFrame (newSkb : Option (BitVec 32)) : List Event :=
  [.alloc true fun i => some (BitVec.ofNat 32 (0x10000 * (i + 1))),
    .hardware 0 100 false false true 0 0, .start, .turn (frameTurn newSkb)]

theorem rx_ring_owned_iff_oneFrame :
    Meets (step twoConfig) (AllocOk twoConfig) noRing (oneFrame (some 0x30000)) ↔
      ∀ fs, fs <+: oneFrame (some 0x30000) → Owned twoConfig (exec (step twoConfig) noRing fs) :=
  rx_ring_owned_iff rfl rfl _

/-- The second descriptor stays with the hardware, and the first goes back to it without a buffer. -/
theorem rx_ring_not_always_owned : ¬ ∀ (cfg : Config) (s : State), s.rxRing = false →
    s.oops = false → ∀ es, Owned cfg (exec (step cfg) s es) := by
  intro h
  have howned : Owned twoConfig (exec (step twoConfig) noRing (oneFrame none)) :=
    h twoConfig noRing rfl rfl (oneFrame none)
  obtain ⟨p, hp, hholder, -⟩ := (howned (by decide)).1 0 (by decide) (by decide)
  obtain rfl : 0 = p := Option.some.inj hp
  revert hholder
  decide

end Rtl8190.RxRing
