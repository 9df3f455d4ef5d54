import Mathlib.Algebra.Order.BigOperators.Group.Finset
import Mathlib.Data.Prod.Lex
import Mathlib.Data.Fintype.BigOperators
import Rtl8190.Lib.Progress
import Rtl8190.Tx.Softmac

/-!
# No frame is left in a wait queue

A frame waits until the tasklet has looked at its queue with room in the ring. Every completion
that empties a ring schedules the tasklet, but the tasklet does not look at the management queue.
-/

open Rtl8190.Run

namespace Rtl8190.Tx.WaitQueue

/-! ## What is wanted -/

def Usable (q : Queue) : Prop :=
  q = mgntQueue ∨ ∃ qosActived priority, q = queueIndex qosActived priority

theorem queueIndex_lt (qosActived : Bool) (priority : Nat) : (queueIndex qosActived priority).val < 4 := by
  unfold queueIndex up2ac
  split_ifs <;> decide

theorem Usable.cases {q : Queue} (h : Usable q) : q = mgntQueue ∨ q.val < 4 := by
  rcases h with h | ⟨qos, priority, rfl⟩
  · exact .inl h
  · exact .inr (queueIndex_lt qos priority)

/-- The frames that wait in `q` are drained whatever is due, in whatever order, and the frames that
came to the ring came in the order of their submission. -/
structure QueueOk (q : Queue) (s : State) : Prop where
  drained : s.skbWaitQ q ≠ [] → Inevitable step Due (fun s => s.skbWaitQ q = []) s
  inOrder : (s.reached q).Pairwise (· < ·)

/-! ## When it holds -/

/-- The tasklet took a frame from `q` and has not transmitted it. -/
def Holds (t : Tasklet) (q : Queue) : Prop :=
  match t with
  | .hold q' _ => q' = q
  | _ => False

instance (t : Tasklet) (q : Queue) : Decidable (Holds t q) := by
  cases t <;> unfold Holds <;> infer_instance

/-- A management frame finds enough descriptors. A data frame does not go to the ring while the
tasklet holds an earlier frame of its queue. -/
def Clean (s : State) : Event → Prop
  | .mgmtXmit _ _ => checkNicEnoughDesc (s.ring mgntQueue) = true
  | .dataXmit qosActived priority off _ =>
    let q := queueIndex qosActived priority
    ¬ Holds s.tasklet q ∨ s.skbWaitQ q ≠ [] ∨
      checkNicEnoughDesc (s.ring q) = false ∨ off = true
  | .complete _ => True
  | .txIsr _ => True
  | .tasklet _ => True

instance (s : State) (e : Event) : Decidable (Clean s e) := by
  cases e <;> unfold Clean <;> infer_instance

theorem clean_of_due {s : State} {e : Event} (h : Due s e) : Clean s e := by
  cases e <;> first | exact h.elim | trivial

/-! ## One ring

The frames from `c` on are still with the hardware. -/

structure RingOk (ring : TxRing) (hw : Nat) (intr : Bool) : Prop where
  idx_lt : ring.idx < entries
  bounded : ring.queue.length ≤ 63
  done : ∃ c ≤ ring.queue.length, hw = (ring.idx + c) % entries ∧ (0 < c → intr = true) ∧
    ∀ k < entries, (ring.desc ((ring.idx + k) % entries)).own = decide (c ≤ k ∧ k < ring.queue.length)

theorem ringOk_alloc : RingOk allocTxDescRing 0 false :=
  ⟨by decide, by decide, 0, Nat.zero_le _, rfl, by decide, fun _ _ => by simp [allocTxDescRing]⟩

theorem position_inj {i k k' : Nat} (hk : k < entries) (hk' : k' < entries)
    (h : (i + k) % entries = (i + k') % entries) : k = k' := by
  simp only [entries] at *
  omega

theorem checkNicEnoughDesc_iff {ring : TxRing} (h : ring.queue.length ≤ 63) :
    checkNicEnoughDesc ring = true ↔ ring.queue.length ≤ 62 := by
  simp only [checkNicEnoughDesc, entries, decide_eq_true_eq, BitVec.le_def, BitVec.toNat_sub,
    BitVec.toNat_ofNat]
  omega

theorem RingOk.own_tail {ring : TxRing} {hw : Nat} {intr : Bool} (h : RingOk ring hw intr) :
    (ring.desc ring.tail).own = false := by
  obtain ⟨c, hc, -, -, hown⟩ := h.done
  have hb := h.bounded
  rw [TxRing.tail, hown _ (by simp only [entries]; omega)]
  simp

theorem RingOk.fill {ring : TxRing} {hw : Nat} {intr : Bool} (h : RingOk ring hw intr)
    (hlen : ring.queue.length ≤ 62) (skb : Skb) : RingOk (ring.fill ring.tail skb) hw intr := by
  obtain ⟨c, hc, hhw, hintr, hown⟩ := h.done
  refine ⟨h.idx_lt, by rw [fill_queue, List.length_append, List.length_singleton]; omega, c, by simp [Nat.le_succ_of_le hc], hhw, hintr, fun k hk => ?_⟩
  have hlen' : ring.queue.length < entries := by simp only [entries]; omega
  simp only [TxRing.fill, TxRing.tail, List.length_append, List.length_singleton]
  by_cases hkt : k = ring.queue.length
  · subst hkt
    simp [hc]
  · have hne : (ring.idx + k) % entries ≠ (ring.idx + ring.queue.length) % entries :=
      fun h => hkt (position_inj hk hlen' h)
    rw [Function.update_of_ne hne, hown k hk, decide_eq_decide]
    omega

theorem RingOk.complete {ring : TxRing} {hw : Nat} {intr : Bool} (h : RingOk ring hw intr)
    (hdue : (ring.desc hw).own = true) :
    RingOk (Tx.complete ring hw).1 (Tx.complete ring hw).2 true := by
  obtain ⟨c, hc, rfl, -, hown⟩ := h.done
  have hb := h.bounded
  have hce : c < entries := by simp only [entries]; omega
  have hlt : c < ring.queue.length := by
    rw [hown c hce] at hdue
    simpa using hdue
  simp only [Tx.complete, hdue, if_true]
  refine ⟨h.idx_lt, h.bounded, c + 1, hlt, ?_, fun _ => rfl, fun k hk => ?_⟩
  · rw [Nat.mod_add_mod, Nat.add_assoc]
  · by_cases hkc : k = c
    · subst hkc
      simp
    · have hne : (ring.idx + k) % entries ≠ (ring.idx + c) % entries :=
        fun h => hkc (position_inj hk hce h)
      simp only [Function.update_of_ne hne, hown k hk, decide_eq_decide]
      omega

/-- The completed frames leave the ring, and the tasklet is scheduled when no other is queued. -/
theorem txIsrLoop_completed {q : Queue} (hq : q ≠ beaconQueue) {desc : Nat → TxDesc}
    (queue : List Skb) {idx c : Nat} (hidx : idx < entries) (hc : c ≤ queue.length)
    (hown : ∀ k < queue.length, (desc ((idx + k) % entries)).own = decide (c ≤ k)) :
    let r := txIsrLoop q desc idx queue
    r.idx = (idx + c) % entries ∧ r.queue = queue.drop c ∧ r.schedule = decide (c = queue.length) := by
  induction queue generalizing idx c with
  | nil =>
    obtain rfl : c = 0 := by simpa using hc
    simp [txIsrLoop, hq, Nat.mod_eq_of_lt hidx]
  | cons skb rest ih =>
    have h0 : (desc idx).own = decide (c ≤ 0) := by
      have := hown 0 (by simp)
      rwa [Nat.add_zero, Nat.mod_eq_of_lt hidx] at this
    simp only [txIsrLoop, ne_eq, hq, not_false_eq_true, if_true, h0]
    rcases c with _ | c
    · simp [Nat.mod_eq_of_lt hidx]
    · obtain ⟨h1, h2, h3⟩ := ih (c := c)
        (Nat.mod_lt _ (by decide)) (by simpa using hc) (fun k hk => by
          have := hown (k + 1) (by simpa using hk)
          rw [Nat.mod_add_mod, Nat.add_assoc, Nat.add_comm 1 k, this]
          simp)
      rw [Nat.mod_add_mod, Nat.add_assoc, Nat.add_comm 1 c] at h1
      simp [h1, h2, h3]

/-- After the interrupt the ring is either empty, and the tasklet is scheduled, or the hardware
has its first frame. -/
theorem RingOk.txIsr {q : Queue} (hq : q ≠ beaconQueue) {ring : TxRing} {hw : Nat} {intr : Bool}
    (h : RingOk ring hw intr) :
    RingOk ((rtl8192TxIsr q ring).ring ring) hw false ∧
      (rtl8192TxIsr q ring).queue.length ≤ ring.queue.length ∧
      ((rtl8192TxIsr q ring).queue ≠ [] ∨ (rtl8192TxIsr q ring).schedule = true) := by
  obtain ⟨c, hc, hhw, -, hown⟩ := h.done
  have hb := h.bounded
  obtain ⟨h1, h2, h3⟩ := txIsrLoop_completed hq ring.queue h.idx_lt hc (fun k hk => by
    rw [hown k (by simp only [entries]; omega), decide_eq_decide]
    omega)
  simp only [rtl8192TxIsr, TxIsr.ring, h1, h2, h3]
  refine ⟨⟨Nat.mod_lt _ (by decide), by simp only [List.length_drop]; omega, 0, Nat.zero_le _, ?_,
    by decide, fun k hk => ?_⟩, by simp, ?_⟩
  · rw [hhw, Nat.add_zero, Nat.mod_mod]
  · simp only [List.length_drop, Nat.mod_add_mod, Nat.add_assoc]
    -- Positions past the end of the ring come around to the front, where the frames were reaped.
    rcases Nat.lt_or_ge (c + k) entries with hck | hck
    · rw [hown _ hck, decide_eq_decide]
      omega
    · have hwrap : (ring.idx + (c + k)) % entries = (ring.idx + (c + k - entries)) % entries := by
        simp only [entries] at *
        omega
      have hlt : c + k - entries < entries := by simp only [entries] at *; omega
      rw [hwrap, hown _ hlt, decide_eq_decide]
      simp only [entries] at *
      omega
  · simp only [ne_eq, List.drop_eq_nil_iff, not_le, decide_eq_true_eq]
    omega

/-! ## The invariant -/

/-- The number of the frame that the tasklet took from `q`. -/
def held (t : Tasklet) (q : Queue) : List Nat :=
  match t with
  | .hold q' skb => if q' = q then [skb.id] else []
  | _ => []

/-- The frames of `q` that were not dropped, in the order in which they come to the ring. -/
def order (s : State) (q : Queue) : List Nat :=
  s.reached q ++ held s.tasklet q ++ (s.skbWaitQ q).map (·.id)

/-- The tasklet will look at the wait queue of `q` before it ends. -/
def Before (t : Tasklet) (q : Queue) : Prop :=
  match t with
  | .idle => False
  | .at q' => q' ≤ q
  | .hold q' _ => q' ≤ q

/-- `queue_index < TXCMD_QUEUE` -/
def InRange (t : Tasklet) : Prop :=
  match t with
  | .idle => True
  | .at q => q.val < 5
  | .hold q _ => q.val < 5

/-- Something is under way after which the tasklet looks at the wait queue of `q`. -/
def WaitedFor (s : State) (q : Queue) : Prop :=
  (s.ring q).queue ≠ [] ∨ s.scheduled = true ∨ Before s.tasklet q

structure Inv (s : State) : Prop where
  hw_lt : ∀ q, s.hw q < entries
  order : ∀ q, (order s q ++ [s.submitted q]).Pairwise (· < ·)
  mgnt : s.skbWaitQ mgntQueue = []
  range : InRange s.tasklet
  ring : ∀ q, q.val < 4 → RingOk (s.ring q) (s.hw q) (s.intr q)
  hold : ∀ q skb, q.val < 4 → s.tasklet = .hold q skb → (s.ring q).queue.length ≤ 62
  waited : ∀ q, q.val < 4 → s.skbWaitQ q ≠ [] → WaitedFor s q

theorem inv_init : Inv init where
  hw_lt := fun _ => entries_pos
  order := by simp [order, held, init]
  mgnt := rfl
  range := trivial
  ring := fun _ _ => ringOk_alloc
  hold := by simp [init]
  waited := by simp [init]

theorem pairwise_next {l l' : List Nat} {n : Nat} (h : (l ++ [n]).Pairwise (· < ·))
    (hl : l'.Sublist (l ++ [n])) : (l' ++ [n + 1]).Pairwise (· < ·) := by
  refine List.pairwise_append.mpr ⟨h.sublist hl, List.pairwise_singleton _ _, ?_⟩
  intro a ha b hb
  obtain rfl : b = n + 1 := by simpa using hb
  rcases List.mem_append.mp (hl.subset ha) with hin | hin
  · have := (List.pairwise_append.mp h).2.2 a hin n (by simp)
    omega
  · obtain rfl : a = n := by simpa using hin
    omega

theorem ne_mgntQueue {q : Queue} (h : q.val < 4) : mgntQueue ≠ q := by
  rintro rfl
  exact absurd h (by decide)

theorem ne_beaconQueue {q : Queue} (h : q.val < 4) : q ≠ beaconQueue := by
  rintro rfl
  exact absurd h (by decide)

/-! ## Transmission -/

theorem rtl8192HardDataXmit_off (q : Queue) (ring : TxRing) (skb : Skb) :
    rtl8192HardDataXmit q true ring skb = (ring, [skb]) := rfl

theorem rtl8192HardDataXmit_on {q : Queue} (hq : q.val < 4) {ring : TxRing} {hw : Nat} {intr : Bool}
    (h : RingOk ring hw intr) (skb : Skb) :
    rtl8192HardDataXmit q false ring skb = (ring.fill ring.tail skb.push, []) :=
  txOrFree_of_not_own (ne_beaconQueue hq) h.own_tail

theorem xmit_dropped (s : State) (q : Queue) (skb : Skb) (freed : List Skb) :
    s.xmit q skb (s.ring q, freed) = s := by
  simp [State.xmit]

theorem xmit_filled (s : State) (q : Queue) (skb f : Skb) (i : Nat) :
    s.xmit q skb ((s.ring q).fill i f, []) =
      { s with
        ring := Function.update s.ring q ((s.ring q).fill i f)
        reached := Function.update s.reached q (s.reached q ++ [skb.id]) } := by
  simp [State.xmit]

theorem reached_xmit (s : State) (q q' : Queue) (skb : Skb) (r : TxRing × List Skb) :
    ((s.xmit q skb r).reached q').Sublist
      (s.reached q' ++ if q' = q then [skb.id] else []) := by
  simp only [State.xmit]
  by_cases hq : q' = q
  · subst hq
    split <;> simp
  · split <;> simp [hq]

theorem reached_xmit_of_ne {s : State} {q q' : Queue} (h : q' ≠ q) {skb : Skb}
    {r : TxRing × List Skb} : (s.xmit q skb r).reached q' = s.reached q' := by
  simp only [State.xmit]
  split_ifs <;> simp [h]

theorem held_mgntQueue {t : Tasklet} (h : InRange t) : held t mgntQueue = [] := by
  cases t with
  | idle => rfl
  | «at» q => rfl
  | hold q skb =>
    have hlt : q.val < 5 := h
    have hne : q ≠ mgntQueue := by
      rintro rfl
      exact absurd hlt (by decide)
    simp [held, hne]

theorem held_of_not_holds {t : Tasklet} {q : Queue} (h : ¬ Holds t q) : held t q = [] := by
  cases t with
  | idle => rfl
  | «at» q => rfl
  | hold q' skb =>
    have hne : q' ≠ q := h
    simp [held, hne]

theorem order_enqueue (s : State) (q : Queue) (skb : Skb) :
    order (s.enqueue q skb) q = order s q ++ [skb.id] := by
  simp [order, State.enqueue]

/-- The next number is taken, and the frames of the other queues are as they were. -/
theorem order_submit {s s' : State} (h : Inv s) {q : Queue}
    (hsub : s'.submitted = Function.update s.submitted q (s.submitted q + 1))
    (hq : (order s' q).Sublist (order s q ++ [s.submitted q]))
    (hne : ∀ q' ≠ q, order s' q' = order s q') (q' : Queue) :
    (order s' q' ++ [s'.submitted q']).Pairwise (· < ·) := by
  by_cases hqq : q' = q
  · subst hqq
    rw [hsub, Function.update_self]
    exact pairwise_next (h.order q') hq
  · rw [hsub, Function.update_of_ne hqq, hne q' hqq]
    exact h.order q'

theorem order_of_ne {s s' : State} {q : Queue} (h1 : s'.reached q = s.reached q)
    (h2 : held s'.tasklet q = held s.tasklet q) (h3 : s'.skbWaitQ q = s.skbWaitQ q) :
    order s' q = order s q := by
  simp only [order, h1, h2, h3]

theorem inv_drop {s : State} (h : Inv s) (q : Queue) : Inv (s.submit q) where
  hw_lt := h.hw_lt
  order := order_submit h rfl (List.sublist_append_left _ _) fun _ _ => rfl
  mgnt := h.mgnt
  range := h.range
  ring := h.ring
  hold := h.hold
  waited := h.waited

theorem inv_enqueue {s : State} (h : Inv s) {q : Queue} (hq : q.val < 4) (hw : WaitedFor s q)
    (len : Nat) : Inv ((s.submit q).enqueue q ⟨s.submitted q, len⟩) where
  hw_lt := h.hw_lt
  order := order_submit h rfl
    (by rw [order_enqueue]; exact List.Sublist.refl _)
    fun q' hne => order_of_ne rfl rfl (by simp [State.enqueue, State.submit, hne])
  mgnt := by simpa [State.enqueue, State.submit, ne_mgntQueue hq] using h.mgnt
  range := h.range
  ring := h.ring
  hold := h.hold
  waited := by
    intro q' hq' hne
    by_cases hqq : q' = q
    · exact hqq ▸ hw
    · refine h.waited q' hq' ?_
      simpa [State.enqueue, State.submit, hqq] using hne

theorem inv_direct {s : State} (h : Inv s) {q : Queue} (hq : q.val < 4)
    (hlen : (s.ring q).queue.length ≤ 62) (hwait : s.skbWaitQ q = [])
    (hhold : ¬ Holds s.tasklet q) (skb f : Skb) (hid : skb.id = s.submitted q) :
    Inv ((s.submit q).xmit q skb ((s.ring q).fill (s.ring q).tail f, [])) := by
  rw [← submit_ring s q, xmit_filled]
  refine ⟨h.hw_lt, order_submit h rfl ?_ ?_, h.mgnt, h.range, ?_, ?_, ?_⟩
  · simp [order, State.submit, held_of_not_holds hhold, hwait, hid]
  · intro q' hne
    exact order_of_ne (by simp [State.submit, hne]) rfl rfl
  · intro q' hq'
    by_cases hqq : q' = q
    · subst hqq
      simpa using (h.ring q' hq').fill hlen f
    · simpa [hqq] using h.ring q' hq'
  · intro q' skb' hq' ht
    have hqq : q' ≠ q := by
      rintro rfl
      exact hhold (ht ▸ rfl)
    simpa [hqq] using h.hold q' skb' hq' ht
  · intro q' hq' hne
    have hqq : q' ≠ q := by
      rintro rfl
      exact hne hwait
    simpa [WaitedFor, hqq] using h.waited q' hq' hne

theorem inv_dataXmit {s : State} (h : Inv s) {qos : Bool} {priority : Nat} {off : Bool} {len : Nat}
    (hc : Clean s (.dataXmit qos priority off len)) : Inv (step s (.dataXmit qos priority off len)) := by
  simp only [step, Clean] at hc ⊢
  have hq := queueIndex_lt qos priority
  generalize queueIndex qos priority = q at *
  have hr := h.ring q hq
  have hcheck := checkNicEnoughDesc_iff hr.bounded
  simp only [rtllibSoftmacXmit]
  split_ifs with h1 h2
  · refine inv_enqueue h hq ?_ len
    rcases h1 with h1 | h1
    · exact h.waited q hq (by simpa using h1)
    · left
      intro hnil
      rw [hcheck, hnil] at h1
      simp at h1
  · exact inv_drop h q
  · obtain ⟨hwait, hroom⟩ := not_or.mp h1
    have hwait : s.skbWaitQ q = [] := by simpa using hwait
    have hroom : checkNicEnoughDesc (s.ring q) = true := not_not.mp hroom
    cases off with
    | true =>
      rw [rtl8192HardDataXmit_off]
      exact (xmit_dropped (s.submit q) q _ _).symm ▸ inv_drop h q
    | false =>
      rw [rtl8192HardDataXmit_on hq hr]
      refine inv_direct h hq (hcheck.mp hroom) hwait ?_ _ _ rfl
      simpa [hwait, hroom] using hc

theorem inv_mgmtXmit {s : State} (h : Inv s) {off : Bool} {len : Nat}
    (hc : Clean s (.mgmtXmit off len)) : Inv (step s (.mgmtXmit off len)) := by
  have hne : ∀ q : Queue, q.val < 4 → q ≠ mgntQueue := fun q hq => (ne_mgntQueue hq).symm
  have hroom : checkNicEnoughDesc (s.ring mgntQueue) = true := hc
  have hx : step s (.mgmtXmit off len) = (s.submit mgntQueue).xmit mgntQueue
      ⟨s.submitted mgntQueue, len⟩ (rtl8192HardStartXmit mgntQueue off (s.ring mgntQueue)
        ⟨s.submitted mgntQueue, len⟩) := by
    simp [step, softmacMgmtXmit, hroom, h.mgnt]
  rw [hx]
  generalize rtl8192HardStartXmit mgntQueue off (s.ring mgntQueue) ⟨s.submitted mgntQueue, len⟩ = r
  refine ⟨h.hw_lt, order_submit h rfl ?_ ?_, h.mgnt, h.range, ?_, ?_, ?_⟩
  · have := reached_xmit (s.submit mgntQueue) mgntQueue mgntQueue ⟨s.submitted mgntQueue, len⟩ r
    simpa [order, State.xmit, State.submit, held_mgntQueue h.range, h.mgnt] using this
  · intro q' hne'
    exact order_of_ne (reached_xmit_of_ne hne') rfl rfl
  · intro q' hq'
    simpa [State.xmit, State.submit, hne q' hq'] using h.ring q' hq'
  · intro q' skb' hq' ht
    simpa [State.xmit, State.submit, hne q' hq'] using h.hold q' skb' hq' ht
  · intro q' hq' hw
    simpa [State.xmit, State.submit, WaitedFor, hne q' hq'] using h.waited q' hq' hw

/-! ## The steps that are due -/

theorem inv_complete {s : State} (h : Inv s) (q : Queue) : Inv (s.complete q) := by
  unfold State.complete
  split_ifs with hdue
  · refine ⟨fun q' => ?_, h.order, h.mgnt, h.range, fun q' hq' => ?_, fun q' skb hq' ht => ?_,
      fun q' hq' hne => ?_⟩
    · by_cases hqq : q' = q
      · subst hqq
        simpa [Tx.complete, hdue] using Nat.mod_lt _ entries_pos
      · simpa [hqq] using h.hw_lt q'
    · by_cases hqq : q' = q
      · subst hqq
        simpa using (h.ring q' hq').complete hdue
      · simpa [hqq] using h.ring q' hq'
    · by_cases hqq : q' = q
      · subst hqq
        simpa using h.hold q' skb hq' ht
      · simpa [hqq] using h.hold q' skb hq' ht
    · have := h.waited q' hq' hne
      by_cases hqq : q' = q
      · subst hqq
        simpa [WaitedFor] using this
      · simpa [WaitedFor, hqq] using this
  · exact h

theorem inv_txIsr {s : State} (h : Inv s) (q : Queue) : Inv (s.txIsr q) := by
  unfold State.txIsr
  split_ifs with hintr
  · refine ⟨h.hw_lt, h.order, h.mgnt, h.range, fun q' hq' => ?_, fun q' skb hq' ht => ?_,
      fun q' hq' hne => ?_⟩
    · by_cases hqq : q' = q
      · subst hqq
        simpa using ((h.ring q' hq').txIsr (ne_beaconQueue hq')).1
      · simpa [hqq] using h.ring q' hq'
    · have hlen := h.hold q' skb hq' ht
      by_cases hqq : q' = q
      · subst hqq
        have := ((h.ring q' hq').txIsr (ne_beaconQueue hq')).2.1
        simpa [TxIsr.ring] using this.trans hlen
      · simpa [hqq] using hlen
    · by_cases hqq : q' = q
      · subst hqq
        rcases ((h.ring q' hq').txIsr (ne_beaconQueue hq')).2.2 with hr | hr
        · exact .inl (by simpa [TxIsr.ring] using hr)
        · exact .inr (.inl (by simp [hr]))
      · rcases h.waited q' hq' hne with hw | hw | hw
        · exact .inl (by simpa [hqq] using hw)
        · exact .inr (.inl (by simp [hw]))
        · exact .inr (.inr hw)
  · exact h

theorem inRange_nextQueue {q : Queue} : InRange (nextQueue q) := by
  unfold nextQueue
  split_ifs with h
  · exact h
  · trivial

theorem before_nextQueue {q q' : Queue} (hq : q.val < 5) (hq' : q'.val < 4) (hne : q' ≠ q)
    (h : Before (.at q) q') : Before (nextQueue q) q' := by
  have hle : q.val ≤ q'.val := h
  have hval : q'.val ≠ q.val := fun h => hne (Fin.ext h)
  have hsucc : (q + 1).val = q.val + 1 := Fin.val_add_one_of_lt' (by omega)
  have hlt : q + 1 < txcmdQueue := by
    rw [Fin.lt_def, hsucc]
    change q.val + 1 < 5
    omega
  rw [nextQueue, if_pos hlt]
  change (q + 1).val ≤ q'.val
  omega

/-- The tasklet leaves a queue in which no frame waits, or whose ring is not empty. -/
theorem inv_nextQueue {s : State} (h : Inv s) {q : Queue} (ht : s.tasklet = .at q)
    (hq : q.val < 4 → s.skbWaitQ q = [] ∨ (s.ring q).queue ≠ []) :
    Inv { s with tasklet := nextQueue q } := by
  have hheld : ∀ q', held (nextQueue q) q' = held s.tasklet q' := by
    intro q'
    rw [ht, nextQueue]
    split_ifs <;> rfl
  refine ⟨h.hw_lt, fun q' => ?_, h.mgnt, inRange_nextQueue, h.ring, fun q' skb _ ht' => ?_,
    fun q' hq' hne => ?_⟩
  · have hord : order { s with tasklet := nextQueue q } q' = order s q' :=
      order_of_ne rfl (hheld q') rfl
    exact hord ▸ h.order q'
  · simp only [nextQueue] at ht'
    split_ifs at ht'
  · rcases h.waited q' hq' hne with hw | hw | hw
    · exact .inl hw
    · exact .inr (.inl hw)
    · by_cases hqq : q' = q
      · subst hqq
        exact .inl ((hq hq').resolve_left hne)
      · rw [ht] at hw
        have hrange := h.range
        rw [ht] at hrange
        exact .inr (.inr (before_nextQueue hrange hq' hqq hw))

theorem inv_dequeue {s : State} (h : Inv s) {q : Queue} {skb : Skb} {rest : List Skb}
    (ht : s.tasklet = .at q) (hwait : s.skbWaitQ q = skb :: rest)
    (hcheck : checkNicEnoughDesc (s.ring q) = true) :
    Inv { s with skbWaitQ := Function.update s.skbWaitQ q rest, tasklet := .hold q skb } := by
  have hrange := h.range
  rw [ht] at hrange
  refine ⟨h.hw_lt, fun q' => ?_, ?_, hrange, h.ring, fun q' skb' hq' ht' => ?_,
    fun q' hq' hne => ?_⟩
  · have := h.order q'
    by_cases hqq : q' = q
    · subst hqq
      simpa [order, held, ht, hwait] using this
    · simpa [order, held, ht, hqq, Ne.symm hqq] using this
  · have hne : mgntQueue ≠ q := by
      rintro rfl
      exact absurd h.mgnt (by simp [hwait])
    simpa [hne] using h.mgnt
  · obtain ⟨rfl, rfl⟩ : q = q' ∧ skb = skb' := by simpa using ht'
    exact (checkNicEnoughDesc_iff (h.ring q hq').bounded).mp hcheck
  · have hne' : s.skbWaitQ q' ≠ [] := by
      by_cases hqq : q' = q
      · subst hqq
        simp [hwait]
      · simpa [hqq] using hne
    have := h.waited q' hq' hne'
    simpa [WaitedFor, Before, ht] using this

theorem inv_release {s : State} (h : Inv s) {q : Queue} {skb : Skb} (ht : s.tasklet = .hold q skb)
    (off : Bool) :
    Inv { s.xmit q skb (rtl8192HardDataXmit q off (s.ring q) skb) with tasklet := .at q } := by
  have hrange : q.val < 5 := by
    have := h.range
    rwa [ht] at this
  refine ⟨h.hw_lt, fun q' => ?_, h.mgnt, hrange, fun q' hq' => ?_, fun q' skb' _ ht' => ?_,
    fun q' hq' hne => ?_⟩
  · refine (h.order q').sublist (List.Sublist.append_right ?_ _)
    have := reached_xmit s q q' skb (rtl8192HardDataXmit q off (s.ring q) skb)
    have hheld : held s.tasklet q' = if q' = q then [skb.id] else [] := by
      simp [ht, held, eq_comm]
    have hat : held (.at q) q' = [] := rfl
    simp only [order, hheld, hat, List.append_nil]
    exact this.append_right _
  · by_cases hqq : q' = q
    · subst hqq
      have hr := h.ring q' hq'
      cases off with
      | true => simpa [rtl8192HardDataXmit_off, State.xmit] using hr
      | false =>
        rw [rtl8192HardDataXmit_on hq' hr]
        simpa [State.xmit] using hr.fill (h.hold q' skb hq' ht) skb.push
    · simpa [State.xmit, hqq] using h.ring q' hq'
  · cases ht'
  · rcases h.waited q' hq' hne with hw | hw | hw
    · left
      by_cases hqq : q' = q
      · subst hqq
        cases off with
        | true => simpa [rtl8192HardDataXmit_off, State.xmit] using hw
        | false =>
          rw [rtl8192HardDataXmit_on hq' (h.ring q' hq')]
          simp [State.xmit]
      · simpa [State.xmit, hqq] using hw
    · exact .inr (.inl hw)
    · rw [ht] at hw
      exact .inr (.inr hw)

theorem inv_tasklet {s : State} (h : Inv s) (off : Bool) : Inv (irqTxTasklet s off) := by
  unfold irqTxTasklet
  cases ht : s.tasklet with
  | idle =>
    simp only
    split_ifs
    · refine ⟨h.hw_lt, fun q' => ?_, h.mgnt, (by decide : (0 : Nat) < 5), h.ring, ?_, fun q' _ _ => ?_⟩
      · simpa [order, held, ht] using h.order q'
      · simp
      · exact .inr (.inr (Nat.zero_le _ : (0 : Nat) ≤ q'.val))
    · exact h
  | «at» q =>
    simp only
    cases hwait : s.skbWaitQ q with
    | nil => exact inv_nextQueue h ht fun _ => .inl hwait
    | cons skb rest =>
      simp only
      split_ifs with hcheck
      · exact inv_dequeue h ht hwait hcheck
      · refine inv_nextQueue h ht fun hq => .inr ?_
        intro hnil
        rw [checkNicEnoughDesc_iff (h.ring q hq).bounded, hnil] at hcheck
        simp at hcheck
  | hold q skb => exact inv_release h ht off

theorem inv_step {s : State} {e : Event} (h : Inv s) (hc : Clean s e) : Inv (step s e) := by
  cases e with
  | mgmtXmit off len => exact inv_mgmtXmit h hc
  | dataXmit qos priority off len => exact inv_dataXmit h hc
  | complete q => exact inv_complete h q
  | txIsr q => exact inv_txIsr h q
  | tasklet off => exact inv_tasklet h off

/-! ## Progress -/

def holding (t : Tasklet) : Nat :=
  match t with
  | .hold _ _ => 1
  | _ => 0

/-- An upper bound for the queues that the tasklet still looks at. -/
def ahead (t : Tasklet) : Nat :=
  match t with
  | .idle => 0
  | .at q => 6 - q.val
  | .hold q _ => 6 - q.val

def owned (s : State) : Finset (Queue × Fin entries) :=
  Finset.univ.filter fun p => ((s.ring p.1).desc p.2).own = true

def pending (s : State) : Finset Queue :=
  Finset.univ.filter fun q => s.intr q = true

/-- Two for each waiting frame, one for the frame that the tasklet holds. -/
def toSend (s : State) : Nat :=
  2 * (∑ q, (s.skbWaitQ q).length) + holding s.tasklet

/-- The steps of the tasklet that are ahead without a frame to take. -/
def toLook (s : State) : Nat :=
  (if s.scheduled then 7 else 0) + ahead s.tasklet

/-- What the due steps use up: a frame that is sent may start any number of completions, a completion
an interrupt, and an interrupt a run of the tasklet. -/
def work (s : State) : ℕ ×ₗ ℕ ×ₗ ℕ ×ₗ ℕ :=
  toLex (toSend s, toLex ((owned s).card, toLex ((pending s).card, toLook s)))

theorem work_lt_of_toSend {s s' : State} (h : toSend s' < toSend s) : work s' < work s :=
  Prod.Lex.toLex_lt_toLex.mpr (.inl h)

theorem work_lt_of_owned {s s' : State} (h1 : toSend s' = toSend s) (h : owned s' ⊂ owned s) :
    work s' < work s :=
  Prod.Lex.toLex_lt_toLex.mpr (.inr ⟨h1, Prod.Lex.toLex_lt_toLex.mpr (.inl (Finset.card_lt_card h))⟩)

theorem work_lt_of_pending {s s' : State} (h1 : toSend s' = toSend s) (h2 : owned s' = owned s)
    (h : pending s' ⊂ pending s) : work s' < work s :=
  Prod.Lex.toLex_lt_toLex.mpr (.inr ⟨h1, Prod.Lex.toLex_lt_toLex.mpr (.inr ⟨congrArg Finset.card h2,
    Prod.Lex.toLex_lt_toLex.mpr (.inl (Finset.card_lt_card h))⟩)⟩)

theorem work_lt_of_toLook {s s' : State} (h1 : toSend s' = toSend s) (h2 : owned s' = owned s)
    (h3 : pending s' = pending s) (h : toLook s' < toLook s) : work s' < work s :=
  Prod.Lex.toLex_lt_toLex.mpr (.inr ⟨h1, Prod.Lex.toLex_lt_toLex.mpr (.inr ⟨congrArg Finset.card h2,
    Prod.Lex.toLex_lt_toLex.mpr (.inr ⟨congrArg Finset.card h3, h⟩)⟩)⟩)

theorem work_complete {s : State} (h : Inv s) {q : Queue} (hdue : Due s (.complete q)) :
    work (s.complete q) < work s := by
  have hown : ((s.ring q).desc (s.hw q)).own = true := hdue
  simp only [State.complete, hown, if_true]
  refine work_lt_of_owned rfl ⟨?_, fun hsub => ?_⟩
  · rintro ⟨q', j⟩ hj
    simp only [owned, Finset.mem_filter, Finset.mem_univ, true_and] at hj ⊢
    by_cases hqq : q' = q
    · subst hqq
      by_cases hjh : j.val = s.hw q'
      · rwa [hjh]
      · simpa [Tx.complete, hown, hjh] using hj
    · simpa [hqq] using hj
  · have hmem : (q, ⟨s.hw q, h.hw_lt q⟩) ∈ owned s := by simpa [owned] using hown
    have := hsub hmem
    simp [owned, Tx.complete, hown] at this

theorem work_txIsr {s : State} {q : Queue} (hdue : Due s (.txIsr q)) : work (s.txIsr q) < work s := by
  have hintr : s.intr q = true := hdue
  simp only [State.txIsr, hintr, if_true]
  refine work_lt_of_pending rfl ?_ ⟨?_, fun hsub => ?_⟩
  · ext ⟨q', j⟩
    by_cases hqq : q' = q
    · subst hqq
      simp only [owned, Finset.mem_filter, Finset.mem_univ, true_and, Function.update_self]
      rfl
    · simp [owned, hqq]
  · intro q' hq'
    by_cases hqq : q' = q
    · subst hqq
      simp [pending] at hq'
    · simpa [pending, hqq] using hq'
  · have hmem : q ∈ pending s := by simpa [pending] using hintr
    have := hsub hmem
    simp [pending] at this

theorem ahead_nextQueue {q : Queue} (hq : q.val < 5) : ahead (nextQueue q) < ahead (.at q) := by
  have hsucc : (q + 1).val = q.val + 1 := Fin.val_add_one_of_lt' (by omega)
  unfold nextQueue
  split_ifs
  · simp only [ahead, hsucc]
    omega
  · simp only [ahead]
    omega

theorem work_tasklet {s : State} (h : Inv s) {off : Bool} (hdue : Due s (.tasklet off)) :
    work (irqTxTasklet s off) < work s := by
  have hnext : ∀ q, s.tasklet = .at q → work { s with tasklet := nextQueue q } < work s := by
    intro q ht
    have hrange := h.range
    rw [ht] at hrange
    refine work_lt_of_toLook ?_ rfl rfl ?_
    · simp only [toSend, ht, nextQueue]
      split_ifs <;> rfl
    · simpa [toLook, ht] using ahead_nextQueue hrange
  unfold irqTxTasklet
  cases ht : s.tasklet with
  | idle =>
    have hsched : s.scheduled = true := hdue.resolve_right (not_not.mpr ht)
    simp only [hsched, if_true]
    refine work_lt_of_toLook (by simp [toSend, ht, holding]) rfl rfl ?_
    simp [toLook, ht, hsched, ahead, bkQueue]
  | «at» q =>
    simp only
    cases hwait : s.skbWaitQ q with
    | nil => exact hnext q ht
    | cons skb rest =>
      simp only
      split_ifs
      · refine work_lt_of_toSend ?_
        have hlt : ∑ q', (Function.update s.skbWaitQ q rest q').length <
            ∑ q', (s.skbWaitQ q').length := by
          refine Finset.sum_lt_sum (fun q' _ => ?_) ⟨q, Finset.mem_univ q, by simp [hwait]⟩
          by_cases hqq : q' = q
          · subst hqq
            simp [hwait]
          · simp [hqq]
        simp only [toSend, ht, holding]
        omega
      · exact hnext q ht
  | hold q skb =>
    refine work_lt_of_toSend ?_
    simp [toSend, ht, holding, State.xmit]

theorem due_or_drained {s : State} (h : Inv s) {q : Queue} (hq : q.val < 4) :
    (∃ e, Due s e) ∨ s.skbWaitQ q = [] := by
  -- While a frame waits, something is due.
  by_cases hwait : s.skbWaitQ q = []
  · exact .inr hwait
  left
  rcases h.waited q hq hwait with hr | hr | hr
  · obtain ⟨c, hc, hhw, hintr, hown⟩ := (h.ring q hq).done
    have hb := (h.ring q hq).bounded
    rcases Nat.lt_or_ge c (s.ring q).queue.length with hlt | hge
    · refine ⟨.complete q, ?_⟩
      change ((s.ring q).desc (s.hw q)).own = true
      rw [hhw, hown c (by simp only [entries]; omega)]
      simpa using hlt
    · have hpos := List.length_pos_of_ne_nil hr
      exact ⟨.txIsr q, hintr (by omega)⟩
  · exact ⟨.tasklet false, .inl hr⟩
  · refine ⟨.tasklet false, .inr ?_⟩
    intro ht
    rw [ht] at hr
    exact hr

theorem drained {s : State} (h : Inv s) {q : Queue} (hq : q.val < 4) :
    Inevitable step Due (fun s => s.skbWaitQ q = []) s := by
  refine inevitable_of_decreasing (r := (· < ·)) wellFounded_lt work
    (fun s e hs he => inv_step hs (clean_of_due he)) (fun s e hs he => ?_) (fun s hs => due_or_drained hs hq) h
  cases e with
  | mgmtXmit off len => exact he.elim
  | dataXmit qos priority off len => exact he.elim
  | complete q => exact work_complete hs he
  | txIsr q => exact work_txIsr he
  | tasklet off => exact work_tasklet hs he

/-! ## The management queue -/

/-- The tasklet does not come to the management queue. -/
structure Stranded (s : State) : Prop where
  range : InRange s.tasklet
  waits : s.skbWaitQ mgntQueue ≠ []

theorem stranded_tasklet {s : State} (h : Stranded s) (off : Bool) : Stranded (irqTxTasklet s off) := by
  have hrange := h.range
  unfold irqTxTasklet
  cases ht : s.tasklet with
  | idle =>
    simp only
    split_ifs
    · exact ⟨(by decide : (0 : Nat) < 5), h.waits⟩
    · exact h
  | «at» q =>
    rw [ht] at hrange
    have hne : mgntQueue ≠ q := by
      rintro rfl
      have hlt : mgntQueue.val < 5 := hrange
      exact absurd hlt (by decide)
    simp only
    cases s.skbWaitQ q with
    | nil => exact ⟨inRange_nextQueue, h.waits⟩
    | cons skb rest =>
      simp only
      split_ifs
      · exact ⟨hrange, by simpa [hne] using h.waits⟩
      · exact ⟨inRange_nextQueue, h.waits⟩
  | hold q skb =>
    rw [ht] at hrange
    exact ⟨hrange, h.waits⟩

theorem stranded_due {s : State} {e : Event} (h : Stranded s) (he : Due s e) : Stranded (step s e) := by
  cases e with
  | mgmtXmit off len => exact he.elim
  | dataXmit qos priority off len => exact he.elim
  | complete q =>
    simp only [step, State.complete]
    split_ifs
    · exact ⟨h.range, h.waits⟩
    · exact h
  | txIsr q =>
    simp only [step, State.txIsr]
    split_ifs
    · exact ⟨h.range, h.waits⟩
    · exact h
  | tasklet off => exact stranded_tasklet h off

theorem not_drained {s : State} (h : Stranded s) :
    ¬ Inevitable step Due (fun s => s.skbWaitQ mgntQueue = []) s :=
  not_inevitable_of_invariant (fun _ _ hs he => stranded_due hs he) (fun _ hs => hs.waits) h

theorem not_queueOk_of_waits {s : State} (ht : s.tasklet = .idle) (hw : s.skbWaitQ mgntQueue ≠ []) :
    ¬ QueueOk mgntQueue s := by
  intro h
  have hrange : InRange s.tasklet := by
    rw [ht]
    trivial
  exact not_drained ⟨hrange, hw⟩ (h.drained hw)

/-! ## Runs -/

theorem queueOk_of_inv {s : State} (h : Inv s) {q : Queue} (hq : Usable q) : QueueOk q s where
  drained := by
    intro hne
    rcases hq.cases with rfl | hlt
    · exact absurd h.mgnt hne
    · exact drained h hlt
  inOrder := by
    refine (h.order q).sublist ?_
    simp only [order, List.append_assoc]
    exact List.sublist_append_left _ _

/-- In a run of clean steps no frame is stranded or reordered. -/
theorem queues_ok_of_clean (es : List Event) (hes : Meets step Clean init es) :
    ∀ fs, fs <+: es → ∀ q, Usable q → QueueOk q (exec step init fs) := by
  intro fs hfs q hq
  exact queueOk_of_inv (exec_inv_before (fun _ _ hs hc => inv_step hs hc) inv_init hes fs hfs) hq

/-- The ring of the best effort queue is filled, one more frame waits, and a management frame is
sent. -/
def waiting : List Event :=
  List.replicate 64 (.dataXmit false 0 false 100) ++ [.mgmtXmit false 30]

theorem queues_ok_waiting :
    (exec step init waiting).skbWaitQ beQueue ≠ [] ∧
      ∀ fs, fs <+: waiting → ∀ q, Usable q → QueueOk q (exec step init fs) :=
  ⟨by decide +kernel, queues_ok_of_clean waiting (by decide +kernel)⟩

def manyMgmt : List Event := List.replicate 64 (.mgmtXmit false 30)

/-- The ring is filled and one more frame waits. The hardware sends what is in the ring, and the
tasklet takes the waiting frame; then a frame is submitted, before the tasklet sends the one it
took. -/
def overtaking : List Event :=
  List.replicate 64 (.dataXmit false 0 false 100) ++ List.replicate 63 (.complete beQueue) ++
    [.txIsr beQueue, .tasklet false, .tasklet false, .tasklet false, .dataXmit false 0 false 100,
      .tasklet false]

theorem queues_not_always_ok :
    ¬ QueueOk mgntQueue (exec step init manyMgmt) ∧ ¬ QueueOk beQueue (exec step init overtaking) := by
  constructor
  · exact not_queueOk_of_waits (by decide +kernel) (by decide +kernel)
  · intro h
    have hlast : ((exec step init overtaking).reached beQueue).drop 63 = [64, 63] := by
      decide +kernel
    have hsorted : (((exec step init overtaking).reached beQueue).drop 63).Pairwise (· < ·) :=
      h.inOrder.sublist (List.drop_sublist 63 _)
    rw [hlast] at hsorted
    exact absurd hsorted (by decide)

end Rtl8190.Tx.WaitQueue
