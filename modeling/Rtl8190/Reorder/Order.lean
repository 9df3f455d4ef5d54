import Rtl8190.Reorder.Window

/-!
# Order of delivery

One stream, from `ResetRxTsEntry` on. Every packet carries the number that it had at its arrival:
its sequence number, unwrapped relative to `RxIndicateSeq`.
-/

open Rtl8190.Circular Rtl8190.Run

namespace Rtl8190.Reorder.Order

variable {ρ : Type}

/-- The stream, `RxIndicateSeq` unwrapped, and the packets indicated so far with their numbers. -/
structure State (ρ : Type) where
  pTS : RxTsRecord (ρ × Nat)
  base : Nat
  delivered : List (ρ × Nat)

/-- The window follows `RxIndicateSeq`, which only moves forward. -/
def State.after (base : Nat) (delivered : List (ρ × Nat)) (r : Result (ρ × Nat)) : State ρ :=
  ⟨r.pTS, base + dist 4096 base r.pTS.rxIndicateSeq, delivered ++ r.indicated⟩

/-- The unwrapped `RxIndicateSeq` at the arrival of a packet. The first packet sets it. -/
def State.arrival (s : State ρ) (seqNum : Nat) : Nat :=
  if s.pTS.rxIndicateSeq = 0xffff then seqNum else s.base

def step (winSize : Nat) (s : State ρ) : Event ρ → State ρ
  | .packet prxb seqNum unused =>
    let base := s.arrival seqNum
    .after base s.delivered
      (rxReorderIndicatePacket winSize unused (prxb, unwrap 4096 base seqNum) s.pTS seqNum)
  | .timeout unused => .after s.base s.delivered (rxPktPendingTimeout unused s.pTS)

def init (pTS : RxTsRecord (ρ × Nat)) : State ρ := ⟨resetRxTsEntry pTS, 0, []⟩

/-! ## The invariant -/

/-- Everything pending carries the number that the window gives it, and everything delivered lies
before the window. -/
structure Ordered (winSize : Nat) (s : State ρ) : Prop where
  window : Windowed winSize s.base s.pTS
  tag : ∀ e ∈ s.pTS.rxPendingPktList, e.prxb.2 = num s.base e
  before : ∀ p ∈ s.delivered, p.2 < s.base
  increasing : s.delivered.Pairwise (fun p q => p.2 < q.2)

/-- Before its first packet the stream has nothing pending. -/
def Inv (winSize : Nat) (s : State ρ) : Prop :=
  (s.pTS.rxIndicateSeq = 0xffff ∧ s.pTS.rxPendingPktList = [] ∧ s.delivered = []) ∨
    Ordered winSize s

theorem Ordered.stepped {winSize base base' : Nat} {l taken left : List (RxReorderEntry (ρ × Nat))}
    {r : Result (ρ × Nat)} {delivered : List (ρ × Nat)}
    (h : Stepped winSize base base' l taken left r) (htag : ∀ e ∈ l, e.prxb.2 = num base e)
    (hbefore : ∀ p ∈ delivered, p.2 < base) (hinc : delivered.Pairwise (fun p q => p.2 < q.2)) :
    Ordered winSize (.after base delivered r) := by
  -- A call that indicates the first of its packets keeps the order.
  have hbase : base + dist 4096 base r.pTS.rxIndicateSeq = base' := by
    have := unwrap_eq (n := 4096) h.le h.lt
    rwa [← h.start] at this
  have htaken : ∀ e ∈ taken, e ∈ l := fun e he => by rw [h.split]; exact List.mem_append_left _ he
  have hleft : ∀ e ∈ left, e ∈ l := fun e he => by rw [h.split]; exact List.mem_append_right _ he
  have hsorted : taken.Pairwise (fun a b => num base a < num base b) := by
    have := h.sorted
    rw [h.split] at this
    exact (List.pairwise_append.mp this).1
  refine ⟨?_, fun e he => ?_, fun p hp => ?_, ?_⟩
  · simp only [State.after, hbase]
    exact h.windowed
  · simp only [State.after, hbase, h.pending, List.mem_reverse] at he ⊢
    rw [h.num_eq he]
    exact htag e (hleft e he)
  · simp only [State.after, hbase, h.indicated, List.mem_append, List.mem_map] at hp ⊢
    rcases hp with hp | ⟨e, he, rfl⟩
    · exact (hbefore p hp).trans_le h.le
    · rw [htag e (htaken e he)]
      exact h.below e he
  · simp only [State.after, h.indicated]
    refine List.pairwise_append.mpr ⟨hinc, ?_, fun p hp q hq => ?_⟩
    · refine List.pairwise_map.mpr (hsorted.imp_of_mem fun ha hb hab => ?_)
      rwa [htag _ (htaken _ ha), htag _ (htaken _ hb)]
    · obtain ⟨e, he, rfl⟩ := List.mem_map.mp hq
      rw [htag e (htaken e he)]
      exact (hbefore p hp).trans_le (h.range e (htaken e he)).2

/-- A call that changes neither the window nor the pending packets keeps the order. -/
theorem Ordered.unchanged {winSize : Nat} {s : State ρ} (h : Ordered winSize s)
    {r : Result (ρ × Nat)} (h1 : r.pTS.rxIndicateSeq = s.pTS.rxIndicateSeq)
    (h2 : r.pTS.rxPendingPktList = s.pTS.rxPendingPktList) (h3 : r.indicated = []) :
    Ordered winSize (.after s.base s.delivered r) := by
  have hbase : s.base + dist 4096 s.base s.pTS.rxIndicateSeq = s.base := by
    rw [h.window.start, dist_mod_right, Circular.dist_self (by omega), Nat.add_zero]
  refine ⟨⟨?_, ?_, ?_⟩, ?_, ?_, ?_⟩ <;> simp only [State.after, h1, h2, h3, hbase, List.append_nil]
  · exact h.window.start
  · exact h.window.range
  · exact h.window.sorted
  · exact h.tag
  · exact h.before
  · exact h.increasing

/-! ## Steps -/

section Steps

variable {winSize : Nat} {s : State ρ}

theorem packet_ordered (hW : 1 ≤ winSize) (hW' : winSize ≤ 128) (h : Ordered winSize s) (prxb : ρ)
    {seqNum : Nat} (hs : seqNum < 4096) (unused : List Nat) :
    Ordered winSize (.after s.base s.delivered
      (rxReorderIndicatePacket winSize unused (prxb, unwrap 4096 s.base seqNum) s.pTS seqNum)) := by
  have hw := h.window
  have hle := le_unwrap (n := 4096) s.base seqNum
  rcases Nat.lt_or_ge (unwrap 4096 s.base seqNum) (s.base + 2048) with hx | hx
  · rcases hle.eq_or_lt with heq | hlt
    · obtain ⟨base', taken, left, r, hr, -, hstep⟩ :=
        packet_inOrder _ _ hw hW hW' hs
          heq.symm
      rw [hr]
      refine Ordered.stepped hstep (fun e he => ?_) h.before h.increasing
      rcases List.mem_cons.mp he with rfl | he
      · rfl
      · exact h.tag e (List.mem_reverse.mp he)
    · obtain ⟨base', taken, left, r, hr, -, hstep⟩ :=
        packet_buffered _ _ hw hW hW' hs
          hlt hx
      rw [hr]
      refine Ordered.stepped hstep (fun e he => ?_) h.before h.increasing
      rcases (bufferPacket_spec hw hW' hs hx).2.2 e (List.mem_reverse.mp he) with he | ⟨hseq, hrxb⟩
      · exact h.tag e he
      · rw [hrxb, num, hseq]
  · rw [packet_dropped hw hx]
    exact h.unchanged rfl rfl rfl

theorem timeout_ordered (hW : 1 ≤ winSize) (hW' : winSize ≤ 128) (h : Ordered winSize s)
    (unused : List Nat) :
    Ordered winSize (.after s.base s.delivered (rxPktPendingTimeout unused s.pTS)) := by
  by_cases hidle : s.pTS.rxTimeoutIndicateSeq = 0xffff ∨ s.pTS.rxPendingPktList = []
  · rw [timeout_idle hidle]
    exact h.unchanged rfl rfl rfl
  · rw [not_or] at hidle
    obtain ⟨base', taken, left, r, hr, -, -, hstep⟩ := timeout_release _ h.window
      hW hW' hidle.1 (List.reverse_ne_nil_iff.mpr hidle.2)
    rw [hr]
    exact Ordered.stepped hstep (fun e he => h.tag e (List.mem_reverse.mp he)) h.before h.increasing

theorem inv_step (hW : 1 ≤ winSize) (hW' : winSize ≤ 128) (h : Inv winSize s) (e : Event ρ)
    (he : e.Valid) : Inv winSize (step winSize s e) := by
  rcases h with ⟨hI, hp, hd⟩ | h
  · cases e with
    | packet prxb seqNum unused =>
      right
      have harr : s.arrival seqNum = seqNum := if_pos hI
      have hfresh : Ordered winSize
          (⟨{ s.pTS with rxIndicateSeq := seqNum }, seqNum, s.delivered⟩ : State ρ) :=
        ⟨windowed_fresh he hp, by simp [hp], by simp [hd], by simp [hd]⟩
      simp only [step, harr, packet_fresh hI he]
      exact packet_ordered hW hW' hfresh prxb he unused
    | timeout unused =>
      left
      simp only [step, timeout_idle (Or.inr hp), State.after]
      exact ⟨hI, hp, by simp [hd]⟩
  · right
    cases e with
    | packet prxb seqNum unused =>
      have harr : s.arrival seqNum = s.base := if_neg h.window.start_ne
      simp only [step, harr]
      exact packet_ordered hW hW' h prxb he unused
    | timeout unused => exact timeout_ordered hW hW' h unused

theorem inv_exec (hW : 1 ≤ winSize) (hW' : winSize ≤ 128) {pTS : RxTsRecord (ρ × Nat)}
    (hp : pTS.rxPendingPktList = []) {es : List (Event ρ)} (hes : ∀ e ∈ es, e.Valid) :
    Inv winSize (exec (step winSize) (init pTS) es) :=
  exec_inv (I := Inv winSize) (fun _ e h he => inv_step hW hW' h e he) (Or.inl ⟨rfl, hp, rfl⟩) (meets_of_forall hes)

end Steps

/-! ## Main result -/

section Window

variable {winSize base : Nat} {pTS : RxTsRecord ρ}

theorem dist_start (h : Windowed winSize base pTS) (e : RxReorderEntry ρ) :
    base + dist 4096 pTS.rxIndicateSeq e.seqNum = num base e := by
  rw [h.start, dist_mod_left]
  rfl

theorem inside_mod (h : Windowed winSize base pTS) :
    ∀ e ∈ pTS.rxPendingPktList,
      0 < dist 4096 pTS.rxIndicateSeq e.seqNum ∧ dist 4096 pTS.rxIndicateSeq e.seqNum < winSize := by
  intro e he
  have := dist_start h e
  have := h.range e he
  omega

theorem sorted_mod (h : Windowed winSize base pTS) (hW : winSize ≤ 128) :
    pTS.rxPendingPktList.Pairwise (fun later earlier =>
      snLess earlier.seqNum later.seqNum ∧ earlier.seqNum ≠ later.seqNum ∧
        dist 4096 pTS.rxIndicateSeq earlier.seqNum < dist 4096 pTS.rxIndicateSeq later.seqNum) := by
  refine h.sorted.imp_of_mem fun {later earlier} hl he hlt => ?_
  have := dist_start h later
  have := dist_start h earlier
  obtain ⟨hl1, hl2, hl3⟩ := h.range later hl
  obtain ⟨he1, he2, he3⟩ := h.range earlier he
  refine ⟨?_, fun heq => ?_, by omega⟩
  · rw [seqNum_eq base he1, seqNum_eq base hl1]
    exact (snLess_mod_iff (by omega) (by omega)).mpr hlt
  · simp only [num, heq, lt_irrefl] at hlt

end Window

/-- After any run the pending list is strictly sorted and lies strictly inside the window, modulo
4096, and the packets were delivered in strictly increasing order. -/
theorem delivery_in_order {winSize : Nat} (hW : 1 ≤ winSize) (hW' : winSize ≤ reorderWinSize)
    (pTS : RxTsRecord (ρ × Nat)) (hp : pTS.rxPendingPktList = []) (es : List (Event ρ))
    (hes : ∀ e ∈ es, e.Valid) :
    let s := exec (step winSize) (init pTS) es
    s.pTS.rxPendingPktList.Pairwise (fun later earlier =>
        snLess earlier.seqNum later.seqNum ∧ earlier.seqNum ≠ later.seqNum ∧
          dist 4096 s.pTS.rxIndicateSeq earlier.seqNum < dist 4096 s.pTS.rxIndicateSeq later.seqNum) ∧
      (∀ e ∈ s.pTS.rxPendingPktList,
        0 < dist 4096 s.pTS.rxIndicateSeq e.seqNum ∧
          dist 4096 s.pTS.rxIndicateSeq e.seqNum < winSize) ∧
      s.delivered.Pairwise (fun p q => p.2 < q.2) := by
  intro s
  rcases inv_exec hW hW' hp hes with ⟨-, hnil, hd⟩ | h
  · simp only [s, hnil, hd]
    simp
  · exact ⟨sorted_mod h.window hW', inside_mod h.window, h.increasing⟩

/-- Packet 1 waits for packet 0, which brings it along; packet 4095 comes too late. -/
theorem delivery_in_order_three :
    let s := exec (step 64) (init (⟨7, 7, [], false⟩ : RxTsRecord (Unit × Nat)))
      [.packet () 0 [5], .packet () 2 [5, 6], .packet () 4095 [6], .packet () 1 [6]]
    s.delivered.map (·.2) = [0, 1, 2] ∧ s.delivered.Pairwise (fun p q => p.2 < q.2) :=
  ⟨by decide, (delivery_in_order (by decide) (by decide) _ rfl _ (by simp [Event.Valid])).2.2⟩

end Rtl8190.Reorder.Order
