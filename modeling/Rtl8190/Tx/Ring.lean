import Mathlib.Data.List.Perm.Basic
import Mathlib.Tactic.SplitIfs
import Rtl8190.Lib.Run
import Rtl8190.Tx.Code

/-!
# One TX ring

A ring other than the beacon's, under any order of frames, completions, interrupts and resets.
The position of a new frame comes from `idx` and the queue's length, but whether there is room is
judged by `OWN` alone, or, for commands, not at all.
-/

open Rtl8190.Run

namespace Rtl8190.Tx.Ring

/-! ## The ring as a machine -/

/-- A ring, the position of the hardware in it, and the frames handed in and freed so far. -/
structure State where
  ring : TxRing
  hw : Nat
  handed : List Nat
  freed : List Nat

def init : State := ⟨allocTxDescRing, 0, [], []⟩

inductive Event
  | hardDataXmit (off : Bool) (skb : Skb)
  | hardStartXmit (off : Bool) (skb : Skb)
  | complete
  | txIsr
  | reset
  deriving DecidableEq, Repr

/-- A call that was handed a frame, and that returned `r`. -/
def State.xmit (s : State) (skb : Skb) (r : TxRing × List Skb) : State :=
  { s with ring := r.1, handed := s.handed ++ [skb.id], freed := s.freed ++ r.2.map (·.id) }

def step (prio : Queue) (s : State) : Event → State
  | .hardDataXmit off skb => s.xmit skb (rtl8192HardDataXmit prio off s.ring skb)
  | .hardStartXmit off skb => s.xmit skb (rtl8192HardStartXmit prio off s.ring skb)
  | .complete =>
    let r := complete s.ring s.hw
    { s with ring := r.1, hw := r.2 }
  | .txIsr =>
    let r := rtl8192TxIsr prio s.ring
    { s with ring := r.ring s.ring, freed := s.freed ++ r.freed.map (·.id) }
  | .reset =>
    let r := rtl8192PciResetdescring s.ring
    { s with ring := r.1, hw := 0, freed := s.freed ++ r.2.map (·.id) }

/-! ## What a ring has to keep -/

/-- The `k`-th queued frame is the one in descriptor `(idx + k) % entries`. -/
def Described (ring : TxRing) : Prop :=
  ∀ k skb, ring.queue[k]? = some skb →
    (ring.desc ((ring.idx + k) % entries)).txBuffAddr = some skb.id

/-- Every frame handed in is either queued or freed, and only once. -/
def Accounted (s : State) : Prop :=
  s.handed.Perm (s.ring.queue.map (·.id) ++ s.freed)

/-- A descriptor whose frame stays queued is not filled again. -/
def NotRefilled (s s' : State) : Prop :=
  ∀ k skb, s.ring.queue[k]? = some skb → skb ∈ s'.ring.queue →
    (s'.ring.desc ((s.ring.idx + k) % entries)).txBuffAddr =
      (s.ring.desc ((s.ring.idx + k) % entries)).txBuffAddr

def sendAll (prio : Queue) (ring : TxRing) (frames : List Skb) : TxRing :=
  frames.foldl (fun r skb => (rtl8192HardStartXmit prio false r skb).1) ring

/-- The ring queues any `entries` frames. -/
def AcceptsAll (prio : Queue) (ring : TxRing) : Prop :=
  ∀ frames : List Skb, frames.length = entries →
    (sendAll prio ring frames).queue.map (·.id) = frames.map (·.id)

/-- What a step from `s` to `s'` has to keep. -/
structure Kept (s s' : State) : Prop where
  bounded : s'.ring.queue.length ≤ entries
  described : Described s'.ring
  notRefilled : NotRefilled s s'
  accounted : Accounted s'

def StepOk (prio : Queue) (s : State) (e : Event) : Prop :=
  Kept s (step prio s e) ∧ (e = .reset → AcceptsAll prio (step prio s e).ring)

/-! ## When it does -/

/-- There is room for a frame that `rtl8192_tx` accepts, and the length with which it refuses a
frame is not zero as a `short`. -/
def Room (ring : TxRing) (skb : Skb) : Prop :=
  if (ring.desc ring.tail).own then BitVec.ofNat 16 skb.push.len ≠ 0
  else ring.queue.length < entries

instance (ring : TxRing) (skb : Skb) : Decidable (Room ring skb) := by
  unfold Room; infer_instance

/-- No descriptor is left to the hardware. -/
def NoneOwned (ring : TxRing) : Prop := ∀ j < entries, (ring.desc j).own = false

instance (ring : TxRing) : Decidable (NoneOwned ring) := by
  unfold NoneOwned; infer_instance

/-- The steps that keep it. -/
def Clean (prio : Queue) (s : State) : Event → Prop
  | .hardDataXmit off skb => off ∨ Room s.ring skb
  | .hardStartXmit off skb =>
    if prio = txcmdQueue then s.ring.queue.length < entries else off ∨ Room s.ring skb
  | .complete => True
  | .txIsr => True
  | .reset => prio = txcmdQueue ∨ NoneOwned s.ring

instance (prio : Queue) (s : State) (e : Event) : Decidable (Clean prio s e) := by
  cases e <;> unfold Clean <;> infer_instance

/-! ## Positions -/

theorem add_mod_ne {i k n : Nat} (hkn : k < n) (hn : n < entries) :
    (i + k) % entries ≠ (i + n) % entries := by
  simp only [entries] at *
  omega

/-! ## One operation -/

theorem described_fill {ring : TxRing} {skb : Skb} (h : Described ring)
    (hlen : ring.queue.length < entries) : Described (ring.fill ring.tail skb) := by
  intro k x hk
  rw [fill_queue] at hk
  rcases Nat.lt_or_ge k ring.queue.length with hlt | hge
  · rw [List.getElem?_append_left hlt] at hk
    have hne : (ring.idx + k) % entries ≠ ring.tail := add_mod_ne hlt hlen
    simpa [TxRing.fill, Function.update_of_ne hne] using h k x hk
  · rw [List.getElem?_append_right hge] at hk
    obtain ⟨hk0, rfl⟩ : k - ring.queue.length = 0 ∧ skb = x := by
      rw [List.getElem?_singleton] at hk
      simpa using hk
    have hk' : k = ring.queue.length := by omega
    simp [TxRing.fill, TxRing.tail, hk']

/-- The completed frames leave from the front of the queue, and `idx` moves with them. -/
theorem txIsrLoop_spec {prio : Queue} (hp : prio ≠ beaconQueue) {desc : Nat → TxDesc} {idx : Nat}
    (queue : List Skb) :
    let r := txIsrLoop prio desc idx queue
    r.freed ++ r.queue = queue ∧ (idx < entries → r.idx = (idx + r.freed.length) % entries) := by
  induction queue generalizing idx with
  | nil => simp +contextual [txIsrLoop, Nat.mod_eq_of_lt]
  | cons skb rest ih =>
    simp only [txIsrLoop, hp, ne_eq, not_false_eq_true, if_true]
    split
    · simp +contextual [Nat.mod_eq_of_lt]
    · obtain ⟨h1, h2⟩ := ih
      refine ⟨by simpa using h1, fun _ => ?_⟩
      rw [h2 (Nat.mod_lt _ entries_pos), Nat.mod_add_mod]
      simp only [List.length_cons]
      congr 1
      omega

/-- The invariant of a run whose steps are right. -/
structure Inv (s : State) : Prop where
  idx_lt : s.ring.idx < entries
  bounded : s.ring.queue.length ≤ entries
  described : Described s.ring
  accounted : Accounted s

theorem inv_init : Inv init where
  idx_lt := entries_pos
  bounded := Nat.zero_le _
  described := by simp [Described, init, allocTxDescRing]
  accounted := by simp [Accounted, init, allocTxDescRing]

theorem kept_refused {s : State} (h : Inv s) {skb f : Skb} (hf : f.id = skb.id) :
    Kept s (s.xmit skb (s.ring, [f])) where
  bounded := h.bounded
  described := h.described
  notRefilled := fun _ _ _ _ => rfl
  accounted := by
    have := h.accounted
    simp only [Accounted, State.xmit, List.map_cons, List.map_nil, hf] at *
    rw [← List.append_assoc]
    exact this.append_right _

theorem not_kept_lost {s : State} (h : Inv s) {skb : Skb} : ¬ Kept s (s.xmit skb (s.ring, [])) := by
  intro hk
  have h1 := hk.accounted.length_eq
  have h2 := h.accounted.length_eq
  simp only [State.xmit, List.length_append, List.length_map, List.length_singleton,
    List.map_nil, List.append_nil] at h1 h2
  omega

theorem kept_filled_iff {s : State} (h : Inv s) {skb f : Skb} (hf : f.id = skb.id) :
    Kept s (s.xmit skb (s.ring.fill s.ring.tail f, [])) ↔ s.ring.queue.length < entries := by
  -- A frame that is put at the tail.
  constructor
  · intro hk
    have := hk.bounded
    simp only [State.xmit, fill_queue, List.length_append, List.length_singleton] at this
    omega
  · intro hlt
    refine ⟨?_, described_fill h.described hlt, ?_, ?_⟩
    · simp only [State.xmit, fill_queue, List.length_append, List.length_singleton]
      omega
    · intro k x hk _
      have hk' : k < s.ring.queue.length := (List.getElem?_eq_some_iff.mp hk).1
      have hne : (s.ring.idx + k) % entries ≠ s.ring.tail := add_mod_ne hk' hlt
      simp [State.xmit, TxRing.fill, Function.update_of_ne hne]
    · have := h.accounted
      simp only [Accounted, State.xmit, fill_queue, List.map_append, List.map_cons, List.map_nil,
        List.append_nil, hf] at *
      exact (this.append_right _).trans (by
        simp only [List.append_assoc]
        exact (List.perm_append_comm).append_left _)

theorem kept_txOrFree_iff {prio : Queue} (hp : prio ≠ beaconQueue) {s : State} (h : Inv s)
    {skb : Skb} : Kept s (s.xmit skb (txOrFree prio s.ring skb)) ↔ Room s.ring skb := by
  rcases hown : (s.ring.desc s.ring.tail).own with _ | _
  · rw [txOrFree_of_not_own hp hown, Room, if_neg (by simp [hown])]
    exact kept_filled_iff h skb.push_id
  · rw [txOrFree_of_own hp hown, Room, if_pos hown]
    by_cases hz : BitVec.ofNat 16 skb.push.len = 0
    · rw [if_neg (not_not.mpr hz)]
      exact iff_of_false (not_kept_lost h) (not_not.mpr hz)
    · rw [if_pos hz]
      exact iff_of_true (kept_refused h skb.push_id) hz

theorem kept_hardDataXmit_iff {prio : Queue} (hp : prio ≠ beaconQueue) {s : State} (h : Inv s)
    {off : Bool} {skb : Skb} :
    Kept s (step prio s (.hardDataXmit off skb)) ↔ Clean prio s (.hardDataXmit off skb) := by
  simp only [step, rtl8192HardDataXmit, Clean]
  cases off with
  | true => simpa using kept_refused h rfl
  | false => simpa using kept_txOrFree_iff hp h

theorem kept_hardStartXmit_iff {prio : Queue} (hp : prio ≠ beaconQueue) {s : State} (h : Inv s)
    {off : Bool} {skb : Skb} :
    Kept s (step prio s (.hardStartXmit off skb)) ↔ Clean prio s (.hardStartXmit off skb) := by
  simp only [step, rtl8192HardStartXmit, Clean]
  by_cases hc : prio = txcmdQueue
  · simpa [hc, rtl819xETxCmd] using kept_filled_iff h rfl
  · cases off with
    | true => simpa [hc] using kept_refused h rfl
    | false => simpa [hc] using kept_txOrFree_iff hp h

theorem kept_complete {prio : Queue} {s : State} (h : Inv s) : Kept s (step prio s .complete) := by
  have haddr : ∀ j, ((complete s.ring s.hw).1.desc j).txBuffAddr = (s.ring.desc j).txBuffAddr := by
    intro j
    simp only [complete]
    split
    · by_cases hj : j = s.hw
      · simp [hj]
      · simp [Function.update_of_ne hj]
    · rfl
  refine ⟨?_, ?_, ?_, ?_⟩
  · simpa [step] using h.bounded
  · intro k skb hk
    simp only [step, complete_queue, complete_idx, haddr] at hk ⊢
    exact h.described k skb hk
  · intro k skb _ _
    simp only [step, haddr]
  · simpa [Accounted, step] using h.accounted

theorem kept_txIsr {prio : Queue} (hp : prio ≠ beaconQueue) {s : State} (h : Inv s) :
    Kept s (step prio s .txIsr) := by
  obtain ⟨h1, h2⟩ := txIsrLoop_spec hp s.ring.queue
  set r := txIsrLoop prio s.ring.desc s.ring.idx s.ring.queue with hr
  have hlen := congrArg List.length h1
  have hb := h.bounded
  rw [List.length_append] at hlen
  refine ⟨?_, ?_, fun _ _ _ _ => rfl, ?_⟩
  · simp only [step, rtl8192TxIsr, TxIsr.ring, ← hr]
    omega
  · intro k skb hk
    simp only [step, rtl8192TxIsr, TxIsr.ring, ← hr] at hk ⊢
    rw [h2 h.idx_lt, Nat.mod_add_mod, Nat.add_assoc]
    refine h.described _ skb ?_
    rw [← h1, List.getElem?_append_right (Nat.le_add_right _ _), Nat.add_sub_cancel_left]
    exact hk
  · have := h.accounted
    simp only [Accounted, step, rtl8192TxIsr, TxIsr.ring, ← hr] at *
    rw [← h1, List.map_append] at this
    refine this.trans ?_
    rw [List.append_assoc]
    exact (List.perm_append_comm).trans (by simp [List.append_assoc])

theorem kept_reset {prio : Queue} {s : State} (h : Inv s) : Kept s (step prio s .reset) where
  bounded := Nat.zero_le _
  described := by simp [Described, step, rtl8192PciResetdescring]
  notRefilled := fun _ _ _ _ => rfl
  accounted := by
    have := h.accounted
    simp only [Accounted, step, rtl8192PciResetdescring] at *
    exact this.trans List.perm_append_comm

/-! ## After a reset -/

theorem sendAll_accepted {prio : Queue} (hp : prio ≠ beaconQueue) (frames : List Skb)
    (ring : TxRing) (hidx : ring.idx = 0)
    (hown : prio = txcmdQueue ∨ ∀ j, ring.queue.length ≤ j → j < entries → (ring.desc j).own = false)
    (hlen : ring.queue.length + frames.length ≤ entries) :
    (sendAll prio ring frames).queue.map (·.id) = ring.queue.map (·.id) ++ frames.map (·.id) := by
  -- Frames that meet no owned descriptor are all queued.
  induction frames generalizing ring with
  | nil => simp [sendAll]
  | cons skb frames ih =>
    simp only [List.length_cons] at hlen
    have htail : ring.tail = ring.queue.length := by
      simp only [TxRing.tail, hidx, Nat.zero_add]
      exact Nat.mod_eq_of_lt (by omega)
    obtain ⟨f, hf, hsend⟩ : ∃ f : Skb, f.id = skb.id ∧
        (rtl8192HardStartXmit prio false ring skb).1 = ring.fill ring.tail f := by
      by_cases hc : prio = txcmdQueue
      · exact ⟨skb, rfl, by simp [rtl8192HardStartXmit, rtl819xETxCmd, hc]⟩
      · have hno : (ring.desc ring.tail).own = false :=
          hown.resolve_left hc _ (by omega) (by omega)
        refine ⟨skb.push, rfl, ?_⟩
        simp [rtl8192HardStartXmit, hc, txOrFree_of_not_own hp hno]
    have := ih (ring.fill ring.tail f) hidx
      (hown.imp_right fun hown j hj hj' => by
        simp only [fill_queue, List.length_append, List.length_singleton] at hj
        have hne : j ≠ ring.tail := by omega
        simpa [TxRing.fill, Function.update_of_ne hne] using hown j (by omega) hj')
      (by simp only [fill_queue, List.length_append, List.length_singleton]; omega)
    simp only [sendAll, List.foldl_cons, hsend] at this ⊢
    rw [this, fill_queue]
    simp [hf]

theorem sendAll_length_le {prio : Queue} (hp : prio ≠ beaconQueue) (hc : prio ≠ txcmdQueue) {j : Nat}
    (hj : j < entries) (frames : List Skb) (ring : TxRing) (hidx : ring.idx = 0)
    (hown : (ring.desc j).own = true) (hlen : ring.queue.length ≤ j) :
    (sendAll prio ring frames).queue.length ≤ j := by
  -- The queue does not grow past a descriptor that the hardware owns.
  induction frames generalizing ring with
  | nil => simpa [sendAll] using hlen
  | cons skb frames ih =>
    have hsend : rtl8192HardStartXmit prio false ring skb = txOrFree prio ring skb := by
      simp [rtl8192HardStartXmit, hc]
    simp only [sendAll, List.foldl_cons, hsend] at ih ⊢
    have htail : ring.tail = ring.queue.length := by
      simp only [TxRing.tail, hidx, Nat.zero_add]
      exact Nat.mod_eq_of_lt (by omega)
    rcases hfree : (ring.desc ring.tail).own with _ | _
    · rw [txOrFree_of_not_own hp hfree]
      have hne : ring.queue.length ≠ j := by
        rintro rfl
        rw [htail, hown] at hfree
        exact absurd hfree (by decide)
      refine ih _ hidx ?_ ?_
      · have hj' : j ≠ ring.tail := by omega
        simpa [TxRing.fill, Function.update_of_ne hj'] using hown
      · simp only [fill_queue, List.length_append, List.length_singleton]
        omega
    · rw [txOrFree_of_own hp hfree]
      exact ih _ hidx hown hlen

theorem acceptsAll_reset_iff {prio : Queue} (hp : prio ≠ beaconQueue) {s : State} :
    AcceptsAll prio (step prio s .reset).ring ↔ prio = txcmdQueue ∨ NoneOwned s.ring := by
  constructor
  · intro h
    by_contra hno
    simp only [not_or, NoneOwned, not_forall, Bool.not_eq_false] at hno
    obtain ⟨hc, j, hj, hown⟩ := hno
    have h1 := congrArg List.length (h (List.replicate entries ⟨0, 0⟩) List.length_replicate)
    have h2 := sendAll_length_le hp hc hj (List.replicate entries ⟨0, 0⟩)
      (step prio s .reset).ring rfl hown (Nat.zero_le j)
    simp only [List.length_map, List.length_replicate] at h1
    omega
  · intro hown frames hframes
    have := sendAll_accepted hp frames (step prio s .reset).ring rfl
      (hown.imp_right fun h j _ hj => h j hj)
      (by simpa [step, rtl8192PciResetdescring] using Nat.le_of_eq hframes)
    simpa [step, rtl8192PciResetdescring] using this

/-! ## Runs -/

theorem stepOk_iff_clean {prio : Queue} (hp : prio ≠ beaconQueue) {s : State} (h : Inv s) (e : Event) :
    StepOk prio s e ↔ Clean prio s e := by
  cases e with
  | hardDataXmit off skb => simpa [StepOk] using kept_hardDataXmit_iff hp h
  | hardStartXmit off skb => simpa [StepOk] using kept_hardStartXmit_iff hp h
  | complete => simpa [StepOk, Clean] using kept_complete h
  | txIsr => simpa [StepOk, Clean] using kept_txIsr hp h
  | reset =>
    rw [StepOk, Clean, ← acceptsAll_reset_iff hp (s := s)]
    simp [kept_reset h]

theorem step_idx_lt {prio : Queue} (hp : prio ≠ beaconQueue) {s : State} (h : Inv s) (e : Event) :
    (step prio s e).ring.idx < entries := by
  have hx : ∀ skb, (txOrFree prio s.ring skb).1.idx = s.ring.idx := by
    intro skb
    rcases hown : (s.ring.desc s.ring.tail).own with _ | _
    · rw [txOrFree_of_not_own hp hown]
      rfl
    · rw [txOrFree_of_own hp hown]
  cases e with
  | hardDataXmit off skb =>
    simp only [step, State.xmit, rtl8192HardDataXmit]
    split
    · exact h.idx_lt
    · exact (hx skb).symm ▸ h.idx_lt
  | hardStartXmit off skb =>
    simp only [step, State.xmit, rtl8192HardStartXmit]
    split_ifs
    · exact h.idx_lt
    · exact h.idx_lt
    · exact (hx skb).symm ▸ h.idx_lt
  | complete =>
    have := h.idx_lt
    simp only [step, complete]
    split <;> exact this
  | txIsr =>
    obtain ⟨-, h2⟩ := txIsrLoop_spec hp s.ring.queue
    simp only [step, rtl8192TxIsr, TxIsr.ring]
    rw [h2 h.idx_lt]
    exact Nat.mod_lt _ entries_pos
  | reset => exact entries_pos

theorem inv_step {prio : Queue} (hp : prio ≠ beaconQueue) {s : State} (h : Inv s) {e : Event}
    (hok : StepOk prio s e) : Inv (step prio s e) where
  idx_lt := step_idx_lt hp h e
  bounded := hok.1.bounded
  described := hok.1.described
  accounted := hok.1.accounted

/-- Every step of a run is right exactly when every step is clean. -/
theorem ring_kept_iff_clean (prio : Queue) (hp : prio ≠ beaconQueue) (es : List Event) :
    Meets (step prio) (StepOk prio) init es ↔ Meets (step prio) (Clean prio) init es :=
  have hI : ∀ s e, Inv s → StepOk prio s e → Inv (step prio s e) := fun _ _ h hok => inv_step hp h hok
  meets_congr hI (fun _ e h => stepOk_iff_clean hp h e) inv_init

def reaped : List Event :=
  [.hardDataXmit false ⟨0, 100⟩, .hardStartXmit false ⟨1, 100⟩, .complete, .txIsr, .complete,
    .txIsr, .reset]

theorem ring_kept_reaped : Meets (step beQueue) (StepOk beQueue) init reaped :=
  (ring_kept_iff_clean beQueue (by decide) reaped).mpr (by decide)

def commands : List Event := (List.range 65).map fun i => .hardStartXmit false ⟨i, 100⟩

def staleReset : List Event := [.hardDataXmit false ⟨0, 100⟩, .reset]

theorem ring_not_always_kept :
    ¬ Meets (step txcmdQueue) (StepOk txcmdQueue) init commands ∧
      ¬ Meets (step beQueue) (StepOk beQueue) init staleReset := by
  constructor
  · intro h
    have hlen : Meets (step txcmdQueue) (fun s e => (step txcmdQueue s e).ring.queue.length ≤ 64)
        init commands := h.mono fun s e hk => hk.1.bounded
    exact absurd hlen (by decide +kernel)
  · rintro ⟨-, ⟨-, h⟩, -⟩
    have hown := (acceptsAll_reset_iff (by decide)).mp (h rfl)
    exact absurd hown (by decide)

end Rtl8190.Tx.Ring
