import Rtl8190.Lib.Circular
import Rtl8190.Lib.Run

/-!
# The queue of management frames

`enqueue_mgmt`, `dequeue_mgmt` and `init_mgmt_queue` (`rtllib_softmac.c`). The head is moved on before
a frame is written, and the tail after one is read, so that every frame comes out one turn late.
-/

open Rtl8190.Run Function

namespace Rtl8190.MgmtQueue

variable {α : Type}

/-! ## The code -/

def mgmtQueueNum : Nat := 5

/-- The queue in `struct rtllib_device`. A slot without a frame is a null pointer. -/
structure Queue (α : Type) where
  mgmtQueueRing : Nat → Option α
  mgmtQueueHead : Nat
  mgmtQueueTail : Nat

def enqueueMgmt (q : Queue α) (skb : α) : Queue α :=
  let nh := (q.mgmtQueueHead + 1) % mgmtQueueNum
  { q with mgmtQueueHead := nh, mgmtQueueRing := update q.mgmtQueueRing nh (some skb) }

def dequeueMgmt (q : Queue α) : Option α × Queue α :=
  if q.mgmtQueueTail = q.mgmtQueueHead then (none, q)
  else
    (q.mgmtQueueRing q.mgmtQueueTail,
      { q with mgmtQueueTail := (q.mgmtQueueTail + 1) % mgmtQueueNum })

/-- The ring keeps what it has. -/
def initMgmtQueue (q : Queue α) : Queue α := { q with mgmtQueueTail := 0, mgmtQueueHead := 0 }

/-- The loop of `rtllib_wake_queue`, which ends at the latest when the queue is empty. `stops` says
whether the driver stops the queue as it sends the frame. -/
def wakeLoop (stops : α → Bool) : Nat → Queue α → List α × Queue α
  | 0, q => ([], q)
  | fuel + 1, q =>
    match dequeueMgmt q with
    | (none, q) => ([], q)
    | (some skb, q) =>
      if stops skb then ([skb], q)
      else
        let r := wakeLoop stops fuel q
        (skb :: r.1, r.2)

/-! ## Runs -/

inductive Event (α : Type) where
  | enqueue (skb : α)
  | dequeue
  deriving DecidableEq

/-- The queue, and what was done with it since it was initialised -/
structure Tracked (α : Type) where
  q : Queue α
  /-- What was enqueued, the oldest first -/
  frames : List α
  /-- What was returned while frames were outstanding -/
  returned : List (Option α)
  /-- The number of the frame that was written to the slot last -/
  origin : Nat → Option Nat

def Tracked.outstanding (t : Tracked α) : Nat := t.frames.length - t.returned.length

def start (q : Queue α) : Tracked α := ⟨initMgmtQueue q, [], [], fun _ => none⟩

def step (t : Tracked α) : Event α → Tracked α
  | .enqueue skb =>
    let q := enqueueMgmt t.q skb
    { t with
      q
      frames := t.frames ++ [skb]
      origin := update t.origin q.mgmtQueueHead (some t.frames.length) }
  | .dequeue =>
    let r := dequeueMgmt t.q
    { t with q := r.2, returned := if t.outstanding = 0 then t.returned else t.returned ++ [r.1] }

/-- At most `MGMT_QUEUE_NUM - 1` frames are outstanding after the step. -/
def Room (t : Tracked α) (e : Event α) : Prop := (step t e).outstanding ≤ mgmtQueueNum - 1

/-- A dequeue returns the oldest frame that is outstanding, from the slot that it was written to, and
NULL when there is none. -/
def Right (t : Tracked α) : Event α → Prop
  | .enqueue _ => True
  | .dequeue =>
    match t.frames[t.returned.length]? with
    | none => (dequeueMgmt t.q).1 = none
    | some skb =>
      t.origin t.q.mgmtQueueTail = some t.returned.length ∧ (dequeueMgmt t.q).1 = some skb

/-- Nothing is outstanding when a frame is asked for. -/
def Idle (t : Tracked α) (e : Event α) : Prop := e = .dequeue → t.outstanding = 0

/-! ## The slots -/

/-- What a slot holds one turn after the other: first what it held before, then the frames. -/
def turns (q : Queue α) (frames : List α) : List (Option α) := q.mgmtQueueRing 0 :: frames.map some

def Holds (q₀ : Queue α) (t : Tracked α) : Prop :=
  ∀ k ≤ t.frames.length, t.frames.length < k + mgmtQueueNum →
    (turns q₀ t.frames)[k]? = some (t.q.mgmtQueueRing (k % mgmtQueueNum)) ∧
      t.origin (k % mgmtQueueNum) = if k = 0 then none else some (k - 1)

structure Inv (q₀ : Queue α) (t : Tracked α) : Prop where
  head : t.q.mgmtQueueHead = t.frames.length % mgmtQueueNum
  tail : t.q.mgmtQueueTail = t.returned.length % mgmtQueueNum
  le : t.returned.length ≤ t.frames.length
  room : t.frames.length < t.returned.length + mgmtQueueNum
  holds : Holds q₀ t
  behind : t.returned = (turns q₀ t.frames).take t.returned.length

variable {q₀ : Queue α} {t : Tracked α}

theorem length_turns (q : Queue α) (frames : List α) :
    (turns q frames).length = frames.length + 1 := by
  simp [turns]

theorem turns_append (q : Queue α) (frames : List α) (skb : α) :
    turns q (frames ++ [skb]) = turns q frames ++ [some skb] := by
  simp [turns]

theorem Inv.tail_eq_head_iff (h : Inv q₀ t) :
    t.q.mgmtQueueTail = t.q.mgmtQueueHead ↔ t.outstanding = 0 := by
  have hle := h.le
  have hroom := h.room
  unfold Tracked.outstanding
  rw [h.head, h.tail, Circular.mod_eq_iff_of_close (by unfold mgmtQueueNum; omega) hroom]
  omega

theorem inv_start (q : Queue α) : Inv q (start q) where
  head := rfl
  tail := rfl
  le := le_rfl
  room := Nat.succ_pos 4
  holds := by
    intro k hk _
    obtain rfl : k = 0 := by simpa [start] using hk
    exact ⟨rfl, rfl⟩
  behind := rfl

theorem holds_enqueue (h : Inv q₀ t) (skb : α) : Holds q₀ (step t (.enqueue skb)) := by
  -- The slot of a new frame is none of the last turns but its own.
  intro k hk hlast
  have hslot : (enqueueMgmt t.q skb).mgmtQueueHead = (t.frames.length + 1) % mgmtQueueNum := by
    simp [enqueueMgmt, h.head]
  have hring : (enqueueMgmt t.q skb).mgmtQueueRing =
      update t.q.mgmtQueueRing ((t.frames.length + 1) % mgmtQueueNum) (some skb) := by
    simp [enqueueMgmt, h.head]
  simp only [step, List.length_append, List.length_singleton] at hk hlast
  simp only [step, hslot, hring, turns_append]
  rcases Nat.lt_or_ge t.frames.length k with hnew | hold
  · obtain rfl : k = t.frames.length + 1 := by omega
    rw [update_self, update_self, ← length_turns q₀ t.frames, List.getElem?_concat_length]
    simp [length_turns]
  · have hne : k % mgmtQueueNum ≠ (t.frames.length + 1) % mgmtQueueNum := by
      rw [Ne, Circular.mod_eq_iff_of_close (by omega) (by omega)]
      omega
    obtain ⟨hturn, horigin⟩ := h.holds k hold (by omega)
    rw [update_of_ne hne, update_of_ne hne, horigin,
      List.getElem?_append_left (by rw [length_turns]; omega), hturn]
    exact ⟨rfl, rfl⟩

theorem inv_enqueue (h : Inv q₀ t) {skb : α} (hroom : Room t (.enqueue skb)) :
    Inv q₀ (step t (.enqueue skb)) where
  head := by simp [step, enqueueMgmt, h.head]
  tail := h.tail
  le := by
    have hle := h.le
    simp only [step, List.length_append, List.length_singleton]
    omega
  room := by
    have hle := h.le
    unfold Room Tracked.outstanding at hroom
    have hnum : mgmtQueueNum = 5 := rfl
    omega
  holds := holds_enqueue h skb
  behind := by
    have hlen : t.returned.length ≤ (turns q₀ t.frames).length := by
      rw [length_turns]
      exact Nat.le_succ_of_le h.le
    simp only [step, turns_append]
    rw [List.take_append_of_le_length hlen]
    exact h.behind

theorem Inv.dequeue_eq (h : Inv q₀ t) (hout : t.outstanding ≠ 0) :
    some (dequeueMgmt t.q).1 = (turns q₀ t.frames)[t.returned.length]? ∧
      t.origin t.q.mgmtQueueTail =
        if t.returned.length = 0 then none else some (t.returned.length - 1) := by
  have hempty : ¬ t.q.mgmtQueueTail = t.q.mgmtQueueHead := fun heq =>
    hout (h.tail_eq_head_iff.mp heq)
  obtain ⟨hturn, horigin⟩ := h.holds t.returned.length h.le h.room
  rw [← h.tail] at hturn horigin
  simp only [dequeueMgmt, if_neg hempty]
  exact ⟨hturn.symm, horigin⟩

theorem inv_dequeue (h : Inv q₀ t) : Inv q₀ (step t .dequeue) := by
  by_cases hout : t.outstanding = 0
  · have hsame : step t .dequeue = t := by
      simp [step, dequeueMgmt, h.tail_eq_head_iff.mpr hout, hout]
    rw [hsame]
    exact h
  · have hempty : ¬ t.q.mgmtQueueTail = t.q.mgmtQueueHead := fun heq =>
      hout (h.tail_eq_head_iff.mp heq)
    have hreturned : (step t .dequeue).returned = t.returned ++ [(dequeueMgmt t.q).1] := by
      simp [step, hout]
    have hq : (step t .dequeue).q =
        { t.q with mgmtQueueTail := (t.q.mgmtQueueTail + 1) % mgmtQueueNum } := by
      simp [step, dequeueMgmt, hempty]
    have hlt : t.returned.length < t.frames.length := by
      unfold Tracked.outstanding at hout
      omega
    have hroom := h.room
    refine ⟨?_, ?_, ?_, ?_, ?_, ?_⟩
    · rw [hq]
      exact h.head
    · rw [hq, hreturned, List.length_append]
      simp [h.tail]
    · rw [hreturned, List.length_append]
      exact hlt
    · rw [hreturned, List.length_append]
      change t.frames.length < _
      simp only [List.length_singleton]
      omega
    · intro k hk hlast
      rw [hq]
      exact h.holds k hk hlast
    · rw [hreturned, List.length_append]
      change _ = (turns q₀ t.frames).take (t.returned.length + 1)
      rw [List.take_add_one, ← h.behind, ← (h.dequeue_eq hout).1]
      rfl

theorem inv_step (h : Inv q₀ t) {e : Event α} (hroom : Room t e) : Inv q₀ (step t e) := by
  cases e with
  | enqueue skb => exact inv_enqueue h hroom
  | dequeue => exact inv_dequeue h

theorem right_iff_idle (h : Inv q₀ t) (e : Event α) : Right t e ↔ Idle t e := by
  cases e with
  | enqueue skb => simp [Right, Idle]
  | dequeue =>
    have hle := h.le
    unfold Right Idle
    simp only [true_implies]
    by_cases hout : t.outstanding = 0
    · have hall : t.frames[t.returned.length]? = none := by
        apply List.getElem?_eq_none
        unfold Tracked.outstanding at hout
        omega
      rw [hall]
      exact iff_of_true (by simp [dequeueMgmt, h.tail_eq_head_iff.mpr hout]) hout
    · have hlt : t.returned.length < t.frames.length := by
        unfold Tracked.outstanding at hout
        omega
      rw [List.getElem?_eq_getElem hlt]
      -- The slot is at best that of the frame before.
      refine iff_of_false ?_ hout
      rintro ⟨horigin, -⟩
      rw [(h.dequeue_eq hout).2] at horigin
      split at horigin
      · cases horigin
      · simp only [Option.some.injEq] at horigin
        omega

/-! ## Whole runs -/

theorem inv_exec (q : Queue α) (es : List (Event α)) (hes : Meets step Room (start q) es) :
    Inv q (exec step (start q) es) :=
  exec_inv (I := Inv q) (fun _ _ hs hroom => inv_step hs hroom) (inv_start q) hes

/-- Each frame comes out one turn late: first what slot 0 held before, then all frames but the last. -/
theorem returned_behind (q : Queue α) (es : List (Event α)) (hes : Meets step Room (start q) es) :
    let t := exec step (start q) es
    t.returned = (q.mgmtQueueRing 0 :: t.frames.map some).take t.returned.length :=
  (inv_exec q es hes).behind

theorem wakeLoop_first (h : Inv q₀ t) (hnull : q₀.mgmtQueueRing 0 = none) (hfirst : t.returned = [])
    (stops : α → Bool) (fuel : Nat) : (wakeLoop stops fuel t.q).1 = [] := by
  -- If slot 0 had no frame, the queue is first woken up for nothing.
  have hnone : (dequeueMgmt t.q).1 = none := by
    by_cases hout : t.outstanding = 0
    · simp [dequeueMgmt, h.tail_eq_head_iff.mpr hout]
    · have hslot := (h.dequeue_eq hout).1
      simpa [hfirst, turns, hnull] using hslot
  cases fuel with
  | zero => rfl
  | succ fuel =>
    unfold wakeLoop
    rcases hq : dequeueMgmt t.q with ⟨_ | skb, q⟩
    · rfl
    · rw [hq] at hnone
      cases hnone

/-- The queue is a FIFO in exactly the runs in which no frame is asked for while one is there. -/
theorem mgmt_queue_fifo_iff (q : Queue α) (es : List (Event α))
    (hes : Meets step Room (start q) es) :
    Meets step Right (start q) es ↔ Meets step Idle (start q) es := by
  constructor
  · intro h
    apply (h.and hes).mono_of_inv (I := Inv q) _ _ (inv_start q)
    · exact fun s e hs hc => inv_step hs hc.2
    · exact fun s e hs hc => (right_iff_idle hs e).mp hc.1
  · intro h
    apply (h.and hes).mono_of_inv (I := Inv q) _ _ (inv_start q)
    · exact fun s e hs hc => inv_step hs hc.2
    · exact fun s e hs hc => (right_iff_idle hs e).mpr hc.1

/-- The ring of a device that has just been allocated -/
def zeroed : Queue Nat := ⟨fun _ => none, 0, 0⟩

theorem mgmt_queue_fifo_iff_two :
    Meets step Right (start zeroed) [.enqueue 7, .dequeue] ↔
      Meets step Idle (start zeroed) [.enqueue 7, .dequeue] :=
  mgmt_queue_fifo_iff zeroed [.enqueue 7, .dequeue]
    ⟨by unfold Room; decide, by unfold Room; decide, trivial⟩

/-- The only frame does not come out. -/
theorem mgmt_queue_not_fifo :
    ¬ ∀ (q : Queue Nat) (es : List (Event Nat)), Meets step Room (start q) es →
      Meets step Right (start q) es := by
  intro h
  have hright := h zeroed [.enqueue 7, .dequeue]
    ⟨by unfold Room; decide, by unfold Room; decide, trivial⟩
  have hout : some 0 = (none : Option Nat) ∨ (none : Option Nat) = some 7 :=
    .inr hright.2.1.2
  simp at hout

end Rtl8190.MgmtQueue
