import Mathlib.Data.List.Nodup
import Mathlib.Order.Basic
import Mathlib.Tactic.Ring
import Rtl8190.Lib.Run

/-!
# Numbers that a key gives to messages

In one life of a key every message takes the next number, modulo `N`, from the first number of the
life on. A key may come back, and then its new life does not know where an earlier one has stopped.
-/

namespace Rtl8190.Nonce

open Rtl8190.Run

variable {κ : Type*}

/-- From one change of the key to the next. -/
structure Life (κ : Type*) where
  key : Option κ
  first : Nat
  /-- How many messages it has had. -/
  count : Nat

/-- `used` has every number that was taken, with its key, newest first. -/
structure History (κ : Type*) where
  now : Life κ
  past : List (Life κ)
  used : List (κ × Nat)

inductive Op (κ : Type*) where
  | rekey (key : Option κ) (first : Nat)
  | message
  | idle

def Life.next (l : Life κ) (N : Nat) : Nat := (l.first + l.count) % N

def History.step (N : Nat) (h : History κ) : Op κ → History κ
  | .rekey key first => { h with now := ⟨key, first, 0⟩, past := h.now :: h.past }
  | .message =>
    { h with
      now := { h.now with count := h.now.count + 1 }
      used := h.now.key.elim h.used fun k => (k, h.now.next N) :: h.used }
  | .idle => h

/-- How far `n` lies behind the first number of the life, in the cycle of the `N` numbers. -/
def Life.distance (l : Life κ) (N n : Nat) : Nat := (n + (N - l.first % N)) % N

/-- A message is not the `N + 1`st one of its life, and an earlier life of the same key has stopped
before it came to the number. -/
def History.Fresh (N : Nat) (h : History κ) : Op κ → Prop
  | .message => ∀ k, h.now.key = some k → h.now.count < N ∧
      ∀ l ∈ h.past, l.key = some k → l.count ≤ l.distance N (h.now.next N)
  | _ => True

/-- The number is one of those that the life has given. -/
def Life.Took (l : Life κ) (N : Nat) (k : κ) (n : Nat) : Prop :=
  l.key = some k ∧ ∃ i < l.count, n = (l.first + i) % N

/-- What was used is what the lives have taken. -/
def History.Inv (N : Nat) (h : History κ) : Prop :=
  ∀ k n, (k, n) ∈ h.used ↔ ∃ l ∈ h.now :: h.past, l.Took N k n

variable {N : Nat} {h : History κ}

/-! ## One life -/

theorem Life.first_add_distance (l : Life κ) {n : Nat} (hn : n < N) :
    (l.first + l.distance N n) % N = n := by
  have hle : l.first % N ≤ N := (Nat.mod_lt _ (by omega)).le
  have hsum : l.first % N + (n + (N - l.first % N)) = n + N := by omega
  calc (l.first + l.distance N n) % N = (l.first % N + (n + (N - l.first % N))) % N := by
        unfold Life.distance
        rw [Nat.add_mod, Nat.mod_mod, ← Nat.add_mod, Nat.add_mod (l.first % N), Nat.mod_mod,
          ← Nat.add_mod]
    _ = n := by rw [hsum, Nat.add_mod_right, Nat.mod_eq_of_lt hn]

theorem Life.distance_add (hN : 0 < N) (l : Life κ) (i : Nat) :
    l.distance N ((l.first + i) % N) = i % N := by
  have hle : l.first % N < N := Nat.mod_lt _ hN
  have hsum : (l.first % N + i) + (N - l.first % N) = i + N := by omega
  calc l.distance N ((l.first + i) % N)
      = ((l.first % N + i) + (N - l.first % N)) % N := by
        unfold Life.distance
        rw [Nat.add_mod ((l.first + i) % N), Nat.mod_mod, Nat.add_mod l.first i,
          Nat.add_mod (l.first % N + i), Nat.add_mod (l.first % N) i, Nat.mod_mod]
    _ = i % N := by rw [hsum, Nat.add_mod_right]

/-- A life has given exactly the numbers that are nearer to its first one than it has messages. -/
theorem Life.took_iff (hN : 0 < N) {l : Life κ} {k : κ} {n : Nat} (hn : n < N) :
    l.Took N k n ↔ l.key = some k ∧ l.distance N n < l.count := by
  unfold Life.Took
  refine and_congr_right fun _ => ?_
  constructor
  · rintro ⟨i, hi, rfl⟩
    rw [l.distance_add hN]
    exact (Nat.mod_le i N).trans_lt hi
  · intro h
    exact ⟨_, h, (l.first_add_distance hn).symm⟩

/-- The next number of a life is the first one again after `N` messages, and not before. -/
theorem Life.distance_next (hN : 0 < N) (l : Life κ) : l.distance N (l.next N) = l.count % N :=
  l.distance_add hN l.count

theorem Life.next_succ (l : Life κ) :
    ({ l with count := l.count + 1 } : Life κ).next N = (l.next N + 1) % N := by
  unfold Life.next
  rw [Nat.mod_add_mod, Nat.add_assoc]

/-! ## The history -/

theorem History.Inv.new_iff (hN : 0 < N) (hinv : h.Inv N) {k : κ} (hk : h.now.key = some k) :
    (k, h.now.next N) ∉ h.used ↔ h.Fresh N .message := by
  -- A number is new exactly when the message is fresh.
  have hn : h.now.next N < N := Nat.mod_lt _ hN
  rw [hinv]
  constructor
  · intro hnew k' hk'
    obtain rfl : k = k' := Option.some.inj (hk.symm.trans hk')
    constructor
    · by_contra hfull
      refine hnew ⟨h.now, List.mem_cons_self, (Life.took_iff hN hn).mpr ⟨hk, ?_⟩⟩
      rw [Life.distance_next hN]
      have := Nat.mod_lt h.now.count hN
      omega
    · intro l hl hlk
      by_contra hreached
      exact hnew ⟨l, List.mem_cons_of_mem _ hl, (Life.took_iff hN hn).mpr ⟨hlk, by omega⟩⟩
  · rintro hfresh ⟨l, hl, htook⟩
    obtain ⟨hlk, hlt⟩ := (Life.took_iff hN hn).mp htook
    obtain ⟨hcount, hpast⟩ := hfresh k hk
    rcases List.mem_cons.mp hl with rfl | hl
    · rw [Life.distance_next hN, Nat.mod_eq_of_lt hcount] at hlt
      exact Nat.lt_irrefl _ hlt
    · have := hpast l hl hlk
      omega

theorem Life.took_succ_iff (l : Life κ) (k : κ) (n : Nat) :
    ({ l with count := l.count + 1 } : Life κ).Took N k n ↔
      l.Took N k n ∨ (l.key = some k ∧ n = l.next N) := by
  unfold Life.Took Life.next
  constructor
  · rintro ⟨hk, i, hi, rfl⟩
    rcases Nat.lt_succ_iff_lt_or_eq.mp hi with hlt | rfl
    · exact .inl ⟨hk, i, hlt, rfl⟩
    · exact .inr ⟨hk, rfl⟩
  · rintro (⟨hk, i, hi, rfl⟩ | ⟨hk, rfl⟩)
    · exact ⟨hk, i, Nat.lt_succ_of_lt hi, rfl⟩
    · exact ⟨hk, l.count, Nat.lt_succ_self _, rfl⟩

theorem History.Inv.step (hinv : h.Inv N) (o : Op κ) : (h.step N o).Inv N := by
  intro k n
  cases o with
  | idle => exact hinv k n
  | rekey key first =>
    show (k, n) ∈ h.used ↔ ∃ l ∈ ⟨key, first, 0⟩ :: h.now :: h.past, Life.Took l N k n
    rw [hinv]
    constructor
    · rintro ⟨l, hl, htook⟩
      exact ⟨l, List.mem_cons_of_mem _ hl, htook⟩
    · rintro ⟨l, hl, htook⟩
      rcases List.mem_cons.mp hl with rfl | hl
      · obtain ⟨_, i, hi, _⟩ := htook
        exact absurd hi (Nat.not_lt_zero i)
      · exact ⟨l, hl, htook⟩
  | message =>
    unfold History.step
    simp only [List.exists_mem_cons_iff, Life.took_succ_iff]
    have hold := hinv k n
    rw [List.exists_mem_cons_iff] at hold
    cases hk : h.now.key with
    | none =>
      rw [Option.elim_none, hold]
      simp
    | some k' =>
      rw [Option.elim_some, List.mem_cons, hold, Prod.mk.injEq, Option.some.injEq]
      constructor
      · rintro (⟨rfl, rfl⟩ | htook | hpast)
        · exact .inl (.inr ⟨rfl, rfl⟩)
        · exact .inl (.inl htook)
        · exact .inr hpast
      · rintro ((htook | ⟨rfl, rfl⟩) | hpast)
        · exact .inr (.inl htook)
        · exact .inl ⟨rfl, rfl⟩
        · exact .inr (.inr hpast)

theorem History.Inv.nodup_step_iff (hN : 0 < N) (hinv : h.Inv N) (hnodup : h.used.Nodup) (o : Op κ) :
    (h.step N o).used.Nodup ↔ h.Fresh N o := by
  cases o with
  | idle => exact iff_of_true hnodup trivial
  | rekey key first => exact iff_of_true hnodup trivial
  | message =>
    unfold History.step
    cases hk : h.now.key with
    | none => exact iff_of_true hnodup (by intro k hk'; simp [hk] at hk')
    | some k =>
      rw [Option.elim_some, List.nodup_cons, hinv.new_iff hN hk]
      exact and_iff_left hnodup

theorem History.nodup_of_step {o : Op κ} (hstep : (h.step N o).used.Nodup) : h.used.Nodup := by
  cases o with
  | idle => exact hstep
  | rekey key first => exact hstep
  | message =>
    unfold History.step at hstep
    cases hk : h.now.key with
    | none => rwa [hk] at hstep
    | some k =>
      rw [hk] at hstep
      exact (List.nodup_cons.mp hstep).2

/-! ## Machines with such a history -/

variable {σ ε : Type*} {step : σ → ε → σ}

/-- A machine whose steps are operations on its history never takes a number twice under one key
exactly when all its messages are fresh. -/
theorem nodup_iff_fresh (hN : 0 < N) (hist : σ → History κ) (op : σ → ε → Op κ) {I : σ → Prop}
    (hI : ∀ s e, I s → I (step s e)) (hop : ∀ s e, I s → hist (step s e) = (hist s).step N (op s e))
    {s : σ} (hs : I s) (hinv : (hist s).Inv N) (hnodup : (hist s).used.Nodup) (es : List ε) :
    (hist (exec step s es)).used.Nodup ↔ Meets step (fun s e => (hist s).Fresh N (op s e)) s es := by
  induction es generalizing s with
  | nil => exact iff_of_true hnodup trivial
  | cons e es ih =>
    have hinv' : (hist (step s e)).Inv N := by
      rw [hop s e hs]
      exact hinv.step _
    rw [exec_cons, meets_cons]
    by_cases hfresh : (hist s).Fresh N (op s e)
    · have hnodup' : (hist (step s e)).used.Nodup := by
        rw [hop s e hs]
        exact (hinv.nodup_step_iff hN hnodup _).mpr hfresh
      rw [ih (hI s e hs) hinv' hnodup', and_iff_right hfresh]
    · -- A number that was taken twice stays so.
      have hgrow : ∀ t, I t → (hist (exec step t es)).used.Nodup → (hist t).used.Nodup := by
        clear ih
        induction es with
        | nil => exact fun t _ h => h
        | cons f fs ih =>
          intro t ht h
          have := ih (step t f) (hI t f ht) h
          rw [hop t f ht] at this
          exact History.nodup_of_step this
      refine iff_of_false (fun h => hfresh ?_) fun h => hfresh h.1
      have := hgrow _ (hI s e hs) h
      rw [hop s e hs] at this
      exact (hinv.nodup_step_iff hN hnodup _).mp this

end Rtl8190.Nonce
