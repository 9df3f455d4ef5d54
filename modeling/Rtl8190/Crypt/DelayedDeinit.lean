import Mathlib.Algebra.BigOperators.Fin
import Rtl8190.Lib.Indices
import Rtl8190.Lib.Ledger
import Rtl8190.Lib.RefCount
import Rtl8190.Lib.Run

/-!
# The delayed deletion of keys

`rtllib_crypt_delayed_deinit`, its timer (`rtllib_crypt.c`) and `free_rtllib` (`rtllib_module.c`). A
reader of `ieee->crypt` takes its reference a while after it has read the pointer. `rtllib_xmit` holds
the lock that the timer takes in all that time, `rtllib_rx` does not.
-/

open Rtl8190.Run Rtl8190.Ledger Function

namespace Rtl8190.Crypt.DelayedDeinit

/-! ## The code -/

/-- A `struct rtllib_crypt_data`, by its number among all that were allocated -/
abbrev Entry := Nat

/-- Where a call of `rtllib_rx` or `rtllib_xmit` is. -/
inductive Place
  | idle
  /-- It has read the pointer from `ieee->crypt`. -/
  | looked (entry : Entry)
  /-- It is between `atomic_inc` and `atomic_dec`. -/
  | uses (entry : Entry)
  deriving DecidableEq

/-- `ι` are the readers. -/
structure State (ι : Type) where
  crypt : Fin 4 → Option Entry
  cryptDeinitList : List Entry
  refcnt : Entry → Int
  /-- `timer_pending(&ieee->crypt_deinit_timer)` -/
  timerPending : Bool
  reader : ι → Place
  /-- How many entries were allocated. -/
  allocs : Nat
  /-- What was allocated and freed -/
  log : List (Op Entry)
  queued : List Entry
  /-- `free_rtllib` was called. -/
  gone : Bool

variable {ι : Type}

/-- `rtllib_crypt_deinit_entries`: what stays on the list, and what is deinitialised and freed. -/
def rtllibCryptDeinitEntries (force : Bool) (refcnt : Entry → Int) :
    List Entry → List Entry × List Entry
  | [] => ([], [])
  | entry :: rest =>
    let r := rtllibCryptDeinitEntries force refcnt rest
    if refcnt entry ≠ 0 ∧ force = false then (entry :: r.1, r.2) else (r.1, entry :: r.2)

def rtllibCryptDeinitHandler (s : State ι) : State ι :=
  let r := rtllibCryptDeinitEntries false s.refcnt s.cryptDeinitList
  { s with
    cryptDeinitList := r.1
    log := s.log ++ r.2.map .free
    timerPending := !r.1.isEmpty }

def rtllibCryptDelayedDeinit (s : State ι) (idx : Fin 4) : State ι :=
  match s.crypt idx with
  | none => s
  | some tmp =>
    { s with
      crypt := update s.crypt idx none
      cryptDeinitList := tmp :: s.cryptDeinitList
      timerPending := true
      queued := tmp :: s.queued }

def slotEntries (s : State ι) : List Entry := (List.finRange 4).flatMap fun idx => (s.crypt idx).toList

def freeRtllib (s : State ι) : State ι :=
  let r := rtllibCryptDeinitEntries true s.refcnt s.cryptDeinitList
  { s with
    crypt := fun _ => none
    cryptDeinitList := r.1
    log := s.log ++ (r.2 ++ slotEntries s).map .free
    timerPending := false
    gone := true }

/-! ## Steps -/

inductive Event (ι : Type) where
  /-- A new entry comes into the slot, which is empty by then. -/
  | install (idx : Fin 4)
  | delayedDeinit (idx : Fin 4)
  | timer
  /-- The reader reads `ieee->crypt[idx]`. -/
  | lookup (i : ι) (idx : Fin 4)
  | inc (i : ι)
  | dec (i : ι)
  /-- The reader is done with the entry. -/
  | leave (i : ι)
  | teardown

section Steps

variable [DecidableEq ι]

def State.install (s : State ι) (idx : Fin 4) : State ι :=
  match s.crypt idx with
  | some _ => s
  | none =>
    { s with
      crypt := update s.crypt idx (some s.allocs)
      refcnt := update s.refcnt s.allocs 0
      allocs := s.allocs + 1
      log := s.log ++ [.alloc s.allocs] }

def State.lookup (s : State ι) (i : ι) (idx : Fin 4) : State ι :=
  match s.reader i, s.crypt idx with
  | .idle, some entry => { s with reader := update s.reader i (.looked entry) }
  | _, _ => s

/-- `atomic_inc(&crypt->refcnt)` -/
def State.inc (s : State ι) (i : ι) : State ι :=
  match s.reader i with
  | .looked entry =>
    { s with
      reader := update s.reader i (.uses entry)
      refcnt := update s.refcnt entry (s.refcnt entry + 1) }
  | _ => s

/-- `atomic_dec(&crypt->refcnt)`. The pointer is used again for the MSDU. -/
def State.dec (s : State ι) (i : ι) : State ι :=
  match s.reader i with
  | .uses entry =>
    { s with
      reader := update s.reader i (.looked entry)
      refcnt := update s.refcnt entry (s.refcnt entry - 1) }
  | _ => s

def State.leave (s : State ι) (i : ι) : State ι :=
  match s.reader i with
  | .looked _ => { s with reader := update s.reader i .idle }
  | _ => s

def step (s : State ι) (e : Event ι) : State ι :=
  if s.gone then s
  else
    match e with
    | .install idx => s.install idx
    | .delayedDeinit idx => rtllibCryptDelayedDeinit s idx
    | .timer => if s.timerPending then rtllibCryptDeinitHandler s else s
    | .lookup i idx => s.lookup i idx
    | .inc i => s.inc i
    | .dec i => s.dec i
    | .leave i => s.leave i
    | .teardown => freeRtllib s

def newlyFreed (s : State ι) (e : Event ι) : List Entry :=
  (freed (step s e).log).drop (freed s.log).length

end Steps

def init : State ι :=
  ⟨fun _ => none, [], fun _ => 0, false, fun _ => .idle, 0, [], [], false⟩

/-! ## What is to hold -/

section Right

variable [DecidableEq ι]

structure Right (s : State ι) (e : Event ι) : Prop where
  /-- What was queued is on the list or was freed, once. -/
  once : ∀ x ∈ (step s e).queued,
    (step s e).cryptDeinitList.count x + (freed (step s e).log).count x = 1
  /-- After `free_rtllib` nothing is left on the list. -/
  finished : (step s e).gone = true → (step s e).cryptDeinitList = []
  unused : ∀ x ∈ newlyFreed s e, s.refcnt x = 0 ∨ e = .teardown
  alive : ∀ i x, (step s e).reader i = .uses x → x ∉ freed (step s e).log
  armed : (step s e).cryptDeinitList ≠ [] → (step s e).timerPending = true

/-- A reader takes its reference before the entry that it looked up is deleted, and at teardown there
is no reader between the increment and the decrement. -/
def Clean (s : State ι) : Event ι → Prop
  | .inc i => s.gone = false → ∀ x, s.reader i = .looked x → x ∉ freed s.log
  | .teardown => s.gone = false → ∀ i x, s.reader i ≠ .uses x
  | _ => True

end Right

/-! ## The list -/

section Entries

variable (force : Bool) (refcnt : Entry → Int) (l : List Entry)

theorem deinitEntries_count (x : Entry) :
    (rtllibCryptDeinitEntries force refcnt l).1.count x +
      (rtllibCryptDeinitEntries force refcnt l).2.count x = l.count x := by
  induction l with
  | nil => rfl
  | cons entry rest ih =>
    simp only [rtllibCryptDeinitEntries]
    split <;> simp only [List.count_cons] <;> omega

theorem mem_deinitEntries_snd {x : Entry} (h : x ∈ (rtllibCryptDeinitEntries false refcnt l).2) :
    refcnt x = 0 := by
  induction l with
  | nil => cases h
  | cons entry rest ih =>
    simp only [rtllibCryptDeinitEntries, and_true] at h
    split at h
    next => exact ih h
    next hzero =>
      rcases List.mem_cons.mp h with rfl | hrest
      · simpa using hzero
      · exact ih hrest

theorem mem_deinitEntries_of_zero {x : Entry} (hx : x ∈ l) (hzero : refcnt x = 0) :
    x ∈ (rtllibCryptDeinitEntries false refcnt l).2 := by
  induction l with
  | nil => cases hx
  | cons entry rest ih =>
    simp only [rtllibCryptDeinitEntries, and_true]
    split
    next hused =>
      rcases List.mem_cons.mp hx with rfl | hrest
      · exact absurd hzero hused
      · exact ih hrest
    next =>
      rcases List.mem_cons.mp hx with rfl | hrest
      · exact List.mem_cons_self
      · exact List.mem_cons_of_mem entry (ih hrest)

theorem deinitEntries_force : rtllibCryptDeinitEntries true refcnt l = ([], l) := by
  induction l with
  | nil => rfl
  | cons entry rest ih => simp [rtllibCryptDeinitEntries, ih]

end Entries

/-! ## The invariant -/

theorem count_slotEntries (s : State ι) (x : Entry) :
    (slotEntries s).count x = RefCount.count (· = some x) s.crypt := by
  have hone : ∀ o : Option Entry, o.toList.count x = if o = some x then 1 else 0 := by
    rintro (_ | y)
    · rfl
    · simp [List.count_cons]
  unfold slotEntries RefCount.count
  rw [List.count_flatMap, Finset.card_filter, Fin.sum_univ_def]
  simp only [Function.comp_def, hone]

theorem count_held_update (s : State ι) (idx : Fin 4) (o : Option Entry) (x : Entry) :
    (slotEntries { s with crypt := update s.crypt idx o }).count x +
        (if s.crypt idx = some x then 1 else 0) =
      (slotEntries s).count x + if o = some x then 1 else 0 := by
  rw [count_slotEntries, count_slotEntries]
  exact RefCount.count_update _ _ idx o

/-- What is neither freed nor given away. -/
def held (s : State ι) : List Entry := slotEntries s ++ s.cryptDeinitList

def Place.entryOf : Place → Option Entry
  | .idle => none
  | .looked x => some x
  | .uses x => some x

variable [Fintype ι]

structure Inv (s : State ι) : Prop where
  accounted : Accounted (held s) s.log
  kept : given s.log = []
  allocs : ∀ x ∈ allocated s.log, x < s.allocs
  known : ∀ i x, (s.reader i).entryOf = some x → x ∈ allocated s.log
  refcnt : ∀ x, s.refcnt x = RefCount.count (· = .uses x) s.reader
  alive : ∀ i x, s.reader i = .uses x → x ∉ freed s.log
  queued : ∀ x ∈ s.queued, x ∈ s.cryptDeinitList ∨ x ∈ freed s.log
  armed : s.cryptDeinitList ≠ [] → s.timerPending = true
  finished : s.gone = true → s.cryptDeinitList = []

variable {s : State ι}

theorem inv_init : Inv (init : State ι) where
  accounted := .nil
  kept := rfl
  allocs := nofun
  known := nofun
  refcnt x := by simp [init, RefCount.count]
  alive := nofun
  queued := nofun
  armed h := absurd rfl h
  finished := nofun

theorem Inv.once (h : Inv s) : ∀ x ∈ s.queued,
    s.cryptDeinitList.count x + (freed s.log).count x = 1 := by
  intro x hx
  have hsum := h.accounted x
  rw [held, List.count_append] at hsum
  rcases h.queued x hx with hlist | hfreed
  · have hpos := List.count_pos_iff.mpr hlist
    omega
  · have hpos := List.count_pos_iff.mpr hfreed
    omega

theorem Inv.known_uses (h : Inv s) {i : ι} {x : Entry} (hi : s.reader i = .uses x) :
    x ∈ allocated s.log := h.known i x (by rw [hi]; rfl)

theorem Inv.held_of_uses (h : Inv s) {i : ι} {x : Entry} (hi : s.reader i = .uses x) :
    x ∈ held s := by
  have hsum := h.accounted x
  have hfreed := List.count_eq_zero.mpr (h.alive i x hi)
  have hpos := List.count_pos_iff.mpr (h.known_uses hi)
  rw [h.kept, List.count_nil] at hsum
  exact List.count_pos_iff.mp (by omega)

/-! ## Replacing keys -/

theorem inv_install (h : Inv s) (idx : Fin 4) : Inv (s.install idx) := by
  rcases hslot : s.crypt idx with _ | entry
  · have hfresh : s.allocs ∉ allocated s.log := fun hmem => (h.allocs _ hmem).false
    have hunused : ∀ i, s.reader i ≠ .uses s.allocs := fun i hi => hfresh (h.known_uses hi)
    simp only [State.install, hslot]
    refine ⟨?_, ?_, ?_, ?_, ?_, ?_, ?_, h.armed, h.finished⟩
    · have hnew : ∀ b ∈ allocated [Op.alloc s.allocs], b ∉ allocated s.log := by simpa using hfresh
      refine (h.accounted.append_iff hnew (by simp)).mpr fun x => ?_
      have hcount := count_held_update s idx (some s.allocs) x
      rw [hslot] at hcount
      simp only [held, slotEntries, List.count_append, given_alloc, given_nil, freed_alloc, freed_nil,
        allocated_alloc, allocated_nil, List.count_nil, List.count_cons, reduceCtorEq, if_false,
        Option.some.injEq, beq_iff_eq] at hcount ⊢
      omega
    · simp [h.kept]
    · intro x hx
      rw [allocated_append] at hx
      rcases List.mem_append.mp hx with hold | hnew
      · exact Nat.lt_succ_of_lt (h.allocs x hold)
      · obtain rfl : x = s.allocs := by simpa using hnew
        exact Nat.lt_succ_self _
    · intro i x hx
      rw [allocated_append]
      exact List.mem_append_left _ (h.known i x hx)
    · intro x
      rcases eq_or_ne x s.allocs with rfl | hne
      · dsimp only
        rw [update_self, RefCount.count_eq_zero hunused]
        rfl
      · dsimp only
        rw [update_of_ne hne]
        exact h.refcnt x
    · simpa using h.alive
    · simpa using h.queued
  · simp only [State.install, hslot]
    exact h

theorem inv_delayedDeinit (h : Inv s) (hgone : s.gone = false) (idx : Fin 4) :
    Inv (rtllibCryptDelayedDeinit s idx) := by
  rcases hslot : s.crypt idx with _ | tmp
  · simp only [rtllibCryptDelayedDeinit, hslot]
    exact h
  · simp only [rtllibCryptDelayedDeinit, hslot]
    refine ⟨?_, h.kept, h.allocs, h.known, h.refcnt, h.alive, ?_, fun _ => rfl,
      fun hg => absurd hg (by simp [hgone])⟩
    · intro x
      have hcount := count_held_update s idx none x
      have hsum := h.accounted x
      rw [hslot] at hcount
      simp only [held, slotEntries, List.count_append, List.count_cons, reduceCtorEq, if_false,
        Option.some.injEq, beq_iff_eq] at hcount hsum ⊢
      omega
    · rintro x (_ | ⟨_, hx⟩)
      · exact .inl List.mem_cons_self
      · rcases h.queued x hx with hlist | hfreed
        · exact .inl (List.mem_cons_of_mem _ hlist)
        · exact .inr hfreed

/-! ## Deleting keys -/

omit [Fintype ι] in
theorem log_handler (s : State ι) : (rtllibCryptDeinitHandler s).log = s.log ++
    (rtllibCryptDeinitEntries false s.refcnt s.cryptDeinitList).2.map .free := rfl

theorem inv_handler (h : Inv s) (hgone : s.gone = false) : Inv (rtllibCryptDeinitHandler s) := by
  have hcount := deinitEntries_count false s.refcnt s.cryptDeinitList
  have hzero := fun x => mem_deinitEntries_snd s.refcnt s.cryptDeinitList (x := x)
  unfold rtllibCryptDeinitHandler
  generalize rtllibCryptDeinitEntries false s.refcnt s.cryptDeinitList = r at hcount hzero
  dsimp only
  refine ⟨?_, ?_, ?_, ?_, h.refcnt, ?_, ?_, ?_, fun hg => absurd hg (by simp [hgone])⟩
  · refine (h.accounted.append_iff (by simp) (by simp)).mpr fun x => ?_
    have hx := hcount x
    simp only [held, slotEntries, List.count_append, given_map_free, freed_map_free,
      allocated_map_free, List.count_nil]
    omega
  · simpa using h.kept
  · simpa using h.allocs
  · simpa using h.known
  · intro i x hi
    rw [freed_append, freed_map_free, List.mem_append]
    rintro (hold | hnew)
    · exact h.alive i x hi hold
    · -- A reader that uses it counts.
      have hpos : 0 < RefCount.count (· = Place.uses x) s.reader := RefCount.count_pos hi
      have hrefcnt := h.refcnt x
      rw [hzero x hnew] at hrefcnt
      omega
  · intro x hx
    rw [freed_append, freed_map_free, List.mem_append]
    rcases h.queued x hx with hlist | hfreed
    · have hpos := List.count_pos_iff.mpr hlist
      rw [← hcount x] at hpos
      rcases Nat.eq_zero_or_pos (r.1.count x) with hgo | hstay
      · exact .inr (.inr (List.count_pos_iff.mp (by omega)))
      · exact .inl (List.count_pos_iff.mp hstay)
    · exact .inr (.inl hfreed)
  · intro hlist
    simpa using hlist

theorem inv_free (h : Inv s) (hquiet : ∀ i x, s.reader i ≠ .uses x) : Inv (freeRtllib s) := by
  unfold freeRtllib
  rw [deinitEntries_force]
  refine ⟨?_, ?_, ?_, ?_, h.refcnt, fun i x hi => absurd hi (hquiet i x), ?_, fun hl => absurd rfl hl,
    fun _ => rfl⟩
  · refine (h.accounted.append_iff (by simp) (by simp)).mpr fun x => ?_
    have hnone : (slotEntries { s with crypt := fun _ => none }).count x = 0 := by
      rw [count_slotEntries, RefCount.count_eq_zero (by simp)]
    simp only [held, slotEntries, List.count_append, given_map_free, freed_map_free,
      allocated_map_free, List.count_nil] at hnone ⊢
    omega
  · simpa using h.kept
  · simpa using h.allocs
  · simpa using h.known
  · intro x hx
    rw [freed_append, freed_map_free, List.mem_append, List.mem_append]
    rcases h.queued x hx with hlist | hfreed
    · exact .inr (.inr (.inl hlist))
    · exact .inr (.inl hfreed)

/-! ## Readers -/

variable [DecidableEq ι]

theorem Inv.move (h : Inv s) {i : ι} {place : Place} {refcnt : Entry → Int}
    (hknown : ∀ x, place.entryOf = some x → x ∈ allocated s.log)
    (hrefcnt : ∀ x, refcnt x = RefCount.count (· = .uses x) (update s.reader i place))
    (halive : ∀ x, place = .uses x → x ∉ freed s.log) :
    Inv { s with reader := update s.reader i place, refcnt } := by
  refine ⟨h.accounted, h.kept, h.allocs, ?_, hrefcnt, ?_, h.queued, h.armed, h.finished⟩
  · intro j x hx
    rcases eq_or_ne j i with rfl | hne
    · exact hknown x (by simpa using hx)
    · exact h.known j x (by simpa [update_of_ne hne] using hx)
  · intro j x hx
    rcases eq_or_ne j i with rfl | hne
    · exact halive x (by simpa using hx)
    · exact h.alive j x (by simpa [update_of_ne hne] using hx)

theorem Inv.refcnt_of_idle (h : Inv s) {i : ι} {place : Place} (hold : ∀ x, s.reader i ≠ .uses x)
    (hnew : ∀ x, place ≠ .uses x) (x : Entry) :
    s.refcnt x = RefCount.count (· = .uses x) (update s.reader i place) := by
  rw [h.refcnt x, RefCount.count_update_of_iff]
  exact iff_of_false (hold x) (hnew x)

theorem Inv.refcnt_update (h : Inv s) {i : ι} {entry : Entry} {place : Place} {d : Int}
    (hentry : (if place = .uses entry then 1 else 0) =
      (if s.reader i = .uses entry then 1 else 0) + d)
    (hother : ∀ x ≠ entry, place ≠ .uses x ∧ s.reader i ≠ .uses x) (x : Entry) :
    update s.refcnt entry (s.refcnt entry + d) x =
      RefCount.count (· = .uses x) (update s.reader i place) := by
  have hmove := RefCount.count_update (· = Place.uses x) s.reader i place
  rcases eq_or_ne x entry with rfl | hne
  · rw [update_self, h.refcnt x]
    split_ifs at hentry hmove <;> omega
  · rw [update_of_ne hne, h.refcnt x]
    obtain ⟨hnew, hold⟩ := hother x hne
    rw [if_neg hnew, if_neg hold] at hmove
    omega

theorem inv_lookup (h : Inv s) (i : ι) (idx : Fin 4) : Inv (s.lookup i idx) := by
  unfold State.lookup
  split
  next entry hidle hslot =>
    have hheld : entry ∈ held s := by
      apply List.mem_append_left
      exact List.mem_flatMap.mpr ⟨idx, List.mem_finRange idx, by simp [hslot]⟩
    apply h.move
    · rintro x hx
      obtain rfl : entry = x := by simpa [Place.entryOf] using hx
      exact h.accounted.mem_allocated hheld
    · exact h.refcnt_of_idle (by simp [hidle]) (by simp)
    · simp
  next => exact h

theorem inv_inc (h : Inv s) (i : ι) (hclean : ∀ x, s.reader i = .looked x → x ∉ freed s.log) :
    Inv (s.inc i) := by
  unfold State.inc
  split
  next entry hlooked =>
    apply h.move
    · rintro x hx
      exact h.known i x (by simpa [hlooked, Place.entryOf] using hx)
    · apply h.refcnt_update
      · simp [hlooked]
      · rintro x hx
        simp [hlooked, hx.symm]
    · rintro x hx
      obtain rfl : entry = x := by simpa using hx
      exact hclean entry hlooked
  next => exact h

theorem inv_dec (h : Inv s) (i : ι) : Inv (s.dec i) := by
  unfold State.dec
  split
  next entry huses =>
    apply h.move
    · rintro x hx
      exact h.known i x (by simpa [huses, Place.entryOf] using hx)
    · apply h.refcnt_update
      · simp [huses]
      · rintro x hx
        simp [huses, hx.symm]
    · simp
  next => exact h

theorem inv_leave (h : Inv s) (i : ι) : Inv (s.leave i) := by
  unfold State.leave
  split
  next entry hlooked =>
    apply h.move
    · simp [Place.entryOf]
    · exact h.refcnt_of_idle (by simp [hlooked]) (by simp)
    · simp
  next => exact h

/-! ## Steps -/

theorem inv_step (h : Inv s) {e : Event ι} (hclean : Clean s e) : Inv (step s e) := by
  unfold step
  by_cases hgone : s.gone = true
  · rw [if_pos hgone]
    exact h
  rw [if_neg hgone]
  have hgone : s.gone = false := by simpa using hgone
  cases e with
  | install idx => exact inv_install h idx
  | delayedDeinit idx => exact inv_delayedDeinit h hgone idx
  | timer =>
    dsimp only
    split
    · exact inv_handler h hgone
    · exact h
  | lookup i idx => exact inv_lookup h i idx
  | inc i => exact inv_inc h i (hclean hgone)
  | dec i => exact inv_dec h i
  | leave i => exact inv_leave h i
  | teardown => exact inv_free h (hclean hgone)

omit [Fintype ι] in
theorem newlyFreed_eq_nil {e : Event ι} (hlog : freed (step s e).log = freed s.log) :
    newlyFreed s e = [] := by
  unfold newlyFreed
  rw [hlog, List.drop_length]

omit [Fintype ι] in
theorem refcnt_of_newlyFreed {e : Event ι} {x : Entry} (hx : x ∈ newlyFreed s e)
    (he : e ≠ .teardown) : s.refcnt x = 0 := by
  -- Only a run of the timer frees anything before the end.
  by_cases hlog : freed (step s e).log = freed s.log
  · rw [newlyFreed_eq_nil hlog] at hx
    cases hx
  unfold newlyFreed at hx
  unfold step at hx hlog
  by_cases hgone : s.gone = true
  · simp [hgone] at hlog
  rw [if_neg hgone] at hx hlog
  cases e with
  | install idx =>
    refine absurd ?_ hlog
    simp only [State.install]
    split <;> simp
  | delayedDeinit idx =>
    refine absurd ?_ hlog
    simp only [rtllibCryptDelayedDeinit]
    split <;> rfl
  | timer =>
    by_cases hpending : s.timerPending = true
    · simp only [if_pos hpending, log_handler, freed_append, freed_map_free, List.drop_left] at hx
      exact mem_deinitEntries_snd _ _ hx
    · simp [hpending] at hlog
  | lookup i idx =>
    refine absurd ?_ hlog
    simp only [State.lookup]
    split <;> rfl
  | inc i =>
    refine absurd ?_ hlog
    simp only [State.inc]
    split <;> rfl
  | dec i =>
    refine absurd ?_ hlog
    simp only [State.dec]
    split <;> rfl
  | leave i =>
    refine absurd ?_ hlog
    simp only [State.leave]
    split <;> rfl
  | teardown => exact absurd rfl he

theorem Inv.right (h : Inv s) {e : Event ι} (hclean : Clean s e) : Right s e := by
  have hnext := inv_step h hclean
  refine ⟨hnext.once, hnext.finished, ?_, hnext.alive, hnext.armed⟩
  intro x hx
  rcases eq_or_ne e .teardown with he | he
  · exact .inr he
  · exact .inl (refcnt_of_newlyFreed hx he)

theorem Inv.clean (h : Inv s) {e : Event ι} (hright : Right s e) : Clean s e := by
  cases e with
  | inc i =>
    intro hgone x hlooked
    have halive := hright.alive i x
    simpa [step, hgone, State.inc, hlooked] using halive
  | teardown =>
    -- What a reader uses is in a slot or on the list, and both are freed.
    intro hgone i x huses
    have halive := hright.alive i x
    have hheld := h.held_of_uses huses
    simp only [step, hgone, freeRtllib, deinitEntries_force, Bool.false_eq_true, if_false,
      freed_append, freed_map_free, List.mem_append, not_or] at halive
    rcases List.mem_append.mp hheld with hslot | hlist
    · exact (halive huses).2.2 hslot
    · exact (halive huses).2.1 hlist
  | install idx => trivial
  | delayedDeinit idx => trivial
  | timer => trivial
  | lookup i idx => trivial
  | dec i => trivial
  | leave i => trivial

theorem freed_of_timer (h : Inv s) (hgone : s.gone = false) {x : Entry}
    (hx : x ∈ s.cryptDeinitList) (hunused : ∀ i, s.reader i ≠ .uses x) :
    x ∈ freed (step s (.timer : Event ι)).log := by
  have hpending := h.armed (List.ne_nil_of_mem hx)
  have hzero : s.refcnt x = 0 := by
    rw [h.refcnt x, RefCount.count_eq_zero hunused]
    rfl
  simp only [step, hgone, hpending, Bool.false_eq_true, if_false, if_true, log_handler, freed_append,
    freed_map_free, List.mem_append]
  exact .inr (mem_deinitEntries_of_zero _ _ hx hzero)

/-- All goes right in exactly the runs in which no reader takes its reference on an entry that was
deleted after it had looked it up, and none uses an entry at the end. -/
theorem deinit_right_iff (es : List (Event ι)) :
    Meets step Right (init : State ι) es ↔ Meets step Clean init es :=
  (meets_congr (I := Inv) (fun _ _ hs hclean => inv_step hs hclean)
    (fun _ _ hs => ⟨hs.right, hs.clean⟩) inv_init).symm

/-- The key is replaced and the timer runs between the reader's lookup and its increment. -/
def lateReader : List (Event Unit) :=
  [.install 0, .lookup () 0, .delayedDeinit 0, .timer, .inc ()]

theorem deinit_not_right : ¬ ∀ es : List (Event Unit), Meets step Right init es := by
  intro h
  have hlast := (h lateReader).2.2.2.2.1
  exact hlast.alive () 0 rfl (by decide)

end Rtl8190.Crypt.DelayedDeinit
