import Mathlib.Data.List.Perm.Subperm
import Rtl8190.Lib.Run
import Rtl8190.Reorder.Code

/-!
# The window of the reorder buffer

The proofs count without a bound: `base` is `RxIndicateSeq`, unwrapped, and an entry stands for the
number `num base e`. Near the window, the modular tests of the code compare these numbers.
-/

open Rtl8190.Circular

namespace Rtl8190.Reorder

variable {ρ : Type}

/-! ## The tests of the code -/

theorem and_800_ne_zero_iff (x : BitVec 32) : x &&& 0x800#32 != 0#32 ↔ 2048 ≤ x.toNat % 4096 := by
  rw [show 0x800#32 = BitVec.twoPow 32 11 from rfl, BitVec.and_twoPow, BitVec.getLsbD,
    Nat.testBit_eq_decide_div_mod_eq]
  split <;> simp_all [BitVec.twoPow] <;> omega

theorem snLess_iff (a b : Nat) : snLess a b ↔ 2048 ≤ dist 4096 b a := by
  rw [snLess, and_800_ne_zero_iff, BitVec.toNat_sub, BitVec.toNat_ofNat, BitVec.toNat_ofNat, Circular.dist]
  omega

/-- `SN_LESS` compares numbers that lie less than half the sequence space apart. -/
theorem snLess_mod_iff {x y : Nat} (h1 : x < y + 2048) (h2 : y ≤ x + 2048) :
    snLess (x % 4096) (y % 4096) ↔ x < y := by
  rw [snLess_iff, dist_mod_left, dist_mod_right]
  exact half_le_dist_iff h1 h2

theorem winEnd_eq {base winSize : Nat} (hW : 1 ≤ winSize) (hW' : winSize ≤ 128) :
    winEnd (base % 4096) winSize = (base + winSize - 1) % 4096 := by
  have h : (((base % 4096 + winSize : Nat) : Int) - 1) = ((base % 4096 + winSize - 1 : Nat) : Int) := by
    omega
  rw [winEnd, h, Int.tmod_eq_emod_of_nonneg (by omega)]
  omega

theorem shiftedStart_eq {winSize x : Nat} (hW : 1 ≤ winSize) (hW' : winSize ≤ 128)
    (hx : winSize ≤ x) : shiftedStart winSize (x % 4096) = (x + 1 - winSize) % 4096 := by
  unfold shiftedStart
  split <;> omega

theorem past_window_iff {base winSize x : Nat} (hW : 1 ≤ winSize) (hW' : winSize ≤ 128)
    (h1 : base ≤ x) (h2 : x < base + 2048) :
    snLess (winEnd (base % 4096) winSize) (x % 4096) ↔ base + winSize ≤ x := by
  rw [winEnd_eq hW hW', snLess_mod_iff (by omega) (by omega)]
  omega

/-- The unwrapped number of a pending packet. -/
def num (base : Nat) (e : RxReorderEntry ρ) : Nat := unwrap 4096 base e.seqNum

theorem seqNum_eq (base : Nat) {e : RxReorderEntry ρ} (he : e.seqNum < 4096) :
    e.seqNum = num base e % 4096 := by
  rw [num, unwrap_mod (by omega), Nat.mod_eq_of_lt he]

/-! ## Insertion -/

/-- `AddReorderEntry` puts the entry somewhere in the list, whatever the sequence numbers are. -/
theorem addReorderEntry_perm {new : RxReorderEntry ρ} {l l' : List (RxReorderEntry ρ)}
    (h : addReorderEntry new l = some l') : l'.Perm (new :: l) := by
  induction l generalizing l' with
  | nil =>
    simp only [addReorderEntry, Option.some.injEq] at h
    rw [← h]
  | cons next rest ih =>
    rw [addReorderEntry] at h
    split at h
    · obtain ⟨l₂, h₂, rfl⟩ := Option.map_eq_some_iff.mp h
      exact (List.Perm.cons next (ih h₂)).trans (List.Perm.swap new next rest)
    · split at h
      · cases h
      · simp only [Option.some.injEq] at h
        rw [← h]

/-- The entries close to `x`, as `SN_LESS` needs them. -/
def Close (base x : Nat) (e : RxReorderEntry ρ) : Prop :=
  e.seqNum < 4096 ∧ num base e < x + 2048 ∧ x < num base e + 2048

/-- The list stays sorted, latest packet first, and a refused number is already there. -/
theorem addReorderEntry_sorted {base : Nat} {new : RxReorderEntry ρ} {l : List (RxReorderEntry ρ)}
    (hnew : new.seqNum < 4096) (hl : ∀ e ∈ l, Close base (num base new) e)
    (hs : l.Pairwise (fun a b => num base b < num base a)) :
    match addReorderEntry new l with
    | none => ∃ e ∈ l, num base e = num base new
    | some l' => l'.Pairwise (fun a b => num base b < num base a) := by
  induction l with
  | nil => simp [addReorderEntry]
  | cons next rest ih =>
    obtain ⟨hnext, hrest⟩ := List.pairwise_cons.mp hs
    obtain ⟨hn, h1, h2⟩ := hl next List.mem_cons_self
    have hless : snLess new.seqNum next.seqNum ↔ num base new < num base next := by
      rw [seqNum_eq base hnew, seqNum_eq base hn]
      exact snLess_mod_iff (by omega) (by omega)
    have heq : new.seqNum = next.seqNum ↔ num base new = num base next := by
      rw [seqNum_eq base hnew, seqNum_eq base hn]
      exact mod_eq_iff_of_close (by omega) (by omega)
    have ih := ih (fun e he => hl e (List.mem_cons_of_mem _ he)) hrest
    rw [addReorderEntry]
    split_ifs with h3 h4
    · -- The entry goes further down the list.
      cases hr : addReorderEntry new rest with
      | none =>
        rw [hr] at ih
        obtain ⟨e, he, hen⟩ := ih
        exact ⟨e, List.mem_cons_of_mem _ he, hen⟩
      | some l' =>
        rw [hr] at ih
        refine List.pairwise_cons.mpr ⟨fun e he => ?_, ih⟩
        rcases List.mem_cons.mp ((addReorderEntry_perm hr).subset he) with rfl | he
        · exact hless.mp h3
        · exact hnext e he
    · exact ⟨next, List.mem_cons_self, (heq.mp h4).symm⟩
    · have hlt : num base next < num base new := by
        have := mt hless.mpr h3
        have := mt heq.mpr h4
        omega
      refine List.pairwise_cons.mpr ⟨fun e he => ?_, hs⟩
      rcases List.mem_cons.mp he with rfl | he
      · exact hlt
      · exact (hnext e he).trans hlt

/-! ## Release -/

/-- What a release loop does with the entries `l`: it takes the first ones, stops with the window at
`base'`, and nothing that it leaves lies at or before that. -/
structure Released (b base base' : Nat) (array : List ρ) (unused : List Nat)
    (l taken left : List (RxReorderEntry ρ)) (r : Release ρ) : Prop where
  split : l = taken ++ left
  le : base ≤ base'
  le_add : base' ≤ base + taken.length
  below : ∀ e ∈ taken, num b e < base'
  above : ∀ e ∈ left, base' < num b e
  filled : ∀ x, base ≤ x → x < base' → ∃ e ∈ taken, num b e = x
  start : r.rxIndicateSeq = base' % 4096
  array : r.array = array ++ taken.map (·.prxb)
  unused : r.rxReorderUnusedList = unused ++ taken.map (·.entry)
  pending : r.pending = left
  inBuf : r.bPktInBuf = true ↔ left ≠ []

theorem Released.stop {b base : Nat} {array : List ρ} {unused : List Nat}
    {l : List (RxReorderEntry ρ)} {buf : Bool} (h : ∀ e ∈ l, base < num b e) (hb : buf = true ↔ l ≠ []) :
    Released b base base array unused l [] l ⟨base % 4096, array, unused, l, buf⟩ where
  split := rfl
  le := le_rfl
  le_add := le_rfl
  below := by simp
  above := h
  filled := fun x h1 h2 => by omega
  start := rfl
  array := by simp
  unused := by simp
  pending := rfl
  inBuf := hb

theorem Released.cons {b base base₁ base' : Nat} {array : List ρ} {unused : List Nat}
    {prev : RxReorderEntry ρ} {rest taken left : List (RxReorderEntry ρ)} {r : Release ρ}
    (h : Released b base₁ base' (array ++ [prev.prxb]) (unused ++ [prev.entry]) rest taken left r)
    (h1 : base ≤ base₁) (h2 : base₁ ≤ base + 1) (h3 : num b prev < base₁)
    (h4 : base₁ = base + 1 → num b prev = base) :
    Released b base base' array unused (prev :: rest) (prev :: taken) left r where
  split := by rw [h.split]; rfl
  le := h1.trans h.le
  le_add := by have := h.le_add; simp only [List.length_cons]; omega
  below := by
  -- A loop that takes one entry and goes on.
    intro e he
    rcases List.mem_cons.mp he with rfl | he
    · exact h3.trans_le h.le
    · exact h.below e he
  above := h.above
  filled := by
    intro x hx hx'
    rcases Nat.lt_or_ge x base₁ with hlt | hge
    · exact ⟨prev, List.mem_cons_self, by rw [h4 (by omega)]; omega⟩
    · obtain ⟨e, he, hex⟩ := h.filled x hge hx'
      exact ⟨e, List.mem_cons_of_mem _ he, hex⟩
  start := h.start
  array := by rw [h.array]; simp
  unused := by rw [h.unused]; simp
  pending := h.pending
  inBuf := h.inBuf

theorem Released.taken_eq_nil_iff {b base base' : Nat} {array : List ρ} {unused : List Nat}
    {l taken left : List (RxReorderEntry ρ)} {r : Release ρ}
    (h : Released b base base' array unused l taken left r) :
    taken = [] ↔ ∀ e ∈ l, base < num b e := by
  constructor
  · rintro rfl e he
    rw [h.split] at he
    exact h.le.trans_lt (h.above e he)
  · intro hl
    refine List.eq_nil_iff_forall_not_mem.mpr fun e he => ?_
    have hmem : ∀ f ∈ taken, base < num b f := fun f hf => hl f (by rw [h.split]; simp [hf])
    obtain ⟨f, hf, hfb⟩ := h.filled base le_rfl ((hmem e he).trans (h.below e he))
    have := hmem f hf
    omega

/-- Everything is released when each entry from the start on continues another one. -/
theorem Released.left_eq_nil_iff {b base base' : Nat} {array : List ρ} {unused : List Nat}
    {l taken left : List (RxReorderEntry ρ)} {r : Release ρ}
    (h : Released b base base' array unused l taken left r) :
    left = [] ↔ ∀ e ∈ l, num b e < base ∨ num b e = base ∨
      ∃ f ∈ l, base ≤ num b f ∧ num b e = num b f + 1 := by
  constructor
  · rintro rfl e he
    have htaken : l = taken := by rw [h.split, List.append_nil]
    have := h.below e (htaken ▸ he)
    rcases Nat.lt_trichotomy (num b e) base with hlt | heq | hgt
    · exact Or.inl hlt
    · exact Or.inr (Or.inl heq)
    · obtain ⟨f, hf, hfe⟩ := h.filled (num b e - 1) (by omega) (by omega)
      exact Or.inr (Or.inr ⟨f, htaken ▸ hf, by omega, by omega⟩)
  · intro hl
    have hno : ∀ k, ∀ e ∈ left, num b e ≠ k := by
      intro k
      induction k with
      | zero =>
        intro e he
        have := h.above e he
        omega
      | succ k ih =>
        intro e he hk
        have := h.above e he
        have := h.le
        rcases hl e (by rw [h.split]; simp [he]) with hlt | heq | ⟨f, hf, hbf, hfe⟩
        · omega
        · omega
        · rw [h.split] at hf
          rcases List.mem_append.mp hf with hf | hf
          · have := h.below f hf
            omega
          · exact ih f hf (by omega)
    exact List.eq_nil_iff_forall_not_mem.mpr fun e he => hno _ e he rfl

theorem indicateLoop_spec {b : Nat} (base : Nat) (array : List ρ) (unused : List Nat)
    {l : List (RxReorderEntry ρ)} (hl : ∀ e ∈ l, Close b base e)
    (hs : l.Pairwise (fun a c => num b a < num b c)) (hlen : array.length + l.length ≤ 128) :
    ∃ base' taken left, Released b base base' array unused l taken left
      (indicateLoop (base % 4096) array unused l) := by
  induction l generalizing base array unused with
  | nil => exact ⟨base, [], [], .stop (by simp) (by simp)⟩
  | cons prev rest ih =>
    obtain ⟨hprev, hrest⟩ := List.pairwise_cons.mp hs
    obtain ⟨hn, h1, h2⟩ := hl prev List.mem_cons_self
    have hless : snLess prev.seqNum (base % 4096) ↔ num b prev < base := by
      rw [seqNum_eq b hn]
      exact snLess_mod_iff (by omega) (by omega)
    have heq : prev.seqNum = base % 4096 ↔ num b prev = base := by
      rw [seqNum_eq b hn]
      exact mod_eq_iff_of_close (by omega) (by omega)
    simp only [List.length_cons] at hlen
    rw [indicateLoop]
    split_ifs with h3 h4
    · simp only [reorderWinSize] at h4
      omega
    · -- The entry is taken, and the window moves when it stood at its start.
      obtain ⟨base₁, hb₁, hle, hle', hlt, hmove⟩ : ∃ base₁,
          nextIndicateSeq prev (base % 4096) = base₁ % 4096 ∧ base ≤ base₁ ∧ base₁ ≤ base + 1 ∧
            num b prev < base₁ ∧ (base₁ = base + 1 → num b prev = base) := by
        simp only [nextIndicateSeq, heq]
        split_ifs with h5
        · exact ⟨base + 1, by omega, by omega, by omega, by omega, fun _ => h5⟩
        · simp only [releasable, Bool.or_eq_true, beq_iff_eq, hless, heq] at h3
          exact ⟨base, rfl, le_rfl, by omega, by omega, by omega⟩
      rw [hb₁]
      obtain ⟨base', taken, left, h⟩ := ih base₁ (array ++ [prev.prxb]) (unused ++ [prev.entry])
        (fun e he => by
          obtain ⟨he₁, he₂, he₃⟩ := hl e (List.mem_cons_of_mem _ he)
          have := hprev e he
          exact ⟨he₁, by omega, by omega⟩)
        hrest (by simp only [List.length_append, List.length_singleton]; omega)
      exact ⟨base', prev :: taken, left, h.cons hle hle' hlt hmove⟩
    · -- The entry lies past the start of the window, and so do the entries behind it.
      simp only [releasable, Bool.or_eq_true, beq_iff_eq, hless, heq, not_or] at h3
      refine ⟨base, [], prev :: rest, .stop (fun e he => ?_) (by simp)⟩
      rcases List.mem_cons.mp he with rfl | he
      · omega
      · have := hprev e he
        omega

/-- After its first entry, the timer's loop is the other loop, since the array has room. -/
theorem timeoutLoop_eq {I : Nat} {array : List ρ} {unused : List Nat} {l : List (RxReorderEntry ρ)}
    (harr : array ≠ []) (hlen : array.length + l.length ≤ 128) :
    timeoutLoop I array unused l = indicateLoop I array unused l := by
  induction l generalizing I array unused with
  | nil => rfl
  | cons prev rest ih =>
    have h0 : array.length ≠ 0 := fun h => harr (List.eq_nil_of_length_eq_zero h)
    simp only [List.length_cons] at hlen
    have hroom : ¬ array.length ≥ reorderWinSize := by simp only [reorderWinSize]; omega
    simp only [timeoutLoop, indicateLoop, h0, hroom, if_false]
    split
    · exact ih (by simp) (by simp only [List.length_append, List.length_singleton]; omega)
    · rfl

theorem timeoutLoop_spec {b base : Nat} {unused : List Nat} {l : List (RxReorderEntry ρ)}
    (hl : ∀ e ∈ l, Close b base e ∧ base ≤ num b e)
    (hs : l.Pairwise (fun a c => num b a < num b c)) (hlen : l.length ≤ 128) (hne : l ≠ []) :
    ∃ base' taken left, base ≤ base' ∧ taken ≠ [] ∧
      Released b (num b (l.head hne)) base' [] unused l taken left
        (timeoutLoop (base % 4096) [] unused l) := by
  -- The timer moves the window to the first entry and releases from there.
  match l, hne with
  | prev :: rest, _ =>
    obtain ⟨hprev, hrest⟩ := List.pairwise_cons.mp hs
    obtain ⟨⟨hn, h1, h2⟩, h3⟩ := hl prev List.mem_cons_self
    simp only [List.length_cons] at hlen
    have hnext : nextIndicateSeq prev prev.seqNum = (num b prev + 1) % 4096 := by
      rw [nextIndicateSeq, if_pos rfl]
      conv_lhs => rw [seqNum_eq b hn]
      omega
    rw [timeoutLoop]
    simp only [List.length_nil, if_true, releasable, beq_self_eq_true, Bool.or_true, hnext]
    rw [timeoutLoop_eq (by simp) (by simp only [List.nil_append, List.length_singleton]; omega)]
    obtain ⟨base', taken, left, h⟩ := indicateLoop_spec (b := b) (num b prev + 1)
      ([] ++ [prev.prxb]) (unused ++ [prev.entry]) (l := rest)
      (fun e he => by
        obtain ⟨⟨he₁, he₂, he₃⟩, he₄⟩ := hl e (List.mem_cons_of_mem _ he)
        have := hprev e he
        exact ⟨he₁, by omega, by omega⟩)
      hrest (by simp only [List.nil_append, List.length_singleton]; omega)
    have := h.le
    exact ⟨base', prev :: taken, left, by omega, by simp, h.cons (by simp) (by simp) (by simp) (fun _ => rfl)⟩

/-! ## The end of a call -/

@[simp] theorem indicateAndArm_rxIndicateSeq (pTS : RxTsRecord ρ) (r : Release ρ) (freed : List ρ) :
    (indicateAndArm pTS r freed).pTS.rxIndicateSeq = r.rxIndicateSeq := by
  simp only [indicateAndArm]
  split_ifs <;> rfl

@[simp] theorem indicateAndArm_rxPendingPktList (pTS : RxTsRecord ρ) (r : Release ρ)
    (freed : List ρ) : (indicateAndArm pTS r freed).pTS.rxPendingPktList = r.pending.reverse := by
  simp only [indicateAndArm]
  split_ifs <;> rfl

@[simp] theorem indicateAndArm_unused (pTS : RxTsRecord ρ) (r : Release ρ) (freed : List ρ) :
    (indicateAndArm pTS r freed).rxReorderUnusedList = r.rxReorderUnusedList := by
  simp only [indicateAndArm]
  split_ifs <;> rfl

@[simp] theorem indicateAndArm_freed (pTS : RxTsRecord ρ) (r : Release ρ) (freed : List ρ) :
    (indicateAndArm pTS r freed).freed = freed := by
  simp only [indicateAndArm]
  split_ifs <;> rfl

theorem indicateAndArm_indicated {pTS : RxTsRecord ρ} {r : Release ρ} {freed : List ρ}
    (h : r.array.length ≤ 128) : (indicateAndArm pTS r freed).indicated = r.array := by
  have hfit : ¬ r.array.length > reorderWinSize := by simp only [reorderWinSize]; omega
  simp only [indicateAndArm, hfit, if_false]
  split
  · rfl
  · have : r.array = [] := List.eq_nil_of_length_eq_zero (by omega)
    split <;> simp [this]

/-! ## One call -/

/-- The window invariant: the pending packets lie strictly inside `(base, base + winSize)`, sorted
and without duplicates, latest packet first. -/
structure Windowed (winSize base : Nat) (pTS : RxTsRecord ρ) : Prop where
  start : pTS.rxIndicateSeq = base % 4096
  range : ∀ e ∈ pTS.rxPendingPktList,
    e.seqNum < 4096 ∧ base < num base e ∧ num base e < base + winSize
  sorted : pTS.rxPendingPktList.Pairwise (fun a b => num base b < num base a)

/-- What a call does: of the packets `l` it indicates the first ones and moves the window to
`base'`, past each of them. -/
structure Stepped (winSize base base' : Nat) (l taken left : List (RxReorderEntry ρ))
    (r : Result ρ) : Prop where
  le : base ≤ base'
  lt : base' < base + 4096
  sorted : l.Pairwise (fun a b => num base a < num base b)
  range : ∀ e ∈ l, e.seqNum < 4096 ∧ base ≤ num base e
  split : l = taken ++ left
  below : ∀ e ∈ taken, num base e < base'
  above : ∀ e ∈ left, base' < num base e ∧ num base e < base' + winSize
  start : r.pTS.rxIndicateSeq = base' % 4096
  indicated : r.indicated = taken.map (·.prxb)
  pending : r.pTS.rxPendingPktList = left.reverse

theorem Stepped.num_eq {winSize base base' : Nat} {l taken left : List (RxReorderEntry ρ)}
    {r : Result ρ} (h : Stepped winSize base base' l taken left r) {e : RxReorderEntry ρ}
    (he : e ∈ left) : num base' e = num base e :=
  unwrap_rebase h.le (h.above e he).1.le (by omega)

theorem Stepped.windowed {winSize base base' : Nat} {l taken left : List (RxReorderEntry ρ)}
    {r : Result ρ} (h : Stepped winSize base base' l taken left r) :
    Windowed winSize base' r.pTS := by
  have hleft : ∀ e ∈ left, e ∈ l := fun e he => by rw [h.split]; exact List.mem_append_right _ he
  refine ⟨h.start, fun e he => ?_, ?_⟩
  · rw [h.pending, List.mem_reverse] at he
    rw [h.num_eq he]
    exact ⟨(h.range e (hleft e he)).1, h.above e he⟩
  · rw [h.pending, List.pairwise_reverse]
    have hs : left.Pairwise (fun a b => num base a < num base b) := by
      have := h.sorted
      rw [h.split] at this
      exact (List.pairwise_append.mp this).2.1
    exact hs.imp_of_mem fun ha hb hab => by rwa [h.num_eq ha, h.num_eq hb]

theorem length_le_of_sorted {α : Type} (f : α → Nat) {l : List α} (lo : Nat) {k : Nat}
    (hs : l.Pairwise (fun a b => f a < f b)) (h : ∀ a ∈ l, lo ≤ f a ∧ f a < lo + k) :
    l.length ≤ k := by
  have hnd : (l.map f).Nodup := List.pairwise_map.mpr (hs.imp fun h => h.ne)
  have hsub : l.map f ⊆ List.range' lo k := by
    intro x hx
    obtain ⟨a, ha, rfl⟩ := List.mem_map.mp hx
    exact List.mem_range'_1.mpr (h a ha)
  simpa using (List.subperm_of_subset hnd hsub).length_le

theorem Windowed.length_lt {winSize base : Nat} {pTS : RxTsRecord ρ}
    (h : Windowed winSize base pTS) (hW : 1 ≤ winSize) : pTS.rxPendingPktList.length < winSize := by
  have := length_le_of_sorted (num base) (l := pTS.rxPendingPktList.reverse) (base + 1)
    (k := winSize - 1) (List.pairwise_reverse.mpr h.sorted) (fun e he => by
      have := h.range e (List.mem_reverse.mp he)
      omega)
  rw [List.length_reverse] at this
  omega

theorem bufferPacket_spec {winSize base : Nat} {pTS : RxTsRecord ρ} {unused : List Nat} {prxb : ρ}
    {seqNum : Nat} (h : Windowed winSize base pTS) (hW : winSize ≤ 128) (hs : seqNum < 4096)
    (hx : unwrap 4096 base seqNum < base + 2048) :
    let b := bufferPacket unused prxb seqNum pTS.rxPendingPktList
    b.rxPendingPktList.Pairwise (fun a c => num base c < num base a) ∧
      b.rxPendingPktList.length ≤ pTS.rxPendingPktList.length + 1 ∧
      ∀ e ∈ b.rxPendingPktList, e ∈ pTS.rxPendingPktList ∨ e.seqNum = seqNum ∧ e.prxb = prxb := by
  -- The pending list after the current packet was buffered or freed.
  unfold bufferPacket
  match unused with
  | [] => exact ⟨h.sorted, by simp, fun e he => Or.inl he⟩
  | entry :: unused =>
    simp only
    have hclose : ∀ e ∈ pTS.rxPendingPktList,
        Close base (num base (⟨entry, seqNum, prxb⟩ : RxReorderEntry ρ)) e := by
      intro e he
      obtain ⟨h1, h2, h3⟩ := h.range e he
      have := le_unwrap (n := 4096) base seqNum
      exact ⟨h1, by simp only [num] at *; omega, by simp only [num] at *; omega⟩
    have hsorted := addReorderEntry_sorted hs hclose h.sorted
    cases hadd : addReorderEntry ⟨entry, seqNum, prxb⟩ pTS.rxPendingPktList with
    | none => exact ⟨h.sorted, by simp, fun e he => Or.inl he⟩
    | some pending =>
      rw [hadd] at hsorted
      have hperm := addReorderEntry_perm hadd
      refine ⟨hsorted, by simp [hperm.length_eq], fun e he => ?_⟩
      rcases List.mem_cons.mp (hperm.subset he) with rfl | he
      · exact Or.inr ⟨rfl, rfl⟩
      · exact Or.inl he

/-! ## The three ways a packet takes -/

theorem Released.stepped {winSize base base₁ base' : Nat} {unused : List Nat}
    {p l taken left : List (RxReorderEntry ρ)} {r : Release ρ}
    (h : Released base base₁ base' (p.map (·.prxb)) unused l taken left r) (pTS : RxTsRecord ρ)
    (freed : List ρ) (hsorted : (p ++ l).Pairwise (fun a b => num base a < num base b))
    (hpre : ∀ e ∈ p, num base e < base₁)
    (hrange : ∀ e ∈ p ++ l, e.seqNum < 4096 ∧ base ≤ num base e ∧ num base e < base₁ + winSize)
    (hle : base ≤ base₁) (hlt : base₁ ≤ base + 2048) (hlen : p.length + l.length ≤ 128) :
    Stepped winSize base base' (p ++ l) (p ++ taken) left (indicateAndArm pTS r freed) := by
  have htaken : taken.length ≤ l.length := by rw [h.split]; simp
  have := h.le
  have := h.le_add
  refine
    { le := by omega, lt := by omega, sorted := hsorted,
      range := fun e he => ⟨(hrange e he).1, (hrange e he).2.1⟩,
      split := by rw [h.split, List.append_assoc], below := fun e he => ?_,
      above := fun e he => ?_, start := by simp [h.start], indicated := ?_,
      pending := by simp [h.pending] }
  · rcases List.mem_append.mp he with he | he
    · exact (hpre e he).trans_le h.le
    · exact h.below e he
  · have := (hrange e (by rw [h.split]; simp [he])).2.2
    exact ⟨h.above e he, by omega⟩
  · have harray : r.array = (p ++ taken).map (·.prxb) := by rw [h.array, List.map_append]
    rw [indicateAndArm_indicated (by rw [harray, List.length_map, List.length_append]; omega), harray]

section Packet

variable {winSize base : Nat} {pTS : RxTsRecord ρ} {unused : List Nat} {prxb : ρ} {seqNum : Nat}

theorem Windowed.start_ne (h : Windowed winSize base pTS) : pTS.rxIndicateSeq ≠ 0xffff := by
  rw [h.start]
  omega

theorem snLess_start_iff (h : Windowed winSize base pTS) :
    snLess seqNum pTS.rxIndicateSeq ↔ base + 2048 ≤ unwrap 4096 base seqNum := by
  rw [snLess_iff, h.start, dist_mod_left, unwrap]
  omega

theorem packet_dropped (h : Windowed winSize base pTS)
    (hx : base + 2048 ≤ unwrap 4096 base seqNum) :
    rxReorderIndicatePacket winSize unused prxb pTS seqNum = ⟨pTS, unused, [], [prxb]⟩ := by
  have hless := (snLess_start_iff h).mpr hx
  simp only [rxReorderIndicatePacket, h.start_ne, if_false, hless, if_true]

variable (unused prxb) in
/-- A packet at the start of the window is indicated, with those that follow it. -/
theorem packet_inOrder (h : Windowed winSize base pTS) (hW : 1 ≤ winSize) (hW' : winSize ≤ 128)
    (hs : seqNum < 4096) (hx : unwrap 4096 base seqNum = base) :
    ∃ base' taken left r,
      rxReorderIndicatePacket winSize unused prxb pTS seqNum = indicateAndArm pTS r [] ∧
      Released base (base + 1) base' [prxb] unused pTS.rxPendingPktList.reverse taken left r ∧
      Stepped winSize base base' (⟨0, seqNum, prxb⟩ :: pTS.rxPendingPktList.reverse)
        (⟨0, seqNum, prxb⟩ :: taken) left (indicateAndArm pTS r []) := by
  have hseq : seqNum = base % 4096 := by rw [← hx, unwrap_mod (by omega), Nat.mod_eq_of_lt hs]
  have hless : ¬ snLess seqNum pTS.rxIndicateSeq := by
    rw [snLess_start_iff h]
    omega
  have hlen := h.length_lt hW
  have hmem : ∀ e ∈ pTS.rxPendingPktList.reverse,
      e.seqNum < 4096 ∧ base < num base e ∧ num base e < base + winSize :=
    fun e he => h.range e (List.mem_reverse.mp he)
  obtain ⟨base', taken, left, hr⟩ := indicateLoop_spec (b := base) (base + 1) [prxb] unused
    (l := pTS.rxPendingPktList.reverse)
    (fun e he => by
      obtain ⟨h1, h2, h3⟩ := hmem e he
      exact ⟨h1, by omega, by omega⟩)
    (List.pairwise_reverse.mpr h.sorted)
    (by simp only [List.length_singleton, List.length_reverse]; omega)
  refine ⟨base', taken, left, _, ?_, hr, ?_⟩
  · have hnext : (pTS.rxIndicateSeq + 1) % 4096 = (base + 1) % 4096 := by rw [h.start]; omega
    have heq : seqNum = pTS.rxIndicateSeq := by rw [h.start, hseq]
    simp only [rxReorderIndicatePacket, h.start_ne, if_false, hless, if_pos heq, hnext]
    rfl
  · have hnum : num base (⟨0, seqNum, prxb⟩ : RxReorderEntry ρ) = base := hx
    refine hr.stepped (p := [⟨0, seqNum, prxb⟩]) pTS [] ?_ ?_ ?_ (by omega) (by omega) ?_
    · refine List.pairwise_cons.mpr ⟨fun e he => ?_, List.pairwise_reverse.mpr h.sorted⟩
      rw [hnum]
      exact (hmem e he).2.1
    · simp [hnum]
    · intro e he
      rcases List.mem_append.mp he with he | he
      · rw [List.mem_singleton.mp he, hnum]
        exact ⟨hs, by omega, by omega⟩
      · have := hmem e he
        exact ⟨this.1, by omega, by omega⟩
    · simp only [List.length_singleton, List.length_reverse]
      omega

/-- The start of the window before a buffered packet `x` is released or kept. -/
def startFor (winSize base x : Nat) : Nat := if base + winSize ≤ x then x + 1 - winSize else base

variable (unused prxb) in
theorem bufferPacket_range (h : Windowed winSize base pTS) (hW : 1 ≤ winSize) (hW' : winSize ≤ 128)
    (hs : seqNum < 4096) (hx : base < unwrap 4096 base seqNum)
    (hx' : unwrap 4096 base seqNum < base + 2048) :
    ∀ e ∈ (bufferPacket unused prxb seqNum pTS.rxPendingPktList).rxPendingPktList,
      Close base (startFor winSize base (unwrap 4096 base seqNum)) e ∧ base ≤ num base e ∧
        num base e < startFor winSize base (unwrap 4096 base seqNum) + winSize := by
  intro e he
  have hnum : (base < num base e ∧ num base e < base + winSize) ∨
      num base e = unwrap 4096 base seqNum := by
    rcases (bufferPacket_spec h hW' hs hx').2.2 e he with he | he
    · exact Or.inl (h.range e he).2
    · exact Or.inr (by rw [num, he.1])
  have hseq : e.seqNum < 4096 := by
    rcases (bufferPacket_spec h hW' hs hx').2.2 e he with he | he
    · exact (h.range e he).1
    · rw [he.1]; exact hs
  unfold startFor
  split
  · exact ⟨⟨hseq, by omega, by omega⟩, by omega, by omega⟩
  · exact ⟨⟨hseq, by omega, by omega⟩, by omega, by omega⟩

variable (unused prxb) in
/-- Every other packet is buffered, and the window shifts when the packet lies past it. -/
theorem packet_buffered (h : Windowed winSize base pTS) (hW : 1 ≤ winSize) (hW' : winSize ≤ 128)
    (hs : seqNum < 4096) (hx : base < unwrap 4096 base seqNum)
    (hx' : unwrap 4096 base seqNum < base + 2048) :
    let b := bufferPacket unused prxb seqNum pTS.rxPendingPktList
    let base₁ := startFor winSize base (unwrap 4096 base seqNum)
    ∃ base' taken left r,
      rxReorderIndicatePacket winSize unused prxb pTS seqNum = indicateAndArm pTS r b.freed ∧
      Released base base₁ base' [] b.rxReorderUnusedList b.rxPendingPktList.reverse taken left r ∧
      Stepped winSize base base' b.rxPendingPktList.reverse taken left
        (indicateAndArm pTS r b.freed) := by
  intro b base₁
  have hseq : seqNum = unwrap 4096 base seqNum % 4096 := by
    rw [unwrap_mod (by omega), Nat.mod_eq_of_lt hs]
  have hless : ¬ snLess seqNum pTS.rxIndicateSeq := by
    rw [snLess_start_iff h]
    omega
  have hne : seqNum ≠ pTS.rxIndicateSeq := by
    rw [h.start, hseq, Ne, mod_eq_iff_of_close (by omega) (by omega)]
    omega
  have hlen := h.length_lt hW
  obtain ⟨hsorted, hblen, hbmem⟩ := bufferPacket_spec h hW' hs hx'
  have hstart : (if snLess (winEnd pTS.rxIndicateSeq winSize) seqNum then shiftedStart winSize seqNum
      else pTS.rxIndicateSeq) = base₁ % 4096 := by
    have hpast : snLess (winEnd pTS.rxIndicateSeq winSize) seqNum ↔
        base + winSize ≤ unwrap 4096 base seqNum := by
      have hpast := past_window_iff hW hW' hx.le hx'
      rwa [← hseq, ← h.start] at hpast
    simp only [hpast, base₁, startFor]
    split
    · conv_lhs => rw [hseq]
      exact shiftedStart_eq hW hW' (by omega)
    · exact h.start
  have hrange : ∀ e ∈ b.rxPendingPktList.reverse,
      e.seqNum < 4096 ∧ base ≤ num base e ∧ num base e < base₁ + winSize := fun e he => by
    have := bufferPacket_range unused prxb h hW hW' hs hx hx' e (List.mem_reverse.mp he)
    exact ⟨this.1.1, this.2⟩
  have hbase : base ≤ base₁ ∧ base₁ ≤ base + 2048 := by
    simp only [base₁, startFor]
    split <;> omega
  have hblen' : b.rxPendingPktList.reverse.length ≤ 128 := by
    rw [List.length_reverse]
    exact hblen.trans (by omega)
  obtain ⟨base', taken, left, hr⟩ := indicateLoop_spec (b := base) base₁ []
    b.rxReorderUnusedList (l := b.rxPendingPktList.reverse)
    (fun e he => (bufferPacket_range unused prxb h hW hW' hs hx hx' e (List.mem_reverse.mp he)).1)
    (List.pairwise_reverse.mpr hsorted) (by simpa using hblen')
  refine ⟨base', taken, left, _, ?_, hr, ?_⟩
  · simp only [rxReorderIndicatePacket, h.start_ne, if_false, hless, hne, hstart]
    rfl
  · simpa using hr.stepped (p := []) pTS b.freed (by simpa using List.pairwise_reverse.mpr hsorted)
      (by simp) (by simpa using hrange) hbase.1 hbase.2 (by simpa using hblen')

theorem packet_fresh (h : pTS.rxIndicateSeq = 0xffff) (hs : seqNum < 4096) :
    rxReorderIndicatePacket winSize unused prxb pTS seqNum =
      rxReorderIndicatePacket winSize unused prxb { pTS with rxIndicateSeq := seqNum } seqNum := by
  have hne : seqNum ≠ 0xffff := by omega
  have hless : ¬ snLess seqNum seqNum := by
    rw [snLess_iff, Circular.dist_self (by omega)]
    omega
  simp only [rxReorderIndicatePacket, h, hne, if_true, if_false, hless]
  rfl

theorem windowed_fresh (hs : seqNum < 4096) (hp : pTS.rxPendingPktList = []) :
    Windowed winSize seqNum { pTS with rxIndicateSeq := seqNum } where
  start := (Nat.mod_eq_of_lt hs).symm
  range := by simp [hp]
  sorted := by simp [hp]

end Packet

/-! ## The timer -/

theorem timeout_idle {pTS : RxTsRecord ρ} {unused : List Nat}
    (h : pTS.rxTimeoutIndicateSeq = 0xffff ∨ pTS.rxPendingPktList = []) :
    rxPktPendingTimeout unused pTS = ⟨{ pTS with rxPktPendingTimer := false }, unused, [], []⟩ := by
  simp only [rxPktPendingTimeout]
  split_ifs with hseq
  · have hp := h.resolve_left hseq
    simp [hp, timeoutLoop, indicateAndArm]
  · rfl

theorem timeout_release {winSize base : Nat} {pTS : RxTsRecord ρ} (unused : List Nat)
    (h : Windowed winSize base pTS) (hW : 1 ≤ winSize) (hW' : winSize ≤ 128)
    (hseq : pTS.rxTimeoutIndicateSeq ≠ 0xffff) (hp : pTS.rxPendingPktList.reverse ≠ []) :
    ∃ base' taken left r,
      rxPktPendingTimeout unused pTS = indicateAndArm { pTS with rxPktPendingTimer := false } r [] ∧
      taken ≠ [] ∧
      Released base (num base (pTS.rxPendingPktList.reverse.head hp)) base' [] unused
        pTS.rxPendingPktList.reverse taken left r ∧
      Stepped winSize base base' pTS.rxPendingPktList.reverse taken left
        (indicateAndArm { pTS with rxPktPendingTimer := false } r []) := by
  -- Otherwise it moves the window to the first pending packet.
  have hlen := h.length_lt hW
  have hmem : ∀ e ∈ pTS.rxPendingPktList.reverse,
      e.seqNum < 4096 ∧ base < num base e ∧ num base e < base + winSize :=
    fun e he => h.range e (List.mem_reverse.mp he)
  have hsorted := List.pairwise_reverse.mpr h.sorted
  have hlen' : pTS.rxPendingPktList.reverse.length ≤ 128 := by rw [List.length_reverse]; omega
  obtain ⟨base', taken, left, -, hne, hr⟩ := timeoutLoop_spec (b := base) (l := pTS.rxPendingPktList.reverse)
    (fun e he => by
      obtain ⟨h1, h2, h3⟩ := hmem e he
      exact ⟨⟨h1, by omega, by omega⟩, h2.le⟩)
    hsorted hlen' hp
  refine ⟨base', taken, left, _, ?_, hne, hr, ?_⟩
  · simp only [rxPktPendingTimeout, Ne, hseq, not_false_eq_true, if_true, ← h.start]
  · have hhead := hmem _ (List.head_mem hp)
    refine hr.stepped (p := []) _ [] hsorted (by simp) (fun e he => ?_) hhead.2.1.le (by omega)
      (by simpa using hlen')
    have := hmem e he
    exact ⟨this.1, this.2.1.le, by omega⟩

end Rtl8190.Reorder
