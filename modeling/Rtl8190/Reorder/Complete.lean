import Mathlib.Data.List.Sort
import Rtl8190.Reorder.Pool

/-!
# Nothing is lost inside the window

Peers number the packets of their streams without a bound and send the numbers modulo 4096. The
link repeats packets and brings them in any order, but a packet overtakes fewer than `winSize`
others. The streams share the pool. Then no packet is skipped: each stream is indicated as it was
sent.
-/

open Rtl8190.Circular Rtl8190.Run

namespace Rtl8190.Reorder.Complete

/-! ## Intervals -/

/-- A sorted list whose members are the numbers of an interval is that interval. -/
theorem eq_range' {l : List Nat} {lo hi : Nat} (hs : l.Pairwise (· < ·))
    (h : ∀ x, x ∈ l ↔ lo ≤ x ∧ x < hi) : l = List.range' lo (hi - lo) := by
  refine hs.eq_of_mem_iff List.pairwise_lt_range' fun x => ?_
  rw [h, List.mem_range'_1]
  omega

theorem range'_extend {lo mid hi : Nat} (h1 : lo ≤ mid) (h2 : mid ≤ hi) :
    List.range' lo (mid - lo) ++ List.range' mid (hi - mid) = List.range' lo (hi - lo) := by
  have h := List.range'_append_1 (s := lo) (m := mid - lo) (n := hi - mid)
  rwa [show lo + (mid - lo) = mid by omega, show mid - lo + (hi - mid) = hi - lo by omega] at h

/-! ## One stream -/

section Stream

variable {ρ : Type}

/-- With an entry in the pool the packet ends up pending, unless its number is already there. -/
theorem bufferPacket_keeps {winSize base : Nat} {pTS : RxTsRecord ρ} {unused : List Nat} {prxb : ρ}
    {seqNum : Nat} (h : Windowed winSize base pTS) (hW : winSize ≤ 128) (hs : seqNum < 4096)
    (hx : unwrap 4096 base seqNum < base + 2048) (hpool : unused ≠ []) :
    let b := bufferPacket unused prxb seqNum pTS.rxPendingPktList
    (∀ e ∈ pTS.rxPendingPktList, e ∈ b.rxPendingPktList) ∧
      ∃ e ∈ b.rxPendingPktList, num base e = unwrap 4096 base seqNum := by
  obtain ⟨entry, unused, rfl⟩ := List.exists_cons_of_ne_nil hpool
  have hclose : ∀ e ∈ pTS.rxPendingPktList,
      Close base (num base (⟨entry, seqNum, prxb⟩ : RxReorderEntry ρ)) e := by
    intro e he
    obtain ⟨h1, h2, h3⟩ := h.range e he
    have := le_unwrap (n := 4096) base seqNum
    exact ⟨h1, by simp only [num] at *; omega, by simp only [num] at *; omega⟩
  have hsorted := addReorderEntry_sorted hs hclose h.sorted
  simp only [bufferPacket]
  cases hadd : addReorderEntry ⟨entry, seqNum, prxb⟩ pTS.rxPendingPktList with
  | none =>
    rw [hadd] at hsorted
    exact ⟨fun e he => he, hsorted⟩
  | some pending =>
    have hperm := addReorderEntry_perm hadd
    exact ⟨fun e he => hperm.symm.subset (List.mem_cons_of_mem _ he),
      _, hperm.symm.subset List.mem_cons_self, rfl⟩

/-- The receiver has caught up with the numbers `arrived` of a stream that began with `first`:
everything before the window is indicated in order, and everything behind it waits. -/
structure Caught (winSize first base : Nat) (packet : Nat → ρ) (arrived : Nat → Prop)
    (pTS : RxTsRecord ρ) (indicated : List ρ) : Prop where
  window : Windowed winSize base pTS
  le : first ≤ base
  before : ∀ x, first ≤ x → x < base → arrived x
  missing : ¬ arrived base
  indicated : indicated = (List.range' first (base - first)).map packet
  pending : ∀ e ∈ pTS.rxPendingPktList, arrived (num base e) ∧ e.prxb = packet (num base e)
  waiting : ∀ x, base < x → arrived x → ∃ e ∈ pTS.rxPendingPktList, num base e = x

variable {winSize first base : Nat} {packet : Nat → ρ} {arrived : Nat → Prop} {pTS : RxTsRecord ρ}
  {indicated : List ρ}

theorem Caught.fresh (hp : pTS.rxPendingPktList = []) (harr : ∀ x, ¬ arrived x) :
    Caught winSize first first packet arrived { pTS with rxIndicateSeq := first % 4096 } [] where
  window := ⟨rfl, by simp [hp], by simp [hp]⟩
  le := le_rfl
  before := fun x h1 h2 => absurd h2 (by omega)
  missing := harr first
  indicated := by simp
  pending := by simp [hp]
  waiting := fun x _ hx => absurd hx (harr x)

/-- What a call indicates continues what was indicated before, when the packets `l` that it works
on are those that have arrived and it takes a whole interval of them. -/
theorem Caught.stepped (h : Caught winSize first base packet arrived pTS indicated)
    {arrived' : Nat → Prop} {base' : Nat} {l taken left : List (RxReorderEntry ρ)} {r : Result ρ}
    (hstep : Stepped winSize base base' l taken left r)
    (hfilled : ∀ x, base ≤ x → x < base' → ∃ e ∈ taken, num base e = x)
    (hsome : ∀ x, arrived x → arrived' x)
    (hl : ∀ e ∈ l, arrived' (num base e) ∧ e.prxb = packet (num base e))
    (hall : ∀ x, base ≤ x → arrived' x → ∃ e ∈ l, num base e = x) :
    Caught winSize first base' packet arrived' r.pTS (indicated ++ r.indicated) := by
  have htaken : ∀ e ∈ taken, e ∈ l := fun e he => by rw [hstep.split]; exact List.mem_append_left _ he
  have hleft : ∀ e ∈ left, e ∈ l := fun e he => by rw [hstep.split]; exact List.mem_append_right _ he
  -- The taken packets are the interval from `base` to `base'`.
  have hsorted : (taken.map (num base)).Pairwise (· < ·) := by
    have := hstep.sorted
    rw [hstep.split] at this
    exact List.pairwise_map.mpr (List.pairwise_append.mp this).1
  have hnums : taken.map (num base) = List.range' base (base' - base) := by
    refine eq_range' hsorted fun x => ?_
    rw [List.mem_map]
    constructor
    · rintro ⟨e, he, rfl⟩
      exact ⟨(hstep.range e (htaken e he)).2, hstep.below e he⟩
    · rintro ⟨h1, h2⟩
      exact hfilled x h1 h2
  have hprxb : taken.map (·.prxb) = (List.range' base (base' - base)).map packet := by
    rw [← hnums, List.map_map]
    exact List.map_congr_left fun e he => (hl e (htaken e he)).2
  -- A number behind the new start is not among the taken ones.
  have hbehind : ∀ x, base' ≤ x → arrived' x → ∃ e ∈ left, num base e = x := by
    intro x hx harr
    obtain ⟨e, he, rfl⟩ := hall x (hstep.le.trans hx) harr
    rw [hstep.split] at he
    rcases List.mem_append.mp he with he | he
    · exact absurd (hstep.below e he) (by omega)
    · exact ⟨e, he, rfl⟩
  refine ⟨hstep.windowed, h.le.trans hstep.le, fun x h1 h2 => ?_, fun harr => ?_, ?_, fun e he => ?_,
    fun x hx harr => ?_⟩
  · rcases Nat.lt_or_ge x base with hlt | hge
    · exact hsome x (h.before x h1 hlt)
    · obtain ⟨e, he, rfl⟩ := hfilled x hge h2
      exact (hl e (htaken e he)).1
  · obtain ⟨e, he, heq⟩ := hbehind base' le_rfl harr
    have := (hstep.above e he).1
    omega
  · rw [h.indicated, hstep.indicated, hprxb, ← List.map_append, range'_extend h.le hstep.le]
  · rw [hstep.pending, List.mem_reverse] at he
    rw [hstep.num_eq he]
    exact hl e (hleft e he)
  · obtain ⟨e, he, rfl⟩ := hbehind x hx.le harr
    exact ⟨e, by rw [hstep.pending]; exact List.mem_reverse.mpr he, hstep.num_eq he⟩

theorem Caught.inOrder (h : Caught winSize first base packet arrived pTS indicated)
    (hW : 1 ≤ winSize) (hW' : winSize ≤ 128) (unused : List Nat) :
    let r := rxReorderIndicatePacket winSize unused (packet base) pTS (base % 4096)
    ∃ base', Caught winSize first base' packet (fun x => arrived x ∨ x = base) r.pTS
      (indicated ++ r.indicated) := by
  -- The packet that was missing.
  have hbase : unwrap 4096 base (base % 4096) = base := unwrap_eq le_rfl (by omega)
  obtain ⟨base', taken, left, r, hr, hrel, hstep⟩ :=
    packet_inOrder unused (packet base) h.window hW hW' (Nat.mod_lt _ (by omega)) hbase
  have hnew : num base (⟨0, base % 4096, packet base⟩ : RxReorderEntry ρ) = base := hbase
  refine ⟨base', ?_⟩
  rw [hr]
  refine h.stepped hstep (fun x h1 h2 => ?_) (fun x => Or.inl) (fun e he => ?_) (fun x hx harr => ?_)
  · rcases h1.eq_or_lt with rfl | hlt
    · exact ⟨_, List.mem_cons_self, hnew⟩
    · obtain ⟨e, he, hnum⟩ := hrel.filled x hlt h2
      exact ⟨e, List.mem_cons_of_mem _ he, hnum⟩
  · rcases List.mem_cons.mp he with rfl | he
    · rw [hnew]
      exact ⟨Or.inr rfl, rfl⟩
    · obtain ⟨h1, h2⟩ := h.pending e (List.mem_reverse.mp he)
      exact ⟨Or.inl h1, h2⟩
  · rcases harr with harr | rfl
    · have hne : x ≠ base := fun heq => h.missing (heq ▸ harr)
      obtain ⟨e, he, hnum⟩ := h.waiting x (by omega) harr
      exact ⟨e, List.mem_cons_of_mem _ (List.mem_reverse.mpr he), hnum⟩
    · exact ⟨_, List.mem_cons_self, hnew⟩

theorem Caught.ahead (h : Caught winSize first base packet arrived pTS indicated)
    (hW : 1 ≤ winSize) (hW' : winSize ≤ 128) {unused : List Nat} (hpool : unused ≠ []) {n : Nat}
    (h1 : base < n) (h2 : n < base + winSize) :
    let r := rxReorderIndicatePacket winSize unused (packet n) pTS (n % 4096)
    ∃ base', Caught winSize first base' packet (fun x => arrived x ∨ x = n) r.pTS
      (indicated ++ r.indicated) := by
  -- A packet ahead of the missing one, inside the window.
  have hn : unwrap 4096 base (n % 4096) = n := unwrap_eq h1.le (by omega)
  have hs : n % 4096 < 4096 := Nat.mod_lt _ (by omega)
  obtain ⟨base', taken, left, r, hr, hrel, hstep⟩ :=
    packet_buffered unused (packet n) h.window hW hW' hs (by omega) (by omega)
  obtain ⟨hkeep, e', he', hnum'⟩ :=
    bufferPacket_keeps h.window hW' hs (by omega : _ < base + 2048) hpool
  have hstart : startFor winSize base (unwrap 4096 base (n % 4096)) = base := by
    rw [hn]
    exact if_neg (by omega)
  rw [hstart] at hrel
  refine ⟨base', ?_⟩
  rw [hr]
  refine h.stepped hstep hrel.filled (fun x => Or.inl) (fun e he => ?_) (fun x hx harr => ?_)
  · rcases (bufferPacket_spec h.window hW' hs (by omega)).2.2 e (List.mem_reverse.mp he) with
      he | ⟨hseq, hprxb⟩
    · exact ⟨Or.inl (h.pending e he).1, (h.pending e he).2⟩
    · have hnum : num base e = n := by rw [num, hseq, hn]
      rw [hnum]
      exact ⟨Or.inr rfl, hprxb⟩
  · rcases harr with harr | rfl
    · have hne : x ≠ base := fun heq => h.missing (heq ▸ harr)
      obtain ⟨e, he, hnum⟩ := h.waiting x (by omega) harr
      exact ⟨e, List.mem_reverse.mpr (hkeep e he), hnum⟩
    · exact ⟨e', List.mem_reverse.mpr he', hnum'.trans hn⟩

theorem Caught.late (h : Caught winSize first base packet arrived pTS indicated)
    {unused : List Nat} {n : Nat} (h1 : n < base) (h2 : base ≤ n + 2048) :
    let r := rxReorderIndicatePacket winSize unused (packet n) pTS (n % 4096)
    Caught winSize first base packet (fun x => arrived x ∨ x = n) r.pTS
      (indicated ++ r.indicated) := by
  -- A packet that was indicated before, or that is older than the stream.
  have hn : unwrap 4096 base (n % 4096) = n + 4096 := by
    have h3 : unwrap 4096 base ((n + 4096) % 4096) = n + 4096 := unwrap_eq (by omega) (by omega)
    rwa [Nat.add_mod_right] at h3
  simp only [packet_dropped h.window (by omega : base + 2048 ≤ unwrap 4096 base (n % 4096)),
    List.append_nil]
  exact {
    window := h.window
    le := h.le
    before := fun x h1 h2 => Or.inl (h.before x h1 h2)
    missing := fun harr => harr.elim h.missing (by omega)
    indicated := h.indicated
    pending := fun e he => ⟨Or.inl (h.pending e he).1, (h.pending e he).2⟩
    waiting := fun x hx harr => h.waiting x hx (harr.resolve_right (by omega)) }

end Stream

/-! ## The streams together -/

section Streams

variable {ι : Type} [DecidableEq ι]

/-- A packet is known by its stream and its number there. -/
abbrev Packet (ι : Type) := ι × Nat

def arrive (winSize : Nat) (s : Pool.State ι (Packet ι)) (p : Packet ι) :
    Pool.State ι (Packet ι) :=
  Pool.step winSize s (.packet p.1 p (p.2 % 4096))

def start (streams : ι → RxTsRecord (Packet ι)) : Pool.State ι (Packet ι) :=
  Pool.init fun i => resetRxTsEntry (streams i)

/-- The number of the packet with which the stream began. -/
def firstOf (ps : List (Packet ι)) (i : ι) : Option Nat := (ps.find? (·.1 = i)).map (·.2)

def indicatedOf (s : Pool.State ι (Packet ι)) (i : ι) : List (Packet ι) :=
  s.indicated.filter (·.1 = i)

/-- A packet arrives when everything `winSize` or more before it has arrived, and not after its
number looks new again. -/
def Timely (winSize : Nat) (ps : List (Packet ι)) : Prop :=
  ∀ before i n, before ++ [(i, n)] <+: ps → ∀ first, firstOf before i = some first →
    (∀ x, first ≤ x → x + winSize ≤ n → (i, x) ∈ before) ∧ ∀ m, (i, m) ∈ before → m < n + 2048

theorem timely_nil (winSize : Nat) : Timely winSize ([] : List (Packet ι)) := by
  intro before i n hpre
  exact absurd (List.prefix_nil.mp hpre) (by simp)

theorem Timely.append {winSize : Nat} {ps : List (Packet ι)} (h : Timely winSize ps) (i : ι) (n : Nat)
    (hn : ∀ first, firstOf ps i = some first →
      (∀ x, first ≤ x → x + winSize ≤ n → (i, x) ∈ ps) ∧ ∀ m, (i, m) ∈ ps → m < n + 2048) :
    Timely winSize (ps ++ [(i, n)]) := by
  intro before j m hpre
  rcases List.prefix_concat_iff.mp hpre with heq | hpre
  · obtain ⟨rfl, hlast⟩ := List.append_inj' heq rfl
    obtain ⟨rfl, rfl⟩ := Prod.mk.injEq .. ▸ List.singleton_inj.mp hlast
    exact hn
  · exact h before j m hpre

/-- The receiver and the packets that have arrived, for one stream. -/
def Follows (winSize : Nat) (ps : List (Packet ι)) (s : Pool.State ι (Packet ι)) (i : ι) : Prop :=
  (firstOf ps i = none ∧ (s.streams i).rxIndicateSeq = 0xffff ∧
    (s.streams i).rxPendingPktList = [] ∧ indicatedOf s i = []) ∨
  ∃ first base, firstOf ps i = some first ∧
    Caught winSize first base (Prod.mk i) (fun n => (i, n) ∈ ps) (s.streams i) (indicatedOf s i)

theorem firstOf_eq_none {ps : List (Packet ι)} {i : ι} (h : firstOf ps i = none) (n : Nat) :
    (i, n) ∉ ps := by
  intro hmem
  have := List.find?_eq_none.mp (Option.map_eq_none_iff.mp h) _ hmem
  simp at this

theorem firstOf_mem {ps : List (Packet ι)} {i : ι} {n : Nat} (h : firstOf ps i = some n) :
    (i, n) ∈ ps := by
  obtain ⟨⟨j, m⟩, hfind, rfl⟩ := Option.map_eq_some_iff.mp h
  have hj : j = i := by simpa using List.find?_some hfind
  rw [← hj]
  exact List.mem_of_find?_eq_some hfind

theorem firstOf_append (ps : List (Packet ι)) (p : Packet ι) (i : ι) :
    firstOf (ps ++ [p]) i = (firstOf ps i).or (if p.1 = i then some p.2 else none) := by
  simp only [firstOf, List.find?_append, Option.map_or, List.find?_singleton]
  congr 1
  by_cases h : p.1 = i <;> simp [h]

theorem arrive_streams_self (winSize : Nat) (s : Pool.State ι (Packet ι)) (i : ι) (n : Nat) :
    (arrive winSize s (i, n)).streams i = (rxReorderIndicatePacket winSize s.rxReorderUnusedList
      (i, n) (s.streams i) (n % 4096)).pTS := by
  simp [arrive, Pool.step, Pool.State.after]

theorem arrive_streams_of_ne (winSize : Nat) (s : Pool.State ι (Packet ι)) {i j : ι} (n : Nat)
    (h : i ≠ j) : (arrive winSize s (j, n)).streams i = s.streams i := by
  simp [arrive, Pool.step, Pool.State.after, Function.update_of_ne h]

theorem indicatedOf_arrive (winSize : Nat) (s : Pool.State ι (Packet ι)) (i j : ι) (n : Nat) :
    indicatedOf (arrive winSize s (j, n)) i = indicatedOf s i ++
      (rxReorderIndicatePacket winSize s.rxReorderUnusedList (j, n) (s.streams j)
        (n % 4096)).indicated.filter (·.1 = i) := by
  simp [indicatedOf, arrive, Pool.step, Pool.State.after]

theorem indicated_own {winSize : Nat} {ps : List (Packet ι)} {s : Pool.State ι (Packet ι)} {j : ι}
    (h : Follows winSize ps s j) (n : Nat) :
    ∀ p ∈ (rxReorderIndicatePacket winSize s.rxReorderUnusedList (j, n) (s.streams j)
      (n % 4096)).indicated, p.1 = j := by
  -- A call for a stream indicates packets of that stream.
  intro p hp
  have hcons := (Pool.packet_conserves winSize s.rxReorderUnusedList (j, n) (s.streams j)
    (n % 4096)).packet
  have hmem : p ∈ Pool.packets (s.streams j).rxPendingPktList + ([(j, n)] : Multiset (Packet ι)) := by
    rw [← hcons]
    exact Multiset.mem_add.mpr (Or.inl (Multiset.mem_add.mpr (Or.inr hp)))
  rcases Multiset.mem_add.mp hmem with hmem | hmem
  · obtain ⟨e, he, rfl⟩ := List.mem_map.mp (Multiset.mem_coe.mp hmem)
    rcases h with ⟨-, -, hnil, -⟩ | ⟨first, base, -, hc⟩
    · rw [hnil] at he
      exact absurd he List.not_mem_nil
    · rw [(hc.pending e he).2]
  · rw [List.mem_singleton.mp (Multiset.mem_coe.mp hmem)]

theorem Follows.other {winSize : Nat} {ps : List (Packet ι)} {s : Pool.State ι (Packet ι)} {i j : ι}
    (h : Follows winSize ps s i) (hj : Follows winSize ps s j) (hne : i ≠ j) (n : Nat) :
    Follows winSize (ps ++ [(j, n)]) (arrive winSize s (j, n)) i := by
  -- A packet of another stream changes nothing.
  have hfirst : firstOf (ps ++ [(j, n)]) i = firstOf ps i := by
    rw [firstOf_append]
    simp [hne.symm]
  have hind : indicatedOf (arrive winSize s (j, n)) i = indicatedOf s i := by
    rw [indicatedOf_arrive, List.filter_eq_nil_iff.mpr, List.append_nil]
    intro p hp
    rw [indicated_own hj n p hp]
    simpa using hne.symm
  have harr : (fun x => (i, x) ∈ ps ++ [(j, n)]) = fun x => (i, x) ∈ ps := by
    funext x
    simp [hne]
  simpa only [Follows, hfirst, hind, harr, arrive_streams_of_ne winSize s n hne] using h

theorem Follows.own {winSize : Nat} {ps : List (Packet ι)} {s : Pool.State ι (Packet ι)} {i : ι}
    (h : Follows winSize ps s i) (hW : 1 ≤ winSize) (hW' : winSize ≤ 128)
    (hpool : s.rxReorderUnusedList ≠ []) (n : Nat)
    (hn : ∀ first, firstOf ps i = some first →
      (∀ x, first ≤ x → x + winSize ≤ n → (i, x) ∈ ps) ∧ ∀ m, (i, m) ∈ ps → m < n + 2048) :
    Follows winSize (ps ++ [(i, n)]) (arrive winSize s (i, n)) i := by
  -- A packet of the stream itself.
  have hind : indicatedOf (arrive winSize s (i, n)) i = indicatedOf s i ++
      (rxReorderIndicatePacket winSize s.rxReorderUnusedList (i, n) (s.streams i)
        (n % 4096)).indicated := by
    rw [indicatedOf_arrive, List.filter_eq_self.mpr]
    intro p hp
    simpa using indicated_own h n p hp
  have harr : (fun x => (i, x) ∈ ps ++ [(i, n)]) = fun x => (i, x) ∈ ps ∨ x = n := by
    funext x
    simp
  right
  simp only [firstOf_append, hind, harr, arrive_streams_self, if_true]
  rcases h with ⟨hfirst, hseq, hnil, hnone⟩ | ⟨first, base, hfirst, hc⟩
  · have hfresh : Caught winSize n n (Prod.mk i) (fun x => (i, x) ∈ ps)
        { s.streams i with rxIndicateSeq := n % 4096 } [] :=
      .fresh hnil (firstOf_eq_none hfirst)
    obtain ⟨base', hc⟩ := hfresh.inOrder hW hW' s.rxReorderUnusedList
    refine ⟨n, base', by rw [hfirst]; rfl, ?_⟩
    rw [hnone, packet_fresh hseq (Nat.mod_lt _ (by omega))]
    exact hc
  · obtain ⟨hwin, hold⟩ := hn first hfirst
    rw [hfirst]
    rcases Nat.lt_trichotomy n base with hlt | rfl | hgt
    · -- The start of the window lies behind the first packet, which has arrived.
      have hbefore : first < base := hc.le.lt_of_ne fun heq =>
        hc.missing (heq ▸ firstOf_mem hfirst)
      have := hold (base - 1) (hc.before (base - 1) (by omega) (by omega))
      exact ⟨first, base, rfl, hc.late hlt (by omega)⟩
    · obtain ⟨base', hc'⟩ := hc.inOrder hW hW' s.rxReorderUnusedList
      exact ⟨first, base', rfl, hc'⟩
    · have hin : n < base + winSize := by
        by_contra hout
        exact hc.missing (hwin base hc.le (by omega))
      obtain ⟨base', hc'⟩ := hc.ahead hW hW' hpool hgt hin
      exact ⟨first, base', rfl, hc'⟩

/-! ## Runs -/

variable [Fintype ι]

theorem pool_nonempty {winSize : Nat} {ps : List (Packet ι)} {s : Pool.State ι (Packet ι)}
    (hW : 1 ≤ winSize) (hpool : Fintype.card ι * (winSize - 1) < reorderEntryNum) (hs : Pool.Inv s)
    (h : ∀ i, Follows winSize ps s i) : s.rxReorderUnusedList ≠ [] := by
  intro hnil
  have hcard := congrArg Multiset.card hs.entry
  simp only [hnil, Multiset.card_sum, Pool.card_entries, Multiset.card_range, Multiset.coe_nil,
    zero_add] at hcard
  have hle : ∑ i, (s.streams i).rxPendingPktList.length ≤ Fintype.card ι * (winSize - 1) := by
    refine Finset.sum_le_card_nsmul _ _ _ fun i _ => ?_
    rcases h i with ⟨-, -, hp, -⟩ | ⟨first, base, -, hc⟩
    · simp [hp]
    · have := hc.window.length_lt hW
      omega
  omega

theorem follows_exec {winSize : Nat} (hW : 1 ≤ winSize)
    (hpool : Fintype.card ι * (winSize - 1) < reorderEntryNum)
    (streams : ι → RxTsRecord (Packet ι)) (ps : List (Packet ι)) (hps : Timely winSize ps) :
    Pool.Inv (exec (arrive winSize) (start streams) ps) ∧
      ∀ i, Follows winSize ps (exec (arrive winSize) (start streams) ps) i := by
  induction ps using List.reverseRecOn with
  | nil => exact ⟨Pool.inv_init _, fun i => Or.inl ⟨rfl, rfl, rfl, rfl⟩⟩
  | append_singleton ps p ih =>
    obtain ⟨hs, h⟩ := ih fun before i n hpre => hps before i n (hpre.trans (List.prefix_append _ _))
    obtain ⟨j, n⟩ := p
    rw [exec_append, exec_cons, exec_nil]
    refine ⟨Pool.inv_step _ hs _, fun i => ?_⟩
    by_cases hij : i = j
    · subst hij
      have hone : 1 ≤ Fintype.card ι := Fintype.card_pos_iff.mpr ⟨i⟩
      have hW' : winSize ≤ 128 := by
        have := Nat.le_mul_of_pos_left (winSize - 1) hone
        simp only [reorderEntryNum] at hpool
        omega
      exact (h i).own hW hW' (pool_nonempty hW hpool hs h) n (hps ps i n List.prefix_rfl)
    · exact (h i).other (h j) hij n

/-- In every run in which the packets are timely and the windows fit into the pool, each stream is
indicated in the order in which it was sent, from its first packet up to the first one that has not
arrived, and the packets behind that one wait. -/
theorem nothing_lost {winSize : Nat} (hW : 1 ≤ winSize)
    (hpool : Fintype.card ι * (winSize - 1) < reorderEntryNum)
    (streams : ι → RxTsRecord (Packet ι)) (ps : List (Packet ι)) (hps : Timely winSize ps) :
    let s := exec (arrive winSize) (start streams) ps
    ∀ i first, firstOf ps i = some first → ∃ count,
      (∀ k, k < count → (i, first + k) ∈ ps) ∧ (i, first + count) ∉ ps ∧
        indicatedOf s i = (List.range' first count).map (Prod.mk i) ∧
          ∀ x, (∃ e ∈ (s.streams i).rxPendingPktList, e.prxb = (i, x)) ↔
            first + count < x ∧ (i, x) ∈ ps := by
  intro s i first hfirst
  rcases (follows_exec hW hpool streams ps hps).2 i with ⟨hnone, -⟩ | ⟨first', base, hfirst', hc⟩
  · rw [hnone] at hfirst
    cases hfirst
  · obtain rfl : first' = first := Option.some_injective _ (hfirst'.symm.trans hfirst)
    have hbase : first' + (base - first') = base := Nat.add_sub_cancel' hc.le
    refine ⟨base - first', fun k hk => hc.before _ (by omega) (by omega), ?_, hc.indicated,
      fun x => ?_⟩
    · rw [hbase]
      exact hc.missing
    · rw [hbase]
      constructor
      · rintro ⟨e, he, heq⟩
        obtain ⟨harr, hprxb⟩ := hc.pending e he
        obtain rfl : num base e = x := congrArg Prod.snd (hprxb.symm.trans heq)
        exact ⟨(hc.window.range e he).2.1, harr⟩
      · rintro ⟨hlt, harr⟩
        obtain ⟨e, he, rfl⟩ := hc.waiting x hlt harr
        exact ⟨e, he, (hc.pending e he).2⟩

/-- Two streams whose packets mix: one of them wraps around, gets its second packet last, and the
first one twice. -/
theorem nothing_lost_two :
    let ps := [(false, 4095), (false, 4097), (true, 7), (false, 4095), (false, 4096)]
    ∃ count, (false, 4095 + count) ∉ ps ∧
      indicatedOf (exec (arrive 64) (start fun _ : Bool => freshRxTs) ps) false =
        (List.range' 4095 count).map (Prod.mk false) := by
  intro ps
  have h1 : Timely 64 [(false, 4095)] := (timely_nil 64).append _ _ (by simp [firstOf])
  have h2 : Timely 64 [(false, 4095), (false, 4097)] := by
    refine h1.append _ _ fun first hfirst => ?_
    obtain rfl : 4095 = first := Option.some_injective _ hfirst
    exact ⟨fun x _ _ => by omega, by simp⟩
  have h3 : Timely 64 [(false, 4095), (false, 4097), (true, 7)] :=
    h2.append _ _ (by simp [firstOf])
  have h4 : Timely 64 [(false, 4095), (false, 4097), (true, 7), (false, 4095)] := by
    refine h3.append _ _ fun first hfirst => ?_
    obtain rfl : 4095 = first := Option.some_injective _ hfirst
    exact ⟨fun x _ _ => by omega, by simp⟩
  have hps : Timely 64 ps := by
    refine h4.append _ _ fun first hfirst => ?_
    obtain rfl : 4095 = first := Option.some_injective _ hfirst
    exact ⟨fun x _ _ => by omega, by simp⟩
  obtain ⟨count, -, hmissing, hind, -⟩ :=
    nothing_lost (by decide) (by decide) (fun _ : Bool => freshRxTs) ps hps false 4095 rfl
  exact ⟨count, hmissing, hind⟩

/-- The bound is exact: packet 1 is lost when as many packets as the window holds overtake it. -/
example : indicatedOf (exec (arrive 2) (start fun _ : Unit => freshRxTs)
    [((), 0), ((), 3), ((), 1), ((), 2)]) () = [((), 0), ((), 2), ((), 3)] := by decide

end Streams

end Rtl8190.Reorder.Complete
