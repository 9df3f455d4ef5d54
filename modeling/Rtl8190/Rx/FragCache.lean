import Mathlib.Data.List.Flatten
import Rtl8190.Lib.Ledger
import Rtl8190.Rx.Code

/-!
# The buffers of the fragment cache

What `rtllib_frag_cache_find` returns, and which buffers `rtllib_frag_cache_get` and
`rtllib_frag_cache_invalidate` allocate, free and forget.
-/

open Rtl8190.Memory Rtl8190.Ledger Function

namespace Rtl8190.Rx

variable {ι κ : Type} {cfg : Config κ} {env : Env ι}

/-! ## The search -/

/-- What the fragments of an MSDU have in common. -/
structure MsduKey where
  seq : Nat
  src : Addr
  dst : Addr

instance : DecidableEq MsduKey := fun a b =>
  decidable_of_iff (a.seq = b.seq ∧ a.src = b.src ∧ a.dst = b.dst) (by cases a; cases b; simp)

def Skb.msduKey (hdr : Skb) : MsduKey := ⟨seqSeq hdr.seqCtl, hdr.addr2, hdr.addr1⟩

namespace FragEntry

def expired (cfg : Config κ) (now : BitVec 64) (entry : FragEntry) : Bool :=
  timeAfter now (entry.firstFragTime + 2 * cfg.hz)

def aged (cfg : Config κ) (now : BitVec 64) (entry : FragEntry) : FragEntry :=
  if entry.expired cfg now then { entry with skb := none } else entry

/-- The buffer that the check frees. -/
def stale (cfg : Config κ) (now : BitVec 64) (entry : FragEntry) : List Nat :=
  if entry.expired cfg now then entry.skb.toList else []

structure Live (cfg : Config κ) (now : BitVec 64) (key : MsduKey) (entry : FragEntry) : Prop where
  cached : entry.skb ≠ none
  young : entry.expired cfg now = false
  key : (⟨entry.seq, entry.srcAddr, entry.dstAddr⟩ : MsduKey) = key

/-- The search stops at the entry. -/
def Hit (cfg : Config κ) (now : BitVec 64) (key : MsduKey) (frag : Option Nat) (entry : FragEntry) :
    Prop :=
  entry.Live cfg now key ∧ ∀ n ∈ frag, n = entry.lastFrag + 1

end FragEntry

def buffers (row : List FragEntry) : List Nat := row.filterMap (·.skb)

theorem buffers_append (row row' : List FragEntry) : buffers (row ++ row') = buffers row ++ buffers row' :=
  List.filterMap_append

theorem buffers_cons (entry : FragEntry) (row : List FragEntry) :
    buffers (entry :: row) = entry.skb.toList ++ buffers row := by
  unfold buffers
  cases h : entry.skb with
  | none => simp [h]
  | some p => simp [h]

theorem split_cases {α : Type} {pre pre' post post' : List α} {a a' : α}
    (h : pre ++ a :: post = pre' ++ a' :: post') :
    (a ∈ pre' ∧ a' ∈ post) ∨ (pre' = pre ∧ a' = a ∧ post' = post) ∨ (a' ∈ pre ∧ a ∈ post') := by
  -- Two places in one row: one of them is first, or they are the same.
  rcases List.append_eq_append_iff.mp h with ⟨c, hc, hrest⟩ | ⟨c, hc, hrest⟩
  · cases c with
    | nil =>
      obtain ⟨rfl, rfl⟩ := List.cons.inj hrest
      exact .inr (.inl ⟨by simpa using hc, rfl, rfl⟩)
    | cons x c =>
      obtain ⟨rfl, hpost⟩ := List.cons.inj hrest
      exact .inl ⟨by simp [hc], by simp [hpost]⟩
  · cases c with
    | nil =>
      obtain ⟨rfl, rfl⟩ := List.cons.inj hrest
      exact .inr (.inl ⟨by simpa using hc.symm, rfl, rfl⟩)
    | cons x c =>
      obtain ⟨rfl, hpost⟩ := List.cons.inj hrest
      exact .inr (.inr ⟨by simp [hc], by simp [hpost]⟩)

structure FirstHit (cfg : Config κ) (now : BitVec 64) (key : MsduKey) (frag : Option Nat)
    (row pre : List FragEntry) (entry : FragEntry) (post : List FragEntry) : Prop where
  row : row = pre ++ entry :: post
  before : ∀ e ∈ pre, ¬ e.Hit cfg now key frag
  hit : entry.Hit cfg now key frag

/-- What a search returns: the buffers it freed, the row it left and what it found. -/
inductive Finds (cfg : Config κ) (now : BitVec 64) (key : MsduKey) (frag : Option Nat)
    (row : List FragEntry) : List Nat × List FragEntry × Option (Nat × Nat) → Prop
  | hit {pre post : List FragEntry} {entry : FragEntry} {p : Nat}
      (first : FirstHit cfg now key frag row pre entry post) (skb : entry.skb = some p) :
      Finds cfg now key frag row (pre.flatMap (·.stale cfg now),
        pre.map (·.aged cfg now) ++ entry :: post, some (pre.length, p))
  | miss (no : ∀ e ∈ row, ¬ e.Hit cfg now key frag) :
      Finds cfg now key frag row (row.flatMap (·.stale cfg now), row.map (·.aged cfg now), none)

variable {now : BitVec 64} {key : MsduKey} {frag : Option Nat} {row : List FragEntry}

theorem Finds.cons {entry : FragEntry} {r : List Nat × List FragEntry × Option (Nat × Nat)}
    (h : Finds cfg now key frag row r) (hmiss : ¬ entry.Hit cfg now key frag) :
    Finds cfg now key frag (entry :: row) (entry.stale cfg now ++ r.1, entry.aged cfg now :: r.2.1,
      r.2.2.map fun q => (q.1 + 1, q.2)) := by
  cases h with
  | @hit pre post e p first skb =>
    have hfirst : FirstHit cfg now key frag (entry :: row) (entry :: pre) e post :=
      ⟨by rw [first.row]; rfl, by simpa using ⟨hmiss, first.before⟩, first.hit⟩
    exact .hit hfirst skb
  | miss no => exact .miss (by simpa using ⟨hmiss, no⟩)

theorem fragCacheFind_finds (row : List FragEntry) :
    Finds cfg now key frag row (fragCacheFind cfg now key.seq frag key.src key.dst row) := by
  induction row with
  | nil => exact .miss (by simp)
  | cons entry rest ih =>
    have hnext (hmiss : ¬ entry.Hit cfg now key frag) := ih.cons hmiss
    cases hexp : timeAfter now (entry.firstFragTime + 2 * cfg.hz) with
    | true =>
      have hold : entry.expired cfg now = true := hexp
      specialize hnext fun h => by simp [h.1.young] at hold
      simpa only [fragCacheFind, hexp, if_true, FragEntry.stale, FragEntry.aged, hold] using hnext
    | false =>
      have hyoung : entry.expired cfg now = false := hexp
      simp only [FragEntry.stale, FragEntry.aged, hyoung, Bool.false_eq_true, if_false] at hnext
      simp only [fragCacheFind, hexp, Bool.false_eq_true, if_false]
      cases hskb : entry.skb with
      | none => exact hnext fun h => h.1.cached hskb
      | some p =>
        simp only
        split
        · rename_i hmatch
          obtain ⟨hseq, hfrag, hsrc, hdst⟩ := hmatch
          have hhit : entry.Hit cfg now key frag := by
            refine ⟨⟨by simp [hskb], hyoung, by rw [hseq, hsrc, hdst]⟩, ?_⟩
            rcases hfrag with rfl | rfl <;> simp
          have hfirst : FirstHit cfg now key frag (entry :: rest) [] entry rest :=
            ⟨rfl, by simp, hhit⟩
          exact .hit hfirst hskb
        · rename_i hmatch
          refine hnext fun ⟨⟨_, _, hkey⟩, hfrag⟩ => hmatch ?_
          rw [← hkey]
          refine ⟨rfl, ?_, rfl, rfl⟩
          cases frag with
          | none => exact .inl rfl
          | some n => exact .inr (congrArg some (hfrag n rfl))

/-! ## The buffers in the cache -/

def rowCount : Nat := 17

def State.held (s : State ι κ) : List Nat := (List.range rowCount).flatMap fun tid => buffers (s.fragCache tid)

/-- The rows are arrays of four entries. -/
structure CacheOk (s : State ι κ) : Prop where
  row : ∀ tid < rowCount, (s.fragCache tid).length = 4
  next : ∀ tid < rowCount, s.fragNextIdx tid < 4

structure CacheEmpty (s : State ι κ) : Prop extends CacheOk s where
  empty : ∀ tid < rowCount, ∀ entry ∈ s.fragCache tid, entry.skb = none

theorem CacheEmpty.held {s : State ι κ} (h : CacheEmpty s) : s.held = [] := by
  refine List.flatMap_eq_nil_iff.mpr fun tid htid => List.filterMap_eq_nil_iff.mpr ?_
  exact h.empty tid (List.mem_range.mp htid)

theorem tidClass_lt (hdr : Skb) : tidClass hdr < rowCount := by
  have hup (up : Nat) : up2ac up < 4 := by
    unfold up2ac
    split_ifs <;> omega
  simp only [tidClass]
  split
  · have := hup ((hdr.le16 (if fromDs hdr.frameCtl ∧ toDs hdr.frameCtl then 30 else 24)).toNat % 16)
    simp only [rowCount]
    omega
  · decide

theorem count_flatMap_update {β : Type*} [DecidableEq β] {f : Nat → List β} {n i : Nat} (hi : i < n)
    (l : List β) (b : β) : ((List.range n).flatMap (update f i l)).count b + (f i).count b =
      ((List.range n).flatMap f).count b + l.count b := by
  induction n with
  | zero => omega
  | succ n ih =>
    simp only [List.range_succ, List.flatMap_append, List.flatMap_cons, List.flatMap_nil,
      List.append_nil, List.count_append]
    by_cases hin : i = n
    · subst hin
      have hsame : (List.range i).flatMap (update f i l) = (List.range i).flatMap f := by
        refine List.flatMap_congr fun j hj => ?_
        rw [update_of_ne (List.mem_range.mp hj).ne]
      rw [hsame, update_self]
      omega
    · have := ih (by omega)
      rw [update_of_ne (Ne.symm hin)]
      omega

theorem count_held {s s' : State ι κ} {tid : Nat} {row : List FragEntry} (htid : tid < rowCount)
    (hcache : s'.fragCache = update s.fragCache tid row) (q : Nat) :
    s'.held.count q + (buffers (s.fragCache tid)).count q = s.held.count q + (buffers row).count q := by
  have h := count_flatMap_update (f := fun tid => buffers (s.fragCache tid)) htid (buffers row) q
  have hmap : (fun tid => buffers (s'.fragCache tid)) =
      update (fun tid => buffers (s.fragCache tid)) tid (buffers row) := by
    funext j
    rw [hcache]
    by_cases hj : j = tid
    · subst hj
      simp
    · rw [update_of_ne hj, update_of_ne hj]
  rw [State.held, State.held, hmap]
  exact h

theorem count_buffers_set {row : List FragEntry} {i : Nat} (hi : i < row.length) (entry : FragEntry)
    (q : Nat) : (buffers (row.set i entry)).count q + ((row[i]?.bind (·.skb)).toList).count q =
      (buffers row).count q + entry.skb.toList.count q := by
  induction row generalizing i with
  | nil => simp at hi
  | cons e row ih =>
    cases i with
    | zero =>
      simp only [List.set_cons_zero, buffers_cons, List.count_append, List.getElem?_cons_zero,
        Option.bind_some]
      omega
    | succ i =>
      have := ih (by simpa using hi)
      simp only [List.set_cons_succ, buffers_cons, List.count_append, List.getElem?_cons_succ]
      omega

theorem count_aged (now : BitVec 64) (row : List FragEntry) (q : Nat) :
    (buffers (row.map (·.aged cfg now))).count q + (row.flatMap (·.stale cfg now)).count q =
      (buffers row).count q := by
  induction row with
  | nil => rfl
  | cons entry row ih =>
    simp only [List.map_cons, List.flatMap_cons, buffers_cons, List.count_append, ← ih,
      FragEntry.aged, FragEntry.stale]
    split
    · simp only [Option.toList_none, List.count_nil]
      omega
    · simp only [List.count_nil]
      omega

def touch (r : List Nat × List FragEntry × Option (Nat × Nat)) (f : FragEntry → FragEntry) :
    List FragEntry :=
  match r.2.2 with
  | some (i, _) => r.2.1.modify i f
  | none => r.2.1

theorem touch_hit {freed : List Nat} {pre post : List FragEntry} {entry : FragEntry} {p : Nat}
    (f : FragEntry → FragEntry) :
    touch (freed, pre.map (·.aged cfg now) ++ entry :: post, some (pre.length, p)) f =
      pre.map (·.aged cfg now) ++ f entry :: post := by
  show (pre.map (·.aged cfg now) ++ entry :: post).modify pre.length f = _
  induction pre with
  | nil => rfl
  | cons e pre ih => exact congrArg (e.aged cfg now :: ·) ih

section Finds

variable {r : List Nat × List FragEntry × Option (Nat × Nat)} (h : Finds cfg now key frag row r)
include h

theorem Finds.length : r.2.1.length = row.length := by
  cases h with
  | hit first skb => simp [first.row]
  | miss => simp

theorem Finds.count (q : Nat) : (buffers r.2.1).count q + r.1.count q = (buffers row).count q := by
  cases h with
  | @hit pre post entry p first skb =>
    have := @count_aged _ cfg now pre q
    simp only [first.row, buffers_append, List.count_append]
    omega
  | miss => exact count_aged now row q

omit h in
theorem touch_length (f : FragEntry → FragEntry) : (touch r f).length = r.2.1.length := by
  unfold touch
  split
  · rw [List.length_modify]
  · rfl

theorem Finds.count_lastFrag (n q : Nat) :
    (buffers (touch r fun entry => { entry with lastFrag := n })).count q = (buffers r.2.1).count q := by
  cases h with
  | hit first skb =>
    rw [touch_hit]
    simp only [buffers_append, buffers_cons]
  | miss => rfl

theorem Finds.count_forget (q : Nat) :
    (buffers (touch r fun entry => { entry with skb := none })).count q +
      ((r.2.2.map (·.2)).toList).count q = (buffers r.2.1).count q := by
  cases h with
  | hit first skb =>
    rw [touch_hit]
    simp only [buffers_append, buffers_cons, List.count_append, skb, Option.toList_none,
      Option.toList_some, Option.map_some, List.count_nil]
    omega
  | miss => rfl

end Finds

/-! ## Searches for any fragment -/

section AnyFragment

variable {now later : BitVec 64} {key : MsduKey} {row pre post : List FragEntry} {entry : FragEntry}
  {r : List Nat × List FragEntry × Option (Nat × Nat)}

theorem aged_live {e : FragEntry} :
    (e.aged cfg now).Live cfg later key ↔ e.expired cfg now = false ∧ e.Live cfg later key := by
  unfold FragEntry.aged
  split_ifs with hexp
  · simp only [hexp, Bool.true_eq_false, false_and, iff_false]
    exact fun h => h.cached rfl
  · simpa using fun _ => hexp

theorem live_hit {e : FragEntry} : e.Hit cfg later key none ↔ e.Live cfg later key := by
  simp [FragEntry.Hit]

theorem Finds.none_iff (h : Finds cfg later key none row r) :
    r.2.2.map (·.2) = none ↔ ∀ e ∈ row, ¬ e.Live cfg later key := by
  cases h with
  | hit first skb =>
    simp only [Option.map_some, reduceCtorEq, false_iff, not_forall, not_not]
    exact ⟨_, by simp [first.row], live_hit.mp first.hit⟩
  | miss no => exact iff_of_true rfl fun e he hlive => no e he (live_hit.mpr hlive)

theorem mem_buffers {p : Nat} {row : List FragEntry} {e : FragEntry} (he : e ∈ row) (hp : e.skb = some p) :
    p ∈ buffers row :=
  List.mem_filterMap.mpr ⟨e, he, hp⟩

/-- The search finds the buffer of `entry` exactly when that is the first live entry. -/
theorem Finds.some_iff {p : Nat} (h : Finds cfg later key none (pre ++ entry :: post) r)
    (hp : entry.skb = some p) (hpre : p ∉ buffers pre) (hpost : p ∉ buffers post) :
    r.2.2.map (·.2) = some p ↔ (∀ e ∈ pre, ¬ e.Live cfg later key) ∧ entry.Live cfg later key := by
  cases h with
  | miss no =>
    refine iff_of_false (by simp) fun h => no entry (by simp) (live_hit.mpr h.2)
  | @hit pre' post' entry' p' first skb =>
    have hlive := live_hit.mp first.hit
    simp only [Option.map_some, Option.some.injEq]
    constructor
    · rintro rfl
      rcases split_cases first.row with ⟨-, hpost'⟩ | ⟨rfl, rfl, -⟩ | ⟨hpre', -⟩
      · exact absurd (mem_buffers hpost' skb) hpost
      · exact ⟨fun e he h => first.before e he (live_hit.mpr h), hlive⟩
      · exact absurd (mem_buffers hpre' skb) hpre
    · rintro ⟨hno, hentry⟩
      rcases split_cases first.row with ⟨hpre', -⟩ | ⟨-, rfl, -⟩ | ⟨hpre', -⟩
      · exact absurd (live_hit.mpr hentry) (first.before entry hpre')
      · exact Option.some.inj (skb.symm.trans hp)
      · exact absurd hlive (hno entry' hpre')

end AnyFragment

/-! ## Freeing -/

section Free

variable (s : State ι κ) (ps : List Nat)

@[simp] theorem freeAll_fragCache : (s.freeAll ps).fragCache = s.fragCache := by
  induction ps generalizing s with
  | nil => rfl
  | cons p ps ih => exact ih (s.free p)

@[simp] theorem freeAll_fragNextIdx : (s.freeAll ps).fragNextIdx = s.fragNextIdx := by
  induction ps generalizing s with
  | nil => rfl
  | cons p ps ih => exact ih (s.free p)

@[simp] theorem freeAll_nextSkb : (s.freeAll ps).nextSkb = s.nextSkb := by
  induction ps generalizing s with
  | nil => rfl
  | cons p ps ih => exact ih (s.free p)

@[simp] theorem freeAll_oops : (s.freeAll ps).oops = s.oops := by
  induction ps generalizing s with
  | nil => rfl
  | cons p ps ih => exact ih (s.free p)

variable {s ps}

theorem freeAll_heap {p : Nat} (hp : p ∉ ps) : (s.freeAll ps).heap p = s.heap p := by
  induction ps generalizing s with
  | nil => rfl
  | cons q ps ih =>
    rw [List.mem_cons, not_or] at hp
    exact (ih hp.2).trans (update_of_ne hp.1 _ _)

end Free

/-! ## `rtllib_frag_cache_get` and `rtllib_frag_cache_invalidate` -/

section GetInvalidate

variable (cfg env) (s : State ι κ) (now : BitVec 64) (hdr : Skb)

/-- The buffer whose slot the first fragment of an MSDU takes. -/
def evicted : Option Nat := (s.fragCache (tidClass hdr))[s.fragNextIdx (tidClass hdr)]?.bind (·.skb)

def getOps : List (Op Nat) :=
  if seqFrag hdr.seqCtl = 0 then
    if env.fragSkbRoom.isSome then .alloc s.nextSkb :: (evicted s hdr).toList.map .free else []
  else (fragCacheLookup cfg s env.jiffies hdr (some (seqFrag hdr.seqCtl))).1.map .free

def invalidateOps : List (Op Nat) := (fragCacheLookup cfg s now hdr none).1.map .free

/-- The buffer whose pointer `rtllib_frag_cache_invalidate` clears. -/
def forgotten : Option Nat := (fragCacheLookup cfg s now hdr none).2.2.map (·.2)

def newEntry : FragEntry :=
  ⟨env.jiffies, seqSeq hdr.seqCtl, seqFrag hdr.seqCtl, some s.nextSkb, hdr.addr2, hdr.addr1⟩

/-- The state has a new row in the cache, and the buffers `ps` are freed. -/
structure Rewritten (s s' : State ι κ) (tid : Nat) (row : List FragEntry) (ps : List Nat) : Prop where
  fragCache : s'.fragCache = update s.fragCache tid row
  fragNextIdx : s'.fragNextIdx = s.fragNextIdx
  heap : s'.heap = (s.freeAll ps).heap
  nextSkb : s'.nextSkb = s.nextSkb
  oops : s'.oops = s.oops

inductive Gets : Option Nat → State ι κ → List (Op Nat) → Prop
  | noMemory (first : seqFrag hdr.seqCtl = 0) (alloc : env.fragSkbRoom = none) : Gets none s []
  | new {s' : State ι κ} {room : Nat} (first : seqFrag hdr.seqCtl = 0)
      (alloc : env.fragSkbRoom = some room)
      (fragCache : s'.fragCache = update s.fragCache (tidClass hdr)
        ((s.fragCache (tidClass hdr)).set (s.fragNextIdx (tidClass hdr)) (newEntry env s hdr)))
      (fragNextIdx : s'.fragNextIdx = update s.fragNextIdx (tidClass hdr)
        (if s.fragNextIdx (tidClass hdr) + 1 ≥ 4 then 0 else s.fragNextIdx (tidClass hdr) + 1))
      (heap : s'.heap = update (s.freeAll (evicted s hdr).toList).heap s.nextSkb
        (some ⟨⟨env.garbage.skb.mem, 0⟩, room⟩))
      (nextSkb : s'.nextSkb = s.nextSkb + 1) (oops : s'.oops = s.oops) :
      Gets (some s.nextSkb) s' (.alloc s.nextSkb :: (evicted s hdr).toList.map .free)
  | search {s' : State ι κ} {r : List Nat × List FragEntry × Option (Nat × Nat)}
      (later : seqFrag hdr.seqCtl ≠ 0)
      (finds : Finds cfg env.jiffies hdr.msduKey (some (seqFrag hdr.seqCtl))
        (s.fragCache (tidClass hdr)) r)
      (rewritten : Rewritten s s' (tidClass hdr)
        (touch r fun entry => { entry with lastFrag := seqFrag hdr.seqCtl }) r.1) :
      Gets (r.2.2.map (·.2)) s' (r.1.map .free)

variable {cfg env s now hdr}

theorem get_gets : Gets cfg env s hdr (rtllibFragCacheGet cfg env s hdr).1
    (rtllibFragCacheGet cfg env s hdr).2 (getOps cfg env s hdr) := by
  simp only [rtllibFragCacheGet, getOps]
  split_ifs with hfrag halloc
  · obtain ⟨room, hroom⟩ := Option.isSome_iff_exists.mp halloc
    simp only [fragCacheNew, hroom]
    exact .new hfrag hroom (by simp; rfl) (by simp) rfl rfl (by simp)
  · have hnone := Option.not_isSome_iff_eq_none.mp halloc
    simp only [fragCacheNew, hnone]
    exact .noMemory hfrag hnone
  · refine .search hfrag (fragCacheFind_finds _) ⟨by simp; rfl, by simp, rfl, by simp, by simp⟩

theorem lookup_finds (frag : Option Nat) : Finds cfg now hdr.msduKey frag (s.fragCache (tidClass hdr))
    (fragCacheLookup cfg s now hdr frag) := fragCacheFind_finds _

theorem invalidate_rewritten : Rewritten s (rtllibFragCacheInvalidate cfg s now hdr) (tidClass hdr)
    (touch (fragCacheLookup cfg s now hdr none) fun entry => { entry with skb := none })
    (fragCacheLookup cfg s now hdr none).1 :=
  ⟨by simp only [rtllibFragCacheInvalidate, freeAll_fragCache]; rfl, freeAll_fragNextIdx _ _, rfl,
    freeAll_nextSkb _ _, freeAll_oops _ _⟩

/-! ### Accounts -/

theorem Rewritten.cacheOk {s' : State ι κ} {tid : Nat} {row : List FragEntry} {ps : List Nat}
    (h : Rewritten s s' tid row ps) (hok : CacheOk s) (hrow : row.length = 4) : CacheOk s' := by
  refine ⟨fun j hj => ?_, fun j hj => by rw [h.fragNextIdx]; exact hok.next j hj⟩
  rw [h.fragCache]
  by_cases he : j = tid
  · rw [he, update_self, hrow]
  · rw [update_of_ne he, hok.row j hj]

theorem Gets.cacheOk {o : Option Nat} {s' : State ι κ} {ops : List (Op Nat)}
    (h : Gets cfg env s hdr o s' ops) (hok : CacheOk s) : CacheOk s' := by
  have htid := tidClass_lt hdr
  cases h with
  | noMemory => exact hok
  | new first alloc fragCache fragNextIdx =>
    refine ⟨fun j hj => ?_, fun j hj => ?_⟩
    · rw [fragCache]
      by_cases he : j = tidClass hdr
      · rw [he, update_self, List.length_set, hok.row _ htid]
      · rw [update_of_ne he, hok.row j hj]
    · rw [fragNextIdx]
      by_cases he : j = tidClass hdr
      · rw [he, update_self]
        split_ifs <;> omega
      · rw [update_of_ne he]
        exact hok.next j hj
  | search later finds rewritten =>
    exact rewritten.cacheOk hok (by rw [touch_length, finds.length, hok.row _ htid])

theorem invalidate_cacheOk (hok : CacheOk s) : CacheOk (rtllibFragCacheInvalidate cfg s now hdr) :=
  invalidate_rewritten.cacheOk hok
    (by rw [touch_length, (lookup_finds none).length, hok.row _ (tidClass_lt hdr)])

theorem Gets.count {o : Option Nat} {s' : State ι κ} {ops : List (Op Nat)}
    (h : Gets cfg env s hdr o s' ops) (hok : CacheOk s) (q : Nat) :
    s'.held.count q + (given ops).count q + (freed ops).count q =
      s.held.count q + (allocated ops).count q := by
  -- `rtllib_frag_cache_get` keeps the accounts right.
  have htid := tidClass_lt hdr
  cases h with
  | noMemory => simp
  | new first alloc fragCache =>
    have hheld := count_held htid fragCache q
    have hlt : s.fragNextIdx (tidClass hdr) < (s.fragCache (tidClass hdr)).length := by
      rw [hok.row _ htid]
      exact hok.next _ htid
    have hset := count_buffers_set hlt (newEntry env s hdr) q
    simp only [allocated_alloc, freed_alloc, given_alloc, freed_map_free, allocated_map_free,
      given_map_free, List.count_nil]
    rw [show (newEntry env s hdr).skb.toList = [s.nextSkb] from rfl] at hset
    simp only [evicted]
    omega
  | search later finds rewritten =>
    have hheld := count_held htid rewritten.fragCache q
    have hcount := finds.count q
    rw [finds.count_lastFrag] at hheld
    simp only [allocated_map_free, freed_map_free, given_map_free, List.count_nil]
    omega

theorem invalidate_count (cfg : Config κ) (s : State ι κ) (now : BitVec 64) (hdr : Skb) (q : Nat) :
    (rtllibFragCacheInvalidate cfg s now hdr).held.count q +
      (forgotten cfg s now hdr).toList.count q + (freed (invalidateOps cfg s now hdr)).count q =
      s.held.count q := by
  have hrewritten : Rewritten s (rtllibFragCacheInvalidate cfg s now hdr) _ _ _ := invalidate_rewritten
  have hheld := count_held (tidClass_lt hdr) hrewritten.fragCache q
  have hfinds : Finds cfg now _ _ _ (fragCacheLookup cfg s now hdr none) := lookup_finds none
  have hcount := hfinds.count q
  have hforget := hfinds.count_forget q
  simp only [forgotten, invalidateOps, freed_map_free]
  omega

theorem forgotten_none_iff : forgotten cfg s now hdr = none ↔
    ∀ entry ∈ s.fragCache (tidClass hdr), ¬ entry.Live cfg now hdr.msduKey :=
  (lookup_finds none).none_iff

theorem Gets.given {o : Option Nat} {s' : State ι κ} {ops : List (Op Nat)}
    (h : Gets cfg env s hdr o s' ops) : given ops = [] := by
  cases h <;> simp

end GetInvalidate

/-! ## Reassembly -/

section Reassembly

variable (cfg env) (s : State ι κ) (frame skb : Skb)

/-- The fragment is shorter than the header that is counted. -/
def TooShort : Prop := seqFrag frame.seqCtl ≠ 0 ∧ skb.len < hdrlen env frame

def Fits (b : FragSkb) : Prop := b.skb.len + (skb.len - copyFrom env frame) ≤ b.room

def joined (b : FragSkb) : Skb :=
  b.skb.put (skb.len - copyFrom env frame) fun i => skb.mem (copyFrom env frame + i)

instance : Decidable (TooShort env frame skb) := inferInstanceAs (Decidable (_ ∧ _))

instance (b : FragSkb) : Decidable (Fits env frame skb b) := inferInstanceAs (Decidable (_ ≤ _))

/-- What the reassembly does with the buffers of the cache. The whole MSDU leaves the cache. -/
def reassembleOps : List (Op Nat) :=
  if seqFrag frame.seqCtl ≠ 0 ∨ moreFrags frame.frameCtl then
    let g := rtllibFragCacheGet cfg env s skb
    getOps cfg env s skb ++ match g.1 with
      | none => []
      | some p =>
        let b := g.2.deref env p
        if TooShort env frame skb then []
        else if ¬ Fits env frame skb b then invalidateOps cfg g.2 env.jiffiesLater skb
        else if moreFrags frame.frameCtl then []
        else
          invalidateOps cfg (g.2.write p (joined env frame skb b)) env.jiffiesLater
            (joined env frame skb b) ++ [.give p]
  else []

inductive Reassembles : Reassembly → State ι κ → List (Op Nat) → Prop
  | whole (frag : seqFrag frame.seqCtl = 0) (more : moreFrags frame.frameCtl = false) :
      Reassembles (.msdu skb none) s []
  | missing {s₁ : State ι κ} {ops : List (Op Nat)}
      (fragment : seqFrag frame.seqCtl ≠ 0 ∨ moreFrags frame.frameCtl = true)
      (get : rtllibFragCacheGet cfg env s skb = (none, s₁)) (gets : Gets cfg env s skb none s₁ ops) : Reassembles .dropped s₁ ops
  | tooShort {s₁ : State ι κ} {ops : List (Op Nat)} {p : Nat}
      (get : rtllibFragCacheGet cfg env s skb = (some p, s₁)) (gets : Gets cfg env s skb (some p) s₁ ops)
      (short : TooShort env frame skb) : Reassembles .dropped { s₁ with oops := true } ops
  | overflow {s₁ : State ι κ} {ops : List (Op Nat)} {p : Nat}
      (fragment : seqFrag frame.seqCtl ≠ 0 ∨ moreFrags frame.frameCtl = true)
      (get : rtllibFragCacheGet cfg env s skb = (some p, s₁)) (gets : Gets cfg env s skb (some p) s₁ ops)
      (short : ¬ TooShort env frame skb)
      (fits : ¬ Fits env frame skb (s₁.deref env p)) :
      Reassembles .dropped (rtllibFragCacheInvalidate cfg s₁ env.jiffiesLater skb)
        (ops ++ invalidateOps cfg s₁ env.jiffiesLater skb)
  | waits {s₁ : State ι κ} {ops : List (Op Nat)} {p : Nat}
      (get : rtllibFragCacheGet cfg env s skb = (some p, s₁)) (gets : Gets cfg env s skb (some p) s₁ ops)
      (short : ¬ TooShort env frame skb) (fits : Fits env frame skb (s₁.deref env p))
      (more : moreFrags frame.frameCtl = true) :
      Reassembles .exit (s₁.write p (joined env frame skb (s₁.deref env p))) ops
  | complete {s₁ s₂ : State ι κ} {ops : List (Op Nat)} {p : Nat} {msdu : Skb}
      (get : rtllibFragCacheGet cfg env s skb = (some p, s₁)) (gets : Gets cfg env s skb (some p) s₁ ops)
      (short : ¬ TooShort env frame skb)
      (fits : Fits env frame skb (s₁.deref env p)) (frag : seqFrag frame.seqCtl ≠ 0)
      (more : moreFrags frame.frameCtl = false)
      (msdu_eq : msdu = joined env frame skb (s₁.deref env p)) (write : s₂ = s₁.write p msdu) :
      Reassembles (.msdu msdu (some p)) (rtllibFragCacheInvalidate cfg s₂ env.jiffiesLater msdu)
        (ops ++ (invalidateOps cfg s₂ env.jiffiesLater msdu ++ [.give p]))

variable {cfg env s frame skb}

theorem rxReassemble_reassembles : Reassembles cfg env s frame skb
    (rxReassemble cfg env s frame skb).1 (rxReassemble cfg env s frame skb).2
    (reassembleOps cfg env s frame skb) := by
  have hgets : Gets cfg env s skb _ _ _ := get_gets
  by_cases hfragment : seqFrag frame.seqCtl ≠ 0 ∨ moreFrags frame.frameCtl = true
  · simp only [rxReassemble, reassembleOps, if_pos hfragment]
    cases hp : (rtllibFragCacheGet cfg env s skb).1 with
    | none =>
      have hget : rtllibFragCacheGet cfg env s skb = (none, (rtllibFragCacheGet cfg env s skb).2) :=
        Prod.ext hp rfl
      rw [hp] at hgets
      simpa using .missing hfragment hget hgets
    | some p =>
      have hget : rtllibFragCacheGet cfg env s skb = (some p, (rtllibFragCacheGet cfg env s skb).2) :=
        Prod.ext hp rfl
      rw [hp] at hgets
      simp only
      by_cases hshort : TooShort env frame skb
      · rw [if_pos hshort, if_pos (show _ ∧ _ from hshort), List.append_nil]
        exact .tooShort hget hgets hshort
      · rw [if_neg hshort, if_neg (show ¬ (_ ∧ _) from hshort)]
        by_cases hfits : Fits env frame skb ((rtllibFragCacheGet cfg env s skb).2.deref env p)
        · have hroom := Nat.not_lt.mpr hfits
          rw [if_neg hroom, if_neg (not_not.mpr hfits)]
          split_ifs with hmore
          · rw [List.append_nil]
            exact .waits hget hgets hshort hfits hmore
          · exact .complete hget hgets hshort hfits (hfragment.resolve_right hmore) (by simpa using hmore)
              rfl rfl
        · have hroom := Nat.lt_of_not_le hfits
          rw [if_pos hroom, if_pos hfits]
          exact .overflow hfragment hget hgets hshort hfits
  · simp only [rxReassemble, reassembleOps, if_neg hfragment]
    rw [not_or, not_not, Bool.not_eq_true] at hfragment
    exact .whole hfragment.1 hfragment.2

theorem Gets.fresh {o : Option Nat} {s₁ : State ι κ} {ops : List (Op Nat)}
    (h : Gets cfg env s skb o s₁ ops) :
    s.nextSkb ≤ s₁.nextSkb ∧ ∀ q ∈ allocated ops, q < s₁.nextSkb := by
  cases h with
  | noMemory => exact ⟨le_rfl, by simp⟩
  | new _ _ _ _ _ nextSkb => simp [nextSkb]
  | search _ _ rewritten => simp [rewritten.nextSkb]

theorem Gets.allocated {o : Option Nat} {s₁ : State ι κ} {ops : List (Op Nat)}
    (h : Gets cfg env s skb o s₁ ops) : allocated ops = [] ∨ allocated ops = [s.nextSkb] := by
  cases h <;> simp

theorem allocated_invalidateOps (now : BitVec 64) (hdr : Skb) :
    allocated (invalidateOps cfg s now hdr) = [] := allocated_map_free _

theorem invalidate_nextSkb (now : BitVec 64) (hdr : Skb) :
    (rtllibFragCacheInvalidate cfg s now hdr).nextSkb = s.nextSkb := freeAll_nextSkb _ _

section Reassembles

variable {r : Reassembly} {s' : State ι κ} {ops : List (Op Nat)}
  (h : Reassembles cfg env s frame skb r s' ops)
include h

theorem Reassembles.cacheOk (hok : CacheOk s) : CacheOk s' := by
  cases h with
  | whole => exact hok
  | missing _ _ gets => exact gets.cacheOk hok
  | tooShort _ gets =>
    have hok₁ := gets.cacheOk hok
    exact ⟨hok₁.row, hok₁.next⟩
  | overflow _ _ gets => exact invalidate_cacheOk (gets.cacheOk hok)
  | waits _ gets =>
    have hok₁ := gets.cacheOk hok
    exact ⟨hok₁.row, hok₁.next⟩
  | complete _ gets _ _ _ _ _ write =>
    have hok₁ := gets.cacheOk hok
    subst write
    exact invalidate_cacheOk ⟨hok₁.row, hok₁.next⟩

theorem Reassembles.fresh : s.nextSkb ≤ s'.nextSkb ∧ ∀ q ∈ allocated ops, q < s'.nextSkb := by
  cases h with
  | whole => exact ⟨le_rfl, by simp⟩
  | missing _ _ gets => exact gets.fresh
  | tooShort _ gets => exact gets.fresh
  | overflow _ _ gets =>
    rw [invalidate_nextSkb, allocated_append, allocated_invalidateOps, List.append_nil]
    exact gets.fresh
  | waits _ gets => exact gets.fresh
  | complete _ gets _ _ _ _ _ write =>
    subst write
    rw [invalidate_nextSkb, allocated_append, allocated_append, allocated_invalidateOps, List.nil_append,
      allocated_give, allocated_nil, List.append_nil]
    exact gets.fresh

theorem Reassembles.allocated : allocated ops = [] ∨ allocated ops = [s.nextSkb] := by
  cases h with
  | whole => exact .inl rfl
  | missing _ _ gets => exact gets.allocated
  | tooShort _ gets => exact gets.allocated
  | overflow _ _ gets =>
    rw [allocated_append, allocated_invalidateOps, List.append_nil]
    exact gets.allocated
  | waits _ gets => exact gets.allocated
  | complete _ gets =>
    rw [allocated_append, allocated_append, allocated_invalidateOps]
    simpa using gets.allocated

end Reassembles

end Reassembly

/-! ## A device for examples -/

def openConfig : Config Unit := ⟨false, false, fun _ => none, 250, 64⟩

def emptyCache : State Unit Unit where
  priv := fun _ => ()
  lastRx := fun _ => default
  ibssMacHash := fun _ => []
  rxLast := fun _ => (0, 0)
  fragCache := fun _ => List.replicate 4 default
  fragNextIdx := fun _ => 0
  heap := fun _ => none
  nextSkb := 0
  reorder := Reorder.Pool.init fun _ => Reorder.freshRxTs
  delivered := []
  oops := false

theorem emptyCache_empty : CacheEmpty emptyCache where
  row := fun _ _ => rfl
  next := fun _ _ => Nat.zero_lt_succ 3
  empty := fun _ _ entry h => by rw [List.eq_of_mem_replicate h]; rfl

/-- A station on which buffers of 1600 bytes can be had. -/
def openStation : Env Unit where
  devAddr := fun _ => 2
  bssid := fun _ => 4
  iwMode := .infra
  qosActive := false
  bCurRxReorderEnable := false
  bCurrentHTSupport := false
  hwsecActive := false
  tkipCountermeasures := false
  bContainHTC := false
  jiffies := 1000
  jiffiesLater := 1000
  getTs := fun _ _ => none
  ibssSeqAlloc := none
  fragSkbRoom := some 1600
  rxbAlloc := true
  garbage := default

/-- A fragment of 30 bytes from the access point, with the sequence number 16. -/
def fragmentFrame (more : Bool) (frag : Byte) : Skb :=
  received (fun i => if i = 0 then 0x08 else if i = 1 then (if more then 0x06 else 0x02)
    else if i < 10 then 2 else if i < 16 then 4 else if i < 22 then 6
    else if i = 22 then frag else if i = 23 then 0x01 else 0) 30

end Rtl8190.Rx
