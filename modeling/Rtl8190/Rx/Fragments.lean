import Rtl8190.Lib.Run
import Rtl8190.Rx.FragCache

/-!
# Every buffer of the fragment cache has one owner

`rtllib_frag_cache_get` finds the entry of an MSDU by the number of the fragment that it expects,
`rtllib_frag_cache_invalidate` takes the first one with the right addresses. A buffer is lost or
used twice exactly where the two differ, or where a fragment does not fit.
-/

open Rtl8190.Memory Rtl8190.Ledger Rtl8190.Run Function

namespace Rtl8190.Rx.Fragments

variable {ι κ : Type}

/-! ## Runs -/

/-- A frame that `rtllib_rx` hands to the cache, before and after decryption, which keeps the
header. -/
structure Fragment (ι : Type) where
  env : Env ι
  frame : Skb
  skb : Skb
  header : ∀ i < max 24 (rtllibGetHdrlen frame.frameCtl), skb.byte i = frame.byte i
  len : max 24 (rtllibGetHdrlen frame.frameCtl) ≤ skb.len

/-- The state, and what happened to the buffers of the cache. -/
structure Tracked (ι κ : Type) where
  rx : State ι κ
  log : List (Op Nat)

def fragStep (cfg : Config κ) (s : Tracked ι κ) (e : Fragment ι) : Tracked ι κ :=
  if s.rx.oops then s
  else
    ⟨(rxReassemble cfg e.env s.rx e.frame e.skb).2,
      s.log ++ reassembleOps cfg e.env s.rx e.frame e.skb⟩

/-- Each buffer that the cache allocated is in one entry, was delivered once or was freed once, and
only one of these. -/
def Owned (s : Tracked ι κ) : Prop := Accounted s.rx.held s.log

/-! ## The condition -/

/-- A fragment after which the buffers have one owner each, in terms of the cache before it.
`env.jiffies` is when the entry is looked up, `env.jiffiesLater` when it is invalidated. -/
structure Clean (cfg : Config κ) (s : State ι κ) (e : Fragment ι) : Prop where
  /-- The first fragment fits in a new buffer, unless all entries of the MSDU expire meanwhile. -/
  first : seqFrag e.frame.seqCtl = 0 → moreFrags e.frame.frameCtl = true →
    ∀ room, e.env.fragSkbRoom = some room → e.skb.len ≤ room ∨
      ∀ entry ∈ (s.fragCache (tidClass e.skb)).set (s.fragNextIdx (tidClass e.skb))
        (newEntry e.env s e.skb), ¬ entry.Live cfg e.env.jiffiesLater e.skb.msduKey
  /-- Another fragment fits in its buffer, unless all entries of the MSDU expire meanwhile. -/
  fits : ∀ pre entry post p b,
    FirstHit cfg e.env.jiffies e.skb.msduKey (some (seqFrag e.frame.seqCtl))
      (s.fragCache (tidClass e.skb)) pre entry post →
    entry.skb = some p → s.heap p = some b → seqFrag e.frame.seqCtl ≠ 0 →
    ¬ TooShort e.env e.frame e.skb → ¬ Fits e.env e.frame e.skb b →
    (∀ e' ∈ pre, e'.Live cfg e.env.jiffies e.skb.msduKey →
      ¬ e'.Live cfg e.env.jiffiesLater e.skb.msduKey) ∧
    ∀ e' ∈ entry :: post, ¬ e'.Live cfg e.env.jiffiesLater e.skb.msduKey
  /-- The last fragment is for the first entry of the MSDU, which does not expire meanwhile. -/
  last : ∀ pre entry post p b,
    FirstHit cfg e.env.jiffies e.skb.msduKey (some (seqFrag e.frame.seqCtl))
      (s.fragCache (tidClass e.skb)) pre entry post →
    entry.skb = some p → s.heap p = some b → seqFrag e.frame.seqCtl ≠ 0 →
    ¬ TooShort e.env e.frame e.skb → Fits e.env e.frame e.skb b →
    moreFrags e.frame.frameCtl = false →
    (∀ e' ∈ pre, e'.Live cfg e.env.jiffies e.skb.msduKey →
      ¬ e'.Live cfg e.env.jiffiesLater e.skb.msduKey) ∧
    entry.Live cfg e.env.jiffiesLater e.skb.msduKey

def CleanStep (cfg : Config κ) (s : Tracked ι κ) (e : Fragment ι) : Prop :=
  s.rx.oops = false → Clean cfg s.rx e

variable {cfg : Config κ} {s : Tracked ι κ} {e : Fragment ι}

/-! ## Headers -/

section Header

/-- The length of the part of a frame by which the cache knows it. -/
def headerLen (skb : Skb) : Nat := max 24 (rtllibGetHdrlen skb.frameCtl)

theorem two_le_qos {fc : BitVec 16} (h : qosHasSeq fc = true) :
    (if fromDs fc ∧ toDs fc then 30 else 24) + 2 = rtllibGetHdrlen fc := by
  have hdata : fcType fc = ftypeData := by
    have hmask : fc &&& 0x00bc = 0x0088 := by simpa [qosHasSeq] using h
    have : fcType fc = fc &&& 0x00bc &&& 0x000c := by
      rw [fcType, BitVec.and_assoc]
      rfl
    rw [this, hmask]
    rfl
  rw [rtllibGetHdrlen, if_pos hdata, if_pos h]

structure SameHeader (a b : Skb) : Prop where
  frameCtl : b.frameCtl = a.frameCtl
  seqCtl : b.seqCtl = a.seqCtl
  msduKey : b.msduKey = a.msduKey
  tidClass : tidClass b = tidClass a

theorem sameHeader {a b : Skb} (h : ∀ i < headerLen a, b.byte i = a.byte i) : SameHeader a b := by
  have h24 : ∀ i < 24, b.byte i = a.byte i := fun i hi => h i (lt_max_of_lt_left hi)
  have hfc : b.frameCtl = a.frameCtl := by
    simp only [Skb.frameCtl, Skb.le16]
    rw [h24 0 (by decide), h24 (0 + 1) (by decide)]
  have hseq : b.seqCtl = a.seqCtl := by
    simp only [Skb.seqCtl, Skb.le16]
    rw [h24 22 (by decide), h24 (22 + 1) (by decide)]
  have haddr (i : Nat) (hi : i + 6 ≤ 24) : b.addr i = a.addr i :=
    funext fun j => h24 (i + j) (by have := j.isLt; omega)
  refine ⟨hfc, hseq, ?_, ?_⟩
  · rw [Skb.msduKey, hseq, Skb.addr2, Skb.addr1, haddr 10 (by decide), haddr 4 (by decide)]
    rfl
  · simp only [Rx.tidClass, hfc]
    by_cases hqos : qosHasSeq a.frameCtl = true
    · have hlen := two_le_qos hqos
      rw [if_pos hqos, if_pos hqos]
      generalize (if fromDs a.frameCtl = true ∧ toDs a.frameCtl = true then 30 else 24) = n at hlen ⊢
      simp only [Skb.le16]
      rw [h n (lt_max_of_lt_right (by omega)), h (n + 1) (lt_max_of_lt_right (by omega))]
    · rw [if_neg hqos, if_neg hqos]

end Header

/-! ## What the buffers hold -/

/-- The buffer begins with a header of the entry's MSDU. -/
structure Holds (tid : Nat) (entry : FragEntry) (b : FragSkb) : Prop where
  len : headerLen b.skb ≤ b.skb.len
  key : b.skb.msduKey = ⟨entry.seq, entry.srcAddr, entry.dstAddr⟩
  tid : Rx.tidClass b.skb = tid

/-- The buffers of the cache that meet `P` hold what their entries say. -/
def Contents (s : State ι κ) (P : Nat → Prop) : Prop :=
  ∀ tid < rowCount, ∀ entry ∈ s.fragCache tid, ∀ p, entry.skb = some p → P p →
    ∃ b, s.heap p = some b ∧ Holds tid entry b

theorem mem_held {s : State ι κ} {tid p : Nat} {entry : FragEntry} (htid : tid < rowCount)
    (hentry : entry ∈ s.fragCache tid) (hp : entry.skb = some p) : p ∈ s.held :=
  List.mem_flatMap.mpr ⟨tid, List.mem_range.mpr htid, mem_buffers hentry hp⟩

def ComesFrom (row row' : List FragEntry) : Prop :=
  ∀ entry ∈ row', ∀ p, entry.skb = some p → ∃ old ∈ row, old.skb = some p ∧
    (⟨old.seq, old.srcAddr, old.dstAddr⟩ : MsduKey) = ⟨entry.seq, entry.srcAddr, entry.dstAddr⟩

theorem comesFrom_aged {now : BitVec 64} {e : FragEntry} {p : Nat} (h : (e.aged cfg now).skb = some p) :
    e.aged cfg now = e := by
  unfold FragEntry.aged at h ⊢
  split_ifs at h ⊢
  rfl

theorem Finds.comesFrom {now : BitVec 64} {key : MsduKey} {frag : Option Nat} {row : List FragEntry}
    {r : List Nat × List FragEntry × Option (Nat × Nat)} (h : Finds cfg now key frag row r)
    {f : FragEntry → FragEntry}
    (hf : ∀ e p, (f e).skb = some p → e.skb = some p ∧ (⟨e.seq, e.srcAddr, e.dstAddr⟩ : MsduKey) =
      ⟨(f e).seq, (f e).srcAddr, (f e).dstAddr⟩) : ComesFrom row (touch r f) := by
  intro entry hentry p hp
  have haged : ∀ row' : List FragEntry, entry ∈ row'.map (·.aged cfg now) → entry ∈ row' :=
    fun row' hmem => by
      obtain ⟨e, he, rfl⟩ := List.mem_map.mp hmem
      rwa [comesFrom_aged hp]
  cases h with
  | @hit pre post e q first skb =>
    rw [touch_hit] at hentry
    rcases List.mem_append.mp hentry with hpre | hmem
    · exact ⟨entry, by simp [first.row, haged pre hpre], hp, rfl⟩
    · rcases List.mem_cons.mp hmem with rfl | hpost
      · obtain ⟨hskb, hkey⟩ := hf e p hp
        exact ⟨e, by simp [first.row], hskb, hkey⟩
      · exact ⟨entry, by simp [first.row, hpost], hp, rfl⟩
  | miss no => exact ⟨entry, haged row hentry, hp, rfl⟩

theorem Contents.rewritten {s s' : State ι κ} {tid : Nat} {row : List FragEntry} {ps : List Nat}
    {P : Nat → Prop} (hc : Contents s P) (h : Rewritten s s' tid row ps)
    (hrow : ComesFrom (s.fragCache tid) row) (hps : ∀ q ∈ s'.held, q ∉ ps) : Contents s' P := by
  intro j hj entry hentry q hq hP
  have hheld := mem_held hj hentry hq
  rw [h.heap, freeAll_heap (hps q hheld)]
  rw [h.fragCache] at hentry
  by_cases he : j = tid
  · subst he
    rw [update_self] at hentry
    obtain ⟨old, hold, hskb, hkey⟩ := hrow entry hentry q hq
    obtain ⟨b, hb, hholds⟩ := hc j hj old hold q hskb hP
    exact ⟨b, hb, hholds.len, hholds.key.trans hkey, hholds.tid⟩
  · rw [update_of_ne he] at hentry
    exact hc j hj entry hentry q hq hP

theorem Contents.mono {s : State ι κ} {P Q : Nat → Prop} (h : Contents s P) (hPQ : ∀ p, Q p → P p) :
    Contents s Q :=
  fun tid htid entry hentry p hp hQ => h tid htid entry hentry p hp (hPQ p hQ)

theorem Contents.invalidate {s : State ι κ} {now : BitVec 64} {hdr : Skb} {P : Nat → Prop}
    (hc : Contents s P)
    (hfreed : ∀ q ∈ (rtllibFragCacheInvalidate cfg s now hdr).held,
      q ∉ freed (invalidateOps cfg s now hdr)) :
    Contents (rtllibFragCacheInvalidate cfg s now hdr) P := by
  refine hc.rewritten invalidate_rewritten ?_ ?_
  · refine Finds.comesFrom (lookup_finds none) fun e p hp => by cases hp
  · simpa only [invalidateOps, freed_map_free] using hfreed

/-! ## One search -/

structure Inv (s : Tracked ι κ) : Prop where
  cacheOk : CacheOk s.rx
  fresh : ∀ p ∈ allocated s.log, p < s.rx.nextSkb
  contents : Contents s.rx fun _ => True

section Get

variable {p : Nat} {o : Option Nat} {s₁ : State ι κ} {ops : List (Op Nat)}

theorem Fragment.sameHeader (e : Fragment ι) : SameHeader e.frame e.skb := Fragments.sameHeader e.header

theorem Fragment.headerLen_le (e : Fragment ι) : headerLen e.skb ≤ e.skb.len := by
  rw [headerLen, e.sameHeader.frameCtl]
  exact e.len

theorem Owned.get (h : Owned s) (hinv : Inv s) (hgets : Gets cfg e.env s.rx e.skb o s₁ ops) :
    Accounted s₁.held (s.log ++ ops) := by
  refine (h.append_iff (fun q hq hlog => ?_) ?_).mpr (hgets.count hinv.cacheOk)
  · have hlt := hinv.fresh q hlog
    rcases hgets.allocated with hnil | hone
    · simp [hnil] at hq
    · rw [hone, List.mem_singleton] at hq
      omega
  · rcases hgets.allocated with hnil | hone
    · simp [hnil]
    · simp [hone]

theorem not_freed_of_get (h : Accounted s₁.held (s.log ++ ops)) : ∀ q ∈ s₁.held, q ∉ freed ops :=
  fun q hq hfreed => h.not_freed hq (by simp [hfreed])

/-- The buffer of the first fragment of an MSDU. -/
structure NewAt (s : State ι κ) (e : Fragment ι) (s₁ : State ι κ) (p room : Nat) : Prop where
  alloc : e.env.fragSkbRoom = some room
  pointer : p = s.nextSkb
  cache : s₁.fragCache = update s.fragCache (tidClass e.skb)
    ((s.fragCache (tidClass e.skb)).set (s.fragNextIdx (tidClass e.skb)) (newEntry e.env s e.skb))
  heap : s₁.heap = update (s.freeAll (evicted s e.skb).toList).heap p
    (some ⟨⟨e.env.garbage.skb.mem, 0⟩, room⟩)

theorem gets_new (hgets : Gets cfg e.env s.rx e.skb (some p) s₁ ops) (hfrag : seqFrag e.frame.seqCtl = 0) :
    ∃ room, NewAt s.rx e s₁ p room ∧ ops = .alloc p :: (evicted s.rx e.skb).toList.map .free := by
  rw [← e.sameHeader.seqCtl] at hfrag
  generalize ho : some p = o at hgets
  cases hgets with
  | noMemory => cases ho
  | new _ alloc fragCache fragNextIdx heap =>
    cases ho
    exact ⟨_, ⟨alloc, rfl, fragCache, heap⟩, rfl⟩
  | search later => exact absurd hfrag later

structure HitAt (cfg : Config κ) (s : State ι κ) (e : Fragment ι) (s₁ : State ι κ)
    (pre : List FragEntry) (entry : FragEntry) (post : List FragEntry) (p : Nat) (b : FragSkb) :
    Prop where
  first : FirstHit cfg e.env.jiffies e.skb.msduKey (some (seqFrag e.frame.seqCtl))
    (s.fragCache (tidClass e.skb)) pre entry post
  skb : entry.skb = some p
  heap : s.heap p = some b
  holds : Holds (tidClass e.skb) entry b
  row : s₁.fragCache (tidClass e.skb) =
    pre.map (·.aged cfg e.env.jiffies) ++ { entry with lastFrag := seqFrag e.frame.seqCtl } :: post
  heap_after : s₁.heap p = some b
  contents : Contents s₁ fun _ => True

theorem gets_hit (hinv : Inv s) (hacc : Accounted s₁.held (s.log ++ ops))
    (hgets : Gets cfg e.env s.rx e.skb (some p) s₁ ops) (hfrag : seqFrag e.frame.seqCtl ≠ 0) :
    ∃ pre entry post b, HitAt cfg s.rx e s₁ pre entry post p b := by
  have hfreed := not_freed_of_get hacc
  have htid := tidClass_lt e.skb
  rw [← e.sameHeader.seqCtl] at hfrag
  generalize ho : some p = o at hgets
  cases hgets with
  | noMemory => cases ho
  | new first => exact absurd first hfrag
  | @search _ r later finds rewritten =>
    rw [freed_map_free] at hfreed
    have hcontents : Contents s₁ fun _ => True := hinv.contents.rewritten rewritten
      (Finds.comesFrom finds fun e p hp => ⟨hp, rfl⟩) hfreed
    cases finds with
    | miss => cases ho
    | @hit pre post entry q first skb =>
      cases ho
      obtain ⟨b, hb, hholds⟩ := hinv.contents _ htid entry (by simp [first.row]) q skb trivial
      have hrow : s₁.fragCache (tidClass e.skb) = pre.map (·.aged cfg e.env.jiffies) ++
          { entry with lastFrag := seqFrag e.skb.seqCtl } :: post := by
        rw [rewritten.fragCache, update_self, touch_hit]
      have hmem : { entry with lastFrag := seqFrag e.skb.seqCtl } ∈ s₁.fragCache (tidClass e.skb) := by
        simp [hrow]
      have hheld : q ∈ s₁.held := mem_held htid hmem skb
      rw [e.sameHeader.seqCtl] at first hrow
      refine ⟨pre, entry, post, b, first, skb, hb, hholds, hrow, ?_, hcontents⟩
      rw [rewritten.heap, freeAll_heap (hfreed q hheld), hb]

end Get

/-! ## The condition and the accounts -/

section Step

variable {p : Nat} {s₁ : State ι κ} {ops : List (Op Nat)}

theorem firstHit_unique {now : BitVec 64} {key : MsduKey} {frag : Option Nat}
    {row pre pre' post post' : List FragEntry} {entry entry' : FragEntry}
    (h : FirstHit cfg now key frag row pre entry post)
    (h' : FirstHit cfg now key frag row pre' entry' post') : pre' = pre ∧ entry' = entry ∧ post' = post := by
  rcases split_cases (h.row.symm.trans h'.row) with ⟨hbefore, -⟩ | hsame | ⟨hbefore, -⟩
  · exact absurd h.hit (h'.before entry hbefore)
  · exact hsame
  · exact absurd h'.hit (h.before entry' hbefore)

theorem owned_overflow_iff {now : BitVec 64} {hdr : Skb} (h : Accounted s₁.held (s.log ++ ops)) :
    Accounted (rtllibFragCacheInvalidate cfg s₁ now hdr).held
      (s.log ++ (ops ++ invalidateOps cfg s₁ now hdr)) ↔ forgotten cfg s₁ now hdr = none := by
  -- A buffer that does not fit may be forgotten only once it has expired.
  rw [← List.append_assoc, h.append_iff (by simp [invalidateOps]) (by simp [invalidateOps])]
  have hcount := fun q => invalidate_count cfg s₁ now hdr q
  have hgiven : given (invalidateOps cfg s₁ now hdr) = [] := given_map_free _
  have halloc : allocated (invalidateOps cfg s₁ now hdr) = [] := allocated_map_free _
  rw [hgiven, halloc]
  constructor
  · intro hall
    cases hf : forgotten cfg s₁ now hdr with
    | none => rfl
    | some q =>
      have h1 := hcount q
      have h2 := hall q
      simp [hf] at h1 h2
      omega
  · intro hf q
    have h1 := hcount q
    simp only [hf, Option.toList_none, List.count_nil] at h1 ⊢
    omega

theorem owned_complete_iff {now : BitVec 64} {hdr : Skb} (h : Accounted s₁.held (s.log ++ ops)) :
    Accounted (rtllibFragCacheInvalidate cfg s₁ now hdr).held
      (s.log ++ (ops ++ (invalidateOps cfg s₁ now hdr ++ [.give p]))) ↔
      forgotten cfg s₁ now hdr = some p := by
  -- The whole MSDU must be what is forgotten.
  rw [← List.append_assoc, h.append_iff (by simp [invalidateOps]) (by simp [invalidateOps])]
  have hcount := fun q => invalidate_count cfg s₁ now hdr q
  have hgiven : given (invalidateOps cfg s₁ now hdr) = [] := given_map_free _
  have halloc : allocated (invalidateOps cfg s₁ now hdr) = [] := allocated_map_free _
  simp only [given_append, allocated_append, freed_append, hgiven, halloc, given_give, given_nil,
    allocated_give, allocated_nil, freed_give, freed_nil, List.nil_append, List.append_nil,
    List.count_nil, Nat.add_zero]
  constructor
  · intro hall
    have h1 := hcount p
    have h2 := hall p
    rw [List.count_singleton_self] at h2
    have hpos : 0 < (forgotten cfg s₁ now hdr).toList.count p := by omega
    exact Option.mem_toList.mp (List.count_pos_iff.mp hpos)
  · intro hf q
    have h1 := hcount q
    rw [hf, Option.toList_some] at h1
    omega

theorem not_mem_others {tid : Nat} {pre post : List FragEntry} {entry : FragEntry}
    (hnodup : s₁.held.Nodup) (htid : tid < rowCount) (hrow : s₁.fragCache tid = pre ++ entry :: post)
    (hp : entry.skb = some p) : p ∉ buffers pre ∧ p ∉ buffers post := by
  have hsub : List.Sublist (buffers (s₁.fragCache tid)) s₁.held := by
    refine List.sublist_flatten_of_mem ?_
    exact List.mem_map_of_mem (List.mem_range.mpr htid)
  have hrow' := hnodup.sublist hsub
  rw [hrow, buffers_append, buffers_cons, hp, Option.toList_some] at hrow'
  have hcount := List.nodup_iff_count_le_one.mp hrow' p
  simp only [List.count_append, List.count_singleton_self] at hcount
  exact ⟨List.count_eq_zero.mp (by omega), List.count_eq_zero.mp (by omega)⟩

theorem forgotten_some_iff {now : BitVec 64} {hdr : Skb} {pre post : List FragEntry} {entry : FragEntry}
    (hnodup : s₁.held.Nodup) (hrow : s₁.fragCache (tidClass hdr) = pre ++ entry :: post)
    (hp : entry.skb = some p) : forgotten cfg s₁ now hdr = some p ↔
      (∀ e ∈ pre, ¬ e.Live cfg now hdr.msduKey) ∧ entry.Live cfg now hdr.msduKey := by
  obtain ⟨hpre, hpost⟩ := not_mem_others hnodup (tidClass_lt hdr) hrow hp
  exact Finds.some_iff (hrow ▸ lookup_finds none) hp hpre hpost

theorem clean_iff_of_hit {s : State ι κ} {pre post : List FragEntry} {entry : FragEntry} {b : FragSkb}
    (hit : HitAt cfg s e s₁ pre entry post p b) (hfrag : seqFrag e.frame.seqCtl ≠ 0)
    (hshort : ¬ TooShort e.env e.frame e.skb) : Clean cfg s e ↔
      (Fits e.env e.frame e.skb b → moreFrags e.frame.frameCtl = false →
        (∀ e' ∈ pre, e'.Live cfg e.env.jiffies e.skb.msduKey →
          ¬ e'.Live cfg e.env.jiffiesLater e.skb.msduKey) ∧
        entry.Live cfg e.env.jiffiesLater e.skb.msduKey) ∧
      (¬ Fits e.env e.frame e.skb b →
        (∀ e' ∈ pre, e'.Live cfg e.env.jiffies e.skb.msduKey →
          ¬ e'.Live cfg e.env.jiffiesLater e.skb.msduKey) ∧
        ∀ e' ∈ entry :: post, ¬ e'.Live cfg e.env.jiffiesLater e.skb.msduKey) := by
  -- Where a buffer is found the condition is about its entry.
  constructor
  · intro h
    exact ⟨h.last _ _ _ _ _ hit.first hit.skb hit.heap hfrag hshort,
      h.fits _ _ _ _ _ hit.first hit.skb hit.heap hfrag hshort⟩
  · rintro ⟨hlast, hfits⟩
    have hunique {pre' post' : List FragEntry} {entry' : FragEntry} {p' : Nat} {b' : FragSkb}
        (first : FirstHit cfg e.env.jiffies e.skb.msduKey (some (seqFrag e.frame.seqCtl))
          (s.fragCache (tidClass e.skb)) pre' entry' post') (skb : entry'.skb = some p')
        (heap : s.heap p' = some b') : pre' = pre ∧ entry' = entry ∧ post' = post ∧ b' = b := by
      obtain ⟨rfl, rfl, rfl⟩ := firstHit_unique hit.first first
      obtain rfl := Option.some.inj (skb.symm.trans hit.skb)
      exact ⟨rfl, rfl, rfl, Option.some.inj (heap.symm.trans hit.heap)⟩
    refine ⟨fun h => absurd h hfrag, fun pre' entry' post' p' b' first skb heap _ _ hno => ?_,
      fun pre' entry' post' p' b' first skb heap _ _ hyes => ?_⟩
    · obtain ⟨rfl, rfl, rfl, rfl⟩ := hunique first skb heap
      exact hfits hno
    · obtain ⟨rfl, rfl, rfl, rfl⟩ := hunique first skb heap
      exact hlast hyes

theorem clean_iff_of_new {s : State ι κ} {room : Nat} (new : NewAt s e s₁ p room)
    (hfrag : seqFrag e.frame.seqCtl = 0) (hmore : moreFrags e.frame.frameCtl = true) :
    Clean cfg s e ↔ e.skb.len ≤ room ∨ ∀ entry ∈ s₁.fragCache (tidClass e.skb),
      ¬ entry.Live cfg e.env.jiffiesLater e.skb.msduKey := by
  rw [new.cache, update_self]
  constructor
  · exact fun h => h.first hfrag hmore room new.alloc
  · intro h
    refine ⟨fun _ _ room' hroom => ?_, fun _ _ _ _ _ _ _ _ hne => absurd hfrag hne,
      fun _ _ _ _ _ _ _ _ hne => absurd hfrag hne⟩
    obtain rfl := Option.some.inj (new.alloc.symm.trans hroom)
    exact h

theorem new_fits_iff {s : State ι κ} {room : Nat} (new : NewAt s e s₁ p room)
    (hfrag : seqFrag e.frame.seqCtl = 0) :
    Fits e.env e.frame e.skb (s₁.deref e.env p) ↔ e.skb.len ≤ room := by
  have hb : s₁.heap p = some ⟨⟨e.env.garbage.skb.mem, 0⟩, room⟩ := by rw [new.heap, update_self]
  have hfrom : copyFrom e.env e.frame = 0 := if_neg (not_not.mpr hfrag)
  simp [Fits, State.deref, hb, hfrom]

theorem hit_deref {s : State ι κ} {pre post : List FragEntry} {entry : FragEntry} {b : FragSkb}
    (hit : HitAt cfg s e s₁ pre entry post p b) : s₁.deref e.env p = b := by
  rw [State.deref, hit.heap_after, Option.getD_some]

theorem aged_no_live {now later : BitVec 64} {key : MsduKey} {pre : List FragEntry} :
    (∀ e ∈ pre.map (·.aged cfg now), ¬ e.Live cfg later key) ↔
      ∀ e ∈ pre, e.Live cfg now key → ¬ e.Live cfg later key := by
  rw [List.forall_mem_map]
  refine forall₂_congr fun e _ => ?_
  rw [aged_live]
  constructor
  · exact fun h hnow hlater => h ⟨hnow.young, hlater⟩
  · exact fun h ⟨hyoung, hlater⟩ => h ⟨hlater.cached, hyoung, hlater.key⟩ hlater

theorem lastFrag_live {entry : FragEntry} {now : BitVec 64} {key : MsduKey} (n : Nat) :
    ({ entry with lastFrag := n } : FragEntry).Live cfg now key ↔ entry.Live cfg now key :=
  ⟨fun h => ⟨h.cached, h.young, h.key⟩, fun h => ⟨h.cached, h.young, h.key⟩⟩

theorem hit_joined {s : State ι κ} {pre post : List FragEntry} {entry : FragEntry} {b : FragSkb}
    (hit : HitAt cfg s e s₁ pre entry post p b) :
    SameHeader b.skb (joined e.env e.frame e.skb b) ∧
      headerLen b.skb ≤ (joined e.env e.frame e.skb b).len := by
  refine ⟨Fragments.sameHeader fun i hi => ?_, hit.holds.len.trans (Nat.le_add_right _ _)⟩
  have hlt := hi.trans_le hit.holds.len
  simp only [joined, Skb.put, Skb.byte]
  rw [if_neg fun h => absurd h.1 (by omega)]

/-- The header of the whole MSDU is in the row and has the key of its last fragment. -/
theorem hit_msdu {s : State ι κ} {pre post : List FragEntry} {entry : FragEntry} {b : FragSkb}
    (hit : HitAt cfg s e s₁ pre entry post p b) :
    tidClass (joined e.env e.frame e.skb b) = tidClass e.skb ∧
      (joined e.env e.frame e.skb b).msduKey = e.skb.msduKey := by
  obtain ⟨hheader, -⟩ := hit_joined hit
  exact ⟨hheader.tidClass.trans hit.holds.tid,
    hheader.msduKey.trans (hit.holds.key.trans hit.first.hit.1.key)⟩

@[simp] theorem write_held {s : State ι κ} (skb : Skb) : (s.write p skb).held = s.held := rfl

@[simp] theorem write_fragCache {s : State ι κ} (skb : Skb) :
    (s.write p skb).fragCache = s.fragCache := rfl

theorem forgotten_msdu_iff {s : State ι κ} {pre post : List FragEntry} {entry : FragEntry} {b : FragSkb}
    (hit : HitAt cfg s e s₁ pre entry post p b) (hnodup : s₁.held.Nodup) :
    forgotten cfg (s₁.write p (joined e.env e.frame e.skb b)) e.env.jiffiesLater
        (joined e.env e.frame e.skb b) = some p ↔
      (∀ e' ∈ pre, e'.Live cfg e.env.jiffies e.skb.msduKey →
        ¬ e'.Live cfg e.env.jiffiesLater e.skb.msduKey) ∧
      entry.Live cfg e.env.jiffiesLater e.skb.msduKey := by
  obtain ⟨htid, hkey⟩ := hit_msdu hit
  have hrow : (s₁.write p (joined e.env e.frame e.skb b)).fragCache
      (tidClass (joined e.env e.frame e.skb b)) = pre.map (·.aged cfg e.env.jiffies) ++
        { entry with lastFrag := seqFrag e.frame.seqCtl } :: post := by
    rw [htid, write_fragCache, hit.row]
  have hnodup' : (s₁.write p (joined e.env e.frame e.skb b)).held.Nodup := hnodup
  rw [forgotten_some_iff hnodup' hrow hit.skb, aged_no_live, lastFrag_live, hkey]

theorem clean_of_missing (hgets : Gets cfg e.env s.rx e.skb none s₁ ops) : Clean cfg s.rx e := by
  have hseq := e.sameHeader.seqCtl
  generalize ho : (none : Option Nat) = o at hgets
  cases hgets with
  | noMemory hfirst alloc =>
    rw [hseq] at hfirst
    refine ⟨fun _ _ room h => ?_, fun _ _ _ _ _ _ _ _ h => absurd hfirst h,
      fun _ _ _ _ _ _ _ _ h => absurd hfirst h⟩
    cases alloc.symm.trans h
  | new => cases ho
  | search later finds =>
    rw [hseq] at later finds
    cases finds with
    | hit => cases ho
    | miss no =>
      have hno {pre post : List FragEntry} {entry : FragEntry} (first : FirstHit cfg e.env.jiffies
          e.skb.msduKey (some (seqFrag e.frame.seqCtl)) (s.rx.fragCache (tidClass e.skb)) pre entry post) :
          False := no entry (by simp [first.row]) first.hit
      exact ⟨fun h => absurd h later, fun _ _ _ _ _ first => (hno first).elim,
        fun _ _ _ _ _ first => (hno first).elim⟩

theorem owned_step_iff (hinv : Inv s) (hown : Owned s) : Owned (fragStep cfg s e) ↔ CleanStep cfg s e := by
  -- One fragment keeps one owner for each buffer exactly when it is clean.
  unfold fragStep CleanStep
  by_cases hoops : s.rx.oops = true
  · rw [if_pos hoops]
    exact iff_of_true hown fun h => by simp [hoops] at h
  rw [if_neg hoops]
  simp only [Bool.eq_false_iff.mpr hoops, forall_const, Owned]
  have hspec : Reassembles cfg e.env s.rx e.frame e.skb _ _ _ := rxReassemble_reassembles
  generalize (rxReassemble cfg e.env s.rx e.frame e.skb).1 = r at hspec
  generalize (rxReassemble cfg e.env s.rx e.frame e.skb).2 = s' at hspec
  generalize reassembleOps cfg e.env s.rx e.frame e.skb = ops at hspec
  cases hspec with
  | whole hfrag hmore =>
    rw [List.append_nil]
    refine iff_of_true hown ⟨fun _ h => ?_, fun _ _ _ _ _ _ _ _ h => absurd hfrag h,
      fun _ _ _ _ _ _ _ _ h => absurd hfrag h⟩
    simp [hmore] at h
  | missing _ _ gets => exact iff_of_true (hown.get hinv gets) (clean_of_missing gets)
  | tooShort _ gets short =>
    have hacc := hown.get hinv gets
    exact iff_of_true hacc ⟨fun h => absurd h short.1, fun _ _ _ _ _ _ _ _ _ h => absurd short h,
      fun _ _ _ _ _ _ _ _ _ h => absurd short h⟩
  | overflow hfragment _ gets short fits =>
    have hacc := hown.get hinv gets
    rw [owned_overflow_iff hacc, forgotten_none_iff]
    by_cases hfrag : seqFrag e.frame.seqCtl = 0
    · obtain ⟨room, new, -⟩ := gets_new gets hfrag
      rw [clean_iff_of_new new hfrag (hfragment.resolve_left (not_not.mpr hfrag)),
        ← new_fits_iff new hfrag]
      simp [fits]
    · obtain ⟨pre, entry, post, b, hit⟩ := gets_hit hinv hacc gets hfrag
      rw [hit_deref hit] at fits
      rw [clean_iff_of_hit hit hfrag short, hit.row, List.forall_mem_append, aged_no_live]
      simp only [fits, false_imp_iff, true_and, not_false_eq_true, true_imp_iff, List.forall_mem_cons,
        lastFrag_live]
  | waits _ gets short fits more =>
    have hacc := hown.get hinv gets
    refine iff_of_true hacc ?_
    by_cases hfrag : seqFrag e.frame.seqCtl = 0
    · obtain ⟨room, new, -⟩ := gets_new gets hfrag
      exact (clean_iff_of_new new hfrag more).mpr (.inl ((new_fits_iff new hfrag).mp fits))
    · obtain ⟨pre, entry, post, b, hit⟩ := gets_hit hinv hacc gets hfrag
      rw [hit_deref hit] at fits
      refine (clean_iff_of_hit hit hfrag short).mpr ⟨fun _ h => ?_, fun h => absurd fits h⟩
      simp [more] at h
  | @complete s₁ s₂ ops p msdu _ gets short fits frag more msdu_eq write =>
    have hacc := hown.get hinv gets
    obtain ⟨pre, entry, post, b, hit⟩ := gets_hit hinv hacc gets frag
    rw [hit_deref hit] at fits msdu_eq
    subst msdu_eq write
    have hacc' : Accounted (s₁.write p (joined e.env e.frame e.skb b)).held (s.log ++ ops) := hacc
    rw [owned_complete_iff hacc', forgotten_msdu_iff hit hacc.nodup, clean_iff_of_hit hit frag short]
    simp [fits, more]

end Step

/-! ## The invariant -/

section Invariant

variable {p : Nat} {o : Option Nat} {s₁ : State ι κ} {ops : List (Op Nat)}

theorem Contents.write {b : FragSkb} {skb : Skb} (hc : Contents s₁ (· ≠ p)) (hp : s₁.heap p = some b)
    (hholds : ∀ tid < rowCount, ∀ entry ∈ s₁.fragCache tid, entry.skb = some p →
      Holds tid entry { b with skb := skb }) : Contents (s₁.write p skb) fun _ => True := by
  intro tid htid entry hentry q hq _
  by_cases hqp : q = p
  · subst hqp
    exact ⟨{ b with skb := skb }, by simp [State.write, hp], hholds tid htid entry hentry hq⟩
  · obtain ⟨b', hb', hholds'⟩ := hc tid htid entry hentry q hq hqp
    exact ⟨b', by simp [State.write, update_of_ne hqp, hb'], hholds'⟩

theorem hit_write {s : State ι κ} {pre post : List FragEntry} {entry : FragEntry} {b : FragSkb}
    (hit : HitAt cfg s e s₁ pre entry post p b) :
    Contents (s₁.write p (joined e.env e.frame e.skb b)) fun _ => True := by
  obtain ⟨hheader, hlen⟩ := hit_joined hit
  refine (hit.contents.mono fun _ _ => trivial).write hit.heap_after fun tid htid entry' hentry' hp => ?_
  obtain ⟨b', hb', hholds⟩ := hit.contents tid htid entry' hentry' p hp trivial
  obtain rfl := Option.some.inj (hit.heap_after.symm.trans hb')
  refine ⟨?_, hheader.msduKey.trans hholds.key, hheader.tidClass.trans hholds.tid⟩
  rwa [headerLen, hheader.frameCtl]

theorem new_entries {room : Nat} (hown : Owned s) (hinv : Inv s) (new : NewAt s.rx e s₁ p room)
    {tid : Nat} (htid : tid < rowCount) {entry : FragEntry} (hentry : entry ∈ s₁.fragCache tid) {q : Nat}
    (hq : entry.skb = some q) :
    q ≠ p ∧ entry ∈ s.rx.fragCache tid ∨
      q = p ∧ entry = newEntry e.env s.rx e.skb ∧ tid = tidClass e.skb := by
  -- The entries of the other buffers, and the one of the new buffer.
  have hold (hmem : entry ∈ s.rx.fragCache tid) : q ≠ p := by
    have hlt := hinv.fresh q (hown.mem_allocated (mem_held htid hmem hq))
    rw [new.pointer]
    exact hlt.ne
  rw [new.cache] at hentry
  by_cases he : tid = tidClass e.skb
  · subst he
    rw [update_self] at hentry
    rcases List.mem_or_eq_of_mem_set hentry with hmem | rfl
    · exact .inl ⟨hold hmem, hmem⟩
    · exact .inr ⟨(Option.some.inj hq).symm.trans new.pointer.symm, rfl, rfl⟩
  · rw [update_of_ne he] at hentry
    exact .inl ⟨hold hentry, hentry⟩

theorem new_contents {room : Nat} (hown : Owned s) (hinv : Inv s) (new : NewAt s.rx e s₁ p room)
    (hfreed : ∀ q ∈ s₁.held, q ∉ (evicted s.rx e.skb).toList) : Contents s₁ (· ≠ p) := by
  intro tid htid entry hentry q hq hqp
  rcases new_entries hown hinv new htid hentry hq with ⟨-, hmem⟩ | ⟨rfl, -⟩
  · obtain ⟨b, hb, hholds⟩ := hinv.contents tid htid entry hmem q hq trivial
    refine ⟨b, ?_, hholds⟩
    rw [new.heap, update_of_ne hqp, freeAll_heap (hfreed q (mem_held htid hentry hq)), hb]
  · exact absurd rfl hqp

theorem new_write {room : Nat} (hown : Owned s) (hinv : Inv s) (new : NewAt s.rx e s₁ p room)
    (hfrag : seqFrag e.frame.seqCtl = 0) (hfreed : ∀ q ∈ s₁.held, q ∉ (evicted s.rx e.skb).toList) :
    Contents (s₁.write p (joined e.env e.frame e.skb (s₁.deref e.env p))) fun _ => True := by
  have hb : s₁.heap p = some ⟨⟨e.env.garbage.skb.mem, 0⟩, room⟩ := by rw [new.heap, update_self]
  have hfrom : copyFrom e.env e.frame = 0 := if_neg (not_not.mpr hfrag)
  have hlen : (joined e.env e.frame e.skb (s₁.deref e.env p)).len = e.skb.len := by
    simp [joined, State.deref, hb, hfrom, Skb.put]
  have hheader : SameHeader e.skb (joined e.env e.frame e.skb (s₁.deref e.env p)) := by
    refine Fragments.sameHeader fun i hi => ?_
    have hlt := hi.trans_le e.headerLen_le
    simp [joined, State.deref, hb, hfrom, Skb.put, Skb.byte, hlt]
  refine (new_contents hown hinv new hfreed).write hb fun tid htid entry hentry hp => ?_
  rcases new_entries hown hinv new htid hentry hp with ⟨hne, -⟩ | ⟨-, rfl, rfl⟩
  · exact absurd rfl hne
  · refine ⟨?_, hheader.msduKey, hheader.tidClass⟩
    simp only [headerLen, hheader.frameCtl, hlen]
    exact e.headerLen_le

theorem freed_of_none {now : BitVec 64} {hdr : Skb} {entry : FragEntry}
    (h : forgotten cfg s₁ now hdr = none) (hentry : entry ∈ s₁.fragCache (tidClass hdr))
    (hp : entry.skb = some p) (hkey : (⟨entry.seq, entry.srcAddr, entry.dstAddr⟩ : MsduKey) = hdr.msduKey) :
    p ∈ freed (invalidateOps cfg s₁ now hdr) := by
  have hexp : entry.expired cfg now = true := by
    by_contra hyoung
    exact forgotten_none_iff.mp h entry hentry ⟨by simp [hp], by simpa using hyoung, hkey⟩
  have hfinds : Finds cfg now hdr.msduKey none _ (fragCacheLookup cfg s₁ now hdr none) := lookup_finds none
  simp only [forgotten] at h
  simp only [invalidateOps, freed_map_free]
  generalize fragCacheLookup cfg s₁ now hdr none = r at h hfinds
  cases hfinds with
  | hit => cases h
  | miss => exact List.mem_flatMap.mpr ⟨entry, hentry, by simp [FragEntry.stale, hexp, hp]⟩

theorem Reassembles.contents (hinv : Inv s) (hown : Owned s) {r : Reassembly} {s' : State ι κ}
    (h : Reassembles cfg e.env s.rx e.frame e.skb r s' ops) (hown' : Accounted s'.held (s.log ++ ops)) :
    Contents s' fun _ => True := by
  -- The buffers hold what their entries say while each has one owner.
  have hevicted {s₁ : State ι κ} {p : Nat} {ops : List (Op Nat)} (hacc : Accounted s₁.held (s.log ++ ops))
      (hops : ops = .alloc p :: (evicted s.rx e.skb).toList.map .free) :
      ∀ q ∈ s₁.held, q ∉ (evicted s.rx e.skb).toList := by
    simpa [hops] using not_freed_of_get hacc
  cases h with
  | whole => exact hinv.contents
  | missing _ _ gets =>
    have hfreed := not_freed_of_get hown'
    generalize ho : (none : Option Nat) = o at gets
    cases gets with
    | noMemory => exact hinv.contents
    | new => cases ho
    | search _ finds rewritten =>
      rw [freed_map_free] at hfreed
      exact hinv.contents.rewritten rewritten (Finds.comesFrom finds fun e p hp => ⟨hp, rfl⟩) hfreed
  | tooShort _ gets short =>
    obtain ⟨pre, entry, post, b, hit⟩ := gets_hit hinv (hown.get hinv gets) gets short.1
    exact hit.contents
  | @overflow s₁ ops p hfragment _ gets short fits =>
    have hacc := hown.get hinv gets
    have hnone := (owned_overflow_iff hacc).mp hown'
    have hfreed : ∀ q ∈ (rtllibFragCacheInvalidate cfg s₁ e.env.jiffiesLater e.skb).held,
        q ∉ freed (invalidateOps cfg s₁ e.env.jiffiesLater e.skb) :=
      fun q hq h => hown'.not_freed hq (by simp [h])
    by_cases hfrag : seqFrag e.frame.seqCtl = 0
    · obtain ⟨room, new, hops⟩ := gets_new gets hfrag
      have hcontents := Contents.invalidate (new_contents hown hinv new (hevicted hacc hops)) hfreed
      -- The new buffer has expired and was freed.
      have hlt : s.rx.fragNextIdx (tidClass e.skb) < (s.rx.fragCache (tidClass e.skb)).length := by
        rw [hinv.cacheOk.row _ (tidClass_lt e.skb)]
        exact hinv.cacheOk.next _ (tidClass_lt e.skb)
      have hmem : newEntry e.env s.rx e.skb ∈ s₁.fragCache (tidClass e.skb) := by
        rw [new.cache, update_self]
        exact List.mem_set hlt _
      have hgone := freed_of_none hnone hmem (congrArg some new.pointer.symm) rfl
      intro tid htid entry hentry q hq _
      refine hcontents tid htid entry hentry q hq fun hqp => ?_
      exact hfreed q (mem_held htid hentry hq) (hqp ▸ hgone)
    · obtain ⟨pre, entry, post, b, hit⟩ := gets_hit hinv hacc gets hfrag
      exact Contents.invalidate hit.contents hfreed
  | @waits s₁ ops p _ gets short fits more =>
    by_cases hfrag : seqFrag e.frame.seqCtl = 0
    · obtain ⟨room, new, hops⟩ := gets_new gets hfrag
      exact new_write hown hinv new hfrag (hevicted hown' hops)
    · obtain ⟨pre, entry, post, b, hit⟩ := gets_hit hinv (hown.get hinv gets) gets hfrag
      rw [hit_deref hit]
      exact hit_write hit
  | @complete s₁ s₂ ops p msdu _ gets short fits frag more msdu_eq write =>
    obtain ⟨pre, entry, post, b, hit⟩ := gets_hit hinv (hown.get hinv gets) gets frag
    rw [hit_deref hit] at msdu_eq
    subst msdu_eq write
    exact Contents.invalidate (hit_write hit) fun q hq h => hown'.not_freed hq (by simp [h])

theorem Inv.step (hinv : Inv s) (hown : Owned s) (hclean : CleanStep cfg s e) :
    Inv (fragStep cfg s e) := by
  have hown' := (owned_step_iff hinv hown).mpr hclean
  unfold fragStep at hown' ⊢
  by_cases hoops : s.rx.oops = true
  · rwa [if_pos hoops]
  rw [if_neg hoops] at hown' ⊢
  have hspec : Reassembles cfg e.env s.rx e.frame e.skb _ _ _ := rxReassemble_reassembles
  obtain ⟨hle, hnew⟩ := hspec.fresh
  refine ⟨hspec.cacheOk hinv.cacheOk, fun q hq => ?_, Reassembles.contents hinv hown hspec hown'⟩
  rw [allocated_append, List.mem_append] at hq
  exact hq.elim (fun h => (hinv.fresh q h).trans_le hle) (hnew q)

end Invariant

/-! ## Main result -/

/-- From an empty cache each buffer has one owner in every state of a run exactly when its steps are
clean. In particular what was delivered is in no entry. -/
theorem owned_iff_clean (cfg : Config κ) {s₀ : State ι κ} (h : CacheEmpty s₀) (es : List (Fragment ι)) :
    Meets (fragStep cfg) (CleanStep cfg) ⟨s₀, []⟩ es ↔
      ∀ fs, fs <+: es → Owned (exec (fragStep cfg) ⟨s₀, []⟩ fs) := by
  refine meets_iff_forall_prefixes (I := Inv) (P := Owned) (V := fun _ => True)
    (fun s e hinv hown _ hclean => hinv.step hown hclean)
    (fun s e hinv hown _ => owned_step_iff hinv hown) ⟨h.toCacheOk, by simp, ?_⟩ ?_ fun _ _ => trivial
  · intro tid htid entry hentry p hp _
    rw [h.empty tid htid entry hentry] at hp
    cases hp
  · simp only [Owned, h.held]
    exact .nil

/-! ## A retransmission -/

def fragment (more : Bool) (frag : Byte) : Fragment Unit where
  env := openStation
  frame := fragmentFrame more frag
  skb := fragmentFrame more frag
  header := fun _ _ => rfl
  len := by
    have hfc : (fragmentFrame more frag).frameCtl = if more then 0x0608 else 0x0208 := by
      cases more <;> simp [fragmentFrame, received, Skb.frameCtl, Skb.le16, Skb.byte]
    have hlen : ∀ more : Bool, max 24 (rtllibGetHdrlen (if more then 0x0608 else 0x0208)) ≤ 30 := by decide
    rw [hfc]
    exact hlen more

/-- The first fragment is sent again after the second, of three. -/
def retransmitted : List (Fragment Unit) :=
  [fragment true 0, fragment true 1, fragment true 0, fragment false 1]

theorem owned_iff_clean_retransmitted :
    Meets (fragStep openConfig) (CleanStep openConfig) ⟨emptyCache, []⟩ retransmitted ↔
      ∀ fs, fs <+: retransmitted → Owned (exec (fragStep openConfig) ⟨emptyCache, []⟩ fs) :=
  owned_iff_clean openConfig emptyCache_empty retransmitted

/-- The second buffer is delivered, but it is the first whose pointer is cleared. -/
theorem not_always_owned : ¬ ∀ (cfg : Config Unit) (s₀ : State Unit Unit), CacheEmpty s₀ →
    ∀ es : List (Fragment Unit), Owned (exec (fragStep cfg) ⟨s₀, []⟩ es) := by
  intro h
  have howned : Owned (exec (fragStep openConfig) ⟨emptyCache, []⟩ retransmitted) :=
    h openConfig emptyCache emptyCache_empty retransmitted
  generalize hs : exec (fragStep openConfig) ⟨emptyCache, []⟩ retransmitted = s at howned
  have hcount : s.rx.held.count 1 = 1 ∧ (given s.log).count 1 = 1 := by
    rw [← hs]
    decide +kernel
  exact howned.not_given (List.count_pos_iff.mp (by omega)) (List.count_pos_iff.mp (by omega) : 1 ∈ given s.log)

end Rtl8190.Rx.Fragments
