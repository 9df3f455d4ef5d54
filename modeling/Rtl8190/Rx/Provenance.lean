import Rtl8190.Rx.FragCache

/-!
# Where the bytes of a frame come from

The fragment cache puts a fragment behind the others of its MSDU. So a buffer of the cache has bytes
of one MSDU only, from the fragments that came since the first one, for which it was allocated.
-/

open Rtl8190.Memory Function

namespace Rtl8190.Rx

variable {ι κ : Type} {cfg : Config κ} {env : Env ι}

/-! ## Bytes -/

/-- The byte came with an MPDU that had the Protected bit and went through `decrypt_mpdu`. -/
def FromProtected (o : Octet) : Prop := o.origin.any (fun m => wep m.frameCtl && m.decrypted) = true

instance : DecidablePred FromProtected := fun _ => inferInstanceAs (Decidable (_ = _))

/-- All bytes of the buffer did. -/
def Skb.Protected (skb : Skb) : Prop := ∀ i < skb.len, FromProtected (skb.mem i)

instance : DecidablePred Skb.Protected := fun skb =>
  inferInstanceAs (Decidable (∀ i < skb.len, FromProtected (skb.mem i)))

namespace Skb.Protected

variable {skb : Skb}

theorem pull (h : skb.Protected) (n : Nat) : (skb.pull n).Protected :=
  fun i hi => h (n + i) (by simp only [Skb.pull] at hi; omega)

theorem trim (h : skb.Protected) (n : Nat) : (skb.trim n).Protected :=
  fun i hi => h i (by simp only [Skb.trim] at hi; omega)

theorem put (h : skb.Protected) {n : Nat} {src : Nat → Octet} (hsrc : ∀ i < n, FromProtected (src i)) :
    (skb.put n src).Protected := by
  intro i hi
  simp only [Skb.put] at hi ⊢
  split_ifs with hnew
  · exact hsrc _ (by omega)
  · exact h i (by omega)

theorem decrypted (hwep : wep skb.frameCtl = true) (hdrlen : Nat) (d : Decrypted) :
    (skb.decrypted hdrlen d).Protected := by
  intro i hi
  simp only [Skb.decrypted] at hi ⊢
  simp [FromProtected, hi, hwep]

end Skb.Protected

/-! ## Fragments -/

structure Fragment where
  tid : Nat
  key : MsduKey
  /-- The buffer that was allocated for it, if it is the first one of an MSDU -/
  buffer : Option Nat
  wep : Bool

def toFragment (env : Env ι) (s : State ι κ) (frame skb : Skb) : Fragment where
  tid := tidClass skb
  key := skb.msduKey
  buffer := if seqFrag skb.seqCtl = 0 ∧ env.fragSkbRoom ≠ none then some s.nextSkb else none
  wep := wep frame.frameCtl

/-- The fragments that `rxReassemble` puts into the cache: the frame, or none -/
def cached (env : Env ι) (s : State ι κ) (frame skb : Skb) : List Fragment :=
  if seqFrag frame.seqCtl ≠ 0 ∨ moreFrags frame.frameCtl then [toFragment env s frame skb] else []

/-- The fragments from the one on that the buffer `p` was allocated for, the last one first -/
def since (p : Nat) : List Fragment → List Fragment
  | [] => []
  | g :: past => if g.buffer = some p then [g] else g :: since p past

def opener (p : Nat) (past : List Fragment) : Option Fragment := past.find? (·.buffer = some p)

/-- Since the buffer `p` was allocated no fragment of the MSDU was without the Protected bit. -/
def AllProtected (past : List Fragment) (p tid : Nat) (key : MsduKey) : Prop :=
  ∀ g ∈ since p past, g.tid = tid → g.key = key → g.wep = true

instance (past : List Fragment) (p tid : Nat) (key : MsduKey) : Decidable (AllProtected past p tid key) :=
  inferInstanceAs (Decidable (∀ g ∈ since p past, g.tid = tid → g.key = key → g.wep = true))

section Past

variable {past : List Fragment} {g : Fragment} {p : Nat}

theorem since_cons (hp : g.buffer ≠ some p) : since p (g :: past) = g :: since p past := if_neg hp

theorem opener_cons (hp : g.buffer ≠ some p) : opener p (g :: past) = opener p past := by
  simp [opener, hp]

theorem opener_new (hp : g.buffer = some p) : opener p (g :: past) = some g := by
  simp [opener, hp]

theorem mem_since (p : Nat) : g ∈ since p (g :: past) := by
  unfold since
  split_ifs <;> simp

/-- The bytes are from protected MPDUs, if no fragment of the buffer's MSDU was without the bit. -/
def Backed (past : List Fragment) (p : Nat) (skb : Skb) : Prop :=
  ∀ g, opener p past = some g → AllProtected past p g.tid g.key → skb.Protected

theorem Backed.imp {skb skb' : Skb} (h : Backed past p skb) (himp : skb.Protected → skb'.Protected) :
    Backed past p skb' :=
  fun g hg hall => himp (h g hg hall)

theorem Backed.cons {skb : Skb} (h : Backed past p skb) (hp : g.buffer ≠ some p) :
    Backed (g :: past) p skb := by
  intro first hfirst hall
  rw [opener_cons hp] at hfirst
  refine h first hfirst fun x hx => hall x ?_
  rw [since_cons hp]
  exact List.mem_cons_of_mem _ hx

end Past

/-! ## The cache -/

def FragEntry.msduKey (entry : FragEntry) : MsduKey := ⟨entry.seq, entry.srcAddr, entry.dstAddr⟩

/-- The buffer was allocated for a fragment of the MSDU. -/
def OpenedFor (past : List Fragment) (p tid : Nat) (key : MsduKey) : Prop :=
  ∃ g, opener p past = some g ∧ g.tid = tid ∧ g.key = key

/-- The invariant: an entry has the key of the fragment for which its buffer was allocated, and a buffer
has bytes of that MSDU. -/
structure CacheInv (s : State ι κ) (past : List Fragment) : Prop where
  entries : ∀ tid, ∀ entry ∈ s.fragCache tid, ∀ p, entry.skb = some p →
    p < s.nextSkb ∧ OpenedFor past p tid entry.msduKey
  buffers : ∀ p b, s.heap p = some b → p < s.nextSkb ∧ Backed past p b.skb

variable {s s' : State ι κ} {past : List Fragment}

namespace CacheInv

theorem congr (h : CacheInv s past) (hcache : s'.fragCache = s.fragCache) (hheap : s'.heap = s.heap)
    (hnext : s'.nextSkb = s.nextSkb) : CacheInv s' past where
  entries := by
    rw [hcache, hnext]
    exact h.entries
  buffers := by
    rw [hheap, hnext]
    exact h.buffers

theorem cons (h : CacheInv s past) {g : Fragment} (hnew : ∀ p < s.nextSkb, g.buffer ≠ some p) :
    CacheInv s (g :: past) where
  entries tid entry hentry p hp := by
    obtain ⟨hlt, first, hfirst, hkey⟩ := h.entries tid entry hentry p hp
    exact ⟨hlt, first, (opener_cons (hnew p hlt)).trans hfirst, hkey⟩
  buffers p b hb := by
    obtain ⟨hlt, hbacked⟩ := h.buffers p b hb
    exact ⟨hlt, hbacked.cons (hnew p hlt)⟩

theorem write (h : CacheInv s past) {p : Nat} {skb : Skb} (hskb : s.heap p ≠ none → Backed past p skb) :
    CacheInv (s.write p skb) past where
  entries := h.entries
  buffers q b hb := by
    simp only [State.write] at hb
    by_cases hq : q = p
    · subst hq
      rw [update_self] at hb
      obtain ⟨b', hb', rfl⟩ := Option.map_eq_some_iff.mp hb
      exact ⟨(h.buffers q b' hb').1, hskb (by simp [hb'])⟩
    · rw [update_of_ne hq] at hb
      exact h.buffers q b hb

theorem free (h : CacheInv s past) (p : Nat) : CacheInv (s.free p) past where
  entries := h.entries
  buffers q b hb := by
    by_cases hq : q = p
    · simp [State.free, hq] at hb
    · have hsame : (s.free p).heap q = s.heap q := update_of_ne hq ..
      exact h.buffers q b (hsame ▸ hb)

theorem freeAll (h : CacheInv s past) (ps : List Nat) : CacheInv (s.freeAll ps) past := by
  induction ps generalizing s with
  | nil => exact h
  | cons p ps ih => exact ih (h.free p)

end CacheInv

theorem freeAll_heap_none {p : Nat} (h : s.heap p = none) (ps : List Nat) :
    (s.freeAll ps).heap p = none := by
  induction ps generalizing s with
  | nil => exact h
  | cons q ps ih =>
    refine ih ?_
    by_cases hq : p = q
    · exact hq ▸ update_self ..
    · exact (update_of_ne hq ..).trans h

/-! ## Searches -/

/-- The entry is one of the row, or has lost its buffer. -/
def Stems (row : List FragEntry) (entry : FragEntry) : Prop :=
  ∀ p, entry.skb = some p → ∃ old ∈ row, old.skb = some p ∧ old.msduKey = entry.msduKey

theorem Stems.mono {row row' : List FragEntry} {entry : FragEntry} (h : Stems row entry)
    (hrow : row ⊆ row') : Stems row' entry := by
  intro p hp
  obtain ⟨old, hold, hkey⟩ := h p hp
  exact ⟨old, hrow hold, hkey⟩

theorem stems_of_mem {row : List FragEntry} {entry : FragEntry} (h : entry ∈ row) : Stems row entry :=
  fun _ hp => ⟨entry, h, hp, rfl⟩

theorem stems_aged {now : BitVec 64} {row : List FragEntry} {entry : FragEntry}
    (h : entry ∈ row.map (·.aged cfg now)) : Stems row entry := by
  intro p hp
  obtain ⟨old, hold, rfl⟩ := List.mem_map.mp h
  unfold FragEntry.aged at hp ⊢
  split_ifs at hp ⊢
  exact ⟨old, hold, hp, rfl⟩

/-- A search leaves entries of the row, some without their buffer, and so does a change to the entry
that was found. -/
theorem Finds.stems {now : BitVec 64} {key : MsduKey} {frag : Option Nat} {row : List FragEntry}
    {r : List Nat × List FragEntry × Option (Nat × Nat)} (h : Finds cfg now key frag row r)
    {f : FragEntry → FragEntry} (hf : ∀ entry, Stems [entry] (f entry)) :
    ∀ entry ∈ touch r f, Stems row entry := by
  intro entry hentry
  cases h with
  | @hit pre post found p first skb =>
    rw [touch_hit] at hentry
    rw [first.row]
    rcases List.mem_append.mp hentry with hpre | hpost
    · exact (stems_aged hpre).mono (List.subset_append_left _ _)
    · rcases List.mem_cons.mp hpost with rfl | hpost
      · exact (hf found).mono (by simp)
      · exact stems_of_mem (by simp [hpost])
  | miss no => exact stems_aged hentry

theorem CacheInv.rewritten (h : CacheInv s past) {tid : Nat} {row : List FragEntry} {ps : List Nat}
    (hs : Rewritten s s' tid row ps) (hrow : ∀ entry ∈ row, Stems (s.fragCache tid) entry) :
    CacheInv s' past where
  entries j entry hentry p hp := by
    rw [hs.nextSkb]
    rw [hs.fragCache] at hentry
    by_cases hj : j = tid
    · subst hj
      rw [update_self] at hentry
      obtain ⟨old, hold, hskb, hkey⟩ := hrow entry hentry p hp
      rw [← hkey]
      exact h.entries j old hold p hskb
    · rw [update_of_ne hj] at hentry
      exact h.entries j entry hentry p hp
  buffers p b hb := by
    rw [hs.nextSkb]
    rw [hs.heap] at hb
    simpa using (h.freeAll ps).buffers p b hb

theorem CacheInv.invalidate (h : CacheInv s past) (now : BitVec 64) (hdr : Skb) :
    CacheInv (rtllibFragCacheInvalidate cfg s now hdr) past :=
  h.rewritten invalidate_rewritten
    ((lookup_finds none).stems fun _ _ hp => by cases hp)

theorem Gets.cacheInv {frame skb : Skb} {o : Option Nat} {ops : List (Ledger.Op Nat)}
    (hgets : Gets cfg env s skb o s' ops) (h : CacheInv s past) :
    CacheInv s' (toFragment env s frame skb :: past) ∧
      ∀ p, o = some p → OpenedFor (toFragment env s frame skb :: past) p (tidClass skb) skb.msduKey := by
  -- The fragment gets a buffer that was allocated for its MSDU.
  cases hgets with
  | noMemory first alloc =>
    have hnone : (toFragment env s frame skb).buffer = none := if_neg fun hb => hb.2 alloc
    exact ⟨h.cons (by simp [hnone]), by simp⟩
  | new first alloc fragCache fragNextIdx heap nextSkb =>
    have hsome : (toFragment env s frame skb).buffer = some s.nextSkb :=
      if_pos ⟨first, by simp [alloc]⟩
    have hopened : OpenedFor (toFragment env s frame skb :: past) s.nextSkb (tidClass skb) skb.msduKey :=
      ⟨_, opener_new hsome, rfl, rfl⟩
    have hold : CacheInv s (toFragment env s frame skb :: past) :=
      h.cons fun p hp => by simp [hsome, hp.ne']
    refine ⟨⟨fun tid entry hentry p hp => ?_, fun p b hb => ?_⟩, by rintro p ⟨⟩; exact hopened⟩
    · have hprev (hmem : entry ∈ s.fragCache tid) := hold.entries tid entry hmem p hp
      rw [nextSkb]
      rw [fragCache] at hentry
      by_cases htid : tid = tidClass skb
      · subst htid
        rw [update_self] at hentry
        rcases List.mem_or_eq_of_mem_set hentry with hmem | rfl
        · exact (hprev hmem).imp_left (Nat.lt_succ_of_lt ·)
        · cases hp
          exact ⟨Nat.lt_succ_self _, hopened⟩
      · rw [update_of_ne htid] at hentry
        exact (hprev hentry).imp_left (Nat.lt_succ_of_lt ·)
    · rw [nextSkb]
      rw [heap] at hb
      by_cases hp : p = s.nextSkb
      · -- The new buffer is empty.
        subst hp
        rw [update_self] at hb
        cases hb
        exact ⟨Nat.lt_succ_self _, fun _ _ _ i hi => absurd hi (Nat.not_lt_zero i)⟩
      · rw [update_of_ne hp] at hb
        exact ((hold.freeAll _).buffers p b hb).imp_left fun hlt => by simp at hlt; omega
  | @search _ r later finds rewritten =>
    have hnone : (toFragment env s frame skb).buffer = none := if_neg fun hb => later hb.1
    have hold : CacheInv s (toFragment env s frame skb :: past) := h.cons (by simp [hnone])
    refine ⟨hold.rewritten rewritten (finds.stems fun old p hp => ⟨old, by simp, hp, rfl⟩), fun p hp => ?_⟩
    cases finds with
    | miss no => cases hp
    | @hit pre post entry q first hentry =>
      cases hp
      have hmem : entry ∈ s.fragCache (tidClass skb) := by
        rw [first.row]
        simp
      have hkey : entry.msduKey = skb.msduKey := first.hit.1.key
      rw [← hkey]
      exact (hold.entries _ entry hmem q hentry).2

/-! ## Reassembly -/

theorem backed_joined {frame skb : Skb} {p : Nat} {b : FragSkb} {g : Fragment}
    (hb : Backed (g :: past) p b.skb) (hopened : OpenedFor (g :: past) p g.tid g.key)
    (hskb : g.wep = true → skb.Protected) : Backed (g :: past) p (joined env frame skb b) := by
  obtain ⟨first, hfirst, htid, hkey⟩ := hopened
  intro first' hfirst' hall
  obtain rfl : first = first' := Option.some.inj (hfirst.symm.trans hfirst')
  have hprot := hskb (hall g (mem_since p) htid.symm hkey.symm)
  exact (hb first hfirst hall).put fun i hi => hprot _ (by omega)

section Reassembles

variable {frame skb : Skb} {r : Reassembly} {ops : List (Ledger.Op Nat)}

theorem Gets.backed {s₁ : State ι κ} {p : Nat} (gets : Gets cfg env s skb (some p) s₁ ops)
    (hinv : CacheInv s past) (hskb : wep frame.frameCtl = true → skb.Protected)
    (halloc : s₁.heap p ≠ none) :
    Backed (toFragment env s frame skb :: past) p (joined env frame skb (s₁.deref env p)) := by
  obtain ⟨hinv₁, hopened⟩ : CacheInv s₁ (toFragment env s frame skb :: past) ∧ _ := gets.cacheInv hinv
  obtain ⟨b, hb⟩ := Option.ne_none_iff_exists'.mp halloc
  refine backed_joined ?_ (hopened p rfl) hskb
  simpa [State.deref, hb] using (hinv₁.buffers p b hb).2

theorem Reassembles.fragment_or (h : Reassembles cfg env s frame skb r s' ops) :
    (r = .msdu skb none ∧ s' = s ∧ cached env s frame skb = []) ∨
      cached env s frame skb = [toFragment env s frame skb] := by
  cases h with
  | whole frag more => exact .inl ⟨rfl, rfl, if_neg (by simp [frag, more])⟩
  | missing fragment => exact .inr (if_pos fragment)
  | tooShort _ _ short => exact .inr (if_pos (.inl short.1))
  | overflow fragment => exact .inr (if_pos fragment)
  | waits _ _ _ _ more => exact .inr (if_pos (.inr more))
  | complete _ _ _ _ frag => exact .inr (if_pos (.inl frag))

/-- The reassembly keeps the invariant, and the whole MSDU is made of fragments of its buffer. -/
theorem Reassembles.cacheInv (h : Reassembles cfg env s frame skb r s' ops) (hinv : CacheInv s past)
    (hskb : wep frame.frameCtl = true → skb.Protected) :
    CacheInv s' (cached env s frame skb ++ past) ∧
      ∀ msdu p, r = .msdu msdu (some p) → s'.heap p ≠ none →
        Backed (cached env s frame skb ++ past) p msdu := by
  rcases h.fragment_or with ⟨rfl, rfl, hnone⟩ | hone
  · rw [hnone]
    exact ⟨hinv, fun msdu p hr => by cases hr⟩
  rw [hone, List.singleton_append]
  cases h with
  | whole frag more => simp [cached, frag, more] at hone
  | missing _ _ gets => exact ⟨(gets.cacheInv hinv).1, fun msdu p hr => by cases hr⟩
  | tooShort _ gets =>
    exact ⟨(gets.cacheInv hinv).1.congr rfl rfl rfl, fun msdu p hr => by cases hr⟩
  | overflow _ _ gets =>
    exact ⟨(gets.cacheInv hinv).1.invalidate _ _, fun msdu p hr => by cases hr⟩
  | waits _ gets =>
    exact ⟨(gets.cacheInv hinv).1.write (gets.backed hinv hskb), fun msdu p hr => by cases hr⟩
  | @complete s₁ s₂ _ p msdu _ gets _ _ _ _ msdu_eq write =>
    subst msdu_eq write
    refine ⟨((gets.cacheInv hinv).1.write (gets.backed hinv hskb)).invalidate _ _, ?_⟩
    rintro _ _ ⟨⟩ halloc
    refine gets.backed hinv hskb fun hnone => halloc ?_
    have hwritten : (s₁.write p (joined env frame skb (s₁.deref env p))).heap p = none := by
      simp [State.write, hnone]
    exact freeAll_heap_none hwritten _

/-- What a search for the fragment finds is allocated, and no fragment of the MSDU was without the
Protected bit. -/
def FindsProtected (cfg : Config κ) (env : Env ι) (s : State ι κ) (past : List Fragment) (skb : Skb) :
    Prop :=
  let r := fragCacheLookup cfg s env.jiffies skb (some (seqFrag skb.seqCtl))
  ∀ found ∈ r.2.2,
    (s.freeAll r.1).heap found.2 ≠ none ∧ AllProtected past found.2 (tidClass skb) skb.msduKey

instance (cfg : Config κ) (env : Env ι) (s : State ι κ) (past : List Fragment) (skb : Skb) :
    Decidable (FindsProtected cfg env s past skb) :=
  inferInstanceAs (Decidable (∀ found ∈ (_ : Option (Nat × Nat)), _))

/-- The fragment gets an allocated buffer that is its own, or one of fragments with the bit. -/
theorem Gets.allProtected {s₁ : State ι κ} {p : Nat}
    (hget : rtllibFragCacheGet cfg env s skb = (some p, s₁)) (hwep : wep frame.frameCtl = true)
    (hfound : FindsProtected cfg env s past skb) : s₁.heap p ≠ none ∧
      AllProtected (toFragment env s frame skb :: past) p (tidClass skb) skb.msduKey := by
  unfold rtllibFragCacheGet at hget
  by_cases hfirst : seqFrag skb.seqCtl = 0
  · rw [if_pos hfirst] at hget
    unfold fragCacheNew at hget
    cases halloc : env.fragSkbRoom with
    | none => simp [halloc] at hget
    | some room =>
      simp only [halloc, Prod.mk.injEq, Option.some.injEq] at hget
      obtain ⟨rfl, rfl⟩ := hget
      have hown : (toFragment env s frame skb).buffer = some s.nextSkb :=
        if_pos ⟨hfirst, by simp [halloc]⟩
      refine ⟨by simp, fun g hg _ _ => ?_⟩
      rw [since, if_pos hown, List.mem_singleton] at hg
      exact hg ▸ hwep
  · rw [if_neg hfirst, Prod.mk.injEq] at hget
    obtain ⟨hp, rfl⟩ := hget
    obtain ⟨⟨i, q⟩, hlookup, rfl⟩ := Option.map_eq_some_iff.mp hp
    obtain ⟨halloc, hall⟩ := hfound (i, q) hlookup
    have hnone : (toFragment env s frame skb).buffer = none := if_neg fun hb => hfirst hb.1
    refine ⟨halloc, fun g hg htid hkey => ?_⟩
    rw [since_cons (by simp [hnone]), List.mem_cons] at hg
    rcases hg with rfl | hg
    · exact hwep
    · exact hall g hg htid hkey

/-- A protected last fragment that finds none but protected ones makes a protected MSDU. -/
theorem Reassembles.msdu_protected {msdu : Skb} {o : Option Nat}
    (h : Reassembles cfg env s frame skb (.msdu msdu o) s' ops) (hinv : CacheInv s past)
    (hwep : wep frame.frameCtl = true) (hskb : skb.Protected)
    (hfound : seqFrag frame.seqCtl ≠ 0 → FindsProtected cfg env s past skb) : msdu.Protected := by
  cases h with
  | whole => exact hskb
  | @complete s₁ _ _ p _ get gets _ _ frag _ msdu_eq =>
    subst msdu_eq
    obtain ⟨halloc, hall⟩ := Gets.allProtected get hwep (hfound frag)
    have hbacked : _ → Backed (toFragment env s frame skb :: past) p _ := gets.backed hinv fun _ => hskb
    have hopened : OpenedFor (toFragment env s frame skb :: past) p _ _ := (gets.cacheInv hinv).2 p rfl
    obtain ⟨first, hfirst, htid, hkey⟩ := hopened
    rw [← htid, ← hkey] at hall
    exact hbacked halloc first hfirst hall

end Reassembles

end Rtl8190.Rx
