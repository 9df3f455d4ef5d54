import Rtl8190.Rx.Provenance

/-!
# Unencrypted frames

With encryption configured, `rtllib_rx` means to drop a frame that is not encrypted, unless it is an
EAPOL frame. The check depends on a key slot that the frame itself names, and sees only the last
fragment.
-/

open Rtl8190.Memory Rtl8190.Reorder Rtl8190.Run Function

namespace Rtl8190.Rx

variable {ι κ : Type}

/-! ## Subframes -/

theorem subframeLoop_protected {room : Nat} {skb : Skb} {subframes result : List Skb}
    (h : skb.Protected) (hs : ∀ sub ∈ subframes, sub.Protected)
    (hr : (subframeLoop room skb subframes).2 = some result) : ∀ sub ∈ result, sub.Protected := by
  induction room generalizing skb subframes with
  | zero =>
    cases hr
    exact hs
  | succ room ih =>
    have hnew (length : Nat) : ∀ sub ∈ subframes ++ [(skb.pull 14).trim length], sub.Protected := by
      intro sub hsub
      rcases List.mem_append.mp hsub with hsub | hsub
      · exact hs sub hsub
      · rw [List.mem_singleton.mp hsub]
        exact (h.pull 14).trim length
    simp only [subframeLoop] at hr
    split_ifs at hr
    · cases hr
      exact hnew _
    · exact ih ((h.pull _).pull _) (hnew _) hr
    · exact ih (((h.pull _).pull _).pull _) (hnew _) hr
    · cases hr
      exact hs

theorem parseSubframe_protected {skb : Skb} {htc : Bool} {result : List Skb} (h : skb.Protected)
    (hr : (parseSubframe skb htc).2 = some result) : ∀ sub ∈ result, sub.Protected := by
  simp only [parseSubframe] at hr
  split_ifs at hr
  · obtain ⟨subframes, hloop, hsome⟩ := Option.bind_eq_some_iff.mp hr
    split_ifs at hsome
    cases hsome
    exact subframeLoop_protected (h.pull _) (by simp) hloop
  · cases hr
    simpa using h.pull _

theorem subframeLoop_rest {room : Nat} {skb : Skb} {subframes : List Skb} (h : skb.Protected) :
    (subframeLoop room skb subframes).1.Protected := by
  induction room generalizing skb subframes with
  | zero => exact h
  | succ room ih =>
    simp only [subframeLoop]
    split_ifs
    · exact h
    · exact h.pull _
    · exact ih ((h.pull _).pull _)
    · exact (h.pull _).pull _
    · exact ih (((h.pull _).pull _).pull _)
    · exact h

theorem parseSubframe_rest {skb : Skb} (h : skb.Protected) (htc : Bool) :
    (parseSubframe skb htc).1.Protected := by
  simp only [parseSubframe]
  split_ifs
  · exact h
  · exact subframeLoop_rest (h.pull _)
  · exact h.pull _

/-! ## The condition -/

/-- The packet is an EAPOL frame that was recognised, or all its payload is from protected MPDUs. -/
def Packet.Ok (pkt : Packet) : Prop := pkt.eapol = true ∨ pkt.payload.Protected

instance : DecidablePred Packet.Ok := fun _ => inferInstanceAs (Decidable (_ ∨ _))

def Sound (s : State ι κ) : Prop := ∀ pkt ∈ s.upper, pkt.Ok

instance (s : State ι κ) : Decidable (Sound s) := inferInstanceAs (Decidable (∀ pkt ∈ s.upper, pkt.Ok))

/-- Nothing comes of the unprotected frame: there is no memory, there is no payload in it, or the
fragments that it continues are not there. -/
def Lost (cfg : Config κ) (env : Env ι) (s : State ι κ) (frame : Skb) : Prop :=
  env.rxbAlloc = false ∨
    if seqFrag frame.seqCtl = 0 then
      (parseSubframe frame (env.bContainHTC || htcCheck env frame)).2 = none
    else (fragCacheLookup cfg s env.jiffies frame (some (seqFrag frame.seqCtl))).2.2 = none

structure Clean (cfg : Config κ) (env : Env ι) (s : State ι κ) (past : List Fragment) (frame : Skb) :
    Prop where
  /-- An unprotected frame that will not wait for more fragments names a slot with a cipher. -/
  unprotected : wep frame.frameCtl = false → moreFrags frame.frameCtl = false →
    (selectCrypt cfg env frame).isSome = true ∨ Lost cfg env s frame
  /-- A protected last fragment finds protected ones. -/
  fragments : wep frame.frameCtl = true → seqFrag frame.seqCtl ≠ 0 →
    moreFrags frame.frameCtl = false → ∀ d ∈ (rxDecrypt cfg env s frame).1,
    FindsProtected cfg env s past d.2

instance (cfg : Config κ) (env : Env ι) (s : State ι κ) (frame : Skb) :
    Decidable (Lost cfg env s frame) :=
  inferInstanceAs (Decidable (_ ∨ ite _ _ _))

instance (cfg : Config κ) (env : Env ι) (s : State ι κ) (past : List Fragment) (frame : Skb) :
    Decidable (Clean cfg env s past frame) :=
  decidable_of_iff (_ ∧ _) ⟨fun h => ⟨h.1, h.2⟩, fun h => ⟨h.1, h.2⟩⟩

def broughtBy [DecidableEq ι] (cfg : Config κ) (env : Env ι) (s : State ι κ) (frame : Skb) :
    List Fragment :=
  match (rxFilter cfg env s frame).1, (rxDecrypt cfg env s frame).1 with
  | .pass, some (_, skb) => cached env s frame skb
  | _, _ => []

/-- The state, and the fragments that have come to the cache. The last one is first. -/
structure Traced (ι κ : Type) where
  state : State ι κ
  past : List Fragment

def trace [DecidableEq ι] (cfg : Config κ) (w : Traced ι κ) (e : Event ι) : Traced ι κ where
  state := step cfg w.state e
  past :=
    match e with
    | .rx env mem len =>
      if w.state.oops then w.past else broughtBy cfg env w.state (received mem len) ++ w.past
    | _ => w.past

/-- A frame that passes the filter is clean. -/
def CleanEvent [DecidableEq ι] (cfg : Config κ) (w : Traced ι κ) : Event ι → Prop
  | .rx env mem len =>
    (rxFilter cfg env w.state (received mem len)).1 = .pass →
      Clean cfg env w.state w.past (received mem len)
  | .pendingTimeout _ => True
  | .removeTs _ => True

instance [DecidableEq ι] (cfg : Config κ) (w : Traced ι κ) : (e : Event ι) → Decidable (CleanEvent cfg w e)
  | .rx .. => inferInstanceAs (Decidable (_ → _))
  | .pendingTimeout _ => isTrue trivial
  | .removeTs _ => isTrue trivial

theorem exec_trace [DecidableEq ι] (cfg : Config κ) (w : Traced ι κ) (es : List (Event ι)) :
    (exec (trace cfg) w es).state = exec (step cfg) w.state es := by
  induction es generalizing w with
  | nil => rfl
  | cons e es ih => exact ih (trace cfg w e)

/-! ## What the stages leave alone -/

structure Quiet (s s' : State ι κ) : Prop where
  reorder : s'.reorder = s.reorder
  delivered : s'.delivered = s.delivered

theorem Quiet.refl (s : State ι κ) : Quiet s s := ⟨rfl, rfl⟩

theorem Quiet.trans {s s' s'' : State ι κ} (h : Quiet s s') (h' : Quiet s' s'') : Quiet s s'' :=
  ⟨h'.reorder.trans h.reorder, h'.delivered.trans h.delivered⟩

/-- Neither the fragment cache nor the keys nor the delivery were touched. -/
structure SameCache (s s' : State ι κ) : Prop extends Quiet s s' where
  priv : s'.priv = s.priv
  fragCache : s'.fragCache = s.fragCache
  heap : s'.heap = s.heap
  nextSkb : s'.nextSkb = s.nextSkb

theorem SameCache.refl (s : State ι κ) : SameCache s s := ⟨.refl s, rfl, rfl, rfl, rfl⟩

variable {cfg : Config κ} {env : Env ι} {s : State ι κ}

theorem isDuplicatePacket_same (header : Skb) :
    SameCache s (isDuplicatePacket cfg env s header).2 := by
  simp only [isDuplicatePacket]
  split
  · split
    · exact ⟨⟨rfl, rfl⟩, rfl, rfl, rfl, rfl⟩
    · split
      · exact .refl s
      · exact ⟨⟨rfl, rfl⟩, rfl, rfl, rfl, rfl⟩
  · split
    · exact .refl s
    · exact ⟨⟨rfl, rfl⟩, rfl, rfl, rfl, rfl⟩
  · exact .refl s

theorem duplicateCheck_same [DecidableEq ι] (skb : Skb) :
    SameCache s (duplicateCheck cfg env s skb).2 := by
  simp only [duplicateCheck]
  split
  · split
    · exact .refl s
    · exact isDuplicatePacket_same skb
  · split
    · exact .refl s
    · split
      · exact .refl s
      · exact ⟨⟨rfl, rfl⟩, rfl, rfl, rfl, rfl⟩

theorem rxFilter_same [DecidableEq ι] (skb : Skb) : SameCache s (rxFilter cfg env s skb).2 := by
  rcases rxFilter_snd cfg env s skb with hkept | hchecked
  · rw [hkept]
    exact .refl s
  · rw [hchecked]
    exact duplicateCheck_same skb

variable (cfg env) in
theorem rxDecrypt_fst_congr {s' : State ι κ} (h : s'.priv = s.priv) (skb : Skb) :
    (rxDecrypt cfg env s' skb).1 = (rxDecrypt cfg env s skb).1 := by
  simp only [rxDecrypt, rtllibRxFrameDecrypt, h]
  split_ifs
  · split
    · rfl
    · split
      · rfl
      · split
        · rfl
        · split_ifs <;> rfl
  · rfl

theorem rxDecrypt_quiet (skb : Skb) : Quiet s (rxDecrypt cfg env s skb).2 := by
  simp only [rxDecrypt, rtllibRxFrameDecrypt]
  split_ifs
  · split
    · exact .refl s
    · split
      · exact .refl s
      · split
        · exact .refl s
        · split_ifs
          · exact .refl s
          · exact ⟨rfl, rfl⟩
  · exact .refl s

variable (cfg env s) in
theorem rxDecrypt_cache (skb : Skb) : (rxDecrypt cfg env s skb).2.fragCache = s.fragCache ∧
    (rxDecrypt cfg env s skb).2.heap = s.heap ∧ (rxDecrypt cfg env s skb).2.nextSkb = s.nextSkb := by
  simp only [rxDecrypt, rtllibRxFrameDecrypt]
  split_ifs
  · split
    · exact ⟨rfl, rfl, rfl⟩
    · split
      · exact ⟨rfl, rfl, rfl⟩
      · split
        · exact ⟨rfl, rfl, rfl⟩
        · split_ifs <;> exact ⟨rfl, rfl, rfl⟩
  · exact ⟨rfl, rfl, rfl⟩

@[simp] theorem freeAll_reorder (ps : List Nat) : (s.freeAll ps).reorder = s.reorder := by
  induction ps generalizing s with
  | nil => rfl
  | cons p ps ih => exact ih

@[simp] theorem freeAll_delivered (ps : List Nat) : (s.freeAll ps).delivered = s.delivered := by
  induction ps generalizing s with
  | nil => rfl
  | cons p ps ih => exact ih

theorem freeAll_heap_congr {s' : State ι κ} (h : s'.heap = s.heap) (ps : List Nat) :
    (s'.freeAll ps).heap = (s.freeAll ps).heap := by
  induction ps generalizing s s' with
  | nil => exact h
  | cons p ps ih => exact ih (by simp only [State.free, h])

theorem fragCacheNew_quiet (hdr : Skb) : Quiet s (fragCacheNew env s hdr).2 := by
  unfold fragCacheNew
  split
  · exact .refl s
  · exact ⟨freeAll_reorder _, freeAll_delivered _⟩

theorem fragCacheGet_quiet (hdr : Skb) : Quiet s (rtllibFragCacheGet cfg env s hdr).2 := by
  simp only [rtllibFragCacheGet]
  split_ifs
  · exact fragCacheNew_quiet hdr
  · exact ⟨freeAll_reorder _, freeAll_delivered _⟩

theorem fragCacheInvalidate_quiet (now : BitVec 64) (hdr : Skb) :
    Quiet s (rtllibFragCacheInvalidate cfg s now hdr) :=
  ⟨freeAll_reorder _, freeAll_delivered _⟩

theorem write_quiet (p : Nat) (skb : Skb) : Quiet s (s.write p skb) := ⟨rfl, rfl⟩

theorem rxReassemble_quiet (frame skb : Skb) : Quiet s (rxReassemble cfg env s frame skb).2 := by
  have hget : Quiet s (rtllibFragCacheGet cfg env s skb).2 := fragCacheGet_quiet skb
  simp only [rxReassemble]
  split
  · split
    · exact hget
    · split_ifs
      · exact hget.trans ⟨rfl, rfl⟩
      · exact hget.trans (fragCacheInvalidate_quiet _ _)
      · exact hget.trans (write_quiet _ _)
      · exact hget.trans ((write_quiet _ _).trans (fragCacheInvalidate_quiet _ _))
  · exact .refl s

/-! ## Reassembly -/

theorem FindsProtected.congr {s' : State ι κ} {past : List Fragment} {skb : Skb}
    (h : FindsProtected cfg env s past skb) (hcache : s'.fragCache = s.fragCache)
    (hheap : s'.heap = s.heap) : FindsProtected cfg env s' past skb := by
  have hlookup : fragCacheLookup cfg s' env.jiffies skb (some (seqFrag skb.seqCtl)) =
      fragCacheLookup cfg s env.jiffies skb (some (seqFrag skb.seqCtl)) := by
    simp only [fragCacheLookup, hcache]
  unfold FindsProtected at h ⊢
  simp only [hlookup, freeAll_heap_congr hheap]
  exact h

theorem cached_congr {s' : State ι κ} (h : s'.nextSkb = s.nextSkb) (frame skb : Skb) :
    cached env s' frame skb = cached env s frame skb := by
  simp only [cached, toFragment, h]

theorem rxReassemble_more {frame skb msdu : Skb} {p : Option Nat}
    (h : (rxReassemble cfg env s frame skb).1 = .msdu msdu p) : moreFrags frame.frameCtl = false := by
  have hr : Reassembles cfg env s frame skb _ _ _ := rxReassemble_reassembles
  rw [h] at hr
  generalize (rxReassemble cfg env s frame skb).2 = s', reassembleOps cfg env s frame skb = ops at hr
  cases hr with
  | whole _ more => exact more
  | complete _ _ _ _ _ more => exact more

theorem rxReassemble_alone {frame skb msdu : Skb} {p : Option Nat}
    (h : (rxReassemble cfg env s frame skb).1 = .msdu msdu p) (hfrag : seqFrag frame.seqCtl ≠ 0)
    (hskb : seqFrag skb.seqCtl ≠ 0) :
    (fragCacheLookup cfg s env.jiffies skb (some (seqFrag skb.seqCtl))).2.2 ≠ none := by
  intro hnone
  have hget : (rtllibFragCacheGet cfg env s skb).1 = none := by
    simp only [rtllibFragCacheGet, if_neg hskb, hnone, Option.map_none]
  simp only [rxReassemble, if_pos (Or.inl hfrag), hget] at h
  cases h

/-! ## Indication -/

/-- All packets of the `struct rtllib_rxb` will be `Ok`. -/
def Rxb.Ok (rxb : Rxb) : Prop := rxb.eapol = true ∨ ∀ sub ∈ rxb.subframes, sub.Protected

theorem Rxb.Ok.packets {rxb : Rxb} (h : rxb.Ok) : ∀ pkt ∈ rtllibIndicatePackets rxb, pkt.Ok := by
  intro pkt hpkt
  obtain ⟨sub, hsub, rfl⟩ := List.mem_map.mp hpkt
  have hor : rxb.eapol = true ∨ sub.Protected := h.imp_right fun h => h sub hsub
  unfold toEthernet
  simp only
  split
  · exact hor.imp_right fun h => h.pull 6
  · exact hor

variable [DecidableEq ι] [Fintype ι]

/-- What holds after every step of a run of clean events. -/
structure Inv (s : State ι κ) : Prop where
  delivered : ∀ rxb ∈ s.delivered, rxb.Ok
  passed : ∀ rxb ∈ s.reorder.passed, rxb.Ok
  pool : Pool.Inv s.reorder

omit [DecidableEq ι] in
theorem Inv.sound (h : Inv s) : Sound s := by
  intro pkt hpkt
  obtain ⟨rxb, hrxb, hpkt⟩ := List.mem_flatMap.mp hpkt
  refine Rxb.Ok.packets ?_ pkt hpkt
  rcases List.mem_append.mp hrxb with hrxb | hrxb
  · exact h.delivered rxb hrxb
  · refine h.passed rxb (Multiset.mem_coe.mp ?_)
    rw [← h.pool.packet]
    exact Multiset.mem_add.mpr (Or.inl (Multiset.mem_add.mpr (Or.inr hrxb)))

omit [DecidableEq ι] in
theorem Inv.quiet {s' : State ι κ} (h : Inv s) (hq : Quiet s s') : Inv s' :=
  ⟨hq.delivered ▸ h.delivered, hq.reorder ▸ h.passed, hq.reorder ▸ h.pool⟩

theorem Inv.indicate (h : Inv s) {rxb : Rxb} (hok : rxb.Ok) (pTS : Option ι) (seqNum : Nat) :
    Inv (indicate cfg env s rxb pTS seqNum) := by
  have hdirect : Inv { s with delivered := s.delivered ++ [rxb] } :=
    ⟨by simpa [or_imp, forall_and] using ⟨h.delivered, hok⟩, h.passed, h.pool⟩
  unfold Rx.indicate
  split
  · next i =>
    split
    · have hpool := Pool.inv_step cfg.rxReorderWinSize h.pool (.packet i rxb seqNum)
      refine ⟨h.delivered, ?_, hpool⟩
      simpa [Pool.step, Pool.State.after, or_imp, forall_and] using ⟨h.passed, hok⟩
    · exact hdirect
  · exact hdirect

omit [DecidableEq ι] [Fintype ι] in
theorem keep_quiet (s : State ι κ) (p : Option Nat) (skb : Skb) :
    Quiet s (p.elim s fun p => s.write p skb) := by
  cases p with
  | none => exact .refl s
  | some p => exact write_quiet p skb

omit [DecidableEq ι] [Fintype ι] in
theorem free_quiet (s : State ι κ) (p : Option Nat) : Quiet s (p.elim s s.free) := by
  cases p with
  | none => exact .refl s
  | some p => exact ⟨rfl, rfl⟩

theorem Inv.rxIndicate (h : Inv s) (hopen : cfg.openWep = false) {frame skb : Skb}
    (hwep : wep frame.frameCtl = true → skb.Protected)
    (hslot : wep frame.frameCtl = false → (selectCrypt cfg env frame).isSome = true ∨
      env.rxbAlloc = false ∨ (parseSubframe skb (env.bContainHTC || htcCheck env frame)).2 = none)
    (p : Option Nat) : Inv (rxIndicate cfg env s frame skb p).2 := by
  have h1 := h.quiet (keep_quiet s p skb)
  simp only [Rx.rxIndicate]
  split
  · exact h1
  · split
    · next halloc =>
      split
      · exact h1.quiet (keep_quiet _ p _)
      · next subframes hparse =>
        refine Inv.quiet (h1.indicate ?_ _ _) (free_quiet _ p)
        cases hw : wep frame.frameCtl with
        | false =>
          rcases hslot hw with hslot | hnone | hnone
          · exact Or.inl (by simp [unencrypted, hw, hslot, hopen])
          · simp [halloc] at hnone
          · rw [hparse] at hnone
            cases hnone
        | true => exact Or.inr (parseSubframe_protected (hwep hw) hparse)
    · exact h1

section Cache

variable {past : List Fragment}

omit [DecidableEq ι] [Fintype ι] in
theorem CacheInv.keep (h : CacheInv s past) {p : Option Nat} {skb : Skb}
    (hskb : ∀ q, p = some q → s.heap q ≠ none → Backed past q skb) :
    CacheInv (p.elim s fun p => s.write p skb) past := by
  cases p with
  | none => exact h
  | some q => exact h.write (hskb q rfl)

variable (cfg env s) in
omit [Fintype ι] in
theorem indicate_cache (rxb : Rxb) (pTS : Option ι) (seqNum : Nat) :
    (indicate cfg env s rxb pTS seqNum).fragCache = s.fragCache ∧
      (indicate cfg env s rxb pTS seqNum).heap = s.heap ∧
      (indicate cfg env s rxb pTS seqNum).nextSkb = s.nextSkb := by
  unfold Rx.indicate
  split
  · split <;> exact ⟨rfl, rfl, rfl⟩
  · exact ⟨rfl, rfl, rfl⟩

omit [Fintype ι] in
theorem CacheInv.rxIndicate (h : CacheInv s past) {frame skb : Skb} {p : Option Nat}
    (hskb : ∀ q, p = some q → s.heap q ≠ none → Backed past q skb) :
    CacheInv (rxIndicate cfg env s frame skb p).2 past := by
  -- The frame stays in its buffer, or what is left of it.
  have h1 := h.keep hskb
  have hrest (htc : Bool) (q : Nat) (hq : p = some q)
      (halloc : (p.elim s fun p => s.write p skb).heap q ≠ none) :
      Backed past q (parseSubframe skb htc).1 := by
    subst hq
    have halloc : s.heap q ≠ none := fun hnone => halloc (by simp [State.write, hnone])
    exact (hskb q rfl halloc).imp fun hprot => parseSubframe_rest hprot htc
  simp only [Rx.rxIndicate]
  split
  · exact h1
  · split
    · split
      · exact h1.keep (hrest _)
      · next subframes hparse =>
        obtain ⟨hcache, hheap, hnext⟩ := indicate_cache cfg env
          (p.elim s fun p => s.write p skb)
          ⟨subframes, (dstSrc frame).2, (dstSrc frame).1, unencrypted cfg env frame⟩
          (rxStream env skb) (seqSeq frame.seqCtl)
        have h2 := h1.congr hcache hheap hnext
        cases p with
        | none => exact h2
        | some q => exact h2.free q
    · exact h1

end Cache

/-! ## Runs -/

omit [DecidableEq ι] [Fintype ι] in
theorem rxDecryptMsdu_quiet (frame skb : Skb) (keyidx : Nat) :
    Quiet s (rxDecryptMsdu cfg env s frame skb keyidx).2 := by
  unfold rxDecryptMsdu rtllibRxFrameDecryptMsdu
  split
  · split
    · exact .refl s
    · split
      · exact .refl s
      · exact ⟨rfl, rfl⟩
  · exact .refl s

omit [DecidableEq ι] [Fintype ι] in
theorem rxDecryptMsdu_protected {frame skb msdu : Skb} {keyidx : Nat} (h : skb.Protected)
    (hr : (rxDecryptMsdu cfg env s frame skb keyidx).1 = some msdu) : msdu.Protected := by
  unfold rxDecryptMsdu rtllibRxFrameDecryptMsdu at hr
  split at hr
  · split at hr
    · cases hr
      exact h
    · split at hr
      · cases hr
        exact h
      · obtain ⟨n, -, rfl⟩ := Option.map_eq_some_iff.mp hr
        exact h.trim n
  · cases hr
    exact h

omit [DecidableEq ι] [Fintype ι] in
theorem rxDecrypt_protected (hhost : cfg.hostDecrypt = true) {frame skb : Skb} {keyidx : Nat}
    (hwep : wep frame.frameCtl = true) (hslot : (selectCrypt cfg env frame).isSome = true)
    (h : (rxDecrypt cfg env s frame).1 = some (keyidx, skb)) : skb.Protected := by
  -- A protected frame for which a slot was found is decrypted.
  have hany : (cfg.crypt (keySlot env frame)).any (·.decryptMpdu.isSome) = true := by
    by_contra hany
    simp [selectCrypt, hhost, hany] at hslot
  have hselect : selectCrypt cfg env frame = some (keySlot env frame) := by
    simp [selectCrypt, hhost, hany]
  obtain ⟨ops, hops, hmpdu⟩ := (Option.any_eq_true _ _).mp hany
  obtain ⟨decryptMpdu, hmpdu⟩ := Option.isSome_iff_exists.mp hmpdu
  simp only [rxDecrypt, hhost, hwep, and_self, if_true, hselect, rtllibRxFrameDecrypt, hops,
    hmpdu] at h
  split_ifs at h
  obtain ⟨d, -, hd⟩ := Option.map_eq_some_iff.mp h
  cases hd
  exact .decrypted hwep _ d

omit [Fintype ι] in
theorem rxFilter_slot (hhost : cfg.hostDecrypt = true) {frame : Skb}
    (hwep : wep frame.frameCtl = true) (h : (rxFilter cfg env s frame).1 = .pass) :
    (selectCrypt cfg env frame).isSome = true := by
  by_contra hnone
  rw [Option.not_isSome_iff_eq_none] at hnone
  simp only [rxFilter, hhost, hnone, hwep, and_self, if_true] at h
  split_ifs at h

variable (cfg env s) in
omit [DecidableEq ι] [Fintype ι] in
theorem rxDecryptMsdu_cache (frame skb : Skb) (keyidx : Nat) :
    (rxDecryptMsdu cfg env s frame skb keyidx).2.fragCache = s.fragCache ∧
      (rxDecryptMsdu cfg env s frame skb keyidx).2.heap = s.heap ∧
      (rxDecryptMsdu cfg env s frame skb keyidx).2.nextSkb = s.nextSkb := by
  unfold rxDecryptMsdu rtllibRxFrameDecryptMsdu
  split
  · split
    · exact ⟨rfl, rfl, rfl⟩
    · split <;> exact ⟨rfl, rfl, rfl⟩
  · exact ⟨rfl, rfl, rfl⟩

omit [DecidableEq ι] [Fintype ι] in
theorem rxDecrypt_unprotected {frame : Skb} (hwep : wep frame.frameCtl = false) :
    (rxDecrypt cfg env s frame).1 = some (0, frame) := by
  simp [rxDecrypt, hwep]

omit [DecidableEq ι] [Fintype ι] in
theorem rxDecryptMsdu_unprotected {frame skb : Skb} {keyidx : Nat} (hwep : wep frame.frameCtl = false) :
    (rxDecryptMsdu cfg env s frame skb keyidx).1 = some skb := by
  simp [rxDecryptMsdu, hwep]

section Cache

variable {past : List Fragment}

omit [Fintype ι] in
theorem CacheInv.rtllibRx (hhost : cfg.hostDecrypt = true) (h : CacheInv s past) (frame : Skb) :
    CacheInv (rtllibRx cfg env s frame).2 (broughtBy cfg env s frame ++ past) := by
  -- One frame: what it brings to the cache is all that comes to the buffers.
  have hfilter : SameCache s (rxFilter cfg env s frame).2 := rxFilter_same frame
  have h1 : CacheInv (rxFilter cfg env s frame).2 past :=
    h.congr hfilter.fragCache hfilter.heap hfilter.nextSkb
  obtain ⟨hcache, hheap, hnext⟩ :=
    rxDecrypt_cache cfg env (rxFilter cfg env s frame).2 frame
  have h2 := h1.congr hcache hheap hnext
  have hsame := rxDecrypt_fst_congr cfg env hfilter.priv frame
  simp only [Rx.rtllibRx, broughtBy]
  split
  · next hdropped => rw [hdropped]; exact h1
  · next hexit => rw [hexit]; exact h1
  · next hpass =>
    rw [hpass, ← hsame]
    split
    · next hnone => rw [hnone]; exact h2
    · next keyidx skb hdecrypt =>
      have hskb : wep frame.frameCtl = true → skb.Protected := fun hwep =>
        rxDecrypt_protected hhost hwep (rxFilter_slot hhost hwep hpass) hdecrypt
      have hreassembles : Reassembles cfg env (rxDecrypt cfg env (rxFilter cfg env s frame).2 frame).2
        frame skb _ _ _ := rxReassemble_reassembles
      obtain ⟨h3, hbacked⟩ := hreassembles.cacheInv h2 hskb
      rw [cached_congr (hnext.trans hfilter.nextSkb)] at h3 hbacked
      rw [hdecrypt]
      split
      · exact h3
      · exact h3
      · next msdu p hmsdu =>
        obtain ⟨hcache', hheap', hnext'⟩ := rxDecryptMsdu_cache cfg env
          (rxReassemble cfg env (rxDecrypt cfg env (rxFilter cfg env s frame).2 frame).2 frame skb).2
          frame msdu keyidx
        have h4 := h3.congr hcache' hheap' hnext'
        split
        · exact h4
        · next m hm =>
          refine h4.rxIndicate fun q hq halloc => ?_
          subst hq
          rw [hheap'] at halloc
          exact (hbacked msdu q hmsdu halloc).imp fun hprot => rxDecryptMsdu_protected hprot hm

theorem Inv.rtllibRx (hhost : cfg.hostDecrypt = true) (hopen : cfg.openWep = false) (h : Inv s)
    (hc : CacheInv s past) {frame : Skb}
    (hclean : (rxFilter cfg env s frame).1 = .pass → Clean cfg env s past frame) :
    Inv (rtllibRx cfg env s frame).2 := by
  have hfilter : SameCache s (rxFilter cfg env s frame).2 := rxFilter_same frame
  have h1 := h.quiet hfilter.toQuiet
  obtain ⟨hcache, hheap, hnext⟩ :=
    rxDecrypt_cache cfg env (rxFilter cfg env s frame).2 frame
  have hc2 := (hc.congr hfilter.fragCache hfilter.heap hfilter.nextSkb).congr hcache hheap hnext
  simp only [Rx.rtllibRx]
  split
  · exact h1
  · exact h1
  · next hpass =>
    have hclean := hclean hpass
    have h2 : Inv (rxDecrypt cfg env _ frame).2 := h1.quiet (rxDecrypt_quiet frame)
    split
    · exact h2
    · next keyidx skb hdecrypt =>
      have h3 : Inv (rxReassemble cfg env _ frame skb).2 := h2.quiet (rxReassemble_quiet frame skb)
      split
      · exact h3
      · exact h3
      · next msdu p hmsdu =>
        have hmore := rxReassemble_more hmsdu
        have hprot (hwep : wep frame.frameCtl = true) : msdu.Protected := by
          have hskb := rxDecrypt_protected hhost hwep (rxFilter_slot hhost hwep hpass) hdecrypt
          have hreassembles : Reassembles cfg env
            (rxDecrypt cfg env (rxFilter cfg env s frame).2 frame).2 frame skb _ _ _ :=
            rxReassemble_reassembles
          rw [hmsdu] at hreassembles
          rw [rxDecrypt_fst_congr cfg env hfilter.priv] at hdecrypt
          refine hreassembles.msdu_protected hc2 hwep hskb fun hfrag => ?_
          exact (hclean.fragments hwep hfrag hmore (keyidx, skb) hdecrypt).congr
            (hcache.trans hfilter.fragCache) (hheap.trans hfilter.heap)
        have h4 : Inv (rxDecryptMsdu cfg env _ frame msdu keyidx).2 :=
          h3.quiet (rxDecryptMsdu_quiet frame msdu keyidx)
        split
        · exact h4
        · next m hm =>
          refine h4.rxIndicate hopen (fun hwep => rxDecryptMsdu_protected (hprot hwep) hm)
            (fun hwep => ?_) p
          obtain rfl : frame = skb := by
            rw [rxDecrypt_unprotected hwep] at hdecrypt
            cases hdecrypt
            rfl
          obtain rfl : msdu = m := by
            rw [rxDecryptMsdu_unprotected hwep] at hm
            exact Option.some.inj hm
          refine (hclean.unprotected hwep hmore).imp_right fun hlost => hlost.imp_right fun hlost => ?_
          split_ifs at hlost with hfrag
          · rw [rxReassemble, if_neg (by simp [hfrag, hmore])] at hmsdu
            cases hmsdu
            exact hlost
          · refine absurd ?_ (rxReassemble_alone hmsdu hfrag hfrag)
            simpa only [fragCacheLookup, hcache.trans hfilter.fragCache] using hlost

end Cache

/-- What holds after every step of a run of clean events, of the device and of the fragments -/
structure Traced.Inv (w : Traced ι κ) : Prop where
  device : Rx.Inv w.state
  cache : CacheInv w.state w.past

theorem inv_step {w : Traced ι κ} (hhost : cfg.hostDecrypt = true) (hopen : cfg.openWep = false)
    (h : w.Inv) (e : Event ι) (hclean : CleanEvent cfg w e) : (trace cfg w e).Inv := by
  obtain ⟨hdevice, hcache⟩ := h
  by_cases hoops : w.state.oops = true
  · have hstay : trace cfg w e = w := by
      cases e <;> simp [trace, step, hoops]
    rw [hstay]
    exact ⟨hdevice, hcache⟩
  · cases e with
    | rx env mem len =>
      simp only [trace, step, if_neg hoops]
      exact ⟨hdevice.rtllibRx hhost hopen hcache hclean, hcache.rtllibRx hhost _⟩
    | pendingTimeout i =>
      have hpool := Pool.inv_step cfg.rxReorderWinSize hdevice.pool (.timeout i)
      simp only [trace, step, if_neg hoops]
      exact ⟨⟨hdevice.delivered, by simpa [Pool.step, Pool.State.after] using hdevice.passed, hpool⟩,
        hcache.congr rfl rfl rfl⟩
    | removeTs i =>
      have hpool := Pool.inv_step cfg.rxReorderWinSize hdevice.pool (.removeTs i)
      simp only [trace, step, if_neg hoops]
      exact ⟨⟨hdevice.delivered, by simpa [Pool.step, Pool.State.after] using hdevice.passed, hpool⟩,
        hcache.congr rfl rfl rfl⟩

omit [DecidableEq ι] in
theorem inv_initial (h : s.Initial) : Traced.Inv ⟨s, []⟩ := by
  obtain ⟨streams, hstreams⟩ := h.reorder
  refine ⟨⟨by simp [h.delivered], ?_, ?_⟩, fun tid entry hentry p hp => ?_, fun p b hb => ?_⟩
  · simp [hstreams, Pool.init]
  · exact hstreams ▸ Pool.inv_init streams
  · simp [h.fragCache tid entry hentry] at hp
  · simp [h.heap p] at hb

/-- In a run of clean events everything that goes to the upper layer is `Ok`, in every state. -/
theorem upper_sound_of_clean (hhost : cfg.hostDecrypt = true) (hopen : cfg.openWep = false)
    (hs : s.Initial) {es : List (Event ι)} (hes : Meets (trace cfg) (CleanEvent cfg) ⟨s, []⟩ es) :
    ∀ fs, fs <+: es → Sound (exec (step cfg) s fs) := by
  intro fs hfs
  have hinv := exec_inv_before (C := CleanEvent cfg) (fun _ e h => inv_step hhost hopen h e)
    (inv_initial hs) hes fs hfs
  rw [← exec_trace cfg ⟨s, []⟩ fs]
  exact hinv.device.sound

/-! ## Examples of runs -/

/-- `prism2_wep_decrypt` with the key index 1, when the hardware has decrypted the frame. -/
def wepHardware : CryptOps Unit where
  name := "WEP"
  decryptMpdu := some fun _ _ mem len hdrlen =>
    if len < hdrlen + 8 then ((), none)
    else if (mem (hdrlen + 3)).toNat / 64 ≠ 1 then ((), none)
    else ((), some ⟨0, fun i => mem (hdrlen + 4 + i), len - 8⟩)
  decryptMsdu := none

def keyOne : Config Unit where
  hostDecrypt := true
  openWep := false
  crypt := fun slot => if slot = 1 then some wepHardware else none
  hz := 250
  rxReorderWinSize := 64

def station : Env (Fin 1) where
  devAddr := fun _ => 2
  bssid := fun _ => 4
  iwMode := .infra
  qosActive := false
  bCurRxReorderEnable := false
  bCurrentHTSupport := false
  hwsecActive := true
  tkipCountermeasures := false
  bContainHTC := false
  jiffies := 1000
  jiffiesLater := 1000
  getTs := fun _ _ => none
  ibssSeqAlloc := none
  fragSkbRoom := some 1600
  rxbAlloc := true
  garbage := default

def idle : State (Fin 1) Unit where
  priv := fun _ => ()
  lastRx := fun _ => default
  ibssMacHash := fun _ => []
  rxLast := fun _ => (0, 0)
  fragCache := fun _ => List.replicate 4 default
  fragNextIdx := fun _ => 0
  heap := fun _ => none
  nextSkb := 0
  reorder := Pool.init fun _ => freshRxTs
  delivered := []
  oops := false

theorem idle_initial : idle.Initial where
  fragCache := fun _ entry h => by rw [List.eq_of_mem_replicate h]; rfl
  heap := fun _ => rfl
  reorder := ⟨_, rfl⟩
  delivered := rfl
  oops := rfl

def dataFrame (fc1 seqFrag : Byte) (body : List Byte) : Event (Fin 1) :=
  .rx station (fun i => ([0x08, fc1, 0, 0, 2, 2, 2, 2, 2, 2, 4, 4, 4, 4, 4, 4, 6, 6, 6, 6, 6, 6, seqFrag,
    0x01] ++ body).getD i 0) (24 + body.length)

/-- Two protected fragments of an MSDU, with three bytes of payload and two. -/
def protectedFragments : List (Event (Fin 1)) :=
  [dataFrame 0x46 0 [0, 0, 0, 0x40, 0x11, 0x12, 0x13, 0, 0, 0, 0],
    dataFrame 0x42 1 [0, 0, 0, 0x40, 0x14, 0x15, 0, 0, 0, 0]]

theorem protectedFragments_clean :
    Meets (trace keyOne) (CleanEvent keyOne) ⟨idle, []⟩ protectedFragments := by decide +kernel

theorem upper_sound_of_clean_protected :
    (exec (step keyOne) idle protectedFragments).upper.length = 1 ∧
      Sound (exec (step keyOne) idle protectedFragments) :=
  ⟨by decide +kernel,
    upper_sound_of_clean rfl rfl idle_initial protectedFragments_clean _ List.prefix_rfl⟩

/-- An unprotected frame names the empty slot 0. -/
theorem upper_not_always_sound : ¬ ∀ cfg : Config Unit, cfg.hostDecrypt = true →
    cfg.openWep = false → (∃ slot, (cfg.crypt slot).any (·.decryptMpdu.isSome) = true) →
    ∀ s : State (Fin 1) Unit, s.Initial → ∀ es : List (Event (Fin 1)), Sound (exec (step cfg) s es) := by
  intro h
  have hsound := h keyOne rfl rfl ⟨1, rfl⟩ idle idle_initial
    [dataFrame 0x02 0 [0xaa, 0xaa, 0x03, 0, 0, 0, 0x08, 0x00, 0x45]]
  revert hsound
  decide +kernel

/-- The last fragment is protected, the first is not and names slot 1. -/
example : ¬ Sound (exec (step keyOne) idle [dataFrame 0x06 0 [0xaa, 0xaa, 0x03, 0x40, 0x11],
    dataFrame 0x42 1 [0, 0, 0, 0x40, 0x12, 0, 0, 0, 0]]) := by decide +kernel

end Rtl8190.Rx
