import Rtl8190.Lib.Run
import Rtl8190.Rx.FragCache

/-!
# Who owns the buffers when `rtllib_rx` returns

The caller frees the frame when `rtllib_rx` returns 0. The reassembly has freed it by then, and what
is dropped after that is freed twice.
-/

open Rtl8190.Memory Rtl8190.Ledger Rtl8190.Run Function

namespace Rtl8190.Rx.Ownership

variable {ι κ : Type}

/-! ## The buffers of one call -/

inductive Buf where
  /-- The `skb` that the caller passed. -/
  | frame
  /-- A buffer of the fragment cache. -/
  | frag (p : Nat)
  /-- The `struct rtllib_rxb`. -/
  | rxb
  /-- The copy of a subframe. -/
  | sub (i : Nat)
  deriving DecidableEq

/-- How the allocations in `parse_subframe` end, and what `kmalloc` left in the memory of the
`struct rtllib_rxb`. -/
structure Alloc where
  sub : Nat → Bool
  /-- The pointers in `subframes` up to `nr_subframes`. -/
  stale : List Buf

/-- The whole MSDU stays with `rtllib_rx` when it leaves the cache. -/
def ofCache : Op Nat → Option (Op Buf)
  | .alloc p => some (.alloc (.frag p))
  | .free p => some (.free (.frag p))
  | .give _ => none

/-! ## `parse_subframe` -/

/-- The number of copies that the loop over an A-MSDU makes, and whether the frame is well formed. -/
def subframeCount : Nat → Skb → Nat × Bool
  | 0, _ => (0, true)
  | room + 1, skb =>
    if 14 < skb.len then
      let length := (skb.byte 12 ++ skb.byte 13).toNat
      if skb.len < 14 + length then (0, false)
      else if room = 0 then (1, true)
      else
        let skb := (skb.pull 14).pull length
        let padding := (4 - (length + 14) % 4) % 4
        let r :=
          if skb.len = 0 then subframeCount room skb
          else if skb.len < padding then (0, false)
          else subframeCount room (skb.pull padding)
        (r.1 + 1, r.2)
    else (0, true)

/-- The number of copies, and whether `parse_subframe` returns something else than 0. -/
def copies (skb : Skb) (bContainHTC : Bool) : Nat × Bool :=
  if qosHasSeq skb.frameCtl ∧ (skb.byte 24).getLsbD 7 then
    let r := subframeCount 64 (skb.pull (llcOffset skb bContainHTC))
    (r.1, r.2 && r.1 ≠ 0)
  else (1, true)

def subs (n : Nat) : List Buf := (List.range n).map .sub

variable (cfg : Config κ) (env : Env ι) (alloc : Alloc)

/-- `parse_subframe`, and the loop over the subframes if it returns 0: what it returns and does with
the buffers; `none` if it crashes. -/
def parseOps (skb : Skb) (bContainHTC : Bool) : Option (Bool × List (Op Buf)) :=
  if skb.len ≤ llcOffset skb bContainHTC then
    -- `nr_subframes` was not set.
    some (false, alloc.stale.map .free)
  else
    let r := copies skb bContainHTC
    -- A copy that cannot be allocated is used all the same.
    if (List.range r.1).all alloc.sub then
      some (r.2, (subs r.1).map .alloc ++ (subs r.1).map (if r.2 then .give else .free))
    else none

/-! ## `rtllib_rx` -/

def indicateOps (frame skb : Skb) (cur : Buf) : Option (Bool × List (Op Buf)) :=
  if unencrypted cfg env frame ∧ ¬ rtllibIsEapolFrame env skb (hdrlen env frame) then some (false, [])
  else if env.rxbAlloc then
    (parseOps alloc skb (env.bContainHTC || htcCheck env frame)).map fun r =>
      if r.1 then
        let reordered := env.bCurRxReorderEnable && (rxStream env skb).isSome
        (true, .alloc .rxb :: r.2 ++ [if reordered then .give .rxb else .free .rxb, .free cur])
      else (false, .alloc .rxb :: r.2 ++ [.free .rxb])
  else some (false, [])

def current (p : Option Nat) : Buf := p.elim .frame .frag

variable [DecidableEq ι] (s : State ι κ) (frame : Skb)

/-- `rtllib_rx`: what it returns and does with the buffers; `none` if it crashes. -/
def rxOps : Option (Bool × List (Op Buf)) :=
  let f := rxFilter cfg env s frame
  match f.1 with
  | .dropped => some (false, [])
  -- `rtllib_monitor_rx` passes the frame on, `rtllib_rx_frame_mgmt` frees it.
  | .exit => some (true, [if env.iwMode = .monitor then .give .frame else .free .frame])
  | .pass =>
    let d := rxDecrypt cfg env f.2 frame
    match d.1 with
    | none => some (false, [])
    | some (keyidx, skb) =>
      let r := rxReassemble cfg env d.2 frame skb
      let ops := (reassembleOps cfg env d.2 frame skb).filterMap ofCache
      match r.1 with
      | .dropped => if r.2.oops then none else some (false, ops)
      | .exit => some (true, ops ++ [.free .frame])
      | .msdu skb p =>
        let ops := ops ++ if p.isSome then [.free .frame] else []
        let m := rxDecryptMsdu cfg env r.2 frame skb keyidx
        match m.1 with
        | none => some (false, ops)
        | some skb => (indicateOps cfg env alloc frame skb (current p)).map fun r => (r.1, ops ++ r.2)

/-! ## What the caller relies on -/

/-- What `rtllib_rx` owes its caller, who passed `frame` in the state `s`. -/
structure Owns (s s' : State ι κ) (ret : Bool) (ops : List (Op Buf)) : Prop where
  /-- When it returns 0 the frame was neither freed nor given away. -/
  untouched : ret = false → .frame ∉ freed ops ∧ .frame ∉ given ops
  /-- Then what was allocated or in the cache has been freed or is in the cache. -/
  kept : ret = false → ∀ b, (b ∈ allocated ops ∨ ∃ p ∈ s.held, b = .frag p) →
    b ∈ freed ops ∨ ∃ p ∈ s'.held, b = .frag p
  /-- When it returns 1 the frame was freed or given away, once. -/
  consumed : ret = true → (freed ops).count .frame + (given ops).count .frame = 1

/-! ## The condition -/

/-- The frame passes the filter and is decrypted: the key index, what it becomes, and the state. -/
def Decrypts (keyidx : Nat) (skb : Skb) (s' : State ι κ) : Prop :=
  (rxFilter cfg env s frame).1 = .pass ∧
    rxDecrypt cfg env (rxFilter cfg env s frame).2 frame = (some (keyidx, skb), s')

def Undeliverable (s' : State ι κ) (msdu : Skb) (keyidx : Nat) : Prop :=
  ∀ skb, (rxDecryptMsdu cfg env s' frame msdu keyidx).1 = some skb →
    (unencrypted cfg env frame = true ∧ rtllibIsEapolFrame env skb (hdrlen env frame) = false) ∨
    env.rxbAlloc = false ∨ skb.len ≤ llcOffset skb (env.bContainHTC || htcCheck env frame) ∨
    (copies skb (env.bContainHTC || htcCheck env frame)).2 = false

/-- The frame completes an MSDU, which is dropped after the frame was freed. -/
def DropsReassembled : Prop :=
  ∃ keyidx skb s₁ msdu p, Decrypts cfg env s frame keyidx skb s₁ ∧
    (rxReassemble cfg env s₁ frame skb).1 = .msdu msdu (some p) ∧
    Undeliverable cfg env frame (rxReassemble cfg env s₁ frame skb).2 msdu keyidx

/-- The frame is a fragment that does not fit, and its MSDU has an entry that has not expired, whose
pointer is cleared. -/
def ForgetsFragment : Prop :=
  ∃ keyidx skb s₁ p, Decrypts cfg env s frame keyidx skb s₁ ∧
    (seqFrag frame.seqCtl ≠ 0 ∨ moreFrags frame.frameCtl = true) ∧
    (rtllibFragCacheGet cfg env s₁ skb).1 = some p ∧ ¬ TooShort env frame skb ∧
    ¬ Fits env frame skb ((rtllibFragCacheGet cfg env s₁ skb).2.deref env p) ∧
    ∃ entry ∈ (rtllibFragCacheGet cfg env s₁ skb).2.fragCache (tidClass skb),
      entry.Live cfg env.jiffiesLater skb.msduKey

/-- The frame has no payload, and the memory of the `struct rtllib_rxb` has a pointer to it. -/
def FreesStale : Prop :=
  ∃ keyidx skb s₁ msdu, Decrypts cfg env s frame keyidx skb s₁ ∧
    (rxReassemble cfg env s₁ frame skb).1 = .msdu skb none ∧
    (rxDecryptMsdu cfg env (rxReassemble cfg env s₁ frame skb).2 frame skb keyidx).1 = some msdu ∧
    ¬ (unencrypted cfg env frame = true ∧ rtllibIsEapolFrame env msdu (hdrlen env frame) = false) ∧
    env.rxbAlloc = true ∧ msdu.len ≤ llcOffset msdu (env.bContainHTC || htcCheck env frame) ∧
    .frame ∈ alloc.stale

/-! ## `parse_subframe` -/

theorem subframeLoop_count (room : Nat) (skb : Skb) (subframes : List Skb) :
    (subframeLoop room skb subframes).2.map List.length =
      if (subframeCount room skb).2 then some (subframes.length + (subframeCount room skb).1)
      else none := by
  induction room generalizing skb subframes with
  | zero => rfl
  | succ room ih =>
    simp only [subframeLoop, subframeCount]
    split_ifs <;> simp_all [Nat.add_assoc, Nat.add_comm]

theorem parseSubframe_none_iff (skb : Skb) (bContainHTC : Bool) :
    (parseSubframe skb bContainHTC).2 = none ↔
      skb.len ≤ llcOffset skb bContainHTC ∨ (copies skb bContainHTC).2 = false := by
  simp only [parseSubframe, copies]
  by_cases hlen : skb.len ≤ llcOffset skb bContainHTC
  · simp [hlen]
  · rw [if_neg hlen]
    by_cases hagg : qosHasSeq skb.frameCtl ∧ (skb.byte 24).getLsbD 7
    · have hcount := subframeLoop_count 64 (skb.pull (llcOffset skb bContainHTC)) []
      simp only [if_pos hagg, hlen, false_or]
      generalize (subframeLoop 64 (skb.pull (llcOffset skb bContainHTC)) []).2 = o at hcount ⊢
      generalize subframeCount 64 (skb.pull (llcOffset skb bContainHTC)) = r at hcount ⊢
      obtain ⟨n, ok⟩ := r
      cases ok <;> cases o <;> simp_all [← List.length_eq_zero_iff]
    · simp only [if_neg hagg, hlen, false_or]
      simp

/-! ## What the stages leave alone -/

/-- The cache and what is allocated next are the same. -/
structure SameRows (s s' : State ι κ) : Prop where
  fragCache : s'.fragCache = s.fragCache
  fragNextIdx : s'.fragNextIdx = s.fragNextIdx
  nextSkb : s'.nextSkb = s.nextSkb
  oops : s'.oops = s.oops

section Rows

omit [DecidableEq ι]

variable {cfg env s frame} {s' s'' : State ι κ}

theorem SameRows.refl (s : State ι κ) : SameRows s s := ⟨rfl, rfl, rfl, rfl⟩

theorem SameRows.trans (h : SameRows s s') (h' : SameRows s' s'') : SameRows s s'' :=
  ⟨h'.fragCache.trans h.fragCache, h'.fragNextIdx.trans h.fragNextIdx, h'.nextSkb.trans h.nextSkb,
    h'.oops.trans h.oops⟩

theorem SameRows.held (h : SameRows s s') : s'.held = s.held := by
  unfold State.held
  rw [h.fragCache]

theorem isDuplicatePacket_rows (header : Skb) : SameRows s (isDuplicatePacket cfg env s header).2 := by
  simp only [isDuplicatePacket]
  split
  · split
    · exact ⟨rfl, rfl, rfl, rfl⟩
    · split <;> exact ⟨rfl, rfl, rfl, rfl⟩
  · split <;> exact ⟨rfl, rfl, rfl, rfl⟩
  · exact .refl s

theorem rxDecrypt_rows : SameRows s (rxDecrypt cfg env s frame).2 := by
  simp only [rxDecrypt, rtllibRxFrameDecrypt]
  split_ifs
  · split
    · exact .refl s
    · split
      · exact .refl s
      · split
        · exact .refl s
        · split_ifs <;> exact ⟨rfl, rfl, rfl, rfl⟩
  · exact .refl s

theorem rxDecryptMsdu_rows (skb : Skb) (keyidx : Nat) :
    SameRows s (rxDecryptMsdu cfg env s frame skb keyidx).2 := by
  simp only [rxDecryptMsdu, rtllibRxFrameDecryptMsdu]
  split_ifs
  · split
    · exact .refl s
    · split <;> exact ⟨rfl, rfl, rfl, rfl⟩
  · exact .refl s

end Rows

section Rows

variable {cfg env s frame}

theorem rxFilter_rows : SameRows s (rxFilter cfg env s frame).2 := by
  have hdup : SameRows s (duplicateCheck cfg env s frame).2 := by
    simp only [duplicateCheck]
    split
    · split
      · exact .refl s
      · exact isDuplicatePacket_rows frame
    · split
      · exact .refl s
      · split <;> exact ⟨rfl, rfl, rfl, rfl⟩
  rcases rxFilter_snd cfg env s frame with hkept | hchecked
  · rw [hkept]
    exact .refl s
  · rw [hchecked]
    exact hdup

theorem indicate_rows (rxb : Rxb) (pTS : Option ι) (seqNum : Nat) :
    SameRows s (indicate cfg env s rxb pTS seqNum) := by
  unfold indicate
  split
  · split <;> exact ⟨rfl, rfl, rfl, rfl⟩
  · exact ⟨rfl, rfl, rfl, rfl⟩

theorem rxIndicate_rows (skb : Skb) (p : Option Nat) :
    SameRows s (rxIndicate cfg env s frame skb p).2 := by
  have hkeep (s : State ι κ) (skb : Skb) : SameRows s (p.elim s fun p => s.write p skb) := by
    cases p <;> exact ⟨rfl, rfl, rfl, rfl⟩
  have hfree (s : State ι κ) : SameRows s (p.elim s s.free) := by
    cases p <;> exact ⟨rfl, rfl, rfl, rfl⟩
  simp only [rxIndicate]
  split_ifs
  · exact hkeep s skb
  · split
    · exact (hkeep s skb).trans (hkeep _ _)
    · exact ((hkeep s skb).trans (indicate_rows _ _ _)).trans (hfree _)
  · exact hkeep s skb

end Rows

/-! ## Runs -/

/-- The cache has one pointer to a buffer, and none to one that was not allocated. -/
structure Inv (s : State ι κ) : Prop where
  cacheOk : CacheOk s
  nodup : s.held.Nodup
  fresh : ∀ p ∈ s.held, p < s.nextSkb

section Runs

variable {cfg env s frame}

omit [DecidableEq ι] in
theorem Inv.rows {s' : State ι κ} (h : Inv s) (hrows : SameRows s s') : Inv s' := by
  refine ⟨⟨?_, ?_⟩, ?_, ?_⟩
  · rw [hrows.fragCache]
    exact h.cacheOk.row
  · rw [hrows.fragNextIdx]
    exact h.cacheOk.next
  · rw [hrows.held]
    exact h.nodup
  · rw [hrows.held, hrows.nextSkb]
    exact h.fresh

omit [DecidableEq ι] in
theorem Reassembles.count_le {r : Reassembly} {s' : State ι κ} {ops : List (Op Nat)} {skb : Skb}
    (h : Reassembles cfg env s frame skb r s' ops) (hok : CacheOk s) (q : Nat) :
    s'.held.count q ≤ s.held.count q + (allocated ops).count q := by
  -- The reassembly puts nothing in the cache but what it allocates.
  cases h with
  | whole => simp
  | missing _ _ gets =>
    have := gets.count hok q
    omega
  | @tooShort s₁ _ _ _ gets =>
    have := gets.count hok q
    show s₁.held.count q ≤ _
    omega
  | @overflow s₁ ops p hfragment _ gets =>
    have h1 := gets.count hok q
    have h2 := invalidate_count cfg s₁ env.jiffiesLater skb q
    rw [allocated_append, List.count_append]
    omega
  | @waits s₁ _ _ _ gets =>
    have := gets.count hok q
    show s₁.held.count q ≤ _
    omega
  | @complete s₁ s₂ ops p msdu _ gets _ _ _ _ _ write =>
    have h1 := gets.count hok q
    have h2 := invalidate_count cfg s₂ env.jiffiesLater msdu q
    have h3 : s₂.held.count q = s₁.held.count q := by
      rw [write]
      rfl
    rw [allocated_append, List.count_append]
    omega

omit [DecidableEq ι] in
theorem Inv.count_le_one {ops : List (Op Nat)} (h : Inv s)
    (halloc : allocated ops = [] ∨ allocated ops = [s.nextSkb]) (q : Nat) :
    s.held.count q + (allocated ops).count q ≤ 1 := by
  have hle := List.nodup_iff_count_le_one.mp h.nodup q
  rcases halloc with hnil | hone
  · simpa [hnil] using hle
  · by_cases hq : q = s.nextSkb
    · have hzero : s.held.count q = 0 :=
        List.count_eq_zero.mpr fun hmem => by have := h.fresh q hmem; omega
      rw [hone, hq, List.count_singleton_self, ← hq, hzero]
    · rw [hone, List.count_singleton, if_neg (by simpa using Ne.symm hq)]
      exact hle

omit [DecidableEq ι] in
theorem Inv.reassembles {r : Reassembly} {s' : State ι κ} {ops : List (Op Nat)} {skb : Skb} (h : Inv s)
    (hr : Reassembles cfg env s frame skb r s' ops) : Inv s' := by
  have hcount := fun q => Reassembles.count_le hr h.cacheOk q
  have hheld := h.count_le_one hr.allocated
  refine ⟨hr.cacheOk h.cacheOk, List.nodup_iff_count_le_one.mpr fun q => (hcount q).trans (hheld q),
    fun q hq => ?_⟩
  obtain ⟨hle, hnew⟩ := hr.fresh
  have hpos := (List.count_pos_iff.mpr hq).trans_le (hcount q)
  rcases Nat.add_pos_iff_pos_or_pos.mp hpos with hold | halloc
  · exact (h.fresh q (List.count_pos_iff.mp hold)).trans_le hle
  · exact hnew q (List.count_pos_iff.mp halloc)

theorem Inv.rtllibRx (h : Inv s) : Inv (rtllibRx cfg env s frame).2 := by
  have h1 : Inv (rxFilter cfg env s frame).2 := h.rows rxFilter_rows
  simp only [Rx.rtllibRx]
  split
  · exact h1
  · exact h1
  · have h2 : Inv (rxDecrypt cfg env _ frame).2 := h1.rows rxDecrypt_rows
    split
    · exact h2
    · next keyidx skb _ =>
      have h3 : Inv (rxReassemble cfg env _ frame skb).2 := h2.reassembles rxReassemble_reassembles
      split
      · exact h3
      · exact h3
      · next msdu p _ =>
        have h4 : Inv (rxDecryptMsdu cfg env _ frame msdu keyidx).2 := h3.rows (rxDecryptMsdu_rows _ _)
        split
        · exact h4
        · exact h4.rows (rxIndicate_rows _ _)

theorem Inv.step (h : Inv s) (e : Event ι) : Inv (step cfg s e) := by
  unfold Rx.step
  split
  · exact h
  · cases e with
    | rx env mem len => exact h.rtllibRx
    | pendingTimeout i => exact h.rows ⟨rfl, rfl, rfl, rfl⟩
    | removeTs i => exact h.rows ⟨rfl, rfl, rfl, rfl⟩

theorem Inv.run (h : Inv s) (es : List (Event ι)) : Inv (exec (Rx.step cfg) s es) :=
  exec_inv (C := fun _ _ => True) (fun _ e h _ => h.step e) h (meets_of_forall fun _ _ => trivial)

end Runs

/-! ## The parts of a call -/

section Parts

omit [DecidableEq ι]

variable {cfg env alloc frame} {skb : Skb} {cur : Buf} {ret : Bool} {ops : List (Op Buf)}

theorem frame_notMem_subs (n : Nat) : .frame ∉ subs n := by
  simp [subs]

theorem parseOps_cases {htc : Bool} (h : parseOps alloc skb htc = some (ret, ops)) :
    skb.len ≤ llcOffset skb htc ∧ ret = false ∧ ops = alloc.stale.map .free ∨
    ¬ skb.len ≤ llcOffset skb htc ∧ ret = (copies skb htc).2 ∧
      ops = (subs (copies skb htc).1).map .alloc ++
        (subs (copies skb htc).1).map (if ret then .give else .free) := by
  simp only [parseOps] at h
  split at h
  · next hlen =>
    cases h
    exact .inl ⟨hlen, rfl, rfl⟩
  · next hlen =>
    split at h
    · cases h
      exact .inr ⟨hlen, rfl, rfl⟩
    · cases h

theorem allocated_map_alloc (bs : List Buf) : allocated (bs.map .alloc) = bs ∧
    freed (bs.map .alloc) = [] ∧ given (bs.map .alloc) = [] := by
  induction bs with
  | nil => exact ⟨rfl, rfl, rfl⟩
  | cons b bs ih => simpa using ih

theorem indicateOps_true (h : indicateOps cfg env alloc frame skb cur = some (true, ops)) :
    (freed ops).count .frame + (given ops).count .frame = [cur].count .frame := by
  -- A frame that is delivered is consumed.
  unfold indicateOps at h
  split_ifs at h with hdrop halloc
  · cases h
  · obtain ⟨⟨ret, pops⟩, hparse, heq⟩ := Option.map_eq_some_iff.mp h
    cases ret with
    | false => simp at heq
    | true =>
      rcases parseOps_cases hparse with ⟨-, hfalse, -⟩ | ⟨-, -, rfl⟩
      · cases hfalse
      · simp only [if_true, Prod.mk.injEq, true_and] at heq
        subst heq
        obtain ⟨-, hf, hg⟩ := allocated_map_alloc (subs (copies skb (env.bContainHTC || htcCheck env frame)).1)
        have hsubs := List.count_eq_zero.mpr
          (frame_notMem_subs (copies skb (env.bContainHTC || htcCheck env frame)).1)
        split <;> simp [hf, hg, hsubs]
  · cases h

theorem indicateOps_ret (h : indicateOps cfg env alloc frame skb cur = some (ret, ops)) :
    ret = false ↔ (unencrypted cfg env frame = true ∧ rtllibIsEapolFrame env skb (hdrlen env frame) = false) ∨
      env.rxbAlloc = false ∨ skb.len ≤ llcOffset skb (env.bContainHTC || htcCheck env frame) ∨
      (copies skb (env.bContainHTC || htcCheck env frame)).2 = false := by
  unfold indicateOps at h
  split_ifs at h with hdrop halloc
  · cases h
    exact iff_of_true rfl (.inl ⟨hdrop.1, by simpa using hdrop.2⟩)
  · obtain ⟨⟨pret, pops⟩, hparse, heq⟩ := Option.map_eq_some_iff.mp h
    have hret : ret = pret := by
      cases pret <;> cases heq <;> rfl
    have hdrop' : ¬ (unencrypted cfg env frame = true ∧
        rtllibIsEapolFrame env skb (hdrlen env frame) = false) := fun h => hdrop ⟨h.1, by simp [h.2]⟩
    simp only [hdrop', halloc, hret, false_or, Bool.true_eq_false]
    rcases parseOps_cases hparse with ⟨hlen, hfalse, -⟩ | ⟨hlen, hcopies, -⟩
    · exact iff_of_true hfalse (.inl hlen)
    · simp [hlen, hcopies]
  · cases h
    exact iff_of_true rfl (.inr (.inl (by simpa using halloc)))

/-- A frame that is dropped leaves nothing behind, but stale pointers may be freed. -/
theorem indicateOps_false (h : indicateOps cfg env alloc frame skb cur = some (false, ops)) :
    given ops = [] ∧ (∀ b ∈ allocated ops, b ∈ freed ops) ∧
      (.frame ∈ freed ops ↔ ¬ (unencrypted cfg env frame = true ∧
        rtllibIsEapolFrame env skb (hdrlen env frame) = false) ∧ env.rxbAlloc = true ∧
        skb.len ≤ llcOffset skb (env.bContainHTC || htcCheck env frame) ∧ .frame ∈ alloc.stale) := by
  unfold indicateOps at h
  split_ifs at h with hdrop halloc
  · cases h
    refine ⟨rfl, by simp, iff_of_false (by simp) fun h => h.1 ⟨hdrop.1, by simpa using hdrop.2⟩⟩
  · obtain ⟨⟨pret, pops⟩, hparse, heq⟩ := Option.map_eq_some_iff.mp h
    have hdrop' : ¬ (unencrypted cfg env frame = true ∧
        rtllibIsEapolFrame env skb (hdrlen env frame) = false) := fun h => hdrop ⟨h.1, by simp [h.2]⟩
    cases pret with
    | true => simp at heq
    | false =>
      simp only [Bool.false_eq_true, if_false, Prod.mk.injEq, true_and] at heq
      subst heq
      rcases parseOps_cases hparse with ⟨hlen, -, rfl⟩ | ⟨hlen, -, rfl⟩
      · simp [hdrop', halloc, hlen]
      · obtain ⟨ha, hf, hg⟩ :=
          allocated_map_alloc (subs (copies skb (env.bContainHTC || htcCheck env frame)).1)
        have hsubs := frame_notMem_subs (copies skb (env.bContainHTC || htcCheck env frame)).1
        simp only [Bool.false_eq_true, if_false]
        simp [ha, hf, hg, hlen, hsubs]
        exact fun b hb => .inl hb
  · cases h
    exact ⟨rfl, by simp, iff_of_false (by simp) fun h => halloc h.2.1⟩

end Parts

/-! ## One call -/

section Cache

omit [DecidableEq ι]

variable {cfg env s frame} {s' s₁ : State ι κ} {skb : Skb}

theorem ofCache_ops (ops : List (Op Nat)) :
    allocated (ops.filterMap ofCache) = (allocated ops).map .frag ∧
    freed (ops.filterMap ofCache) = (freed ops).map .frag ∧ given (ops.filterMap ofCache) = [] := by
  induction ops with
  | nil => exact ⟨rfl, rfl, rfl⟩
  | cons op ops ih =>
    obtain ⟨ha, hf, hg⟩ := ih
    cases op with
    | alloc p => exact ⟨congrArg (Buf.frag p :: ·) ha, hf, hg⟩
    | free p => exact ⟨ha, congrArg (Buf.frag p :: ·) hf, hg⟩
    | give p => exact ⟨ha, hf, hg⟩

theorem kept_of_count {ops : List (Op Nat)} (h : ∀ q, s.held.count q + (allocated ops).count q ≤
    s'.held.count q + (freed ops).count q) (b : Buf)
    (hb : b ∈ allocated (ops.filterMap ofCache) ∨ ∃ p ∈ s.held, b = .frag p) :
    b ∈ freed (ops.filterMap ofCache) ∨ ∃ p ∈ s'.held, b = .frag p := by
  -- What the accounts of the cache promise the caller.
  obtain ⟨ha, hf, -⟩ := ofCache_ops ops
  rw [ha] at hb
  rw [hf]
  obtain ⟨p, hp, rfl⟩ : ∃ p, 0 < s.held.count p + (allocated ops).count p ∧ b = .frag p := by
    rcases hb with hb | ⟨p, hp, rfl⟩
    · obtain ⟨p, hp, rfl⟩ := List.mem_map.mp hb
      have := List.count_pos_iff.mpr hp
      exact ⟨p, by omega, rfl⟩
    · have := List.count_pos_iff.mpr hp
      exact ⟨p, by omega, rfl⟩
  rcases Nat.add_pos_iff_pos_or_pos.mp (hp.trans_le (h p)) with hheld | hfreed
  · exact .inr ⟨p, List.count_pos_iff.mp hheld, rfl⟩
  · exact .inl (List.mem_map_of_mem (List.count_pos_iff.mp hfreed))

theorem frame_notMem_ofCache (ops : List (Op Nat)) : .frame ∉ freed (ops.filterMap ofCache) ∧
    .frame ∉ given (ops.filterMap ofCache) := by
  obtain ⟨-, hf, hg⟩ := ofCache_ops ops
  rw [hf, hg]
  simp

theorem owns_cache {ops : List (Op Nat)} (h : ∀ q, s.held.count q + (allocated ops).count q ≤
    s'.held.count q + (freed ops).count q) : Owns s s' false (ops.filterMap ofCache) :=
  ⟨fun _ => frame_notMem_ofCache ops, fun _ => kept_of_count h, fun h => by cases h⟩

end Cache

section OneCall

variable {cfg env alloc s frame} {keyidx : Nat} {skb : Skb} {s₁ : State ι κ}

theorem Decrypts.unique (h : Decrypts cfg env s frame keyidx skb s₁) {keyidx' : Nat} {skb' : Skb}
    {s₁' : State ι κ} (h' : Decrypts cfg env s frame keyidx' skb' s₁') :
    keyidx' = keyidx ∧ skb' = skb ∧ s₁' = s₁ := by
  have heq := h.2.symm.trans h'.2
  simp only [Prod.mk.injEq, Option.some.injEq] at heq
  exact ⟨heq.1.1.symm, heq.1.2.symm, heq.2.symm⟩

theorem dropsReassembled_iff (h : Decrypts cfg env s frame keyidx skb s₁) :
    DropsReassembled cfg env s frame ↔ ∃ msdu p,
      (rxReassemble cfg env s₁ frame skb).1 = .msdu msdu (some p) ∧
      Undeliverable cfg env frame (rxReassemble cfg env s₁ frame skb).2 msdu keyidx := by
  constructor
  · rintro ⟨keyidx', skb', s₁', msdu, p, h', hr⟩
    obtain ⟨rfl, rfl, rfl⟩ := h.unique h'
    exact ⟨msdu, p, hr⟩
  · rintro ⟨msdu, p, hr⟩
    exact ⟨keyidx, skb, s₁, msdu, p, h, hr⟩

theorem forgetsFragment_iff (h : Decrypts cfg env s frame keyidx skb s₁) {o : Option Nat}
    {s₂ : State ι κ} (hget : rtllibFragCacheGet cfg env s₁ skb = (o, s₂)) :
    ForgetsFragment cfg env s frame ↔ ∃ p, (seqFrag frame.seqCtl ≠ 0 ∨ moreFrags frame.frameCtl = true) ∧
      o = some p ∧ ¬ TooShort env frame skb ∧ ¬ Fits env frame skb (s₂.deref env p) ∧
      ∃ entry ∈ s₂.fragCache (tidClass skb), entry.Live cfg env.jiffiesLater skb.msduKey := by
  constructor
  · rintro ⟨keyidx', skb', s₁', p, h', hr⟩
    obtain ⟨rfl, rfl, rfl⟩ := h.unique h'
    simp only [hget] at hr
    exact ⟨p, hr⟩
  · rintro ⟨p, hr⟩
    refine ⟨keyidx, skb, s₁, p, h, ?_⟩
    simpa only [hget] using hr

theorem freesStale_iff (h : Decrypts cfg env s frame keyidx skb s₁) :
    FreesStale cfg env alloc s frame ↔ (rxReassemble cfg env s₁ frame skb).1 = .msdu skb none ∧
      ∃ msdu, (rxDecryptMsdu cfg env (rxReassemble cfg env s₁ frame skb).2 frame skb keyidx).1 = some msdu ∧
        ¬ (unencrypted cfg env frame = true ∧ rtllibIsEapolFrame env msdu (hdrlen env frame) = false) ∧
        env.rxbAlloc = true ∧ msdu.len ≤ llcOffset msdu (env.bContainHTC || htcCheck env frame) ∧
        .frame ∈ alloc.stale := by
  constructor
  · rintro ⟨keyidx', skb', s₁', msdu, h', hwhole, hr⟩
    obtain ⟨rfl, rfl, rfl⟩ := h.unique h'
    exact ⟨hwhole, msdu, hr⟩
  · rintro ⟨hwhole, msdu, hr⟩
    exact ⟨keyidx, skb, s₁, msdu, h, hwhole, hr⟩

theorem clean_of_not_decrypts (h : ∀ keyidx skb s₁, ¬ Decrypts cfg env s frame keyidx skb s₁) :
    ¬ DropsReassembled cfg env s frame ∧ ¬ ForgetsFragment cfg env s frame ∧
      ¬ FreesStale cfg env alloc s frame :=
  ⟨fun ⟨_, _, _, _, _, h', _⟩ => h _ _ _ h', fun ⟨_, _, _, _, h', _⟩ => h _ _ _ h',
    fun ⟨_, _, _, _, h', _⟩ => h _ _ _ h'⟩

omit [DecidableEq ι] in
theorem owns_overflow_iff {s₂ : State ι κ} {ops : List (Op Nat)} {o : Option Nat} (hinv : Inv s₁)
    (gets : Gets cfg env s₁ skb o s₂ ops) (hheld : s₁.held = s.held) {now : BitVec 64} {hdr : Skb} :
    Owns s (rtllibFragCacheInvalidate cfg s₂ now hdr) false
      ((ops ++ invalidateOps cfg s₂ now hdr).filterMap ofCache) ↔ forgotten cfg s₂ now hdr = none := by
  -- A buffer that does not fit may be forgotten only once it has expired.
  have hget := gets.count hinv.cacheOk
  have hinvalidate := fun q => invalidate_count cfg s₂ now hdr q
  simp only [gets.given, List.count_nil, Nat.add_zero] at hget
  constructor
  · intro h
    cases hf : forgotten cfg s₂ now hdr with
    | none => rfl
    | some q =>
      exfalso
      have h1 := hget q
      have h2 := hinvalidate q
      simp only [hf, Option.toList_some, List.count_singleton_self] at h2
      have hone := hinv.count_le_one gets.allocated q
      have hbefore : .frag q ∈ allocated ((ops ++ invalidateOps cfg s₂ now hdr).filterMap ofCache) ∨
          ∃ p ∈ s.held, Buf.frag q = .frag p := by
        rcases Nat.add_pos_iff_pos_or_pos.mp (show 0 < s₁.held.count q + (allocated ops).count q by omega)
          with hpos | hpos
        · exact .inr ⟨q, hheld ▸ List.count_pos_iff.mp hpos, rfl⟩
        · rw [(ofCache_ops _).1, allocated_append]
          exact .inl (List.mem_map_of_mem (List.mem_append_left _ (List.count_pos_iff.mp hpos)))
      rcases h.kept rfl _ hbefore with hfreed | ⟨p, hp, heq⟩
      · rw [(ofCache_ops _).2.1, freed_append] at hfreed
        obtain ⟨p, hp, heq⟩ := List.mem_map.mp hfreed
        obtain rfl := Buf.frag.inj heq
        have hpos := List.count_pos_iff.mpr hp
        rw [List.count_append] at hpos
        omega
      · obtain rfl := Buf.frag.inj heq
        have hpos := List.count_pos_iff.mpr hp
        omega
  · intro hf
    refine owns_cache fun q => ?_
    have h1 := hget q
    have h2 := hinvalidate q
    simp only [hf, Option.toList_none, List.count_nil] at h2
    rw [← hheld, allocated_append, allocated_invalidateOps, freed_append, List.count_append,
      List.count_append, List.count_nil]
    omega

omit [DecidableEq ι] in
theorem owns_nothing {s' : State ι κ} (hheld : s'.held = s.held) : Owns s s' false [] := by
  have hcache : Owns s s' false (List.filterMap ofCache []) := owns_cache fun q => by simp [hheld]
  exact hcache

omit [DecidableEq ι] in
theorem undeliverable_iff {s₂ : State ι κ} {msdu skb : Skb}
    (hm : (rxDecryptMsdu cfg env s₂ frame msdu keyidx).1 = some skb) {cur : Buf} {ret : Bool}
    {ops : List (Op Buf)} (hind : indicateOps cfg env alloc frame skb cur = some (ret, ops)) :
    Undeliverable cfg env frame s₂ msdu keyidx ↔ ret = false := by
  rw [indicateOps_ret hind]
  constructor
  · exact fun h => h skb hm
  · rintro h skb' hm'
    obtain rfl := Option.some.inj (hm.symm.trans hm')
    exact h

omit [DecidableEq ι] in
/-- A frame that is an MSDU itself is the caller's again, unless a stale pointer to it is freed. -/
theorem owns_whole_iff {s' : State ι κ} (hheld : s'.held = s.held) {msdu : Skb} {ret : Bool}
    {ops : List (Op Buf)} (hind : indicateOps cfg env alloc frame msdu .frame = some (ret, ops)) :
    Owns s s' ret ops ↔ ¬ (¬ (unencrypted cfg env frame = true ∧
      rtllibIsEapolFrame env msdu (hdrlen env frame) = false) ∧ env.rxbAlloc = true ∧
      msdu.len ≤ llcOffset msdu (env.bContainHTC || htcCheck env frame) ∧ .frame ∈ alloc.stale) := by
  cases ret with
  | true =>
    refine iff_of_true ⟨fun h => by (cases h), fun h => by (cases h), fun _ => indicateOps_true hind⟩ ?_
    rintro ⟨-, -, hlen, -⟩
    cases (indicateOps_ret hind).mpr (.inr (.inr (.inl hlen)))
  | false =>
    obtain ⟨hgiven, hfreed, hframe⟩ := indicateOps_false hind
    rw [← hframe]
    constructor
    · exact fun h => (h.untouched rfl).1
    · refine fun h => ⟨fun _ => ⟨h, by simp [hgiven]⟩, fun _ b hb => ?_, fun h => by cases h⟩
      rw [hheld]
      exact hb.imp_left (hfreed b)

omit [DecidableEq ι] in
theorem owns_complete_iff {s' : State ι κ} {cops : List (Op Nat)} {msdu : Skb} {ret : Bool} {p : Nat}
    {ops : List (Op Buf)} (hind : indicateOps cfg env alloc frame msdu (.frag p) = some (ret, ops)) :
    Owns s s' ret (cops.filterMap ofCache ++ [.free .frame] ++ ops) ↔ ret = true := by
  obtain ⟨hfreed, hgiven⟩ := frame_notMem_ofCache cops
  cases ret with
  | true =>
    refine iff_of_true ⟨fun h => by (cases h), fun h => by (cases h), fun _ => ?_⟩ rfl
    have hind' := indicateOps_true hind
    simp only [freed_append, given_append, List.count_append, List.count_eq_zero.mpr hfreed,
      List.count_eq_zero.mpr hgiven, freed_free, freed_nil, given_free, given_nil]
    rw [List.count_singleton, if_neg (by simp)] at hind'
    simp only [List.count_singleton_self, List.count_nil]
    omega
  | false => exact iff_of_false (fun h => (h.untouched rfl).1 (by simp)) (by decide)

/-- One call of `rtllib_rx` keeps its promise exactly when none of three things happen. -/
theorem owns_iff (hinv : Inv s) {ret : Bool} {ops : List (Op Buf)}
    (hrx : rxOps cfg env alloc s frame = some (ret, ops)) :
    Owns s (rtllibRx cfg env s frame).2 ret ops ↔
      ¬ DropsReassembled cfg env s frame ∧ ¬ ForgetsFragment cfg env s frame ∧
        ¬ FreesStale cfg env alloc s frame := by
  have hfilter : SameRows s (rxFilter cfg env s frame).2 := rxFilter_rows
  simp only [rxOps, rtllibRx] at hrx ⊢
  cases hf : (rxFilter cfg env s frame).1 with
  | dropped =>
    simp only [hf] at hrx ⊢
    cases hrx
    exact iff_of_true (owns_nothing hfilter.held)
      (clean_of_not_decrypts fun _ _ _ h => by cases hf.symm.trans h.1)
  | exit =>
    simp only [hf] at hrx ⊢
    cases hrx
    refine iff_of_true ⟨fun h => by (cases h), fun h => by (cases h), fun _ => ?_⟩
      (clean_of_not_decrypts fun _ _ _ h => by cases hf.symm.trans h.1)
    split <;> simp
  | pass =>
    simp only [hf] at hrx ⊢
    have hdecrypt : SameRows _ (rxDecrypt cfg env (rxFilter cfg env s frame).2 frame).2 := rxDecrypt_rows
    cases hd : (rxDecrypt cfg env (rxFilter cfg env s frame).2 frame).1 with
    | none =>
      simp only [hd] at hrx ⊢
      cases hrx
      refine iff_of_true (owns_nothing (hfilter.trans hdecrypt).held)
        (clean_of_not_decrypts fun _ _ _ h => ?_)
      rw [h.2] at hd
      cases hd
    | some kd =>
      obtain ⟨keyidx, skb⟩ := kd
      simp only [hd] at hrx ⊢
      have hrows := hfilter.trans hdecrypt
      generalize hs₁ : (rxDecrypt cfg env (rxFilter cfg env s frame).2 frame).2 = s₁ at hrx hrows ⊢
      have hD : Decrypts cfg env s frame keyidx skb s₁ := ⟨hf, Prod.ext hd hs₁⟩
      have hinv₁ := hinv.rows hrows
      have hspec : Reassembles cfg env s₁ frame skb _ _ _ := rxReassemble_reassembles
      rw [dropsReassembled_iff hD, freesStale_iff hD]
      generalize rxReassemble cfg env s₁ frame skb = r at hrx hspec ⊢
      obtain ⟨r, s₂⟩ := r
      generalize reassembleOps cfg env s₁ frame skb = cops at hrx hspec
      simp only at hspec
      cases hspec with
      | whole frag more =>
        simp only [Option.isSome_none, Bool.false_eq_true, if_false, List.filterMap_nil,
          List.append_nil] at hrx ⊢
        have hno : ¬ ForgetsFragment cfg env s frame := by
          rw [forgetsFragment_iff hD rfl]
          rintro ⟨p, hfragment, -⟩
          exact hfragment.elim (absurd frag) fun h => by simp [more] at h
        have hmsdu : SameRows s₁ (rxDecryptMsdu cfg env s₁ frame skb keyidx).2 := rxDecryptMsdu_rows _ _
        cases hm : (rxDecryptMsdu cfg env s₁ frame skb keyidx).1 with
        | none =>
          simp only [hm] at hrx ⊢
          cases hrx
          refine iff_of_true (owns_nothing (hrows.trans hmsdu).held) ⟨by simp, hno, by simp⟩
        | some msdu =>
          simp only [hm] at hrx ⊢
          obtain ⟨⟨iret, iops⟩, hind, heq⟩ := Option.map_eq_some_iff.mp hrx
          simp only [List.nil_append, Prod.mk.injEq] at heq
          obtain ⟨rfl, rfl⟩ := heq
          have hindicate : SameRows _ (rxIndicate cfg env
            (rxDecryptMsdu cfg env s₁ frame skb keyidx).2 frame msdu none).2 := rxIndicate_rows msdu none
          rw [owns_whole_iff ((hrows.trans hmsdu).trans hindicate).held hind]
          simp [hno]
      | missing fragment get gets =>
        simp only at hrx ⊢
        split_ifs at hrx
        cases hrx
        refine iff_of_true (owns_cache fun q => ?_) ⟨by simp, ?_, by simp⟩
        · have := gets.count hinv₁.cacheOk q
          rw [gets.given, hrows.held] at this
          simp only [List.count_nil] at this
          omega
        · rw [forgetsFragment_iff hD get]
          rintro ⟨p, -, ho, -⟩
          cases ho
      | tooShort get gets short => simp at hrx
      | overflow fragment get gets short fits =>
        simp only at hrx ⊢
        split_ifs at hrx
        cases hrx
        rw [owns_overflow_iff hinv₁ gets hrows.held, forgotten_none_iff, forgetsFragment_iff hD get]
        simp [fragment, short, fits]
      | waits get gets short fits more =>
        simp only at hrx ⊢
        cases hrx
        refine iff_of_true ⟨fun h => by (cases h), fun h => by (cases h), fun _ => ?_⟩ ⟨by simp, ?_, by simp⟩
        · have hcache := frame_notMem_ofCache cops
          rw [freed_append, given_append, List.count_append, List.count_append,
            List.count_eq_zero.mpr hcache.1, List.count_eq_zero.mpr hcache.2]
          simp
        · rw [forgetsFragment_iff hD get]
          rintro ⟨p, -, ho, -, hfits, -⟩
          cases ho
          exact hfits fits
      | @complete s₂ s₃ ops p msdu get gets short fits frag more msdu_eq write =>
        simp only [Option.isSome_some, if_true] at hrx ⊢
        have hno : ¬ ForgetsFragment cfg env s frame := by
          rw [forgetsFragment_iff hD get]
          rintro ⟨q, -, ho, -, hfits, -⟩
          cases ho
          exact hfits fits
        cases hm : (rxDecryptMsdu cfg env (rtllibFragCacheInvalidate cfg s₃ env.jiffiesLater msdu) frame
            msdu keyidx).1 with
        | none =>
          simp only [hm] at hrx ⊢
          cases hrx
          refine iff_of_false (fun h => (h.untouched rfl).1 (by simp)) fun h => h.1 ⟨msdu, p, rfl, ?_⟩
          intro skb' hm'
          rw [hm] at hm'
          cases hm'
        | some skb' =>
          simp only [hm] at hrx ⊢
          obtain ⟨⟨iret, iops⟩, hind, heq⟩ := Option.map_eq_some_iff.mp hrx
          simp only [Prod.mk.injEq] at heq
          obtain ⟨rfl, rfl⟩ := heq
          rw [owns_complete_iff hind, ← Bool.not_eq_false, ← undeliverable_iff hm hind]
          simp [hno]

theorem rxIndicate_ret {msdu : Skb} {p : Option Nat} {ret : Bool} {ops : List (Op Buf)}
    (hind : indicateOps cfg env alloc frame msdu (current p) = some (ret, ops)) :
    (rxIndicate cfg env s frame msdu p).1 = ret := by
  have hret := indicateOps_ret hind
  rw [← parseSubframe_none_iff] at hret
  simp only [rxIndicate]
  split_ifs with hdrop halloc
  · exact (hret.mpr (.inl ⟨hdrop.1, by simpa using hdrop.2⟩)).symm
  · cases hparse : (parseSubframe msdu (env.bContainHTC || htcCheck env frame)).2 with
    | none => exact (hret.mpr (.inr (.inr hparse))).symm
    | some subframes =>
      refine (Bool.eq_true_of_not_eq_false fun h => ?_).symm
      rcases hret.mp h with h | h | h
      · exact hdrop ⟨h.1, by simp [h.2]⟩
      · simp [halloc] at h
      · cases hparse.symm.trans h
  · exact (hret.mpr (.inr (.inl (by simpa using halloc)))).symm

theorem rxOps_ret {ret : Bool} {ops : List (Op Buf)}
    (hrx : rxOps cfg env alloc s frame = some (ret, ops)) : ret = (rtllibRx cfg env s frame).1 := by
  -- The ledger is of the call that `rtllibRx` models.
  simp only [rxOps, rtllibRx] at hrx ⊢
  cases hfilter : (rxFilter cfg env s frame).1 with
  | dropped =>
    simp only [hfilter] at hrx ⊢
    cases hrx
    rfl
  | exit =>
    simp only [hfilter] at hrx ⊢
    cases hrx
    rfl
  | pass =>
    simp only [hfilter] at hrx ⊢
    generalize (rxFilter cfg env s frame).2 = s₁ at hrx ⊢
    rcases hdecrypt : rxDecrypt cfg env s₁ frame with ⟨_ | ⟨keyidx, skb⟩, s₂⟩
    · simp only [hdecrypt] at hrx ⊢
      cases hrx
      rfl
    · simp only [hdecrypt] at hrx ⊢
      rcases hreassemble : rxReassemble cfg env s₂ frame skb with ⟨_ | _ | ⟨msdu, p⟩, s₃⟩
      · simp only [hreassemble] at hrx ⊢
        split_ifs at hrx
        cases hrx
        rfl
      · simp only [hreassemble] at hrx ⊢
        cases hrx
        rfl
      · simp only [hreassemble] at hrx ⊢
        rcases hmsdu : rxDecryptMsdu cfg env s₃ frame msdu keyidx with ⟨_ | msdu', s₄⟩
        · simp only [hmsdu] at hrx ⊢
          cases hrx
          rfl
        · simp only [hmsdu] at hrx ⊢
          obtain ⟨⟨iret, iops⟩, hind, heq⟩ := Option.map_eq_some_iff.mp hrx
          cases heq
          exact (rxIndicate_ret hind).symm

end OneCall

/-! ## Main result -/

/-- After any run from an empty cache, a call of `rtllib_rx` that returns keeps its promise exactly
when it does not drop an MSDU that it reassembled, does not forget a fragment that does not fit and
does not free a stale pointer to the frame. -/
theorem rtllibRx_owns_iff (cfg : Config κ) {s₀ : State ι κ} (h : CacheEmpty s₀)
    (es : List (Event ι)) (env : Env ι) (alloc : Alloc) (frame : Skb) {ret : Bool} {ops : List (Op Buf)}
    (hrx : rxOps cfg env alloc (exec (Rx.step cfg) s₀ es) frame = some (ret, ops)) :
    ret = (rtllibRx cfg env (exec (Rx.step cfg) s₀ es) frame).1 ∧
    (Owns (exec (Rx.step cfg) s₀ es) (rtllibRx cfg env (exec (Rx.step cfg) s₀ es) frame).2 ret ops ↔
      ¬ DropsReassembled cfg env (exec (Rx.step cfg) s₀ es) frame ∧
      ¬ ForgetsFragment cfg env (exec (Rx.step cfg) s₀ es) frame ∧
      ¬ FreesStale cfg env alloc (exec (Rx.step cfg) s₀ es) frame) := by
  have hinv : Inv s₀ := ⟨h.toCacheOk, by simp [h.held], by simp [h.held]⟩
  exact ⟨rxOps_ret hrx, owns_iff (hinv.run es) hrx⟩

def firstFragment : Event Unit := .rx openStation (fun i => (fragmentFrame true 0).byte i) 30

def plenty : Alloc := ⟨fun _ => true, []⟩

theorem rtllibRx_owns_iff_first :
    Owns (exec (Rx.step openConfig) emptyCache [])
      (rtllibRx openConfig openStation emptyCache (fragmentFrame true 0)).2 true
      [.alloc (.frag 0), .free .frame] ↔
      ¬ DropsReassembled openConfig openStation emptyCache (fragmentFrame true 0) ∧
      ¬ ForgetsFragment openConfig openStation emptyCache (fragmentFrame true 0) ∧
      ¬ FreesStale openConfig openStation plenty emptyCache (fragmentFrame true 0) :=
  (rtllibRx_owns_iff openConfig emptyCache_empty [] openStation plenty (fragmentFrame true 0)
    (by decide +kernel)).2

/-- The second fragment completes the MSDU, but there is no memory for the `struct rtllib_rxb`. The
frame was freed, and the caller will free it again. -/
theorem rtllibRx_not_always_owns : ¬ ∀ (cfg : Config Unit) (s₀ : State Unit Unit), CacheEmpty s₀ →
    ∀ (es : List (Event Unit)) (env : Env Unit) (alloc : Alloc) (frame : Skb) (ret : Bool)
      (ops : List (Op Buf)), rxOps cfg env alloc (exec (Rx.step cfg) s₀ es) frame = some (ret, ops) →
    Owns (exec (Rx.step cfg) s₀ es) (rtllibRx cfg env (exec (Rx.step cfg) s₀ es) frame).2 ret ops := by
  intro h
  have howns := h openConfig emptyCache emptyCache_empty [firstFragment] { openStation with rxbAlloc := false }
    plenty (fragmentFrame false 1) false [.free .frame] (by decide +kernel)
  exact (howns.untouched rfl).1 (by decide)

end Rtl8190.Rx.Ownership
