import Mathlib.Data.List.DropRight
import Rtl8190.Crypt.Counters

/-!
# The number that `get_key` reports

It is to be that of the last frame. The counter of CCMP is the number of the last frame, that of TKIP
the number of the next one, and `rtllib_tkip_get_key` returns it as it is.
-/

open Rtl8190.Memory Rtl8190.Run

namespace Rtl8190.Crypt

def seqNumber (seq : List Byte) : Nat := Digits.value seq.reverse

/-- With room for a key of `keyLen` bytes, `get_key` gives the number `n`. -/
def Reports (getKey : Int → KeyReport) (keyLen : Int) (n : Nat) : Prop :=
  ∀ len ≥ keyLen, ∃ seq, (getKey len).seq = some seq ∧ seqNumber seq = n

namespace Ccmp

variable {aes : Key → Block → Block}

/-- What `get_key` gives is the number of the last frame, if there is one. -/
def SeqRight (s : Context) : Prop :=
  ∀ f, s.sent.getLast? = some f →
    Reports (fun len => rtllibCcmpGetKey len true s.data) 16 (Digits.value f.pn)

theorem seqNumber_getKey {data : CcmpData} (hset : data.keySet = true) :
    Reports (fun len => rtllibCcmpGetKey len true data) 16 (Digits.value data.txPn) := by
  intro len hlen
  refine ⟨data.txPn.reverse, ?_, ?_⟩
  · have hroom : ¬ len < 16 := by omega
    simp [rtllibCcmpGetKey, hroom, hset]
  · unfold seqNumber
    rw [List.reverse_reverse]

theorem keySet_decrypt (data : CcmpData) (skb : Skb) (hdrLen : Nat) :
    (rtllibCcmpDecrypt aes data skb hdrLen).2.keySet = data.keySet := by
  unfold rtllibCcmpDecrypt
  simp only
  split_ifs <;> try rfl
  split <;> rfl

/-- The key is set, and the counter is the number of the last frame. -/
structure Current (s : Context) : Prop where
  length : s.data.txPn.length = 6
  keySet : s.data.keySet = true
  last : ∀ f, s.sent.getLast? = some f → f.pn = s.data.txPn

theorem current_keyed (k : Nat → Byte) (seq : Option (Fin 6 → Byte)) (data : CcmpData) :
    Current (keyed k seq data) := by
  refine ⟨?_, rfl, ?_⟩
  · unfold keyed
    rw [txPn_setKey]
    rfl
  · rintro f hf
    cases hf

theorem current_callStep {s : Context} (h : Current s) (c : Call) : Current (callStep aes s c) := by
  cases c with
  | decrypt skb hdrLen =>
    unfold callStep
    refine ⟨?_, ?_, ?_⟩
    · rw [txPn_decrypt]
      exact h.length
    · rw [keySet_decrypt]
      exact h.keySet
    · rw [txPn_decrypt]
      exact h.last
  | encrypt skb hdrLen =>
    rcases encrypt_cases aes s.data skb hdrLen with ⟨_, heq⟩ | ⟨_, out, heq⟩
    · simp only [callStep, heq]
      exact h
    · obtain ⟨hframe, htx⟩ := pn_encrypt h.length heq
      simp only [callStep, heq]
      refine ⟨(Digits.length_increment _).trans h.length, h.keySet, ?_⟩
      intro f hf
      simp only [List.getLast?_concat, Option.some.injEq] at hf
      subst hf
      exact hframe.trans htx.symm

theorem Current.seqRight {s : Context} (h : Current s) : SeqRight s := by
  intro f hf
  rw [h.last f hf]
  exact seqNumber_getKey h.keySet

end Ccmp

namespace Tkip

variable {prim : Primitives}

/-- The frames that went out, each with the length of its header -/
def transmitted (sent : List Sent) : List (Skb × Nat) :=
  sent.filterMap fun f => f.frame.map fun frame => (frame, f.hdrLen)

/-- How many calls have taken a number and failed since the last frame went out -/
def failedSince (sent : List Sent) : Nat := (sent.rtakeWhile fun f => f.frame.isNone).length

/-- What `get_key` gives is the number of the last frame that went out, if there is one. -/
def SeqRight (s : Context) : Prop :=
  ∀ f, (transmitted s.sent).getLast? = some f →
    Reports (fun len => rtllibTkipGetKey len true s.data) 32
      (tsc (rxFrameIv32 f.1 f.2) (rxFrameIv16 f.1 f.2))

/-- The same, where a frame goes out although RC4 failed, as `rtllib_xmit` sends it: then its header
carries the pair that the call took. -/
def SeqRightUnchecked (s : Context) : Prop :=
  ∀ f, s.sent.getLast? = some f →
    Reports (fun len => rtllibTkipGetKey len true s.data) 32 (tsc f.iv32 f.iv16)

theorem value_tsc (iv32 : BitVec 32) (iv16 : BitVec 16) :
    seqNumber (le16 iv16 ++ le16 (iv32.setWidth 16) ++ le16 ((iv32 >>> 16).setWidth 16)) =
      tsc iv32 iv16 := by
  have h32 := iv32.isLt
  have h16 := iv16.isLt
  simp only [seqNumber, le16, tsc, List.cons_append, List.nil_append, List.reverse_cons,
    List.reverse_nil, Digits.value, List.length_cons, List.length_nil, BitVec.toNat_setWidth,
    BitVec.toNat_ushiftRight, Nat.shiftRight_eq_div_pow]
  omega

theorem seqNumber_getKey {tkey : TkipData} (hset : tkey.keySet = true) {n : Nat} :
    Reports (fun len => rtllibTkipGetKey len true tkey) 32 n ↔ tkey.txTsc = n := by
  have hseq : ∀ len : Int, len ≥ 32 → (rtllibTkipGetKey len true tkey).seq =
      some (le16 tkey.txIv16 ++ le16 (tkey.txIv32.setWidth 16) ++
        le16 ((tkey.txIv32 >>> 16).setWidth 16)) := by
    intro len hlen
    have hroom : ¬ len < 32 := by omega
    simp [rtllibTkipGetKey, hroom, hset]
  constructor
  · intro h
    obtain ⟨seq, heq, hn⟩ := h 32 le_rfl
    rw [hseq 32 le_rfl, Option.some.injEq] at heq
    rw [← hn, ← heq, value_tsc]
    rfl
  · rintro rfl len hlen
    exact ⟨_, hseq len hlen, value_tsc _ _⟩

theorem tsc_previousTsc (tkey : TkipData) :
    (tsc (previousTsc tkey).1 (previousTsc tkey).2 + 1) % pnCount = tkey.txTsc := by
  -- What the function computes and leaves is the number before.
  have h32 := tkey.txIv32.isLt
  have h16 := tkey.txIv16.isLt
  have hzero : tkey.txIv16 = 0 ↔ tkey.txIv16.toNat = 0 :=
    ⟨fun h => congrArg BitVec.toNat h, fun h => BitVec.eq_of_toNat_eq h⟩
  unfold previousTsc tsc TkipData.txTsc pnCount
  have hone32 : (1 : BitVec 32).toNat = 1 := rfl
  have hone16 : (1 : BitVec 16).toNat = 1 := rfl
  by_cases hborrow : tkey.txIv16 = 0
  · have hlo := hzero.mp hborrow
    simp only [if_pos hborrow, BitVec.toNat_sub, hone32, hone16]
    omega
  · have hlo : tkey.txIv16.toNat ≠ 0 := fun h => hborrow (hzero.mpr h)
    simp only [if_neg hborrow, BitVec.toNat_sub, hone16]
    omega

theorem keySet_decrypt (arc4Fails : Bool) (tkey : TkipData) (skb : Skb) (hdrLen : Nat) :
    (rtllibTkipDecrypt prim arc4Fails tkey skb hdrLen).2.keySet = tkey.keySet := by
  have hphase : (rxPhase1 { tkey with initialized := true } skb.addr2
      (rxFrameIv32 skb hdrLen)).keySet = tkey.keySet := by
    unfold rxPhase1
    split <;> rfl
  unfold rtllibTkipDecrypt tkipAccept
  simp only
  generalize rxPhase1 _ _ _ = t at hphase ⊢
  split_ifs <;> try rfl
  · exact hphase
  all_goals cases tkipOpen prim t.key t.rxTtak skb hdrLen <;> exact hphase

theorem keySet_verify (michaelFails forceMicError : Bool) (tkey : TkipData) (skb : Skb)
    (hdrLen : Nat) :
    (rtllibMichaelMicVerify prim michaelFails forceMicError tkey skb hdrLen).2.keySet =
      tkey.keySet := by
  unfold rtllibMichaelMicVerify
  simp only
  split_ifs <;> rfl

theorem keySet_encrypt (arc4Fails : Bool) (tkey : TkipData) (skb : Skb) (hdrLen : Nat) :
    (rtllibTkipEncrypt prim arc4Fails tkey skb hdrLen).2.keySet = tkey.keySet := by
  unfold rtllibTkipEncrypt
  simp only
  split_ifs <;> rfl

theorem keySet_callStep {s : Context} (h : s.data.keySet = true) (c : Call) :
    (callStep prim s c).data.keySet = true := by
  cases c with
  | encrypt arc4Fails skb hdrLen =>
    unfold callStep
    simp only
    split_ifs <;> exact (keySet_encrypt _ _ _ _).trans h
  | decrypt arc4Fails skb hdrLen => exact (keySet_decrypt _ _ _ _).trans h
  | verify michaelFails forceMicError skb hdrLen => exact (keySet_verify _ _ _ _ _).trans h

theorem split_last {sent : List Sent} {f : Skb × Nat} (h : (transmitted sent).getLast? = some f) :
    ∃ pre x post, sent = pre ++ x :: post ∧ x.frame = some f.1 ∧ x.hdrLen = f.2 ∧
      post.length = failedSince sent := by
  -- The last frame that went out, and the calls that failed after it.
  induction sent using List.reverseRecOn with
  | nil => cases h
  | append_singleton sent x ih =>
    unfold transmitted at h
    unfold failedSince
    rw [List.filterMap_append] at h
    rw [List.rtakeWhile_concat]
    cases hframe : x.frame with
    | some frame =>
      have hf : f = (frame, x.hdrLen) := by simpa [hframe] using h.symm
      rw [hf]
      exact ⟨sent, x, [], rfl, hframe, rfl, rfl⟩
    | none =>
      simp only [List.filterMap_cons, List.filterMap_nil, hframe, Option.map_none,
        List.append_nil] at h
      obtain ⟨pre, y, post, rfl, hy, hhdr, hpost⟩ := ih h
      refine ⟨pre, y, post ++ [x], by simp, hy, hhdr, ?_⟩
      rw [Option.isNone_none, if_pos rfl, List.length_append, List.length_append, hpost]
      rfl

/-- The next number is that of the last frame only if the numbers have gone round. -/
theorem seqRight_iff {s : Context} (h : Numbered s) (hset : s.data.keySet = true) :
    SeqRight s ↔ transmitted s.sent = [] ∨ pnCount ∣ failedSince s.sent + 1 := by
  unfold SeqRight
  cases hlast : (transmitted s.sent).getLast? with
  | none => exact iff_of_true nofun (.inl (List.getLast?_eq_none_iff.mp hlast))
  | some f =>
    obtain ⟨pre, x, post, hsplit, hframe, hhdr, hpost⟩ := split_last hlast
    have hsome : transmitted s.sent ≠ [] := by
      rintro hnil
      rw [hnil] at hlast
      cases hlast
    have hmem : x ∈ s.sent := by
      rw [hsplit]
      exact List.mem_append_right pre List.mem_cons_self
    have hnumber : tsc x.iv32 x.iv16 = (pre.length + 1) % pnCount := by
      have hnth := congrArg (·[pre.length]?) h.numbers
      simpa [hsplit] using hnth
    obtain ⟨h32, h16⟩ := h.carried x hmem f.1 hframe
    rw [hhdr] at h32 h16
    have hnext : s.data.txTsc = (pre.length + 1 + (failedSince s.sent + 1)) % pnCount := by
      rw [h.next, ← hpost, hsplit]
      congr 1
      simp only [List.length_append, List.length_cons]
      omega
    simp only [Option.some.injEq, forall_eq', h32, h16, seqNumber_getKey hset, hnumber, hnext,
      hsome, false_or]
    exact Nat.add_modEq_left_iff

theorem seqRightUnchecked_iff {s : Context} (h : Numbered s) (hset : s.data.keySet = true) :
    SeqRightUnchecked s ↔ s.sent = [] := by
  unfold SeqRightUnchecked
  rcases List.eq_nil_or_concat s.sent with hnil | ⟨pre, x, hsplit⟩
  · exact iff_of_true (fun f hf => by simp [hnil] at hf) hnil
  · have hnumber : tsc x.iv32 x.iv16 = (pre.length + 1) % pnCount := by
      have hnth := congrArg (·[pre.length]?) h.numbers
      simpa [hsplit] using hnth
    have hnext : s.data.txTsc = (pre.length + 1 + 1) % pnCount := by
      rw [h.next, hsplit, List.length_concat]
    refine iff_of_false (fun hright => ?_) (by simp [hsplit])
    have heq := (seqNumber_getKey hset).mp (hright x (by simp [hsplit]))
    rw [hnumber, hnext] at heq
    exact absurd (Nat.add_modEq_left_iff.mp heq) (by decide)

theorem keySet_exec (k : Nat → Byte) (seq : Option (Fin 6 → Byte)) (tkey : TkipData)
    (calls : List Call) : (exec (callStep prim) (keyed k seq tkey) calls).data.keySet = true := by
  have hkeyed : (keyed k seq tkey).data.keySet = true := by
    unfold keyed rtllibTkipSetKey
    cases seq <;> rfl
  exact exec_inv (C := fun _ _ => True) (I := fun s : Context => s.data.keySet = true)
    (fun _ c hs _ => keySet_callStep hs c) hkeyed (meets_of_forall fun _ _ => trivial)

end Tkip

/-- With CCMP the number is always that of the last frame. With TKIP it is so before the first frame,
and when all numbers have been taken by calls that failed since the last one. Where a frame goes out
although RC4 failed, it is so before the first frame only. -/
theorem get_key_seq_iff (aes : Ccmp.Key → Ccmp.Block → Ccmp.Block) (prim : Tkip.Primitives)
    (k : Nat → Byte) (seq : Option (Fin 6 → Byte)) :
    (∀ (data : Ccmp.CcmpData) (calls : List Ccmp.Call),
      Ccmp.SeqRight (exec (Ccmp.callStep aes) (Ccmp.keyed k seq data) calls)) ∧
    ∀ (tkey : Tkip.TkipData) (calls : List Tkip.Call),
      let s := exec (Tkip.callStep prim) (Tkip.keyed k seq tkey) calls
      (Tkip.SeqRight s ↔
        Tkip.transmitted s.sent = [] ∨ 2 ^ 48 ∣ Tkip.failedSince s.sent + 1) ∧
      (Tkip.SeqRightUnchecked s ↔ s.sent = []) := by
  constructor
  · intro data calls
    apply Ccmp.Current.seqRight
    exact exec_inv (C := fun _ _ => True) (I := Ccmp.Current)
      (fun _ c hs _ => Ccmp.current_callStep hs c) (Ccmp.current_keyed k seq data)
      (meets_of_forall fun _ _ => trivial)
  · intro tkey calls s
    have hnumbered : Tkip.Numbered s := Tkip.numbered_exec k seq tkey calls
    have hset : s.data.keySet = true := Tkip.keySet_exec k seq tkey calls
    exact ⟨Tkip.seqRight_iff hnumbered hset, Tkip.seqRightUnchecked_iff hnumbered hset⟩

/-- After the first frame, which carries 1, `get_key` gives 2. -/
theorem get_key_not_last_sent :
    ¬ ∀ calls : List Tkip.Call,
      Tkip.SeqRight (exec (Tkip.callStep simplePrimitives)
        (Tkip.keyed (fun _ => 1) none (freshTkip fun _ => 0)) calls) := by
  intro h
  have hone := h [.encrypt false simpleFrame 24]
  have hlast : ∃ f, (Tkip.transmitted (exec (Tkip.callStep simplePrimitives)
      (Tkip.keyed (fun _ => 1) none (freshTkip fun _ => 0))
        [.encrypt false simpleFrame 24]).sent).getLast? = some f ∧
      Tkip.tsc (Tkip.rxFrameIv32 f.1 f.2) (Tkip.rxFrameIv16 f.1 f.2) = 1 := ⟨_, rfl, by decide +kernel⟩
  obtain ⟨f, hf, hnumber⟩ := hlast
  obtain ⟨seq, hseq, hn⟩ := hone f hf 32 le_rfl
  have htwo : seq = [2, 0, 0, 0, 0, 0] := Option.some.inj (hseq.symm.trans (by decide +kernel))
  rw [hnumber, htwo] at hn
  revert hn
  decide

end Rtl8190.Crypt
