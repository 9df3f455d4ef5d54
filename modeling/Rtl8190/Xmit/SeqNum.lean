import Rtl8190.Lib.Run
import Rtl8190.TrafficStream.Lists
import Rtl8190.Xmit.Code

/-!
# The sequence numbers of the fragments of a QoS frame

`rtllib_query_seqnum` is asked once for each fragment. With a traffic stream every fragment has a
sequence number of its own, and `TxCurSeq` advances by their number (`xmitLoop_drawn`). Without one
every fragment has the number 0, and no counter advances.
-/

open Rtl8190.Memory Rtl8190.TrafficStream Rtl8190.Crypt Rtl8190.Run Function

namespace Rtl8190.Xmit

variable {κ : Type} {dev : Device κ} {p : Plan} {s s' s₁ : State κ}

/-! ## The sequence control field -/

theorem seqCtl_toNat (seqnum : BitVec 16) {i : Nat} (hi : i < 16) :
    (seqCtl seqnum i).toNat = seqnum.toNat % 4096 * 16 + i := by
  have hshift : (seqnum <<< 4).toNat = (seqnum.toNat % 4096) <<< 4 := by
    rw [BitVec.toNat_shiftLeft, Nat.shiftLeft_eq, Nat.shiftLeft_eq]
    omega
  have hfrag : (BitVec.ofNat 16 i).toNat = i := Nat.mod_eq_of_lt (by omega)
  rw [seqCtl, BitVec.toNat_or, hshift, hfrag, ← Nat.shiftLeft_add_eq_or_of_lt (by omega),
    Nat.shiftLeft_eq]

theorem seqSeq_seqCtl (seqnum : BitVec 16) {i : Nat} (hi : i < 16) :
    Rx.seqSeq (seqCtl seqnum i) = seqnum.toNat % 4096 := by
  rw [Rx.seqSeq, seqCtl_toNat seqnum hi]
  omega

theorem seqFrag_seqCtl (seqnum : BitVec 16) {i : Nat} (hi : i < 16) :
    Rx.seqFrag (seqCtl seqnum i) = i := by
  rw [Rx.seqFrag, seqCtl_toNat seqnum hi]
  omega

theorem nextSeq_toNat (seq : BitVec 16) : (nextSeq seq).toNat = (seq.toNat + 1) % 4096 := by
  rw [nextSeq, BitVec.toNat_ofNat]
  omega

/-! ## The header of a fragment -/

/-- The frame control field of a fragment. -/
def Plan.fragFc (p : Plan) (more : Bool) : BitVec 16 := if more then p.fc ||| 0x0400 else p.fc

/-- The header of the MPDU is that of a fragment, with the field `sc`. -/
def HasHeader (dev : Device κ) (p : Plan) (more : Bool) (sc : BitVec 16) (skb : Skb) : Prop :=
  skb.data.take p.hdrLen = p.header dev more sc

section Header

variable {skb skb' : Skb} {more : Bool} {sc : BitVec 16}

theorem header_length : (p.header dev more sc).length = if dev.qosActive then 26 else 24 := by
  unfold Plan.header
  by_cases hqos : dev.qosActive = true
  · simp only [if_pos hqos]
    rfl
  · simp only [if_neg hqos]
    rfl

theorem HasHeader.hdrLen_le (h : HasHeader dev p more sc skb)
    (hlen : p.hdrLen = if dev.qosActive then 26 else 24) : p.hdrLen ≤ skb.len := by
  have hl := congrArg List.length h
  rw [header_length, ← hlen, List.length_take] at hl
  exact hl ▸ Nat.min_le_right ..

theorem HasHeader.byte (h : HasHeader dev p more sc skb)
    (hlen : p.hdrLen = if dev.qosActive then 26 else 24) {i : Nat} (hi : i < 24) :
    skb.byte i = (p.header dev more sc).getD i 0 := by
  have hi' : i < p.hdrLen := by
    rw [hlen]
    split <;> omega
  rw [← h, Skb.byte, List.getD_eq_getElem?_getD, List.getD_eq_getElem?_getD, List.getElem?_take_of_lt hi']

theorem HasHeader.frameCtl (h : HasHeader dev p more sc skb)
    (hlen : p.hdrLen = if dev.qosActive then 26 else 24) : skb.frameCtl = p.fragFc more := by
  rw [Skb.frameCtl, h.byte hlen (by decide), h.byte hlen (by decide)]
  exact hi_append_lo _

theorem HasHeader.seqCtl (h : HasHeader dev p more sc skb)
    (hlen : p.hdrLen = if dev.qosActive then 26 else 24) : skb.seqCtl = sc := by
  rw [Skb.seqCtl, h.byte hlen (by decide), h.byte hlen (by decide)]
  exact hi_append_lo _

theorem skbPut_eq {bs : List Byte} (h : skbPut skb bs = some skb') : skb' = skb.put bs := by
  unfold skbPut at h
  split at h
  · exact (Option.some.inj h).symm
  · cases h

theorem HasHeader.put (h : HasHeader dev p more sc skb)
    (hlen : p.hdrLen = if dev.qosActive then 26 else 24) {bs : List Byte}
    (hput : skbPut skb bs = some skb') : HasHeader dev p more sc skb' := by
  rw [skbPut_eq hput, HasHeader, Skb.put, List.take_append_of_le_length (h.hdrLen_le hlen)]
  exact h

theorem HasHeader.putIf {c : Bool} (h : HasHeader dev p more sc skb)
    (hlen : p.hdrLen = if dev.qosActive then 26 else 24) {bs : List Byte}
    (hput : skbPutIf c skb bs = some skb') : HasHeader dev p more sc skb' := by
  unfold skbPutIf at hput
  split at hput
  · exact h.put hlen hput
  · exact Option.some.inj hput ▸ h

theorem HasHeader.encrypt (h : HasHeader dev p more sc skb)
    (hlen : p.hdrLen = if dev.qosActive then 26 else 24) (priv : κ) :
    HasHeader dev p more sc (rtllibEncryptFragment dev priv skb p.hdrLen).1 := by
  -- Its encryption keeps the header of a fragment.
  unfold rtllibEncryptFragment
  split
  · exact h
  rename_i ops hops
  split
  · exact h
  have hmsdu : HasHeader dev p more sc (ops.msdu priv skb p.hdrLen).2.1 := by
    unfold CryptOps.msdu
    split
    · rename_i encryptMsdu hmsdu
      exact (ops.msdu_header _ hmsdu priv skb _ (h.hdrLen_le hlen)).trans h
    · exact h
  simp only
  split
  · unfold CryptOps.mpdu
    split
    · rename_i encryptMpdu hmpdu
      exact (ops.mpdu_header _ hmpdu _ _ _ (hmsdu.hdrLen_le hlen)).trans hmsdu
    · exact hmsdu
  · exact hmsdu

end Header

section Fragment

variable {room skb : Skb} {more : Bool} {sc : BitVec 16} {i : Nat} {payload : List Byte}

/-- The two numbers that a receiver finds in the header of the fragment. -/
def HasNumbers (p : Plan) (more : Bool) (sc : BitVec 16) (skb : Skb) : Prop :=
  skb.frameCtl = p.fragFc more ∧ skb.seqCtl = sc

theorem plainFragment_header (hroom : room.data = []) (hlen : p.hdrLen = if dev.qosActive then 26 else 24)
    (h : plainFragment dev p room i more sc payload = some skb) : HasHeader dev p more sc skb := by
  simp only [plainFragment, Option.bind_eq_bind, Option.bind_eq_some_iff] at h
  obtain ⟨skb₁, h₁, skb₂, h₂, h₃⟩ := h
  have hheader : HasHeader dev p more sc skb₁ := by
    rw [skbPut_eq h₁, HasHeader, Skb.put]
    simp only [reserve, hroom, List.nil_append]
    rw [hlen, ← header_length, List.take_length]
  exact (hheader.putIf hlen h₂).put hlen h₃

theorem xmitFragment_spec (hroom : room.data = []) (hlen : p.hdrLen = if dev.qosActive then 26 else 24)
    (h : xmitFragment dev p s room i more payload = some (skb, s')) :
    ∃ sc s₁ priv, fragSeqCtl dev p s (p.fragFc more) i = some (sc, s₁) ∧ HasNumbers p more sc skb ∧
      s' = { s₁ with priv := priv } := by
  simp only [xmitFragment, Option.bind_eq_bind, Option.bind_eq_some_iff, Option.some.injEq,
    Prod.mk.injEq] at h
  obtain ⟨⟨sc, s₁⟩, hsc, skb₁, h₁, skb₂, h₂, rfl, rfl⟩ := h
  have hplain := plainFragment_header hroom hlen h₁
  have hheader : HasHeader dev p more sc
      (if p.encrypt = true then rtllibEncryptFragment dev s₁.priv skb₁ p.hdrLen else (skb₁, s₁.priv)).1 := by
    split
    · exact hplain.encrypt hlen _
    · exact hplain
  have hfinal := hheader.putIf hlen h₂
  exact ⟨sc, s₁, _, hsc, ⟨hfinal.frameCtl hlen, hfinal.seqCtl hlen⟩, rfl⟩

end Fragment

/-! ## The stream -/

/-- The transmit lists are those of a device after any calls. -/
def TsReachable (iwMode : IwMode) (ts : TsLists) : Prop :=
  ∃ version ieee ops ieee',
    exec (TrafficStream.step iwMode) (tsInitialize version ieee) ops = some ieee' ∧ ts = ieee' .txDir

theorem TsReachable.good {iwMode : IwMode} {ts : TsLists} (h : TsReachable iwMode ts) :
    ∃ f, Good iwMode .txDir ts f := by
  obtain ⟨version, ieee, ops, ieee', hexec, rfl⟩ := h
  cases version with
  | before415 =>
    obtain ⟨ieee₁, hexec₁, hgood, -⟩ := exec_invariants iwMode ieee ops
    obtain rfl : ieee₁ = ieee' := Option.some.inj (hexec₁.symm.trans hexec)
    exact hgood
  | from415 =>
    rw [tsInitialize_from415, exec_none] at hexec
    cases hexec

/-- As long as the lists stay as they are, the frame gets the stream `pTS`, or none. -/
def Settled (dev : Device κ) (p : Plan) (pTS : Option Record) (s : State κ) : Prop :=
  ∀ s₂ : State κ, s₂.ts = s.ts → getTxTs dev s₂ p.addr1 p.priority = some (pTS, s₂)

theorem getTxTs_settled {f : TsHead → List Record} (h : Good dev.iwMode .txDir s.ts f) :
    ∃ pTS s₁, getTxTs dev s p.addr1 p.priority = some (pTS, s₁) ∧ Settled dev p pTS s₁ ∧
      (pTS = none → s₁ = s) := by
  -- A stream that is admitted is found again.
  have hagain : ∀ {ts f r}, Good dev.iwMode .txDir ts f → r ∈ f .admitList →
      ∀ {up}, Carries ts r p.addr1 up → mappedUp dev.qosSupported p.priority = some up →
      p.addr1.isMulticast = false → ∀ s₂ : State κ, s₂.ts = ts →
        getTxTs dev s₂ p.addr1 p.priority = some (some r, s₂) := by
    intro ts f r hg hr up hc hup hm s₂ hts
    simp only [getTxTs, hts, hg.getTs_found hr hc hm hup]
  by_cases hm : p.addr1.isMulticast = true
  · have hnone : ∀ s₂ : State κ, getTxTs dev s₂ p.addr1 p.priority = some (none, s₂) := fun s₂ => by
      simp only [getTxTs, getTs, hm, if_true]
    exact ⟨none, s, hnone s, fun s₂ _ => hnone s₂, fun _ => rfl⟩
  have hm : p.addr1.isMulticast = false := by simpa using hm
  rcases h.getTs dev.qosSupported p.addr1 p.priority false with hno | ⟨r, s', f', up, hs, hup, hg, hr, hc, -⟩
  · rcases h.getTs dev.qosSupported p.addr1 p.priority true with hno' | ⟨r, ts', f', up, hs, hup, hg, hr, hc, -⟩
    · have hnone : ∀ s₂ : State κ, s₂.ts = s.ts →
          getTxTs dev s₂ p.addr1 p.priority = some (none, s₂) := fun s₂ hts => by
        simp only [getTxTs, hts, hno, hno']
        rw [← hts]
      exact ⟨none, s, hnone s rfl, hnone, fun _ => rfl⟩
    · have hget : getTxTs dev s p.addr1 p.priority =
          some (some r, { s with ts := ts', txCurSeq := update s.txCurSeq r 0 }) := by
        simp only [getTxTs, hno, hs]
      exact ⟨some r, _, hget, hagain hg hr hc hup hm, fun hnone => absurd hnone (Option.some_ne_none r)⟩
  · obtain rfl := getTs_search hs
    exact ⟨some r, s, hagain hg hr hc hup hm s rfl, hagain hg hr hc hup hm,
      fun hnone => absurd hnone (Option.some_ne_none r)⟩

/-! ## The loop -/

/-- The number that fragment `j` gets from the stream `pTS`, from now on. -/
def drawn (s : State κ) (pTS : Option Record) (j : Nat) : BitVec 16 :=
  pTS.elim 0 fun pTS => nextSeq^[j] (s.txCurSeq pTS)

def countersAfter (s : State κ) (pTS : Option Record) (n : Nat) : Record → BitVec 16 :=
  pTS.elim s.txCurSeq fun pTS => update s.txCurSeq pTS (nextSeq^[n] (s.txCurSeq pTS))

structure QosUnicast (dev : Device κ) (p : Plan) : Prop where
  qosActive : dev.qosActive = true
  unicast : p.addr1.isMulticast = false
  hdrLen : p.hdrLen = if dev.qosActive then 26 else 24
  isQos : ∀ more, Rx.isQosDataFrame (p.fragFc more) = true

/-- Fragments before the numbers are drawn know only the stream and its counter. -/
theorem fragSeqCtl_settled {pTS : Option Record} (hq : QosUnicast dev p)
    (hget : getTxTs dev s p.addr1 p.priority = some (pTS, s₁)) (more : Bool) (i : Nat) :
    fragSeqCtl dev p s (p.fragFc more) i =
      some (seqCtl (drawn s₁ pTS 0) i, { s₁ with txCurSeq := countersAfter s₁ pTS 1 }) := by
  simp only [fragSeqCtl, rtllibQuerySeqnum, hq.qosActive, hq.unicast, hq.isQos, hget]
  cases pTS <;> rfl

theorem drawn_after {t : State κ} {pTS : Option Record} (h : t.txCurSeq = countersAfter s pTS 1)
    (j : Nat) : drawn t pTS j = drawn s pTS (j + 1) := by
  cases pTS with
  | none => rfl
  | some pTS =>
    simp only [drawn, Option.elim, h, countersAfter, update_self]
    rfl

theorem countersAfter_after {t : State κ} {pTS : Option Record}
    (h : t.txCurSeq = countersAfter s pTS 1) (n : Nat) :
    countersAfter t pTS n = countersAfter s pTS (n + 1) := by
  cases pTS with
  | none => exact h
  | some pTS =>
    simp only [countersAfter, Option.elim, h, update_self, update_idem]
    rfl

theorem xmitLoop_head (hq : QosUnicast dev p) {pTS : Option Record} {mem : Nat → Byte} {i pos : Nat}
    {room : Skb} {rooms skbs : List Skb} (hroom : room.data = [])
    (hget : getTxTs dev s p.addr1 p.priority = some (pTS, s₁))
    (h : xmitLoop dev p mem s i pos (room :: rooms) = some (skbs, s')) :
    ∃ skb t rest pos', skbs = skb :: rest ∧
      HasNumbers p (!rooms.isEmpty) (seqCtl (drawn s₁ pTS 0) i) skb ∧ t.ts = s₁.ts ∧
      t.txCurSeq = countersAfter s₁ pTS 1 ∧
      xmitLoop dev p mem t (i + 1) pos' rooms = some (rest, s') := by
  simp only [xmitLoop, Option.bind_eq_bind, Option.bind_eq_some_iff, Option.some.injEq,
    Prod.mk.injEq] at h
  obtain ⟨⟨skb, t⟩, hfrag, ⟨rest, t'⟩, hloop, rfl, rfl⟩ := h
  obtain ⟨sc, s₂, priv, hsc, hnum, rfl⟩ := xmitFragment_spec hroom hq.hdrLen hfrag
  rw [fragSeqCtl_settled hq hget] at hsc
  obtain ⟨rfl, rfl⟩ := Prod.mk.inj (Option.some.inj hsc)
  refine ⟨skb, _, rest, _, rfl, hnum, ?_, ?_, hloop⟩ <;> rfl

theorem xmitLoop_drawn (hq : QosUnicast dev p) {pTS : Option Record} {mem : Nat → Byte} {i pos : Nat}
    {room : Skb} {rooms skbs : List Skb} (hrooms : ∀ skb ∈ room :: rooms, skb.data = [])
    (hget : getTxTs dev s p.addr1 p.priority = some (pTS, s₁)) (hsettled : Settled dev p pTS s₁)
    (h : xmitLoop dev p mem s i pos (room :: rooms) = some (skbs, s')) :
    skbs.length = rooms.length + 1 ∧ s'.txCurSeq = countersAfter s₁ pTS (rooms.length + 1) ∧
      ∀ j (hj : j < skbs.length),
        HasNumbers p (decide (j + 1 < skbs.length)) (seqCtl (drawn s₁ pTS j) (i + j)) skbs[j] := by
  -- Each fragment draws a number of its own from the stream, if there is one.
  induction rooms generalizing s s₁ i pos room skbs with
  | nil =>
    obtain ⟨skb, t, rest, pos', rfl, hnum, -, hctr, hrest⟩ := xmitLoop_head hq (hrooms _ (by simp)) hget h
    obtain ⟨rfl, rfl⟩ := Prod.mk.inj (Option.some.inj hrest)
    refine ⟨rfl, hctr, fun j hj => ?_⟩
    obtain rfl : j = 0 := by simpa using hj
    simpa using hnum
  | cons room' rooms ih =>
    obtain ⟨skb, t, rest, pos', rfl, hnum, hts, hctr, hrest⟩ :=
      xmitLoop_head hq (hrooms _ (by simp)) hget h
    have hsettled' : Settled dev p pTS t := fun s₂ hs₂ => hsettled s₂ (hs₂.trans hts)
    obtain ⟨hlen, hctr', hrestnum⟩ :=
      ih (fun skb hskb => hrooms skb (List.mem_cons_of_mem _ hskb)) (hsettled t hts) hsettled' hrest
    refine ⟨by simp [hlen], by rw [hctr', countersAfter_after hctr, List.length_cons], ?_⟩
    rintro (_ | j) hj
    · simpa [hlen] using hnum
    · have hj' : j < rest.length := by simpa using hj
      have := hrestnum j hj'
      rw [drawn_after hctr, show i + 1 + j = i + (j + 1) by omega] at this
      simpa only [List.length_cons, Nat.add_lt_add_iff_right, List.getElem_cons_succ] using this

/-! ## The whole frame -/

theorem isQosDataFrame_frameControl (hqos : dev.qosActive = true) (skb : EthSkb) (more : Bool) :
    Rx.isQosDataFrame ((plan dev skb).fragFc more) = true := by
  simp only [plan, Plan.fragFc, frameControl, hqos]
  cases encrypts dev skb <;> cases more <;> by_cases hm : dev.iwMode = .infra <;> simp only [hm] <;> rfl

theorem moreFrags_frameControl (skb : EthSkb) (more : Bool) :
    Rx.moreFrags ((plan dev skb).fragFc more) = more := by
  simp only [plan, Plan.fragFc, frameControl]
  cases encrypts dev skb <;> cases dev.qosActive <;> cases more <;>
    by_cases hm : dev.iwMode = .infra <;> simp only [hm] <;> rfl

theorem qosUnicast_plan {skb : EthSkb} (hqos : dev.qosActive = true)
    (huni : (addresses dev skb).1.isMulticast = false) : QosUnicast dev (plan dev skb) :=
  ⟨hqos, huni, rfl, isQosDataFrame_frameControl hqos skb⟩

theorem mem_of_mapM {α β : Type} {f : α → Option β} {xs : List α} {ys : List β}
    (h : xs.mapM f = some ys) {y : β} (hy : y ∈ ys) : ∃ x ∈ xs, f x = some y := by
  induction xs generalizing ys with
  | nil =>
    obtain rfl : [] = ys := by simpa using h
    cases hy
  | cons x xs ih =>
    simp only [List.mapM_cons, Option.bind_eq_bind, Option.bind_eq_some_iff] at h
    obtain ⟨y', hx, ys', hxs, hys⟩ := h
    obtain rfl : y' :: ys' = ys := Option.some.inj hys
    rcases List.mem_cons.mp hy with rfl | hy
    · exact ⟨x, List.mem_cons_self, hx⟩
    · obtain ⟨x', hx', hfx⟩ := ih hxs hy
      exact ⟨x', List.mem_cons_of_mem _ hx', hfx⟩

theorem length_of_mapM {α β : Type} {f : α → Option β} {xs : List α} {ys : List β}
    (h : xs.mapM f = some ys) : ys.length = xs.length := by
  induction xs generalizing ys with
  | nil =>
    obtain rfl : [] = ys := by simpa using h
    rfl
  | cons x xs ih =>
    simp only [List.mapM_cons, Option.bind_eq_bind, Option.bind_eq_some_iff] at h
    obtain ⟨y, -, ys', hxs, hys⟩ := h
    obtain rfl : y :: ys' = ys := Option.some.inj hys
    rw [List.length_cons, List.length_cons, ih hxs]

theorem rtllibAllocTxb_rooms {n size : Nat} {rooms : List Skb}
    (h : rtllibAllocTxb dev n size = some rooms) :
    rooms.length = n ∧ ∀ skb ∈ rooms, ∃ room : Room size, skb = room.skb := by
  unfold rtllibAllocTxb at h
  split at h
  · refine ⟨(length_of_mapM h).trans List.length_range, ?_⟩
    intro skb hskb
    obtain ⟨i, -, hi⟩ := mem_of_mapM h hskb
    obtain ⟨room, -, rfl⟩ := Option.map_eq_some_iff.mp hi
    exact ⟨room, rfl⟩
  · cases h

theorem rtllibAllocTxb_data {n size : Nat} {rooms : List Skb}
    (h : rtllibAllocTxb dev n size = some rooms) {room : Skb} (hroom : room ∈ rooms) :
    room.data = [] := by
  obtain ⟨room', rfl⟩ := (rtllibAllocTxb_rooms h).2 room hroom
  rfl

theorem xmitInter_loop {skb : EthSkb} {txb : Txb} (hraw : dev.rawTx = false)
    (h : rtllibXmitInter dev s skb = some (.sent txb, s')) :
    ¬ (plan dev skb).bytesPerFrag dev < 8 ∧
    ∃ rooms t, rtllibAllocTxb dev ((plan dev skb).nrFrags dev)
        ((plan dev skb).fragSize + dev.txHeadroom) = some rooms ∧ s'.txCurSeq = t.txCurSeq ∧
      xmitLoop dev (plan dev skb) skb.mem s 0 skb.payloadAt rooms = some (txb.fragments, t) := by
  -- What is sent comes from the loop, but for a raw frame.
  unfold rtllibXmitInter at h
  split at h
  · cases h
  rw [if_neg (by simp [hraw])] at h
  split at h
  · cases h
  split at h
  · cases h
  simp only at h
  split at h
  · cases h
  · rename_i hroom
    split at h
    · cases h
    · rename_i rooms halloc
      obtain ⟨⟨frags, t⟩, hloop, heq⟩ := Option.map_eq_some_iff.mp h
      cases heq
      exact ⟨hroom, rooms, t, halloc, rfl, hloop⟩

theorem xmitRaw_one {skb : EthSkb} {txb : Txb} (hraw : dev.rawTx = true)
    (h : rtllibXmitInter dev s skb = some (.sent txb, s')) : txb.fragments.length = 1 := by
  unfold rtllibXmitInter xmitRaw at h
  split at h
  · cases h
  split at h
  · cases h
  split at h
  · obtain ⟨frag, -, heq⟩ := Option.map_eq_some_iff.mp h
    cases heq
    rfl
  · cases h

theorem xmitInter_fragments {skb : EthSkb} {txb : Txb}
    (h : rtllibXmitInter dev s skb = some (.sent txb, s')) (hfrags : 2 ≤ txb.fragments.length) :
    ∃ rooms t, (∀ room ∈ rooms, room.data = []) ∧ s'.txCurSeq = t.txCurSeq ∧
      xmitLoop dev (plan dev skb) skb.mem s 0 skb.payloadAt rooms = some (txb.fragments, t) := by
  cases hraw : dev.rawTx with
  | true =>
    rw [xmitRaw_one hraw h] at hfrags
    omega
  | false =>
    obtain ⟨-, rooms, t, halloc, hseq, hloop⟩ := xmitInter_loop hraw h
    exact ⟨rooms, t, fun room hroom => rtllibAllocTxb_data halloc hroom, hseq, hloop⟩

/-! ## Main result -/

/-- The fragments share one sequence number, are numbered in order, and all but the last announce
that others follow. -/
def Numbered (frags : List Skb) : Prop :=
  ∃ seq, ∀ i (h : i < frags.length), Rx.seqSeq frags[i].seqCtl = seq ∧
    Rx.seqFrag frags[i].seqCtl = i ∧ Rx.moreFrags frags[i].frameCtl = decide (i + 1 < frags.length)

/-- The counter of the stream of the frame advances by one. -/
def AdvancesByOne (dev : Device κ) (skb : EthSkb) (s s' : State κ) : Prop :=
  ∃ pTS s₁, getTxTs dev s (plan dev skb).addr1 (plan dev skb).priority = some (some pTS, s₁) ∧
    s'.txCurSeq pTS = nextSeq (s₁.txCurSeq pTS)

/-- Fragments that draw from a stream have different numbers from the second one on. Without a
stream they all have the number 0, until the fragment number spoils it. -/
theorem numbered_iff {pTS : Option Record} {frags : List Skb} (hfrags : 2 ≤ frags.length)
    (hmore : ∀ more, Rx.moreFrags (p.fragFc more) = more)
    (h : ∀ j (hj : j < frags.length),
      HasNumbers p (decide (j + 1 < frags.length)) (seqCtl (drawn s pTS j) j) frags[j]) :
    Numbered frags ↔ pTS = none ∧ frags.length ≤ 16 := by
  constructor
  · rintro ⟨seq, hseq⟩
    constructor
    · cases pTS with
      | none => rfl
      | some pTS =>
        exfalso
        have h0 := (hseq 0 (by omega)).1
        have h1 := (hseq 1 (by omega)).1
        rw [(h 0 (by omega)).2, seqSeq_seqCtl _ (by decide)] at h0
        rw [(h 1 (by omega)).2, seqSeq_seqCtl _ (by decide)] at h1
        have hnext : (drawn s (some pTS) 1).toNat = ((drawn s (some pTS) 0).toNat + 1) % 4096 :=
          nextSeq_toNat _
        omega
    · by_contra hlong
      have h16 := (hseq 16 (by omega)).2.1
      exact absurd h16 (Nat.ne_of_lt (Nat.mod_lt _ (by decide)))
  · rintro ⟨rfl, hshort⟩
    refine ⟨0, fun i hi => ?_⟩
    obtain ⟨hfc, hsc⟩ := h i hi
    rw [hfc, hsc, seqSeq_seqCtl _ (by omega), seqFrag_seqCtl _ (by omega), hmore]
    exact ⟨rfl, rfl, rfl⟩

/-- A QoS frame that goes to one receiver in several fragments never has one sequence number and
one step of the counter. It has one number only when there is no stream, and so no counter, for it. -/
theorem one_number_per_msdu_never {skb : EthSkb} {txb : Txb} (hts : TsReachable dev.iwMode s.ts)
    (hqos : dev.qosActive = true) (huni : (addresses dev skb).1.isMulticast = false)
    (h : rtllibXmitInter dev s skb = some (.sent txb, s')) (hfrags : 2 ≤ txb.fragments.length) :
    ¬ (Numbered txb.fragments ∧ AdvancesByOne dev skb s s') ∧
      (Numbered txb.fragments ↔
        getTxTs dev s (plan dev skb).addr1 (plan dev skb).priority = some (none, s) ∧
          txb.fragments.length ≤ 16) := by
  obtain ⟨f, hgood⟩ := hts.good
  obtain ⟨pTS, s₁, hget, hsettled, hnone⟩ := getTxTs_settled (p := plan dev skb) hgood
  obtain ⟨rooms, t, hrooms, -, hloop⟩ := xmitInter_fragments h hfrags
  have hnumbered : Numbered txb.fragments ↔ pTS = none ∧ txb.fragments.length ≤ 16 := by
    cases rooms with
    | nil =>
      obtain ⟨hnil, -⟩ := Prod.mk.inj (Option.some.inj hloop)
      rw [← hnil] at hfrags
      exact absurd hfrags (by decide)
    | cons room rooms =>
      obtain ⟨-, -, hnum⟩ := xmitLoop_drawn (qosUnicast_plan hqos huni) hrooms hget hsettled hloop
      refine numbered_iff (p := plan dev skb) (s := s₁) hfrags (moreFrags_frameControl skb) fun j hj => ?_
      simpa only [Nat.zero_add] using hnum j hj
  have hstream : pTS = none ↔
      getTxTs dev s (plan dev skb).addr1 (plan dev skb).priority = some (none, s) := by
    rw [hget]
    constructor
    · rintro rfl
      rw [hnone rfl]
    · exact fun heq => (Prod.mk.inj (Option.some.inj heq)).1
  rw [hnumbered, hstream]
  refine ⟨?_, Iff.rfl⟩
  rintro ⟨⟨hno, -⟩, pTS', s₁', hget', -⟩
  rw [hno] at hget'
  cases hget'

/-- A QoS station without a cipher whose threshold is 256. -/
def qosStation : Device Unit where
  xmitHandler := true
  rawTx := false
  ieee8021x := true
  hostEncrypt := true
  dropUnencrypted := false
  hwsecActive := false
  tkipCountermeasures := false
  qosActive := true
  qosSupported := true
  iwMode := .infra
  bssid := fun _ => 2
  fts := 256
  reserveFcs := false
  wmmAcm := 0
  txHeadroom := 0
  crypt := none
  txbAlloc := true
  skbAlloc := fun _ size => some ⟨64, size, le_rfl⟩
  fcs := fun _ => 0

def qosStart : State Unit where
  priv := ()
  seqCtrl := fun _ => 0
  ts := (List.finRange totalTsNum).foldl initLoop2
    (initTx fun _ => ⟨⟨id, id⟩, fun _ => resetTsCommonInfo⟩) .txDir
  txCurSeq := fun _ => 0

/-- An Ethernet frame of 314 bytes, which makes two fragments. -/
def longFrame : EthSkb := ⟨fun _ => 4, 314, 0⟩

theorem qosStart_reachable : TsReachable .infra qosStart.ts := ⟨.before415, _, [], _, rfl, rfl⟩

theorem longFrame_sent : ∃ txb s', rtllibXmitInter qosStation qosStart longFrame = some (.sent txb, s') ∧
    txb.fragments.map Skb.seqCtl = [0x0000, 0x0011] := by
  have hrun : (rtllibXmitInter qosStation qosStart longFrame).bind (fun r => match r.1 with
      | .sent txb => some (txb.fragments.map Skb.seqCtl)
      | _ => none) = some [0x0000, 0x0011] := by decide +kernel
  obtain ⟨⟨o, s'⟩, hr, ho⟩ := Option.bind_eq_some_iff.mp hrun
  cases o with
  | sent txb => exact ⟨txb, s', hr, Option.some.inj ho⟩
  | dropped => cases ho
  | failed => cases ho

theorem one_number_per_msdu_never_two :
    ∃ txb s', rtllibXmitInter qosStation qosStart longFrame = some (.sent txb, s') ∧
      ¬ (Numbered txb.fragments ∧ AdvancesByOne qosStation longFrame qosStart s') := by
  obtain ⟨txb, s', hsent, hfrags⟩ := longFrame_sent
  have hlen : 2 ≤ txb.fragments.length := by simpa using (congrArg List.length hfrags).ge
  have hts : TsReachable qosStation.iwMode qosStart.ts := qosStart_reachable
  exact ⟨txb, s', hsent, (one_number_per_msdu_never hts rfl rfl hsent hlen).1⟩

theorem not_always_one_number :
    ¬ ∀ (dev : Device Unit) (s s' : State Unit) (skb : EthSkb) (txb : Txb),
        TsReachable dev.iwMode s.ts → dev.qosActive = true → 256 ≤ dev.fts →
          (addresses dev skb).1.isMulticast = false →
            rtllibXmitInter dev s skb = some (.sent txb, s') → 2 ≤ txb.fragments.length →
              Numbered txb.fragments ∧ AdvancesByOne dev skb s s' := by
  intro h
  obtain ⟨txb, s', hsent, hfrags⟩ := longFrame_sent
  have hlen : txb.fragments.length = 2 := by simpa using congrArg List.length hfrags
  obtain ⟨⟨seq, hseq⟩, -⟩ := h qosStation qosStart s' longFrame txb qosStart_reachable rfl (by decide) rfl
    hsent hlen.ge
  have hctl : ∀ i (hi : i < txb.fragments.length),
      Rx.seqSeq ((txb.fragments.map Skb.seqCtl).getD i 0) = seq := fun i hi => by
    rw [List.getD_eq_getElem?_getD, List.getElem?_map, List.getElem?_eq_getElem hi]
    exact (hseq i hi).1
  rw [hfrags] at hctl
  exact absurd ((hctl 0 (by omega)).trans (hctl 1 (by omega)).symm) (by decide)

end Rtl8190.Xmit
