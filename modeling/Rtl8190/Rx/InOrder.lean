import Mathlib.Data.List.GetD
import Rtl8190.Rx.Duplicates
import Rtl8190.Rx.Fragments
import Rtl8190.Rx.Ownership
import Rtl8190.Rx.Protection

/-!
# The fragments of an MSDU, in order

What `rtllib_rx` makes of the fragments of one MSDU when no other frame comes between them. They are
those of an ad-hoc network without QoS. The first one opens a buffer, the others go behind it, and
the last one takes the buffer out of the cache.
-/

open Rtl8190.Memory Function

namespace Rtl8190.Rx

variable {ι κ : Type} {cfg : Config κ} {env : Env ι} {s : State ι κ}

/-! ## The headers -/

/-- `frame_ctl` of a data frame of an ad-hoc network without QoS. -/
def dataFrameCtl (protect more : Bool) : BitVec 16 :=
  0x0008 ||| (if protect then 0x4000 else 0) ||| if more then 0x0400 else 0

theorem dataFrameCtl_type (protect more : Bool) :
    fcType (dataFrameCtl protect more) = ftypeData ∧
      carriesData (fcStype (dataFrameCtl protect more)) = true ∧
      rtllibGetHdrlen (dataFrameCtl protect more) = 24 := by
  cases protect <;> cases more <;> decide

theorem dataFrameCtl_flags (protect more : Bool) :
    wep (dataFrameCtl protect more) = protect ∧ moreFrags (dataFrameCtl protect more) = more ∧
      toDs (dataFrameCtl protect more) = false ∧ fromDs (dataFrameCtl protect more) = false := by
  cases protect <;> cases more <;> decide

theorem dataFrameCtl_qos (protect more : Bool) :
    qosHasSeq (dataFrameCtl protect more) = false ∧
      isQosDataFrame (dataFrameCtl protect more) = false ∧
      isLegacyDataFrame (dataFrameCtl protect more) = true := by
  cases protect <;> cases more <;> decide

structure FragmentOf (key : MsduKey) (protect more : Bool) (frag : Nat) (frame : Skb) : Prop where
  frameCtl : frame.frameCtl = dataFrameCtl protect more
  msduKey : frame.msduKey = key
  seqFrag : Rx.seqFrag frame.seqCtl = frag
  len : 24 ≤ frame.len

/-- The frame after its decryption: the header, and `body` behind it. -/
structure Opened (frame skb : Skb) (body : List Byte) : Prop where
  header : ∀ i < 24, skb.byte i = frame.byte i
  len : skb.len = 24 + body.length
  body : ∀ j < body.length, skb.byte (24 + j) = body.getD j 0

/-- The MSDU is for this station, from another one in its ad-hoc network. -/
structure Addressed (env : Env ι) (key : MsduKey) : Prop where
  adhoc : env.iwMode = .adhoc
  toUs : key.dst = env.devAddr
  fromOther : key.src ≠ env.devAddr
  unicast : ¬ key.dst.isMulticast

section Headers

variable {key : MsduKey} {protect more : Bool} {frag : Nat} {frame skb : Skb}

theorem FragmentOf.addr1 (h : FragmentOf key protect more frag frame) : frame.addr1 = key.dst :=
  congrArg MsduKey.dst h.msduKey

theorem FragmentOf.addr2 (h : FragmentOf key protect more frag frame) : frame.addr2 = key.src :=
  congrArg MsduKey.src h.msduKey

theorem FragmentOf.seqSeq (h : FragmentOf key protect more frag frame) :
    Rx.seqSeq frame.seqCtl = key.seq :=
  congrArg MsduKey.seq h.msduKey

theorem FragmentOf.tidClass (h : FragmentOf key protect more frag frame) :
    Rx.tidClass frame = 0 := by
  obtain ⟨hqos, -, -⟩ := dataFrameCtl_qos protect more
  unfold Rx.tidClass
  simp only [h.frameCtl, hqos, Bool.false_eq_true, if_false]

theorem FragmentOf.htcCheck (h : FragmentOf key protect more frag frame) :
    Rx.htcCheck env frame = false := by
  obtain ⟨-, hqos, -⟩ := dataFrameCtl_qos protect more
  unfold Rx.htcCheck
  rw [h.frameCtl, hqos, Bool.and_false, Bool.false_and]

theorem FragmentOf.hdrlen (h : FragmentOf key protect more frag frame) :
    Rx.hdrlen env frame = 24 := by
  obtain ⟨-, -, hlen⟩ := dataFrameCtl_type protect more
  unfold Rx.hdrlen
  rw [h.htcCheck, h.frameCtl, hlen, if_neg Bool.false_ne_true]

theorem FragmentOf.rxStream (h : FragmentOf key protect more frag frame) :
    Rx.rxStream env frame = none := by
  obtain ⟨-, hqos, -⟩ := dataFrameCtl_qos protect more
  unfold Rx.rxStream
  rw [h.frameCtl, hqos, if_neg (by simp)]

theorem FragmentOf.dstSrc (h : FragmentOf key protect more frag frame) :
    Rx.dstSrc frame = (key.dst, key.src) := by
  obtain ⟨-, -, hto, hfrom⟩ := dataFrameCtl_flags protect more
  unfold Rx.dstSrc
  rw [h.frameCtl, hto, hfrom, h.addr1, h.addr2]

theorem FragmentOf.rtllibIsEapolFrame (h : FragmentOf key protect more frag frame) (hdrlen : Nat) :
    Rx.rtllibIsEapolFrame env frame hdrlen = false := by
  obtain ⟨-, -, hto, hfrom⟩ := dataFrameCtl_flags protect more
  unfold Rx.rtllibIsEapolFrame
  simp [h.frameCtl, hto, hfrom]

theorem FragmentOf.forUs (h : FragmentOf key protect more frag frame) (ha : Addressed env key) :
    Rx.forUs env frame = true := by
  have hunicast : env.devAddr.isMulticast = false := by simpa [ha.toUs] using ha.unicast
  unfold Rx.forUs
  rw [ha.adhoc, h.addr1, h.addr2, ha.toUs]
  simp [ha.fromOther, hunicast]

theorem Opened.fragmentOf {body : List Byte} (ho : Opened frame skb body)
    (h : FragmentOf key protect more frag frame) : FragmentOf key protect more frag skb := by
  -- The header is that of the frame.
  have hsame : Fragments.SameHeader frame skb := by
    apply Fragments.sameHeader
    have hlen : Fragments.headerLen frame = 24 := by
      unfold Fragments.headerLen
      rw [h.frameCtl, (dataFrameCtl_type protect more).2.2]
      rfl
    rw [hlen]
    exact ho.header
  constructor
  · rw [hsame.frameCtl, h.frameCtl]
  · rw [hsame.msduKey, h.msduKey]
  · rw [hsame.seqCtl, h.seqFrag]
  · rw [ho.len]
    exact Nat.le_add_right _ _

theorem FragmentOf.rxFilter [DecidableEq ι] (h : FragmentOf key protect more frag frame)
    (ha : Addressed env key)
    (hkey : protect = true → cfg.hostDecrypt = true → selectCrypt cfg env frame ≠ none) :
    Rx.rxFilter cfg env s frame =
      (if (isDuplicatePacket cfg env s frame).1 then .dropped else .pass,
        (isDuplicatePacket cfg env s frame).2) := by
  -- The filter lets the frame through, if it is no duplicate.
  obtain ⟨htype, hcarries, hhdr⟩ := dataFrameCtl_type protect more
  obtain ⟨hwep, -, -, hfrom⟩ := dataFrameCtl_flags protect more
  obtain ⟨-, -, hlegacy⟩ := dataFrameCtl_qos protect more
  rw [← h.frameCtl] at htype hcarries hhdr hwep hfrom hlegacy
  have hlen := h.len
  have hcheck : duplicateCheck cfg env s frame = isDuplicatePacket cfg env s frame := by
    apply duplicateCheck_filter
    unfold usesFilter
    rw [hlegacy, htype]
    simp [ftypeData, ftypeMgmt]
  have hreads : ¬ (cfg.hostDecrypt = true ∧ selectCrypt cfg env frame = none ∧
      wep frame.frameCtl = true) := by
    rintro ⟨hhost, hnone, hwep'⟩
    exact hkey (hwep.symm.trans hwep') hhost hnone
  unfold Rx.rxFilter
  simp only
  rw [if_neg (by omega), hhdr, if_neg (by omega), if_neg (by simp [ha.adhoc]), if_neg hreads,
    if_neg (by omega), hcheck]
  by_cases hdup : (isDuplicatePacket cfg env s frame).1 = true
  · rw [if_pos hdup, if_pos hdup]
  · rw [if_neg hdup, if_neg hdup, if_neg (by rw [htype]; decide), if_neg (by simp [hfrom]),
      if_neg (by simp [hcarries]), if_neg (by simp [h.forUs ha])]

end Headers

/-! ## The duplicate filter -/

/-- The last frame of the transmitter that was let through, if one is recorded, was fragment `frag`
of the MSDU. -/
def Recorded (s : State ι κ) (key : MsduKey) (frag : Nat) : Prop :=
  ∀ entry ∈ ibssEntry s key.src, (entry.last 0).seqNum = key.seq ∧ (entry.last 0).fragNum = frag

section Records

variable {key : MsduKey} {protect more : Bool} {frag : Nat} {frame : Skb}

theorem recorded_of_passed (h : FragmentOf key protect more frag frame) (ha : Addressed env key)
    (hpassed : (isDuplicatePacket cfg env s frame).1 = false) :
    Recorded (isDuplicatePacket cfg env s frame).2 key frag := by
  have hentry := isDuplicatePacket_entry hpassed key.src
  rw [if_pos ⟨ha.adhoc, h.addr2.symm⟩, h.tidClass] at hentry
  intro entry hmem
  rw [hentry] at hmem
  have hlast : entry.last 0 = recordOf env frame := by
    split at hmem
    · obtain rfl := Option.some.inj hmem
      simp only [update_self]
    · obtain ⟨memory, -, rfl⟩ := Option.map_eq_some_iff.mp hmem
      simp only [update_self]
  rw [hlast]
  exact ⟨h.seqSeq, h.seqFrag⟩

variable (cfg) in
theorem Recorded.next (hr : Recorded s key frag) (h : FragmentOf key protect more (frag + 1) frame)
    (ha : Addressed env key) : (isDuplicatePacket cfg env s frame).1 = false := by
  rw [Bool.eq_false_iff, ne_eq, isDuplicatePacket_iff]
  rintro ⟨last, hlast, -, hnext⟩
  unfold consulted at hlast
  rw [ha.adhoc, h.addr2, h.tidClass] at hlast
  obtain ⟨entry, hentry, rfl⟩ := Option.map_eq_some_iff.mp hlast
  rw [(hr entry hentry).2, h.seqFrag] at hnext
  exact hnext rfl

end Records

/-! ## The cache -/

def FragEntry.Foreign (key : MsduKey) (entry : FragEntry) : Prop :=
  entry.skb ≠ none → entry.msduKey ≠ key

def Absent (s : State ι κ) (key : MsduKey) : Prop := ∀ entry ∈ s.fragCache 0, entry.Foreign key

structure EntryAt (s : State ι κ) (key : MsduKey) (frag : Nat) (time : BitVec 64)
    (pre : List FragEntry) (entry : FragEntry) (post : List FragEntry) (p : Nat) : Prop where
  row : s.fragCache 0 = pre ++ entry :: post
  foreign : ∀ e ∈ pre ++ post, e.Foreign key
  skb : entry.skb = some p
  msduKey : entry.msduKey = key
  lastFrag : entry.lastFrag = frag
  firstFragTime : entry.firstFragTime = time

/-- The entry has a buffer of `room` bytes with the header of the first fragment and `body` behind it. -/
structure HeldAt (s : State ι κ) (key : MsduKey) (frag : Nat) (time : BitVec 64) (first : Skb)
    (body : List Byte) (room : Nat) (pre : List FragEntry) (entry : FragEntry)
    (post : List FragEntry) (p : Nat) (b : FragSkb) : Prop
    extends EntryAt s key frag time pre entry post p where
  heap : s.heap p = some b
  room : b.room = room
  opened : Opened first b.skb body

def Holding (s : State ι κ) (key : MsduKey) (frag : Nat) (time : BitVec 64) (first : Skb)
    (body : List Byte) (room : Nat) : Prop :=
  ∃ pre entry post p b, HeldAt s key frag time first body room pre entry post p b

section Cache

variable {key : MsduKey} {now : BitVec 64}

theorem FragEntry.Foreign.not_live {entry : FragEntry} (h : entry.Foreign key) :
    ¬ entry.Live cfg now key := fun hlive => h hlive.cached hlive.key

theorem FragEntry.Foreign.not_hit {entry : FragEntry} {frag : Option Nat} (h : entry.Foreign key) :
    ¬ entry.Hit cfg now key frag := fun hhit => h.not_live hhit.1

theorem FragEntry.Foreign.aged {entry : FragEntry} (h : entry.Foreign key) :
    (entry.aged cfg now).Foreign key := by
  unfold FragEntry.aged
  split
  · exact fun hcached => absurd rfl hcached
  · exact h

theorem EntryAt.not_mem {frag : Nat} {time : BitVec 64} {pre post : List FragEntry}
    {entry : FragEntry} {p : Nat} (hinv : Ownership.Inv s)
    (h : EntryAt s key frag time pre entry post p) :
    p ∉ pre.flatMap (·.stale cfg now) ∧ p ∉ buffers pre ∧ p ∉ buffers post := by
  have hrow : (buffers (s.fragCache 0)).Nodup :=
    (List.nodup_flatMap.mp hinv.nodup).1 0 (List.mem_range.mpr (by decide))
  rw [h.row, buffers_append, buffers_cons, h.skb, Option.toList_some] at hrow
  have hcount := List.nodup_iff_count_le_one.mp hrow p
  have hstale : (buffers (pre.map (·.aged cfg now))).count p +
      (pre.flatMap (·.stale cfg now)).count p = (buffers pre).count p := count_aged now pre p
  simp only [List.count_append, List.count_cons_self, List.singleton_append] at hcount
  refine ⟨?_, ?_, ?_⟩
  · exact List.count_eq_zero.mp (by omega)
  · exact List.count_eq_zero.mp (by omega)
  · exact List.count_eq_zero.mp (by omega)

variable {frag : Nat} {time : BitVec 64} {first frame skb : Skb} {body body' : List Byte}
  {room p : Nat} {pre post : List FragEntry} {entry : FragEntry} {b : FragSkb} {protect more : Bool}
  {r : List Nat × List FragEntry × Option (Nat × Nat)}

theorem EntryAt.finds (h : EntryAt s key frag time pre entry post p)
    (hyoung : timeAfter now (time + 2 * cfg.hz) = false) {f : Option Nat}
    (hf : ∀ n ∈ f, n = frag + 1) (hr : Finds cfg now key f (s.fragCache 0) r) :
    r = (pre.flatMap (·.stale cfg now), pre.map (·.aged cfg now) ++ entry :: post,
      some (pre.length, p)) := by
  -- The search stops at the entry.
  have hhit : entry.Hit cfg now key f := by
    refine ⟨⟨by simp [h.skb], ?_, h.msduKey⟩, fun n hn => by rw [hf n hn, h.lastFrag]⟩
    unfold FragEntry.expired
    rw [h.firstFragTime, hyoung]
  cases hr with
  | @hit pre' post' entry' q hfirst hskb =>
    rcases split_cases (h.row.symm.trans hfirst.row) with ⟨hin, -⟩ | ⟨rfl, rfl, rfl⟩ | ⟨hin, -⟩
    · exact absurd hhit (hfirst.before entry hin)
    · obtain rfl := Option.some.inj (hskb.symm.trans h.skb)
      rfl
    · exact absurd hfirst.hit (h.foreign entry' (List.mem_append_left _ hin)).not_hit
  | miss no => exact absurd hhit (no entry (by simp [h.row]))

theorem Absent.finds (h : Absent s key) {f : Option Nat}
    (hr : Finds cfg now key f (s.fragCache 0) r) (g : FragEntry → FragEntry) :
    r.2.2 = none ∧ ∀ e ∈ touch r g, e.Foreign key := by
  cases hr with
  | @hit pre' post' entry' q hfirst hskb =>
    exact absurd hfirst.hit (h entry' (by simp [hfirst.row])).not_hit
  | miss no =>
    refine ⟨rfl, ?_⟩
    intro e he
    obtain ⟨e', he', rfl⟩ := List.mem_map.mp (show e ∈ (s.fragCache 0).map (·.aged cfg now) from he)
    exact (h e' he').aged

/-- With the fragment `frag + 1` the entry is found, and waits for the next one. -/
theorem HeldAt.get (h : HeldAt s key frag time first body room pre entry post p b)
    (hinv : Ownership.Inv s) (hskb : FragmentOf key protect more (frag + 1) skb)
    (hyoung : timeAfter env.jiffies (time + 2 * cfg.hz) = false) :
    ∃ s₁, rtllibFragCacheGet cfg env s skb = (some p, s₁) ∧
      HeldAt s₁ key (frag + 1) time first body room (pre.map (·.aged cfg env.jiffies))
        { entry with lastFrag := frag + 1 } post p b := by
  have hgets : Gets cfg env s skb (rtllibFragCacheGet cfg env s skb).1
      (rtllibFragCacheGet cfg env s skb).2 (getOps cfg env s skb) := get_gets
  have hne : seqFrag skb.seqCtl ≠ 0 := by
    rw [hskb.seqFrag]
    exact Nat.succ_ne_zero frag
  have hstale : p ∉ pre.flatMap (·.stale cfg env.jiffies) := (h.toEntryAt.not_mem hinv).1
  generalize rtllibFragCacheGet cfg env s skb = g at hgets ⊢
  obtain ⟨o, s₁⟩ := g
  generalize getOps cfg env s skb = ops at hgets
  dsimp only at hgets
  cases hgets with
  | noMemory hfirst => exact absurd hfirst hne
  | new hfirst => exact absurd hfirst hne
  | @search _ r later finds rewritten =>
    rw [hskb.tidClass, hskb.msduKey, hskb.seqFrag] at finds
    have hr := h.toEntryAt.finds hyoung (by simp) finds
    have hrow : s₁.fragCache 0 = pre.map (·.aged cfg env.jiffies) ++
        { entry with lastFrag := frag + 1 } :: post := by
      rw [rewritten.fragCache, hskb.tidClass, update_self, hr, touch_hit, hskb.seqFrag]
    refine ⟨s₁, by rw [hr]; rfl, ?_⟩
    exact
      { row := hrow
        foreign := by
          intro e he
          rcases List.mem_append.mp he with hpre | hpost
          · obtain ⟨e', he', rfl⟩ := List.mem_map.mp hpre
            exact (h.foreign e' (List.mem_append_left _ he')).aged
          · exact h.foreign e (List.mem_append_right _ hpost)
        skb := h.skb
        msduKey := h.msduKey
        lastFrag := rfl
        firstFragTime := h.firstFragTime
        heap := by
          rw [rewritten.heap, hr, freeAll_heap hstale, h.heap]
        room := h.room
        opened := h.opened }

theorem EntryAt.invalidate (h : EntryAt s key frag time pre entry post p)
    (hskb : FragmentOf key protect more frag skb) :
    Absent (rtllibFragCacheInvalidate cfg s now skb) key := by
  -- The entry is forgotten, or has expired.
  have hrewritten : Rewritten s (rtllibFragCacheInvalidate cfg s now skb) _ _ _ :=
    invalidate_rewritten
  have hfinds : Finds cfg now skb.msduKey none (s.fragCache (tidClass skb))
      (fragCacheLookup cfg s now skb none) := lookup_finds none
  rw [hskb.tidClass, hskb.msduKey] at hfinds
  have hforgotten (e : FragEntry) : ({ e with skb := none } : FragEntry).Foreign key :=
    fun hcached => absurd rfl hcached
  intro e he
  rw [hrewritten.fragCache, hskb.tidClass, update_self] at he
  cases hyoung : timeAfter now (time + 2 * cfg.hz) with
  | false =>
    rw [h.finds hyoung (by simp) hfinds, touch_hit] at he
    rcases List.mem_append.mp he with hpre | hrest
    · obtain ⟨e', he', rfl⟩ := List.mem_map.mp hpre
      exact (h.foreign e' (List.mem_append_left _ he')).aged
    · rcases List.mem_cons.mp hrest with rfl | hpost
      · exact hforgotten entry
      · exact h.foreign e (List.mem_append_right _ hpost)
  | true =>
    have haged : entry.aged cfg now = { entry with skb := none } := by
      unfold FragEntry.aged FragEntry.expired
      rw [h.firstFragTime, hyoung, if_pos rfl]
    generalize fragCacheLookup cfg s now skb none = r at hfinds he
    cases hfinds with
    | @hit pre' post' entry' q hfirst hskb' =>
      rcases split_cases (h.row.symm.trans hfirst.row) with ⟨-, hin⟩ | ⟨rfl, rfl, rfl⟩ | ⟨hin, -⟩
      · exact absurd hfirst.hit (h.foreign entry' (List.mem_append_right _ hin)).not_hit
      · have hexpired : entry'.expired cfg now = true := by
          unfold FragEntry.expired
          rw [h.firstFragTime, hyoung]
        rw [hfirst.hit.1.young] at hexpired
        cases hexpired
      · exact absurd hfirst.hit (h.foreign entry' (List.mem_append_left _ hin)).not_hit
    | miss no =>
      obtain ⟨e', he', rfl⟩ := List.mem_map.mp
        (show e ∈ (s.fragCache 0).map (·.aged cfg now) from he)
      rw [h.row] at he'
      rcases List.mem_append.mp he' with hpre | hrest
      · exact (h.foreign e' (List.mem_append_left _ hpre)).aged
      · rcases List.mem_cons.mp hrest with rfl | hpost
        · rw [haged]
          exact hforgotten e'
        · exact (h.foreign e' (List.mem_append_right _ hpost)).aged

/-! ### Reassembly -/

theorem HeldAt.deref (h : HeldAt s key frag time first body room pre entry post p b) :
    s.deref env p = b := by
  unfold State.deref
  rw [h.heap]
  rfl

theorem HeldAt.write (h : HeldAt s key frag time first body room pre entry post p b) {joined : Skb}
    (hopened : Opened first joined body') :
    HeldAt (s.write p joined) key frag time first body' room pre entry post p
      { b with skb := joined } :=
  { toEntryAt := ⟨h.row, h.foreign, h.skb, h.msduKey, h.lastFrag, h.firstFragTime⟩
    heap := by
      unfold State.write
      rw [h.heap]
      exact update_self p _ _
    room := h.room
    opened := hopened }

theorem Opened.join {whole : Skb} (hw : Opened first whole body) (hs : Opened frame skb body') :
    Opened first (whole.put (skb.len - 24) fun i => skb.mem (24 + i)) (body ++ body') := by
  -- The body of a fragment goes behind those before it.
  have hwlen := hw.len
  have hslen := hs.len
  have hadded : skb.len - 24 = body'.length := by omega
  rw [hadded]
  constructor
  · intro i hi
    rw [← hw.header i hi]
    refine congrArg Octet.val (if_neg ?_)
    omega
  · change whole.len + body'.length = _
    rw [hwlen, List.length_append]
    omega
  · intro j hj
    rw [List.length_append] at hj
    rcases Nat.lt_or_ge j body.length with hin | hbehind
    · rw [List.getD_append _ _ _ _ hin, ← hw.body j hin]
      refine congrArg Octet.val (if_neg ?_)
      omega
    · rw [List.getD_append_right _ _ _ _ hbehind, ← hs.body _ (by omega)]
      refine (congrArg Octet.val (if_pos ?_)).trans ?_
      · omega
      · unfold Skb.byte
        congr 2
        omega

theorem rxReassemble_of_get {s₁ : State ι κ}
    (hfragment : seqFrag frame.seqCtl ≠ 0 ∨ moreFrags frame.frameCtl = true)
    (hget : rtllibFragCacheGet cfg env s skb = (some p, s₁)) (hlong : hdrlen env frame ≤ skb.len) :
    rxReassemble cfg env s frame skb =
      if Rx.Fits env frame skb (s₁.deref env p) then
        if moreFrags frame.frameCtl then
          (.exit, s₁.write p (joined env frame skb (s₁.deref env p)))
        else
          (.msdu (joined env frame skb (s₁.deref env p)) (some p),
            rtllibFragCacheInvalidate cfg (s₁.write p (joined env frame skb (s₁.deref env p)))
              env.jiffiesLater (joined env frame skb (s₁.deref env p)))
      else (.dropped, rtllibFragCacheInvalidate cfg s₁ env.jiffiesLater skb) := by
  -- A fragment for which there is a buffer.
  have hshort : ¬ (seqFrag frame.seqCtl ≠ 0 ∧ skb.len < hdrlen env frame) := by
    rintro ⟨-, hlt⟩
    omega
  unfold rxReassemble
  simp only
  rw [if_pos hfragment, hget]
  simp only
  rw [if_neg hshort]
  by_cases hfits : Rx.Fits env frame skb (s₁.deref env p)
  · rw [if_pos hfits]
    exact if_neg (Nat.not_lt.mpr hfits)
  · rw [if_neg hfits]
    exact if_pos (Nat.lt_of_not_le hfits)

variable (cfg) in
theorem HeldAt.reassemble (h : HeldAt s key frag time first body room pre entry post p b)
    (hinv : Ownership.Inv s) (hframe : FragmentOf key protect more (frag + 1) frame)
    (hopened : Opened frame skb body')
    (hyoung : timeAfter env.jiffies (time + 2 * cfg.hz) = false) :
    if 24 + (body ++ body').length ≤ room then
      if more then (rxReassemble cfg env s frame skb).1 = .exit ∧
        Holding (rxReassemble cfg env s frame skb).2 key (frag + 1) time first (body ++ body') room
      else ∃ msdu, (rxReassemble cfg env s frame skb).1 = .msdu msdu (some p) ∧
        Opened first msdu (body ++ body')
    else (rxReassemble cfg env s frame skb).1 = .dropped ∧
      Absent (rxReassemble cfg env s frame skb).2 key := by
  -- A later fragment of an MSDU that is in the cache.
  have hskb := hopened.fragmentOf hframe
  obtain ⟨s₁, hget, hheld⟩ := h.get hinv hskb hyoung
  have hne : seqFrag frame.seqCtl ≠ 0 := by
    rw [hframe.seqFrag]
    exact Nat.succ_ne_zero frag
  have hmore : moreFrags frame.frameCtl = more := by
    rw [hframe.frameCtl]
    exact (dataFrameCtl_flags protect more).2.1
  have hfrom : copyFrom env frame = 24 := by
    unfold copyFrom
    rw [if_pos hne, hframe.hdrlen]
  have hlen := hopened.len
  have hblen := hheld.opened.len
  have hroom := hheld.room
  have hjoined := hheld.opened.join hopened
  have hfits : Rx.Fits env frame skb (s₁.deref env p) ↔ 24 + (body ++ body').length ≤ room := by
    unfold Rx.Fits
    rw [hfrom, hheld.deref, List.length_append]
    omega
  have hwhole : joined env frame skb (s₁.deref env p) =
      b.skb.put (skb.len - 24) fun i => skb.mem (24 + i) := by
    unfold joined
    rw [hfrom, hheld.deref]
  rw [rxReassemble_of_get (.inl hne) hget (by rw [hframe.hdrlen]; omega), hwhole, hmore]
  by_cases hroom' : 24 + (body ++ body').length ≤ room
  · rw [if_pos hroom', if_pos (hfits.mpr hroom')]
    cases more with
    | true => exact ⟨rfl, _, _, _, _, _, hheld.write hjoined⟩
    | false => exact ⟨_, rfl, hjoined⟩
  · rw [if_neg hroom', if_neg (mt hfits.mp hroom')]
    exact ⟨rfl, hheld.toEntryAt.invalidate hskb⟩

variable (cfg env) in
theorem Absent.reassemble (h : Absent s key) (hframe : FragmentOf key protect more (frag + 1) frame)
    (hopened : Opened frame skb body') :
    (rxReassemble cfg env s frame skb).1 = .dropped ∧
      Absent (rxReassemble cfg env s frame skb).2 key := by
  -- A later fragment of an MSDU that is not in the cache.
  have hskb := hopened.fragmentOf hframe
  have hne : seqFrag frame.seqCtl ≠ 0 := by
    rw [hframe.seqFrag]
    exact Nat.succ_ne_zero frag
  have hne' : seqFrag skb.seqCtl ≠ 0 := by
    rw [hskb.seqFrag]
    exact Nat.succ_ne_zero frag
  have hgets : Gets cfg env s skb (rtllibFragCacheGet cfg env s skb).1
      (rtllibFragCacheGet cfg env s skb).2 (getOps cfg env s skb) := get_gets
  unfold rxReassemble
  simp only
  rw [if_pos (.inl hne)]
  generalize rtllibFragCacheGet cfg env s skb = g at hgets ⊢
  obtain ⟨o, s₁⟩ := g
  generalize getOps cfg env s skb = ops at hgets
  dsimp only at hgets
  cases hgets with
  | noMemory hfirst => exact absurd hfirst hne'
  | new hfirst => exact absurd hfirst hne'
  | @search _ r later finds rewritten =>
    rw [hskb.tidClass, hskb.msduKey] at finds
    obtain ⟨hnone, hforeign⟩ := h.finds finds fun entry =>
      { entry with lastFrag := seqFrag skb.seqCtl }
    rw [hnone]
    refine ⟨rfl, fun e he => hforeign e ?_⟩
    have hcache : s₁.fragCache 0 = _ :=
      (congrFun rewritten.fragCache 0).trans (by rw [hskb.tidClass, update_self])
    rw [← hcache]
    exact he

variable (cfg) in
theorem Absent.get (h : Absent s key) (hinv : Ownership.Inv s)
    (hskb : FragmentOf key protect more 0 skb) {room : Nat} (halloc : env.fragSkbRoom = some room) :
    ∃ s₁ pre post, rtllibFragCacheGet cfg env s skb = (some s.nextSkb, s₁) ∧
      EntryAt s₁ key 0 env.jiffies pre (newEntry env s skb) post s.nextSkb ∧
      s₁.heap s.nextSkb = some ⟨⟨env.garbage.skb.mem, 0⟩, room⟩ := by
  -- The entry of the first fragment takes the place of another one.
  have hgets : Gets cfg env s skb (rtllibFragCacheGet cfg env s skb).1
      (rtllibFragCacheGet cfg env s skb).2 (getOps cfg env s skb) := get_gets
  have hidx : s.fragNextIdx 0 < (s.fragCache 0).length := by
    rw [hinv.cacheOk.row 0 (by decide)]
    exact hinv.cacheOk.next 0 (by decide)
  generalize rtllibFragCacheGet cfg env s skb = g at hgets ⊢
  obtain ⟨o, s₁⟩ := g
  generalize getOps cfg env s skb = ops at hgets
  dsimp only at hgets
  cases hgets with
  | noMemory _ hnone =>
    rw [halloc] at hnone
    cases hnone
  | search later => exact absurd hskb.seqFrag later
  | @new _ room' _ alloc fragCache fragNextIdx heap =>
    obtain rfl := Option.some.inj (halloc.symm.trans alloc)
    refine ⟨s₁, (s.fragCache 0).take (s.fragNextIdx 0), (s.fragCache 0).drop (s.fragNextIdx 0 + 1),
      rfl, ⟨?_, ?_, rfl, hskb.msduKey, hskb.seqFrag, rfl⟩, ?_⟩
    · rw [fragCache, hskb.tidClass, update_self, List.set_eq_take_append_cons_drop, if_pos hidx]
    · intro e he
      rcases List.mem_append.mp he with htake | hdrop
      · exact h e (List.mem_of_mem_take htake)
      · exact h e (List.mem_of_mem_drop hdrop)
    · rw [heap, update_self]

variable (cfg) in
theorem Absent.reassemble_first (h : Absent s key) (hinv : Ownership.Inv s)
    (hframe : FragmentOf key protect true 0 frame) (hopened : Opened frame skb body)
    {room : Nat} (halloc : env.fragSkbRoom = some room) :
    if 24 + body.length ≤ room then
      (rxReassemble cfg env s frame skb).1 = .exit ∧
        Holding (rxReassemble cfg env s frame skb).2 key 0 env.jiffies frame body room
    else (rxReassemble cfg env s frame skb).1 = .dropped ∧
      Absent (rxReassemble cfg env s frame skb).2 key := by
  -- The first one of several fragments.
  have hskb := hopened.fragmentOf hframe
  obtain ⟨s₁, pre, post, hget, hentry, hheap⟩ := h.get cfg hinv hskb halloc
  have hmore : moreFrags frame.frameCtl = true := by
    rw [hframe.frameCtl]
    exact (dataFrameCtl_flags protect true).2.1
  have hfrom : copyFrom env frame = 0 := by
    unfold copyFrom
    rw [if_neg (not_not.mpr hframe.seqFrag)]
  have hderef : s₁.deref env s.nextSkb = ⟨⟨env.garbage.skb.mem, 0⟩, room⟩ := by
    unfold State.deref
    rw [hheap]
    rfl
  have hlen := hopened.len
  have hfits : Rx.Fits env frame skb (s₁.deref env s.nextSkb) ↔ 24 + body.length ≤ room := by
    unfold Rx.Fits
    rw [hfrom, hderef, hlen, Nat.sub_zero, Nat.zero_add]
  have hcopied {i : Nat} (hi : i < skb.len) :
      (joined env frame skb (s₁.deref env s.nextSkb)).byte i = skb.byte i := by
    unfold joined
    rw [hfrom, hderef]
    have hin : 0 ≤ i ∧ i < 0 + (skb.len - 0) := by omega
    refine (congrArg Octet.val (if_pos hin)).trans ?_
    unfold Skb.byte
    rw [Nat.zero_add]
    rfl
  have hwhole : Opened frame (joined env frame skb (s₁.deref env s.nextSkb)) body := by
    constructor
    · intro i hi
      rw [hcopied (by omega), hopened.header i hi]
    · unfold joined
      rw [hfrom, hderef]
      exact (Nat.zero_add _).trans hlen
    · intro j hj
      rw [hcopied (by omega), hopened.body j hj]
  have hheld : HeldAt (s₁.write s.nextSkb (joined env frame skb (s₁.deref env s.nextSkb))) key 0
      env.jiffies frame body room pre (newEntry env s skb) post s.nextSkb
      ⟨joined env frame skb (s₁.deref env s.nextSkb), room⟩ :=
    { toEntryAt := ⟨hentry.row, hentry.foreign, hentry.skb, hentry.msduKey, hentry.lastFrag,
        hentry.firstFragTime⟩
      heap := by
        unfold State.write
        rw [hheap]
        exact update_self s.nextSkb _ _
      room := rfl
      opened := hwhole }
  rw [rxReassemble_of_get (.inr hmore) hget (by rw [hframe.hdrlen]; omega), if_pos hmore]
  by_cases hroom : 24 + body.length ≤ room
  · rw [if_pos hroom, if_pos (hfits.mpr hroom)]
    exact ⟨rfl, _, _, _, _, _, hheld⟩
  · rw [if_neg hroom, if_neg (mt hfits.mp hroom)]
    exact ⟨rfl, hentry.invalidate hskb⟩

end Cache

/-! ## One call -/

/-- What the calls have in common: the state after the last one, and `s₀` that before the MSDU. -/
structure Idle (s₀ s : State ι κ) (key : MsduKey) (frag : Nat) (priv : Fin 4 → κ) : Prop where
  inv : Ownership.Inv s
  recorded : Recorded s key frag
  quiet : Quiet s₀ s
  priv : s.priv = priv

/-- How far the MSDU has come: it is in the cache, unless it has become too long for its buffer. -/
structure Stage (s₀ s : State ι κ) (key : MsduKey) (frag : Nat) (priv : Fin 4 → κ)
    (time : BitVec 64) (first : Skb) (body : List Byte) (room : Nat) : Prop where
  idle : Idle s₀ s key frag priv
  cached : if 24 + body.length ≤ room then Holding s key frag time first body room else Absent s key

/-- `decrypt_mpdu` makes `skb` of the frame, and the keys are then `priv`. -/
structure Decrypts (cfg : Config κ) (env : Env ι) (s : State ι κ) (frame skb : Skb) (keyidx : Nat)
    (priv : Fin 4 → κ) (body : List Byte) : Prop where
  eq : ∀ s', s'.priv = s.priv →
    rxDecrypt cfg env s' frame = (some (keyidx, skb), { s' with priv := priv })
  opened : Opened frame skb body

def afterReassembly [DecidableEq ι] (cfg : Config κ) (env : Env ι) (s : State ι κ)
    (frame msdu : Skb) (keyidx : Nat) (p : Option Nat) : Bool × State ι κ :=
  let m := rxDecryptMsdu cfg env s frame msdu keyidx
  match m.1 with
  | none => (false, m.2)
  | some skb => rxIndicate cfg env m.2 frame skb p

section Calls

variable {key : MsduKey} {frag keyidx room : Nat} {time : BitVec 64} {first frame skb : Skb}
  {body body' : List Byte} {protect more : Bool} {s₀ : State ι κ} {priv : Fin 4 → κ}

theorem freeAll_priv (ps : List Nat) : (s.freeAll ps).priv = s.priv := by
  induction ps generalizing s with
  | nil => rfl
  | cons p ps ih => exact ih

theorem rxReassemble_priv (frame skb : Skb) :
    (rxReassemble cfg env s frame skb).2.priv = s.priv := by
  have hget : (rtllibFragCacheGet cfg env s skb).2.priv = s.priv := by
    unfold rtllibFragCacheGet fragCacheNew
    simp only
    split
    · split
      · rfl
      · exact freeAll_priv _
    · exact freeAll_priv _
  have hinvalidate (s' : State ι κ) (now : BitVec 64) (hdr : Skb) :
      (rtllibFragCacheInvalidate cfg s' now hdr).priv = s'.priv := freeAll_priv _
  unfold rxReassemble
  simp only
  split
  · split
    · exact hget
    split
    · exact hget
    split
    · exact (hinvalidate _ _ _).trans hget
    split
    · exact hget
    · exact (hinvalidate _ _ _).trans hget
  · rfl

theorem rtllibRx_fragment [DecidableEq ι] (hframe : FragmentOf key protect more frag frame)
    (ha : Addressed env key)
    (hkey : protect = true → cfg.hostDecrypt = true → selectCrypt cfg env frame ≠ none)
    (hfresh : (isDuplicatePacket cfg env s frame).1 = false)
    (hd : Decrypts cfg env s frame skb keyidx priv body) :
    rtllibRx cfg env s frame =
      let r := rxReassemble cfg env
        { (isDuplicatePacket cfg env s frame).2 with priv := priv } frame skb
      match r.1 with
      | .dropped => (false, r.2)
      | .exit => (true, r.2)
      | .msdu msdu p => afterReassembly cfg env r.2 frame msdu keyidx p := by
  have hpriv : (isDuplicatePacket cfg env s frame).2.priv = s.priv :=
    (isDuplicatePacket_same frame).priv
  unfold rtllibRx
  rw [hframe.rxFilter ha hkey, hfresh, if_neg Bool.false_ne_true]
  simp only [hd.eq _ hpriv]
  rfl

theorem Holding.same {s' : State ι κ} (h : Holding s key frag time first body room)
    (hcache : s'.fragCache = s.fragCache) (hheap : s'.heap = s.heap) :
    Holding s' key frag time first body room := by
  obtain ⟨pre, entry, post, p, b, h⟩ := h
  exact ⟨pre, entry, post, p, b,
    { toEntryAt := ⟨hcache ▸ h.row, h.foreign, h.skb, h.msduKey, h.lastFrag, h.firstFragTime⟩
      heap := by rw [hheap, h.heap]
      room := h.room
      opened := h.opened }⟩

theorem Absent.same {s' : State ι κ} (h : Absent s key) (hcache : s'.fragCache = s.fragCache) :
    Absent s' key := by
  unfold Absent
  rwa [hcache]

theorem Recorded.same {s' : State ι κ} (h : Recorded s key frag) (hsame : SameRecords s s') :
    Recorded s' key frag := by
  unfold Recorded ibssEntry at h ⊢
  rwa [hsame.2]

theorem checked [DecidableEq ι] (hinv : Ownership.Inv s) (hquiet : Quiet s₀ s)
    (hframe : FragmentOf key protect more frag frame) (ha : Addressed env key)
    (hfresh : (isDuplicatePacket cfg env s frame).1 = false) (priv : Fin 4 → κ) :
    ∃ s₁, { (isDuplicatePacket cfg env s frame).2 with priv := priv } = s₁ ∧
      Idle s₀ s₁ key frag priv ∧ s₁.fragCache = s.fragCache ∧ s₁.heap = s.heap := by
  have hsame : SameCache s (isDuplicatePacket cfg env s frame).2 := isDuplicatePacket_same frame
  have hrows : Ownership.SameRows s
      { (isDuplicatePacket cfg env s frame).2 with priv := priv } := by
    have h : Ownership.SameRows s (isDuplicatePacket cfg env s frame).2 :=
      Ownership.isDuplicatePacket_rows frame
    exact ⟨h.fragCache, h.fragNextIdx, h.nextSkb, h.oops⟩
  exact ⟨_, rfl, ⟨hinv.rows hrows, (recorded_of_passed hframe ha hfresh).same ⟨rfl, rfl⟩,
    hquiet.trans ⟨hsame.reorder, hsame.delivered⟩, rfl⟩, hsame.fragCache, hsame.heap⟩

variable (cfg env) in
theorem Idle.reassembled (h : Idle s₀ s key frag priv) (frame skb : Skb) :
    Idle s₀ (rxReassemble cfg env s frame skb).2 key frag priv where
  inv := h.inv.reassembles rxReassemble_reassembles
  recorded := h.recorded.same (rxReassemble_records frame)
  quiet := h.quiet.trans (rxReassemble_quiet frame skb)
  priv := (rxReassemble_priv frame skb).trans h.priv

theorem stage_first [DecidableEq ι] (hinv : Ownership.Inv s) (habsent : Absent s key)
    (hframe : FragmentOf key protect true 0 frame) (ha : Addressed env key)
    (hkey : protect = true → cfg.hostDecrypt = true → selectCrypt cfg env frame ≠ none)
    (hfresh : (isDuplicatePacket cfg env s frame).1 = false)
    (hd : Decrypts cfg env s frame skb keyidx priv body) (halloc : env.fragSkbRoom = some room) :
    Stage s (rtllibRx cfg env s frame).2 key 0 priv env.jiffies frame body room := by
  -- The first one of several fragments opens a buffer.
  obtain ⟨s₁, hs₁, hidle, hcache, hheap⟩ := checked hinv (.refl s) hframe ha hfresh priv
  have hr := (habsent.same hcache).reassemble_first cfg hidle.inv hframe
    hd.opened halloc
  have hafter := hidle.reassembled cfg env frame skb
  rw [rtllibRx_fragment hframe ha hkey hfresh hd, hs₁]
  simp only
  by_cases hroom : 24 + body.length ≤ room
  · rw [if_pos hroom] at hr
    rw [hr.1]
    exact ⟨hafter, by rw [if_pos hroom]; exact hr.2⟩
  · rw [if_neg hroom] at hr
    rw [hr.1]
    exact ⟨hafter, by rw [if_neg hroom]; exact hr.2⟩

theorem Stage.next [DecidableEq ι] {priv₁ : Fin 4 → κ}
    (h : Stage s₀ s key frag priv₁ time first body room)
    (hframe : FragmentOf key protect true (frag + 1) frame) (ha : Addressed env key)
    (hkey : protect = true → cfg.hostDecrypt = true → selectCrypt cfg env frame ≠ none)
    (hd : Decrypts cfg env s frame skb keyidx priv body')
    (hyoung : timeAfter env.jiffies (time + 2 * cfg.hz) = false) :
    Stage s₀ (rtllibRx cfg env s frame).2 key (frag + 1) priv time first (body ++ body') room := by
  -- A later fragment that is not the last one.
  have hfresh := h.idle.recorded.next cfg hframe ha
  obtain ⟨s₁, hs₁, hidle, hcache, hheap⟩ := checked h.idle.inv h.idle.quiet hframe ha hfresh priv
  have hafter := hidle.reassembled cfg env frame skb
  have hcached := h.cached
  rw [rtllibRx_fragment hframe ha hkey hfresh hd, hs₁]
  simp only
  by_cases hroom : 24 + body.length ≤ room
  · rw [if_pos hroom] at hcached
    obtain ⟨pre, entry, post, p, b, hheld⟩ := hcached.same hcache hheap
    have hr := hheld.reassemble cfg hidle.inv hframe hd.opened hyoung
    rw [if_pos rfl] at hr
    by_cases hroom' : 24 + (body ++ body').length ≤ room
    · rw [if_pos hroom'] at hr
      rw [hr.1]
      exact ⟨hafter, by rw [if_pos hroom']; exact hr.2⟩
    · rw [if_neg hroom'] at hr
      rw [hr.1]
      exact ⟨hafter, by rw [if_neg hroom']; exact hr.2⟩
  · rw [if_neg hroom] at hcached
    have hr := (hcached.same hcache).reassemble cfg env hframe hd.opened
    have hroom' : ¬ 24 + (body ++ body').length ≤ room := by
      rw [List.length_append]
      omega
    rw [hr.1]
    exact ⟨hafter, by rw [if_neg hroom']; exact hr.2⟩

theorem Stage.last [DecidableEq ι] {priv₁ : Fin 4 → κ}
    (h : Stage s₀ s key frag priv₁ time first body room)
    (hframe : FragmentOf key protect false (frag + 1) frame) (ha : Addressed env key)
    (hkey : protect = true → cfg.hostDecrypt = true → selectCrypt cfg env frame ≠ none)
    (hd : Decrypts cfg env s frame skb keyidx priv body')
    (hyoung : timeAfter env.jiffies (time + 2 * cfg.hz) = false) :
    if 24 + (body ++ body').length ≤ room then
      ∃ s₂ msdu p, Idle s₀ s₂ key (frag + 1) priv ∧ Opened first msdu (body ++ body') ∧
        rtllibRx cfg env s frame = afterReassembly cfg env s₂ frame msdu keyidx p
    else Quiet s₀ (rtllibRx cfg env s frame).2 := by
  -- The last one takes the buffer out of the cache.
  have hfresh := h.idle.recorded.next cfg hframe ha
  obtain ⟨s₁, hs₁, hidle, hcache, hheap⟩ := checked h.idle.inv h.idle.quiet hframe ha hfresh priv
  have hafter := hidle.reassembled cfg env frame skb
  have hcached := h.cached
  rw [rtllibRx_fragment hframe ha hkey hfresh hd, hs₁]
  simp only
  by_cases hroom : 24 + body.length ≤ room
  · rw [if_pos hroom] at hcached
    obtain ⟨pre, entry, post, p, b, hheld⟩ := hcached.same hcache hheap
    have hr := hheld.reassemble cfg hidle.inv hframe hd.opened hyoung
    rw [if_neg Bool.false_ne_true] at hr
    by_cases hroom' : 24 + (body ++ body').length ≤ room
    · rw [if_pos hroom'] at hr
      obtain ⟨msdu, hmsdu, hopened⟩ := hr
      rw [if_pos hroom', hmsdu]
      exact ⟨_, msdu, some p, hafter, hopened, rfl⟩
    · rw [if_neg hroom'] at hr
      rw [if_neg hroom', hr.1]
      exact hafter.quiet
  · rw [if_neg hroom] at hcached
    have hr := (hcached.same hcache).reassemble cfg env hframe hd.opened
    have hroom' : ¬ 24 + (body ++ body').length ≤ room := by
      rw [List.length_append]
      omega
    rw [if_neg hroom', hr.1]
    exact hafter.quiet

theorem whole_only [DecidableEq ι] (hinv : Ownership.Inv s)
    (hframe : FragmentOf key protect false 0 frame) (ha : Addressed env key)
    (hkey : protect = true → cfg.hostDecrypt = true → selectCrypt cfg env frame ≠ none)
    (hfresh : (isDuplicatePacket cfg env s frame).1 = false)
    (hd : Decrypts cfg env s frame skb keyidx priv body) :
    ∃ s₂, Idle s s₂ key 0 priv ∧
      rtllibRx cfg env s frame = afterReassembly cfg env s₂ frame skb keyidx none := by
  obtain ⟨s₁, hs₁, hidle, -, -⟩ := checked hinv (.refl s) hframe ha hfresh priv
  have hmore : moreFrags frame.frameCtl = false := by
    rw [hframe.frameCtl]
    exact (dataFrameCtl_flags protect false).2.1
  have hwhole : rxReassemble cfg env s₁ frame skb = (.msdu skb none, s₁) := by
    unfold rxReassemble
    exact if_neg (by simp [hframe.seqFrag, hmore])
  rw [rtllibRx_fragment hframe ha hkey hfresh hd, hs₁, hwhole]
  exact ⟨s₁, hidle, rfl⟩

/-! ## Indication -/

variable (cfg env s) in
theorem rxIndicate_whole [DecidableEq ι] {msdu : Skb} {protect' more' : Bool} {frag' : Nat}
    (hframe : FragmentOf key protect more frag frame)
    (hmsdu : FragmentOf key protect' more' frag' msdu) (hlong : 28 < msdu.len) (p : Option Nat) :
    if unencrypted cfg env frame = false ∧ env.rxbAlloc = true then
      (rxIndicate cfg env s frame msdu p).2.reorder = s.reorder ∧
        (rxIndicate cfg env s frame msdu p).2.delivered = s.delivered ++
          [⟨[msdu.pull (24 + if env.bContainHTC then 4 else 0)], key.src, key.dst, false⟩]
    else Quiet s (rxIndicate cfg env s frame msdu p).2 := by
  -- The whole frame is refused, or its body goes to the stack at once.
  have hkeep (s : State ι κ) (skb : Skb) : Quiet s (p.elim s fun p => s.write p skb) := by
    cases p <;> exact ⟨rfl, rfl⟩
  have hfree (s : State ι κ) : Quiet s (p.elim s s.free) := by
    cases p <;> exact ⟨rfl, rfl⟩
  have hllc : llcOffset msdu env.bContainHTC = 24 + if env.bContainHTC then 4 else 0 := by
    unfold llcOffset
    rw [hmsdu.frameCtl, (dataFrameCtl_qos protect' more').1]
    rfl
  have hparse : parseSubframe msdu env.bContainHTC =
      (msdu.pull (24 + if env.bContainHTC then 4 else 0),
        some [msdu.pull (24 + if env.bContainHTC then 4 else 0)]) := by
    have hno : ¬ (qosHasSeq msdu.frameCtl = true ∧ (msdu.byte 24).getLsbD 7 = true) := by
      rw [hmsdu.frameCtl, (dataFrameCtl_qos protect' more').1]
      simp
    unfold parseSubframe
    rw [hllc, if_neg (by split <;> omega)]
    simp only [if_neg hno]
  unfold rxIndicate
  simp only [hmsdu.rtllibIsEapolFrame, hframe.htcCheck, Bool.or_false, hparse, hframe.dstSrc,
    hmsdu.rxStream, indicate, Bool.false_eq_true, not_false_eq_true, and_true]
  by_cases hkey : unencrypted cfg env frame = true
  · rw [if_pos hkey, if_neg (by simp [hkey])]
    exact hkeep s msdu
  · rw [if_neg hkey]
    rw [Bool.not_eq_true] at hkey
    by_cases halloc : env.rxbAlloc = true
    · rw [if_pos halloc, if_pos ⟨hkey, halloc⟩, hkey]
      have hq := hkeep s msdu
      generalize (p.elim s fun p => s.write p msdu) = s₁ at hq ⊢
      obtain ⟨hreorder, hdelivered⟩ := hfree { s₁ with delivered := s₁.delivered ++
        [⟨[msdu.pull (24 + if env.bContainHTC then 4 else 0)], key.src, key.dst, false⟩] }
      exact ⟨hreorder.trans hq.reorder, hdelivered.trans (by rw [← hq.delivered])⟩
    · rw [if_neg halloc, if_neg (fun h => halloc h.2)]
      exact hkeep s msdu

end Calls

end Rtl8190.Rx
