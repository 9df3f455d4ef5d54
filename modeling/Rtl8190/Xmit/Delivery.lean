import Mathlib.Tactic.FinCases
import Rtl8190.Rx.HeaderLength
import Rtl8190.Rx.Protection
import Rtl8190.Xmit.Fit

/-!
# From one station of an ad-hoc network to another

A frame that `rtllib_xmit_inter` sends in one piece and without encryption, as `rtllib_rx` gets it.
`rtllib_put_snap` chooses one of two headers for the type, and the receiver takes either off again.
-/

open Rtl8190.Memory Rtl8190.Reorder Rtl8190.TrafficStream

namespace Rtl8190.Xmit

variable {κ : Type} {dev : Device κ} {s s' : State κ} {skb : EthSkb}

/-! ## What is sent -/

/-- What the destination gets: the header of an ad-hoc frame, the SNAP header and the payload. -/
structure Carries (dev : Device κ) (skb : EthSkb) (frame : Rx.Skb) : Prop where
  len : frame.len = (plan dev skb).hdrLen + (8 + (skb.len - 14))
  frameCtl : frame.frameCtl = if dev.qosActive then 0x0088 else 0x0008
  addr1 : frame.addr1 = skb.dest
  addr2 : frame.addr2 = skb.src
  seqFrag : Rx.seqFrag frame.seqCtl = 0
  noAmsdu : dev.qosActive = true → (frame.byte 24).getLsbD 7 = false
  snap : ∀ j < 8, frame.byte ((plan dev skb).hdrLen + j) =
    (rtllibPutSnap skb.etherType).getD j 0
  payload : ∀ j < skb.len - 14, frame.byte ((plan dev skb).hdrLen + 8 + j) = skb.mem (14 + j)

/-- On the air: the driver takes the FCS off, reserved or not, and hands the rest to `rtllib_rx`. -/
structure OnAir (dev : Device κ) (frag : Crypt.Skb) (frame : Rx.Skb) : Prop where
  len : frame.len + Plan.fcsLen dev = frag.len
  byte : ∀ i < frame.len, frame.byte i = frag.byte i

theorem plainFragment_data {p : Plan} {room plain : Crypt.Skb} {i : Nat} {more : Bool}
    {sc : BitVec 16} {payload : List Byte} (hroom : room.data = [])
    (h : plainFragment dev p room i more sc payload = some plain) :
    plain.data = p.header dev more sc ++
      ((if i = 0 then rtllibPutSnap p.etherType else []) ++ payload) := by
  simp only [plainFragment, Option.bind_eq_bind, Option.bind_eq_some_iff] at h
  obtain ⟨skb₁, h₁, skb₂, h₂, h₃⟩ := h
  unfold skbPutIf at h₂
  by_cases h0 : i = 0
  · rw [if_pos (by simp [h0])] at h₂
    rw [if_pos h0, skbPut_eq h₃, skbPut_eq h₂, skbPut_eq h₁]
    simp only [Crypt.Skb.put, reserve, hroom, List.nil_append, List.append_assoc]
  · rw [if_neg (by simp [h0])] at h₂
    obtain rfl := Option.some.inj h₂
    rw [if_neg h0, skbPut_eq h₃, skbPut_eq h₁]
    simp only [Crypt.Skb.put, reserve, hroom, List.nil_append]

theorem fragSeqCtl_first {p : Plan} {fc sc : BitVec 16}
    (h : fragSeqCtl dev p s fc 0 = some (sc, s')) : Rx.seqFrag sc = 0 := by
  unfold fragSeqCtl at h
  split at h
  · obtain ⟨r, -, heq⟩ := Option.map_eq_some_iff.mp h
    cases heq
    exact seqFrag_seqCtl _ (by decide)
  · cases h
    exact seqFrag_seqCtl _ (by decide)

theorem length_xmitLoop {p : Plan} {mem : Nat → Byte} {i pos : Nat} {rooms frags : List Crypt.Skb}
    (h : xmitLoop dev p mem s i pos rooms = some (frags, s')) : frags.length = rooms.length := by
  induction rooms generalizing s i pos frags with
  | nil =>
    cases h
    rfl
  | cons room rooms ih =>
    simp only [xmitLoop, Option.bind_eq_bind, Option.bind_eq_some_iff] at h
    obtain ⟨⟨frag, s₁⟩, -, ⟨rest, s₂⟩, hloop, heq⟩ := h
    cases heq
    exact congrArg (· + 1) (ih hloop)

/-- A frame in one piece and without encryption is the header, the SNAP header and the payload. -/
theorem xmitInter_single {txb : Txb} {frag : Crypt.Skb} (hraw : dev.rawTx = false)
    (hsent : rtllibXmitInter dev s skb = some (.sent txb, s'))
    (hplain : encrypts dev skb = false) (hone : txb.fragments = [frag]) :
    ∃ sc, Rx.seqFrag sc = 0 ∧ ∃ fcs, fcs.length = Plan.fcsLen dev ∧
      frag.data = (plan dev skb).header dev false sc ++ (rtllibPutSnap skb.etherType ++
        bytesAt skb.mem skb.payloadAt (skb.len - skb.payloadAt)) ++ fcs := by
  obtain ⟨hpos, rooms, t, halloc, -, hloop⟩ := xmitInter_loop hraw hsent
  obtain ⟨hcount, hrooms⟩ := rtllibAllocTxb_rooms halloc
  rw [hone] at hloop
  match rooms, length_xmitLoop hloop with
  | [room], _ =>
    obtain ⟨room', hroom⟩ := hrooms room List.mem_cons_self
    have hbytes := ((plan dev skb).bytes_eq dev (by omega)
      (Nat.lt_of_lt_of_le (by decide) (Nat.le_add_left 8 _))).1
    rw [← hcount, List.length_singleton, Nat.sub_self, Nat.zero_mul, Nat.zero_add] at hbytes
    have hlast : (plan dev skb).payloadBytes dev 0 false = skb.len - skb.payloadAt := by
      unfold Plan.payloadBytes
      rw [if_neg Bool.false_ne_true, if_pos rfl, hbytes]
      exact Nat.add_sub_cancel _ 8
    simp only [xmitLoop, Option.bind_eq_bind, Option.bind_eq_some_iff] at hloop
    obtain ⟨⟨frag', s₁⟩, hfrag, ⟨rest, s₂⟩, hrest, heq⟩ := hloop
    obtain rfl : [] = rest := by
      cases hrest
      rfl
    cases heq
    simp only [xmitFragment, Option.bind_eq_bind, Option.bind_eq_some_iff] at hfrag
    obtain ⟨⟨sc, s₃⟩, hsc, plain, hplain', skb', hput, heq'⟩ := hfrag
    cases heq'
    refine ⟨sc, fragSeqCtl_first hsc, if dev.reserveFcs then List.ofFn dev.fcs else [], ?_, ?_⟩
    · unfold Plan.fcsLen
      split
      · exact List.length_ofFn
      · rfl
    · have hdata := plainFragment_data (by rw [hroom]; rfl) hplain'
      rw [if_pos rfl, List.isEmpty_nil, Bool.not_true, hlast] at hdata
      have henc : (plan dev skb).encrypt = false := hplain
      rw [henc, if_neg Bool.false_ne_true] at hput
      have hwhole : plain.data = (plan dev skb).header dev false sc ++ (rtllibPutSnap skb.etherType ++
          bytesAt skb.mem skb.payloadAt (skb.len - skb.payloadAt)) := hdata
      rw [← hwhole]
      unfold skbPutIf at hput
      split at hput
      · rename_i hfcs
        rw [if_pos hfcs, skbPut_eq hput]
        rfl
      · rename_i hfcs
        rw [if_neg hfcs, List.append_nil, ← Option.some.inj hput]

theorem frameControl_adhoc (hadhoc : dev.iwMode = .adhoc) (hplain : encrypts dev skb = false) :
    frameControl dev skb = if dev.qosActive then 0x0088 else 0x0008 := by
  unfold frameControl
  rw [hplain, hadhoc]
  cases dev.qosActive <;> rfl

theorem qosCtl_noAmsdu (priority : Nat) :
    ((BitVec.ofNat 16 priority &&& 0x000f).setWidth 8 : Byte).getLsbD 7 = false := by
  rw [BitVec.getLsbD_setWidth, BitVec.getLsbD_and]
  simp

section Header

variable {more : Bool} {sc : BitVec 16} {frame : Rx.Skb}
  (hframe : ∀ i < (plan dev skb).hdrLen,
    frame.byte i = ((plan dev skb).header dev more sc).getD i 0)

include hframe

theorem byte_header {i : Nat} (hi : i < 24) :
    frame.byte i = ((plan dev skb).header dev more sc).getD i 0 := by
  apply hframe
  have hlen : (plan dev skb).hdrLen = if dev.qosActive then 26 else 24 := rfl
  rw [hlen]
  split <;> omega

theorem frameCtl_header : frame.frameCtl = (plan dev skb).fragFc more := by
  unfold Rx.Skb.frameCtl Rx.Skb.le16
  rw [byte_header hframe (by decide), byte_header hframe (by decide)]
  exact hi_append_lo _

theorem seqCtl_header : frame.seqCtl = sc := by
  unfold Rx.Skb.seqCtl Rx.Skb.le16
  rw [byte_header hframe (by decide), byte_header hframe (by decide)]
  exact hi_append_lo _

theorem addr1_header : frame.addr1 = (plan dev skb).addr1 := by
  unfold Rx.Skb.addr1 Rx.Skb.addr
  funext j
  rw [byte_header hframe (by omega)]
  fin_cases j <;> rfl

theorem addr2_header : frame.addr2 = (plan dev skb).addr2 := by
  unfold Rx.Skb.addr2 Rx.Skb.addr
  funext j
  rw [byte_header hframe (by omega)]
  fin_cases j <;> rfl

theorem byte24_header (hqos : dev.qosActive = true) : (frame.byte 24).getLsbD 7 = false := by
  have hlen : (plan dev skb).hdrLen = if dev.qosActive then 26 else 24 := rfl
  rw [hframe 24 (by rw [hlen, if_pos hqos]; decide)]
  unfold Plan.header
  rw [if_pos hqos]
  exact qosCtl_noAmsdu _

end Header

theorem carries_of_sent {txb : Txb} {frag : Crypt.Skb} {frame : Rx.Skb} (hraw : dev.rawTx = false)
    (hsent : rtllibXmitInter dev s skb = some (.sent txb, s')) (hadhoc : dev.iwMode = .adhoc)
    (hplain : encrypts dev skb = false) (hone : txb.fragments = [frag]) (hlen : 14 ≤ skb.len)
    (hair : OnAir dev frag frame) : Carries dev skb frame := by
  -- What comes from the sender is what it was given.
  obtain ⟨sc, hsc, fcs, hfcs, hdata⟩ := xmitInter_single hraw hsent hplain hone
  have hpayloadAt : skb.payloadAt = 14 := if_neg (by omega)
  rw [hpayloadAt] at hdata
  have hheader : ((plan dev skb).header dev false sc).length = (plan dev skb).hdrLen := header_length
  have hpayload : (bytesAt skb.mem 14 (skb.len - 14)).length = skb.len - 14 :=
    length_bytesAt _ _ _
  have hsnap := length_rtllibPutSnap skb.etherType
  have hflen : frame.len = (plan dev skb).hdrLen + (8 + (skb.len - 14)) := by
    have hall := hair.len
    unfold Crypt.Skb.len at hall
    rw [hdata] at hall
    simp only [List.length_append, hheader, hpayload, hsnap, hfcs] at hall
    omega
  have hbyte {i : Nat} (hi : i < frame.len) : frame.byte i =
      ((plan dev skb).header dev false sc ++ (rtllibPutSnap skb.etherType ++
        bytesAt skb.mem 14 (skb.len - 14))).getD i 0 := by
    rw [hair.byte i hi]
    unfold Crypt.Skb.byte
    rw [hdata, List.getD_append]
    simp only [List.length_append, hheader, hpayload, hsnap]
    omega
  have hframe : ∀ i < (plan dev skb).hdrLen,
      frame.byte i = ((plan dev skb).header dev false sc).getD i 0 := by
    intro i hi
    rw [hbyte (by omega), List.getD_append _ _ _ _ (hheader ▸ hi)]
  have hbody {j : Nat} (hj : j < 8 + (skb.len - 14)) : frame.byte ((plan dev skb).hdrLen + j) =
      (rtllibPutSnap skb.etherType ++ bytesAt skb.mem 14 (skb.len - 14)).getD j 0 := by
    rw [hbyte (by omega), List.getD_append_right _ _ _ _ (by omega), hheader,
      Nat.add_sub_cancel_left]
  have haddr : addresses dev skb = (skb.dest, skb.src, dev.bssid) := by
    unfold addresses
    rw [hadhoc]
  exact
    { len := hflen
      frameCtl := (frameCtl_header hframe).trans (frameControl_adhoc hadhoc hplain)
      addr1 := (addr1_header hframe).trans (congrArg Prod.fst haddr)
      addr2 := (addr2_header hframe).trans (congrArg (fun a => a.2.1) haddr)
      seqFrag := by
        rw [seqCtl_header hframe]
        exact hsc
      noAmsdu := byte24_header hframe
      snap := by
        intro j hj
        rw [hbody (by omega), List.getD_append _ _ _ _ (by omega)]
      payload := by
        intro j hj
        rw [Nat.add_assoc, hbody (by omega), List.getD_append_right _ _ _ _ (by omega), hsnap,
          Nat.add_sub_cancel_left, getD_bytesAt _ _ hj] }

/-! ## What is received -/

/-- The Ethernet frame that `netif_rx` gets. -/
def packetBytes (p : Rx.Packet) : List Byte :=
  p.dst.bytes ++ p.src.bytes ++
    (p.len.elim [] fun len => [BitVec.ofNat 8 (len / 256), BitVec.ofNat 8 len]) ++
    (List.range p.payload.len).map p.payload.byte

section Receiver

variable {ι κ' : Type} [DecidableEq ι] (cfg : Rx.Config κ') (env : Rx.Env ι) (r : Rx.State ι κ')
  (frame : Rx.Skb)

/-- `rtllib_rx` keeps the frame: it is no duplicate, it is for this station, a key does not forbid
it, and there is memory. -/
structure Accepts : Prop where
  fresh : (Rx.duplicateCheck cfg env r frame).1 = false
  forUs : Rx.forUs env frame = true
  allowed : Rx.unencrypted cfg env frame = false
  rxbAlloc : env.rxbAlloc = true

/-- The call hands `rxb` over: to `rtllib_indicate_packets` in the reorder buffer of the stream, or
to the same conversion at once. -/
def HandsOver (rxb : Rx.Rxb) : Prop :=
  match if env.bCurRxReorderEnable then Rx.rxStream env frame else none with
  | some i => (Rx.rtllibRx cfg env r frame).2.delivered = r.delivered ∧
      (Rx.rtllibRx cfg env r frame).2.reorder = Pool.step cfg.rxReorderWinSize r.reorder
        (.packet i rxb (Rx.seqSeq frame.seqCtl))
  | none => (Rx.rtllibRx cfg env r frame).2.delivered = r.delivered ++ [rxb] ∧
      (Rx.rtllibRx cfg env r frame).2.reorder = r.reorder

variable {cfg env r frame}

theorem Carries.rtllibGetHdrlen (h : Carries dev skb frame) :
    Rx.rtllibGetHdrlen frame.frameCtl = (plan dev skb).hdrLen := by
  have hlen : (plan dev skb).hdrLen = if dev.qosActive then 26 else 24 := rfl
  rw [h.frameCtl, hlen]
  cases dev.qosActive <;> rfl

theorem Carries.plainData (h : Carries dev skb frame) :
    Rx.fcType frame.frameCtl = Rx.ftypeData ∧ Rx.wep frame.frameCtl = false ∧
      Rx.moreFrags frame.frameCtl = false ∧ Rx.toDs frame.frameCtl = false ∧
      Rx.fromDs frame.frameCtl = false ∧ Rx.carriesData (Rx.fcStype frame.frameCtl) = true := by
  rw [h.frameCtl]
  cases dev.qosActive <;> decide

omit [DecidableEq ι] in
theorem Carries.htcCheck (h : Carries dev skb frame) : Rx.htcCheck env frame = false := by
  have hbit : frame.frameCtl.getLsbD 15 = false := by
    rw [h.frameCtl]
    cases dev.qosActive <;> rfl
  unfold Rx.htcCheck
  rw [hbit, Bool.and_false]

theorem Carries.rxFilter (h : Carries dev skb frame) (henv : env.iwMode = .adhoc) :
    Rx.rxFilter cfg env r frame =
      (if (Rx.duplicateCheck cfg env r frame).1 = true ∨ ¬ Rx.forUs env frame = true then
        .dropped else .pass, (Rx.duplicateCheck cfg env r frame).2) := by
  obtain ⟨htype, hwep, -, hto, hfrom, hcarries⟩ := h.plainData
  have hlen := h.len
  have hhdr : 24 ≤ (plan dev skb).hdrLen := by
    have hlen : (plan dev skb).hdrLen = if dev.qosActive then 26 else 24 := rfl
    rw [hlen]
    split <;> omega
  unfold Rx.rxFilter
  simp only
  rw [if_neg (by omega), h.rtllibGetHdrlen, if_neg (by omega), if_neg (by simp [henv]),
    if_neg (by simp [hwep]), if_neg (by omega)]
  by_cases hdup : (Rx.duplicateCheck cfg env r frame).1 = true
  · rw [if_pos hdup, if_pos (.inl hdup)]
  · rw [if_neg hdup, if_neg (by rw [htype]; decide), if_neg (by simp [hfrom]),
      if_neg (by simp [hcarries])]
    by_cases hus : Rx.forUs env frame = true
    · rw [if_neg (not_not.mpr hus), if_neg (by tauto)]
    · rw [if_pos hus, if_pos (.inr hus)]

/-- The subframe is all behind the header, and behind an HT control field if one is counted. -/
theorem Carries.parseSubframe (h : Carries dev skb frame) (bContainHTC : Bool) :
    Rx.parseSubframe frame bContainHTC =
      (frame.pull ((plan dev skb).hdrLen + if bContainHTC then 4 else 0),
        some [frame.pull ((plan dev skb).hdrLen + if bContainHTC then 4 else 0)]) := by
  have hllc : Rx.llcOffset frame bContainHTC =
      (plan dev skb).hdrLen + if bContainHTC then 4 else 0 := by
    have hlen : (plan dev skb).hdrLen = if dev.qosActive then 26 else 24 := rfl
    unfold Rx.llcOffset
    rw [h.frameCtl, hlen]
    cases dev.qosActive <;> rfl
  have hlen := h.len
  have hamsdu : ¬ (Rx.qosHasSeq frame.frameCtl = true ∧ (frame.byte 24).getLsbD 7 = true) := by
    rintro ⟨hqos, hbit⟩
    have hactive : dev.qosActive = true := by
      by_contra hno
      rw [h.frameCtl, if_neg hno] at hqos
      revert hqos
      decide
    rw [h.noAmsdu hactive] at hbit
    cases hbit
  unfold Rx.parseSubframe
  rw [hllc, if_neg (by split <;> omega)]
  simp only [if_neg hamsdu]

theorem Carries.rxIndicate (h : Carries dev skb frame) (s : Rx.State ι κ') :
    Rx.rxIndicate cfg env s frame frame none =
      if Rx.unencrypted cfg env frame then (false, s)
      else if env.rxbAlloc then
        (true, Rx.indicate cfg env s
          ⟨[frame.pull ((plan dev skb).hdrLen + if env.bContainHTC then 4 else 0)], skb.src, skb.dest,
            Rx.unencrypted cfg env frame⟩ (Rx.rxStream env frame) (Rx.seqSeq frame.seqCtl))
      else (false, s) := by
  obtain ⟨-, -, -, hto, hfrom, -⟩ := h.plainData
  have heapol : Rx.rtllibIsEapolFrame env frame (Rx.hdrlen env frame) = false := by
    unfold Rx.rtllibIsEapolFrame
    simp [hto, hfrom]
  have hdst : Rx.dstSrc frame = (skb.dest, skb.src) := by
    unfold Rx.dstSrc
    rw [hto, hfrom, h.addr1, h.addr2]
  unfold Rx.rxIndicate
  simp only [Option.elim, heapol, Bool.false_eq_true, not_false_eq_true, and_true, h.htcCheck,
    Bool.or_false, h.parseSubframe, hdst]

theorem Carries.rtllibRx (h : Carries dev skb frame) (henv : env.iwMode = .adhoc) :
    (Accepts cfg env r frame → (Rx.rtllibRx cfg env r frame).2 =
      Rx.indicate cfg env (Rx.duplicateCheck cfg env r frame).2
        ⟨[frame.pull ((plan dev skb).hdrLen + if env.bContainHTC then 4 else 0)], skb.src, skb.dest,
          false⟩ (Rx.rxStream env frame) (Rx.seqSeq frame.seqCtl)) ∧
    (¬ Accepts cfg env r frame → Rx.Quiet r (Rx.rtllibRx cfg env r frame).2) := by
  -- `rtllib_rx` as a whole.
  obtain ⟨-, hwep, hmore, -, -, -⟩ := h.plainData
  have hquiet : Rx.Quiet r (Rx.duplicateCheck cfg env r frame).2 :=
    (Rx.duplicateCheck_same frame).toQuiet
  have hdecrypt (s : Rx.State ι κ') : Rx.rxDecrypt cfg env s frame = (some (0, frame), s) := by
    unfold Rx.rxDecrypt
    exact if_neg (by simp [hwep])
  have hmsdu (s : Rx.State ι κ') :
      Rx.rxDecryptMsdu cfg env s frame frame 0 = (some frame, s) := by
    unfold Rx.rxDecryptMsdu
    exact if_neg (by simp [hwep])
  have hreassemble (s : Rx.State ι κ') :
      Rx.rxReassemble cfg env s frame frame = (.msdu frame none, s) := by
    unfold Rx.rxReassemble
    exact if_neg (by simp [h.seqFrag, hmore])
  unfold Rx.rtllibRx
  rw [h.rxFilter henv]
  by_cases hpass : (Rx.duplicateCheck cfg env r frame).1 = true ∨ ¬ Rx.forUs env frame = true
  · simp only [if_pos hpass]
    refine ⟨fun hacc => absurd hpass ?_, fun _ => hquiet⟩
    simp [hacc.fresh, hacc.forUs]
  · simp only [if_neg hpass, hdecrypt, hreassemble, hmsdu, h.rxIndicate]
    rw [not_or, Bool.not_eq_true, not_not] at hpass
    by_cases hkey : Rx.unencrypted cfg env frame = true
    · rw [if_pos hkey]
      refine ⟨fun hacc => ?_, fun _ => hquiet⟩
      rw [hacc.allowed] at hkey
      cases hkey
    · rw [if_neg hkey]
      rw [Bool.not_eq_true] at hkey
      by_cases halloc : env.rxbAlloc = true
      · rw [if_pos halloc, hkey]
        exact ⟨fun _ => rfl, fun hno => absurd ⟨hpass.1, hpass.2, hkey, halloc⟩ hno⟩
      · rw [if_neg halloc]
        exact ⟨fun hacc => absurd hacc.rxbAlloc halloc, fun _ => hquiet⟩

theorem Carries.handsOver_iff (h : Carries dev skb frame) (henv : env.iwMode = .adhoc)
    (rxb : Rx.Rxb) :
    HandsOver cfg env r frame rxb ↔ Accepts cfg env r frame ∧
      rxb = ⟨[frame.pull ((plan dev skb).hdrLen + if env.bContainHTC then 4 else 0)], skb.src,
        skb.dest, false⟩ := by
  -- The reorder buffer keeps account of what was passed to it.
  obtain ⟨hacc, hrefused⟩ : (Accepts cfg env r frame → _) ∧ (¬ Accepts cfg env r frame → _) :=
    h.rtllibRx henv
  have hsame : Rx.Quiet r (Rx.duplicateCheck cfg env r frame).2 :=
    (Rx.duplicateCheck_same frame).toQuiet
  generalize (⟨[frame.pull ((plan dev skb).hdrLen + if env.bContainHTC then 4 else 0)], skb.src,
    skb.dest, false⟩ : Rx.Rxb) = rxb₀ at hacc ⊢
  unfold HandsOver
  by_cases haccepts : Accepts cfg env r frame
  · rw [hacc haccepts]
    unfold Rx.indicate
    simp only [haccepts, true_and]
    cases henable : env.bCurRxReorderEnable with
    | false =>
      cases Rx.rxStream env frame <;>
        simp [hsame.delivered, hsame.reorder, eq_comm]
    | true =>
      cases Rx.rxStream env frame with
      | none => simp [hsame.delivered, hsame.reorder, eq_comm]
      | some i =>
        simp only [if_true, hsame.delivered, hsame.reorder, true_and]
        constructor
        · intro hstep
          have hpassed := congrArg Pool.State.passed hstep
          exact (List.singleton_injective (List.append_cancel_left hpassed)).symm
        · rintro rfl
          rfl
  · obtain ⟨hreorder, hdelivered⟩ := hrefused haccepts
    simp only [haccepts, false_and, iff_false]
    split
    · rintro ⟨-, hstep⟩
      rw [hreorder] at hstep
      have hpassed := congrArg (fun p => p.passed.length) hstep
      simp [Pool.step, Pool.State.after] at hpassed
    · rintro ⟨hstep, -⟩
      rw [hdelivered] at hstep
      have := congrArg List.length hstep
      simp at this

end Receiver

/-! ## What the stack gets -/

section Stack

variable {frame : Rx.Skb}

/-- Behind a header of `hdrLen` bytes the frame has the SNAP header and the payload. -/
structure HasPayload (skb : EthSkb) (hdrLen : Nat) (frame : Rx.Skb) : Prop where
  len : frame.len = hdrLen + (8 + (skb.len - 14))
  snap : ∀ j < 8, frame.byte (hdrLen + j) = (rtllibPutSnap skb.etherType).getD j 0
  payload : ∀ j < skb.len - 14, frame.byte (hdrLen + 8 + j) = skb.mem (14 + j)

theorem Carries.hasPayload (h : Carries dev skb frame) :
    HasPayload skb (plan dev skb).hdrLen frame :=
  ⟨h.len, h.snap, h.payload⟩

variable {hdrLen : Nat}

/-- The header that was chosen for the type is taken off, and the type is what follows it. -/
theorem HasPayload.toEthernet (h : HasPayload skb hdrLen frame) (rxb : Rx.Rxb) :
    Rx.toEthernet rxb (frame.pull hdrLen) =
      ⟨rxb.dst, rxb.src, none, (frame.pull hdrLen).pull 6, rxb.eapol⟩ := by
  have hbyte {j : Nat} (hj : j < 8) : (frame.pull hdrLen).byte j =
      (rtllibPutSnap skb.etherType).getD j 0 := h.snap j hj
  have hsnap : (List.range 6).map (frame.pull hdrLen).byte =
      (rtllibPutSnap skb.etherType).take 6 := by
    apply List.ext_getElem
    · rw [List.length_map, List.length_range, List.length_take, length_rtllibPutSnap]
      rfl
    · intro j hj _
      have hj6 : j < 6 := by simpa using hj
      rw [List.getElem_map, List.getElem_range, hbyte (by omega), List.getElem_take,
        List.getD_eq_getElem _ _ (by rw [length_rtllibPutSnap]; omega)]
  have htype : (frame.pull hdrLen).byte 6 ++ (frame.pull hdrLen).byte 7 = skb.etherType := by
    rw [hbyte (by decide), hbyte (by decide)]
    refine Eq.trans ?_ (hi_append_lo skb.etherType)
    unfold rtllibPutSnap
    split <;> rfl
  have hlen : 8 ≤ (frame.pull hdrLen).len := by
    have := h.len
    change 8 ≤ frame.len - _
    omega
  unfold Rx.toEthernet
  simp only [hsnap, htype]
  refine if_pos ⟨hlen, ?_⟩
  unfold rtllibPutSnap
  by_cases hbridge : skb.etherType = 0x8137 ∨ skb.etherType = 0x80f3
  · rw [if_pos hbridge]
    exact .inr rfl
  · rw [if_neg hbridge]
    rw [not_or] at hbridge
    exact .inl ⟨rfl, hbridge.2, hbridge.1⟩

theorem HasPayload.byte_type (h : HasPayload skb hdrLen frame) {j : Nat}
    (hj : j < 2 + (skb.len - 14)) :
    ((frame.pull hdrLen).pull 6).byte j = skb.mem (12 + j) := by
  -- Behind the SNAP header are the type and the payload.
  change frame.byte (hdrLen + (6 + j)) = _
  have htail : (rtllibPutSnap skb.etherType).drop 6 = [skb.mem 12, skb.mem 13] := by
    unfold rtllibPutSnap EthSkb.etherType
    rw [hi_append, lo_append]
    split <;> rfl
  have hat (k : Nat) : (rtllibPutSnap skb.etherType).getD (6 + k) 0 =
      [skb.mem 12, skb.mem 13].getD k 0 := by
    rw [← htail, List.getD_eq_getElem?_getD, List.getD_eq_getElem?_getD, List.getElem?_drop]
  match j with
  | 0 => exact (h.snap 6 (by decide)).trans (hat 0)
  | 1 => exact (h.snap 7 (by decide)).trans (hat 1)
  | j + 2 =>
    have hpay := h.payload j (by omega)
    rw [show hdrLen + (6 + (j + 2)) = hdrLen + 8 + j by omega, hpay,
      show 12 + (j + 2) = 14 + j by omega]

theorem HasPayload.packetBytes_eq (h : HasPayload skb hdrLen frame) (hlen : 14 ≤ skb.len) :
    (Rx.rtllibIndicatePackets ⟨[frame.pull hdrLen], skb.src, skb.dest, false⟩).map packetBytes =
      [bytesAt skb.mem 0 skb.len] := by
  -- What the stack gets is what the other stack sent.
  have hflen := h.len
  have hpulled : ((frame.pull hdrLen).pull 6).len = 2 + (skb.len - 14) := by
    change frame.len - _ - 6 = _
    omega
  have hbody : (List.range (2 + (skb.len - 14))).map ((frame.pull hdrLen).pull 6).byte =
      bytesAt skb.mem 12 (2 + (skb.len - 14)) := by
    unfold bytesAt
    apply List.map_congr_left
    intro j hj
    exact h.byte_type (List.mem_range.mp hj)
  have hwhole : bytesAt skb.mem 0 skb.len =
      bytesAt skb.mem 0 6 ++ bytesAt skb.mem (0 + 6) 6 ++
        bytesAt skb.mem (0 + (6 + 6)) (2 + (skb.len - 14)) := by
    rw [bytesAt_append, bytesAt_append]
    congr 1
    omega
  unfold Rx.rtllibIndicatePackets
  rw [List.map_singleton, List.map_singleton, h.toEthernet, hwhole]
  unfold packetBytes
  rw [hpulled, hbody, Option.elim_none, List.append_nil]
  congr 3

theorem length_packetBytes (rxb : Rx.Rxb) (sub : Rx.Skb) :
    8 ≤ sub.len ∧ (packetBytes (Rx.toEthernet rxb sub)).length = 6 + sub.len ∨
      (packetBytes (Rx.toEthernet rxb sub)).length = 14 + sub.len := by
  -- Six bytes of a SNAP header are taken off, or a length is put in front.
  unfold Rx.toEthernet
  simp only
  split
  · rename_i hsnap
    refine .inl ⟨hsnap.1, ?_⟩
    have hpulled : (sub.pull 6).len = sub.len - 6 := rfl
    have hlen := hsnap.1
    simp only [packetBytes, Addr.bytes, Option.elim_none, List.length_append, List.length_map,
      List.length_range, List.length_cons, List.length_nil, hpulled]
    omega
  · right
    simp only [packetBytes, Addr.bytes, Option.elim_some, List.length_append, List.length_map,
      List.length_range, List.length_cons, List.length_nil]

/-- A frame that is too long by `8 * k` bytes, or whose front is missing because an HT control field
was counted that it does not have, is not what was sent. -/
theorem packetBytes_ne {sub : Rx.Skb} {k n : Nat}
    (hlen : sub.len + n = 8 + (skb.len - 14) + 8 * k) (hn : n = 0 ∨ n = 4)
    (hodd : n = 4 ∨ k ≠ 0) (rxb : Rx.Rxb) :
    packetBytes (Rx.toEthernet rxb sub) ≠ bytesAt skb.mem 0 skb.len := by
  intro heq
  have hcount := congrArg List.length heq
  have hall : (bytesAt skb.mem 0 skb.len).length = skb.len := length_bytesAt _ _ _
  rcases length_packetBytes rxb sub with ⟨hlong, hsub⟩ | hsub
  · omega
  · omega

/-- With an HT control field counted that the frame does not have, four bytes are missing at its
front, and the SNAP header is not recognised or taken off where it does not end. -/
theorem Carries.packetBytes_ne (h : Carries dev skb frame) (rxb : Rx.Rxb) :
    packetBytes (Rx.toEthernet rxb (frame.pull ((plan dev skb).hdrLen + 4))) ≠
      bytesAt skb.mem 0 skb.len := by
  refine Xmit.packetBytes_ne (k := 0) (n := 4) ?_ (.inr rfl) (.inl rfl) rxb
  have := h.len
  change frame.len - _ + 4 = _
  omega

end Stack

/-! ## Main result -/

/-- An Ethernet frame that goes out in one piece and without encryption in an ad-hoc network comes
out of `rtllib_rx` just as it was, on either path, when the receiver keeps it and no HT control field
is left over from an earlier frame. -/
theorem delivers_iff {ι κ' : Type} [DecidableEq ι] (dev : Device κ) (s s' : State κ) (skb : EthSkb)
    (txb : Txb) (frag : Crypt.Skb) (hraw : dev.rawTx = false)
    (hsent : rtllibXmitInter dev s skb = some (.sent txb, s')) (hadhoc : dev.iwMode = .adhoc)
    (hplain : encrypts dev skb = false) (hone : txb.fragments = [frag]) (hlen : 14 ≤ skb.len)
    (cfg : Rx.Config κ') (env : Rx.Env ι) (r : Rx.State ι κ') (frame : Rx.Skb)
    (henv : env.iwMode = .adhoc) (hair : OnAir dev frag frame) :
    (∃ rxb, HandsOver cfg env r frame rxb ∧
        (Rx.rtllibIndicatePackets rxb).map packetBytes = [bytesAt skb.mem 0 skb.len]) ↔
      Accepts cfg env r frame ∧ env.bContainHTC = false := by
  have h := carries_of_sent hraw hsent hadhoc hplain hone hlen hair
  constructor
  · rintro ⟨rxb, hover, hbytes⟩
    obtain ⟨hacc, rfl⟩ := (h.handsOver_iff henv rxb).mp hover
    refine ⟨hacc, ?_⟩
    cases hhtc : env.bContainHTC with
    | false => rfl
    | true =>
      rw [hhtc] at hbytes
      exact absurd (List.head_eq_of_cons_eq hbytes) (h.packetBytes_ne _)
  · rintro ⟨hacc, hhtc⟩
    refine ⟨_, (h.handsOver_iff henv _).mpr ⟨hacc, rfl⟩, ?_⟩
    rw [hhtc]
    exact h.hasPayload.packetBytes_eq hlen

def adhocStation : Device Unit := { qosStation with iwMode := .adhoc, qosActive := false }

/-- An Ethernet frame of 60 bytes with the type of ARP, from the station 4 to the station 2. -/
def arpFrame : EthSkb :=
  ⟨fun i => if i < 6 then 2 else if i < 12 then 4 else if i = 12 then 0x08 else if i = 13 then 0x06
    else 7, 60, 0⟩

def arpData : List Byte :=
  (plan adhocStation arpFrame).header adhocStation false 0 ++
    (rtllibPutSnap arpFrame.etherType ++ bytesAt arpFrame.mem 14 46)

theorem arpFrame_sent : ∃ txb s' frag,
    rtllibXmitInter adhocStation qosStart arpFrame = some (.sent txb, s') ∧
      txb.fragments = [frag] ∧ frag.data = arpData := by
  have hrun : (rtllibXmitInter adhocStation qosStart arpFrame).bind (fun r => match r.1 with
      | .sent txb => some (txb.fragments.map Crypt.Skb.data)
      | _ => none) = some [arpData] := by decide +kernel
  obtain ⟨⟨o, s'⟩, hr, ho⟩ := Option.bind_eq_some_iff.mp hrun
  cases o with
  | sent txb =>
    obtain ⟨frag, hfrag, hdata⟩ := List.map_eq_singleton_iff.mp (Option.some.inj ho)
    exact ⟨txb, s', frag, hr, hfrag, hdata⟩
  | dropped => cases ho
  | failed => cases ho

def arpReceived : Rx.Skb := Rx.received (fun i => arpData.getD i 0) 78

theorem onAir_arpReceived {frag : Crypt.Skb} (h : frag.data = arpData) :
    OnAir adhocStation frag arpReceived where
  len := by
    unfold Crypt.Skb.len
    rw [h]
    decide +kernel
  byte i _ := by
    unfold Crypt.Skb.byte
    rw [h]
    rfl

/-- The station 2, where an earlier frame had an HT control field or not. -/
def adhocReceiver (bContainHTC : Bool) : Rx.Env Unit :=
  { Rx.openStation with iwMode := .adhoc, bContainHTC := bContainHTC }

theorem accepts_arpReceived (bContainHTC : Bool) :
    Accepts Rx.openConfig (adhocReceiver bContainHTC) Rx.emptyCache arpReceived where
  fresh := by cases bContainHTC <;> decide +kernel
  forUs := by cases bContainHTC <;> decide +kernel
  allowed := rfl
  rxbAlloc := rfl

theorem delivers_arpFrame :
    ∃ rxb, HandsOver Rx.openConfig (adhocReceiver false) Rx.emptyCache arpReceived rxb ∧
      (Rx.rtllibIndicatePackets rxb).map packetBytes = [bytesAt arpFrame.mem 0 arpFrame.len] := by
  obtain ⟨txb, s', frag, hsent, hone, hdata⟩ := arpFrame_sent
  exact (delivers_iff adhocStation qosStart s' arpFrame txb frag rfl hsent rfl rfl hone (by decide)
    Rx.openConfig (adhocReceiver false) Rx.emptyCache arpReceived rfl
    (onAir_arpReceived hdata)).mpr ⟨accepts_arpReceived false, rfl⟩

/-- With the flag left over the stack gets another frame: the payload has the type in it. -/
theorem not_always_delivered :
    ¬ ∀ (dev : Device Unit) (s s' : State Unit) (skb : EthSkb) (txb : Txb) (frag : Crypt.Skb),
        dev.rawTx = false → rtllibXmitInter dev s skb = some (.sent txb, s') →
        dev.iwMode = .adhoc → encrypts dev skb = false → txb.fragments = [frag] → 14 ≤ skb.len →
        ∀ (cfg : Rx.Config Unit) (env : Rx.Env Unit) (r : Rx.State Unit Unit) (frame : Rx.Skb),
          env.iwMode = .adhoc → OnAir dev frag frame → Accepts cfg env r frame →
          ∃ rxb, HandsOver cfg env r frame rxb ∧
            (Rx.rtllibIndicatePackets rxb).map packetBytes = [bytesAt skb.mem 0 skb.len] := by
  intro hall
  obtain ⟨txb, s', frag, hsent, hone, hdata⟩ := arpFrame_sent
  obtain ⟨rxb, hover, hbytes⟩ := hall adhocStation qosStart s' arpFrame txb frag rfl hsent rfl rfl
    hone (by decide) Rx.openConfig (adhocReceiver true) Rx.emptyCache arpReceived rfl
    (onAir_arpReceived hdata) (accepts_arpReceived true)
  have h := carries_of_sent rfl hsent rfl rfl hone (by decide) (onAir_arpReceived hdata)
  obtain ⟨-, rfl⟩ := (h.handsOver_iff rfl rxb).mp hover
  exact h.packetBytes_ne _ (List.head_eq_of_cons_eq hbytes)

end Rtl8190.Xmit
