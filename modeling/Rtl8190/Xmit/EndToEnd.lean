import Rtl8190.Xmit.Arrival

/-!
# An Ethernet frame from one station to the other

What comes out of `rtllib_rx` when it gets the fragments that `rtllib_xmit_inter` made. The sender
puts a MIC behind each of them, and the receiver looks for one behind the whole frame.
-/

open Rtl8190.Memory Rtl8190.Crypt

namespace Rtl8190.Xmit

variable {ι : Type}

/-! ## What the stack gets -/

/-- One frame was added to what went to the stack, and it is the one that the other stack sent. -/
def DeliversOnce {κ : Type} (r r' : Rx.State ι κ) (skb : EthSkb) : Prop :=
  ∃ rxb, r'.delivered = r.delivered ++ [rxb] ∧ r'.reorder = r.reorder ∧
    (Rx.rtllibIndicatePackets rxb).map packetBytes = [bytesAt skb.mem 0 skb.len]

section Stack

variable {κ : Type} {cfg : Rx.Config κ} {env : Rx.Env ι} {r r₂ r' : Rx.State ι κ} {skb : EthSkb}
  {frame msdu first : Rx.Skb}

theorem not_deliversOnce_of_quiet (h : Rx.Quiet r r') : ¬ DeliversOnce r r' skb := by
  rintro ⟨rxb, hdelivered, -⟩
  rw [h.delivered] at hdelivered
  have := congrArg List.length hdelivered
  simp at this

theorem hasPayload_of_opened (h : Rx.Opened first msdu
    (rtllibPutSnap skb.etherType ++ bytesAt skb.mem 14 (skb.len - 14))) :
    HasPayload skb 24 msdu := by
  have hsnap := length_rtllibPutSnap skb.etherType
  have hpayload : (bytesAt skb.mem 14 (skb.len - 14)).length = skb.len - 14 :=
    length_bytesAt _ _ _
  have hlen := h.len
  have hbody := h.body
  rw [List.length_append, hsnap, hpayload] at hlen hbody
  constructor
  · exact hlen
  · intro j hj
    rw [hbody j (by omega), List.getD_append _ _ _ _ (by omega)]
  · intro j hj
    rw [Nat.add_assoc, hbody (8 + j) (by omega), List.getD_append_right _ _ _ _ (by omega), hsnap,
      Nat.add_sub_cancel_left, getD_bytesAt _ _ hj]

theorem rxIndicate_delivers_iff [DecidableEq ι] {key : Rx.MsduKey}
    {protect protect' more more' : Bool} {frag frag' k : Nat} (hquiet : Rx.Quiet r r₂)
    (hframe : Rx.FragmentOf key protect more frag frame)
    (hmsdu : Rx.FragmentOf key protect' more' frag' msdu) (hsrc : key.src = skb.src)
    (hdst : key.dst = skb.dest) (hskb : Unicast skb)
    (hlen : msdu.len = 24 + (8 + (skb.len - 14) + 8 * k))
    (hpayload : k = 0 → HasPayload skb 24 msdu) (halloc : env.rxbAlloc = true) (p : Option Nat) :
    DeliversOnce r (Rx.rxIndicate cfg env r₂ frame msdu p).2 skb ↔
      Rx.unencrypted cfg env frame = false ∧ env.bContainHTC = false ∧ k = 0 := by
  -- A frame that is too long by `8 * k` bytes is not what was sent.
  have hindicate := Rx.rxIndicate_whole cfg env r₂ hframe hmsdu (by omega) p
  by_cases hallowed : Rx.unencrypted cfg env frame = false
  · rw [if_pos ⟨hallowed, halloc⟩, hsrc, hdst] at hindicate
    obtain ⟨hreorder, hdelivered⟩ := hindicate
    rw [hquiet.delivered] at hdelivered
    rw [hquiet.reorder] at hreorder
    constructor
    · rintro ⟨rxb, hadded, -, hbytes⟩
      rw [hdelivered] at hadded
      obtain rfl := List.singleton_injective (List.append_cancel_left hadded)
      refine ⟨hallowed, ?_⟩
      by_contra hno
      refine packetBytes_ne (k := k) (n := if env.bContainHTC then 4 else 0)
        ?_ ?_ ?_ _ (List.head_eq_of_cons_eq hbytes)
      · show msdu.len - _ + _ = _
        split <;> omega
      · split
        · exact .inr rfl
        · exact .inl rfl
      · cases hhtc : env.bContainHTC with
        | true => exact .inl rfl
        | false => exact .inr fun h0 => hno ⟨hhtc, h0⟩
    · rintro ⟨-, hhtc, h0⟩
      rw [hhtc] at hdelivered
      exact ⟨_, hdelivered, hreorder, (hpayload h0).packetBytes_eq hskb.header⟩
  · rw [if_neg (fun h => hallowed h.1)] at hindicate
    refine ⟨fun h => ?_, fun h => absurd h.1 hallowed⟩
    exact absurd h (not_deliversOnce_of_quiet (hquiet.trans hindicate))

end Stack

/-! ## The MIC -/

/-- What Michael gets: the addresses, the priority and the payload of the MSDU -/
def michaelMessage (skb : EthSkb) : List Byte :=
  skb.dest.bytes ++ skb.src.bytes ++ [0, 0, 0, 0] ++
    (rtllibPutSnap skb.etherType ++ bytesAt skb.mem 14 (skb.len - 14))

/-- The key with which the receiver verifies gives the MIC that the key of the sender gives. They
are different bytes of the whole key. -/
def Cipher.MicsAgree : (c : Cipher) → c.Priv → c.Priv → List Byte → Prop
  | .tkip prim _ _, tkey, rkey, message =>
    prim.michael (Tkip.michaelKey rkey.key 24) message =
      prim.michael (Tkip.michaelKey tkey.key 16) message
  | .wep _ _, _, _, _ => True
  | .ccmp _, _, _, _ => True

section Mic

variable {prim : Tkip.Primitives} {skb : EthSkb}

theorem michaelMic_plain {κ : Type} {dev : Device κ} (hdev : SoftwareIbss dev) {more : Bool}
    {sc : BitVec 16} {plain : Skb} (key : List Byte)
    (hdata : plain.data = (plan dev skb).header dev more sc ++
      (rtllibPutSnap skb.etherType ++ bytesAt skb.mem 14 (skb.len - 14))) :
    Tkip.michaelMic prim key plain 24 (plain.len - 24) =
      List.ofFn (prim.michael key (michaelMessage skb)) := by
  -- Both sides compute it over the same bytes.
  have hlen : (plan dev skb).hdrLen = if dev.qosActive then 26 else 24 := rfl
  have hhdr : ((plan dev skb).header dev more sc).length = 24 :=
    header_length.trans (if_neg (by simp [hdev.legacy]))
  have hheader : HasHeader dev (plan dev skb) more sc plain := by
    unfold HasHeader
    rw [hdata, hlen, ← header_length]
    exact List.take_left
  have hfc : plain.frameCtl = Rx.dataFrameCtl (encrypts dev skb) more := by
    rw [hheader.frameCtl hlen, hdev.fragFc]
  obtain ⟨-, -, hto, hfrom⟩ := Rx.dataFrameCtl_flags (encrypts dev skb) more
  obtain ⟨hqos, -, -⟩ := Rx.dataFrameCtl_qos (encrypts dev skb) more
  obtain ⟨haddr1, haddr2⟩ := hdev.addresses skb
  have hda : plain.bytes 4 6 = skb.dest.bytes := by
    unfold Skb.bytes
    rw [hdata, ← haddr1]
    rfl
  have hsa : plain.bytes 10 6 = skb.src.bytes := by
    unfold Skb.bytes
    rw [hdata, ← haddr2]
    rfl
  have hbody : plain.bytes 24 (plain.len - 24) =
      rtllibPutSnap skb.etherType ++ bytesAt skb.mem 14 (skb.len - 14) := by
    unfold Skb.bytes Skb.len
    rw [hdata, List.drop_left' hhdr, List.length_append, hhdr, Nat.add_sub_cancel_left,
      List.take_length]
  unfold Tkip.michaelMic Tkip.michaelMicHdr michaelMessage
  rw [hfc, hto, hfrom, hqos, hda, hsa, hbody]
  rfl

theorem len_trimEnd_rxSkb (hwsec : Bool) (mem : Nat → Byte) (len n : Nat) :
    ((rxSkb hwsec mem len).trimEnd n).len = len - n := by
  unfold Skb.trimEnd rxSkb Skb.len
  rw [List.length_take, List.length_map, List.length_range]
  omega

theorem rxDecryptMsdu_tkip {cfg : Rx.Config (Cipher.tkip prim false false).Priv} {slot : Fin 4}
    {env : Rx.Env ι} {frame : Rx.Skb} (msdu : Rx.Skb) (keyidx : Nat)
    (r : Rx.State ι (Cipher.tkip prim false false).Priv) (hhost : cfg.hostDecrypt = true)
    (hcrypt : cfg.crypt slot = some (Cipher.tkip prim false false).rxOps)
    (hselects : Rx.selectCrypt cfg env frame = some slot) (hwep : Rx.wep frame.frameCtl = true)
    (hhdr : Rx.rtllibGetHdrlen msdu.frameCtl = 24) :
    ∃ r', Rx.Quiet r r' ∧ Rx.rxDecryptMsdu cfg env r frame msdu keyidx =
      (match (Tkip.rtllibMichaelMicVerify prim false false (r.priv slot)
          (rxSkb env.hwsecActive msdu.byte msdu.len) 24).1 with
        | .ok out => some (msdu.trim out.len)
        | .failed => none
        | .oops => none, r') := by
  unfold Rx.rxDecryptMsdu Rx.rtllibRxFrameDecryptMsdu
  rw [if_pos ⟨hhost, hwep⟩, hselects]
  simp only [hcrypt, Option.bind_some, Cipher.rxOps, Cipher.decryptMsdu, Option.map_some, hhdr]
  refine ⟨_, ?_, congrArg₂ Prod.mk ?_ rfl⟩
  · exact ⟨rfl, rfl⟩
  · generalize (Tkip.rtllibMichaelMicVerify prim false false (r.priv slot)
      (rxSkb env.hwsecActive msdu.byte msdu.len) 24).1 = v
    cases v with
    | ok out => rfl
    | failed => rfl
    | oops => rfl

theorem rxDecryptMsdu_none {c : Cipher} {dev : Device c.Priv} {cfg : Rx.Config c.Priv}
    {slot : Fin 4} {env : Rx.Env ι} {key : Rx.MsduKey} {more : Bool} {frag : Nat}
    {frame msdu : Rx.Skb} {keyidx : Nat} (r : Rx.State ι c.Priv)
    (hpeers : encrypts dev skb = true → Peers c dev cfg slot)
    (hframe : Rx.FragmentOf key (encrypts dev skb) more frag frame)
    (hselects : encrypts dev skb = true → Rx.selectCrypt cfg env frame = some slot)
    (h0 : trailerLen c dev skb = 0) :
    Rx.rxDecryptMsdu cfg env r frame msdu keyidx = (some msdu, r) := by
  -- The other ciphers have none.
  have hwep := (Rx.dataFrameCtl_flags (encrypts dev skb) more).1
  rw [← hframe.frameCtl] at hwep
  unfold Rx.rxDecryptMsdu
  cases hencrypt : encrypts dev skb with
  | false =>
    rw [hencrypt] at hwep
    exact if_neg (by simp [hwep])
  | true =>
    rw [hencrypt] at hwep
    have hno : c.decryptMsdu = none := by
      have hmic : c.micLen = 0 := by
        unfold trailerLen at h0
        rwa [if_pos hencrypt] at h0
      cases c with
      | wep => rfl
      | tkip => cases hmic
      | ccmp => rfl
    unfold Rx.rtllibRxFrameDecryptMsdu
    rw [if_pos ⟨(hpeers hencrypt).hostDecrypt, hwep⟩, hselects hencrypt]
    simp only [(hpeers hencrypt).rxCrypt, Option.bind_some, Cipher.rxOps, hno, Option.map_none]

theorem unencrypted_eq_false {κ : Type} {cfg : Rx.Config κ} {env : Rx.Env ι} {key : Rx.MsduKey}
    {more : Bool} {frag : Nat} {frame : Rx.Skb} (h : Rx.FragmentOf key true more frag frame) :
    Rx.unencrypted cfg env frame = false := by
  have hwep := (Rx.dataFrameCtl_flags true more).1
  rw [← h.frameCtl] at hwep
  unfold Rx.unencrypted
  rw [hwep]
  simp

end Mic

/-! ## One fragment -/

section One

variable {c : Cipher} {dev : Device c.Priv} {cfg : Rx.Config c.Priv} {skb : EthSkb} {slot : Fin 4}
  {n : Nat} {s s₁ : State c.Priv} {r r₂ : Rx.State ι c.Priv} {plain : Skb}
  {call : Rx.Env ι × Rx.Skb} {out : Rx.Skb} {keyidx : Nat} {priv : Fin 4 → c.Priv}

theorem nrFrags_eq_one_iff (hpos : 8 ≤ (plan dev skb).bytesPerFrag dev) :
    (plan dev skb).nrFrags dev = 1 ↔ (plan dev skb).bytes ≤ (plan dev skb).bytesPerFrag dev := by
  have hbytes : 0 < (plan dev skb).bytes := Nat.lt_of_lt_of_le (by decide) (Nat.le_add_left 8 _)
  obtain ⟨hall, hlast⟩ := (plan dev skb).bytes_eq dev (by omega) hbytes
  constructor
  · intro hone
    rw [hone, Nat.sub_self, Nat.zero_mul, Nat.zero_add] at hall
    exact hall ▸ hlast
  · intro hle
    unfold Plan.nrFrags
    rcases hle.eq_or_lt with heq | hlt
    · rw [heq, Nat.mod_self, Nat.div_self (by omega)]
      rfl
    · rw [Nat.mod_eq_of_lt hlt, Nat.div_eq_of_lt hlt, if_neg hbytes.ne']

theorem body_one (hskb : Unicast skb) (hpos : 8 ≤ (plan dev skb).bytesPerFrag dev)
    (hone : (plan dev skb).nrFrags dev = 1) :
    (plan dev skb).body dev skb 0 =
      rtllibPutSnap skb.etherType ++ bytesAt skb.mem 14 (skb.len - 14) := by
  have hat : skb.payloadAt = 14 := if_neg (Nat.not_lt.mpr hskb.header)
  have hbytes : (plan dev skb).bytes - 8 = skb.len - 14 := by
    show skb.len - skb.payloadAt + 8 - 8 = _
    rw [hat, Nat.add_sub_cancel]
  have hall := (plan dev skb).flatMap_body dev skb hpos (Nat.le_add_left 8 _) hone.ge
  rw [List.range_one, List.flatMap_singleton, if_neg Nat.one_ne_zero, hat] at hall
  rw [hall, ← hone, Plan.offset_nrFrags, hbytes]
  rfl

theorem rxSkb_opened {hwsec : Bool} {first msdu : Rx.Skb} {header body : List Byte}
    (hheader : ∀ j < 24, first.byte j = header.getD j 0) (hlen : header.length = 24)
    (h : Rx.Opened first msdu body) : (rxSkb hwsec msdu.byte msdu.len).data = header ++ body := by
  -- The bytes of a frame that was opened.
  show (List.range msdu.len).map msdu.byte = header ++ body
  apply List.ext_getElem
  · rw [List.length_map, List.length_range, h.len, List.length_append, hlen]
  · intro j _ hj
    rw [List.length_append, hlen] at hj
    rw [List.getElem_map, List.getElem_range]
    rcases Nat.lt_or_ge j 24 with hin | hbehind
    · rw [h.header j hin, hheader j hin, List.getElem_append_left (by omega),
        List.getD_eq_getElem]
    · obtain ⟨k, rfl⟩ := Nat.exists_eq_add_of_le hbehind
      rw [h.body k (by omega), List.getElem_append_right (by omega), List.getD_eq_getElem _ _
        (by omega)]
      congr 1
      omega

theorem opened_trim {first msdu : Rx.Skb} {body tail : List Byte}
    (h : Rx.Opened first msdu (body ++ tail)) :
    Rx.Opened first (msdu.trim (msdu.len - tail.length)) body := by
  have hlen := h.len
  have hbody := h.body
  rw [List.length_append] at hlen hbody
  constructor
  · exact h.header
  · show min msdu.len (msdu.len - tail.length) = _
    omega
  · intro j hj
    exact (hbody j (by omega)).trans (List.getD_append _ _ _ _ hj)

variable [DecidableEq ι]

theorem delivers_one_tkip {prim : Tkip.Primitives}
    {dev : Device (Cipher.tkip prim false false).Priv}
    {cfg : Rx.Config (Cipher.tkip prim false false).Priv} {skb : EthSkb} {slot : Fin 4}
    {s s₁ : State (Cipher.tkip prim false false).Priv}
    {r r₂ : Rx.State ι (Cipher.tkip prim false false).Priv} {plain : Skb}
    {call : Rx.Env ι × Rx.Skb} {out : Rx.Skb} {keyidx : Nat}
    {priv : Fin 4 → (Cipher.tkip prim false false).Priv}
    (hdev : SoftwareIbss dev) (hpeers : Peers (.tkip prim false false) dev cfg slot)
    (hskb : Unicast skb) (hencrypt : encrypts dev skb = true)
    (hpos : 8 ≤ (plan dev skb).bytesPerFrag dev) (hone : (plan dev skb).nrFrags dev = 1)
    (hset : (r.priv slot).keySet = true)
    (h : FirstArrives (.tkip prim false false) dev cfg skb slot 0 s s₁ r plain call out keyidx priv)
    (hidle : Rx.Idle r r₂ (msduKeyOf s skb) 0 priv) (halloc : call.1.rxbAlloc = true) :
    DeliversOnce r (Rx.afterReassembly cfg call.1 r₂ call.2 out keyidx none).2 skb ↔
      (Cipher.tkip prim false false).MicsAgree s.priv (r.priv slot) (michaelMessage skb) ∧
        call.1.bContainHTC = false := by
  -- One fragment with a MIC is delivered if the MIC is right.
  have hmore : (plan dev skb).more dev 0 = false := decide_eq_false (by omega)
  have hframe := h.arrives.fragmentOf
  have hheader := h.arrives.header
  have hopened := h.arrives.decrypts.opened
  have hdata := h.data
  have hsame := h.arrives.sameKey hencrypt
  have hready : Ready plain 24 8 12 := by
    have hready := h.ready
    unfold Plan.prefixLen Plan.postfixLen at hready
    rw [if_pos (show (plan dev skb).encrypt = true from hencrypt),
      if_pos (show (plan dev skb).encrypt = true from hencrypt), hpeers.txCrypt] at hready
    exact hready
  have htrailer : trailer (.tkip prim false false) dev skb s.priv plain =
      Tkip.sentMic prim s.priv plain 24 := if_pos hencrypt
  rw [hmore] at hframe hheader hdata
  rw [hencrypt] at hframe
  rw [body_one hskb hpos hone] at hopened hdata
  rw [htrailer] at hopened
  have hbytes : (rxSkb call.1.hwsecActive out.byte out.len).data =
      plain.data ++ Tkip.sentMic prim s.priv plain 24 := by
    rw [rxSkb_opened hheader (header_length.trans (if_neg (by simp [hdev.legacy]))) hopened,
      hdata]
    exact (List.append_assoc _ _ _).symm
  have hwep := (Rx.dataFrameCtl_flags true false).1
  rw [← hframe.frameCtl] at hwep
  have hmsdu := hopened.fragmentOf hframe
  have hhdr := (Rx.dataFrameCtl_type true false).2.2
  rw [← hmsdu.frameCtl] at hhdr
  obtain ⟨r₃, hquiet, hmic⟩ := rxDecryptMsdu_tkip out keyidx r₂
    hpeers.hostDecrypt hpeers.rxCrypt (h.arrives.selects hencrypt) hwep hhdr
  have hkeySet : (r₂.priv slot).keySet = true := by
    rw [hidle.priv, hsame.keySet, hset]
  have hagree : Tkip.michaelMic prim (Tkip.michaelKey (r₂.priv slot).key 24) plain 24
        (plain.len - 24) = Tkip.sentMic prim s.priv plain 24 ↔
      (Cipher.tkip prim false false).MicsAgree s.priv (r.priv slot) (michaelMessage skb) := by
    unfold Tkip.sentMic
    rw [michaelMic_plain hdev _ hdata, michaelMic_plain hdev _ hdata, hidle.priv, hsame.key,
      List.ofFn_injective.eq_iff]
    rfl
  rw [Tkip.verify_eq hkeySet hready hbytes] at hmic
  unfold Rx.afterReassembly
  simp only [hmic]
  by_cases hright : Tkip.michaelMic prim (Tkip.michaelKey (r₂.priv slot).key 24) plain 24
      (plain.len - 24) = Tkip.sentMic prim s.priv plain 24
  · have htrimmed := opened_trim hopened
    have hpayload := hasPayload_of_opened htrimmed
    have hlen : ((rxSkb call.1.hwsecActive out.byte out.len).trimEnd 8).len =
        out.len - (Tkip.sentMic prim s.priv plain 24).length := by
      have hlength : (Tkip.sentMic prim s.priv plain 24).length = 8 := Tkip.length_sentMic
      rw [len_trimEnd_rxSkb, hlength]
    rw [if_pos hright]
    simp only [hlen]
    rw [rxIndicate_delivers_iff (k := 0) (hidle.quiet.trans hquiet) hframe
      (htrimmed.fragmentOf hframe) rfl rfl hskb hpayload.len (fun _ => hpayload) halloc none,
      unencrypted_eq_false hframe, ← hagree]
    tauto
  · rw [if_neg hright]
    refine iff_of_false (not_deliversOnce_of_quiet (hidle.quiet.trans hquiet)) fun hno => ?_
    exact hright (hagree.mpr hno.1)

end One

/-! ## The whole frame -/

section Ends

variable [DecidableEq ι] {c : Cipher} {dev : Device c.Priv} {skb : EthSkb} {s s' : State c.Priv}
  {txb : Txb} {cfg : Rx.Config c.Priv} {slot : Fin 4} {r r' : Rx.State ι c.Priv}
  {calls : List (Rx.Env ι × Rx.Skb)}

theorem Whole.deliversOnce_iff {first msdu : Rx.Skb} {last : Rx.Env ι × Rx.Skb}
    {r₂ : Rx.State ι c.Priv} {p : Option Nat} {more : Bool} (hskb : Unicast skb)
    (hpeers : encrypts dev skb = true → Peers c dev cfg slot)
    (h : Whole cfg dev skb slot (msduKeyOf s skb) r first
      (rtllibPutSnap skb.etherType ++ bytesAt skb.mem 14 (skb.len - 14)) last r₂ r' msdu p)
    (hfirst : Rx.FragmentOf (msduKeyOf s skb) (encrypts dev skb) more 0 first)
    (halloc : last.1.rxbAlloc = true) (h0 : trailerLen c dev skb = 0) :
    DeliversOnce r r' skb ↔
      Rx.unencrypted cfg last.1 last.2 = false ∧ last.1.bContainHTC = false := by
  obtain ⟨frag, hframe⟩ := h.fragmentOf
  obtain ⟨keyidx, hends⟩ := h.ends
  have hpayload := hasPayload_of_opened h.opened
  rw [hends]
  unfold Rx.afterReassembly
  simp only [rxDecryptMsdu_none r₂ hpeers hframe h.selects h0]
  rw [rxIndicate_delivers_iff (k := 0) h.quiet hframe (h.opened.fragmentOf hfirst) rfl rfl hskb
    hpayload.len (fun _ => hpayload) halloc p]
  tauto

theorem Whole.not_deliversOnce {prim : Tkip.Primitives}
    {dev : Device (Cipher.tkip prim false false).Priv}
    {cfg : Rx.Config (Cipher.tkip prim false false).Priv}
    {r r₂ r' : Rx.State ι (Cipher.tkip prim false false).Priv} {key : Rx.MsduKey}
    {first msdu : Rx.Skb} {total : List Byte} {last : Rx.Env ι × Rx.Skb} {p : Option Nat} {n : Nat}
    (hskb : Unicast skb) (hencrypt : encrypts dev skb = true) (hsrc : key.src = skb.src)
    (hdst : key.dst = skb.dest) (hpeers : Peers (.tkip prim false false) dev cfg slot)
    (h : Whole cfg dev skb slot key r first total last r₂ r' msdu p)
    (hfirst : Rx.FragmentOf key true true 0 first)
    (halloc : last.1.rxbAlloc = true)
    (hlen : total.length = 8 + (skb.len - 14) + 8 * (n + 2)) : ¬ DeliversOnce r r' skb := by
  -- The whole frame with a MIC of each of its fragments.
  obtain ⟨frag, hframe⟩ := h.fragmentOf
  obtain ⟨keyidx, hends⟩ := h.ends
  rw [hencrypt] at hframe
  have hmsdu := h.opened.fragmentOf hfirst
  have hwep := (Rx.dataFrameCtl_flags true false).1
  rw [← hframe.frameCtl] at hwep
  have hhdr := (Rx.dataFrameCtl_type true true).2.2
  rw [← hmsdu.frameCtl] at hhdr
  obtain ⟨r₃, hquiet, hmic⟩ := rxDecryptMsdu_tkip msdu keyidx r₂ hpeers.hostDecrypt
    hpeers.rxCrypt (h.selects hencrypt) hwep hhdr
  rw [hends]
  unfold Rx.afterReassembly
  simp only [hmic]
  generalize hv : (Tkip.rtllibMichaelMicVerify prim false false (r₂.priv slot)
    (rxSkb last.1.hwsecActive msdu.byte msdu.len) 24).1 = v
  cases v with
  | oops => exact not_deliversOnce_of_quiet (h.quiet.trans hquiet)
  | failed => exact not_deliversOnce_of_quiet (h.quiet.trans hquiet)
  | ok out =>
    have hout := Tkip.trimEnd_of_verify hv
    have holen : out.len = msdu.len - 8 := by
      rw [hout, len_trimEnd_rxSkb]
    have hmlen := h.opened.len
    have htrim : (msdu.trim out.len).len = 24 + (8 + (skb.len - 14) + 8 * (n + 1)) := by
      show min msdu.len out.len = _
      omega
    have htrimmed : Rx.FragmentOf key true true 0 (msdu.trim out.len) :=
      ⟨hmsdu.frameCtl, hmsdu.msduKey, hmsdu.seqFrag, by omega⟩
    simp only
    rw [rxIndicate_delivers_iff (k := n + 1) (h.quiet.trans hquiet) hframe htrimmed hsrc hdst hskb
      htrim (fun h0 => absurd h0 (Nat.succ_ne_zero n)) halloc p]
    rintro ⟨-, -, h0⟩
    exact Nat.succ_ne_zero n h0

/-- Without a MIC nothing is behind the payload, and a buffer for an MSDU is long enough. -/
theorem delivers_plain_iff (hdev : SoftwareIbss dev) (hskb : Unicast skb)
    (hsent : rtllibXmitInter dev s skb = some (.sent txb, s'))
    (hpeers : dev.crypt.isSome = true → Peers c dev cfg slot)
    (hsync : encrypts dev skb = true →
      Synced c skb slot txb.fragments.length s.priv (r.priv slot))
    (hfeeds : Feeds dev skb cfg (msduKeyOf s skb) txb.fragments r calls)
    (h0 : trailerLen c dev skb = 0) :
    ∃ last frag, calls.getLast? = some last ∧
      Rx.FragmentOf (msduKeyOf s skb) (encrypts dev skb) false frag last.2 ∧
      (DeliversOnce r (rxRun cfg r calls) skb ↔
        Rx.unencrypted cfg last.1 last.2 = false ∧ last.1.bContainHTC = false) := by
  have hpos := (bytesPerFrag_plan (Peers.uses hpeers) hdev.fts skb).1
  have hpeers' : encrypts dev skb = true → Peers c dev cfg slot :=
    fun h => hpeers (isSome_of_encrypts h)
  by_cases hone : (plan dev skb).nrFrags dev = 1
  · obtain ⟨call, s₁, plain, out, keyidx, priv, r₂, rfl, hfirst, hidle, hrun⟩ :=
      sent_one hdev hpeers hskb hsent hsync hfeeds hone
    have hmore : (plan dev skb).more dev 0 = false := decide_eq_false (by omega)
    have hframe := hfirst.arrives.fragmentOf
    have hopened := hfirst.arrives.decrypts.opened
    have htrailer := length_trailer c dev skb s.priv plain
    rw [h0, List.length_eq_zero_iff] at htrailer
    rw [hmore] at hframe
    rw [htrailer, List.append_nil, body_one hskb (by omega) hone] at hopened
    refine ⟨call, 0, rfl, hframe, ?_⟩
    have hwhole : Whole cfg dev skb slot (msduKeyOf s skb) r call.2
        (rtllibPutSnap skb.etherType ++ bytesAt skb.mem 14 (skb.len - 14)) call r₂
        (rxRun cfg r [call]) out none :=
      ⟨hidle.quiet, ⟨0, hframe⟩, hfirst.arrives.selects, hopened, keyidx, hrun⟩
    exact hwhole.deliversOnce_iff hskb hpeers' hframe (hfeeds.listens call List.mem_cons_self).rxbAlloc
      h0
  · obtain ⟨first, last, total, room, hlast, hroom, hframe, hlen, hdata, hends⟩ :=
      sent_several hdev hpeers hskb hsent hsync hfeeds hone
    obtain rfl := hdata h0
    have hmtu := hskb.mtu
    rw [h0, Nat.zero_mul, Nat.add_zero] at hlen
    rw [if_pos (by omega)] at hends
    obtain ⟨r₂, msdu, p, hwhole⟩ := hends
    obtain ⟨frag, hlastFrame⟩ := hwhole.fragmentOf
    refine ⟨last, frag, hlast, hlastFrame, ?_⟩
    exact hwhole.deliversOnce_iff hskb hpeers' hframe
      (hfeeds.listens last (List.mem_of_getLast? hlast)).rxbAlloc h0

theorem nrFrags_tkip_iff {prim : Tkip.Primitives}
    {dev : Device (Cipher.tkip prim false false).Priv} (hdev : SoftwareIbss dev)
    (hskb : Unicast skb) (hcrypt : dev.crypt = some (Cipher.tkip prim false false).ops)
    (hencrypt : encrypts dev skb = true) :
    (plan dev skb).nrFrags dev = 1 ↔
      24 + 8 + (8 + (skb.len - 14)) + 12 + Plan.fcsLen dev ≤ dev.fts := by
  -- When the frame with its MIC fits into one fragment.
  obtain ⟨hpos, hall⟩ := bytesPerFrag_plan (c := .tkip prim false false)
    (fun ops hops => Option.some.inj (hops.symm.trans hcrypt)) hdev.fts skb
  have hat : skb.payloadAt = 14 := if_neg (Nat.not_lt.mpr hskb.header)
  have hbytes : (plan dev skb).bytes = skb.len - 14 + 8 := by
    show skb.len - skb.payloadAt + 8 = _
    rw [hat]
  have hsize : (plan dev skb).fragSize = dev.fts := by
    refine if_neg ?_
    show ¬ (plan dev skb).addr1.isMulticast
    rw [(hdev.addresses skb).1]
    exact hskb.toOne
  have hoverhead : (plan dev skb).overhead dev = 24 + Plan.fcsLen dev + 20 := by
    rw [Plan.overhead_eq, hdev.hdrLen]
    unfold Plan.prefixLen Plan.postfixLen
    rw [if_pos (show (plan dev skb).encrypt = true from hencrypt),
      if_pos (show (plan dev skb).encrypt = true from hencrypt), hcrypt]
    rfl
  rw [nrFrags_eq_one_iff (by omega), hbytes]
  omega

theorem delivers_tkip_iff {prim : Tkip.Primitives}
    {dev : Device (Cipher.tkip prim false false).Priv}
    {cfg : Rx.Config (Cipher.tkip prim false false).Priv}
    {s s' : State (Cipher.tkip prim false false).Priv}
    {r : Rx.State ι (Cipher.tkip prim false false).Priv} (hdev : SoftwareIbss dev)
    (hskb : Unicast skb) (hencrypt : encrypts dev skb = true)
    (hsent : rtllibXmitInter dev s skb = some (.sent txb, s'))
    (hpeers : Peers (.tkip prim false false) dev cfg slot)
    (hsync : Synced (.tkip prim false false) skb slot txb.fragments.length s.priv (r.priv slot))
    (hfeeds : Feeds dev skb cfg (msduKeyOf s skb) txb.fragments r calls) :
    DeliversOnce r (rxRun cfg r calls) skb ↔ (plan dev skb).nrFrags dev = 1 ∧
      (Cipher.tkip prim false false).MicsAgree s.priv (r.priv slot) (michaelMessage skb) ∧
        ∀ last ∈ calls.getLast?, last.1.bContainHTC = false := by
  -- With a MIC there has to be one fragment.
  have hpos := (bytesPerFrag_plan (Peers.uses fun _ => hpeers) hdev.fts skb).1
  by_cases hone : (plan dev skb).nrFrags dev = 1
  · obtain ⟨call, s₁, plain, out, keyidx, priv, r₂, rfl, hfirst, hidle, hrun⟩ :=
      sent_one hdev (fun _ => hpeers) hskb hsent (fun _ => hsync) hfeeds hone
    rw [hrun, delivers_one_tkip hdev hpeers hskb hencrypt (by omega) hone hsync.inStep.keySet hfirst
      hidle (hfeeds.listens call List.mem_cons_self).rxbAlloc]
    constructor
    · rintro ⟨hmic, hhtc⟩
      refine ⟨hone, hmic, fun last hlast => ?_⟩
      cases Option.some.inj hlast
      exact hhtc
    · rintro ⟨-, hmic, hhtc⟩
      exact ⟨hmic, hhtc call rfl⟩
  · obtain ⟨first, last, total, room, hlast, -, hframe, hlen, -, hends⟩ :=
      sent_several hdev (fun _ => hpeers) hskb hsent (fun _ => hsync) hfeeds hone
    refine iff_of_false ?_ fun hno => hone hno.1
    have hnr := (plan dev skb).nrFrags_pos dev
      (Nat.lt_of_lt_of_le (by decide) (Nat.le_add_left 8 _))
    obtain ⟨n, hn⟩ := Nat.exists_eq_add_of_le' (show 2 ≤ (plan dev skb).nrFrags dev by omega)
    have height : trailerLen (.tkip prim false false) dev skb = 8 := if_pos hencrypt
    rw [height, hn] at hlen
    rw [hencrypt] at hframe
    split at hends
    · obtain ⟨r₂, msdu, p, hwhole⟩ := hends
      exact hwhole.not_deliversOnce hskb hencrypt rfl rfl hpeers hframe
        (hfeeds.listens last (List.mem_of_getLast? hlast)).rxbAlloc hlen
    · exact not_deliversOnce_of_quiet hends

end Ends

/-! ## Main result -/

/-- When the frame is delivered. With TKIP it goes out in one piece, with 24 bytes of header, 8 in
front of the payload and 12 behind it, and the two keys give the same MIC; without encryption no key
of the receiver forbids it; and no HT control field is left over from an earlier frame. -/
structure Deliverable (c : Cipher) (dev : Device c.Priv) (skb : EthSkb) (cfg : Rx.Config c.Priv)
    (tx rx : c.Priv) (calls : List (Rx.Env ι × Rx.Skb)) : Prop where
  oneMic : encrypts dev skb = true → c.ops.encryptMsdu.isSome = true →
    24 + 8 + (8 + (skb.len - 14)) + 12 + Plan.fcsLen dev ≤ dev.fts ∧
      c.MicsAgree tx rx (michaelMessage skb)
  allowed : encrypts dev skb = false → ∀ last ∈ calls.getLast?,
    Rx.unencrypted cfg last.1 last.2 = false
  noHtc : ∀ last ∈ calls.getLast?, last.1.bContainHTC = false

/-- When the addressed station gets the fragments of an Ethernet frame in order, it delivers the
frame once and as it was exactly when it is `Deliverable`. -/
theorem end_to_end_iff {ι : Type} [DecidableEq ι] {c : Cipher} {dev : Device c.Priv} {skb : EthSkb}
    {s s' : State c.Priv} {txb : Txb} {cfg : Rx.Config c.Priv} {slot : Fin 4}
    {r : Rx.State ι c.Priv} {calls : List (Rx.Env ι × Rx.Skb)} (hdev : SoftwareIbss dev)
    (hskb : Unicast skb) (hsent : rtllibXmitInter dev s skb = some (.sent txb, s'))
    (hpeers : dev.crypt.isSome = true → Peers c dev cfg slot)
    (hsync : encrypts dev skb = true →
      Synced c skb slot txb.fragments.length s.priv (r.priv slot))
    (hfeeds : Feeds dev skb cfg (msduKeyOf s skb) txb.fragments r calls) :
    DeliversOnce r (rxRun cfg r calls) skb ↔
      Deliverable c dev skb cfg s.priv (r.priv slot) calls := by
  by_cases h0 : trailerLen c dev skb = 0
  · obtain ⟨last, frag, hlast, hframe, hiff⟩ :=
      delivers_plain_iff hdev hskb hsent hpeers hsync hfeeds h0
    rw [hiff]
    constructor
    · rintro ⟨hallowed, hhtc⟩
      refine ⟨fun hencrypt hmic => ?_, fun _ last' h => ?_, fun last' h => ?_⟩
      · unfold trailerLen at h0
        rw [if_pos hencrypt] at h0
        cases c with
        | wep => cases hmic
        | tkip => cases h0
        | ccmp => cases hmic
      · cases Option.some.inj (hlast.symm.trans h)
        exact hallowed
      · cases Option.some.inj (hlast.symm.trans h)
        exact hhtc
    · intro h
      refine ⟨?_, h.noHtc last hlast⟩
      cases hencrypt : encrypts dev skb with
      | false => exact h.allowed hencrypt last hlast
      | true => exact unencrypted_eq_false (hencrypt ▸ hframe)
  · have hencrypt : encrypts dev skb = true := by
      by_contra hplain
      exact h0 (if_neg hplain)
    have hpeers := hpeers (isSome_of_encrypts hencrypt)
    have hsync := hsync hencrypt
    cases c with
    | wep => exact absurd (if_pos hencrypt) h0
    | ccmp => exact absurd (if_pos hencrypt) h0
    | tkip prim arc4Fails michaelFails =>
      obtain ⟨rfl, rfl, -⟩ := hpeers.works
      rw [delivers_tkip_iff hdev hskb hencrypt hsent hpeers hsync hfeeds,
        nrFrags_tkip_iff hdev hskb hpeers.txCrypt hencrypt]
      constructor
      · rintro ⟨hfits, hmic, hhtc⟩
        exact ⟨fun _ _ => ⟨hfits, hmic⟩,
          fun hplain => absurd (hencrypt.symm.trans hplain) (by simp), hhtc⟩
      · rintro ⟨hone, -, hhtc⟩
        obtain ⟨hfits, hmic⟩ := hone hencrypt rfl
        exact ⟨hfits, hmic, hhtc⟩

/-- A station of an ad-hoc network with a cipher, whose threshold is 256. -/
def adhocSender (c : Cipher) : Device c.Priv :=
  { qosStation with iwMode := .adhoc, qosActive := false, crypt := some c.ops }

def adhocStart (c : Cipher) (key : c.Priv) : State c.Priv := { qosStart with priv := key }

def adhocConfig (c : Cipher) : Rx.Config c.Priv :=
  { Rx.openConfig with hostDecrypt := true, crypt := fun _ => some c.rxOps }

def adhocEmpty (c : Cipher) (key : c.Priv) : Rx.State Unit c.Priv :=
  { Rx.emptyCache with priv := fun _ => key }

/-- An Ethernet frame of 314 bytes between them, which makes two fragments. -/
def longArp : EthSkb := { arpFrame with len := 314 }

def callOf (frag : Crypt.Skb) : Rx.Env Unit × Rx.Skb :=
  (adhocReceiver false, Rx.received (fun i => frag.data.getD i 0) frag.len)

theorem softwareIbss_adhocSender (c : Cipher) : SoftwareIbss (adhocSender c) :=
  ⟨rfl, rfl, rfl, rfl, rfl, le_rfl⟩

theorem unicast_longArp : Unicast longArp :=
  ⟨by decide, by decide, by decide, fun h => absurd (congrFun h 0) (by decide)⟩

theorem peers_adhoc {c : Cipher} (h : c.Works) (slot : Fin 4) :
    Peers c (adhocSender c) (adhocConfig c) slot :=
  ⟨h, rfl, rfl, rfl⟩

theorem feeds_adhoc (c : Cipher) (key : c.Priv) (msdu : Rx.MsduKey) (frags : List Crypt.Skb) :
    Feeds (adhocSender c) longArp (adhocConfig c) msdu frags (adhocEmpty c key)
      (frags.map callOf) where
  onAir := by
  -- The receiver has seen nothing yet.
    rw [List.forall₂_map_right_iff]
    exact List.forall₂_same.mpr fun frag _ => ⟨rfl, fun _ _ => rfl⟩
  listens call h := by
    obtain ⟨frag, -, rfl⟩ := List.mem_map.mp h
    have hdest : (adhocReceiver false).devAddr = longArp.dest := by decide
    exact ⟨rfl, hdest, rfl, rfl, rfl, 1600, rfl, by decide⟩
  inTime first hfirst call h := by
    obtain ⟨frag, -, rfl⟩ := List.mem_map.mp (List.mem_of_mem_head? hfirst)
    obtain ⟨frag', -, rfl⟩ := List.mem_map.mp (List.mem_of_mem_tail h)
    have hnow : Rx.timeAfter 1000 (1000 + 2 * 250) = false := by decide
    exact hnow
  inv := by
    have hempty : Rx.CacheEmpty (adhocEmpty c key) :=
      ⟨⟨fun _ _ => rfl, fun _ _ => Nat.zero_lt_succ 3⟩, Rx.emptyCache_empty.empty⟩
    exact ⟨hempty.toCacheOk, by simp [hempty.held], by simp [hempty.held]⟩
  absent entry h := by
    rw [List.eq_of_mem_replicate h]
    exact nofun
  fresh first hfirst := by
    obtain ⟨frag, -, rfl⟩ := List.mem_map.mp (List.mem_of_mem_head? hfirst)
    rfl

def sentCount {κ : Type} (dev : Device κ) (s : State κ) (skb : EthSkb) : Option Nat :=
  (rtllibXmitInter dev s skb).bind fun r => match r.1 with
    | .sent txb => some txb.fragments.length
    | _ => none

theorem exists_sent {κ : Type} (dev : Device κ) (s : State κ) (skb : EthSkb) {n : Nat}
    (h : sentCount dev s skb = some n) :
    ∃ txb s', rtllibXmitInter dev s skb = some (.sent txb, s') ∧ txb.fragments.length = n := by
  obtain ⟨⟨outcome, s'⟩, hr, hsent⟩ := Option.bind_eq_some_iff.mp h
  cases outcome with
  | sent txb => exact ⟨txb, s', hr, Option.some.inj hsent⟩
  | dropped => cases hsent
  | failed => cases hsent

def softWep : Cipher := .wep simplePrimitives false

def wepKey : softWep.Priv := (⟨0, [1, 2, 3, 4, 5], 3⟩ : Wep.WepData)

/-- Two fragments with WEP become the frame again. -/
theorem end_to_end_wep : ∃ txb s',
    rtllibXmitInter (adhocSender softWep) (adhocStart softWep wepKey) longArp =
      some (.sent txb, s') ∧ txb.fragments.length = 2 ∧
      DeliversOnce (adhocEmpty softWep wepKey)
        (rxRun (adhocConfig softWep) (adhocEmpty softWep wepKey) (txb.fragments.map callOf))
        longArp := by
  obtain ⟨txb, s', hsent, htwo⟩ := exists_sent (adhocSender softWep)
    (adhocStart softWep wepKey) longArp (n := 2) (by decide +kernel)
  have hworks : softWep.Works := ⟨rfl, streamCipher_simple⟩
  have hagree : Wep.Agree (⟨0, [1, 2, 3, 4, 5], 3⟩ : Wep.WepData) ⟨0, [1, 2, 3, 4, 5], 3⟩ :=
    ⟨by decide, rfl, rfl⟩
  have hsync : Synced softWep longArp 3 txb.fragments.length (adhocStart softWep wepKey).priv
      ((adhocEmpty softWep wepKey).priv 3) := ⟨rfl, hagree⟩
  refine ⟨txb, s', hsent, htwo, ?_⟩
  refine (end_to_end_iff (softwareIbss_adhocSender softWep) unicast_longArp hsent
    (fun _ => peers_adhoc hworks 3) (fun _ => hsync) (feeds_adhoc softWep wepKey _ _)).mpr
    ⟨fun _ => nofun, ?_, ?_⟩
  · exact fun hplain => absurd hplain (by decide +kernel)
  · intro last hlast
    obtain ⟨frag, -, rfl⟩ := List.mem_map.mp (List.mem_of_getLast? hlast)
    rfl

def tkipKey : softTkip.Priv := freshTkip fun _ => 3

theorem inStep_tkipKey (ta : Addr) :
    Tkip.InStep ta 2 (freshTkip fun _ => 3) (freshTkip fun _ => 3) where
  index := show (2 : Byte).toNat < 4 by decide
  sameIndex := rfl
  keySet := rfl
  temporal := fun _ _ => rfl
  newer := show Tkip.tsc 0 0 < Tkip.tsc 0 1 by decide
  lasts := show Tkip.tsc 0 1 + 2 < pnCount by decide
  txCoherent := nofun
  rxCoherent := nofun

/-- With TKIP they do not, though the two keys for Michael are the same. -/
theorem not_always_end_to_end : ¬ ∀ (c : Cipher) (dev : Device c.Priv) (s s' : State c.Priv)
    (skb : EthSkb) (txb : Txb) (cfg : Rx.Config c.Priv) (slot : Fin 4) (r : Rx.State Unit c.Priv)
    (calls : List (Rx.Env Unit × Rx.Skb)), SoftwareIbss dev → Unicast skb →
    rtllibXmitInter dev s skb = some (.sent txb, s') →
    (dev.crypt.isSome = true → Peers c dev cfg slot) →
    (encrypts dev skb = true → Synced c skb slot txb.fragments.length s.priv (r.priv slot)) →
    (encrypts dev skb = true → c.MicsAgree s.priv (r.priv slot) (michaelMessage skb)) →
    Feeds dev skb cfg (msduKeyOf s skb) txb.fragments r calls →
    DeliversOnce r (rxRun cfg r calls) skb := by
  intro hall
  obtain ⟨txb, s', hsent, htwo⟩ := exists_sent (adhocSender softTkip)
    (adhocStart softTkip tkipKey) longArp (n := 2) (by decide +kernel)
  have hpeers := peers_adhoc (c := softTkip) ⟨rfl, rfl, streamCipher_simple⟩ 2
  have hsync : Synced softTkip longArp 2 txb.fragments.length (adhocStart softTkip tkipKey).priv
      ((adhocEmpty softTkip tkipKey).priv 2) := by
    rw [htwo]
    exact ⟨rfl, inStep_tkipKey _⟩
  have hfeeds := feeds_adhoc softTkip tkipKey (msduKeyOf (adhocStart softTkip tkipKey) longArp)
    txb.fragments
  have hdelivers := hall softTkip (adhocSender softTkip) (adhocStart softTkip tkipKey) s' longArp
    txb (adhocConfig softTkip) 2 (adhocEmpty softTkip tkipKey) (txb.fragments.map callOf)
    (softwareIbss_adhocSender softTkip) unicast_longArp hsent (fun _ => hpeers) (fun _ => hsync)
    (fun _ => rfl) hfeeds
  have hencrypt : encrypts (adhocSender softTkip) longArp = true := by decide +kernel
  have hone : (plan (adhocSender softTkip) longArp).nrFrags (adhocSender softTkip) = 1 :=
    ((delivers_tkip_iff (softwareIbss_adhocSender softTkip) unicast_longArp hencrypt hsent hpeers
      hsync hfeeds).mp hdelivers).1
  have hnr : (plan (adhocSender softTkip) longArp).nrFrags (adhocSender softTkip) = 2 := by
    decide +kernel
  omega

end Rtl8190.Xmit
