import Rtl8190.Rx.FragCache

/-!
# Where the payload of a frame begins

`rtllib_rx` and `parse_subframe` count the length of the header each on its own, and
`parse_subframe` knows nothing of a fourth address.
-/

open Rtl8190.Memory

namespace Rtl8190.Rx

variable {ι κ : Type}

/-- Where `Frame_QoSTID` looks. -/
def qosOffset (hdr : Skb) : Nat := if toDs hdr.frameCtl ∧ fromDs hdr.frameCtl then 30 else 24

def fourAddr (hdr : Skb) : Prop := fromDs hdr.frameCtl ∧ toDs hdr.frameCtl

instance (hdr : Skb) : Decidable (fourAddr hdr) := inferInstanceAs (Decidable (_ ∧ _))

/-- `rtllib_rx` gets from `frame` to `parse_subframe`, with the whole frame `skb`. -/
structure Delivers [DecidableEq ι] (cfg : Config κ) (env : Env ι) (s : State ι κ) (frame skb : Skb) :
    Prop where
  filtered : (rxFilter cfg env s frame).1 = .pass
  whole : ∃ keyidx plain msdu p,
    (rxDecrypt cfg env (rxFilter cfg env s frame).2 frame).1 = some (keyidx, plain) ∧
    (rxReassemble cfg env (rxDecrypt cfg env (rxFilter cfg env s frame).2 frame).2 frame plain).1 =
      .msdu msdu p ∧
    (rxDecryptMsdu cfg env
      (rxReassemble cfg env (rxDecrypt cfg env (rxFilter cfg env s frame).2 frame).2 frame plain).2
      frame msdu keyidx).1 = some skb
  allowed : ¬ (unencrypted cfg env frame ∧ ¬ rtllibIsEapolFrame env skb (hdrlen env frame))
  rxbAlloc : env.rxbAlloc = true

/-- The two lengths agree, and the A-MSDU bit is in the field that has the TID. -/
structure HeaderAgrees (env : Env ι) (frame skb : Skb) : Prop where
  length : llcOffset skb (env.bContainHTC || htcCheck env frame) = hdrlen env frame
  qosField : qosHasSeq skb.frameCtl = true → qosOffset skb = 24

variable {cfg : Config κ} {env : Env ι} {s : State ι κ} {frame skb : Skb}

/-! ## A frame that is not fragmented -/

theorem rtllibGetHdrlen_ge (fc : BitVec 16) : 10 ≤ rtllibGetHdrlen fc := by
  unfold rtllibGetHdrlen
  split_ifs <;> omega

theorem decrypted_frameCtl (d : Decrypted) {n : Nat} (h : 2 ≤ n) :
    (skb.decrypted n d).frameCtl = skb.frameCtl := by
  unfold Skb.frameCtl Skb.le16 Skb.byte Skb.decrypted
  simp only [Nat.zero_add]
  rw [if_pos (by omega), if_pos (by omega)]
  rfl

theorem rxDecrypt_frameCtl {s : State ι κ} {keyidx : Nat} {plain : Skb}
    (h : (rxDecrypt cfg env s frame).1 = some (keyidx, plain)) :
    plain.frameCtl = frame.frameCtl := by
  have hsame {k : Nat} (hk : some (k, frame) = some (keyidx, plain)) :
      plain.frameCtl = frame.frameCtl := by
    cases hk
    rfl
  unfold rxDecrypt rtllibRxFrameDecrypt at h
  split at h
  · split at h
    · exact hsame h
    · split at h
      · exact hsame h
      · split at h
        · exact hsame h
        · split at h
          · cases h
          · obtain ⟨d, -, hd⟩ := Option.map_eq_some_iff.mp h
            cases hd
            exact decrypted_frameCtl d ((rtllibGetHdrlen_ge frame.frameCtl).trans' (by decide))
  · exact hsame h

theorem rxDecryptMsdu_frameCtl {s : State ι κ} {keyidx : Nat} {msdu : Skb}
    (h : (rxDecryptMsdu cfg env s frame msdu keyidx).1 = some skb) :
    skb.frameCtl = msdu.frameCtl := by
  have hsame (hk : some msdu = some skb) : skb.frameCtl = msdu.frameCtl := by
    cases hk
    rfl
  unfold rxDecryptMsdu rtllibRxFrameDecryptMsdu at h
  split at h
  · split at h
    · exact hsame h
    · split at h
      · exact hsame h
      · obtain ⟨n, -, rfl⟩ := Option.map_eq_some_iff.mp h
        rfl
  · exact hsame h

theorem Delivers.frameCtl [DecidableEq ι] (h : Delivers cfg env s frame skb) (hfrag : seqFrag frame.seqCtl = 0) :
    skb.frameCtl = frame.frameCtl := by
  -- It is delivered with its own header.
  obtain ⟨keyidx, plain, msdu, p, hplain, hmsdu, hskb⟩ := h.whole
  rw [rxDecryptMsdu_frameCtl hskb, ← rxDecrypt_frameCtl hplain]
  unfold rxReassemble at hmsdu
  simp only [hfrag, ne_eq, not_true_eq_false, false_or, false_and, if_false] at hmsdu
  by_cases hmore : moreFrags frame.frameCtl = true
  · -- A first fragment waits for the others.
    simp only [hmore, if_true] at hmsdu
    split at hmsdu
    · cases hmsdu
    · split at hmsdu
      · cases hmsdu
      · cases hmsdu
  · simp only [hmore] at hmsdu
    cases hmsdu
    rfl

/-! ## The two lengths -/

/-- The header of a reassembled frame, which is the one of its first fragment, goes with the header of
the last fragment. (The second case is a coincidence: the QoS field and an HT control field that is
not there make up for the fourth address.) -/
def HeadersMatch (env : Env ι) (frame skb : Skb) : Prop :=
  (qosHasSeq skb.frameCtl = true → ¬ fourAddr skb) ∧
  ((¬ fourAddr frame ∧ qosHasSeq skb.frameCtl = qosHasSeq frame.frameCtl ∧
      (env.bContainHTC = true → htcCheck env frame = true)) ∨
    (fourAddr frame ∧ qosHasSeq skb.frameCtl = true ∧ qosHasSeq frame.frameCtl = false ∧
      env.bContainHTC = true ∧ htcCheck env frame = false))

theorem qosOffset_eq_iff (hdr : Skb) : qosOffset hdr = 24 ↔ ¬ fourAddr hdr := by
  unfold qosOffset fourAddr
  constructor
  · rintro h ⟨hfrom, hto⟩
    rw [if_pos ⟨hto, hfrom⟩] at h
    cases h
  · intro h
    exact if_neg fun hds => h ⟨hds.2, hds.1⟩

theorem headerAgrees_iff_match (hdata : fcType frame.frameCtl = ftypeData) :
    HeaderAgrees env frame skb ↔ HeadersMatch env frame skb := by
  have hlength : llcOffset skb (env.bContainHTC || htcCheck env frame) = hdrlen env frame ↔
      (¬ fourAddr frame ∧ qosHasSeq skb.frameCtl = qosHasSeq frame.frameCtl ∧
        (env.bContainHTC = true → htcCheck env frame = true)) ∨
      (fourAddr frame ∧ qosHasSeq skb.frameCtl = true ∧ qosHasSeq frame.frameCtl = false ∧
        env.bContainHTC = true ∧ htcCheck env frame = false) := by
    unfold llcOffset hdrlen rtllibGetHdrlen
    rw [if_pos hdata]
    by_cases hfour : fourAddr frame
    · rw [if_pos (show fromDs frame.frameCtl = true ∧ toDs frame.frameCtl = true from hfour)]
      cases qosHasSeq skb.frameCtl <;> cases qosHasSeq frame.frameCtl <;>
        cases env.bContainHTC <;> cases htcCheck env frame <;> simp [hfour]
    · rw [if_neg (show ¬ (fromDs frame.frameCtl = true ∧ toDs frame.frameCtl = true) from hfour)]
      cases qosHasSeq skb.frameCtl <;> cases qosHasSeq frame.frameCtl <;>
        cases env.bContainHTC <;> cases htcCheck env frame <;> simp [hfour]
  unfold HeadersMatch
  rw [← hlength, and_comm]
  constructor
  · rintro ⟨hlen, hqos⟩
    exact ⟨hlen, fun h => (qosOffset_eq_iff skb).mp (hqos h)⟩
  · rintro ⟨hlen, hqos⟩
    exact ⟨hlen, fun h => (qosOffset_eq_iff skb).mpr (hqos h)⟩

/-- For a frame that is delivered on its own, the lengths agree just when it has no fourth address,
and no HT control field is counted that it does not have. For a reassembled one the header of the
first fragment has to go with that of the last. -/
theorem headerAgrees_iff [DecidableEq ι] (cfg : Config κ) (env : Env ι) (s : State ι κ) (frame skb : Skb)
    (h : Delivers cfg env s frame skb) (hdata : fcType frame.frameCtl = ftypeData) :
    HeaderAgrees env frame skb ↔
      if seqFrag frame.seqCtl = 0 then
        ¬ fourAddr frame ∧ (env.bContainHTC = true → htcCheck env frame = true)
      else HeadersMatch env frame skb := by
  rw [headerAgrees_iff_match hdata]
  split
  · rename_i hfrag
    have hfc := h.frameCtl hfrag
    unfold HeadersMatch fourAddr
    rw [hfc]
    constructor
    · rintro ⟨-, ⟨hthree, -, hhtc⟩ | ⟨-, hqos, hno, -⟩⟩
      · exact ⟨hthree, hhtc⟩
      · rw [hqos] at hno
        cases hno
    · rintro ⟨hthree, hhtc⟩
      exact ⟨fun _ => hthree, .inl ⟨hthree, rfl, hhtc⟩⟩
  · exact Iff.rfl

/-- A data frame of 60 bytes with or without a fourth address, from the access point. -/
def dsFrame (four : Bool) : Skb :=
  received (fun i => if i = 0 then 0x08 else if i = 1 then (if four then 0x03 else 0x02)
    else if i < 10 then 2 else if i < 16 then 4 else if i < 22 then 6
    else if i = 23 then 0x01 else 0) 60

theorem dsFrame_delivers (four : Bool) :
    Delivers openConfig openStation emptyCache (dsFrame four) (dsFrame four) where
  filtered := by cases four <;> decide
  whole := ⟨0, dsFrame four, dsFrame four, none, rfl, by cases four <;> rfl, rfl⟩
  allowed := by cases four <;> decide
  rxbAlloc := rfl

theorem headerAgrees_three : HeaderAgrees openStation (dsFrame false) (dsFrame false) := by
  apply (headerAgrees_iff openConfig openStation emptyCache (dsFrame false) (dsFrame false)
    (dsFrame_delivers false) (by decide)).mpr
  rw [if_pos (by decide)]
  exact ⟨by decide, fun h => by cases h⟩

/-- With a fourth address the payload is taken to begin with it. -/
theorem fourAddr_not_headerAgrees :
    Delivers openConfig openStation emptyCache (dsFrame true) (dsFrame true) ∧
      fcType (dsFrame true).frameCtl = ftypeData ∧
      llcOffset (dsFrame true) false = 24 ∧ hdrlen openStation (dsFrame true) = 30 ∧
      ¬ HeaderAgrees openStation (dsFrame true) (dsFrame true) := by
  refine ⟨dsFrame_delivers true, by decide, by decide, by decide, fun h => ?_⟩
  have hlength := h.length
  revert hlength
  decide

end Rtl8190.Rx
