import Mathlib.Data.List.Basic
import Rtl8190.Rx.Code

/-!
# A-MSDUs

What an A-MSDU is, as a list of bytes, and that `parse_subframe` takes it apart. It looks at the
header of the frame before it checks the length; `rtllib_rx` has dropped frames that are shorter
than their header.
-/

open Rtl8190.Memory

namespace Rtl8190.Rx

/-! ## The format -/

def be16 (x : BitVec 16) : List Byte := [(x >>> 8).setWidth 8, x.setWidth 8]

/-- How many bytes fill a subframe with this payload up to a multiple of four. -/
def paddingLength (n : Nat) : Nat := (4 - (n + 14) % 4) % 4

structure Subframe where
  /-- the two addresses -/
  addrs : List Byte
  payload : List Byte
  /-- what follows, unless this is the last subframe -/
  padding : List Byte
  addrs_length : addrs.length = 12
  payload_length : payload.length < 65536
  padding_length : padding.length = paddingLength payload.length

def Subframe.header (s : Subframe) : List Byte := s.addrs ++ be16 (BitVec.ofNat 16 s.payload.length)

def encode : List Subframe → List Byte
  | [] => []
  | [s] => s.header ++ s.payload
  | s :: t :: ss => s.header ++ s.payload ++ (s.padding ++ encode (t :: ss))

/-- The length in the header of the subframe at the start of the bytes. -/
def lengthAt (bs : List Byte) : Nat := (bs.getD 12 0 ++ bs.getD 13 0).toNat

/-- The loop of `parse_subframe` on bytes: the payloads, unless the bytes are malformed. -/
def decode : Nat → List Byte → Option (List (List Byte))
  | 0, _ => some []
  | room + 1, bs =>
    if 14 < bs.length then
      if bs.length < 14 + lengthAt bs then none
      else
        (if room = 0 ∨ bs.drop (14 + lengthAt bs) = [] then some []
          else if (bs.drop (14 + lengthAt bs)).length < paddingLength (lengthAt bs) then none
          else decode room ((bs.drop (14 + lengthAt bs)).drop (paddingLength (lengthAt bs)))).map
            ((bs.drop 14).take (lengthAt bs) :: ·)
    else some []

@[simp] theorem Subframe.length_header (s : Subframe) : s.header.length = 14 := by
  simp [Subframe.header, be16, s.addrs_length]

theorem getLsbD_append_byte (hi lo : Byte) (i : Nat) :
    (hi ++ lo : BitVec 16).getLsbD i = if i < 8 then lo.getLsbD i else hi.getLsbD (i - 8) :=
  BitVec.getLsbD_append

theorem be16_append (hi lo : Byte) : be16 (hi ++ lo) = [hi, lo] := by
  have hhi : ((hi ++ lo : BitVec 16) >>> 8).setWidth 8 = hi := by
    apply BitVec.eq_of_getLsbD_eq
    intro i hi'
    rw [BitVec.getLsbD_setWidth, BitVec.getLsbD_ushiftRight, getLsbD_append_byte,
      if_neg (by omega), Nat.add_sub_cancel_left]
    simp [hi']
  have hlo : (hi ++ lo : BitVec 16).setWidth 8 = lo := by
    apply BitVec.eq_of_getLsbD_eq
    intro i hi'
    rw [BitVec.getLsbD_setWidth, getLsbD_append_byte, if_pos hi']
    simp [hi']
  unfold be16
  rw [hhi, hlo]

theorem Subframe.header_length (s : Subframe) (rest : List Byte) :
    lengthAt (s.header ++ rest) = s.payload.length := by
  have h12 : (s.header ++ rest).getD 12 0 = (BitVec.ofNat 16 s.payload.length >>> 8).setWidth 8 := by
    simp [Subframe.header, be16, s.addrs_length]
  have h13 : (s.header ++ rest).getD 13 0 = (BitVec.ofNat 16 s.payload.length).setWidth 8 := by
    simp [Subframe.header, be16, List.getElem?_append_right, s.addrs_length]
  rw [lengthAt, h12, h13, hi_append_lo, BitVec.toNat_ofNat]
  exact Nat.mod_eq_of_lt s.payload_length

theorem encode_ne_nil {ss : List Subframe} (h : ss ≠ []) : encode ss ≠ [] := by
  cases ss with
  | nil => exact absurd rfl h
  | cons s ss =>
    intro hnil
    have hlength := congrArg List.length hnil
    cases ss <;> simp [encode] at hlength

theorem decode_cons (room : Nat) (s : Subframe) (rest : List Byte)
    (hlong : s.payload ≠ [] ∨ rest ≠ []) :
    decode (room + 1) (s.header ++ s.payload ++ rest) =
      (if room = 0 ∨ rest = [] then some []
        else if rest.length < paddingLength s.payload.length then none
        else decode room (rest.drop (paddingLength s.payload.length))).map (s.payload :: ·) := by
  -- One turn of the loop takes one subframe.
  have hlength : (s.header ++ s.payload ++ rest).length =
      14 + s.payload.length + rest.length := by simp [Nat.add_assoc]
  have hpos : 0 < s.payload.length + rest.length := by
    rcases hlong with h | h
    · have := List.length_pos_iff.mpr h
      omega
    · have := List.length_pos_iff.mpr h
      omega
  have hread := s.header_length (s.payload ++ rest)
  rw [← List.append_assoc] at hread
  have hpayload : ((s.header ++ s.payload ++ rest).drop 14).take s.payload.length = s.payload := by
    rw [List.append_assoc, List.drop_left' s.length_header, List.take_left' rfl]
  have hrest : (s.header ++ s.payload ++ rest).drop (14 + s.payload.length) = rest := by
    rw [List.drop_left']
    simp
  rw [decode, if_pos (by omega)]
  simp only [hread, hpayload, hrest]
  rw [if_neg (by omega)]

theorem decode_encode {ss : List Subframe} (hss : ss ≠ []) {room : Nat} (hroom : ss.length ≤ room)
    (hlast : (ss.getLast hss).payload ≠ []) :
    decode room (encode ss) = some (ss.map Subframe.payload) := by
  -- What was encoded is decoded.
  induction ss generalizing room with
  | nil => exact absurd rfl hss
  | cons s ss ih =>
    obtain ⟨room, rfl⟩ : ∃ n, room = n + 1 := ⟨room - 1, by simp at hroom; omega⟩
    cases ss with
    | nil =>
      have h := decode_cons room s [] (Or.inl (by simpa using hlast))
      rw [List.append_nil] at h
      rw [encode, h, if_pos (Or.inr rfl)]
      rfl
    | cons t ss =>
      have hmore : s.padding ++ encode (t :: ss) ≠ [] := by
        intro hnil
        exact encode_ne_nil (List.cons_ne_nil t ss) (List.append_eq_nil_iff.mp hnil).2
      have hroom' : (t :: ss).length ≤ room := by simpa using hroom
      have hroom0 : room ≠ 0 := by
        rintro rfl
        simp at hroom'
      rw [encode, decode_cons room s _ (Or.inr hmore), if_neg (by simp [hroom0, hmore]),
        if_neg (by simp [s.padding_length]), List.drop_left' s.padding_length,
        ih (List.cons_ne_nil t ss) hroom' (by simpa using hlast)]
      rfl

theorem take_fourteen {bs : List Byte} (h : 14 ≤ bs.length) :
    bs.take 14 = bs.take 12 ++ [bs.getD 12 0, bs.getD 13 0] := by
  have h12 := List.take_succ_eq_append_getElem (show 12 < bs.length by omega)
  have h13 := List.take_succ_eq_append_getElem (show 13 < bs.length by omega)
  refine h13.trans ?_
  rw [show bs.take 13 = _ from h12, List.append_assoc]
  simp [show 12 < bs.length by omega, show 13 < bs.length by omega]

theorem exists_subframe {bs : List Byte} (hfit : 14 + lengthAt bs ≤ bs.length)
    {padding : List Byte} (hpadding : padding.length = paddingLength (lengthAt bs)) :
    ∃ s : Subframe, s.payload = (bs.drop 14).take (lengthAt bs) ∧ s.padding = padding ∧
      s.header ++ s.payload = bs.take (14 + lengthAt bs) := by
  -- Bytes that are long enough for it begin with a subframe.
  have hlength : ((bs.drop 14).take (lengthAt bs)).length = lengthAt bs := by
    rw [List.length_take, List.length_drop]
    omega
  have hlt : lengthAt bs < 65536 := (bs.getD 12 0 ++ bs.getD 13 0).isLt
  let s : Subframe :=
    { addrs := bs.take 12
      payload := (bs.drop 14).take (lengthAt bs)
      padding := padding
      addrs_length := by
        rw [List.length_take]
        omega
      payload_length := by rwa [hlength]
      padding_length := by rwa [hlength] }
  refine ⟨s, rfl, rfl, ?_⟩
  have hheader : s.header = bs.take 14 := by
    have hofNat : BitVec.ofNat 16 s.payload.length = bs.getD 12 0 ++ bs.getD 13 0 := by
      show BitVec.ofNat 16 ((bs.drop 14).take (lengthAt bs)).length = _
      rw [hlength]
      simp [lengthAt]
    rw [Subframe.header, hofNat, be16_append, take_fourteen (by omega)]
  rw [hheader, List.take_add]

theorem decode_sound {room : Nat} {bs : List Byte} {payloads : List (List Byte)}
    (h : decode room bs = some payloads) :
    ∃ ss : List Subframe, ss.map Subframe.payload = payloads ∧ encode ss <+: bs := by
  -- What is decoded was encoded at the start of the bytes.
  induction room generalizing bs payloads with
  | zero =>
    cases h
    exact ⟨[], rfl, List.nil_prefix⟩
  | succ room ih =>
    by_cases hlong : 14 < bs.length
    · rw [decode, if_pos hlong] at h
      by_cases hfit : bs.length < 14 + lengthAt bs
      · rw [if_pos hfit] at h
        cases h
      rw [if_neg hfit] at h
      have hfit' : 14 + lengthAt bs ≤ bs.length := by omega
      obtain ⟨more, hmore, rfl⟩ := Option.map_eq_some_iff.mp h
      -- the subframe alone, which is then the last one
      have halone : more = [] → ∃ ss : List Subframe,
          ss.map Subframe.payload = (bs.drop 14).take (lengthAt bs) :: more ∧ encode ss <+: bs := by
        rintro rfl
        obtain ⟨s, hpayload, -, htake⟩ := exists_subframe hfit'
          (List.length_replicate (n := paddingLength (lengthAt bs)) (a := (0 : Byte)))
        refine ⟨[s], by rw [List.map_singleton, hpayload], ?_⟩
        rw [encode, htake]
        exact List.take_prefix _ _
      split at hmore
      · cases hmore
        exact halone rfl
      split at hmore
      · cases hmore
      next hpadding =>
      obtain ⟨ss, hss, hprefix⟩ := ih hmore
      cases ss with
      | nil => exact halone hss.symm
      | cons t ss =>
        obtain ⟨s, hpayload, hpad, htake⟩ := exists_subframe hfit'
          (List.length_take_of_le (not_lt.mp hpadding))
        refine ⟨s :: t :: ss, by rw [List.map_cons, hpayload, hss], ?_⟩
        rw [encode, htake, hpad]
        obtain ⟨tail, htail⟩ := hprefix
        refine ⟨tail, ?_⟩
        rw [List.append_assoc, List.append_assoc, htail, List.take_append_drop,
          List.take_append_drop]
    · rw [decode, if_neg hlong] at h
      cases h
      exact ⟨[], rfl, List.nil_prefix⟩

theorem decode_length {room : Nat} {bs : List Byte} {payloads : List (List Byte)}
    (h : decode room bs = some payloads) : payloads.length ≤ room := by
  induction room generalizing bs payloads with
  | zero =>
    cases h
    exact le_rfl
  | succ room ih =>
    unfold decode at h
    split at h
    · split at h
      · cases h
      obtain ⟨more, hmore, rfl⟩ := Option.map_eq_some_iff.mp h
      have hlength : more.length ≤ room := by
        split at hmore
        · cases hmore
          exact Nat.zero_le _
        split at hmore
        · cases hmore
        exact ih hmore
      rw [List.length_cons]
      omega
    · cases h
      exact Nat.zero_le _

/-! ## The loop -/

def Skb.bytes (skb : Skb) : List Byte := (List.range skb.len).map skb.byte

@[simp] theorem Skb.length_bytes (skb : Skb) : skb.bytes.length = skb.len := by simp [Skb.bytes]

theorem Skb.getElem_bytes (skb : Skb) {i : Nat} (h : i < skb.bytes.length) :
    skb.bytes[i] = skb.byte i := by simp [Skb.bytes]

theorem Skb.bytes_pull (skb : Skb) (n : Nat) : (skb.pull n).bytes = skb.bytes.drop n := by
  apply List.ext_getElem
  · simp [Skb.pull]
  · intro i h h'
    rw [List.getElem_drop, Skb.getElem_bytes, Skb.getElem_bytes]
    rfl

theorem Skb.bytes_trim (skb : Skb) (n : Nat) : (skb.trim n).bytes = skb.bytes.take n := by
  apply List.ext_getElem
  · simp [Skb.trim, Nat.min_comm]
  · intro i h h'
    rw [List.getElem_take, Skb.getElem_bytes, Skb.getElem_bytes]
    rfl

theorem Skb.lengthAt_bytes (skb : Skb) (h : 14 < skb.len) :
    lengthAt skb.bytes = (skb.byte 12 ++ skb.byte 13).toNat := by
  have hget : ∀ i < 14, skb.bytes.getD i 0 = skb.byte i := by
    intro i hi
    have hi' : i < skb.bytes.length := by
      rw [Skb.length_bytes]
      omega
    rw [List.getD_eq_getElem?_getD, List.getElem?_eq_getElem hi', Skb.getElem_bytes]
    rfl
  unfold lengthAt
  rw [hget 12 (by decide), hget 13 (by decide)]

theorem subframeLoop_bytes (room : Nat) (skb : Skb) (subframes : List Skb) :
    (subframeLoop room skb subframes).2.map (List.map Skb.bytes) =
      (decode room skb.bytes).map (subframes.map Skb.bytes ++ ·) := by
  -- The loop of `parse_subframe` decodes the bytes that are left of the frame.
  induction room generalizing skb subframes with
  | zero => simp [subframeLoop, decode]
  | succ room ih =>
    rw [decode, subframeLoop, Skb.length_bytes]
    by_cases hlong : 14 < skb.len
    · have hlength := skb.lengthAt_bytes hlong
      simp only [if_pos hlong]
      rw [← hlength]
      generalize lengthAt skb.bytes = length
      have hpad : (4 - (length + 14) % 4) % 4 = paddingLength length := rfl
      rw [hpad]
      by_cases hfit : skb.len < 14 + length
      · rw [if_pos hfit, if_pos hfit]
        rfl
      rw [if_neg hfit, if_neg hfit]
      have hpayload : ((skb.pull 14).trim length).bytes = (skb.bytes.drop 14).take length := by
        rw [Skb.bytes_trim, Skb.bytes_pull]
      have hrest : ((skb.pull 14).pull length).bytes = skb.bytes.drop (14 + length) := by
        rw [Skb.bytes_pull, Skb.bytes_pull, List.drop_drop]
      have hlen : (skb.bytes.drop (14 + length)).length = ((skb.pull 14).pull length).len := by
        rw [← hrest, Skb.length_bytes]
      have hnil : skb.bytes.drop (14 + length) = [] ↔ ((skb.pull 14).pull length).len = 0 := by
        rw [← hlen, List.length_eq_zero_iff]
      by_cases hroom : room = 0
      · rw [if_pos hroom, if_pos (Or.inl hroom)]
        simp [hpayload]
      rw [if_neg hroom]
      by_cases hempty : ((skb.pull 14).pull length).len = 0
      · rw [if_pos hempty, if_pos (Or.inr (hnil.mpr hempty)), ih, hrest, hnil.mpr hempty]
        obtain ⟨room, rfl⟩ := Nat.exists_eq_succ_of_ne_zero hroom
        simp [decode, hpayload]
      · rw [if_neg hempty, if_neg (show ¬ (room = 0 ∨ skb.bytes.drop (14 + length) = []) by
            rw [hnil]
            exact not_or.mpr ⟨hroom, hempty⟩), hlen]
        by_cases hpadding : ((skb.pull 14).pull length).len < paddingLength length
        · rw [if_pos hpadding, if_pos hpadding]
          rfl
        · rw [if_neg hpadding, if_neg hpadding, ih, Skb.bytes_pull, hrest]
          simp only [List.map_append, List.map_singleton, hpayload, Option.map_map]
          congr 1
          funext payloads
          simp
    · rw [if_neg hlong, if_neg hlong]
      simp

/-! ## The function and what it reads -/

/-- The `n` bytes at `i` of what is left of the frame, which was `pulled` so far. -/
def Skb.touch (pulled i n : Nat) : Reads Nat Unit := noteAll (fun k => pulled + i + k) n

/-- `subframeLoop` with the offsets in the frame that it reads. -/
def subframeReads : Nat → Nat → Skb → List Skb → Reads Nat (Skb × Option (List Skb))
  | 0, _, skb, subframes => pure (skb, some subframes)
  | room + 1, pulled, skb, subframes =>
    if 14 < skb.len then do
      Skb.touch pulled 12 2
      let length := (skb.byte 12 ++ skb.byte 13).toNat
      if skb.len < 14 + length then pure (skb, none)
      else do
        -- the `memcpy` of the payload
        Skb.touch pulled 14 length
        let skb := skb.pull 14
        let subframes := subframes ++ [skb.trim length]
        if room = 0 then pure (skb, some subframes)
        else
          let skb := skb.pull length
          let padding := (4 - (length + 14) % 4) % 4
          if skb.len = 0 then subframeReads room (pulled + 14 + length) skb subframes
          else if skb.len < padding then pure (skb, none)
          else subframeReads room (pulled + 14 + length + padding) (skb.pull padding) subframes
    else pure (skb, some subframes)

/-- The QoS control field says that the frame is an A-MSDU. -/
def isAggregate (skb : Skb) : Prop := qosHasSeq skb.frameCtl = true ∧ (skb.byte 24).getLsbD 7 = true

instance (skb : Skb) : Decidable (isAggregate skb) := inferInstanceAs (Decidable (_ ∧ _))

/-- The reads of the header: `frame_ctl`, `seq_ctl`, and the QoS control field if it has one. -/
def touchHeader (skb : Skb) : Reads Nat Unit := do
  Skb.touch 0 0 2
  Skb.touch 0 22 2
  if qosHasSeq skb.frameCtl then Skb.touch 0 24 2 else pure ()

def parseSubframeReads (skb : Skb) (bContainHTC : Bool) :
    Reads Nat (Skb × Option (List Skb)) := do
  touchHeader skb
  if skb.len ≤ llcOffset skb bContainHTC then pure (skb, none)
  else do
    let pulled := llcOffset skb bContainHTC
    if isAggregate skb then do
      let r ← subframeReads 64 pulled (skb.pull pulled) []
      pure (r.1, r.2.bind fun subframes => if subframes = [] then none else some subframes)
    else do
      -- `skb_copy`
      Skb.touch pulled 0 (skb.pull pulled).len
      pure (skb.pull pulled, some [skb.pull pulled])

@[simp] theorem within_touch {P : Nat → Prop} (pulled i n : Nat) :
    (Skb.touch pulled i n).Within P ↔ ∀ k < n, P (pulled + i + k) := within_noteAll _ _

theorem subframeReads_val (room pulled : Nat) (skb : Skb) (subframes : List Skb) :
    (subframeReads room pulled skb subframes).val = subframeLoop room skb subframes := by
  induction room generalizing pulled skb subframes with
  | zero => rfl
  | succ room ih => simp [subframeReads, subframeLoop, ih]

theorem parseSubframeReads_val (skb : Skb) (htc : Bool) :
    (parseSubframeReads skb htc).val = parseSubframe skb htc := by
  unfold parseSubframeReads parseSubframe isAggregate
  simp [subframeReads_val]

theorem subframeReads_within (room pulled : Nat) (skb : Skb) (subframes : List Skb) :
    (subframeReads room pulled skb subframes).Within (· < pulled + skb.len) := by
  -- The loop stays inside what is left of the frame.
  induction room generalizing pulled skb subframes with
  | zero => exact within_pure _
  | succ room ih =>
    unfold subframeReads
    rw [within_ite]
    refine ⟨fun hlong => ?_, fun _ => within_pure _⟩
    rw [within_bind, within_touch, within_ite]
    refine ⟨fun k hk => by omega, fun _ => within_pure _, fun hfit => ?_⟩
    have hmore := not_lt.mp hfit
    rw [within_bind, within_touch, within_ite]
    refine ⟨fun k hk => by omega, fun _ => within_pure _, fun _ => ?_⟩
    generalize (skb.byte 12 ++ skb.byte 13).toNat = length at hmore
    rw [within_ite, within_ite]
    have hpull : ((skb.pull 14).pull length).len = skb.len - 14 - length := rfl
    refine ⟨fun _ p hp => ?_, fun _ => ⟨fun _ => within_pure _, fun hpadding p hp => ?_⟩⟩
    · have h := ih _ _ _ p hp
      rw [hpull] at h
      omega
    · have h := ih _ _ _ p hp
      have hpull' (n : Nat) : (((skb.pull 14).pull length).pull n).len =
          skb.len - 14 - length - n := rfl
      rw [hpull'] at h
      rw [hpull] at hpadding
      omega

/-- The frame holds the header that its first bytes announce. -/
def headerComplete (skb : Skb) : Prop := 24 ≤ skb.len ∧ (qosHasSeq skb.frameCtl → 26 ≤ skb.len)

theorem touchHeader_within (skb : Skb) :
    (touchHeader skb).Within (· < skb.len) ↔ headerComplete skb := by
  unfold touchHeader headerComplete
  simp only [within_bind, within_touch, within_ite, within_pure, implies_true, and_true]
  constructor
  · rintro ⟨-, hseq, hqos⟩
    have h23 := hseq 1 (by decide)
    refine ⟨by omega, fun h => ?_⟩
    have h25 := hqos h 1 (by decide)
    omega
  · rintro ⟨h24, h26⟩
    refine ⟨fun k hk => by omega, fun k hk => by omega, fun h k hk => ?_⟩
    have := h26 h
    omega

theorem parseSubframeReads_within (skb : Skb) (htc : Bool) :
    (parseSubframeReads skb htc).Within (· < skb.len) ↔ headerComplete skb := by
  -- Only the header is read without a look at the length.
  unfold parseSubframeReads
  rw [within_bind, touchHeader_within, and_iff_left_iff_imp]
  intro _
  rw [within_ite]
  refine ⟨fun _ => within_pure _, fun hlong => ?_⟩
  have hpull : (skb.pull (llcOffset skb htc)).len = skb.len - llcOffset skb htc := rfl
  rw [within_ite, within_bind, within_bind, within_touch]
  refine ⟨fun _ => ⟨fun p hp => ?_, within_pure _⟩, fun _ => ⟨fun k hk => ?_, within_pure _⟩⟩
  · have hin := subframeReads_within _ _ _ _ p hp
    rw [hpull] at hin
    omega
  · rw [hpull] at hk
    omega

theorem parseSubframe_of_aggregate {skb : Skb} {htc : Bool} (hlong : llcOffset skb htc < skb.len)
    (haggregate : isAggregate skb) :
    (parseSubframe skb htc).2 =
      (subframeLoop 64 (skb.pull (llcOffset skb htc)) []).2.bind
        fun subframes => if subframes = [] then none else some subframes := by
  unfold isAggregate at haggregate
  simp only [parseSubframe, if_neg (not_le.mpr hlong), if_pos haggregate]

theorem parseSubframe_of_not_aggregate {skb : Skb} {htc : Bool}
    (hlong : llcOffset skb htc < skb.len) (haggregate : ¬ isAggregate skb) :
    (parseSubframe skb htc).2 = some [skb.pull (llcOffset skb htc)] := by
  unfold isAggregate at haggregate
  simp only [parseSubframe, if_neg (not_le.mpr hlong), if_neg haggregate]

theorem parseSubframe_of_short {skb : Skb} {htc : Bool} (h : skb.len ≤ llcOffset skb htc) :
    (parseSubframe skb htc).2 = none := by
  simp only [parseSubframe, if_pos h]

theorem parseSubframe_decode {skb : Skb} {htc : Bool} (hlong : llcOffset skb htc < skb.len)
    (haggregate : isAggregate skb) :
    (parseSubframe skb htc).2.map (List.map Skb.bytes) =
      (decode 64 (skb.bytes.drop (llcOffset skb htc))).bind
        fun payloads => if payloads = [] then none else some payloads := by
  -- Of an aggregate, the result is the decoding of what follows the header.
  have hloop := subframeLoop_bytes 64 (skb.pull (llcOffset skb htc)) []
  rw [Skb.bytes_pull] at hloop
  rw [parseSubframe_of_aggregate hlong haggregate]
  generalize (subframeLoop 64 (skb.pull (llcOffset skb htc)) []).2 = result at hloop
  generalize decode 64 (skb.bytes.drop (llcOffset skb htc)) = payloads at hloop
  cases result with
  | none =>
    cases payloads with
    | none => rfl
    | some payloads => cases hloop
  | some subframes =>
    cases payloads with
    | none => cases hloop
    | some payloads =>
      have heq : subframes.map Skb.bytes = payloads := by simpa using hloop
      subst heq
      cases subframes <;> rfl

theorem parseSubframe_encode {skb : Skb} {htc : Bool} (haggregate : isAggregate skb)
    {header : List Byte} (hheader : header.length = llcOffset skb htc) {ss : List Subframe}
    (hss : ss ≠ []) (hroom : ss.length ≤ 64) (hlast : (ss.getLast hss).payload ≠ [])
    (hskb : skb.bytes = header ++ encode ss) :
    (parseSubframe skb htc).2.map (List.map Skb.bytes) = some (ss.map Subframe.payload) := by
  have hlong : llcOffset skb htc < skb.len := by
    have hlength := congrArg List.length hskb
    have hpos := List.length_pos_iff.mpr (encode_ne_nil hss)
    rw [Skb.length_bytes, List.length_append] at hlength
    omega
  rw [parseSubframe_decode hlong haggregate, hskb, List.drop_left' hheader,
    decode_encode hss hroom hlast, Option.bind_some, if_neg (by simpa using hss)]

/-- What the function returns is in the frame behind the header: the payloads of an A-MSDU, or all
of the payload. -/
theorem parseSubframe_sound {skb : Skb} {htc : Bool} {result : List Skb}
    (h : (parseSubframe skb htc).2 = some result) :
    if isAggregate skb then ∃ ss : List Subframe, ss ≠ [] ∧ ss.length ≤ 64 ∧
      result.map Skb.bytes = ss.map Subframe.payload ∧
      encode ss <+: skb.bytes.drop (llcOffset skb htc)
    else result.map Skb.bytes = [skb.bytes.drop (llcOffset skb htc)] := by
  by_cases hlong : skb.len ≤ llcOffset skb htc
  · rw [parseSubframe_of_short hlong] at h
    cases h
  have hlong := not_le.mp hlong
  split
  next haggregate =>
    have hdecode := parseSubframe_decode hlong haggregate
    rw [h, Option.map_some] at hdecode
    obtain ⟨payloads, hpayloads, hsome⟩ := Option.bind_eq_some_iff.mp hdecode.symm
    split at hsome
    · cases hsome
    next hne =>
    cases hsome
    obtain ⟨ss, hss, hprefix⟩ := decode_sound hpayloads
    refine ⟨ss, ?_, ?_, hss.symm, hprefix⟩
    · rintro rfl
      exact hne hss.symm
    · rw [← List.length_map (f := Subframe.payload), hss]
      exact decode_length hpayloads
  next haggregate =>
    rw [parseSubframe_of_not_aggregate hlong haggregate] at h
    cases h
    simp [Skb.bytes_pull]

/-- An A-MSDU comes apart into its payloads. From other bytes comes nothing, or what they begin
with; and the reads stay inside the frame if its header does. -/
theorem parse_subframe_exact (skb : Skb) (bContainHTC : Bool) :
    (parseSubframeReads skb bContainHTC).val = parseSubframe skb bContainHTC ∧
    (∀ (header : List Byte) (ss : List Subframe) (hss : ss ≠ []), isAggregate skb →
      header.length = llcOffset skb bContainHTC → ss.length ≤ 64 →
      (ss.getLast hss).payload ≠ [] → skb.bytes = header ++ encode ss →
      (parseSubframe skb bContainHTC).2.map (List.map Skb.bytes) =
        some (ss.map Subframe.payload)) ∧
    ((parseSubframeReads skb bContainHTC).Within (· < skb.len) ↔ headerComplete skb) ∧
    ∀ result, (parseSubframe skb bContainHTC).2 = some result →
      if isAggregate skb then ∃ ss : List Subframe, ss ≠ [] ∧ ss.length ≤ 64 ∧
        result.map Skb.bytes = ss.map Subframe.payload ∧
        encode ss <+: skb.bytes.drop (llcOffset skb bContainHTC)
      else result.map Skb.bytes = [skb.bytes.drop (llcOffset skb bContainHTC)] := by
  refine ⟨parseSubframeReads_val skb bContainHTC, ?_, parseSubframeReads_within skb bContainHTC,
    fun result h => parseSubframe_sound h⟩
  intro header ss hss haggregate hheader hroom hlast hskb
  exact parseSubframe_encode haggregate hheader hss hroom hlast hskb

def Skb.ofBytes (bs : List Byte) : Skb := ⟨fun i => ⟨bs.getD i 0, none⟩, bs.length⟩

/-- A QoS data frame with an A-MSDU of two subframes, the first with one byte of padding. -/
def twoSubframes : List Subframe :=
  [⟨List.replicate 12 1, [7, 8, 9, 10, 11], [0], rfl, by decide, rfl⟩,
    ⟨List.replicate 12 2, [12], [0], rfl, by decide, rfl⟩]

def amsduHeader : List Byte := 0x88 :: List.replicate 23 0 ++ [0x80, 0]

theorem parse_subframe_exact_two :
    (parseSubframe (Skb.ofBytes (amsduHeader ++ encode twoSubframes)) false).2.map
      (List.map Skb.bytes) = some [[7, 8, 9, 10, 11], [12]] :=
  (parse_subframe_exact (Skb.ofBytes (amsduHeader ++ encode twoSubframes)) false).2.1 amsduHeader
    twoSubframes (by decide) (by decide) (by decide) (by decide) (by decide) (by decide)

/-- Ten bytes hold no header: `seq_ctl` is behind their end. -/
theorem parse_subframe_reads_past_end :
    ¬ (parseSubframeReads (Skb.ofBytes (List.replicate 10 0)) false).Within
      (· < (Skb.ofBytes (List.replicate 10 0)).len) := by
  decide

end Rtl8190.Rx
