import Rtl8190.Crypt.RoundTrip
import Rtl8190.Xmit.SeqNum

/-!
# The fragments fit

`rtllib_xmit_inter` counts out how many bytes a fragment can take, allocates the buffers, reserves
room for a cipher, and fills them. With WEP, TKIP, CCMP or no cipher every byte of the payload goes
into one fragment, and there is always room.
-/

open Rtl8190.Memory Rtl8190.TrafficStream Rtl8190.Crypt

namespace Rtl8190.Xmit

/-! ## The ciphers -/

/-- A cipher, and whether RC4 and Michael fail. AES does not. -/
inductive Cipher where
  | wep (prim : Tkip.Primitives) (arc4Fails : Bool)
  | tkip (prim : Tkip.Primitives) (arc4Fails michaelFails : Bool)
  | ccmp (aes : Ccmp.Key → Ccmp.Block → Ccmp.Block)

def Cipher.Priv : Cipher → Type
  | .wep .. => Wep.WepData
  | .tkip .. => Tkip.TkipData
  | .ccmp .. => Ccmp.CcmpData

/-- What a function of a cipher makes of a buffer: either the buffer has not the room that the
function asks for, or the header stays and no more than that room is taken. -/
def Encrypts (head tail : Nat) (skb : Skb) (hdrLen : Nat) : Option Skb → Prop
  | none => skb.headroom < head ∨ skb.tailroom < tail ∨ skb.len < hdrLen
  | some out => out.data.take hdrLen = skb.data.take hdrLen ∧ hdrLen ≤ out.len ∧
      skb.headroom ≤ out.headroom + head ∧ skb.tailroom ≤ out.tailroom + tail

section Encrypts

variable {skb : Skb} {hdrLen : Nat}

theorem encrypts_pushIv (h : hdrLen ≤ skb.len) (iv : List Byte) (tail : Nat) :
    Encrypts iv.length tail skb hdrLen (some (skb.pushIv hdrLen iv)) := by
  unfold Encrypts Skb.pushIv
  refine ⟨?_, ?_, Nat.sub_le_iff_le_add.mp le_rfl, Nat.le_add_right _ _⟩
  · simp only [List.append_assoc]
    exact List.take_left' (Skb.length_take_header h)
  · simp only [Skb.len, List.length_append, Skb.length_take_header h]
    omega

theorem encrypts_sealed (h : hdrLen ≤ skb.len) (iv body : List Byte) (n : Nat) :
    Encrypts iv.length n skb hdrLen (some (skb.sealed hdrLen iv body n)) := by
  unfold Encrypts
  refine ⟨?_, ?_, Nat.sub_le_iff_le_add.mp le_rfl, Nat.sub_le_iff_le_add.mp le_rfl⟩
  · unfold Skb.sealed
    simp only [List.append_assoc]
    exact List.take_left' (Skb.length_take_header h)
  · rw [Skb.len_sealed h]
    omega

theorem encrypts_setFrom_put (h : hdrLen ≤ skb.len) {iv tail : List Byte} {head n : Nat}
    (hiv : iv.length = head) (htail : tail.length = n) (body : List Byte) :
    Encrypts head n skb hdrLen
      (some (((skb.pushIv hdrLen iv).put tail).setFrom (hdrLen + head) body)) := by
  rw [← hiv, ← htail, Skb.setFrom_put_pushIv h]
  exact encrypts_sealed h iv body tail.length

theorem encrypts_put_setFrom (h : hdrLen ≤ skb.len) {iv tail : List Byte} {head n : Nat}
    (hiv : iv.length = head) (htail : tail.length = n) (body : List Byte) :
    Encrypts head n skb hdrLen
      (some (((skb.pushIv hdrLen iv).setFrom (hdrLen + head) body).put tail)) := by
  rw [← hiv, ← htail, Skb.put_setFrom_pushIv h]
  exact encrypts_sealed h iv _ tail.length

theorem encrypts_prism2WepEncrypt (prim : Tkip.Primitives) (wep : Wep.WepData) :
    Encrypts 4 4 skb hdrLen (Wep.prism2WepEncrypt prim false wep skb hdrLen).1 := by
  unfold Wep.prism2WepEncrypt
  by_cases hroom : skb.headroom < 4 ∨ skb.tailroom < 4 ∨ skb.len < hdrLen
  · rw [if_pos hroom]
    exact hroom
  · rw [if_neg hroom]
    have hfits : hdrLen ≤ skb.len := by omega
    simp only [Bool.false_eq_true, if_false]
    split
    · exact encrypts_pushIv hfits _ 4
    · exact encrypts_setFrom_put hfits rfl rfl _

theorem encrypts_rtllibCcmpEncrypt (aes : Ccmp.Key → Ccmp.Block → Ccmp.Block)
    (key : Ccmp.CcmpData) :
    Encrypts 8 8 skb hdrLen (Ccmp.rtllibCcmpEncrypt aes key skb hdrLen).1 := by
  unfold Ccmp.rtllibCcmpEncrypt
  by_cases hroom : skb.headroom < 8 ∨ skb.tailroom < 8 ∨ skb.len < hdrLen
  · rw [if_pos hroom]
    exact hroom
  · rw [if_neg hroom]
    have hfits : hdrLen ≤ skb.len := by omega
    simp only
    split
    · exact encrypts_pushIv hfits _ 8
    · apply encrypts_put_setFrom hfits
      · rfl
      · rw [List.length_take, List.length_ofFn]
        rfl

theorem encrypts_rtllibMichaelMicAdd (prim : Tkip.Primitives) (tkey : Tkip.TkipData) :
    Encrypts 0 8 skb hdrLen (Tkip.rtllibMichaelMicAdd prim false tkey skb hdrLen) := by
  unfold Tkip.rtllibMichaelMicAdd
  by_cases hroom : skb.tailroom < 8 ∨ skb.len < hdrLen
  · rw [if_pos hroom]
    exact .inr hroom
  · rw [if_neg hroom, if_neg Bool.false_ne_true]
    have hfits : hdrLen ≤ skb.len := by omega
    refine ⟨List.take_append_of_le_length hfits, ?_, le_rfl, Nat.sub_le_iff_le_add.mp le_rfl⟩
    unfold Skb.put Skb.len at *
    simp only [List.length_append]
    omega

theorem encrypts_rtllibTkipEncrypt (prim : Tkip.Primitives) (tkey : Tkip.TkipData) :
    Encrypts 8 4 skb hdrLen (Tkip.rtllibTkipEncrypt prim false tkey skb hdrLen).1 := by
  unfold Tkip.rtllibTkipEncrypt
  by_cases hroom : skb.headroom < 8 ∨ skb.tailroom < 4 ∨ skb.len < hdrLen
  · rw [if_pos hroom]
    exact hroom
  · rw [if_neg hroom]
    have hfits : hdrLen ≤ skb.len := by omega
    simp only [Bool.false_eq_true, and_false, if_false]
    cases hsec : skb.bHwSec with
    | true =>
      simp only [Skb.pushIv_bHwSec, hsec, if_true]
      exact encrypts_pushIv hfits _ 4
    | false =>
      simp only [Skb.pushIv_bHwSec, hsec, Bool.false_eq_true, if_false]
      exact encrypts_setFrom_put hfits rfl rfl _

end Encrypts

/-- A call whose primitive fails has put its fields into the frame before that, and what `arc4` or
`michael` is said to compute is what is left behind them. -/
def callResult {κ : Type} (fails : Bool) (skb : Skb) (r : Option Skb × κ) : Bool × Skb × κ :=
  match r.1 with
  | some out => (!fails, out, r.2)
  | none => (false, skb, r.2)

section CallResult

variable {κ : Type} {f : Bool} {skb : Skb} {hdrLen head tail : Nat} {r : Option Skb × κ}

theorem take_callResult (h : Encrypts head tail skb hdrLen r.1) :
    (callResult f skb r).2.1.data.take hdrLen = skb.data.take hdrLen := by
  unfold callResult
  cases hr : r.1 with
  | none => rfl
  | some out =>
    rw [hr] at h
    exact h.1

theorem callResult_of_room (h : Encrypts head tail skb hdrLen r.1) (hhead : head ≤ skb.headroom)
    (htail : tail ≤ skb.tailroom) (hfits : hdrLen ≤ skb.len) :
    (callResult f skb r).1 = (!f) ∧ hdrLen ≤ (callResult f skb r).2.1.len ∧
      skb.headroom ≤ (callResult f skb r).2.1.headroom + head ∧
      skb.tailroom ≤ (callResult f skb r).2.1.tailroom + tail := by
  unfold callResult
  cases hr : r.1 with
  | none =>
    rw [hr] at h
    unfold Encrypts at h
    omega
  | some out =>
    rw [hr] at h
    exact ⟨rfl, h.2⟩

end CallResult

def Cipher.arc4Fails : Cipher → Bool
  | .wep _ arc4Fails => arc4Fails
  | .tkip _ arc4Fails _ => arc4Fails
  | .ccmp _ => false

def Cipher.michaelFails : Cipher → Bool
  | .tkip _ _ michaelFails => michaelFails
  | _ => false

/-- `rtllib_crypt_wep`, `rtllib_crypt_tkip` and `rtllib_crypt_ccmp`. RC4 is not called for a frame
that the hardware encrypts. -/
def Cipher.ops : (c : Cipher) → CryptOps c.Priv
  | .wep prim arc4Fails =>
    { name := "WEP"
      extraPrefixLen := 4
      extraPostfixLen := 4
      encryptMsdu := none
      encryptMpdu := some fun wep skb hdrLen =>
        callResult (arc4Fails && !skb.bHwSec) skb (Wep.prism2WepEncrypt prim false wep skb hdrLen)
      msdu_header := nofun
      mpdu_header := by
        rintro _ ⟨⟩ wep skb hdrLen -
        exact take_callResult (encrypts_prism2WepEncrypt prim wep) }
  | .tkip prim arc4Fails michaelFails =>
    { name := "TKIP"
      extraPrefixLen := 4 + 4
      extraPostfixLen := 8 + 4
      encryptMsdu := some fun tkey skb hdrLen =>
        callResult michaelFails skb (Tkip.rtllibMichaelMicAdd prim false tkey skb hdrLen, tkey)
      encryptMpdu := some fun tkey skb hdrLen =>
        callResult (arc4Fails && !skb.bHwSec) skb (Tkip.rtllibTkipEncrypt prim false tkey skb hdrLen)
      msdu_header := by
        rintro _ ⟨⟩ tkey skb hdrLen -
        exact take_callResult (encrypts_rtllibMichaelMicAdd prim tkey)
      mpdu_header := by
        rintro _ ⟨⟩ tkey skb hdrLen -
        exact take_callResult (encrypts_rtllibTkipEncrypt prim tkey) }
  | .ccmp aes =>
    { name := "CCMP"
      extraPrefixLen := 8
      extraPostfixLen := 8
      encryptMsdu := none
      encryptMpdu := some fun key skb hdrLen =>
        callResult false skb (Ccmp.rtllibCcmpEncrypt aes key skb hdrLen)
      msdu_header := nofun
      mpdu_header := by
        rintro _ ⟨⟩ key skb hdrLen -
        exact take_callResult (encrypts_rtllibCcmpEncrypt aes key) }

/-- Neither call fails, but with its primitive. -/
structure Cipher.HasRoom (c : Cipher) (priv : c.Priv) (frag : Skb) (hdrLen : Nat) : Prop where
  msdu : (c.ops.msdu priv frag hdrLen).1 = !c.michaelFails
  mpdu : (c.ops.mpdu (c.ops.msdu priv frag hdrLen).2.2 (c.ops.msdu priv frag hdrLen).2.1 hdrLen).1 =
    !(c.arc4Fails && !(c.ops.msdu priv frag hdrLen).2.1.bHwSec)

theorem Cipher.hasRoom (c : Cipher) (priv : c.Priv) {frag : Skb} {hdrLen n : Nat}
    (hhead : c.ops.extraPrefixLen ≤ frag.headroom)
    (htail : c.ops.extraPostfixLen + n ≤ frag.tailroom) (hfits : hdrLen ≤ frag.len) :
    c.HasRoom priv frag hdrLen ∧ n ≤ (c.ops.msdu priv frag hdrLen).2.1.tailroom ∧
      n ≤ (c.ops.mpdu (c.ops.msdu priv frag hdrLen).2.2
        (c.ops.msdu priv frag hdrLen).2.1 hdrLen).2.1.tailroom := by
  -- The room that the cipher says it needs is what its functions ask for.
  cases c with
  | wep prim arc4Fails =>
    have htail' : 4 + n ≤ frag.tailroom := htail
    obtain ⟨hok, -, -, hleft⟩ := callResult_of_room (f := arc4Fails && !frag.bHwSec)
      (encrypts_prism2WepEncrypt prim priv) hhead (by omega) hfits
    refine ⟨⟨rfl, hok⟩, ?_, Nat.le_of_add_le_add_right ((Nat.add_comm n 4).trans_le ?_)⟩
    · change n ≤ frag.tailroom
      omega
    · exact htail'.trans hleft
  | tkip prim arc4Fails michaelFails =>
    have htail' : 4 + n + 8 ≤ frag.tailroom := (Nat.add_right_comm 4 n 8).trans_le htail
    -- The MIC takes the first eight bytes behind the frame, and leaves four for the ICV.
    obtain ⟨hmsdu, hfits', hhead', htail''⟩ :=
      callResult_of_room (f := michaelFails) (r := (Tkip.rtllibMichaelMicAdd prim false priv
        frag hdrLen, priv)) (encrypts_rtllibMichaelMicAdd prim priv) (Nat.zero_le _) (by omega) hfits
    generalize hm : callResult michaelFails frag (Tkip.rtllibMichaelMicAdd prim false priv
        frag hdrLen, priv) = m at hmsdu hfits' hhead' htail''
    obtain ⟨hmpdu, -, -, hleft⟩ := callResult_of_room (f := arc4Fails && !m.2.1.bHwSec)
      (encrypts_rtllibTkipEncrypt prim m.2.2) (hhead.trans hhead') (by omega) hfits'
    have hops : (Cipher.tkip prim arc4Fails michaelFails).ops.msdu priv frag hdrLen = m := hm
    refine ⟨⟨?_, ?_⟩, ?_, ?_⟩
    · rw [hops]
      exact hmsdu
    · rw [hops]
      exact hmpdu
    · rw [hops]
      omega
    · rw [hops]
      have hicv : n + 4 ≤ m.2.1.tailroom := by omega
      exact Nat.le_of_add_le_add_right (hicv.trans hleft)
  | ccmp aes =>
    have htail' : 8 + n ≤ frag.tailroom := htail
    obtain ⟨hok, -, -, hleft⟩ := callResult_of_room (f := false)
      (encrypts_rtllibCcmpEncrypt aes priv) hhead (by omega) hfits
    refine ⟨⟨rfl, hok⟩, ?_, Nat.le_of_add_le_add_right ((Nat.add_comm n 8).trans_le ?_)⟩
    · change n ≤ frag.tailroom
      omega
    · exact htail'.trans hleft

/-! ## The count of the bytes -/

theorem length_rtllibPutSnap (hProto : BitVec 16) : (rtllibPutSnap hProto).length = 8 := by
  unfold rtllibPutSnap
  split <;> rfl

theorem length_bytesAt (mem : Nat → Byte) (i n : Nat) : (bytesAt mem i n).length = n :=
  (List.length_map _).trans List.length_range

theorem getD_bytesAt (mem : Nat → Byte) (i : Nat) {j n : Nat} (h : j < n) :
    (bytesAt mem i n).getD j 0 = mem (i + j) := by
  unfold bytesAt
  rw [List.getD_eq_getElem?_getD, List.getElem?_map, List.getElem?_range h]
  rfl

theorem bytesAt_append (mem : Nat → Byte) (i m n : Nat) :
    bytesAt mem i m ++ bytesAt mem (i + m) n = bytesAt mem i (m + n) := by
  unfold bytesAt
  rw [List.range_add, List.map_append, List.map_map]
  simp only [Function.comp_def, Nat.add_assoc]

namespace Plan

section Counts

variable {κ : Type} (dev : Device κ) (p : Plan) (skb : EthSkb)

/-- What is reserved for the cipher in front of a fragment. -/
def prefixLen : Nat := if p.encrypt then dev.crypt.elim 0 (·.extraPrefixLen) else 0

def postfixLen : Nat := if p.encrypt then dev.crypt.elim 0 (·.extraPostfixLen) else 0

def fcsLen : Nat := if dev.reserveFcs then 4 else 0

def more (i : Nat) : Bool := decide (i + 1 < p.nrFrags dev)

def offset (i : Nat) : Nat := if i < p.nrFrags dev then i * p.bytesPerFrag dev - 8 else p.bytes - 8

def payload (i : Nat) : List Byte :=
  bytesAt skb.mem (skb.payloadAt + p.offset dev i) (p.payloadBytes dev i (p.more dev i))

/-- Fragment `i` between its header and what the cipher and the FCS put behind it -/
def body (i : Nat) : List Byte :=
  (if i = 0 then rtllibPutSnap p.etherType else []) ++ p.payload dev skb i

theorem overhead_eq :
    p.overhead dev = p.hdrLen + fcsLen dev + (p.prefixLen dev + p.postfixLen dev) := by
  unfold overhead prefixLen postfixLen fcsLen
  by_cases hencrypt : p.encrypt = true
  · simp only [if_pos hencrypt]
    cases dev.crypt <;> rfl
  · simp only [if_neg hencrypt]

theorem nrFrags_pos (hbytes : 0 < p.bytes) : 0 < p.nrFrags dev := by
  unfold nrFrags
  split
  · rename_i hmod
    have hdvd := Nat.dvd_of_mod_eq_zero hmod
    have hpos : 0 < p.bytesPerFrag dev := Nat.pos_of_ne_zero fun h0 => by
      rw [h0, zero_dvd_iff] at hdvd
      omega
    exact Nat.div_pos (Nat.le_of_dvd hbytes hdvd) hpos
  · exact Nat.succ_pos _

theorem bytes_eq (hpos : 0 < p.bytesPerFrag dev) (hbytes : 0 < p.bytes) :
    (p.nrFrags dev - 1) * p.bytesPerFrag dev + p.bytesLastFrag dev = p.bytes ∧
      p.bytesLastFrag dev ≤ p.bytesPerFrag dev := by
  have hdiv := Nat.div_add_mod' p.bytes (p.bytesPerFrag dev)
  have hnr := p.nrFrags_pos dev hbytes
  unfold nrFrags bytesLastFrag at *
  split
  · rename_i hmod
    rw [hmod, Nat.add_zero] at hdiv
    refine ⟨?_, le_rfl⟩
    rw [Nat.add_zero, Nat.sub_mul, Nat.one_mul, hdiv]
    exact Nat.sub_add_cancel (Nat.le_of_dvd hbytes (Nat.dvd_of_mod_eq_zero hmod))
  · exact ⟨hdiv, (Nat.mod_lt _ hpos).le⟩

theorem offset_succ (hfrag : 8 ≤ p.bytesPerFrag dev) (hbytes : 8 ≤ p.bytes) {i : Nat}
    (hi : i < p.nrFrags dev) :
    p.offset dev i + p.payloadBytes dev i (p.more dev i) = p.offset dev (i + 1) := by
  -- The next fragment goes on where this one ends.
  have hall := p.bytes_eq dev (by omega) (by omega)
  have hone : i ≠ 0 → p.bytesPerFrag dev ≤ i * p.bytesPerFrag dev :=
    fun h0 => Nat.le_mul_of_pos_left _ (Nat.pos_of_ne_zero h0)
  unfold offset payloadBytes more
  rw [if_pos hi]
  by_cases hnext : i + 1 < p.nrFrags dev
  · rw [decide_eq_true hnext, if_pos rfl, if_pos hnext, Nat.add_one_mul]
    by_cases h0 : i = 0
    · rw [if_pos h0, h0, Nat.zero_mul]
      omega
    · have := hone h0
      rw [if_neg h0]
      omega
  · have hlast : p.nrFrags dev - 1 = i := by omega
    rw [hlast] at hall
    rw [decide_eq_false hnext, if_neg Bool.false_ne_true, if_neg hnext]
    by_cases h0 : i = 0
    · rw [h0, Nat.zero_mul] at hall
      rw [if_pos h0, h0, Nat.zero_mul]
      omega
    · have := hone h0
      rw [if_neg h0]
      omega

theorem more_eq {rooms : List Skb} {i : Nat} (h : i + (rooms.length + 1) = p.nrFrags dev) :
    (!rooms.isEmpty) = p.more dev i := by
  unfold more
  cases rooms with
  | nil =>
    rw [List.length_nil] at h
    rw [decide_eq_false (by omega)]
    rfl
  | cons =>
    rw [List.length_cons] at h
    rw [decide_eq_true (by omega)]
    rfl

theorem offset_zero (hnr : 0 < p.nrFrags dev) : p.offset dev 0 = 0 := by
  unfold offset
  rw [if_pos hnr, Nat.zero_mul]

theorem offset_nrFrags : p.offset dev (p.nrFrags dev) = p.bytes - 8 := if_neg (Nat.lt_irrefl _)

theorem snap_le (hfrag : 8 ≤ p.bytesPerFrag dev) (hbytes : 8 ≤ p.bytes) :
    8 ≤ if p.more dev 0 then p.bytesPerFrag dev else p.bytesLastFrag dev := by
  have hall := p.bytes_eq dev (by omega) (by omega)
  have hnr := p.nrFrags_pos dev (by omega)
  unfold more
  by_cases hnext : 0 + 1 < p.nrFrags dev
  · rw [decide_eq_true hnext, if_pos rfl]
    exact hfrag
  · have hlast : p.nrFrags dev - 1 = 0 := by omega
    rw [hlast, Nat.zero_mul] at hall
    rw [decide_eq_false hnext, if_neg Bool.false_ne_true]
    omega

theorem length_body_le (hfrag : 8 ≤ p.bytesPerFrag dev) (hbytes : 8 ≤ p.bytes) (i : Nat) :
    (p.body dev skb i).length ≤ p.bytesPerFrag dev := by
  have hlast := (p.bytes_eq dev (by omega) (by omega)).2
  have hfull : (if p.more dev i then p.bytesPerFrag dev else p.bytesLastFrag dev) ≤
      p.bytesPerFrag dev := by
    split
    · exact le_rfl
    · exact hlast
  unfold body payload payloadBytes
  rw [List.length_append, length_bytesAt]
  split
  · rename_i h0
    have hsnap := p.snap_le dev hfrag hbytes
    rw [h0] at hfull ⊢
    rw [length_rtllibPutSnap]
    omega
  · exact (Nat.zero_add _).trans_le hfull

/-- Together the first fragments have the SNAP header and the payload up to where the next one
begins. -/
theorem flatMap_body (hfrag : 8 ≤ p.bytesPerFrag dev) (hbytes : 8 ≤ p.bytes) {n : Nat}
    (hn : n ≤ p.nrFrags dev) :
    (List.range n).flatMap (p.body dev skb) =
      (if n = 0 then [] else rtllibPutSnap p.etherType) ++
        bytesAt skb.mem skb.payloadAt (p.offset dev n) := by
  induction n with
  | zero =>
    rw [p.offset_zero dev (p.nrFrags_pos dev (by omega))]
    rfl
  | succ n ih =>
    rw [List.range_succ, List.flatMap_append, ih (by omega), List.flatMap_singleton,
      ← p.offset_succ dev hfrag hbytes (by omega), ← bytesAt_append, if_neg (Nat.succ_ne_zero n)]
    unfold body payload
    by_cases h0 : n = 0
    · rw [h0, p.offset_zero dev (p.nrFrags_pos dev (by omega))]
      rfl
    · rw [if_neg h0, if_neg h0, List.nil_append, List.append_assoc]

end Counts

end Plan

/-! ## One fragment -/

section Fragment

variable {κ : Type} {dev : Device κ} {p : Plan}

theorem skbPut_of_room {skb : Skb} {bs : List Byte} (h : bs.length ≤ skb.tailroom) :
    skbPut skb bs = some (skb.put bs) := by
  unfold skbPut
  exact if_pos h

theorem skbPutIf_of_room {c : Bool} {skb : Skb} {bs : List Byte}
    (h : (if c then bs.length else 0) ≤ skb.tailroom) :
    skbPutIf c skb bs = some (skb.put (if c then bs else [])) := by
  unfold skbPutIf
  cases c with
  | true => exact skbPut_of_room h
  | false => simp [Skb.put]

/-- The buffer of a fragment takes the headers and the payload, in front of what is left for the
cipher and the FCS. -/
theorem plainFragment_eq {size : Nat} (room : Room size) (i : Nat) (more : Bool) (sc : BitVec 16)
    (payload : List Byte) (hlen : p.hdrLen = if dev.qosActive then 26 else 24)
    (hsize : dev.txHeadroom + p.prefixLen dev + p.hdrLen + ((if i = 0 then 8 else 0) +
      payload.length) ≤ size) :
    ∃ plain, plainFragment dev p room.skb i more sc payload = some plain ∧
      plain.data = p.header dev more sc ++
        ((if i = 0 then rtllibPutSnap p.etherType else []) ++ payload) ∧
      p.prefixLen dev ≤ plain.headroom ∧
      size ≤ plain.tailroom + (dev.txHeadroom + p.prefixLen dev + p.hdrLen +
        ((if i = 0 then 8 else 0) + payload.length)) := by
  have hroom := room.size_le
  have hheader : (p.header dev more sc).length = p.hdrLen := header_length.trans hlen.symm
  have hsnap : (if i = 0 then (rtllibPutSnap p.etherType).length else 0) = if i = 0 then 8 else 0 := by
    rw [length_rtllibPutSnap]
  have hput : (if i = 0 then rtllibPutSnap p.etherType else []).length = if i = 0 then 8 else 0 := by
    rw [apply_ite List.length, length_rtllibPutSnap, List.length_nil]
  unfold plainFragment
  simp only [Option.bind_eq_bind]
  rw [skbPut_of_room, Option.bind_some, skbPutIf_of_room, Option.bind_some, skbPut_of_room]
  · refine ⟨_, rfl, ?_, ?_, ?_⟩
    · simp only [Skb.put, reserve, Room.skb, List.nil_append, decide_eq_true_eq, List.append_assoc]
    · exact Nat.le_add_left _ _
    · simp only [Skb.put, reserve, Room.skb, decide_eq_true_eq, hheader, hput]
      change _ ≤ room.tailroom - dev.txHeadroom - p.prefixLen dev - _ - _ - _ + _
      omega
  · simp only [Skb.put, reserve, Room.skb, decide_eq_true_eq, hheader, hput]
    change _ ≤ room.tailroom - dev.txHeadroom - p.prefixLen dev - _ - _
    omega
  · simp only [Skb.put, reserve, Room.skb, decide_eq_true_eq, hheader, hsnap]
    change _ ≤ room.tailroom - dev.txHeadroom - p.prefixLen dev - _
    omega
  · simp only [reserve, Room.skb, hheader]
    change _ ≤ room.tailroom - dev.txHeadroom - p.prefixLen dev
    omega

end Fragment

/-! ## The sequence number -/

section SeqNum

variable {κ : Type} {dev : Device κ} {p : Plan} {s : State κ}

/-- The walks over the transmit streams end, now and in later calls. -/
def Walkable (dev : Device κ) (s : State κ) : Prop := ∃ f, Good dev.iwMode .txDir s.ts f

theorem Walkable.getTxTs (h : Walkable dev s) (addr : Addr) (tid : Nat) :
    ∃ pTS s', Xmit.getTxTs dev s addr tid = some (pTS, s') ∧ Walkable dev s' := by
  obtain ⟨f, hf⟩ := h
  unfold Xmit.getTxTs
  rcases hf.getTs dev.qosSupported addr tid false with hno | ⟨r, ts, f', _, hfound, _, hg, _⟩
  · rcases hf.getTs dev.qosSupported addr tid true with hno' | ⟨r, ts, f', _, hadded, _, hg, _⟩
    · simp only [hno, hno']
      exact ⟨none, _, rfl, f, hf⟩
    · simp only [hno, hadded]
      exact ⟨some r, _, rfl, f', hg⟩
  · simp only [hfound]
    exact ⟨some r, s, rfl, f, hf⟩

theorem Walkable.fragSeqCtl (h : Walkable dev s) (fc : BitVec 16) (i : Nat) :
    ∃ sc s', Xmit.fragSeqCtl dev p s fc i = some (sc, s') ∧ Walkable dev s' := by
  unfold Xmit.fragSeqCtl
  split
  · unfold rtllibQuerySeqnum
    split
    · exact ⟨_, s, rfl, h⟩
    split
    · obtain ⟨pTS, s', hget, hs'⟩ := h.getTxTs p.addr1 p.priority
      rw [hget]
      cases pTS with
      | none => exact ⟨_, s', rfl, hs'⟩
      | some pTS => exact ⟨_, _, rfl, hs'⟩
    · exact ⟨_, s, rfl, h⟩
  · exact ⟨_, s, rfl, h⟩

end SeqNum

/-! ## All fragments -/

section Fits

variable {c : Cipher} {dev : Device c.Priv} {skb : EthSkb}

/-- How fragment `i` is made, and that it fits: `plain` before its encryption, and `frag` at the
end. -/
structure Fits (dev : Device c.Priv) (skb : EthSkb) (i : Nat) (sc : BitVec 16) (priv : c.Priv)
    (plain frag : Skb) : Prop where
  built : ∃ room : Room ((plan dev skb).fragSize + dev.txHeadroom),
    plainFragment dev (plan dev skb) room.skb i ((plan dev skb).more dev i) sc
      ((plan dev skb).payload dev skb i) = some plain
  data : plain.data = (plan dev skb).header dev ((plan dev skb).more dev i) sc ++
    (plan dev skb).body dev skb i
  onAir : (plan dev skb).hdrLen + (plan dev skb).prefixLen dev +
    ((plan dev skb).body dev skb i).length + (plan dev skb).postfixLen dev + Plan.fcsLen dev ≤
      (plan dev skb).fragSize
  headroom : (plan dev skb).prefixLen dev ≤ plain.headroom
  tailroom : (plan dev skb).postfixLen dev + Plan.fcsLen dev ≤ plain.tailroom
  encrypts : (plan dev skb).encrypt = true → c.HasRoom priv plain (plan dev skb).hdrLen
  finished : skbPutIf dev.reserveFcs
    (if (plan dev skb).encrypt then
      (rtllibEncryptFragment dev priv plain (plan dev skb).hdrLen).1 else plain)
    (List.ofFn dev.fcs) = some frag

theorem Cipher.overhead_le (c : Cipher) : c.ops.extraPrefixLen + c.ops.extraPostfixLen ≤ 20 := by
  cases c
  · exact Nat.le_of_ble_eq_true rfl
  · exact Nat.le_of_ble_eq_true rfl
  · exact Nat.le_of_ble_eq_true rfl

theorem bytesPerFrag_plan (huses : ∀ ops ∈ dev.crypt, ops = c.ops) (hfts : 256 ≤ dev.fts)
    (skb : EthSkb) :
    206 ≤ (plan dev skb).bytesPerFrag dev ∧
      (plan dev skb).overhead dev + (plan dev skb).bytesPerFrag dev = (plan dev skb).fragSize := by
  have hfrag : 256 ≤ (plan dev skb).fragSize := by
    unfold plan
    simp only
    split
    · decide
    · exact hfts
  have hover : (plan dev skb).overhead dev ≤ 50 := by
    have hhdr : (plan dev skb).hdrLen ≤ 26 := by
      unfold plan
      simp only
      split <;> decide
    have hcrypt : (if (plan dev skb).encrypt then
        dev.crypt.elim 0 fun ops => ops.extraPrefixLen + ops.extraPostfixLen else 0) ≤ 20 := by
      split
      · cases hops : dev.crypt with
        | none => exact Nat.zero_le _
        | some ops =>
          rw [huses ops hops]
          exact c.overhead_le
      · exact Nat.zero_le _
    have hfcs : (if dev.reserveFcs then 4 else 0) ≤ 4 := by
      split <;> decide
    unfold Plan.overhead
    omega
  unfold Plan.bytesPerFrag
  omega

theorem tailroom_rtllibEncryptFragment (hcrypt : dev.crypt = some c.ops) (priv : c.Priv)
    {frag : Skb} {hdrLen n : Nat} (hhead : c.ops.extraPrefixLen ≤ frag.headroom)
    (htail : c.ops.extraPostfixLen + n ≤ frag.tailroom) (hfits : hdrLen ≤ frag.len) :
    n ≤ (rtllibEncryptFragment dev priv frag hdrLen).1.tailroom := by
  obtain ⟨-, hmsdu, hmpdu⟩ := c.hasRoom priv hhead htail hfits
  unfold rtllibEncryptFragment
  rw [hcrypt]
  simp only
  split
  · exact (Nat.le_add_left _ _).trans htail
  split
  · exact hmpdu
  · exact hmsdu

theorem xmitFragment_fits (huses : ∀ ops ∈ dev.crypt, ops = c.ops) (hfts : 256 ≤ dev.fts)
    {s : State c.Priv} (hs : Walkable dev s) (skb : EthSkb) (i : Nat)
    (room : Room ((plan dev skb).fragSize + dev.txHeadroom)) :
    ∃ frag s', xmitFragment dev (plan dev skb) s room.skb i ((plan dev skb).more dev i)
        ((plan dev skb).payload dev skb i) = some (frag, s') ∧ Walkable dev s' ∧
      ∃ sc priv plain, Fits dev skb i sc priv plain frag := by
  obtain ⟨hpos, hall⟩ := bytesPerFrag_plan huses hfts skb
  have hlen : (plan dev skb).hdrLen = if dev.qosActive then 26 else 24 := rfl
  have hbody := (plan dev skb).length_body_le dev skb (by omega) (Nat.le_add_left 8 _) i
  have hparts : ((plan dev skb).body dev skb i).length =
      (if i = 0 then 8 else 0) + ((plan dev skb).payload dev skb i).length := by
    unfold Plan.body
    rw [List.length_append, apply_ite List.length, length_rtllibPutSnap, List.length_nil]
  rw [Plan.overhead_eq] at hall
  obtain ⟨sc, s₁, hsc, hs₁⟩ := hs.fragSeqCtl (p := plan dev skb)
    (if (plan dev skb).more dev i then (plan dev skb).fc ||| 0x0400 else (plan dev skb).fc) i
  obtain ⟨plain, hplain, hdata, hhead, htail⟩ := plainFragment_eq room i
    ((plan dev skb).more dev i) sc ((plan dev skb).payload dev skb i) hlen (by omega)
  have hfits : (plan dev skb).hdrLen ≤ plain.len := by
    unfold Skb.len
    rw [hdata, List.length_append, header_length, ← hlen]
    exact Nat.le_add_right _ _
  have hspare : (plan dev skb).postfixLen dev + Plan.fcsLen dev ≤ plain.tailroom := by omega
  have hops : (plan dev skb).encrypt = true → dev.crypt = some c.ops ∧
      (plan dev skb).prefixLen dev = c.ops.extraPrefixLen ∧
      (plan dev skb).postfixLen dev = c.ops.extraPostfixLen := by
    intro hencrypt
    have hsome : dev.crypt.isSome = true := by
      have henc : encrypts dev skb = true := hencrypt
      unfold encrypts at henc
      rw [Bool.and_eq_true] at henc
      exact henc.2
    obtain ⟨ops, hcrypt⟩ := Option.isSome_iff_exists.mp hsome
    obtain rfl := huses ops hcrypt
    unfold Plan.prefixLen Plan.postfixLen
    rw [if_pos hencrypt, if_pos hencrypt, hcrypt]
    exact ⟨rfl, rfl, rfl⟩
  obtain ⟨frag, hfinished⟩ : ∃ frag, skbPutIf dev.reserveFcs
      (if (plan dev skb).encrypt then
        (rtllibEncryptFragment dev s₁.priv plain (plan dev skb).hdrLen).1 else plain)
      (List.ofFn dev.fcs) = some frag := by
    refine ⟨_, skbPutIf_of_room ?_⟩
    rw [List.length_ofFn]
    change Plan.fcsLen dev ≤ _
    split
    · rename_i hencrypt
      obtain ⟨hcrypt, hpre, hpost⟩ := hops hencrypt
      exact tailroom_rtllibEncryptFragment hcrypt _ (hpre ▸ hhead) (hpost ▸ hspare) hfits
    · omega
  have hfit : Fits dev skb i sc s₁.priv plain frag :=
    { built := ⟨room, hplain⟩
      data := hdata
      onAir := by omega
      headroom := hhead
      tailroom := hspare
      encrypts := fun hencrypt => by
        obtain ⟨-, hpre, hpost⟩ := hops hencrypt
        exact (c.hasRoom _ (hpre ▸ hhead) (hpost ▸ hspare) hfits).1
      finished := hfinished }
  unfold xmitFragment
  simp only [Option.bind_eq_bind]
  rw [hsc, Option.bind_some, hplain, Option.bind_some]
  by_cases hencrypt : (plan dev skb).encrypt = true
  · simp only [if_pos hencrypt] at hfinished ⊢
    rw [hfinished]
    exact ⟨frag, _, rfl, hs₁, sc, s₁.priv, plain, hfit⟩
  · simp only [if_neg hencrypt] at hfinished ⊢
    rw [hfinished]
    exact ⟨frag, _, rfl, hs₁, sc, s₁.priv, plain, hfit⟩

theorem xmitLoop_fits (huses : ∀ ops ∈ dev.crypt, ops = c.ops) (hfts : 256 ≤ dev.fts)
    {s : State c.Priv} (hs : Walkable dev s) (skb : EthSkb) {i : Nat} {rooms : List Skb}
    (hrooms : ∀ skb' ∈ rooms,
      ∃ room : Room ((plan dev skb).fragSize + dev.txHeadroom), skb' = room.skb)
    (hcount : i + rooms.length = (plan dev skb).nrFrags dev) :
    ∃ frags s', xmitLoop dev (plan dev skb) skb.mem s i
        (skb.payloadAt + (plan dev skb).offset dev i) rooms = some (frags, s') ∧
      frags.length = rooms.length ∧
      ∀ j (hj : j < frags.length), ∃ sc priv plain, Fits dev skb (i + j) sc priv plain frags[j] := by
  -- The loop fills the buffers one after the other.
  induction rooms generalizing i s with
  | nil => exact ⟨[], s, rfl, rfl, nofun⟩
  | cons room rooms ih =>
    rw [List.length_cons] at hcount
    obtain ⟨room, rfl⟩ := hrooms room List.mem_cons_self
    obtain ⟨frag, s₁, hfrag, hs₁, hfit⟩ := xmitFragment_fits huses hfts hs skb i room
    obtain ⟨frags, s', hloop, hlen, hfits⟩ := ih hs₁
      (fun skb' h => hrooms skb' (List.mem_cons_of_mem _ h)) (i := i + 1) (by omega)
    have hmore : (!rooms.isEmpty) = (plan dev skb).more dev i := (plan dev skb).more_eq dev hcount
    have hpos := (bytesPerFrag_plan huses hfts skb).1
    have hnext := (plan dev skb).offset_succ dev (by omega) (Nat.le_add_left 8 _)
      (i := i) (by omega)
    refine ⟨frag :: frags, s', ?_, congrArg (· + 1) hlen, ?_⟩
    · unfold xmitLoop
      simp only [Option.bind_eq_bind, hmore]
      rw [Nat.add_assoc, hnext]
      change ((xmitFragment dev (plan dev skb) s room.skb i ((plan dev skb).more dev i)
        ((plan dev skb).payload dev skb i)).bind _) = _
      rw [hfrag, Option.bind_some, hloop]
      rfl
    · rintro (_ | j) hj
      · exact hfit
      · have hj' : j < frags.length := Nat.lt_of_succ_lt_succ hj
        have := hfits j hj'
        rwa [Nat.add_right_comm] at this

/-! ## Main result -/

theorem xmitRaw_ne_none {κ : Type} (dev : Device κ) (s : State κ) (skb : EthSkb) :
    ∃ r, xmitRaw dev s skb = some r := by
  -- A frame that is sent as it is has all the room that it needs.
  unfold xmitRaw
  split
  · exact ⟨_, rfl⟩
  split
  · rename_i room halloc
    obtain ⟨room', hroom⟩ := (rtllibAllocTxb_rooms halloc).2 room List.mem_cons_self
    have hput : (bytesAt skb.mem 0 skb.len).length ≤ room.tailroom := by
      rw [length_bytesAt, hroom]
      exact room'.size_le
    rw [skbPut_of_room hput]
    exact ⟨_, rfl⟩
  · exact ⟨_, rfl⟩

/-- The frame goes to the loop: there is a handler, it is long enough, it may go out as it is or is
encrypted, and there is memory for the fragments. -/
structure Taken {κ : Type} (dev : Device κ) (skb : EthSkb) : Prop where
  xmitHandler : dev.xmitHandler = true
  len : 8 ≤ skb.len
  plain : encrypts dev skb = false → dev.ieee8021x = true → dev.dropUnencrypted = true →
    skb.etherType = 0x888e
  txb : (rtllibAllocTxb dev ((plan dev skb).nrFrags dev)
    ((plan dev skb).fragSize + dev.txHeadroom)).isSome = true

/-- From a threshold of 256 on, without a cipher or with WEP, TKIP or CCMP, `rtllib_xmit_inter`
comes to an end. It divides by a positive number, the first fragment has room for the SNAP header,
the bodies of the fragments are that header and the payload, each fragment fits, and a frame that is
taken is sent. -/
theorem xmitInter_fits (c : Cipher) (dev : Device c.Priv) (huses : ∀ ops ∈ dev.crypt, ops = c.ops)
    (hfts : 256 ≤ dev.fts) (s : State c.Priv) (hts : TsReachable dev.iwMode s.ts) (skb : EthSkb) :
    0 < (plan dev skb).bytesPerFrag dev ∧
    (8 ≤ if (plan dev skb).more dev 0 then (plan dev skb).bytesPerFrag dev
      else (plan dev skb).bytesLastFrag dev) ∧
    (List.range ((plan dev skb).nrFrags dev)).flatMap ((plan dev skb).body dev skb) =
      rtllibPutSnap skb.etherType ++ bytesAt skb.mem skb.payloadAt (skb.len - skb.payloadAt) ∧
    ∃ outcome s', rtllibXmitInter dev s skb = some (outcome, s') ∧
      (∀ txb, outcome = .sent txb → dev.rawTx = false →
        txb.fragments.length = (plan dev skb).nrFrags dev ∧
        ∀ i (hi : i < txb.fragments.length),
          ∃ sc priv plain, Fits dev skb i sc priv plain txb.fragments[i]) ∧
      (dev.rawTx = false → ((∃ txb, outcome = .sent txb) ↔ Taken dev skb)) := by
  obtain ⟨hpos, -⟩ := bytesPerFrag_plan huses hfts skb
  have hbytes : 8 ≤ (plan dev skb).bytes := Nat.le_add_left 8 _
  have hnr := (plan dev skb).nrFrags_pos dev (by omega)
  refine ⟨by omega, (plan dev skb).snap_le dev (by omega) hbytes, ?_, ?_⟩
  · rw [(plan dev skb).flatMap_body dev skb (by omega) hbytes le_rfl, if_neg hnr.ne',
      Plan.offset_nrFrags]
    rfl
  · have hdropped {ok : Prop} (hno : ¬ ok) : (∃ txb, Outcome.dropped = .sent txb) ↔ ok := by
      refine iff_of_false ?_ hno
      rintro ⟨txb, ⟨⟩⟩
    unfold rtllibXmitInter
    split
    · rename_i hhandler
      refine ⟨_, _, rfl, nofun, fun _ => hdropped fun htaken => ?_⟩
      rw [htaken.xmitHandler] at hhandler
      cases hhandler
    rename_i hhandler
    split
    · rename_i hraw
      obtain ⟨⟨outcome, s'⟩, hr⟩ := xmitRaw_ne_none dev s skb
      have hnot : ¬ dev.rawTx = false := by
        rw [hraw]
        decide
      exact ⟨outcome, s', hr, fun _ _ hcooked => absurd hcooked hnot, fun hcooked => absurd hcooked hnot⟩
    split
    · rename_i hshort
      exact ⟨_, _, rfl, nofun, fun _ => hdropped fun htaken => absurd htaken.len (by omega)⟩
    rename_i hlong
    split
    · rename_i hplain
      obtain ⟨henc, h8021x, hdrop, htype⟩ := hplain
      exact ⟨_, _, rfl, nofun, fun _ => hdropped fun htaken =>
        htype (htaken.plain henc h8021x hdrop)⟩
    rename_i hplain
    simp only
    rw [if_neg (by omega)]
    cases halloc : rtllibAllocTxb dev ((plan dev skb).nrFrags dev)
        ((plan dev skb).fragSize + dev.txHeadroom) with
    | none =>
      refine ⟨_, _, rfl, nofun, fun _ => iff_of_false ?_ fun htaken => ?_⟩
      · rintro ⟨txb, ⟨⟩⟩
      · have hsome := htaken.txb
        rw [halloc] at hsome
        cases hsome
    | some rooms =>
      obtain ⟨hlen, hrooms⟩ := rtllibAllocTxb_rooms halloc
      obtain ⟨frags, s', hloop, hfrags, hfits⟩ := xmitLoop_fits huses hfts hts.good skb hrooms
        (i := 0) (by omega)
      rw [(plan dev skb).offset_zero dev hnr, Nat.add_zero] at hloop
      simp only [hloop]
      refine ⟨_, _, rfl, ?_, fun _ => iff_of_true ⟨_, rfl⟩ ⟨?_, by omega, ?_, ?_⟩⟩
      · rintro txb ⟨⟩ -
        refine ⟨hfrags.trans hlen, ?_⟩
        intro i hi
        have := hfits i hi
        rwa [Nat.zero_add] at this
      · simpa using hhandler
      · intro henc h8021x hdrop
        by_contra htype
        exact hplain ⟨henc, h8021x, hdrop, htype⟩
      · rw [halloc]
        rfl

end Fits

def softTkip : Cipher := .tkip simplePrimitives false false

/-- The QoS station with a key for TKIP, with room for the FCS and for the hardware. -/
def tkipStation : Device softTkip.Priv :=
  { qosStation with crypt := some softTkip.ops, reserveFcs := true, txHeadroom := 40 }

def tkipStart : State softTkip.Priv := { qosStart with priv := freshTkip fun _ => 0 }

theorem xmitInter_fits_two : ∃ txb s',
    rtllibXmitInter tkipStation tkipStart longFrame = some (.sent txb, s') ∧
      txb.fragments.length = 2 ∧ ∀ i (hi : i < txb.fragments.length),
        ∃ sc priv plain, Fits tkipStation longFrame i sc priv plain txb.fragments[i] := by
  have huses : ∀ ops ∈ tkipStation.crypt, ops = softTkip.ops := by
    rintro _ ⟨⟩
    rfl
  have hts : TsReachable tkipStation.iwMode tkipStart.ts := qosStart_reachable
  have htaken : Taken tkipStation longFrame :=
    ⟨rfl, by decide, by decide +kernel, by decide +kernel⟩
  obtain ⟨-, -, -, outcome, s', hrun, hsent, htaken'⟩ :=
    xmitInter_fits softTkip tkipStation huses (by decide) tkipStart hts longFrame
  obtain ⟨txb, rfl⟩ := (htaken' rfl).mpr htaken
  obtain ⟨hlen, hfits⟩ := hsent txb rfl rfl
  exact ⟨txb, s', hrun, hlen.trans (by decide +kernel), hfits⟩

end Rtl8190.Xmit
