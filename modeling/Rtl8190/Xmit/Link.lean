import Rtl8190.Crypt.InStep
import Rtl8190.Rx.InOrder
import Rtl8190.Xmit.Delivery

/-!
# One fragment on its way

A cipher as `rtllib_rx` calls it, and a fragment from its encryption in `rtllib_xmit_inter` to what
`rtllib_rx` has of it before the reassembly.
-/

open Rtl8190.Memory Rtl8190.Crypt Function

namespace Rtl8190.Xmit

/-! ## The ciphers of the receiver -/

/-- The frame as a cipher gets it from the receive path -/
def rxSkb (hwsec : Bool) (mem : Nat → Byte) (len : Nat) : Skb :=
  ⟨0, (List.range len).map mem, 0, hwsec, 0⟩

def Cipher.decryptMpdu : (c : Cipher) → c.Priv → Skb → Nat → c.Priv × Option (Nat × Skb)
  | .wep prim arc4Fails, key, skb, hdrLen =>
    (key, (Wep.prism2WepDecrypt prim arc4Fails key skb hdrLen).toOption.map fun out => (0, out))
  | .tkip prim arc4Fails _, tkey, skb, hdrLen =>
    let r := Tkip.rtllibTkipDecrypt prim arc4Fails tkey skb hdrLen
    (r.2, r.1.toOption.map fun out => (out.1.toNat, out.2))
  | .ccmp aes, key, skb, hdrLen =>
    let r := Ccmp.rtllibCcmpDecrypt aes key skb hdrLen
    (r.2, r.1.toOption.map fun out => (out.1.toNat, out.2))

/-- `decrypt_msdu`, if there is one. A crash of the kernel counts as an error. -/
def Cipher.decryptMsdu : (c : Cipher) → Option (c.Priv → Skb → Nat → c.Priv × Option Skb)
  | .tkip prim _ michaelFails =>
    some fun tkey skb hdrLen =>
      let r := Tkip.rtllibMichaelMicVerify prim michaelFails false tkey skb hdrLen
      (r.2, match r.1 with
        | .ok out => some out
        | .failed => none
        | .oops => none)
  | .wep .. => none
  | .ccmp .. => none

/-- `rtllib_crypt_wep`, `rtllib_crypt_tkip` and `rtllib_crypt_ccmp` for the receive path -/
def Cipher.rxOps (c : Cipher) : Rx.CryptOps c.Priv where
  name := c.ops.name
  decryptMpdu := some fun priv hwsec mem len hdrlen =>
    let r := c.decryptMpdu priv (rxSkb hwsec mem len) hdrlen
    (r.1, r.2.map fun out => ⟨out.1, fun j => out.2.byte (hdrlen + j), out.2.len⟩)
  decryptMsdu := c.decryptMsdu.map fun decryptMsdu priv hwsec mem len _ hdrlen =>
    let r := decryptMsdu priv (rxSkb hwsec mem len) hdrlen
    (r.1, r.2.map (·.len))

/-! ## Two contexts -/

/-- Nothing that the cipher calls fails, and RC4 undoes itself. -/
def Cipher.Works : Cipher → Prop
  | .wep prim arc4Fails => arc4Fails = false ∧ StreamCipher prim.arc4
  | .tkip prim arc4Fails michaelFails =>
    arc4Fails = false ∧ michaelFails = false ∧ StreamCipher prim.arc4
  | .ccmp .. => True

def Cipher.keyIdx : (c : Cipher) → c.Priv → Byte
  | .wep _ _, key => key.keyIdx
  | .tkip _ _ _, tkey => tkey.keyIdx
  | .ccmp _, key => key.keyIdx

/-- The receiver has the same key, and can take the next `n` frames of the transmitter `ta`. -/
def Cipher.InStep (ta : Addr) (n : Nat) : (c : Cipher) → c.Priv → c.Priv → Prop
  | .wep _ _, key, rkey => Wep.Agree key rkey
  | .tkip _ _ _, tkey, rkey => Tkip.InStep ta n tkey rkey
  | .ccmp _, key, rkey => Ccmp.InStep n key rkey

/-- What `encrypt_msdu` puts behind a frame -/
def Cipher.mic : (c : Cipher) → c.Priv → Skb → Nat → List Byte
  | .tkip prim _ _, tkey, skb, hdrLen => Tkip.sentMic prim tkey skb hdrLen
  | .wep _ _, _, _, _ => []
  | .ccmp _, _, _, _ => []

def Cipher.micLen : Cipher → Nat
  | .tkip .. => 8
  | .wep .. => 0
  | .ccmp .. => 0

theorem Cipher.length_mic (c : Cipher) (priv : c.Priv) (skb : Skb) (hdrLen : Nat) :
    (c.mic priv skb hdrLen).length = c.micLen := by
  cases c with
  | wep => rfl
  | tkip => exact Tkip.length_sentMic
  | ccmp => rfl

/-- What a received frame leaves as it is, as far as the MIC needs it -/
def Cipher.SameKey : (c : Cipher) → c.Priv → c.Priv → Prop
  | .tkip _ _ _, rkey, rkey' => Tkip.SameKey rkey rkey'
  | .wep _ _, _, _ => True
  | .ccmp _, _, _ => True

/-- The frame `plain` has become `e`, and the receiver makes `plain` and its MIC of that. -/
structure Cipher.Transfers (c : Cipher) (n : Nat) (tx rx : c.Priv) (plain : Skb) (hdrLen : Nat)
    (e : Skb × c.Priv) : Prop where
  len : hdrLen + 4 ≤ e.1.len
  header : e.1.data.take hdrLen = plain.data.take hdrLen
  slot : (e.1.byte (hdrLen + 3)).toNat / 64 = (c.keyIdx tx).toNat
  keyIdx : c.keyIdx e.2 = c.keyIdx tx
  opens : ∃ keyidx skb rx', c.decryptMpdu rx (onAir e.1.data) hdrLen = (rx', some (keyidx, skb)) ∧
    skb.data = plain.data ++ c.mic tx plain hdrLen ∧ c.InStep plain.addr2 n e.2 rx' ∧
    c.SameKey rx rx'

theorem keyOctet_toNat {keyIdx : Byte} (h : keyIdx.toNat < 4) :
    (keyIdx <<< 6).toNat / 64 = keyIdx.toNat ∧
      (keyIdx <<< 6 ||| 0x20).toNat / 64 = keyIdx.toNat := by
  revert h
  revert keyIdx
  decide

section Transfers

variable {plain : Skb} {hdrLen n : Nat}

theorem callResult_some {κ : Type} {skb out : Skb} {r : Option Skb × κ} (h : r.1 = some out) :
    callResult false skb r = (true, out, r.2) := by
  unfold callResult
  rw [h]
  rfl

theorem transfers_wep {prim : Tkip.Primitives} {wep rwep : Wep.WepData}
    (harc4 : StreamCipher prim.arc4) (hready : Ready plain hdrLen 4 4) (h : Wep.Agree wep rwep) :
    Cipher.Transfers (.wep prim false) n wep rwep plain hdrLen
      (Wep.sealedFrame prim wep plain hdrLen,
        (Wep.prism2WepEncrypt prim false wep plain hdrLen).2) where
  len := by
    show _ ≤ (Wep.sealedFrame prim wep plain hdrLen).len
    rw [Wep.sealedFrame, Skb.len_sealed hready.fits]
    exact Nat.le_add_right _ _
  header := by
    show (Wep.sealedFrame prim wep plain hdrLen).data.take hdrLen = _
    simp only [Wep.sealedFrame, Skb.sealed, List.append_assoc]
    exact List.take_left' (Skb.length_take_header hready.fits)
  slot := by
    have hoctet : (Wep.sealedFrame prim wep plain hdrLen).byte (hdrLen + 3) = wep.keyOctet :=
      Skb.byte_sealed_iv hready.fits (by simp [Wep.nextIvBytes, Wep.ivBytes])
    show ((Wep.sealedFrame prim wep plain hdrLen).byte (hdrLen + 3)).toNat / 64 = _
    rw [hoctet]
    exact (keyOctet_toNat h.index).1
  keyIdx := by
    show (Wep.prism2WepEncrypt prim false wep plain hdrLen).2.keyIdx = wep.keyIdx
    unfold Wep.prism2WepEncrypt
    simp only
    split_ifs <;> rfl
  opens := by
    refine ⟨0, plain.within 4 4, rwep, ?_, (List.append_nil _).symm, h.encrypt plain hdrLen,
      trivial⟩
    show (rwep, _) = _
    rw [Wep.decrypt_onAir harc4 hready h]
    rfl

theorem transfers_tkip {prim : Tkip.Primitives} {tkey rkey : Tkip.TkipData}
    (harc4 : StreamCipher prim.arc4) (hready : Ready plain hdrLen 8 12)
    (h : Tkip.InStep plain.addr2 (n + 1) tkey rkey) :
    Cipher.Transfers (.tkip prim false false) n tkey rkey plain hdrLen
      (Tkip.sealedFrame prim tkey (plain.put (Tkip.sentMic prim tkey plain hdrLen)) hdrLen,
        (Tkip.rtllibTkipEncrypt prim false tkey
          (plain.put (Tkip.sentMic prim tkey plain hdrLen)) hdrLen).2) := by
  have hta : (plain.put (Tkip.sentMic prim tkey plain hdrLen)).addr2 = plain.addr2 := by
    have h24 := hready.three
    have hfits := hready.fits
    funext i
    exact Tkip.byte_put (by omega) _
  have hheader : (plain.put (Tkip.sentMic prim tkey plain hdrLen)).data.take hdrLen =
      plain.data.take hdrLen := List.take_append_of_le_length hready.fits
  have hdata : (plain.put (Tkip.sentMic prim tkey plain hdrLen)).data =
      plain.data ++ Tkip.sentMic prim tkey plain hdrLen := rfl
  have hready' : Ready (plain.put (Tkip.sentMic prim tkey plain hdrLen)) hdrLen 8 4 :=
    Tkip.ready_put hready Tkip.length_sentMic
  generalize plain.put (Tkip.sentMic prim tkey plain hdrLen) = mid at hta hheader hdata hready' ⊢
  rw [← hta] at h
  obtain ⟨keyidx, rkey', hdecrypt, kept, cache⟩ := Tkip.decrypt_onAir harc4 hready' h.meets
  constructor
  · show _ ≤ (Tkip.sealedFrame prim tkey mid hdrLen).len
    rw [Tkip.length_sealedFrame harc4 hready']
    omega
  · show (Tkip.sealedFrame prim tkey mid hdrLen).data.take hdrLen = _
    simp only [Tkip.sealedFrame, Skb.sealed, List.append_assoc]
    exact (List.take_left' (Skb.length_take_header hready'.fits)).trans hheader
  · have hoctet : (Tkip.sealedFrame prim tkey mid hdrLen).byte (hdrLen + 3) =
        tkey.keyIdx <<< 6 ||| 0x20 := Tkip.byte_sealedFrame hready' (by decide)
    show ((Tkip.sealedFrame prim tkey mid hdrLen).byte (hdrLen + 3)).toNat / 64 = _
    rw [hoctet]
    exact (keyOctet_toNat h.index).2
  · exact Tkip.encrypt_keyIdx prim false tkey mid hdrLen
  · refine ⟨keyidx.toNat, mid.within 8 4, rkey', ?_, hdata, ?_, kept.toSameKey⟩
    · show ((Tkip.rtllibTkipDecrypt prim false rkey
        (onAir (Tkip.sealedFrame prim tkey mid hdrLen).data) hdrLen).2, _) = _
      rw [hdecrypt]
      rfl
    · rw [← hta]
      exact h.next harc4 hready' kept cache

theorem transfers_ccmp {aes : Ccmp.Key → Ccmp.Block → Ccmp.Block} {key rkey : Ccmp.CcmpData}
    (hready : Ready plain hdrLen 8 8) (h : Ccmp.InStep (n + 1) key rkey) :
    Cipher.Transfers (.ccmp aes) n key rkey plain hdrLen
      (Ccmp.sealedFrame aes key plain hdrLen,
        (Ccmp.rtllibCcmpEncrypt aes key plain hdrLen).2) where
  len := by
    show _ ≤ (Ccmp.sealedFrame aes key plain hdrLen).len
    rw [Ccmp.length_sealedFrame hready]
    omega
  header := by
    show (Ccmp.sealedFrame aes key plain hdrLen).data.take hdrLen = _
    simp only [Ccmp.sealedFrame, Skb.sealed, List.append_assoc]
    exact List.take_left' (Skb.length_take_header hready.fits)
  slot := by
    have hoctet : (Ccmp.sealedFrame aes key plain hdrLen).byte (hdrLen + 3) =
        key.keyIdx <<< 6 ||| 0x20 := Ccmp.byte_sealedFrame hready (by decide)
    show ((Ccmp.sealedFrame aes key plain hdrLen).byte (hdrLen + 3)).toNat / 64 = _
    rw [hoctet]
    exact (keyOctet_toNat h.index).2
  keyIdx := by
    show (Ccmp.rtllibCcmpEncrypt aes key plain hdrLen).2.keyIdx = key.keyIdx
    rcases Ccmp.encrypt_cases aes key plain hdrLen with ⟨-, heq⟩ | ⟨-, out, heq⟩
    · rw [heq]
    · rw [heq]
  opens := by
    refine ⟨key.keyIdx.toNat, plain.within 8 8, { rkey with rxPn := Ccmp.nextPn key }, ?_,
      (List.append_nil _).symm, h.next hready, trivial⟩
    show ((Ccmp.rtllibCcmpDecrypt aes rkey
      (onAir (Ccmp.sealedFrame aes key plain hdrLen).data) hdrLen).2, _) = _
    rw [Ccmp.decrypt_onAir hready h.agree]
    rfl

theorem transfers {c : Cipher} {dev : Device c.Priv} (hworks : c.Works)
    (hcrypt : dev.crypt = some c.ops) (hcounter : dev.tkipCountermeasures = false) {tx rx : c.Priv}
    (hready : Ready plain hdrLen c.ops.extraPrefixLen c.ops.extraPostfixLen)
    (h : c.InStep plain.addr2 (n + 1) tx rx) :
    c.Transfers n tx rx plain hdrLen (rtllibEncryptFragment dev tx plain hdrLen) := by
  -- What one side encrypts the other decrypts.
  unfold rtllibEncryptFragment
  rw [hcrypt]
  simp only
  rw [if_neg (by simp [hcounter])]
  cases c with
  | wep prim arc4Fails =>
    obtain ⟨rfl, harc4⟩ := hworks
    have hmpdu : (Cipher.wep prim false).ops.mpdu tx plain hdrLen =
        (true, Wep.sealedFrame prim tx plain hdrLen,
          (Wep.prism2WepEncrypt prim false tx plain hdrLen).2) :=
      callResult_some (Wep.encrypt_eq hready)
    show Cipher.Transfers _ n tx rx plain hdrLen
      ((Cipher.wep prim false).ops.mpdu tx plain hdrLen).2
    rw [hmpdu]
    exact transfers_wep harc4 hready h
  | tkip prim arc4Fails michaelFails =>
    obtain ⟨rfl, rfl, harc4⟩ := hworks
    have hmsdu : (Cipher.tkip prim false false).ops.msdu tx plain hdrLen =
        (true, plain.put (Tkip.sentMic prim tx plain hdrLen), tx) :=
      callResult_some (Tkip.micAdd_eq hready)
    have hready' : Ready (plain.put (Tkip.sentMic prim tx plain hdrLen)) hdrLen 8 4 :=
      Tkip.ready_put hready Tkip.length_sentMic
    have hta : (plain.put (Tkip.sentMic prim tx plain hdrLen)).addr2 = plain.addr2 := by
      have h24 := hready.three
      have hfits := hready.fits
      funext i
      exact Tkip.byte_put (by omega) _
    have hmpdu : (Cipher.tkip prim false false).ops.mpdu tx
        (plain.put (Tkip.sentMic prim tx plain hdrLen)) hdrLen = (true, _, _) :=
      callResult_some (Tkip.encrypt_eq hready' (by rw [hta]; exact h.txCoherent))
    rw [hmsdu]
    simp only [if_true]
    rw [hmpdu]
    exact transfers_tkip harc4 hready h
  | ccmp aes =>
    have hmpdu : (Cipher.ccmp aes).ops.mpdu tx plain hdrLen =
        (true, Ccmp.sealedFrame aes tx plain hdrLen,
          (Ccmp.rtllibCcmpEncrypt aes tx plain hdrLen).2) :=
      callResult_some (Ccmp.encrypt_eq hready)
    show Cipher.Transfers _ n tx rx plain hdrLen ((Cipher.ccmp aes).ops.mpdu tx plain hdrLen).2
    rw [hmpdu]
    exact transfers_ccmp hready h

end Transfers

/-! ## One fragment -/

/-- A station of an ad-hoc network, without QoS and with encryption in software -/
structure SoftwareIbss {κ : Type} (dev : Device κ) : Prop where
  rawTx : dev.rawTx = false
  adhoc : dev.iwMode = .adhoc
  legacy : dev.qosActive = false
  software : dev.hwsecActive = false
  noCountermeasures : dev.tkipCountermeasures = false
  fts : 256 ≤ dev.fts

/-- By this the fragment cache knows the MSDU. -/
def msduKeyOf {κ : Type} (s : State κ) (skb : EthSkb) : Rx.MsduKey :=
  ⟨(s.seqCtrl 0).toNat % 4096, skb.src, skb.dest⟩

section Sender

variable {κ : Type} {dev : Device κ} {s s' : State κ} {skb : EthSkb} {i : Nat} {more : Bool}
  {payload : List Byte}

theorem SoftwareIbss.hdrLen (h : SoftwareIbss dev) (skb : EthSkb) : (plan dev skb).hdrLen = 24 :=
  if_neg (by simp [h.legacy])

theorem SoftwareIbss.fragFc (h : SoftwareIbss dev) (skb : EthSkb) (more : Bool) :
    (plan dev skb).fragFc more = Rx.dataFrameCtl (encrypts dev skb) more := by
  have hfc : (plan dev skb).fc = frameControl dev skb := rfl
  unfold Plan.fragFc
  rw [hfc]
  unfold frameControl
  rw [h.legacy, h.adhoc]
  cases encrypts dev skb <;> cases more <;> rfl

theorem SoftwareIbss.addresses (h : SoftwareIbss dev) (skb : EthSkb) :
    (plan dev skb).addr1 = skb.dest ∧ (plan dev skb).addr2 = skb.src := by
  have haddr : Xmit.addresses dev skb = (skb.dest, skb.src, dev.bssid) := by
    unfold Xmit.addresses
    rw [h.adhoc]
  exact ⟨congrArg Prod.fst haddr, congrArg (fun a => a.2.1) haddr⟩

theorem SoftwareIbss.fragmentOf (h : SoftwareIbss dev) (hi : i < 16) {frame : Rx.Skb}
    (hlen : 24 ≤ frame.len)
    (hframe : ∀ j < 24, frame.byte j =
      ((plan dev skb).header dev more (seqCtl (s.seqCtrl 0) i)).getD j 0) :
    Rx.FragmentOf (msduKeyOf s skb) (encrypts dev skb) more i frame := by
  rw [← h.hdrLen skb] at hframe
  obtain ⟨haddr1, haddr2⟩ := h.addresses skb
  have hseq := seqCtl_header hframe
  constructor
  · rw [frameCtl_header hframe, h.fragFc]
  · show (⟨Rx.seqSeq frame.seqCtl, frame.addr2, frame.addr1⟩ : Rx.MsduKey) = _
    rw [hseq, seqSeq_seqCtl _ hi, addr1_header hframe, addr2_header hframe, haddr1, haddr2]
    rfl
  · rw [hseq, seqFrag_seqCtl _ hi]
  · exact hlen

def xmitEncrypt (dev : Device κ) (skb : EthSkb) (priv : κ) (plain : Skb) : Skb × κ :=
  if encrypts dev skb then rtllibEncryptFragment dev priv plain 24 else (plain, priv)

/-- What the loop makes of the buffer: `plain`, its encryption, and the room for the FCS. -/
structure Makes (dev : Device κ) (skb : EthSkb) (s s' : State κ) (i : Nat) (more : Bool)
    (payload : List Byte) (plain frag : Skb) : Prop where
  data : plain.data = (plan dev skb).header dev more (seqCtl (s.seqCtrl 0) i) ++
    ((if i = 0 then rtllibPutSnap skb.etherType else []) ++ payload)
  ready : Ready plain 24 ((plan dev skb).prefixLen dev) ((plan dev skb).postfixLen dev)
  seqCtrl : s'.seqCtrl = s.seqCtrl
  priv : s'.priv = (xmitEncrypt dev skb s.priv plain).2
  frag : ∃ fcs, fcs.length = Plan.fcsLen dev ∧
    frag.data = (xmitEncrypt dev skb s.priv plain).1.data ++ fcs

theorem plainFragment_bHwSec {p : Plan} {room plain : Skb} {sc : BitVec 16}
    (h : plainFragment dev p room i more sc payload = some plain) :
    plain.bHwSec = (p.encrypt && dev.hwsecActive) := by
  simp only [plainFragment, Option.bind_eq_bind, Option.bind_eq_some_iff] at h
  obtain ⟨skb₁, h₁, skb₂, h₂, h₃⟩ := h
  unfold skbPutIf at h₂
  split at h₂
  · rw [skbPut_eq h₃, skbPut_eq h₂, skbPut_eq h₁]
    rfl
  · rw [skbPut_eq h₃, ← Option.some.inj h₂, skbPut_eq h₁]
    rfl

theorem xmitFragment_makes (hdev : SoftwareIbss dev)
    {room : Room ((plan dev skb).fragSize + dev.txHeadroom)} {frag : Skb}
    (hoverhead : (plan dev skb).overhead dev + (plan dev skb).bytesPerFrag dev =
      (plan dev skb).fragSize)
    (hfits : (if i = 0 then 8 else 0) + payload.length ≤ (plan dev skb).bytesPerFrag dev)
    (h : xmitFragment dev (plan dev skb) s room.skb i more payload = some (frag, s')) :
    ∃ plain, Makes dev skb s s' i more payload plain frag := by
  have hlen : (plan dev skb).hdrLen = if dev.qosActive then 26 else 24 := rfl
  have h24 := hdev.hdrLen skb
  have hseq (fc : BitVec 16) : fragSeqCtl dev (plan dev skb) s fc i =
      some (seqCtl (s.seqCtrl 0) i, s) := by
    unfold fragSeqCtl
    exact if_neg (by simp [hdev.legacy])
  rw [Plan.overhead_eq] at hoverhead
  unfold xmitFragment at h
  simp only [Option.bind_eq_bind] at h
  rw [hseq, Option.bind_some] at h
  obtain ⟨plain, hplain, hdata, hhead, htail⟩ := plainFragment_eq room i more
    (seqCtl (s.seqCtrl 0) i) payload hlen (by omega)
  rw [hplain, Option.bind_some, h24] at h
  obtain ⟨skb', hput, heq⟩ := Option.bind_eq_some_iff.mp h
  cases heq
  have hplen : plain.len = 24 + ((if i = 0 then rtllibPutSnap skb.etherType else []) ++
      payload).length := by
    unfold Skb.len
    rw [hdata, List.length_append, header_length, ← hlen, h24]
    rfl
  have hheader : HasHeader dev (plan dev skb) more (seqCtl (s.seqCtrl 0) i) plain := by
    unfold HasHeader
    rw [hdata, hlen, ← header_length]
    exact List.take_left
  have hfc : plain.frameCtl = Rx.dataFrameCtl (encrypts dev skb) more := by
    rw [hheader.frameCtl hlen, hdev.fragFc]
  refine ⟨plain, hdata, ⟨le_rfl, ?_, ?_, ?_, hhead, ?_⟩, rfl, rfl,
    if dev.reserveFcs then List.ofFn dev.fcs else [], ?_, ?_⟩
  · intro hto
    rw [hfc, (Rx.dataFrameCtl_flags _ _).2.2.1] at hto
    cases hto
  · omega
  · rw [plainFragment_bHwSec hplain, hdev.software, Bool.and_false]
  · omega
  · unfold Plan.fcsLen
    split
    · exact List.length_ofFn
    · rfl
  · unfold skbPutIf at hput
    split at hput
    · rename_i hfcs
      rw [if_pos hfcs, skbPut_eq hput]
      rfl
    · rename_i hfcs
      rw [if_neg hfcs, List.append_nil, ← Option.some.inj hput]
      rfl

theorem OnAir.bytes {frag : Skb} {frame : Rx.Skb} {data fcs : List Byte} (h : OnAir dev frag frame)
    (hfcs : fcs.length = Plan.fcsLen dev) (hdata : frag.data = data ++ fcs) :
    frame.len = data.length ∧ (∀ j < data.length, frame.byte j = data.getD j 0) ∧
      (List.range frame.len).map frame.byte = data := by
  -- The frame has the bytes that the sender put in front of the FCS.
  have hlen : frame.len = data.length := by
    have hall := h.len
    unfold Skb.len at hall
    rw [hdata, List.length_append] at hall
    omega
  have hbyte (j : Nat) (hj : j < data.length) : frame.byte j = data.getD j 0 := by
    rw [h.byte j (by omega)]
    unfold Skb.byte
    rw [hdata, List.getD_append _ _ _ _ hj]
  refine ⟨hlen, hbyte, ?_⟩
  apply List.ext_getElem
  · rw [List.length_map, List.length_range, hlen]
  · intro j _ hj
    rw [List.getElem_map, List.getElem_range, hbyte j hj, List.getD_eq_getElem _ _ hj]

end Sender

/-- The addressed station as a call finds it: it gets the memory that it asks for, a buffer for a
whole MSDU included. -/
structure Listens {ι : Type} (env : Rx.Env ι) (skb : EthSkb) : Prop where
  adhoc : env.iwMode = .adhoc
  devAddr : env.devAddr = skb.dest
  software : env.hwsecActive = false
  noCountermeasures : env.tkipCountermeasures = false
  rxbAlloc : env.rxbAlloc = true
  -- `mtu + sizeof(struct rtllib_hdr_4addr) + 8 + 2 + 8 + ETH_ALEN`, with an MTU of 1500
  fragSkbRoom : ∃ room, env.fragSkbRoom = some room ∧ 1554 ≤ room

/-- Both stations have the cipher, the receiver in the slot that the frames name. -/
structure Peers (c : Cipher) (dev : Device c.Priv) (cfg : Rx.Config c.Priv) (slot : Fin 4) :
    Prop where
  works : c.Works
  txCrypt : dev.crypt = some c.ops
  hostDecrypt : cfg.hostDecrypt = true
  rxCrypt : cfg.crypt slot = some c.rxOps

/-- Their contexts are in step for the next `n` frames. -/
structure Synced (c : Cipher) (skb : EthSkb) (slot : Fin 4) (n : Nat) (tx rx : c.Priv) : Prop where
  slot : (c.keyIdx tx).toNat = slot
  inStep : c.InStep skb.src n tx rx

section Receiver

variable {ι : Type} {c : Cipher} {dev : Device c.Priv} {cfg : Rx.Config c.Priv} {env : Rx.Env ι}
  {r : Rx.State ι c.Priv} {s s' : State c.Priv} {skb : EthSkb} {slot : Fin 4} {i n : Nat}
  {more : Bool} {payload : List Byte} {plain frag : Skb} {frame : Rx.Skb}

def trailer (c : Cipher) (dev : Device c.Priv) (skb : EthSkb) (priv : c.Priv) (plain : Skb) :
    List Byte :=
  if encrypts dev skb then c.mic priv plain 24 else []

/-- A fragment has come as far as the reassembly, and the two contexts are still in step. -/
structure Arrives (c : Cipher) (dev : Device c.Priv) (cfg : Rx.Config c.Priv) (env : Rx.Env ι)
    (skb : EthSkb) (slot : Fin 4) (n : Nat) (s s' : State c.Priv) (r : Rx.State ι c.Priv) (i : Nat)
    (more : Bool) (body : List Byte) (frame out : Rx.Skb) (keyidx : Nat) (priv : Fin 4 → c.Priv) :
    Prop where
  header : ∀ j < 24, frame.byte j =
    ((plan dev skb).header dev more (seqCtl (s.seqCtrl 0) i)).getD j 0
  fragmentOf : Rx.FragmentOf (msduKeyOf s skb) (encrypts dev skb) more i frame
  decrypts : Rx.Decrypts cfg env r frame out keyidx priv body
  synced : encrypts dev skb = true → Synced c skb slot n s'.priv (priv slot)
  selects : encrypts dev skb = true → Rx.selectCrypt cfg env frame = some slot
  sameKey : encrypts dev skb = true → c.SameKey (r.priv slot) (priv slot)

theorem getD_of_take {xs ys : List Byte} {k : Nat} (h : xs.take k = ys.take k) {j : Nat}
    (hj : j < k) : xs.getD j 0 = ys.getD j 0 := by
  rw [List.getD_eq_getElem?_getD, List.getD_eq_getElem?_getD, ← List.getElem?_take_of_lt hj, h,
    List.getElem?_take_of_lt hj]

theorem Makes.header (h : Makes dev skb s s' i more payload plain frag) (hdev : SoftwareIbss dev)
    {j : Nat} (hj : j < 24) : plain.data.getD j 0 =
      ((plan dev skb).header dev more (seqCtl (s.seqCtrl 0) i)).getD j 0 := by
  have hlen : ((plan dev skb).header dev more (seqCtl (s.seqCtrl 0) i)).length = 24 :=
    header_length.trans (if_neg (by simp [hdev.legacy]))
  rw [h.data, List.getD_append _ _ _ _ (by omega)]

theorem Makes.body (h : Makes dev skb s s' i more payload plain frag) (hdev : SoftwareIbss dev) :
    plain.data.drop 24 = (if i = 0 then rtllibPutSnap skb.etherType else []) ++ payload := by
  rw [h.data]
  exact List.drop_left' (header_length.trans (if_neg (by simp [hdev.legacy])))

theorem Makes.addr2 (h : Makes dev skb s s' i more payload plain frag) (hdev : SoftwareIbss dev) :
    plain.addr2 = skb.src := by
  have hbyte (k : Nat) (hk : k < 24) : plain.byte k =
      ((plan dev skb).header dev more (seqCtl (s.seqCtrl 0) i)).getD k 0 := h.header hdev hk
  funext j
  rw [Skb.addr2, hbyte _ (by omega), ← (hdev.addresses skb).2]
  fin_cases j <;> rfl

theorem Makes.sameMsdu (h : Makes dev skb s s' i more payload plain frag) :
    msduKeyOf s' skb = msduKeyOf s skb := by
  unfold msduKeyOf
  rw [h.seqCtrl]

theorem Arrives.selectCrypt_ne {body : List Byte} {out : Rx.Skb} {keyidx : Nat}
    {priv : Fin 4 → c.Priv}
    (h : Arrives c dev cfg env skb slot n s s' r i more body frame out keyidx priv) :
    encrypts dev skb = true → cfg.hostDecrypt = true → Rx.selectCrypt cfg env frame ≠ none := by
  intro hencrypt _
  rw [h.selects hencrypt]
  exact Option.some_ne_none slot

theorem Makes.arrives_plain (h : Makes dev skb s s' i more payload plain frag)
    (hdev : SoftwareIbss dev) (hplain : encrypts dev skb = false) (hi : i < 16)
    (hair : OnAir dev frag frame) :
    Arrives c dev cfg env skb slot n s s' r i more
      (((if i = 0 then rtllibPutSnap skb.etherType else []) ++ payload) ++
        trailer c dev skb s.priv plain) frame frame 0 r.priv := by
  -- Without encryption the frame stays as it is.
  obtain ⟨fcs, hfcs, hdata⟩ := h.frag
  have henc : xmitEncrypt dev skb s.priv plain = (plain, s.priv) := if_neg (by simp [hplain])
  have hplaindata : frag.data = plain.data ++ fcs := by rw [hdata, henc]
  obtain ⟨hlen, hbyte, -⟩ := hair.bytes hfcs hplaindata
  have hfits := h.ready.fits
  unfold Skb.len at hfits
  have hheader : ∀ j < 24, frame.byte j =
      ((plan dev skb).header dev more (seqCtl (s.seqCtrl 0) i)).getD j 0 :=
    fun j hj => by rw [hbyte j (by omega), h.header hdev hj]
  have hframe : Rx.FragmentOf (msduKeyOf s skb) (encrypts dev skb) more i frame :=
    hdev.fragmentOf hi (by omega) hheader
  have htrailer : trailer c dev skb s.priv plain = [] := if_neg (by simp [hplain])
  rw [htrailer, List.append_nil, ← h.body hdev]
  have hwep : ¬ (cfg.hostDecrypt = true ∧ Rx.wep frame.frameCtl = true) := by
    rw [hframe.frameCtl, (Rx.dataFrameCtl_flags _ _).1, hplain]
    exact fun hno => Bool.false_ne_true hno.2
  constructor
  · exact hheader
  · exact hframe
  · constructor
    · intro r' hr'
      unfold Rx.rxDecrypt
      rw [if_neg hwep, ← hr']
    · constructor
      · exact fun _ _ => rfl
      · rw [List.length_drop]
        omega
      · intro j hj
        rw [List.length_drop] at hj
        rw [hbyte _ (by omega), List.getD_eq_getElem?_getD, List.getD_eq_getElem?_getD,
          List.getElem?_drop]
  · simp [hplain]
  · simp [hplain]
  · simp [hplain]

theorem Makes.arrives_encrypted (h : Makes dev skb s s' i more payload plain frag)
    (hdev : SoftwareIbss dev) (hencrypt : encrypts dev skb = true) (hpeers : Peers c dev cfg slot)
    (hi : i < 16) (hair : OnAir dev frag frame) (hsoft : env.hwsecActive = false)
    (hcounter : env.tkipCountermeasures = false)
    (hsync : Synced c skb slot (n + 1) s.priv (r.priv slot)) :
    ∃ out keyidx priv, Arrives c dev cfg env skb slot n s s' r i more
      (((if i = 0 then rtllibPutSnap skb.etherType else []) ++ payload) ++
        trailer c dev skb s.priv plain) frame out keyidx priv := by
  -- The receiver undoes the encryption, but for the MIC.
  obtain ⟨fcs, hfcs, hdata⟩ := h.frag
  have henc : xmitEncrypt dev skb s.priv plain = rtllibEncryptFragment dev s.priv plain 24 :=
    if_pos hencrypt
  have hready : Ready plain 24 c.ops.extraPrefixLen c.ops.extraPostfixLen := by
    have hready := h.ready
    unfold Plan.prefixLen Plan.postfixLen at hready
    rw [if_pos (show (plan dev skb).encrypt = true from hencrypt),
      if_pos (show (plan dev skb).encrypt = true from hencrypt), hpeers.txCrypt] at hready
    exact hready
  have hstep : c.InStep plain.addr2 (n + 1) s.priv (r.priv slot) := by
    rw [h.addr2 hdev]
    exact hsync.inStep
  have ht := transfers hpeers.works hpeers.txCrypt hdev.noCountermeasures hready hstep
  have hpriv := h.priv
  rw [henc] at hdata hpriv
  generalize rtllibEncryptFragment dev s.priv plain 24 = e at ht hdata hpriv
  obtain ⟨hlen, hbyte, hbytes⟩ := hair.bytes hfcs hdata
  have h28 : 28 ≤ e.1.data.length := ht.len
  have hheader : ∀ j < 24, frame.byte j =
      ((plan dev skb).header dev more (seqCtl (s.seqCtrl 0) i)).getD j 0 :=
    fun j hj => by rw [hbyte j (by omega), getD_of_take ht.header hj, h.header hdev hj]
  have hframe : Rx.FragmentOf (msduKeyOf s skb) (encrypts dev skb) more i frame :=
    hdev.fragmentOf hi (by omega) hheader
  have hslot : Rx.keySlot env frame = slot := by
    have hat : frame.byte 27 = e.1.byte 27 := hbyte 27 (by omega)
    unfold Rx.keySlot
    rw [if_pos (by rw [hframe.hdrlen]; omega)]
    apply Fin.ext
    show (frame.byte (Rx.hdrlen env frame + 3)).toNat / 64 = slot
    rw [hframe.hdrlen, hat, ht.slot, hsync.slot]
  have hselects : Rx.selectCrypt cfg env frame = some slot := by
    unfold Rx.selectCrypt
    rw [if_pos hpeers.hostDecrypt, hslot, hpeers.rxCrypt]
    exact if_pos rfl
  obtain ⟨keyidx, out, rx', hopen, hout, hstep', hsame⟩ := ht.opens
  have hwep : cfg.hostDecrypt = true ∧ Rx.wep frame.frameCtl = true := by
    rw [hframe.frameCtl, (Rx.dataFrameCtl_flags _ _).1]
    exact ⟨hpeers.hostDecrypt, hencrypt⟩
  have hhdr : Rx.rtllibGetHdrlen frame.frameCtl = 24 := by
    rw [hframe.frameCtl]
    exact (Rx.dataFrameCtl_type _ _).2.2
  have hskb : rxSkb env.hwsecActive frame.byte frame.len = onAir e.1.data := by
    unfold rxSkb
    rw [hbytes, hsoft]
    rfl
  have htrailer : trailer c dev skb s.priv plain = c.mic s.priv plain 24 := if_pos hencrypt
  have hbody : out.data.drop 24 =
      ((if i = 0 then rtllibPutSnap skb.etherType else []) ++ payload) ++
        c.mic s.priv plain 24 := by
    rw [hout, List.drop_append_of_le_length h.ready.fits, h.body hdev]
  have h24 : 24 ≤ out.data.length := by
    rw [hout, List.length_append]
    exact h.ready.fits.trans (Nat.le_add_right _ _)
  rw [htrailer, ← hbody]
  refine ⟨frame.decrypted 24 ⟨keyidx, fun j => out.byte (24 + j), out.len⟩, keyidx,
    update r.priv slot rx', hheader, hframe, ⟨?_, ?_, ?_, ?_⟩, ?_, fun _ => hselects, ?_⟩
  · intro r' hr'
    unfold Rx.rxDecrypt
    rw [if_pos hwep, hselects]
    unfold Rx.rtllibRxFrameDecrypt
    simp only [hpeers.rxCrypt, Cipher.rxOps, hhdr, hcounter, Bool.false_eq_true, false_and,
      if_false, hr', hskb, hopen, Option.map_some]
  · intro j hj
    exact if_pos hj
  · show out.data.length = _
    rw [List.length_drop]
    omega
  · intro j hj
    refine (if_neg (Nat.not_lt.mpr (Nat.le_add_right 24 j))).trans ?_
    rw [Nat.add_sub_cancel_left]
    show out.data.getD (24 + j) 0 = _
    rw [List.getD_eq_getElem?_getD, List.getD_eq_getElem?_getD, List.getElem?_drop]
  · intro _
    rw [update_self, hpriv]
    exact ⟨ht.keyIdx ▸ hsync.slot, h.addr2 hdev ▸ hstep'⟩
  · intro _
    rw [update_self]
    exact hsame

theorem Makes.arrives (h : Makes dev skb s s' i more payload plain frag) (hdev : SoftwareIbss dev)
    (hpeers : encrypts dev skb = true → Peers c dev cfg slot) (hi : i < 16)
    (hair : OnAir dev frag frame) (hlistens : Listens env skb)
    (hsync : encrypts dev skb = true → Synced c skb slot (n + 1) s.priv (r.priv slot)) :
    ∃ out keyidx priv, Arrives c dev cfg env skb slot n s s' r i more
      (((if i = 0 then rtllibPutSnap skb.etherType else []) ++ payload) ++
        trailer c dev skb s.priv plain) frame out keyidx priv := by
  cases hencrypt : encrypts dev skb with
  | false => exact ⟨frame, 0, r.priv, h.arrives_plain hdev hencrypt hi hair⟩
  | true =>
    exact h.arrives_encrypted hdev hencrypt (hpeers hencrypt) hi hair hlistens.software
      hlistens.noCountermeasures (hsync hencrypt)

end Receiver

end Rtl8190.Xmit
