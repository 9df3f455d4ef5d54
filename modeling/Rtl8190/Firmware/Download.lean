import Rtl8190.Lib.Memory
import Mathlib.Data.List.Basic
import Mathlib.Tactic.Ring

/-!
# The download of a firmware image

The image goes to the chip in packets of initial commands, and the bytes of each word change places
on the way. A last word that is not whole should be filled up with zeros.
-/

open Rtl8190.Memory

namespace Rtl8190.Firmware

def maxTransmitBufferSize : Nat := 1600 + (40 + 32 + 128) * 8

def getCommandPacketFragThreshold (v : Nat) : Nat := 4 * (v / 4) - 8

/-- `pfirmware->cmdpacket_frag_thresold`, from `firmware_init_param` -/
def fragThreshold : BitVec 16 :=
  BitVec.ofNat 16 (getCommandPacketFragThreshold maxTransmitBufferSize)

/-- What is handed on: the packet, and the fields of its `tcb_desc` that are not the same for all. -/
structure Packet where
  data : List Byte
  bLastIniPkt : Bool
  txbufSize : BitVec 16
  /-- The packet went to `skb_waitQ[TXCMD_QUEUE]`, as the ring was full or the queue not empty. -/
  waits : Bool
  deriving DecidableEq, Repr

section Code

variable (code : Nat → Byte) (bufferLen : BitVec 32) (full : Nat → Bool)

def segByte (fragLength base i guard k : Nat) : Reads Nat Byte :=
  if i + guard < fragLength then read code (base + (i + k)) else pure 0

/-- One round of the inner loop. -/
def segGroup (fragLength base i : Nat) : Reads Nat (List Byte) := do
  let b0 ← segByte code fragLength base i 0 3
  let b1 ← segByte code fragLength base i 1 2
  let b2 ← segByte code fragLength base i 2 1
  let b3 ← segByte code fragLength base i 3 0
  pure [b0, b1, b2, b3]

def segLoop (fragLength base : Nat) : Nat → Reads Nat (List Byte)
  | 0 => pure []
  | rounds + 1 => do
    let done ← segLoop fragLength base rounds
    let group ← segGroup code fragLength base (4 * rounds)
    pure (done ++ group)

def segRounds (fragLength : Nat) : Nat := (fragLength + 3) / 4

/-- `frag_length` and `bLastIniPkt` -/
def nextFragment (fragOffset : BitVec 16) : BitVec 16 × Bool :=
  if bufferLen - fragOffset.setWidth 32 > fragThreshold.setWidth 32 then (fragThreshold, false)
  else ((bufferLen - fragOffset.setWidth 32).setWidth 16, true)

def buildPacket (fragLength base : Nat) (last waits : Bool) : Reads Nat Packet := do
  let data ← segLoop code fragLength base (segRounds fragLength)
  pure ⟨data, last, BitVec.ofNat 16 (4 * segRounds fragLength), waits⟩

/-- The rounds of the `do` loop; `base` is how far `code_virtual_address` was moved on, and `sent`
the number of packets before. -/
def downloadLoop : Nat → Nat → BitVec 16 → Nat → Reads Nat (Option (List Packet))
  | 0, _, _, _ => pure none
  | fuel + 1, base, fragOffset, sent => do
    let (fragLength, last) := nextFragment bufferLen fragOffset
    let packet ← buildPacket code fragLength.toNat base last (full sent)
    if (fragOffset + fragLength).setWidth 32 < bufferLen then do
      let rest ← downloadLoop fuel (base + fragLength.toNat) (fragOffset + fragLength) (sent + 1)
      pure (rest.map (packet :: ·))
    else pure (some [packet])

/-- `full k` says that the check before packet `k` finds the ring full, the queue not empty or
stopped. The result is `none` when the loop has not ended after `fuel` rounds. -/
def fwDownloadCode (fuel : Nat) : Reads Nat (Option (List Packet)) :=
  downloadLoop code bufferLen full fuel 0 0 0

end Code

/-! ## What should be sent -/

/-- The image with the bytes of each word in reverse order, the last word filled up with zeros. -/
def wordsReversed : List Byte → List Byte
  | a :: b :: c :: d :: rest => [d, c, b, a] ++ wordsReversed rest
  | [a, b, c] => [0, c, b, a]
  | [a, b] => [0, 0, b, a]
  | [a] => [0, 0, 0, a]
  | [] => []

/-- The threshold, rounded up to whole words. -/
def packetLimit : Nat := (fragThreshold.toNat + 3) / 4 * 4

structure Packet.Fits (p : Packet) (last : Bool) : Prop where
  length_le : p.data.length ≤ packetLimit
  bLastIniPkt : p.bLastIniPkt = last

/-- The loop ended, looked at nothing but the image, and handed on the image. -/
structure Downloaded (image : List Byte) (sent : Reads Nat (Option (List Packet))) : Prop where
  reads : sent.Within (· < image.length)
  packets : ∃ init last, sent.val = some (init ++ [last]) ∧ last.Fits true ∧
    (∀ p ∈ init, p.Fits false) ∧
    (init ++ [last]).flatMap Packet.data = wordsReversed image

theorem wordsReversed_append (xs ys : List Byte) (h : 4 ∣ xs.length) :
    wordsReversed (xs ++ ys) = wordsReversed xs ++ wordsReversed ys := by
  fun_induction wordsReversed xs with
  | case1 a b c d rest ih =>
    have hrest : 4 ∣ rest.length := by simp only [List.length_cons] at h; omega
    simp only [List.cons_append, List.nil_append, wordsReversed, ih hrest]
  | case2 => simp at h
  | case3 => simp at h
  | case4 => simp at h
  | case5 => rfl

theorem wordsReversed_word (a b c d : Byte) : wordsReversed [a, b, c, d] = [d, c, b, a] := rfl

/-! ## One packet -/

section Packet

variable {image : List Byte} {beyond : Nat → Byte} {fragLength base n : Nat}

theorem segLoop_length (code : Nat → Byte) (rounds : Nat) :
    (segLoop code fragLength base rounds).val.length = 4 * rounds := by
  induction rounds with
  | zero => rfl
  | succ rounds ih =>
    unfold segLoop segGroup
    simp only [bind_val, pure_val, List.length_append, ih, List.length_cons, List.length_nil]
    omega

theorem segByte_of_lt (code : Nat → Byte) {i guard k : Nat} (h : i + guard < fragLength) :
    segByte code fragLength base i guard k = read code (base + (i + k)) := if_pos h

theorem segGroup_within (code : Nat → Byte) {i : Nat} (hword : i + 4 ≤ fragLength)
    (hin : base + fragLength ≤ n) : (segGroup code fragLength base i).Within (· < n) := by
  unfold segGroup
  rw [segByte_of_lt code (by omega), segByte_of_lt code (by omega),
    segByte_of_lt code (by omega), segByte_of_lt code (by omega)]
  simp only [within_bind, within_read, within_pure, and_true]
  omega

theorem segLoop_within (code : Nat → Byte) {rounds : Nat} (hrounds : 4 * rounds ≤ fragLength)
    (hin : base + fragLength ≤ n) : (segLoop code fragLength base rounds).Within (· < n) := by
  induction rounds with
  | zero => exact within_pure _
  | succ rounds ih =>
    unfold segLoop
    simp only [within_bind, within_pure, and_true]
    exact ⟨ih (by omega), segGroup_within code (by omega) hin⟩

/-- The guard of the first byte of a group lets it read the last byte of the word. -/
theorem segGroup_not_within (code : Nat → Byte) {i : Nat} (hstart : i < fragLength)
    (hpart : fragLength < i + 4) (hend : base + fragLength = n) :
    ¬ (segGroup code fragLength base i).Within (· < n) := by
  unfold segGroup
  intro h
  rw [segByte_of_lt code (by omega)] at h
  simp only [within_bind, within_read] at h
  omega

theorem segLoop_not_within (code : Nat → Byte) (hpart : ¬ 4 ∣ fragLength)
    (hend : base + fragLength = n) :
    ¬ (segLoop code fragLength base (segRounds fragLength)).Within (· < n) := by
  obtain ⟨rounds, hrounds⟩ : ∃ rounds, segRounds fragLength = rounds + 1 :=
    ⟨(fragLength + 3) / 4 - 1, by unfold segRounds; omega⟩
  rw [hrounds]
  unfold segRounds at hrounds
  unfold segLoop
  intro h
  simp only [within_bind] at h
  exact segGroup_not_within code (by omega) (by omega) hend h.2.1

theorem word_at {i : Nat} (h : i + 4 ≤ image.length) :
    (image.drop i).take 4 =
      [place image beyond i, place image beyond (i + 1), place image beyond (i + 2),
        place image beyond (i + 3)] := by
  rw [place_of_lt (by omega), place_of_lt (by omega), place_of_lt (by omega),
    place_of_lt (by omega), List.drop_eq_getElem_cons (by omega),
    List.drop_eq_getElem_cons (by omega), List.drop_eq_getElem_cons (by omega),
    List.drop_eq_getElem_cons (by omega)]
  rfl

theorem segGroup_val {i : Nat} (hword : i + 4 ≤ fragLength)
    (hin : base + fragLength ≤ image.length) :
    (segGroup (place image beyond) fragLength base i).val =
      wordsReversed (((image.drop base).drop i).take 4) := by
  rw [List.drop_drop, word_at (by omega), wordsReversed_word]
  unfold segGroup
  rw [segByte_of_lt _ (by omega), segByte_of_lt _ (by omega), segByte_of_lt _ (by omega),
    segByte_of_lt _ (by omega)]
  rfl

theorem segLoop_val {rounds : Nat} (hrounds : 4 * rounds ≤ fragLength)
    (hin : base + fragLength ≤ image.length) :
    (segLoop (place image beyond) fragLength base rounds).val =
      wordsReversed ((image.drop base).take (4 * rounds)) := by
  induction rounds with
  | zero => rfl
  | succ rounds ih =>
    unfold segLoop
    simp only [bind_val, pure_val]
    rw [ih (by omega), segGroup_val (by omega) hin, Nat.mul_succ, List.take_add,
      wordsReversed_append _ _ (by simp; omega)]

end Packet

/-! ## The loop -/

section Loop

variable {image : List Byte} {beyond : Nat → Byte} {full : Nat → Bool} {base : Nat}

theorem fragThreshold_toNat : fragThreshold.toNat = 3192 := rfl

theorem nextFragment_eq {n : Nat} (hn : n ≤ 64000) (hbase : base < n) :
    nextFragment (BitVec.ofNat 32 n) (BitVec.ofNat 16 base) =
      if 3192 < n - base then (BitVec.ofNat 16 3192, false)
      else (BitVec.ofNat 16 (n - base), true) := by
  -- The `u32` difference and the `u16` offset are those of the numbers.
  have hrest : BitVec.ofNat 32 n - (BitVec.ofNat 16 base).setWidth 32 =
      BitVec.ofNat 32 (n - base) := by
    apply BitVec.eq_of_toNat_eq
    simp only [BitVec.toNat_sub, BitVec.toNat_setWidth, BitVec.toNat_ofNat]
    omega
  unfold nextFragment
  rw [hrest]
  by_cases hmore : 3192 < n - base
  · rw [if_pos hmore, if_pos]
    · rfl
    · show _ < _
      rw [BitVec.lt_def, BitVec.toNat_setWidth, fragThreshold_toNat, BitVec.toNat_ofNat]
      omega
  · rw [if_neg hmore, if_neg]
    · congr 1
      apply BitVec.eq_of_toNat_eq
      simp only [BitVec.toNat_setWidth, BitVec.toNat_ofNat]
      omega
    · show ¬ _ < _
      rw [BitVec.lt_def, BitVec.toNat_setWidth, fragThreshold_toNat, BitVec.toNat_ofNat]
      omega

theorem offset_lt {n len : Nat} (hn : n ≤ 64000) (hlen : base + len ≤ n) :
    (BitVec.ofNat 16 base + BitVec.ofNat 16 len).setWidth 32 < BitVec.ofNat 32 n ↔
      base + len < n := by
  rw [BitVec.lt_def]
  simp only [BitVec.toNat_setWidth, BitVec.toNat_add, BitVec.toNat_ofNat]
  omega

theorem downloadLoop_more (code : Nat → Byte) {n : Nat} (hn : n ≤ 64000)
    (hmore : base + 3192 < n) (fuel sent : Nat) :
    downloadLoop code (BitVec.ofNat 32 n) full (fuel + 1) base (BitVec.ofNat 16 base) sent = (do
      let packet ← buildPacket code 3192 base false (full sent)
      let rest ← downloadLoop code (BitVec.ofNat 32 n) full fuel (base + 3192)
        (BitVec.ofNat 16 (base + 3192)) (sent + 1)
      pure (rest.map (packet :: ·))) := by
  have hgo := (offset_lt hn (le_of_lt hmore)).mpr hmore
  rw [downloadLoop, nextFragment_eq hn (by omega), if_pos (by omega), BitVec.ofNat_add]
  simp only [hgo, if_true]
  rfl

theorem downloadLoop_last (code : Nat → Byte) {n : Nat} (hn : n ≤ 64000) (hbase : base < n)
    (hlast : n ≤ base + 3192) (fuel sent : Nat) :
    downloadLoop code (BitVec.ofNat 32 n) full (fuel + 1) base (BitVec.ofNat 16 base) sent = (do
      let packet ← buildPacket code (n - base) base true (full sent)
      pure (some [packet])) := by
  have hlen : (BitVec.ofNat 16 (n - base)).toNat = n - base := by
    rw [BitVec.toNat_ofNat]
    omega
  have hstop : ¬ (BitVec.ofNat 16 base + BitVec.ofNat 16 (n - base)).setWidth 32 <
      BitVec.ofNat 32 n := by
    rw [offset_lt hn (by omega)]
    omega
  rw [downloadLoop, nextFragment_eq hn hbase, if_neg (by omega)]
  simp only [hstop, if_false, hlen]

theorem buildPacket_fits (code : Nat → Byte) {fragLength : Nat} (h : fragLength ≤ 3192)
    (last waits : Bool) : (buildPacket code fragLength base last waits).val.Fits last where
  length_le := by
    unfold buildPacket
    simp only [bind_val, pure_val, segLoop_length]
    unfold segRounds packetLimit
    rw [fragThreshold_toNat]
    omega
  bLastIniPkt := rfl

/-- The loop ends, whatever the length: each round but the last takes 3192 bytes off. -/
theorem downloadLoop_ends (code : Nat → Byte) {n : Nat} (hn : n ≤ 64000) (fuel sent : Nat)
    (hbase : base < n) (hfuel : n ≤ base + 3192 * fuel) :
    ∃ init last,
      (downloadLoop code (BitVec.ofNat 32 n) full fuel base (BitVec.ofNat 16 base) sent).val =
        some (init ++ [last]) ∧ last.Fits true ∧ ∀ p ∈ init, p.Fits false := by
  induction fuel generalizing base sent with
  | zero => omega
  | succ fuel ih =>
    by_cases hmore : base + 3192 < n
    · obtain ⟨init, last, hval, hlast, hinit⟩ :=
        @ih (base + 3192) (sent + 1) hmore (by omega)
      rw [downloadLoop_more code hn hmore]
      simp only [bind_val, pure_val, hval]
      refine ⟨_ :: init, last, rfl, hlast, List.forall_mem_cons.mpr ⟨?_, hinit⟩⟩
      exact buildPacket_fits code (by omega) false _
    · rw [downloadLoop_last code hn hbase (Nat.le_of_not_lt hmore)]
      refine ⟨[], (buildPacket code (n - base) base true (full sent)).val, rfl, ?_, by simp⟩
      exact buildPacket_fits code (by omega) true _

theorem downloadLoop_within (code : Nat → Byte) {n : Nat} (hn : n ≤ 64000) (hwords : 4 ∣ n)
    (fuel sent : Nat) (hbase : base < n) (haligned : 4 ∣ base) :
    (downloadLoop code (BitVec.ofNat 32 n) full fuel base (BitVec.ofNat 16 base) sent).Within
      (· < n) := by
  induction fuel generalizing base sent with
  | zero => exact within_pure _
  | succ fuel ih =>
    by_cases hmore : base + 3192 < n
    · rw [downloadLoop_more code hn hmore]
      unfold buildPacket segRounds
      simp only [within_bind, within_pure, and_true]
      exact ⟨segLoop_within code (by omega) (by omega), ih _ hmore (by omega)⟩
    · rw [downloadLoop_last code hn hbase (by omega)]
      unfold buildPacket segRounds
      simp only [within_bind, within_pure, and_true]
      exact segLoop_within code (by omega) (by omega)

/-- A run that ends has looked behind an image that is not made of whole words. -/
theorem downloadLoop_not_within (code : Nat → Byte) {n : Nat} (hn : n ≤ 64000) (hpart : ¬ 4 ∣ n)
    (fuel sent : Nat) (hbase : base < n) (haligned : 4 ∣ base)
    (hends : (downloadLoop code (BitVec.ofNat 32 n) full fuel base (BitVec.ofNat 16 base)
      sent).val ≠ none) :
    ¬ (downloadLoop code (BitVec.ofNat 32 n) full fuel base (BitVec.ofNat 16 base) sent).Within
      (· < n) := by
  induction fuel generalizing base sent with
  | zero => exact absurd rfl hends
  | succ fuel ih =>
    by_cases hmore : base + 3192 < n
    · rw [downloadLoop_more code hn hmore] at hends ⊢
      intro h
      simp only [within_bind] at h
      apply ih (sent + 1) hmore (by omega) _ h.2.1
      simpa only [bind_val, pure_val, ne_eq, Option.map_eq_none_iff] using hends
    · rw [downloadLoop_last code hn hbase (by omega)]
      unfold buildPacket
      intro h
      simp only [within_bind] at h
      exact segLoop_not_within code (by omega) (by omega) h.1.1

theorem buildPacket_data {fragLength : Nat} (hwords : 4 ∣ fragLength)
    (hin : base + fragLength ≤ image.length) (last waits : Bool) :
    (buildPacket (place image beyond) fragLength base last waits).val.data =
      wordsReversed ((image.drop base).take fragLength) := by
  have hrounds : 4 * segRounds fragLength = fragLength := by
    unfold segRounds
    omega
  unfold buildPacket
  simp only [bind_val, pure_val]
  rw [segLoop_val (le_of_eq hrounds) hin, hrounds]

theorem downloadLoop_data (hn : image.length ≤ 64000) (hwords : 4 ∣ image.length)
    (fuel sent : Nat) (hbase : base < image.length) (haligned : 4 ∣ base) {packets : List Packet}
    (hval : (downloadLoop (place image beyond) (BitVec.ofNat 32 image.length) full fuel base
      (BitVec.ofNat 16 base) sent).val = some packets) :
    packets.flatMap Packet.data = wordsReversed (image.drop base) := by
  induction fuel generalizing base sent packets with
  | zero => cases hval
  | succ fuel ih =>
    by_cases hmore : base + 3192 < image.length
    · rw [downloadLoop_more _ hn hmore] at hval
      simp only [bind_val, pure_val, Option.map_eq_some_iff] at hval
      obtain ⟨rest, hrest, rfl⟩ := hval
      rw [List.flatMap_cons, ih _ hmore (by omega) hrest,
        buildPacket_data (by omega) (by omega), ← List.drop_drop,
        ← wordsReversed_append _ _ (by simp; omega), List.take_append_drop]
    · rw [downloadLoop_last _ hn hbase (by omega)] at hval
      simp only [bind_val, pure_val, Option.some.injEq] at hval
      rw [← hval, List.flatMap_singleton, buildPacket_data (by omega) (by omega),
        List.take_of_length_le (by simp)]

end Loop

/-- An image is downloaded as it should be just when it is made of whole words: otherwise the last
group is filled up with bytes from behind the image. -/
theorem fwDownloadCode_downloaded_iff (image : List Byte) (beyond : Nat → Byte)
    (full : Nat → Bool) (hpos : 0 < image.length) (hn : image.length ≤ 64000) :
    (∃ fuel, Downloaded image (fwDownloadCode (place image beyond)
      (BitVec.ofNat 32 image.length) full fuel)) ↔ 4 ∣ image.length := by
  unfold fwDownloadCode
  constructor
  · rintro ⟨fuel, hreads, init, last, hval, -⟩
    by_contra hpart
    apply downloadLoop_not_within _ hn hpart fuel 0 hpos (Nat.dvd_zero 4) _ hreads
    exact fun hnone => Option.some_ne_none _ (hval.symm.trans hnone)
  · intro hwords
    obtain ⟨init, last, hval, hlast, hinit⟩ :=
      @downloadLoop_ends full 0 (place image beyond) _ hn 21 0 hpos (by omega)
    have hdata := downloadLoop_data hn hwords 21 0 hpos (Nat.dvd_zero 4) hval
    exact ⟨21, downloadLoop_within _ hn hwords 21 0 hpos (Nat.dvd_zero 4), init, last, hval,
      hlast, hinit, hdata⟩

/-- An image of two words. -/
theorem fwDownloadCode_downloaded_two :
    ∃ fuel, Downloaded [1, 2, 3, 4, 5, 6, 7, 8] (fwDownloadCode
      (place [1, 2, 3, 4, 5, 6, 7, 8] fun _ => 0xff) 8 (fun _ => false) fuel) :=
  (fwDownloadCode_downloaded_iff [1, 2, 3, 4, 5, 6, 7, 8] (fun _ => 0xff) (fun _ => false)
    (by decide) (by decide)).mpr (by decide)

/-- With one byte, the three bytes behind it are sent as well. -/
theorem fwDownloadCode_one_byte :
    (fwDownloadCode (place [1] fun _ => 0xff) 1 (fun _ => false) 1).val =
      some [⟨[0xff, 0, 0, 0], true, 4, false⟩] ∧
    wordsReversed [1] = [0, 0, 0, 1] ∧
    ¬ ∃ fuel, Downloaded [1] (fwDownloadCode (place [1] fun _ => 0xff) 1 (fun _ => false) fuel) := by
  refine ⟨by decide, rfl, ?_⟩
  rintro ⟨fuel, hreads, init, last, hval, -⟩
  apply downloadLoop_not_within (place [1] fun _ => 0xff) (by decide) (by decide) fuel 0
    Nat.one_pos (Nat.dvd_zero 4) _ hreads
  exact fun hnone => Option.some_ne_none _ (hval.symm.trans hnone)

end Rtl8190.Firmware
