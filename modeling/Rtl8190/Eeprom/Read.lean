import Mathlib.Data.List.Induction
import Rtl8190.Eeprom.Code

/-!
# Every read gives the word

`eprom_read` moves three wires with some hundred register writes. Between two of its functions the clock
is low, and each function does one thing to the chip, so the whole is an instruction of the chip and 16
clocks.
-/

open Rtl8190.Memory Rtl8190.Microwire
open Rtl8190.TxPower (EepromType)

namespace Rtl8190.Eeprom

variable {n : Nat} {C : Chip n} {nic : Nic C} {c d : Bool}

/-! ## The register -/

theorem programming_iff : ∀ v : Byte,
    v >>> epromCmdOperatingModeShift = epromCmdProgram ↔ v.getLsbD 7 = true ∧ v.getLsbD 6 = false := by
  decide +kernel

theorem wires_of_mode {v : Byte} (h : v.getLsbD 7 = true ∧ v.getLsbD 6 = false) :
    wires v = ⟨v.getLsbD 3, v.getLsbD 2, v.getLsbD 1⟩ := if_pos ((programming_iff v).mpr h)

theorem getLsbD_raise (v : Byte) {k i : Nat} (hi : i < 8) :
    ((1 : Byte) <<< k ||| v).getLsbD i = (decide (i = k) || v.getLsbD i) := by
  rw [BitVec.getLsbD_or, BitVec.getLsbD_shiftLeft]
  by_cases hik : i = k
  · subst hik
    simp [hi]
  · have hcases : i < k ∨ ¬ i - k = 0 := by omega
    rcases hcases with hlt | hne
    · simp [hik, hlt]
    · simp [hik, hne]

theorem getLsbD_lower (v : Byte) {k i : Nat} (hi : i < 8) :
    (v &&& ~~~((1 : Byte) <<< k)).getLsbD i = (!decide (i = k) && v.getLsbD i) := by
  have hraise := getLsbD_raise (0 : Byte) (k := k) hi
  rw [BitVec.getLsbD_or] at hraise
  have hzero : (0 : Byte).getLsbD i = false := BitVec.getLsbD_zero
  rw [hzero, Bool.or_false, Bool.or_false] at hraise
  rw [BitVec.getLsbD_and, BitVec.getLsbD_not, hraise, decide_eq_true hi, Bool.true_and, Bool.and_comm]

theorem getLsbD_readNicByte {i : Nat} (h : i = 1 ∨ i = 2 ∨ i = 3 ∨ i = 6 ∨ i = 7) :
    (readNicByte nic).getLsbD i = nic.cmd.getLsbD i := by
  unfold readNicByte strapBits
  rcases h with rfl | rfl | rfl | rfl | rfl
  all_goals split <;> simp

theorem raised {k i : Nat} (h : i = 1 ∨ i = 2 ∨ i = 3 ∨ i = 6 ∨ i = 7) :
    (writeNicByte nic ((1 : Byte) <<< k ||| readNicByte nic)).cmd.getLsbD i =
      (decide (i = k) || nic.cmd.getLsbD i) := by
  have hread : (readNicByte nic).getLsbD i = nic.cmd.getLsbD i := getLsbD_readNicByte h
  rw [← hread]
  exact getLsbD_raise _ (by omega)

theorem lowered {k i : Nat} (h : i = 1 ∨ i = 2 ∨ i = 3 ∨ i = 6 ∨ i = 7) :
    (writeNicByte nic (readNicByte nic &&& ~~~((1 : Byte) <<< k))).cmd.getLsbD i =
      (!decide (i = k) && nic.cmd.getLsbD i) := by
  have hread : (readNicByte nic).getLsbD i = nic.cmd.getLsbD i := getLsbD_readNicByte h
  rw [← hread]
  exact getLsbD_lower _ (by omega)

theorem epromR_eq (nic : Nic C) : epromR nic = if C.out nic.chip = true then 1 else 0 := by
  have hbit : ∀ v : Byte, v &&& (1 : Byte) <<< epromRShift ≠ 0 ↔ v.getLsbD 0 = true := by decide +kernel
  have hout : (readNicByte nic).getLsbD 0 = C.out nic.chip := by
    unfold readNicByte strapBits
    cases h : C.out nic.chip <;> simp
  unfold epromR
  simp only [hbit, hout]

/-- The mode is `EPROM_CMD_PROGRAM`, and the wires are at these levels. -/
structure Levels (nic : Nic C) (p : Pins) : Prop where
  mode7 : nic.cmd.getLsbD 7 = true
  mode6 : nic.cmd.getLsbD 6 = false
  cs : nic.cmd.getLsbD 3 = p.cs
  ck : nic.cmd.getLsbD 2 = p.ck
  di : nic.cmd.getLsbD 1 = p.di

namespace Levels

variable {p q : Pins}

theorem wires_eq (h : Levels nic p) : wires nic.cmd = p := by
  rw [wires_of_mode ⟨h.mode7, h.mode6⟩, h.cs, h.ck, h.di]

theorem raise (h : Levels nic p) {k : Nat} (hk : k = 1 ∨ k = 2 ∨ k = 3) :
    Levels (writeNicByte nic ((1 : Byte) <<< k ||| readNicByte nic))
      ⟨decide (3 = k) || p.cs, decide (2 = k) || p.ck, decide (1 = k) || p.di⟩ := by
  constructor
  · rw [raised (by omega), h.mode7, Bool.or_true]
  · rw [raised (by omega), h.mode6, Bool.or_false]
    exact decide_eq_false (by omega)
  · rw [raised (by omega), h.cs]
  · rw [raised (by omega), h.ck]
  · rw [raised (by omega), h.di]

theorem lower (h : Levels nic p) {k : Nat} (hk : k = 1 ∨ k = 2 ∨ k = 3) :
    Levels (writeNicByte nic (readNicByte nic &&& ~~~((1 : Byte) <<< k)))
      ⟨!decide (3 = k) && p.cs, !decide (2 = k) && p.ck, !decide (1 = k) && p.di⟩ := by
  constructor
  · rw [lowered (by omega), h.mode7, Bool.and_true, decide_eq_false (by omega)]
    rfl
  · rw [lowered (by omega), h.mode6, Bool.and_false]
  · rw [lowered (by omega), h.cs]
  · rw [lowered (by omega), h.ck]
  · rw [lowered (by omega), h.di]

theorem chip_write (h : Levels nic p) {v : Byte} (hv : Levels (writeNicByte nic v) q) :
    (writeNicByte nic v).chip = (p.event q).elim nic.chip (C.react nic.chip) := by
  rw [← h.wires_eq, ← hv.wires_eq]
  rfl

end Levels

/-! ## What one function does to the chip -/

theorem epromCs_one (h : Levels nic ⟨false, false, d⟩) :
    Levels (epromCs nic 1) ⟨true, false, d⟩ ∧ (epromCs nic 1).chip = C.react nic.chip .select := by
  have hlevels : Levels (epromCs nic 1) ⟨true, false, d⟩ := h.raise (by decide)
  exact ⟨hlevels, h.chip_write hlevels⟩

theorem epromCs_zero (h : Levels nic ⟨true, false, d⟩) :
    Levels (epromCs nic 0) ⟨false, false, d⟩ ∧ (epromCs nic 0).chip = C.react nic.chip .release := by
  have hlevels : Levels (epromCs nic 0) ⟨false, false, d⟩ := h.lower (by decide)
  exact ⟨hlevels, h.chip_write hlevels⟩

theorem event_di (c d d' : Bool) : Pins.event ⟨c, false, d⟩ ⟨c, false, d'⟩ = none := by
  cases c <;> rfl

theorem epromW_levels (h : Levels nic ⟨c, false, d⟩) (bit : BitVec 16) :
    Levels (epromW nic bit) ⟨c, false, bit ≠ 0⟩ ∧ (epromW nic bit).chip = nic.chip := by
  unfold epromW
  by_cases hbit : bit = 0
  · rw [if_neg (by simpa using hbit), decide_eq_false (by simpa using hbit)]
    have hlevels : Levels _ ⟨c, false, false⟩ := h.lower (k := epromWShift) (by decide)
    exact ⟨hlevels, by rw [h.chip_write hlevels, event_di]; rfl⟩
  · rw [if_pos hbit, decide_eq_true hbit]
    have hlevels : Levels _ ⟨c, false, true⟩ := h.raise (k := epromWShift) (by decide)
    exact ⟨hlevels, by rw [h.chip_write hlevels, event_di]; rfl⟩

theorem epromCkCycle_levels (h : Levels nic ⟨c, false, d⟩) :
    Levels (epromCkCycle nic) ⟨c, false, d⟩ ∧
      (epromCkCycle nic).chip = if c = true then C.react nic.chip (.rise d) else nic.chip := by
  have hup := h.raise (k := epromCkShift) (by decide)
  have hdown := hup.lower (k := epromCkShift) (by decide)
  refine ⟨hdown, (hup.chip_write hdown).trans ?_⟩
  -- The falling edge is nothing to the chip.
  rw [h.chip_write hup]
  cases c <;> rfl

/-! ## An instruction -/

theorem epromSendBitsString_levels (h : Levels nic ⟨true, false, d⟩) (b : List (BitVec 16)) :
    (∃ d', Levels (epromSendBitsString nic b) ⟨true, false, d'⟩) ∧
      (epromSendBitsString nic b).chip = C.clocks nic.chip (b.map fun x => decide (x ≠ 0)) := by
  induction b generalizing nic d with
  | nil => exact ⟨⟨d, h⟩, rfl⟩
  | cons x b ih =>
    obtain ⟨hw, hwchip⟩ := epromW_levels h x
    obtain ⟨hck, hckchip⟩ := epromCkCycle_levels hw
    obtain ⟨hlevels, hchip⟩ := ih hck
    refine ⟨hlevels, ?_⟩
    show (epromSendBitsString (epromCkCycle (epromW nic x)) b).chip = _
    rw [hchip, hckchip, hwchip]
    rfl

/-- Bit `i` of the address as the driver passes it on, a number that is zero or not -/
theorem bit_ne_zero_iff (addr : BitVec 32) {i : Nat} (hi : i < 16) :
    (addr &&& (1 : BitVec 32) <<< i).setWidth 16 ≠ 0 ↔ addr.getLsbD i = true := by
  constructor
  · intro hne
    by_contra hbit
    apply hne
    apply BitVec.eq_of_getLsbD_eq
    intro j hj
    by_cases hij : j = i
    · subst hij
      simp [hbit]
    · have hcases : j < i ∨ ¬ j - i = 0 := by omega
      rcases hcases with h | h <;> simp [h]
  · intro hbit hzero
    have h := congrArg (BitVec.getLsbD · i) hzero
    simp only [BitVec.getLsbD_setWidth, BitVec.getLsbD_and, hbit, hi] at h
    simp [show i < 32 by omega] at h

theorem addrStr_eq (t : EepromType) (addr : BitVec 32) :
    (addrStr t addr).map (fun x => decide (x ≠ 0)) = bitsOf (addr.setWidth (addrLen t)) := by
  have hlen : addrLen t ≤ 8 := by cases t <;> decide
  have hlist : addrStr t addr = (List.range (addrLen t)).map fun i =>
      (addr &&& (1 : BitVec 32) <<< (addrLen t - 1 - i)).setWidth 16 := by
    cases t <;> rfl
  rw [hlist, List.map_map, bitsOf]
  apply List.map_congr_left
  intro i hi
  have hlt : i < addrLen t := List.mem_range.mp hi
  have hbit := bit_ne_zero_iff addr (show addrLen t - 1 - i < 16 by omega)
  rw [Function.comp_apply, BitVec.getLsbD_setWidth, decide_eq_true (show addrLen t - 1 - i < addrLen t by omega),
    Bool.true_and, Bool.eq_iff_iff, decide_eq_true_iff]
  exact hbit

/-! ## The word -/

theorem readBits_levels {a : BitVec n} (h : Levels nic ⟨true, false, false⟩)
    (hphase : C.phase nic.chip = .data a 0) {k : Nat} (hk : k ≤ 16) :
    let s := (List.range k).foldl readBit (nic, 0)
    Levels s.1 ⟨true, false, false⟩ ∧ C.phase s.1.chip = .data a k ∧ C.word s.1.chip = C.word nic.chip ∧
      ∀ j, s.2.getLsbD j = (decide (16 - k ≤ j ∧ j < 16) && (C.word nic.chip a).getLsbD j) := by
  -- The loop that reads the word, after `k` of its rounds.
  induction k with
  | zero =>
    refine ⟨h, hphase, rfl, fun j => ?_⟩
    have hout : ¬ (16 - 0 ≤ j ∧ j < 16) := by omega
    rw [decide_eq_false hout]
    exact BitVec.getLsbD_zero
  | succ k ih =>
    obtain ⟨hlevels, hdata, hword, hret⟩ := ih (by omega)
    obtain ⟨hck, hchip⟩ := epromCkCycle_levels hlevels
    rw [if_pos rfl] at hchip
    have hclocked : (C.phase ((List.range k).foldl readBit (nic, 0)).1.chip).Clocked := by
      rw [hdata]
      show k < 16
      omega
    have hdata' : C.phase (epromCkCycle ((List.range k).foldl readBit (nic, 0)).1).chip = .data a (k + 1) := by
      rw [hchip, C.phase_rise _ _ hclocked, hdata]
      rfl
    have hword' : C.word (epromCkCycle ((List.range k).foldl readBit (nic, 0)).1).chip = C.word nic.chip := by
      rw [hchip, Chip.word_rise hclocked, hword]
    rw [List.range_succ, List.foldl_append]
    refine ⟨hck, hdata', hword', fun j => ?_⟩
    -- Round `k` brings bit `15 - k`.
    have hout := C.out_data _ a (k + 1) hdata' (by omega) hk
    rw [hword', show 16 - (k + 1) = 15 - k by omega] at hout
    show (_ ||| (epromR _).setWidth 32 <<< (15 - k)).getLsbD j = _
    rw [BitVec.getLsbD_or, hret, epromR_eq, hout]
    by_cases hj : j = 15 - k
    · subst hj
      rw [decide_eq_false (show ¬ (16 - k ≤ 15 - k ∧ 15 - k < 16) by omega),
        decide_eq_true (show 16 - (k + 1) ≤ 15 - k ∧ 15 - k < 16 by omega), Bool.false_and,
        Bool.false_or, Bool.true_and]
      cases (C.word nic.chip a).getLsbD (15 - k)
      · simp
      · simp
        omega
    · have hcases : j < 15 - k ∨ ¬ j - (15 - k) = 0 := by omega
      have hiff : (16 - k ≤ j ∧ j < 16) ↔ (16 - (k + 1) ≤ j ∧ j < 16) := by omega
      simp only [hiff]
      split <;> rcases hcases with h | h <;> simp [h]

/-! ## A read -/

/-- The chip is not in use, and the host keeps its wires low. -/
structure Idle (nic : Nic C) : Prop where
  wires_eq : wires nic.cmd = ⟨false, false, false⟩
  phase_eq : C.phase nic.chip = .standby

/-- The first accesses of a read: the clock before the start bit finds the data wire low. -/
theorem select_levels (h : Idle nic) :
    let nic' := epromCkCycle
      (epromCs (writeNicByte nic (epromCmdProgram <<< epromCmdOperatingModeShift)) 1)
    Levels nic' ⟨true, false, false⟩ ∧ C.phase nic'.chip = .ready ∧ C.word nic'.chip = C.word nic.chip := by
  have hstart : Levels (writeNicByte nic (epromCmdProgram <<< epromCmdOperatingModeShift))
      ⟨false, false, false⟩ := by
    constructor <;>
    · show BitVec.getLsbD (epromCmdProgram <<< epromCmdOperatingModeShift) _ = _
      decide
  have hstartchip : (writeNicByte nic (epromCmdProgram <<< epromCmdOperatingModeShift)).chip = nic.chip := by
    show ((wires nic.cmd).event (wires (writeNicByte nic _).cmd)).elim nic.chip (C.react nic.chip) = _
    rw [h.wires_eq, hstart.wires_eq]
    rfl
  obtain ⟨hcs, hcschip⟩ := epromCs_one hstart
  obtain ⟨hck, hckchip⟩ := epromCkCycle_levels hcs
  rw [if_pos rfl, hcschip, hstartchip] at hckchip
  have hselect : C.phase (C.react nic.chip .select) = .ready := C.phase_select _ h.phase_eq
  have hclocked : (C.phase (C.react nic.chip .select)).Clocked := by
    rw [hselect]
    trivial
  have hstandby : C.phase nic.chip ≠ .other := by simp [h.phase_eq]
  refine ⟨hck, ?_, ?_⟩
  · rw [hckchip, C.phase_rise _ _ hclocked, hselect]
    rfl
  · rw [hckchip, Chip.word_rise hclocked, C.word_react _ _ hstandby]

theorem instruction_levels {t : EepromType} {C : Chip (addrLen t)} {nic : Nic C}
    (h : Levels nic ⟨true, false, d⟩) (hready : C.phase nic.chip = .ready) (addr : BitVec 32) :
    let nic' := epromSendBitsString (epromSendBitsString nic readCmd) (addrStr t addr)
    (∃ d', Levels nic' ⟨true, false, d'⟩) ∧ C.phase nic'.chip = .data (addr.setWidth (addrLen t)) 0 ∧
      C.word nic'.chip = C.word nic.chip := by
  obtain ⟨⟨d₁, hcmd⟩, hcmdchip⟩ := epromSendBitsString_levels h readCmd
  obtain ⟨haddr, haddrchip⟩ := epromSendBitsString_levels hcmd (addrStr t addr)
  have hchip : (epromSendBitsString (epromSendBitsString nic readCmd) (addrStr t addr)).chip =
      C.clocks nic.chip (true :: true :: false :: bitsOf (addr.setWidth (addrLen t))) := by
    rw [haddrchip, hcmdchip, addrStr_eq, ← Chip.clocks_append]
    rfl
  refine ⟨haddr, ?_⟩
  rw [hchip]
  exact Chip.clocks_read hready _

theorem release_levels (h : Levels nic ⟨true, false, d⟩) {a : BitVec n} {k : Nat}
    (hphase : C.phase nic.chip = .data a k) :
    let nic' := writeNicByte (epromCkCycle (epromCs nic 0))
      (epromCmdNormal <<< epromCmdOperatingModeShift)
    Idle nic' ∧ C.word nic'.chip = C.word nic.chip := by
  -- The last accesses of a read.
  have hnormal : wires (epromCmdNormal <<< epromCmdOperatingModeShift) = ⟨false, false, false⟩ := by decide
  obtain ⟨hcs, hcschip⟩ := epromCs_zero h
  obtain ⟨hck, hckchip⟩ := epromCkCycle_levels hcs
  have hchip : (writeNicByte (epromCkCycle (epromCs nic 0))
      (epromCmdNormal <<< epromCmdOperatingModeShift)).chip = C.react nic.chip .release := by
    show ((wires (epromCkCycle (epromCs nic 0)).cmd).event _).elim (epromCkCycle (epromCs nic 0)).chip _ = _
    rw [hck.wires_eq, hnormal, ← hcschip]
    exact hckchip
  refine ⟨⟨hnormal, ?_⟩, ?_⟩
  · rw [hchip, C.phase_release]
  · have hreading : C.phase nic.chip ≠ .other := by
      rw [hphase]
      intro hother
      cases hother
    rw [hchip, C.word_react _ _ hreading]

/-- A read of a chip that is not in use gives the word, and leaves the chip not in use. -/
theorem epromRead_eq {t : EepromType} {C : Chip (addrLen t)} {nic : Nic C} (h : Idle nic)
    (addr : BitVec 32) :
    Idle (epromRead t nic addr).1 ∧ C.word (epromRead t nic addr).1.chip = C.word nic.chip ∧
      (epromRead t nic addr).2 = (C.word nic.chip (addr.setWidth (addrLen t))).setWidth 32 := by
  obtain ⟨hselect, hready, hreadyword⟩ := select_levels h
  obtain ⟨⟨d, hsent⟩, hdata, hdataword⟩ := instruction_levels hselect hready addr
  obtain ⟨hw, hwchip⟩ := epromW_levels hsent 0
  rw [← hwchip] at hdata hdataword
  obtain ⟨hloop, hend, hword, hret⟩ := readBits_levels hw hdata (Nat.le_refl 16)
  obtain ⟨hidle, hlast⟩ := release_levels hloop hend
  refine ⟨hidle, ?_, ?_⟩
  · show C.word (writeNicByte (epromCkCycle (epromCs _ 0)) _).chip = _
    rw [hlast, hword, hdataword, hreadyword]
  · apply BitVec.eq_of_getLsbD_eq
    intro j hj
    show ((List.range 16).foldl readBit (_, 0)).2.getLsbD j = _
    rw [hret, hdataword, hreadyword, BitVec.getLsbD_setWidth, decide_eq_true hj, Bool.true_and]
    by_cases hlt : j < 16
    · simp [hlt]
    · rw [BitVec.getLsbD_of_ge _ j (by omega), Bool.and_false]

theorem epromRead_cmd (t : EepromType) {C : Chip n} (nic : Nic C) (addr : BitVec 32) :
    (epromRead t nic addr).1.cmd = epromCmdNormal <<< epromCmdOperatingModeShift := rfl

/-- A run of reads: the host's side of the wires, and what the reads gave. -/
def reads (t : EepromType) (nic : Nic C) (addrs : List (BitVec 32)) : Nic C × List (BitVec 32) :=
  addrs.foldl (fun s addr => ((epromRead t s.1 addr).1, s.2 ++ [(epromRead t s.1 addr).2])) (nic, [])

/-- Over any chip and any run of reads, each read gives the word at its address: the wires carry the whole
instruction and the whole word, and no read disturbs the next one. -/
theorem reads_eq {t : EepromType} {C : Chip (addrLen t)} {nic : Nic C} (h : Idle nic)
    (addrs : List (BitVec 32)) :
    Idle (reads t nic addrs).1 ∧
      (addrs ≠ [] → (reads t nic addrs).1.cmd = epromCmdNormal <<< epromCmdOperatingModeShift) ∧
      C.word (reads t nic addrs).1.chip = C.word nic.chip ∧
      (reads t nic addrs).2 = addrs.map fun addr =>
        (C.word nic.chip (addr.setWidth (addrLen t))).setWidth 32 := by
  induction addrs using List.reverseRecOn with
  | nil => exact ⟨h, fun hne => absurd rfl hne, rfl, rfl⟩
  | append_singleton addrs addr ih =>
    obtain ⟨hidle, -, hword, hvals⟩ := ih
    obtain ⟨hidle', hword', hval⟩ := epromRead_eq hidle addr
    have hstep : reads t nic (addrs ++ [addr]) =
        ((epromRead t (reads t nic addrs).1 addr).1,
          (reads t nic addrs).2 ++ [(epromRead t (reads t nic addrs).1 addr).2]) := List.foldl_append
    rw [hstep]
    refine ⟨hidle', fun _ => epromRead_cmd .., hword'.trans hword, ?_⟩
    rw [hvals, hval, hword, List.map_append]
    rfl

/-- A chip of 64 words that holds the squares of their addresses -/
def squares : Nic (plain 6 true) :=
  ⟨0, 0, (.standby, fun a => a.setWidth 16 * a.setWidth 16)⟩

/-- The second address is cut to the six bits that the chip has. -/
theorem reads_squares : (reads .eeprom93C46 squares [63, 66]).1.cmd = 0 ∧
    (reads .eeprom93C46 squares [63, 66]).2 = [3969, 4] := by
  have hidle : Idle squares := ⟨by decide, rfl⟩
  obtain ⟨-, hcmd, -, hvals⟩ := @reads_eq .eeprom93C46 _ _ hidle [63, 66]
  exact ⟨hcmd (by decide), hvals⟩

end Rtl8190.Eeprom
