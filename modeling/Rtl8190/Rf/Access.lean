import Rtl8190.Rf.Code

/-!
# One access to the RF chip

Register 0 of the chip and its copy in `RfReg0Value` change together, so every access finds its page
and leaves the first page behind.
-/

open Function Rtl8190.Banked
open Rtl8190.Power (rtl8192CalculateBitShift)

namespace Rtl8190.Rf

variable {r : Radio} {o : BitVec 6}

/-! ## Where a register lies -/

def locate (o : BitVec 6) : Page × BitVec 6 :=
  if o ≥ 31 then ((true, true), o - 30)
  else if o ≥ 16 then ((true, false), o - 15)
  else ((false, false), o)

theorem locate_apart : Apart 0 locate := by
  unfold Apart
  decide +kernel

theorem locate_home_iff (o : BitVec 6) : (locate o).2 = 0 ↔ o = 0 := by
  revert o
  decide

/-- The page bits are clear in `RfReg0Value`, which is register 0 of the chip. -/
structure Radio.Coherent (r : Radio) : Prop where
  clear : r.rfReg0Value &&& 0x140 = 0
  same : r.rfReg0Value.setWidth 12 = r.chip.selector

/-- The registers of the path, by their offsets -/
def Radio.flat (r : Radio) : BitVec 6 → Word := r.chip.flat 0 locate

/-! ## The three wires -/

theorem extract_data (x y : BitVec 32) (hy : ∀ i, y.getLsbD (16 + i) = false) :
    (x <<< 16 ||| y).extractLsb' 16 12 = x.setWidth 12 := by
  apply BitVec.eq_of_getLsbD_eq
  intro i hi
  simp only [BitVec.getLsbD_extractLsb', BitVec.getLsbD_or, BitVec.getLsbD_shiftLeft,
    BitVec.getLsbD_setWidth, hy i, hi, decide_true, Bool.true_and, Bool.or_false]
  simp [show 16 + i < 32 by omega]

theorem threeWire_reg0 (c : Rtl8256) (x : BitVec 32) :
    threeWire c (x <<< 16) = c.select (x.setWidth 12) := by
  have haddr : (x <<< 16).extractLsb' 0 6 = 0#6 := by
    apply BitVec.eq_of_getLsbD_eq
    intro i hi
    simp [show i < 16 by omega]
  have hdata : (x <<< 16).extractLsb' 16 12 = x.setWidth 12 := by
    have h := extract_data x 0 (by simp)
    rwa [BitVec.ofNat_eq_ofNat, BitVec.or_zero] at h
  unfold threeWire
  rw [haddr, hdata]
  exact write_home _ _ _ _

theorem threeWire_of_addr (c : Rtl8256) (data : BitVec 32) (a : BitVec 6) :
    threeWire c (data <<< 16 ||| a.setWidth 32 &&& 0x3f) = c.write pageOf 0 a (data.setWidth 12) := by
  have hmask : a.setWidth 32 &&& 0x3f = a.setWidth 32 := by
    revert a
    decide
  have haddr : (data <<< 16 ||| a.setWidth 32).extractLsb' 0 6 = a := by
    apply BitVec.eq_of_getLsbD_eq
    intro i hi
    simp [show i < 16 by omega, show i < 32 by omega, hi]
  unfold threeWire
  rw [hmask, haddr, extract_data]
  intro i
  rw [BitVec.getLsbD_setWidth, BitVec.getLsbD_of_ge a (16 + i) (by omega), Bool.and_false]

/-! ## The functions on one path -/

def Radio.withReg0 (r : Radio) (w : BitVec 32) : Radio :=
  { r with rfReg0Value := w, chip := r.chip.select (w.setWidth 12) }

theorem writeReg0_eq (r : Radio) (w : BitVec 32) :
    Radio.writeReg0 { r with rfReg0Value := w } = r.withReg0 w := by
  unfold Radio.writeReg0 Radio.withReg0
  rw [threeWire_reg0]

/-- What `RfReg0Value` becomes for a page -/
def pageWord (w : BitVec 32) (o : BitVec 6) : BitVec 32 :=
  if o ≥ 31 then w ||| 0x140 else if o ≥ 16 then (w ||| 0x100) &&& ~~~0x40 else w

theorem Radio.Coherent.selectPage (h : r.Coherent) (o : BitVec 6) :
    r.selectPage (o.setWidth 32) =
      (r.withReg0 (pageWord r.rfReg0Value o), (locate o).2.setWidth 32) := by
  have hself : r.withReg0 r.rfReg0Value = r := by
    unfold Radio.withReg0
    rw [h.same]
    rfl
  have hge31 : o.setWidth 32 ≥ 31 ↔ o ≥ 31 := by revert o; decide
  have hge16 : o.setWidth 32 ≥ 16 ↔ o ≥ 16 := by revert o; decide
  have hsub30 : o ≥ 31 → o.setWidth 32 - 30 = (o - 30).setWidth 32 := by revert o; decide
  have hsub15 : o ≥ 16 → o.setWidth 32 - 15 = (o - 15).setWidth 32 := by revert o; decide
  unfold Radio.selectPage pageWord locate
  by_cases h31 : o ≥ 31
  · rw [if_pos (hge31.mpr h31), if_pos h31, if_pos h31, writeReg0_eq, hsub30 h31]
  · rw [if_neg (mt hge31.mp h31), if_neg h31, if_neg h31]
    by_cases h16 : o ≥ 16
    · rw [if_pos (hge16.mpr h16), if_pos h16, if_pos h16, writeReg0_eq, hsub15 h16]
    · rw [if_neg (mt hge16.mp h16), if_neg h16, if_neg h16, hself]

theorem and_not_of_and_eq_zero {w : Nat} {x m : BitVec w} (h : x &&& m = 0) : x &&& ~~~m = x := by
  apply BitVec.eq_of_getLsbD_eq
  intro i hi
  have hbit := congrArg (BitVec.getLsbD · i) h
  simp only [BitVec.getLsbD_and] at hbit
  rw [BitVec.getLsbD_and, BitVec.getLsbD_not, decide_eq_true hi, Bool.true_and]
  cases hx : x.getLsbD i
  · rfl
  · simpa [hx] using hbit

section PageWord

variable {w : BitVec 32}

theorem pageWord_mask (w : BitVec 32) (o : BitVec 6) : pageWord w o &&& 0xebf = w &&& 0xebf := by
  unfold pageWord
  split
  · rw [BitVec.and_or_distrib_right, show (0x140 : BitVec 32) &&& 0xebf = 0#32 by decide,
      BitVec.or_zero]
  · split
    · rw [BitVec.and_assoc, show ~~~(0x40 : BitVec 32) &&& 0xebf = 0xebf by decide,
        BitVec.and_or_distrib_right, show (0x100 : BitVec 32) &&& 0xebf = 0#32 by decide,
        BitVec.or_zero]
    · rfl

theorem masked_clear (w : BitVec 32) : w &&& 0xebf &&& 0x140 = 0 := by
  rw [BitVec.and_assoc, show (0xebf : BitVec 32) &&& 0x140 = 0#32 by decide, BitVec.and_zero]
  rfl

/-- Where the page bits are clear, the mask of the page takes away nothing of register 0. -/
theorem masked_word (h : w &&& 0x140 = 0) : (w &&& 0xebf).setWidth 12 = w.setWidth 12 := by
  have hword : w.setWidth 12 &&& 0x140 = 0 := by
    have := congrArg (BitVec.setWidth 12) h
    rwa [BitVec.setWidth_and] at this
  rw [BitVec.setWidth_and]
  exact and_not_of_and_eq_zero hword

theorem pageOf_pageWord (h : w &&& 0x140 = 0) (o : BitVec 6) :
    pageOf ((pageWord w o).setWidth 12) = (locate o).1 := by
  have hbit : ∀ i, (0x140 : BitVec 32).getLsbD i = true → w.getLsbD i = false := by
    intro i hi
    have := congrArg (BitVec.getLsbD · i) h
    rw [BitVec.getLsbD_and, hi, Bool.and_true] at this
    simpa using this
  have h8 : w[8] = false := by simpa using hbit 8 (by decide)
  have h6 : w[6] = false := by simpa using hbit 6 (by decide)
  unfold pageOf pageWord locate
  split
  · simp
  · split
    · simp
    · simp [h8, h6]

end PageWord

theorem restorePage_eq (h : r.Coherent) {q : Radio} {w : BitVec 32}
    (hw : w &&& 0xebf = r.rfReg0Value &&& 0xebf) (hq : q.rfReg0Value = w) :
    q.restorePage.rfReg0Value = r.rfReg0Value &&& 0xebf ∧
      q.restorePage.chip = q.chip.select r.chip.selector := by
  unfold Radio.restorePage
  rw [writeReg0_eq, hq, hw]
  unfold Radio.withReg0
  rw [masked_word h.clear, h.same]
  exact ⟨rfl, rfl⟩

/-! ## The read -/

theorem extract_address (x : BitVec 32) (a : BitVec 6) :
    (setBBreg x bLSSIReadAddress (a.setWidth 32)).extractLsb' 24 6 = a := by
  have hshift : rtl8192CalculateBitShift bLSSIReadAddress = 24 := by decide
  have hmask : ∀ i < 6, bLSSIReadAddress.getLsbD (24 + i) = true := by decide
  unfold setBBreg
  rw [hshift]
  apply BitVec.eq_of_getLsbD_eq
  intro i hi
  rw [BitVec.getLsbD_extractLsb', BitVec.getLsbD_or, BitVec.getLsbD_and, BitVec.getLsbD_not,
    hmask i hi, BitVec.getLsbD_shiftLeft, BitVec.getLsbD_setWidth, Nat.add_sub_cancel_left]
  simp [show 24 + i < 32 by omega, hi, show ¬ 24 + i < 24 by omega, show i < 32 by omega]

theorem edge_low (x : BitVec 32) : setBBreg x bLSSIReadEdge 0x0 &&& bLSSIReadEdge = 0 := by
  have hshift : rtl8192CalculateBitShift bLSSIReadEdge = 31 := by decide
  unfold setBBreg
  rw [hshift, show (0x0 : BitVec 32) <<< 31 = 0#32 by decide, BitVec.or_zero, BitVec.and_assoc,
    BitVec.and_comm (~~~_), BitVec.and_not_self]
  exact BitVec.and_zero

theorem edge_high (x : BitVec 32) : setBBreg x bLSSIReadEdge 0x1 &&& bLSSIReadEdge ≠ 0 := by
  intro h
  have hshift : rtl8192CalculateBitShift bLSSIReadEdge = 31 := by decide
  have hbit := congrArg (BitVec.getLsbD · 31) h
  unfold setBBreg at hbit
  rw [hshift] at hbit
  simp [bLSSIReadEdge] at hbit

theorem extract_edge (x d : BitVec 32) :
    (setBBreg x bLSSIReadEdge d).extractLsb' 24 6 = x.extractLsb' 24 6 := by
  have hshift : rtl8192CalculateBitShift bLSSIReadEdge = 31 := by decide
  have hmask : ∀ i < 6, bLSSIReadEdge.getLsbD (24 + i) = false := by decide
  unfold setBBreg
  rw [hshift]
  apply BitVec.eq_of_getLsbD_eq
  intro i hi
  rw [BitVec.getLsbD_extractLsb', BitVec.getLsbD_or, BitVec.getLsbD_and, BitVec.getLsbD_not,
    hmask i hi, BitVec.getLsbD_shiftLeft, BitVec.getLsbD_extractLsb']
  simp [show 24 + i < 32 by omega, show 24 + i < 31 by omega]

theorem query_word (v : Word) : queryBBReg (v.setWidth 32) bLSSIReadBackData = v.setWidth 32 := by
  have hshift : rtl8192CalculateBitShift bLSSIReadBackData = 0 := by decide
  unfold queryBBReg
  rw [hshift, BitVec.ushiftRight_zero]
  apply BitVec.eq_of_getLsbD_eq
  intro i hi
  rw [BitVec.getLsbD_and, BitVec.getLsbD_setWidth]
  by_cases h12 : i < 12
  · have hmask : ∀ i < 12, bLSSIReadBackData.getLsbD i = true := by decide
    rw [hmask i h12, Bool.and_true]
  · rw [BitVec.getLsbD_of_ge v i (by omega), Bool.and_false, Bool.false_and]

theorem writeHSSIPara2_low {value : BitVec 32} (h : value &&& bLSSIReadEdge = 0) :
    r.writeHSSIPara2 value = { r with rfHSSIPara2 := value } := by
  unfold Radio.writeHSSIPara2
  rw [if_neg]
  rintro ⟨-, hne⟩
  exact hne h

/-- The write of the address may raise the edge again, which changes nothing but what is read. -/
theorem writeHSSIPara2_cases (r : Radio) (value : BitVec 32) :
    ∃ b, r.writeHSSIPara2 value = { r with rfHSSIPara2 := value, rfLSSIReadBack := b } := by
  unfold Radio.writeHSSIPara2
  split
  · exact ⟨_, rfl⟩
  · exact ⟨r.rfLSSIReadBack, rfl⟩

theorem readBack_eq (r : Radio) (a : BitVec 6) :
    ∃ p b, r.readBack (a.setWidth 32) = ({ r with rfHSSIPara2 := p, rfLSSIReadBack := b },
      (r.chip.read pageOf 0 a).setWidth 32) := by
  unfold Radio.readBack
  obtain ⟨b, hb⟩ := writeHSSIPara2_cases r (setBBreg r.rfHSSIPara2 bLSSIReadAddress (a.setWidth 32))
  rw [hb]
  dsimp only
  rw [writeHSSIPara2_low (edge_low _)]
  dsimp only
  unfold Radio.writeHSSIPara2
  rw [if_pos ⟨edge_low _, edge_high _⟩]
  dsimp only
  rw [extract_edge, extract_edge, extract_address, query_word]
  exact ⟨_, _, rfl⟩

theorem Radio.Coherent.serialRead (h : r.Coherent) (o : BitVec 6) :
    (r.serialRead (o.setWidth 32)).2 = (r.flat o).setWidth 32 ∧
      (r.serialRead (o.setWidth 32)).1.chip = r.chip ∧
      (r.serialRead (o.setWidth 32)).1.rfReg0Value = r.rfReg0Value &&& 0xebf := by
  obtain ⟨p, b, hread⟩ := readBack_eq (r.withReg0 (pageWord r.rfReg0Value o)) (locate o).2
  have hrestore := restorePage_eq h (pageWord_mask r.rfReg0Value o)
    (q := { r.withReg0 (pageWord r.rfReg0Value o) with rfHSSIPara2 := p, rfLSSIReadBack := b }) rfl
  unfold Radio.serialRead
  rw [h.selectPage]
  dsimp only
  rw [hread]
  refine ⟨?_, hrestore.2, hrestore.1⟩
  have hpage := pageOf_pageWord h.clear o
  have hread := read_eq_get (0 : BitVec 6) (p := locate o)
    (c := r.chip.select ((pageWord r.rfReg0Value o).setWidth 12)) hpage
  refine congrArg (BitVec.setWidth 32) (hread.trans (get_select fun hhome => ?_))
  rw [(locate_home_iff o).mp hhome]
  exact h.same

/-! ## The write -/

theorem Radio.Coherent.serialWrite (h : r.Coherent) (o : BitVec 6) (data : BitVec 32) :
    (r.serialWrite (o.setWidth 32) data).chip = r.chip.put 0 (locate o) (data.setWidth 12) ∧
      (r.serialWrite (o.setWidth 32) data).rfReg0Value =
        if o = 0 then data else r.rfReg0Value &&& 0xebf := by
  have hzero : o.setWidth 32 = 0 ↔ o = 0 := by revert o; decide
  have hpage := pageOf_pageWord h.clear o
  have hput := write_eq_put (0 : BitVec 6) (p := locate o) (v := data.setWidth 12)
    (c := r.chip.select ((pageWord r.rfReg0Value o).setWidth 12)) hpage
  unfold Radio.serialWrite
  rw [h.selectPage]
  dsimp only [Radio.withReg0]
  rw [threeWire_of_addr, hput]
  by_cases ho : o = 0
  · rw [if_pos (hzero.mpr ho), if_pos ho]
    exact ⟨put_select_home ((locate_home_iff o).mpr ho), rfl⟩
  · have hrestore := restorePage_eq h (pageWord_mask r.rfReg0Value o)
      (q := { r.withReg0 (pageWord r.rfReg0Value o) with
        chip := (r.chip.select ((pageWord r.rfReg0Value o).setWidth 12)).put 0 (locate o)
          (data.setWidth 12) }) rfl
    rw [if_neg (mt hzero.mp ho), if_neg ho]
    exact ⟨hrestore.2.trans (put_select (mt (locate_home_iff o).mp ho)), hrestore.1⟩

end Rtl8190.Rf
