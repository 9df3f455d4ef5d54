import Rtl8190.Lib.Run
import Rtl8190.Rf.Access

/-!
# The pages of the RF chip as one map

The accesses to the RF registers, one after the other, are those to a map from paths and offsets.
-/

open Function Rtl8190.Banked Rtl8190.Run
open Rtl8190.Phy (Path paths)
open Rtl8190.Power (RfType rtl8192CalculateBitShift)

namespace Rtl8190.Rf

variable {r : Radio} {o : BitVec 6}

/-! ## Calls and the flat map -/

inductive Call where
  | setRFReg (eRFPath : Path) (regAddr bitMask data : BitVec 32)
  | queryRFReg (eRFPath : Path) (regAddr bitMask : BitVec 32)

def offsetOf (regAddr : BitVec 32) : BitVec 6 := regAddr.setWidth 6

/-- The bits that a call of `rtl8192_phy_SetRFReg` changes to, at their place -/
def written (bitMask data : BitVec 32) : BitVec 32 :=
  if bitMask ≠ bMask12Bits then data <<< rtl8192CalculateBitShift bitMask else data

/-- The new value of a register in `rtl8192_phy_SetRFReg` -/
def merged (old : Word) (bitMask data : BitVec 32) : BitVec 32 :=
  if bitMask ≠ bMask12Bits then
    old.setWidth 32 &&& ~~~bitMask ||| data <<< rtl8192CalculateBitShift bitMask
  else data

/-- A map from paths and offsets, without pages -/
abbrev Registers := Path → BitVec 6 → Word

variable (rfType : RfType)

/-- The answers of the queries so far come with the state. -/
def step (s : State × List (BitVec 32)) : Call → State × List (BitVec 32)
  | .setRFReg eRFPath regAddr bitMask data =>
    (rtl8192PhySetRFReg rfType s.1 eRFPath regAddr bitMask data, s.2)
  | .queryRFReg eRFPath regAddr bitMask =>
    let ret := rtl8192PhyQueryRFReg rfType s.1 eRFPath regAddr bitMask
    (ret.1, s.2 ++ [ret.2])

def flatStep (m : Registers × List (BitVec 32)) : Call → Registers × List (BitVec 32)
  | .setRFReg eRFPath regAddr bitMask data =>
    let new := (merged (m.1 eRFPath (offsetOf regAddr)) bitMask data).setWidth 12
    (update m.1 eRFPath (update (m.1 eRFPath) (offsetOf regAddr) new), m.2)
  | .queryRFReg eRFPath regAddr bitMask =>
    (m.1, m.2 ++ [((m.1 eRFPath (offsetOf regAddr)).setWidth 32 &&& bitMask) >>>
      rtl8192CalculateBitShift bitMask])

def State.flat (s : State) : Registers := fun p => (s.radio p).flat

def State.Coherent (s : State) : Prop :=
  ∀ p, rtl8192PhyCheckIsLegalRFPath rfType p = true → (s.radio p).Coherent

/-- The path is legal, and a write to register 0 leaves the page bits clear. -/
def Call.Allowed : Call → Prop
  | .setRFReg eRFPath regAddr bitMask data =>
    rtl8192PhyCheckIsLegalRFPath rfType eRFPath = true ∧
      (offsetOf regAddr = 0 → written bitMask data &&& 0x140 = 0)
  | .queryRFReg eRFPath _ _ => rtl8192PhyCheckIsLegalRFPath rfType eRFPath = true

instance (c : Call) : Decidable (c.Allowed rfType) :=
  match c with
  | .setRFReg eRFPath regAddr bitMask data =>
    inferInstanceAs (Decidable (rtl8192PhyCheckIsLegalRFPath rfType eRFPath = true ∧
      (offsetOf regAddr = 0 → written bitMask data &&& 0x140 = 0)))
  | .queryRFReg eRFPath _ _ =>
    inferInstanceAs (Decidable (rtl8192PhyCheckIsLegalRFPath rfType eRFPath = true))

def Call.Fits : Call → Prop
  | .setRFReg _ regAddr bitMask data => offsetOf regAddr = 0 → written bitMask data &&& ~~~0xfff = 0
  | .queryRFReg _ _ _ => True

/-! ## One call -/

section Call

variable {rfType} {s : State} {p : Path}

theorem offset_eq (regAddr : BitVec 32) : regAddr &&& 0x3f = (offsetOf regAddr).setWidth 32 := by
  unfold offsetOf
  have hlow : ∀ i < 6, (0x3f : BitVec 32).getLsbD i = true := by decide
  have hhigh : ∀ i < 32, ¬ i < 6 → (0x3f : BitVec 32).getLsbD i = false := by decide
  apply BitVec.eq_of_getLsbD_eq
  intro i hi
  rw [BitVec.getLsbD_and, BitVec.getLsbD_setWidth, BitVec.getLsbD_setWidth]
  by_cases h6 : i < 6
  · rw [hlow i h6, decide_eq_true hi, decide_eq_true h6, Bool.and_true]
    rfl
  · rw [hhigh i hi h6, decide_eq_false h6, Bool.and_false, Bool.false_and, Bool.and_false]

@[simp] theorem radio_powerOn (s : State) : (s.powerOn rfType).radio = s.radio := by
  unfold State.powerOn
  split <;> rfl

@[simp] theorem radio_powerOff (s : State) : s.powerOff.radio = s.radio := rfl

@[simp] theorem radio_onPath (s : State) (p : Path) (r : Radio) :
    (s.onPath p r).radio = update s.radio p r := rfl

/-- What a read leaves on its path -/
structure Radio.SameRegisters (r r' : Radio) : Prop where
  chip : r'.chip = r.chip
  reg0 : r'.rfReg0Value = r.rfReg0Value &&& 0xebf

theorem Radio.SameRegisters.coherent {r r' : Radio} (h : r.SameRegisters r') (hc : r.Coherent) :
    r'.Coherent := by
  constructor
  · rw [h.reg0, masked_clear]
  · rw [h.reg0, h.chip, masked_word hc.clear, hc.same]

theorem rfSerialRead_spec (rfType : RfType) (h : (s.radio p).Coherent) (regAddr : BitVec 32) :
    ∃ r, (rtl8192PhyRFSerialRead rfType s p regAddr).1.radio = update s.radio p r ∧
      (s.radio p).SameRegisters r ∧
      (rtl8192PhyRFSerialRead rfType s p regAddr).2 =
        ((s.radio p).flat (offsetOf regAddr)).setWidth 32 := by
  obtain ⟨hret, hchip, hreg0⟩ := h.serialRead (offsetOf regAddr)
  unfold rtl8192PhyRFSerialRead
  dsimp only
  rw [offset_eq, radio_powerOn, radio_onPath, radio_powerOff]
  exact ⟨_, rfl, ⟨hchip, hreg0⟩, hret⟩

/-- The bits of `k` are clear in the new value if they are in the old one and in what is written. -/
theorem merged_clear {old : Word} {k bitMask data : BitVec 32} (hold : old.setWidth 32 &&& k = 0)
    (hdata : written bitMask data &&& k = 0) : merged old bitMask data &&& k = 0 := by
  unfold merged
  unfold written at hdata
  split
  · rename_i hmask
    rw [if_pos hmask] at hdata
    rw [BitVec.and_or_distrib_right, hdata, BitVec.and_assoc, BitVec.and_comm (~~~bitMask),
      ← BitVec.and_assoc, hold, BitVec.ofNat_eq_ofNat, BitVec.zero_and, BitVec.or_zero]
  · rename_i hmask
    rwa [if_neg hmask] at hdata

/-- The bits above the twelve of register 0 are clear in its copy. -/
def Radio.Exact (r : Radio) : Prop := r.rfReg0Value &&& ~~~0xfff = 0

theorem Radio.SameRegisters.exact {r r' : Radio} (h : r.SameRegisters r') : r'.Exact := by
  unfold Radio.Exact
  rw [h.reg0, BitVec.and_assoc, show (0xebf : BitVec 32) &&& ~~~0xfff = 0#32 by decide,
    BitVec.and_zero]
  rfl

/-- What a write of `value` leaves on its path -/
structure Radio.Written (r : Radio) (o : BitVec 6) (value : BitVec 32) (r' : Radio) : Prop where
  flat : r'.flat = update r.flat o (value.setWidth 12)
  reg0 : r'.rfReg0Value = if o = 0 then value else r.rfReg0Value &&& 0xebf
  selector : r'.chip.selector = if o = 0 then value.setWidth 12 else r.chip.selector

theorem Radio.Written.coherent {r r' : Radio} {value : BitVec 32} (h : r.Written o value r')
    (hc : r.Coherent) (hclear : o = 0 → value &&& 0x140 = 0) : r'.Coherent := by
  constructor
  · rw [h.reg0]
    split
    · rename_i ho
      exact hclear ho
    · exact masked_clear _
  · rw [h.reg0, h.selector]
    split
    · rfl
    · rw [masked_word hc.clear, hc.same]

theorem Radio.Written.exact {r r' : Radio} {value : BitVec 32} (h : r.Written o value r')
    (hfits : o = 0 → value &&& ~~~0xfff = 0) : r'.Exact := by
  unfold Radio.Exact
  rw [h.reg0]
  split
  · rename_i ho
    exact hfits ho
  · rw [BitVec.and_assoc, show (0xebf : BitVec 32) &&& ~~~0xfff = 0#32 by decide, BitVec.and_zero]
    rfl

theorem rfSerialWrite_spec (rfType : RfType) (h : (s.radio p).Coherent) (regAddr data : BitVec 32) :
    ∃ r, (rtl8192PhyRFSerialWrite rfType s p regAddr data).radio = update s.radio p r ∧
      (s.radio p).Written (offsetOf regAddr) data r := by
  obtain ⟨hchip, hreg0⟩ := h.serialWrite (offsetOf regAddr) data
  unfold rtl8192PhyRFSerialWrite
  dsimp only
  rw [offset_eq, radio_powerOn, radio_onPath, radio_powerOff]
  refine ⟨_, rfl, ?_, hreg0, ?_⟩
  · unfold Radio.flat
    rw [hchip]
    exact flat_put locate_apart _ _ _
  · rw [hchip, selector_put]
    simp only [locate_home_iff]

theorem Radio.SameRegisters.flat {r r' : Radio} (h : r.SameRegisters r') : r'.flat = r.flat := by
  unfold Radio.flat
  rw [h.chip]

theorem Radio.Coherent.flat_zero (h : r.Coherent) : (r.flat 0).setWidth 32 &&& 0x140 = 0 := by
  have hflat : r.flat 0 = r.rfReg0Value.setWidth 12 := h.same.symm
  have hword := congrArg (fun w => (BitVec.setWidth 12 w).setWidth 32) h.clear
  rw [hflat]
  rw [BitVec.setWidth_and, BitVec.setWidth_and] at hword
  exact hword

theorem word_fits (v : Word) : v.setWidth 32 &&& ~~~0xfff = 0 := by
  apply BitVec.eq_of_getLsbD_eq
  intro i hi
  have hmask : ∀ i < 12, (~~~0xfff : BitVec 32).getLsbD i = false := by decide
  rw [BitVec.getLsbD_and, BitVec.getLsbD_setWidth]
  by_cases h12 : i < 12
  · rw [hmask i h12, Bool.and_false]
    simp
  · rw [BitVec.getLsbD_of_ge v i (by omega), Bool.and_false, Bool.false_and]
    simp

/-- What a call of `rtl8192_phy_SetRFReg` leaves on its path -/
structure Radio.Set (r : Radio) (o : BitVec 6) (bitMask data : BitVec 32) (r' : Radio) : Prop where
  flat : r'.flat = update r.flat o ((merged (r.flat o) bitMask data).setWidth 12)
  coherent : (o = 0 → written bitMask data &&& 0x140 = 0) → r'.Coherent
  exact : (o = 0 → written bitMask data &&& ~~~0xfff = 0) → r'.Exact

theorem Radio.Written.set {r r' q : Radio} {bitMask data : BitVec 32} (h : r.Coherent)
    (hq : q.flat = r.flat) (hcoh : q.Coherent)
    (hw : q.Written o (merged (r.flat o) bitMask data) r') : r.Set o bitMask data r' := by
  refine ⟨?_, fun hclear => hw.coherent hcoh fun ho => ?_, fun hfits => hw.exact fun ho => ?_⟩
  · rw [hw.flat, hq]
  · subst ho
    exact merged_clear h.flat_zero (hclear rfl)
  · exact merged_clear (word_fits _) (hfits ho)

theorem setRFReg_spec (h : (s.radio p).Coherent)
    (hlegal : rtl8192PhyCheckIsLegalRFPath rfType p = true) (regAddr bitMask data : BitVec 32) :
    ∃ r, (rtl8192PhySetRFReg rfType s p regAddr bitMask data).radio = update s.radio p r ∧
      (s.radio p).Set (offsetOf regAddr) bitMask data r := by
  have hmerged : merged ((s.radio p).flat (offsetOf regAddr)) bitMask data =
      if bitMask ≠ bMask12Bits then
        ((s.radio p).flat (offsetOf regAddr)).setWidth 32 &&& ~~~bitMask |||
          data <<< rtl8192CalculateBitShift bitMask
      else data := rfl
  unfold rtl8192PhySetRFReg
  rw [if_pos hlegal]
  split
  · rename_i hmask
    obtain ⟨q, hradio, hsame, hret⟩ := rfSerialRead_spec rfType h regAddr
    have hpath : (rtl8192PhyRFSerialRead rfType s p regAddr).1.radio p = q := by
      rw [hradio, update_self]
    have hcoh : ((rtl8192PhyRFSerialRead rfType s p regAddr).1.radio p).Coherent := by
      rw [hpath]
      exact hsame.coherent h
    dsimp only
    rw [hret]
    obtain ⟨r, hradio', hwritten⟩ := rfSerialWrite_spec rfType hcoh regAddr
      (((s.radio p).flat (offsetOf regAddr)).setWidth 32 &&& ~~~bitMask |||
        data <<< rtl8192CalculateBitShift bitMask)
    rw [if_pos hmask] at hmerged
    rw [hpath, ← hmerged] at hwritten
    refine ⟨r, ?_, hwritten.set h hsame.flat (hsame.coherent h)⟩
    rw [hradio', hradio, update_idem]
  · rename_i hmask
    obtain ⟨r, hradio, hwritten⟩ := rfSerialWrite_spec rfType h regAddr data
    rw [if_neg hmask] at hmerged
    rw [← hmerged] at hwritten
    exact ⟨r, hradio, hwritten.set h rfl h⟩

theorem queryRFReg_spec (h : (s.radio p).Coherent)
    (hlegal : rtl8192PhyCheckIsLegalRFPath rfType p = true) (regAddr bitMask : BitVec 32) :
    ∃ r, (rtl8192PhyQueryRFReg rfType s p regAddr bitMask).1.radio = update s.radio p r ∧
      (s.radio p).SameRegisters r ∧
      (rtl8192PhyQueryRFReg rfType s p regAddr bitMask).2 =
        (((s.radio p).flat (offsetOf regAddr)).setWidth 32 &&& bitMask) >>>
          rtl8192CalculateBitShift bitMask := by
  obtain ⟨r, hradio, hsame, hret⟩ := rfSerialRead_spec rfType h regAddr
  unfold rtl8192PhyQueryRFReg
  rw [if_pos hlegal]
  dsimp only
  rw [hret]
  exact ⟨r, hradio, hsame, rfl⟩

theorem flat_update {s s' : State} {r : Radio} (h : s'.radio = update s.radio p r) :
    s'.flat = update s.flat p r.flat := by
  unfold State.flat
  rw [h]
  funext q
  exact apply_update (fun _ r => Radio.flat r) s.radio p r q

theorem forall_radio_update {P : Radio → Prop} {s s' : State} {r : Radio}
    (hs : ∀ q, rtl8192PhyCheckIsLegalRFPath rfType q = true → P (s.radio q)) (hr : P r)
    (h : s'.radio = update s.radio p r) :
    ∀ q, rtl8192PhyCheckIsLegalRFPath rfType q = true → P (s'.radio q) := by
  intro q hq
  rw [h]
  by_cases hpq : q = p
  · rw [hpq, update_self]
    exact hr
  · rw [update_of_ne hpq]
    exact hs q hq

end Call

/-! ## Runs -/

section Runs

variable {rfType} {s : State × List (BitVec 32)} {c : Call}

theorem step_refines (h : s.1.Coherent rfType) (hc : c.Allowed rfType) :
    (step rfType s c).1.Coherent rfType ∧
      ((step rfType s c).1.flat, (step rfType s c).2) = flatStep (s.1.flat, s.2) c := by
  cases c with
  | setRFReg p regAddr bitMask data =>
    obtain ⟨hlegal, hclear⟩ := hc
    obtain ⟨r, hradio, hset⟩ := setRFReg_spec (h p hlegal) hlegal regAddr bitMask data
    refine ⟨forall_radio_update h (hset.coherent hclear) hradio, ?_⟩
    refine Prod.ext ?_ rfl
    refine (flat_update hradio).trans ?_
    rw [hset.flat]
    rfl
  | queryRFReg p regAddr bitMask =>
    obtain ⟨r, hradio, hsame, hret⟩ := queryRFReg_spec (h p hc) hc regAddr bitMask
    refine ⟨forall_radio_update h (hsame.coherent (h p hc)) hradio, ?_⟩
    refine Prod.ext ?_ ?_
    · refine (flat_update hradio).trans ?_
      rw [hsame.flat]
      exact update_eq_self p s.1.flat
    · exact congrArg (s.2 ++ [·]) hret

theorem step_exact (h : s.1.Coherent rfType) (hc : c.Allowed rfType) (hfits : c.Fits)
    (hs : ∀ p, rtl8192PhyCheckIsLegalRFPath rfType p = true → (s.1.radio p).Exact) :
    ∀ p, rtl8192PhyCheckIsLegalRFPath rfType p = true → ((step rfType s c).1.radio p).Exact := by
  cases c with
  | setRFReg p regAddr bitMask data =>
    obtain ⟨hlegal, hclear⟩ := hc
    obtain ⟨r, hradio, hset⟩ := setRFReg_spec (h p hlegal) hlegal regAddr bitMask data
    exact forall_radio_update hs (hset.exact hfits) hradio
  | queryRFReg p regAddr bitMask =>
    obtain ⟨r, hradio, hsame, -⟩ := queryRFReg_spec (h p hc) hc regAddr bitMask
    exact forall_radio_update hs hsame.exact hradio

theorem exec_refines (h : s.1.Coherent rfType) {cs : List Call} (hcs : ∀ c ∈ cs, c.Allowed rfType) :
    (exec (step rfType) s cs).1.Coherent rfType ∧
      ((exec (step rfType) s cs).1.flat, (exec (step rfType) s cs).2) =
        exec flatStep (s.1.flat, s.2) cs := by
  induction cs generalizing s with
  | nil => exact ⟨h, rfl⟩
  | cons c cs ih =>
    obtain ⟨hcoh, hstep⟩ := step_refines h (hcs c List.mem_cons_self)
    have hrest := ih hcoh fun d hd => hcs d (List.mem_cons_of_mem c hd)
    rw [exec_cons, exec_cons, ← hstep]
    exact hrest

theorem exec_exact (h : s.1.Coherent rfType)
    (hs : ∀ p, rtl8192PhyCheckIsLegalRFPath rfType p = true → (s.1.radio p).Exact) {cs : List Call}
    (hcs : ∀ c ∈ cs, c.Allowed rfType) (hfits : ∀ c ∈ cs, c.Fits) :
    ∀ p, rtl8192PhyCheckIsLegalRFPath rfType p = true →
      ((exec (step rfType) s cs).1.radio p).Exact := by
  induction cs generalizing s with
  | nil => exact hs
  | cons c cs ih =>
    have hc := hcs c List.mem_cons_self
    exact ih (step_refines h hc).1 (step_exact h hc (hfits c List.mem_cons_self) hs)
      (fun d hd => hcs d (List.mem_cons_of_mem c hd))
      (fun d hd => hfits d (List.mem_cons_of_mem c hd))

end Runs

/-! ## From the configuration on -/

/-- The write of register 0 of each path in `phy_RF8256_Config_ParaFile` -/
def phyRF8256Config (s : State) : State :=
  paths.foldl (fun s p => rtl8192PhySetRFReg rfType s p 0x0 bMask12Bits 0xbf) s

section Config

variable {rfType}

theorem serialWrite_zero (r : Radio) (data : BitVec 32) :
    (r.serialWrite 0 data).chip = r.chip.select (data.setWidth 12) ∧
      (r.serialWrite 0 data).rfReg0Value = data := by
  have haddr := threeWire_of_addr r.chip data 0
  rw [write_home] at haddr
  exact ⟨haddr, rfl⟩

theorem setRFReg_config (s : State) {p : Path}
    (hlegal : rtl8192PhyCheckIsLegalRFPath rfType p = true) :
    ∃ r, (rtl8192PhySetRFReg rfType s p 0x0 bMask12Bits 0xbf).radio = update s.radio p r ∧
      r.Coherent ∧ r.Exact := by
  obtain ⟨hchip, hreg0⟩ := serialWrite_zero (s.radio p) 0xbf
  unfold rtl8192PhySetRFReg
  rw [if_pos hlegal, if_neg (by simp)]
  unfold rtl8192PhyRFSerialWrite
  dsimp only
  rw [radio_powerOn, radio_onPath, radio_powerOff, show (0x0 : BitVec 32) &&& 0x3f = 0 by decide]
  refine ⟨_, rfl, ⟨?_, ?_⟩, ?_⟩
  · rw [hreg0]
    decide
  · rw [hreg0, hchip]
    rfl
  · unfold Radio.Exact
    rw [hreg0]
    decide

theorem config_paths (ps : List Path) (s : State) (q : Path)
    (hlegal : rtl8192PhyCheckIsLegalRFPath rfType q = true)
    (h : q ∈ ps ∨ (s.radio q).Coherent ∧ (s.radio q).Exact) :
    ((ps.foldl (fun s p => rtl8192PhySetRFReg rfType s p 0x0 bMask12Bits 0xbf) s).radio q).Coherent ∧
      ((ps.foldl (fun s p => rtl8192PhySetRFReg rfType s p 0x0 bMask12Bits 0xbf) s).radio q).Exact := by
  induction ps generalizing s with
  | nil => exact h.resolve_left List.not_mem_nil
  | cons p ps ih =>
    refine ih _ ?_
    by_cases hqp : q = p
    · subst hqp
      obtain ⟨r, hradio, hr⟩ := setRFReg_config s hlegal
      rw [hradio, update_self]
      exact Or.inr hr
    · rcases h with h | h
      · exact Or.inl ((List.mem_cons.mp h).resolve_left hqp)
      · by_cases hp : rtl8192PhyCheckIsLegalRFPath rfType p = true
        · obtain ⟨r, hradio, -⟩ := setRFReg_config s hp
          rw [hradio, update_of_ne hqp]
          exact Or.inr h
        · dsimp only
          rw [show rtl8192PhySetRFReg rfType s p 0x0 bMask12Bits 0xbf = s from if_neg hp]
          exact Or.inr h

theorem config_coherent (s : State) (q : Path)
    (hlegal : rtl8192PhyCheckIsLegalRFPath rfType q = true) :
    ((phyRF8256Config rfType s).radio q).Coherent ∧ ((phyRF8256Config rfType s).radio q).Exact :=
  have hpaths : ∀ q : Path, q ∈ paths := by decide
  config_paths paths s q hlegal (Or.inl (hpaths q))

theorem eq_selector_of_exact (hc : r.Coherent) (h : r.Exact) :
    r.rfReg0Value = r.chip.selector.setWidth 32 := by
  have hlow := and_not_of_and_eq_zero h
  rw [← hc.same]
  apply BitVec.eq_of_getLsbD_eq
  intro i hi
  rw [BitVec.getLsbD_setWidth, BitVec.getLsbD_setWidth, decide_eq_true hi, Bool.true_and]
  by_cases h12 : i < 12
  · rw [decide_eq_true h12, Bool.true_and]
  · have hmask : ∀ i < 32, ¬ i < 12 → (~~~(~~~0xfff) : BitVec 32).getLsbD i = false := by decide
    rw [decide_eq_false h12, Bool.false_and, ← hlow, BitVec.getLsbD_and, hmask i hi h12,
      Bool.and_false]

end Config

/-- The accesses are those to a map, and `RfReg0Value` is register 0 of the chip. -/
theorem accesses_refine_map (s : State) (cs : List Call) (hcs : ∀ c ∈ cs, c.Allowed rfType) :
    let start := phyRF8256Config rfType s
    let after := exec (step rfType) (start, []) cs
    (after.1.flat, after.2) = exec flatStep (start.flat, []) cs ∧
      ∀ p, rtl8192PhyCheckIsLegalRFPath rfType p = true →
        (after.1.radio p).rfReg0Value &&& 0x140 = 0 ∧
          (after.1.radio p).rfReg0Value.setWidth 12 = (after.1.radio p).chip.selector ∧
          ((∀ c ∈ cs, c.Fits) →
            (after.1.radio p).rfReg0Value = (after.1.radio p).chip.selector.setWidth 32) := by
  intro start after
  have hstart : ((start, []) : State × List (BitVec 32)).1.Coherent rfType :=
    fun p hp => (config_coherent s p hp).1
  obtain ⟨hcoh, hflat⟩ := exec_refines hstart hcs
  refine ⟨hflat, fun p hp => ⟨(hcoh p hp).clear, (hcoh p hp).same, fun hfits => ?_⟩⟩
  have hexact := exec_exact hstart (fun q hq => (config_coherent s q hq).2) hcs hfits p hp
  exact eq_selector_of_exact (hcoh p hp) hexact

/-- Two registers at one address, in the pages of the offsets 5 and 20 -/
def twoPages : List Call :=
  [.setRFReg 2 0x5 bMask12Bits 0x123, .setRFReg 2 0x14 bMask12Bits 0x456,
    .setRFReg 2 0x14 0xf0 0xa, .queryRFReg 2 0x5 0xfff, .queryRFReg 2 0x14 0xff0]

/-- A chip that is switched on in another page than the driver's copy says -/
def otherPage : State where
  radio := fun _ =>
    { chip := { selector := 0x140, cells := fun _ => 0x7ff }
      rfReg0Value := 0
      rfHSSIPara2 := 0
      rfLSSIReadBack := 0 }
  analogParameter4 := 0

theorem accesses_refine_map_two :
    (exec (step .rf1T2R) (phyRF8256Config .rf1T2R otherPage, []) twoPages).2 = [0x123, 0x4a] := by
  have h := (accesses_refine_map .rf1T2R otherPage twoPages (by decide)).1
  have hanswers := congrArg Prod.snd h
  exact hanswers.trans (by simp [twoPages, flatStep, offsetOf, merged, bMask12Bits]; decide)

end Rtl8190.Rf
