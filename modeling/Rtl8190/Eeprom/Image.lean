import Rtl8190.Eeprom.Info

/-!
# The image and the wires

Run on the wires of a chip, `rtl8192_get_eeprom_size` leaves in `priv` what the image of the memory says,
and the power tables are those of the model without wires.
-/

open Rtl8190.Lanes (lane)
open Rtl8190.Memory Rtl8190.Microwire
open Rtl8190.Power (RfType)
open Rtl8190.TxPower (EepromType Tables rtl8190EepromId eepromICVersionChannelPlan eepromRFIndPowerDiff
  eepromTxPwDiffCrystalCap eepromTxPwIndexCCK eepromTxPwIndexOFDM24G eepromC56RfACCKChnl1TxPwIndex
  eepromC56RfCCCKChnl1TxPwIndex)

namespace Rtl8190.Eeprom

/-! ## Reads of an image -/

section

variable (image : BitVec 32 → BitVec 32)

@[simp] theorem eval_read (addr : Nat) :
    (read addr).eval image = (image (BitVec.ofNat 32 addr)).setWidth 16 := rfl

@[simp] theorem addresses_read (addr : Nat) : (read addr).addresses image = [BitVec.ofNat 32 addr] := rfl

theorem eval_fill (word : Nat → Program (BitVec 16)) (buf : Nat → Byte) (n : Nat) :
    (fill word buf n).eval image =
      fun i => if i < 2 * n then lane ((word (i / 2 * 2)).eval image) (i % 2) else buf i := by
  induction n with
  | zero => rfl
  | succ n ih =>
    funext i
    simp only [fill, Program.eval_bind, Program.eval_pure, ih, store16, Function.update_apply]
    by_cases hodd : i = 2 * n + 1
    · subst hodd
      rw [if_pos rfl, if_pos (by omega), show (2 * n + 1) / 2 * 2 = 2 * n by omega,
        show (2 * n + 1) % 2 = 1 by omega]
    · rw [if_neg hodd]
      by_cases heven : i = 2 * n
      · subst heven
        rw [if_pos rfl, if_pos (by omega), show 2 * n / 2 * 2 = 2 * n by omega,
          show 2 * n % 2 = 0 by omega]
      · rw [if_neg heven]
        simp only [show i < 2 * (n + 1) ↔ i < 2 * n by omega]

theorem addresses_fill {word : Nat → Program (BitVec 16)} {buf : Nat → Byte} {n : Nat} {a : BitVec 32} :
    a ∈ (fill word buf n).addresses image ↔ ∃ k < n, a ∈ (word (2 * k)).addresses image := by
  induction n with
  | zero => simp [fill]
  | succ n ih =>
    simp only [fill, Program.addresses_bind, Program.addresses_pure, List.append_nil, List.mem_append,
      ih, Nat.exists_lt_succ_right]

end

/-! ## The parts on an image -/

/-- The power settings that the two models have in common -/
structure Agrees (i : Info) (q : TxPower.Priv) : Prop where
  tables : ∀ c < 14,
    i.tables.txPowerLevelCCK c = q.tables.txPowerLevelCCK c ∧
    i.tables.txPowerLevelOFDM24G c = q.tables.txPowerLevelOFDM24G c ∧
    i.tables.txPowerLevelCCKA c = q.tables.txPowerLevelCCKA c ∧
    i.tables.txPowerLevelOFDM24GA c = q.tables.txPowerLevelOFDM24GA c ∧
    i.tables.txPowerLevelCCKC c = q.tables.txPowerLevelCCKC c ∧
    i.tables.txPowerLevelOFDM24GC c = q.tables.txPowerLevelOFDM24GC c
  antennaTxPwDiff : i.antennaTxPwDiff = q.antennaTxPwDiff

variable {e : TxPower.Eeprom} {image : BitVec 32 → BitVec 32}

def Shows (image : BitVec 32 → BitVec 32) (e : TxPower.Eeprom) : Prop :=
  ∀ addr, (image (BitVec.ofNat 32 addr)).setWidth 16 = e.read addr

theorem high_byte_eq_iff (w : BitVec 16) :
    ((w &&& 0xff00) >>> 8).setWidth 8 = version8190BE ↔ (w &&& 0xff00) >>> 8 = 4 := by
  have hlt : ((w &&& 0xff00) >>> 8).toNat < 256 := by
    rw [BitVec.toNat_ushiftRight, Nat.shiftRight_eq_div_pow]
    exact Nat.div_lt_of_lt_mul (w &&& 0xff00).isLt
  rw [← BitVec.toNat_inj, ← BitVec.toNat_inj, BitVec.toNat_setWidth, Nat.mod_eq_of_lt hlt]
  rfl

theorem kept_version_iff (v : Byte) :
    (if v = version8190BD ∨ v = version8190BE then v else version8190BD) > version8190BD ↔
      v = version8190BE := by
  by_cases hbe : v = version8190BE
  · subst hbe
    decide
  · by_cases hbd : v = version8190BD
    · subst hbd
      decide
    · rw [if_neg (by simp [hbd, hbe])]
      simp [hbe]

theorem version_eq_iff (e : TxPower.Eeprom) :
    e.version = .be ↔ e.read 0 = rtl8190EepromId ∧
      (e.read (eepromICVersionChannelPlan >>> 1) &&& 0xff00) >>> 8 = 4 := by
  unfold TxPower.Eeprom.version
  by_cases hbe : e.read 0 = rtl8190EepromId ∧
      (e.read (eepromICVersionChannelPlan >>> 1) &&& 0xff00) >>> 8 = 4
  · rw [if_pos hbe]
    exact iff_of_true rfl hbe
  · rw [if_neg hbe]
    exact iff_of_false (fun h => by cases h) hbe

/-- A record after the ID and the version were read: the other fields are those of `p`. -/
structure Versioned (e : TxPower.Eeprom) (p p' : Info) : Prop where
  autoload : p'.autoloadFailFlag = decide (e.read 0 ≠ rtl8190EepromId)
  version : p'.card8192Version > version8190BD ↔ e.version = .be
  epromtype : p'.epromtype = p.epromtype
  tables : p'.tables = p.tables
  antennaTxPwDiff : p'.antennaTxPwDiff = p.antennaTxPwDiff

theorem readVersion_versioned (h : Shows image e) (p : Info) :
    Versioned e p ((readVersion p).eval image) := by
  have hid := h 0
  by_cases hright : e.read 0 = rtl8190EepromId
  · have heval : (readVersion p).eval image =
        { p with
          autoloadFailFlag := false
          eepromVid := e.read (eepromVid >>> 1)
          eepromDid := e.read (eepromDid >>> 1)
          eepromCustomerID := ((e.read (eepromCustomerID >>> 1) >>> 8) &&& 0xff).setWidth 8
          eepromChannelPlan := e.read (eepromICVersionChannelPlan >>> 1) &&& 0xff
          card8192Version :=
            let icVersion := ((e.read (eepromICVersionChannelPlan >>> 1) &&& 0xff00) >>> 8).setWidth 8
            if icVersion = version8190BD ∨ icVersion = version8190BE then icVersion
            else version8190BD } := by
      simp only [readVersion, Program.eval_bind, eval_read, h _, hright, ne_eq, not_true_eq_false,
        if_false, Program.eval_pure]
    rw [heval]
    constructor
    · simp [hright]
    · rw [version_eq_iff]
      refine (kept_version_iff _).trans ((high_byte_eq_iff _).trans ?_)
      exact (and_iff_right hright).symm
    · rfl
    · rfl
    · rfl
  · have heval : (readVersion p).eval image =
        { p with
          autoloadFailFlag := true
          card8192Version := version8190BD
          eepromVid := 0
          eepromDid := 0
          eepromCustomerID := 0
          eepromChannelPlan := 0 } := by
      simp only [readVersion, Program.eval_bind, eval_read, h _, hright, ne_eq, not_false_eq_true,
        if_true, Program.eval_pure]
    rw [heval]
    constructor
    · simp [hright]
    · rw [version_eq_iff]
      simp [hright]
    · rfl
    · rfl
    · rfl

theorem readAddr_eq (h : Shows image e) (p : Info) :
    (readAddr p).eval image =
      { p with
        devAddr := fun i =>
          if i < 6 then
            if p.autoloadFailFlag = true then bMacTmpAddr i else e.byteAt eepromNodeAddressByte0 i
          else p.devAddr i } := by
  unfold readAddr
  by_cases hauto : p.autoloadFailFlag = true
  · simp [hauto]
  · simp only [hauto, Bool.false_eq_true, if_false, Program.eval_bind, Program.eval_pure, eval_fill, eval_read, h _]
    rfl

theorem antenna_nibble (w : BitVec 16) (i : Fin 3) :
    (((w &&& 0x0fff) >>> (4 * i.val)) &&& 0xf).setWidth 8 = (w >>> (4 * i.val)).setWidth 8 &&& 0xf := by
  apply BitVec.eq_of_getLsbD_eq
  intro j hj
  have hlow : ∀ k < 12, (0x0fff : BitVec 16).getLsbD k = true := by decide
  have hnibble : ∀ k < 8, (0xf : BitVec 16).getLsbD k = decide (k < 4) ∧
      (0xf : BitVec 8).getLsbD k = decide (k < 4) := by decide
  simp only [BitVec.getLsbD_setWidth, BitVec.getLsbD_and, BitVec.getLsbD_ushiftRight, hj,
    (hnibble j hj).1, (hnibble j hj).2, decide_true, Bool.true_and]
  by_cases hlt : j < 4
  · have hi := i.isLt
    rw [hlow (4 * i.val + j) (by omega), Bool.and_true]
  · simp [hlt]

theorem readThermal_keeps (image : BitVec 32 → BitVec 32) (p : Info) :
    let p' := (readThermal p).eval image
    p'.autoloadFailFlag = p.autoloadFailFlag ∧ p'.epromtype = p.epromtype ∧ p'.tables = p.tables ∧
      p'.antennaTxPwDiff = p.antennaTxPwDiff ∧ p'.devAddr = p.devAddr := by
  unfold readThermal
  by_cases hauto : p.autoloadFailFlag = true
  · simp [hauto]
  · simp [hauto]

theorem readThermal_rfType (h : Shows image e) {p : Info} (hauto : p.autoloadFailFlag = false) :
    ((readThermal p).eval image).rfType =
      if e.read (eepromRFIndPowerDiff >>> 1) &&& 0x80 = 0 then .rf2T4R else .rf1T2R := by
  simp only [readThermal, hauto, Bool.false_eq_true, if_false, Program.eval_bind, eval_read, h _,
    Program.eval_pure]

theorem readPower46_agrees (h : Shows image e) (htype : e.type = .eeprom93C46) {p : Info} {q : TxPower.Priv}
    (hauto : p.autoloadFailFlag = false) (hq : Agrees p q) :
    let p' := (readPower46 p).eval image
    Agrees p' { q with tables := e.tables q.tables, antennaTxPwDiff := e.antennaTxPwDiff } ∧
      p'.rfType = p.rfType ∧ p'.devAddr = p.devAddr ∧ p'.epromtype = p.epromtype := by
  simp only [readPower46, readAntenna46, levelWord46, hauto, Bool.false_eq_true, if_false, Program.eval_bind, Program.eval_pure,
    eval_read, eval_fill, h _]
  refine ⟨?_, trivial, trivial, trivial⟩
  constructor
  · intro c hc
    simp only [TxPower.Eeprom.tables, htype, hc, if_true, TxPower.Eeprom.byteAt, Nat.reduceMul, true_and]
    exact ⟨(hq.tables c hc).2.2.1, (hq.tables c hc).2.2.2.1, (hq.tables c hc).2.2.2.2.1,
      (hq.tables c hc).2.2.2.2.2⟩
  · funext i
    simp only [TxPower.Eeprom.antennaTxPwDiff, htype]
    exact antenna_nibble _ i

theorem readPower56_agrees (h : Shows image e) (htype : e.type = .eeprom93C56) {p : Info} {q : TxPower.Priv}
    (hauto : p.autoloadFailFlag = false) (hq : Agrees p q) :
    let p' := (readPower56 p).eval image
    Agrees p' { q with tables := e.tables q.tables, antennaTxPwDiff := e.antennaTxPwDiff } ∧
      p'.rfType = p.rfType ∧ p'.devAddr = p.devAddr ∧ p'.epromtype = p.epromtype := by
  -- What an EEPROM of the second type fills.
  have hlevel : ∀ i < 12, lane (e.read (c56Offset (i / 2 * 2) >>> 1)) (i % 2) = e.eepromTxPower i := by
    intro i hi
    unfold c56Offset TxPower.Eeprom.eepromTxPower TxPower.Eeprom.byteAt
    by_cases hlt : i < 6
    · rw [if_pos hlt, if_pos (by omega)]
    · rw [if_neg hlt, if_neg (by omega), show eepromC56RfCCCKChnl1TxPwIndex + i / 2 * 2 - 6 =
        eepromC56RfCCCKChnl1TxPwIndex + (i - 6) / 2 * 2 by omega, show (i - 6) % 2 = i % 2 by omega]
  simp only [readPower56, readLevels56, hauto, Bool.false_eq_true, if_false, Program.eval_bind, Program.eval_pure,
    eval_read, eval_fill, h _]
  refine ⟨?_, trivial, trivial, trivial⟩
  constructor
  · intro c hc
    simp only [TxPower.Eeprom.tables, htype]
    have hspread : ∀ (base : Nat) (old : Nat → Byte), base ≤ 9 →
        spread (fun i => if base + i < 2 * 6 then
          lane (e.read (c56Offset ((base + i) / 2 * 2) >>> 1)) ((base + i) % 2) else 0) old c =
        e.eepromTxPower (base + TxPower.Eeprom.group c) := by
      intro base old hbase
      unfold spread TxPower.Eeprom.group
      by_cases h3 : c < 3
      · simp only [h3, if_true]
        rw [if_pos (by omega), hlevel _ (by omega)]
      · by_cases h9 : c < 9
        · simp only [h3, h9, if_false, if_true]
          rw [if_pos (by omega), hlevel _ (by omega)]
        · simp only [h3, h9, hc, if_false, if_true]
          rw [if_pos (by omega), hlevel _ (by omega)]
    have hzero := hspread 0
    simp only [Nat.zero_add] at hzero
    exact ⟨(hq.tables c hc).1, (hq.tables c hc).2.1, hzero _ (by omega), hspread 3 _ (by omega),
      hspread 6 _ (by omega), hspread 9 _ (by omega)⟩
  · funext i
    simp only [TxPower.Eeprom.antennaTxPwDiff, htype]

theorem readLevels_agrees (h : Shows image e) {p : Info} {q : TxPower.Priv} (htype : e.type = p.epromtype)
    (hauto : p.autoloadFailFlag = false) (hq : Agrees p q) :
    let p' := (readLevels p).eval image
    Agrees p' { q with tables := e.tables q.tables, antennaTxPwDiff := e.antennaTxPwDiff } ∧
      p'.rfType = p.rfType ∧ p'.devAddr = p.devAddr ∧ p'.epromtype = p.epromtype := by
  cases hkind : p.epromtype with
  | eeprom93C46 =>
    have hlevels : readLevels p = readPower46 p := by
      unfold readLevels
      rw [hkind]
    rw [hlevels, ← hkind]
    exact readPower46_agrees h (htype.trans hkind) hauto hq
  | eeprom93C56 =>
    have hlevels : readLevels p = readPower56 p := by
      unfold readLevels
      rw [hkind]
    rw [hlevels, ← hkind]
    exact readPower56_agrees h (htype.trans hkind) hauto hq

theorem readPower_agrees (h : Shows image e) {p p₀ : Info} {q : TxPower.Priv} (hp : Versioned e p₀ p)
    (htype : e.type = p.epromtype) (hq : Agrees p q) :
    let p' := (readPower p).eval image
    Agrees p' (TxPower.rtl8192ReadEepromInfo e q) ∧
      p'.rfType = (TxPower.rtl8192ReadEepromInfo e q).rfType ∧ p'.devAddr = p.devAddr ∧
      p'.epromtype = p.epromtype := by
  -- The power settings.
  unfold readPower TxPower.rtl8192ReadEepromInfo
  by_cases hbe : e.version = .be
  · have hauto : (setDefaults p).autoloadFailFlag = false := by
      show p.autoloadFailFlag = false
      rw [hp.autoload]
      simp [((version_eq_iff e).mp hbe).1]
    have hrf := readThermal_rfType h hauto
    obtain ⟨hauto₁, htype₁, htables, hantenna, haddr₁⟩ := readThermal_keeps image (setDefaults p)
    have hq₁ : Agrees ((readThermal (setDefaults p)).eval image)
        { q with
          epromtype := e.type
          rfType := if e.read (eepromRFIndPowerDiff >>> 1) &&& 0x80 = 0 then .rf2T4R else .rf1T2R } :=
      ⟨by rw [htables]; exact hq.tables, by rw [hantenna]; exact hq.antennaTxPwDiff⟩
    obtain ⟨hagrees, hrf₂, haddr₂, htype₂⟩ :=
      readLevels_agrees h (htype.trans htype₁.symm) (hauto₁.trans hauto) hq₁
    rw [if_pos (hp.version.mpr hbe)]
    simp only [hbe, Program.eval_bind, Program.eval_pure]
    exact ⟨⟨hagrees.tables, hagrees.antennaTxPwDiff⟩, hrf₂.trans hrf, haddr₂.trans haddr₁,
      htype₂.trans htype₁⟩
  · have hold : ¬ p.card8192Version > version8190BD := fun hlt => hbe (hp.version.mp hlt)
    have hbd : e.version = .bd := by
      cases hv : e.version
      · rfl
      · exact absurd hv hbe
    simp only [hold, if_false, Program.eval_pure, hbd]
    exact ⟨⟨hq.tables, hq.antennaTxPwDiff⟩, rfl, rfl, rfl⟩

theorem rtl8192ReadEepromInfo_eval (h : Shows image e) {p : Info} {q : TxPower.Priv}
    (htype : e.type = p.epromtype) (hq : Agrees p q) :
    let p' := (rtl8192ReadEepromInfo p).eval image
    Agrees p' (TxPower.rtl8192ReadEepromInfo e q) ∧
      p'.rfType = (TxPower.rtl8192ReadEepromInfo e q).rfType ∧ p'.epromtype = e.type ∧
      p'.channelPlan = countryCodeWorldWide13 ∧
      ∀ i < 6, p'.devAddr i =
        if e.read 0 = rtl8190EepromId then e.byteAt eepromNodeAddressByte0 i else bMacTmpAddr i := by
  -- The whole function on an image.
  have hv := readVersion_versioned h p
  have haddr := readAddr_eq h ((readVersion p).eval image)
  have hv' : Versioned e p ((readAddr ((readVersion p).eval image)).eval image) := by
    rw [haddr]
    exact ⟨hv.autoload, hv.version, hv.epromtype, hv.tables, hv.antennaTxPwDiff⟩
  have hdevAddr : ∀ i < 6, ((readAddr ((readVersion p).eval image)).eval image).devAddr i =
      if e.read 0 = rtl8190EepromId then e.byteAt eepromNodeAddressByte0 i else bMacTmpAddr i := by
    intro i hi
    rw [haddr]
    simp only [hi, if_true, hv.autoload]
    by_cases hid : e.read 0 = rtl8190EepromId <;> simp [hid]
  have hsplit : (rtl8192ReadEepromInfo p).eval image =
      setPlan ((readPower ((readAddr ((readVersion p).eval image)).eval image)).eval image) := by
    simp only [rtl8192ReadEepromInfo, Program.eval_bind, Program.eval_pure]
  rw [hsplit]
  generalize (readAddr ((readVersion p).eval image)).eval image = p₁ at hv' hdevAddr ⊢
  have hq₁ : Agrees p₁ q := ⟨hv'.tables ▸ hq.tables, hv'.antennaTxPwDiff ▸ hq.antennaTxPwDiff⟩
  obtain ⟨hagrees, hrf, hdev, hkind⟩ := readPower_agrees h hv' (htype.trans hv'.epromtype.symm) hq₁
  generalize (readPower p₁).eval image = p₂ at hagrees hrf hdev hkind ⊢
  refine ⟨⟨hagrees.tables, hagrees.antennaTxPwDiff⟩, hrf, (hkind.trans hv'.epromtype).trans htype.symm,
    rfl, fun i hi => ?_⟩
  exact (congrFun hdev i).trans (hdevAddr i hi)

/-! ## On the wires -/

def memory {t : EepromType} {C : Chip (addrLen t)} (nic : Nic C) : TxPower.Eeprom :=
  ⟨t, fun addr => C.word nic.chip (BitVec.ofNat _ addr)⟩

/-- The words of the chip, as `eprom_read` gives them -/
def wordsOf {t : EepromType} {C : Chip (addrLen t)} (nic : Nic C) (addr : BitVec 32) : BitVec 32 :=
  (C.word nic.chip (addr.setWidth (addrLen t))).setWidth 32

theorem foundType_eq {n : Nat} {C : Chip n} {nic : Nic C} :
    foundType nic = if nic.strap.getLsbD 4 = true then .eeprom93C56 else .eeprom93C46 := by
  have hbit : ∀ v : Byte, v &&& epromCmd9356Sel ≠ 0 ↔ v.getLsbD 4 = true := by decide +kernel
  have hstrap : (readNicByte nic).getLsbD 4 = nic.strap.getLsbD 4 := by
    unfold readNicByte strapBits
    split <;> simp
  unfold foundType
  simp only [hbit, hstrap]

/-! ## Which words are read -/

/-- Every address that the program reads is one of the chip's. -/
def Inside (t : EepromType) (image : BitVec 32 → BitVec 32) {α : Type} (m : Program α) : Prop :=
  ∀ a ∈ m.addresses image, a.toNat < 2 ^ addrLen t

section Inside

variable {t : EepromType} (image : BitVec 32 → BitVec 32)

theorem inside_pure {α : Type} (a : α) : Inside t image (pure a : Program α) := fun _ h => by cases h

theorem inside_bind {α β : Type} (m : Program α) (f : α → Program β) :
    Inside t image (m >>= f) ↔ Inside t image m ∧ Inside t image (f (m.eval image)) := by
  unfold Inside
  rw [Program.addresses_bind]
  exact List.forall_mem_append

theorem inside_read {addr : Nat} (h : addr < 2 ^ addrLen t) : Inside t image (read addr) := by
  intro a ha
  rw [addresses_read, List.mem_singleton] at ha
  subst ha
  exact Nat.lt_of_le_of_lt (Nat.mod_le _ _) h

theorem inside_fill (word : Nat → Program (BitVec 16)) {n : Nat}
    (h : ∀ k < n, Inside t image (word (2 * k))) (buf : Nat → Byte) :
    Inside t image (fill word buf n) := by
  intro a ha
  obtain ⟨k, hk, hmem⟩ := (addresses_fill image).mp ha
  exact h k hk a hmem

theorem readVersion_inside (p : Info) : Inside t image (readVersion p) := by
  have hread : ∀ addr < 64, Inside t image (read addr) := fun addr haddr =>
    inside_read image (Nat.lt_of_lt_of_le haddr (by cases t <;> decide))
  unfold readVersion
  simp only [inside_bind]
  refine ⟨hread _ (by decide), ?_⟩
  split
  · exact inside_pure image _
  · simp only [inside_bind]
    exact ⟨hread _ (by decide), hread _ (by decide), hread _ (by decide), hread _ (by decide),
      inside_pure image _⟩

theorem readAddr_inside (p : Info) : Inside t image (readAddr p) := by
  have hread : ∀ addr < 64, Inside t image (read addr) := fun addr haddr =>
    inside_read image (Nat.lt_of_lt_of_le haddr (by cases t <;> decide))
  unfold readAddr
  split
  · exact inside_pure image _
  · simp only [inside_bind]
    have haddr : ∀ k < 3, (eepromNodeAddressByte0 + 2 * k) >>> 1 < 64 := by decide
    exact ⟨inside_fill image (fun i => read ((eepromNodeAddressByte0 + i) >>> 1))
      (fun k hk => hread _ (haddr k hk)) _, inside_pure image _⟩

theorem readThermal_inside (p : Info) : Inside t image (readThermal p) := by
  have hread : ∀ addr < 64, Inside t image (read addr) := fun addr haddr =>
    inside_read image (Nat.lt_of_lt_of_le haddr (by cases t <;> decide))
  unfold readThermal
  split
  · exact inside_pure image _
  · simp only [inside_bind]
    exact ⟨hread _ (by decide), hread _ (by decide), inside_pure image _⟩

theorem readPower46_inside (p : Info) : Inside t image (readPower46 p) := by
  have hread : ∀ addr < 64, Inside t image (read addr) := fun addr haddr =>
    inside_read image (Nat.lt_of_lt_of_le haddr (by cases t <;> decide))
  have hant : Inside t image (readAntenna46 p) := by
    unfold readAntenna46
    split
    · exact inside_pure image _
    · exact (inside_bind image _ _).mpr ⟨hread _ (by decide), inside_pure image _⟩
  have hword : ∀ base, base ≤ 0x70 → ∀ k < 7, Inside t image (levelWord46 p base (2 * k)) := by
    intro base hbase k hk
    unfold levelWord46
    split
    · exact inside_pure image _
    · refine hread _ ?_
      rw [Nat.shiftRight_eq_div_pow]
      omega
  unfold readPower46
  simp only [inside_bind]
  exact ⟨hant, inside_fill image _ (hword _ (by decide)) _, inside_fill image _ (hword _ (by decide)) _,
    inside_pure image _⟩

theorem readPower56_inside (p : Info) : Inside .eeprom93C56 image (readPower56 p) := by
  have hoffset : ∀ k < 6, c56Offset (2 * k) >>> 1 < 2 ^ addrLen .eeprom93C56 := by decide
  have hlevels : Inside .eeprom93C56 image (readLevels56 p) := by
    unfold readLevels56
    split
    · exact inside_pure image _
    · simp only [inside_bind]
      exact ⟨inside_read image (by decide), inside_fill image (fun i => read (c56Offset i >>> 1))
        (fun k hk => inside_read image (hoffset k hk)) _, inside_pure image _⟩
  exact (inside_bind image _ _).mpr ⟨hlevels, inside_pure image _⟩

theorem readPower_inside {p : Info} (h : p.epromtype = t) : Inside t image (readPower p) := by
  unfold readPower
  split
  · simp only [inside_bind]
    refine ⟨readThermal_inside image _, ?_, inside_pure image _⟩
    have hkind : ((readThermal (setDefaults p)).eval image).epromtype = t :=
      (readThermal_keeps image (setDefaults p)).2.1.trans h
    unfold readLevels
    cases t with
    | eeprom93C46 =>
      rw [hkind]
      exact readPower46_inside image _
    | eeprom93C56 =>
      rw [hkind]
      exact readPower56_inside image _
  · exact inside_pure image _

theorem rtl8192ReadEepromInfo_inside {p : Info} (h : p.epromtype = t) :
    Inside t image (rtl8192ReadEepromInfo p) := by
  have hv := readVersion_versioned (e := ⟨t, fun addr => (image (BitVec.ofNat 32 addr)).setWidth 16⟩)
    (fun _ => rfl) p
  unfold rtl8192ReadEepromInfo
  simp only [inside_bind]
  refine ⟨readVersion_inside image p, readAddr_inside image _, readPower_inside image ?_, inside_pure image _⟩
  rw [readAddr_eq (e := ⟨t, fun addr => (image (BitVec.ofNat 32 addr)).setWidth 16⟩) (fun _ => rfl)]
  exact hv.epromtype.trans h

end Inside

/-- From a chip whose type the straps name, whatever its memory holds, the driver learns over the wires
what the model without wires says: the power tables, the RF type and the address. No address that it
reads is too large for the chip, which is not in use afterwards and has its memory as it was. -/
theorem get_eeprom_size_refines {t : EepromType} {C : Chip (addrLen t)} {nic : Nic C} (h : Idle nic)
    (hstrap : nic.strap.getLsbD 4 = decide (t = .eeprom93C56)) (p : Info) (q : TxPower.Priv)
    (hq : Agrees p q) :
    let r := rtl8192GetEepromSize nic p
    let q' := TxPower.rtl8192ReadEepromInfo (memory nic) q
    Idle r.1 ∧ C.word r.1.chip = C.word nic.chip ∧
      Agrees r.2 q' ∧ r.2.rfType = q'.rfType ∧ r.2.epromtype = q'.epromtype ∧
      r.2.channelPlan = countryCodeWorldWide13 ∧
      (∀ i < 6, r.2.devAddr i =
        if (memory nic).read 0 = rtl8190EepromId then (memory nic).byteAt eepromNodeAddressByte0 i
        else bMacTmpAddr i) ∧
      Inside t (wordsOf nic) (rtl8192ReadEepromInfo { p with epromtype := t }) := by
  have htype : foundType nic = t := by
    rw [foundType_eq, hstrap]
    cases t <;> rfl
  have hshows : Shows (wordsOf nic) (memory nic) := by
    intro addr
    have hle : addrLen t ≤ 32 := by cases t <;> decide
    simp only [wordsOf, memory]
    rw [BitVec.setWidth_ofNat_of_le hle, BitVec.setWidth_setWidth_of_le _ (by decide), BitVec.setWidth_eq]
  have hread : ∀ s : Nic C, Idle s ∧ C.word s.chip = C.word nic.chip → ∀ addr,
      (Idle (epromRead t s addr).1 ∧ C.word (epromRead t s addr).1.chip = C.word nic.chip) ∧
        (epromRead t s addr).2 = wordsOf nic addr := by
    rintro s ⟨hs, hword⟩ addr
    obtain ⟨hidle, hsame, hval⟩ := epromRead_eq hs addr
    refine ⟨⟨hidle, hsame.trans hword⟩, hval.trans ?_⟩
    rw [hword]
    rfl
  obtain ⟨⟨hidle, hword⟩, heval⟩ := Program.exec_eq (I := fun s => Idle s ∧ C.word s.chip = C.word nic.chip)
    hread ⟨h, rfl⟩ (rtl8192ReadEepromInfo { p with epromtype := t })
  have hrun : rtl8192GetEepromSize nic p =
      (rtl8192ReadEepromInfo { p with epromtype := t }).exec (epromRead t) nic := by
    unfold rtl8192GetEepromSize
    rw [htype]
  have himage := rtl8192ReadEepromInfo_eval hshows (p := { p with epromtype := t }) (q := q) rfl
    ⟨hq.tables, hq.antennaTxPwDiff⟩
  rw [hrun]
  refine ⟨hidle, hword, ?_⟩
  rw [heval]
  obtain ⟨hagrees, hrf, hkind, hplan, hdev⟩ := himage
  refine ⟨hagrees, hrf, hkind.trans ?_, hplan, hdev, rtl8192ReadEepromInfo_inside _ rfl⟩
  unfold TxPower.rtl8192ReadEepromInfo
  cases (memory nic).version <;> rfl

/-! ## A chip -/

/-- A memory of the second type: a right ID, the version whose power settings are read, and twelve
levels from 0x10 on -/
def levels (a : BitVec (addrLen .eeprom93C56)) : BitVec 16 :=
  if a = 0 then rtl8190EepromId
  else if a = 62 then 0x0400
  else if a = 64 then 0x1110
  else if a = 65 then 0x1312
  else if a = 66 then 0x1514
  else if a = 94 then 0x1716
  else if a = 95 then 0x1918
  else if a = 96 then 0x1b1a
  else 0

/-- The registers at power on: the straps name the type. -/
def levelsNic : Nic (plain (addrLen .eeprom93C56) true) := ⟨0, epromCmd9356Sel, (.standby, levels)⟩

def blankInfo : Info where
  epromtype := .eeprom93C46
  autoloadFailFlag := false
  eepromVid := 0
  eepromDid := 0
  eepromCustomerID := 0
  eepromChannelPlan := 0
  card8192Version := 0
  devAddr := fun _ => 0
  bTXPowerDataReadFromEEPORM := false
  rfType := .rf1T2R
  eepromLegacyHTTxPowerDiff := 0
  eepromThermalMeter := 0
  tssi13dBm := 0
  eepromAntPwDiff := 0
  eepromCrystalCap := 0
  eepromTxPowerLevelCCK := fun _ => 0
  eepromTxPowerLevelOFDM24G := fun _ => 0
  eepromRfACCKChnl1TxPwLevel := fun _ => 0
  eepromRfAOfdmChnlTxPwLevel := fun _ => 0
  eepromRfCCCKChnl1TxPwLevel := fun _ => 0
  eepromRfCOfdmChnlTxPwLevel := fun _ => 0
  tables := Tables.zero
  legacyHTTxPowerDiff := 0
  antennaTxPwDiff := fun _ => 0
  crystalCap := 0
  thermalMeter := fun _ => 0
  regChannelPlan := 0xf
  channelPlan := 0
  customerID := rtCidDefault
  scanDelay := 50

def blankPriv : TxPower.Priv where
  epromtype := .eeprom93C46
  rfType := .rf1T2R
  customerID := 0
  tables := Tables.zero
  bDynamicTxHighPower := false
  bDynamicTxLowPower := false
  cckPwEnl := 0
  cckTxPowerLevelOriginalOffset := 0
  mcsTxPowerLevelOriginalOffset := fun _ => 0
  rfCTxPwDiff := 0
  antennaTxPwDiff := fun _ => 0
  pwrTrack := 0

/-- The levels of the first and of the last channel arrive, over the wires, where they belong. -/
theorem levels_refine :
    let p := (rtl8192GetEepromSize levelsNic blankInfo).2
    Agrees p (TxPower.rtl8192ReadEepromInfo (memory levelsNic) blankPriv) ∧ p.rfType = .rf2T4R ∧
      p.tables.txPowerLevelCCKA 0 = 0x10 ∧ p.tables.txPowerLevelOFDM24GA 0 = 0x13 ∧
      p.tables.txPowerLevelCCKC 13 = 0x18 ∧ p.tables.txPowerLevelOFDM24GC 13 = 0x1b := by
  have hidle : Idle levelsNic := ⟨by decide, rfl⟩
  obtain ⟨-, -, hagrees, hrf, -⟩ := get_eeprom_size_refines hidle (by decide) blankInfo blankPriv
    ⟨fun _ _ => ⟨rfl, rfl, rfl, rfl, rfl, rfl⟩, rfl⟩
  obtain ⟨-, -, hccka, hofdma, -, -⟩ := hagrees.tables 0 (by decide)
  obtain ⟨-, -, -, -, hcckc, hofdmc⟩ := hagrees.tables 13 (by decide)
  exact ⟨hagrees, hrf.trans (by decide), hccka.trans (by decide), hofdma.trans (by decide),
    hcckc.trans (by decide), hofdmc.trans (by decide)⟩

end Rtl8190.Eeprom
