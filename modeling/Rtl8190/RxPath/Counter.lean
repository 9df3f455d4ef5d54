import Mathlib.Data.Finset.Option
import Mathlib.Data.Fintype.Card
import Rtl8190.Lib.Run
import Rtl8190.RxPath.Selection

/-!
# The counter of disabled paths

`disabled_rf_cnt` is a static beside `0xc04`. It is not counted down where other code enables the paths,
and it is counted down for a path that other code has disabled.
-/

open Rtl8190.Memory (Byte)
open Rtl8190.Power (RfPowerState RfType rOFDM0TRxPathEnable rOFDM1TRxPathEnable setBBreg)
open Rtl8190.Registers
open Rtl8190.Run

namespace Rtl8190.RxPath

variable {s : State} {i j : Path}

/-! ## The bit of a path -/

theorem setPath_bit (r : Regs) (i j : Path) (b : Bool) :
    (setPath r j (if b then 1 else 0) rOFDM0TRxPathEnable).getLsbD i =
      if i = j then b else (r rOFDM0TRxPathEnable).getLsbD i := by
  -- The bit of one path is written, and the others stay.
  have hmask : ∀ i j : Path, ((1 : BitVec 32) <<< j.val).getLsbD i = decide (i = j) := by decide
  have hvalue : ∀ i j : Path, ∀ b : Bool, (setBBreg rOFDM0TRxPathEnable ((1 : BitVec 32) <<< j.val)
      (if b then 1 else 0)).value.getLsbD i = (decide (i = j) && b) := by decide
  have hi : i.val < 8 := by omega
  unfold setPath
  rw [Field.write_of_not_mem (Or.inl (show rOFDM0TRxPathEnable < rOFDM1TRxPathEnable by decide))]
  refine (Field.write_bit r (setBBreg rOFDM0TRxPathEnable ((1 : BitVec 32) <<< j.val) (if b then 1 else 0))
    hi).trans ?_
  rw [hvalue]
  show (_ && !((1 : BitVec 32) <<< j.val).getLsbD i || _) = _
  rw [hmask]
  by_cases hij : i = j
  · simp [hij]
  · simp [hij]
    rfl

theorem disablePath_enabled (s : State) (p : Pick Nat) (i : Path) :
    (disablePath s p).enabled i = if i = p.minIndex then false else s.enabled i :=
  setPath_bit s.regs i p.minIndex false

theorem updateCckRxPath_spec (s : State) (paths : Option (Path × Path)) :
    (updateCckRxPath s paths).enabled = s.enabled ∧ (updateCckRxPath s paths).disabledRfCnt = s.disabledRfCnt ∧
      (updateCckRxPath s paths).rfType = s.rfType ∧
      (updateCckRxPath s paths).table.disabledRF = s.table.disabledRF ∧
      (updateCckRxPath s paths).table.rfEnableRssiTh = s.table.rfEnableRssiTh := by
  match paths with
  | none => exact ⟨rfl, rfl, rfl, rfl, rfl⟩
  | some (default, optional) =>
    refine ⟨funext fun i => congrArg (BitVec.getLsbD · i) ?_, rfl, rfl, rfl, rfl⟩
    dsimp only [updateCckRxPath]
    apply Field.write_of_not_mem
    exact Or.inr (show rCCK0AFESetting + 4 ≤ rOFDM0TRxPathEnable by decide)

/-! ## The paths that are enabled again -/

/-- The path was disabled before the run, and the strongest one is strong enough. -/
def Returns (max : Nat) (s : State) (i : Path) : Prop :=
  s.table.disabledRF.getLsbD i ∧ max ≥ (s.table.rfEnableRssiTh i).toNat

instance (max : Nat) (s : State) (i : Path) : Decidable (Returns max s i) := inferInstanceAs (Decidable (_ ∧ _))

/-- After some of the paths, those among them that return are enabled and counted down. -/
theorem foldl_enablePath_spec (max : Nat) (s : State) {l : List Path} (hl : l.Nodup) :
    (∀ i, (l.foldl (enablePath max) s).enabled i = (s.enabled i || (decide (i ∈ l) && decide (Returns max s i)))) ∧
    (l.foldl (enablePath max) s).disabledRfCnt =
      s.disabledRfCnt - BitVec.ofNat 8 (l.filter fun i => Returns max s i).length ∧
    (l.foldl (enablePath max) s).rfType = s.rfType ∧
    (l.foldl (enablePath max) s).table.disabledRF = s.table.disabledRF ∧
    ∀ i ∉ l, (l.foldl (enablePath max) s).table.rfEnableRssiTh i = s.table.rfEnableRssiTh i := by
  induction l using List.reverseRecOn with
  | nil => simp
  | append_singleton l j ih =>
    obtain ⟨hl, _, hdisjoint⟩ := List.nodup_append.mp hl
    have hj : j ∉ l := fun hj => hdisjoint j hj j (List.mem_singleton_self j) rfl
    obtain ⟨henabled, hcnt, htype, hdisabled, hth⟩ := ih hl
    rw [List.foldl_append, List.foldl_cons, List.foldl_nil]
    generalize l.foldl (enablePath max) s = u at henabled hcnt htype hdisabled hth
    have hreturns : (u.table.disabledRF.getLsbD j ∧ max ≥ (u.table.rfEnableRssiTh j).toNat) ↔ Returns max s j := by
      rw [hdisabled, hth j hj]
      rfl
    unfold enablePath
    by_cases h : Returns max s j
    · rw [if_pos (hreturns.mpr h)]
      refine ⟨fun i => ?_, ?_, htype, hdisabled, fun i hi => ?_⟩
      · refine (setPath_bit u.regs i j true).trans ?_
        by_cases hij : i = j
        · simp [hij, h]
        · rw [if_neg hij]
          refine (henabled i).trans ?_
          simp [hij]
      · show u.disabledRfCnt - 1 = _
        rw [hcnt, List.filter_append]
        simp [h, BitVec.sub_sub, BitVec.ofNat_add]
      · simp only [List.mem_append, List.mem_singleton, not_or] at hi
        exact (Function.update_of_ne hi.2 _ _).trans (hth i hi.1)
    · rw [if_neg fun hu => h (hreturns.mp hu)]
      refine ⟨fun i => ?_, ?_, htype, hdisabled, fun i hi => ?_⟩
      · rw [henabled i]
        by_cases hij : i = j
        · simp [hij, h]
        · simp [hij]
      · rw [hcnt, List.filter_append]
        simp [h]
      · simp only [List.mem_append, List.mem_singleton, not_or] at hi
        exact hth i hi.1

theorem length_filter_mem (paths : Finset Path) :
    ((List.finRange 4).filter fun i => i ∈ paths).length = paths.card := by
  rw [← List.toFinset_card_of_nodup ((List.nodup_finRange 4).filter _)]
  congr 1
  ext i
  simp

/-! ## One run -/

/-- The path that a run disables, from the state in which it selects -/
def disabled (t : State) : Option Path := if Disables t then some (rssiPick t).minIndex else none

/-- The paths that a run enables again. The one that it has just disabled has its new value. -/
def returning (t : State) : Finset Path :=
  Finset.univ.filter fun i => t.enabled i = false ∧
    (rssiPick t).tmpMax ≥ (if disabled t = some i then BitVec.ofNat 8 ((rssiPick t).tmpMax + 5)
      else t.table.rfEnableRssiTh i).toNat

theorem prepare_disabledRF (s : State) (input : Input) (i : Path) :
    (prepare s input).table.disabledRF.getLsbD i = !(prepare s input).enabled i := by
  have hbit : ∀ i : Path, ((0xf : Byte).getLsbD i) = true := by decide
  have hi : i.val < 8 := by omega
  show (0xf &&& ~~~s.regs rOFDM0TRxPathEnable).getLsbD i = !(s.regs rOFDM0TRxPathEnable).getLsbD i
  rw [BitVec.getLsbD_and, BitVec.getLsbD_not, hbit]
  simp [hi]

/-- The weakest path, if it is disabled, and what follows for the values that enable a path -/
theorem disableStep_spec (t : State) :
    let u := if Disables t then disablePath t (rssiPick t) else t
    (∀ i, u.enabled i = if disabled t = some i then false else t.enabled i) ∧
    u.disabledRfCnt = (if (disabled t).isSome then t.disabledRfCnt + 1 else t.disabledRfCnt) ∧
    u.rfType = t.rfType ∧ u.table.disabledRF = t.table.disabledRF ∧
    ∀ i, u.table.rfEnableRssiTh i =
      if disabled t = some i then BitVec.ofNat 8 ((rssiPick t).tmpMax + 5) else t.table.rfEnableRssiTh i := by
  unfold disabled
  by_cases h : Disables t
  · simp only [if_pos h]
    refine ⟨fun i => ?_, rfl, rfl, rfl, fun i => ?_⟩
    · rw [disablePath_enabled]
      simp [eq_comm]
    · show Function.update _ _ _ i = _
      rw [Function.update_apply]
      simp [eq_comm]
  · simp [if_neg h]

theorem dmRxpathSelByrssi_spec (s : State) (input : Input) (htype : s.rfType = .rf2T4R) :
    let t := prepare s input
    let u := dmRxpathSelByrssi s input
    (∀ i, u.enabled i = ((t.enabled i && !decide (disabled t = some i)) || decide (i ∈ returning t))) ∧
    u.disabledRfCnt = (if (disabled t).isSome then t.disabledRfCnt + 1 else t.disabledRfCnt) -
      BitVec.ofNat 8 (returning t).card ∧
    u.rfType = s.rfType := by
  intro t u
  obtain ⟨henabled, hcnt, hrfType, hdisabledRF, hth⟩ := disableStep_spec t
  generalize hv : (if Disables t then disablePath t (rssiPick t) else t) = v at *
  obtain ⟨henabled', hcnt', hrfType', hdisabledRF', hth'⟩ := updateCckRxPath_spec v (cckPaths t)
  have hu : u = (List.finRange 4).foldl (enablePath (rssiPick t).tmpMax) (updateCckRxPath v (cckPaths t)) := by
    rw [← hv]
    exact if_neg (not_not.mpr htype)
  generalize updateCckRxPath v (cckPaths t) = w at *
  obtain ⟨hfold, hfoldCnt, hfoldType, _, _⟩ :=
    foldl_enablePath_spec (rssiPick t).tmpMax w (List.nodup_finRange 4)
  have hclear (i : Path) : t.table.disabledRF.getLsbD i = !t.enabled i := prepare_disabledRF s input i
  have hreturns (i : Path) : Returns (rssiPick t).tmpMax w i ↔ i ∈ returning t := by
    unfold Returns returning
    rw [Finset.mem_filter, hdisabledRF', hdisabledRF, hth', hth, hclear]
    simp
  rw [hu]
  refine ⟨fun i => ?_, ?_, ?_⟩
  · rw [hfold, henabled', henabled]
    simp only [hreturns, List.mem_finRange, decide_true, Bool.true_and]
    by_cases h : disabled t = some i
    · simp [h]
    · simp [h]
  · rw [hfoldCnt, hcnt', hcnt]
    simp only [hreturns]
    rw [length_filter_mem]
  · rw [hfoldType, hrfType', hrfType]
    rfl

/-! ## Runs -/

/-- The driver, with the paths that it has disabled and that are still disabled in `0xc04` -/
structure Watched where
  s : State
  off : Finset Path

def selects (s : State) : Event → Option State
  | .selByRssi brfpathRxenable input =>
    if s.rfType = .rf2T4R then some (prepare { s with brfpathRxenable := brfpathRxenable } input) else none
  | .pathCheck input =>
    if s.rfType = .rf2T4R ∧ s.table.enable then some (prepare { s with brfpathRxenable := s.enabled } input)
    else none
  | _ => none

def watch (w : Watched) (e : Event) : Watched where
  s := step w.s e
  off := Finset.univ.filter fun i =>
    (i ∈ w.off ∨ (selects w.s e).bind disabled = some i) ∧ (step w.s e).enabled i = false

def State.receiving (s : State) : Finset Path := Finset.univ.filter fun i => s.enabled i

/-- The selection is right, the counter is, and no path was disabled that leaves fewer than two. -/
def Right (w : Watched) (e : Event) : Prop :=
  (∀ t, selects w.s e = some t → SelectionRight t) ∧
  (watch w e).s.disabledRfCnt.toNat = (watch w e).off.card ∧
  ∀ t m, selects w.s e = some t → disabled t = some m → 2 ≤ (t.receiving.erase m).card

/-- The paths that a run enables again although it had not disabled them -/
def strays (t : State) (off : Finset Path) : Finset Path := returning t \ (off ∪ (disabled t).toFinset)

/-- A run enables no stray path, except one where it disables a path that it had disabled already; it does not
disable one of two paths. The RF is switched on, and a silent reset done, with the counter at zero. -/
def Clean (w : Watched) (e : Event) : Prop :=
  match e with
  | .silentReset | .rf .eRfOn => w.s.disabledRfCnt = 0
  | e => ∀ t, selects w.s e = some t →
    (strays t w.off).card = (if ∃ m ∈ w.off, disabled t = some m then 1 else 0) ∧
    ∀ m, disabled t = some m → 3 ≤ (insert m t.receiving).card

/-- The counter is right, and stays so where nothing is selected. -/
structure Counted (w : Watched) : Prop where
  cnt : w.s.disabledRfCnt.toNat = w.off.card
  off : ∀ i ∈ w.off, w.s.enabled i = false
  type : w.s.rfType ≠ .rf2T4R → w.off = ∅

theorem card_counted {off en : Finset Path} {cnt : Byte} (h : cnt.toNat = off.card) (d : Option Path) :
    ((if d.isSome then cnt + 1 else cnt) - BitVec.ofNat 8 en.card).toNat = ((off ∪ d.toFinset) \ en).card ↔
      (en \ (off ∪ d.toFinset)).card = if ∃ m ∈ off, d = some m then 1 else 0 := by
  have hsplit : ((off ∪ d.toFinset) \ en).card + en.card =
      (en \ (off ∪ d.toFinset)).card + (off ∪ d.toFinset).card := by
    rw [Finset.card_sdiff_add_card, Finset.card_sdiff_add_card, Finset.union_comm]
  have hen : en.card ≤ 4 := Finset.card_le_univ en
  have hoff : off.card ≤ 4 := Finset.card_le_univ off
  have hleft : (en \ (off ∪ d.toFinset)).card ≤ en.card := Finset.card_le_card Finset.sdiff_subset
  match d with
  | none =>
    simp only [Option.toFinset_none, Finset.union_empty, Option.isSome_none] at *
    simp only [reduceCtorEq, and_false, exists_false, if_false, Bool.false_eq_true]
    bv_omega
  | some m =>
    have hiff : (∃ m' ∈ off, some m = some m') ↔ m ∈ off := by simp
    simp only [Option.toFinset_some, Option.isSome_some, hiff, if_true] at *
    by_cases hm : m ∈ off
    · rw [Finset.union_eq_left.mpr (Finset.singleton_subset_iff.mpr hm)] at *
      rw [if_pos hm]
      bv_omega
    · rw [Finset.card_union_of_disjoint (Finset.disjoint_singleton_right.mpr hm), Finset.card_singleton] at hsplit
      rw [if_neg hm]
      bv_omega

theorem selects_some {s t : State} {e : Event} (h : selects s e = some t) :
    ∃ s' input, t = prepare s' input ∧ step s e = dmRxpathSelByrssi s' input ∧ s'.rfType = .rf2T4R ∧
      s'.enabled = s.enabled ∧ s'.disabledRfCnt = s.disabledRfCnt := by
  match e with
  | .selByRssi brfpathRxenable input =>
    simp only [selects, Option.ite_none_right_eq_some, Option.some.injEq] at h
    exact ⟨_, input, h.2.symm, rfl, h.1, rfl, rfl⟩
  | .pathCheck input =>
    simp only [selects, Option.ite_none_right_eq_some, Option.some.injEq] at h
    exact ⟨_, input, h.2.symm, if_pos h.1.2, h.1.1, rfl, rfl⟩

theorem watch_of_selects {w : Watched} {e : Event} {t : State} (h : Counted w) (ht : selects w.s e = some t) :
    (watch w e).off = (w.off ∪ (disabled t).toFinset) \ returning t ∧
    (watch w e).s.disabledRfCnt = (if (disabled t).isSome then w.s.disabledRfCnt + 1 else w.s.disabledRfCnt) -
      BitVec.ofNat 8 (returning t).card ∧
    (watch w e).s.rfType = .rf2T4R := by
  obtain ⟨s', input, rfl, hstep, htype, henabled, hcnt⟩ := selects_some ht
  obtain ⟨hafter, hafterCnt, hafterType⟩ := dmRxpathSelByrssi_spec s' input htype
  have hbefore : (prepare s' input).enabled = w.s.enabled := henabled
  refine ⟨?_, ?_, ?_⟩
  · ext i
    show i ∈ Finset.univ.filter _ ↔ _
    rw [Finset.mem_filter, ht, hstep, hafter, hbefore]
    have hoff := h.off i
    simp only [Option.bind_some, Finset.mem_univ, true_and, Finset.mem_sdiff, Finset.mem_union,
      Option.mem_toFinset, Option.mem_def, Bool.or_eq_false_iff, Bool.and_eq_false_iff, decide_eq_false_iff_not]
    grind
  · show (step w.s e).disabledRfCnt = _
    rw [hstep, hafterCnt, ← hcnt]
    rfl
  · show (step w.s e).rfType = _
    rw [hstep, hafterType, htype]

theorem right_iff_of_selects {w : Watched} {e : Event} {t : State} (h : Counted w)
    (ht : selects w.s e = some t) :
    Right w e ↔ (strays t w.off).card = (if ∃ m ∈ w.off, disabled t = some m then 1 else 0) ∧
      ∀ m, disabled t = some m → 3 ≤ (insert m t.receiving).card := by
  -- A run that selects is right exactly when it is clean.
  obtain ⟨hoff, hcnt, _⟩ := watch_of_selects h ht
  have hlast (m : Path) : 2 ≤ (t.receiving.erase m).card ↔ 3 ≤ (insert m t.receiving).card := by
    have hsplit := Finset.card_insert_of_notMem (Finset.notMem_erase m t.receiving)
    have hsame : insert m (t.receiving.erase m) = insert m t.receiving := by grind
    rw [hsame] at hsplit
    omega
  unfold Right strays
  rw [hoff, hcnt, card_counted h.cnt (disabled t)]
  constructor
  · rintro ⟨_, hcard, hkeep⟩
    exact ⟨hcard, fun m hm => (hlast m).mp (hkeep t m ht hm)⟩
  · rintro ⟨hcard, hkeep⟩
    refine ⟨fun u _ => selectionRight u, hcard, fun u m hu hm => ?_⟩
    obtain rfl : t = u := Option.some.inj (ht.symm.trans hu)
    exact (hlast m).mpr (hkeep m hm)

/-! ## Other code -/

theorem write_paths_bit (r : Regs) (i : Path) (b : Bool) :
    (Field.write r (setBBreg rOFDM0TRxPathEnable 0xf (if b then 0xf else 0)) rOFDM0TRxPathEnable).getLsbD i = b := by
  have hmask : ∀ i : Path, (0xf : BitVec 32).getLsbD i = true := by decide
  have hvalue : ∀ i : Path, ∀ b : Bool,
      (setBBreg rOFDM0TRxPathEnable 0xf (if b then 0xf else 0)).value.getLsbD i = b := by decide
  have hi : i.val < 8 := by omega
  refine (Field.write_bit r (setBBreg rOFDM0TRxPathEnable 0xf (if b then 0xf else 0)) hi).trans ?_
  rw [hvalue]
  show (_ && !(0xf : BitVec 32).getLsbD i || _) = _
  rw [hmask]
  simp

theorem rf_on_bit (r : Regs) (i : Path) :
    ((Power.rfFields .rf2T4R .eRfOn).foldl Field.write r rOFDM0TRxPathEnable).getLsbD i = true := by
  have hsplit : Power.rfFields .rf2T4R .eRfOn = (Power.rfFields .rf2T4R .eRfOn).take 4 ++
    setBBreg rOFDM0TRxPathEnable 0xf 0xf :: (Power.rfFields .rf2T4R .eRfOn).drop 5 := rfl
  rw [hsplit, List.foldl_append, List.foldl_cons, Field.foldl_write_of_not_mem (by decide)]
  exact write_paths_bit _ i true

theorem rf_off_bit (rfType : RfType) {st : RfPowerState} (h : st ≠ .eRfOn) (r : Regs) (i : Path) :
    ((Power.rfFields rfType st).foldl Field.write r rOFDM0TRxPathEnable).getLsbD i = false := by
  have hsplit : Power.rfFields rfType st =
      ((if rfType = .rf2T4R then [setBBreg Power.rFPGA0XARFInterfaceOE 0x10 0x0] else []) ++
        [setBBreg Power.rFPGA0XCRFInterfaceOE 0x10 0x0, setBBreg Power.rFPGA0AnalogParameter4 0xf00 0x0,
          setBBreg Power.rFPGA0AnalogParameter1 0x1e0 0x0]) ++
      setBBreg rOFDM0TRxPathEnable 0xf 0x0 ::
        [setBBreg rOFDM1TRxPathEnable 0xf 0x0, setBBreg Power.rFPGA0AnalogParameter1 0x1e00 0x0] := by
    match st with
    | .eRfSleep | .eRfOff => simp [Power.rfFields]
  rw [hsplit, List.foldl_append, List.foldl_cons, Field.foldl_write_of_not_mem (by decide)]
  exact write_paths_bit _ i false

theorem phyRegs_bit (r : Regs) (i : Path) : (phyRegs .rf2T4R r rOFDM0TRxPathEnable).getLsbD i = true := by
  have hbit : ∀ i : Path, ((0x500f : BitVec 32).extractLsb' 0 8).getLsbD i = true := by decide
  unfold phyRegs
  dsimp only
  rw [store_of_not_mem (Or.inl (by decide)), store_of_mem (by decide) (by decide)]
  exact hbit i

theorem selByRssi_of_selects_none {brfpathRxenable : Path → Bool} {input : Input}
    (h : selects s (.selByRssi brfpathRxenable input) = none) :
    step s (.selByRssi brfpathRxenable input) = { s with brfpathRxenable := brfpathRxenable } := by
  simp only [selects, ite_eq_right_iff, reduceCtorEq, imp_false] at h
  exact if_pos h

theorem pathCheck_of_selects_none {input : Input} (h : selects s (.pathCheck input) = none) :
    step s (.pathCheck input) = { s with brfpathRxenable := s.enabled } := by
  simp only [selects, ite_eq_right_iff, reduceCtorEq, imp_false] at h
  show dmRfPathcheckWorkitemcallback s input = _
  unfold dmRfPathcheckWorkitemcallback
  dsimp only
  split
  next henable =>
    have htype : s.rfType ≠ .rf2T4R := fun htype => h ⟨htype, henable⟩
    exact if_pos htype
  next => rfl

theorem step_of_selects_none {e : Event} (h : selects s e = none) :
    (step s e).rfType = s.rfType ∧ (step s e).disabledRfCnt = s.disabledRfCnt := by
  match e with
  | .selByRssi brfpathRxenable input => simp [selByRssi_of_selects_none h]
  | .pathCheck input => simp [pathCheck_of_selects_none h]
  | .reinit => exact ⟨rfl, rfl⟩
  | .silentReset => exact ⟨rfl, rfl⟩
  | .rf st => exact ⟨rfl, rfl⟩

theorem right_iff_of_none {w : Watched} {e : Event} (h : selects w.s e = none) :
    Right w e ↔ w.s.disabledRfCnt.toNat =
      (w.off.filter fun i => (step w.s e).enabled i = false).card := by
  have hoff : (watch w e).off = w.off.filter fun i => (step w.s e).enabled i = false := by
    ext i
    show i ∈ Finset.univ.filter _ ↔ _
    simp [h]
  have hcnt : (watch w e).s.disabledRfCnt = w.s.disabledRfCnt := (step_of_selects_none h).2
  unfold Right
  rw [hoff, hcnt, h]
  simp

theorem right_of_kept {w : Watched} {e : Event} (hw : Counted w) (h : selects w.s e = none)
    (hkept : ∀ i ∈ w.off, (step w.s e).enabled i = false) : Right w e := by
  rw [right_iff_of_none h, Finset.filter_true_of_mem hkept]
  exact hw.cnt

theorem right_iff_of_enabled {w : Watched} {e : Event} (hw : Counted w) (h : selects w.s e = none)
    (hall : w.s.rfType = .rf2T4R → ∀ i, (step w.s e).enabled i = true) :
    Right w e ↔ w.s.disabledRfCnt = 0 := by
  have hempty : (w.off.filter fun i => (step w.s e).enabled i = false) = ∅ := by
    by_cases htype : w.s.rfType = .rf2T4R
    · simp [hall htype]
    · simp [hw.type htype]
  rw [right_iff_of_none h, hempty, Finset.card_empty]
  exact ⟨fun h => BitVec.eq_of_toNat_eq h, fun h => by rw [h]; rfl⟩

theorem right_iff_clean {w : Watched} (hw : Counted w) (e : Event) : Right w e ↔ Clean w e := by
  match e with
  | .selByRssi brfpathRxenable input =>
    match h : selects w.s (.selByRssi brfpathRxenable input) with
    | some t =>
      rw [right_iff_of_selects hw h]
      simp [Clean, h]
    | none =>
      refine iff_of_true (right_of_kept hw h ?_) (by simp [Clean, h])
      rw [selByRssi_of_selects_none h]
      exact hw.off
  | .pathCheck input =>
    match h : selects w.s (.pathCheck input) with
    | some t =>
      rw [right_iff_of_selects hw h]
      simp [Clean, h]
    | none =>
      refine iff_of_true (right_of_kept hw h ?_) (by simp [Clean, h])
      rw [pathCheck_of_selects_none h]
      exact hw.off
  | .reinit => exact iff_of_true (right_of_kept hw rfl hw.off) (by simp [Clean, selects])
  | .silentReset =>
    refine right_iff_of_enabled hw rfl fun htype i => ?_
    show (phyRegs w.s.rfType _ _).getLsbD i = true
    rw [htype]
    exact phyRegs_bit _ i
  | .rf .eRfOn =>
    refine right_iff_of_enabled hw rfl fun htype i => ?_
    show (List.foldl Field.write _ (Power.rfFields w.s.rfType .eRfOn) _).getLsbD i = true
    rw [htype]
    exact rf_on_bit _ i
  | .rf .eRfSleep =>
    exact iff_of_true (right_of_kept hw rfl fun i _ => rf_off_bit _ (by decide) _ i) (by simp [Clean, selects])
  | .rf .eRfOff =>
    exact iff_of_true (right_of_kept hw rfl fun i _ => rf_off_bit _ (by decide) _ i) (by simp [Clean, selects])

theorem counted_watch {w : Watched} {e : Event} (hw : Counted w) (he : Clean w e) : Counted (watch w e) := by
  refine ⟨((right_iff_clean hw e).mpr he).2.1, fun i hi => (Finset.mem_filter.mp hi).2.2, fun htype => ?_⟩
  match h : selects w.s e with
  | some t => exact absurd (watch_of_selects hw h).2.2 htype
  | none =>
    have htype : w.s.rfType ≠ .rf2T4R := (step_of_selects_none h).1 ▸ htype
    apply Finset.filter_eq_empty_iff.mpr
    simp [h, hw.type htype]

theorem disabled_mem_receiving {s : State} {input : Input} {m : Path}
    (hmask : s.brfpathRxenable = s.enabled) (hdiff : s.table.diffTh ≠ 0)
    (hm : disabled (prepare s input) = some m) : m ∈ (prepare s input).receiving := by
  -- A run that has read its mask from `0xc04` disables an enabled path.
  simp only [disabled, Option.ite_none_right_eq_some, Option.some.injEq] at hm
  obtain ⟨⟨_, hapart⟩, rfl⟩ := hm
  have hright := pick_right 0 s.brfpathRxenable fun i => ((prepare s input).table.rfRssi i).toNat
  have hne : enabledPaths s.brfpathRxenable ≠ [] := by
    intro hnil
    have hpick : rssiPick (prepare s input) = ⟨0, 0, 0, 0, 0, 0, 0⟩ := by
      show pick 0 s.brfpathRxenable _ = _
      unfold pick
      rw [← List.foldl_filter]
      exact congrArg (List.foldl _ _) hnil
    rw [hpick] at hapart
    apply hdiff
    apply BitVec.eq_of_toNat_eq
    change (0 : Int) - 0 ≥ (s.table.diffTh.toNat : Int) at hapart
    show s.table.diffTh.toNat = 0
    omega
  have hmem := (hright.ranked hne).min_mem
  have henabled : s.enabled (rssiPick (prepare s input)).minIndex = true := by
    rw [← hmask]
    exact (List.mem_filter.mp hmem).2
  exact Finset.mem_filter.mpr ⟨Finset.mem_univ _, henabled⟩

/-- For the run of the work item, the condition is about strays and the number of paths alone. -/
theorem clean_pathCheck_iff {w : Watched} (hw : Counted w) (hdiff : w.s.table.diffTh ≠ 0) (input : Input) :
    Clean w (.pathCheck input) ↔ ∀ t, selects w.s (.pathCheck input) = some t →
      strays t w.off = ∅ ∧ (Disables t → 3 ≤ t.receiving.card) := by
  show (∀ t, selects w.s (.pathCheck input) = some t → _) ↔ _
  refine forall₂_congr fun t ht => ?_
  simp only [selects, Option.ite_none_right_eq_some, Option.some.injEq] at ht
  obtain ⟨_, rfl⟩ := ht
  have hmem (m : Path) := @disabled_mem_receiving { w.s with brfpathRxenable := w.s.enabled } input m rfl hdiff
  have hkeep : (prepare { w.s with brfpathRxenable := w.s.enabled } input).enabled = w.s.enabled := rfl
  generalize prepare { w.s with brfpathRxenable := w.s.enabled } input = t at *
  have hfresh : ¬ ∃ m ∈ w.off, disabled t = some m := by
    rintro ⟨m, hoff, hm⟩
    have henabled := (Finset.mem_filter.mp (hmem m hm)).2
    rw [hkeep, hw.off m hoff] at henabled
    exact Bool.false_ne_true henabled
  rw [if_neg hfresh, Finset.card_eq_zero]
  refine and_congr_right fun _ => ⟨fun h hd => ?_, fun h m hm => ?_⟩
  · have hm : disabled t = some (rssiPick t).minIndex := if_pos hd
    rw [← Finset.insert_eq_of_mem (hmem _ hm)]
    exact h _ hm
  · rw [Finset.insert_eq_of_mem (hmem m hm)]
    apply h
    by_contra hd
    simp [disabled, hd] at hm

/-- From the driver's start, the selection and the counter are right in every step of a run exactly when all
steps are clean. -/
theorem counter_right_iff (s : State) (es : List Event) :
    Meets watch Right ⟨loaded s, ∅⟩ es ↔ Meets watch Clean ⟨loaded s, ∅⟩ es := by
  have hstart : Counted ⟨loaded s, ∅⟩ := ⟨rfl, fun i hi => absurd hi (Finset.notMem_empty i), fun _ => rfl⟩
  exact meets_congr (fun w e hw hr => counted_watch hw ((right_iff_clean hw e).mp hr))
    (fun w e hw => right_iff_clean hw e) hstart

/-! ## A run that leaves the counter behind -/

def fourPaths : State where
  rfType := .rf2T4R
  netcore := false
  regs := phyRegs .rf2T4R fun _ => 0
  brfpathRxenable := fun _ => true
  table := ⟨false, false, .version1, 0, 0, 0, 0, fun _ => 0, fun _ => 0, fun _ => 0⟩
  disabledRfCnt := 0
  cckRxPathInitialized := false

def offAndOn : List Event :=
  [.pathCheck ⟨false, fun i => if i = 3 then 20 else 60, fun _ => -64⟩, .rf .eRfOff, .rf .eRfOn]

/-- All paths are enabled again, and the counter says one is not. -/
theorem counter_left_behind :
    (exec watch ⟨loaded fourPaths, ∅⟩ offAndOn).s.disabledRfCnt = 1 ∧
    (exec watch ⟨loaded fourPaths, ∅⟩ offAndOn).s.receiving = Finset.univ ∧
    (exec watch ⟨loaded fourPaths, ∅⟩ offAndOn).off = ∅ ∧
    ¬ Meets watch Right ⟨loaded fourPaths, ∅⟩ offAndOn := by
  have hcnt : (exec watch ⟨loaded fourPaths, ∅⟩ offAndOn).s.disabledRfCnt = 1 := by decide +kernel
  have hoff : (exec watch ⟨loaded fourPaths, ∅⟩ offAndOn).off = ∅ := by decide +kernel
  refine ⟨hcnt, by decide +kernel, hoff, ?_⟩
  rintro ⟨_, _, ⟨_, hright, _⟩, _⟩
  change (exec watch ⟨loaded fourPaths, ∅⟩ offAndOn).s.disabledRfCnt.toNat =
    (exec watch ⟨loaded fourPaths, ∅⟩ offAndOn).off.card at hright
  rw [hcnt, hoff] at hright
  exact absurd hright (by decide)

end Rtl8190.RxPath
