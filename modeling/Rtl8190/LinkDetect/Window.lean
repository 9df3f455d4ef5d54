import Mathlib.Data.BitVec
import Rtl8190.Lib.Run
import Rtl8190.Lib.Slots
import Rtl8190.Types

/-!
# Hearing the access point

The watchdog of a station counts the beacons and the data frames of each of its periods, keeps the
counts of the last `SlotNum` periods, and takes the access point for dead when their totals are 0.
-/

open Rtl8190.Run Rtl8190.Slots

namespace Rtl8190.LinkDetect

abbrev rtMaxLdSlotNum : Nat := 10

/-- `RT_LINK_DETECT_T`, without the counters of the traffic -/
structure RtLinkDetect where
  numRecvBcnInPeriod : BitVec 32
  numRecvDataInPeriod : BitVec 32
  rxBcnNum : Vector (BitVec 32) rtMaxLdSlotNum
  rxDataNum : Vector (BitVec 32) rtMaxLdSlotNum
  slotNum : BitVec 16
  slotIndex : BitVec 16
  deriving DecidableEq, Repr

/-- `rtllib_softmac_init`, in the memory that `alloc_rtllib` has cleared -/
def rtllibSoftmacInit : RtLinkDetect where
  numRecvBcnInPeriod := 0
  numRecvDataInPeriod := 0
  rxBcnNum := .replicate rtMaxLdSlotNum 0
  rxDataNum := .replicate rtMaxLdSlotNum 0
  slotNum := 2
  slotIndex := 0

/-- One total of `rtl819x_update_rxcounts`; `none` is a read behind the array. The loop counts in a
`u8`, which reads slot 10 long before it wraps. -/
def totalLoop (num : Vector (BitVec 32) rtMaxLdSlotNum) : Nat → Option (BitVec 32)
  | 0 => some 0
  | i + 1 => do
    let total ← totalLoop num i
    let n ← num[i]?
    return total + n

/-- `rtl819x_update_rxcounts` with `*TotalRxBcnNum` and `*TotalRxDataNum`; `none` is an access
outside of the arrays, or a division by 0. -/
def rtl819xUpdateRxcounts (ld : RtLinkDetect) :
    Option (RtLinkDetect × BitVec 32 × BitVec 32) :=
  if ld.slotNum = 0 then none
  else
    let slotIndex := (ld.slotIndex % ld.slotNum).toNat
    if h : slotIndex < rtMaxLdSlotNum then do
      let ld := { ld with
        slotIndex := ld.slotIndex + 1
        rxBcnNum := ld.rxBcnNum.set slotIndex ld.numRecvBcnInPeriod h
        rxDataNum := ld.rxDataNum.set slotIndex ld.numRecvDataInPeriod h }
      let totalRxBcnNum ← totalLoop ld.rxBcnNum ld.slotNum.toNat
      let totalRxDataNum ← totalLoop ld.rxDataNum ld.slotNum.toNat
      return (ld, totalRxBcnNum, totalRxDataNum)
    else none

/-- A link that was just set up, or a scan that has kept the station away, is not to look dead:
`rtllib_associate_complete_wq` and `rtllib_wx_sync_scan_wq` -/
def RtLinkDetect.seed (ld : RtLinkDetect) : RtLinkDetect :=
  if ld.numRecvBcnInPeriod = 0 ∨ ld.numRecvDataInPeriod = 0 then
    { ld with numRecvBcnInPeriod := 1, numRecvDataInPeriod := 1 }
  else ld

/-- `rtllib_associate_complete_wq` sets the number of slots. -/
def slotNumOf (beaconInterval : BitVec 16) : BitVec 16 :=
  BitVec.ofNat 16 (2 * (1 + beaconInterval.toNat / 500))

/-! ## The periods of a run -/

/-- A period in which the station was joined, as the watchdog has found it: where its counts are
kept, what they are, and what was received in it. -/
structure Period where
  slot : Nat
  rxBcnNum : BitVec 32
  rxDataNum : BitVec 32
  bcn : Nat
  data : Nat
  seeded : Bool
  deriving DecidableEq, Repr

/-- `ieee->LinkDetectInfo`, what was received since the watchdog last cleared its counters and
whether they were seeded since then, and the joined periods before, newest first. -/
structure State where
  ld : RtLinkDetect
  bcn : Nat
  data : Nat
  seeded : Bool
  periods : List Period
  deriving DecidableEq, Repr

/-- A beacon of the network comes in, with the station joined, or a data frame; an association is
complete, or a scan from the joined state; the watchdog is due. -/
inductive Event where
  | beacon
  | data
  | associateComplete (beaconInterval : BitVec 16)
  | scanned
  | watchdog (up bHwRadioOff : Bool) (state : RtllibState) (iwMode : IwMode)
  deriving DecidableEq, Repr

def State.init : State := ⟨rtllibSoftmacInit, 0, 0, false, []⟩

/-- The period that the watchdog would find now. -/
def State.period (s : State) : Period where
  slot := (s.ld.slotIndex % s.ld.slotNum).toNat
  rxBcnNum := s.ld.numRecvBcnInPeriod
  rxDataNum := s.ld.numRecvDataInPeriod
  bcn := s.bcn
  data := s.data
  seeded := s.seeded

def State.window (s : State) : List Period :=
  (s.period :: s.periods).take s.ld.slotNum.toNat

def State.seed (s : State) : State :=
  { s with
    ld := s.ld.seed
    seeded := s.seeded || decide (s.ld.seed ≠ s.ld) }

/-- The watchdog clears the counters. -/
def State.nextPeriod (ld : RtLinkDetect) (periods : List Period) : State where
  ld := { ld with numRecvBcnInPeriod := 0, numRecvDataInPeriod := 0 }
  bcn := 0
  data := 0
  seeded := false
  periods := periods

def State.step (s : State) : Event → State
  | .beacon =>
    { s with
      ld := { s.ld with numRecvBcnInPeriod := s.ld.numRecvBcnInPeriod + 1 }
      bcn := s.bcn + 1 }
  | .data =>
    { s with
      ld := { s.ld with numRecvDataInPeriod := s.ld.numRecvDataInPeriod + 1 }
      data := s.data + 1 }
  | .associateComplete beaconInterval =>
    State.seed { s with ld := { s.ld with slotNum := slotNumOf beaconInterval } }
  | .scanned => s.seed
  | .watchdog up bHwRadioOff state iwMode =>
    if up = false ∨ bHwRadioOff = true then s
    else if state = .linked ∧ iwMode = .infra then
      match rtl819xUpdateRxcounts s.ld with
      | some (ld, _, _) => .nextPeriod ld (s.period :: s.periods)
      | none => s
    else .nextPeriod s.ld s.periods

/-- The event makes the watchdog call `rtl819x_update_rxcounts`. -/
def Event.Updates (e : Event) : Prop :=
  e = .watchdog true false .linked .infra

instance (e : Event) : Decidable e.Updates := inferInstanceAs (Decidable (_ = _))

/-- The update stays inside of the arrays, and its totals are what was received in the last
`SlotNum` periods. -/
def CountsWindow (s : State) (e : Event) : Prop :=
  e.Updates → ∃ ld totalRxBcnNum totalRxDataNum,
    rtl819xUpdateRxcounts s.ld = some (ld, totalRxBcnNum, totalRxDataNum) ∧
      totalRxBcnNum.toNat = (s.window.map Period.bcn).sum ∧
      totalRxDataNum.toNat = (s.window.map Period.data).sum

/-- The window fits into the arrays, its periods are kept in different ones of its slots, and their
counts were not seeded and have not wrapped. -/
structure Fits (s : State) : Prop where
  slotNum : s.ld.slotNum.toNat ≤ rtMaxLdSlotNum
  distinct : (s.window.map Period.slot).Nodup
  inside : ∀ p ∈ s.window, p.slot < s.ld.slotNum.toNat
  unseeded : ∀ p ∈ s.window, p.seeded = false
  bcn : (s.window.map Period.bcn).sum < 2 ^ 32
  data : (s.window.map Period.data).sum < 2 ^ 32

def FitsAt (s : State) (e : Event) : Prop := e.Updates → Fits s

/-! ## Totals -/

section

variable {num : Vector (BitVec 32) rtMaxLdSlotNum} {f : Nat → BitVec 32}

theorem totalLoop_eq (hf : ∀ i (h : i < rtMaxLdSlotNum), num[i] = f i) {n : Nat}
    (hn : n ≤ rtMaxLdSlotNum) : totalLoop num n = some (∑ i ∈ Finset.range n, f i) := by
  induction n with
  | zero => rfl
  | succ n ih =>
    have hlt : n < rtMaxLdSlotNum := hn
    unfold totalLoop
    rw [ih (Nat.le_of_lt hlt), Finset.sum_range_succ, Vector.getElem?_eq_getElem hlt, hf n hlt]
    rfl

theorem totalLoop_eq_none {n : Nat} (hn : rtMaxLdSlotNum < n) : totalLoop num n = none := by
  induction n with
  | zero => exact absurd hn (Nat.not_lt_zero _)
  | succ n ih =>
    unfold totalLoop
    rcases Nat.lt_or_ge rtMaxLdSlotNum n with hlt | hge
    · rw [ih hlt]
      rfl
    · rw [Vector.getElem?_eq_none (by omega)]
      cases totalLoop num n <;> rfl

theorem set_eq_after {log : List (Nat × BitVec 32)}
    (hf : ∀ i (h : i < rtMaxLdSlotNum), num[i] = after (fun _ => 0) log i) {slot : Nat}
    (hslot : slot < rtMaxLdSlotNum) (v : BitVec 32) (i : Nat) (h : i < rtMaxLdSlotNum) :
    (num.set slot v hslot)[i] = after (fun _ => 0) ((slot, v) :: log) i := by
  rw [after_cons, Vector.getElem_set, Function.update_apply, hf i h]
  by_cases hi : slot = i
  · simp [hi]
  · simp [hi, Ne.symm hi]

end

theorem sum_ofNat (l : List Nat) :
    (l.map (BitVec.ofNat 32)).sum = BitVec.ofNat 32 l.sum := by
  induction l with
  | nil => rfl
  | cons n l ih => rw [List.map_cons, List.sum_cons, List.sum_cons, ih, BitVec.ofNat_add]

/-! ## What every state of a run has -/

/-- Unless they were seeded, the counts of a period say what was received in it. -/
def Period.Counted (p : Period) : Prop :=
  p.seeded = false → p.rxBcnNum = BitVec.ofNat 32 p.bcn ∧ p.rxDataNum = BitVec.ofNat 32 p.data

structure State.Inv (s : State) : Prop where
  slotNum : s.ld.slotNum ≠ 0
  rxBcnNum : ∀ i (h : i < rtMaxLdSlotNum),
    s.ld.rxBcnNum[i] = after (fun _ => 0) (s.periods.map fun p => (p.slot, p.rxBcnNum)) i
  rxDataNum : ∀ i (h : i < rtMaxLdSlotNum),
    s.ld.rxDataNum[i] = after (fun _ => 0) (s.periods.map fun p => (p.slot, p.rxDataNum)) i
  counted : ∀ p ∈ s.period :: s.periods, p.Counted

theorem inv_init : State.init.Inv := by
  refine ⟨by decide, ?_, ?_, ?_⟩
  · intro i h
    simp [State.init, rtllibSoftmacInit]
  · intro i h
    simp [State.init, rtllibSoftmacInit]
  · simp [State.init, State.period, rtllibSoftmacInit, Period.Counted]

theorem slotNumOf_ne_zero (beaconInterval : BitVec 16) : slotNumOf beaconInterval ≠ 0 := by
  have hlt := beaconInterval.isLt
  unfold slotNumOf
  intro h
  have h := congrArg BitVec.toNat h
  rw [BitVec.toNat_ofNat] at h
  simp at h
  omega

/-- The counters of the present period may change, if they still say what was received. -/
theorem State.Inv.counting {s s' : State} (h : s.Inv) (hslot : s'.ld.slotNum ≠ 0)
    (hbcn : s'.ld.rxBcnNum = s.ld.rxBcnNum) (hdata : s'.ld.rxDataNum = s.ld.rxDataNum)
    (hperiods : s'.periods = s.periods) (hcounted : s'.period.Counted) : s'.Inv := by
  refine ⟨hslot, ?_, ?_, ?_⟩
  · rw [hbcn, hperiods]
    exact h.rxBcnNum
  · rw [hdata, hperiods]
    exact h.rxDataNum
  · rw [hperiods]
    exact List.forall_mem_cons.mpr ⟨hcounted, (List.forall_mem_cons.mp h.counted).2⟩

theorem State.Inv.slotNum_pos {s : State} (h : s.Inv) : 0 < s.ld.slotNum.toNat := by
  apply Nat.pos_of_ne_zero
  intro hzero
  exact h.slotNum (BitVec.eq_of_toNat_eq hzero)

theorem State.Inv.present {s : State} (h : s.Inv) : s.period.Counted :=
  h.counted s.period List.mem_cons_self

theorem inv_seed {s : State} (h : s.Inv) : s.seed.Inv := by
  unfold State.seed RtLinkDetect.seed
  split_ifs with hzero
  · refine h.counting h.slotNum rfl rfl rfl ?_
    intro hseeded
    -- The seed has changed one of the counters.
    simp only [State.period, Bool.or_eq_false_iff, decide_eq_false_iff_not, not_not] at hseeded
    have hsame := hseeded.2
    rw [← hsame] at hzero
    simp at hzero
  · refine h.counting h.slotNum rfl rfl rfl ?_
    simpa [State.period] using h.present

theorem inv_nextPeriod {ld : RtLinkDetect} {periods : List Period} (hslot : ld.slotNum ≠ 0)
    (hbcn : ∀ i (h : i < rtMaxLdSlotNum),
      ld.rxBcnNum[i] = after (fun _ => 0) (periods.map fun p => (p.slot, p.rxBcnNum)) i)
    (hdata : ∀ i (h : i < rtMaxLdSlotNum),
      ld.rxDataNum[i] = after (fun _ => 0) (periods.map fun p => (p.slot, p.rxDataNum)) i)
    (hcounted : ∀ p ∈ periods, p.Counted) : (State.nextPeriod ld periods).Inv := by
  refine ⟨hslot, hbcn, hdata, List.forall_mem_cons.mpr ⟨?_, hcounted⟩⟩
  intro _
  exact ⟨rfl, rfl⟩

def RtLinkDetect.stored (ld : RtLinkDetect)
    (h : (ld.slotIndex % ld.slotNum).toNat < rtMaxLdSlotNum) : RtLinkDetect :=
  { ld with
    slotIndex := ld.slotIndex + 1
    rxBcnNum := ld.rxBcnNum.set (ld.slotIndex % ld.slotNum).toNat ld.numRecvBcnInPeriod h
    rxDataNum := ld.rxDataNum.set (ld.slotIndex % ld.slotNum).toNat ld.numRecvDataInPeriod h }

theorem rtl819xUpdateRxcounts_eq_some {ld ld' : RtLinkDetect} {bcn data : BitVec 32} :
    rtl819xUpdateRxcounts ld = some (ld', bcn, data) ↔ ld.slotNum ≠ 0 ∧
      ∃ h : (ld.slotIndex % ld.slotNum).toNat < rtMaxLdSlotNum, ld' = ld.stored h ∧
        totalLoop (ld.stored h).rxBcnNum ld.slotNum.toNat = some bcn ∧
        totalLoop (ld.stored h).rxDataNum ld.slotNum.toNat = some data := by
  -- Everything that an update without a fault can do.
  unfold rtl819xUpdateRxcounts RtLinkDetect.stored
  simp only
  split_ifs with hzero hlt
  · simp [hzero]
  · simp only [Option.bind_eq_bind, Option.bind_eq_some_iff, Option.pure_def, Option.some.injEq,
      Prod.mk.injEq, hzero, hlt, ne_eq, not_false_eq_true, exists_true_left, true_and]
    constructor
    · rintro ⟨b, hb, d, hd, rfl, rfl, rfl⟩
      exact ⟨rfl, hb, hd⟩
    · rintro ⟨rfl, hb, hd⟩
      exact ⟨bcn, hb, data, hd, rfl, rfl, rfl⟩
  · apply iff_of_false
    · simp
    · rintro ⟨-, h, -⟩
      exact hlt h

theorem inv_watchdog {s : State} (h : s.Inv) (up bHwRadioOff : Bool) (state : RtllibState)
    (iwMode : IwMode) : (s.step (.watchdog up bHwRadioOff state iwMode)).Inv := by
  unfold State.step
  simp only
  split_ifs
  · exact h
  · split
    · next ld bcn data hupdate =>
      obtain ⟨hslot, hlt, rfl, -, -⟩ := rtl819xUpdateRxcounts_eq_some.mp hupdate
      exact inv_nextPeriod hslot (set_eq_after h.rxBcnNum hlt _) (set_eq_after h.rxDataNum hlt _)
        h.counted
    · exact h
  · exact inv_nextPeriod h.slotNum h.rxBcnNum h.rxDataNum (List.forall_mem_cons.mp h.counted).2

theorem inv_step (s : State) (e : Event) (h : s.Inv) : (s.step e).Inv := by
  cases e with
  | beacon =>
    refine h.counting h.slotNum rfl rfl rfl ?_
    intro hseeded
    obtain ⟨hbcn, hdata⟩ := h.present hseeded
    refine ⟨?_, hdata⟩
    rw [State.step, State.period, BitVec.ofNat_add]
    exact congrArg (· + 1) hbcn
  | data =>
    refine h.counting h.slotNum rfl rfl rfl ?_
    intro hseeded
    obtain ⟨hbcn, hdata⟩ := h.present hseeded
    refine ⟨hbcn, ?_⟩
    rw [State.step, State.period, BitVec.ofNat_add]
    exact congrArg (· + 1) hdata
  | associateComplete beaconInterval =>
    apply inv_seed
    exact h.counting (slotNumOf_ne_zero beaconInterval) rfl rfl rfl h.present
  | scanned => exact inv_seed h
  | watchdog up bHwRadioOff state iwMode => exact inv_watchdog h up bHwRadioOff state iwMode

/-! ## The window -/

theorem totalLoop_window {s : State} (hfits : Fits s) {num : Vector (BitVec 32) rtMaxLdSlotNum}
    {stored : Period → BitVec 32} {received : Period → Nat}
    (hnum : ∀ i (h : i < rtMaxLdSlotNum), num[i] =
      after (fun _ => 0) ((s.period :: s.periods).map fun p => (p.slot, stored p)) i)
    (hstored : ∀ p ∈ s.window, stored p = BitVec.ofNat 32 (received p)) :
    totalLoop num s.ld.slotNum.toNat =
      some (BitVec.ofNat 32 ((s.window.map received).sum)) := by
  -- Totals over the slots are totals over the window.
  have hslots (l : List Period) :
      (l.map fun p => (p.slot, stored p)).map Prod.fst = l.map Period.slot := by simp
  have hvalues : (s.window.map fun p => (p.slot, stored p)).map Prod.snd =
      (s.window.map received).map (BitVec.ofNat 32) := by
    rw [List.map_map, List.map_map]
    exact List.map_congr_left hstored
  rw [totalLoop_eq hnum hfits.slotNum, sum_range_after, ← List.map_take, ← State.window, hvalues,
    sum_ofNat]
  · rw [← List.map_take, hslots]
    exact hfits.distinct
  · rw [← List.map_take, hslots, List.forall_mem_map]
    exact hfits.inside

theorem countsWindow_of_fits {s : State} (h : s.Inv) (e : Event) (hfits : FitsAt s e) :
    CountsWindow s e := by
  intro hupdates
  have hfits := hfits hupdates
  have hpos := h.slotNum_pos
  have hpresent : s.period ∈ s.window := by
    unfold State.window
    obtain ⟨n, hn⟩ := Nat.exists_eq_succ_of_ne_zero hpos.ne'
    rw [hn, List.take_succ_cons]
    exact List.mem_cons_self
  have hslot : s.period.slot < rtMaxLdSlotNum :=
    Nat.lt_of_lt_of_le (hfits.inside _ hpresent) hfits.slotNum
  have hcounted : ∀ p ∈ s.window, p.rxBcnNum = BitVec.ofNat 32 p.bcn ∧
      p.rxDataNum = BitVec.ofNat 32 p.data := by
    intro p hp
    exact h.counted p (List.mem_of_mem_take hp) (hfits.unseeded p hp)
  refine ⟨s.ld.stored hslot, BitVec.ofNat 32 ((s.window.map Period.bcn).sum),
    BitVec.ofNat 32 ((s.window.map Period.data).sum), ?_, ?_, ?_⟩
  · rw [rtl819xUpdateRxcounts_eq_some]
    refine ⟨h.slotNum, hslot, rfl, ?_, ?_⟩
    · exact totalLoop_window hfits (set_eq_after h.rxBcnNum hslot _) fun p hp => (hcounted p hp).1
    · exact totalLoop_window hfits (set_eq_after h.rxDataNum hslot _) fun p hp => (hcounted p hp).2
  · rw [BitVec.toNat_ofNat, Nat.mod_eq_of_lt hfits.bcn]
  · rw [BitVec.toNat_ofNat, Nat.mod_eq_of_lt hfits.data]

/-! ## Bounds -/

/-- The update stays inside of the arrays. -/
def InBounds (s : State) (e : Event) : Prop := e.Updates → rtl819xUpdateRxcounts s.ld ≠ none

def ShortAt (s : State) (e : Event) : Prop := e.Updates → s.ld.slotNum.toNat ≤ rtMaxLdSlotNum

theorem inBounds_iff {s : State} (h : s.Inv) (e : Event) : InBounds s e ↔ ShortAt s e := by
  apply imp_congr_right
  intro _
  rw [Option.ne_none_iff_exists']
  constructor
  · rintro ⟨⟨ld, bcn, data⟩, hupdate⟩
    obtain ⟨-, hlt, -, htotal, -⟩ := rtl819xUpdateRxcounts_eq_some.mp hupdate
    by_contra hlong
    rw [totalLoop_eq_none (Nat.lt_of_not_le hlong)] at htotal
    exact absurd htotal (by simp)
  · intro hshort
    have hlt : (s.ld.slotIndex % s.ld.slotNum).toNat < rtMaxLdSlotNum := by
      rw [BitVec.toNat_umod]
      exact Nat.lt_of_lt_of_le (Nat.mod_lt _ h.slotNum_pos) hshort
    have htotal (num : Vector (BitVec 32) rtMaxLdSlotNum) :=
      totalLoop_eq (f := fun i => num[i]?.getD 0)
        (fun i h => by rw [Vector.getElem?_eq_getElem h]; rfl) hshort
    exact ⟨_, rtl819xUpdateRxcounts_eq_some.mpr ⟨h.slotNum, hlt, rfl, htotal _, htotal _⟩⟩

theorem slotNumOf_le_iff (beaconInterval : BitVec 16) :
    (slotNumOf beaconInterval).toNat ≤ rtMaxLdSlotNum ↔ beaconInterval.toNat < 2500 := by
  have hlt := beaconInterval.isLt
  unfold slotNumOf rtMaxLdSlotNum
  rw [BitVec.toNat_ofNat]
  omega

/-- In every run, the updates stay inside of the arrays just when they never find more than 10
slots, and they count their window when it fits. -/
theorem counts_window (es : List Event) :
    (Meets State.step InBounds .init es ↔ Meets State.step ShortAt .init es) ∧
      (Meets State.step FitsAt .init es → Meets State.step CountsWindow .init es) := by
  constructor
  · exact meets_congr (fun s e hs _ => inv_step s e hs) (fun _ e hs => inBounds_iff hs e) inv_init
  · intro hes
    exact hes.mono_of_inv (fun s e hs _ => inv_step s e hs)
      (fun _ e hs hfits => countsWindow_of_fits hs e hfits) inv_init

instance (s : State) : Decidable (Fits s) :=
  decidable_of_iff (s.ld.slotNum.toNat ≤ rtMaxLdSlotNum ∧ (s.window.map Period.slot).Nodup ∧
      (∀ p ∈ s.window, p.slot < s.ld.slotNum.toNat) ∧ (∀ p ∈ s.window, p.seeded = false) ∧
      (s.window.map Period.bcn).sum < 2 ^ 32 ∧ (s.window.map Period.data).sum < 2 ^ 32)
    ⟨fun ⟨h1, h2, h3, h4, h5, h6⟩ => ⟨h1, h2, h3, h4, h5, h6⟩,
      fun ⟨h1, h2, h3, h4, h5, h6⟩ => ⟨h1, h2, h3, h4, h5, h6⟩⟩

instance (s : State) (e : Event) : Decidable (FitsAt s e) :=
  inferInstanceAs (Decidable (e.Updates → Fits s))

/-- Three periods of an access point with the usual beacon interval. -/
def threePeriods : List Event :=
  [.data, .beacon, .associateComplete 100, .watchdog true false .linked .infra, .beacon, .data,
    .watchdog true false .linked .infra, .beacon, .watchdog true false .linked .infra]

theorem counts_window_three : Meets State.step CountsWindow .init threePeriods :=
  (counts_window threePeriods).2 (by decide)

/-- With a beacon interval of 2500, the update reads behind the arrays. -/
theorem counts_window_long :
    ¬ Meets State.step CountsWindow .init
      [.associateComplete 2500, .watchdog true false .linked .infra] := by
  rintro ⟨-, hcounts, -⟩
  obtain ⟨ld, bcn, data, hupdate, -⟩ := hcounts rfl
  have hnone : rtl819xUpdateRxcounts (State.init.step (.associateComplete 2500)).ld = none := by
    decide
  rw [hnone] at hupdate
  exact absurd hupdate (by simp)

/-! ## Two slots -/

/-- No association asks for more than two slots. -/
def Event.Usual : Event → Prop
  | .associateComplete beaconInterval => beaconInterval.toNat < 500
  | _ => True

/-- The newest period is in the slot before the next one. -/
structure State.Alternates (s : State) : Prop where
  slotNum : s.ld.slotNum = 2
  newest : ∀ p ∈ s.periods.head?, p.slot = ((s.ld.slotIndex - 1) % 2).toNat

theorem alternates_seed {s : State} (h : s.Alternates) : s.seed.Alternates := by
  unfold State.seed RtLinkDetect.seed
  split_ifs
  · exact ⟨h.slotNum, h.newest⟩
  · exact ⟨h.slotNum, h.newest⟩

theorem alternates_step (s : State) (e : Event) (h : s.Alternates) (he : e.Usual) :
    (s.step e).Alternates := by
  cases e with
  | beacon => exact ⟨h.slotNum, h.newest⟩
  | data => exact ⟨h.slotNum, h.newest⟩
  | associateComplete beaconInterval =>
    apply alternates_seed
    refine ⟨?_, h.newest⟩
    have hdiv : beaconInterval.toNat / 500 = 0 := Nat.div_eq_of_lt he
    unfold slotNumOf
    rw [hdiv]
    rfl
  | scanned => exact alternates_seed h
  | watchdog up bHwRadioOff state iwMode =>
    unfold State.step
    simp only
    split_ifs
    · exact h
    · split
      · next ld bcn data hupdate =>
        obtain ⟨-, hlt, rfl, -, -⟩ := rtl819xUpdateRxcounts_eq_some.mp hupdate
        refine ⟨h.slotNum, ?_⟩
        simp [State.nextPeriod, RtLinkDetect.stored, State.period, h.slotNum]
      · exact h
    · exact ⟨h.slotNum, h.newest⟩

/-- The newest periods are in both of the two slots, also where `SlotIndex` wraps. -/
theorem slots_of_alternates {s : State} (h : s.Alternates) :
    (s.window.map Period.slot).Nodup ∧ ∀ p ∈ s.window, p.slot < s.ld.slotNum.toNat := by
  have hlt := s.ld.slotIndex.isLt
  have htwo : s.ld.slotNum.toNat = 2 := by
    rw [h.slotNum]
    rfl
  have hpresent : s.period.slot = s.ld.slotIndex.toNat % 2 := by
    rw [State.period, h.slotNum]
    rfl
  have hwindow : s.window = s.period :: s.periods.take 1 := by
    rw [State.window, htwo]
    rfl
  rw [hwindow, htwo]
  cases hperiods : s.periods with
  | nil =>
    simp only [List.take_nil, List.map_cons, List.map_nil, List.nodup_singleton,
      List.mem_singleton, forall_eq, true_and]
    omega
  | cons p periods =>
    have hnewest : p.slot = (s.ld.slotIndex.toNat + 65535) % 65536 % 2 := by
      rw [h.newest p (by simp [hperiods]), BitVec.toNat_umod, BitVec.toNat_sub, Nat.add_comm]
      rfl
    simp only [List.take_succ_cons, List.take_zero, List.map_cons, List.map_nil, List.nodup_cons,
      List.mem_cons, List.not_mem_nil, or_false, forall_eq_or_imp, forall_eq, not_false_eq_true,
      List.nodup_nil, and_true]
    omega

/-- While no association asks for more than two slots, the window is always in the arrays. -/
theorem slots_of_usual {es : List Event} (hes : ∀ e ∈ es, e.Usual) :
    ((exec State.step .init es).window.map Period.slot).Nodup ∧
      ∀ p ∈ (exec State.step .init es).window,
        p.slot < (exec State.step .init es).ld.slotNum.toNat := by
  apply slots_of_alternates
  exact exec_inv alternates_step ⟨rfl, by simp [State.init]⟩ (meets_of_forall hes)

end Rtl8190.LinkDetect
