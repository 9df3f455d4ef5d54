import Rtl8190.Lifecycle.Code

/-!
# The rings of a card

What `rtl8192_pci_initdescring` has allocated when it ends, well or not, and that the loops that free
the rings find what they look for.
-/

open Rtl8190.Resources

namespace Rtl8190.Lifecycle

/-- What a card holds, besides `own`: the receive ring, the buffers `rxBuf` and the rings `txRing` -/
def withRings (own : Res → Bool) (rxRing : Bool) (rxBuf txRing : Nat → Bool) : Res → Bool
  | .rxRing => rxRing
  | .rxBuf i => rxBuf i
  | .txRing i => txRing i
  | r => own r

def never : Nat → Bool := fun _ => false

def between (i m : Nat) : Nat → Bool := fun j => decide (i ≤ j ∧ j < m)

section
variable (own : Res → Bool) (rxRing b : Bool) (rxBuf txRing : Nat → Bool) (i : Nat)

@[simp] theorem update_rxRing :
    Function.update (withRings own rxRing rxBuf txRing) .rxRing b = withRings own b rxBuf txRing := by
  funext r
  cases r <;> simp [withRings, Function.update]

@[simp] theorem update_rxBuf : Function.update (withRings own rxRing rxBuf txRing) (.rxBuf i) b =
    withRings own rxRing (Function.update rxBuf i b) txRing := by
  funext r
  cases r <;> simp [withRings, Function.update]

@[simp] theorem update_txRing : Function.update (withRings own rxRing rxBuf txRing) (.txRing i) b =
    withRings own rxRing rxBuf (Function.update txRing i b) := by
  funext r
  cases r <;> simp [withRings, Function.update]

end

section
variable {i m : Nat}

@[simp] theorem between_self : between i i = never := by
  funext j
  simp only [between, never]
  grind

theorem between_of_ge (h : m ≤ i) : between i m = never := by
  funext j
  simp only [between, never]
  grind

theorem update_between_true : Function.update (between 0 m) m true = between 0 (m + 1) := by
  funext j
  simp only [between, Function.update]
  grind

theorem update_between_false : Function.update (between i m) i false = between (i + 1) m := by
  funext j
  simp only [between, Function.update]
  grind

end

/-! ## The receive ring -/

section
variable (own : Res → Bool) (k : Kernel) (v : Vars) (rxRing ptr : Bool) (txRing tx : Nat → Bool)

theorem allocRxBufs_apply : ∃ m ≤ maxRxCount, ∃ all, eachWhile (allocRxBuf k) maxRxCount
      (owning (withRings own rxRing never txRing) (v.setRings ⟨ptr, never, tx⟩)) =
    some (all, owning (withRings own rxRing (between 0 m) txRing)
      (v.setRings ⟨ptr, between 0 m, tx⟩)) := by
  let st (i : Nat) : Holding Res Vars :=
    owning (withRings own rxRing (between 0 i) txRing) (v.setRings ⟨ptr, between 0 i, tx⟩)
  have hround (i : Nat) (hi : k.rxBuf i = true) : allocRxBuf k i (st i) = some (true, st (i + 1)) := by
    have hfree : withRings own rxRing (between 0 i) txRing (.rxBuf i) = false := by
      simp [withRings, between]
    simp [st, allocRxBuf, hi, hfree, update_between_true]
  rw [← between_self (i := 0)]
  rcases all_or_first (k.rxBuf · = true) maxRxCount with hall | ⟨m, hm, hbefore, hstop⟩
  · exact ⟨maxRxCount, le_rfl, true, eachWhile_apply st fun i hi => hround i (hall i hi)⟩
  · refine ⟨m, hm.le, false, eachWhile_stops st hm (fun i hi => hround i (hbefore i hi)) ?_⟩
    simp [st, allocRxBuf, hstop]

theorem rtl8192FreeRxRing_apply {m : Nat} (hm : m ≤ maxRxCount) : rtl8192FreeRxRing
      (owning (withRings own true (between 0 m) txRing) (v.setRings ⟨true, between 0 m, tx⟩)) =
    some ((), owning (withRings own false never txRing)
      (v.setRings ⟨false, between 0 m, tx⟩)) := by
  -- All the buffers are given back, and so is the ring.
  let st (i : Nat) : Holding Res Vars :=
    owning (withRings own true (between i m) txRing) (v.setRings ⟨true, between 0 m, tx⟩)
  have hround (i : Nat) : (do if (← look Vars.rings).rxBuf i then drop (.rxBuf i) : Driver Unit)
      (st i) = some ((), st (i + 1)) := by
    by_cases hi : i < m
    · have hheld : withRings own true (between i m) txRing (.rxBuf i) = true := by
        simp [withRings, between, hi]
      have hin : between 0 m i = true := by simp [between, hi]
      simp [st, hin, hheld, update_between_false]
    · have hout : between 0 m i = false := by simp [between, hi]
      have hge := Nat.le_of_not_lt hi
      simp [st, hout, between_of_ge hge, between_of_ge (Nat.le_succ_of_le hge)]
  have hloop := each_apply st (n := maxRxCount) fun i _ => hround i
  simp only [st, between_of_ge hm] at hloop
  have hheld : withRings own true never txRing .rxRing = true := rfl
  simp [rtl8192FreeRxRing, hloop, hheld]

end

/-! ## The rings for transmission -/

/-- Ring `i` is there but cannot be used. The rings before it can, so the driver came that far. -/
def lostTxRing (k : Kernel) (i : Nat) : Bool :=
  decide (i < maxTxQueueCount) && (List.range i).all (fun j => k.txRing j = .aligned) &&
    decide (k.txRing i = .unaligned)

def txFits (k : Kernel) : Bool := (List.range maxTxQueueCount).all fun i => k.txRing i = .aligned

theorem txFits_iff (k : Kernel) : txFits k = true ↔ ∀ i < maxTxQueueCount, k.txRing i = .aligned := by
  simp [txFits]

theorem lostTxRing_eq {k : Kernel} {m : Nat} (hm : m < maxTxQueueCount)
    (hbefore : ∀ i < m, k.txRing i = .aligned) (hstop : k.txRing m ≠ .aligned) :
    lostTxRing k = fun i => decide (i = m) && decide (k.txRing m = .unaligned) := by
  funext i
  simp only [lostTxRing, List.all_eq, List.mem_range, decide_eq_true_eq]
  rcases Nat.lt_trichotomy i m with hlt | rfl | hgt
  · have hi := hbefore i hlt
    simp [hi, hlt.ne]
  · simp only [hm, decide_true, Bool.true_and]
    rw [decide_eq_true hbefore, Bool.true_and]
  · have hnot : ¬ ∀ j < i, k.txRing j = .aligned := fun h => hstop (h m hgt)
    simp [hnot, hgt.ne']

section
variable (own : Res → Bool) (k : Kernel) (v : Vars) (rxRing ptr : Bool) (rxBuf rx : Nat → Bool)

theorem allocTxRing_apply {i : Nat} (h : k.txRing i = .aligned) : rtl8192AllocTxDescRing k i
      (owning (withRings own rxRing rxBuf (between 0 i)) (v.setRings ⟨ptr, rx, between 0 i⟩)) =
    some (true, owning (withRings own rxRing rxBuf (between 0 (i + 1)))
      (v.setRings ⟨ptr, rx, between 0 (i + 1)⟩)) := by
  have hfree : withRings own rxRing rxBuf (between 0 i) (.txRing i) = false := by
    simp [withRings, between]
  simp [rtl8192AllocTxDescRing, h, hfree, update_between_true]

/-- Freeing ring `i`, which the driver knows of; the ring `lost`, if any, it does not. -/
theorem rtl8192FreeTxRing_apply {i m : Nat} (lost : Bool) (hi : i < m) : rtl8192FreeTxRing i
      (owning (withRings own rxRing rxBuf fun j => between i m j || decide (j = m) && lost)
        (v.setRings ⟨ptr, rx, between i m⟩)) =
    some ((), owning
      (withRings own rxRing rxBuf fun j => between (i + 1) m j || decide (j = m) && lost)
      (v.setRings ⟨ptr, rx, between (i + 1) m⟩)) := by
  have hin : between i m i = true := by simp [between, hi]
  have hheld : withRings own rxRing rxBuf (fun j => between i m j || decide (j = m) && lost)
      (.txRing i) = true := by
    simp [withRings, hin]
  have hupdate : Function.update (fun j => between i m j || decide (j = m) && lost) i false =
      fun j => between (i + 1) m j || decide (j = m) && lost := by
    rw [← update_between_false]
    funext j
    by_cases hj : j = i
    · simp [hj, hi.ne]
    · simp [Function.update, hj]
  simp [rtl8192FreeTxRing, hin, hheld, hupdate, update_between_false]

theorem freeTxRings_apply {m : Nat} (lost : Bool) (hm : m ≤ maxTxQueueCount) :
    each (fun i => do if (← look Vars.rings).txRing i then rtl8192FreeTxRing i) maxTxQueueCount
      (owning (withRings own rxRing rxBuf fun j => between 0 m j || decide (j = m) && lost)
        (v.setRings ⟨ptr, rx, between 0 m⟩)) =
    some ((), owning (withRings own rxRing rxBuf fun j => decide (j = m) && lost)
      (v.setRings ⟨ptr, rx, never⟩)) := by
  -- The loop over all the rings frees the `m` that the driver knows of.
  let st (i : Nat) : Holding Res Vars :=
    owning (withRings own rxRing rxBuf fun j => between i m j || decide (j = m) && lost)
      (v.setRings ⟨ptr, rx, between i m⟩)
  have hround (i : Nat) :
      (do if (← look Vars.rings).txRing i then rtl8192FreeTxRing i : Driver Unit) (st i) =
      some ((), st (i + 1)) := by
    by_cases hi : i < m
    · have hin : between i m i = true := by simp [between, hi]
      simp [st, hin, rtl8192FreeTxRing_apply own v rxRing ptr rxBuf rx lost hi]
    · have hge := Nat.le_of_not_lt hi
      simp [st, between_of_ge hge, between_of_ge (Nat.le_succ_of_le hge), never]
  have hloop := each_apply st (n := maxTxQueueCount) fun i _ => hround i
  simpa only [st, between_of_ge hm, never, Bool.false_or] using hloop

theorem freeAllTxRings_apply : each rtl8192FreeTxRing maxTxQueueCount
      (owning (withRings own rxRing rxBuf (between 0 maxTxQueueCount))
        (v.setRings ⟨ptr, rx, between 0 maxTxQueueCount⟩)) =
    some ((), owning (withRings own rxRing rxBuf never) (v.setRings ⟨ptr, rx, never⟩)) := by
  let st (i : Nat) : Holding Res Vars :=
    owning (withRings own rxRing rxBuf (between i maxTxQueueCount))
      (v.setRings ⟨ptr, rx, between i maxTxQueueCount⟩)
  have hround (i : Nat) (hi : i < maxTxQueueCount) :
      rtl8192FreeTxRing i (st i) = some ((), st (i + 1)) := by
    simpa [st] using rtl8192FreeTxRing_apply own v rxRing ptr rxBuf rx false hi
  have hloop := each_apply st hround
  simpa only [st, between_self] using hloop

end

/-! ## All the rings -/

/-- Both kinds of ring can be used, however many buffers there are. -/
def ringsFit (k : Kernel) : Bool := decide (k.rxRing = .aligned) && txFits k

theorem ringsFit_spec {k : Kernel} (h : ringsFit k = true) :
    k.rxRing = .aligned ∧ ∀ i, lostTxRing k i = false := by
  simp only [ringsFit, Bool.and_eq_true, decide_eq_true_eq] at h
  refine ⟨h.1, fun i => ?_⟩
  by_cases hi : i < maxTxQueueCount
  · simp [lostTxRing, (txFits_iff k).mp h.2 i hi]
  · simp [lostTxRing, hi]

section
variable (own : Res → Bool) (k : Kernel) (v : Vars)

theorem pciInitdescring_fits (hfit : ringsFit k = true) : ∃ m ≤ maxRxCount,
    rtl8192PciInitdescring k
      (owning (withRings own false never never) (v.setRings ⟨false, never, never⟩)) =
    some (true, owning (withRings own true (between 0 m) (between 0 maxTxQueueCount))
      (v.setRings ⟨true, between 0 m, between 0 maxTxQueueCount⟩)) := by
  simp only [ringsFit, Bool.and_eq_true, decide_eq_true_eq] at hfit
  obtain ⟨hrx, hfits⟩ := hfit
  obtain ⟨m, hm, all, hbufs⟩ := allocRxBufs_apply own k v true true never never
  let st (i : Nat) : Holding Res Vars := owning (withRings own true (between 0 m) (between 0 i))
    (v.setRings ⟨true, between 0 m, between 0 i⟩)
  have htxs := eachWhile_apply st fun i hi =>
    allocTxRing_apply own k v true true (between 0 m) (between 0 m) ((txFits_iff k).mp hfits i hi)
  simp only [st, between_self] at htxs
  have hheld : withRings own false never never .rxRing = false := rfl
  refine ⟨m, hm, ?_⟩
  simp [rtl8192PciInitdescring, rtl8192AllocRxDescRing, hrx, hheld, hbufs, htxs]

theorem pciInitdescring_fails (hfail : ringsFit k = false) : ∃ rings,
    rtl8192PciInitdescring k
      (owning (withRings own false never never) (v.setRings ⟨false, never, never⟩)) =
    some (false, owning (withRings own (decide (k.rxRing = .unaligned)) never
      fun i => decide (k.rxRing = .aligned) && lostTxRing k i) (v.setRings rings)) := by
  -- When the rings cannot all be used, a ring that cannot is lost.
  have hheld : withRings own false never never .rxRing = false := rfl
  cases hrx : k.rxRing with
  | null =>
    refine ⟨⟨false, never, never⟩, ?_⟩
    simp [rtl8192PciInitdescring, rtl8192AllocRxDescRing, hrx]
    rfl
  | unaligned =>
    refine ⟨⟨true, never, never⟩, ?_⟩
    simp [rtl8192PciInitdescring, rtl8192AllocRxDescRing, hrx, hheld]
    rfl
  | aligned =>
    obtain ⟨bufs, hbufs, all, hloop⟩ := allocRxBufs_apply own k v true true never never
    rcases all_or_first (k.txRing · = .aligned) maxTxQueueCount with hall | ⟨m, hm, hbefore, hstop⟩
    · rw [← txFits_iff] at hall
      simp [ringsFit, hrx, hall] at hfail
    · let st (i : Nat) : Holding Res Vars :=
        owning (withRings own true (between 0 bufs) (between 0 i))
          (v.setRings ⟨true, between 0 bufs, between 0 i⟩)
      have hfirst : rtl8192AllocTxDescRing k m (st m) = some (false, owning
          (withRings own true (between 0 bufs)
            fun j => between 0 m j || decide (j = m) && decide (k.txRing m = .unaligned))
          (v.setRings ⟨true, between 0 bufs, between 0 m⟩)) := by
        have hfree : withRings own true (between 0 bufs) (between 0 m) (.txRing m) = false := by
          simp [withRings, between]
        cases hm' : k.txRing m with
        | null => simp [st, rtl8192AllocTxDescRing, hm']
        | aligned => exact absurd hm' hstop
        | unaligned =>
          have hlost : Function.update (between 0 m) m true =
              fun j => between 0 m j || decide (j = m) && true := by
            funext j
            by_cases hj : j = m <;> simp [Function.update, hj]
          simp [st, rtl8192AllocTxDescRing, hm', hfree, hlost]
      have htxs := eachWhile_stops st hm (fun i hi => allocTxRing_apply own k v true true
        (between 0 bufs) (between 0 bufs) (hbefore i hi)) hfirst
      simp only [st, between_self] at htxs
      refine ⟨⟨false, between 0 bufs, never⟩, ?_⟩
      simp [rtl8192PciInitdescring, rtl8192AllocRxDescRing, hrx, hheld, hloop, htxs,
        rtl8192FreeRxRing_apply own v _ _ hbufs, freeTxRings_apply own v _ _ _ _ _ hm.le,
        lostTxRing_eq hm hbefore hstop]

end

end Rtl8190.Lifecycle
