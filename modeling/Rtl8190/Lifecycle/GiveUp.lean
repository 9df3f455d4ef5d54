import Rtl8190.Lifecycle.Rings

/-!
# Giving up

What the driver has taken at each place where it can give up, and what it gives back from there.
-/

open Rtl8190.Resources

namespace Rtl8190.Lifecycle

/-! ## `rtllib` -/

section
variable (k : Kernel) (v : Vars)

def enabled : Res → Bool := Function.update (fun _ => false) .pciDevice true

def attachedOwn : Res → Bool
  | .pciDevice | .netdev | .networks | .dot11d => true
  | .softmacWq => k.softmacWq
  | .htInfo => k.htInfo
  | _ => false

def attachedVars : Vars :=
  { v.cleared with
    networks := true
    pDot11dInfo := true
    wq := k.softmacWq
    pHTInfo := k.htInfo }

theorem allocRtllib_apply (hdev : k.etherdev = true) (hnet : k.networks = true)
    (hdot : k.dot11d = true) : allocRtllib k (owning enabled v) =
    some (k.htInfo, owning (attachedOwn k) (attachedVars k v)) := by
  cases hwq : k.softmacWq <;> cases hht : k.htInfo <;>
    simp [allocRtllib, rtllibNetworksAllocate, rtllibSoftmacInit, Vars.cleared, enabled,
      attachedVars, hdev, hnet, hdot, hwq, hht]
  all_goals
    congr 1
    funext r
    cases r <;> simp [attachedOwn, Function.update, hwq, hht]

theorem allocRtllib_none (hdev : k.etherdev = true) (hnet : k.networks = true)
    (hdot : k.dot11d = false) : allocRtllib k (owning enabled v) = none := by
  simp [allocRtllib, rtllibNetworksAllocate, rtllibSoftmacInit, Vars.cleared, enabled, hdev, hnet,
    hdot]

theorem allocRtllib_false (h : (k.etherdev && k.networks) = false) :
    ∃ v', allocRtllib k (owning enabled v) = some (false, owning enabled v') := by
  cases hdev : k.etherdev with
  | false => exact ⟨v, by simp [allocRtllib, hdev]⟩
  | true =>
    have hnet : k.networks = false := by simpa [hdev] using h
    refine ⟨v.cleared, ?_⟩
    simp [allocRtllib, rtllibNetworksAllocate, Vars.cleared, enabled, hdev, hnet]
    congr 1
    funext r
    cases r <;> simp [Function.update]

end

/-! ## Giving up -/

/-- The driver knows what of `rtllib` it holds. -/
structure HasRtllib (own : Res → Bool) (v : Vars) : Prop where
  netdev : own .netdev = true
  ownNetworks : own .networks = true
  ownDot11d : own .dot11d = true
  ownHtInfo : own .htInfo = true
  networks : v.networks = true
  pDot11dInfo : v.pDot11dInfo = true
  pHTInfo : v.pHTInfo = true
  wq : v.wq = own .softmacWq

/-- It knows of the card, too, but for a region that is not mapped and an interrupt of number 0. -/
structure Attached (own : Res → Bool) (v : Vars) : Prop extends HasRtllib own v where
  pciDevice : own .pciDevice = true
  memStart : v.memStart = own .mapping
  region : own .mapping = true → own .memRegion = true
  irq : v.irq ≠ 0 → own .irq = true

/-- What `free_rtllib` does not give back -/
def withoutRtllib (own : Res → Bool) : Res → Bool
  | .netdev | .networks | .dot11d | .softmacWq | .htInfo => false
  | r => own r

/-- What `fail1` does not give back -/
def remains (own : Res → Bool) (v : Vars) : Res → Bool
  | .pciDevice | .netdev | .networks | .dot11d | .softmacWq | .htInfo | .mapping => false
  | .memRegion => own .memRegion && !own .mapping
  | .irq => own .irq && decide (v.irq = 0)
  | r => own r

section
variable {own : Res → Bool} {v : Vars}

theorem release_apply {r : Res} {pointer : Vars → Bool} {clear : Vars → Vars}
    (h : pointer v = own r) (hclear : pointer v = false → clear v = v) :
    release r pointer clear (owning own v) =
    some ((), owning (Function.update own r false) (clear v)) := by
  cases hown : own r with
  | true => simp [release, h, hown]
  | false =>
    have hself : Function.update own r false = own := by rw [← hown, Function.update_eq_self]
    simp [release, h, hown, hself, hclear (h.trans hown)]

theorem freeRtllib_none (h : HasRtllib own v) (hwq : own .softmacWq = false) :
    freeRtllib (owning own v) = none := by
  simp [freeRtllib, rtllibSoftmacFree, release, destroyWorkqueue, h.ownHtInfo, h.ownDot11d, h.pHTInfo,
    h.pDot11dInfo, h.wq, hwq]

theorem freeRtllib_apply (h : HasRtllib own v) (hwq : own .softmacWq = true) :
    freeRtllib (owning own v) = some ((), owning (withoutRtllib own)
      { v with pHTInfo := false, pDot11dInfo := false, networks := false }) := by
  simp [freeRtllib, rtllibSoftmacFree, rtllibNetworksFree, release, destroyWorkqueue, h.ownHtInfo,
    h.ownDot11d, h.pHTInfo, h.pDot11dInfo, h.wq, h.netdev, h.networks, h.ownNetworks, hwq]
  congr 1
  funext r
  cases r <;> simp [Function.update, withoutRtllib]

def withoutIrq (own : Res → Bool) (v : Vars) : Res → Bool
  | .irq => own .irq && decide (v.irq = 0)
  | r => own r

def withoutMemory (own : Res → Bool) : Res → Bool
  | .mapping => false
  | .memRegion => own .memRegion && !own .mapping
  | r => own r

theorem freeIrq_apply (h : v.irq ≠ 0 → own .irq = true) :
    freeIrq (owning own v) = some ((), owning (withoutIrq own v) v) := by
  by_cases hline : v.irq = 0
  · have hown : withoutIrq own v = own := by
      funext r
      cases r <;> simp [withoutIrq, hline]
    simp [freeIrq, hline, hown]
  · have hown : Function.update own .irq false = withoutIrq own v := by
      funext r
      cases r <;> simp [withoutIrq, hline, Function.update]
    simp [freeIrq, hline, h hline, hown]

theorem unmap_apply (hstart : v.memStart = own .mapping)
    (hregion : own .mapping = true → own .memRegion = true) :
    unmap (owning own v) = some ((), owning (withoutMemory own) v) := by
  cases hmap : own .mapping with
  | false =>
    have hown : withoutMemory own = own := by
      funext r
      cases r <;> simp [withoutMemory, hmap]
    simp [unmap, hstart, hmap, hown]
  | true =>
    have hown : Function.update (Function.update own .mapping false) .memRegion false =
        withoutMemory own := by
      funext r
      cases r <;> simp [withoutMemory, hmap, Function.update]
    simp [unmap, hstart, hmap, hregion hmap, hown]

theorem Attached.hasRtllib (h : Attached own v) : HasRtllib (withoutIrq (withoutMemory own) v) v :=
  { h.toHasRtllib with }

theorem fail1_eq (h : Attached own v) : fail1 (owning own v) =
    (do freeRtllib; drop .pciDevice; pure (-enodev) : Driver Int)
      (owning (withoutIrq (withoutMemory own) v) v) := by
  have hirq : v.irq ≠ 0 → withoutMemory own .irq = true := h.irq
  rw [fail1, bind_of (unmap_apply h.memStart h.region), fail, bind_of (freeIrq_apply hirq)]

theorem fail1_none (h : Attached own v) (hwq : own .softmacWq = false) :
    fail1 (owning own v) = none := by
  rw [fail1_eq h, bind_apply, freeRtllib_none h.hasRtllib hwq, Option.bind_none]

theorem fail1_apply (h : Attached own v) (hwq : own .softmacWq = true) : ∃ v',
    fail1 (owning own v) = some (-enodev, owning (remains own v) v') := by
  have hpci : withoutRtllib (withoutIrq (withoutMemory own) v) .pciDevice = true := h.pciDevice
  have hown : Function.update (withoutRtllib (withoutIrq (withoutMemory own) v)) .pciDevice false =
      remains own v := by
    funext r
    cases r <;> simp [withoutRtllib, withoutIrq, withoutMemory, remains, Function.update]
  refine ⟨{ v with pHTInfo := false, pDot11dInfo := false, networks := false }, ?_⟩
  rw [fail1_eq h, bind_of (freeRtllib_apply h.hasRtllib hwq), bind_of (drop_owning hpci), hown]
  rfl

theorem fail_eq (hmem : v.memStart = false) : fail (owning own v) = fail1 (owning own v) := by
  simp [fail1, unmap, hmem]

end

/-! ## `rtl8192_init` -/

/-- With what `rtl8192_init` takes before it comes to the rings -/
def initedOwn (own : Res → Bool) (k : Kernel) : Res → Bool
  | .firmware => k.firmware
  | .privWq => k.privWq
  | .irq => k.irq
  | r => own r

def initedVars (k : Kernel) (v : Vars) : Vars :=
  { v with
    pFirmware := k.firmware
    privWq := k.privWq
    irq := if k.irq then k.line else v.irq }

/-- Nothing of what `rtl8192_init` takes is there yet. -/
structure Fresh (own : Res → Bool) (v : Vars) : Prop where
  firmware : own .firmware = false
  privWq : own .privWq = false
  irq : own .irq = false
  rings : withRings own false never never = own
  vars : v.rings = ⟨false, never, never⟩

section
variable {own : Res → Bool} {v : Vars} (k : Kernel)

theorem rtl8192Init_eq (h : Fresh own v) : rtl8192Init k (owning own v) =
    if k.irq then rtl8192PciInitdescring k (owning (initedOwn own k) (initedVars k v))
    else some (false, owning (initedOwn own k) (initedVars k v)) := by
  cases hfw : k.firmware <;> cases hwq : k.privWq <;> cases hirq : k.irq <;>
    simp [rtl8192Init, initedVars, h.firmware, h.privWq, h.irq, hfw, hwq, hirq]
  all_goals
    congr
    funext r
    cases r <;> simp [initedOwn, Function.update, h.firmware, h.privWq, h.irq, hfw, hwq, hirq]

theorem Fresh.initedOwn (h : Fresh own v) :
    withRings (initedOwn own k) false never never = initedOwn own k := by
  funext r
  cases r with
  | rxRing => exact congrFun h.rings .rxRing
  | rxBuf i => exact congrFun h.rings (.rxBuf i)
  | txRing i => exact congrFun h.rings (.txRing i)
  | _ => rfl

theorem Fresh.initedVars (h : Fresh own v) :
    (initedVars k v).setRings ⟨false, never, never⟩ = initedVars k v := by
  rw [← h.vars]
  rfl

/-- With what is left of the rings when `rtl8192_init` has failed -/
def lostOwn (own : Res → Bool) (k : Kernel) : Res → Bool
  | .rxRing => k.irq && decide (k.rxRing = .unaligned)
  | .txRing i => k.irq && decide (k.rxRing = .aligned) && lostTxRing k i
  | r => initedOwn own k r

theorem rtl8192Init_fits (h : Fresh own v) (hirq : k.irq = true) (hfit : ringsFit k = true) :
    ∃ m ≤ maxRxCount, rtl8192Init k (owning own v) =
    some (true, owning
      (withRings (initedOwn own k) true (between 0 m) (between 0 maxTxQueueCount))
      ((initedVars k v).setRings ⟨true, between 0 m, between 0 maxTxQueueCount⟩)) := by
  obtain ⟨m, hm, hrings⟩ := pciInitdescring_fits (initedOwn own k) k (initedVars k v) hfit
  rw [h.initedOwn, h.initedVars] at hrings
  refine ⟨m, hm, ?_⟩
  rw [rtl8192Init_eq k h, if_pos hirq, hrings]

theorem rtl8192Init_fails (h : Fresh own v) (hfail : (k.irq && ringsFit k) = false) :
    ∃ rings, rtl8192Init k (owning own v) =
    some (false, owning (lostOwn own k) ((initedVars k v).setRings rings)) := by
  rw [rtl8192Init_eq k h]
  cases hirq : k.irq with
  | false =>
    have hown : lostOwn own k = initedOwn own k := by
      rw [← h.initedOwn]
      funext r
      cases r with
      | rxBuf i => exact (congrFun h.rings (.rxBuf i)).symm
      | _ => simp [lostOwn, withRings, never, Lifecycle.initedOwn, hirq]
    refine ⟨⟨false, never, never⟩, ?_⟩
    rw [if_neg Bool.false_ne_true, hown, h.initedVars]
  | true =>
    have hfit : ringsFit k = false := by simpa [hirq] using hfail
    obtain ⟨rings, hrings⟩ := pciInitdescring_fails (initedOwn own k) k (initedVars k v) hfit
    have hown : lostOwn own k = withRings (initedOwn own k) (decide (k.rxRing = .unaligned)) never
        fun i => decide (k.rxRing = .aligned) && lostTxRing k i := by
      funext r
      cases r with
      | rxBuf i => exact (congrFun h.rings (.rxBuf i)).symm
      | _ => simp [lostOwn, withRings, hirq]
    rw [h.initedOwn, h.initedVars] at hrings
    exact ⟨rings, by rw [if_pos rfl, hrings, hown]⟩

end

/-! ## Loading -/

section
variable (k : Kernel) (v : Vars)

def mappedOwn : Res → Bool
  | .memRegion | .mapping => true
  | r => attachedOwn k r

def mappedVars : Vars :=
  { attachedVars k v with
    memStart := true
    card8192 := (findadapter k.deviceId k.revisionId).1
    nicType :=
      if (findadapter k.deviceId k.revisionId).1 = .nic8192SE ∨
          (findadapter k.deviceId k.revisionId).1 = .unknown then v.nicType
      else (findadapter k.deviceId k.revisionId).1 }

variable {k v}

theorem attached_attached (hht : k.htInfo = true) : Attached (attachedOwn k) (attachedVars k v) where
  netdev := rfl
  ownNetworks := rfl
  ownDot11d := rfl
  ownHtInfo := hht
  networks := rfl
  pDot11dInfo := rfl
  pHTInfo := hht
  wq := rfl
  pciDevice := rfl
  memStart := rfl
  region h := absurd h Bool.false_ne_true
  irq h := absurd rfl h

theorem attached_mapped (hht : k.htInfo = true) : Attached (mappedOwn k) (mappedVars k v) :=
  { attached_attached (v := v) hht with
    memStart := rfl
    region := fun _ => rfl
    irq := fun h => absurd rfl h }

theorem fresh_mapped : Fresh (mappedOwn k) (mappedVars k v) where
  firmware := rfl
  privWq := rfl
  irq := rfl
  rings := by
    funext r
    cases r <;> rfl
  vars := rfl

/-- Neither what `rtl8192_init` took nor what it lost changes what the driver knows. -/
theorem attached_lost (hht : k.htInfo = true) (rings : Rings) :
    Attached (lostOwn (mappedOwn k) k) ((initedVars k (mappedVars k v)).setRings rings) :=
  { attached_mapped (v := v) hht with
    irq := fun h => by
      cases hirq : k.irq with
      | false => simp [initedVars, mappedVars, attachedVars, Vars.cleared, Vars.setRings, hirq] at h
      | true => exact hirq }

end

end Rtl8190.Lifecycle
