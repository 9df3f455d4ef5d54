import Rtl8190.Lifecycle.GiveUp

/-!
# A card comes and goes

The driver gives back all that it took, but for the cases of `leaks`. What it gives back it has, and
it does not give it back twice; it crashes only on a pointer that it has not looked at.
-/

open Rtl8190.Resources

namespace Rtl8190.Lifecycle

/-! ## In words of what the kernel answers -/

section
variable (k : Kernel)

/-- `rtllib_softmac_init` is reached. -/
def attaches : Bool := k.enable && k.etherdev && k.networks

/-- `rtl8192_init` is reached. -/
def enters : Bool :=
  attaches k && k.htInfo && k.isMem && k.memRegion && k.mapping &&
    (findadapter k.deviceId k.revisionId).2

def loads : Bool := enters k && k.irq && ringsFit k

/-- A pointer to nothing is followed, at once or when the driver gives up or is unloaded. -/
def crashes : Bool :=
  attaches k && (!k.dot11d || k.htInfo && (!k.softmacWq || loads k && !k.privWq))

/-- What the driver still holds when it has given up or is gone, and nobody knows of -/
def leaks : Res → Bool
  | .pciDevice => k.enable && !(k.etherdev && k.networks && k.htInfo)
  | .netdev | .networks | .dot11d => attaches k && !k.htInfo
  | .softmacWq => attaches k && !k.htInfo && k.softmacWq
  | .memRegion => attaches k && k.htInfo && k.isMem && k.memRegion && !k.mapping
  | .firmware => enters k && !loads k && k.firmware
  | .privWq => enters k && !loads k && k.privWq
  | .irq => enters k && k.irq && decide (k.line = 0)
  | .rxRing => enters k && k.irq && decide (k.rxRing = .unaligned)
  | .txRing i => enters k && k.irq && decide (k.rxRing = .aligned) && lostTxRing k i
  | .htInfo | .mapping | .rxBuf _ | .registration => false

/-- What `probe` returns -/
def errno : Int :=
  if !k.enable then -eio
  else if !(k.etherdev && k.networks && k.htInfo) then -enomem
  else if loads k then 0
  else -enodev

end

/-! ## One card -/

section
variable {k : Kernel} {v : Vars}

def nothing : Res → Bool := fun _ => false

theorem probe_eq (hen : k.enable = true) (hdev : k.etherdev = true) (hnet : k.networks = true)
    (hdot : k.dot11d = true) (hht : k.htInfo = true) : rtl8192PciProbe k (owning nothing v) =
    if k.isMem && k.memRegion then
      if k.mapping then
        if (findadapter k.deviceId k.revisionId).2 then
          (do
            if ← rtl8192Init k then
              if k.registration then
                take .registration
                assign fun v => { v with registered := true }
              pure 0
            else fail1 : Driver Int) (owning (mappedOwn k) (mappedVars k v))
        else fail1 (owning (mappedOwn k) (mappedVars k v))
      else fail1 (owning (Function.update (attachedOwn k) .memRegion true) (attachedVars k v))
    else fail1 (owning (attachedOwn k) (attachedVars k v)) := by
  -- The four ways on once `rtllib` is there.
  have hpci : nothing .pciDevice = false := rfl
  have hstart : Function.update nothing .pciDevice true = enabled := rfl
  have halloc := allocRtllib_apply k v hdev hnet hdot
  have hregion : attachedOwn k .memRegion = false := rfl
  have hnomem : (attachedVars k v).memStart = false := rfl
  have hmap : Function.update (attachedOwn k) .memRegion true .mapping = false := rfl
  have hown : Function.update (Function.update (attachedOwn k) .memRegion true) .mapping true =
      mappedOwn k := by
    funext r
    cases r <;> simp [mappedOwn, attachedOwn, Function.update]
  cases hmem : k.isMem && k.memRegion <;> cases hmapping : k.mapping <;>
    simp only [rtl8192PciProbe, rtl8192PciFindadapter, bind_apply, pure_apply, take_owning,
      assign_owning, Option.bind_some, if_true, hen, hpci, hstart, halloc, hht, hmem, hmapping,
      hregion, hmap, hown, fail_eq hnomem, Bool.false_eq_true, if_false]
  split <;> rfl

end

/-! ## Unloading -/

/-- The driver knows all that it holds, but for an interrupt of number 0. -/
structure Loaded (own : Res → Bool) (v : Vars) (m : Nat) : Prop extends Attached own v where
  mapping : own .mapping = true
  registration : v.registered = own .registration
  firmware : v.pFirmware = own .firmware
  privWq : v.privWq = own .privWq
  bufs : m ≤ maxRxCount
  ownRings : withRings own true (between 0 m) (between 0 maxTxQueueCount) = own
  rings : v.rings = ⟨true, between 0 m, between 0 maxTxQueueCount⟩

/-- Without what is given back before the rings -/
def withoutFirmware (own : Res → Bool) : Res → Bool
  | .registration | .firmware | .privWq => false
  | r => own r

section
variable {own : Res → Bool} {v : Vars} {m : Nat}

theorem disconnect_eq (h : Loaded own v m) : rtl8192PciDisconnect (owning own v) =
    (do
      destroyWorkqueue v.privWq .privWq
      rtl8192FreeRxRing
      each rtl8192FreeTxRing maxTxQueueCount
      freeIrq
      assign fun v => { v with irq := 0 }
      unmap
      freeRtllib
      drop .pciDevice : Driver Unit)
      (owning (Function.update (Function.update own .registration false) .firmware false)
        { v with registered := false, pFirmware := false }) := by
  have hreg : release .registration Vars.registered (fun v => { v with registered := false })
      (owning own v) = some ((), owning (Function.update own .registration false)
        { v with registered := false }) :=
    release_apply h.registration fun h0 => by rw [← h0]
  have hfw : release .firmware Vars.pFirmware (fun v => { v with pFirmware := false })
      (owning (Function.update own .registration false) { v with registered := false }) =
      some ((), owning (Function.update (Function.update own .registration false) .firmware false)
        { v with registered := false, pFirmware := false }) :=
    release_apply h.firmware fun h0 => by rw [← h0]
  rw [rtl8192PciDisconnect, bind_of hreg, bind_of hfw, bind_of (look_owning _)]

theorem disconnect_none (h : Loaded own v m) (hwq : own .privWq = false) :
    rtl8192PciDisconnect (owning own v) = none := by
  rw [disconnect_eq h, h.privWq.trans hwq, bind_apply, destroyWorkqueue, if_neg Bool.false_ne_true,
    crash_apply, Option.bind_none]

theorem disconnect_rtllib (h : Loaded own v m) (hpriv : own .privWq = true) : ∃ own' v',
    HasRtllib own' v' ∧ own' .softmacWq = own .softmacWq ∧ own' .pciDevice = true ∧
    Function.update (withoutRtllib own') .pciDevice false =
      (fun r => decide (r = .irq) && own .irq && decide (v.irq = 0)) ∧
    rtl8192PciDisconnect (owning own v) =
      (do freeRtllib; drop .pciDevice : Driver Unit) (owning own' v') := by
  -- What is left for `free_rtllib`.
  let own₁ := withoutFirmware own
  let v₁ : Vars := { v with registered := false, pFirmware := false }
  let own₂ := withRings own₁ false never never
  let v₂ : Vars := v₁.setRings ⟨false, between 0 m, never⟩
  let own₃ := withoutMemory (withoutIrq own₂ v₂)
  let v₃ : Vars := { v₂ with irq := 0 }
  have hheld : Function.update (Function.update own .registration false) .firmware false .privWq =
      true := hpriv
  have hdestroy : destroyWorkqueue v.privWq .privWq
      (owning (Function.update (Function.update own .registration false) .firmware false) v₁) =
      some ((), owning own₁ v₁) := by
    have hown : Function.update (Function.update (Function.update own .registration false) .firmware
        false) .privWq false = own₁ := by
      funext r
      cases r <;> simp [own₁, withoutFirmware, Function.update]
    rw [h.privWq.trans hpriv, destroyWorkqueue, if_pos rfl, drop_owning hheld, hown]
  have hrings : owning own₁ v₁ =
      owning (withRings own₁ true (between 0 m) (between 0 maxTxQueueCount))
        (v₁.setRings ⟨true, between 0 m, between 0 maxTxQueueCount⟩) := by
    have hown : withRings own₁ true (between 0 m) (between 0 maxTxQueueCount) = own₁ := by
      funext r
      have hr := congrFun h.ownRings r
      cases r with
      | rxRing => exact hr
      | rxBuf i => exact hr
      | txRing i => exact hr
      | _ => rfl
    rw [hown, ← h.rings]
    rfl
  have hirq : freeIrq (owning own₂ v₂) = some ((), owning (withoutIrq own₂ v₂) v₂) :=
    freeIrq_apply h.irq
  have hunmap : unmap (owning (withoutIrq own₂ v₂) v₃) = some ((), owning own₃ v₃) :=
    unmap_apply h.memStart h.region
  have hrtllib : HasRtllib own₃ v₃ := { h.toHasRtllib with }
  have hrest : Function.update (withoutRtllib own₃) .pciDevice false =
      fun r => decide (r = .irq) && own .irq && decide (v.irq = 0) := by
    funext r
    cases r <;> simp [own₃, own₂, own₁, v₂, v₁, Function.update, withoutRtllib, withoutMemory,
      withoutIrq, withRings, withoutFirmware, never, h.mapping, Vars.setRings]
  refine ⟨own₃, v₃, hrtllib, rfl, h.pciDevice, hrest, ?_⟩
  rw [disconnect_eq h, bind_of hdestroy, hrings, bind_of (rtl8192FreeRxRing_apply _ _ _ _ h.bufs),
    bind_of (freeAllTxRings_apply ..), bind_of hirq, bind_of (assign_owning _), bind_of hunmap]

theorem disconnect_no_softmacWq (h : Loaded own v m) (hpriv : own .privWq = true)
    (hwq : own .softmacWq = false) : rtl8192PciDisconnect (owning own v) = none := by
  obtain ⟨own', v', hrtllib, hsame, -, -, heq⟩ := disconnect_rtllib h hpriv
  rw [heq, bind_apply, freeRtllib_none hrtllib (hsame.trans hwq), Option.bind_none]

theorem disconnect_apply (h : Loaded own v m) (hpriv : own .privWq = true)
    (hwq : own .softmacWq = true) : ∃ v', rtl8192PciDisconnect (owning own v) =
    some ((), owning (fun r => decide (r = .irq) && own .irq && decide (v.irq = 0)) v') := by
  obtain ⟨own', v', hrtllib, hsame, hpci, hrest, heq⟩ := disconnect_rtllib h hpriv
  have hpci' : withoutRtllib own' .pciDevice = true := hpci
  refine ⟨{ v' with pHTInfo := false, pDot11dInfo := false, networks := false }, ?_⟩
  rw [heq, bind_of (freeRtllib_apply hrtllib (hsame.trans hwq)), drop_owning hpci', hrest]

end

/-! ## From the first to the last -/

section
variable {k : Kernel} {v : Vars}

/-- What is to be shown of a card -/
def Accounted (k : Kernel) (result : Option (Int × Holding Res Vars)) : Prop :=
  if crashes k then result = none else ∃ v', result = some (errno k, owning (leaks k) v')

theorem session_of_probe {err : Int} {s : Holding Res Vars} (herr : err ≠ 0)
    (h : rtl8192PciProbe k (owning nothing v) = some (err, s)) :
    session k (owning nothing v) = some (err, s) := by
  rw [session, bind_of h]
  simp [herr]

theorem accounted_enable (hen : k.enable = false) : Accounted k (session k (owning nothing v)) := by
  have hprobe : rtl8192PciProbe k (owning nothing v) = some (-eio, owning nothing v) := by
    simp [rtl8192PciProbe, hen]
  have hleaks : leaks k = nothing := by
    funext r
    cases r <;> simp [leaks, attaches, enters, nothing, hen]
  have herr : errno k = -eio := by simp [errno, hen]
  rw [session_of_probe (by decide) hprobe]
  simp [Accounted, crashes, attaches, hen, hleaks, herr]

theorem accounted_attach (hen : k.enable = true) (hnet : (k.etherdev && k.networks) = false) :
    Accounted k (session k (owning nothing v)) := by
  -- There is no memory for the device or for the networks.
  obtain ⟨v', halloc⟩ := allocRtllib_false k v hnet
  have hprobe : rtl8192PciProbe k (owning nothing v) = some (-enomem, owning enabled v') := by
    have hpci : nothing .pciDevice = false := rfl
    have hstart : Function.update nothing .pciDevice true = enabled := rfl
    simp only [rtl8192PciProbe, hen, if_true, bind_of (take_owning hpci), hstart, bind_of halloc,
      Bool.false_eq_true, if_false, pure_apply]
  have hatt : attaches k = false := by rw [attaches, Bool.and_assoc, hnet, Bool.and_false]
  have hleaks : leaks k = enabled := by
    funext r
    cases r <;> simp [leaks, enters, enabled, Function.update, hatt, hen, hnet]
  have herr : errno k = -enomem := by simp [errno, hen, hnet]
  rw [session_of_probe (by decide) hprobe]
  simp [Accounted, crashes, hatt, hleaks, herr]

section
variable (hen : k.enable = true) (hdev : k.etherdev = true) (hnet : k.networks = true)
include hen hdev hnet

theorem accounted_dot11d (hdot : k.dot11d = false) : Accounted k (session k (owning nothing v)) := by
  have hpci : nothing .pciDevice = false := rfl
  have hstart : Function.update nothing .pciDevice true = enabled := rfl
  have hprobe : rtl8192PciProbe k (owning nothing v) = none := by
    rw [rtl8192PciProbe, if_pos hen, bind_of (take_owning hpci), hstart, bind_apply,
      allocRtllib_none k v hdev hnet hdot, Option.bind_none]
  have hcrash : crashes k = true := by simp [crashes, attaches, hen, hdev, hnet, hdot]
  rw [Accounted, if_pos hcrash, session, bind_apply, hprobe, Option.bind_none]

theorem accounted_htInfo (hdot : k.dot11d = true) (hht : k.htInfo = false) :
    Accounted k (session k (owning nothing v)) := by
  -- `alloc_rtllib` returns without giving anything back.
  have hpci : nothing .pciDevice = false := rfl
  have hstart : Function.update nothing .pciDevice true = enabled := rfl
  have halloc := allocRtllib_apply k v hdev hnet hdot
  rw [hht] at halloc
  have hprobe : rtl8192PciProbe k (owning nothing v) =
      some (-enomem, owning (attachedOwn k) (attachedVars k v)) := by
    simp only [rtl8192PciProbe, hen, if_true, bind_of (take_owning hpci), hstart, bind_of halloc,
      Bool.false_eq_true, if_false, pure_apply]
  have hleaks : leaks k = attachedOwn k := by
    funext r
    cases r <;> simp [leaks, attaches, enters, attachedOwn, hen, hdev, hnet, hht]
  have herr : errno k = -enomem := by simp [errno, hen, hht]
  have hcrash : crashes k = false := by simp [crashes, attaches, hen, hdev, hnet, hdot, hht]
  rw [session_of_probe (by decide) hprobe]
  simp [Accounted, hcrash, hleaks, herr]

variable (hdot : k.dot11d = true) (hht : k.htInfo = true)
include hdot hht

theorem accounted_fail {own : Res → Bool} {v' : Vars} (h : Attached own v')
    (hprobe : rtl8192PciProbe k (owning nothing v) = fail1 (owning own v'))
    (hwq : own .softmacWq = k.softmacWq) (hloads : loads k = false) (hleaks : leaks k = remains own v') :
    Accounted k (session k (owning nothing v)) := by
  -- The driver gives up at `fail` or `fail1`.
  have hcrash : crashes k = !k.softmacWq := by
    simp [crashes, attaches, hen, hdev, hnet, hdot, hht, hloads]
  have herr : errno k = -enodev := by simp [errno, hen, hdev, hnet, hht, hloads]
  cases hsoft : k.softmacWq with
  | false =>
    have hc : crashes k = true := by rw [hcrash, hsoft, Bool.not_false]
    rw [Accounted, if_pos hc, session, bind_apply, hprobe, fail1_none h (hwq.trans hsoft),
      Option.bind_none]
  | true =>
    have hc : ¬ crashes k = true := by rw [hcrash, hsoft, Bool.not_true]; exact Bool.false_ne_true
    obtain ⟨v'', hfail⟩ := fail1_apply h (hwq.trans hsoft)
    rw [Accounted, if_neg hc, herr, hleaks]
    exact ⟨v'', session_of_probe (by decide) (hprobe.trans hfail)⟩

theorem accounted_region (hmem : (k.isMem && k.memRegion) = false) :
    Accounted k (session k (owning nothing v)) := by
  have hprobe := probe_eq (v := v) hen hdev hnet hdot hht
  have henters : enters k = false := by simp_all [enters, and_assoc]
  have hleaks : leaks k = remains (attachedOwn k) (attachedVars k v) := by
    funext r
    cases r <;> simp_all [leaks, attaches, remains, attachedOwn]
  rw [hmem, if_neg Bool.false_ne_true] at hprobe
  exact accounted_fail hen hdev hnet hdot hht (attached_attached hht) hprobe rfl
    (by simp [loads, henters]) hleaks

variable (hmem : (k.isMem && k.memRegion) = true)
include hmem

theorem accounted_mapping (hmap : k.mapping = false) :
    Accounted k (session k (owning nothing v)) := by
  have hprobe := probe_eq (v := v) hen hdev hnet hdot hht
  have henters : enters k = false := by simp [enters, hmap]
  have hleaks : leaks k =
      remains (Function.update (attachedOwn k) .memRegion true) (attachedVars k v) := by
    funext r
    cases r <;> simp_all [leaks, attaches, remains, attachedOwn, Function.update]
  rw [if_pos hmem, hmap, if_neg Bool.false_ne_true] at hprobe
  have hatt : Attached (Function.update (attachedOwn k) .memRegion true) (attachedVars k v) :=
    { attached_attached (v := v) hht with region := fun _ => rfl }
  exact accounted_fail hen hdev hnet hdot hht hatt hprobe rfl (by simp [loads, henters]) hleaks

variable (hmap : k.mapping = true)
include hmap

theorem accounted_unknown (hknown : (findadapter k.deviceId k.revisionId).2 = false) :
    Accounted k (session k (owning nothing v)) := by
  have hprobe := probe_eq (v := v) hen hdev hnet hdot hht
  have henters : enters k = false := by simp [enters, hknown]
  have hleaks : leaks k = remains (mappedOwn k) (mappedVars k v) := by
    funext r
    cases r <;> simp_all [leaks, attaches, remains, attachedOwn, mappedOwn]
  rw [if_pos hmem, if_pos hmap, hknown, if_neg Bool.false_ne_true] at hprobe
  exact accounted_fail hen hdev hnet hdot hht (attached_mapped hht) hprobe rfl
    (by simp [loads, henters]) hleaks

variable (hknown : (findadapter k.deviceId k.revisionId).2 = true)
include hknown

theorem accounted_init (hfail : (k.irq && ringsFit k) = false) :
    Accounted k (session k (owning nothing v)) := by
  -- `rtl8192_init` fails.
  have henters : enters k = true := by simp_all [enters, attaches]
  have hloads : loads k = false := by rw [loads, Bool.and_assoc, hfail, Bool.and_false]
  obtain ⟨rings, hinit⟩ := rtl8192Init_fails k (fresh_mapped (k := k) (v := v)) hfail
  have hleaks : leaks k = remains (lostOwn (mappedOwn k) k)
      ((initedVars k (mappedVars k v)).setRings rings) := by
    funext r
    cases r with
    | irq =>
      cases hirq : k.irq <;>
        simp [leaks, remains, lostOwn, initedOwn, initedVars, Vars.setRings, henters, hirq]
    | _ =>
      simp [leaks, attaches, remains, attachedOwn, mappedOwn, lostOwn, initedOwn, henters, hloads,
        hen, hdev, hnet, hht, hmap]
  have hprobe := probe_eq (v := v) hen hdev hnet hdot hht
  rw [if_pos hmem, if_pos hmap, if_pos hknown, bind_of hinit, if_neg Bool.false_ne_true] at hprobe
  exact accounted_fail hen hdev hnet hdot hht (attached_lost hht rings) hprobe rfl hloads hleaks

theorem accounted_loads (hirq : k.irq = true) (hfit : ringsFit k = true) :
    Accounted k (session k (owning nothing v)) := by
  -- The driver is loaded, and unloaded again.
  have henters : enters k = true := by simp_all [enters, attaches]
  have hloads : loads k = true := by rw [loads, henters, hirq, hfit]; rfl
  have herr : errno k = 0 := by simp [errno, hen, hdev, hnet, hht, hloads]
  obtain ⟨m, hm, hinit⟩ := rtl8192Init_fits k (fresh_mapped (k := k) (v := v)) hirq hfit
  let own := Function.update (withRings (initedOwn (mappedOwn k) k) true (between 0 m)
    (between 0 maxTxQueueCount)) .registration k.registration
  let v' : Vars :=
    { (initedVars k (mappedVars k v)).setRings ⟨true, between 0 m, between 0 maxTxQueueCount⟩ with
      registered := k.registration }
  have hprobe : rtl8192PciProbe k (owning nothing v) = some (0, owning own v') := by
    rw [probe_eq hen hdev hnet hdot hht, if_pos hmem, if_pos hmap, if_pos hknown, bind_of hinit,
      if_pos rfl]
    have hfree : withRings (initedOwn (mappedOwn k) k) true (between 0 m)
        (between 0 maxTxQueueCount) .registration = false := rfl
    cases hreg : k.registration with
    | true => simp [own, v', hreg, hfree]
    | false =>
      have hsame : Function.update (withRings (initedOwn (mappedOwn k) k) true (between 0 m)
          (between 0 maxTxQueueCount)) .registration false = withRings (initedOwn (mappedOwn k) k)
            true (between 0 m) (between 0 maxTxQueueCount) := by
        rw [← hfree, Function.update_eq_self]
      simp only [own, v', hreg, hsame, Bool.false_eq_true, if_false]
      rfl
  have hloaded : Loaded own v' m :=
    { attached_mapped (v := v) hht with
      irq := fun _ => hirq
      mapping := rfl
      registration := rfl
      firmware := rfl
      privWq := rfl
      bufs := hm
      ownRings := by
        funext r
        cases r <;> rfl
      rings := rfl }
  have hcrash : crashes k = !(k.softmacWq && k.privWq) := by
    simp [crashes, attaches, hen, hdev, hnet, hdot, hht, hloads]
  have hsession : session k (owning nothing v) =
      (do rtl8192PciDisconnect; pure 0 : Driver Int) (owning own v') := by
    rw [session, bind_of hprobe]
    rfl
  rw [Accounted, hsession, bind_apply]
  cases hpriv : k.privWq with
  | false =>
    have hc : crashes k = true := by rw [hcrash, hpriv, Bool.and_false, Bool.not_false]
    rw [if_pos hc, disconnect_none hloaded hpriv, Option.bind_none]
  | true =>
    cases hsoft : k.softmacWq with
    | false =>
      have hc : crashes k = true := by rw [hcrash, hsoft, Bool.false_and, Bool.not_false]
      rw [if_pos hc, disconnect_no_softmacWq hloaded hpriv hsoft, Option.bind_none]
    | true =>
      have hc : ¬ crashes k = true := by rw [hcrash, hpriv, hsoft]; exact Bool.false_ne_true
      obtain ⟨v'', hdisconnect⟩ := disconnect_apply hloaded hpriv hsoft
      have hleaks : leaks k = fun r => decide (r = .irq) && own .irq && decide (v'.irq = 0) := by
        obtain ⟨hrx, hlost⟩ := ringsFit_spec hfit
        funext r
        cases r <;> simp [leaks, own, v', attaches, withRings, initedOwn, initedVars, Vars.setRings,
          henters, hloads, hen, hdev, hnet, hht, hmap, hirq, hrx, hlost]
      rw [if_neg hc, hdisconnect, Option.bind_some, herr, hleaks]
      exact ⟨v'', rfl⟩

end

theorem session_accounted (k : Kernel) (v : Vars) :
    Accounted k (session k (owning nothing v)) := by
  -- Any card, whatever the kernel answers.
  cases hen : k.enable with
  | false => exact accounted_enable hen
  | true =>
  cases hnet : k.etherdev && k.networks with
  | false => exact accounted_attach hen hnet
  | true =>
  obtain ⟨hdev, hnet⟩ := Bool.and_eq_true_iff.mp hnet
  cases hdot : k.dot11d with
  | false => exact accounted_dot11d hen hdev hnet hdot
  | true =>
  cases hht : k.htInfo with
  | false => exact accounted_htInfo hen hdev hnet hdot hht
  | true =>
  cases hmem : k.isMem && k.memRegion with
  | false => exact accounted_region hen hdev hnet hdot hht hmem
  | true =>
  cases hmap : k.mapping with
  | false => exact accounted_mapping hen hdev hnet hdot hht hmem hmap
  | true =>
  cases hknown : (findadapter k.deviceId k.revisionId).2 with
  | false => exact accounted_unknown hen hdev hnet hdot hht hmem hmap hknown
  | true =>
  cases hfit : k.irq && ringsFit k with
  | false => exact accounted_init hen hdev hnet hdot hht hmem hmap hknown hfit
  | true =>
  obtain ⟨hirq, hfit⟩ := Bool.and_eq_true_iff.mp hfit
  exact accounted_loads hen hdev hnet hdot hht hmem hmap hknown hirq hfit

end

end Rtl8190.Lifecycle
