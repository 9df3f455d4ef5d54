import Mathlib.Data.BitVec
import Rtl8190.Lib.Resources

/-!
# Loading the driver for a card and unloading it

`rtl8192_pci_probe`, `rtl8192_pci_disconnect` and what they allocate and free (`rtl_core.c`,
`rtllib_module.c`, `rtllib_softmac.c`). Registers, timers and the entries in `debugfs` are left out,
and so is what an interface holds that has been in use: keys, and frames on their way.
-/

open Rtl8190.Resources

namespace Rtl8190.Lifecycle

def maxRxCount : Nat := 64
def maxTxQueueCount : Nat := 9

def eio : Int := 5
def enomem : Int := 12
def enodev : Int := 19

/-- What one card can make the driver hold -/
inductive Res where
  /-- `pci_enable_device` -/
  | pciDevice
  | netdev
  | networks
  | dot11d
  /-- The work queue of `rtllib` -/
  | softmacWq
  | htInfo
  /-- `request_mem_region` -/
  | memRegion
  /-- `ioremap` -/
  | mapping
  | firmware
  /-- The work queue of the driver -/
  | privWq
  | irq
  | rxRing
  | rxBuf (i : Nat)
  | txRing (i : Nat)
  /-- `register_netdev` -/
  | registration
  deriving DecidableEq, Repr

/-- What `pci_alloc_consistent` answers; a ring has to start at a multiple of 256. -/
inductive Ring where
  | null
  | unaligned
  | aligned
  deriving DecidableEq, Repr

inductive NicType where
  | unknown | nic8192E | nic8190P | nic8192SE | nic8192CE | nic8192DE
  deriving DecidableEq, Repr

/-- What the kernel answers while the driver is loaded: what can be had, and what the card says -/
structure Kernel where
  enable : Bool
  etherdev : Bool
  networks : Bool
  dot11d : Bool
  softmacWq : Bool
  htInfo : Bool
  /-- Region 1 of the card is memory. -/
  isMem : Bool
  /-- Where it begins: `pci_resource_start(pdev, 1)` -/
  pmemStart : Nat
  memRegion : Bool
  mapping : Bool
  deviceId : BitVec 16
  revisionId : BitVec 8
  firmware : Bool
  privWq : Bool
  /-- `pdev->irq` -/
  line : Nat
  irq : Bool
  rxRing : Ring
  rxBuf : Nat → Bool
  txRing : Nat → Ring
  registration : Bool

structure Rings where
  rxRing : Bool
  rxBuf : Nat → Bool
  txRing : Nat → Bool

/-- The variables of the driver that say what it holds; a pointer is `true` when it is not null. -/
structure Vars where
  networks : Bool
  pDot11dInfo : Bool
  wq : Bool
  pHTInfo : Bool
  memStart : Bool
  card8192 : NicType
  /-- `priv->ops->nic_type` -/
  nicType : NicType
  pFirmware : Bool
  privWq : Bool
  irq : Nat
  registered : Bool
  rings : Rings

/-- The memory of a new device is cleared. The type in `ops` is not there. -/
def Vars.cleared (v : Vars) : Vars where
  networks := false
  pDot11dInfo := false
  wq := false
  pHTInfo := false
  memStart := false
  card8192 := .unknown
  nicType := v.nicType
  pFirmware := false
  privWq := false
  irq := 0
  registered := false
  rings := ⟨false, fun _ => false, fun _ => false⟩

def Vars.setRings (v : Vars) (rings : Rings) : Vars := { v with rings }

@[simp] theorem Vars.setRings_rings (v : Vars) (rings : Rings) : (v.setRings rings).rings = rings := rfl

@[simp] theorem Vars.setRings_setRings (v : Vars) (rings rings' : Rings) :
    (v.setRings rings).setRings rings' = v.setRings rings' := rfl

abbrev Driver := Prog Res Vars

/-! ## `rtllib` -/

section
variable (k : Kernel)

def rtllibNetworksAllocate : Driver Bool := do
  if ← look Vars.networks then pure true
  else if k.networks then
    take .networks
    assign fun v => { v with networks := true }
    pure true
  else pure false

/-- Whether there is memory for `pDot11dInfo` is asked, but the memory is cleared in any case. -/
def rtllibSoftmacInit : Driver Unit := do
  if k.dot11d then
    take .dot11d
    assign fun v => { v with pDot11dInfo := true }
  else crash
  if k.softmacWq then
    take .softmacWq
    assign fun v => { v with wq := true }

def allocRtllib : Driver Bool := do
  if k.etherdev then
    take .netdev
    assign Vars.cleared
    if ← rtllibNetworksAllocate k then
      rtllibSoftmacInit k
      if k.htInfo then
        take .htInfo
        assign fun v => { v with pHTInfo := true }
        pure true
      else pure false
    else
      drop .netdev
      pure false
  else pure false

end

/-- `destroy_workqueue` of the queue that a pointer names -/
def destroyWorkqueue (wq : Bool) (r : Res) : Driver Unit :=
  if wq then drop r else crash

/-- What a pointer names is freed unless the pointer is null, and the pointer is cleared. -/
def release (r : Res) (pointer : Vars → Bool) (clear : Vars → Vars) : Driver Unit := do
  if ← look pointer then
    drop r
    assign clear

def rtllibSoftmacFree : Driver Unit := do
  release .dot11d Vars.pDot11dInfo fun v => { v with pDot11dInfo := false }
  destroyWorkqueue (← look Vars.wq) .softmacWq

def rtllibNetworksFree : Driver Unit :=
  release .networks Vars.networks fun v => { v with networks := false }

def freeRtllib : Driver Unit := do
  release .htInfo Vars.pHTInfo fun v => { v with pHTInfo := false }
  rtllibSoftmacFree
  rtllibNetworksFree
  drop .netdev

/-! ## The rings -/

def rtl8192FreeRxRing : Driver Unit := do
  each (fun i => do if (← look Vars.rings).rxBuf i then drop (.rxBuf i)) maxRxCount
  if (← look Vars.rings).rxRing then drop .rxRing
  assign fun v => v.setRings { v.rings with rxRing := false }

def rtl8192FreeTxRing (i : Nat) : Driver Unit := do
  if (← look Vars.rings).txRing i then drop (.txRing i)
  assign fun v => v.setRings { v.rings with txRing := Function.update v.rings.txRing i false }

section
variable (k : Kernel)

def allocRxBuf (i : Nat) : Driver Bool := do
  if k.rxBuf i then
    take (.rxBuf i)
    assign fun v => v.setRings { v.rings with rxBuf := Function.update v.rings.rxBuf i true }
    pure true
  else pure false

/-- A ring of fewer buffers than there should be is a ring, too. -/
def rtl8192AllocRxDescRing : Driver Bool := do
  match k.rxRing with
  | .null =>
    assign fun v => v.setRings { v.rings with rxRing := false }
    pure false
  | .unaligned =>
    take .rxRing
    assign fun v => v.setRings { v.rings with rxRing := true }
    pure false
  | .aligned =>
    take .rxRing
    assign fun v => v.setRings { v.rings with rxRing := true }
    let _ ← eachWhile (allocRxBuf k) maxRxCount
    pure true

def rtl8192AllocTxDescRing (i : Nat) : Driver Bool := do
  match k.txRing i with
  | .null => pure false
  | .unaligned =>
    take (.txRing i)
    pure false
  | .aligned =>
    take (.txRing i)
    assign fun v => v.setRings { v.rings with txRing := Function.update v.rings.txRing i true }
    pure true

def rtl8192PciInitdescring : Driver Bool := do
  if ← rtl8192AllocRxDescRing k then
    if ← eachWhile (rtl8192AllocTxDescRing k) maxTxQueueCount then pure true
    else
      rtl8192FreeRxRing
      each (fun i => do if (← look Vars.rings).txRing i then rtl8192FreeTxRing i) maxTxQueueCount
      pure false
  else pure false

/-! ## Loading -/

/-- What `rtl8192_pci_findadapter` finds, and whether it is a card that the driver knows -/
def findadapter (deviceId : BitVec 16) (revisionId : BitVec 8) : NicType × Bool :=
  if deviceId = 0x8190 ∨ deviceId = 0x0045 ∨ deviceId = 0x0046 ∨ deviceId = 0x3304 then
    (.nic8190P, true)
  else if deviceId = 0x8192 ∨ deviceId = 0x0044 ∨ deviceId = 0x0047 ∨ deviceId = 0x8174 ∨
      deviceId = 0x8173 ∨ deviceId = 0x8172 ∨ deviceId = 0x8171 then
    if revisionId = 0x01 then (.nic8192E, true)
    else if revisionId = 0x10 then (.nic8192SE, true)
    else (.unknown, false)
  else if deviceId = 0x8191 ∨ deviceId = 0x8178 ∨ deviceId = 0x8177 ∨ deviceId = 0x8176 then
    (.nic8192CE, true)
  else (.nic8192DE, true)

/-- `ops->nic_type` keeps what it was for the cards of the SE kind and for those it does not know. -/
def rtl8192PciFindadapter : Driver Bool := do
  let (card, known) := findadapter k.deviceId k.revisionId
  assign fun v => { v with
    card8192 := card
    nicType := if card = .nic8192SE ∨ card = .unknown then v.nicType else card }
  pure known

/-- `rtl8192_init`, with `rtl8192_init_priv_variable` and `rtl8192_init_priv_task` -/
def rtl8192Init : Driver Bool := do
  if k.firmware then
    take .firmware
  assign fun v => { v with pFirmware := k.firmware }
  if k.privWq then
    take .privWq
  assign fun v => { v with privWq := k.privWq }
  if k.irq then
    take .irq
    assign fun v => { v with irq := k.line }
    rtl8192PciInitdescring k
  else pure false

def freeIrq : Driver Unit := do
  if (← look Vars.irq) ≠ 0 then drop .irq

/-- `iounmap` and `release_mem_region`, when `dev->mem_start` names the memory -/
def unmap : Driver Unit := do
  if ← look Vars.memStart then
    drop .mapping
    drop .memRegion

def fail : Driver Int := do
  freeIrq
  freeRtllib
  drop .pciDevice
  pure (-enodev)

def fail1 : Driver Int := do
  unmap
  fail

def rtl8192PciProbe : Driver Int := do
  if k.enable then
    take .pciDevice
    if ← allocRtllib k then
      if k.isMem && k.memRegion then
        take .memRegion
        if k.mapping then
          take .mapping
          assign fun v => { v with memStart := true }
          if ← rtl8192PciFindadapter k then
            if ← rtl8192Init k then
              if k.registration then
                take .registration
                assign fun v => { v with registered := true }
              pure 0
            else fail1
          else fail1
        else fail1
      else fail
    else pure (-enomem)
  else pure (-eio)

end

/-! ## Unloading -/

def rtl8192PciDisconnect : Driver Unit := do
  release .registration Vars.registered fun v => { v with registered := false }
  release .firmware Vars.pFirmware fun v => { v with pFirmware := false }
  destroyWorkqueue (← look Vars.privWq) .privWq
  rtl8192FreeRxRing
  each rtl8192FreeTxRing maxTxQueueCount
  freeIrq
  assign fun v => { v with irq := 0 }
  unmap
  freeRtllib
  drop .pciDevice

/-- A card comes and, once the driver has been loaded for it, goes again. -/
def session (k : Kernel) : Driver Int := do
  let err ← rtl8192PciProbe k
  if err = 0 then
    rtl8192PciDisconnect
  pure err

end Rtl8190.Lifecycle
