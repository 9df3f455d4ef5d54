import Rtl8190.Lib.Registers
import Rtl8190.Lib.Run
import Rtl8190.Types

/-!
# The registers of the link

`rtl8192_link_change` and `rtl8192e_SetHwReg` (`rtl8192e.c`), `rtl8192_update_msr` and
`MgntDisconnect` (`rtl_core.c`), and the end of `rtllib_start_ibss_wq` (`rtllib_softmac.c`). The
registers of the rates and of the security engine, which link changes also write, are left out.
-/

open Rtl8190.Memory Rtl8190.Registers

namespace Rtl8190.Link

/-! ## Registers -/

def bssidr : Nat := 0x02E
def rcr : Nat := 0x044
def bcnTcfg : Nat := 0x062
def bcnInterval : Nat := 0x070
def atimwnd : Nat := 0x072
def bcnDrvEarlyInt : Nat := 0x074
def bcnDmatime : Nat := 0x076
def bcnErrThresh : Nat := 0x078
def msr : Nat := 0x303

def rcrCbssid : BitVec 32 := 1 <<< 23

def msrLinkMask : Byte := 0x03
def msrLinkNone : Byte := 0
def msrLinkAdhoc : Byte := 1
def msrLinkManaged : Byte := 2
def msrLinkMaster : Byte := 3

/-! ## Data -/

/-- What `struct rtllib_device` says of the link. -/
structure Net where
  iwMode : IwMode
  state : RtllibState
  /-- the six bytes of `current_network.bssid` -/
  bssid : Nat → Byte
  beaconInterval : BitVec 16

structure Device where
  regs : Regs
  receiveConfig : BitVec 32
  net : Net

/-! ## Link changes -/

/-- The registers that `rtl8192_net_update` writes in ad hoc mode; `BcnCW` is 6 and `BcnIFS` 0xf. -/
def writeBeaconRegs (beaconInterval : BitVec 16) (regs : Regs) : Regs :=
  let regs := store 2 regs atimwnd (2 : BitVec 16)
  let regs := store 2 regs bcnDmatime (256 : BitVec 16)
  let regs := store 2 regs bcnInterval beaconInterval
  let regs := store 2 regs bcnDrvEarlyInt (10 : BitVec 16)
  let regs := store 1 regs bcnErrThresh (100 : BitVec 8)
  store 2 regs bcnTcfg (6 <<< 8 ||| 0xf : BitVec 16)

def rtl8192NetUpdate (d : Device) : Device :=
  let net := d.net
  let regs := store 4 d.regs bssidr (load32 net.bssid 0)
  let regs := store 2 regs (bssidr + 4) (load16 net.bssid 4)
  { d with
    regs := if net.iwMode = .adhoc then writeBeaconRegs net.beaconInterval regs else regs }

def rtl8192UpdateMsr (d : Device) : Device :=
  let linked := d.net.state = .linked
  let btMsr := d.regs msr &&& ~~~msrLinkMask
  let btMsr :=
    match d.net.iwMode with
    | .infra => btMsr ||| (if linked then msrLinkManaged else msrLinkNone)
    | .adhoc => btMsr ||| (if linked then msrLinkAdhoc else msrLinkNone)
    | .master => btMsr ||| (if linked then msrLinkMaster else msrLinkNone)
    | .monitor => btMsr
  { d with regs := store 1 d.regs msr btMsr }

/-- The end of `rtl8192_link_change`, which updates `RCR`. -/
def updateRcr (d : Device) : Device :=
  if d.net.iwMode = .infra ∨ d.net.iwMode = .adhoc then
    let reg := load32 d.regs rcr
    let reg := if d.net.state = .linked then reg ||| rcrCbssid else reg &&& ~~~rcrCbssid
    { d with receiveConfig := reg, regs := store 4 d.regs rcr reg }
  else d

def rtl8192LinkChange (d : Device) : Device :=
  let d := if d.net.state = .linked then rtl8192NetUpdate d
    else { d with regs := store 1 d.regs 0x173 (0 : BitVec 8) }
  updateRcr (rtl8192UpdateMsr d)

/-! ## Hardware variables -/

inductive HwVar where
  | bssid
  | mediaStatus
  | cechkBssid
  deriving DecidableEq, Repr

def opModeMsr (opMode : BitVec 32) : Byte :=
  match opMode.toNat with
  | 0 => msrLinkMaster
  | 1 => msrLinkManaged
  | 2 => msrLinkAdhoc
  | _ => msrLinkNone

/-- `rtl8192e_SetHwReg`, with the memory that `val` points to. -/
def rtl8192eSetHwReg (v : HwVar) (val : Nat → Byte) (d : Device) : Device :=
  match v with
  | .bssid =>
    let regs := store 4 d.regs bssidr (load32 val 0)
    { d with regs := store 2 regs (bssidr + 2) (load16 val 2) }
  | .mediaStatus =>
    let btMsr := d.regs msr &&& 0xfc
    { d with regs := store 1 d.regs msr (btMsr ||| opModeMsr (load32 val 0)) }
  | .cechkBssid =>
    let regRCR := load32 d.regs rcr
    let type := val 0
    let regRCR := if type = 1 then regRCR ||| rcrCbssid
      else if type = 0 then regRCR &&& ~~~rcrCbssid
      else regRCR
    { d with regs := store 4 d.regs rcr regRCR, receiveConfig := regRCR }

/-! ## Disconnecting -/

def local8 (b : Byte) (stack : Nat → Byte) : Nat → Byte
  | 0 => b
  | i + 1 => stack i

def rtOpModeNoLink : Byte := 3

def mgntDisconnectIBSS (stack : Nat → Byte) (d : Device) : Device :=
  let d := { d with
    net := { d.net with state := .nolink, bssid := fun i => if i < 6 then 0x55 else d.net.bssid i } }
  let d := rtl8192eSetHwReg .bssid d.net.bssid d
  let d := rtl8192eSetHwReg .mediaStatus (local8 rtOpModeNoLink stack) d
  rtl8192eSetHwReg .cechkBssid (local8 0 stack) d

/-- `MlmeDisassociateRequest` for `current_network.bssid`, which it copies onto itself. `memcpy`
returns its first argument, so the test for `NULL` fails. -/
def mlmeDisassociateRequest (d : Device) : Device := d

def mgntDisconnectAP (stack : Nat → Byte) (d : Device) : Device :=
  let d := rtl8192eSetHwReg .cechkBssid (local8 0 stack) d
  let d := mlmeDisassociateRequest d
  { d with net := { d.net with state := .nolink } }

def mgntDisconnect (stack : Nat → Byte) (d : Device) : Device :=
  if d.net.state = .linked then
    let d := if d.net.iwMode = .adhoc then mgntDisconnectIBSS stack d else d
    if d.net.iwMode = .infra then mgntDisconnectAP stack d else d
  else d

/-! ## Starting an IBSS -/

def stateNumber : RtllibState → BitVec 32
  | .nolink => 0
  | .associating => 1
  | .associatingRetry => 2
  | .associatingAuthenticating => 3
  | .associatingAuthenticated => 4
  | .linked => 5
  | .linkedScanning => 6

/-- `rtllib_start_ibss_wq` after the search for the cell. It hands out a pointer to `ieee->state` as
one to an `RT_OP_MODE`. -/
def rtllibStartIbssWq (d : Device) : Device :=
  let d := rtl8192eSetHwReg .mediaStatus
    (fun i => (stateNumber d.net.state).extractLsb' (8 * i) 8) d
  rtl8192LinkChange { d with net := { d.net with state := .linked } }

/-! ## Runs -/

inductive Event where
  /-- Other code has set up `net` and calls `rtl8192_link_change`. -/
  | linkChange (net : Net)
  | setHwReg (v : HwVar) (val : Nat → Byte)
  | mgntDisconnect (stack : Nat → Byte)
  | startIbss (net : Net)

def step (d : Device) : Event → Device
  | .linkChange net => rtl8192LinkChange { d with net := net }
  | .setHwReg v val => rtl8192eSetHwReg v val d
  | .mgntDisconnect stack => mgntDisconnect stack d
  | .startIbss net => rtllibStartIbssWq { d with net := net }

end Rtl8190.Link
