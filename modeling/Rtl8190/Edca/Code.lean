import Rtl8190.Beacon.Code
import Rtl8190.Lib.Registers
import Rtl8190.Lib.Run

/-!
# EDCA parameters

`rtl8192_qos_association_resp` and `rtl8192_qos_activate` (`rtl_core.c`), and `dm_check_edca_turbo`
(`rtl_dm.c`), on a 64-bit host.
-/

open Rtl8190.Beacon Rtl8190.Memory Rtl8190.Registers

namespace Rtl8190.Edca

/-! ## Registers -/

def edcaparaBe : Nat := 0x50
def edcaparaBk : Nat := 0x54
def edcaparaVo : Nat := 0x58
def edcaparaVi : Nat := 0x5C
def acmHwCtrl : Nat := 0x171

def acmHwBeqEn : Byte := 0x02

def wdcaparaAdd (i : Nat) : Nat := [edcaparaBe, edcaparaBk, edcaparaVi, edcaparaVo].getD i 0

/-! ## Data -/

inductive HtIotPeer where
  | unknown
  | realtek
  | realtek92se
  | broadcom
  | ralink
  | atheros
  | cisco
  | marvell
  | softap92u
  | selfSoftap
  deriving DecidableEq, Repr

def htIotActDisableEdcaTurbo : BitVec 32 := 0x00000020
def htIotActEdcaBiasOnRx : BitVec 32 := 0x00004000

/-- `edca_setting_DL`. The table ends before the last two peers. -/
def edcaSettingDL : HtIotPeer → BitVec 32
  | .unknown | .realtek | .broadcom | .cisco | .marvell => 0x5e4322
  | .realtek92se => 0x5ea44f
  | .ralink => 0x604322
  | .atheros => 0xa44f
  | .softap92u | .selfSoftap => 0

def edcaSettingDLGMode : HtIotPeer → BitVec 32
  | .unknown | .realtek | .realtek92se | .broadcom | .cisco | .marvell => 0x5e4322
  | .ralink => 0x604322
  | .atheros => 0xa44f
  | .softap92u | .selfSoftap => 0

def edcaSettingUL : HtIotPeer → BitVec 32
  | .unknown | .broadcom | .atheros | .cisco | .marvell => 0x5e4322
  | .realtek => 0xa44f
  | .realtek92se => 0x5ea44f
  | .ralink => 0x604322
  | .softap92u | .selfSoftap => 0

/-- What the functions write of `struct r8192_priv` and `struct rtllib_device`. -/
structure Device where
  regs : Regs
  currentNetwork : Network
  wmmAcm : BitVec 32
  bcurrentTurboEDCA : Bool
  bisCurRdlstate : Bool
  bisAnyNonbepkts : Bool
  lastTxOkCnt : BitVec 64
  lastRxOkCnt : BitVec 64

/-- What the functions only read of them. -/
structure Watch where
  iwMode : IwMode
  state : RtllibState
  mode : Byte
  iotAction : BitVec 32
  iotPeer : HtIotPeer
  txbytesunicast : BitVec 64
  rxbytesunicast : BitVec 64

def Device.writeNicDword (d : Device) (a : Nat) (v : BitVec 32) : Device :=
  { d with regs := store 4 d.regs a v }

def Device.writeNicByte (d : Device) (a : Nat) (v : Byte) : Device :=
  { d with regs := store 1 d.regs a v }

/-! ## The parameters of the network -/

/-- `struct rtllib_qos_parameters` copied from `src`. -/
def copyParameters (dst src : QosData) : QosData :=
  { dst with
    cwMin := src.cwMin, cwMax := src.cwMax, aifs := src.aifs, flag := src.flag
    txOpLimit := src.txOpLimit }

def defQosParameters : QosData :=
  { cwMin := fun _ => 3, cwMax := fun _ => 7, aifs := fun _ => 2, flag := fun _ => 0
    txOpLimit := fun _ => 0, wmmAcm := 0, active := false, supported := false, paramCount := 0
    oldParamCount := 0 }

def dmInitEdcaTurbo (d : Device) : Device :=
  { d with bcurrentTurboEDCA := false, bisAnyNonbepkts := false, bisCurRdlstate := false }

def rtl8192QosAssociationResp (w : Watch) (network : Network) (d : Device) : Device :=
  if w.state ≠ .linked then d
  else if w.iwMode ≠ .infra then d
  else
    let q := d.currentNetwork.qosData
    dmInitEdcaTurbo <|
      if network.flags &&& networkHasQosParameters ≠ 0 then
        { d with
          wmmAcm := network.qosData.wmmAcm
          currentNetwork := { d.currentNetwork with
            qosData := { copyParameters q network.qosData with
              active := true
              oldParamCount := q.paramCount
              paramCount := network.qosData.paramCount } } }
      else
        { d with
          currentNetwork := { d.currentNetwork with
            qosData := { copyParameters q defQosParameters with
              active := false, supported := false } } }

/-! ## Activation -/

def slotTime (mode : Byte) : Byte := if mode &&& (ieeeG ||| ieeeN24g) ≠ 0 then 9 else 20

/-- `aSifsTime`, with the mode of the current network. -/
def aSifsTime (mode : Byte) : Byte :=
  if mode = ieeeA ∨ mode = ieeeN24g ∨ mode = ieeeN5g then 16 else 10

def acParam (txOpLimit cwMax cwMin : BitVec 16) (u1bAIFS : Byte) : BitVec 32 :=
  txOpLimit.setWidth 32 <<< 16 ||| cwMax.setWidth 32 <<< 12 ||| cwMin.setWidth 32 <<< 8 |||
    u1bAIFS.setWidth 32

def writeAcParam (mode : Byte) (i a : Nat) (d : Device) : Device :=
  let q := d.currentNetwork.qosData
  let u1bAIFS := q.aifs i * slotTime mode + aSifsTime d.currentNetwork.mode
  d.writeNicDword a (acParam (q.txOpLimit i) (q.cwMax i) (q.cwMin i) u1bAIFS)

def rtl8192QosActivate (w : Watch) (d : Device) : Device :=
  if w.state ≠ .linked then d
  else
    (List.range 4).foldl (fun d i => writeAcParam d.currentNetwork.mode i (wdcaparaAdd i) d) d

/-! ## Turbo -/

def writeUplink (w : Watch) (d : Device) : Device :=
  if d.bisCurRdlstate ∨ ¬ d.bcurrentTurboEDCA then
    { d.writeNicDword edcaparaBe (edcaSettingUL w.iotPeer) with bisCurRdlstate := false }
  else d

def writeDownlink (w : Watch) (d : Device) : Device :=
  if ¬ d.bisCurRdlstate ∨ ¬ d.bcurrentTurboEDCA then
    let setting := if w.mode = ieeeG then edcaSettingDLGMode w.iotPeer else edcaSettingDL w.iotPeer
    { d.writeNicDword edcaparaBe setting with bisCurRdlstate := true }
  else d

/-- The branch of `dm_check_edca_turbo` that turns turbo on, or keeps it on. -/
def turboOn (w : Watch) (d : Device) : Device :=
  let curTxOkCnt := w.txbytesunicast - d.lastTxOkCnt
  let curRxOkCnt := w.rxbytesunicast - d.lastRxOkCnt
  let d :=
    if w.iotAction &&& htIotActEdcaBiasOnRx ≠ 0 then
      if curTxOkCnt > 4 * curRxOkCnt then writeUplink w d else writeDownlink w d
    else
      if curRxOkCnt > 4 * curTxOkCnt then writeDownlink w d else writeUplink w d
  { d with bcurrentTurboEDCA := true }

/-- The branch that restores the parameters of the access point. The ACM bit is looked for in
`aifs[0]`. -/
def restore (w : Watch) (d : Device) : Device :=
  let d := dmInitEdcaTurbo d
  let d := writeAcParam w.mode 0 edcaparaBe d
  let acmCtrl := d.regs acmHwCtrl
  let acmCtrl := if (d.currentNetwork.qosData.aifs 0).getLsbD 4 then acmCtrl ||| acmHwBeqEn
    else acmCtrl &&& ~~~acmHwBeqEn
  { d.writeNicByte acmHwCtrl acmCtrl with bcurrentTurboEDCA := false }

/-- The conditions under which `dm_check_edca_turbo` goes to its end at once. -/
def Watch.exits (w : Watch) : Prop :=
  w.iwMode = .adhoc ∨ w.state ≠ .linked ∨ w.iotAction &&& htIotActDisableEdcaTurbo ≠ 0

instance : DecidablePred Watch.exits := fun w =>
  inferInstanceAs (Decidable (w.iwMode = .adhoc ∨ w.state ≠ .linked ∨
    w.iotAction &&& htIotActDisableEdcaTurbo ≠ 0))

def dmCheckEdcaTurbo (w : Watch) (d : Device) : Device :=
  let d :=
    if w.exits then d
    else if ¬ d.bisAnyNonbepkts then turboOn w d
    else if d.bcurrentTurboEDCA then restore w d
    else d
  { d with
    bisAnyNonbepkts := false
    lastTxOkCnt := w.txbytesunicast
    lastRxOkCnt := w.rxbytesunicast }

/-! ## Runs -/

inductive Event where
  /-- `rtllib_rx` gets a unicast QoS frame with this TID from a network with QoS. -/
  | received (tid : Nat)
  | check (w : Watch)

def step (d : Device) : Event → Device
  | .received tid => if tid ≠ 0 ∧ tid ≠ 3 then { d with bisAnyNonbepkts := true } else d
  | .check w => dmCheckEdcaTurbo w d

end Rtl8190.Edca
