import Rtl8190.Lib.Registers
import Rtl8190.Lib.Run
import Rtl8190.Power.Code

/-!
# RF power and its registers

`SetRFPowerState8190` (`r819xE_phy.c`) with the registers that it writes, and the callers of
`MgntActSet_RF_State` for inactive power save (`rtl_ps.c`), compiled with `ENABLE_IPS`. The calls
come one after the other. `rf_chip` is `RF_8256`; the loop that waits for the transmit queues under
`bLeisurePs` ends after a bounded time and changes nothing.
-/

open Rtl8190.Registers

namespace Rtl8190.Power

/-! ## Registers -/

/-- `RT_RF_TYPE_DEF` -/
inductive RfType where
  | rf1T2R
  | rf2T4R
  | rf2T2R
  | rf1T1R
  | rf2T2RGreen
  deriving DecidableEq, Repr

def rFPGA0XARFInterfaceOE : Nat := 0x860
def rFPGA0XCRFInterfaceOE : Nat := 0x868
def rFPGA0AnalogParameter1 : Nat := 0x880
def rFPGA0AnalogParameter4 : Nat := 0x88c
def rOFDM0TRxPathEnable : Nat := 0xc04
def rOFDM1TRxPathEnable : Nat := 0xd04

def rtl8192CalculateBitShift (dwBitMask : BitVec 32) : Nat :=
  ((List.range 32).find? fun i => dwBitMask.getLsbD i).getD 32

def setBBreg (dwRegAddr : Nat) (dwBitMask dwData : BitVec 32) : Field :=
  ⟨dwRegAddr, dwBitMask, dwData <<< rtl8192CalculateBitShift dwBitMask⟩

/-- The writes of `SetRFPowerState8190`, in order. -/
def rfFields (rfType : RfType) : RfPowerState → List Field
  | .eRfOn =>
    match rfType with
    | .rf2T4R =>
      [setBBreg rFPGA0XARFInterfaceOE 0x10 0x1, setBBreg rFPGA0XCRFInterfaceOE 0x10 0x1,
        setBBreg rFPGA0AnalogParameter4 0xf00 0xf, setBBreg rFPGA0AnalogParameter1 0x1e0 0xf,
        setBBreg rOFDM0TRxPathEnable 0xf 0xf, setBBreg rOFDM1TRxPathEnable 0xf 0xf,
        setBBreg rFPGA0AnalogParameter1 0x1e00 0xf]
    | .rf1T2R =>
      [setBBreg rFPGA0XCRFInterfaceOE 0x10 0x1, setBBreg rFPGA0AnalogParameter4 0xc00 0x3,
        setBBreg rFPGA0AnalogParameter1 0x180 0x3, setBBreg rOFDM0TRxPathEnable 0xc 0x3,
        setBBreg rOFDM1TRxPathEnable 0xc 0x3, setBBreg rFPGA0AnalogParameter1 0x1800 0x3]
    | _ => []
  | .eRfSleep | .eRfOff =>
    (if rfType = .rf2T4R then [setBBreg rFPGA0XARFInterfaceOE 0x10 0x0] else []) ++
      [setBBreg rFPGA0XCRFInterfaceOE 0x10 0x0, setBBreg rFPGA0AnalogParameter4 0xf00 0x0,
        setBBreg rFPGA0AnalogParameter1 0x1e0 0x0, setBBreg rOFDM0TRxPathEnable 0xf 0x0,
        setBBreg rOFDM1TRxPathEnable 0xf 0x0, setBBreg rFPGA0AnalogParameter1 0x1e00 0x0]

/-! ## The functions -/

structure Rf where
  radio : Radio
  regs : Regs
  setRFPowerStateInProgress : Bool
  bInactivePs : Bool
  bSwRfProcessing : Bool
  isRFOff : Bool
  bInPowerSaveMode : Bool
  /-- The state that the last effective `SetRFPowerState8190` set; the driver does not keep it. -/
  lastSet : Option RfPowerState

variable (rfType : RfType)

def setRFPowerState8190 (st : RfPowerState) (s : Rf) : Rf × Bool :=
  if s.setRFPowerStateInProgress then (s, false)
  else
    ({ s with
        regs := (rfFields rfType st).foldl Field.write s.regs
        radio := { s.radio with eRFPowerState := st }
        lastSet := some st
        setRFPowerStateInProgress := false }, true)

def setRFPowerState (st : RfPowerState) (s : Rf) : Rf × Bool :=
  if st = s.radio.eRFPowerState then (s, false) else setRFPowerState8190 rfType st s

/-- `MgntActSet_RF_State`; `refused` if `RFChangeInProgress` stays set for too long. -/
def mgntActSetRFState (refused : Bool) (req : RfRequest) (s : Rf) : Rf × Bool :=
  if refused then (s, false)
  else
    match req.stateToSet with
    | .eRfOn =>
      let (r, bActionAllowed, bConnectBySSID) := requestOn s.radio req.changeSource
      let s := { s with radio := r }
      if bActionAllowed then
        let s := (setRFPowerState rfType .eRfOn s).1
        if bConnectBySSID ∧ s.radio.blinkedInGpio then
          ({ s with radio := { s.radio with associateQueued := true, blinkedInGpio := false } },
            true)
        else (s, true)
      else (s, false)
    | .eRfOff =>
      ((setRFPowerState rfType .eRfOff { s with radio := requestOff s.radio req.changeSource }).1,
        true)
    | .eRfSleep =>
      let r := { s.radio with rfOffReason := s.radio.rfOffReason ||| req.changeSource }
      ((setRFPowerState rfType .eRfSleep { s with radio := r }).1, true)

def inactivePsWorkItemCallback (refused : Bool) (eInactivePowerState : RfPowerState) (s : Rf) : Rf :=
  let s := { s with bSwRfProcessing := true }
  let s := (mgntActSetRFState rfType refused ⟨eInactivePowerState, rfChangeByIps⟩ s).1
  { s with bSwRfProcessing := false }

/-- The conditions of `IPSEnter`. -/
def Rf.EntersIps (s : Rf) : Prop :=
  s.bInactivePs ∧ s.radio.eRFPowerState = .eRfOn ∧ ¬ s.bSwRfProcessing ∧
    s.radio.state ≠ .linked ∧ s.radio.iwMode ≠ .master

/-- The conditions of `IPSLeave`. -/
def Rf.LeavesIps (s : Rf) : Prop :=
  s.bInactivePs ∧ s.radio.eRFPowerState ≠ .eRfOn ∧ ¬ s.bSwRfProcessing ∧
    s.radio.rfOffReason ≤ rfChangeByIps

instance : DecidablePred Rf.EntersIps := fun s =>
  inferInstanceAs (Decidable (s.bInactivePs ∧ s.radio.eRFPowerState = .eRfOn ∧
    ¬ s.bSwRfProcessing ∧ s.radio.state ≠ .linked ∧ s.radio.iwMode ≠ .master))

instance : DecidablePred Rf.LeavesIps := fun s =>
  inferInstanceAs (Decidable (s.bInactivePs ∧ s.radio.eRFPowerState ≠ .eRfOn ∧
    ¬ s.bSwRfProcessing ∧ s.radio.rfOffReason ≤ rfChangeByIps))

def ipsEnter (refused : Bool) (s : Rf) : Rf :=
  if s.EntersIps then
    inactivePsWorkItemCallback rfType refused .eRfOff
      { s with isRFOff := true, bInPowerSaveMode := true }
  else s

def ipsLeave (refused : Bool) (s : Rf) : Rf :=
  if s.LeavesIps then
    inactivePsWorkItemCallback rfType refused .eRfOn { s with bInPowerSaveMode := false }
  else s

/-! ## Runs -/

inductive RfEvent where
  | setRfState (refused : Bool) (req : RfRequest)
  | ipsEnter (refused : Bool)
  | ipsLeave (refused : Bool)
  /-- Between the calls the mode or the link changes. -/
  | link (iwMode : IwMode) (state : RtllibState)

def rfStep (s : Rf) : RfEvent → Rf
  | .setRfState refused req => (mgntActSetRFState rfType refused req s).1
  | .ipsEnter refused => ipsEnter rfType refused s
  | .ipsLeave refused => ipsLeave rfType refused s
  | .link iwMode state => { s with radio := { s.radio with iwMode := iwMode, state := state } }

end Rtl8190.Power
