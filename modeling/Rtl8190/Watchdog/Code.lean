import Mathlib.Data.BitVec
import Rtl8190.Lib.Trace

/-!
# Is the card stuck?

`rtl819x_watchdog_wqcallback` up to the decision on a reset, with `rtl819x_ifcheck_resetornot` and
the checks below it (`rtl_core.c`). The counts of how long a frame has waited, `nStuckCount`, are
left out; nothing reads them. So is `RESET_TYPE_NORMAL`, which no check returns.
-/

namespace Rtl8190.Watchdog

def maxTxQueue : Nat := 9
def txcmdQueue : Nat := 5

def rateAdaptiveTHHigh : Int := 50
def rateAdaptiveTHLow20M : Int := 30
def rateAdaptiveTHLow40M : Int := 10
def veryLowRSSI : Int := 15

inductive ResetType where
  | noReset
  | silent
  deriving DecidableEq, Repr

/-- What a round finds in the rest of the driver, when it gets to the check -/
structure Round where
  up : Bool
  bHwRadioOff : Bool
  isRoaming : Bool
  rfChangeInProgress : Bool
  bSwRfProcessing : Bool
  bDisableNormalResetCheck : Bool
  /-- An `ioctl` asks for a reset. -/
  forceReset : Bool
  /-- `eRFPowerState == eRfOn` -/
  rfOn : Bool
  /-- `iw_mode == IW_MODE_INFRA` -/
  infra : Bool
  /-- `state == RTLLIB_LINKED` -/
  linked : Bool
  queueLen : Nat → Nat
  /-- Register `0x128`, where the firmware counts what it sends -/
  regTxCounter : BitVec 16
  /-- Register `0x130`, where it counts what it receives -/
  regRxCounter : BitVec 16
  undecoratedSmoothedPwdb : Int
  /-- `CurrentChannelBW == HT_CHANNEL_WIDTH_20` -/
  channelWidth20 : Bool

/-- `rx_chk_cnt` and `check_reset_cnt` are static variables of the functions. -/
structure State where
  txCounter : BitVec 16
  rxCounter : BitVec 16
  rxChkCnt : BitVec 8
  checkResetCnt : BitVec 8
  deriving DecidableEq, Repr

/-- What can be seen of a round: the counters that it compares, and whether it goes on to
`rtl819x_ifsilentreset` -/
inductive Seen where
  | tx (regTxCounter : BitVec 16)
  | rx (regRxCounter : BitVec 16)
  | reset
  deriving DecidableEq, Repr

def Seen.tx? : Seen → Option (BitVec 16)
  | .tx c => some c
  | _ => none

def Seen.rx? : Seen → Option (BitVec 16)
  | .rx c => some c
  | _ => none

def halTxCheckStuck819xPci (r : Round) (s : State) : Bool × State × List Seen :=
  (s.txCounter = r.regTxCounter, { s with txCounter := r.regTxCounter }, [.tx r.regTxCounter])

/-- `bCheckFwTxCnt`: something waits in a queue that is not for commands. -/
def Round.checkFwTxCnt (r : Round) : Bool :=
  (List.range maxTxQueue).any fun queueID => queueID ≠ txcmdQueue ∧ r.queueLen queueID ≠ 0

def txCheckStuck (r : Round) (s : State) : ResetType × State × List Seen :=
  if r.checkFwTxCnt then
    let (stuck, s, seen) := halTxCheckStuck819xPci r s
    (if stuck then .silent else .noReset, s, seen)
  else (.noReset, s, [])

/-- How many rounds there are to one check; the weaker the signal, the more -/
def Round.rxPeriod (r : Round) : BitVec 8 :=
  if r.undecoratedSmoothedPwdb ≥ rateAdaptiveTHHigh + 5 then 0
  else if r.undecoratedSmoothedPwdb < rateAdaptiveTHHigh + 5 ∧
      (!r.channelWidth20 ∧ r.undecoratedSmoothedPwdb ≥ rateAdaptiveTHLow40M ∨
        r.channelWidth20 ∧ r.undecoratedSmoothedPwdb ≥ rateAdaptiveTHLow20M) then 2
  else if (!r.channelWidth20 ∧ r.undecoratedSmoothedPwdb < rateAdaptiveTHLow40M ∨
        r.channelWidth20 ∧ r.undecoratedSmoothedPwdb < rateAdaptiveTHLow20M) ∧
      r.undecoratedSmoothedPwdb ≥ veryLowRSSI then 4
  else 8

def halRxCheckStuck8190Pci (r : Round) (s : State) : Bool × State × List Seen :=
  let rxChkCnt := s.rxChkCnt + 1
  if rxChkCnt < r.rxPeriod then (false, { s with rxChkCnt := rxChkCnt }, [])
  else
    (s.rxCounter = r.regRxCounter, { s with rxChkCnt := 0, rxCounter := r.regRxCounter },
      [.rx r.regRxCounter])

def rxCheckStuck (r : Round) (s : State) : ResetType × State × List Seen :=
  let (stuck, s, seen) := halRxCheckStuck8190Pci r s
  (if stuck then .silent else .noReset, s, seen)

def rtl819xIfcheckResetornot (r : Round) (s : State) : ResetType × State × List Seen :=
  let (txResetType, s, seen) := if r.rfOn then txCheckStuck r s else (.noReset, s, [])
  let (rxResetType, s, seen') :=
    if r.rfOn ∧ r.infra ∧ r.linked then rxCheckStuck r s else (.noReset, s, [])
  (if txResetType = .silent ∨ rxResetType = .silent then .silent else .noReset, s, seen ++ seen')

def rtl819xWatchdogWqcallback (s : State) (r : Round) : State × List Seen :=
  if !r.up || r.bHwRadioOff then (s, [])
  else
    let checkResetCnt := s.checkResetCnt
    let s := { s with checkResetCnt := s.checkResetCnt + 1 }
    let (resetType, s, seen) :=
      if checkResetCnt ≥ 3 ∧ !r.isRoaming ∧ !r.rfChangeInProgress ∧ !r.bSwRfProcessing then
        let (resetType, s, seen) := rtl819xIfcheckResetornot r s
        (resetType, { s with checkResetCnt := 3 }, seen)
      else (.noReset, s, [])
    (s, seen ++ if r.forceReset ∨ !r.bDisableNormalResetCheck ∧ resetType = .silent then [.reset]
      else [])

end Rtl8190.Watchdog
