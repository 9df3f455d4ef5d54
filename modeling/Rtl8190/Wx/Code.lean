import Rtl8190.Lib.Semaphore
import Rtl8190.Power.Code

/-!
# Requests of the wireless extensions

The handlers of `rtl_wx.c` with what they call of `rtllib_softmac_wx.c` and `rtllib_wx.c`, as far as
it decides which semaphores they take and release and what they return. `ENABLE_IPS` is set. The
device may change under a handler, so each look at it gets its own copy.
-/

open Rtl8190.Memory Rtl8190.Semaphore Rtl8190.Power

namespace Rtl8190.Wx

inductive Sem where
  /-- `priv->wx_sem` -/
  | privWxSem
  /-- `ieee->ips_sem` -/
  | ipsSem
  /-- `ieee->wx_sem` -/
  | ieeeWxSem
  deriving DecidableEq, Repr

/-- What a look at the device finds. -/
structure Look where
  bHwRadioOff : Bool
  up : Bool
  bBusyTraffic : Bool
  bInactivePs : Bool
  eRFPowerState : RfPowerState
  rfOffReason : RfChangeSource
  state : RtllibState
  iwMode : IwMode
  protoStarted : Bool
  channelMap : Nat → Byte
  /-- `sta_wake_up`, `enter_sleep_state` and `ps_is_queue_empty` are there. -/
  psCallbacks : Bool
  rfSetSens : Option (Int → Int)
  /-- The result of `initialize_adapter`. -/
  adapterStarts : Bool

/-- The looks of one handler, in order. -/
abbrev Looks := Nat → Look

structure Answer where
  ret : Int
  /-- `wx_sync_scan_wq` was queued, and gets `ieee->wx_sem`. -/
  handsOver : Bool
  deriving DecidableEq, Repr

def einval : Int := -22
def enetdown : Int := -100
def eagain : Int := -11
def e2big : Int := -7
def enolink : Int := -67
def eopnotsupp : Int := -95

/-! ## What handlers call -/

/-- `rtllib_ips_leave`, and the same lines elsewhere. -/
def rtllibIpsLeave : Code Sem Unit := do
  down .ipsSem
  up .ipsSem

/-- The RF is turned on for a request if IPS has turned it off. `true` says that something else has,
and the request fails. -/
def leaveInactivePs (l : Look) (rtState : RfPowerState) : Code Sem Bool :=
  if l.bInactivePs ∧ rtState = .eRfOff then
    if l.rfOffReason > rfChangeByIps then pure true
    else do
      rtllibIpsLeave
      pure false
  else pure false

def setKey (l : Look) : Code Sem Unit := do
  let _ ← leaveInactivePs l l.eRFPowerState
  pure ()

def rtllibStopProtocol (l : Look) : Code Sem Unit := if l.protoStarted then rtllibIpsLeave else pure ()

/-- The protocol is stopped if it was started, so that it starts anew with what the request sets. -/
def restart (l : Look) (started : Bool) : Code Sem Int :=
  if started then do
    rtllibStopProtocol l
    pure 0
  else pure 0

def rtllibSoftmacStopProtocol (l : Look) : Code Sem Unit := do
  down .ieeeWxSem
  rtllibStopProtocol l
  up .ieeeWxSem

def rtllibSoftmacStartProtocol : Code Sem Unit := do
  down .ieeeWxSem
  up .ieeeWxSem

def rtl8192Up (l : Look) : Code Sem Unit :=
  if l.adapterStarts ∧ l.state ≠ .linked then rtllibSoftmacStartProtocol else pure ()

def rtl8192Commit (before after : Look) : Code Sem Unit :=
  if before.up then do
    rtllibSoftmacStopProtocol before
    rtl8192Up after
  else pure ()

/-- The work item that `rtllib_wx_set_scan` queues. It scans, and then releases what the request has
taken. -/
def rtllibWxSyncScanWq : Code Sem Unit := up .ieeeWxSem

/-! ## `rtllib_softmac_wx.c` and `rtllib_wx.c` -/

def rtllibWlanFrequencies : List Int :=
  [2412, 2417, 2422, 2427, 2432, 2437, 2442, 2447, 2452, 2457, 2462, 2467, 2472, 2484]

/-- The exponent and the mantissa, after a frequency has become a channel. -/
def freqToChannel (e m : Int) : Int × Int :=
  if e = 1 ∧ 241200000 ≤ m ∧ m ≤ 248700000 then
    (0, (rtllibWlanFrequencies.findIdx (· = m / 100000) : Int) + 1)
  else (e, m)

def rtllibWxSetFreq (l : Look) (e m : Int) : Code Sem Int := do
  down .ieeeWxSem
  let (e, m) := freqToChannel e m
  let ret :=
    if l.iwMode = .infra then 0
    else if e > 0 ∨ m > 14 ∨ m < 1 then eopnotsupp
    else if l.channelMap m.toNat = 0 then einval
    else 0
  up .ieeeWxSem
  pure ret

/-- `ifup` is read before the semaphore is taken. `family` is `sa_family`. -/
def rtllibWxSetWap (before l : Look) (family : Nat) : Code Sem Int := do
  let ifup := before.protoStarted
  down .ieeeWxSem
  let ret ← (if l.iwMode = .master then pure (-1)
    else if family ≠ 1 then pure einval
    else restart l ifup)
  up .ieeeWxSem
  pure ret

def IwMode.ofRequest : Nat → Option IwMode
  | 0 | 2 => some .infra
  | 1 => some .adhoc
  | 6 => some .monitor
  | _ => none

def rtllibWxSetMode (l : Look) (mode : Nat) : Code Sem Int := do
  down .ieeeWxSem
  let ret ← (match IwMode.ofRequest mode with
    | none => pure einval
    | some mode => restart l (decide (mode ≠ l.iwMode) && l.protoStarted))
  up .ieeeWxSem
  pure ret

def rtllibWxSetScan (l : Look) : Code Sem Answer := do
  down .ieeeWxSem
  if l.iwMode = .monitor ∨ l.protoStarted = false then do
    up .ieeeWxSem
    pure ⟨-1, false⟩
  else if l.state = .linked then
    -- Intentionally, the semaphore is kept.
    pure ⟨0, true⟩
  else do
    up .ieeeWxSem
    pure ⟨0, false⟩

def rtllibWxSetEssid (l : Look) : Code Sem Int := do
  down .ieeeWxSem
  let ret ← (if l.iwMode = .monitor then pure (-1) else restart l l.protoStarted)
  up .ieeeWxSem
  pure ret

def rtllibWxSetRawtx : Code Sem Int := do
  down .ieeeWxSem
  up .ieeeWxSem
  pure 0

/-- `mode` is `flags & IW_POWER_MODE`. -/
def rtllibWxSetPower (l : Look) (disabled : Bool) (mode : Nat) : Code Sem Int :=
  if l.psCallbacks = false then pure (-1)
  else do
    down .ieeeWxSem
    let ret := if disabled ∨ mode ∈ [0x000, 0x100, 0x200, 0x300] then 0 else einval
    up .ieeeWxSem
    pure ret

def rtllibWxGetPower : Code Sem Int := do
  down .ieeeWxSem
  up .ieeeWxSem
  pure 0

/-- `full` says that the buffer of the request does not hold all networks. -/
def rtllibWxGetScan (full : Bool) : Code Sem Int := do
  down .ieeeWxSem
  let err := if full then e2big else 0
  up .ieeeWxSem
  pure err

def rtllibWxSetMlme (l : Look) (cmd : Nat) : Code Sem Int :=
  if l.state ≠ .linked then pure enolink
  else do
    down .ieeeWxSem
    if cmd = 0 ∨ cmd = 1 then do
      up .ieeeWxSem
      pure 0
    else do
      up .ieeeWxSem
      pure eopnotsupp

/-! ## `rtl_wx.c` -/

def underWxSem (m : Code Sem Int) : Code Sem Int := do
  down .privWxSem
  let ret ← m
  up .privWxSem
  pure ret

/-- The handlers that set something do nothing while the hardware radio is off. -/
def unlessRadioOff (l : Look) (m : Code Sem Int) : Code Sem Int :=
  if l.bHwRadioOff then pure 0 else m

variable (dev : Looks)

def r8192WxSetRate : Code Sem Int := unlessRadioOff (dev 0) (underWxSem (pure 0))

/-- `ret` is what `rtllib_wx_set_rts` returns. -/
def r8192WxSetRts (ret : Int) : Code Sem Int := unlessRadioOff (dev 0) (underWxSem (pure ret))

def r8192WxSetPower (disabled : Bool) (mode : Nat) : Code Sem Int :=
  unlessRadioOff (dev 0) (underWxSem (rtllibWxSetPower (dev 1) disabled mode))

def r8192WxGetPower : Code Sem Int := rtllibWxGetPower

def r8192WxSetRawtx : Code Sem Int := unlessRadioOff (dev 0) (underWxSem rtllibWxSetRawtx)

def r8192WxForceReset : Code Sem Int := underWxSem (pure 0)

def r8192WxForceMicError : Code Sem Int := underWxSem (pure 0)

def r8192WxAdapterPowerStatus : Code Sem Int := underWxSem (pure 0)

def r8192seWxSetRadio (extra : Byte) : Code Sem Int := do
  down .privWxSem
  if extra ≠ 0 ∧ extra ≠ 1 then pure (-1)
  else do
    up .privWxSem
    pure 0

def r8192seWxSetLpsAwakeInterval : Code Sem Int := underWxSem (pure 0)

def r8192seWxSetForceLps : Code Sem Int := underWxSem (pure 0)

def r8192WxSetMode (mode : Nat) : Code Sem Int :=
  if (dev 0).bHwRadioOff then pure 0
  else do
    down .privWxSem
    let refused ← (if mode = 1 then leaveInactivePs (dev 1) (dev 0).eRFPowerState else pure false)
    if refused then do
      up .privWxSem
      pure (-1)
    else do
      let ret ← rtllibWxSetMode (dev 2) mode
      up .privWxSem
      pure ret

def r8192WxSetScan : Code Sem Answer :=
  if (dev 0).bHwRadioOff then pure ⟨0, false⟩
  else if (dev 0).up = false then pure ⟨enetdown, false⟩
  else if (dev 0).bBusyTraffic then pure ⟨eagain, false⟩
  else do
    down .privWxSem
    if (dev 1).state ≠ .linked then do
      let refused ← leaveInactivePs (dev 1) (dev 0).eRFPowerState
      if refused then do
        up .privWxSem
        pure ⟨-1, false⟩
      else do
        up .privWxSem
        pure ⟨0, false⟩
    else do
      let ret ← rtllibWxSetScan (dev 2)
      up .privWxSem
      pure ret

def r8192WxGetScan (full : Bool) : Code Sem Int :=
  if (dev 0).up = false then pure enetdown
  else unlessRadioOff (dev 0) (underWxSem (rtllibWxGetScan full))

def r8192WxSetEssid : Code Sem Int := unlessRadioOff (dev 0) (underWxSem (rtllibWxSetEssid (dev 1)))

/-- `ret` is what `rtllib_wx_get_essid` returns. -/
def r8192WxGetEssid (ret : Int) : Code Sem Int := underWxSem (pure ret)

def r8192WxSetNick (length : Nat) : Code Sem Int :=
  if length > 32 then pure e2big else underWxSem (pure 0)

def r8192WxGetNick : Code Sem Int := underWxSem (pure 0)

def r8192WxSetFreq (e m : Int) : Code Sem Int :=
  unlessRadioOff (dev 0) (underWxSem (rtllibWxSetFreq (dev 1) e m))

def r8192WxSetWap (family : Nat) : Code Sem Int :=
  unlessRadioOff (dev 0) (underWxSem (rtllibWxSetWap (dev 1) (dev 2) family))

/-- `ret` is what `rtllib_wx_set_encode` returns. -/
def r8192WxSetEnc (disabled : Bool) (length : Nat) (ret : Int) : Code Sem Int :=
  if (dev 0).bHwRadioOff then pure 0
  else if (dev 0).up = false then pure enetdown
  else do
    rtllibIpsLeave
    down .privWxSem
    up .privWxSem
    if disabled = false ∧ (length = 5 ∨ length = 13) then do
      setKey (dev 1)
      pure ret
    else pure ret

/-- The fields of `struct iw_param` for a number of retries. -/
structure Retry where
  lifetime : Bool
  disabled : Bool
  limit : Bool
  value : Int

def r8192WxSetRetry (r : Retry) : Code Sem Int :=
  if (dev 0).bHwRadioOff then pure 0
  else do
    down .privWxSem
    let err ← (if r.lifetime ∨ r.disabled then pure einval
      else if r.limit = false then pure einval
      else if r.value > 255 then pure einval
      else do
        rtl8192Commit (dev 1) (dev 2)
        pure 0)
    up .privWxSem
    pure err

def r8192WxSetSens (value : Int) : Code Sem Int :=
  if (dev 0).bHwRadioOff then pure 0
  else do
    down .privWxSem
    let err := match (dev 1).rfSetSens with
      | none => -1
      | some set => if set value = 0 then 0 else einval
    up .privWxSem
    pure err

/-- `off` says that encryption is turned off. Otherwise one key is set. `ret` is what
`rtllib_wx_set_encode_ext` returns. -/
def r8192WxSetEncExt (off : Bool) (ret : Int) : Code Sem Int :=
  if (dev 0).bHwRadioOff then pure 0
  else do
    down .privWxSem
    rtllibIpsLeave
    (if off then pure () else setKey (dev 1))
    up .privWxSem
    pure ret

/-- `ret` is what `rtllib_wx_set_auth` returns. -/
def r8192WxSetAuth (ret : Int) : Code Sem Int := unlessRadioOff (dev 0) (underWxSem (pure ret))

def r8192WxSetMlme (cmd : Nat) : Code Sem Int :=
  unlessRadioOff (dev 0) (underWxSem (rtllibWxSetMlme (dev 1) cmd))

/-- `ret` is what `rtllib_wx_set_gen_ie` returns. -/
def r8192WxSetGenIe (ret : Int) : Code Sem Int := unlessRadioOff (dev 0) (underWxSem (pure ret))

/-! ## All requests -/

/-- The handlers that neither take a semaphore nor call anything that does. -/
inductive Lockless where
  | getName | getFreq | getMode | getSens | getRange | getWap | getRate | getRts | setFrag | getFrag
  | getRetry | getEnc | getGenIe
  | setDebugflag | setScanType | getFirmVersion | getAdhocPeers
  deriving DecidableEq, Repr

/-- A request to a handler of `r8192_wx_handlers` or `r8192_private_handler`. -/
inductive Request where
  | lockless (h : Lockless) (ret : Int)
  | setFreq (e m : Int)
  | setMode (mode : Nat)
  | setSens (value : Int)
  | setWap (family : Nat)
  | setScan
  | getScan (full : Bool)
  | setEssid
  | getEssid (ret : Int)
  | setNick (length : Nat)
  | getNick
  | setRate
  | setRts (ret : Int)
  | setRetry (r : Retry)
  | setEnc (disabled : Bool) (length : Nat) (ret : Int)
  | setPower (disabled : Bool) (mode : Nat)
  | getPower
  | setGenIe (ret : Int)
  | setMlme (cmd : Nat)
  | setAuth (ret : Int)
  | setEncExt (off : Bool) (ret : Int)
  | setRawtx
  | forceReset
  | forceMicError
  | adapterPowerStatus
  | setRadio (extra : Byte)
  | setLpsAwakeInterval
  | setForceLps

/-- A handler that keeps no semaphore for others. -/
def returning (m : Code Sem Int) : Code Sem Answer := do
  let ret ← m
  pure ⟨ret, false⟩

def handle : Request → Code Sem Answer
  | .lockless _ ret => pure ⟨ret, false⟩
  | .setFreq e m => returning (r8192WxSetFreq dev e m)
  | .setMode mode => returning (r8192WxSetMode dev mode)
  | .setSens value => returning (r8192WxSetSens dev value)
  | .setWap family => returning (r8192WxSetWap dev family)
  | .setScan => r8192WxSetScan dev
  | .getScan full => returning (r8192WxGetScan dev full)
  | .setEssid => returning (r8192WxSetEssid dev)
  | .getEssid ret => returning (r8192WxGetEssid ret)
  | .setNick length => returning (r8192WxSetNick length)
  | .getNick => returning r8192WxGetNick
  | .setRate => returning (r8192WxSetRate dev)
  | .setRts ret => returning (r8192WxSetRts dev ret)
  | .setRetry r => returning (r8192WxSetRetry dev r)
  | .setEnc disabled length ret => returning (r8192WxSetEnc dev disabled length ret)
  | .setPower disabled mode => returning (r8192WxSetPower dev disabled mode)
  | .getPower => returning r8192WxGetPower
  | .setGenIe ret => returning (r8192WxSetGenIe dev ret)
  | .setMlme cmd => returning (r8192WxSetMlme dev cmd)
  | .setAuth ret => returning (r8192WxSetAuth dev ret)
  | .setEncExt off ret => returning (r8192WxSetEncExt dev off ret)
  | .setRawtx => returning (r8192WxSetRawtx dev)
  | .forceReset => returning r8192WxForceReset
  | .forceMicError => returning r8192WxForceMicError
  | .adapterPowerStatus => returning r8192WxAdapterPowerStatus
  | .setRadio extra => returning (r8192seWxSetRadio extra)
  | .setLpsAwakeInterval => returning r8192seWxSetLpsAwakeInterval
  | .setForceLps => returning r8192seWxSetForceLps

end Rtl8190.Wx
