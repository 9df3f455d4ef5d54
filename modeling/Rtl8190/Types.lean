import Mathlib.Data.Fintype.Basic
import Rtl8190.Lib.Memory

/-!
# Types that several components use
-/

open Rtl8190.Memory

namespace Rtl8190

/-- A MAC address, `u8[ETH_ALEN]`. -/
abbrev Addr := Fin 6 → Byte

def Addr.bytes (a : Addr) : List Byte := [a 0, a 1, a 2, a 3, a 4, a 5]

/-- `is_multicast_ether_addr`, which the broadcast address satisfies too. -/
def Addr.isMulticast (a : Addr) : Bool := (a 0).getLsbD 0

inductive TrSelect where
  | txDir
  | rxDir
  deriving DecidableEq, Repr

/-- The modes of `ieee->iw_mode` that the driver distinguishes. -/
inductive IwMode where
  | adhoc
  | infra
  | master
  | monitor
  deriving DecidableEq, Repr

inductive RtllibState where
  | nolink
  | associating
  | associatingRetry
  | associatingAuthenticating
  | associatingAuthenticated
  | linked
  | linkedScanning
  deriving DecidableEq, Inhabited, Repr

end Rtl8190
