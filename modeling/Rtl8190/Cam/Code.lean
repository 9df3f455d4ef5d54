import Mathlib.Data.Fintype.Pi
import Mathlib.Logic.Function.Basic
import Rtl8190.Types

/-!
# Keys in the hardware

`rtl_cam.c`, and the three ways to a key: `r8192_wx_set_enc` and `r8192_wx_set_enc_ext` (`rtl_wx.c`)
and the key installation of `rtl8192_ioctl` (`rtl_core.c`), with the setters of rtllib that they
call. `ieee->set_security` and `ieee->reset_port` are not set by the driver. `SECR` is left out.
-/

open Rtl8190.Memory Function

namespace Rtl8190.Cam

/-! ## State -/

def totalCamEntry : Nat := 32

def keyTypeNa : BitVec 16 := 0
def keyTypeWep40 : BitVec 16 := 1
def keyTypeTkip : BitVec 16 := 2
def keyTypeCcmp : BitVec 16 := 4
def keyTypeWep104 : BitVec 16 := 5

/-- `SW_CAM_TABLE` -/
structure SwCam where
  macaddr : Addr
  bused : Bool
  keyBuf : Fin 16 → Byte
  keyType : BitVec 16
  useDK : Byte
  keyIndex : Byte
  deriving DecidableEq

def SwCam.unused : SwCam := ⟨fun _ => 0, false, fun _ => 0, 0, 0, 0⟩

/-- The algorithms of `rtllib_crypto_ops`. `rtllib_crypt_null` has no functions for keys. -/
inductive CryptAlg where
  | wep
  | tkip
  | ccmp
  | null
  deriving DecidableEq, Repr

/-- `struct rtllib_crypt_data`. There are no bytes before a key is set. -/
structure Crypt where
  alg : CryptAlg
  key : List Byte
  deriving DecidableEq, Repr

inductive Access where
  /-- `swcamtable[i]` -/
  | swcam (i : Nat)
  /-- Byte `i` of a key of `size` bytes. -/
  | key (i size : Nat)
  deriving DecidableEq, Repr

def Access.Ok : Access → Prop
  | .swcam i => i < totalCamEntry
  | .key i size => i < size

instance : DecidablePred Access.Ok := fun a => by
  cases a with
  | swcam i => exact inferInstanceAs (Decidable (i < totalCamEntry))
  | key i size => exact inferInstanceAs (Decidable (i < size))

structure State where
  /-- The words of the entries of the hardware. -/
  cam : Nat → Fin 8 → BitVec 32
  swcamtable : Nat → SwCam
  pairwiseKeyType : BitVec 16
  groupKeyType : BitVec 16
  crypt : Fin 4 → Option Crypt
  txKeyidx : Fin 4
  iwMode : IwMode
  authMode : Nat
  apMacAddr : Addr
  /-- `current_network.bssid` -/
  bssid : Addr
  devAddr : Addr
  bHwRadioOff : Bool
  up : Bool
  /-- What lies behind the 16 bytes of a key in memory. -/
  behind : Nat → Byte
  /-- What the request uses. -/
  accesses : List Access
  /-- The entries that the request wrote. -/
  written : List Nat

/-! ## `rtl_cam.c` -/

def State.keyContent (s : State) (key : Fin 16 → Byte) (i : Nat) : Byte :=
  if h : i < 16 then key ⟨i, h⟩ else s.behind (i - 16)

def usConfig (keyIndex : Byte) (keyType : BitVec 16) (defaultKey : Byte) : BitVec 16 :=
  if defaultKey ≠ 0 then 0x8000 ||| (keyType <<< 2)
  else 0x8000 ||| (keyType <<< 2) ||| keyIndex.setWidth 16

def camWords (keyIndex : Byte) (keyType : BitVec 16) (mac : Addr) (defaultKey : Byte)
    (keyContent : Nat → Byte) (i : Fin 8) : BitVec 32 :=
  if i.val = 0 then mac 1 ++ mac 0 ++ usConfig keyIndex keyType defaultKey
  else if i.val = 1 then mac 5 ++ mac 4 ++ (mac 3 ++ mac 2)
  else
    let b := 4 * (i.val - 2)
    keyContent (b + 3) ++ keyContent (b + 2) ++ (keyContent (b + 1) ++ keyContent b)

def State.readKey (s : State) (n size : Nat) : State :=
  { s with accesses := s.accesses ++ (List.range n).map (Access.key · size) }

def State.setKey (s : State) (entryNo : Nat) (keyIndex : Byte) (keyType : BitVec 16) (mac : Addr)
    (defaultKey : Byte) (key : Fin 16 → Byte) : State :=
  let s := s.readKey 24 16
  { s with
    cam := update s.cam entryNo (camWords keyIndex keyType mac defaultKey (s.keyContent key))
    written := s.written ++ [entryNo] }

def State.setSwcam (s : State) (entryNo : Nat) (keyIndex : Byte) (keyType : BitVec 16) (mac : Addr)
    (defaultKey : Byte) (key : Fin 16 → Byte) : State :=
  let s := s.readKey 16 16
  { s with
    swcamtable := update s.swcamtable entryNo ⟨mac, true, key, keyType, defaultKey, keyIndex⟩
    accesses := s.accesses ++ [.swcam entryNo] }

def State.camResetAllEntry (s : State) : State := { s with cam := fun _ _ => 0 }

/-- `CAM_CONST_ADDR`, and `zero_addr` of `r8192_wx_set_enc`. -/
def camConstAddr (i : Nat) : Addr := fun j => if j = 5 then BitVec.ofNat 8 i else 0

def broadcastAddr : Addr := fun _ => 0xff

def State.restoreKey (s : State) (entryId : Nat) (keyIndex : Byte) (keyType : BitVec 16) (mac : Addr) :
    State :=
  s.setKey entryId keyIndex keyType mac 0 (s.swcamtable entryId).keyBuf

/-- `setKey` for an entry that is used, with its number for the index. -/
def State.restoreUsed (s : State) (entryId : Nat) (keyType : BitVec 16) (mac : Addr) : State :=
  if (s.swcamtable entryId).bused then s.restoreKey entryId (BitVec.ofNat 8 entryId) keyType mac else s

def State.restorePairwise (s : State) : State :=
  let keyType := s.pairwiseKeyType
  if keyType = keyTypeWep40 ∨ keyType = keyTypeWep104 then
    (List.range 4).foldl (fun s i => s.restoreUsed i keyType (camConstAddr i)) s
  else if keyType = keyTypeTkip ∨ keyType = keyTypeCcmp then
    s.restoreKey 4 0 keyType (if s.iwMode = .adhoc then s.devAddr else s.bssid)
  else s

def State.restoreGroup (s : State) : State :=
  let keyType := s.groupKeyType
  if keyType = keyTypeTkip ∨ keyType = keyTypeCcmp then
    let s := [1, 2, 3].foldl (fun s i => s.restoreUsed i keyType broadcastAddr) s
    if s.iwMode = .adhoc then s.restoreUsed 0 keyType (camConstAddr 0) else s
  else s

def State.camRestoreAllEntry (s : State) : State := s.restorePairwise.restoreGroup

/-! ## Requests -/

inductive Errno where
  | einval
  | enomem
  | efault
  | enetdown
  | eopnotsupp
  deriving DecidableEq, Repr

structure Outcome where
  /-- The error that it returns. -/
  err : Option Errno
  /-- The slot of `ieee->crypt` that got a cipher or a key. -/
  slot : Option (Fin 4)
  state : State

/-- What the memory and the list of ciphers have for a new cipher. -/
structure Alloc where
  kmalloc : Bool
  ops : Bool
  init : Bool
  deriving DecidableEq

/-- The fields of `wrqu->encoding` that both WEXT requests use. -/
structure Encoding where
  flags : BitVec 16
  length : Nat

namespace Encoding

variable (e : Encoding)

def index : Nat := (e.flags &&& 0xff).toNat

def disabled : Bool := e.flags.getLsbD 15

def restricted : Bool := e.flags.getLsbD 14

/-- The slot that rtllib takes, for an index that it accepts. -/
def slot (txKeyidx : Fin 4) : Fin 4 :=
  if e.index = 0 then txKeyidx else Fin.ofNat 4 (e.index - 1)

end Encoding

def State.setCrypt (s : State) (i : Fin 4) (c : Option Crypt) : State :=
  { s with crypt := update s.crypt i c }

/-- The request of `r8192_wx_set_enc`. -/
structure Enc where
  encoding : Encoding
  key : Nat → Byte
  alloc : Alloc

def keyBytes (key : Nat → Byte) (len : Nat) : List Byte := (List.range len).map key

/-- The end of `rtllib_wx_set_encode`, where slot `key` has the WEP cipher `c`. -/
def wxSetEncodeKey (r : Enc) (key : Fin 4) (c : Crypt) (new : Bool) (s : State) : Outcome :=
  let length := r.encoding.length
  let s := { s with authMode := if r.encoding.restricted then 1 else 0 }
  if 0 < length then
    let len := if length ≤ 5 then 5 else 13
    let sec := keyBytes (fun i => if i < length then r.key i else 0) len
    let s := (s.readKey length length).setCrypt key (some { c with key := sec })
    ⟨none, some key, { s with txKeyidx := key }⟩
  else
    let zero := c.key.isEmpty
    let s := s.setCrypt key (some (if zero then { c with key := List.replicate 13 0 } else c))
    ⟨none, if zero || new then some key else none,
      { s with txKeyidx := if r.encoding.index ≠ 0 then key else s.txKeyidx }⟩

def rtllibWxSetEncode (r : Enc) (s : State) : Outcome :=
  let key := r.encoding.slot s.txKeyidx
  if r.encoding.index > 4 then ⟨some .einval, none, s⟩
  else if r.encoding.disabled then
    ⟨none, none, { s with
      crypt := if r.encoding.index ≠ 0 then update s.crypt key none else fun _ => none
      authMode := if r.encoding.restricted then 1 else 0 }⟩
  else
    match (s.crypt key).filter fun c => c.alg = .wep with
    | some c => wxSetEncodeKey r key c false s
    | none =>
      let s := s.setCrypt key none
      if !r.alloc.kmalloc then ⟨some .enomem, none, s⟩
      else if !(r.alloc.ops && r.alloc.init) then ⟨some .eopnotsupp, none, s⟩
      else wxSetEncodeKey r key ⟨.wep, []⟩ true s

/-- All keys of the hardware are given up. -/
def State.clearKeys (s : State) : State :=
  { s.camResetAllEntry with
    pairwiseKeyType := keyTypeNa
    groupKeyType := keyTypeNa
    swcamtable := fun i => if i < totalCamEntry then SwCam.unused else s.swcamtable i }

/-- The bytes of `hwkey` in `r8192_wx_set_enc`. -/
def Enc.hwkey (r : Enc) (i : Fin 16) : Byte :=
  if (r.encoding.length = 5 ∨ r.encoding.length = 13) ∧ r.encoding.length ≤ i.val then 0 else r.key i

/-- `key_idx` of `r8192_wx_set_enc` -/
def Enc.keyIdx (r : Enc) (txKeyidx : Fin 4) : Nat :=
  if r.encoding.index = 0 then txKeyidx
  else if r.encoding.index ≤ 4 then r.encoding.index - 1
  else 0

def State.setWep (s : State) (keyIdx : Nat) (keyType : BitVec 16) (hwkey : Fin 16 → Byte) : State :=
  let s := { s with pairwiseKeyType := keyType }
  let s := s.setKey keyIdx (BitVec.ofNat 8 keyIdx) keyType (camConstAddr keyIdx) 0 hwkey
  s.setSwcam keyIdx (BitVec.ofNat 8 keyIdx) keyType (camConstAddr keyIdx) 0 hwkey

def r8192WxSetEnc (r : Enc) (s : State) : Outcome :=
  if s.bHwRadioOff then ⟨none, none, s⟩
  else if !s.up then ⟨some .enetdown, none, s⟩
  else
    let o := rtllibWxSetEncode r s
    if r.encoding.disabled then { o with state := o.state.clearKeys }
    else if r.encoding.length ≠ 0 then
      let s := o.state.readKey 16 r.encoding.length
      let keyIdx := r.keyIdx s.txKeyidx
      if r.encoding.length = 5 then { o with state := s.setWep keyIdx keyTypeWep40 r.hwkey }
      else if r.encoding.length = 13 then { o with state := s.setWep keyIdx keyTypeWep104 r.hwkey }
      else { o with state := s }
    else o

/-! ## `r8192_wx_set_enc_ext` -/

/-- The request of `r8192_wx_set_enc_ext`. `length` of the encoding is not used. -/
structure EncExt where
  encoding : Encoding
  alg : BitVec 16
  groupKey : Bool
  setTxKey : Bool
  keyLen : Nat
  key : Nat → Byte
  alloc : Alloc

def EncExt.cryptAlg (r : EncExt) : Option CryptAlg :=
  if r.alg = 1 then some .wep
  else if r.alg = 2 then some .tkip
  else if r.alg = 3 then some .ccmp
  else none

def EncExt.disabled (r : EncExt) : Bool := r.encoding.disabled || decide (r.alg = 0)

/-- `ops->set_key`, if there is one: whether it takes the key, and the cipher after it. -/
def Crypt.setKey (c : Crypt) (key : Nat → Byte) (len : Nat) : Bool × Crypt :=
  match c.alg with
  | .wep => if 13 < len then (false, c) else (true, { c with key := keyBytes key len })
  | .tkip =>
    if len = 32 then (true, { c with key := keyBytes key 32 }) else (decide (len = 0), { c with key := [] })
  | .ccmp =>
    if len = 16 then (true, { c with key := keyBytes key 16 }) else (decide (len = 0), { c with key := [] })
  | .null => (true, c)

/-- A cipher in slot `i` gets the key, if there is one. The second of the two installations of
rtllib. -/
def putKey (alg : CryptAlg) (i : Fin 4) (key : Nat → Byte) (keyLen : Nat) (alloc : Alloc)
    (tx : Bool) (s : State) : Outcome :=
  let old := (s.crypt i).filter fun c => c.alg = alg
  if !alloc.ops then ⟨some .einval, none, s⟩
  else if old.isNone && !alloc.kmalloc then ⟨some .enomem, none, s.setCrypt i none⟩
  else if old.isNone && !alloc.init then ⟨some .einval, none, s.setCrypt i none⟩
  else
    let c := old.getD ⟨alg, []⟩
    let k := c.setKey key keyLen
    let s := s.readKey (if k.1 then keyLen else 0) keyLen
    if 0 < keyLen ∧ k.1 = false then ⟨some .einval, some i, s.setCrypt i (some k.2)⟩
    else
      let s := s.setCrypt i (some (if 0 < keyLen then k.2 else c))
      ⟨none, if (0 < keyLen ∧ alg ≠ .null) ∨ old.isNone then some i else none,
        { s with txKeyidx := if tx then i else s.txKeyidx }⟩

def rtllibWxSetEncodeExt (r : EncExt) (s : State) : Outcome :=
  let idx := r.encoding.slot s.txKeyidx
  if r.encoding.index > 4 then ⟨some .einval, none, s⟩
  else if !r.groupKey && (decide (idx ≠ 0) && decide (r.alg ≠ 1) || decide (s.iwMode ≠ .infra)) then
    ⟨some .einval, none, s⟩
  else if r.disabled then ⟨none, none, s.setCrypt idx none⟩
  else
    match r.cryptAlg with
    | none => ⟨some .einval, none, s⟩
    | some alg => putKey alg idx r.key r.keyLen r.alloc r.setTxKey s

/-- `idx` of `r8192_wx_set_enc_ext` -/
def EncExt.idx (r : EncExt) : Nat := r.encoding.index - 1

def EncExt.hwAlg (r : EncExt) : Byte := if r.alg = 3 then 4 else r.alg.setWidth 8

def State.installKey (s : State) (entryNo : Nat) (keyIndex : Byte) (keyType : BitVec 16) (mac : Addr)
    (key : Fin 16 → Byte) : State :=
  (s.setKey entryNo keyIndex keyType mac 0 key).setSwcam entryNo keyIndex keyType mac 0 key

/-- The hardware part of `r8192_wx_set_enc_ext`. -/
def encExtHw (r : EncExt) (s : State) : State :=
  let idx := r.idx
  let key : Fin 16 → Byte := fun i => r.key i
  let pairwise := !r.groupKey || decide (s.iwMode = .adhoc) || decide (r.hwAlg = 1)
  let alg : Byte := if pairwise && decide (r.keyLen = 13) && decide (r.hwAlg = 1) then 5 else r.hwAlg
  let s := if pairwise then { s with pairwiseKeyType := alg.setWidth 16 } else s
  let s := s.readKey 16 r.keyLen
  if alg.getLsbD 0 && decide (s.authMode ≠ 2) then
    let alg : Byte := if r.keyLen = 13 then 5 else alg
    let s := if r.keyLen = 13 then { s with pairwiseKeyType := keyTypeWep104 } else s
    s.installKey idx (BitVec.ofNat 8 idx) (alg.setWidth 16) (fun _ => 0) key
  else if r.groupKey then
    let s := { s with groupKeyType := alg.setWidth 16 }
    s.installKey idx (BitVec.ofNat 8 idx) (alg.setWidth 16) broadcastAddr key
  else s.installKey 4 (BitVec.ofNat 8 idx) (alg.setWidth 16) s.apMacAddr key

def r8192WxSetEncExt (r : EncExt) (s : State) : Outcome :=
  if s.bHwRadioOff then ⟨none, none, s⟩
  else
    let o := rtllibWxSetEncodeExt r s
    if r.disabled then { o with state := o.state.clearKeys }
    else { o with state := encExtHw r o.state }

/-! ## `rtl8192_ioctl` -/

/-- The texts of `ipw->u.crypt.alg`. -/
inductive WpaAlg where
  | none
  | wep
  | tkip
  | ccmp
  | null
  | other
  deriving DecidableEq, Repr

def WpaAlg.cryptAlg : WpaAlg → Option CryptAlg
  | .wep => some .wep
  | .tkip => some .tkip
  | .ccmp => some .ccmp
  | .null => some .null
  | _ => Option.none

/-- A request with `IEEE_CMD_SET_ENCRYPTION`. -/
structure Wpa where
  length : Nat
  pointer : Bool
  /-- `rtl8192_ioctl` can allocate and copy the parameters. -/
  kmalloc : Bool
  copyFromUser : Bool
  /-- `rtllib_wpa_supplicant_ioctl` can. -/
  kmalloc' : Bool
  copyFromUser' : Bool
  copyToUser : Bool
  staAddr : Addr
  alg : WpaAlg
  setTx : Bool
  idx : Byte
  keyLen : Nat
  /-- What follows the parameters. -/
  key : Nat → Byte
  alloc : Alloc

/-- `sizeof(struct ieee_param)`, which is the offset of the key. -/
def sizeofParam : Nat := 48

/-- The key type for an algorithm. A WEP key of another length leaves it as it is. -/
def Wpa.keyType (r : Wpa) (old : BitVec 16) : BitVec 16 :=
  match r.alg with
  | .ccmp => keyTypeCcmp
  | .tkip => keyTypeTkip
  | .wep => if r.keyLen = 13 then keyTypeWep104 else if r.keyLen = 5 then keyTypeWep40 else old
  | _ => keyTypeNa

def rtllibWpaSetEncryption (r : Wpa) (s : State) : Outcome :=
  if r.length ≠ sizeofParam + r.keyLen then ⟨some .einval, none, s⟩
  else if r.staAddr ≠ broadcastAddr then ⟨some .einval, none, s⟩
  else if 4 ≤ r.idx.toNat then ⟨some .einval, none, s⟩
  else
    let idx := Fin.ofNat 4 r.idx.toNat
    if r.alg = .none then ⟨none, none, s.setCrypt idx none⟩
    else
      match r.alg.cryptAlg with
      | none => ⟨some .einval, none, s⟩
      | some alg => putKey alg idx r.key r.keyLen r.alloc r.setTx s

def rtllibWpaSupplicantIoctl (r : Wpa) (s : State) : Outcome :=
  if r.length < sizeofParam ∨ r.pointer = false then ⟨some .einval, none, s⟩
  else if r.kmalloc' = false then ⟨some .enomem, none, s⟩
  else if r.copyFromUser' = false then ⟨some .efault, none, s⟩
  else
    let o := rtllibWpaSetEncryption r s
    if o.err = none ∧ r.copyToUser = false then { o with err := some .efault } else o

def State.installWpa (s : State) (entryNo : Nat) (keyIndex : Byte) (keyType : BitVec 16) (mac : Addr)
    (key : Fin 16 → Byte) : State :=
  (s.setSwcam entryNo keyIndex keyType mac 0 key).setKey entryNo keyIndex keyType mac 0 key

/-- The hardware part of `rtl8192_ioctl`. -/
def wpaHw (r : Wpa) (s : State) : State :=
  let key : Fin 16 → Byte := fun i => r.key i
  if r.setTx then
    let s := { s with pairwiseKeyType := r.keyType s.pairwiseKeyType }
    if s.pairwiseKeyType ≠ 0 then
      let s := { s with iwMode := if s.apMacAddr = (fun _ => 0) then .adhoc else s.iwMode }
      let s := s.readKey 16 (r.length - sizeofParam)
      let s := s.installWpa 4 r.idx s.pairwiseKeyType s.apMacAddr key
      if s.iwMode = .adhoc then s.installWpa r.idx.toNat r.idx s.pairwiseKeyType s.apMacAddr key else s
    else s
  else
    let s := s.readKey 16 (r.length - sizeofParam)
    let s := { s with groupKeyType := r.keyType s.groupKeyType }
    if s.groupKeyType ≠ 0 then s.installWpa r.idx.toNat r.idx s.groupKeyType broadcastAddr key else s

def rtl8192Ioctl (r : Wpa) (s : State) : Outcome :=
  if r.length < sizeofParam ∨ r.pointer = false then ⟨some .einval, none, s⟩
  else if r.kmalloc = false then ⟨some .enomem, none, s⟩
  else if r.copyFromUser = false then ⟨some .efault, none, s⟩
  else rtllibWpaSupplicantIoctl r (wpaHw r s)

/-! ## One request -/

inductive Request where
  | enc (r : Enc)
  | encExt (r : EncExt)
  | wpa (r : Wpa)

def request (s : State) (q : Request) : Outcome :=
  let s := { s with accesses := [], written := [] }
  match q with
  | .enc r => r8192WxSetEnc r s
  | .encExt r => r8192WxSetEncExt r s
  | .wpa r => rtl8192Ioctl r s

end Rtl8190.Cam
