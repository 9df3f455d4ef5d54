import Rtl8190.Cam.Code
import Rtl8190.Crypt.Ccmp
import Rtl8190.Crypt.Wep

/-!
# Keys that user space sets and gets

`rtllib_wx_set_encode_ext` and `rtllib_wx_get_encode_ext` (`rtllib_wx.c`), with what the contexts of
the ciphers hold.
-/

open Rtl8190.Memory Rtl8190.Crypt Function
open Rtl8190.Cam (CryptAlg Encoding EncExt keyBytes)
open Rtl8190.Crypt.Wep (WepData prism2WepSetKey prism2WepGetKey)
open Rtl8190.Crypt.Tkip (TkipData rtllibTkipSetKey rtllibTkipGetKey)
open Rtl8190.Crypt.Ccmp (CcmpData rtllibCcmpSetKey rtllibCcmpGetKey)

namespace Rtl8190.Wx.EncodeExt

/-! ## The code -/

def einval : Int := -22
def enomem : Int := -12

/-- `struct rtllib_crypt_data`, by its `ops`. Those of `rtllib_crypt_null` have no functions for keys. -/
inductive CryptData
  | wep (priv : WepData)
  | tkip (priv : TkipData)
  | ccmp (priv : CcmpData)
  | null

namespace CryptData

def name : CryptData → String
  | wep _ => "WEP"
  | tkip _ => "TKIP"
  | ccmp _ => "CCMP"
  | null => "NULL"

def alg : CryptData → CryptAlg
  | wep _ => .wep
  | tkip _ => .tkip
  | ccmp _ => .ccmp
  | null => .null

/-- `ops->set_key`, if there is one: whether it succeeds, and the context after it. -/
def setKey (key : Nat → Byte) (len : Nat) (seq : Fin 6 → Byte) : CryptData → Bool × CryptData
  | wep priv => (prism2WepSetKey key len priv).map id wep
  | tkip priv => (rtllibTkipSetKey key len (some seq) priv).map id tkip
  | ccmp priv => (rtllibCcmpSetKey key len (some seq) priv).map id ccmp
  | null => (true, null)

/-- `ops->get_key` with a buffer of `SCM_KEY_LEN` bytes. There is nothing to call for `null`. -/
def getKey : CryptData → Option KeyReport
  | wep priv => some (prism2WepGetKey 32 priv)
  | tkip priv => some (rtllibTkipGetKey 32 false priv)
  | ccmp priv => some (rtllibCcmpGetKey 32 false priv)
  | null => none

end CryptData

/-- `struct rtllib_security`, the fields that are set -/
structure Security where
  activeKey : Fin 4
  enabled : Bool
  keySizes : Fin 4 → Byte
  level : Byte
  flags : BitVec 16

/-- `SEC_ACTIVE_KEY`, `SEC_LEVEL` and `SEC_ENABLED` -/
def secActiveKey : BitVec 16 := 0x010
def secLevel : BitVec 16 := 0x080
def secEnabled : BitVec 16 := 0x100

/-- What the two functions use of `struct rtllib_device`. -/
structure Ieee where
  crypt : Fin 4 → Option CryptData
  txKeyidx : Fin 4
  iwMode : IwMode
  sec : Security
  setSecurity : Bool
  resetOnKeychange : Bool
  /-- What `reset_port` returns, and 0 if there is none. -/
  resetPort : Int

def Ieee.setCrypt (s : Ieee) (idx : Fin 4) (c : Option CryptData) : Ieee :=
  { s with crypt := update s.crypt idx c }

structure SetExt extends EncExt where
  /-- The first six bytes of `ext->rx_seq` -/
  rxSeq : Fin 6 → Byte
  /-- Where the IV of a new context for WEP starts. -/
  iv : BitVec 32
  tfm : Ccmp.Key

structure Outcome where
  ret : Int
  ieee : Ieee
  /-- What `set_security` got, if it was called. -/
  handed : Option Security

def SetExt.init (r : SetExt) (idx : Fin 4) : CryptAlg → CryptData
  | .wep => .wep ⟨r.iv, [], BitVec.ofNat 8 idx⟩
  | .tkip => .tkip ⟨fun _ => 0, false, 0, 0, ⟨0, 0, 0, 0, 0⟩, false, 0, 0, false,
      ⟨0, 0, 0, 0, 0⟩, false, 0, 0, 0, 0, 0, BitVec.ofNat 8 idx⟩
  | .ccmp => .ccmp ⟨fun _ => 0, false, List.replicate 6 0, List.replicate 6 0, 0, 0, 0,
      BitVec.ofNat 8 idx, r.tfm⟩
  | .null => .null

/-- The context in the slot, if it is one of the cipher. -/
def Ieee.held (s : Ieee) (idx : Fin 4) (alg : CryptAlg) : Option CryptData :=
  (s.crypt idx).filter fun c => c.alg = alg

/-- The context that gets the key: the one in the slot, or a new one for which the old one is given up. -/
def takeContext (r : SetExt) (idx : Fin 4) (alg : CryptAlg) (s : Ieee) : Except Int CryptData :=
  match s.held idx alg with
  | some c => .ok c
  | none =>
    if r.alloc.kmalloc = false then .error enomem
    else if r.alloc.init = false then .error einval
    else .ok (r.init idx alg)

def SetExt.putKey (r : SetExt) (c : CryptData) : Bool × CryptData :=
  if 0 < r.keyLen then c.setKey r.key r.keyLen r.rxSeq else (true, c)

def levelOf : CryptAlg → Byte
  | .wep => 1
  | .tkip => 2
  | .ccmp => 4
  | .null => 0

def SetExt.secAfter (r : SetExt) (idx : Fin 4) (alg : CryptAlg) (sec : Security) : Security :=
  let sec := if r.setTxKey then { sec with activeKey := idx, flags := sec.flags ||| secActiveKey } else sec
  let flags := sec.flags ||| (1 <<< idx.val)
  { sec with
    keySizes := update sec.keySizes idx (BitVec.ofNat 8 r.keyLen)
    level := levelOf alg
    flags := if r.groupKey then flags &&& ~~~ secLevel else flags ||| secLevel }

/-- The middle part for a cipher: the return value, `sec`, and the device. -/
def setCipher (r : SetExt) (idx : Fin 4) (alg : CryptAlg) (sec : Security) (s : Ieee) :
    Int × Security × Ieee :=
  if r.alloc.ops = false then (einval, sec, s)
  else
    match takeContext r idx alg s with
    | .error err => (err, sec, s.setCrypt idx none)
    | .ok c =>
      let k := r.putKey c
      let s := s.setCrypt idx (some k.2)
      if k.1 = false then (einval, sec, s)
      else (0, r.secAfter idx alg sec, { s with txKeyidx := if r.setTxKey then idx else s.txKeyidx })

/-- The middle part, up to `done` -/
def setContext (r : SetExt) (idx : Fin 4) (s : Ieee) : Int × Security × Ieee :=
  let sec : Security := ⟨0, false, fun _ => 0, 0, secEnabled⟩
  if r.disabled then
    let s := s.setCrypt idx none
    (0, if ∀ i, (s.crypt i).isNone then { sec with flags := sec.flags ||| secLevel } else sec, s)
  else
    match r.cryptAlg with
    | none => (einval, { sec with enabled := true }, s)
    | some alg => setCipher r idx alg { sec with enabled := true } s

/-- The first checks: the index, and what a pairwise key needs. -/
def SetExt.refused (r : SetExt) (s : Ieee) : Bool :=
  decide (r.encoding.index > 4) ||
    (!r.groupKey && (decide (r.encoding.slot s.txKeyidx ≠ 0) && decide (r.alg ≠ 1) ||
      decide (s.iwMode ≠ .infra)))

def Ieee.resetFails (s : Ieee) : Bool :=
  s.resetOnKeychange && decide (s.iwMode ≠ .infra) && decide (s.resetPort ≠ 0)

def rtllibWxSetEncodeExt (r : SetExt) (s : Ieee) : Outcome :=
  if r.refused s then ⟨einval, s, none⟩
  else
    let (ret, sec, s) := setContext r (r.encoding.slot s.txKeyidx) s
    ⟨if s.resetFails then einval else ret, s, if s.setSecurity then some sec else none⟩

/-- The request of a get. `ext` has to be filled in for it. -/
structure GetExt where
  encoding : Encoding
  groupKey : Bool
  alg : BitVec 16

/-- What a get writes to the request. -/
structure ExtAnswer where
  flags : BitVec 16
  alg : BitVec 16
  keyLen : BitVec 16
  key : List Byte
  txSeqValid : Bool

/-- `ext->alg` for the name of a cipher. Only the first comparison is one with 0. -/
def reportedAlg (name : String) : Option (BitVec 16) :=
  if name = "WEP" then some 1
  else if name ≠ "TKIP" then some 2
  else if name ≠ "CCMP" then some 3
  else none

/-- The restriction of a get to pairwise keys that there can be. -/
def GetExt.passes (g : GetExt) (s : Ieee) : Bool :=
  g.groupKey || decide (g.alg = 1) ||
    (decide (g.encoding.slot s.txKeyidx = 0) && decide (s.iwMode = .infra))

/-- `rtllib_wx_get_encode_ext`, with `none` for a call through a null pointer. A `struct iw_encode_ext`
has 40 bytes before the key. -/
def rtllibWxGetEncodeExt (g : GetExt) (s : Ieee) : Option (Except Int ExtAnswer) :=
  let idx := g.encoding.slot s.txKeyidx
  let flags := BitVec.ofNat 16 (idx + 1)
  if g.encoding.length < 40 ∨ g.encoding.index > 4 ∨ g.passes s = false then some (.error einval)
  else
    match s.crypt idx with
    | none => some (.ok ⟨flags ||| 0x8000, 0, 0, [], false⟩)
    | some c =>
      match reportedAlg c.name with
      | none => some (.error einval)
      | some alg => do
        let report ← c.getKey
        let keyLen := BitVec.ofInt 16 report.ret
        some (.ok ⟨flags, alg, keyLen, report.key.getD [],
          decide (keyLen ≠ 0) && (decide (alg = 2) || decide (alg = 3))⟩)

/-! ## What is right -/

/-- The cipher and the key that a set asks for. With `IW_ENCODE_DISABLED` there is no cipher. -/
def SetExt.wanted (r : SetExt) : BitVec 16 × List Byte :=
  if r.disabled then (0, []) else (r.alg, keyBytes r.key r.keyLen)

def keyLengthOf : CryptAlg → Nat → Prop
  | .wep, len => 0 < len ∧ len ≤ 13
  | .tkip, len => len = 32
  | .ccmp, len => len = 16
  | .null, _ => True

/-- The get is for the key that the set is for, and has room for it. -/
structure Asks (r : SetExt) (g : GetExt) : Prop where
  index : 1 ≤ r.encoding.index ∧ r.encoding.index ≤ 4
  same : g.encoding.index = r.encoding.index
  keyLen : ∀ alg, r.disabled = false → r.cryptAlg = some alg → keyLengthOf alg r.keyLen
  room : 40 + r.wanted.2.length ≤ g.encoding.length

def Returns (g : GetExt) (s : Ieee) (alg : BitVec 16) (key : List Byte) : Prop :=
  ∃ a, rtllibWxGetEncodeExt g s = some (.ok a) ∧
    a.alg = alg ∧ a.keyLen = BitVec.ofNat 16 key.length ∧ a.key = key

/-- A get after an accepted set gets what was set, and a rejected one has changed nothing. -/
structure Right (s : Ieee) (r : SetExt) (g : GetExt) : Prop where
  accepted : (rtllibWxSetEncodeExt r s).ret = 0 → Asks r g →
    Returns g (rtllibWxSetEncodeExt r s).ieee r.wanted.1 r.wanted.2
  rejected : (rtllibWxSetEncodeExt r s).ret ≠ 0 →
    (rtllibWxSetEncodeExt r s).ieee = s ∧ (rtllibWxSetEncodeExt r s).handed = none

/-- What the part between the first checks and `done` needs to succeed. -/
def Takes (r : SetExt) (idx : Fin 4) (s : Ieee) : Prop :=
  r.disabled = true ∨ ∃ alg, r.cryptAlg = some alg ∧ r.alloc.ops = true ∧
    (s.held idx alg = none → r.alloc.kmalloc = true ∧ r.alloc.init = true) ∧
    (0 < r.keyLen → keyLengthOf alg r.keyLen)

def SetExt.Succeeds (r : SetExt) (s : Ieee) : Prop :=
  r.refused s = false ∧ s.resetFails = false ∧ Takes r (r.encoding.slot s.txKeyidx) s

/-- With this cipher, the slot and the key to send with stay what they are. -/
def CipherNoEffect (r : SetExt) (idx : Fin 4) (alg : CryptAlg) (s : Ieee) : Prop :=
  r.alloc.ops = true →
    match s.held idx alg with
    | none => s.crypt idx = none ∧ (r.alloc.kmalloc = false ∨ r.alloc.init = false)
    | some c => (r.putKey c).2 = c ∧ ((r.putKey c).1 = true → r.setTxKey = true → s.txKeyidx = idx)

/-- The slot and the key to send with stay what they are. -/
def NoEffect (r : SetExt) (idx : Fin 4) (s : Ieee) : Prop :=
  if r.disabled then s.crypt idx = none
  else ∀ alg, r.cryptAlg = some alg → CipherNoEffect r idx alg s

/-! ## Contexts -/

variable {r : SetExt} {g : GetExt} {s : Ieee} {idx : Fin 4} {alg : CryptAlg} {c : CryptData}

theorem init_alg (alg : CryptAlg) : (r.init idx alg).alg = alg := by
  cases alg <;> rfl

theorem held_alg (h : s.held idx alg = some c) : s.crypt idx = some c ∧ c.alg = alg := by
  obtain ⟨hcrypt, halg⟩ := Option.filter_eq_some_iff.mp h
  exact ⟨hcrypt, of_decide_eq_true halg⟩

theorem alg_cases (h : c.alg = alg) : (∃ priv, c = .wep priv ∧ alg = .wep) ∨
    (∃ priv, c = .tkip priv ∧ alg = .tkip) ∨ (∃ priv, c = .ccmp priv ∧ alg = .ccmp) ∨
    (c = .null ∧ alg = .null) := by
  cases c with
  | wep priv => exact .inl ⟨priv, rfl, h.symm⟩
  | tkip priv => exact .inr (.inl ⟨priv, rfl, h.symm⟩)
  | ccmp priv => exact .inr (.inr (.inl ⟨priv, rfl, h.symm⟩))
  | null => exact .inr (.inr (.inr ⟨rfl, h.symm⟩))

theorem cryptAlg_ne_null {r : EncExt} (h : r.cryptAlg = some alg) : alg ≠ .null := by
  rintro rfl
  unfold EncExt.cryptAlg at h
  split_ifs at h <;> cases h

theorem setKey_alg (key : Nat → Byte) (len : Nat) (seq : Fin 6 → Byte) (c : CryptData) :
    (c.setKey key len seq).2.alg = c.alg := by
  cases c <;> rfl

theorem putKey_alg (r : SetExt) (c : CryptData) : (r.putKey c).2.alg = c.alg := by
  unfold SetExt.putKey
  split
  · exact setKey_alg _ _ _ c
  · rfl

theorem wepSetKey_of_le {key : Nat → Byte} {len : Nat} (h : len ≤ 13) (priv : WepData) :
    prism2WepSetKey key len priv = (true, { priv with key := keyBytes key len }) := by
  have hlen : ¬ ((len : Int) < 0 ∨ 13 < (len : Int)) := by omega
  simp only [prism2WepSetKey, if_neg hlen, Int.toNat_natCast, keyBytes]

theorem wepSetKey_of_lt {key : Nat → Byte} {len : Nat} (h : 13 < len) (priv : WepData) :
    prism2WepSetKey key len priv = (false, priv) := by
  have hlen : (len : Int) < 0 ∨ 13 < (len : Int) := by omega
  simp only [prism2WepSetKey, if_pos hlen]

theorem setKey_iff (h : c.alg = alg) {key : Nat → Byte} {len : Nat} {seq : Fin 6 → Byte}
    (hlen : 0 < len) : (c.setKey key len seq).1 = true ↔ keyLengthOf alg len := by
  -- `set_key` takes a key that has the length of one.
  rcases alg_cases h with ⟨priv, rfl, rfl⟩ | ⟨priv, rfl, rfl⟩ | ⟨priv, rfl, rfl⟩ | ⟨rfl, rfl⟩
  · simp only [CryptData.setKey, keyLengthOf, hlen, true_and]
    by_cases hle : len ≤ 13
    · simp [wepSetKey_of_le hle, hle]
    · simp [wepSetKey_of_lt (Nat.lt_of_not_le hle), hle]
  · simp only [CryptData.setKey, rtllibTkipSetKey, keyLengthOf]
    split
    · simp
      omega
    · rw [if_neg (by omega)]
      simp
      omega
  · simp only [CryptData.setKey, rtllibCcmpSetKey, keyLengthOf]
    split
    · simp
      omega
    · rw [if_neg (by omega)]
      simp
      omega
  · exact iff_of_true rfl trivial

theorem putKey_iff (h : c.alg = alg) :
    (r.putKey c).1 = true ↔ (0 < r.keyLen → keyLengthOf alg r.keyLen) := by
  unfold SetExt.putKey
  split
  · rename_i hlen
    simp [setKey_iff h hlen, hlen]
  · rename_i hlen
    simp [hlen]

theorem keyLengthOf.pos {len : Nat} (h : keyLengthOf alg len) (hnull : alg ≠ .null) : 0 < len := by
  cases alg with
  | wep => exact h.1
  | tkip => exact h ▸ by decide
  | ccmp => exact h ▸ by decide
  | null => exact absurd rfl hnull

theorem ofFn_key (key : Nat → Byte) (n : Nat) : (List.ofFn fun i : Fin n => key i) = keyBytes key n := by
  apply List.ext_getElem
  · simp [keyBytes]
  · simp [keyBytes]

theorem getKey_putKey (h : c.alg = alg) (hnull : alg ≠ .null) (hlen : keyLengthOf alg r.keyLen) :
    (r.putKey c).2.getKey = some ⟨r.keyLen, some (keyBytes r.key r.keyLen), none⟩ := by
  rw [SetExt.putKey, if_pos (hlen.pos hnull)]
  rcases alg_cases h with ⟨priv, rfl, rfl⟩ | ⟨priv, rfl, rfl⟩ | ⟨priv, rfl, rfl⟩ | ⟨rfl, rfl⟩
  · have hbytes : (keyBytes r.key r.keyLen).length = r.keyLen := by simp [keyBytes]
    have hroom : ¬ (32 : Int) < r.keyLen := by have := hlen.2; omega
    simp [CryptData.setKey, CryptData.getKey, wepSetKey_of_le hlen.2, prism2WepGetKey, hbytes, hroom]
  · have hkey : r.keyLen = 32 := hlen
    simp [CryptData.setKey, CryptData.getKey, rtllibTkipSetKey, rtllibTkipGetKey, hkey, ← ofFn_key]
  · have hkey : r.keyLen = 16 := hlen
    simp [CryptData.setKey, CryptData.getKey, rtllibCcmpSetKey, rtllibCcmpGetKey, hkey, ← ofFn_key]
  · exact absurd rfl hnull

/-! ## The middle part -/

@[simp] theorem setCrypt_crypt (c : Option CryptData) : (s.setCrypt idx c).crypt idx = c :=
  update_self _ _ _

theorem setCrypt_eq_iff (c : Option CryptData) : s.setCrypt idx c = s ↔ s.crypt idx = c := by
  constructor
  · intro h
    rw [← h, setCrypt_crypt]
  · rintro rfl
    simp [Ieee.setCrypt]

theorem takeContext_error {err : Int} (h : takeContext r idx alg s = .error err) :
    err ≠ 0 ∧ s.held idx alg = none ∧ (r.alloc.kmalloc = false ∨ r.alloc.init = false) := by
  -- There was no context of the cipher, and no new one could be made.
  unfold takeContext at h
  split at h
  · cases h
  · rename_i hheld
    split at h
    · rename_i hmem
      cases h
      exact ⟨by decide, hheld, .inl hmem⟩
    · split at h
      · rename_i hinit
        cases h
        exact ⟨by decide, hheld, .inr hinit⟩
      · cases h

theorem takeContext_ok (h : takeContext r idx alg s = .ok c) :
    s.held idx alg = some c ∨ s.held idx alg = none ∧ c = r.init idx alg ∧
      r.alloc.kmalloc = true ∧ r.alloc.init = true := by
  -- The context is the one in the slot, or a new one.
  unfold takeContext at h
  split at h
  · rename_i hheld
    cases h
    exact .inl hheld
  · rename_i hheld
    split at h
    · cases h
    · rename_i hmem
      split at h
      · cases h
      · rename_i hinit
        cases h
        simp only [Bool.not_eq_false] at hmem hinit
        exact .inr ⟨hheld, rfl, hmem, hinit⟩

theorem takeContext_alg (h : takeContext r idx alg s = .ok c) : c.alg = alg := by
  rcases takeContext_ok h with hheld | ⟨-, rfl, -⟩
  · exact (held_alg hheld).2
  · exact init_alg alg

theorem setContext_ieee (r : SetExt) (idx : Fin 4) (s : Ieee) : ∃ c tx,
    (setContext r idx s).2.2 = { s.setCrypt idx c with txKeyidx := tx } := by
  -- Only the slot and the key to send with change.
  have hsame : s = { s.setCrypt idx (s.crypt idx) with txKeyidx := s.txKeyidx } := by
    simp [Ieee.setCrypt]
  unfold setContext
  simp only
  split
  · exact ⟨none, s.txKeyidx, rfl⟩
  · split
    · exact ⟨_, _, hsame⟩
    · unfold setCipher
      split
      · exact ⟨_, _, hsame⟩
      · split
        · exact ⟨none, s.txKeyidx, rfl⟩
        · simp only
          split
          · exact ⟨_, s.txKeyidx, rfl⟩
          · exact ⟨_, _, rfl⟩

theorem setCipher_ret_iff (sec : Security) : (setCipher r idx alg sec s).1 = 0 ↔
    r.alloc.ops = true ∧ (s.held idx alg = none → r.alloc.kmalloc = true ∧ r.alloc.init = true) ∧
      (0 < r.keyLen → keyLengthOf alg r.keyLen) := by
  have heinval : einval ≠ 0 := by decide
  unfold setCipher
  split
  · rename_i hops
    simp [hops, heinval]
  · rename_i hops
    split
    · rename_i herr
      obtain ⟨hne, hheld, hno⟩ := takeContext_error herr
      simp only [hne, hheld, false_iff, forall_const]
      rintro ⟨-, ⟨hmem, hinit⟩, -⟩
      simp [hmem, hinit] at hno
    · rename_i c hc
      have hops' : r.alloc.ops = true := by simpa using hops
      have hheld : s.held idx alg = none → r.alloc.kmalloc = true ∧ r.alloc.init = true := by
        rcases takeContext_ok hc with hsome | ⟨-, -, hboth⟩
        · simp [hsome]
        · exact fun _ => hboth
      rw [← putKey_iff (takeContext_alg hc)]
      simp only
      split
      · rename_i hbad
        simp [hbad, heinval]
      · rename_i hgood
        simp only [Bool.not_eq_false] at hgood
        exact ⟨fun _ => ⟨hops', hheld, hgood⟩, fun _ => rfl⟩

theorem setContext_ret_iff : (setContext r idx s).1 = 0 ↔ Takes r idx s := by
  unfold setContext Takes
  simp only
  split
  · rename_i hdis
    simp [hdis]
  · rename_i hdis
    split
    · rename_i hnone
      simp [hdis, hnone, einval]
    · rename_i alg halg
      simp [hdis, halg, setCipher_ret_iff]

theorem setCrypt_txKeyidx_eq_iff (c : Option CryptData) (tx : Fin 4) :
    { s.setCrypt idx c with txKeyidx := tx } = s ↔ s.crypt idx = c ∧ s.txKeyidx = tx := by
  constructor
  · intro hs
    rw [← hs]
    exact ⟨update_self _ _ _, rfl⟩
  · rintro ⟨hcrypt, htx⟩
    rw [(setCrypt_eq_iff c).mpr hcrypt, ← htx]

theorem setCipher_same_iff (sec : Security) :
    (setCipher r idx alg sec s).2.2 = s ↔ CipherNoEffect r idx alg s := by
  unfold setCipher CipherNoEffect
  split
  · rename_i hops
    simp [hops]
  · rename_i hops
    simp only [Bool.not_eq_false] at hops
    simp only [hops, forall_const]
    split
    · rename_i herr
      obtain ⟨-, hheld, hno⟩ := takeContext_error herr
      simp [hheld, hno, setCrypt_eq_iff]
    · rename_i c hc
      have hresult : (if (r.putKey c).1 = false then (einval, sec, s.setCrypt idx (some (r.putKey c).2))
          else (0, r.secAfter idx alg sec, { s.setCrypt idx (some (r.putKey c).2) with
            txKeyidx := if r.setTxKey then idx else s.txKeyidx })).2.2 = s ↔
          s.crypt idx = some (r.putKey c).2 ∧
            ((r.putKey c).1 = true → r.setTxKey = true → s.txKeyidx = idx) := by
        split
        · rename_i hbad
          simp [hbad, setCrypt_eq_iff]
        · rename_i hgood
          simp only [Bool.not_eq_false] at hgood
          rw [setCrypt_txKeyidx_eq_iff]
          simp only [hgood, forall_const]
          split <;> simp [*]
      refine hresult.trans ?_
      rcases takeContext_ok hc with hheld | ⟨hheld, -, hmem, hinit⟩
      · obtain ⟨hcrypt, -⟩ := held_alg hheld
        simp only [hheld, hcrypt, Option.some.injEq, eq_comm (a := c)]
      · have halg : (r.putKey c).2.alg = alg := (putKey_alg r c).trans (takeContext_alg hc)
        have hne : s.crypt idx ≠ some (r.putKey c).2 := by
          intro hcrypt
          simp [Ieee.held, hcrypt, halg] at hheld
        simp [hheld, hmem, hinit, hne]

theorem setContext_same_iff : (setContext r idx s).2.2 = s ↔ NoEffect r idx s := by
  unfold setContext NoEffect
  simp only
  split
  · simp [setCrypt_eq_iff]
  · split
    · rename_i hnone
      simp [hnone]
    · rename_i alg halg
      rw [setCipher_same_iff]
      simp [halg]

theorem setContext_disabled (h : r.disabled = true) : (setContext r idx s).2.2.crypt idx = none := by
  simp [setContext, h]

theorem setContext_cipher (hdis : r.disabled = false) (halg : r.cryptAlg = some alg)
    (h : (setContext r idx s).1 = 0) : ∃ c, c.alg = alg ∧
      (setContext r idx s).2.2.crypt idx = some (r.putKey c).2 := by
  -- Else it has a context of the cipher that was asked for its key.
  simp only [setContext, hdis, halg, Bool.false_eq_true, if_false, setCipher] at h ⊢
  split at h
  · cases h
  · rename_i hops
    rw [if_neg hops]
    cases hc : takeContext r idx alg s with
    | error err =>
      simp only [hc] at h
      exact absurd h (takeContext_error hc).1
    | ok c =>
      refine ⟨c, takeContext_alg hc, ?_⟩
      simp only
      split
      · exact setCrypt_crypt _
      · exact setCrypt_crypt _

/-! ## A set -/

theorem resetFails_setContext : (setContext r idx s).2.2.resetFails = s.resetFails := by
  obtain ⟨c, tx, h⟩ := setContext_ieee r idx s
  rw [h]
  rfl

theorem setSecurity_setContext : (setContext r idx s).2.2.setSecurity = s.setSecurity := by
  obtain ⟨c, tx, h⟩ := setContext_ieee r idx s
  rw [h]
  rfl

theorem set_ret_iff : (rtllibWxSetEncodeExt r s).ret = 0 ↔ r.Succeeds s := by
  have heinval : einval ≠ 0 := by decide
  unfold rtllibWxSetEncodeExt SetExt.Succeeds
  split
  · rename_i hrefused
    simp [hrefused, heinval]
  · rename_i hrefused
    simp only [Bool.not_eq_true] at hrefused
    simp only [resetFails_setContext, hrefused, true_and]
    split
    · rename_i hreset
      simp [hreset, heinval]
    · rename_i hreset
      simp only [Bool.not_eq_true] at hreset
      simp only [hreset, true_and]
      exact setContext_ret_iff

theorem set_ieee (h : r.refused s = false) :
    (rtllibWxSetEncodeExt r s).ieee = (setContext r (r.encoding.slot s.txKeyidx) s).2.2 := by
  rw [rtllibWxSetEncodeExt, h]
  rfl

/-- What changes nothing: a request that is refused at once, and one without an effect for which
nothing is reported. -/
theorem set_same_iff : (rtllibWxSetEncodeExt r s).ieee = s ∧ (rtllibWxSetEncodeExt r s).handed = none ↔
    r.refused s = true ∨ s.setSecurity = false ∧ NoEffect r (r.encoding.slot s.txKeyidx) s := by
  cases hrefused : r.refused s with
  | true => simp [rtllibWxSetEncodeExt, hrefused]
  | false =>
    have hhanded : (rtllibWxSetEncodeExt r s).handed = none ↔ s.setSecurity = false := by
      simp [rtllibWxSetEncodeExt, hrefused, setSecurity_setContext]
    rw [set_ieee hrefused, hhanded, setContext_same_iff]
    simp [and_comm]

/-! ## A get -/

theorem slot_of_index {e : Encoding} (h : 1 ≤ e.index) (tx tx' : Fin 4) : e.slot tx = e.slot tx' := by
  have hindex : e.index ≠ 0 := by omega
  simp [Encoding.slot, hindex]

theorem get_error_iff {alg : BitVec 16} {key : List Byte} (h : g.passes s = false) :
    ¬ Returns g s alg key := by
  rintro ⟨a, ha, -⟩
  simp [rtllibWxGetEncodeExt, h] at ha

theorem get_none (hindex : g.encoding.index ≤ 4) (hroom : 40 ≤ g.encoding.length)
    (hcrypt : s.crypt (g.encoding.slot s.txKeyidx) = none) (h : g.passes s = true) : Returns g s 0 [] := by
  have hgo : ¬ (g.encoding.length < 40 ∨ g.encoding.index > 4 ∨ g.passes s = false) := by
    simp [h]
    omega
  simp only [Returns, rtllibWxGetEncodeExt, hgo, if_false, hcrypt]
  exact ⟨_, rfl, rfl, rfl, rfl⟩

/-- The number that a get has for the cipher: those of TKIP and CCMP are swapped. -/
def reported : CryptAlg → BitVec 16
  | .wep => 1
  | .tkip => 3
  | .ccmp => 2
  | .null => 2

theorem reportedAlg_name (h : c.alg = alg) : reportedAlg c.name = some (reported alg) := by
  rcases alg_cases h with ⟨priv, rfl, rfl⟩ | ⟨priv, rfl, rfl⟩ | ⟨priv, rfl, rfl⟩ | ⟨rfl, rfl⟩
  · rfl
  · rfl
  · rfl
  · rfl

theorem reported_eq_iff {r : EncExt} (h : r.cryptAlg = some alg) : reported alg = r.alg ↔ r.alg = 1 := by
  unfold EncExt.cryptAlg at h
  split at h
  · cases h
    simp [reported, *]
  · split at h
    · cases h
      simp [reported, *]
    · split at h
      · cases h
        simp [reported, *]
      · cases h

theorem get_cipher_iff {alg : CryptAlg} {n : BitVec 16} {key : List Byte}
    (hindex : g.encoding.index ≤ 4) (hroom : 40 ≤ g.encoding.length)
    (hcrypt : s.crypt (g.encoding.slot s.txKeyidx) = some c) (halg : c.alg = alg)
    {len : Nat} (hkey : c.getKey = some ⟨len, some key, none⟩) (hlen : key.length = len)
    (h : g.passes s = true) : Returns g s n key ↔ reported alg = n := by
  subst hlen
  have hgo : ¬ (g.encoding.length < 40 ∨ g.encoding.index > 4 ∨ g.passes s = false) := by
    simp [h]
    omega
  have hget : ∃ a, rtllibWxGetEncodeExt g s = some (.ok a) ∧
      a.alg = reported alg ∧ a.keyLen = BitVec.ofNat 16 key.length ∧ a.key = key := by
    simp only [rtllibWxGetEncodeExt, hgo, if_false, hcrypt, reportedAlg_name halg, hkey]
    exact ⟨_, rfl, rfl, BitVec.ofInt_natCast _ _, rfl⟩
  obtain ⟨a, ha, hnumber, hlen, hbytes⟩ := hget
  constructor
  · rintro ⟨a', ha', hnumber', -⟩
    obtain rfl : a = a' := by simpa using ha.symm.trans ha'
    rw [← hnumber, hnumber']
  · intro hn
    exact ⟨a, ha, hnumber.trans hn, hlen, hbytes⟩

/-! ## Both -/

theorem Asks.slot_eq (h : Asks r g) (tx tx' : Fin 4) : g.encoding.slot tx = r.encoding.slot tx' := by
  have hslot : g.encoding.slot tx = r.encoding.slot tx := by
    simp only [Encoding.slot, h.same]
  exact hslot.trans (slot_of_index h.index.1 _ _)

theorem Asks.passes_set (h : Asks r g) (c : Option CryptData) (tx : Fin 4) :
    g.passes { s.setCrypt idx c with txKeyidx := tx } = g.passes s := by
  have hindex : 1 ≤ g.encoding.index := h.same ▸ h.index.1
  simp only [GetExt.passes, Ieee.setCrypt, slot_of_index hindex tx s.txKeyidx]
  rfl

/-- After an accepted set, a get gets the same if it is for no cipher or WEP, and passes. -/
theorem returns_iff (hok : r.Succeeds s) (h : Asks r g) :
    Returns g (rtllibWxSetEncodeExt r s).ieee r.wanted.1 r.wanted.2 ↔
      (r.disabled = true ∨ r.alg = 1) ∧ g.passes s = true := by
  obtain ⟨hrefused, -, htakes⟩ := hok
  have hret := setContext_ret_iff.mpr htakes
  have hindex : g.encoding.index ≤ 4 := h.same ▸ h.index.2
  have hroom : 40 ≤ g.encoding.length := by have := h.room; omega
  obtain ⟨c, tx, hieee⟩ := setContext_ieee r (r.encoding.slot s.txKeyidx) s
  obtain ⟨s', hs'⟩ : ∃ s', (setContext r (r.encoding.slot s.txKeyidx) s).2.2 = s' := ⟨_, rfl⟩
  have hpasses : g.passes s' = g.passes s := by
    rw [← hs', hieee]
    exact h.passes_set c tx
  have hslot : g.encoding.slot s'.txKeyidx = r.encoding.slot s.txKeyidx := h.slot_eq _ _
  rw [set_ieee hrefused, hs']
  cases hpass : g.passes s with
  | false => simp [get_error_iff (hpasses.trans hpass)]
  | true =>
    simp only [and_true]
    cases hdis : r.disabled with
    | true =>
      have hempty : s'.crypt (g.encoding.slot s'.txKeyidx) = none := by
        rw [hslot, ← hs']
        exact setContext_disabled hdis
      simpa [SetExt.wanted, hdis] using get_none hindex hroom hempty (hpasses.trans hpass)
    | false =>
      obtain ⟨alg, halg, -⟩ : ∃ alg, r.cryptAlg = some alg ∧ _ := htakes.resolve_left (by simp [hdis])
      obtain ⟨c, hc, hcrypt⟩ := setContext_cipher hdis halg hret
      rw [hs', ← hslot] at hcrypt
      have hkey := getKey_putKey hc (cryptAlg_ne_null halg) (h.keyLen alg hdis halg)
      have hbytes : (keyBytes r.key r.keyLen).length = r.keyLen := by simp [keyBytes]
      have hget := get_cipher_iff (n := r.alg) hindex hroom hcrypt ((putKey_alg r c).trans hc) hkey hbytes
        (hpasses.trans hpass)
      simp only [SetExt.wanted, hdis, Bool.false_eq_true, if_false, false_or]
      exact hget.trans (reported_eq_iff halg)

/-- A set and a get agree, and a rejected set changes nothing, exactly if an accepted one is for no
cipher or for WEP, with a get that passes, and a rejected one is refused at once or without an
effect. -/
theorem encode_ext_right_iff (s : Ieee) (r : SetExt) (g : GetExt) : Right s r g ↔
    (r.Succeeds s → Asks r g → (r.disabled = true ∨ r.alg = 1) ∧ g.passes s = true) ∧
    (¬ r.Succeeds s → r.refused s = true ∨
      s.setSecurity = false ∧ NoEffect r (r.encoding.slot s.txKeyidx) s) := by
  rw [← set_same_iff]
  constructor
  · intro h
    refine ⟨fun hok hasks => ?_, fun hno => ?_⟩
    · exact (returns_iff hok hasks).mp (h.accepted (set_ret_iff.mpr hok) hasks)
    · exact h.rejected fun hret => hno (set_ret_iff.mp hret)
  · rintro ⟨haccepted, hrejected⟩
    refine ⟨fun hret hasks => ?_, fun hret => ?_⟩
    · have hok := set_ret_iff.mp hret
      exact (returns_iff hok hasks).mpr (haccepted hok hasks)
    · exact hrejected fun hok => hret (set_ret_iff.mpr hok)

/-! ## The contexts by their keys -/

/-- What the model of the hardware keys sees of a context. -/
def CryptData.seen : CryptData → Cam.Crypt
  | .wep priv => ⟨.wep, priv.key⟩
  | .tkip priv => ⟨.tkip, if priv.keySet then List.ofFn priv.key else []⟩
  | .ccmp priv => ⟨.ccmp, if priv.keySet then List.ofFn priv.key else []⟩
  | .null => ⟨.null, []⟩

structure Ieee.Seen (s : Ieee) (cam : Cam.State) : Prop where
  crypt : cam.crypt = fun i => (s.crypt i).map CryptData.seen
  txKeyidx : cam.txKeyidx = s.txKeyidx
  iwMode : cam.iwMode = s.iwMode

theorem seen_setKey (key : Nat → Byte) (len : Nat) (seq : Fin 6 → Byte) (c : CryptData) :
    (c.setKey key len seq).1 = (c.seen.setKey key len).1 ∧
      (c.setKey key len seq).2.seen = (c.seen.setKey key len).2 := by
  cases c with
  | wep priv =>
    by_cases hlen : len ≤ 13
    · have hlen' : ¬ 13 < len := by omega
      simp [CryptData.setKey, wepSetKey_of_le hlen, Cam.Crypt.setKey, CryptData.seen, hlen']
    · have hlen' : 13 < len := by omega
      simp [CryptData.setKey, wepSetKey_of_lt hlen', Cam.Crypt.setKey, CryptData.seen, hlen']
  | tkip priv =>
    simp only [CryptData.setKey, rtllibTkipSetKey, Cam.Crypt.setKey, CryptData.seen]
    by_cases hlen : len = 32
    · simp [hlen, ← ofFn_key]
    · have hlen' : (len : Int) ≠ 32 := by omega
      by_cases hzero : len = 0
      · simp [hzero]
      · simp [hlen, hlen', hzero]
  | ccmp priv =>
    simp only [CryptData.setKey, rtllibCcmpSetKey, Cam.Crypt.setKey, CryptData.seen]
    by_cases hlen : len = 16
    · simp [hlen, ← ofFn_key]
    · have hlen' : (len : Int) ≠ 16 := by omega
      by_cases hzero : len = 0
      · simp [hzero]
      · simp [hlen, hlen', hzero]
  | null => exact ⟨rfl, rfl⟩

theorem seen_held {cam : Cam.State} (h : s.Seen cam) (idx : Fin 4) (alg : CryptAlg) :
    (cam.crypt idx).filter (fun c => c.alg = alg) = (s.held idx alg).map CryptData.seen := by
  have hcrypt : cam.crypt idx = (s.crypt idx).map CryptData.seen := congrFun h.crypt idx
  rw [hcrypt, Ieee.held]
  cases s.crypt idx with
  | none => rfl
  | some c => cases c <;> cases alg <;> rfl

theorem seen_init (alg : CryptAlg) : (r.init idx alg).seen = ⟨alg, []⟩ := by
  cases alg <;> rfl

theorem Ieee.Seen.setCrypt {cam : Cam.State} (h : s.Seen cam) (idx : Fin 4) (c : Option CryptData) :
    (s.setCrypt idx c).Seen (cam.setCrypt idx (c.map CryptData.seen)) := by
  refine ⟨?_, h.txKeyidx, h.iwMode⟩
  funext i
  by_cases hi : i = idx
  · simp [Ieee.setCrypt, Cam.State.setCrypt, hi]
  · simp [Ieee.setCrypt, Cam.State.setCrypt, hi, h.crypt]

theorem Ieee.Seen.install {cam : Cam.State} (h : s.Seen cam) {key : Cam.Crypt} (hc : c.seen = key)
    (n size : Nat) : (s.setCrypt idx (some c)).Seen ((cam.readKey n size).setCrypt idx (some key)) := by
  have hread : s.Seen (cam.readKey n size) := ⟨h.crypt, h.txKeyidx, h.iwMode⟩
  rw [← hc]
  exact hread.setCrypt idx (some c)

theorem Ieee.Seen.sendWith {cam : Cam.State} (h : s.Seen cam) (tx : Bool) (idx : Fin 4) :
    Ieee.Seen { s with txKeyidx := if tx then idx else s.txKeyidx }
      { cam with txKeyidx := if tx then idx else cam.txKeyidx } :=
  ⟨h.crypt, by rw [h.txKeyidx], h.iwMode⟩

theorem seen_takeContext (h : takeContext r idx alg s = .ok c) :
    c.seen = ((s.held idx alg).map CryptData.seen).getD ⟨alg, []⟩ := by
  rcases takeContext_ok h with hheld | ⟨hheld, rfl, -⟩
  · simp [hheld]
  · simp [hheld, seen_init]

theorem setCipher_seen {cam : Cam.State} (h : s.Seen cam) (sec : Security) :
    (setCipher r idx alg sec s).2.2.Seen
        (Cam.putKey alg idx r.key r.keyLen r.alloc r.setTxKey cam).state ∧
      ((setCipher r idx alg sec s).1 = 0 ↔
        (Cam.putKey alg idx r.key r.keyLen r.alloc r.setTxKey cam).err = none) := by
  have heinval : einval ≠ 0 := by decide
  unfold setCipher Cam.putKey
  simp only [seen_held h]
  cases hops : r.alloc.ops with
  | false => simp [heinval, h]
  | true =>
    simp only [Bool.not_true, reduceCtorEq, if_false]
    cases hc : takeContext r idx alg s with
    | error err =>
      obtain ⟨hne, hheld, hno⟩ := takeContext_error hc
      have hdrop : (s.setCrypt idx none).Seen (cam.setCrypt idx none) := h.setCrypt idx none
      simp only [hheld, Option.map_none, Option.isNone_none, Bool.true_and]
      cases hmem : r.alloc.kmalloc with
      | false => exact ⟨hdrop, by simp [hne]⟩
      | true =>
        rw [hno.resolve_left (by simp [hmem])]
        exact ⟨hdrop, by simp [hne]⟩
    | ok c =>
      have hseen := seen_takeContext hc
      have hmade : ((s.held idx alg).map CryptData.seen).isNone = true →
          r.alloc.kmalloc = true ∧ r.alloc.init = true := by
        intro hnone
        rcases takeContext_ok hc with hheld | ⟨-, -, hboth⟩
        · simp [hheld] at hnone
        · exact hboth
      obtain ⟨old, hold⟩ : ∃ old, (s.held idx alg).map CryptData.seen = old := ⟨_, rfl⟩
      rw [hold] at hseen hmade ⊢
      have hmem : (old.isNone && !r.alloc.kmalloc) = false := by
        cases hnone : old.isNone with
        | false => rfl
        | true => simp [(hmade hnone).1]
      have hinit : (old.isNone && !r.alloc.init) = false := by
        cases hnone : old.isNone with
        | false => rfl
        | true => simp [(hmade hnone).2]
      simp only [hmem, hinit, Bool.false_eq_true, if_false, SetExt.putKey]
      by_cases hlen : 0 < r.keyLen
      · obtain ⟨hok, hkey⟩ := seen_setKey r.key r.keyLen r.rxSeq c
        rw [hseen] at hok hkey
        obtain ⟨⟨ok, key⟩, hset⟩ : ∃ k, (old.getD ⟨alg, []⟩).setKey r.key r.keyLen = k := ⟨_, rfl⟩
        rw [hset] at hok hkey
        simp only [hlen, if_true, hok, hset, true_and]
        cases ok with
        | false => exact ⟨h.install hkey _ _, by simp [heinval]⟩
        | true => exact ⟨(h.install hkey _ _).sendWith _ _, by simp⟩
      · simp only [hlen, if_false, false_and, reduceCtorEq]
        exact ⟨(h.install hseen _ _).sendWith _ _, by simp⟩

/-- `rtllib_wx_set_encode_ext` in the model of the hardware keys is this one, seen by the keys. -/
theorem set_seen {cam : Cam.State} (h : s.Seen cam) (hreset : s.resetFails = false) :
    (rtllibWxSetEncodeExt r s).ieee.Seen (Cam.rtllibWxSetEncodeExt r.toEncExt cam).state ∧
      ((rtllibWxSetEncodeExt r s).ret = 0 ↔ (Cam.rtllibWxSetEncodeExt r.toEncExt cam).err = none) := by
  have heinval : einval ≠ 0 := by decide
  unfold rtllibWxSetEncodeExt Cam.rtllibWxSetEncodeExt SetExt.refused
  simp only [resetFails_setContext, hreset, Bool.false_eq_true, if_false, h.txKeyidx, h.iwMode,
    Bool.or_eq_true, decide_eq_true_eq]
  by_cases hindex : r.encoding.index > 4
  · simp [hindex, h, heinval]
  · simp only [hindex, false_or, if_false]
    split
    · simp [h, heinval]
    · unfold setContext
      simp only
      split
      · exact ⟨h.setCrypt _ none, by simp⟩
      · cases r.cryptAlg with
        | none => simp [h, heinval]
        | some alg => exact setCipher_seen h _

/-- A device in infrastructure mode, with a context in the first slot or without -/
def infraIeee (c : Option CryptData) : Ieee :=
  ⟨fun i => if i = 0 then c else none, 0, .infra, ⟨0, false, fun _ => 0, 0, 0⟩, false, false, 0⟩

def tkipRequest (kmalloc : Bool) : SetExt :=
  ⟨⟨⟨1, 72⟩, 2, false, true, 32, fun i => BitVec.ofNat 8 i, ⟨kmalloc, true, true⟩⟩,
    fun _ => 0, 0, fun _ => 0⟩

def tkipGet : GetExt := ⟨⟨1, 72⟩, false, 2⟩

theorem tkipGet_asks (kmalloc : Bool) : Asks (tkipRequest kmalloc) tkipGet where
  index := by cases kmalloc <;> decide
  same := rfl
  keyLen := by
    intro alg _ halg
    obtain rfl : CryptAlg.tkip = alg := by simpa [EncExt.cryptAlg, tkipRequest] using halg
    rfl
  room := by
    simp [SetExt.wanted, tkipRequest, EncExt.disabled, Encoding.disabled, keyBytes, tkipGet]

/-- A key for TKIP is reported as one for CCMP, and a set for which there is no memory takes away
what was in the slot. -/
theorem encode_ext_not_right : ¬ Right (infraIeee none) (tkipRequest true) tkipGet ∧
    ¬ Right (infraIeee (some (.wep ⟨0, [1, 2, 3, 4, 5], 0⟩))) (tkipRequest false) tkipGet := by
  constructor
  · intro h
    have hok : (tkipRequest true).Succeeds (infraIeee none) :=
      ⟨by decide, by decide, .inr ⟨.tkip, by decide, rfl, fun _ => ⟨rfl, rfl⟩, fun _ => rfl⟩⟩
    have hreturns := h.accepted (set_ret_iff.mpr hok) (tkipGet_asks true)
    obtain ⟨hwep, -⟩ := (returns_iff hok (tkipGet_asks true)).mp hreturns
    exact absurd hwep (by decide)
  · intro h
    obtain ⟨hsame, -⟩ := h.rejected (by decide)
    have hslot := congrArg (fun s => (s.crypt 0).isSome) hsame
    exact absurd hslot (by decide)

end Rtl8190.Wx.EncodeExt
