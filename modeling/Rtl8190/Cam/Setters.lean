import Rtl8190.Cam.Code

/-!
# The setters of rtllib

They change slots, and nothing that has to do with the CAM. Which requests they accept, and whether
they set a slot, is decided before.
-/

open Rtl8190.Memory Function

namespace Rtl8190.Cam

variable {s s' : State}

structure Untouched (s s' : State) : Prop where
  swcamtable : s'.swcamtable = s.swcamtable
  cam : s'.cam = s.cam
  pairwise : s'.pairwiseKeyType = s.pairwiseKeyType
  group : s'.groupKeyType = s.groupKeyType
  iwMode : s'.iwMode = s.iwMode
  bssid : s'.bssid = s.bssid
  devAddr : s'.devAddr = s.devAddr
  apMacAddr : s'.apMacAddr = s.apMacAddr
  written : s'.written = s.written

/-- What is used beyond what was used before lies inside its array. -/
def Within (s s' : State) : Prop := ∃ l, s'.accesses = s.accesses ++ l ∧ ∀ a ∈ l, a.Ok

theorem Within.refl (h : s'.accesses = s.accesses) : Within s s' :=
  ⟨[], by rw [h, List.append_nil], fun a ha => absurd ha List.not_mem_nil⟩

theorem within_readKey {n size : Nat} (h : n ≤ size) : Within s (s.readKey n size) := by
  refine ⟨_, rfl, fun a ha => ?_⟩
  obtain ⟨i, hi, rfl⟩ := List.mem_map.mp ha
  exact Nat.lt_of_lt_of_le (List.mem_range.mp hi) h

structure Setter (s s' : State) : Prop extends Untouched s s' where
  within : Within s s'

theorem Setter.same (h : Untouched s s') (ha : s'.accesses = s.accesses) : Setter s s' :=
  ⟨h, Within.refl ha⟩

theorem Untouched.refl (s : State) : Untouched s s := ⟨rfl, rfl, rfl, rfl, rfl, rfl, rfl, rfl, rfl⟩

/-! ## `rtllib_wx_set_encode` -/

def State.hasAlg (s : State) (i : Fin 4) (alg : CryptAlg) : Bool :=
  ((s.crypt i).filter fun c => c.alg = alg).isSome

theorem wxSetEncodeKey_setter (r : Enc) (key : Fin 4) (crypt : Crypt) (new : Bool) (s : State) :
    Setter s (wxSetEncodeKey r key crypt new s).state := by
  unfold wxSetEncodeKey
  simp only
  split
  · exact ⟨⟨rfl, rfl, rfl, rfl, rfl, rfl, rfl, rfl, rfl⟩, within_readKey (s := { s with authMode := _ }) le_rfl⟩
  · exact Setter.same ⟨rfl, rfl, rfl, rfl, rfl, rfl, rfl, rfl, rfl⟩ rfl

theorem rtllibWxSetEncode_setter (r : Enc) (s : State) : Setter s (rtllibWxSetEncode r s).state := by
  unfold rtllibWxSetEncode
  simp only
  split
  · exact Setter.same (Untouched.refl s) rfl
  · split
    · exact Setter.same ⟨rfl, rfl, rfl, rfl, rfl, rfl, rfl, rfl, rfl⟩ rfl
    · split
      · exact wxSetEncodeKey_setter _ _ _ _ _
      · split
        · exact Setter.same ⟨rfl, rfl, rfl, rfl, rfl, rfl, rfl, rfl, rfl⟩ rfl
        · split
          · exact Setter.same ⟨rfl, rfl, rfl, rfl, rfl, rfl, rfl, rfl, rfl⟩ rfl
          · have h := wxSetEncodeKey_setter r (r.encoding.slot s.txKeyidx) ⟨.wep, []⟩ true
              (s.setCrypt (r.encoding.slot s.txKeyidx) none)
            exact ⟨⟨h.swcamtable, h.cam, h.pairwise, h.group, h.iwMode, h.bssid, h.devAddr, h.apMacAddr,
              h.written⟩, h.within⟩

/-- The requests that `rtllib_wx_set_encode` refuses. -/
def Enc.Rejected (r : Enc) (s : State) : Prop :=
  4 < r.encoding.index ∨ (r.encoding.disabled = false ∧
    s.hasAlg (r.encoding.slot s.txKeyidx) .wep = false ∧
    (r.alloc.kmalloc && (r.alloc.ops && r.alloc.init)) = false)

theorem wxSetEncodeKey_err (r : Enc) (key : Fin 4) (crypt : Crypt) (new : Bool) (s : State) :
    (wxSetEncodeKey r key crypt new s).err = none := by
  unfold wxSetEncodeKey
  simp only
  split
  · rfl
  · rfl

theorem rtllibWxSetEncode_err_iff (r : Enc) (s : State) :
    (rtllibWxSetEncode r s).err = none ↔ ¬ r.Rejected s := by
  unfold rtllibWxSetEncode Enc.Rejected State.hasAlg
  simp only
  split
  · rename_i hindex
    simp only [hindex, true_or, not_true_eq_false, reduceCtorEq]
  · rename_i hindex
    simp only [hindex, false_or]
    cases hdisabled : r.encoding.disabled with
    | true => simp
    | false =>
      simp only [Bool.false_eq_true, if_false, true_and]
      cases (s.crypt (r.encoding.slot s.txKeyidx)).filter fun c => decide (c.alg = .wep) with
      | some c => simp [wxSetEncodeKey_err]
      | none =>
        cases hmem : r.alloc.kmalloc with
        | false => simp
        | true =>
          cases hinit : (r.alloc.ops && r.alloc.init) with
          | false => simp
          | true => simp [wxSetEncodeKey_err]

theorem wxSetEncodeKey_slot_iff (r : Enc) (key : Fin 4) (crypt : Crypt) (new : Bool) (s : State) :
    (wxSetEncodeKey r key crypt new s).slot = none ↔
      r.encoding.length = 0 ∧ crypt.key ≠ [] ∧ new = false := by
  unfold wxSetEncodeKey
  simp only
  split
  · rename_i hlen
    simp only [reduceCtorEq, false_iff]
    omega
  · rename_i hlen
    simp only [show r.encoding.length = 0 by omega, true_and]
    cases hkey : crypt.key with
    | nil => simp
    | cons b l => cases new with
      | false => simp
      | true => simp

/-- An accepted request sets no slot if it takes keys away, or only chooses the key to send with. -/
theorem rtllibWxSetEncode_slot_iff {r : Enc} (h : ¬ r.Rejected s) :
    (rtllibWxSetEncode r s).slot = none ↔ r.encoding.disabled = true ∨ (r.encoding.length = 0 ∧
      ∃ c, s.crypt (r.encoding.slot s.txKeyidx) = some c ∧ c.alg = .wep ∧ c.key ≠ []) := by
  have herr := (rtllibWxSetEncode_err_iff r s).mpr h
  unfold rtllibWxSetEncode at herr ⊢
  simp only at herr ⊢
  split at herr
  · cases herr
  · rename_i hindex
    rw [if_neg hindex]
    cases hdisabled : r.encoding.disabled with
    | true => simp
    | false =>
      simp only [hdisabled, Bool.false_eq_true, if_false, false_or] at herr ⊢
      cases hold : (s.crypt (r.encoding.slot s.txKeyidx)).filter fun c => decide (c.alg = .wep) with
      | some c =>
        obtain ⟨hcrypt, halg⟩ := Option.filter_eq_some_iff.mp hold
        simp only [wxSetEncodeKey_slot_iff, hcrypt, and_true, Option.some.injEq, exists_eq_left',
          of_decide_eq_true halg, true_and]
      | none =>
        have hno : ¬ ∃ c, s.crypt (r.encoding.slot s.txKeyidx) = some c ∧ c.alg = .wep ∧ c.key ≠ [] := by
          rintro ⟨c, hcrypt, halg, -⟩
          have hfilter := Option.filter_eq_none_iff.mp hold c hcrypt
          exact hfilter (decide_eq_true halg)
        simp only [hold] at herr
        simp only [hno, and_false, iff_false]
        split at herr
        · cases herr
        · split at herr
          · cases herr
          · rename_i hmem hinit
            simp only [if_neg hmem, if_neg hinit, wxSetEncodeKey_slot_iff]
            simp

/-! ## A key for a cipher -/

/-- `ops->set_key` takes a key of the length. -/
def CryptAlg.takesLen (alg : CryptAlg) (len : Nat) : Prop :=
  match alg with
  | .wep => len ≤ 13
  | .tkip => len = 32 ∨ len = 0
  | .ccmp => len = 16 ∨ len = 0
  | .null => True

theorem setKey_iff (c : Crypt) (key : Nat → Byte) (len : Nat) :
    (c.setKey key len).1 = true ↔ c.alg.takesLen len := by
  unfold Crypt.setKey CryptAlg.takesLen
  cases c.alg with
  | wep =>
    simp only
    split
    · simp_all
    · simp_all
  | tkip =>
    simp only
    split
    · simp_all
    · simp_all
  | ccmp =>
    simp only
    split
    · simp_all
    · simp_all
  | null => simp

theorem putKey_setter (alg : CryptAlg) (i : Fin 4) (key : Nat → Byte) (keyLen : Nat) (alloc : Alloc)
    (tx : Bool) (s : State) : Setter s (putKey alg i key keyLen alloc tx s).state := by
  have hread (n : Nat) (hn : n = keyLen ∨ n = 0) : Within s (s.readKey n keyLen) :=
    within_readKey (by omega)
  unfold putKey
  simp only
  split
  · exact Setter.same (Untouched.refl s) rfl
  · split
    · exact Setter.same ⟨rfl, rfl, rfl, rfl, rfl, rfl, rfl, rfl, rfl⟩ rfl
    · split
      · exact Setter.same ⟨rfl, rfl, rfl, rfl, rfl, rfl, rfl, rfl, rfl⟩ rfl
      · have hlen := hread (if ((((s.crypt i).filter fun c => decide (c.alg = alg)).getD ⟨alg, []⟩).setKey
          key keyLen).1 = true then keyLen else 0) (by split <;> simp)
        split
        · exact ⟨⟨rfl, rfl, rfl, rfl, rfl, rfl, rfl, rfl, rfl⟩, hlen⟩
        · exact ⟨⟨rfl, rfl, rfl, rfl, rfl, rfl, rfl, rfl, rfl⟩, hlen⟩

/-- A key is taken if its length fits, and the cipher is there or can be put there. -/
def PutAccepts (alg : CryptAlg) (i : Fin 4) (keyLen : Nat) (alloc : Alloc) (s : State) : Prop :=
  alloc.ops = true ∧ (s.hasAlg i alg = true ∨ (alloc.kmalloc && alloc.init) = true) ∧
    (keyLen = 0 ∨ alg.takesLen keyLen)

theorem putKey_err_iff (alg : CryptAlg) (i : Fin 4) (key : Nat → Byte) (keyLen : Nat) (alloc : Alloc)
    (tx : Bool) (s : State) :
    (putKey alg i key keyLen alloc tx s).err = none ↔ PutAccepts alg i keyLen alloc s := by
  have halg : (((s.crypt i).filter fun c => decide (c.alg = alg)).getD ⟨alg, []⟩).alg = alg := by
    cases hold : (s.crypt i).filter fun c => decide (c.alg = alg) with
    | none => rfl
    | some c => exact of_decide_eq_true (Option.filter_eq_some_iff.mp hold).2
  unfold putKey PutAccepts State.hasAlg
  simp only
  have hset := setKey_iff (((s.crypt i).filter fun c => decide (c.alg = alg)).getD ⟨alg, []⟩) key keyLen
  rw [halg] at hset
  generalize Crypt.setKey (((s.crypt i).filter fun c => decide (c.alg = alg)).getD ⟨alg, []⟩) key keyLen = k
    at hset
  -- Once there is a cipher, only the length of the key can be wrong.
  have hlast (o : State) (o' : State) (o'' : Option (Fin 4)) :
      (if 0 < keyLen ∧ k.1 = false then (⟨some .einval, some i, o⟩ : Outcome) else ⟨none, o'', o'⟩).err =
        none ↔ keyLen = 0 ∨ alg.takesLen keyLen := by
    rw [← hset]
    split
    · rename_i hno
      simp only [reduceCtorEq, hno.2, Bool.false_eq_true, or_false, false_iff]
      omega
    · rename_i hno
      simp only [true_iff]
      by_contra hcon
      obtain ⟨hlen, hk⟩ := not_or.mp hcon
      exact hno ⟨Nat.pos_of_ne_zero hlen, Bool.not_eq_true _ ▸ hk⟩
  cases hops : alloc.ops with
  | false => simp
  | true =>
    cases hold : ((s.crypt i).filter fun c => decide (c.alg = alg)) with
    | some c =>
      simp only [Bool.not_true, Bool.false_eq_true, if_false, Option.isNone_some, Bool.false_and,
        Option.isSome_some, true_or, true_and]
      exact hlast _ _ _
    | none =>
      cases hmem : alloc.kmalloc with
      | false => simp
      | true => cases hinit : alloc.init with
        | false => simp
        | true =>
          simp only [Bool.not_true, Bool.false_eq_true, if_false, Option.isNone_none, Bool.and_false,
            Option.isSome_none, Bool.and_self, or_true, true_and]
          exact hlast _ _ _

/-- An accepted key sets no slot if it is empty, or not for a key, and the cipher is there. -/
theorem putKey_slot_iff {alg : CryptAlg} {i : Fin 4} {key : Nat → Byte} {keyLen : Nat} {alloc : Alloc}
    {tx : Bool} (h : PutAccepts alg i keyLen alloc s) :
    (putKey alg i key keyLen alloc tx s).slot = none ↔
      (keyLen = 0 ∨ alg = .null) ∧ s.hasAlg i alg = true := by
  have herr := (putKey_err_iff alg i key keyLen alloc tx s).mpr h
  unfold putKey State.hasAlg at *
  simp only at herr ⊢
  split at herr
  · cases herr
  · rename_i hops
    rw [if_neg hops]
    split at herr
    · cases herr
    · rename_i hmem
      rw [if_neg hmem]
      split at herr
      · cases herr
      · rename_i hinit
        rw [if_neg hinit]
        split at herr
        · cases herr
        · rename_i hset
          rw [if_neg hset]
          cases (s.crypt i).filter fun c => decide (c.alg = alg) with
          | none => simp
          | some c =>
            simp only [Option.isNone_some, Bool.false_eq_true, or_false, Option.isSome_some, and_true]
            split
            · rename_i hkeyed
              simp only [reduceCtorEq, false_iff, not_or]
              exact ⟨by omega, hkeyed.2⟩
            · rename_i hkeyed
              simp only [true_iff]
              by_contra hno
              obtain ⟨hlen, hnull⟩ := not_or.mp hno
              exact hkeyed ⟨by omega, hnull⟩

/-! ## `rtllib_wx_set_encode_ext` -/

theorem rtllibWxSetEncodeExt_setter (r : EncExt) (s : State) :
    Setter s (rtllibWxSetEncodeExt r s).state := by
  unfold rtllibWxSetEncodeExt
  simp only
  split
  · exact Setter.same (Untouched.refl s) rfl
  · split
    · exact Setter.same (Untouched.refl s) rfl
    · split
      · exact Setter.same ⟨rfl, rfl, rfl, rfl, rfl, rfl, rfl, rfl, rfl⟩ rfl
      · split
        · exact Setter.same (Untouched.refl s) rfl
        · exact putKey_setter _ _ _ _ _ _ _

def EncExt.SlotOk (r : EncExt) (s : State) : Prop :=
  r.encoding.index ≤ 4 ∧
    (r.groupKey = true ∨ ((r.encoding.slot s.txKeyidx = 0 ∨ r.alg = 1) ∧ s.iwMode = .infra))

/-- A request that takes a cipher away is accepted for every slot that is allowed. -/
theorem rtllibWxSetEncodeExt_err_iff {r : EncExt} (h : r.disabled = true) (s : State) :
    (rtllibWxSetEncodeExt r s).err = none ↔ r.SlotOk s := by
  unfold rtllibWxSetEncodeExt EncExt.SlotOk
  simp only [h, if_true]
  split
  · rename_i hindex
    simp only [reduceCtorEq, false_iff]
    omega
  · rename_i hindex
    simp only [show r.encoding.index ≤ 4 by omega, true_and]
    cases hgroup : r.groupKey with
    | true => simp
    | false =>
      simp only [Bool.not_false, Bool.true_and, Bool.or_eq_true, Bool.and_eq_true, decide_eq_true_eq,
        Bool.false_eq_true, false_or]
      split
      · rename_i hno
        simp only [reduceCtorEq, false_iff]
        tauto
      · rename_i hno
        simp only [true_iff]
        tauto

theorem rtllibWxSetEncodeExt_slot {r : EncExt} (h : r.disabled = true) (s : State) :
    (rtllibWxSetEncodeExt r s).slot = none := by
  unfold rtllibWxSetEncodeExt
  simp only [h, if_true]
  split
  · rfl
  · split
    · rfl
    · rfl

/-! ## `rtllib_wpa_supplicant_ioctl` -/

theorem rtllibWpaSetEncryption_setter (r : Wpa) (s : State) :
    Setter s (rtllibWpaSetEncryption r s).state := by
  unfold rtllibWpaSetEncryption
  simp only
  split
  · exact Setter.same (Untouched.refl s) rfl
  · split
    · exact Setter.same (Untouched.refl s) rfl
    · split
      · exact Setter.same (Untouched.refl s) rfl
      · split
        · exact Setter.same ⟨rfl, rfl, rfl, rfl, rfl, rfl, rfl, rfl, rfl⟩ rfl
        · split
          · exact Setter.same (Untouched.refl s) rfl
          · exact putKey_setter _ _ _ _ _ _ _

theorem rtllibWpaSupplicantIoctl_setter (r : Wpa) (s : State) :
    Setter s (rtllibWpaSupplicantIoctl r s).state := by
  have henc := rtllibWpaSetEncryption_setter r s
  unfold rtllibWpaSupplicantIoctl
  split
  · exact Setter.same (Untouched.refl s) rfl
  · split
    · exact Setter.same (Untouched.refl s) rfl
    · split
      · exact Setter.same (Untouched.refl s) rfl
      · simp only
        split
        · exact henc
        · exact henc

structure Wpa.Accepts (r : Wpa) (s : State) : Prop where
  length : r.length = sizeofParam + r.keyLen
  pointer : r.pointer = true
  memory : (r.kmalloc' && r.copyFromUser' && r.copyToUser) = true
  staAddr : r.staAddr = broadcastAddr
  idx : r.idx.toNat < 4
  alg : r.alg = .none ∨ ∃ alg, r.alg.cryptAlg = some alg ∧
    PutAccepts alg (Fin.ofNat 4 r.idx.toNat) r.keyLen r.alloc s

theorem rtllibWpaSetEncryption_err_iff (r : Wpa) (s : State) :
    (rtllibWpaSetEncryption r s).err = none ↔ r.length = sizeofParam + r.keyLen ∧
      r.staAddr = broadcastAddr ∧ r.idx.toNat < 4 ∧
      (r.alg = .none ∨ ∃ alg, r.alg.cryptAlg = some alg ∧
        PutAccepts alg (Fin.ofNat 4 r.idx.toNat) r.keyLen r.alloc s) := by
  unfold rtllibWpaSetEncryption
  simp only
  split
  · simp_all
  · rename_i hlen
    split
    · simp_all
    · rename_i hsta
      split
      · rename_i hidx
        simp only [reduceCtorEq, false_iff]
        omega
      · rename_i hidx
        simp only [show r.length = sizeofParam + r.keyLen by omega, not_not.mp hsta,
          show r.idx.toNat < 4 by omega, true_and]
        split
        · rename_i halg
          simp [halg]
        · rename_i halg
          cases hcrypt : r.alg.cryptAlg with
          | none => simp [halg]
          | some alg => simp [halg, putKey_err_iff]

theorem rtllibWpaSupplicantIoctl_err_iff (r : Wpa) (s : State) :
    (rtllibWpaSupplicantIoctl r s).err = none ↔ r.Accepts s := by
  have henc := rtllibWpaSetEncryption_err_iff r s
  unfold rtllibWpaSupplicantIoctl
  constructor
  · intro h
    split at h
    · cases h
    · rename_i hpointer
      split at h
      · cases h
      · rename_i hmem
        split at h
        · cases h
        · rename_i hcopy
          simp only at h
          split at h
          · cases h
          · rename_i hout
            obtain ⟨hlen, hsta, hidx, halg⟩ := henc.mp h
            have hout' : r.copyToUser = true := by
              by_contra hno
              exact hout ⟨h, Bool.not_eq_true _ ▸ hno⟩
            exact ⟨hlen, by simpa using (not_or.mp hpointer).2,
              by simp [Bool.not_eq_false _ ▸ hmem, Bool.not_eq_false _ ▸ hcopy, hout'], hsta, hidx, halg⟩
  · intro h
    have hmem := h.memory
    simp only [Bool.and_eq_true] at hmem
    have hpointer := h.pointer
    have hlen := h.length
    rw [if_neg (by simp only [hpointer, reduceCtorEq, or_false]; omega), if_neg (by simp [hmem.1.1]),
      if_neg (by simp [hmem.1.2])]
    simp only
    rw [if_neg (by simp [hmem.2])]
    exact henc.mpr ⟨h.length, h.staAddr, h.idx, h.alg⟩

theorem WpaAlg.cryptAlg_null {w : WpaAlg} {alg : CryptAlg} (h : w.cryptAlg = some alg) :
    alg = .null ↔ w = .null := by
  cases w <;> cases h <;> decide

/-- An accepted request sets no slot if it takes the cipher away, or has no key for a cipher that is
there. -/
theorem rtllibWpaSupplicantIoctl_slot_iff {r : Wpa} (h : r.Accepts s) :
    (rtllibWpaSupplicantIoctl r s).slot = none ↔ r.alg = .none ∨ ((r.keyLen = 0 ∨ r.alg = .null) ∧
      ∃ alg, r.alg.cryptAlg = some alg ∧ s.hasAlg (Fin.ofNat 4 r.idx.toNat) alg = true) := by
  have hmem := h.memory
  simp only [Bool.and_eq_true] at hmem
  have hpointer := h.pointer
  have hlen := h.length
  have hidx := h.idx
  have hslot : (rtllibWpaSupplicantIoctl r s).slot = (rtllibWpaSetEncryption r s).slot := by
    unfold rtllibWpaSupplicantIoctl
    rw [if_neg (by simp only [hpointer, reduceCtorEq, or_false]; omega), if_neg (by simp [hmem.1.1]),
      if_neg (by simp [hmem.1.2])]
    simp only
    rw [if_neg (by simp [hmem.2])]
  rw [hslot]
  unfold rtllibWpaSetEncryption
  rw [if_neg (not_not.mpr hlen), if_neg (not_not.mpr h.staAddr), if_neg (by omega)]
  simp only
  rcases h.alg with halg | ⟨alg, halg, hput⟩
  · simp [halg]
  · have hno : ¬ r.alg = .none := by
      intro hno
      rw [hno] at halg
      cases halg
    rw [if_neg hno, halg]
    simp only [putKey_slot_iff hput, WpaAlg.cryptAlg_null halg, hno, false_or, Option.some.injEq,
      exists_eq_left']

end Rtl8190.Cam
