import Rtl8190.Cam.Restore

/-!
# The installation of a key

`setKey` writes eight words and takes the last two from behind the key, so no request that comes to
it keeps to the key. The requests that do not come to it can still undo what they then refuse.
-/

open Rtl8190.Memory Function

namespace Rtl8190.Cam

/-! ## The property -/

def Crypt.keyType (c : Crypt) : BitVec 16 :=
  match c.alg with
  | .wep => if c.key.length = 13 then keyTypeWep104 else keyTypeWep40
  | .tkip => keyTypeTkip
  | .ccmp => keyTypeCcmp
  | .null => keyTypeNa

def Holds (w : Fin 8 → BitVec 32) (i : Fin 4) (c : Crypt) : Prop :=
  ∃ mac, SameEntry w (Descr.words ⟨BitVec.ofNat 8 i, c.keyType, mac⟩ fun j => c.key.getD j 0)

/-- The hardware, its shadow and the key types are the same. -/
structure SameHw (s s' : State) : Prop where
  cam : s'.cam = s.cam
  swcamtable : s'.swcamtable = s.swcamtable
  pairwise : s'.pairwiseKeyType = s.pairwiseKeyType
  group : s'.groupKeyType = s.groupKeyType

/-- The outcome of a request in the state `s` is as it should be. -/
structure Proper (s : State) (o : Outcome) : Prop where
  bounded : ∀ a ∈ o.state.accesses, a.Ok
  atomic : o.err ≠ none → SameHw s o.state
  agrees : o.err = none → ∀ i, o.slot = some i → ∃ n ∈ o.state.written, n < totalCamEntry ∧
    ∃ c, o.state.crypt i = some c ∧ Holds (o.state.cam n) i c

/-! ## The condition -/

structure NoKeys (s : State) : Prop where
  cam : s.cam = fun _ _ => 0
  swcamtable : ∀ n < totalCamEntry, s.swcamtable n = SwCam.unused
  pairwise : s.pairwiseKeyType = keyTypeNa
  group : s.groupKeyType = keyTypeNa

/-- The request does not come to `setKey`, and what it does besides is in order. -/
def Enc.Harmless (r : Enc) (s : State) : Prop :=
  s.bHwRadioOff = true ∨ s.up = false ∨
    if r.encoding.disabled = true then r.encoding.index ≤ 4 ∨ NoKeys s
    else if r.encoding.length = 0 then r.Rejected s ∨
      ∃ c, s.crypt (r.encoding.slot s.txKeyidx) = some c ∧ c.alg = .wep ∧ c.key ≠ []
    else 16 ≤ r.encoding.length ∧ r.Rejected s

def EncExt.Harmless (r : EncExt) (s : State) : Prop :=
  s.bHwRadioOff = true ∨ (r.disabled = true ∧ (r.SlotOk s ∨ NoKeys s))

def Wpa.oldType (r : Wpa) (s : State) : BitVec 16 :=
  if r.setTx = true then s.pairwiseKeyType else s.groupKeyType

def Wpa.Harmless (r : Wpa) (s : State) : Prop :=
  (r.length < sizeofParam ∨ r.pointer = false ∨ r.kmalloc = false ∨ r.copyFromUser = false) ∨
    (r.keyType (r.oldType s) = keyTypeNa ∧ (r.setTx = true ∨ sizeofParam + 16 ≤ r.length) ∧
      (r.Accepts s ∨ r.oldType s = keyTypeNa) ∧
      (r.Accepts s → r.alg = .none ∨ ((r.keyLen = 0 ∨ r.alg = .null) ∧
        ∃ alg, r.alg.cryptAlg = some alg ∧ s.hasAlg (Fin.ofNat 4 r.idx.toNat) alg = true)))

def Harmless (s : State) : Request → Prop
  | .enc r => r.Harmless s
  | .encExt r => r.Harmless s
  | .wpa r => r.Harmless s

/-! ## Requests that install nothing -/

variable {s s₁ s' : State}

theorem Within.ok (h : Within s s') (hs : s.accesses = []) : ∀ a ∈ s'.accesses, a.Ok := by
  obtain ⟨l, heq, hl⟩ := h
  rw [heq, hs, List.nil_append]
  exact hl

theorem Within.mem (h : Within s s') {a : Access} (ha : a ∈ s.accesses) : a ∈ s'.accesses := by
  obtain ⟨l, heq, -⟩ := h
  rw [heq]
  exact List.mem_append_left l ha

/-- A request that writes no entry is proper if it sets no slot, or else is refused, without a
change. -/
theorem proper_iff_of_unwritten {o : Outcome} (hw : o.state.written = []) :
    Proper s o ↔ (∀ a ∈ o.state.accesses, a.Ok) ∧ (o.err ≠ none → SameHw s o.state) ∧
      (o.err = none → o.slot = none) := by
  constructor
  · rintro ⟨hbounded, hatomic, hagrees⟩
    refine ⟨hbounded, hatomic, fun herr => ?_⟩
    cases hslot : o.slot with
    | none => rfl
    | some i =>
      obtain ⟨n, hn, -⟩ := hagrees herr i hslot
      rw [hw] at hn
      exact absurd hn List.not_mem_nil
  · rintro ⟨hbounded, hatomic, hnone⟩
    refine ⟨hbounded, hatomic, fun herr i hslot => ?_⟩
    rw [hnone herr] at hslot
    cases hslot

theorem setKey_overreads (s : State) (n : Nat) (i : Byte) (t : BitVec 16) (mac : Addr) (d : Byte)
    (key : Fin 16 → Byte) : Access.key 16 16 ∈ (s.setKey n i t mac d key).accesses :=
  List.mem_append_right _ (List.mem_map.mpr ⟨16, List.mem_range.mpr (by decide), rfl⟩)

theorem installKey_overreads (s : State) (n : Nat) (i : Byte) (t : BitVec 16) (mac : Addr)
    (key : Fin 16 → Byte) : Access.key 16 16 ∈ (s.installKey n i t mac key).accesses :=
  List.mem_append_left _ (List.mem_append_left _ (setKey_overreads s n i t mac 0 key))

theorem not_proper_of_overread {o : Outcome} (h : Access.key 16 16 ∈ o.state.accesses) : ¬ Proper s o :=
  fun hp => absurd (hp.bounded _ h) (Nat.lt_irrefl 16)

theorem sameHw_of_untouched (h : Untouched s.begin s') : SameHw s s' :=
  ⟨h.cam, h.swcamtable, h.pairwise, h.group⟩

theorem sameHw_clearKeys_iff (h : Untouched s.begin s') : SameHw s s'.clearKeys ↔ NoKeys s := by
  -- Giving the keys up changes nothing only where there are none.
  constructor
  · rintro ⟨hcam, htable, hpairwise, hgroup⟩
    refine ⟨hcam.symm, fun n hn => ?_, hpairwise.symm, hgroup.symm⟩
    rw [← htable]
    exact if_pos hn
  · rintro ⟨hcam, htable, hpairwise, hgroup⟩
    refine ⟨hcam.symm, ?_, hpairwise.symm, hgroup.symm⟩
    have hsame : s'.swcamtable = s.swcamtable := h.swcamtable
    funext n
    unfold State.clearKeys
    simp only [hsame]
    split
    · rename_i hn
      exact (htable n hn).symm
    · rfl

/-! ## The three ways -/

theorem enc_proper_iff (r : Enc) (s : State) : Proper s (r8192WxSetEnc r s.begin) ↔ r.Harmless s := by
  have hsetter := rtllibWxSetEncode_setter r s.begin
  have herr := rtllibWxSetEncode_err_iff r s.begin
  have hrej : r.Rejected s.begin ↔ r.Rejected s := Iff.rfl
  have hwritten : (rtllibWxSetEncode r s.begin).state.written = [] := hsetter.written
  have hok := hsetter.within.ok rfl
  unfold r8192WxSetEnc Enc.Harmless
  cases hradio : s.bHwRadioOff with
  | true =>
    rw [if_pos (by exact hradio), proper_iff_of_unwritten rfl]
    simp [State.begin]
  | false =>
    rw [if_neg (by simpa [State.begin] using hradio)]
    cases hup : s.up with
    | false =>
      rw [if_pos (by simpa [State.begin] using hup), proper_iff_of_unwritten rfl]
      simp only [reduceCtorEq, or_true, true_or, iff_true]
      exact ⟨fun a ha => absurd ha List.not_mem_nil, fun _ => sameHw_of_untouched (Untouched.refl _),
        fun h => absurd h (by simp)⟩
    | true =>
      rw [if_neg (by simpa [State.begin] using hup)]
      simp only [Bool.false_eq_true, reduceCtorEq, false_or]
      cases hdisabled : r.encoding.disabled with
      | true =>
        simp only [if_true]
        rw [proper_iff_of_unwritten (by exact hwritten)]
        simp only
        rw [sameHw_clearKeys_iff hsetter.toUntouched, Ne, herr, not_not]
        have hslot (h : ¬ r.Rejected s.begin) : (rtllibWxSetEncode r s.begin).slot = none :=
          (rtllibWxSetEncode_slot_iff h).mpr (Or.inl hdisabled)
        have hrejected : r.Rejected s.begin ↔ 4 < r.encoding.index := by
          unfold Enc.Rejected
          simp [hdisabled]
        rw [hrejected] at hslot ⊢
        constructor
        · rintro ⟨-, hnokeys, -⟩
          exact (Nat.lt_or_ge 4 r.encoding.index).elim (fun h => Or.inr (hnokeys h)) Or.inl
        · intro h
          exact ⟨hok, fun hindex => h.resolve_left (by omega), hslot⟩
      | false =>
        simp only [Bool.false_eq_true, if_false]
        have hslot (h : ¬ r.Rejected s.begin) := rtllibWxSetEncode_slot_iff h
        simp only [hdisabled, Bool.false_eq_true, false_or] at hslot
        by_cases hzero : r.encoding.length = 0
        · rw [if_neg (not_not.mpr hzero), if_pos hzero, proper_iff_of_unwritten hwritten, Ne, herr, not_not]
          simp only [hzero, true_and] at hslot
          constructor
          · rintro ⟨-, -, hnone⟩
            exact or_iff_not_imp_left.mpr fun hno => (hslot hno).mp (hnone hno)
          · intro h
            exact ⟨hok, fun _ => sameHw_of_untouched hsetter.toUntouched,
              fun hno => (hslot hno).mpr (h.resolve_left hno)⟩
        · rw [if_pos hzero, if_neg hzero]
          split
          · rename_i hfive
            refine iff_of_false (not_proper_of_overread ?_) (by omega)
            exact installKey_overreads _ _ _ _ _ _
          · split
            · rename_i hthirteen
              refine iff_of_false (not_proper_of_overread ?_) (by omega)
              exact installKey_overreads _ _ _ _ _ _
            · rw [proper_iff_of_unwritten (by exact hwritten), Ne, herr, not_not]
              constructor
              · rintro ⟨hbounded, -, hnone⟩
                have hlast : 15 < r.encoding.length := hbounded (.key 15 r.encoding.length)
                  (List.mem_append_right _ (List.mem_map.mpr ⟨15, List.mem_range.mpr (by decide), rfl⟩))
                refine ⟨hlast, ?_⟩
                by_contra hno
                exact hzero ((hslot hno).mp (hnone hno)).1
              · rintro ⟨hlen, hrejected⟩
                refine ⟨fun a ha => ?_, fun _ => sameHw_of_untouched (hsetter.toUntouched.readKey _ _),
                  fun hno => absurd hrejected hno⟩
                rcases List.mem_append.mp ha with ha | ha
                · exact hok a ha
                · obtain ⟨i, hi, rfl⟩ := List.mem_map.mp ha
                  exact Nat.lt_of_lt_of_le (List.mem_range.mp hi) hlen

theorem encExtHw_overreads (r : EncExt) (s : State) :
    Access.key 16 16 ∈ (encExtHw r s).accesses := by
  unfold encExtHw
  extract_lets idx key pairwise alg s₁ s₂
  split
  · exact installKey_overreads _ _ _ _ _ _
  · split
    · exact installKey_overreads _ _ _ _ _ _
    · exact installKey_overreads _ _ _ _ _ _

theorem encExt_proper_iff (r : EncExt) (s : State) :
    Proper s (r8192WxSetEncExt r s.begin) ↔ r.Harmless s := by
  have hsetter := rtllibWxSetEncodeExt_setter r s.begin
  have hwritten : (rtllibWxSetEncodeExt r s.begin).state.written = [] := hsetter.written
  unfold r8192WxSetEncExt EncExt.Harmless
  cases hradio : s.bHwRadioOff with
  | true =>
    rw [if_pos (by exact hradio), proper_iff_of_unwritten rfl]
    simp [State.begin]
  | false =>
    rw [if_neg (by simpa [State.begin] using hradio)]
    simp only [Bool.false_eq_true, false_or]
    cases hdisabled : r.disabled with
    | true =>
      simp only [if_true, true_and]
      rw [proper_iff_of_unwritten (by exact hwritten)]
      simp only
      have herr : (rtllibWxSetEncodeExt r s.begin).err = none ↔ r.SlotOk s :=
        rtllibWxSetEncodeExt_err_iff hdisabled s.begin
      rw [sameHw_clearKeys_iff hsetter.toUntouched, Ne, herr]
      constructor
      · rintro ⟨-, hnokeys, -⟩
        exact or_iff_not_imp_left.mpr hnokeys
      · intro h
        exact ⟨hsetter.within.ok rfl, fun hno => h.resolve_left hno,
          fun _ => rtllibWxSetEncodeExt_slot hdisabled _⟩
    | false =>
      simp only [Bool.false_eq_true, if_false, false_and, iff_false]
      exact not_proper_of_overread (encExtHw_overreads r _)

theorem wpaHw_overreads {r : Wpa} (h : r.keyType (r.oldType s) ≠ 0) :
    Access.key 16 16 ∈ (wpaHw r s.begin).accesses := by
  -- A key type that is set comes with a key.
  unfold Wpa.oldType at h
  unfold wpaHw
  by_cases htx : r.setTx = true
  · rw [if_pos htx] at h ⊢
    extract_lets key s₁ s₂ s₃
    rw [if_pos (by exact h)]
    split
    · exact setKey_overreads _ _ _ _ _ _ _
    · exact setKey_overreads _ _ _ _ _ _ _
  · rw [if_neg htx] at h ⊢
    extract_lets key s₁
    rw [if_pos (by exact h)]
    exact setKey_overreads _ _ _ _ _ _ _

theorem wpaHw_na {r : Wpa} (h : r.keyType (r.oldType s) = 0) :
    wpaHw r s.begin =
      if r.setTx = true then { s.begin with pairwiseKeyType := 0 }
      else { s.begin.readKey 16 (r.length - sizeofParam) with groupKeyType := 0 } := by
  unfold Wpa.oldType at h
  unfold wpaHw
  by_cases htx : r.setTx = true
  · rw [if_pos htx] at h
    rw [if_pos htx, if_pos htx]
    have h' : r.keyType s.begin.pairwiseKeyType = 0 := h
    simp only [h', ne_eq, not_true_eq_false, if_false]
  · rw [if_neg htx] at h
    rw [if_neg htx, if_neg htx]
    have h' : r.keyType (s.begin.readKey 16 (r.length - sizeofParam)).groupKeyType = 0 := h
    simp only [h', ne_eq, not_true_eq_false, if_false]

theorem wpaHw_na_written {r : Wpa} (h : r.keyType (r.oldType s) = 0) : (wpaHw r s.begin).written = [] := by
  rw [wpaHw_na h]
  split
  · rfl
  · rfl

theorem wpaHw_na_accesses {r : Wpa} (h : r.keyType (r.oldType s) = 0) :
    (∀ a ∈ (wpaHw r s.begin).accesses, a.Ok) ↔ r.setTx = true ∨ sizeofParam + 16 ≤ r.length := by
  -- The key is read for a group, even if there is none.
  rw [wpaHw_na h]
  split
  · rename_i htx
    exact iff_of_true (fun a ha => absurd ha List.not_mem_nil) (Or.inl htx)
  · rename_i htx
    rw [or_iff_right htx]
    constructor
    · intro hok
      have hlast : 15 < r.length - sizeofParam := hok (.key 15 (r.length - sizeofParam))
        (List.mem_append_right _ (List.mem_map.mpr ⟨15, List.mem_range.mpr (by decide), rfl⟩))
      omega
    · intro hlen a ha
      obtain ⟨i, hi, rfl⟩ := List.mem_map.mp ha
      have hi := List.mem_range.mp hi
      exact (by omega : i < r.length - sizeofParam)

theorem wpaHw_na_sameHw {r : Wpa} (h : r.keyType (r.oldType s) = 0) (hs' : Untouched (wpaHw r s.begin) s') :
    SameHw s s' ↔ r.oldType s = keyTypeNa := by
  rw [wpaHw_na h] at hs'
  unfold Wpa.oldType
  split at hs'
  · rename_i htx
    rw [if_pos htx]
    exact ⟨fun hsame => hsame.pairwise.symm.trans hs'.pairwise,
      fun hna => ⟨hs'.cam, hs'.swcamtable, hs'.pairwise.trans hna.symm, hs'.group⟩⟩
  · rename_i htx
    rw [if_neg htx]
    exact ⟨fun hsame => hsame.group.symm.trans hs'.group,
      fun hna => ⟨hs'.cam, hs'.swcamtable, hs'.pairwise, hs'.group.trans hna.symm⟩⟩

theorem wpaHw_na_accepts {r : Wpa} (h : r.keyType (r.oldType s) = 0) :
    r.Accepts (wpaHw r s.begin) ↔ r.Accepts s := by
  have hcrypt : (wpaHw r s.begin).crypt = s.crypt := by
    rw [wpaHw_na h]
    split
    · rfl
    · rfl
  have hput (alg : CryptAlg) (i : Fin 4) : PutAccepts alg i r.keyLen r.alloc (wpaHw r s.begin) ↔
      PutAccepts alg i r.keyLen r.alloc s := by
    unfold PutAccepts State.hasAlg
    rw [hcrypt]
  constructor
  · intro h
    exact ⟨h.length, h.pointer, h.memory, h.staAddr, h.idx, h.alg.imp_right
      fun ⟨alg, halg, hacc⟩ => ⟨alg, halg, (hput alg _).mp hacc⟩⟩
  · intro h
    exact ⟨h.length, h.pointer, h.memory, h.staAddr, h.idx, h.alg.imp_right
      fun ⟨alg, halg, hacc⟩ => ⟨alg, halg, (hput alg _).mpr hacc⟩⟩

theorem wpa_proper_iff (r : Wpa) (s : State) : Proper s (rtl8192Ioctl r s.begin) ↔ r.Harmless s := by
  unfold rtl8192Ioctl Wpa.Harmless
  have hquiet (e : Errno) : Proper s ⟨some e, none, s.begin⟩ := by
    rw [proper_iff_of_unwritten rfl]
    exact ⟨fun a ha => absurd ha List.not_mem_nil, fun _ => sameHw_of_untouched (Untouched.refl _),
      fun h => absurd h (by simp)⟩
  split
  · rename_i hlen
    exact iff_of_true (hquiet _) (Or.inl (by tauto))
  · rename_i hlen
    split
    · rename_i hmem
      exact iff_of_true (hquiet _) (Or.inl (by tauto))
    · rename_i hmem
      split
      · rename_i hcopy
        exact iff_of_true (hquiet _) (Or.inl (by tauto))
      · rename_i hcopy
        have hearly : ¬ (r.length < sizeofParam ∨ r.pointer = false ∨ r.kmalloc = false ∨
            r.copyFromUser = false) := by tauto
        rw [or_iff_right hearly]
        have hsetter := rtllibWpaSupplicantIoctl_setter r (wpaHw r s.begin)
        by_cases hna : r.keyType (r.oldType s) = 0
        · have haccepts : r.Accepts (wpaHw r s.begin) ↔ r.Accepts s := wpaHw_na_accepts hna
          have herr := (rtllibWpaSupplicantIoctl_err_iff r (wpaHw r s.begin)).trans haccepts
          have hslot (h : r.Accepts s) := rtllibWpaSupplicantIoctl_slot_iff (haccepts.mpr h)
          have hcrypt : (wpaHw r s.begin).hasAlg = s.hasAlg := by
            rw [wpaHw_na hna]
            split
            · rfl
            · rfl
          rw [hcrypt] at hslot
          have hwritten := hsetter.written.trans (wpaHw_na_written hna)
          have hbounded : (∀ a ∈ (rtllibWpaSupplicantIoctl r (wpaHw r s.begin)).state.accesses, a.Ok) ↔
              r.setTx = true ∨ sizeofParam + 16 ≤ r.length := by
            rw [← wpaHw_na_accesses hna]
            obtain ⟨l, heq, hl⟩ := hsetter.within
            rw [heq]
            constructor
            · intro hok a ha
              exact hok a (List.mem_append_left l ha)
            · intro hok a ha
              exact (List.mem_append.mp ha).elim (hok a) (hl a)
          rw [proper_iff_of_unwritten hwritten, hbounded, wpaHw_na_sameHw hna hsetter.toUntouched, Ne, herr]
          constructor
          · rintro ⟨hlen, hold, hnone⟩
            exact ⟨hna, hlen, or_iff_not_imp_left.mpr hold, fun hacc => (hslot hacc).mp (hnone hacc)⟩
          · rintro ⟨-, hlen, hold, hnone⟩
            exact ⟨hlen, fun hno => hold.resolve_left hno, fun hacc => (hslot hacc).mpr (hnone hacc)⟩
        · refine iff_of_false ?_ fun h => hna h.1
          exact not_proper_of_overread (hsetter.within.mem (wpaHw_overreads hna))

/-- A request is in order exactly when it is harmless. -/
theorem install_proper_iff (s : State) (q : Request) : Proper s (request s q) ↔ Harmless s q := by
  cases q with
  | enc r => exact enc_proper_iff r s
  | encExt r => exact encExt_proper_iff r s
  | wpa r => exact wpa_proper_iff r s

def pairwiseKey : EncExt :=
  ⟨⟨1, 0⟩, 3, false, true, 16, fun i => BitVec.ofNat 8 i, ⟨true, true, true⟩⟩

/-- A pairwise key of CCMP is accepted, and 8 bytes from behind it go into the CAM. -/
theorem install_not_always_proper : ¬ ∀ (s : State) (q : Request), Proper s (request s q) := by
  intro h
  have hinside : (Access.key 16 16).Ok :=
    (h noKeys (.encExt pairwiseKey)).bounded (.key 16 16) (by decide)
  revert hinside
  decide

end Rtl8190.Cam
