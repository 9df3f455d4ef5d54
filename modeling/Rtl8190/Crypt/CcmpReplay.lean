import Rtl8190.Crypt.Ccmp
import Rtl8190.Lib.Run

/-!
# Replay protection of CCMP

The packet numbers of accepted frames increase, even if each frame is replayed at once, exactly when
no frame passes the checks in hardware-decrypt mode (`ccmp_replay_protected_iff`): in that mode the
packet number is compared, but `rx_pn` stays behind.
-/

open Rtl8190.Memory Rtl8190.Run

namespace Rtl8190.Crypt.Ccmp

/-! ## Runs -/

structure Frame where
  skb : Skb
  hdrLen : Nat

def Frame.pn (f : Frame) : List Byte := rxFramePn f.skb f.hdrLen

structure RxState where
  key : CcmpData
  /-- The packet numbers of the frames that were accepted, newest first. -/
  accepted : List Nat

def RxState.decrypt (aes : Key → Block → Block) (s : RxState) (f : Frame) : RxState :=
  let r := rtllibCcmpDecrypt aes s.key f.skb f.hdrLen
  match r.1 with
  | .ok _ => ⟨r.2, Digits.value f.pn :: s.accepted⟩
  | .error _ => ⟨r.2, s.accepted⟩

def RxState.keyed (data : CcmpData) (key : Nat → Byte) (len : Int) (seq : Option (Fin 6 → Byte)) :
    RxState :=
  ⟨(rtllibCcmpSetKey key len seq data).2, []⟩

/-- The receive sequence number that is given to `rtllib_ccmp_set_key`, the least significant byte
first. -/
def seqValue : Option (Fin 6 → Byte) → Nat
  | some seq => Digits.value [seq 5, seq 4, seq 3, seq 2, seq 1, seq 0]
  | none => 0

/-- The packet numbers increase strictly, from above `seq`. -/
def Increasing (seq : Nat) (accepted : List Nat) : Prop :=
  accepted.Pairwise (· > ·) ∧ ∀ pn ∈ accepted, seq < pn

/-- The frame passes the checks that come before the decryption. -/
structure Passes (key : CcmpData) (f : Frame) : Prop where
  len : f.hdrLen + 8 + 8 ≤ f.skb.len
  extIv : (f.skb.byte (f.hdrLen + 3)).getLsbD 5 = true
  keyIdx : key.keyIdx = f.skb.byte (f.hdrLen + 3) >>> 6
  keySet : key.keySet = true
  newer : Digits.memcmp f.pn key.rxPn = .gt

/-- The frame is decrypted by software, or it is refused. -/
def SoftwareOnly (s : RxState) (f : Frame) : Prop := f.skb.bHwSec = true → ¬ Passes s.key f

/-! ## One frame -/

section OneFrame

variable (aes : Key → Block → Block) (key : CcmpData) (f : Frame)

/-- What a frame changes: a counter if it is refused, `rx_pn` if software accepts it, and nothing if
the hardware has decrypted it. -/
theorem decrypt_cases :
    (∃ rc key', rtllibCcmpDecrypt aes key f.skb f.hdrLen = (.error rc, key') ∧
      key'.rxPn = key.rxPn ∧ key'.keyIdx = key.keyIdx ∧ key'.keySet = key.keySet ∧
      (f.skb.bHwSec = true → ¬ Passes key f)) ∨
    (Passes key f ∧ ∃ out, rtllibCcmpDecrypt aes key f.skb f.hdrLen =
      (.ok out, if f.skb.bHwSec then key else { key with rxPn := f.pn })) := by
  generalize hr : rtllibCcmpDecrypt aes key f.skb f.hdrLen = r
  simp only [rtllibCcmpDecrypt] at hr
  split at hr
  · rename_i hlen
    subst hr
    exact .inl ⟨_, _, rfl, rfl, rfl, rfl, fun _ h => Nat.not_lt.mpr h.len hlen⟩
  rename_i hlen
  split at hr
  · rename_i hext
    subst hr
    exact .inl ⟨_, _, rfl, rfl, rfl, rfl, fun _ h => by rw [h.extIv] at hext; cases hext⟩
  rename_i hext
  split at hr
  · rename_i hidx
    subst hr
    exact .inl ⟨_, _, rfl, rfl, rfl, rfl, fun _ h => hidx h.keyIdx⟩
  rename_i hidx
  split at hr
  · rename_i hset
    subst hr
    exact .inl ⟨_, _, rfl, rfl, rfl, rfl, fun _ h => by rw [h.keySet] at hset; cases hset⟩
  rename_i hset
  split at hr
  · rename_i hnew
    subst hr
    exact .inl ⟨_, _, rfl, rfl, rfl, rfl, fun _ h => hnew h.newer⟩
  rename_i hnew
  have hpass : Passes key f := ⟨Nat.not_lt.mp hlen, by simpa using hext, not_not.mp hidx,
    by simpa using hset, not_not.mp hnew⟩
  split at hr
  · rename_i hhw
    subst hr
    exact .inr ⟨hpass, _, by rw [if_pos hhw]⟩
  rename_i hhw
  split at hr
  · subst hr
    exact .inl ⟨_, _, rfl, rfl, rfl, rfl, fun h => absurd h hhw⟩
  · subst hr
    exact .inr ⟨hpass, _, by rw [if_neg hhw]; rfl⟩

end OneFrame

/-! ## A run -/

/-- The packet numbers increase up to `rx_pn`. -/
structure Guarded (seq : Nat) (s : RxState) : Prop where
  length : s.key.rxPn.length = 6
  start : s.key.keySet = true → seq ≤ Digits.value s.key.rxPn
  increasing : Increasing seq s.accepted
  newest : ∀ pn ∈ s.accepted, pn ≤ Digits.value s.key.rxPn

theorem Frame.length_pn (f : Frame) : f.pn.length = 6 := rfl

theorem guarded_keyed (data : CcmpData) (key : Nat → Byte) (len : Int)
    (seq : Option (Fin 6 → Byte)) :
    Guarded (seqValue seq) (RxState.keyed data key len seq) := by
  have hempty : Increasing (seqValue seq) [] := ⟨.nil, by simp⟩
  unfold RxState.keyed rtllibCcmpSetKey
  split_ifs
  · cases seq with
    | none => exact ⟨rfl, fun _ => Nat.zero_le _, hempty, by simp⟩
    | some seq => exact ⟨rfl, fun _ => le_rfl, hempty, by simp⟩
  · exact ⟨rfl, nofun, hempty, by simp⟩
  · exact ⟨rfl, nofun, hempty, by simp⟩

variable (aes : Key → Block → Block)

theorem decrypt_guarded {seq : Nat} {s : RxState} (h : Guarded seq s) (f : Frame)
    (hsoft : SoftwareOnly s f) : Guarded seq (s.decrypt aes f) := by
  unfold RxState.decrypt
  rcases decrypt_cases aes s.key f with ⟨rc, key', heq, hpn, _, hset, _⟩ | ⟨hpass, out, heq⟩
  · rw [heq]
    refine ⟨?_, ?_, h.increasing, ?_⟩ <;> simp only [hpn, hset]
    · exact h.length
    · exact h.start
    · exact h.newest
  · have hsw : f.skb.bHwSec = false := by
      by_contra hhw
      exact hsoft (by simpa using hhw) hpass
    have hnew : Digits.value s.key.rxPn < Digits.value f.pn :=
      (Digits.memcmp_gt_iff (by rw [f.length_pn, h.length])).mp hpass.newer
    have hseq := h.start hpass.keySet
    rw [heq]
    simp only [hsw, Bool.false_eq_true, if_false]
    refine ⟨f.length_pn, fun _ => hseq.trans hnew.le, ⟨List.pairwise_cons.mpr ⟨fun pn hpn => ?_,
      h.increasing.1⟩, ?_⟩, ?_⟩
    · exact (h.newest pn hpn).trans_lt hnew
    · rintro pn (_ | ⟨_, hpn⟩)
      · exact hseq.trans_lt hnew
      · exact h.increasing.2 pn hpn
    · rintro pn (_ | ⟨_, hpn⟩)
      · exact le_rfl
      · exact (h.newest pn hpn).trans hnew.le

theorem softwareOnly_again {s : RxState} {f : Frame} (hsoft : SoftwareOnly s f) :
    SoftwareOnly (s.decrypt aes f) f := by
  intro hhw hpass
  unfold RxState.decrypt at hpass
  rcases decrypt_cases aes s.key f with ⟨rc, key', heq, hpn, hidx, hset, _⟩ | ⟨hpass', _⟩
  · rw [heq] at hpass
    refine hsoft hhw ⟨hpass.len, hpass.extIv, ?_, ?_, ?_⟩
    · rw [← hidx]; exact hpass.keyIdx
    · rw [← hset]; exact hpass.keySet
    · rw [← hpn]; exact hpass.newer
  · exact hsoft hhw hpass'

theorem accepted_again {s : RxState} {f : Frame} (hhw : f.skb.bHwSec = true) (hpass : Passes s.key f) :
    ((s.decrypt aes f).decrypt aes f).accepted =
      Digits.value f.pn :: Digits.value f.pn :: s.accepted := by
  have hone : ∀ t : RxState, t.key = s.key →
      t.decrypt aes f = ⟨s.key, Digits.value f.pn :: t.accepted⟩ := fun t ht => by
    unfold RxState.decrypt
    rcases decrypt_cases aes t.key f with ⟨_, _, _, _, _, _, hno⟩ | ⟨_, out, heq⟩
    · exact absurd (ht ▸ hpass) (hno hhw)
    · rw [heq, if_pos hhw, ht]
  rw [hone s rfl, hone ⟨s.key, Digits.value f.pn :: s.accepted⟩ rfl]

/-- The packet numbers increase, whichever frame is replayed, exactly when no frame passes the
checks in hardware-decrypt mode. -/
theorem ccmp_replay_protected_iff (data : CcmpData) (key : Nat → Byte) (len : Int)
    (seq : Option (Fin 6 → Byte)) (es : List Frame) :
    let s := RxState.keyed data key len seq
    Meets (RxState.decrypt aes) SoftwareOnly s es ↔
      ∀ fs f, fs ++ [f] <+: es →
        Increasing (seqValue seq) (exec (RxState.decrypt aes) s (fs ++ [f])).accepted ∧
        Increasing (seqValue seq) (exec (RxState.decrypt aes) s (fs ++ [f, f])).accepted := by
  intro s
  have hrun : ∀ {gs}, Meets (RxState.decrypt aes) SoftwareOnly s gs →
      Increasing (seqValue seq) (exec (RxState.decrypt aes) s gs).accepted := fun hgs =>
    (exec_inv (I := Guarded (seqValue seq)) (fun s f h hsoft => decrypt_guarded aes h f hsoft)
      (guarded_keyed data key len seq) hgs).increasing
  constructor
  · intro h fs f hfs
    have hmeets : Meets (RxState.decrypt aes) SoftwareOnly s (fs ++ [f]) := h.before hfs
    refine ⟨hrun hmeets, hrun ?_⟩
    obtain ⟨hfs', hf, -⟩ := (meets_append ..).mp hmeets
    exact (meets_append ..).mpr ⟨hfs', hf, softwareOnly_again aes hf, trivial⟩
  · intro h
    refine meets_iff_forall_step.mpr fun fs f hfs hhw hpass => ?_
    have hinc := (h fs f hfs).2.1
    rw [exec_append] at hinc
    -- The frame is accepted twice.
    have htwice := accepted_again aes hhw hpass
    rw [show (exec (RxState.decrypt aes) (exec (RxState.decrypt aes) s fs) [f, f]).accepted = _ from
      htwice] at hinc
    exact absurd ((List.pairwise_cons.mp hinc).1 _ List.mem_cons_self) (lt_irrefl _)

/-- A frame with packet number 5 that the hardware has decrypted. -/
def hardwareFrame : Frame where
  skb := ⟨0, List.replicate 24 0 ++ [5, 0, 0, 0x20, 0, 0, 0, 0] ++ List.replicate 8 0, 0, true, 0⟩
  hdrLen := 24

/-- The same frame is accepted twice in hardware-decrypt mode. -/
theorem ccmp_not_always_increasing :
    ¬ ∀ (aes : Key → Block → Block) (data : CcmpData) (key : Nat → Byte) (len : Int)
        (seq : Option (Fin 6 → Byte)) (es : List Frame),
        Increasing (seqValue seq)
          (exec (RxState.decrypt aes) (RxState.keyed data key len seq) es).accepted := by
  intro h
  have hinc := (h (fun _ b => b) ⟨fun _ => 0, false, [], [], 0, 0, 0, 0, fun _ => 0⟩ (fun _ => 1) 16
    (some fun _ => 0) [hardwareFrame, hardwareFrame]).1
  exact absurd hinc (by decide)

end Rtl8190.Crypt.Ccmp
