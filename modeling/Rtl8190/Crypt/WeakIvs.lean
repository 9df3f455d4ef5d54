import Mathlib.Data.BitVec
import Mathlib.Tactic.IntervalCases
import Rtl8190.Crypt.RoundTrip

/-!
# The IVs that WEP sends

The IVs of 24 bits that are not weak form a cycle, and each call goes one place on in it.
-/

open Rtl8190.Memory Rtl8190.Rx

namespace Rtl8190.Crypt.Wep

open Tkip (Primitives)

/-- An IV (B, N, x) that the comment in the source warns about. -/
def Weak (keyLen : Nat) : List Byte → Prop
  | [b, n, _] => n = 0xff ∧ 3 ≤ b.toNat ∧ b.toNat < 3 + keyLen
  | _ => False

/-- The arguments of `prism2_wep_encrypt`. -/
structure Call where
  arc4Fails : Bool
  skb : Skb
  hdrLen : Nat

/-- The call is not refused, and puts an IV into the frame. -/
def Call.HasRoom (c : Call) : Prop :=
  ¬ (c.skb.headroom < 4 ∨ c.skb.tailroom < 4 ∨ c.skb.len < c.hdrLen)

instance (c : Call) : Decidable c.HasRoom := inferInstanceAs (Decidable (¬ _))

variable (prim : Primitives)

def Call.after (wep : WepData) (c : Call) : WepData :=
  (prism2WepEncrypt prim c.arc4Fails wep c.skb c.hdrLen).2

/-- The IVs of a run of calls, oldest first. A frame for which RC4 fails is sent too, as the caller
does not look at the result. -/
def emitted : WepData → List Call → List (List Byte)
  | _, [] => []
  | wep, c :: cs =>
    if c.HasRoom then ivBytes (c.after prim wep).iv :: emitted (c.after prim wep) cs
    else emitted (c.after prim wep) cs

/-! ## The counter in 24 bits -/

def sentBits (iv : BitVec 32) : Nat := iv.toNat % 2 ^ 24

def WeakBits (keyLen v : Nat) : Prop :=
  v / 256 % 256 = 255 ∧ 3 ≤ v / 65536 ∧ v / 65536 < 3 + keyLen

theorem and_ff00_iff (iv : BitVec 32) :
    iv &&& 0xff00 = 0xff00 ↔ (iv >>> 8).setWidth 8 = (0xff : Byte) := by
  have hmiddle : ((iv >>> 8).setWidth 8 : Byte).setWidth 32 <<< 8 = iv &&& 0xff00 := by
    ext i hi
    interval_cases i <;> simp
  rw [← hmiddle]
  constructor
  · intro h
    have hback := congrArg (fun x : BitVec 32 => (x >>> 8).setWidth 8) h
    ext i hi
    have hbit := congrArg (fun x : Byte => x.getLsbD i) hback
    interval_cases i <;> simpa using hbit
  · intro h
    rw [h]
    rfl

theorem toNat_second (iv : BitVec 32) :
    ((iv >>> 8).setWidth 8 : Byte).toNat = sentBits iv / 256 % 256 := by
  unfold sentBits
  rw [BitVec.toNat_setWidth, BitVec.toNat_ushiftRight, Nat.shiftRight_eq_div_pow]
  omega

theorem toNat_first (iv : BitVec 32) :
    ((iv >>> 16).setWidth 8 : Byte).toNat = sentBits iv / 65536 := by
  unfold sentBits
  rw [BitVec.toNat_setWidth, BitVec.toNat_ushiftRight, Nat.shiftRight_eq_div_pow]
  omega

theorem second_eq_iff (iv : BitVec 32) :
    (iv >>> 8).setWidth 8 = (0xff : Byte) ↔ sentBits iv / 256 % 256 = 255 := by
  rw [← toNat_second, BitVec.toNat_inj.symm]
  rfl

theorem weak_ivBytes_iff (keyLen : Nat) (iv : BitVec 32) :
    Weak keyLen (ivBytes iv) ↔ WeakBits keyLen (sentBits iv) := by
  unfold Weak ivBytes WeakBits
  simp only [second_eq_iff, toNat_first]

theorem sentBits_add (iv k : BitVec 32) :
    sentBits (iv + k) = (sentBits iv + sentBits k) % 2 ^ 24 := by
  unfold sentBits
  rw [BitVec.toNat_add]
  omega

theorem sentBits_nextIv (iv : BitVec 32) (keyLen : Nat) :
    (WeakBits keyLen ((sentBits iv + 1) % 2 ^ 24) ∧
      sentBits (nextIv iv (3 + keyLen)) = ((sentBits iv + 1) % 2 ^ 24 + 256) % 2 ^ 24) ∨
    (¬ WeakBits keyLen ((sentBits iv + 1) % 2 ^ 24) ∧
      sentBits (nextIv iv (3 + keyLen)) = (sentBits iv + 1) % 2 ^ 24) := by
  have hsucc : sentBits (iv + 1) = (sentBits iv + 1) % 2 ^ 24 := sentBits_add iv 1
  unfold nextIv WeakBits
  simp only [and_ff00_iff, second_eq_iff, toNat_first, hsucc]
  split_ifs with hsecond hfirst
  · left
    exact ⟨⟨hsecond, hfirst⟩, by rw [sentBits_add, hsucc]; rfl⟩
  · right
    exact ⟨fun h => hfirst h.2, hsucc⟩
  · right
    exact ⟨fun h => hsecond h.1, hsucc⟩

/-- The place of `v` in the cycle: the weak numbers below it are left out. -/
def position (keyLen v : Nat) : Nat := v - 256 * min (v / 65536 - 3) keyLen

def cycle (keyLen : Nat) : Nat := 2 ^ 24 - 256 * keyLen

variable {keyLen : Nat}

theorem position_lt {v : Nat} (hkey : keyLen ≤ 13) (hv : v < 2 ^ 24) :
    position keyLen v < cycle keyLen := by
  unfold position cycle
  omega

theorem nextIv_not_weak (iv : BitVec 32) :
    ¬ WeakBits keyLen (sentBits (nextIv iv (3 + keyLen))) := by
  obtain ⟨hweak, hnext⟩ | ⟨hweak, hnext⟩ := sentBits_nextIv iv keyLen
  · rw [hnext]
    unfold WeakBits at hweak ⊢
    omega
  · rwa [hnext]

theorem position_succ {v : Nat} (hstrong : ¬ WeakBits keyLen v)
    (hnext : ¬ WeakBits keyLen (v + 1)) :
    position keyLen (v + 1) = position keyLen v + 1 := by
  have hskipped : min ((v + 1) / 65536 - 3) keyLen = min (v / 65536 - 3) keyLen := by
    unfold WeakBits at hstrong hnext
    omega
  have hbelow : 256 * min (v / 65536 - 3) keyLen ≤ v := by omega
  unfold position
  rw [hskipped]
  omega

theorem position_skip {v : Nat} (hstrong : ¬ WeakBits keyLen v)
    (hnext : WeakBits keyLen (v + 1)) :
    position keyLen (v + 1 + 256) = position keyLen v + 1 := by
  -- the 256 weak numbers end a block of 65536, and `v` is right below them
  have hlast : v % 65536 = 65279 := by
    unfold WeakBits at hstrong hnext
    omega
  have hskipped :
      min ((v + 1 + 256) / 65536 - 3) keyLen = min (v / 65536 - 3) keyLen + 1 := by
    unfold WeakBits at hnext
    omega
  have hbelow : 256 * min (v / 65536 - 3) keyLen ≤ v := by omega
  unfold position
  rw [hskipped]
  omega

theorem position_last (hkey : keyLen ≤ 13) :
    position keyLen (2 ^ 24 - 1) + 1 = cycle keyLen := by
  unfold position cycle
  omega

theorem position_nextIv (hkey : keyLen ≤ 13) (iv : BitVec 32)
    (hstrong : ¬ WeakBits keyLen (sentBits iv)) :
    position keyLen (sentBits (nextIv iv (3 + keyLen))) =
      (position keyLen (sentBits iv) + 1) % cycle keyLen := by
  -- From an IV that is not weak, a call goes to the next place.
  have hlt : sentBits iv < 2 ^ 24 := Nat.mod_lt _ (by decide)
  obtain ⟨hweak, hnext⟩ | ⟨hweak, hnext⟩ := sentBits_nextIv iv keyLen
  · have hinside : sentBits iv + 1 + 256 < 2 ^ 24 := by
      unfold WeakBits at hweak
      omega
    rw [Nat.mod_eq_of_lt (by omega)] at hweak
    rw [Nat.mod_eq_of_lt (a := sentBits iv + 1) (by omega), Nat.mod_eq_of_lt hinside] at hnext
    rw [hnext, position_skip hstrong hweak, Nat.mod_eq_of_lt]
    rw [← position_skip hstrong hweak]
    exact position_lt hkey hinside
  · rcases Nat.lt_or_ge (sentBits iv + 1) (2 ^ 24) with hinside | hend
    · rw [Nat.mod_eq_of_lt hinside] at hweak hnext
      rw [hnext, position_succ hstrong hweak, Nat.mod_eq_of_lt]
      rw [← position_succ hstrong hweak]
      exact position_lt hkey hinside
    · have hlast : sentBits iv = 2 ^ 24 - 1 := by omega
      rw [hnext, hlast, position_last hkey, Nat.mod_self]
      exact Nat.zero_sub _

/-! ## A run of calls -/

def ivAfter (keyLen : Nat) (iv : BitVec 32) (n : Nat) : BitVec 32 :=
  (fun iv => nextIv iv (3 + keyLen))^[n] iv

theorem ivAfter_succ (iv : BitVec 32) (n : Nat) :
    ivAfter keyLen iv (n + 1) = nextIv (ivAfter keyLen iv n) (3 + keyLen) :=
  Function.iterate_succ_apply' _ n iv

theorem position_ivAfter (hkey : keyLen ≤ 13) (iv : BitVec 32) (m n : Nat) :
    position keyLen (sentBits (ivAfter keyLen iv (m + 1 + n))) =
      (position keyLen (sentBits (ivAfter keyLen iv (m + 1))) + n) % cycle keyLen := by
  induction n with
  | zero => exact (Nat.mod_eq_of_lt (position_lt hkey (Nat.mod_lt _ (by decide)))).symm
  | succ n ih =>
    have hstrong : ¬ WeakBits keyLen (sentBits (ivAfter keyLen iv (m + 1 + n))) := by
      rw [show m + 1 + n = m + n + 1 by omega, ivAfter_succ]
      exact nextIv_not_weak _
    rw [← Nat.add_assoc, ivAfter_succ, position_nextIv hkey _ hstrong, ih, Nat.mod_add_mod,
      Nat.add_assoc]

theorem ivAfter_ne (hkey : keyLen ≤ 13) (iv : BitVec 32) {m n : Nat} (hn : 0 < n)
    (hcycle : n < cycle keyLen) :
    sentBits (ivAfter keyLen iv (m + 1)) ≠ sentBits (ivAfter keyLen iv (m + 1 + n)) := by
  intro h
  have hpos := position_ivAfter hkey iv m n
  have hstart : position keyLen (sentBits (ivAfter keyLen iv (m + 1))) < cycle keyLen :=
    position_lt hkey (Nat.mod_lt _ (by decide))
  rw [← h] at hpos
  -- The sum is below two rounds of the cycle.
  rcases Nat.lt_or_ge (position keyLen (sentBits (ivAfter keyLen iv (m + 1))) + n)
    (cycle keyLen) with hlt | hge
  · rw [Nat.mod_eq_of_lt hlt] at hpos
    omega
  · rw [Nat.mod_eq_sub_mod hge, Nat.mod_eq_of_lt (by omega)] at hpos
    omega

theorem ivBytes_sentBits {iv iv' : BitVec 32} (h : ivBytes iv = ivBytes iv') :
    sentBits iv = sentBits iv' := by
  unfold ivBytes at h
  simp only [List.cons.injEq, and_true] at h
  obtain ⟨hfirst, hsecond, hthird⟩ := h
  have h1 := congrArg BitVec.toNat hfirst
  have h2 := congrArg BitVec.toNat hsecond
  have h3 := congrArg BitVec.toNat hthird
  rw [toNat_first, toNat_first] at h1
  rw [toNat_second, toNat_second] at h2
  rw [BitVec.toNat_setWidth, BitVec.toNat_setWidth] at h3
  unfold sentBits at *
  omega

variable {prim}

theorem Call.after_of_room (wep : WepData) (c : Call) (h : c.HasRoom) :
    c.after prim wep = { wep with iv := nextIv wep.iv (3 + wep.key.length) } := by
  unfold after prism2WepEncrypt
  rw [if_neg h]
  simp only
  split <;> rfl

theorem Call.after_of_refused (wep : WepData) (c : Call) (h : ¬ c.HasRoom) :
    c.after prim wep = wep := by
  unfold after prism2WepEncrypt
  rw [if_pos (not_not.mp h)]

theorem Call.iv_sent (wep : WepData) (c : Call) {out : Skb}
    (h : (prism2WepEncrypt prim c.arc4Fails wep c.skb c.hdrLen).1 = some out) :
    c.HasRoom ∧ out.bytes c.hdrLen 3 = ivBytes (c.after prim wep).iv := by
  -- The IV is where the receiver looks for it.
  by_cases hroom : c.HasRoom
  · refine ⟨hroom, ?_⟩
    have hfits : c.hdrLen ≤ c.skb.len := by
      unfold HasRoom at hroom
      omega
    have hfour (iv : BitVec 32) : (ivBytes iv ++ [wep.keyOctet]).take 3 = ivBytes iv := rfl
    rw [c.after_of_room wep hroom]
    unfold prism2WepEncrypt at h
    rw [if_neg hroom] at h
    simp only at h
    split at h
    · -- The hardware encrypts behind the IV.
      obtain rfl := Option.some.inj h
      rw [← hfour]
      simp only [Skb.bytes, Skb.pushIv, List.append_assoc]
      rw [List.drop_left' (Skb.length_take_header hfits)]
      rfl
    · split at h
      · cases h
      · obtain rfl := Option.some.inj h
        refine (congrArg (fun skb : Skb => skb.bytes c.hdrLen 3)
          (Skb.setFrom_put_pushIv hfits _)).trans ?_
        rw [Skb.bytes_sealed_iv hfits (by simp [ivBytes])]
        rfl
  · unfold prism2WepEncrypt at h
    rw [if_pos (not_not.mp hroom)] at h
    cases h

theorem emitted_eq (wep : WepData) (cs : List Call) :
    emitted prim wep cs = (List.range (cs.countP fun c => c.HasRoom)).map
      fun k => ivBytes (ivAfter wep.key.length wep.iv (k + 1)) := by
  induction cs generalizing wep with
  | nil => rfl
  | cons c cs ih =>
    unfold emitted
    by_cases hroom : c.HasRoom
    · rw [if_pos hroom, ih, Call.after_of_room wep c hroom,
        List.countP_cons_of_pos (by simpa using hroom), List.range_succ_eq_map, List.map_cons,
        List.map_map]
      rfl
    · rw [if_neg hroom, ih, Call.after_of_refused wep c hroom,
        List.countP_cons_of_neg (by simpa using hroom)]

/-- No IV of a run is weak, and two of a window that is as long as the cycle of the longest key
differ. -/
theorem emitted_ivs (prim : Primitives) (wep : WepData) (hkey : wep.key.length ≤ 13)
    (cs : List Call) :
    (∀ iv ∈ emitted prim wep cs, ¬ Weak wep.key.length iv) ∧
    ∀ i j, ∀ hij : i < j, ∀ hj : j < (emitted prim wep cs).length, j - i < 2 ^ 24 - 256 * 13 →
      (emitted prim wep cs).get ⟨i, hij.trans hj⟩ ≠ (emitted prim wep cs).get ⟨j, hj⟩ := by
  rw [emitted_eq]
  constructor
  · intro iv hiv
    obtain ⟨k, -, rfl⟩ := List.mem_map.mp hiv
    rw [weak_ivBytes_iff, ivAfter_succ]
    exact nextIv_not_weak _
  · intro i j hij hj hwindow h
    simp only [List.get_eq_getElem, List.getElem_map, List.getElem_range] at h
    have hcycle : j - i < cycle wep.key.length := by
      unfold cycle
      omega
    apply ivAfter_ne hkey wep.iv (m := i) (by omega) hcycle
    rw [show i + 1 + (j - i) = j + 1 by omega]
    exact ivBytes_sentBits h

def noCipher : Primitives := ⟨fun _ bs => bs, fun _ => 0, fun _ _ => 0⟩

def emptyCall : Call := ⟨false, ⟨4, [], 4, false, 0⟩, 0⟩

/-- The second of two frames, where the first IV would be weak. -/
theorem emitted_ivs_two :
    (emitted noCipher ⟨0x03feff, [1, 2, 3, 4, 5], 0⟩ [emptyCall, emptyCall]).get
        ⟨0, by decide⟩ ≠
      (emitted noCipher ⟨0x03feff, [1, 2, 3, 4, 5], 0⟩ [emptyCall, emptyCall]).get
        ⟨1, by decide⟩ :=
  (emitted_ivs noCipher ⟨0x03feff, [1, 2, 3, 4, 5], 0⟩ (by decide)
    [emptyCall, emptyCall]).2 0 1 (by decide) (by decide) (by decide)

end Rtl8190.Crypt.Wep
