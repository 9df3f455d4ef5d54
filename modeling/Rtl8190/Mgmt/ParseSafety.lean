import Rtl8190.Mgmt.Parse

/-!
# Management frames and the end of the frame

Which received frames are parsed without a read beyond `skb->len`, and which probe requests get the
right answer.
-/

open Rtl8190.Memory

namespace Rtl8190.Mgmt

section

variable (mem : Nat → Byte) (len : Nat)

theorem readAddr_val (off : Nat) : (readAddr mem off).val = (fun i => mem (off + i) : Addr) := by
  unfold readAddr
  rw [bind_val, pure_val, copy_val]
  funext i
  exact if_pos i.isLt

theorem readAddr_within {off : Nat} (h : off + 6 ≤ len) : (readAddr mem off).Within (· < len) := by
  unfold readAddr
  rw [within_bind, within_copy]
  refine ⟨fun i hi => ?_, within_pure _⟩
  rw [within_read]
  omega

/-! ## Authentication and association -/

theorem authChallenge_val :
    (authChallenge mem len).val = if len > 33 ∧ mem 30 = mfieTypeChallenge then
      some ((List.range (mem 31).toNat).map fun i => mem (32 + i)) else none := by
  unfold authChallenge
  by_cases hlong : len > 33
  · rw [if_pos hlong, read_bind_val]
    by_cases hid : mem 30 = mfieTypeChallenge
    · rw [if_pos hid, if_pos ⟨hlong, hid⟩, read_bind_val, bind_val, pure_val, copy_val]
      congr 1
      apply List.map_congr_left
      intro i hi
      exact if_pos (List.mem_range.mp hi)
    · rw [if_neg hid, if_neg fun h => hid h.2]
      rfl
  · rw [if_neg hlong, if_neg fun h => hlong h.1]
    rfl

theorem authParse_val : (authParse mem len).val = Association.authParse ⟨mem, len⟩ := by
  unfold authParse Association.authParse
  split
  · rfl
  · rw [bind_val, authChallenge_val]
    rfl

theorem assocParse_val (env : Association.Env) (ieee : Association.Device) :
    (assocParse env ieee mem len).val = Association.assocParse env ieee ⟨mem, len⟩ := by
  unfold assocParse Association.assocParse Association.Frame.le16
  simp only [ite_val, bind_val, pure_val, read16_val]
  rfl

theorem authChallenge_within :
    (authChallenge mem len).Within (· < len) ↔
      (33 < len → mem 30 = mfieTypeChallenge → 32 + (mem 31).toNat ≤ len) := by
  unfold authChallenge
  by_cases hlong : len > 33
  · rw [if_pos hlong, within_read_bind]
    by_cases hid : mem 30 = mfieTypeChallenge
    · rw [if_pos hid, within_read_bind, within_bind, within_copy]
      simp only [within_read, within_pure]
      constructor
      · rintro ⟨-, -, hcopy, -⟩ - -
        by_contra hgt
        exact absurd (hcopy (len - 32) (by omega)) (by omega)
      · intro h
        have hle := h hlong hid
        exact ⟨by omega, by omega, fun i hi => by omega, trivial⟩
    · rw [if_neg hid]
      exact iff_of_true ⟨by omega, within_pure _⟩ fun _ h => absurd h hid
  · rw [if_neg hlong]
    exact iff_of_true (within_pure _) fun h => absurd h hlong

theorem authParse_within :
    (authParse mem len).Within (· < len) ↔
      len < 28 ∨ 30 ≤ len ∧
        (33 < len → mem 30 = mfieTypeChallenge → 32 + (mem 31).toNat ≤ len) := by
  unfold authParse
  split
  · exact iff_of_true (within_pure _) (.inl (by omega))
  · simp only [within_bind, within_pure, within_read16, authChallenge_within, and_true]
    constructor
    · rintro ⟨hchallenge, hstatus⟩
      exact .inr ⟨by omega, hchallenge⟩
    · rintro (hshort | ⟨hlen, hchallenge⟩)
      · omega
      · exact ⟨hchallenge, by omega, by omega⟩

theorem authRqParse_within : (authRqParse mem len).Within (· < len) := by
  unfold authRqParse
  rw [within_ite]
  refine ⟨fun _ => within_pure _, fun hlen => ?_⟩
  simp only [within_bind, within_read16, within_pure, and_true]
  exact ⟨readAddr_within mem len (by omega), by omega, by omega⟩

theorem assocRqParse_within : (assocRqParse mem len).Within (· < len) := by
  unfold assocRqParse
  rw [within_ite]
  refine ⟨fun _ => within_pure _, fun hlen => ?_⟩
  simp only [within_bind, within_pure, and_true]
  exact readAddr_within mem len (by omega)

theorem assocParse_within (env : Association.Env) (ieee : Association.Device) :
    (assocParse env ieee mem len).Within (· < len) := by
  unfold assocParse
  rw [within_ite]
  refine ⟨fun _ => within_pure _, fun hlen => ?_⟩
  simp only [within_bind, within_read16, within_pure, and_true]
  omega

/-! ## The comparison -/

/-- `strncmp` comes to byte `i`: the bytes before it agree, and none of them ends the string. -/
def Reached (s2 : Nat → Byte) (s1 i : Nat) : Prop :=
  ∀ j < i, mem (s1 + j) = s2 j ∧ mem (s1 + j) ≠ 0

variable {mem len} {s2 : Nat → Byte} {s1 : Nat}

theorem Reached.succ {i : Nat} (h : Reached mem s2 s1 i) (heq : mem (s1 + i) = s2 i)
    (hzero : mem (s1 + i) ≠ 0) : Reached mem s2 s1 (i + 1) := by
  intro j hj
  rcases Nat.lt_succ_iff_lt_or_eq.mp hj with hlt | rfl
  · exact h j hlt
  · exact ⟨heq, hzero⟩

theorem Reached.eq {i j : Nat} (h : Reached mem s2 s1 j) (hle : i ≤ j)
    (hstop : mem (s1 + i) = s2 i → mem (s1 + i) = 0) : j = i := by
  by_contra hne
  obtain ⟨heq, hzero⟩ := h i (by omega)
  exact hzero (hstop heq)

theorem strncmp_spec (len n i : Nat) (h : Reached mem s2 s1 i) :
    ((strncmp mem s2 (s1 + i) i n).val = true ↔
      ∀ j, i ≤ j → j < i + n → Reached mem s2 s1 j → mem (s1 + j) = s2 j) ∧
    ((strncmp mem s2 (s1 + i) i n).Within (· < len) ↔
      ∀ j, i ≤ j → j < i + n → Reached mem s2 s1 j → s1 + j < len) := by
  -- The comparison from byte `i` on, where it comes to `i`.
  induction n generalizing i with
  | zero =>
    exact ⟨iff_of_true rfl fun j hle hlt => by omega,
      iff_of_true (within_pure _) fun j hle hlt => by omega⟩
  | succ n ih =>
    unfold strncmp
    rw [read_bind_val, within_read_bind]
    by_cases heq : mem (s1 + i) = s2 i
    · rw [if_neg (not_not.mpr heq)]
      by_cases hzero : mem (s1 + i) = 0
      · rw [if_pos hzero]
        have hstop (j : Nat) (hle : i ≤ j) (hj : Reached mem s2 s1 j) : j = i :=
          hj.eq hle fun _ => hzero
        refine ⟨iff_of_true rfl fun j hle _ hj => hstop j hle hj ▸ heq, ?_⟩
        constructor
        · exact fun hfits j hle _ hj => hstop j hle hj ▸ hfits.1
        · exact fun hfits => ⟨hfits i le_rfl (by omega) h, within_pure _⟩
      · rw [if_neg hzero]
        obtain ⟨hval, hwithin⟩ := ih (i + 1) (h.succ heq hzero)
        refine ⟨hval.trans ⟨fun hagree j hle hlt hj => ?_, fun hagree j hle hlt => ?_⟩,
          (and_congr_right fun _ => hwithin).trans ⟨?_, fun hfits => ⟨?_, fun j hle hlt => ?_⟩⟩⟩
        · rcases Nat.eq_or_lt_of_le hle with rfl | hgt
          · exact heq
          · exact hagree j hgt (by omega) hj
        · exact hagree j (by omega) (by omega)
        · rintro ⟨hfirst, hrest⟩ j hle hlt hj
          rcases Nat.eq_or_lt_of_le hle with rfl | hgt
          · exact hfirst
          · exact hrest j hgt (by omega) hj
        · exact hfits i le_rfl (by omega) h
        · exact hfits j (by omega) (by omega)
    · rw [if_pos heq]
      have hstop (j : Nat) (hle : i ≤ j) (hj : Reached mem s2 s1 j) : j = i :=
        hj.eq hle fun hsame => absurd hsame heq
      refine ⟨iff_of_false (by simp) fun hagree => heq (hagree i le_rfl (by omega) h), ?_⟩
      constructor
      · exact fun hfits j hle _ hj => hstop j hle hj ▸ hfits.1
      · exact fun hfits => ⟨hfits i le_rfl (by omega) h, within_pure _⟩

end

/-! ## Probe requests -/

section

variable (net : CurrentNetwork) (mem : Nat → Byte) (len : Nat)

/-- The walk over the elements from `tag` on comes to the one at `p`, whose head is in the frame. -/
inductive ElementFrom : Nat → Nat → Prop
  | here {tag : Nat} : tag + 1 < len → ElementFrom tag tag
  | next {tag p : Nat} : tag + 1 < len → ElementFrom (tag + 1 + (mem (tag + 1)).toNat + 1) p →
      ElementFrom tag p

/-- The SSID element is at `p`: the first one with the identifier 0. -/
def IsSsid (tag p : Nat) : Prop :=
  ElementFrom mem len tag p ∧ mem p = 0 ∧ ∀ q < p, ElementFrom mem len tag q → mem q ≠ 0

/-- The element at `p` lies in the frame and is the SSID, in length and in content. -/
def SameSsid (p : Nat) : Prop :=
  mem (p + 1) = net.ssidLen ∧ p + 2 + (mem (p + 1)).toNat ≤ len ∧
    ∀ i < (mem (p + 1)).toNat, mem (p + 2 + i) = net.ssid i

/-- The element at `p` has a byte in the frame that differs from the SSID, and the bytes before it
agree and are not 0. -/
def OtherSsid (p : Nat) : Prop :=
  ∃ i < (mem (p + 1)).toNat, p + 2 + i < len ∧ Reached mem net.ssid (p + 2) i ∧
    mem (p + 2 + i) ≠ net.ssid i

def Addressed : Prop :=
  (fun i => mem (16 + i) : Addr) = net.bssid ∨ (fun i => mem (16 + i) : Addr) = broadcast

def AsksFor : Prop :=
  (∀ p, ElementFrom mem len 24 p → mem p ≠ 0) ∨
    ∃ p, IsSsid mem len 24 p ∧ (mem (p + 1) = 0 ∨ SameSsid net mem len p)

variable {net mem len}

theorem ElementFrom.le {tag p : Nat} (h : ElementFrom mem len tag p) : tag ≤ p ∧ p + 1 < len := by
  induction h with
  | here hlt => exact ⟨le_rfl, hlt⟩
  | next _ _ ih => exact ⟨by omega, ih.2⟩

theorem IsSsid.unique {tag p q : Nat} (hp : IsSsid mem len tag p) (hq : IsSsid mem len tag q) :
    p = q := by
  rcases Nat.lt_trichotomy p q with hlt | heq | hgt
  · exact absurd hp.2.1 (hq.2.2 p hlt hp.1)
  · exact heq
  · exact absurd hq.2.1 (hp.2.2 q hgt hq.1)

theorem isSsid_first {tag : Nat} (h : tag + 1 < len) (hid : mem tag = 0) :
    IsSsid mem len tag tag :=
  ⟨.here h, hid, fun _ hq hfrom => absurd hfrom.le.1 (Nat.not_le.mpr hq)⟩

theorem findSsid_within (fuel tag : Nat) : (findSsid mem len fuel tag).Within (· < len) := by
  induction fuel generalizing tag with
  | zero => exact within_pure _
  | succ fuel ih =>
    unfold findSsid
    split_ifs with htag
    · rw [within_read_bind]
      refine ⟨by omega, ?_⟩
      split_ifs
      · rw [within_read_bind]
        exact ⟨htag, within_pure _⟩
      · rw [within_read_bind]
        exact ⟨htag, ih _⟩
    · exact within_pure _

/-- The loop ends, as each round takes two bytes or more, and finds the SSID element. -/
theorem findSsid_spec (fuel tag : Nat) (h : len - tag < fuel) :
    (∃ p, IsSsid mem len tag p ∧
      (findSsid mem len fuel tag).val = some (some (p + 2, mem (p + 1)))) ∨
    (∀ p, ElementFrom mem len tag p → mem p ≠ 0) ∧
      (findSsid mem len fuel tag).val = some none := by
  induction fuel generalizing tag with
  | zero => omega
  | succ fuel ih =>
    unfold findSsid
    split_ifs with htag
    · rw [read_bind_val]
      split_ifs with hid
      · exact .inl ⟨tag, isSsid_first htag hid, rfl⟩
      · rw [read_bind_val]
        rcases ih (tag + 1 + (mem (tag + 1)).toNat + 1) (by omega) with
          ⟨p, hp, hval⟩ | ⟨hnone, hval⟩
        · refine .inl ⟨p, ⟨.next htag hp.1, hp.2.1, fun q hq hfrom => ?_⟩, hval⟩
          cases hfrom with
          | here _ => exact hid
          | next _ hfrom => exact hp.2.2 q hq hfrom
        · refine .inr ⟨fun p hfrom => ?_, hval⟩
          cases hfrom with
          | here _ => exact hid
          | next _ hfrom => exact hnone p hfrom
    · refine .inr ⟨fun p hfrom => ?_, rfl⟩
      exact absurd hfrom.le (by omega)

/-- The comparison stays in the frame and is right, if the element is the SSID or differs from it
in the frame. -/
theorem compare_iff (p : Nat) :
    ((strncmp mem net.ssid (p + 2) 0 (mem (p + 1)).toNat).Within (· < len) ∧
      ((strncmp mem net.ssid (p + 2) 0 (mem (p + 1)).toNat).val = true ↔
        SameSsid net mem len p)) ↔
    SameSsid net mem len p ∨ OtherSsid net mem len p := by
  have hstart : Reached mem net.ssid (p + 2) 0 := fun j hj => by omega
  obtain ⟨hval, hwithin⟩ := strncmp_spec len (mem (p + 1)).toNat 0 hstart
  simp only [Nat.add_zero, Nat.zero_add, Nat.zero_le, true_imp_iff] at hval hwithin
  rw [hval, hwithin]
  constructor
  · rintro ⟨hfits, hsame⟩
    by_cases hagree : ∀ j < (mem (p + 1)).toNat, Reached mem net.ssid (p + 2) j →
        mem (p + 2 + j) = net.ssid j
    · exact .inl (hsame.mp hagree)
    · push Not at hagree
      obtain ⟨j, hlt, hj, hne⟩ := hagree
      exact .inr ⟨j, hlt, hfits j hlt hj, hj, hne⟩
  · rintro (hsame | ⟨i, hlt, hi, hreached, hne⟩)
    · obtain ⟨-, hend, hagree⟩ := id hsame
      exact ⟨fun j hlt _ => by omega, iff_of_true (fun j hlt _ => hagree j hlt) hsame⟩
    · refine ⟨fun j _ hj => ?_, iff_of_false (fun hagree => hne (hagree i hlt hreached)) ?_⟩
      · by_contra hge
        exact hne (hj i (by omega)).1
      · exact fun hsame => hne (hsame.2.2 i hlt)

theorem probeRqParse_addressed (h : 24 ≤ len) (haddressed : Addressed net mem) :
    let answer := probeAnswer net mem (fun i => mem (10 + i)) (findSsid mem len len 24).val
    (probeRqParse net mem len).val = answer.val ∧
      ((probeRqParse net mem len).Within (· < len) ↔ answer.Within (· < len)) := by
  have hneg : ¬ ((readAddr mem 16).val ≠ net.bssid ∧ (readAddr mem 16).val ≠ broadcast) := by
    rw [readAddr_val]
    rcases haddressed with hnet | hall
    · exact fun hother => hother.1 hnet
    · exact fun hother => hother.2 hall
  dsimp only
  unfold probeRqParse
  rw [if_neg (by omega), bind_val, within_bind, if_neg hneg, bind_val, within_bind, bind_val,
    within_bind, readAddr_val mem 10]
  refine ⟨rfl, fun hparse => hparse.2.2.2, fun hanswer => ?_⟩
  exact ⟨readAddr_within mem len (by omega), readAddr_within mem len (by omega),
    findSsid_within _ _, hanswer⟩

theorem probeRqParse_other (h : 24 ≤ len) (hother : ¬ Addressed net mem) :
    (probeRqParse net mem len).val = some (-1, none) ∧
      (probeRqParse net mem len).Within (· < len) := by
  have hpos : (readAddr mem 16).val ≠ net.bssid ∧ (readAddr mem 16).val ≠ broadcast := by
    rw [readAddr_val]
    exact not_or.mp hother
  unfold probeRqParse
  rw [if_neg (by omega), bind_val, within_bind, if_pos hpos]
  exact ⟨rfl, readAddr_within mem len (by omega), within_pure _⟩

theorem asksFor_iff {p : Nat} (hp : IsSsid mem len 24 p) :
    AsksFor net mem len ↔ mem (p + 1) = 0 ∨ SameSsid net mem len p := by
  constructor
  · rintro (hnone | ⟨q, hq, hasks⟩)
    · exact absurd hp.2.1 (hnone p hp.1)
    · exact hp.unique hq ▸ hasks
  · exact fun hasks => .inr ⟨p, hp, hasks⟩

theorem probeAnswer_iff (src : Addr) (p : Nat) :
    ((probeAnswer net mem src (some (some (p + 2, mem (p + 1))))).Within (· < len) ∧
      (probeAnswer net mem src (some (some (p + 2, mem (p + 1))))).val ≠ none ∧
      ((probeAnswer net mem src (some (some (p + 2, mem (p + 1))))).val.map Prod.fst = some 1 ↔
        mem (p + 1) = 0 ∨ SameSsid net mem len p)) ↔
    mem (p + 1) = 0 ∨ SameSsid net mem len p ∨ OtherSsid net mem len p := by
  unfold probeAnswer
  dsimp only
  by_cases hempty : mem (p + 1) = 0
  · rw [if_pos hempty]
    exact iff_of_true ⟨within_pure _, by simp, iff_of_true rfl (.inl hempty)⟩ (.inl hempty)
  · rw [if_neg hempty, bind_val, within_bind, pure_val]
    simp only [hempty, false_or, within_pure, and_true]
    rw [← compare_iff]
    simp

theorem probeRqParse_iff (h : 24 ≤ len) :
    ((probeRqParse net mem len).Within (· < len) ∧ (probeRqParse net mem len).val ≠ none ∧
      (Addressed net mem →
        ((probeRqParse net mem len).val.map Prod.fst = some 1 ↔ AsksFor net mem len))) ↔
    (Addressed net mem → ∀ p, IsSsid mem len 24 p →
      mem (p + 1) = 0 ∨ SameSsid net mem len p ∨ OtherSsid net mem len p) := by
  -- Which probe requests are parsed in the frame and get the right answer.
  by_cases haddressed : Addressed net mem
  · obtain ⟨hval, hwithin⟩ := probeRqParse_addressed h haddressed
    rw [hval, hwithin]
    simp only [haddressed, true_imp_iff]
    rcases findSsid_spec len 24 (show len - 24 < len by omega) with
      ⟨p, hp, hfound⟩ | ⟨hnone, hfound⟩
    · rw [hfound, asksFor_iff hp, probeAnswer_iff]
      exact ⟨fun hright q hq => hp.unique hq ▸ hright, fun hright => hright p hp⟩
    · rw [hfound]
      refine iff_of_true ⟨within_pure _, by simp [probeAnswer], ?_⟩ fun p hp => ?_
      · exact iff_of_true rfl (.inl hnone)
      · exact absurd hp.2.1 (hnone p hp.1)
  · obtain ⟨hval, hwithin⟩ := probeRqParse_other h haddressed
    rw [hval]
    refine iff_of_true ⟨hwithin, by simp, fun hpos => absurd hpos haddressed⟩ fun hpos => ?_
    exact absurd hpos haddressed

end

/-! ## Action frames -/

section

open BlockAck

variable (r : Receiver) (mem : Nat → Byte) (len : Nat)

def AcceptsReq : Prop :=
  ¬ (r.ieee.qosActive = false ∨ r.ieee.bCurrentHtSupport = false ∨ r.ieee.rejectAddbaReq = true) ∧
    r.getRxTs (fun i => mem (10 + i)) (BaParamSet.tid (mem 28 ++ mem 27)) ≠ none ∧
    BaParamSet.baPolicy (mem 28 ++ mem 27) ≠ baPolicyDelayed

/-- `rtllib_rx_DELBA` looks at the parameters. -/
def AcceptsDelba : Prop :=
  ¬ (r.ieee.qosActive = false ∨ r.ieee.bCurrentHtSupport = false)

/-- A Block-Ack frame is long enough for its handler: its starting sequence number is looked for
after seven headers, and its DELBA parameters after 26. -/
def BaFits (act : Byte) : Prop :=
  (act = actAddbareq → 33 ≤ len → AcceptsReq r mem → 170 ≤ len) ∧
    (act = actDelba → 30 ≤ len → AcceptsDelba r → 626 ≤ len)

@[simp] theorem readAddr2_val : (BlockAck.readAddr2 mem).val = (fun i => mem (10 + i) : Addr) := rfl

theorem addbaReq_within :
    (rtllibRxAddbaReq r.ieee r.getRxTs r.stack mem len).Within (· < len) ↔
      (33 ≤ len → AcceptsReq r mem → 170 ≤ len) := by
  unfold rtllibRxAddbaReq AcceptsReq sizeofHdr3addr
  by_cases hshort : len < 24 + 9
  · rw [if_pos hshort]
    exact iff_of_true (within_pure _) fun hlen => by omega
  · rw [if_neg hshort]
    have haddr : (BlockAck.readAddr2 mem).Within (· < len) := readAddr2_within mem (by omega)
    by_cases hcap : r.ieee.qosActive = false ∨ r.ieee.bCurrentHtSupport = false ∨
        r.ieee.rejectAddbaReq = true
    · refine iff_of_true ?_ fun _ hnot => absurd hcap hnot.1
      simp [hcap, haddr]
      omega
    · cases hts : r.getRxTs (fun i => mem (10 + i)) (BaParamSet.tid (mem 28 ++ mem 27)) with
      | none =>
        refine iff_of_true ?_ fun _ hnot => absurd rfl hnot.2.1
        simp [hcap, haddr, hts]
        omega
      | some pBA =>
        by_cases hpolicy : BaParamSet.baPolicy (mem 28 ++ mem 27) = baPolicyDelayed
        · refine iff_of_true ?_ fun _ hnot => absurd hpolicy hnot.2.2
          simp [hcap, haddr, hts, hpolicy]
          omega
        · simp [hcap, haddr, hts, hpolicy]
          omega

theorem addbaRsp_within : (rtllibRxAddbaRsp r.ieee r.getTxTs mem len).Within (· < len) := by
  unfold rtllibRxAddbaRsp sizeofHdr3addr
  split
  · exact within_pure _
  · have haddr : (BlockAck.readAddr2 mem).Within (· < len) := readAddr2_within mem (by omega)
    dsimp only
    rw [within_bind]
    refine ⟨haddr, ?_⟩
    have hreject (pTS : Option TxTsRecord) (reasonCode : BitVec 16) :
        (do let baParamSet ← read16 mem (24 + 5)
            pure (AddbaRspResult.rejected pTS baParamSet reasonCode) :
          Reads Nat AddbaRspResult).Within (· < len) := by
      simp only [within_bind, within_read16, within_pure, and_true]
      omega
    split
    · exact hreject _ _
    · rw [within_bind, within_read16]
      refine ⟨by omega, ?_⟩
      split
      · exact hreject _ _
      · split
        · exact within_pure _
        · rw [within_read_bind]
          refine ⟨by omega, ?_⟩
          split
          · exact hreject _ _
          · rw [within_bind, within_read16]
            refine ⟨by omega, ?_⟩
            split
            · split
              · exact hreject _ _
              · rw [within_bind, within_read16]
                exact ⟨by omega, within_pure _⟩
            · exact hreject _ _

theorem delba_within :
    (rtllibRxDelba r.ieee r.getRxTs r.getTxTs mem len).Within (· < len) ↔
      (30 ≤ len → AcceptsDelba r → 626 ≤ len) := by
  unfold rtllibRxDelba AcceptsDelba sizeofHdr3addr
  split_ifs with hshort hcap
  · exact iff_of_true (within_pure _) fun hlen => by omega
  · exact iff_of_true (within_pure _) fun _ hnot => absurd hcap hnot
  · dsimp only
    rw [within_bind, within_bind, within_read16]
    constructor
    · rintro ⟨-, hparams, -⟩ - -
      omega
    · intro h
      have hlen := h (by omega) hcap
      refine ⟨readAddr2_within mem (by omega), by omega, ?_⟩
      split_ifs
      · split <;> exact within_pure _
      · split <;> exact within_pure _

theorem processBa_within (act : Byte) :
    (processBa r mem len act).Within (· < len) ↔ BaFits r mem len act := by
  unfold processBa BaFits
  split_ifs with hreq hrsp hdelba
  · subst hreq
    rw [within_bind, addbaReq_within]
    simp [actAddbareq, actDelba]
  · subst hrsp
    rw [within_bind]
    exact iff_of_true ⟨addbaRsp_within r mem len, within_pure _⟩
      (by simp [actAddbarsp, actAddbareq, actDelba])
  · subst hdelba
    rw [within_bind, delba_within]
    simp [actAddbareq, actDelba]
  · exact iff_of_true (within_pure _) ⟨fun h => absurd h hreq, fun h => absurd h hdelba⟩

/-- An action frame that is long enough -/
def ActionFits : Prop :=
  ∀ payload, rtllibGetPayload (mem 1 ++ mem 0) = some payload → payload < len ∧
    (mem payload = actCatBa → payload + 1 < len ∧ BaFits r mem len (mem (payload + 1)))

theorem processAction_within (h : 2 ≤ len) :
    (rtllibProcessAction r mem len).Within (· < len) ↔ ActionFits r mem len := by
  unfold rtllibProcessAction ActionFits
  rw [within_bind, within_read16, read16_val]
  cases rtllibGetPayload (mem 1 ++ mem 0) with
  | none => exact iff_of_true ⟨by omega, within_pure _⟩ fun payload hnone => by cases hnone
  | some payload =>
    simp only [Option.some.injEq, forall_eq']
    rw [within_read_bind]
    by_cases hcategory : mem payload = actCatBa
    · rw [if_pos hcategory, within_read_bind, processBa_within]
      simp only [hcategory, true_imp_iff]
      exact and_iff_right ⟨by omega, by omega⟩
    · rw [if_neg hcategory]
      simp only [hcategory, false_imp_iff, within_pure]
      exact and_iff_right ⟨by omega, by omega⟩

end

/-! ## Main result -/

section

open BlockAck

variable (net : CurrentNetwork) (r : Receiver) (mem : Nat → Byte) (len : Nat)

/-- No parser reads beyond the frame, and a probe request gets the right answer. -/
structure ParsesSafely : Prop where
  auth : (authParse mem len).Within (· < len)
  authRq : (authRqParse mem len).Within (· < len)
  assoc : ∀ env ieee, (assocParse env ieee mem len).Within (· < len)
  assocRq : (assocRqParse mem len).Within (· < len)
  probe : (probeRqParse net mem len).Within (· < len)
  /-- The loop over the elements has ended. -/
  probeEnds : (probeRqParse net mem len).val ≠ none
  probeRight : Addressed net mem →
    ((probeRqParse net mem len).val.map Prod.fst = some 1 ↔ AsksFor net mem len)
  action : (rtllibProcessAction r mem len).Within (· < len)

/-- What nothing checks before the reads -/
structure Fits : Prop where
  /-- The status lies in the frame, and a challenge too. -/
  auth : len < 28 ∨ 30 ≤ len ∧
    (33 < len → mem 30 = mfieTypeChallenge → 32 + (mem 31).toNat ≤ len)
  /-- The SSID is empty, the one of the network, or another one already within the frame. -/
  probe : Addressed net mem → ∀ p, IsSsid mem len 24 p →
    mem (p + 1) = 0 ∨ SameSsid net mem len p ∨ OtherSsid net mem len p
  action : ActionFits r mem len

/-- A frame is parsed safely if and only if it fits. -/
theorem parsesSafely_iff (h : 24 ≤ len) : ParsesSafely net r mem len ↔ Fits net r mem len := by
  constructor
  · rintro ⟨hauth, -, -, -, hprobe, hends, hright, haction⟩
    refine ⟨(authParse_within mem len).mp hauth, ?_, ?_⟩
    · exact (probeRqParse_iff h).mp ⟨hprobe, hends, hright⟩
    · exact (processAction_within r mem len (by omega)).mp haction
  · rintro ⟨hauth, hprobe, haction⟩
    obtain ⟨hwithin, hends, hright⟩ := (probeRqParse_iff h).mpr hprobe
    exact
      { auth := (authParse_within mem len).mpr hauth
        authRq := authRqParse_within mem len
        assoc := assocParse_within mem len
        assocRq := assocRqParse_within mem len
        probe := hwithin
        probeEnds := hends
        probeRight := hright
        action := (processAction_within r mem len (by omega)).mpr haction }

end

/-! ## Three frames -/

def access : CurrentNetwork where
  bssid := fun _ => 2
  ssid := place [0x61, 0x70] fun _ => 0
  ssidLen := 2

def legacy : BlockAck.Receiver where
  ieee := ⟨fun _ => 1, fun _ => 2, false, false, false, false, false, false⟩
  getRxTs := fun _ _ => none
  getTxTs := fun _ _ => none
  stack := ⟨false, false, 0, 0, 0, 0⟩

def header (stype : Byte) : List Byte :=
  [stype, 0, 0, 0] ++ List.replicate 6 0xff ++ List.replicate 6 3 ++ List.replicate 6 0xff ++ [0, 0]

def probeRequest : List Byte := header 0x40 ++ [0, 2, 0x61, 0x70, 1, 1, 2]

theorem probeRequest_parsed : ParsesSafely access legacy (place probeRequest fun _ => 0) 31 := by
  rw [parsesSafely_iff _ _ _ _ (by decide)]
  refine ⟨.inr ⟨by decide, fun h => absurd h (by decide)⟩, fun _ p hp => .inr (.inl ?_), ?_⟩
  · rw [hp.unique (isSsid_first (by decide) rfl)]
    exact ⟨rfl, by decide, by decide⟩
  · rintro payload hpayload
    have hheader : rtllibGetPayload 0x40 = some 24 := by decide
    cases hheader.symm.trans hpayload
    exact ⟨by decide, fun h => absurd h (by decide)⟩

/-- An authentication response whose challenge is cut off, a probe request for `ap` and a zero, and
an action frame without a payload -/
theorem cutFrames_unsafe :
    ¬ ParsesSafely access legacy
      (place (header 0xb0 ++ [1, 0, 2, 0, 0, 0, 16, 128, 1, 2]) fun _ => 0) 34 ∧
    ¬ ParsesSafely access legacy
      (place (header 0x40 ++ [0, 3, 0x61, 0x70, 0, 1, 1, 2]) fun _ => 0) 32 ∧
    ¬ ParsesSafely access legacy (place (header 0xd0) fun _ => 0) 24 := by
  refine ⟨fun h => ?_, fun h => ?_, fun h => ?_⟩
  · have hauth := (authParse_within _ _).mp h.auth
    exact absurd hauth (by decide)
  · rcases (h.probeRight (.inr (by decide))).mp (by decide) with hnone | ⟨p, hp, hsame⟩
    · exact hnone 24 (.here (by decide)) rfl
    · rw [hp.unique (isSsid_first (by decide) rfl)] at hsame
      rcases hsame with hempty | hsame
      · exact absurd hempty (by decide)
      · exact absurd hsame.1 (by decide)
  · exact absurd h.action (by decide)

end Rtl8190.Mgmt
