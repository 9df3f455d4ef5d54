import Rtl8190.Beacon.Dot11d

/-!
# A country element is learned or skipped

The channel map is cleared before the triples are looked at, and it is filled as they are. A bad
triple ends the function, and nothing is put back.
-/

open Rtl8190.Memory

namespace Rtl8190.Beacon

structure Triple where
  firstChnl : Byte
  numChnls : Byte
  maxTxPowerInDbm : Byte
  deriving DecidableEq, Repr

def Triple.Covers (t : Triple) (c : Nat) : Prop :=
  t.firstChnl.toNat ≤ c ∧ c < t.firstChnl.toNat + t.numChnls.toNat

instance (t : Triple) (c : Nat) : Decidable (t.Covers c) := inferInstanceAs (Decidable (_ ∧ _))

/-- What a list of triples should be: in range, in order and apart from each other. -/
structure LegalTriples (ts : List Triple) : Prop where
  inRange : ∀ t ∈ ts, 0 < t.firstChnl.toNat ∧
    t.firstChnl.toNat + t.numChnls.toNat ≤ maxChannelNumber
  ordered : ts.Pairwise fun t u => ∀ c, t.Covers c → c < u.firstChnl.toNat

/-- The channel map is 1 on the channels of the triples only, and each has the power of its
triple. -/
structure Dot11dInfo.Lists (info : Dot11dInfo) (ts : List Triple) : Prop where
  channelMap : ∀ c ≤ maxChannelNumber,
    info.channelMap c = if ∃ t ∈ ts, t.Covers c then 1 else 0
  power : ∀ t ∈ ts, ∀ c, t.Covers c → info.maxTxPwrDbmList c = t.maxTxPowerInDbm
  noPower : ∀ c ≤ maxChannelNumber, (∀ t ∈ ts, ¬ t.Covers c) → info.maxTxPwrDbmList c = 0xff

/-- These fields are as before. -/
structure Dot11dInfo.SameLists (info info' : Dot11dInfo) : Prop where
  channelMap : ∀ c ≤ maxChannelNumber, info'.channelMap c = info.channelMap c
  power : ∀ c ≤ maxChannelNumber, info'.maxTxPwrDbmList c = info.maxTxPwrDbmList c

section Element

variable {π : Type} (ie : Nat → Reads π Byte)

def triplesFrom : Nat → Nat → List Triple
  | _, 0 => []
  | p, n + 1 => ⟨(ie p).val, (ie (p + 1)).val, (ie (p + 2)).val⟩ :: triplesFrom (p + 3) n

def elementTriples (len : Nat) : List Triple := triplesFrom ie 3 ((len - 3) / 3)

/-- The triples that the function looks at. -/
def countedTriples (len : Nat) : List Triple := triplesFrom ie 3 (numTriples len)

/-- The function comes to its end. -/
def Accepts (len : Nat) (info : Dot11dInfo) : Prop :=
  (tripleLoop ie (numTriples len) 3 0
    { info with channelMap := fun _ => 0, maxTxPwrDbmList := fun _ => 0xff }).val.1 = true

instance (len : Nat) (info : Dot11dInfo) : Decidable (Accepts ie len info) :=
  inferInstanceAs (Decidable (_ = true))

/-- An element that is accepted is learned, and one that is rejected changes nothing. -/
structure LearnsOrSkips (pTaddr : Addr) (len : Nat) (info : Dot11dInfo) : Prop where
  learns : Accepts ie len info →
    (dot11dUpdateCountryIe ie pTaddr len info).val.Lists (elementTriples ie len) ∧
    (dot11dUpdateCountryIe ie pTaddr len info).val.state = .learned
  skips : ¬ Accepts ie len info →
    info.SameLists (dot11dUpdateCountryIe ie pTaddr len info).val ∧
    (dot11dUpdateCountryIe ie pTaddr len info).val.countryIeLen = info.countryIeLen ∧
    (dot11dUpdateCountryIe ie pTaddr len info).val.state = info.state

end Element

/-! ## Lists of triples -/

theorem LegalTriples.nil : LegalTriples [] := ⟨by simp, .nil⟩

theorem LegalTriples.of_append {ts us : List Triple} (h : LegalTriples (ts ++ us)) :
    LegalTriples ts :=
  ⟨fun t ht => h.inRange t (List.mem_append_left us ht), (List.pairwise_append.mp h.ordered).1⟩

theorem LegalTriples.take_of_le {ts : List Triple} {j k : Nat} (h : LegalTriples (ts.take k))
    (hjk : j ≤ k) : LegalTriples (ts.take j) := by
  rw [← List.take_append_drop j (ts.take k), List.take_take, Nat.min_eq_left hjk] at h
  exact h.of_append

theorem LegalTriples.append_one {ts : List Triple} (h : LegalTriples ts) {t : Triple}
    (hfirst : 0 < t.firstChnl.toNat)
    (hlast : t.firstChnl.toNat + t.numChnls.toNat ≤ maxChannelNumber)
    (hbehind : ∀ u ∈ ts, ∀ c, u.Covers c → c < t.firstChnl.toNat) :
    LegalTriples (ts ++ [t]) where
  inRange := by
    intro u hu
    rcases List.mem_append.mp hu with hu | hu
    · exact h.inRange u hu
    · obtain rfl := List.mem_singleton.mp hu
      exact ⟨hfirst, hlast⟩
  ordered := by
    apply List.pairwise_append.mpr
    refine ⟨h.ordered, List.pairwise_singleton _ _, fun u hu v hv => ?_⟩
    obtain rfl := List.mem_singleton.mp hv
    exact hbehind u hu

namespace Dot11dInfo.Lists

variable {info info' : Dot11dInfo} {ts : List Triple}

theorem sameLists (h : info.Lists ts) (h' : info'.Lists ts) : info.SameLists info' where
  channelMap c hc := (h'.channelMap c hc).trans (h.channelMap c hc).symm
  power c hc := by
    by_cases hcover : ∃ t ∈ ts, t.Covers c
    · obtain ⟨t, ht, hc⟩ := hcover
      exact (h'.power t ht c hc).trans (h.power t ht c hc).symm
    · push Not at hcover
      exact (h'.noPower c hc hcover).trans (h.noPower c hc hcover).symm

theorem congr (hlegal : LegalTriples ts) (h : info'.Lists ts) (hsame : info.SameLists info') :
    info.Lists ts where
  channelMap c hc := (hsame.channelMap c hc).symm.trans (h.channelMap c hc)
  power t ht c hc := by
    have hin : c ≤ maxChannelNumber := by
      have := (hlegal.inRange t ht).2
      have := hc.2
      omega
    exact (hsame.power c hin).symm.trans (h.power t ht c hc)
  noPower c hc hnone := (hsame.power c hc).symm.trans (h.noPower c hc hnone)

theorem append_empty (h : info.Lists ts) {t : Triple} (ht : t.numChnls = 0) :
    info.Lists (ts ++ [t]) := by
  -- A triple without channels lists nothing.
  have hnone (c : Nat) : ¬ t.Covers c := by
    unfold Triple.Covers
    rw [ht]
    simp
  constructor
  · intro c hc
    rw [h.channelMap c hc]
    simp [hnone]
  · intro u hu c hc
    rcases List.mem_append.mp hu with hu | hu
    · exact h.power u hu c hc
    · obtain rfl := List.mem_singleton.mp hu
      exact absurd hc (hnone c)
  · intro c hc hout
    exact h.noPower c hc fun u hu => hout u (List.mem_append_left _ hu)

theorem append_one (h : info.Lists ts) {t : Triple}
    (hbehind : ∀ u ∈ ts, ∀ c, u.Covers c → c < t.firstChnl.toNat) :
    (setChannels info t.firstChnl.toNat t.numChnls.toNat t.maxTxPowerInDbm).Lists (ts ++ [t]) := by
  -- The inner loop lists one more triple, whose channels no other has.
  constructor
  · intro c hc
    have hnow := h.channelMap c hc
    by_cases hcover : t.Covers c
    · rw [if_pos ⟨t, by simp, hcover⟩]
      exact if_pos hcover
    · simp only [List.mem_append, List.mem_singleton, or_and_right, exists_or, exists_eq_left,
        hcover, or_false]
      exact (if_neg hcover).trans hnow
  · intro u hu c hc
    rcases List.mem_append.mp hu with hu | hu
    · have hbelow := hbehind u hu c hc
      refine (if_neg ?_).trans (h.power u hu c hc)
      omega
    · obtain rfl := List.mem_singleton.mp hu
      exact if_pos hc
  · intro c hc hout
    refine (if_neg (hout t (by simp))).trans (h.noPower c hc ?_)
    exact fun u hu => hout u (List.mem_append_left _ hu)

end Dot11dInfo.Lists

/-! ## The loop -/

section Loop

variable {π : Type} {ie : Nat → Reads π Byte}

/-- `MaxChnlNum` is the last channel of the triples that are done. -/
structure Reached (done : List Triple) (maxChnlNum : Nat) : Prop where
  above : ∀ t ∈ done, ∀ c, t.Covers c → c ≤ maxChnlNum
  covered : maxChnlNum = 0 ∨ ∃ t ∈ done, t.Covers maxChnlNum

theorem Reached.append_empty {done : List Triple} {m : Nat} (h : Reached done m) {t : Triple}
    (ht : t.numChnls = 0) : Reached (done ++ [t]) m := by
  constructor
  · intro u hu c hc
    rcases List.mem_append.mp hu with hu | hu
    · exact h.above u hu c hc
    · obtain rfl := List.mem_singleton.mp hu
      unfold Triple.Covers at hc
      rw [ht] at hc
      simp at hc
      omega
  · refine h.covered.imp_right ?_
    rintro ⟨u, hu, hc⟩
    exact ⟨u, List.mem_append_left _ hu, hc⟩

theorem Reached.append_one {done : List Triple} {m : Nat} (h : Reached done m) {t : Triple}
    (hm : m < t.firstChnl.toNat) (ht : 0 < t.numChnls.toNat) :
    Reached (done ++ [t]) (t.firstChnl.toNat + t.numChnls.toNat - 1) := by
  constructor
  · intro u hu c hc
    rcases List.mem_append.mp hu with hu | hu
    · have := h.above u hu c hc
      omega
    · obtain rfl := List.mem_singleton.mp hu
      unfold Triple.Covers at hc
      omega
  · right
    refine ⟨t, by simp, ?_⟩
    unfold Triple.Covers
    omega

theorem legal_append_iff {done : List Triple} {m : Nat} (hlegal : LegalTriples done)
    (h : Reached done m) (t : Triple) :
    LegalTriples (done ++ [t]) ↔ m < t.firstChnl.toNat ∧
      t.firstChnl.toNat + t.numChnls.toNat ≤ maxChannelNumber := by
  constructor
  · intro hmore
    obtain ⟨hfirst, hlast⟩ := hmore.inRange t (by simp)
    refine ⟨?_, hlast⟩
    rcases h.covered with rfl | ⟨u, hu, hc⟩
    · exact hfirst
    · exact (List.pairwise_append.mp hmore.ordered).2.2 u hu t (by simp) m hc
  · rintro ⟨hm, hlast⟩
    exact hlegal.append_one (by omega) hlast fun u hu c hc => (h.above u hu c hc).trans_lt hm

/-- The loop lists triples up to the first that may not follow. -/
structure LoopResult (done ts : List Triple) (info : Dot11dInfo) (r : Bool × Dot11dInfo) :
    Prop where
  countryIeLen : r.2.countryIeLen = info.countryIeLen
  state : r.2.state = info.state
  ended : r.1 = true → LegalTriples (done ++ ts) ∧ r.2.Lists (done ++ ts)
  stopped : r.1 = false → ∃ k < ts.length, LegalTriples (done ++ ts.take k) ∧
    ¬ LegalTriples (done ++ ts.take (k + 1)) ∧ r.2.Lists (done ++ ts.take k)

theorem LoopResult.cons {done ts : List Triple} {t : Triple} {info info' : Dot11dInfo}
    {r : Bool × Dot11dInfo} (h : LoopResult (done ++ [t]) ts info' r)
    (hlen : info'.countryIeLen = info.countryIeLen) (hstate : info'.state = info.state) :
    LoopResult done (t :: ts) info r where
  countryIeLen := h.countryIeLen.trans hlen
  state := h.state.trans hstate
  ended hend := by
    have hended := h.ended hend
    rwa [List.append_assoc] at hended
  stopped hstop := by
    obtain ⟨k, hk, hstopped⟩ := h.stopped hstop
    rw [List.append_assoc, List.append_assoc] at hstopped
    exact ⟨k + 1, Nat.succ_lt_succ hk, hstopped⟩

theorem LoopResult.stop {done ts : List Triple} {t : Triple} {info : Dot11dInfo}
    (hlegal : LegalTriples done) (hlists : info.Lists done)
    (hbad : ¬ LegalTriples (done ++ [t])) : LoopResult done (t :: ts) info (false, info) where
  countryIeLen := rfl
  state := rfl
  ended hend := by cases hend
  stopped _ := ⟨0, Nat.succ_pos _, by simpa using hlegal, hbad, by simpa using hlists⟩

theorem tripleLoop_result (n p m : Nat) {done : List Triple} {info : Dot11dInfo}
    (hlegal : LegalTriples done) (hreached : Reached done m) (hlists : info.Lists done) :
    LoopResult done (triplesFrom ie p n) info (tripleLoop ie n p m info).val := by
  induction n generalizing p m done info with
  | zero =>
    unfold triplesFrom tripleLoop
    rw [pure_val]
    exact ⟨rfl, rfl, fun _ => by simpa using ⟨hlegal, hlists⟩, fun h => by cases h⟩
  | succ n ih =>
    unfold triplesFrom tripleLoop
    simp only [bind_val, ite_val, pure_val]
    generalize ht : Triple.mk (ie p).val (ie (p + 1)).val (ie (p + 2)).val = t
    obtain ⟨hfirst, hnum, hpower⟩ : (ie p).val = t.firstChnl ∧ (ie (p + 1)).val = t.numChnls ∧
        (ie (p + 2)).val = t.maxTxPowerInDbm := by
      rw [← ht]
      exact ⟨rfl, rfl, rfl⟩
    rw [hfirst, hnum, hpower]
    have hmay := legal_append_iff hlegal hreached t
    split_ifs with hbehind hrange hnone
    · exact .stop hlegal hlists fun h => by have := hmay.mp h; omega
    · exact .stop hlegal hlists fun h => by have := hmay.mp h; omega
    · have hmore := hmay.mpr ⟨by omega, by omega⟩
      exact (ih _ _ hmore (hreached.append_empty hnone) (hlists.append_empty hnone)).cons rfl rfl
    · have hmore := hmay.mpr ⟨by omega, by omega⟩
      have hpos : 0 < t.numChnls.toNat := by
        apply Nat.pos_of_ne_zero
        intro hzero
        exact hnone (BitVec.eq_of_toNat_eq hzero)
      have hlists' := hlists.append_one (t := t)
        fun u hu c hc => (hreached.above u hu c hc).trans_lt (by omega)
      exact (ih _ _ hmore (hreached.append_one (by omega) hpos) hlists').cons rfl rfl

theorem cleared_result (len : Nat) (info : Dot11dInfo) :
    LoopResult [] (countedTriples ie len) info (tripleLoop ie (numTriples len) 3 0
      { info with channelMap := fun _ => 0, maxTxPwrDbmList := fun _ => 0xff }).val := by
  have hlists : Dot11dInfo.Lists
      { info with channelMap := fun _ => 0, maxTxPwrDbmList := fun _ => 0xff } [] :=
    ⟨by simp, by simp, by simp⟩
  obtain ⟨hlen, hstate, hended, hstopped⟩ :=
    @tripleLoop_result _ ie (numTriples len) 3 0 _ _ .nil ⟨by simp, .inl rfl⟩ hlists
  exact ⟨hlen, hstate, hended, hstopped⟩

end Loop

/-! ## The function -/

section Update

variable {π : Type} {ie : Nat → Reads π Byte} {info : Dot11dInfo}

theorem accepts_iff (len : Nat) :
    Accepts ie len info ↔ LegalTriples (countedTriples ie len) := by
  -- An element is accepted just when its triples are what they should be.
  have hloop := @cleared_result _ ie len info
  unfold Accepts
  cases hend : (tripleLoop ie (numTriples len) 3 0
    { info with channelMap := fun _ => 0, maxTxPwrDbmList := fun _ => 0xff }).val.1 with
  | true =>
    simp only [true_iff]
    exact (hloop.ended hend).1
  | false =>
    simp only [Bool.false_eq_true, false_iff]
    intro hlegal
    obtain ⟨k, hk, -, hbad, -⟩ := hloop.stopped hend
    apply hbad
    apply LegalTriples.take_of_le (k := (countedTriples ie len).length) _ hk
    rwa [List.take_length]

theorem update_of_accepts {len : Nat} (h : Accepts ie len info) (pTaddr : Addr) :
    (dot11dUpdateCountryIe ie pTaddr len info).val.Lists (countedTriples ie len) ∧
      (dot11dUpdateCountryIe ie pTaddr len info).val.state = .learned := by
  have hlists := ((@cleared_result _ ie len info).ended h).2
  unfold Accepts at h
  unfold dot11dUpdateCountryIe
  simp only [bind_val, pure_val, h, if_true]
  exact ⟨⟨hlists.channelMap, hlists.power, hlists.noPower⟩, trivial⟩

theorem update_of_rejects {len : Nat} (h : ¬ Accepts ie len info) (pTaddr : Addr) :
    (dot11dUpdateCountryIe ie pTaddr len info).val.countryIeLen = info.countryIeLen ∧
    (dot11dUpdateCountryIe ie pTaddr len info).val.state = info.state ∧
    ∃ k < (countedTriples ie len).length, LegalTriples ((countedTriples ie len).take k) ∧
      ¬ LegalTriples ((countedTriples ie len).take (k + 1)) ∧
      (dot11dUpdateCountryIe ie pTaddr len info).val.Lists ((countedTriples ie len).take k) := by
  have hloop := @cleared_result _ ie len info
  unfold Accepts at h
  unfold dot11dUpdateCountryIe
  simp only [bind_val, ite_val, pure_val, h]
  exact ⟨hloop.countryIeLen, hloop.state, hloop.stopped (by simpa using h)⟩

theorem countedTriples_of_ne_zero {len : Byte} (h : len ≠ 0) :
    countedTriples ie len.toNat = elementTriples ie len.toNat := by
  have hpos : len.toNat ≠ 0 := fun hzero => h (BitVec.eq_of_toNat_eq hzero)
  have hlt := len.isLt
  unfold countedTriples elementTriples
  congr 1
  rcases Nat.lt_or_ge len.toNat 3 with hshort | hlong
  · obtain hlen | hlen : len.toNat = 1 ∨ len.toNat = 2 := by omega
    · rw [hlen]
      rfl
    · rw [hlen]
      rfl
  · rw [numTriples_of_ge hlong, Nat.mod_eq_of_lt (by omega)]

theorem lists_nil_iff {ts : List Triple} (hlegal : LegalTriples ts) (h : info.Lists ts) :
    info.Lists [] ↔ ∀ t ∈ ts, t.numChnls = 0 := by
  -- Triples in range list nothing only if they have no channels.
  constructor
  · intro hnil t ht
    by_contra hnum
    have hpos : 0 < t.numChnls.toNat := by
      apply Nat.pos_of_ne_zero
      intro hzero
      exact hnum (BitVec.eq_of_toNat_eq hzero)
    have hin := (hlegal.inRange t ht).2
    have hcover : t.Covers t.firstChnl.toNat := ⟨le_rfl, by omega⟩
    have hone := h.channelMap t.firstChnl.toNat (by omega)
    rw [if_pos ⟨t, ht, hcover⟩, hnil.channelMap _ (by omega), if_neg (by simp)] at hone
    exact absurd hone (by decide)
  · intro hempty
    have hnone : ∀ t ∈ ts, ∀ c, ¬ t.Covers c := by
      intro t ht c hc
      unfold Triple.Covers at hc
      rw [hempty t ht] at hc
      simp at hc
      omega
    constructor
    · intro c hc
      rw [h.channelMap c hc, if_neg, if_neg]
      · simp
      · rintro ⟨t, ht, hcover⟩
        exact hnone t ht c hcover
    · simp
    · intro c hc _
      exact h.noPower c hc fun t ht => hnone t ht c

theorem learns_iff {len : Byte} (h : Accepts ie len.toNat info) (pTaddr : Addr) :
    (dot11dUpdateCountryIe ie pTaddr len.toNat info).val.Lists (elementTriples ie len.toNat) ↔
      (len = 0 → ∀ t ∈ countedTriples ie len.toNat, t.numChnls = 0) := by
  have hlists := (update_of_accepts h pTaddr).1
  by_cases hlen : len = 0
  · rw [← lists_nil_iff ((accepts_iff _).mp h) hlists]
    simp only [hlen, true_implies]
    rfl
  · simp only [hlen, false_implies, iff_true]
    rwa [← countedTriples_of_ne_zero hlen]

theorem first_bad_unique {ts : List Triple} {j k : Nat} (hj : LegalTriples (ts.take j))
    (hj' : ¬ LegalTriples (ts.take (j + 1))) (hk : LegalTriples (ts.take k))
    (hk' : ¬ LegalTriples (ts.take (k + 1))) : j = k := by
  rcases Nat.lt_trichotomy j k with hlt | heq | hgt
  · exact absurd (hk.take_of_le hlt) hj'
  · exact heq
  · exact absurd (hj.take_of_le hgt) hk'

/-- The function keeps to its rule just when the triples are legal, and an empty element is not
followed by channels; or when the lists hold already what the triples before the first bad one
make of them. -/
theorem learnsOrSkips_iff (ie : Nat → Reads π Byte) (pTaddr : Addr) (len : Byte)
    (info : Dot11dInfo) :
    LearnsOrSkips ie pTaddr len.toNat info ↔
      (LegalTriples (countedTriples ie len.toNat) ∧
        (len = 0 → ∀ t ∈ countedTriples ie len.toNat, t.numChnls = 0)) ∨
      ∃ k < (countedTriples ie len.toNat).length,
        LegalTriples ((countedTriples ie len.toNat).take k) ∧
        ¬ LegalTriples ((countedTriples ie len.toNat).take (k + 1)) ∧
        info.Lists ((countedTriples ie len.toNat).take k) := by
  by_cases haccepts : Accepts ie len.toNat info
  · have hlegal := (accepts_iff _).mp haccepts
    constructor
    · intro h
      left
      exact ⟨hlegal, (learns_iff haccepts pTaddr).mp (h.learns haccepts).1⟩
    · rintro (⟨-, hempty⟩ | ⟨k, hk, -, hbad, -⟩)
      · refine ⟨fun _ => ⟨(learns_iff haccepts pTaddr).mpr hempty, ?_⟩, absurd haccepts⟩
        exact (update_of_accepts haccepts pTaddr).2
      · rw [← List.take_length (l := countedTriples ie len.toNat)] at hlegal
        exact absurd (hlegal.take_of_le hk) hbad
  · obtain ⟨hlen, hstate, k, hk, hfit, hbad, hlists⟩ := update_of_rejects haccepts pTaddr
    constructor
    · intro h
      right
      exact ⟨k, hk, hfit, hbad, hlists.congr hfit (h.skips haccepts).1⟩
    · rintro (⟨hlegal, -⟩ | ⟨j, -, hfit', hbad', hbefore⟩)
      · exact absurd ((accepts_iff _).mpr hlegal) haccepts
      · obtain rfl := first_bad_unique hfit hbad hfit' hbad'
        exact ⟨fun h => absurd h haccepts, fun _ => ⟨hbefore.sameLists hlists, hlen, hstate⟩⟩

/-- The channels 1 to 11 are allowed, and an element comes whose only triple starts at 0. -/
theorem not_learnsOrSkips_zero :
    ¬ LearnsOrSkips (read fun i => (([0x55, 0x53, 0x20, 0, 1, 20] : List Byte).getD i 0))
      (fun _ => 0) 6 { (default : Dot11dInfo) with
        channelMap := fun c => if 1 ≤ c ∧ c ≤ 11 then 1 else 0 } := by
  intro h
  have hmap := (h.skips (by decide)).1.channelMap 1 (by decide)
  revert hmap
  decide

end Update

end Rtl8190.Beacon
