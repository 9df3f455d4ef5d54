import Rtl8190.Lib.Run
import Rtl8190.Cam.Setters

/-!
# The CAM after a silent reset

`swcamtable` follows the hardware, but `CamRestoreAllEntry` takes only the key bytes from it. Which
entries it writes, and under which index, type and address, it makes up from the key types, the mode
and the addresses of the moment.
-/

open Rtl8190.Memory Rtl8190.Run Function

namespace Rtl8190.Cam

/-! ## What `CamRestoreAllEntry` writes -/

structure Descr where
  keyIndex : Byte
  keyType : BitVec 16
  mac : Addr
  deriving DecidableEq

/-- What `CamRestoreAllEntry` looks at, besides the table. -/
structure Selection where
  pairwise : BitVec 16
  group : BitVec 16
  iwMode : IwMode
  bssid : Addr
  devAddr : Addr

def State.selection (s : State) : Selection :=
  ⟨s.pairwiseKeyType, s.groupKeyType, s.iwMode, s.bssid, s.devAddr⟩

def isWep (keyType : BitVec 16) : Bool := keyType = keyTypeWep40 || keyType = keyTypeWep104
def isTkipCcmp (keyType : BitVec 16) : Bool := keyType = keyTypeTkip || keyType = keyTypeCcmp

def Descr.words (d : Descr) (key : Nat → Byte) : Fin 8 → BitVec 32 :=
  camWords d.keyIndex d.keyType d.mac 0 key

theorem restoreUsed_cam (s : State) (i : Nat) (keyType : BitVec 16) (mac : Addr) (n : Nat) :
    (s.restoreUsed i keyType mac).cam n =
      if n = i ∧ (s.swcamtable i).bused = true then
        Descr.words ⟨BitVec.ofNat 8 i, keyType, mac⟩ (s.keyContent (s.swcamtable i).keyBuf)
      else s.cam n := by
  unfold State.restoreUsed
  by_cases hused : (s.swcamtable i).bused = true
  · rw [if_pos hused]
    unfold State.restoreKey State.setKey State.readKey
    simp only [update_apply, hused, and_true]
    rfl
  · rw [if_neg hused, if_neg fun h => hused h.2]

/-- The parts of the state that a restoration leaves alone. -/
structure SameTable (s s' : State) : Prop where
  swcamtable : s'.swcamtable = s.swcamtable
  groupKeyType : s'.groupKeyType = s.groupKeyType
  iwMode : s'.iwMode = s.iwMode
  behind : s'.behind = s.behind

theorem SameTable.keyContent {s s' : State} (h : SameTable s s') : s'.keyContent = s.keyContent := by
  unfold State.keyContent
  rw [h.behind]

theorem restoreUsed_same (s : State) (i : Nat) (keyType : BitVec 16) (mac : Addr) :
    SameTable s (s.restoreUsed i keyType mac) := by
  unfold State.restoreUsed
  split
  · exact ⟨rfl, rfl, rfl, rfl⟩
  · exact ⟨rfl, rfl, rfl, rfl⟩

theorem SameTable.trans {s s' s'' : State} (h : SameTable s s') (h' : SameTable s' s'') :
    SameTable s s'' :=
  ⟨h'.swcamtable.trans h.swcamtable, h'.groupKeyType.trans h.groupKeyType, h'.iwMode.trans h.iwMode,
    h'.behind.trans h.behind⟩

theorem restoreLoop (keyType : BitVec 16) (mac : Nat → Addr) (l : List Nat) (s : State) :
    SameTable s (l.foldl (fun s i => s.restoreUsed i keyType (mac i)) s) ∧
      ∀ n, (l.foldl (fun s i => s.restoreUsed i keyType (mac i)) s).cam n =
        if n ∈ l ∧ (s.swcamtable n).bused = true then
          Descr.words ⟨BitVec.ofNat 8 n, keyType, mac n⟩ (s.keyContent (s.swcamtable n).keyBuf)
        else s.cam n := by
  -- A loop over entries.
  induction l generalizing s with
  | nil => exact ⟨⟨rfl, rfl, rfl, rfl⟩, fun n => (if_neg (by simp)).symm⟩
  | cons i l ih =>
    have hsame := restoreUsed_same s i keyType (mac i)
    obtain ⟨hrest, hcam⟩ := ih (s.restoreUsed i keyType (mac i))
    refine ⟨hsame.trans hrest, fun n => ?_⟩
    rw [List.foldl_cons, hcam n, hsame.swcamtable, hsame.keyContent, restoreUsed_cam]
    by_cases hused : (s.swcamtable n).bused = true
    · by_cases hl : n ∈ l
      · rw [if_pos ⟨hl, hused⟩, if_pos ⟨List.mem_cons_of_mem i hl, hused⟩]
      · rw [if_neg fun h => hl h.1]
        by_cases hi : n = i
        · subst hi
          rw [if_pos ⟨rfl, hused⟩, if_pos ⟨List.mem_cons_self, hused⟩]
        · rw [if_neg fun h => hi h.1, if_neg]
          rintro ⟨hmem, -⟩
          exact (List.mem_cons.mp hmem).elim hi hl
    · rw [if_neg fun h => hused h.2, if_neg (fun h => hused h.2 : ¬ (n ∈ i :: l ∧ _)), if_neg]
      rintro ⟨rfl, h⟩
      exact hused h

def State.after (s : State) (n : Nat) (d : Option Descr) : Fin 8 → BitVec 32 :=
  (d.map fun d => d.words (s.keyContent (s.swcamtable n).keyBuf)).getD (s.cam n)

def Selection.takesPairwise (c : Selection) (used : Bool) (n : Nat) : Option Descr :=
  if isWep c.pairwise then
    if n < 4 ∧ used = true then some ⟨BitVec.ofNat 8 n, c.pairwise, camConstAddr n⟩ else none
  else if isTkipCcmp c.pairwise then
    if n = 4 then some ⟨0, c.pairwise, if c.iwMode = .adhoc then c.devAddr else c.bssid⟩ else none
  else none

def Selection.takesGroup (c : Selection) (used : Bool) (n : Nat) : Option Descr :=
  if isTkipCcmp c.group ∧ used = true then
    if n = 1 ∨ n = 2 ∨ n = 3 then some ⟨BitVec.ofNat 8 n, c.group, broadcastAddr⟩
    else if n = 0 ∧ c.iwMode = .adhoc then some ⟨0, c.group, camConstAddr 0⟩
    else none
  else none

theorem restorePairwise_cam (s : State) :
    SameTable s s.restorePairwise ∧ ∀ n, s.restorePairwise.cam n =
      s.after n (s.selection.takesPairwise (s.swcamtable n).bused n) := by
  unfold State.restorePairwise Selection.takesPairwise isWep isTkipCcmp
  simp only [Bool.or_eq_true, decide_eq_true_eq]
  split
  · rename_i hwep
    obtain ⟨hsame, hcam⟩ := restoreLoop s.pairwiseKeyType camConstAddr (List.range 4) s
    refine ⟨hsame, fun n => ?_⟩
    rw [hcam n]
    simp only [State.selection, hwep, if_true, List.mem_range]
    split
    · rfl
    · rfl
  · rename_i hwep
    split
    · rename_i hccmp
      refine ⟨⟨rfl, rfl, rfl, rfl⟩, fun n => ?_⟩
      simp only [State.selection, hwep, hccmp, if_true, if_false, State.restoreKey, State.setKey,
        State.readKey, update_apply]
      split
      · rename_i hn
        subst hn
        rfl
      · rfl
    · rename_i hccmp
      refine ⟨⟨rfl, rfl, rfl, rfl⟩, fun n => ?_⟩
      simp only [State.selection, hwep, hccmp, if_false]
      rfl

theorem restoreGroup_cam (s : State) (n : Nat) :
    s.restoreGroup.cam n = s.after n (s.selection.takesGroup (s.swcamtable n).bused n) := by
  unfold State.restoreGroup Selection.takesGroup isTkipCcmp
  simp only [Bool.or_eq_true, decide_eq_true_eq]
  split
  · rename_i hccmp
    obtain ⟨hsame, hcam⟩ := restoreLoop s.groupKeyType (fun _ => broadcastAddr) [1, 2, 3] s
    generalize List.foldl _ s [1, 2, 3] = s' at hsame hcam
    simp only [List.mem_cons, List.not_mem_nil, or_false] at hcam
    simp only [State.selection, hccmp, true_and, hsame.iwMode]
    by_cases hused : (s.swcamtable n).bused = true
    · by_cases hn : n = 0
      · subst hn
        split
        · rename_i hadhoc
          rw [restoreUsed_cam, hsame.swcamtable, hsame.keyContent]
          simp only [hused, hadhoc, and_self, if_true]
          rfl
        · rename_i hadhoc
          rw [hcam 0]
          simp only [hused, hadhoc]
          rfl
      · by_cases hl : n = 1 ∨ n = 2 ∨ n = 3
        · simp only [hused, hl, if_true]
          split
          · rw [restoreUsed_cam, if_neg fun h => hn h.1, hcam n, if_pos ⟨hl, hused⟩]
            rfl
          · rw [hcam n, if_pos ⟨hl, hused⟩]
            rfl
        · simp only [hused, hl, hn, if_true, if_false, false_and]
          split
          · rw [restoreUsed_cam, if_neg fun h => hn h.1, hcam n, if_neg fun h => hl h.1]
            rfl
          · rw [hcam n, if_neg fun h => hl h.1]
            rfl
    · simp only [hused]
      split
      · rw [restoreUsed_cam, hcam n, if_neg (fun h => hused h.2 : ¬ ((n = 1 ∨ n = 2 ∨ n = 3) ∧ _)), if_neg]
        · rfl
        · rintro ⟨rfl, h⟩
          rw [hsame.swcamtable] at h
          exact hused h
      · rw [hcam n, if_neg fun h => hused h.2]
        rfl
  · rename_i hccmp
    simp only [State.selection, hccmp, false_and, if_false]
    rfl

/-- What `CamRestoreAllEntry` makes of entry `n`, which is in use or not. -/
def Selection.takes (c : Selection) (used : Bool) (n : Nat) : Option Descr :=
  (c.takesGroup used n).or (c.takesPairwise used n)

theorem camRestoreAllEntry_cam (s : State) (n : Nat) :
    s.camRestoreAllEntry.cam n = s.after n (s.selection.takes (s.swcamtable n).bused n) := by
  obtain ⟨hsame, hcam⟩ := restorePairwise_cam s
  unfold State.camRestoreAllEntry Selection.takes
  rw [restoreGroup_cam, hsame.swcamtable]
  have hgroup : s.restorePairwise.selection.takesGroup = s.selection.takesGroup := by
    funext used n
    unfold Selection.takesGroup State.selection
    simp only [hsame.groupKeyType, hsame.iwMode]
  rw [hgroup]
  unfold State.after
  rw [hsame.swcamtable, hsame.keyContent, hcam n]
  cases s.selection.takesGroup (s.swcamtable n).bused n with
  | none => rfl
  | some d => rfl

/-! ## The CAM and its shadow -/

/-- The words of an entry that its key decides. The last two are not written from the key. -/
def SameEntry (w w' : Fin 8 → BitVec 32) : Prop := ∀ i : Fin 8, i.val < 6 → w i = w' i

def valid (w : Fin 8 → BitVec 32) : Bool := (w 0).getLsbD 15

def SameKeys (cam cam' : Nat → Fin 8 → BitVec 32) : Prop :=
  ∀ n < totalCamEntry, valid (cam' n) = valid (cam n) ∧ (valid (cam n) = true → SameEntry (cam n) (cam' n))

/-- A silent reset brings the keys back. -/
def Restores (s : State) : Prop := SameKeys s.cam s.camResetAllEntry.camRestoreAllEntry.cam

def SwCam.descr (e : SwCam) : Descr := ⟨e.keyIndex, e.keyType, e.macaddr⟩

structure Descr.Small (d : Descr) : Prop where
  keyIndex : d.keyIndex.toNat < 4
  keyType : d.keyType.toNat < 8

/-- `swcamtable` has what was written to the CAM. -/
structure Shadows (s : State) : Prop where
  entry : ∀ n < totalCamEntry, (s.swcamtable n).bused = true →
    SameEntry (s.cam n) ((s.swcamtable n).descr.words (s.keyContent (s.swcamtable n).keyBuf))
  empty : ∀ n < totalCamEntry, (s.swcamtable n).bused = false → s.cam n = fun _ => 0
  small : ∀ n < totalCamEntry, (s.swcamtable n).bused = true → (s.swcamtable n).descr.Small
  pairwise : s.pairwiseKeyType.toNat < 8
  group : s.groupKeyType.toNat < 8

theorem usConfig_fields : ∀ i : Fin 4, ∀ t : Fin 8,
    usConfig (BitVec.ofNat 8 i) (BitVec.ofNat 16 t) 0 &&& 3 = BitVec.ofNat 16 i ∧
      (usConfig (BitVec.ofNat 8 i) (BitVec.ofNat 16 t) 0 >>> 2) &&& 7 = BitVec.ofNat 16 t := by
  decide

theorem usConfig_inj {d d' : Descr} (h : d.Small) (h' : d'.Small)
    (heq : usConfig d.keyIndex d.keyType 0 = usConfig d'.keyIndex d'.keyType 0) :
    d.keyIndex = d'.keyIndex ∧ d.keyType = d'.keyType := by
  have hfields := usConfig_fields ⟨_, h.keyIndex⟩ ⟨_, h.keyType⟩
  have hfields' := usConfig_fields ⟨_, h'.keyIndex⟩ ⟨_, h'.keyType⟩
  simp only [BitVec.ofNat_toNat, BitVec.setWidth_eq] at hfields hfields'
  rw [heq] at hfields
  have hindex := congrArg BitVec.toNat (hfields.1.symm.trans hfields'.1)
  have hd := d.keyIndex.isLt
  have hd' := d'.keyIndex.isLt
  simp only [BitVec.toNat_setWidth] at hindex
  refine ⟨BitVec.eq_of_toNat_eq (by omega), hfields.2.symm.trans hfields'.2⟩

theorem append_inj {m n : Nat} {x x' : BitVec m} {y y' : BitVec n} (h : x ++ y = x' ++ y') :
    x = x' ∧ y = y' := by
  have hy : y = y' := by simpa [BitVec.setWidth_append] using congrArg (BitVec.setWidth n) h
  subst hy
  exact ⟨(BitVec.append_left_inj y).mp h, rfl⟩

theorem words_inj {d d' : Descr} {key key' : Nat → Byte} (hd : d.Small) (hd' : d'.Small)
    (h : SameEntry (d.words key) (d'.words key')) : d = d' := by
  obtain ⟨hmac, hconfig⟩ := append_inj (h 0 (by decide) :
    d.mac 1 ++ d.mac 0 ++ usConfig d.keyIndex d.keyType 0 =
      d'.mac 1 ++ d'.mac 0 ++ usConfig d'.keyIndex d'.keyType 0)
  obtain ⟨hhigh, hlow⟩ := append_inj (h 1 (by decide) :
    d.mac 5 ++ d.mac 4 ++ (d.mac 3 ++ d.mac 2) = d'.mac 5 ++ d'.mac 4 ++ (d'.mac 3 ++ d'.mac 2))
  obtain ⟨h1, h0⟩ := append_inj hmac
  obtain ⟨h5, h4⟩ := append_inj hhigh
  obtain ⟨h3, h2⟩ := append_inj hlow
  obtain ⟨hindex, htype⟩ := usConfig_inj hd hd' hconfig
  have hmacs : d.mac = d'.mac := by
    funext j
    match j with
    | 0 => exact h0
    | 1 => exact h1
    | 2 => exact h2
    | 3 => exact h3
    | 4 => exact h4
    | 5 => exact h5
  cases d
  cases d'
  simp only [Descr.mk.injEq]
  exact ⟨hindex, htype, hmacs⟩

theorem words_same {d : Descr} {key key' : Nat → Byte} (h : ∀ i < 16, key i = key' i) :
    SameEntry (d.words key) (d.words key') := by
  intro i hi
  unfold Descr.words camWords
  split
  · rfl
  · split
    · rfl
    · simp only [h _ (by omega : 4 * (i.val - 2) + 3 < 16), h _ (by omega : 4 * (i.val - 2) + 2 < 16),
        h _ (by omega : 4 * (i.val - 2) + 1 < 16), h _ (by omega : 4 * (i.val - 2) < 16)]

theorem valid_words (d : Descr) (key : Nat → Byte) : valid (d.words key) = true := by
  have hword : d.words key 0 = d.mac 1 ++ d.mac 0 ++ usConfig d.keyIndex d.keyType 0 := rfl
  unfold valid
  rw [hword, BitVec.getLsbD_append]
  unfold usConfig
  simp

/-! ## When the keys come back -/

/-- `CamRestoreAllEntry` takes for every entry what the table has there. -/
def Chosen (s : State) : Prop :=
  ∀ n < totalCamEntry, s.selection.takes (s.swcamtable n).bused n =
    if (s.swcamtable n).bused = true then some (s.swcamtable n).descr else none

theorem takesPairwise_small {c : Selection} {used : Bool} {n : Nat} {d : Descr}
    (hc : c.pairwise.toNat < 8) (h : c.takesPairwise used n = some d) : d.Small := by
  unfold Selection.takesPairwise at h
  split at h
  · split at h
    · rename_i hn
      obtain rfl := Option.some.inj h
      refine ⟨?_, hc⟩
      simp only [BitVec.toNat_ofNat]
      omega
    · cases h
  · split at h
    · split at h
      · obtain rfl := Option.some.inj h
        exact ⟨(by decide : (0 : Byte).toNat < 4), hc⟩
      · cases h
    · cases h

theorem takesGroup_small {c : Selection} {used : Bool} {n : Nat} {d : Descr}
    (hc : c.group.toNat < 8) (h : c.takesGroup used n = some d) : d.Small := by
  unfold Selection.takesGroup at h
  split at h
  · split at h
    · obtain rfl := Option.some.inj h
      refine ⟨?_, hc⟩
      simp only [BitVec.toNat_ofNat]
      omega
    · split at h
      · obtain rfl := Option.some.inj h
        exact ⟨(by decide : (0 : Byte).toNat < 4), hc⟩
      · cases h
  · cases h

theorem takes_small {c : Selection} {used : Bool} {n : Nat} {d : Descr}
    (hp : c.pairwise.toNat < 8) (hg : c.group.toNat < 8) (h : c.takes used n = some d) : d.Small := by
  unfold Selection.takes at h
  rcases Option.or_eq_some_iff.mp h with h | ⟨-, h⟩
  · exact takesGroup_small hg h
  · exact takesPairwise_small hp h

theorem Shadows.valid_iff {s : State} (h : Shadows s) {n : Nat} (hn : n < totalCamEntry) :
    valid (s.cam n) = (s.swcamtable n).bused := by
  cases hused : (s.swcamtable n).bused with
  | true =>
    have hword := h.entry n hn hused 0 (by decide)
    have hvalid := valid_words (s.swcamtable n).descr (s.keyContent (s.swcamtable n).keyBuf)
    unfold valid at hvalid ⊢
    rw [hword]
    exact hvalid
  | false =>
    rw [h.empty n hn hused]
    decide

/-- A silent reset brings the keys back exactly when it takes what the table has. -/
theorem restores_iff_chosen {s : State} (h : Shadows s) : Restores s ↔ Chosen s := by
  have hcam (n : Nat) : s.camResetAllEntry.camRestoreAllEntry.cam n =
      ((s.selection.takes (s.swcamtable n).bused n).map fun d =>
        d.words (s.keyContent (s.swcamtable n).keyBuf)).getD fun _ => 0 :=
    camRestoreAllEntry_cam s.camResetAllEntry n
  have hnone : valid (fun _ => 0) = false := by decide
  constructor
  · intro hrestores n hn
    obtain ⟨hvalid, hsame⟩ := hrestores n hn
    rw [hcam n, h.valid_iff hn] at hvalid
    rw [hcam n, h.valid_iff hn] at hsame
    cases htakes : s.selection.takes (s.swcamtable n).bused n with
    | none =>
      rw [htakes] at hvalid
      rw [if_neg]
      intro hused
      rw [hused] at hvalid
      exact absurd (hnone.symm.trans hvalid) (by decide)
    | some d =>
      rw [htakes] at hvalid hsame
      have hused : (s.swcamtable n).bused = true := hvalid.symm.trans (valid_words d _)
      have hwords : SameEntry (d.words (s.keyContent (s.swcamtable n).keyBuf))
          ((s.swcamtable n).descr.words (s.keyContent (s.swcamtable n).keyBuf)) :=
        fun i hi => (hsame hused i hi).symm.trans (h.entry n hn hused i hi)
      have hd := words_inj (takes_small h.pairwise h.group htakes) (h.small n hn hused) hwords
      rw [if_pos hused, hd]
  · intro hchosen n hn
    rw [hcam n, hchosen n hn, h.valid_iff hn]
    split
    · rename_i hused
      refine ⟨(valid_words _ _).trans hused.symm, fun _ => h.entry n hn hused⟩
    · rename_i hused
      simp only [Bool.not_eq_true] at hused
      rw [hused]
      exact ⟨hnone, fun hno => absurd hno (by decide)⟩

/-! ## What a request changes -/

/-- The keys that go into the table and the CAM, and what `CamRestoreAllEntry` looks at after it. -/
structure Change where
  selection : Selection
  keys : Nat → Option Descr

/-- The new keys go where `CamRestoreAllEntry` looks for them, and of the other entries it makes
what it made before. -/
def Change.Kept (c : Change) (s : State) : Prop :=
  ∀ n < totalCamEntry,
    (∀ d, c.keys n = some d → c.selection.takes true n = some d) ∧
    (c.keys n = none →
      c.selection.takes (s.swcamtable n).bused n = s.selection.takes (s.swcamtable n).bused n)

structure Does (s s' : State) (c : Change) : Prop where
  selection : s'.selection = c.selection
  key : ∀ n < totalCamEntry, ∀ d, c.keys n = some d → d.Small ∧ ∃ key : Fin 16 → Byte,
    s'.swcamtable n = ⟨d.mac, true, key, d.keyType, 0, d.keyIndex⟩ ∧
    SameEntry (s'.cam n) (d.words (s'.keyContent key))
  other : ∀ n < totalCamEntry, c.keys n = none →
    s'.swcamtable n = s.swcamtable n ∧ s'.cam n = s.cam n
  pairwise : s'.pairwiseKeyType.toNat < 8
  group : s'.groupKeyType.toNat < 8

variable {s s' : State} {c : Change}

theorem Does.shadows (h : Does s s' c) (hs : Shadows s) : Shadows s' where
  entry := by
    intro n hn hused
    cases hkey : c.keys n with
    | none =>
      obtain ⟨htable, hcam⟩ := h.other n hn hkey
      rw [htable] at hused ⊢
      rw [hcam]
      have hentry := hs.entry n hn hused
      refine fun i hi => (hentry i hi).trans (words_same (fun j hj => ?_) i hi)
      unfold State.keyContent
      rw [dif_pos hj, dif_pos hj]
    | some d =>
      obtain ⟨-, key, htable, hcam⟩ := h.key n hn d hkey
      rw [htable]
      exact hcam
  empty := by
    intro n hn hunused
    cases hkey : c.keys n with
    | none =>
      obtain ⟨htable, hcam⟩ := h.other n hn hkey
      rw [hcam]
      rw [htable] at hunused
      exact hs.empty n hn hunused
    | some d =>
      obtain ⟨-, key, htable, -⟩ := h.key n hn d hkey
      rw [htable] at hunused
      cases hunused
  small := by
    intro n hn hused
    cases hkey : c.keys n with
    | none =>
      rw [(h.other n hn hkey).1] at hused ⊢
      exact hs.small n hn hused
    | some d =>
      obtain ⟨hsmall, key, htable, -⟩ := h.key n hn d hkey
      rw [htable]
      exact ⟨hsmall.keyIndex, hsmall.keyType⟩
  pairwise := h.pairwise
  group := h.group

theorem Does.chosen_iff (h : Does s s' c) (hs : Chosen s) : Chosen s' ↔ c.Kept s := by
  apply forall_congr'
  intro n
  apply forall_congr'
  intro hn
  rw [h.selection]
  cases hkey : c.keys n with
  | none =>
    rw [(h.other n hn hkey).1, ← hs n hn]
    simp
  | some d =>
    obtain ⟨-, key, htable, -⟩ := h.key n hn d hkey
    rw [htable]
    simp [SwCam.descr]

/-! ## The requests -/

theorem Untouched.selection (h : Untouched s s') : s'.selection = s.selection := by
  unfold State.selection
  rw [h.pairwise, h.group, h.iwMode, h.bssid, h.devAddr]

theorem Untouched.readKey (h : Untouched s s') (n size : Nat) : Untouched s (s'.readKey n size) :=
  ⟨h.swcamtable, h.cam, h.pairwise, h.group, h.iwMode, h.bssid, h.devAddr, h.apMacAddr, h.written⟩

/-! ### `r8192_wx_set_enc` -/

def oneKey (n : Nat) (d : Descr) (m : Nat) : Option Descr := if m = n then some d else none

theorem oneKey_eq_some {n m : Nat} {d d' : Descr} : oneKey n d m = some d' ↔ m = n ∧ d = d' := by
  unfold oneKey
  split
  · simp_all
  · simp_all

theorem oneKey_eq_none {n m : Nat} {d : Descr} : oneKey n d m = none ↔ m ≠ n := by
  unfold oneKey
  split
  · simp_all
  · simp_all

/-- A WEP key under the slot that rtllib takes. -/
def Enc.change (r : Enc) (s : State) : Change :=
  let n := (r.encoding.slot s.txKeyidx).val
  let wep (keyType : BitVec 16) : Change :=
    ⟨{ s.selection with pairwise := keyType }, oneKey n ⟨BitVec.ofNat 8 n, keyType, camConstAddr n⟩⟩
  if r.encoding.length = 5 then wep keyTypeWep40
  else if r.encoding.length = 13 then wep keyTypeWep104
  else ⟨s.selection, fun _ => none⟩

theorem does_install {s₁ : State} {sel : Selection} {n : Nat} {d : Descr} {key : Fin 16 → Byte}
    (htable : s₁.swcamtable = s.swcamtable) (hcam : s₁.cam = s.cam) (hsel : s₁.selection = sel)
    (hd : d.Small) (hp : sel.pairwise.toNat < 8) (hg : sel.group.toNat < 8) :
    Does s (s₁.installKey n d.keyIndex d.keyType d.mac key) ⟨sel, oneKey n d⟩ where
  selection := hsel
  key := by
  -- One key is installed, in a state that has the table and the CAM of `s`.
    intro m hm d' hd'
    obtain ⟨rfl, rfl⟩ := oneKey_eq_some.mp hd'
    refine ⟨hd, key, update_self _ _ _, ?_⟩
    intro i _
    exact congrFun (update_self _ _ _) i
  other := by
    intro m hm hnone
    have hmn := oneKey_eq_none.mp hnone
    rw [← htable, ← hcam]
    exact ⟨update_of_ne hmn _ _, update_of_ne hmn _ _⟩
  pairwise := by
    rw [← hsel] at hp
    exact hp
  group := by
    rw [← hsel] at hg
    exact hg

theorem does_nothing (h : Untouched s s') (hs : Shadows s) : Does s s' ⟨s.selection, fun _ => none⟩ where
  selection := h.selection
  key := by
    rintro n hn d ⟨⟩
  other := by
    intro n hn _
    rw [h.swcamtable, h.cam]
    exact ⟨rfl, rfl⟩
  pairwise := by
    have hp : s'.pairwiseKeyType = s.pairwiseKeyType := congrArg Selection.pairwise h.selection
    rw [hp]
    exact hs.pairwise
  group := by
    have hg : s'.groupKeyType = s.groupKeyType := congrArg Selection.group h.selection
    rw [hg]
    exact hs.group

theorem wxSetEncodeKey_txKeyidx (r : Enc) (crypt : Crypt) (new : Bool) (s : State) :
    (wxSetEncodeKey r (r.encoding.slot s.txKeyidx) crypt new s).state.txKeyidx = s.txKeyidx ∨
      (wxSetEncodeKey r (r.encoding.slot s.txKeyidx) crypt new s).state.txKeyidx =
        r.encoding.slot s.txKeyidx := by
  unfold wxSetEncodeKey
  simp only
  split
  · exact Or.inr rfl
  · simp only
    split
    · exact Or.inr rfl
    · exact Or.inl rfl

theorem rtllibWxSetEncode_txKeyidx (r : Enc) (s : State) :
    (rtllibWxSetEncode r s).state.txKeyidx = s.txKeyidx ∨
      (rtllibWxSetEncode r s).state.txKeyidx = r.encoding.slot s.txKeyidx := by
  unfold rtllibWxSetEncode
  simp only
  split
  · exact Or.inl rfl
  · split
    · exact Or.inl rfl
    · split
      · exact wxSetEncodeKey_txKeyidx r _ _ s
      · split
        · exact Or.inl rfl
        · split
          · exact Or.inl rfl
          · exact wxSetEncodeKey_txKeyidx r _ _ (s.setCrypt (r.encoding.slot s.txKeyidx) none)

theorem keyIdx_eq {r : Enc} (h : r.encoding.index ≤ 4) (s : State) :
    r.keyIdx (rtllibWxSetEncode r s).state.txKeyidx = (r.encoding.slot s.txKeyidx).val := by
  unfold Enc.keyIdx
  split
  · rename_i hzero
    have hslot : r.encoding.slot s.txKeyidx = s.txKeyidx := if_pos hzero
    rcases rtllibWxSetEncode_txKeyidx r s with htx | htx
    · rw [htx, hslot]
    · rw [htx]
  · rename_i hzero
    unfold Encoding.slot
    rw [if_neg hzero, Fin.val_ofNat, Nat.mod_eq_of_lt (by omega)]

theorem slot_small (n : Fin 4) {keyType : BitVec 16} (mac : Addr) (h : keyType.toNat < 8) :
    Descr.Small ⟨BitVec.ofNat 8 n.val, keyType, mac⟩ := by
  refine ⟨?_, h⟩
  have hn := n.isLt
  simp only [BitVec.toNat_ofNat]
  omega

theorem does_setWep {s₁ : State} (h : Untouched s s₁) (hs : Shadows s) (n : Fin 4)
    {keyType : BitVec 16} (ht : keyType.toNat < 8) (key : Fin 16 → Byte) :
    Does s (s₁.setWep n keyType key) ⟨{ s.selection with pairwise := keyType },
      oneKey n ⟨BitVec.ofNat 8 n, keyType, camConstAddr n⟩⟩ := by
  have hsel : ({ s₁ with pairwiseKeyType := keyType } : State).selection =
      { s.selection with pairwise := keyType } := by
    rw [← h.selection]
    rfl
  exact does_install (d := ⟨BitVec.ofNat 8 n, keyType, camConstAddr n⟩) h.swcamtable h.cam hsel
    (slot_small n _ ht) ht hs.group

theorem clearKeys_shadows (s : State) : Shadows s.clearKeys := by
  have hunused : ∀ n < totalCamEntry, s.clearKeys.swcamtable n = SwCam.unused := fun n hn => if_pos hn
  refine ⟨fun n hn hused => ?_, fun _ _ _ => rfl, fun n hn hused => ?_,
    (by decide : keyTypeNa.toNat < 8), (by decide : keyTypeNa.toNat < 8)⟩
  · rw [hunused n hn] at hused
    cases hused
  · rw [hunused n hn] at hused
    cases hused

theorem clearKeys_chosen (s : State) : Chosen s.clearKeys := by
  intro n hn
  have hunused : s.clearKeys.swcamtable n = SwCam.unused := if_pos hn
  rw [hunused]
  rfl

theorem r8192WxSetEnc_does {r : Enc} (hs : Shadows s) (h : (r8192WxSetEnc r s).err = none)
    (hradio : s.bHwRadioOff = false) (henabled : r.encoding.disabled = false) :
    Does s (r8192WxSetEnc r s).state (r.change s) := by
  have hsame := (rtllibWxSetEncode_setter r s).toUntouched
  have hrtllib : (rtllibWxSetEncode r s).err = none := by
    unfold r8192WxSetEnc at h
    simp only [hradio, henabled, Bool.false_eq_true, if_false] at h
    split at h
    · cases h
    · split at h
      · split at h
        · exact h
        · split at h
          · exact h
          · exact h
      · exact h
  have hindex : r.encoding.index ≤ 4 := by
    by_contra hno
    exact (rtllibWxSetEncode_err_iff r s).mp hrtllib (Or.inl (by omega))
  have hkey := keyIdx_eq hindex s
  have hup : s.up = true := by
    unfold r8192WxSetEnc at h
    simp only [hradio, Bool.false_eq_true, if_false] at h
    split at h
    · cases h
    · rename_i hup
      simpa using hup
  unfold r8192WxSetEnc Enc.change
  simp only [hradio, henabled, hup, Bool.false_eq_true, if_false, Bool.not_true]
  rw [show ((rtllibWxSetEncode r s).state.readKey 16 r.encoding.length).txKeyidx =
    (rtllibWxSetEncode r s).state.txKeyidx from rfl, hkey]
  split
  · have hread := hsame.readKey 16 r.encoding.length
    split
    · exact does_setWep hread hs _ (by decide) _
    · split
      · exact does_setWep hread hs _ (by decide) _
      · exact does_nothing hread hs
  · rename_i hzero
    have hlen : r.encoding.length = 0 := by omega
    rw [if_neg (by omega), if_neg (by omega)]
    exact does_nothing hsame hs

/-! ### `r8192_wx_set_enc_ext` -/

/-- The key type for an algorithm that rtllib accepts. -/
def EncExt.keyType (r : EncExt) : BitVec 16 :=
  if r.alg = 1 then if r.keyLen = 13 then keyTypeWep104 else keyTypeWep40
  else if r.alg = 2 then keyTypeTkip
  else keyTypeCcmp

/-- A WEP key has the address 0, whatever its index. -/
def EncExt.change (r : EncExt) (s : State) : Change :=
  let n := r.idx
  let keyType := r.keyType
  if r.alg = 1 ∧ s.authMode ≠ 2 then
    ⟨{ s.selection with pairwise := keyType }, oneKey n ⟨BitVec.ofNat 8 n, keyType, fun _ => 0⟩⟩
  else if r.groupKey = true then
    ⟨{ s.selection with
        pairwise := if s.iwMode = .adhoc ∨ r.alg = 1 then keyType else s.pairwiseKeyType
        group := keyType },
      oneKey n ⟨BitVec.ofNat 8 n, keyType, broadcastAddr⟩⟩
  else
    ⟨{ s.selection with pairwise := keyType }, oneKey 4 ⟨BitVec.ofNat 8 n, keyType, s.apMacAddr⟩⟩

theorem rtllibWxSetEncodeExt_accepts {r : EncExt} (h : (rtllibWxSetEncodeExt r s).err = none)
    (henabled : r.disabled = false) :
    r.encoding.index ≤ 4 ∧ (r.alg = 1 ∨ r.alg = 2 ∨ r.alg = 3) := by
  -- The algorithm of an accepted request.
  unfold rtllibWxSetEncodeExt at h
  simp only [henabled, Bool.false_eq_true, if_false] at h
  split at h
  · cases h
  · rename_i hindex
    refine ⟨by omega, ?_⟩
    split at h
    · cases h
    · cases halg : r.cryptAlg with
      | none =>
        rw [halg] at h
        cases h
      | some alg =>
        unfold EncExt.cryptAlg at halg
        split at halg
        · exact Or.inl ‹_›
        · split at halg
          · exact Or.inr (Or.inl ‹_›)
          · split at halg
            · exact Or.inr (Or.inr ‹_›)
            · cases halg

theorem keyType_small (r : EncExt) : r.keyType.toNat < 8 := by
  unfold EncExt.keyType
  split
  · split
    · decide
    · decide
  · split
    · decide
    · decide

def State.withTypes (s : State) (pairwise group : BitVec 16) : State :=
  { s with pairwiseKeyType := pairwise, groupKeyType := group }

theorem does_typed {s₁ : State} (h : Untouched s s₁) {pairwise group : BitVec 16} (n size : Nat)
    {d : Descr} (key : Fin 16 → Byte) (hd : d.Small) (hp : pairwise.toNat < 8) (hg : group.toNat < 8) :
    Does s (((s₁.withTypes pairwise group).readKey 16 size).installKey n d.keyIndex d.keyType d.mac key)
      ⟨{ s.selection with pairwise, group }, oneKey n d⟩ := by
  have hsel : ((s₁.withTypes pairwise group).readKey 16 size).selection =
      { s.selection with pairwise, group } := by
    rw [← h.selection]
    rfl
  exact does_install h.swcamtable h.cam hsel hd hp hg

theorem encExtHw_wep {r : EncExt} (h : r.alg = 1) (s : State) :
    encExtHw r s =
      if s.authMode ≠ 2 then
        ((s.withTypes r.keyType s.groupKeyType).readKey 16 r.keyLen).installKey r.idx
          (BitVec.ofNat 8 r.idx) r.keyType (fun _ => 0) fun i => r.key i
      else if r.groupKey = true then
        ((s.withTypes r.keyType r.keyType).readKey 16 r.keyLen).installKey r.idx
          (BitVec.ofNat 8 r.idx) r.keyType broadcastAddr fun i => r.key i
      else
        ((s.withTypes r.keyType s.groupKeyType).readKey 16 r.keyLen).installKey 4
          (BitVec.ofNat 8 r.idx) r.keyType s.apMacAddr fun i => r.key i := by
  have hhw : r.hwAlg = 1 := by
    unfold EncExt.hwAlg
    rw [h]
    rfl
  unfold encExtHw EncExt.keyType
  by_cases hlen : r.keyLen = 13
  · simp [hhw, h, hlen]
    rfl
  · simp [hhw, h, hlen]
    rfl

theorem encExtHw_other {r : EncExt} (h : r.alg = 2 ∨ r.alg = 3) (s : State) :
    encExtHw r s =
      if r.groupKey = true then
        ((s.withTypes (if s.iwMode = .adhoc then r.keyType else s.pairwiseKeyType) r.keyType).readKey
          16 r.keyLen).installKey r.idx (BitVec.ofNat 8 r.idx) r.keyType broadcastAddr fun i => r.key i
      else
        ((s.withTypes r.keyType s.groupKeyType).readKey 16 r.keyLen).installKey 4
          (BitVec.ofNat 8 r.idx) r.keyType s.apMacAddr fun i => r.key i := by
  -- A key of TKIP or CCMP.
  have hkind : r.hwAlg ≠ 1#8 ∧ r.hwAlg[0] = false ∧ r.keyType = r.hwAlg.setWidth 16 := by
    unfold EncExt.keyType EncExt.hwAlg
    rcases h with h | h
    · simp only [h]
      exact ⟨by decide, by simp, rfl⟩
    · simp only [h]
      exact ⟨by decide, by simp, rfl⟩
  obtain ⟨hwep, heven, htype⟩ := hkind
  unfold encExtHw
  by_cases hgroup : r.groupKey = true
  · by_cases hadhoc : s.iwMode = .adhoc
    · simp [hwep, heven, htype, hgroup, eq_true hadhoc]
      rfl
    · simp [hwep, heven, htype, hgroup, hadhoc]
      rfl
  · simp [hwep, heven, htype, hgroup]
    rfl

theorem encExtHw_does {r : EncExt} {s₁ : State} (h : Untouched s s₁) (hauth : s₁.authMode = s.authMode)
    (hs : Shadows s) (hindex : r.encoding.index ≤ 4) (halg : r.alg = 1 ∨ r.alg = 2 ∨ r.alg = 3) :
    Does s (encExtHw r s₁) (r.change s) := by
  have hmode : s₁.iwMode = s.iwMode := congrArg Selection.iwMode h.selection
  have hpairwise : s₁.pairwiseKeyType = s.pairwiseKeyType := congrArg Selection.pairwise h.selection
  have hgroup : s₁.groupKeyType = s.groupKeyType := congrArg Selection.group h.selection
  have hidx : r.idx < 4 := by
    unfold EncExt.idx
    omega
  have hsmall (mac : Addr) : Descr.Small ⟨BitVec.ofNat 8 r.idx, r.keyType, mac⟩ :=
    slot_small ⟨r.idx, hidx⟩ mac (keyType_small r)
  have ht := keyType_small r
  unfold EncExt.change
  simp only
  rcases halg with halg | halg
  · rw [encExtHw_wep halg, hauth, hgroup, h.apMacAddr]
    simp only [halg, true_and, or_true, if_true]
    split
    · exact does_typed h r.idx r.keyLen (d := ⟨_, _, fun _ => 0⟩) _ (hsmall _) ht hs.group
    · split
      · exact does_typed h r.idx r.keyLen (d := ⟨_, _, broadcastAddr⟩) _ (hsmall _) ht ht
      · exact does_typed h 4 r.keyLen (d := ⟨_, _, s.apMacAddr⟩) _ (hsmall _) ht hs.group
  · have hno : ¬ r.alg = 1 := by
      rcases halg with halg | halg
      · simp [halg]
      · simp [halg]
    rw [encExtHw_other halg, hmode, hpairwise, hgroup, h.apMacAddr]
    simp only [hno, false_and, or_false, if_false]
    split
    · refine does_typed h r.idx r.keyLen (d := ⟨_, _, broadcastAddr⟩) _ (hsmall _) ?_ ht
      split
      · exact ht
      · exact hs.pairwise
    · exact does_typed h 4 r.keyLen (d := ⟨_, _, s.apMacAddr⟩) _ (hsmall _) ht hs.group

theorem putKey_authMode (alg : CryptAlg) (i : Fin 4) (key : Nat → Byte) (keyLen : Nat)
    (alloc : Alloc) (tx : Bool) (s : State) :
    (putKey alg i key keyLen alloc tx s).state.authMode = s.authMode := by
  unfold putKey
  simp only
  split
  · rfl
  · split
    · rfl
    · split
      · rfl
      · split
        · rfl
        · rfl

theorem rtllibWxSetEncodeExt_authMode (r : EncExt) (s : State) :
    (rtllibWxSetEncodeExt r s).state.authMode = s.authMode := by
  unfold rtllibWxSetEncodeExt
  simp only
  split
  · rfl
  · split
    · rfl
    · split
      · rfl
      · split
        · rfl
        · exact putKey_authMode _ _ _ _ _ _ _

theorem r8192WxSetEncExt_does {r : EncExt} (hs : Shadows s) (h : (r8192WxSetEncExt r s).err = none)
    (hradio : s.bHwRadioOff = false) (henabled : r.disabled = false) :
    Does s (r8192WxSetEncExt r s).state (r.change s) := by
  unfold r8192WxSetEncExt at h ⊢
  simp only [hradio, henabled, Bool.false_eq_true, if_false] at h ⊢
  obtain ⟨hindex, halg⟩ := rtllibWxSetEncodeExt_accepts h henabled
  exact encExtHw_does (rtllibWxSetEncodeExt_setter r s).toUntouched (rtllibWxSetEncodeExt_authMode r s) hs
    hindex halg

/-! ### `rtl8192_ioctl` -/

/-- A pairwise key goes into entry 4, and in an ad hoc network under its index too. -/
def Wpa.change (r : Wpa) (s : State) : Change :=
  if r.setTx = true then
    let keyType := r.keyType s.pairwiseKeyType
    if keyType = 0 then ⟨{ s.selection with pairwise := 0 }, fun _ => none⟩
    else
      let mode := if s.apMacAddr = (fun _ => 0) then .adhoc else s.iwMode
      ⟨{ s.selection with pairwise := keyType, iwMode := mode }, fun m =>
        if m = 4 ∨ (mode = .adhoc ∧ m = r.idx.toNat) then some ⟨r.idx, keyType, s.apMacAddr⟩ else none⟩
  else
    let keyType := r.keyType s.groupKeyType
    ⟨{ s.selection with group := keyType }, fun m =>
      if keyType ≠ 0 ∧ m = r.idx.toNat then some ⟨r.idx, keyType, broadcastAddr⟩ else none⟩

theorem Wpa.keyType_small (r : Wpa) {old : BitVec 16} (h : old.toNat < 8) : (r.keyType old).toNat < 8 := by
  unfold Wpa.keyType
  split
  · decide
  · decide
  · split
    · decide
    · split
      · decide
      · exact h
  · decide

theorem rtllibWpaSupplicantIoctl_idx {r : Wpa} (h : (rtllibWpaSupplicantIoctl r s).err = none) :
    r.idx.toNat < 4 := by
  unfold rtllibWpaSupplicantIoctl at h
  split at h
  · cases h
  · split at h
    · cases h
    · split at h
      · cases h
      · simp only at h
        have hset : (rtllibWpaSetEncryption r s).err = none := by
          split at h
          · cases h
          · exact h
        unfold rtllibWpaSetEncryption at hset
        split at hset
        · cases hset
        · split at hset
          · cases hset
          · split at hset
            · cases hset
            · omega

/-- A key that both calls put into the same entry, where another key may be put before it. -/
theorem Does.install (h : Does s s' c) {n : Nat} {d : Descr} (hd : d.Small) (key : Fin 16 → Byte) :
    Does s (s'.installWpa n d.keyIndex d.keyType d.mac key)
      ⟨c.selection, fun m => if m = n then some d else c.keys m⟩ where
  selection := h.selection
  key := by
    intro m hm d' hd'
    simp only at hd'
    by_cases hmn : m = n
    · rw [if_pos hmn] at hd'
      obtain rfl := Option.some.inj hd'
      subst hmn
      refine ⟨hd, key, update_self _ _ _, ?_⟩
      intro i _
      exact congrFun (update_self _ _ _) i
    · rw [if_neg hmn] at hd'
      obtain ⟨hsmall, key', htable, hcam⟩ := h.key m hm d' hd'
      refine ⟨hsmall, key', (update_of_ne hmn _ _).trans htable, ?_⟩
      intro i hi
      exact (congrFun (update_of_ne hmn _ _) i).trans (hcam i hi)
  other := by
    intro m hm hnone
    simp only at hnone
    by_cases hmn : m = n
    · rw [if_pos hmn] at hnone
      cases hnone
    · rw [if_neg hmn] at hnone
      obtain ⟨htable, hcam⟩ := h.other m hm hnone
      exact ⟨(update_of_ne hmn _ _).trans htable, (update_of_ne hmn _ _).trans hcam⟩
  pairwise := h.pairwise
  group := h.group

theorem does_select {s₁ : State} {sel : Selection} (htable : s₁.swcamtable = s.swcamtable)
    (hcam : s₁.cam = s.cam) (hsel : s₁.selection = sel) (hp : sel.pairwise.toNat < 8)
    (hg : sel.group.toNat < 8) : Does s s₁ ⟨sel, fun _ => none⟩ where
  selection := hsel
  key := by
    rintro n hn d ⟨⟩
  other := by
    intro n hn _
    rw [htable, hcam]
    exact ⟨rfl, rfl⟩
  pairwise := by
    rw [← hsel] at hp
    exact hp
  group := by
    rw [← hsel] at hg
    exact hg

theorem Does.congr {keys : Nat → Option Descr} (h : Does s s' c) (hkeys : c.keys = keys) :
    Does s s' ⟨c.selection, keys⟩ := by
  subst hkeys
  exact h

theorem wpaHw_does {r : Wpa} (hs : Shadows s) (hidx : r.idx.toNat < 4) :
    Does s (wpaHw r s) (r.change s) := by
  unfold wpaHw Wpa.change
  by_cases htx : r.setTx = true
  · rw [if_pos htx, if_pos htx]
    have ht := r.keyType_small hs.pairwise
    simp only
    generalize r.keyType s.pairwiseKeyType = keyType at ht
    by_cases hna : keyType = 0
    · rw [if_neg (by simpa using hna), if_pos hna, ← hna]
      exact does_select rfl rfl rfl ht hs.group
    · rw [if_pos hna, if_neg hna]
      generalize (if s.apMacAddr = (fun _ => 0) then IwMode.adhoc else s.iwMode) = mode
      have hd : Descr.Small ⟨r.idx, keyType, s.apMacAddr⟩ := ⟨hidx, ht⟩
      have hselect : Does s (({ s with pairwiseKeyType := keyType, iwMode := mode } : State).readKey 16
          (r.length - sizeofParam)) ⟨{ s.selection with pairwise := keyType, iwMode := mode }, fun _ => none⟩ :=
        does_select rfl rfl rfl ht hs.group
      have hfour := hselect.install hd (n := 4) fun i => r.key i
      by_cases hadhoc : mode = .adhoc
      · rw [if_pos (by exact hadhoc)]
        refine (hfour.install hd (n := r.idx.toNat) fun i => r.key i).congr ?_
        funext m
        simp only [hadhoc, true_and]
        split
        · rw [if_pos (Or.inr ‹_›)]
        · rename_i hm
          simp only [hm, or_false]
      · rw [if_neg (by exact hadhoc)]
        refine hfour.congr ?_
        funext m
        simp only [hadhoc, false_and, or_false]
  · rw [if_neg htx, if_neg htx]
    have ht := r.keyType_small hs.group
    simp only
    rw [show (s.readKey 16 (r.length - sizeofParam)).groupKeyType = s.groupKeyType from rfl]
    generalize r.keyType s.groupKeyType = keyType at ht
    have hd : Descr.Small ⟨r.idx, keyType, broadcastAddr⟩ := ⟨hidx, ht⟩
    have hselect : Does s ({ s.readKey 16 (r.length - sizeofParam) with groupKeyType := keyType } : State)
        ⟨{ s.selection with group := keyType }, fun _ => none⟩ :=
      does_select rfl rfl rfl hs.pairwise ht
    by_cases hna : keyType ≠ 0
    · rw [if_pos hna]
      refine (hselect.install hd (n := r.idx.toNat) fun i => r.key i).congr ?_
      funext m
      simp only [ne_eq, hna, not_false_eq_true, true_and]
    · rw [if_neg hna]
      refine hselect.congr ?_
      funext m
      simp only [hna, false_and, if_false]

/-! ## Every run -/

structure Env where
  iwMode : IwMode
  authMode : Nat
  apMacAddr : Addr
  bssid : Addr
  devAddr : Addr
  bHwRadioOff : Bool
  up : Bool
  behind : Nat → Byte

def Env.set (env : Env) (s : State) : State :=
  { s with
    iwMode := env.iwMode, authMode := env.authMode, apMacAddr := env.apMacAddr, bssid := env.bssid
    devAddr := env.devAddr, bHwRadioOff := env.bHwRadioOff, up := env.up, behind := env.behind }

inductive Event where
  | request (q : Request)
  | change (env : Env)

def step (s : State) : Event → State
  | .request q => (request s q).state
  | .change env => env.set s

def Accepted (s : State) : Event → Prop
  | .request q => (request s q).err = none
  | .change _ => True

/-- The step keeps the keys where `CamRestoreAllEntry` looks for them, or gives them up. -/
def KeysKept (s : State) : Event → Prop
  | .request (.enc r) => s.bHwRadioOff = true ∨ r.encoding.disabled = true ∨ (r.change s).Kept s
  | .request (.encExt r) => s.bHwRadioOff = true ∨ r.disabled = true ∨ (r.change s).Kept s
  | .request (.wpa r) => (r.change s).Kept s
  | .change env => Change.Kept ⟨(env.set s).selection, fun _ => none⟩ s

structure Fresh (s : State) : Prop where
  unused : ∀ n < totalCamEntry, (s.swcamtable n).bused = false
  cam : ∀ n < totalCamEntry, s.cam n = fun _ => 0
  pairwise : s.pairwiseKeyType = keyTypeNa
  group : s.groupKeyType = keyTypeNa

theorem Fresh.shadows (h : Fresh s) : Shadows s := by
  refine ⟨fun n hn hused => ?_, fun n hn _ => h.cam n hn, fun n hn hused => ?_, ?_, ?_⟩
  · rw [h.unused n hn] at hused
    cases hused
  · rw [h.unused n hn] at hused
    cases hused
  · rw [h.pairwise]
    decide
  · rw [h.group]
    decide

theorem Fresh.chosen (h : Fresh s) : Chosen s := by
  intro n hn
  rw [h.unused n hn]
  unfold Selection.takes Selection.takesGroup Selection.takesPairwise State.selection
  simp only [h.pairwise, h.group]
  rfl

theorem Does.untouched {s'' : State} (h : Does s s' c) (hu : Untouched s' s'') : Does s s'' c where
  selection := hu.selection.trans h.selection
  key := by
    intro n hn d hd
    obtain ⟨hsmall, key, htable, hcam⟩ := h.key n hn d hd
    refine ⟨hsmall, key, ?_, ?_⟩
    · rw [hu.swcamtable]
      exact htable
    · rw [hu.cam]
      intro i hi
      refine (hcam i hi).trans (words_same (fun j hj => ?_) i hi)
      unfold State.keyContent
      rw [dif_pos hj, dif_pos hj]
  other := by
    intro n hn hnone
    rw [hu.swcamtable, hu.cam]
    exact h.other n hn hnone
  pairwise := by
    rw [show s''.pairwiseKeyType = s'.pairwiseKeyType from congrArg Selection.pairwise hu.selection]
    exact h.pairwise
  group := by
    rw [show s''.groupKeyType = s'.groupKeyType from congrArg Selection.group hu.selection]
    exact h.group

def State.begin (s : State) : State := { s with accesses := [], written := [] }

theorem Shadows.begin (h : Shadows s) : Shadows s.begin :=
  ⟨h.entry, h.empty, h.small, h.pairwise, h.group⟩

theorem Does.of_begin (h : Does s.begin s' c) : Does s s' c :=
  ⟨h.selection, h.key, h.other, h.pairwise, h.group⟩

/-- What one step does to the table and the CAM: they stay, they are given up, or a change is made. -/
theorem step_cases (hs : Shadows s) {e : Event} (he : Accepted s e) :
    (KeysKept s e ∧ Shadows (step s e) ∧ (Chosen s → Chosen (step s e))) ∨
      ∃ c, Does s (step s e) c ∧ (KeysKept s e ↔ c.Kept s) := by
  cases e with
  | change env => exact Or.inr ⟨_, does_select rfl rfl rfl hs.pairwise hs.group, Iff.rfl⟩
  | request q =>
    cases q with
    | enc r =>
      have he : (r8192WxSetEnc r s.begin).err = none := he
      have hstate : step s (.request (.enc r)) = (r8192WxSetEnc r s.begin).state := rfl
      cases hradio : s.bHwRadioOff with
      | true =>
        have hoff : r8192WxSetEnc r s.begin = ⟨none, none, s.begin⟩ := if_pos hradio
        rw [hstate, hoff]
        exact Or.inl ⟨Or.inl hradio, hs.begin, fun h => h⟩
      | false =>
        cases hdisabled : r.encoding.disabled with
        | true =>
          have hclear : ∃ s' : State, (r8192WxSetEnc r s.begin).state = s'.clearKeys := by
            unfold r8192WxSetEnc at he ⊢
            simp only [hdisabled, if_true] at he ⊢
            have hon : ¬ s.begin.bHwRadioOff = true := Bool.not_eq_true _ ▸ hradio
            rw [if_neg hon] at he ⊢
            split at he
            · cases he
            · rename_i hup
              rw [if_neg hup]
              exact ⟨_, rfl⟩
          obtain ⟨s', hclear⟩ := hclear
          rw [hstate, hclear]
          exact Or.inl ⟨Or.inr (Or.inl hdisabled), clearKeys_shadows s', fun _ => clearKeys_chosen s'⟩
        | false =>
          refine Or.inr ⟨r.change s, (r8192WxSetEnc_does hs.begin he hradio hdisabled).of_begin, ?_⟩
          unfold KeysKept
          simp only [hradio, hdisabled, Bool.false_eq_true, false_or]
    | encExt r =>
      have he : (r8192WxSetEncExt r s.begin).err = none := he
      have hstate : step s (.request (.encExt r)) = (r8192WxSetEncExt r s.begin).state := rfl
      cases hradio : s.bHwRadioOff with
      | true =>
        have hoff : r8192WxSetEncExt r s.begin = ⟨none, none, s.begin⟩ := if_pos hradio
        rw [hstate, hoff]
        exact Or.inl ⟨Or.inl hradio, hs.begin, fun h => h⟩
      | false =>
        cases hdisabled : r.disabled with
        | true =>
          have hclear : (r8192WxSetEncExt r s.begin).state =
              (rtllibWxSetEncodeExt r s.begin).state.clearKeys := by
            unfold r8192WxSetEncExt
            simp only [hdisabled, if_true]
            have hon : ¬ s.begin.bHwRadioOff = true := Bool.not_eq_true _ ▸ hradio
            rw [if_neg hon]
          rw [hstate, hclear]
          exact Or.inl ⟨Or.inr (Or.inl hdisabled), clearKeys_shadows _, fun _ => clearKeys_chosen _⟩
        | false =>
          refine Or.inr ⟨r.change s, (r8192WxSetEncExt_does hs.begin he hradio hdisabled).of_begin, ?_⟩
          unfold KeysKept
          simp only [hradio, hdisabled, Bool.false_eq_true, false_or]
    | wpa r =>
      have he : (rtl8192Ioctl r s.begin).err = none := he
      have hioctl : rtl8192Ioctl r s.begin = rtllibWpaSupplicantIoctl r (wpaHw r s.begin) := by
        unfold rtl8192Ioctl at he ⊢
        split at he
        · cases he
        · split at he
          · cases he
          · split at he
            · cases he
            · rename_i hlen hmem hcopy
              rw [if_neg hlen, if_neg hmem, if_neg hcopy]
      rw [hioctl] at he
      have hdoes := wpaHw_does hs.begin (rtllibWpaSupplicantIoctl_idx he)
      refine Or.inr ⟨r.change s, ?_, Iff.rfl⟩
      have hstate : step s (.request (.wpa r)) = (rtl8192Ioctl r s.begin).state := rfl
      rw [hstate, hioctl]
      exact (hdoes.untouched ((rtllibWpaSupplicantIoctl_setter r _).toUntouched)).of_begin

/-- From a driver without keys, every accepted run brings its keys back in all its states exactly
when all its steps keep them where `CamRestoreAllEntry` looks. -/
theorem keys_restored_iff (hs : Fresh s) {es : List Event} (hes : Meets step Accepted s es) :
    Meets step KeysKept s es ↔ ∀ fs, fs <+: es → Restores (exec step s fs) := by
  refine meets_iff_forall_prefixes_of_meets (I := Shadows) (P := Restores) ?_ ?_ hs.shadows
    ((restores_iff_chosen hs.shadows).mpr hs.chosen) hes
  · intro s e hshadows _ he _
    rcases step_cases hshadows he with ⟨_, hnext, _⟩ | ⟨c, hdoes, _⟩
    · exact hnext
    · exact hdoes.shadows hshadows
  · intro s e hshadows hrestores he
    have hchosen := (restores_iff_chosen hshadows).mp hrestores
    rcases step_cases hshadows he with ⟨hkept, hnext, hmono⟩ | ⟨c, hdoes, hiff⟩
    · rw [restores_iff_chosen hnext]
      exact iff_of_true (hmono hchosen) hkept
    · rw [restores_iff_chosen (hdoes.shadows hshadows), hdoes.chosen_iff hchosen, hiff]

/-! ## A second WEP key -/

def noKeys : State where
  cam := fun _ _ => 0
  swcamtable := fun _ => SwCam.unused
  pairwiseKeyType := keyTypeNa
  groupKeyType := keyTypeNa
  crypt := fun _ => none
  txKeyidx := 0
  iwMode := .infra
  authMode := 0
  apMacAddr := fun _ => 2
  bssid := fun _ => 2
  devAddr := fun _ => 4
  bHwRadioOff := false
  up := true
  behind := fun _ => 0
  accesses := []
  written := []

theorem noKeys_fresh : Fresh noKeys := ⟨fun _ _ => rfl, fun _ _ => rfl, rfl, rfl⟩

def secondKey : Enc := ⟨⟨2, 5⟩, fun i => BitVec.ofNat 8 i, ⟨true, true, true⟩⟩

theorem keys_restored_iff_secondKey :
    Meets step KeysKept noKeys [.request (.enc secondKey)] ↔ ∀ fs,
      fs <+: [.request (.enc secondKey)] → Restores (exec step noKeys fs) :=
  keys_restored_iff noKeys_fresh ⟨(by decide : (request noKeys (.enc secondKey)).err = none), trivial⟩

def secondKeyExt : EncExt :=
  ⟨⟨2, 0⟩, 1, true, false, 5, fun i => BitVec.ofNat 8 i, ⟨true, true, true⟩⟩

/-- A key from a supplicant goes into the CAM with the address 0, and comes back with another one. -/
theorem keys_not_always_restored : ¬ ∀ (s : State) (es : List Event), Fresh s →
    Meets step Accepted s es → Restores (exec step s es) := by
  intro h
  have haccepted : (request noKeys (.encExt secondKeyExt)).err = none := by decide
  have hrestores := h noKeys [.request (.encExt secondKeyExt)] noKeys_fresh ⟨haccepted, trivial⟩
  have hword := (hrestores 1 (by decide)).2 (by decide) 1 (by decide)
  revert hword
  decide

end Rtl8190.Cam
