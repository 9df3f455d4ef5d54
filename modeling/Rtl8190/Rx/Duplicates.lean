import Rtl8190.Lib.Run
import Rtl8190.Rx.FragCache

/-!
# Frames dropped as duplicates

`is_duplicate_packet` compares a frame with the last one that it let through in the same TID class.
It means to compare frames of one transmitter. In infrastructure mode a record is not kept for each
transmitter, and in ad-hoc mode a new entry is written for one TID class only.
-/

open Rtl8190.Memory Rtl8190.Run Function

namespace Rtl8190.Rx

variable {ι κ : Type}

/-! ## The record that a frame is compared with -/

section Consult

variable (cfg : Config κ) (env : Env ι) (s : State ι κ) (header : Skb)

/-- The list of `ibss_mac_hash` for a transmitter. -/
def ibssIndex (mac : Addr) : Nat := (mac 5).toNat % 31

def ibssEntry (mac : Addr) : Option IbssSeq :=
  (s.ibssMacHash (ibssIndex mac)).find? fun entry => entry.mac = mac

/-- `last_seq`, `last_frag` and `last_time`, if there is such a record. -/
def consulted : Option LastRx :=
  match env.iwMode with
  | .adhoc => (ibssEntry s header.addr2).map fun entry => entry.last (tidClass header)
  | .infra => some (s.lastRx (tidClass header))
  | _ => none

/-- The record has the sequence number of the frame, and its time looks recent. -/
def LastRx.Matches (last : LastRx) : Prop :=
  last.seqNum = seqSeq header.seqCtl ∧ timeAfter (last.packetTime + 5 * cfg.hz) env.jiffies = true

instance (last : LastRx) : Decidable (last.Matches cfg env header) :=
  inferInstanceAs (Decidable (_ ∧ _))

variable {cfg env s header}

theorem checkLast_none_iff {last : LastRx} :
    checkLast cfg env last (seqSeq header.seqCtl) (seqFrag header.seqCtl) = none ↔
      last.Matches cfg env header ∧ last.fragNum + 1 ≠ seqFrag header.seqCtl := by
  unfold checkLast LastRx.Matches
  split_ifs with hmatch hsame hnext
  · exact iff_of_true rfl ⟨hmatch, by omega⟩
  · exact iff_of_true rfl ⟨hmatch, hnext⟩
  · exact iff_of_false (by simp) fun h => h.2 (not_not.mp hnext)
  · exact iff_of_false (by simp) fun h => hmatch h.1

/-- What the filter writes for a frame that it lets through. -/
def recordOf (env : Env ι) (header : Skb) : LastRx :=
  ⟨seqSeq header.seqCtl, seqFrag header.seqCtl, env.jiffies⟩

theorem checkLast_some {last last' : LastRx}
    (h : checkLast cfg env last (seqSeq header.seqCtl) (seqFrag header.seqCtl) = some last') :
    last' = recordOf env header := by
  unfold checkLast at h
  split_ifs at h
  · exact (Option.some.inj h).symm
  · exact (Option.some.inj h).symm

theorem checkIbss_dup (cfg : Config κ) (env : Env ι) (mac : Addr) (tid seq frag : Nat)
    (entries : List IbssSeq) :
    (checkIbss cfg env mac tid seq frag entries).map (·.1) =
      (entries.find? fun entry => entry.mac = mac).map fun entry =>
        (checkLast cfg env (entry.last tid) seq frag).isNone := by
  -- The search in the list, by the entry it finds.
  induction entries with
  | nil => rfl
  | cons entry rest ih =>
    unfold checkIbss
    split
    · rename_i hmac
      rw [List.find?_cons_of_pos (by simpa using hmac)]
      cases h : checkLast cfg env (entry.last tid) seq frag with
      | none => simp [h]
      | some last => simp [h]
    · rename_i hmac
      rw [List.find?_cons_of_neg (by simpa using hmac), ← ih, Option.map_map]
      rfl

theorem checkIbss_dropped {mac : Addr} {tid seq frag : Nat} {entries entries' : List IbssSeq}
    (h : checkIbss cfg env mac tid seq frag entries = some (true, entries')) : entries' = entries := by
  induction entries generalizing entries' with
  | nil => simp [checkIbss] at h
  | cons entry rest ih =>
    unfold checkIbss at h
    split at h
    · split at h
      · exact (Prod.mk.inj (Option.some.inj h)).2.symm
      · simp at h
    · obtain ⟨⟨dup, rest'⟩, hr, heq⟩ := Option.map_eq_some_iff.mp h
      obtain ⟨rfl, rfl⟩ := Prod.mk.inj heq
      rw [ih hr]

/-- The entry of the transmitter gets a new record when the frame is let through. -/
theorem checkIbss_self {mac : Addr} {tid : Nat} {entries entries' : List IbssSeq}
    (h : checkIbss cfg env mac tid (seqSeq header.seqCtl) (seqFrag header.seqCtl) entries =
      some (false, entries')) :
    entries'.find? (fun entry => entry.mac = mac) =
      (entries.find? fun entry => entry.mac = mac).map fun entry =>
        { entry with last := update entry.last tid (recordOf env header) } := by
  induction entries generalizing entries' with
  | nil => simp [checkIbss] at h
  | cons entry rest ih =>
    unfold checkIbss at h
    split at h
    · rename_i hmac
      cases hlast : checkLast cfg env (entry.last tid) (seqSeq header.seqCtl)
          (seqFrag header.seqCtl) with
      | none => simp [hlast] at h
      | some last =>
        simp only [hlast, Option.some.injEq, Prod.mk.injEq, true_and] at h
        rw [← h, List.find?_cons_of_pos (by simpa using hmac),
          List.find?_cons_of_pos (by simpa using hmac), ← checkLast_some hlast]
        rfl
    · rename_i hmac
      obtain ⟨r, hr, heq⟩ := Option.map_eq_some_iff.mp h
      obtain ⟨hdup, rfl⟩ := Prod.mk.inj heq
      rw [List.find?_cons_of_neg (by simpa using hmac), List.find?_cons_of_neg (by simpa using hmac)]
      apply ih
      rw [hr, ← hdup]

theorem checkIbss_other {mac other : Addr} (hne : other ≠ mac) {tid seq frag : Nat} {dup : Bool}
    {entries entries' : List IbssSeq}
    (h : checkIbss cfg env mac tid seq frag entries = some (dup, entries')) :
    entries'.find? (fun entry => entry.mac = other) = entries.find? fun entry => entry.mac = other := by
  induction entries generalizing entries' with
  | nil => simp [checkIbss] at h
  | cons entry rest ih =>
    unfold checkIbss at h
    split at h
    · rename_i hmac
      have hother : ¬ entry.mac = other := fun he => hne (he.symm.trans hmac)
      rw [List.find?_cons_of_neg (by simpa using hother)]
      cases hlast : checkLast cfg env (entry.last tid) seq frag with
      | none =>
        simp only [hlast, Option.some.injEq, Prod.mk.injEq] at h
        rw [← h.2, List.find?_cons_of_neg (by simpa using hother)]
      | some last =>
        simp only [hlast, Option.some.injEq, Prod.mk.injEq] at h
        rw [← h.2, List.find?_cons_of_neg (by simpa using hother)]
    · obtain ⟨⟨dup', rest'⟩, hr, heq⟩ := Option.map_eq_some_iff.mp h
      obtain ⟨rfl, rfl⟩ := Prod.mk.inj heq
      have hrest := ih hr
      rw [List.find?_cons, List.find?_cons, hrest]

/-- The filter drops a frame that matches its record and is not the next fragment. -/
theorem isDuplicatePacket_iff : (isDuplicatePacket cfg env s header).1 = true ↔
    ∃ last, consulted env s header = some last ∧ last.Matches cfg env header ∧
      last.fragNum + 1 ≠ seqFrag header.seqCtl := by
  unfold isDuplicatePacket consulted
  cases hmode : env.iwMode with
  | adhoc =>
    simp only
    have hdup := checkIbss_dup cfg env header.addr2 (tidClass header)
      (seqSeq header.seqCtl) (seqFrag header.seqCtl) (s.ibssMacHash (ibssIndex header.addr2))
    unfold ibssEntry
    cases hfind : (s.ibssMacHash (ibssIndex header.addr2)).find? fun entry =>
        entry.mac = header.addr2 with
    | none =>
      rw [hfind, Option.map_none, Option.map_eq_none_iff] at hdup
      unfold ibssIndex at hdup
      simp only [hdup, Option.map_none, reduceCtorEq, false_and, exists_false, iff_false]
      cases env.ibssSeqAlloc with
      | none => exact Bool.false_ne_true
      | some memory => exact Bool.false_ne_true
    | some entry =>
      rw [hfind, Option.map_some] at hdup
      obtain ⟨r, hr, hr1⟩ := Option.map_eq_some_iff.mp hdup
      unfold ibssIndex at hr
      simp only [hr, hr1, Option.map_some, Option.some.injEq, exists_eq_left', Option.isNone_iff_eq_none]
      exact checkLast_none_iff
  | infra =>
    simp only [Option.some.injEq, exists_eq_left']
    rw [← checkLast_none_iff]
    cases checkLast cfg env (s.lastRx (tidClass header)) (seqSeq header.seqCtl)
        (seqFrag header.seqCtl) with
    | none => simp
    | some last => simp
  | master => simp
  | monitor => simp

theorem isDuplicatePacket_dropped (h : (isDuplicatePacket cfg env s header).1 = true) :
    (isDuplicatePacket cfg env s header).2.lastRx = s.lastRx ∧
      (isDuplicatePacket cfg env s header).2.ibssMacHash = s.ibssMacHash := by
  unfold isDuplicatePacket at h ⊢
  cases hmode : env.iwMode with
  | adhoc =>
    simp only [hmode] at h ⊢
    cases hcheck : checkIbss cfg env header.addr2 (tidClass header) (seqSeq header.seqCtl)
        (seqFrag header.seqCtl) (s.ibssMacHash ((header.addr2 5).toNat % 31)) with
    | some r =>
      obtain ⟨dup, entries⟩ := r
      simp only [hcheck] at h ⊢
      subst h
      rw [checkIbss_dropped hcheck, update_eq_self]
      exact ⟨trivial, rfl⟩
    | none =>
      simp only [hcheck] at h
      split at h
      · cases h
      · cases h
  | infra =>
    simp only [hmode] at h ⊢
    split at h
    · exact ⟨rfl, rfl⟩
    · cases h
  | master => exact ⟨rfl, rfl⟩
  | monitor => exact ⟨rfl, rfl⟩

theorem isDuplicatePacket_lastRx (h : (isDuplicatePacket cfg env s header).1 = false) :
    (isDuplicatePacket cfg env s header).2.lastRx =
      if env.iwMode = .infra then update s.lastRx (tidClass header) (recordOf env header)
      else s.lastRx := by
  unfold isDuplicatePacket at h ⊢
  cases hmode : env.iwMode with
  | infra =>
    simp only [hmode] at h ⊢
    cases hlast : checkLast cfg env (s.lastRx (tidClass header)) (seqSeq header.seqCtl)
        (seqFrag header.seqCtl) with
    | none => simp [hlast] at h
    | some last => simp [checkLast_some hlast]
  | adhoc =>
    simp only [reduceCtorEq, if_false]
    split
    · rfl
    · split
      · rfl
      · rfl
  | master => rfl
  | monitor => rfl

theorem ibssEntry_update (i : Nat) (entries : List IbssSeq) (mac : Addr) :
    ibssEntry { s with ibssMacHash := update s.ibssMacHash i entries } mac =
      if ibssIndex mac = i then entries.find? fun entry => entry.mac = mac else ibssEntry s mac := by
  unfold ibssEntry
  split_ifs with hindex
  · rw [hindex]
    simp
  · simp [update_of_ne hindex]

theorem isDuplicatePacket_entry (h : (isDuplicatePacket cfg env s header).1 = false) (mac : Addr) :
    ibssEntry (isDuplicatePacket cfg env s header).2 mac =
      if env.iwMode = .adhoc ∧ mac = header.addr2 then
        match ibssEntry s mac with
        | some entry =>
          some { entry with last := update entry.last (tidClass header) (recordOf env header) }
        | none => env.ibssSeqAlloc.map fun memory =>
          ⟨mac, update memory (tidClass header) (recordOf env header)⟩
      else ibssEntry s mac := by
  -- The entry of a transmitter after the filter has let a frame through.
  unfold isDuplicatePacket at h ⊢
  cases hmode : env.iwMode with
  | adhoc =>
    simp only [hmode, true_and] at h ⊢
    cases hcheck : checkIbss cfg env header.addr2 (tidClass header) (seqSeq header.seqCtl)
        (seqFrag header.seqCtl) (s.ibssMacHash ((header.addr2 5).toNat % 31)) with
    | some r =>
      obtain ⟨dup, entries⟩ := r
      simp only [hcheck] at h ⊢
      subst h
      rw [ibssEntry_update]
      by_cases hmac : mac = header.addr2
      · subst hmac
        have hindex : ibssIndex header.addr2 = (header.addr2 5).toNat % 31 := rfl
        rw [if_pos hindex, if_pos rfl, checkIbss_self hcheck]
        have hdup := checkIbss_dup cfg env header.addr2 (tidClass header)
          (seqSeq header.seqCtl) (seqFrag header.seqCtl) (s.ibssMacHash (ibssIndex header.addr2))
        unfold ibssEntry
        cases hfind : (s.ibssMacHash (ibssIndex header.addr2)).find? fun entry =>
            entry.mac = header.addr2 with
        | none =>
          unfold ibssIndex at hfind hdup
          rw [hfind, hcheck] at hdup
          cases hdup
        | some entry =>
          unfold ibssIndex at hfind
          rw [hfind]
          rfl
      · rw [if_neg hmac, checkIbss_other hmac hcheck]
        unfold ibssEntry
        split_ifs with hindex
        · rw [hindex]
        · rfl
    | none =>
      have hfind : ibssEntry s header.addr2 = none := by
        have hdup := checkIbss_dup cfg env header.addr2 (tidClass header)
          (seqSeq header.seqCtl) (seqFrag header.seqCtl)
          (s.ibssMacHash ((header.addr2 5).toNat % 31))
        rw [hcheck] at hdup
        exact Option.map_eq_none_iff.mp hdup.symm
      simp only
      cases env.ibssSeqAlloc with
      | none =>
        simp only [Option.map_none]
        split_ifs with hmac
        · rw [hmac, hfind]
        · rfl
      | some memory =>
        simp only
        rw [ibssEntry_update]
        by_cases hmac : mac = header.addr2
        · subst hmac
          have hindex : ibssIndex header.addr2 = (header.addr2 5).toNat % 31 := rfl
          rw [if_pos hindex, if_pos rfl, hfind, List.find?_cons_of_pos (by simp)]
          rfl
        · rw [if_neg hmac, List.find?_cons_of_neg (by simpa using Ne.symm hmac)]
          unfold ibssEntry
          split_ifs with hindex
          · rw [hindex]
          · rfl
  | infra =>
    simp only [reduceCtorEq, false_and, if_false]
    split
    · rfl
    · rfl
  | master => simp
  | monitor => simp

end Consult

/-! ## Which frames reach the filter -/

section Reach

variable (cfg : Config κ) (env : Env ι) {s : State ι κ} {skb : Skb}

/-- The checks of `rtllib_rx` before it looks for duplicates. -/
def readable (skb : Skb) : Bool :=
  decide (10 ≤ skb.len) && decide (rtllibGetHdrlen skb.frameCtl ≤ skb.len) &&
    decide (env.iwMode ≠ .monitor) &&
    !(cfg.hostDecrypt && (selectCrypt cfg env skb).isNone && wep skb.frameCtl) &&
    decide (24 ≤ skb.len)

/-- The duplicate check is done by `is_duplicate_packet`. -/
def usesFilter (skb : Skb) : Bool :=
  (!env.bCurRxReorderEnable || !env.qosActive || !isDataFrame skb.frameCtl ||
    isLegacyDataFrame skb.frameCtl) &&
    !(decide (fcType skb.frameCtl = ftypeMgmt) && decide (fcStype skb.frameCtl = 0x0080))

def SameRecords (s s' : State ι κ) : Prop := s'.lastRx = s.lastRx ∧ s'.ibssMacHash = s.ibssMacHash

theorem SameRecords.refl (s : State ι κ) : SameRecords s s := ⟨rfl, rfl⟩

theorem SameRecords.trans {s s' s'' : State ι κ} (h : SameRecords s s') (h' : SameRecords s' s'') :
    SameRecords s s'' := ⟨h'.1.trans h.1, h'.2.trans h.2⟩

variable {cfg env}

theorem readable_iff : readable cfg env skb = true ↔ ¬ skb.len < 10 ∧
    ¬ skb.len < rtllibGetHdrlen skb.frameCtl ∧ ¬ env.iwMode = .monitor ∧
    ¬ (cfg.hostDecrypt = true ∧ selectCrypt cfg env skb = none ∧ wep skb.frameCtl = true) ∧
    ¬ skb.len < 24 := by
  simp only [readable, Bool.and_eq_true, decide_eq_true_eq, Bool.not_eq_true', ← Bool.not_eq_true,
    Option.isNone_iff_eq_none, not_lt]
  tauto

theorem duplicateCheck_filter [DecidableEq ι] (h : usesFilter env skb = true) :
    duplicateCheck cfg env s skb = isDuplicatePacket cfg env s skb := by
  simp only [usesFilter, Bool.and_eq_true, Bool.or_eq_true, Bool.not_eq_true',
    Bool.and_eq_false_iff, decide_eq_false_iff_not] at h
  unfold duplicateCheck
  simp only
  rw [if_pos (by tauto), if_neg (by tauto)]

theorem duplicateCheck_records [DecidableEq ι] (h : usesFilter env skb = false) :
    SameRecords s (duplicateCheck cfg env s skb).2 := by
  simp only [usesFilter, Bool.and_eq_false_iff, Bool.or_eq_false_iff, Bool.not_eq_false',
    Bool.and_eq_true, decide_eq_true_eq] at h
  unfold duplicateCheck
  simp only
  split
  · rename_i hlegacy
    rw [if_pos (h.resolve_left fun hno => by simp_all)]
    exact .refl s
  · split
    · exact .refl s
    · split
      · exact .refl s
      · exact ⟨rfl, rfl⟩

theorem rxFilter_records [DecidableEq ι] (h : readable cfg env skb = true) :
    (rxFilter cfg env s skb).2 = (duplicateCheck cfg env s skb).2 ∧
      ((duplicateCheck cfg env s skb).1 = true → (rxFilter cfg env s skb).1 = .dropped) := by
  obtain ⟨hshort, hheader, hmonitor, hnone, hthree⟩ := readable_iff.mp h
  unfold rxFilter
  simp only
  rw [if_neg hshort, if_neg hheader, if_neg hmonitor, if_neg hnone, if_neg hthree]
  split
  · exact ⟨rfl, fun _ => rfl⟩
  · rename_i hdup
    refine ⟨?_, fun h => absurd h hdup⟩
    split_ifs <;> rfl

theorem rxFilter_unreadable [DecidableEq ι] (h : readable cfg env skb = false) :
    (rxFilter cfg env s skb).2 = s := by
  rw [← Bool.not_eq_true, readable_iff] at h
  unfold rxFilter
  simp only
  by_cases hshort : skb.len < 10
  · rw [if_pos hshort]
  rw [if_neg hshort]
  by_cases hheader : skb.len < rtllibGetHdrlen skb.frameCtl
  · rw [if_pos hheader]
  rw [if_neg hheader]
  by_cases hmonitor : env.iwMode = .monitor
  · rw [if_pos hmonitor]
  rw [if_neg hmonitor]
  by_cases hnone : cfg.hostDecrypt = true ∧ selectCrypt cfg env skb = none ∧ wep skb.frameCtl = true
  · rw [if_pos hnone]
  rw [if_neg hnone]
  by_cases hthree : skb.len < 24
  · rw [if_pos hthree]
  · exact absurd ⟨hshort, hheader, hmonitor, hnone, hthree⟩ h

theorem freeAll_records (ps : List Nat) : SameRecords s (s.freeAll ps) := by
  induction ps generalizing s with
  | nil => exact .refl s
  | cons p ps ih => exact (show SameRecords s (s.free p) from ⟨rfl, rfl⟩).trans ih

theorem rxDecrypt_records : SameRecords s (rxDecrypt cfg env s skb).2 := by
  unfold rxDecrypt rtllibRxFrameDecrypt
  split
  · split
    · exact .refl s
    · split
      · exact .refl s
      · split
        · exact .refl s
        · simp only
          split
          · exact .refl s
          · exact ⟨rfl, rfl⟩
  · exact .refl s

theorem rtllibFragCacheGet_records : SameRecords s (rtllibFragCacheGet cfg env s skb).2 := by
  unfold rtllibFragCacheGet
  simp only
  split
  · unfold fragCacheNew
    split
    · exact .refl s
    · have hfree := freeAll_records (s := s)
        (((s.fragCache (tidClass skb))[s.fragNextIdx (tidClass skb)]?.bind (·.skb)).toList)
      exact ⟨hfree.1, hfree.2⟩
  · have hfree := freeAll_records (s := s)
      (fragCacheLookup cfg s env.jiffies skb (some (seqFrag skb.seqCtl))).1
    exact ⟨hfree.1, hfree.2⟩

theorem rtllibFragCacheInvalidate_records (now : BitVec 64) :
    SameRecords s (rtllibFragCacheInvalidate cfg s now skb) := by
  have hfree := freeAll_records (s := s) (fragCacheLookup cfg s now skb none).1
  exact ⟨hfree.1, hfree.2⟩

theorem rxReassemble_records (frame : Skb) : SameRecords s (rxReassemble cfg env s frame skb).2 := by
  have hget : SameRecords s (rtllibFragCacheGet cfg env s skb).2 := rtllibFragCacheGet_records
  unfold rxReassemble
  simp only
  split
  · split
    · exact hget
    · split
      · exact ⟨hget.1, hget.2⟩
      · split
        · exact hget.trans (rtllibFragCacheInvalidate_records _)
        · split
          · exact ⟨hget.1, hget.2⟩
          · exact (show SameRecords s _ from ⟨hget.1, hget.2⟩).trans
              (rtllibFragCacheInvalidate_records _)
  · exact .refl s

theorem rxDecryptMsdu_records (frame : Skb) (keyidx : Nat) :
    SameRecords s (rxDecryptMsdu cfg env s frame skb keyidx).2 := by
  unfold rxDecryptMsdu rtllibRxFrameDecryptMsdu
  split
  · split
    · exact .refl s
    · split
      · exact .refl s
      · exact ⟨rfl, rfl⟩
  · exact .refl s

theorem indicate_records [DecidableEq ι] (rxb : Rxb) (pTS : Option ι) (seqNum : Nat) :
    SameRecords s (indicate cfg env s rxb pTS seqNum) := by
  unfold indicate
  split
  · split
    · exact ⟨rfl, rfl⟩
    · exact ⟨rfl, rfl⟩
  · exact ⟨rfl, rfl⟩

theorem rxIndicate_records [DecidableEq ι] (frame : Skb) (p : Option Nat) :
    SameRecords s (rxIndicate cfg env s frame skb p).2 := by
  have hkeep (s : State ι κ) (skb : Skb) : SameRecords s (p.elim s fun p => s.write p skb) := by
    cases p with
    | none => exact .refl s
    | some p => exact ⟨rfl, rfl⟩
  have hfree (s : State ι κ) : SameRecords s (p.elim s s.free) := by
    cases p with
    | none => exact .refl s
    | some p => exact ⟨rfl, rfl⟩
  unfold rxIndicate
  simp only
  split
  · exact hkeep s skb
  · split
    · split
      · exact (hkeep s skb).trans (hkeep _ _)
      · exact ((hkeep s skb).trans (indicate_records _ _ _)).trans (hfree _)
    · exact hkeep s skb

theorem rtllibRx_records [DecidableEq ι] (cfg : Config κ) (env : Env ι) (s : State ι κ) (skb : Skb) :
    SameRecords (rxFilter cfg env s skb).2 (rtllibRx cfg env s skb).2 := by
  -- Only the filter writes its records.
  unfold rtllibRx
  simp only
  split
  · exact .refl _
  · exact .refl _
  · have hdecrypt : SameRecords (rxFilter cfg env s skb).2
        (rxDecrypt cfg env (rxFilter cfg env s skb).2 skb).2 := rxDecrypt_records
    split
    · exact hdecrypt
    · split
      · exact hdecrypt.trans (rxReassemble_records skb)
      · exact hdecrypt.trans (rxReassemble_records skb)
      · split
        · exact (hdecrypt.trans (rxReassemble_records skb)).trans (rxDecryptMsdu_records skb _)
        · exact ((hdecrypt.trans (rxReassemble_records skb)).trans (rxDecryptMsdu_records skb _)).trans
            (rxIndicate_records _ _)

/-- The records after `rtllib_rx`, for a frame that the filter sees and for any other frame. -/
theorem rtllibRx_filter [DecidableEq ι] (hread : readable cfg env skb = true)
    (huse : usesFilter env skb = true) :
    SameRecords (isDuplicatePacket cfg env s skb).2 (rtllibRx cfg env s skb).2 := by
  have hrx := rtllibRx_records cfg env s skb
  rwa [(rxFilter_records hread).1, duplicateCheck_filter huse] at hrx

theorem rtllibRx_no_filter [DecidableEq ι]
    (h : (readable cfg env skb && usesFilter env skb) = false) :
    SameRecords s (rtllibRx cfg env s skb).2 := by
  have hrx := rtllibRx_records cfg env s skb
  cases hread : readable cfg env skb with
  | false => rwa [rxFilter_unreadable hread] at hrx
  | true =>
    rw [hread, Bool.true_and] at h
    rw [(rxFilter_records hread).1] at hrx
    exact (duplicateCheck_records h).trans hrx

theorem rtllibRx_duplicate [DecidableEq ι] (hread : readable cfg env skb = true)
    (huse : usesFilter env skb = true) (hdup : (isDuplicatePacket cfg env s skb).1 = true) :
    rtllibRx cfg env s skb = (false, (isDuplicatePacket cfg env s skb).2) := by
  have hfilter := rxFilter_records (s := s) hread
  rw [duplicateCheck_filter huse] at hfilter
  unfold rtllibRx
  simp only [hfilter.2 hdup, hfilter.1]

end Reach

/-! ## Runs -/

/-- A frame that the filter let through. -/
structure Accepted where
  mac : Addr
  tid : Nat
  seq : Nat
  frag : Nat
  time : Nat

def Accepted.record (x : Accepted) : LastRx := ⟨x.seq, x.frag, BitVec.ofNat 64 x.time⟩

def retryTime (cfg : Config κ) : Nat := 5 * cfg.hz.toNat

/-- The device, with a clock that does not wrap, what its filter let through and where the records
of the filter come from. -/
structure Watched (ι κ : Type) where
  dev : State ι κ
  clock : Nat
  accepted : List Accepted
  /-- The frame that left a record of `last_rxseq_num`, if a frame did. -/
  infraFrom : Nat → Option Accepted
  /-- The frame that left a record in the entry of a transmitter. A new entry has the records that
  its memory holds. -/
  ibssFrom : Addr → Nat → Option Accepted

/-- What happens, and how long after the event before it. -/
structure Arrival (ι : Type) where
  elapsed : Nat
  event : Event ι

section Watched

variable [DecidableEq ι] (cfg : Config κ) (w : Watched ι κ) (a : Arrival ι)

def atClock : Event ι :=
  match a.event with
  | .rx env mem len => .rx { env with jiffies := BitVec.ofNat 64 (w.clock + a.elapsed) } mem len
  | .pendingTimeout i => .pendingTimeout i
  | .removeTs i => .removeTs i

/-- The frame that the filter sees, if the event brings one. -/
def examined : Option (Env ι × Skb) :=
  match atClock w a with
  | .rx env mem len =>
    if w.dev.oops = false ∧ readable cfg env (received mem len) = true ∧
        usesFilter env (received mem len) = true then
      some (env, received mem len)
    else none
  | .pendingTimeout _ => none
  | .removeTs _ => none

/-- The filter lets `header` through at the time `now`. -/
def Watched.accept (env : Env ι) (header : Skb) (now : Nat) : Watched ι κ :=
  let x : Accepted :=
    ⟨header.addr2, tidClass header, seqSeq header.seqCtl, seqFrag header.seqCtl, now⟩
  { w with
    accepted := x :: w.accepted
    infraFrom := if env.iwMode = .infra then update w.infraFrom x.tid (some x) else w.infraFrom
    ibssFrom :=
      if env.iwMode = .adhoc ∧ ((ibssEntry w.dev x.mac).isSome ∨ env.ibssSeqAlloc.isSome) then
        update w.ibssFrom x.mac (update (w.ibssFrom x.mac) x.tid (some x))
      else w.ibssFrom }

def Watched.step : Watched ι κ :=
  let w' := match examined cfg w a with
    | some (env, header) =>
      if (isDuplicatePacket cfg env w.dev header).1 then w
      else w.accept env header (w.clock + a.elapsed)
    | none => w
  { w' with dev := Rx.step cfg w.dev (atClock w a), clock := w.clock + a.elapsed }

/-- A frame is dropped as a duplicate only if a frame of its transmitter, its TID class and its
sequence number was let through at most `IEEE_PACKET_RETRY_TIME` before. -/
def Justified : Prop :=
  ∀ env header, examined cfg w a = some (env, header) →
    (isDuplicatePacket cfg env w.dev header).1 = true →
    ∃ x ∈ w.accepted, x.mac = header.addr2 ∧ x.tid = tidClass header ∧
      x.seq = seqSeq header.seqCtl ∧ x.time ≤ w.clock + a.elapsed ∧
      w.clock + a.elapsed < x.time + retryTime cfg

/-- Where the record comes from with which `header` is compared. -/
def recordFrom (env : Env ι) (header : Skb) : Option Accepted :=
  match env.iwMode with
  | .adhoc => w.ibssFrom header.addr2 (tidClass header)
  | .infra => w.infraFrom (tidClass header)
  | _ => none

/-- A record that matches the frame was left by a frame of the same transmitter, and not so long
ago that `time_after` is wrong. -/
def OwnRecord : Prop :=
  ∀ env header, examined cfg w a = some (env, header) →
    ∀ last, consulted env w.dev header = some last → last.Matches cfg env header →
      ∃ x, recordFrom w env header = some x ∧ x.mac = header.addr2 ∧
        w.clock + a.elapsed < x.time + 2 ^ 63

/-- The records that frames left are the records of these frames. -/
structure Watched.Inv (w : Watched ι κ) : Prop where
  infra : ∀ tid x, w.infraFrom tid = some x →
    w.dev.lastRx tid = x.record ∧ x ∈ w.accepted ∧ x.tid = tid
  ibss : ∀ mac tid x, w.ibssFrom mac tid = some x →
    (∃ entry, ibssEntry w.dev mac = some entry ∧ entry.last tid = x.record) ∧
      x ∈ w.accepted ∧ x.mac = mac ∧ x.tid = tid
  clock : ∀ x ∈ w.accepted, x.time ≤ w.clock

variable {cfg w a}

/-- For less than half the range of `jiffies`, `time_after` compares the times. -/
theorem timeAfter_iff {past now : Nat} {hz : BitVec 64} (hhz : 5 * hz.toNat < 2 ^ 63)
    (hpast : past ≤ now) (hnow : now < past + 2 ^ 63) :
    timeAfter (BitVec.ofNat 64 past + 5 * hz) (BitVec.ofNat 64 now) = true ↔
      now < past + 5 * hz.toNat := by
  have h5 : (5 : BitVec 64).toNat = 5 := rfl
  have hmul : 5 * hz.toNat % 2 ^ 64 = 5 * hz.toNat := Nat.mod_eq_of_lt (by omega)
  unfold timeAfter
  rw [BitVec.msb_eq_decide, decide_eq_true_eq, BitVec.toNat_sub, BitVec.toNat_add, BitVec.toNat_mul,
    h5, hmul, BitVec.toNat_ofNat, BitVec.toNat_ofNat]
  omega

theorem examined_some {env : Env ι} {header : Skb}
    (h : examined cfg w a = some (env, header)) :
    env.jiffies = BitVec.ofNat 64 (w.clock + a.elapsed) ∧ readable cfg env header = true ∧
      usesFilter env header = true ∧
      Rx.step cfg w.dev (atClock w a) = (rtllibRx cfg env w.dev header).2 := by
  unfold examined at h
  cases hevent : a.event with
  | rx env' mem len =>
    simp only [atClock, hevent] at h ⊢
    split at h
    · rename_i hreach
      obtain ⟨rfl, rfl⟩ := Prod.mk.inj (Option.some.inj h)
      refine ⟨rfl, hreach.2.1, hreach.2.2, ?_⟩
      unfold Rx.step
      rw [if_neg (by simp [hreach.1])]
    · cases h
  | pendingTimeout i => simp [atClock, hevent] at h
  | removeTs i => simp [atClock, hevent] at h

theorem examined_none (h : examined cfg w a = none) :
    SameRecords w.dev (Rx.step cfg w.dev (atClock w a)) := by
  unfold examined at h
  unfold Rx.step
  split
  · exact .refl _
  · rename_i hoops
    cases hevent : a.event with
    | rx env mem len =>
      simp only [atClock, hevent] at h ⊢
      split at h
      · cases h
      · rename_i hreach
        apply rtllibRx_no_filter
        rw [← Bool.not_eq_true, Bool.and_eq_true]
        exact fun hboth => hreach ⟨by simpa using hoops, hboth⟩
    | pendingTimeout i =>
      simp only [atClock, hevent]
      exact ⟨rfl, rfl⟩
    | removeTs i =>
      simp only [atClock, hevent]
      exact ⟨rfl, rfl⟩

omit [DecidableEq ι] in
theorem Watched.Inv.same {w' : Watched ι κ} (h : w.Inv) (hdev : SameRecords w.dev w'.dev)
    (haccepted : w'.accepted = w.accepted) (hinfra : w'.infraFrom = w.infraFrom)
    (hibss : w'.ibssFrom = w.ibssFrom) (hclock : w.clock ≤ w'.clock) : w'.Inv where
  infra := by
  -- The records are the same, and nothing was let through.
    rw [hinfra, hdev.1, haccepted]
    exact h.infra
  ibss := by
    have hentry (mac : Addr) : ibssEntry w'.dev mac = ibssEntry w.dev mac := by
      unfold ibssEntry
      rw [hdev.2]
    simp only [hibss, hentry, haccepted]
    exact h.ibss
  clock := by
    rw [haccepted]
    intro x hx
    exact (h.clock x hx).trans hclock

omit [DecidableEq ι] in
theorem Watched.Inv.accept {env : Env ι} {header : Skb} {now : Nat} {dev : State ι κ} (h : w.Inv)
    (hpass : (isDuplicatePacket cfg env w.dev header).1 = false)
    (hdev : SameRecords (isDuplicatePacket cfg env w.dev header).2 dev)
    (hjiffies : env.jiffies = BitVec.ofNat 64 now) (hnow : w.clock ≤ now) :
    ({ w.accept env header now with dev := dev, clock := now } : Watched ι κ).Inv where
  infra := by
  -- The filter lets a frame through.
    intro tid x hx
    simp only [Watched.accept] at hx ⊢
    rw [hdev.1, isDuplicatePacket_lastRx hpass]
    split_ifs at hx ⊢ with hmode
    · by_cases htid : tid = tidClass header
      · subst htid
        rw [update_self] at hx ⊢
        cases hx
        refine ⟨?_, List.mem_cons_self, rfl⟩
        simp only [recordOf, Accepted.record, hjiffies]
      · rw [update_of_ne htid] at hx ⊢
        obtain ⟨hrecord, hmem, heq⟩ := h.infra tid x hx
        exact ⟨hrecord, List.mem_cons_of_mem _ hmem, heq⟩
    · obtain ⟨hrecord, hmem, heq⟩ := h.infra tid x hx
      exact ⟨hrecord, List.mem_cons_of_mem _ hmem, heq⟩
  ibss := by
    intro mac tid x hx
    have hentry : ibssEntry dev mac = ibssEntry (isDuplicatePacket cfg env w.dev header).2 mac := by
      unfold ibssEntry
      rw [hdev.2]
    simp only [Watched.accept] at hx ⊢
    rw [hentry, isDuplicatePacket_entry hpass]
    by_cases hself : env.iwMode = .adhoc ∧ mac = header.addr2
    · rw [if_pos hself]
      obtain ⟨hmode, rfl⟩ := hself
      cases hentry : ibssEntry w.dev header.addr2 with
      | some entry =>
        rw [hentry, if_pos ⟨hmode, .inl rfl⟩, update_self] at hx
        by_cases htid : tid = tidClass header
        · subst htid
          rw [update_self] at hx
          cases hx
          refine ⟨⟨_, rfl, ?_⟩, List.mem_cons_self, rfl, rfl⟩
          simp only [update_self, recordOf, Accepted.record, hjiffies]
        · rw [update_of_ne htid] at hx
          obtain ⟨⟨entry', hentry', hrecord⟩, hmem, hmac, heq⟩ := h.ibss _ tid x hx
          rw [hentry] at hentry'
          cases hentry'
          refine ⟨⟨_, rfl, ?_⟩, List.mem_cons_of_mem _ hmem, hmac, heq⟩
          simpa only [update_of_ne htid] using hrecord
      | none =>
        have hno (tid : Nat) : w.ibssFrom header.addr2 tid ≠ some x := by
          intro hx
          obtain ⟨⟨entry', hentry', -⟩, -⟩ := h.ibss _ tid x hx
          rw [hentry] at hentry'
          cases hentry'
        cases halloc : env.ibssSeqAlloc with
        | none =>
          rw [hentry, halloc, if_neg (by simp)] at hx
          exact absurd hx (hno tid)
        | some memory =>
          rw [hentry, halloc, if_pos ⟨hmode, .inr rfl⟩, update_self] at hx
          by_cases htid : tid = tidClass header
          · subst htid
            rw [update_self] at hx
            cases hx
            refine ⟨⟨_, rfl, ?_⟩, List.mem_cons_self, rfl, rfl⟩
            simp only [update_self, recordOf, Accepted.record, hjiffies]
          · rw [update_of_ne htid] at hx
            exact absurd hx (hno tid)
    · rw [if_neg hself]
      have hx' : w.ibssFrom mac tid = some x := by
        split_ifs at hx with hmode
        · rwa [update_of_ne fun he => hself ⟨hmode.1, he⟩] at hx
        · exact hx
      obtain ⟨hold, hmem, hmac, heq⟩ := h.ibss mac tid x hx'
      exact ⟨hold, List.mem_cons_of_mem _ hmem, hmac, heq⟩
  clock := by
    intro x hx
    rcases List.mem_cons.mp hx with rfl | hx
    · exact le_rfl
    · exact (h.clock x hx).trans hnow

/-- The records that `rtllib_rx` leaves have the sources that `Watched.step` gives them. -/
theorem Watched.Inv.step (h : w.Inv) : (w.step cfg a).Inv := by
  unfold Watched.step
  cases hexamined : examined cfg w a with
  | none => exact h.same (examined_none hexamined) rfl rfl rfl (Nat.le_add_right _ _)
  | some r =>
    obtain ⟨env, header⟩ := r
    obtain ⟨hjiffies, hread, huse, hstep⟩ := examined_some hexamined
    have hrx := rtllibRx_filter (s := w.dev) hread huse
    rw [← hstep] at hrx
    simp only
    split
    · rename_i hdup
      exact h.same (SameRecords.trans (isDuplicatePacket_dropped hdup) hrx) rfl rfl rfl (Nat.le_add_right _ _)
    · rename_i hdup
      exact h.accept (by simpa using hdup) hrx hjiffies (Nat.le_add_right _ _)

/-- The step lemma: a drop is justified if the record is of the frame's own transmitter. -/
theorem Watched.Inv.justified (hhz : retryTime cfg < 2 ^ 63) (h : w.Inv) (hown : OwnRecord cfg w a) :
    Justified cfg w a := by
  intro env header hexamined hdup
  obtain ⟨last, hlast, hmatch, -⟩ := isDuplicatePacket_iff.mp hdup
  obtain ⟨x, hx, hmac, htime⟩ := hown env header hexamined last hlast hmatch
  obtain ⟨hjiffies, -⟩ := examined_some hexamined
  have hrecord : last = x.record ∧ x ∈ w.accepted ∧ x.tid = tidClass header := by
    unfold recordFrom at hx
    unfold consulted at hlast
    split at hx
    · rename_i hmode
      rw [hmode] at hlast
      obtain ⟨⟨entry, hentry, heq⟩, hmem, -, htid⟩ := h.ibss _ _ x hx
      simp only [hentry, Option.map_some, Option.some.injEq] at hlast
      exact ⟨hlast.symm.trans heq, hmem, htid⟩
    · rename_i hmode
      rw [hmode] at hlast
      obtain ⟨heq, hmem, htid⟩ := h.infra _ x hx
      exact ⟨(Option.some.inj hlast).symm.trans heq, hmem, htid⟩
    · cases hx
  obtain ⟨rfl, hmem, htid⟩ := hrecord
  have hpast := h.clock x hmem
  refine ⟨x, hmem, hmac, htid, hmatch.1, by omega, ?_⟩
  have hrecent := hmatch.2
  rw [hjiffies] at hrecent
  exact (timeAfter_iff hhz (by omega) htime).mp hrecent

def watch (dev : State ι κ) (clock : Nat) : Watched ι κ :=
  ⟨dev, clock, [], fun _ => none, fun _ _ => none⟩

omit [DecidableEq ι] in
theorem watch_inv (dev : State ι κ) (clock : Nat) : (watch dev clock).Inv where
  infra := by
    intro tid x hx
    cases hx
  ibss := by
    intro mac tid x hx
    cases hx
  clock := by
    intro x hx
    cases hx

/-- In a run in which every matching record is of the frame's own transmitter, every frame that is
dropped as a duplicate follows one that was let through. -/
theorem duplicates_justified (hhz : retryTime cfg < 2 ^ 63) (dev : State ι κ)
    (clock : Nat) (arrivals : List (Arrival ι))
    (hown : Meets (Watched.step cfg) (OwnRecord cfg) (watch dev clock) arrivals) :
    Meets (Watched.step cfg) (Justified cfg) (watch dev clock) arrivals := by
  rw [meets_iff_forall_step] at hown ⊢
  intro before a hbefore
  have hinv : (exec (Watched.step cfg) (watch dev clock) before).Inv := by
    apply exec_inv (C := fun _ _ => True) (fun w a h _ => h.step) (watch_inv dev clock)
    exact meets_of_forall fun _ _ => trivial
  exact hinv.justified hhz (hown before a hbefore)

end Watched

/-! ## Two probe responses -/

structure NewRecords (s : State ι κ) : Prop where
  lastRx : ∀ tid, s.lastRx tid = ⟨0xffff, 0xffff, 0⟩
  ibssMacHash : ∀ index, s.ibssMacHash index = []

def newDevice : State Unit Unit := { emptyCache with lastRx := fun _ => ⟨0xffff, 0xffff, 0⟩ }

/-- A probe response with the sequence number 16 from the station `mac`. -/
def probeResponse (mac : Byte) (i : Nat) : Byte :=
  if i = 0 then 0x50 else if i < 4 then 0 else if i < 10 then 2 else if i < 22 then mac
  else if i = 23 then 0x01 else 0

def probeArrival (mac : Byte) : Arrival Unit := ⟨1, .rx openStation (probeResponse mac) 36⟩

/-- The same frame again is a duplicate. -/
theorem duplicates_justified_repeated :
    (isDuplicatePacket openConfig { openStation with jiffies := 2 }
      (Watched.step openConfig (watch newDevice 0) (probeArrival 4)).dev
      (received (probeResponse 4) 36)).1 = true ∧
    Meets (Watched.step openConfig) (Justified openConfig) (watch newDevice 0)
      [probeArrival 4, probeArrival 4] := by
  refine ⟨by decide +kernel, duplicates_justified (by decide) newDevice 0 _ ⟨?_, ?_, trivial⟩⟩
  · intro env header hexamined last hlast hmatch
    have hframe : examined openConfig (watch newDevice 0) (probeArrival 4) =
      some ({ openStation with jiffies := 1 }, received (probeResponse 4) 36) := rfl
    cases hframe.symm.trans hexamined
    cases hlast
    exact absurd hmatch (by decide +kernel)
  · intro env header hexamined last hlast hmatch
    have hframe : examined openConfig (Watched.step openConfig (watch newDevice 0) (probeArrival 4))
        (probeArrival 4) =
      some ({ openStation with jiffies := 2 }, received (probeResponse 4) 36) := rfl
    cases hframe.symm.trans hexamined
    exact ⟨_, rfl, rfl, by decide⟩

/-- Two stations use the same sequence number. -/
theorem duplicates_not_always_justified : ¬ ∀ (cfg : Config Unit) (dev : State Unit Unit),
    retryTime cfg < 2 ^ 63 → NewRecords dev → ∀ (clock : Nat) (arrivals : List (Arrival Unit)),
      Meets (Watched.step cfg) (Justified cfg) (watch dev clock) arrivals := by
  intro h
  have hrun := h openConfig newDevice (by decide) ⟨fun _ => rfl, fun _ => rfl⟩ 0
    [probeArrival 4, probeArrival 6]
  obtain ⟨x, hx, hmac, -⟩ := hrun.2.1 _ _ rfl (by decide +kernel)
  rw [List.mem_singleton.mp hx] at hmac
  revert hmac
  decide +kernel

/-- In ad-hoc mode, the memory of the entry names the sequence number of the first QoS frame. -/
example : ¬ Meets (Watched.step openConfig) (Justified openConfig) (watch newDevice 0)
    [⟨1, .rx { openStation with iwMode := .adhoc, ibssSeqAlloc := some fun _ => ⟨16, 0, 0⟩ }
      (probeResponse 4) 36⟩,
      ⟨1, .rx { openStation with iwMode := .adhoc }
        (fun i => if i = 0 then 0x88 else if i = 24 then 0 else probeResponse 4 i) 36⟩] := by
  intro hrun
  obtain ⟨x, hx, -, htid, -⟩ := hrun.2.1 _ _ rfl (by decide +kernel)
  rw [List.mem_singleton.mp hx] at htid
  revert htid
  decide +kernel

end Rtl8190.Rx
