import Rtl8190.Reorder.Window

/-!
# The pending timer

Both functions turn the timer off when they indicate packets, and they do not turn it on again when
some packets stay behind. So the timer covers the pending packets exactly as long as every call
releases either none of them or all of them.
-/

open Rtl8190.Circular Rtl8190.Run

namespace Rtl8190.Reorder.Timer

variable {ρ : Type}

def step (winSize : Nat) (pTS : RxTsRecord ρ) : Event ρ → RxTsRecord ρ
  | .packet prxb seqNum unused => (rxReorderIndicatePacket winSize unused prxb pTS seqNum).pTS
  | .timeout unused => (rxPktPendingTimeout unused pTS).pTS

def Armed (pTS : RxTsRecord ρ) : Prop :=
  pTS.rxPendingPktList ≠ [] → pTS.rxPktPendingTimer = true ∧ pTS.rxTimeoutIndicateSeq ≠ 0xffff

instance (pTS : RxTsRecord ρ) : Decidable (Armed pTS) :=
  inferInstanceAs (Decidable (_ → _ ∧ _))

/-! ## When a step is clean -/

def AllAhead (start : Nat) (l : List Nat) : Prop :=
  ∀ x ∈ l, ¬ snLess x start ∧ x ≠ start

/-- Each number from `start` on is `start` or follows another one of them. -/
def NoGap (start : Nat) (l : List Nat) : Prop :=
  ∀ x ∈ l, snLess x start ∨ x = start ∨ ∃ y ∈ l, ¬ snLess y start ∧ x = (y + 1) % 4096

/-- The numbers that are pending, or would be, when a packet past the window comes. -/
def withPacket (pTS : RxTsRecord ρ) (seqNum : Nat) (unused : List Nat) : List Nat :=
  if unused = [] then pTS.rxPendingPktList.map (·.seqNum)
  else seqNum :: pTS.rxPendingPktList.map (·.seqNum)

/-- The step leaves no packet behind a gap after it has released another one. -/
def Clean (winSize : Nat) (pTS : RxTsRecord ρ) : Event ρ → Prop
  | .packet _ seqNum unused =>
    (pTS.rxIndicateSeq = seqNum → NoGap ((seqNum + 1) % 4096) (pTS.rxPendingPktList.map (·.seqNum))) ∧
    (¬ snLess seqNum pTS.rxIndicateSeq → pTS.rxIndicateSeq ≠ seqNum →
      snLess (winEnd pTS.rxIndicateSeq winSize) seqNum → pTS.rxIndicateSeq ≠ 0xffff →
      AllAhead (shiftedStart winSize seqNum) (withPacket pTS seqNum unused) ∨
        NoGap (shiftedStart winSize seqNum) (withPacket pTS seqNum unused))
  | .timeout _ =>
    ∀ first ∈ pTS.rxPendingPktList.getLast?,
      NoGap first.seqNum (pTS.rxPendingPktList.map (·.seqNum))

/-! ## The tests, unwrapped -/

section Unwrapped

variable {b base : Nat} {l : List (RxReorderEntry ρ)}

theorem snLess_base_iff {e : RxReorderEntry ρ} (h : Close b base e) :
    snLess e.seqNum (base % 4096) ↔ num b e < base := by
  rw [seqNum_eq _ h.1]
  exact snLess_mod_iff h.2.1 (by have := h.2.2; omega)

theorem eq_base_iff {e : RxReorderEntry ρ} (h : Close b base e) :
    e.seqNum = base % 4096 ↔ num b e = base := by
  rw [seqNum_eq _ h.1]
  exact mod_eq_iff_of_close (by have := h.2.1; omega) (by have := h.2.2; omega)

theorem allAhead_iff (h : ∀ e ∈ l, Close b base e) :
    AllAhead (base % 4096) (l.map (·.seqNum)) ↔ ∀ e ∈ l, base < num b e := by
  simp only [AllAhead, List.forall_mem_map]
  refine forall₂_congr fun e he => ?_
  rw [snLess_base_iff (h e he), Ne, eq_base_iff (h e he)]
  omega

theorem noGap_iff (h : ∀ e ∈ l, Close b base e) :
    NoGap (base % 4096) (l.map (·.seqNum)) ↔ ∀ e ∈ l, num b e < base ∨ num b e = base ∨
      ∃ f ∈ l, base ≤ num b f ∧ num b e = num b f + 1 := by
  simp only [NoGap, List.forall_mem_map]
  refine forall₂_congr fun e he => ?_
  rw [snLess_base_iff (h e he), eq_base_iff (h e he)]
  refine or_congr_right (or_congr_right ?_)
  simp only [List.mem_map, exists_exists_and_eq_and]
  refine exists_congr fun f => and_congr_right fun hf => ?_
  rw [snLess_base_iff (h f hf), Nat.not_lt]
  refine and_congr_right fun _ => ?_
  obtain ⟨he1, he2, he3⟩ := h e he
  obtain ⟨hf1, hf2, hf3⟩ := h f hf
  have hsucc : (f.seqNum + 1) % 4096 = (num b f + 1) % 4096 := by
    conv_lhs => rw [seqNum_eq b hf1]
    omega
  rw [hsucc, seqNum_eq _ he1]
  exact mod_eq_iff_of_close (by omega) (by omega)

end Unwrapped

theorem allAhead_congr {start : Nat} {l l' : List Nat} (h : ∀ x, x ∈ l ↔ x ∈ l') :
    AllAhead start l ↔ AllAhead start l' := by
  simp only [AllAhead, h]

theorem noGap_congr {start : Nat} {l l' : List Nat} (h : ∀ x, x ∈ l ↔ x ∈ l') :
    NoGap start l ↔ NoGap start l' := by
  simp only [NoGap, h]

/-! ## The timer's own invariant -/

/-- The timer runs exactly when `RxTimeoutIndicateSeq` is set, and then packets are pending. -/
structure TimerInv (pTS : RxTsRecord ρ) : Prop where
  timer : pTS.rxPktPendingTimer = true ↔ pTS.rxTimeoutIndicateSeq ≠ 0xffff
  pending : pTS.rxTimeoutIndicateSeq ≠ 0xffff → pTS.rxPendingPktList ≠ []

theorem TimerInv.armed_iff {pTS : RxTsRecord ρ} (h : TimerInv pTS) :
    Armed pTS ↔ (pTS.rxPendingPktList ≠ [] → pTS.rxTimeoutIndicateSeq ≠ 0xffff) := by
  unfold Armed
  rw [h.timer, and_self]

theorem indicate_timer {pTS : RxTsRecord ρ} {r : Release ρ} {freed : List ρ} (h : r.array ≠ []) :
    TimerInv (indicateAndArm pTS r freed).pTS ∧
      (Armed (indicateAndArm pTS r freed).pTS ↔ r.pending = []) := by
  have hpos : 0 < r.array.length := List.length_pos_of_ne_nil h
  have hoff : (indicateAndArm pTS r freed).pTS.rxPktPendingTimer = false ∧
      (indicateAndArm pTS r freed).pTS.rxTimeoutIndicateSeq = 0xffff := by
    simp only [indicateAndArm, hpos, if_true]
    split_ifs <;> exact ⟨rfl, rfl⟩
  have hinv : TimerInv (indicateAndArm pTS r freed).pTS := ⟨by simp [hoff], by simp [hoff]⟩
  refine ⟨hinv, ?_⟩
  rw [hinv.armed_iff, hoff.2]
  simp

theorem keep_timer {pTS : RxTsRecord ρ} {r : Release ρ} {freed : List ρ} (hpTS : TimerInv pTS)
    (h : r.array = []) (hstart : r.rxIndicateSeq ≠ 0xffff)
    (hbuf : r.bPktInBuf = true ↔ r.pending ≠ [])
    (hkeep : pTS.rxPendingPktList ≠ [] → r.pending ≠ []) :
    TimerInv (indicateAndArm pTS r freed).pTS ∧ Armed (indicateAndArm pTS r freed).pTS := by
  have hinv : TimerInv (indicateAndArm pTS r freed).pTS := by
    simp only [indicateAndArm, h, List.length_nil, lt_irrefl, if_false]
    split_ifs with h1
    · exact ⟨by simpa using hstart, fun _ => by simpa using hbuf.mp h1.1⟩
    · exact ⟨hpTS.timer, fun h2 => by simpa using hkeep (hpTS.pending h2)⟩
  refine ⟨hinv, hinv.armed_iff.mpr fun hp => ?_⟩
  simp only [indicateAndArm_rxPendingPktList, ne_eq, List.reverse_eq_nil_iff] at hp
  simp only [indicateAndArm, h, List.length_nil, lt_irrefl, if_false, hbuf.mpr hp, true_and]
  split_ifs with h1
  · exact hstart
  · exact h1

/-- The end of a call, from what its loop did: the timer covers the rest exactly when the call
took nothing or left nothing. -/
theorem released_timer {b base base' : Nat} {array : List ρ} {unused : List Nat}
    {l taken left : List (RxReorderEntry ρ)} {r : Release ρ} (pTS : RxTsRecord ρ) {freed : List ρ}
    (h : Released b base base' array unused l taken left r)
    (hpTS : TimerInv pTS ∨ array ++ taken.map (·.prxb) ≠ [])
    (hkeep : pTS.rxPendingPktList ≠ [] → l ≠ []) :
    TimerInv (indicateAndArm pTS r freed).pTS ∧
      (Armed (indicateAndArm pTS r freed).pTS ↔ (array = [] ∧ taken = []) ∨ left = []) := by
  by_cases harr : r.array = []
  · have hnil : array = [] ∧ taken = [] := by simpa [h.array] using harr
    have hleft : l = left := by rw [h.split, hnil.2, List.nil_append]
    have hstart : r.rxIndicateSeq ≠ 0xffff := by rw [h.start]; omega
    have hpTS : TimerInv pTS := hpTS.resolve_right (by simp [hnil])
    obtain ⟨h1, h2⟩ := keep_timer hpTS harr hstart (by rw [h.inBuf, h.pending])
      (by rw [h.pending, ← hleft]; exact hkeep)
    exact ⟨h1, iff_of_true h2 (Or.inl hnil)⟩
  · obtain ⟨h1, h2⟩ := indicate_timer harr
    have hne : ¬ (array = [] ∧ taken = []) := fun hn => harr (by simp [h.array, hn])
    refine ⟨h1, ?_⟩
    rw [h2, h.pending]
    simp [hne]

/-! ## Steps -/

/-- The stream before its first packet, or with its window. -/
def Inv (winSize : Nat) (pTS : RxTsRecord ρ) : Prop :=
  TimerInv pTS ∧ ((pTS.rxIndicateSeq = 0xffff ∧ pTS.rxPendingPktList = []) ∨
    ∃ base, Windowed winSize base pTS)

section Steps

variable {winSize base : Nat} {pTS : RxTsRecord ρ} {unused : List Nat} {prxb : ρ} {seqNum : Nat}

variable (unused prxb) in
theorem mem_bufferPacket (h : Windowed winSize base pTS) (hs : seqNum < 4096)
    (hx : base + winSize ≤ unwrap 4096 base seqNum) (hx' : unwrap 4096 base seqNum < base + 2048) :
    ∀ x, x ∈ withPacket pTS seqNum unused ↔
      x ∈ (bufferPacket unused prxb seqNum pTS.rxPendingPktList).rxPendingPktList.map (·.seqNum) := by
  -- The buffer holds the old packets and, past the window, the new one.
  intro x
  unfold withPacket bufferPacket
  match unused with
  | [] => simp
  | entry :: unused =>
    simp only [reduceCtorEq, if_false]
    have hclose : ∀ e ∈ pTS.rxPendingPktList,
        Close base (num base (⟨entry, seqNum, prxb⟩ : RxReorderEntry ρ)) e := fun e he => by
      obtain ⟨h1, h2, h3⟩ := h.range e he
      exact ⟨h1, by simp only [num] at *; omega, by simp only [num] at *; omega⟩
    have hsorted := addReorderEntry_sorted hs hclose h.sorted
    cases hadd : addReorderEntry ⟨entry, seqNum, prxb⟩ pTS.rxPendingPktList with
    | none =>
      rw [hadd] at hsorted
      obtain ⟨e, he, hen⟩ := hsorted
      have := (h.range e he).2.2
      simp only [num] at hen this
      omega
    | some pending =>
      simp only [((addReorderEntry_perm hadd).map (·.seqNum)).mem_iff, List.map_cons]

theorem bufferPacket_ne_nil {l : List (RxReorderEntry ρ)} (h : l ≠ []) :
    (bufferPacket unused prxb seqNum l).rxPendingPktList ≠ [] := by
  unfold bufferPacket
  match unused with
  | [] => exact h
  | entry :: unused =>
    cases hadd : addReorderEntry ⟨entry, seqNum, prxb⟩ l with
    | none => simpa [hadd] using h
    | some pending => simpa [hadd] using fun hp => by simpa [hp] using addReorderEntry_perm hadd

variable (unused prxb) in
theorem packet_armed (hW : 1 ≤ winSize) (hW' : winSize ≤ 128) (h : Windowed winSize base pTS)
    (ht : TimerInv pTS) (ha : Armed pTS) (hs : seqNum < 4096) :
    let r := rxReorderIndicatePacket winSize unused prxb pTS seqNum
    Inv winSize r.pTS ∧ (Armed r.pTS ↔ Clean winSize pTS (.packet prxb seqNum unused)) := by
  have hle := le_unwrap (n := 4096) base seqNum
  have hless : snLess seqNum pTS.rxIndicateSeq ↔ base + 2048 ≤ unwrap 4096 base seqNum :=
    snLess_start_iff h
  have hseq : seqNum = unwrap 4096 base seqNum % 4096 := by
    rw [unwrap_mod (by omega), Nat.mod_eq_of_lt hs]
  have heq : pTS.rxIndicateSeq = seqNum ↔ unwrap 4096 base seqNum = base := by
    have hlt := unwrap_lt (n := 4096) (by omega) base seqNum
    conv_lhs => rw [h.start, hseq]
    rw [mod_eq_iff_of_close (by omega) (by omega)]
    exact eq_comm
  rcases Nat.lt_or_ge (unwrap 4096 base seqNum) (base + 2048) with hx | hx
  · rcases hle.eq_or_lt with hxb | hxb
    · -- The packet is indicated.
      obtain ⟨base', taken, left, r, hr, hrel, hstep⟩ := packet_inOrder unused prxb h hW hW' hs hxb.symm
      obtain ⟨h1, h2⟩ := released_timer _ hrel (Or.inl ht) (by simp)
      simp only [hr]
      refine ⟨⟨h1, Or.inr ⟨base', hstep.windowed⟩⟩, ?_⟩
      have hclose : ∀ e ∈ pTS.rxPendingPktList, Close base (base + 1) e := fun e he => by
        have := h.range e he
        exact ⟨this.1, by omega, by omega⟩
      have hnext : (seqNum + 1) % 4096 = (base + 1) % 4096 := by
        have hsb : seqNum = base % 4096 := by rw [← h.start, heq.mpr hxb.symm]
        omega
      rw [h2, hrel.left_eq_nil_iff]
      simp only [Clean, heq.mpr hxb.symm, hnext, ne_eq, not_true, false_implies, implies_true,
        and_true, true_implies, noGap_iff hclose]
      simp
    · -- The packet is buffered.
      obtain ⟨base', taken, left, r, hr, hrel, hstep⟩ := packet_buffered unused prxb h hW hW' hs hxb hx
      obtain ⟨h1, h2⟩ := released_timer _ hrel (Or.inl ht)
        (fun hp => by simpa using bufferPacket_ne_nil hp)
      simp only [hr]
      refine ⟨⟨h1, Or.inr ⟨base', hstep.windowed⟩⟩, ?_⟩
      have hne : pTS.rxIndicateSeq ≠ seqNum := fun h' => by have := heq.mp h'; omega
      have hnless : ¬ snLess seqNum pTS.rxIndicateSeq := by rw [hless]; omega
      have hpast : snLess (winEnd pTS.rxIndicateSeq winSize) seqNum ↔
          base + winSize ≤ unwrap 4096 base seqNum := by
        have hpast := past_window_iff hW hW' hxb.le hx
        rwa [← hseq, ← h.start] at hpast
      have hclose := fun e he =>
        (bufferPacket_range unused prxb h hW hW' hs hxb hx e he).1
      rw [h2, hrel.taken_eq_nil_iff, hrel.left_eq_nil_iff]
      simp only [List.mem_reverse, true_and, Clean, hne, hnless, hpast, h.start_ne, ne_eq,
        not_false_eq_true, true_implies, false_implies, Bool.false_eq_true]
      rw [← allAhead_iff hclose, ← noGap_iff hclose]
      by_cases hshift : base + winSize ≤ unwrap 4096 base seqNum
      · have hstart : shiftedStart winSize seqNum =
            startFor winSize base (unwrap 4096 base seqNum) % 4096 := by
          rw [startFor, if_pos hshift, ← shiftedStart_eq hW hW' (by omega), ← hseq]
        have hmem := mem_bufferPacket unused prxb h hs hshift hx
        simp only [hshift, true_implies, hstart, allAhead_congr hmem, noGap_congr hmem]
      · simp only [hshift, false_implies, iff_true]
        left
        rw [allAhead_iff hclose]
        intro e he
        rw [startFor, if_neg hshift]
        rcases (bufferPacket_spec h hW' hs hx).2.2 e he with he | he
        · exact (h.range e he).2.1
        · rw [num, he.1]; exact hxb
  · -- The packet is dropped.
    simp only [packet_dropped h hx]
    refine ⟨⟨ht, Or.inr ⟨base, h⟩⟩, iff_of_true ha ?_⟩
    have hne : pTS.rxIndicateSeq ≠ seqNum := fun h' => by have := heq.mp h'; omega
    exact ⟨fun h' => absurd h' hne, fun h' => absurd (hless.mpr hx) h'⟩

theorem timeout_armed (hW : 1 ≤ winSize) (hW' : winSize ≤ 128) (h : Windowed winSize base pTS)
    (ht : TimerInv pTS) (ha : Armed pTS) :
    let r := rxPktPendingTimeout unused pTS
    Inv winSize r.pTS ∧ (Armed r.pTS ↔ Clean winSize pTS (.timeout unused)) := by
  by_cases hp : pTS.rxPendingPktList = []
  · have hoff : pTS.rxTimeoutIndicateSeq = 0xffff := not_ne_iff.mp fun hne => ht.pending hne hp
    simp only [timeout_idle (Or.inl hoff)]
    refine ⟨⟨⟨by simp [hoff], by simp [hoff]⟩, Or.inr ⟨base, h.start, h.range, h.sorted⟩⟩, ?_⟩
    simp [Armed, Clean, hp]
  · have hseq := (ha hp).2
    obtain ⟨base', taken, left, r, hr, hne, hrel, hstep⟩ := timeout_release unused h hW hW' hseq (List.reverse_ne_nil_iff.mpr hp)
    obtain ⟨h1, h2⟩ := released_timer { pTS with rxPktPendingTimer := false } hrel
      (Or.inr (by simpa using hne)) (by simp)
    simp only [hr]
    refine ⟨⟨h1, Or.inr ⟨base', hstep.windowed⟩⟩, ?_⟩
    have hhead : pTS.rxPendingPktList.reverse.head (List.reverse_ne_nil_iff.mpr hp) =
        pTS.rxPendingPktList.getLast hp := by rw [List.head_reverse]
    obtain ⟨hl1, hl2, hl3⟩ := h.range _ (List.getLast_mem hp)
    have hclose : ∀ e ∈ pTS.rxPendingPktList,
        Close base (num base (pTS.rxPendingPktList.getLast hp)) e := fun e he => by
      obtain ⟨h1, h2, h3⟩ := h.range e he
      exact ⟨h1, by omega, by omega⟩
    rw [h2, hrel.left_eq_nil_iff, hhead]
    simp only [hne, and_false, false_or, List.mem_reverse, Clean, List.getLast?_eq_some_getLast hp,
      Option.mem_some, forall_eq']
    rw [seqNum_eq _ hl1, noGap_iff hclose]

theorem step_armed (hW : 1 ≤ winSize) (hW' : winSize ≤ 128) (h : Inv winSize pTS) (ha : Armed pTS)
    {e : Event ρ} (he : e.Valid) :
    Inv winSize (step winSize pTS e) ∧ (Armed (step winSize pTS e) ↔ Clean winSize pTS e) := by
  obtain ⟨ht, ⟨hI, hp⟩ | ⟨base, h⟩⟩ := h
  · have hoff : pTS.rxTimeoutIndicateSeq = 0xffff := not_ne_iff.mp fun hne => ht.pending hne hp
    cases e with
    | packet prxb seqNum unused =>
      have hne : seqNum ≠ 0xffff := by simp only [Event.Valid] at he; omega
      have hpk := packet_armed unused prxb hW hW' (windowed_fresh he hp) ⟨ht.timer, ht.pending⟩ (by simp [Armed, hp]) he
      simp only [step, packet_fresh hI he]
      refine ⟨hpk.1, hpk.2.trans (iff_of_true ?_ ?_)⟩
      · simp [Clean, hp, NoGap]
      · simp [Clean, hI, hp, NoGap]
    | timeout unused =>
      simp only [step, timeout_idle (Or.inl hoff)]
      exact ⟨⟨⟨by simp [hoff], by simp [hoff]⟩, Or.inl ⟨hI, hp⟩⟩, by simp [Armed, Clean, hp]⟩
  · cases e with
    | packet prxb seqNum unused => exact packet_armed _ _ hW hW' h ht ha he
    | timeout unused => exact timeout_armed hW hW' h ht ha

end Steps

/-! ## Main result -/

/-- The timer covers the pending packets in every state of a run exactly when every step of the run
is clean. -/
theorem armed_iff_clean {winSize : Nat} (hW : 1 ≤ winSize) (hW' : winSize ≤ reorderWinSize)
    (es : List (Event ρ)) (hes : ∀ e ∈ es, e.Valid) :
    (∀ fs, fs <+: es → Armed (exec (step winSize) freshRxTs fs)) ↔
      Meets (step winSize) (Clean winSize) freshRxTs es := by
  refine (meets_iff_forall_prefixes (I := Inv winSize) (V := Event.Valid)
    (fun pTS e h ha he _ => (step_armed hW hW' h ha he).1)
    (fun pTS e h ha he => (step_armed hW hW' h ha he).2) ?_ ?_ hes).symm
  · exact ⟨⟨by simp [freshRxTs, resetRxTsEntry], by simp [freshRxTs, resetRxTsEntry]⟩,
      Or.inl ⟨rfl, rfl⟩⟩
  · exact fun hp => absurd rfl hp

/-- Packet 1 releases 2 and leaves 4 behind, with the timer off. -/
def stranded : List (Event Unit) :=
  [.packet () 0 [0, 1], .packet () 2 [0, 1], .packet () 4 [1], .packet () 1 []]

theorem armed_iff_clean_stranded :
    (∀ fs, fs <+: stranded → Armed (exec (step 64) freshRxTs fs)) ↔
      Meets (step 64) (Clean 64) freshRxTs stranded :=
  armed_iff_clean (by decide) (by decide) stranded (by simp [stranded, Event.Valid])

/-- The pending timer does not cover every run. -/
theorem not_always_armed :
    ¬ ∀ es : List (Event Unit), (∀ e ∈ es, e.Valid) → Armed (exec (step 64) freshRxTs es) := by
  intro h
  have := h stranded (by simp [stranded, Event.Valid])
  revert this
  decide

end Rtl8190.Reorder.Timer
