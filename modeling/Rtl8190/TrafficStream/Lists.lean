import Mathlib.Data.Fintype.Card
import Rtl8190.Lib.Run
import Rtl8190.TrafficStream.Code

/-!
# The traffic stream lists

Above the pointers, each direction is three lists of records. For the transmit records every
operation is an operation on these lists. For the receive records there are no such lists: the first
loop of `TSInitialize` adds the first receive record sixteen times, and its `prev` never points to
the unused head again, while the head keeps pointing to it.
-/

open Rtl8190.LinkedList Rtl8190.Run Function

namespace Rtl8190.TrafficStream

/-! ## What the lists should be -/

/-- The heap holds the lists `f`, and every record is on one of them. -/
structure WellFormed (s : TsLists) (f : TsHead → List Record) : Prop where
  rings : Rings s.heap f
  covers : ∀ r, ∃ k, r ∈ f k

def Carries (s : TsLists) (r : Record) (addr : Addr) (up : Nat) : Prop :=
  (s.info r).addr = addr ∧ (s.info r).ucTsid = up

/-- No two admitted records are the same stream. -/
def Distinct (s : TsLists) (f : TsHead → List Record) : Prop :=
  ∀ r ∈ f .admitList, ∀ r' ∈ f .admitList, Carries s r (s.info r').addr (s.info r').ucTsid → r = r'

/-- What a call of `GetTs` may do: fail and change nothing, or return an admitted record with the
address and the mapped TSID, while every other admitted record stays as it is. -/
def GetTsSound (iwMode : IwMode) (dir : TrSelect) (s : TsLists) (f : TsHead → List Record)
    (qosSupported : Bool) (addr : Addr) (tid : Nat) (bAddNewTs : Bool) : Prop :=
  getTs iwMode qosSupported s addr tid dir bAddNewTs = some (none, s) ∨
    ∃ r s' f' up, getTs iwMode qosSupported s addr tid dir bAddNewTs = some (some (.inr r), s') ∧
      mappedUp qosSupported tid = some up ∧ WellFormed s' f' ∧ r ∈ f' .admitList ∧ Carries s' r addr up ∧
      ∀ r' ∈ f .admitList, r' ∈ f' .admitList ∧ s'.info r' = s.info r'

/-- Everything that the lists of a direction should satisfy. -/
def Sound (iwMode : IwMode) (dir : TrSelect) (s : TsLists) : Prop :=
  ∃ f, WellFormed s f ∧ Distinct s f ∧
    ∀ qosSupported addr tid bAddNewTs, GetTsSound iwMode dir s f qosSupported addr tid bAddNewTs

/-! ## Search -/

section Search

variable {iwMode : IwMode} {s : TsLists} {addr : Addr} {up : Nat} {dir : TrSelect}

theorem matchesTs_iff {d : Direction} {n : Node} :
    matchesTs s addr up d n ↔ ∃ r, n = .inr r ∧ Carries s r addr up ∧ (s.info r).ucDirection = d := by
  cases n with
  | inl k => simp [matchesTs]
  | inr r => simp [matchesTs, Carries, and_assoc]

theorem searchLoop_spec {l : List Record} (hr : Ring s.heap (.inl .admitList) (l.map .inr))
    (hlen : l.length ≤ totalTsNum) (dirs : List Direction) :
    (∃ r ∈ l, searchLoop iwMode s addr up dir dirs = some (some (.inr r)) ∧ Carries s r addr up) ∨
      (searchLoop iwMode s addr up dir dirs = some none ∧
        ∀ d ∈ dirs, searchDir iwMode dir d → ∀ r ∈ l, Carries s r addr up →
          (s.info r).ucDirection ≠ d) := by
  -- The search ends on a well-formed list, and says truly what it found.
  induction dirs with
  | nil => exact Or.inr ⟨rfl, by simp⟩
  | cons d dirs ih =>
    rw [searchLoop]
    split_ifs with hd
    · rw [findEntry_ring hr (by simpa using hlen)]
      cases hf : (l.map (Sum.inr : Record → Node)).find? (matchesTs s addr up d) with
      | some n =>
        obtain ⟨r, rfl, hc, -⟩ := matchesTs_iff.mp (List.find?_some hf)
        obtain ⟨r', hr', e⟩ := List.mem_map.mp (List.mem_of_find?_eq_some hf)
        exact Or.inl ⟨r, Sum.inr_injective e ▸ hr', rfl, hc⟩
      | none =>
        refine ih.imp_right fun ⟨h1, h2⟩ => ⟨h1, fun d' hd' => ?_⟩
        rcases List.mem_cons.mp hd' with rfl | hd'
        · intro _ r hr hc hdir
          have := List.find?_eq_none.mp hf (.inr r) (List.mem_map_of_mem hr)
          exact this (matchesTs_iff.mpr ⟨r, rfl, hc, hdir⟩)
        · exact h2 d' hd'
    · refine ih.imp_right fun ⟨h1, h2⟩ => ⟨h1, fun d' hd' => ?_⟩
      rcases List.mem_cons.mp hd' with rfl | hd'
      · exact fun h => absurd h hd
      · exact h2 d' hd'

theorem searchDir_newDirection : searchDir iwMode dir (newDirection iwMode dir) := by
  cases iwMode <;> cases dir <;> decide

theorem mem_directions (d : Direction) : d ∈ [Direction.up, .down, .direct, .biDir] := by
  cases d <;> decide

end Search

/-! ## The transmit records -/

/-- The invariant. With a fixed mode, all admitted records have the direction that the search looks
for. -/
structure Good (iwMode : IwMode) (dir : TrSelect) (s : TsLists) (f : TsHead → List Record) :
    Prop extends WellFormed s f where
  direction : ∀ r ∈ f .admitList, (s.info r).ucDirection = newDirection iwMode dir
  distinct : Distinct s f

section Good

variable {iwMode : IwMode} {dir : TrSelect} {s : TsLists} {f : TsHead → List Record} {addr : Addr}
  {up : Nat}

theorem length_le (hr : Rings s.heap f) (k : TsHead) : (f k).length ≤ totalTsNum := by
  simpa using (hr.nodup k).length_le_card

theorem Good.search (h : Good iwMode dir s f) :
    (∃ r ∈ f .admitList, searchAdmitTrStream iwMode s addr up dir = some (some (.inr r)) ∧
        Carries s r addr up) ∨
      (searchAdmitTrStream iwMode s addr up dir = some none ∧
        ∀ r ∈ f .admitList, ¬ Carries s r addr up) := by
  refine (searchLoop_spec (h.rings.ring .admitList) (length_le h.rings .admitList) _).imp_right
    fun ⟨h1, h2⟩ => ⟨h1, fun r hr hc => ?_⟩
  exact h2 _ (mem_directions _) searchDir_newDirection r hr hc (h.direction r hr)

theorem WellFormed.move {k k' : TsHead} {r : Record} {info : Record → TsCommonInfo}
    (h : WellFormed s f) (hr : r ∈ f k) :
    WellFormed ⟨listAddTail (listDelInit s.heap (.inr r)) (.inr r) (.inl k'), info⟩
      (LinkedList.move f r k k') where
  rings := h.rings.move hr k'
  covers r' := by
    by_cases he : r' = r
    · exact ⟨k', (h.rings.mem_move hr k' k' r').mpr (Or.inl ⟨he, rfl⟩)⟩
    · obtain ⟨j, hj⟩ := h.covers r'
      exact ⟨j, (h.rings.mem_move hr k' j r').mpr (Or.inr ⟨he, hj⟩)⟩

theorem Good.addNewTs (h : Good iwMode dir s f) (hnew : ∀ r ∈ f .admitList, ¬ Carries s r addr up) :
    TrafficStream.addNewTs iwMode s addr up dir = some (none, s) ∨
      ∃ r s', TrafficStream.addNewTs iwMode s addr up dir = some (some (.inr r), s') ∧
        Good iwMode dir s' (LinkedList.move f r .unused .admitList) ∧ r ∈ f .unused ∧
        Carries s' r addr up ∧ ∀ r', r' ≠ r → s'.info r' = s.info r' := by
  -- A new stream takes the first unused record, when there is one.
  have hring := h.rings.ring .unused
  unfold TrafficStream.addNewTs
  cases hu : f .unused with
  | nil =>
    left
    rw [if_pos (hring.listEmpty_iff.mpr (by rw [hu]; rfl))]
  | cons r rest =>
    right
    have hmem : r ∈ f .unused := by rw [hu]; exact List.mem_cons_self
    have hne : ¬ listEmpty s.heap (.inl .unused) := by
      rw [hring.listEmpty_iff, hu]
      simp
    have hnext : s.heap.next (.inl .unused) = .inr r := by
      rw [hring.seg.next_eq]
      simp [hu]
    have hinfo : ∀ r', r' ≠ r →
        update s.info r ⟨addr, up, newDirection iwMode dir⟩ r' = s.info r' :=
      fun r' hr' => update_of_ne hr' ..
    rw [if_neg hne, hnext]
    refine ⟨r, _, rfl, ⟨h.toWellFormed.move hmem, fun r' hr' => ?_, fun r₁ h₁ r₂ h₂ => ?_⟩,
      List.mem_cons_self, ?_, hinfo⟩
    · rcases (h.rings.mem_move hmem .admitList .admitList r').mp hr' with ⟨rfl, -⟩ | ⟨hne, hr'⟩
      · simp
      · simp only [hinfo r' hne]
        exact h.direction r' hr'
    · rcases (h.rings.mem_move hmem .admitList .admitList r₁).mp h₁ with ⟨e₁, -⟩ | ⟨hne₁, hm₁⟩
      · rcases (h.rings.mem_move hmem .admitList .admitList r₂).mp h₂ with ⟨e₂, -⟩ | ⟨hne₂, hm₂⟩
        · exact fun _ => e₁.trans e₂.symm
        · simp only [Carries, hinfo r₂ hne₂, e₁, update_self]
          exact fun hc => absurd ⟨hc.1.symm, hc.2.symm⟩ (hnew r₂ hm₂)
      · rcases (h.rings.mem_move hmem .admitList .admitList r₂).mp h₂ with ⟨e₂, -⟩ | ⟨hne₂, hm₂⟩
        · simp only [Carries, hinfo r₁ hne₁, e₂, update_self]
          exact fun hc => absurd hc (hnew r₁ hm₁)
        · simp only [Carries, hinfo r₁ hne₁, hinfo r₂ hne₂]
          exact h.distinct r₁ hm₁ r₂ hm₂
    · simp [Carries]

theorem Good.getTs (h : Good iwMode dir s f) (qosSupported : Bool) (addr : Addr) (tid : Nat)
    (bAddNewTs : Bool) :
    TrafficStream.getTs iwMode qosSupported s addr tid dir bAddNewTs = some (none, s) ∨
      ∃ r s' f' up,
        TrafficStream.getTs iwMode qosSupported s addr tid dir bAddNewTs = some (some (.inr r), s') ∧
        mappedUp qosSupported tid = some up ∧ Good iwMode dir s' f' ∧ r ∈ f' .admitList ∧
        Carries s' r addr up ∧ ∀ r' ∈ f .admitList, r' ∈ f' .admitList ∧ s'.info r' = s.info r' := by
  -- `GetTs` fails, finds an admitted record, or admits one.
  unfold TrafficStream.getTs
  by_cases hm : Addr.isMulticast addr
  · exact Or.inl (if_pos hm)
  · rw [if_neg hm]
    cases hup : mappedUp qosSupported tid with
    | none => exact Or.inl rfl
    | some up =>
      rcases h.search with ⟨r, hr, hs, hc⟩ | ⟨hs, hnew⟩
      · right
        exact ⟨r, s, f, up, by simp only [hs], rfl, h, hr, hc, fun r' hr' => ⟨hr', rfl⟩⟩
      · simp only [hs]
        by_cases hadd : bAddNewTs = false
        · exact Or.inl (if_pos hadd)
        · rw [if_neg hadd]
          refine (h.addNewTs hnew).imp_right fun ⟨r, s', hs', hg, hr, hc, hinfo⟩ => ?_
          have hmem := fun r' => h.rings.mem_move hr .admitList .admitList r'
          refine ⟨r, s', _, up, hs', rfl, hg, (hmem r).mpr (Or.inl ⟨rfl, rfl⟩), hc, fun r' hr' => ?_⟩
          have hne : r' ≠ r := fun e =>
            absurd (h.rings.disjoint .unused .admitList r hr (e ▸ hr')) (by decide)
          exact ⟨(hmem r').mpr (Or.inr ⟨hne, hr'⟩), hinfo r' hne⟩

theorem getTs_search {qosSupported : Bool} {tid : Nat} {pTS : Option Node} {s' : TsLists}
    (h : TrafficStream.getTs iwMode qosSupported s addr tid dir false = some (pTS, s')) : s' = s := by
  unfold TrafficStream.getTs at h
  split at h
  · cases h; rfl
  split at h
  · cases h; rfl
  split at h
  · cases h
  · cases h; rfl
  · cases h; rfl

theorem Good.getTs_found (h : Good iwMode dir s f) {r : Record} (hr : r ∈ f .admitList)
    (hc : Carries s r addr up) {qosSupported : Bool} {tid : Nat} (hm : Addr.isMulticast addr = false)
    (hup : mappedUp qosSupported tid = some up) (bAddNewTs : Bool) :
    TrafficStream.getTs iwMode qosSupported s addr tid dir bAddNewTs = some (some (.inr r), s) := by
  have hsearch : searchAdmitTrStream iwMode s addr up dir = some (some (.inr r)) := by
    rcases h.search with ⟨r', hr', hs, hc'⟩ | ⟨_, hno⟩
    · obtain rfl : r' = r := h.distinct r' hr' r hr (by rw [hc.1, hc.2]; exact hc')
      exact hs
    · exact absurd hc (hno r hr)
  simp only [TrafficStream.getTs, hm, Bool.false_eq_true, if_false, hup, hsearch]

theorem Good.remove {k : TsHead} {r : Record} (h : Good iwMode dir s f) (hr : r ∈ f k) :
    Good iwMode dir (addUnused { s with heap := listDelInit s.heap (.inr r) } r)
      (LinkedList.move f r k .unused) where
  toWellFormed := h.toWellFormed.move hr
  direction r' hr' := by
    rcases (h.rings.mem_move hr .unused .admitList r').mp hr' with ⟨-, he⟩ | ⟨-, hr'⟩
    · cases he
    · exact h.direction r' hr'
  distinct r₁ h₁ r₂ h₂ := by
    have key : ∀ j, j ∈ LinkedList.move f r k .unused .admitList → j ∈ f .admitList := fun j hj => by
      rcases (h.rings.mem_move hr .unused .admitList j).mp hj with ⟨-, he⟩ | ⟨-, hj⟩
      · cases he
      · exact hj
    exact h.distinct r₁ (key r₁ h₁) r₂ (key r₂ h₂)

/-- The removal takes the record of the node. -/
def takesNode (takes : TsCommonInfo → Bool) (s : TsLists) : Node → Bool
  | .inr r => takes (s.info r)
  | .inl _ => false

/-- In the removal from `k` of the lists of `s₀`, `done` is what stays so far and `rest` what is not
reached. -/
def Removing (iwMode : IwMode) (dir : TrSelect) (k : TsHead) (s₀ s : TsLists) (done rest : List Node) : Prop :=
  ∃ f, Good iwMode dir s f ∧ (f k).map Sum.inr = done ++ rest ∧ s.info = s₀.info

theorem Removing.ring {k : TsHead} {s₀ : TsLists} {done rest : List Node}
    (h : Removing iwMode dir k s₀ s done rest) : Ring s.heap (.inl k) (done ++ rest) := by
  obtain ⟨f, hg, hl, -⟩ := h
  exact hl ▸ hg.rings.ring k

theorem Removing.removeEntry {k : TsHead} {s₀ : TsLists} {done rest : List Node} {x : Node}
    (h : Removing iwMode dir k s₀ s done (x :: rest)) (hk : k ≠ .unused) (takes : TsCommonInfo → Bool) :
    Removing iwMode dir k s₀ (TrafficStream.removeEntry takes s x)
      (if takesNode takes s₀ x then done else done ++ [x]) rest := by
  obtain ⟨f, hg, hl, hinfo⟩ := h
  obtain ⟨l₁, l₂, hl₁₂, hd, hx⟩ := List.map_eq_append_iff.mp hl
  obtain ⟨r, l₃, rfl, rfl, hrest⟩ := List.map_eq_cons_iff.mp hx
  have hr : r ∈ f k := by rw [hl₁₂]; simp
  have htakes : takes (s.info r) = takesNode takes s₀ (.inr r) := by rw [hinfo, takesNode]
  simp only [TrafficStream.removeEntry, htakes]
  cases takesNode takes s₀ (.inr r) with
  | true =>
    refine ⟨_, hg.remove hr, ?_, hinfo⟩
    have hr₁ : r ∉ l₁ := by
      have := hg.rings.nodup k
      rw [hl₁₂, List.nodup_append] at this
      exact fun hm => this.2.2 r hm r List.mem_cons_self rfl
    rw [LinkedList.move, update_of_ne hk, update_self, hl₁₂, List.erase_append_right _ hr₁,
      List.erase_cons_head, List.map_append, hd, hrest, if_pos rfl]
  | false => exact ⟨f, hg, by simp [hl], hinfo⟩

theorem Good.removeFrom {k : TsHead} (h : Good iwMode dir s f) (hk : k ≠ .unused)
    (takes : TsCommonInfo → Bool) :
    ∃ s' f', TrafficStream.removeFrom k takes s = some s' ∧ Good iwMode dir s' f' := by
  have hstart : Removing iwMode dir k s s [] ((f k).map Sum.inr) := ⟨f, h, rfl, rfl⟩
  obtain ⟨s', hs', f', hg, -⟩ := forEachSafe_ring (k := .inl k)
    (TrafficStream.removeEntry takes) (takesNode takes s)
    (fun _ _ _ hI => hI.ring) (fun _ _ _ _ hI => hI.removeEntry hk takes) hstart
    (by simpa using length_le h.rings k)
  refine ⟨s', f', ?_, hg⟩
  have hnext := (h.rings.ring k).seg.next_eq
  rw [TrafficStream.removeFrom, hnext]
  exact hs'

theorem Good.removeTs (h : Good iwMode dir s f) (takes : TsCommonInfo → Bool) :
    ∃ s' f', TrafficStream.removeTs takes s = some s' ∧ Good iwMode dir s' f' := by
  obtain ⟨s₁, f₁, hs₁, hg₁⟩ := h.removeFrom (k := .pending) (by decide) takes
  obtain ⟨s₂, f₂, hs₂, hg₂⟩ := hg₁.removeFrom (k := .admitList) (by decide) takes
  exact ⟨s₂, f₂, by rw [TrafficStream.removeTs, hs₁]; exact hs₂, hg₂⟩

theorem Good.apply (h : Good iwMode dir s f) (op : Op) :
    ∃ s' f', op.apply iwMode dir s = some s' ∧ Good iwMode dir s' f' := by
  cases op with
  | getTs qosSupported addr tid txRxSelect bAddNewTs =>
    simp only [Op.apply]
    split_ifs
    · rcases h.getTs qosSupported addr tid bAddNewTs with hs | ⟨r, s', f', up, hs, -, hg, -⟩
      · exact ⟨s, f, by rw [hs]; rfl, h⟩
      · exact ⟨s', f', by rw [hs]; rfl, hg⟩
    · exact ⟨s, f, rfl, h⟩
  | removePeerTs addr => exact h.removeTs _
  | removeAllTs => exact h.removeTs _

theorem Good.sound (h : Good iwMode dir s f) : Sound iwMode dir s := by
  refine ⟨f, h.toWellFormed, h.distinct, fun qosSupported addr tid bAddNewTs => ?_⟩
  refine (h.getTs qosSupported addr tid bAddNewTs).imp_right ?_
  rintro ⟨r, s', f', up, hs, hup, hg, hr⟩
  exact ⟨r, s', f', up, hs, hup, hg.toWellFormed, hr⟩

end Good

/-! ## Initialisation -/

theorem rings_initHeads (h : Heap Node) : Rings (initHeads h) (fun _ : TsHead => ([] : List Record)) where
  ring k := by
    have hframe : ∀ {h : Heap Node} {k' : TsHead}, k ≠ k' → Ring h (.inl k) [] →
        Ring (initListHead h (.inl k')) (.inl k) [] := fun hne hr =>
      hr.link_frame (by simpa using hne.symm) (by simpa using hne.symm)
    cases k with
    | admitList => exact hframe (by decide) (hframe (by decide) ring_initListHead)
    | pending => exact hframe (by decide) ring_initListHead
    | unused => exact ring_initListHead
  disjoint := by simp

/-- The first loop puts the transmit records on the unused list, one after the other. -/
theorem initLoop1_txDir (ieee : Device) {l : List Record} (cs : List Record) (hcs : (l ++ cs).Nodup)
    (h : Rings (ieee .txDir).heap (update (fun _ => []) TsHead.unused l)) :
    Rings (cs.foldl initLoop1 ieee .txDir).heap (update (fun _ => []) TsHead.unused (l ++ cs)) := by
  induction cs generalizing ieee l with
  | nil => simpa using h
  | cons c cs ih =>
    have hc : ∀ k', c ∉ update (fun _ => ([] : List Record)) TsHead.unused l k' := by
      intro k'
      by_cases hk : k' = .unused
      · subst hk
        rw [update_self]
        exact fun hm => (List.nodup_append.mp hcs).2.2 c hm c List.mem_cons_self rfl
      · rw [update_of_ne hk]
        exact List.not_mem_nil
    have hstep := (h.initListHead hc).listAddTail (k := .unused) hc
    rw [update_self, update_idem] at hstep
    have := ih (initLoop1 ieee c) (l := l ++ [c]) (by simpa using hcs) hstep
    simpa using this

theorem initLoop2_txDir (ieee : Device) (cs : List Record) :
    cs.foldl initLoop2 ieee .txDir = ieee .txDir := by
  induction cs generalizing ieee with
  | nil => rfl
  | cons c cs ih => exact ih _

theorem initTx_txDir (iwMode : IwMode) (ieee : Device) :
    ∃ f, Good iwMode .txDir ((List.finRange totalTsNum).foldl initLoop2 (initTx ieee) .txDir) f := by
  have hrings := rings_initHeads (ieee .txDir).heap
  refine ⟨update (fun _ => []) .unused (List.finRange totalTsNum), ⟨?_, fun r => ⟨.unused, ?_⟩⟩, ?_, ?_⟩
  · have := initLoop1_txDir
      (fun dir => { ieee dir with heap := initHeads (ieee dir).heap }) (l := [])
      (List.finRange totalTsNum) (by simpa using List.nodup_finRange totalTsNum)
      (by rwa [update_eq_self_iff.mpr rfl])
    rw [initTx, initLoop2_txDir]
    simpa using this
  · rw [update_self]
    exact List.mem_finRange r
  · simp
  · simp [Distinct]

/-! ## The receive records -/

/-- Record 0 is on neither of the other lists, as far as its own pointers go. -/
def Detached (h : Heap Node) : Prop :=
  (∃ q, h.prev (.inr 0) = .inr q) ∧ h.next (.inr 0) ≠ .inl .admitList ∧ h.next (.inr 0) ≠ .inl .pending

/-- The pointers of the receive lists while record 0 is in hand. -/
structure RxPre (h : Heap Node) : Prop where
  next_unused : h.next (.inl .unused) = .inr 0
  prev_unused : ∃ q, h.prev (.inl .unused) = .inr q
  pending : Ring h (.inl .pending) []
  admitList : Ring h (.inl .admitList) []

/-- The pointers of the receive lists. The unused head keeps pointing to record 0, and the `prev` of
record 0 never points back: it is another record, or the admitted list when record 0 is on it. -/
structure RxInv (h : Heap Node) : Prop where
  next_unused : h.next (.inl .unused) = .inr 0
  prev_unused : ∃ q, h.prev (.inl .unused) = .inr q
  pending : Ring h (.inl .pending) []
  admitList : Ring h (.inl .admitList) [.inr 0] ∨ Ring h (.inl .admitList) [] ∧ Detached h

section Receive

variable {h : Heap Node}

theorem RxInv.not_rings (hinv : RxInv h) (f : TsHead → List Record) : ¬ Rings h f := by
  -- No lists fit such pointers.
  intro hr
  have hseg := (hr.ring .unused).seg
  cases hu : f .unused with
  | nil =>
    rw [hu] at hseg
    have := hseg.1
    rw [hinv.next_unused] at this
    cases this
  | cons r l =>
    rw [hu] at hseg
    have hr0 : r = 0 := Sum.inr_injective (hseg.1.symm.trans hinv.next_unused)
    have hprev : h.prev (.inr 0) = .inl .unused := hr0 ▸ hseg.2.1
    rcases hinv.admitList with ha | ⟨-, ⟨q, hq⟩, -⟩
    · rw [ha.seg.2.1] at hprev
      cases hprev
    · rw [hq] at hprev
      cases hprev

theorem RxPre.link (hp : RxPre h) {a b : Node} (ha : ∀ k, a ≠ .inl k) (hb : b ≠ .inl .admitList)
    (hb' : b ≠ .inl .pending) (hu : b = .inl .unused → ∃ q, a = .inr q) :
    RxPre (LinkedList.link h a b) where
  next_unused := by rw [link_next_of_ne h (ha _).symm, hp.next_unused]
  prev_unused := by
    by_cases he : b = .inl .unused
    · obtain ⟨q, rfl⟩ := hu he
      exact ⟨q, by rw [he, link_prev_self]⟩
    · rw [link_prev_of_ne h (Ne.symm he)]
      exact hp.prev_unused
  pending := hp.pending.link_frame (by simpa using ha _) (by simpa using hb')
  admitList := hp.admitList.link_frame (by simpa using ha _) (by simpa using hb)

theorem RxPre.initListHead (hp : RxPre h) (c : Record) : RxPre (initListHead h (.inr c)) :=
  hp.link (by simp) (by simp) (by simp) (by simp)

theorem RxPre.addUnused (hp : RxPre h) (c : Record) :
    RxPre (listAddTail h (.inr c) (.inl .unused)) := by
  obtain ⟨q, hq⟩ := hp.prev_unused
  rw [listAddTail, listAdd, hq]
  exact (hp.link (by simp) (by simp) (by simp) (by simp)).link (by simp) (by simp) (by simp) (by simp)

theorem RxPre.addUnused_detached (hp : RxPre h) {c : Record} (hd : c = 0 ∨ Detached h) :
    Detached (listAddTail h (.inr c) (.inl .unused)) := by
  -- Record 0 is detached when it comes back, and stays so when others come.
  obtain ⟨q, hq⟩ := hp.prev_unused
  have hnext : ∀ k, k = TsHead.admitList ∨ k = TsHead.pending →
      (listAddTail h (.inr c) (.inl .unused)).next (.inr 0) ≠ .inl k := by
    intro k hk
    rw [listAddTail, listAdd, hq]
    by_cases hq0 : q = 0
    · rw [hq0, link_next_self]
      simp
    · rw [link_next_of_ne _ (by simpa using Ne.symm hq0)]
      by_cases hc : c = 0
      · rw [hc, link_next_self]
        rcases hk with rfl | rfl <;> simp
      · rw [link_next_of_ne _ (by simpa using Ne.symm hc)]
        obtain ⟨-, h1, h2⟩ := hd.resolve_left hc
        rcases hk with rfl | rfl
        · exact h1
        · exact h2
  refine ⟨?_, hnext _ (Or.inl rfl), hnext _ (Or.inr rfl)⟩
  rw [listAddTail, listAdd, hq]
  by_cases hc : c = 0
  · exact ⟨q, by rw [hc, link_prev_self]⟩
  · rw [link_prev_of_ne _ (by simpa using Ne.symm hc), link_prev_of_ne _ (by simp)]
    exact (hd.resolve_left hc).1

theorem RxPre.inv (hp : RxPre h) (hd : Detached h) : RxInv h :=
  ⟨hp.next_unused, hp.prev_unused, hp.pending, Or.inr ⟨hp.admitList, hd⟩⟩

theorem RxPre.addAdmit (hp : RxPre h) : RxInv (listAddTail h (.inr 0) (.inl .admitList)) where
  next_unused := by
    rw [listAddTail, listAdd, hp.admitList.seg.2, link_next_of_ne _ (by simp), link_next_of_ne _ (by simp),
      hp.next_unused]
  prev_unused := by
    rw [listAddTail, listAdd, link_prev_of_ne _ (by simp), link_prev_of_ne _ (by simp)]
    exact hp.prev_unused
  pending := by
    rw [listAddTail, listAdd, hp.admitList.seg.2]
    exact (hp.pending.link_frame (by simp) (by simp)).link_frame (by simp) (by simp)
  admitList := Or.inl (hp.admitList.listAddTail (by simp))

theorem RxInv.listDelInit (hinv : RxInv h) : RxPre (listDelInit h (.inr 0)) := by
  -- Record 0 is taken from wherever it is.
  rcases hinv.admitList with ha | ⟨ha, ⟨q, hq⟩, hn, hn'⟩
  · obtain ⟨-, hprev, hnext, -⟩ := ha.seg
    have ha' : Ring h (.inl .admitList) ([] ++ .inr 0 :: []) := ha
    refine ⟨?_, ?_, ?_, ha'.listDelInit⟩
    · rw [LinkedList.listDelInit, LinkedList.initListHead, hprev, link_next_of_ne _ (by simp),
        link_next_of_ne _ (by simp), hinv.next_unused]
    · rw [LinkedList.listDelInit, LinkedList.initListHead, hnext, link_prev_of_ne _ (by simp),
        link_prev_of_ne _ (by simp)]
      exact hinv.prev_unused
    · rw [LinkedList.listDelInit, LinkedList.initListHead, hprev, hnext]
      exact (hinv.pending.link_frame (by simp) (by simp)).link_frame (by simp) (by simp)
  · have hp : RxPre h := ⟨hinv.next_unused, hinv.prev_unused, hinv.pending, ha⟩
    rw [LinkedList.listDelInit, hq]
    exact (hp.link (by simp) hn hn' fun _ => ⟨q, rfl⟩).initListHead 0

end Receive

section Operations

variable {iwMode : IwMode} {dir : TrSelect} {s : TsLists}

theorem RxInv.getTs (h : RxInv s.heap) (qosSupported : Bool) (addr : Addr) (tid : Nat)
    (bAddNewTs : Bool) :
    ∃ r s', TrafficStream.getTs iwMode qosSupported s addr tid dir bAddNewTs = some (r, s') ∧
      RxInv s'.heap := by
  -- Every stream that `GetTs` admits takes record 0.
  unfold TrafficStream.getTs
  by_cases hm : Addr.isMulticast addr
  · exact ⟨none, s, if_pos hm, h⟩
  · rw [if_neg hm]
    cases mappedUp qosSupported tid with
    | none => exact ⟨none, s, rfl, h⟩
    | some up =>
      have hsearch : ∃ o, searchAdmitTrStream iwMode s addr up dir = some o := by
        rcases h.admitList with ha | ⟨ha, -⟩
        · rcases searchLoop_spec (l := [0])
            ha (by decide) [.up, .down, .direct, .biDir] with ⟨r, -, hs, -⟩ | ⟨hs, -⟩
          · exact ⟨_, hs⟩
          · exact ⟨_, hs⟩
        · rcases searchLoop_spec (l := [])
            ha (by decide) [.up, .down, .direct, .biDir] with ⟨r, -, hs, -⟩ | ⟨hs, -⟩
          · exact ⟨_, hs⟩
          · exact ⟨_, hs⟩
      obtain ⟨o, ho⟩ := hsearch
      simp only [ho]
      cases o with
      | some pTS => exact ⟨some pTS, s, rfl, h⟩
      | none =>
        by_cases hadd : bAddNewTs = false
        · exact ⟨none, s, if_pos hadd, h⟩
        · have hne : ¬ listEmpty s.heap (.inl .unused) := by
            rw [listEmpty, h.next_unused]
            decide
          simp only [if_neg hadd, addNewTs, if_neg hne, h.next_unused]
          exact ⟨_, _, rfl, h.listDelInit.addAdmit⟩

theorem removeFrom_nil {k : TsHead} (hr : Ring s.heap (.inl k) []) (takes : TsCommonInfo → Bool) :
    removeFrom k takes s = some s := by
  rw [removeFrom, hr.seg.1]
  unfold forEachSafe
  rw [if_pos rfl]

theorem RxInv.removeAdmit (h : RxInv s.heap) (takes : TsCommonInfo → Bool) :
    ∃ s', removeFrom .admitList takes s = some s' ∧ RxInv s'.heap := by
  rcases h.admitList with ha | ⟨ha, -⟩
  · obtain ⟨hnext, -, hnext', -⟩ := ha.seg
    refine ⟨removeEntry takes s (.inr 0), ?_, ?_⟩
    · simp only [removeFrom, hnext, hnext']
      rw [forEachSafe, if_neg (by decide)]
      simp only
      unfold forEachSafe
      rw [if_pos rfl]
    · rw [removeEntry]
      split_ifs
      · exact (h.listDelInit.addUnused 0).inv (h.listDelInit.addUnused_detached (Or.inl rfl))
      · exact h
  · exact ⟨s, removeFrom_nil ha takes, h⟩

theorem RxInv.removeTs (h : RxInv s.heap) (takes : TsCommonInfo → Bool) :
    ∃ s', TrafficStream.removeTs takes s = some s' ∧ RxInv s'.heap := by
  rw [TrafficStream.removeTs, removeFrom_nil h.pending takes]
  exact h.removeAdmit takes

theorem RxInv.apply (h : RxInv s.heap) (op : Op) :
    ∃ s', op.apply iwMode dir s = some s' ∧ RxInv s'.heap := by
  cases op with
  | getTs qosSupported addr tid txRxSelect bAddNewTs =>
    simp only [Op.apply]
    split_ifs
    · obtain ⟨r, s', hs, hinv⟩ := h.getTs qosSupported addr tid bAddNewTs
      exact ⟨s', by rw [hs]; rfl, hinv⟩
    · exact ⟨s, rfl, h⟩
  | removePeerTs addr => exact h.removeTs _
  | removeAllTs => exact h.removeTs _

theorem initLoop1_rxDir {ieee : Device} (h : RxPre (ieee .rxDir).heap) (cs : List Record) :
    RxPre (cs.foldl initLoop1 ieee .rxDir).heap := by
  induction cs generalizing ieee with
  | nil => exact h
  | cons c cs ih => exact ih (h.addUnused 0)

theorem initLoop2_rxDir {ieee : Device} (h : RxInv (ieee .rxDir).heap)
    (ha : Ring (ieee .rxDir).heap (.inl .admitList) []) (cs : List Record) :
    RxInv (cs.foldl initLoop2 ieee .rxDir).heap := by
  induction cs generalizing ieee with
  | nil => exact h
  | cons c cs ih =>
    have hp : RxPre (ieee .rxDir).heap := ⟨h.next_unused, h.prev_unused, h.pending, ha⟩
    have hd : Detached (ieee .rxDir).heap := by
      rcases h.admitList with hr | hr
      · exact absurd (hr.next_eq_iff.mp ha.seg.1) (by simp)
      · exact hr.2
    have hinit := hp.initListHead c
    have hstep : RxPre (initLoop2 ieee c .rxDir).heap := hinit.addUnused c
    refine ih (hstep.inv (hinit.addUnused_detached ?_)) hstep.admitList
    by_cases hc : c = 0
    · exact Or.inl hc
    · right
      have hne : (.inr 0 : Node) ≠ .inr c := by simpa using Ne.symm hc
      rw [LinkedList.initListHead, Detached, link_prev_of_ne _ hne, link_next_of_ne _ hne]
      exact hd

end Operations

theorem finRange_totalTsNum :
    List.finRange totalTsNum = 0 :: (List.finRange 15).map Fin.succ := List.finRange_succ

/-- The first addition links record 0 and the head both ways; the second one spoils it. -/
theorem initLoop1_rxPre {ieee : Device}
    (h : Rings (ieee .rxDir).heap (fun _ : TsHead => ([] : List Record))) :
    RxPre ((List.finRange totalTsNum).foldl initLoop1 ieee .rxDir).heap := by
  rw [finRange_totalTsNum, List.foldl_cons]
  refine initLoop1_rxDir ?_ _
  have hprev := (h.ring .unused).seg.2
  rw [initLoop1, addUnused, listAddTail, listAdd, hprev]
  refine ⟨link_next_self .., ⟨0, ?_⟩, ?_, ?_⟩
  · rw [link_prev_of_ne _ (by simp), link_prev_self]
  · exact ((h.ring .pending).link_frame (by simp) (by simp)).link_frame (by simp) (by simp)
  · exact ((h.ring .admitList).link_frame (by simp) (by simp)).link_frame (by simp) (by simp)

theorem initLoop2_rxInv {ieee : Device} (h : RxPre (ieee .rxDir).heap) :
    RxInv ((List.finRange totalTsNum).foldl initLoop2 ieee .rxDir).heap := by
  rw [finRange_totalTsNum, List.foldl_cons]
  have hinit := h.initListHead 0
  have hadd := hinit.addUnused 0
  exact initLoop2_rxDir
    (hadd.inv (hinit.addUnused_detached (Or.inl rfl))) hadd.admitList _

theorem initTx_rxDir (ieee : Device) :
    RxInv ((List.finRange totalTsNum).foldl initLoop2 (initTx ieee) .rxDir).heap := by
  rw [initTx]
  exact initLoop2_rxInv (initLoop1_rxPre (rings_initHeads (ieee .rxDir).heap))

theorem step_some {iwMode : IwMode} {ieee : Device} {op : Op} {tx rx : TsLists}
    (htx : op.apply iwMode .txDir (ieee .txDir) = some tx)
    (hrx : op.apply iwMode .rxDir (ieee .rxDir) = some rx) :
    ∃ ieee', step iwMode (some ieee) op = some ieee' ∧ ieee' .txDir = tx ∧ ieee' .rxDir = rx := by
  simp only [step, Option.bind_eq_bind, Option.bind_some, htx, hrx]
  exact ⟨_, rfl, rfl, rfl⟩

/-- The second loop does not get through its first turn: the timer has put the address of its function
where `list_add_tail` looks for the last record. -/
theorem initLoop2From415_eq_none (s : Heap Ptr × (Record → TsCommonInfo)) (count : Record) :
    initLoop2From415 s count = none := by
  have hprev : (initListHead (timerSetupBehind s.1) (.node (.inr count))).prev (.node (.inl .unused)) =
      .wild := by
    rw [LinkedList.initListHead, link_prev_of_ne _ (by simp)]
    simp [timerSetupBehind]
  simp only [initLoop2From415, addUnusedPtr, hprev, Option.bind_eq_bind, Option.bind_none]

theorem tsInitialize_from415 (ieee : Device) : tsInitialize .from415 ieee = none := by
  simp only [tsInitialize, finRange_totalTsNum, List.foldlM_cons, initLoop2From415_eq_none,
    Option.bind_eq_bind, Option.bind_none]

theorem exec_none (iwMode : IwMode) (ops : List Op) : exec (step iwMode) none ops = none := by
  induction ops with
  | nil => rfl
  | cons op ops ih => exact ih

theorem exec_invariants (iwMode : IwMode) (ieee : Device) (ops : List Op) :
    ∃ ieee', exec (step iwMode) (tsInitialize .before415 ieee) ops = some ieee' ∧
      (∃ f, Good iwMode .txDir (ieee' .txDir) f) ∧ RxInv (ieee' .rxDir).heap := by
  let I : Option Device → Prop := fun o =>
    ∃ ieee', o = some ieee' ∧ (∃ f, Good iwMode .txDir (ieee' .txDir) f) ∧ RxInv (ieee' .rxDir).heap
  have hstep : ∀ o op, I o → True → I (step iwMode o op) := by
    rintro o op ⟨ieee', rfl, ⟨f, hg⟩, hrx⟩ -
    obtain ⟨tx, f', htx, hg'⟩ := hg.apply op
    obtain ⟨rx, hrx', hinv⟩ := hrx.apply op
    obtain ⟨ieee'', hstep, rfl, rfl⟩ := step_some htx hrx'
    exact ⟨ieee'', hstep, ⟨f', hg'⟩, hinv⟩
  have hinit : I (tsInitialize .before415 ieee) := ⟨_, rfl, initTx_txDir iwMode ieee, initTx_rxDir ieee⟩
  exact exec_inv hstep hinit (meets_of_forall fun _ _ => trivial)

/-! ## Main result -/

/-- Before 4.15, after any run every call has returned, the transmit lists are sound, and the receive
lists are not. From 4.15 on `TSInitialize` itself does not return. -/
theorem txSound_not_rxSound (iwMode : IwMode) (ieee : Device) (ops : List Op) :
    (∃ ieee', exec (step iwMode) (tsInitialize .before415 ieee) ops = some ieee' ∧
      Sound iwMode .txDir (ieee' .txDir) ∧ ¬ Sound iwMode .rxDir (ieee' .rxDir)) ∧
    exec (step iwMode) (tsInitialize .from415 ieee) ops = none := by
  constructor
  · obtain ⟨ieee', ho, ⟨f, hg⟩, hrx⟩ := exec_invariants iwMode ieee ops
    exact ⟨ieee', ho, hg.sound, fun ⟨f, hw, _⟩ => hrx.not_rings f hw.rings⟩
  · rw [tsInitialize_from415, exec_none]

/-- Two peers send one frame each. The second stream takes the record of the first one, which is
then not found any more. -/
theorem peers_share_record :
    ∃ ieee s₁ s₂,
      tsInitialize .before415 (fun _ => ⟨⟨id, id⟩, fun _ => resetTsCommonInfo⟩) = some ieee ∧
      getTs .infra true (ieee .rxDir) (fun _ => 2) 0 .rxDir true = some (some (.inr 0), s₁) ∧
      getTs .infra true s₁ (fun _ => 4) 0 .rxDir true = some (some (.inr 0), s₂) ∧
      getTs .infra true s₂ (fun _ => 2) 0 .rxDir false = some (none, s₂) := by
  refine ⟨_, _, _, rfl, rfl, rfl, ?_⟩
  rfl

end Rtl8190.TrafficStream
