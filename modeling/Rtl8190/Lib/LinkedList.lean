import Mathlib.Data.List.Nodup
import Mathlib.Logic.Function.Basic

/-!
# Circular doubly linked lists

The lists of `linux/list.h`. A heap gives every node its two pointers, and every operation is a few
links. `Ring` says what a well-formed list is; `Rings` says it of several lists that share the
records.
-/

open Function

namespace Rtl8190.LinkedList

variable {ν : Type*} [DecidableEq ν]

structure Heap (ν : Type*) where
  next : ν → ν
  prev : ν → ν

def link (h : Heap ν) (a b : ν) : Heap ν := ⟨update h.next a b, update h.prev b a⟩

def initListHead (h : Heap ν) (x : ν) : Heap ν := link h x x

def listAdd (h : Heap ν) (new prev next : ν) : Heap ν := link (link h new next) prev new

def listAddTail (h : Heap ν) (new head : ν) : Heap ν := listAdd h new (h.prev head) head

/-- `list_del`: what it does to the neighbours. The pointers of the entry itself are poisoned, so that
nobody may read them. -/
def listDel (h : Heap ν) (x : ν) : Heap ν := link h (h.prev x) (h.next x)

def listDelInit (h : Heap ν) (x : ν) : Heap ν := initListHead (link h (h.prev x) (h.next x)) x

def listEmpty (h : Heap ν) (head : ν) : Bool := h.next head = head

/-- The search loop of `list_for_each_entry`: the first entry that satisfies `p`, or none; no result
when the walk does not come back to the head within `fuel` entries. -/
def findEntry (h : Heap ν) (head : ν) (p : ν → Bool) : Nat → ν → Option (Option ν)
  | fuel, pos =>
    if pos = head then some none
    else if p pos then some (some pos)
    else match fuel with
      | 0 => none
      | fuel + 1 => findEntry h head p fuel (h.next pos)

/-- `list_for_each_entry_safe`: the successor `n` is read before the body runs on `pos`. -/
def forEachSafe {σ : Type*} (heap : σ → Heap ν) (head : ν) (body : σ → ν → σ) :
    Nat → σ → ν → ν → Option σ
  | fuel, s, pos, n =>
    if pos = head then some s
    else match fuel with
      | 0 => none
      | fuel + 1 =>
        let s := body s pos
        forEachSafe heap head body fuel s n ((heap s).next n)

@[simp] theorem link_next_self (h : Heap ν) (a b : ν) : (link h a b).next a = b := update_self ..

@[simp] theorem link_prev_self (h : Heap ν) (a b : ν) : (link h a b).prev b = a := update_self ..

theorem link_next_of_ne (h : Heap ν) {a b x : ν} (hx : x ≠ a) : (link h a b).next x = h.next x :=
  update_of_ne hx ..

theorem link_prev_of_ne (h : Heap ν) {a b x : ν} (hx : x ≠ b) : (link h a b).prev x = h.prev x :=
  update_of_ne hx ..

theorem link_comm (h : Heap ν) {a b c d : ν} (hac : a ≠ c) (hbd : b ≠ d) :
    link (link h a b) c d = link (link h c d) a b := by
  simp only [link, update_comm hac, update_comm hbd]

/-- An addition overwrites the pointers of the new entry, so that a deletion may leave them as they
are. -/
theorem listAddTail_listDelInit (h : Heap ν) {x head : ν} (hx : x ≠ head) :
    listAddTail (listDelInit h x) x head = listAddTail (listDel h x) x head := by
  have hprev : (listDelInit h x).prev head = (listDel h x).prev head := link_prev_of_ne _ hx.symm
  simp only [listAddTail, hprev]
  simp only [listDelInit, initListHead, listDel, listAdd, link, update_idem, update_comm hx]

/-! ## Segments -/

/-- From `a` through `l` to `b`, linked both ways. -/
def Seg (h : Heap ν) : ν → List ν → ν → Prop
  | a, [], b => h.next a = b ∧ h.prev b = a
  | a, x :: l, b => h.next a = x ∧ h.prev x = a ∧ Seg h x l b

variable {h : Heap ν} {a b x : ν} {l l' : List ν}

omit [DecidableEq ν] in
theorem seg_append : Seg h a (l ++ x :: l') b ↔ Seg h a l x ∧ Seg h x l' b := by
  induction l generalizing a with
  | nil => simp [Seg, and_assoc]
  | cons y l ih => simp [Seg, ih, and_assoc]

omit [DecidableEq ν] in
theorem Seg.prev_mem (hs : Seg h a l b) : h.prev b ∈ a :: l := by
  induction l generalizing a with
  | nil => exact List.mem_singleton.mpr hs.2
  | cons y l ih => exact List.mem_cons_of_mem a (ih hs.2.2)

omit [DecidableEq ν] in
theorem Seg.next_eq (hs : Seg h a l b) : h.next a = (l ++ [b]).head (by simp) := by
  cases l with
  | nil => exact hs.1
  | cons y l => exact hs.1

theorem Seg.link_frame (hs : Seg h a l b) {c d : ν} (hc : c ∉ a :: l) (hd : d ∉ l ++ [b]) :
    Seg (link h c d) a l b := by
  induction l generalizing a with
  | nil =>
    have hac : a ≠ c := fun e => hc (by simp [e])
    have hbd : b ≠ d := fun e => hd (by simp [e])
    exact ⟨by rw [link_next_of_ne h hac, hs.1], by rw [link_prev_of_ne h hbd, hs.2]⟩
  | cons y l ih =>
    have hac : a ≠ c := fun e => hc (by simp [e])
    have hyd : y ≠ d := fun e => hd (by simp [e])
    exact ⟨by rw [link_next_of_ne h hac, hs.1], by rw [link_prev_of_ne h hyd, hs.2.1],
      ih hs.2.2 (fun hm => hc (List.mem_cons_of_mem a hm)) (fun hm => hd (List.mem_cons_of_mem y hm))⟩

theorem Seg.relink (hs : Seg h a l b) (hnd : (a :: l).Nodup) {c : ν} (hc : c ∉ l) :
    Seg (link h (h.prev b) c) a l c := by
  induction l generalizing a with
  | nil =>
    rw [hs.2]
    exact ⟨link_next_self .., link_prev_self ..⟩
  | cons y l ih =>
    obtain ⟨ha, hnd'⟩ := List.nodup_cons.mp hnd
    have hpa : a ≠ h.prev b := fun e => ha (e ▸ hs.2.2.prev_mem)
    have hyc : y ≠ c := fun e => hc (by simp [e])
    exact ⟨by rw [link_next_of_ne h hpa, hs.1], by rw [link_prev_of_ne h hyc, hs.2.1],
      ih hs.2.2 hnd' fun hm => hc (List.mem_cons_of_mem y hm)⟩

/-! ## Rings -/

/-- The list with the head `k` is well formed and holds `l`. -/
structure Ring (h : Heap ν) (k : ν) (l : List ν) : Prop where
  seg : Seg h k l k
  nodup : (k :: l).Nodup

variable {k : ν}

omit [DecidableEq ν] in
theorem Ring.next_eq_iff (hr : Ring h k l) : h.next k = k ↔ l = [] := by
  cases l with
  | nil => simp [hr.seg.1]
  | cons y l =>
    have hyk : y ≠ k := fun e => (List.nodup_cons.mp hr.nodup).1 (by simp [e])
    simp [hr.seg.1, hyk]

theorem Ring.listEmpty_iff (hr : Ring h k l) : listEmpty h k ↔ l = [] := by
  rw [listEmpty, decide_eq_true_iff, hr.next_eq_iff]

theorem ring_initListHead : Ring (initListHead h k) k [] :=
  ⟨⟨link_next_self .., link_prev_self ..⟩, List.nodup_singleton k⟩

theorem Ring.link_frame (hr : Ring h k l) {c d : ν} (hc : c ∉ k :: l) (hd : d ∉ k :: l) :
    Ring (link h c d) k l :=
  ⟨hr.seg.link_frame hc fun hm => hd (by simpa [or_comm] using hm), hr.nodup⟩

omit [DecidableEq ν] in
theorem Ring.prev_mem (hr : Ring h k l) : h.prev k ∈ k :: l := hr.seg.prev_mem

theorem Ring.listAddTail (hr : Ring h k l) (hx : x ∉ k :: l) :
    Ring (listAddTail h x k) k (l ++ [x]) := by
  have hkl := List.nodup_cons.mp hr.nodup
  have hxk : x ≠ k := fun e => hx (by simp [e])
  have hxl : x ∉ l := fun hm => hx (List.mem_cons_of_mem k hm)
  have hxp : x ≠ h.prev k := fun e => hx (e ▸ hr.prev_mem)
  constructor
  · rw [LinkedList.listAddTail, listAdd, link_comm h hxp hxk.symm, seg_append]
    have hs : Seg (link h (h.prev k) x) k l x := hr.seg.relink hr.nodup hxl
    exact ⟨hs.link_frame hx (by simp [hkl.1, hxk.symm]), link_next_self .., link_prev_self ..⟩
  · rw [← List.cons_append, List.nodup_append_comm]
    exact List.nodup_cons.mpr ⟨hx, hr.nodup⟩

omit [DecidableEq ν] in
theorem Ring.neighbours_mem (hr : Ring h k l) (hx : x ∈ l) : h.prev x ∈ k :: l ∧ h.next x ∈ k :: l := by
  obtain ⟨l₁, l₂, rfl⟩ := List.append_of_mem hx
  obtain ⟨hs₁, hs₂⟩ := seg_append.mp hr.seg
  refine ⟨?_, ?_⟩
  · have := hs₁.prev_mem
    simp only [List.mem_cons, List.mem_append] at this ⊢
    tauto
  · have := List.head_mem (l := l₂ ++ [k]) (by simp)
    rw [← hs₂.next_eq] at this
    simp only [List.mem_cons, List.mem_append, List.not_mem_nil, or_false] at this ⊢
    tauto

theorem Ring.listDelInit {l₁ l₂ : List ν} (hr : Ring h k (l₁ ++ x :: l₂)) :
    Ring (listDelInit h x) k (l₁ ++ l₂) := by
  obtain ⟨hs₁, hs₂⟩ := seg_append.mp hr.seg
  have hnd : (k :: (l₁ ++ l₂)).Nodup :=
    hr.nodup.sublist (List.Sublist.cons_cons k ((List.Sublist.refl l₁).append (List.sublist_cons_self x l₂)))
  have hx : x ∉ k :: (l₁ ++ l₂) := by
    have h1 := hr.nodup
    rw [← List.cons_append] at h1
    have h2 := List.nodup_middle.mp h1
    simpa using (List.nodup_cons.mp h2).1
  refine Ring.link_frame ⟨?_, hnd⟩ hx hx
  obtain ⟨hk, hnd'⟩ := List.nodup_cons.mp hnd
  have hnd₁ : (k :: l₁).Nodup := hnd.sublist (List.Sublist.cons_cons k (List.sublist_append_left l₁ l₂))
  have hdisj : ∀ y ∈ l₁, y ∉ l₂ := fun y h1 h2 => (List.nodup_append.mp hnd').2.2 y h1 y h2 rfl
  cases l₂ with
  | nil =>
    rw [hs₂.1, List.append_nil]
    exact hs₁.relink hnd₁ fun hm => hk (by simp [hm])
  | cons n l₃ =>
    rw [hs₂.1, seg_append]
    have hp : h.prev x ∉ n :: l₃ := by
      intro hm
      rcases List.mem_cons.mp hs₁.prev_mem with e | h1
      · exact hk (by rw [← e]; exact List.mem_append_right _ hm)
      · exact hdisj _ h1 hm
    have hn : n ∉ l₃ ++ [k] := by
      have h3 := (List.nodup_cons.mp (List.nodup_append.mp hnd').2.1).1
      have h4 : n ≠ k := fun e => hk (by simp [e])
      simp [h3, h4]
    exact ⟨hs₁.relink hnd₁ fun hm => hdisj n hm List.mem_cons_self, hs₂.2.2.link_frame hp hn⟩

theorem findEntry_seg {p : ν → Bool} {fuel : Nat} (hs : Seg h a l k) (hk : k ∉ l)
    (hfuel : l.length ≤ fuel) : findEntry h k p fuel (h.next a) = some (l.find? p) := by
  -- What a search over a well-formed list finds.
  induction l generalizing a fuel with
  | nil => rw [hs.1]; unfold findEntry; simp
  | cons y l ih =>
    rw [List.mem_cons, not_or] at hk
    obtain ⟨hky, hkl⟩ := hk
    rw [hs.1]
    unfold findEntry
    rw [if_neg (Ne.symm hky), List.find?_cons]
    cases hp : p y with
    | true => simp
    | false =>
      obtain ⟨fuel, rfl⟩ : ∃ n, fuel = n + 1 := ⟨fuel - 1, by simp at hfuel; omega⟩
      simp only [Bool.false_eq_true, if_false]
      exact ih hs.2.2 hkl (by simpa using hfuel)

theorem findEntry_ring {p : ν → Bool} {fuel : Nat} (hr : Ring h k l) (hfuel : l.length ≤ fuel) :
    findEntry h k p fuel (h.next k) = some (l.find? p) :=
  findEntry_seg hr.seg (List.nodup_cons.mp hr.nodup).1 hfuel

omit [DecidableEq ν] in
theorem Ring.next_mid {l₁ l₂ : List ν} (hr : Ring h k (l₁ ++ x :: l₂)) :
    h.next x = (l₂ ++ [k]).head (by simp) :=
  (seg_append.mp hr.seg).2.next_eq

/-- The rule for a loop whose body keeps an entry or takes it off the list: `done` is what it kept
so far and `rest` is what it has not reached. -/
theorem forEachSafe_ring {σ : Type*} {heap : σ → Heap ν} (body : σ → ν → σ) (takes : ν → Bool)
    {I : σ → List ν → List ν → Prop} (hring : ∀ s done rest, I s done rest → Ring (heap s) k (done ++ rest))
    (hbody : ∀ s done x rest, I s done (x :: rest) →
      I (body s x) (if takes x then done else done ++ [x]) rest)
    {fuel : Nat} {s : σ} {done rest : List ν} (hI : I s done rest) (hfuel : rest.length ≤ fuel) :
    let pos := (rest ++ [k]).head (by simp)
    ∃ s', forEachSafe heap k body fuel s pos ((heap s).next pos) = some s' ∧
      I s' (done ++ rest.filter (!takes ·)) [] := by
  induction rest generalizing s done fuel with
  | nil =>
    refine ⟨s, ?_, by simpa using hI⟩
    unfold forEachSafe
    simp
  | cons x rest ih =>
    have hr := hring _ _ _ hI
    have hxk : x ≠ k := fun e => (List.nodup_cons.mp hr.nodup).1 (by simp [e])
    obtain ⟨fuel, rfl⟩ : ∃ n, fuel = n + 1 := ⟨fuel - 1, by simp at hfuel; omega⟩
    obtain ⟨s', hs', hI'⟩ := ih (hbody _ _ _ _ hI) (by simpa using hfuel)
    refine ⟨s', ?_, ?_⟩
    · simp only [List.cons_append, List.head_cons]
      rw [forEachSafe, if_neg hxk]
      simp only [hr.next_mid]
      exact hs'
    · cases hx : takes x <;> simpa [hx] using hI'

/-! ## Several lists that share records -/

section Rings

variable {κ α : Type*} [DecidableEq κ] [DecidableEq α]

/-- The records from a node on, up to the next head, or the first `fuel` ones. -/
def entries (h : Heap (κ ⊕ α)) : Nat → κ ⊕ α → List α
  | _, .inl _ => []
  | 0, .inr _ => []
  | fuel + 1, .inr x => x :: entries h fuel (h.next (.inr x))

omit [DecidableEq κ] [DecidableEq α] in
theorem entries_seg {h : Heap (κ ⊕ α)} {a : κ ⊕ α} {k : κ} {l : List α} {fuel : Nat}
    (hs : Seg h a (l.map .inr) (.inl k)) (hfuel : l.length ≤ fuel) :
    entries h fuel (h.next a) = l := by
  induction l generalizing a fuel with
  | nil =>
    rw [show h.next a = .inl k from hs.1]
    cases fuel <;> rfl
  | cons x l ih =>
    obtain ⟨fuel, rfl⟩ : ∃ n, fuel = n + 1 := ⟨fuel - 1, by simp at hfuel; omega⟩
    rw [show h.next a = .inr x from hs.1, entries, ih hs.2.2 (by simpa using hfuel)]

/-- The lists with the heads `κ` are well formed, and no record is on two of them. -/
structure Rings (h : Heap (κ ⊕ α)) (f : κ → List α) : Prop where
  ring : ∀ k, Ring h (.inl k) ((f k).map .inr)
  disjoint : ∀ k k' x, x ∈ f k → x ∈ f k' → k = k'

variable {h : Heap (κ ⊕ α)} {f : κ → List α} {k : κ} {x : α}

omit [DecidableEq κ] [DecidableEq α] in
theorem Rings.nodup (hr : Rings h f) (k : κ) : (f k).Nodup :=
  List.Nodup.of_map _ (List.nodup_cons.mp (hr.ring k).nodup).2

omit [DecidableEq κ] [DecidableEq α] in
theorem inr_mem_ring {l : List α} : (.inr x : κ ⊕ α) ∈ .inl k :: l.map .inr ↔ x ∈ l := by simp

omit [DecidableEq κ] [DecidableEq α] in
theorem Rings.not_mem (hr : Rings h f) {k k' : κ} (hk : k' ≠ k) {y : κ ⊕ α}
    (hy : y ∈ .inl k :: (f k).map .inr) : y ∉ .inl k' :: (f k').map .inr := by
  intro hy'
  cases y with
  | inl j =>
    simp only [List.mem_cons, Sum.inl.injEq, List.mem_map, reduceCtorEq, and_false, exists_false,
      or_false] at hy hy'
    exact hk (hy'.symm.trans hy)
  | inr r => exact hk (hr.disjoint k' k r (inr_mem_ring.mp hy') (inr_mem_ring.mp hy))

theorem Rings.listAddTail (hr : Rings h f) (hx : ∀ k', x ∉ f k') :
    Rings (listAddTail h (.inr x) (.inl k)) (update f k (f k ++ [x])) where
  ring k' := by
    by_cases hk : k' = k
    · subst hk
      rw [update_self, List.map_append]
      exact (hr.ring k').listAddTail (by rw [inr_mem_ring]; exact hx k')
    · rw [update_of_ne hk]
      have hnx : (.inr x : κ ⊕ α) ∉ .inl k' :: (f k').map .inr := by
        rw [inr_mem_ring]
        exact hx k'
      have hnk : (.inl k : κ ⊕ α) ∉ .inl k' :: (f k').map .inr :=
        hr.not_mem hk List.mem_cons_self
      exact ((hr.ring k').link_frame hnx hnk).link_frame (hr.not_mem hk (hr.ring k).prev_mem) hnx
  disjoint k₁ k₂ y h1 h2 := by
    have key : ∀ j, y ∈ update f k (f k ++ [x]) j → y ∈ f j ∨ (j = k ∧ y = x) := by
      intro j hj
      by_cases hjk : j = k
      · subst hjk
        rw [update_self, List.mem_append, List.mem_singleton] at hj
        tauto
      · rw [update_of_ne hjk] at hj
        exact Or.inl hj
    rcases key k₁ h1 with hy₁ | ⟨e₁, ey⟩
    · rcases key k₂ h2 with hy₂ | ⟨-, ey⟩
      · exact hr.disjoint k₁ k₂ y hy₁ hy₂
      · exact absurd (ey ▸ hy₁) (hx k₁)
    · rcases key k₂ h2 with hy₂ | ⟨e₂, -⟩
      · exact absurd (ey ▸ hy₂) (hx k₂)
      · rw [e₁, e₂]

theorem Rings.listDelInit {l₁ l₂ : List α} (hr : Rings h f) (hk : f k = l₁ ++ x :: l₂) :
    Rings (listDelInit h (.inr x)) (update f k (l₁ ++ l₂)) where
  ring k' := by
    by_cases hkk : k' = k
    · subst hkk
      rw [update_self, List.map_append]
      have h1 := hr.ring k'
      rw [hk, List.map_append, List.map_cons] at h1
      exact h1.listDelInit
    · rw [update_of_ne hkk]
      have hxk : (.inr x : κ ⊕ α) ∈ (f k).map Sum.inr := List.mem_map_of_mem (by simp [hk])
      obtain ⟨hp, hn⟩ := (hr.ring k).neighbours_mem hxk
      have hnx := hr.not_mem hkk (List.mem_cons_of_mem _ hxk)
      exact ((hr.ring k').link_frame (hr.not_mem hkk hp) (hr.not_mem hkk hn)).link_frame hnx hnx
  disjoint k₁ k₂ y h1 h2 := by
    have key : ∀ j, y ∈ update f k (l₁ ++ l₂) j → y ∈ f j := by
      intro j hj
      by_cases hjk : j = k
      · subst hjk
        rw [update_self, List.mem_append] at hj
        rw [hk]
        simp only [List.mem_append, List.mem_cons]
        tauto
      · rwa [update_of_ne hjk] at hj
    exact hr.disjoint k₁ k₂ y (key k₁ h1) (key k₂ h2)

theorem Rings.initListHead (hr : Rings h f) (hx : ∀ k', x ∉ f k') :
    Rings (initListHead h (.inr x)) f where
  ring k' := by
    have hnx : (.inr x : κ ⊕ α) ∉ .inl k' :: (f k').map .inr := by
      rw [inr_mem_ring]
      exact hx k'
    exact (hr.ring k').link_frame hnx hnx
  disjoint := hr.disjoint

/-- The lists after `x` went from the list `k` to the end of the list `k'`. -/
def move (f : κ → List α) (x : α) (k k' : κ) : κ → List α :=
  update (update f k ((f k).erase x)) k' ((f k').erase x ++ [x])

theorem Rings.mem_move (hr : Rings h f) (hx : x ∈ f k) (k' j : κ) (y : α) :
    y ∈ move f x k k' j ↔ (y = x ∧ j = k') ∨ (y ≠ x ∧ y ∈ f j) := by
  unfold move
  by_cases hj' : j = k'
  · subst hj'
    rw [update_self, List.mem_append, (hr.nodup j).mem_erase_iff, List.mem_singleton]
    tauto
  · rw [update_of_ne hj']
    by_cases hj : j = k
    · subst hj
      rw [update_self, (hr.nodup j).mem_erase_iff]
      tauto
    · rw [update_of_ne hj]
      have hne : y ∈ f j → y ≠ x := fun hy e => hj (hr.disjoint j k x (e ▸ hy) hx)
      tauto

theorem Rings.listDelInit_erase (hr : Rings h f) (hx : x ∈ f k) :
    Rings (LinkedList.listDelInit h (.inr x)) (update f k ((f k).erase x)) := by
  obtain ⟨l₁, l₂, hl⟩ := List.append_of_mem hx
  have hx₁ : x ∉ l₁ := by
    have := hr.nodup k
    rw [hl, List.nodup_append] at this
    exact fun hm => this.2.2 x hm x List.mem_cons_self rfl
  have herase : (f k).erase x = l₁ ++ l₂ := by
    rw [hl, List.erase_append_right _ hx₁, List.erase_cons_head]
  rw [herase]
  exact hr.listDelInit hl

omit [DecidableEq κ] [DecidableEq α] in
theorem Rings.not_mem_of_ne (hr : Rings h f) (hx : x ∈ f k) {j : κ} (hj : j ≠ k) : x ∉ f j :=
  fun hm => hj (hr.disjoint j k x hm hx)

theorem Rings.not_mem_erase (hr : Rings h f) (hx : x ∈ f k) (j : κ) :
    x ∉ update f k ((f k).erase x) j := by
  intro hj
  by_cases hjk : j = k
  · subst hjk
    rw [update_self] at hj
    exact ((hr.nodup j).mem_erase_iff.mp hj).1 rfl
  · rw [update_of_ne hjk] at hj
    exact hr.not_mem_of_ne hx hjk hj

theorem Rings.move (hr : Rings h f) (hx : x ∈ f k) (k' : κ) :
    Rings (LinkedList.listAddTail (LinkedList.listDelInit h (.inr x)) (.inr x) (.inl k'))
      (move f x k k') := by
  have hadd := (hr.listDelInit_erase hx).listAddTail (k := k') (hr.not_mem_erase hx)
  have hrest : update f k ((f k).erase x) k' = (f k').erase x := by
    by_cases hk : k' = k
    · rw [hk, update_self]
    · rw [update_of_ne hk, List.erase_of_not_mem (hr.not_mem_of_ne hx hk)]
  rw [hrest] at hadd
  exact hadd

theorem Rings.foldl_listAddTail (hr : Rings h f) {xs : List α} (hxs : xs.Nodup)
    (hnot : ∀ x ∈ xs, ∀ k', x ∉ f k') :
    Rings (xs.foldl (fun h x => LinkedList.listAddTail h (.inr x) (.inl k)) h)
      (update f k (f k ++ xs)) := by
  -- Records that are on no list are added one after the other.
  induction xs generalizing h f with
  | nil => simpa using hr
  | cons x xs ih =>
    obtain ⟨hx, hxs⟩ := List.nodup_cons.mp hxs
    have hadd := hr.listAddTail (k := k) (hnot x List.mem_cons_self)
    have hrest : ∀ y ∈ xs, ∀ k', y ∉ update f k (f k ++ [x]) k' := by
      intro y hy k'
      have hne : y ≠ x := fun e => hx (e ▸ hy)
      have hyf := hnot y (List.mem_cons_of_mem x hy)
      by_cases hk : k' = k
      · subst hk
        rw [update_self]
        simp [hyf k', hne]
      · rw [update_of_ne hk]
        exact hyf k'
    simpa using ih hadd hxs hrest

end Rings

end Rtl8190.LinkedList
