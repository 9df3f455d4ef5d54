import Rtl8190.Lib.Ledger
import Rtl8190.Lib.Memory
import Rtl8190.Lib.Run

/-!
# The element of the supplicant

`ieee->wpa_ie` is written by `rtllib_wx_set_gen_ie` (`rtllib_wx.c`), `rtllib_wpa_set_wpa_ie`
(`rtllib_softmac.c`) and `rtl8192_down` (`rtl_core.c`). What reads it looks at fixed places, however
short the element is.
-/

open Rtl8190.Memory Rtl8190.Run Rtl8190.Ledger

namespace Rtl8190.Wx.GenIe

/-! ## The code -/

/-- What `kmalloc` returned, with what was copied into it. -/
structure Buf where
  id : Nat
  bytes : List Byte
  deriving DecidableEq

structure State where
  wpaIe : Option Buf
  wpaIeLen : Nat
  wpsIe : Option (List Byte)
  wpsIeLen : Nat
  up : Bool
  /-- How many buffers were allocated for `wpa_ie`. -/
  allocs : Nat
  /-- What was allocated and freed of them -/
  log : List (Op Nat)

def init : State := ⟨none, 0, none, 0, false, 0, []⟩

def maxWpaIeLen : Nat := 64

def maxWzcIeLen : Nat := 256

def einval : Int := -22
def enomem : Int := -12
def e2big : Int := -7

def copyIe (ie : Nat → Byte) (len : Nat) : List Byte := (List.range len).map ie

def freeIe (s : State) : List (Op Nat) := (s.wpaIe.map fun buf => .free buf.id).toList

/-- A new buffer takes the place of `wpa_ie`. -/
def State.store (s : State) (bytes : List Byte) : State :=
  { s with
    wpaIe := some ⟨s.allocs, bytes⟩
    wpaIeLen := bytes.length
    allocs := s.allocs + 1
    log := s.log ++ (.alloc s.allocs :: freeIe s) }

def State.clear (s : State) : State :=
  { s with wpaIe := none, wpaIeLen := 0, log := s.log ++ freeIe s }

/-- `rtllib_wx_set_gen_ie`. `ie` is the memory behind the pointer, `alloc` says whether `kmalloc`
succeeds. -/
def rtllibWxSetGenIe (s : State) (ie : Option (Nat → Byte)) (len : Nat) (alloc : Bool) :
    Int × State :=
  if len > maxWpaIeLen ∨ (len ≠ 0 ∧ ie = none) then (einval, s)
  else
    let ie := ie.getD fun _ => 0
    if len ≠ 0 ∧ ie 0 = 221 ∧ [ie 2, ie 3, ie 4, ie 5] = [0x00, 0x50, 0xf2, 0x04] then
      let s := { s with wpsIeLen := if len < maxWzcIeLen then len else maxWzcIeLen }
      if alloc then (0, { s with wpsIe := some (copyIe ie s.wpsIeLen) }) else (enomem, s)
    else
      let s := { s with wpsIeLen := 0, wpsIe := none }
      if len ≠ 0 then
        if len ≠ (ie 1).toNat + 2 then (einval, s)
        else if alloc then (0, s.store (copyIe ie len))
        else (enomem, s)
      else (0, s.clear)

/-- `rtllib_wpa_set_wpa_ie`. The data follow the length in the request, so there is a pointer. -/
def rtllibWpaSetWpaIe (s : State) (data : Nat → Byte) (len : Nat) (alloc : Bool) : Int × State :=
  if len > maxWpaIeLen then (einval, s)
  else if len ≠ 0 then
    if alloc then (0, s.store (copyIe data len)) else (enomem, s)
  else (0, s.clear)

def rtl8192Up (s : State) (starts : Bool) : Int × State :=
  if s.up then (-1, s) else (if starts then 0 else -1, { s with up := true })

def rtl8192Down (s : State) : Int × State :=
  if s.up then (0, { s.clear with up := false }) else (-1, s)

/-! ## What reads the element -/

def State.byte (s : State) (i : Nat) : Byte := (s.wpaIe.elim [] Buf.bytes).getD i 0

/-- The copy of `wpa_ie[8 .. 11]` over `wpa_ie[14 .. 17]` -/
def patch (bytes : List Byte) : List Byte :=
  (List.range 4).foldl (fun bs j => bs.set (14 + j) (bytes.getD (8 + j) 0)) bytes

/-- `rtllib_probe_resp`, as far as it touches the element: the places it accesses, and the state. `skb`
says whether `dev_alloc_skb` succeeds. -/
def rtllibProbeResp (s : State) (skb adhoc : Bool) : List Nat × State :=
  if skb = false ∨ s.wpaIeLen = 0 then ([], s)
  else if adhoc then
    ([8, 9, 10, 11, 14, 15, 16, 17] ++ List.range s.wpaIeLen,
      { s with wpaIe := s.wpaIe.map fun buf => { buf with bytes := patch buf.bytes } })
  else (List.range s.wpaIeLen, s)

def rtllibAssociationReq (s : State) (skb : Bool) : List Nat :=
  if skb then List.range s.wpaIeLen else []

/-- `rtllib_ap_sec_type`: what it accesses, and the algorithm -/
def rtllibApSecType (s : State) (encrypt : Bool) : List Nat × Nat :=
  if encrypt ∧ s.wpaIeLen = 0 then ([], 1)
  else if s.wpaIeLen ≠ 0 then
    if s.byte 0 = 0xdd then
      ([0, 14, 15, 16, 17],
        if [s.byte 14, s.byte 15, s.byte 16, s.byte 17] = [0x00, 0x50, 0xf2, 0x04] then 4 else 2)
    else if s.byte 0 = 0x30 then
      ([0, 10, 11, 12, 13],
        if [s.byte 10, s.byte 11, s.byte 12, s.byte 13] = [0x00, 0x0f, 0xac, 0x04] then 4 else 2)
    else ([0], 2)
  else ([], 0)

/-- `r8192_wx_get_gen_ie`, with room for `length` bytes: what it returns, and what it accesses -/
def r8192WxGetGenIe (s : State) (length : Nat) : Int × List Nat :=
  if s.wpaIeLen = 0 ∨ s.wpaIe = none then (0, [])
  else if length < s.wpaIeLen then (e2big, [])
  else (0, List.range s.wpaIeLen)

/-! ## Runs -/

inductive Event where
  | setGenIe (ie : Option (Nat → Byte)) (len : Nat) (alloc : Bool)
  | setWpaIe (data : Nat → Byte) (len : Nat) (alloc : Bool)
  | up (starts : Bool)
  | down
  | probeResp (skb adhoc : Bool)
  | associationReq (skb : Bool)
  | apSecType (encrypt : Bool)
  | getGenIe (length : Nat)

/-- What the call returns, for those that a user makes, and the state. -/
def call (s : State) : Event → Int × State
  | .setGenIe ie len alloc => rtllibWxSetGenIe s ie len alloc
  | .setWpaIe data len alloc => rtllibWpaSetWpaIe s data len alloc
  | .up starts => rtl8192Up s starts
  | .down => rtl8192Down s
  | .probeResp skb adhoc => (0, (rtllibProbeResp s skb adhoc).2)
  | .associationReq _ => (0, s)
  | .apSecType _ => (0, s)
  | .getGenIe length => ((r8192WxGetGenIe s length).1, s)

def step (s : State) (e : Event) : State := (call s e).2

def accesses (s : State) : Event → List Nat
  | .probeResp skb adhoc => (rtllibProbeResp s skb adhoc).1
  | .associationReq skb => rtllibAssociationReq s skb
  | .apSecType encrypt => (rtllibApSecType s encrypt).1
  | .getGenIe length => (r8192WxGetGenIe s length).2
  | _ => []

def held (s : State) : List Nat := (s.wpaIe.map Buf.id).toList

/-! ## What is to hold -/

structure Right (s : State) (e : Event) : Prop where
  null : (step s e).wpaIe = none ↔ (step s e).wpaIeLen = 0
  owns : ∀ buf, (step s e).wpaIe = some buf → (step s e).wpaIeLen ≤ buf.bytes.length
  once : Accounted (held (step s e)) (step s e).log
  rejected : (call s e).1 < 0 → (step s e).wpaIe = s.wpaIe ∧ (step s e).wpaIeLen = s.wpaIeLen
  inside : ∀ i ∈ accesses s e, ∃ buf, s.wpaIe = some buf ∧ i < buf.bytes.length

/-- The element is long enough for what looks at fixed places: an element that the probe response
changes in ad-hoc mode, and a WPA or RSN element whose cipher is asked for. -/
def Fits (s : State) : Event → Prop
  | .probeResp skb adhoc => skb = true → adhoc = true → s.wpaIe ≠ none → 18 ≤ s.wpaIeLen
  | .apSecType _ =>
    s.wpaIe ≠ none → (s.byte 0 = 0xdd → 18 ≤ s.wpaIeLen) ∧ (s.byte 0 = 0x30 → 14 ≤ s.wpaIeLen)
  | _ => True

/-! ## The invariant -/

structure Inv (s : State) : Prop where
  length : ∀ buf, s.wpaIe = some buf → buf.bytes.length = s.wpaIeLen
  null : s.wpaIe = none ↔ s.wpaIeLen = 0
  once : Accounted (held s) s.log
  fresh : ∀ b ∈ allocated s.log, b < s.allocs

variable {s : State}

theorem inv_init : Inv init where
  length := nofun
  null := iff_of_true rfl rfl
  once := .nil
  fresh := nofun

theorem count_freeIe (s : State) (b : Nat) : (freed (freeIe s)).count b = (held s).count b := by
  unfold freeIe held
  cases s.wpaIe <;> rfl

theorem allocated_freeIe (s : State) : allocated (freeIe s) = [] := by
  unfold freeIe
  cases s.wpaIe <;> rfl

theorem given_freeIe (s : State) : given (freeIe s) = [] := by
  unfold freeIe
  cases s.wpaIe <;> rfl

theorem inv_store (h : Inv s) {bytes : List Byte} (hne : bytes ≠ []) : Inv (s.store bytes) where
  length := by
    rintro buf ⟨⟩
    rfl
  null := by simp [State.store, hne]
  once := by
    have hfresh : s.allocs ∉ allocated s.log := fun hmem => absurd (h.fresh _ hmem) (Nat.lt_irrefl _)
    have hnew : allocated (Op.alloc s.allocs :: freeIe s) = [s.allocs] := by
      rw [allocated_alloc, allocated_freeIe]
    refine (h.once.append_iff (by simpa [hnew] using hfresh) (by simp [hnew])).mpr fun b => ?_
    rw [hnew, given_alloc, given_freeIe, freed_alloc, count_freeIe]
    simp only [held, State.store, Option.map_some, Option.toList_some, List.count_nil]
    omega
  fresh := by
    intro b hb
    simp only [State.store, allocated_append, allocated_alloc, allocated_freeIe, List.mem_append,
      List.mem_singleton] at hb ⊢
    rcases hb with hold | rfl
    · exact Nat.lt_succ_of_lt (h.fresh b hold)
    · exact Nat.lt_succ_self _

theorem inv_clear (h : Inv s) : Inv s.clear where
  length := nofun
  null := iff_of_true rfl rfl
  once := by
    refine (h.once.append_iff (by simp [allocated_freeIe]) (by simp [allocated_freeIe])).mpr
      fun b => ?_
    rw [allocated_freeIe, given_freeIe, count_freeIe]
    simp [held, State.clear]
  fresh := by simpa [State.clear, allocated_freeIe] using h.fresh

theorem Inv.congr (h : Inv s) {s' : State} (hie : s'.wpaIe = s.wpaIe)
    (hlen : s'.wpaIeLen = s.wpaIeLen) (hallocs : s'.allocs = s.allocs) (hlog : s'.log = s.log) :
    Inv s' where
  length := by rw [hie, hlen]; exact h.length
  null := by rw [hie, hlen]; exact h.null
  once := by
    unfold held
    rw [hie, hlog]
    exact h.once
  fresh := by rw [hallocs, hlog]; exact h.fresh

theorem copyIe_ne_nil {ie : Nat → Byte} {len : Nat} (h : len ≠ 0) : copyIe ie len ≠ [] := by
  simpa [copyIe] using h

/-! ## Requests -/

/-- A request keeps the invariant, and the element if it is rejected. -/
structure Handles (s : State) (r : Int × State) : Prop where
  inv : Inv r.2
  rejected : r.1 < 0 → r.2.wpaIe = s.wpaIe ∧ r.2.wpaIeLen = s.wpaIeLen

theorem setGenIe_handles (h : Inv s) (ie : Option (Nat → Byte)) (len : Nat) (alloc : Bool) :
    Handles s (rtllibWxSetGenIe s ie len alloc) := by
  -- The element of WPS is not looked at.
  have hwps (wpsIe : Option (List Byte)) (wpsIeLen : Nat) : Inv { s with wpsIe, wpsIeLen } :=
    h.congr rfl rfl rfl rfl
  unfold rtllibWxSetGenIe
  split
  · exact ⟨h, fun _ => ⟨rfl, rfl⟩⟩
  dsimp only
  split
  · split
    · exact ⟨hwps _ _, fun _ => ⟨rfl, rfl⟩⟩
    · exact ⟨hwps _ _, fun _ => ⟨rfl, rfl⟩⟩
  split
  next hlen =>
    split
    · exact ⟨hwps _ _, fun _ => ⟨rfl, rfl⟩⟩
    split
    · exact ⟨inv_store (hwps _ _) (copyIe_ne_nil hlen), nofun⟩
    · exact ⟨hwps _ _, fun _ => ⟨rfl, rfl⟩⟩
  next => exact ⟨inv_clear (hwps _ _), nofun⟩

theorem setWpaIe_handles (h : Inv s) (data : Nat → Byte) (len : Nat) (alloc : Bool) :
    Handles s (rtllibWpaSetWpaIe s data len alloc) := by
  unfold rtllibWpaSetWpaIe
  split
  · exact ⟨h, fun _ => ⟨rfl, rfl⟩⟩
  split
  next hlen =>
    split
    · exact ⟨inv_store h (copyIe_ne_nil hlen), nofun⟩
    · exact ⟨h, fun _ => ⟨rfl, rfl⟩⟩
  next => exact ⟨inv_clear h, nofun⟩

theorem up_handles (h : Inv s) (starts : Bool) : Handles s (rtl8192Up s starts) := by
  unfold rtl8192Up
  split
  · exact ⟨h, fun _ => ⟨rfl, rfl⟩⟩
  · exact ⟨h.congr rfl rfl rfl rfl, fun _ => ⟨rfl, rfl⟩⟩

theorem down_handles (h : Inv s) : Handles s (rtl8192Down s) := by
  unfold rtl8192Down
  split
  · exact ⟨(inv_clear h).congr rfl rfl rfl rfl, nofun⟩
  · exact ⟨h, fun _ => ⟨rfl, rfl⟩⟩

theorem length_patch (bytes : List Byte) : (patch bytes).length = bytes.length := by
  have hrange : List.range 4 = [0, 1, 2, 3] := rfl
  simp [patch, hrange]

theorem inv_probeResp (h : Inv s) (skb adhoc : Bool) : Inv (rtllibProbeResp s skb adhoc).2 := by
  -- The probe response changes bytes of the element.
  unfold rtllibProbeResp
  split
  · exact h
  split
  · refine ⟨?_, ?_, ?_, h.fresh⟩
    · rintro buf hbuf
      obtain ⟨old, hold, rfl⟩ := Option.map_eq_some_iff.mp hbuf
      exact (length_patch _).trans (h.length old hold)
    · simpa using h.null
    · have hsame : held { s with
          wpaIe := s.wpaIe.map fun buf => { buf with bytes := patch buf.bytes } } = held s := by
        unfold held
        cases s.wpaIe <;> rfl
      rw [hsame]
      exact h.once
  · exact h

theorem call_handles (h : Inv s) (e : Event) : Handles s (call s e) := by
  cases e with
  | setGenIe ie len alloc => exact setGenIe_handles h ie len alloc
  | setWpaIe data len alloc => exact setWpaIe_handles h data len alloc
  | up starts => exact up_handles h starts
  | down => exact down_handles h
  | probeResp skb adhoc => exact ⟨inv_probeResp h skb adhoc, nofun⟩
  | associationReq skb => exact ⟨h, nofun⟩
  | apSecType encrypt => exact ⟨h, nofun⟩
  | getGenIe length => exact ⟨h, fun _ => ⟨rfl, rfl⟩⟩

/-! ## Accesses -/

theorem inside_iff (h : Inv s) (is : List Nat) :
    (∀ i ∈ is, ∃ buf, s.wpaIe = some buf ∧ i < buf.bytes.length) ↔ ∀ i ∈ is, i < s.wpaIeLen := by
  refine forall₂_congr fun i _ => ?_
  constructor
  · rintro ⟨buf, hbuf, hi⟩
    rwa [h.length buf hbuf] at hi
  · intro hi
    obtain ⟨buf, hbuf⟩ := Option.ne_none_iff_exists'.mp (mt h.null.mp (by omega))
    exact ⟨buf, hbuf, by rwa [h.length buf hbuf]⟩

theorem probeResp_iff_fits (h : Inv s) (skb adhoc : Bool) :
    (∀ i ∈ (rtllibProbeResp s skb adhoc).1, i < s.wpaIeLen) ↔ Fits s (.probeResp skb adhoc) := by
  unfold rtllibProbeResp
  simp only [Fits, ne_eq, h.null]
  split
  next hnone =>
    refine iff_of_true nofun fun hskb _ hlen => ?_
    simp [hskb, hlen] at hnone
  next hsome =>
    rw [not_or, Bool.not_eq_false] at hsome
    split
    next hadhoc =>
      simp only [hadhoc, hsome, true_implies, not_false_eq_true, List.mem_append, List.mem_range]
      constructor
      · intro hall
        exact hall 17 (.inl (by decide))
      · rintro hlen i (hfixed | hall)
        · simp only [List.mem_cons, List.not_mem_nil, or_false] at hfixed
          omega
        · exact hall
    next hadhoc => simp [hadhoc]

theorem apSecType_iff_fits (h : Inv s) (encrypt : Bool) :
    (∀ i ∈ (rtllibApSecType s encrypt).1, i < s.wpaIeLen) ↔ Fits s (.apSecType encrypt) := by
  unfold rtllibApSecType
  simp only [Fits, ne_eq, h.null]
  by_cases hlen : s.wpaIeLen = 0
  · simp only [hlen]
    split <;> simp
  simp only [hlen, and_false, if_false, not_false_eq_true, if_true, true_implies]
  split
  next hwpa =>
    simp [hwpa]
    omega
  next hwpa =>
    split
    next hrsn =>
      simp [hrsn]
      omega
    next hrsn =>
      simp only [hwpa, hrsn, false_implies, and_self, List.mem_singleton, forall_eq, iff_true]
      omega

theorem accesses_iff_fits (h : Inv s) (e : Event) :
    (∀ i ∈ accesses s e, i < s.wpaIeLen) ↔ Fits s e := by
  cases e with
  | probeResp skb adhoc => exact probeResp_iff_fits h skb adhoc
  | apSecType encrypt => exact apSecType_iff_fits h encrypt
  | associationReq skb =>
    refine iff_of_true ?_ trivial
    simp only [accesses, rtllibAssociationReq]
    split <;> simp
  | getGenIe length =>
    refine iff_of_true ?_ trivial
    simp only [accesses, r8192WxGetGenIe]
    split_ifs <;> simp
  | setGenIe ie len alloc => exact iff_of_true nofun trivial
  | setWpaIe data len alloc => exact iff_of_true nofun trivial
  | up starts => exact iff_of_true nofun trivial
  | down => exact iff_of_true nofun trivial

theorem right_iff_fits (h : Inv s) (e : Event) : Right s e ↔ Fits s e := by
  rw [← accesses_iff_fits h e, ← inside_iff h]
  constructor
  · exact fun hright => hright.inside
  · intro hinside
    have hnext := call_handles h e
    exact ⟨hnext.inv.null, fun buf hbuf => Nat.le_of_eq (hnext.inv.length buf hbuf).symm, hnext.inv.once,
      hnext.rejected, hinside⟩

/-- All is right in exactly the runs in which the element is long enough for those who look at fixed
places. -/
theorem wpa_ie_right_iff (es : List Event) : Meets step Right init es ↔ Meets step Fits init es :=
  meets_congr (I := Inv) (fun _ e hs _ => (call_handles hs e).inv) (fun _ e hs => right_iff_fits hs e)
    inv_init

/-- An RSN element of eight bytes, and a probe response in ad-hoc mode -/
def shortElement : List Event :=
  [.setGenIe (some fun i => [0x30, 6, 1, 0, 0x00, 0x0f, 0xac, 4].getD i 0) 8 true, .probeResp true true]

theorem wpa_ie_not_right : ¬ ∀ es, Meets step Right init es := by
  intro h
  obtain ⟨buf, hbuf, hin⟩ := (h shortElement).2.1.inside 17 (by decide)
  obtain rfl : buf = ⟨0, [0x30, 6, 1, 0, 0x00, 0x0f, 0xac, 4]⟩ :=
    Option.some.inj (hbuf.symm.trans (by decide))
  revert hin
  decide

end Rtl8190.Wx.GenIe
