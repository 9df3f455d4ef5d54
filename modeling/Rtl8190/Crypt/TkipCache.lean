import Rtl8190.Crypt.TkipReplay

/-!
# The phase 1 cache of TKIP

`rx_ttak` belongs to `rx_iv32` whenever `rx_phase1_done` is set, in exactly the runs that
`RxClean` describes, and then every frame is decrypted as if nothing were cached
(`cache_coherent_iff`). The software path sends with the right `tx_ttak` as long as it does not take
over the flag from a frame that the hardware encrypted.
-/

open Rtl8190.Memory Rtl8190.Run

namespace Rtl8190.Crypt.Tkip

/-! ## Phase 1 is injective -/

theorem phase1Round_injective (key : Key) (i : Nat) {t t' : Ttak}
    (h : phase1Round key t i = phase1Round key t' i) : t = t' := by
  simp only [phase1Round, Ttak.mk.injEq] at h
  obtain ⟨h0, h1, h2, h3, h4⟩ := h
  -- Undo the assignments, the last one first.
  rw [h3] at h4
  have e4 : t.t4 = t'.t4 := (BitVec.add_left_inj _).mp ((BitVec.add_left_inj _).mp h4)
  rw [h2] at h3
  have e3 : t.t3 = t'.t3 := (BitVec.add_left_inj _).mp h3
  rw [h1] at h2
  have e2 : t.t2 = t'.t2 := (BitVec.add_left_inj _).mp h2
  rw [h0] at h1
  have e1 : t.t1 = t'.t1 := (BitVec.add_left_inj _).mp h1
  rw [e4] at h0
  have e0 : t.t0 = t'.t0 := (BitVec.add_left_inj _).mp h0
  cases t; cases t'; simp_all

theorem foldl_phase1Round_injective (key : Key) (is : List Nat) {t t' : Ttak}
    (h : is.foldl (phase1Round key) t = is.foldl (phase1Round key) t') : t = t' := by
  induction is generalizing t t' with
  | nil => exact h
  | cons i is ih => exact phase1Round_injective key i (ih h)

theorem halves_injective {x y : BitVec 32} (hlo : x.setWidth 16 = y.setWidth 16)
    (hhi : (x >>> 16).setWidth 16 = (y >>> 16).setWidth 16) : x = y := by
  apply BitVec.eq_of_toNat_eq
  have hx := x.isLt
  have hy := y.isLt
  have hlo := congrArg BitVec.toNat hlo
  have hhi := congrArg BitVec.toNat hhi
  simp only [BitVec.toNat_setWidth, BitVec.toNat_ushiftRight, Nat.shiftRight_eq_div_pow] at hlo hhi
  omega

theorem tkipMixingPhase1_injective (key : Key) (ta : Addr) {iv32 iv32' : BitVec 32}
    (h : tkipMixingPhase1 key ta iv32 = tkipMixingPhase1 key ta iv32') : iv32 = iv32' := by
  have h' := foldl_phase1Round_injective key _ h
  simp only [Ttak.mk.injEq, and_true] at h'
  exact halves_injective h'.1 h'.2

/-! ## Runs -/

inductive Event where
  | setKey (key : Nat → Byte) (len : Int) (seq : Option (Fin 6 → Byte))
  | encrypt (skb : Skb) (hdrLen : Nat) (arc4Fails : Bool)
  /-- A fragment that others follow: Michael is not asked. -/
  | decrypt (f : Frame)
  /-- The last frame of an MSDU. Michael looks at it, or at the MSDU put together from fragments. -/
  | receive (f : Frame) (msdu : Option Skb)

structure State where
  key : TkipData
  /-- `tx_phase1_done` was set for a frame that the hardware encrypts. -/
  txByHw : Bool
  /-- The software path has used another phase 1 result than that of `tx_iv32`. -/
  txStale : Bool
  oops : Bool

variable (prim : Primitives)

/-- The frame gets as far as the phase 1 result. -/
def encrypts (skb : Skb) (hdrLen : Nat) : Prop :=
  ¬ (skb.headroom < 8 ∨ skb.tailroom < 4 ∨ skb.len < hdrLen)

instance (skb : Skb) (hdrLen : Nat) : Decidable (encrypts skb hdrLen) :=
  inferInstanceAs (Decidable (¬ _))

def State.encrypt (s : State) (skb : Skb) (hdrLen : Nat) (arc4Fails : Bool) : State :=
  let key := (rtllibTkipEncrypt prim arc4Fails s.key skb hdrLen).2
  if encrypts skb hdrLen then
    { s with
      key := key
      txByHw := key.txPhase1Done && if s.key.txPhase1Done then s.txByHw else skb.bHwSec
      txStale := s.txStale || (!skb.bHwSec && s.key.txPhase1Done &&
        decide (s.key.txTtak ≠ tkipMixingPhase1 s.key.key skb.addr2 s.key.txIv32)) }
  else { s with key := key }

def State.decrypt (s : State) (f : Frame) : State :=
  { s with key := (rtllibTkipDecrypt prim f.arc4Fails s.key f.skb f.hdrLen).2 }

def State.receive (s : State) (f : Frame) (msdu : Option Skb) : State :=
  let d := rtllibTkipDecrypt prim f.arc4Fails s.key f.skb f.hdrLen
  match d.1 with
  | .error _ => { s with key := d.2 }
  | .ok (_, skb) =>
    let v := rtllibMichaelMicVerify prim f.michaelFails f.forceMicError d.2 (msdu.getD skb) f.hdrLen
    match v.1 with
    | .oops => { s with key := v.2, oops := true }
    | _ => { s with key := v.2 }

def step (s : State) (e : Event) : State :=
  if s.oops then s
  else
    match e with
    | .setKey key len seq => ⟨(rtllibTkipSetKey key len seq s.key).2, false, s.txStale, false⟩
    | .encrypt skb hdrLen arc4Fails => s.encrypt prim skb hdrLen arc4Fails
    | .decrypt f => s.decrypt prim f
    | .receive f msdu => s.receive prim f msdu

/-- A key context as `rtllib_tkip_init` makes it. -/
def State.init (keyIdx : Byte) : State :=
  ⟨⟨fun _ => 0, false, 0, 0, ⟨0, 0, 0, 0, 0⟩, false, 0, 0, false, ⟨0, 0, 0, 0, 0⟩, false, 0, 0, 0, 0, 0,
    keyIdx⟩, false, false, false⟩

/-- Every received frame has the transmitter address `rxTa`, and every sent one has `txTa`. -/
def Event.From (rxTa txTa : Addr) : Event → Prop
  | .setKey .. => True
  | .encrypt skb .. => skb.addr2 = txTa
  | .decrypt f => f.skb.addr2 = rxTa
  | .receive f _ => f.skb.addr2 = rxTa

/-! ## The receive cache -/

def RxCoherent (rxTa : Addr) (tkey : TkipData) : Prop :=
  tkey.rxPhase1Done = true → tkey.rxTtak = tkipMixingPhase1 tkey.key rxTa tkey.rxIv32

/-- The frame puts its own phase 1 result into the cache, and is not found out by the ICV. -/
structure TakesOver (tkey : TkipData) (f : Frame) : Prop extends Reaches tkey f where
  newIv32 : f.iv32 ≠ tkey.rxIv32
  passes : f.arc4Fails = true ∨ (f.opened prim tkey).isSome

/-- `rtllib_tkip_decrypt` and `rtllib_michael_mic_verify` both accept. -/
def Verified (tkey : TkipData) (f : Frame) (msdu : Option Skb) : Prop :=
  ∃ skb, f.opened prim tkey = some skb ∧ MicOk prim tkey f (msdu.getD skb)

/-- A frame with a new `iv32` that the ICV lets pass is verified, and so commits its `iv32`. A frame
that the hardware has decrypted commits no `iv32` under the cache of another. -/
def RxClean (s : State) (e : Event) : Prop :=
  s.oops = false →
    match e with
    | .decrypt f => ¬ TakesOver prim s.key f
    | .receive f msdu =>
      (TakesOver prim s.key f → Verified prim s.key f msdu) ∧
      (HeaderOk s.key f → decryptsInSoftware f.skb = false → Verified prim s.key f msdu →
        s.key.rxPhase1Done = true → f.iv32 = s.key.rxIv32)
    | _ => True

theorem rxPhase1_ttak {rxTa : Addr} {tkey : TkipData} (h : RxCoherent rxTa tkey) (iv32 : BitVec 32) :
    (rxPhase1 tkey rxTa iv32).rxTtak = tkipMixingPhase1 tkey.key rxTa iv32 := by
  unfold rxPhase1
  split
  · rfl
  · rename_i hcached
    simp only [ne_eq, not_or, not_not, Bool.not_eq_false] at hcached
    rw [h hcached.2, hcached.1]

section OneFrame

variable {rxTa : Addr} {tkey tkey' : TkipData} {f : Frame}

theorem decrypt_coherent_iff (h : RxCoherent rxTa tkey) (hta : f.skb.addr2 = rxTa)
    (kept : Kept tkey f tkey') (cache : CacheStep prim tkey f tkey') :
    RxCoherent rxTa tkey' ↔ ¬ TakesOver prim tkey f := by
  unfold RxCoherent
  rw [kept.key, kept.rxIv32]
  by_cases hreach : Reaches tkey f
  · rw [cache.done hreach, cache.ttak hreach, hta, rxPhase1_ttak h]
    constructor
    · intro hcoh htakes
      exact htakes.newIv32 (tkipMixingPhase1_injective _ _ (hcoh (.inr htakes.passes)))
    · rintro hno (heq | hpass)
      · rw [heq]
      · by_contra hne
        exact hno ⟨hreach, fun heq => hne (by rw [heq]), hpass⟩
  · obtain ⟨httak, hdone⟩ := cache.idle hreach
    rw [httak, hdone]
    exact iff_of_true h fun htakes => hreach htakes.toReaches

theorem commit_coherent_iff (h : RxCoherent rxTa tkey) (hta : f.skb.addr2 = rxTa)
    (kept : Kept tkey f tkey') (cache : CacheStep prim tkey f tkey') (hok : HeaderOk tkey f)
    (hfresh : decryptsInSoftware f.skb = true → replayed tkey f.iv32 f.iv16 = false)
    (hiv32 : tkey'.rxIv32New = f.iv32) :
    RxCoherent rxTa { tkey' with rxIv32 := tkey'.rxIv32New, rxIv16 := tkey'.rxIv16New } ↔
      (decryptsInSoftware f.skb = false → tkey.rxPhase1Done = true → f.iv32 = tkey.rxIv32) := by
  -- The frame commits its `iv32`.
  unfold RxCoherent
  simp only [kept.key, hiv32]
  by_cases hsw : decryptsInSoftware f.skb = true
  · have hreach : Reaches tkey f := ⟨hok, hsw, hfresh hsw⟩
    rw [cache.ttak hreach, hta, rxPhase1_ttak h]
    simp [hsw]
  · obtain ⟨httak, hdone⟩ := cache.idle fun hreach => hsw hreach.software
    rw [httak, hdone]
    constructor
    · intro hcoh _ hset
      exact tkipMixingPhase1_injective _ _ ((hcoh hset).symm.trans (h hset))
    · intro heq hset
      rw [heq (by simpa using hsw) hset]
      exact h hset

end OneFrame

theorem encrypt_rx (arc4Fails : Bool) (tkey : TkipData) (skb : Skb) (hdrLen : Nat) :
    let tkey' := (rtllibTkipEncrypt prim arc4Fails tkey skb hdrLen).2
    tkey'.key = tkey.key ∧ tkey'.rxIv32 = tkey.rxIv32 ∧ tkey'.rxTtak = tkey.rxTtak ∧
      tkey'.rxPhase1Done = tkey.rxPhase1Done := by
  simp only [rtllibTkipEncrypt]
  split_ifs <;> exact ⟨rfl, rfl, rfl, rfl⟩

theorem setKey_rxPhase1Done (key : Nat → Byte) (len : Int) (seq : Option (Fin 6 → Byte))
    (tkey : TkipData) : (rtllibTkipSetKey key len seq tkey).2.rxPhase1Done = false := by
  unfold rtllibTkipSetKey
  split_ifs
  · cases seq <;> rfl
  · rfl
  · rfl

theorem step_coherent_iff {rxTa txTa : Addr} {s : State} (h : RxCoherent rxTa s.key) {e : Event}
    (he : e.From rxTa txTa) : RxCoherent rxTa (step prim s e).key ↔ RxClean prim s e := by
  -- One step keeps the cache exactly when it is clean.
  by_cases hoops : s.oops = true
  · simp [step, RxClean, hoops, h]
  have hoops : s.oops = false := by simpa using hoops
  simp only [step, RxClean, hoops, Bool.false_eq_true, if_false, true_implies]
  cases e with
  | setKey key len seq => simp [RxCoherent, setKey_rxPhase1Done]
  | encrypt skb hdrLen arc4Fails =>
    obtain ⟨hkey, hiv32, httak, hdone⟩ := encrypt_rx prim arc4Fails s.key skb hdrLen
    refine iff_of_true ?_ trivial
    have hcoh : RxCoherent rxTa (rtllibTkipEncrypt prim arc4Fails s.key skb hdrLen).2 := by
      unfold RxCoherent
      rw [hkey, hiv32, httak, hdone]
      exact h
    simp only [State.encrypt]
    split <;> exact hcoh
  | decrypt f =>
    have hout := decrypt_outcome prim s.key f
    simp only [State.decrypt]
    generalize rtllibTkipDecrypt prim f.arc4Fails s.key f.skb f.hdrLen = d at hout
    cases hout with
    | refused kept cache why => exact decrypt_coherent_iff prim h he kept cache
    | accepted kept cache => exact decrypt_coherent_iff prim h he kept cache
  | receive f msdu =>
    have hout := decrypt_outcome prim s.key f
    simp only [State.receive]
    generalize rtllibTkipDecrypt prim f.arc4Fails s.key f.skb f.hdrLen = d at hout
    cases hout with
    | refused kept cache why =>
      have hno : HeaderOk s.key f → (decryptsInSoftware f.skb = true →
          replayed s.key f.iv32 f.iv16 = false) → ¬ Verified prim s.key f msdu := by
        rintro hok hfresh ⟨skb, hskb, _⟩
        rcases why hok with hnone | ⟨hsw, hrep⟩
        · simp [hnone] at hskb
        · simp [hfresh hsw] at hrep
      rw [decrypt_coherent_iff prim h he kept cache]
      constructor
      · intro hclean
        refine ⟨fun htakes => absurd htakes hclean, fun hok hhw hver => ?_⟩
        exact absurd hver (hno hok fun hsw => by simp [hhw] at hsw)
      · exact fun hclean htakes =>
          hno htakes.header (fun _ => htakes.fresh) (hclean.1 htakes)
    | @accepted keyidx skb tkey' kept cache header fresh opened iv32 iv16 =>
      have hset : tkey'.keySet = true := kept.keySet.trans header.keySet
      rcases verify_cases prim hset f (msdu.getD skb) with ⟨hmic, skb', heq⟩ |
        ⟨hmic, res, n, heq, hres⟩
      · have hver : Verified prim s.key f msdu := ⟨skb, opened, (MicOk.congr prim kept.key).mp hmic⟩
        simp only [heq]
        rw [commit_coherent_iff prim h he kept cache header fresh iv32]
        exact ⟨fun hclean => ⟨fun _ => hver, fun _ hhw _ => hclean hhw⟩,
          fun hclean hhw => hclean.2 header hhw hver⟩
      · have hno : ¬ Verified prim s.key f msdu := by
          rintro ⟨skb₁, hskb, hok⟩
          obtain rfl : skb = skb₁ := Option.some.inj (opened.symm.trans hskb)
          exact hmic ((MicOk.congr prim kept.key).mpr hok)
        have hdecrypt := decrypt_coherent_iff prim h he kept cache
        have hcoh : RxCoherent rxTa { tkey' with dot11RsnaStatsTkipLocalMicFailures := n } ↔
            ¬ TakesOver prim s.key f := hdecrypt
        simp only [heq]
        have hgoal : ¬ TakesOver prim s.key f ↔ (TakesOver prim s.key f → Verified prim s.key f msdu) ∧
            (HeaderOk s.key f → decryptsInSoftware f.skb = false → Verified prim s.key f msdu →
              s.key.rxPhase1Done = true → f.iv32 = s.key.rxIv32) := by
          simp [hno]
        rw [← hgoal, ← hcoh]
        cases res with
        | ok skb' => exact absurd rfl (hres skb')
        | failed => exact Iff.rfl
        | oops => exact Iff.rfl

/-- The frame as `rtllib_tkip_decrypt` opens it without a cache. -/
def Frame.openedAlone (tkey : TkipData) (f : Frame) : Option Skb :=
  f.opened prim { tkey with rxPhase1Done := false }

theorem opened_eq_openedAlone {rxTa : Addr} {tkey : TkipData} (h : RxCoherent rxTa tkey) {f : Frame}
    (hta : f.skb.addr2 = rxTa) : f.opened prim tkey = f.openedAlone prim tkey := by
  have hcached : (rxPhase1 tkey f.skb.addr2 f.iv32).rxTtak =
      (rxPhase1 { tkey with rxPhase1Done := false } f.skb.addr2 f.iv32).rxTtak := by
    have halone : RxCoherent rxTa { tkey with rxPhase1Done := false } := nofun
    rw [hta, rxPhase1_ttak h, rxPhase1_ttak halone]
  simp only [Frame.openedAlone, Frame.opened, hcached]

/-! ## The transmit cache -/

/-- The software path does not take over the flag from a frame that the hardware encrypted. -/
def TxClean (s : State) : Event → Prop
  | .encrypt skb hdrLen _ =>
    s.oops = false → skb.bHwSec = false → encrypts skb hdrLen → s.txByHw = false
  | _ => True

structure TxCoherent (txTa : Addr) (s : State) : Prop where
  stale : s.txStale = false
  ttak : s.key.txPhase1Done = true → s.txByHw = false →
    s.key.txTtak = tkipMixingPhase1 s.key.key txTa s.key.txIv32

theorem TxCoherent.of_same {txTa : Addr} {s s' : State} (h : TxCoherent txTa s)
    (hkey : s'.key.key = s.key.key) (htx : s'.key.tx = s.key.tx) (hhw : s'.txByHw = s.txByHw)
    (hstale : s'.txStale = s.txStale) : TxCoherent txTa s' := by
  simp only [TkipData.tx, Prod.mk.injEq] at htx
  refine ⟨hstale.trans h.stale, ?_⟩
  rw [hkey, htx.1, htx.2.2.1, htx.2.2.2, hhw]
  exact h.ttak

theorem setKey_txPhase1Done (key : Nat → Byte) (len : Int) (seq : Option (Fin 6 → Byte))
    (tkey : TkipData) : (rtllibTkipSetKey key len seq tkey).2.txPhase1Done = false := by
  unfold rtllibTkipSetKey
  split_ifs
  · cases seq <;> rfl
  · rfl
  · rfl

theorem encrypt_tx (arc4Fails : Bool) (tkey : TkipData) {skb : Skb} {hdrLen : Nat}
    (henc : encrypts skb hdrLen) :
    let tkey' := (rtllibTkipEncrypt prim arc4Fails tkey skb hdrLen).2
    tkey'.txPhase1Done = true → tkey'.key = tkey.key ∧ tkey'.txIv32 = tkey.txIv32 ∧
      tkey'.txTtak = if skb.bHwSec = false ∧ tkey.txPhase1Done = false then
        tkipMixingPhase1 tkey.key skb.addr2 tkey.txIv32 else tkey.txTtak := by
  simp only [rtllibTkipEncrypt, if_neg henc]
  by_cases hc : skb.bHwSec = false ∧ tkey.txPhase1Done = false
  · simp only [if_pos hc]
    split
    · nofun
    · exact fun _ => ⟨rfl, rfl, rfl⟩
  · simp only [if_neg hc]
    split
    · nofun
    · exact fun _ => ⟨rfl, rfl, rfl⟩

theorem encrypt_txCoherent {txTa : Addr} {s : State} (h : TxCoherent txTa s) {skb : Skb}
    {hdrLen : Nat} (hta : skb.addr2 = txTa) (arc4Fails : Bool)
    (hclean : skb.bHwSec = false → encrypts skb hdrLen → s.txByHw = false) :
    TxCoherent txTa (s.encrypt prim skb hdrLen arc4Fails) := by
  by_cases henc : encrypts skb hdrLen
  · simp only [State.encrypt, if_pos henc]
    constructor
    · simp only [h.stale, Bool.false_or, Bool.and_eq_false_iff, Bool.not_eq_false']
      by_cases hhw : skb.bHwSec = true
      · exact .inl (.inl hhw)
      by_cases hdone : s.key.txPhase1Done = true
      · refine .inr ?_
        have httak := h.ttak hdone (hclean (by simpa using hhw) henc)
        simp [httak, hta]
      · exact .inl (.inr (by simpa using hdone))
    · intro hdone' hhw'
      obtain ⟨hkey, hiv32, httak⟩ := encrypt_tx prim arc4Fails s.key henc hdone'
      rw [hdone', Bool.true_and] at hhw'
      rw [hkey, hiv32, httak]
      by_cases hdone : s.key.txPhase1Done = true
      · rw [if_neg (by simp [hdone])]
        exact h.ttak hdone (by simpa [hdone] using hhw')
      · have hsw : skb.bHwSec = false := by simpa [hdone] using hhw'
        rw [if_pos ⟨hsw, by simpa using hdone⟩, hta]
  · simp only [State.encrypt, if_neg henc]
    refine h.of_same ?_ ?_ rfl rfl <;> simp only [rtllibTkipEncrypt, if_pos (not_not.mp henc)]

theorem step_txCoherent {rxTa txTa : Addr} {s : State} (h : TxCoherent txTa s) {e : Event}
    (he : e.From rxTa txTa) (hclean : TxClean s e) : TxCoherent txTa (step prim s e) := by
  by_cases hoops : s.oops = true
  · simpa only [step, if_pos hoops] using h
  have hoops : s.oops = false := by simpa using hoops
  simp only [step, hoops, Bool.false_eq_true, if_false]
  cases e with
  | setKey key len seq =>
    exact ⟨h.stale, fun hdone => by simp [setKey_txPhase1Done] at hdone⟩
  | encrypt skb hdrLen arc4Fails => exact encrypt_txCoherent prim h he arc4Fails (hclean hoops)
  | decrypt f =>
    have hout := decrypt_outcome prim s.key f
    simp only [State.decrypt]
    generalize rtllibTkipDecrypt prim f.arc4Fails s.key f.skb f.hdrLen = d at hout
    cases hout with
    | refused kept => exact h.of_same kept.key kept.tx rfl rfl
    | accepted kept => exact h.of_same kept.key kept.tx rfl rfl
  | receive f msdu =>
    have hout := decrypt_outcome prim s.key f
    simp only [State.receive]
    generalize rtllibTkipDecrypt prim f.arc4Fails s.key f.skb f.hdrLen = d at hout
    cases hout with
    | refused kept => exact h.of_same kept.key kept.tx rfl rfl
    | @accepted keyidx skb tkey' kept cache header =>
      have hset : tkey'.keySet = true := kept.keySet.trans header.keySet
      rcases verify_cases prim hset f (msdu.getD skb) with ⟨_, skb', heq⟩ | ⟨_, res, n, heq, _⟩
      · simp only [heq]
        exact h.of_same kept.key kept.tx rfl rfl
      · simp only [heq]
        cases res <;> exact h.of_same kept.key kept.tx rfl rfl

/-! ## Main result -/

/-- The receive cache is coherent in every state of a run exactly when its steps are clean, and then
it makes no difference to any frame; and the software path sends with the phase 1 result of
`tx_iv32` unless it takes over the flag of the hardware. -/
theorem cache_coherent_iff (keyIdx : Byte) (rxTa txTa : Addr) (es : List Event)
    (hes : ∀ e ∈ es, e.From rxTa txTa) :
    (Meets (step prim) (RxClean prim) (State.init keyIdx) es ↔
      ∀ fs, fs <+: es → RxCoherent rxTa (exec (step prim) (State.init keyIdx) fs).key) ∧
    (Meets (step prim) (RxClean prim) (State.init keyIdx) es →
      ∀ fs, fs <+: es → ∀ f : Frame, f.skb.addr2 = rxTa →
        f.opened prim (exec (step prim) (State.init keyIdx) fs).key =
          f.openedAlone prim (exec (step prim) (State.init keyIdx) fs).key) ∧
    (Meets (step prim) TxClean (State.init keyIdx) es →
      ∀ fs, fs <+: es → (exec (step prim) (State.init keyIdx) fs).txStale = false) := by
  have hrx : Meets (step prim) (RxClean prim) (State.init keyIdx) es ↔
      ∀ fs, fs <+: es → RxCoherent rxTa (exec (step prim) (State.init keyIdx) fs).key :=
    meets_iff_forall_prefixes (I := fun _ : State => True)
      (P := fun s : State => RxCoherent rxTa s.key) (V := fun e : Event => e.From rxTa txTa)
      (fun _ _ _ _ _ _ => trivial) (fun _ _ _ hp he => step_coherent_iff prim hp he) trivial
      (fun h => by cases h) hes
  refine ⟨hrx, fun hclean fs hfs f hta => opened_eq_openedAlone prim (hrx.mp hclean fs hfs) hta, ?_⟩
  intro hclean fs hfs
  have hboth : Meets (step prim) (fun s e => TxClean s e ∧ e.From rxTa txTa) (State.init keyIdx) es :=
    hclean.and (meets_of_forall hes)
  exact (exec_inv_before (I := TxCoherent txTa) (fun _ _ h hc => step_txCoherent prim h hc.2 hc.1)
    ⟨rfl, fun h => by cases h⟩ hboth fs hfs).stale

/-- A frame with `iv32` 1 and the MIC `mic`, to be decrypted in software. -/
def softwareFrame (mic : List Byte) : Frame where
  skb := ⟨0, List.replicate 24 0 ++ [0, 0x20, 3, 0x20, 1, 0, 0, 0] ++ mic ++ List.replicate 4 0, 0,
    false, 0⟩
  hdrLen := 24
  arc4Fails := false
  michaelFails := false
  forceMicError := false

theorem cache_coherent_iff_received :
    let prim : Primitives := ⟨fun _ d => d, fun _ => 0, fun _ _ _ => 0⟩
    let f := softwareFrame (List.replicate 8 0)
    let es := [.setKey (fun _ => 1) 32 none, .encrypt f.skb 24 false, .receive f none]
    Meets (step prim) (RxClean prim) (State.init 0) es ↔
      ∀ fs, fs <+: es → RxCoherent f.skb.addr2 (exec (step prim) (State.init 0) fs).key := by
  intro prim f es
  exact (cache_coherent_iff prim 0 f.skb.addr2 f.skb.addr2 es (by simp [es, Event.From])).1

/-- A frame whose MIC is wrong leaves its own phase 1 result in the cache of another `iv32`. -/
theorem not_always_coherent :
    ¬ ∀ (prim : Primitives) (keyIdx : Byte) (rxTa txTa : Addr) (es : List Event),
        (∀ e ∈ es, e.From rxTa txTa) →
          ∀ fs, fs <+: es → RxCoherent rxTa (exec (step prim) (State.init keyIdx) fs).key ∧
            (exec (step prim) (State.init keyIdx) fs).txStale = false := by
  intro h
  let f := softwareFrame (List.replicate 8 1)
  have hcoh := (h ⟨fun _ d => d, fun _ => 0, fun _ _ _ => 0⟩ 0 f.skb.addr2 f.skb.addr2
    [.setKey (fun _ => 1) 32 none, .receive f none] (by simp [Event.From]) _
    (List.prefix_refl _)).1 (by decide)
  exact absurd hcoh (by decide +kernel)

end Rtl8190.Crypt.Tkip
