import Rtl8190.Crypt.Tkip
import Rtl8190.Lib.Run

/-!
# Replay protection of TKIP

The TSCs of accepted frames increase, even if each frame is replayed at once, exactly when every
genuine frame is compared (`tkip_replay_protected_iff`). The first frame after the key is set is not, nor
is a frame that the hardware has decrypted.
-/

open Rtl8190.Memory Rtl8190.Run

namespace Rtl8190.Crypt.Tkip

/-! ## Runs -/

/-- A received frame, with how the kernel's functions end. -/
structure Frame where
  skb : Skb
  hdrLen : Nat
  arc4Fails : Bool
  michaelFails : Bool
  forceMicError : Bool

def tsc (iv32 : BitVec 32) (iv16 : BitVec 16) : Nat := iv32.toNat * 65536 + iv16.toNat

def Frame.iv32 (f : Frame) : BitVec 32 := rxFrameIv32 f.skb f.hdrLen

def Frame.iv16 (f : Frame) : BitVec 16 := rxFrameIv16 f.skb f.hdrLen

def Frame.tsc (f : Frame) : Nat := Tkip.tsc f.iv32 f.iv16

def TkipData.rxTsc (tkey : TkipData) : Nat := tsc tkey.rxIv32 tkey.rxIv16

structure RxState where
  key : TkipData
  /-- The TSCs of the frames that were accepted, newest first. -/
  accepted : List Nat
  oops : Bool

variable (prim : Primitives)

def RxState.receive (s : RxState) (f : Frame) : RxState :=
  if s.oops then s
  else
    let d := rtllibTkipDecrypt prim f.arc4Fails s.key f.skb f.hdrLen
    match d.1 with
    | .error _ => ⟨d.2, s.accepted, false⟩
    | .ok (_, skb) =>
      let v := rtllibMichaelMicVerify prim f.michaelFails f.forceMicError d.2 skb f.hdrLen
      match v.1 with
      | .ok _ => ⟨v.2, f.tsc :: s.accepted, false⟩
      | .failed => ⟨v.2, s.accepted, false⟩
      | .oops => ⟨v.2, s.accepted, true⟩

def RxState.keyed (tkey : TkipData) (key : Nat → Byte) (len : Int) (seq : Option (Fin 6 → Byte)) :
    RxState :=
  ⟨(rtllibTkipSetKey key len seq tkey).2, [], false⟩

/-- The receive sequence number that is given to `rtllib_tkip_set_key`, the least significant byte
first. -/
def seqValue : Option (Fin 6 → Byte) → Nat
  | some seq => tsc ((seq 5 ++ seq 4) ++ (seq 3 ++ seq 2)) (seq 1 ++ seq 0)
  | none => 0

/-- The TSCs increase strictly, from above `seq`. -/
def Increasing (seq : Nat) (accepted : List Nat) : Prop :=
  accepted.Pairwise (· > ·) ∧ ∀ t ∈ accepted, seq < t

/-! ## Genuine frames -/

structure HeaderOk (tkey : TkipData) (f : Frame) : Prop where
  len : f.hdrLen + 8 + 4 ≤ f.skb.len
  extIv : (f.skb.byte (f.hdrLen + 3)).getLsbD 5 = true
  keyIdx : tkey.keyIdx = f.skb.byte (f.hdrLen + 3) >>> 6
  keySet : tkey.keySet = true

/-- The frame without IV and ICV, if the ICV is right or the hardware has looked at it. -/
def Frame.opened (tkey : TkipData) (f : Frame) : Option Skb :=
  if decryptsInSoftware f.skb then
    if f.arc4Fails then none
    else
      (tkipOpen prim tkey.key (rxPhase1 tkey f.skb.addr2 f.iv32).rxTtak f.skb f.hdrLen).map
        fun plain => ((f.skb.setFrom (f.hdrLen + 8) plain).pullIv f.hdrLen 8).trimEnd 4
  else some ((f.skb.pullIv f.hdrLen 8).trimEnd 4)

structure MicOk (tkey : TkipData) (f : Frame) (skb : Skb) : Prop where
  len : f.hdrLen + 8 ≤ skb.len
  michaelFails : f.michaelFails = false
  forceMicError : f.forceMicError = false
  mic : michaelMic prim (michaelKey tkey.key 24) skb f.hdrLen (skb.len - 8 - f.hdrLen) =
    skb.bytes (skb.len - 8) 8

/-- A frame that has everything but perhaps a new TSC. -/
structure Genuine (tkey : TkipData) (f : Frame) : Prop where
  header : HeaderOk tkey f
  mic : ∃ skb, f.opened prim tkey = some skb ∧ MicOk prim tkey f skb

/-- A genuine frame is compared, or new in any case. -/
def Compared (s : RxState) (f : Frame) : Prop :=
  s.oops = false → Genuine prim s.key f →
    decryptsInSoftware f.skb = true ∧ (s.key.initialized = true ∨ s.key.rxTsc < f.tsc)

/-! ## One frame -/

theorem replayed_iff (tkey : TkipData) (f : Frame) :
    replayed tkey f.iv32 f.iv16 = true ↔ tkey.initialized = true ∧ f.tsc ≤ tkey.rxTsc := by
  have h1 := f.iv16.isLt
  have h2 := tkey.rxIv16.isLt
  simp only [replayed, Frame.tsc, TkipData.rxTsc, tsc, Bool.and_eq_true, Bool.or_eq_true,
    decide_eq_true_eq, BitVec.lt_def, BitVec.le_def, ← BitVec.toNat_inj]
  constructor
  · rintro ⟨h, hinit⟩
    exact ⟨hinit, by omega⟩
  · rintro ⟨hinit, h⟩
    exact ⟨by omega, hinit⟩

/-- What only the transmit path changes. -/
def TkipData.tx (tkey : TkipData) : BitVec 32 × BitVec 16 × Ttak × Bool :=
  (tkey.txIv32, tkey.txIv16, tkey.txTtak, tkey.txPhase1Done)

/-- The parts of the key that no received frame changes. -/
structure SameKey (tkey tkey' : TkipData) : Prop where
  key : tkey'.key = tkey.key
  keyIdx : tkey'.keyIdx = tkey.keyIdx
  keySet : tkey'.keySet = tkey.keySet
  tx : tkey'.tx = tkey.tx

theorem SameKey.refl (tkey : TkipData) : SameKey tkey tkey := ⟨rfl, rfl, rfl, rfl⟩

theorem HeaderOk.congr {tkey tkey' : TkipData} {f : Frame} (h : SameKey tkey tkey')
    (hok : HeaderOk tkey' f) : HeaderOk tkey f :=
  ⟨hok.len, hok.extIv, h.keyIdx ▸ hok.keyIdx, h.keySet ▸ hok.keySet⟩

@[simp] theorem rxPhase1_key (tkey : TkipData) (ta : Addr) (iv32 : BitVec 32) :
    (rxPhase1 tkey ta iv32).key = tkey.key := by
  unfold rxPhase1; split <;> rfl

@[simp] theorem rxPhase1_keyIdx (tkey : TkipData) (ta : Addr) (iv32 : BitVec 32) :
    (rxPhase1 tkey ta iv32).keyIdx = tkey.keyIdx := by
  unfold rxPhase1; split <;> rfl

@[simp] theorem rxPhase1_keySet (tkey : TkipData) (ta : Addr) (iv32 : BitVec 32) :
    (rxPhase1 tkey ta iv32).keySet = tkey.keySet := by
  unfold rxPhase1; split <;> rfl

@[simp] theorem rxPhase1_tx (tkey : TkipData) (ta : Addr) (iv32 : BitVec 32) :
    (rxPhase1 tkey ta iv32).tx = tkey.tx := by
  unfold rxPhase1; split <;> rfl

@[simp] theorem rxPhase1_rxIv32 (tkey : TkipData) (ta : Addr) (iv32 : BitVec 32) :
    (rxPhase1 tkey ta iv32).rxIv32 = tkey.rxIv32 := by
  unfold rxPhase1; split <;> rfl

@[simp] theorem rxPhase1_rxIv16 (tkey : TkipData) (ta : Addr) (iv32 : BitVec 32) :
    (rxPhase1 tkey ta iv32).rxIv16 = tkey.rxIv16 := by
  unfold rxPhase1; split <;> rfl

@[simp] theorem rxPhase1_initialized (tkey : TkipData) (ta : Addr) (iv32 : BitVec 32) :
    (rxPhase1 tkey ta iv32).initialized = tkey.initialized := by
  unfold rxPhase1; split <;> rfl

theorem rxPhase1_ttak_initialized (tkey : TkipData) (ta : Addr) (iv32 : BitVec 32) (b : Bool) :
    (rxPhase1 { tkey with initialized := b } ta iv32).rxTtak = (rxPhase1 tkey ta iv32).rxTtak := by
  unfold rxPhase1; split <;> rfl

/-- What `rtllib_tkip_decrypt` leaves as it is. A frame that software decrypts sets the flag. -/
structure Kept (tkey : TkipData) (f : Frame) (tkey' : TkipData) : Prop extends SameKey tkey tkey' where
  rxIv32 : tkey'.rxIv32 = tkey.rxIv32
  rxIv16 : tkey'.rxIv16 = tkey.rxIv16
  mono : tkey.initialized = true → tkey'.initialized = true
  marks : HeaderOk tkey f → decryptsInSoftware f.skb = true → tkey'.initialized = true

/-- The frame gets as far as the phase 1 result. -/
structure Reaches (tkey : TkipData) (f : Frame) : Prop where
  header : HeaderOk tkey f
  software : decryptsInSoftware f.skb = true
  fresh : replayed tkey f.iv32 f.iv16 = false

/-- What `rtllib_tkip_decrypt` does to the phase 1 cache. -/
structure CacheStep (tkey : TkipData) (f : Frame) (tkey' : TkipData) : Prop where
  idle : ¬ Reaches tkey f → tkey'.rxTtak = tkey.rxTtak ∧ tkey'.rxPhase1Done = tkey.rxPhase1Done
  ttak : Reaches tkey f → tkey'.rxTtak = (rxPhase1 tkey f.skb.addr2 f.iv32).rxTtak
  done : Reaches tkey f → (tkey'.rxPhase1Done = true ↔
    f.iv32 = tkey.rxIv32 ∨ f.arc4Fails = true ∨ (f.opened prim tkey).isSome)

theorem CacheStep.same {tkey tkey' : TkipData} {f : Frame} (hno : ¬ Reaches tkey f)
    (httak : tkey'.rxTtak = tkey.rxTtak) (hdone : tkey'.rxPhase1Done = tkey.rxPhase1Done) :
    CacheStep prim tkey f tkey' :=
  ⟨fun _ => ⟨httak, hdone⟩, fun h => absurd h hno, fun h => absurd h hno⟩

@[simp] theorem rxPhase1_done (tkey : TkipData) (ta : Addr) (iv32 : BitVec 32) :
    (rxPhase1 tkey ta iv32).rxPhase1Done = true := by
  unfold rxPhase1
  split
  · rfl
  · rename_i h
    simpa using (not_or.mp h).2

/-- The two ways in which `rtllib_tkip_decrypt` ends. -/
inductive DecryptOutcome (tkey : TkipData) (f : Frame) : Except Int (Byte × Skb) × TkipData → Prop where
  | refused {rc : Int} {tkey' : TkipData} (kept : Kept tkey f tkey')
      (cache : CacheStep prim tkey f tkey')
      (why : HeaderOk tkey f → f.opened prim tkey = none ∨
        (decryptsInSoftware f.skb = true ∧ replayed tkey f.iv32 f.iv16 = true)) :
      DecryptOutcome tkey f (.error rc, tkey')
  | accepted {keyidx : Byte} {skb : Skb} {tkey' : TkipData} (kept : Kept tkey f tkey')
      (cache : CacheStep prim tkey f tkey') (header : HeaderOk tkey f)
      (fresh : decryptsInSoftware f.skb = true → replayed tkey f.iv32 f.iv16 = false)
      (opened : f.opened prim tkey = some skb)
      (iv32 : tkey'.rxIv32New = f.iv32) (iv16 : tkey'.rxIv16New = f.iv16) :
      DecryptOutcome tkey f (.ok (keyidx, skb), tkey')

theorem DecryptOutcome.stopped {tkey : TkipData} {f : Frame} {rc : Int} (hno : ¬ HeaderOk tkey f) :
    DecryptOutcome prim tkey f (.error rc, tkey) :=
  .refused ⟨.refl tkey, rfl, rfl, id, fun h => absurd h hno⟩
    (.same prim (fun h => hno h.header) rfl rfl) fun h => absurd h hno

theorem kept_rxPhase1 (tkey : TkipData) (f : Frame) :
    Kept tkey f (rxPhase1 { tkey with initialized := true } f.skb.addr2 f.iv32) := by
  refine ⟨⟨?_, ?_, ?_, ?_⟩, ?_, ?_, ?_, ?_⟩ <;> simp
  rfl

theorem decrypt_outcome_software {tkey : TkipData} {f : Frame} (hok : HeaderOk tkey f)
    (hsw : decryptsInSoftware f.skb = true) (keyidx : Byte) :
    DecryptOutcome prim tkey f
      (if replayed tkey f.iv32 f.iv16 then
        (.error (-4), { tkey with
          dot11RsnaStatsTkipReplays := tkey.dot11RsnaStatsTkipReplays + 1 })
      else
        let tkey := rxPhase1 { tkey with initialized := true } f.skb.addr2 f.iv32
        if f.arc4Fails then (.error (-7), tkey)
        else
          match tkipOpen prim tkey.key tkey.rxTtak f.skb f.hdrLen with
          | none =>
            (.error (-5), { tkey with
              rxPhase1Done := if f.iv32 ≠ tkey.rxIv32 then false else tkey.rxPhase1Done
              dot11RsnaStatsTkipIcvErrors := tkey.dot11RsnaStatsTkipIcvErrors + 1 })
          | some plain =>
            tkipAccept tkey (f.skb.setFrom (f.hdrLen + 8) plain) f.hdrLen keyidx f.iv32 f.iv16) := by
  -- A frame whose header is in order, and that software decrypts.
  split
  · rename_i hrep
    have hinit := ((replayed_iff tkey f).mp hrep).1
    have hno : ¬ Reaches tkey f := fun h => by simp [h.fresh] at hrep
    exact .refused ⟨⟨rfl, rfl, rfl, rfl⟩, rfl, rfl, id, fun _ _ => hinit⟩ (.same prim hno rfl rfl)
      fun _ => .inr ⟨hsw, hrep⟩
  rename_i hrep
  have hreach : Reaches tkey f := ⟨hok, hsw, eq_false_of_ne_true hrep⟩
  have hopen : f.opened prim tkey = if f.arc4Fails then none else
      (tkipOpen prim tkey.key (rxPhase1 tkey f.skb.addr2 f.iv32).rxTtak f.skb f.hdrLen).map
        fun plain => ((f.skb.setFrom (f.hdrLen + 8) plain).pullIv f.hdrLen 8).trimEnd 4 := if_pos hsw
  simp only
  split
  · rename_i harc4
    rw [if_pos harc4] at hopen
    refine .refused (kept_rxPhase1 tkey f) ⟨fun h => absurd hreach h, fun _ => ?_, fun _ => ?_⟩
      fun _ => .inl hopen <;> simp [harc4, rxPhase1_ttak_initialized]
  rename_i harc4
  rw [if_neg harc4] at hopen
  have kept := kept_rxPhase1 tkey f
  split
  · rename_i hplain
    rw [rxPhase1_key, rxPhase1_ttak_initialized] at hplain
    rw [hplain] at hopen
    refine .refused ⟨⟨kept.key, kept.keyIdx, kept.keySet, kept.tx⟩, kept.rxIv32, kept.rxIv16, kept.mono,
      kept.marks⟩ ⟨fun h => absurd hreach h, fun _ => ?_, fun _ => ?_⟩ fun _ => .inl hopen
    · simp [rxPhase1_ttak_initialized]
    · simp [harc4, hopen]
  · rename_i plain hplain
    rw [rxPhase1_key, rxPhase1_ttak_initialized] at hplain
    rw [hplain] at hopen
    refine .accepted ⟨⟨kept.key, kept.keyIdx, kept.keySet, kept.tx⟩, kept.rxIv32, kept.rxIv16, kept.mono,
      kept.marks⟩ ⟨fun h => absurd hreach h, fun _ => ?_, fun _ => ?_⟩ hok (fun _ => hreach.fresh) hopen
      rfl rfl
    · simp [rxPhase1_ttak_initialized]
    · simp [hopen]

theorem decrypt_outcome (tkey : TkipData) (f : Frame) :
    DecryptOutcome prim tkey f (rtllibTkipDecrypt prim f.arc4Fails tkey f.skb f.hdrLen) := by
  unfold rtllibTkipDecrypt
  split
  · rename_i hlen
    exact .stopped prim fun h => Nat.not_lt.mpr h.len hlen
  rename_i hlen
  simp only
  split
  · rename_i hext
    exact .stopped prim fun h => by rw [h.extIv] at hext; cases hext
  rename_i hext
  split
  · rename_i hidx
    exact .stopped prim fun h => hidx h.keyIdx
  rename_i hidx
  split
  · rename_i hset
    exact .stopped prim fun h => by rw [h.keySet] at hset; cases hset
  rename_i hset
  have hok : HeaderOk tkey f := ⟨Nat.not_lt.mp hlen, by simpa using hext, not_not.mp hidx,
    by simpa using hset⟩
  split
  · rename_i hsw
    exact decrypt_outcome_software prim hok hsw _
  · rename_i hsw
    exact .accepted ⟨⟨rfl, rfl, rfl, rfl⟩, rfl, rfl, id, fun _ h => absurd h hsw⟩
      (.same prim (fun h => hsw h.software) rfl rfl) hok (fun h => absurd h hsw) (if_neg hsw) rfl rfl

theorem verify_cases {tkey : TkipData} (hset : tkey.keySet = true) (f : Frame) (skb : Skb) :
    (MicOk prim tkey f skb ∧ ∃ skb',
      rtllibMichaelMicVerify prim f.michaelFails f.forceMicError tkey skb f.hdrLen =
        (.ok skb', { tkey with rxIv32 := tkey.rxIv32New, rxIv16 := tkey.rxIv16New })) ∨
    (¬ MicOk prim tkey f skb ∧ ∃ res n,
      rtllibMichaelMicVerify prim f.michaelFails f.forceMicError tkey skb f.hdrLen =
        (res, { tkey with dot11RsnaStatsTkipLocalMicFailures := n }) ∧ ∀ skb', res ≠ .ok skb') := by
  -- `rtllib_michael_mic_verify` commits the TSC, or changes a counter.
  unfold rtllibMichaelMicVerify
  rw [if_neg (by simp [hset])]
  split
  · rename_i hlen
    exact .inr ⟨fun h => Nat.not_lt.mpr h.len hlen, _, _, rfl, nofun⟩
  rename_i hlen
  split
  · rename_i hfail
    exact .inr ⟨fun h => by simp [h.michaelFails] at hfail, _, _, rfl, nofun⟩
  rename_i hfail
  simp only
  split
  · rename_i hmic
    exact .inr ⟨fun h => hmic.elim (absurd h.mic) (by simp [h.forceMicError]), _, _, rfl, nofun⟩
  · rename_i hmic
    simp only [not_or, not_not, Bool.not_eq_true] at hmic
    exact .inl ⟨⟨Nat.not_lt.mp hlen, by simpa using hfail, hmic.2, hmic.1⟩, _, rfl⟩

def Accepts (tkey : TkipData) (f : Frame) : Prop :=
  Genuine prim tkey f ∧ (decryptsInSoftware f.skb = true → replayed tkey f.iv32 f.iv16 = false)

theorem MicOk.congr {tkey tkey' : TkipData} {f : Frame} {skb : Skb} (h : tkey'.key = tkey.key) :
    MicOk prim tkey' f skb ↔ MicOk prim tkey f skb := by
  constructor
  · exact fun hok => ⟨hok.len, hok.michaelFails, hok.forceMicError, h ▸ hok.mic⟩
  · exact fun hok => ⟨hok.len, hok.michaelFails, hok.forceMicError, h.symm ▸ hok.mic⟩

theorem receive_cases (s : RxState) (f : Frame) (hoops : s.oops = false) :
    (Accepts prim s.key f ∧ (s.receive prim f).accepted = f.tsc :: s.accepted ∧
      (s.receive prim f).key.rxTsc = f.tsc ∧ SameKey s.key (s.receive prim f).key ∧
      (s.receive prim f).oops = false ∧
      (decryptsInSoftware f.skb = true → (s.receive prim f).key.initialized = true)) ∨
    (¬ Accepts prim s.key f ∧ (s.receive prim f).accepted = s.accepted ∧
      Kept s.key f (s.receive prim f).key) := by
  unfold RxState.receive
  simp only [hoops, Bool.false_eq_true, if_false]
  have hout := decrypt_outcome prim s.key f
  generalize rtllibTkipDecrypt prim f.arc4Fails s.key f.skb f.hdrLen = d at hout
  cases hout with
  | refused kept _ why =>
    refine .inr ⟨fun ⟨hgen, hnew⟩ => ?_, rfl, kept⟩
    obtain ⟨skb, hskb, _⟩ := hgen.mic
    rcases why hgen.header with hnone | ⟨hsw, hrep⟩
    · simp [hnone] at hskb
    · simp [hnew hsw] at hrep
  | @accepted keyidx skb tkey' kept _ header fresh opened iv32 iv16 =>
    have hset : tkey'.keySet = true := kept.keySet.trans header.keySet
    rcases verify_cases prim hset f skb with ⟨hmic, skb', heq⟩ | ⟨hmic, res, n, heq, hres⟩
    · simp only [heq]
      refine .inl ⟨⟨⟨header, skb, opened, (MicOk.congr prim kept.key).mp hmic⟩, fresh⟩, trivial, ?_,
        ⟨kept.key, kept.keyIdx, kept.keySet, kept.tx⟩, trivial, kept.marks header⟩
      simp [TkipData.rxTsc, Frame.tsc, iv32, iv16]
    · simp only [heq]
      refine .inr ⟨fun ⟨hgen, _⟩ => ?_, ?_⟩
      · obtain ⟨skb₁, hskb, hok⟩ := hgen.mic
        obtain rfl : skb = skb₁ := Option.some.inj (opened.symm.trans hskb)
        exact hmic ((MicOk.congr prim kept.key).mpr hok)
      · cases res with
        | ok skb' => exact absurd rfl (hres skb')
        | failed =>
          exact ⟨rfl, ⟨kept.key, kept.keyIdx, kept.keySet, kept.tx⟩, kept.rxIv32, kept.rxIv16, kept.mono,
            kept.marks⟩
        | oops =>
          exact ⟨rfl, ⟨kept.key, kept.keyIdx, kept.keySet, kept.tx⟩, kept.rxIv32, kept.rxIv16, kept.mono,
            kept.marks⟩

/-! ## A run -/

structure Guarded (seq : Nat) (s : RxState) : Prop where
  start : s.key.keySet = true → seq ≤ s.key.rxTsc
  fresh : s.key.keySet = true → s.key.initialized = false → s.key.rxTsc = seq
  increasing : Increasing seq s.accepted
  newest : ∀ t ∈ s.accepted, t ≤ s.key.rxTsc

theorem guarded_keyed (tkey : TkipData) (key : Nat → Byte) (len : Int)
    (seq : Option (Fin 6 → Byte)) :
    Guarded (seqValue seq) (RxState.keyed tkey key len seq) := by
  have hempty : Increasing (seqValue seq) [] := ⟨.nil, by simp⟩
  unfold RxState.keyed rtllibTkipSetKey
  split_ifs
  · cases seq with
    | none => exact ⟨fun _ => Nat.zero_le _, fun _ _ => by simp [TkipData.rxTsc, tsc, seqValue],
        hempty, by simp⟩
    | some seq => exact ⟨fun _ => le_rfl, fun _ _ => rfl, hempty, by simp⟩
  · exact ⟨nofun, nofun, hempty, by simp⟩
  · exact ⟨nofun, nofun, hempty, by simp⟩

theorem receive_oops {s : RxState} (h : s.oops = true) (f : Frame) : s.receive prim f = s := if_pos h

theorem receive_guarded {seq : Nat} {s : RxState} (h : Guarded seq s) (f : Frame)
    (hc : Compared prim s f) : Guarded seq (s.receive prim f) := by
  by_cases hoops : s.oops = true
  · rw [receive_oops prim hoops]
    exact h
  have hoops : s.oops = false := by simpa using hoops
  rcases receive_cases prim s f hoops with ⟨hacc, haccepted, htsc, hsame, _, hmarks⟩ |
    ⟨_, haccepted, hkept⟩
  · obtain ⟨hsw, hnew⟩ := hc hoops hacc.1
    have hgt : s.key.rxTsc < f.tsc := by
      rcases hnew with hinit | hgt
      · by_contra hle
        have hrep := (replayed_iff s.key f).mpr ⟨hinit, Nat.not_lt.mp hle⟩
        simp [hacc.2 hsw] at hrep
      · exact hgt
    have hseq := h.start hacc.1.header.keySet
    refine ⟨fun _ => ?_, fun _ hinit => ?_, ?_, ?_⟩
    · rw [htsc]
      exact hseq.trans hgt.le
    · simp [hmarks hsw] at hinit
    · rw [haccepted]
      refine ⟨List.pairwise_cons.mpr ⟨fun t ht => (h.newest t ht).trans_lt hgt, h.increasing.1⟩, ?_⟩
      rintro t (_ | ⟨_, ht⟩)
      · exact hseq.trans_lt hgt
      · exact h.increasing.2 t ht
    · rw [haccepted, htsc]
      rintro t (_ | ⟨_, ht⟩)
      · exact le_rfl
      · exact (h.newest t ht).trans hgt.le
  · have htsc : (s.receive prim f).key.rxTsc = s.key.rxTsc := by
      simp [TkipData.rxTsc, hkept.rxIv32, hkept.rxIv16]
    refine ⟨?_, fun hset hinit => ?_, ?_, ?_⟩
    · rw [hkept.keySet, htsc]
      exact h.start
    · rw [hkept.keySet] at hset
      rw [htsc]
      refine h.fresh hset ?_
      by_contra hnot
      simp [hkept.mono (by simpa using hnot)] at hinit
    · rw [haccepted]
      exact h.increasing
    · rw [haccepted, htsc]
      exact h.newest

theorem compared_again {s : RxState} {f : Frame} (hc : Compared prim s f) :
    Compared prim (s.receive prim f) f := by
  -- A frame that was compared, or not genuine, is so when it comes again.
  intro hoops' hgen
  by_cases hoops : s.oops = true
  · rw [receive_oops prim hoops] at hoops'
    simp [hoops] at hoops'
  have hoops : s.oops = false := by simpa using hoops
  by_cases hsw : decryptsInSoftware f.skb = true
  · refine ⟨hsw, .inl ?_⟩
    rcases receive_cases prim s f hoops with ⟨_, _, _, _, _, hmarks⟩ | ⟨_, _, hkept⟩
    · exact hmarks hsw
    · exact hkept.marks (hgen.header.congr hkept.toSameKey) hsw
  · -- The hardware has decrypted the frame, so it is as genuine as before.
    have hsame : SameKey s.key (s.receive prim f).key := by
      rcases receive_cases prim s f hoops with ⟨_, _, _, hsame, _⟩ | ⟨_, _, hkept⟩
      · exact hsame
      · exact hkept.toSameKey
    obtain ⟨skb, hskb, hmic⟩ := hgen.mic
    have hopened : f.opened prim s.key = some skb := by
      rw [Frame.opened, if_neg hsw] at hskb ⊢
      exact hskb
    exact absurd (hc hoops ⟨hgen.header.congr hsame, skb, hopened, (MicOk.congr prim hsame.key).mp hmic⟩).1 hsw

/-- A genuine frame that the hardware has decrypted is accepted as often as it comes. -/
theorem accepted_again {s : RxState} {f : Frame} (hoops : s.oops = false)
    (hsw : decryptsInSoftware f.skb = false) (hgen : Genuine prim s.key f) :
    ((s.receive prim f).receive prim f).accepted = f.tsc :: f.tsc :: s.accepted := by
  have hnew : ∀ tkey : TkipData, decryptsInSoftware f.skb = true →
      replayed tkey f.iv32 f.iv16 = false := fun _ h => by simp [hsw] at h
  have hone : ∀ t : RxState, t.oops = false → Genuine prim t.key f →
      (t.receive prim f).accepted = f.tsc :: t.accepted ∧ (t.receive prim f).oops = false ∧
        SameKey t.key (t.receive prim f).key := fun t ht hg => by
    rcases receive_cases prim t f ht with ⟨_, hacc, _, hsame, ho, _⟩ | ⟨hno, _⟩
    · exact ⟨hacc, ho, hsame⟩
    · exact absurd ⟨hg, hnew t.key⟩ hno
  obtain ⟨hacc, ho, hsame⟩ := hone s hoops hgen
  have hgen' : Genuine prim (s.receive prim f).key f := by
    obtain ⟨skb, hskb, hmic⟩ := hgen.mic
    refine ⟨⟨hgen.header.len, hgen.header.extIv, ?_, ?_⟩, skb, ?_, (MicOk.congr prim hsame.key).mpr hmic⟩
    · rw [hsame.keyIdx]; exact hgen.header.keyIdx
    · rw [hsame.keySet]; exact hgen.header.keySet
    · simp only [Frame.opened, hsw, Bool.false_eq_true, if_false] at hskb ⊢
      exact hskb
  rw [(hone _ ho hgen').1, hacc]

/-- The TSCs increase, whichever frame is replayed, exactly when every genuine frame is compared with
the last one. -/
theorem tkip_replay_protected_iff (tkey : TkipData) (key : Nat → Byte) (len : Int)
    (seq : Option (Fin 6 → Byte)) (es : List Frame) :
    let s := RxState.keyed tkey key len seq
    Meets (RxState.receive prim) (Compared prim) s es ↔
      ∀ fs f, fs ++ [f] <+: es →
        Increasing (seqValue seq) (exec (RxState.receive prim) s (fs ++ [f])).accepted ∧
        Increasing (seqValue seq) (exec (RxState.receive prim) s (fs ++ [f, f])).accepted := by
  intro s
  have hrun : ∀ {gs}, Meets (RxState.receive prim) (Compared prim) s gs →
      Guarded (seqValue seq) (exec (RxState.receive prim) s gs) := fun hgs =>
    exec_inv (I := Guarded (seqValue seq)) (fun s f h hc => receive_guarded prim h f hc)
      (guarded_keyed tkey key len seq) hgs
  constructor
  · intro h fs f hfs
    have hmeets : Meets (RxState.receive prim) (Compared prim) s (fs ++ [f]) := h.before hfs
    refine ⟨(hrun hmeets).increasing, (hrun ?_).increasing⟩
    obtain ⟨hfs', hf, -⟩ := (meets_append ..).mp hmeets
    exact (meets_append ..).mpr ⟨hfs', hf, compared_again prim hf, trivial⟩
  · intro h
    induction es using List.reverseRecOn with
    | nil => trivial
    | append_singleton es f ih =>
      have hes := ih fun fs g hfs => h fs g (hfs.trans (List.prefix_append ..))
      refine (meets_append ..).mpr ⟨hes, ⟨fun hoops hgen => ?_, trivial⟩⟩
      obtain ⟨hone, htwo⟩ := h es f (List.prefix_refl _)
      rw [exec_append] at hone htwo
      have hguard := hrun hes
      generalize exec (RxState.receive prim) s es = t at *
      have hsw : decryptsInSoftware f.skb = true := by
        by_contra hsw
        have hacc := accepted_again prim hoops (by simpa using hsw) hgen
        rw [show (exec (RxState.receive prim) t [f, f]).accepted = _ from hacc] at htwo
        exact absurd ((List.pairwise_cons.mp htwo.1).1 _ List.mem_cons_self) (lt_irrefl _)
      refine ⟨hsw, or_iff_not_imp_left.mpr fun hinit => ?_⟩
      -- The frame is accepted unseen, and must be above `seq`.
      have hinit : t.key.initialized = false := by simpa using hinit
      have hacc : Accepts prim t.key f := ⟨hgen, fun _ => by simp [replayed, hinit]⟩
      rw [hguard.fresh hgen.header.keySet hinit]
      rcases receive_cases prim t f hoops with ⟨_, haccepted, _⟩ | ⟨hno, _⟩
      · rw [show (exec (RxState.receive prim) t [f]).accepted = _ from haccepted] at hone
        exact hone.2 _ List.mem_cons_self
      · exact absurd hacc hno

/-- A frame with TSC 3, whose MIC the hardware has left in place. -/
def hardwareFrame : Frame where
  skb := ⟨0, List.replicate 24 0 ++ [0, 0x20, 3, 0x20, 0, 0, 0, 0] ++ List.replicate 12 0, 0, true, 0⟩
  hdrLen := 24
  arc4Fails := false
  michaelFails := false
  forceMicError := false

/-- The same frame is accepted twice in hardware-decrypt mode. -/
theorem tkip_not_always_increasing :
    ¬ ∀ (prim : Primitives) (tkey : TkipData) (key : Nat → Byte) (len : Int)
        (seq : Option (Fin 6 → Byte)) (es : List Frame),
        Increasing (seqValue seq)
          (exec (RxState.receive prim) (RxState.keyed tkey key len seq) es).accepted := by
  intro h
  have hinc := (h ⟨fun _ d => d, fun _ => 0, fun _ _ _ => 0⟩
    ⟨fun _ => 0, false, 0, 0, ⟨0, 0, 0, 0, 0⟩, false, 0, 0, false, ⟨0, 0, 0, 0, 0⟩, false, 0, 0, 0, 0,
      0, 0⟩ (fun _ => 1) 32 (some fun _ => 0) [hardwareFrame, hardwareFrame]).1
  exact absurd hinc (by decide)

end Rtl8190.Crypt.Tkip
