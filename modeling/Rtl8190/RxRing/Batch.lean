import Rtl8190.Lib.Run
import Rtl8190.RxRing.Code

/-!
# The frames of one `rtl8192_rx`

`stats`, `unicast_packet` and `bLedBlinking` are set up once for all the frames of a call. What a
frame does not set itself, it has from the frames before it.
-/

open Rtl8190.Memory Rtl8190.Run

namespace Rtl8190.RxRing

/-! ## What a frame leaves to the next -/

/-- The variables that not every frame sets. -/
structure Carried where
  bContainHTC : Bool
  len : BitVec 16
  signal : Byte
  noise : Byte
  bShift : Bool
  rxPower : Int
  rxMIMOSignalStrength : Fin 4 → Nat
  cckAdcPwdb : Fin 4 → Int
  signalQuality : Nat
  signalStrength : Nat
  unicastPacket : Bool
  bLedBlinking : Bool
  deriving DecidableEq

def Batch.carried (b : Batch) : Carried where
  bContainHTC := b.stats.bContainHTC
  len := b.stats.len
  signal := b.stats.signal
  noise := b.stats.noise
  bShift := b.stats.bShift
  rxPower := b.stats.rxPower
  rxMIMOSignalStrength := b.stats.rxMIMOSignalStrength
  cckAdcPwdb := b.stats.cckAdcPwdb
  signalQuality := b.stats.signalQuality
  signalStrength := b.stats.signalStrength
  unicastPacket := b.unicastPacket
  bLedBlinking := b.bLedBlinking

/-- A frame that was handled. -/
structure Earlier where
  received : Received
  rtllibRx : RtllibRx

/-- The variables after the frame `e`. A bad one is not looked at, but for its descriptor. -/
def Carried.after (c : Carried) (e : Earlier) : Carried :=
  let r := e.received
  if r.desc.bad then { c with bShift := false }
  else
    { bContainHTC := c.bContainHTC || e.rtllibRx.containHTC
      len := e.rtllibRx.len.getD c.len
      signal := (e.rtllibRx.signal.map (·.1)).getD c.signal
      noise := (e.rtllibRx.signal.map (·.2)).getD c.noise
      bShift := if r.bufShift + r.desc.rxDrvInfoSize.toNat > 0 then true else c.bShift
      rxPower := if r.isCck then c.rxPower else ofdmPower r
      rxMIMOSignalStrength := if !r.isCck && r.matchBssid then
          fun i => queryRxpwrpercentage (pathPower r i)
        else c.rxMIMOSignalStrength
      cckAdcPwdb := if r.isCck && (r.settings.rxPathSel && r.matchBssid) then
          fun i => (r.phyStatus i).toInt.tdiv 2
        else c.cckAdcPwdb
      signalQuality := if r.matchBssid then
          if r.isCck then cckQuality r (queryRxpwrpercentage (cckPower r)) else streamEvm r 0
        else c.signalQuality
      signalStrength := if r.isCck then signalScaleMapping (queryRxpwrpercentage (cckPower r))
        else c.signalStrength
      unicastPacket := c.unicastPacket || r.unicast
      bLedBlinking := c.bLedBlinking && !r.isMgmt }

/-- What the frames of a history leave. -/
def left (history : List Earlier) : Carried :=
  history.foldl Carried.after (startBatch (0, 0)).carried

/-- The variables of `rtl8192_rx` after the frames of a history. -/
def frames (lastRxDescTSF : BitVec 32 × BitVec 32) (history : List Earlier) : Batch :=
  exec (fun b e => handle b e.received e.rtllibRx) (startBatch lastRxDescTSF) history

theorem receive_good {b : Batch} {r : Received} (h : r.desc.bad = false) :
    receive b r =
      let q := queryStatusDesc b.lastRxDescTSF b.stats r
      (⟨q.2.2, b.unicastPacket || r.unicast, b.bLedBlinking && !r.isMgmt, q.2.1⟩,
        some ⟨q.2.2, b.unicastPacket || r.unicast,
          b.bLedBlinking && !r.isMgmt && r.settings.ledControlHandler⟩) := by
  unfold receive queryStatusDesc
  simp only [h, Bool.false_eq_true, if_false, if_true]

theorem receive_bad {b : Batch} {r : Received} (h : r.desc.bad = true) :
    receive b r =
      let q := queryStatusDesc b.lastRxDescTSF b.stats r
      ({ b with stats := q.2.2, lastRxDescTSF := q.2.1 }, none) := by
  unfold receive queryStatusDesc
  simp only [h, if_true, Bool.false_eq_true, if_false]

def stamp (last : BitVec 32 × BitVec 32) (stats : RxStats) : BitVec 32 × BitVec 32 :=
  if stats.bIsAMPDU && !stats.bFirstMPDU then last else stats.macTime

theorem updateRxPktTimeStamp_eq (last : BitVec 32 × BitVec 32) (stats : RxStats) :
    updateRxPktTimeStamp last stats = (stamp last stats, { stats with macTime := stamp last stats }) := by
  unfold updateRxPktTimeStamp stamp
  split
  · rfl
  · rfl

theorem handle_carried (b : Batch) (e : Earlier) :
    (handle b e.received e.rtllibRx).carried = b.carried.after e := by
  -- What a frame does not set itself, it leaves as it was.
  unfold handle Carried.after
  cases hbad : e.received.desc.bad with
  | true =>
    rw [receive_bad hbad]
    unfold queryStatusDesc
    simp only [hbad, if_true]
    rfl
  | false =>
    rw [receive_good hbad]
    rcases Bool.eq_false_or_eq_true e.received.isCck with hcck | hcck
    · simp only [queryStatusDesc, translateRxSignalStuff, queryRxphystatus, queryCck, hbad, hcck,
        updateRxPktTimeStamp_eq, Bool.false_eq_true, if_false, if_true,
        Bool.true_and, Bool.not_true, Bool.false_and, Option.isSome_some, RtllibRx.stats, Batch.carried]
    · simp only [queryStatusDesc, translateRxSignalStuff, queryRxphystatus, queryOfdm, hbad, hcck,
        updateRxPktTimeStamp_eq, Bool.false_eq_true, if_false, if_true,
        Bool.true_and, Bool.not_false, Bool.false_and, Option.isSome_some, RtllibRx.stats, Batch.carried]

/-- Where the frames before leave the same variables, `rtl8192_rx` goes on with the same. -/
theorem frames_carried (lastRxDescTSF : BitVec 32 × BitVec 32) (history : List Earlier) :
    (frames lastRxDescTSF history).carried = left history := by
  unfold frames left
  rw [show (startBatch (0, 0)).carried = (startBatch lastRxDescTSF).carried from rfl]
  generalize startBatch lastRxDescTSF = b
  induction history generalizing b with
  | nil => rfl
  | cons e history ih => rw [exec_cons, List.foldl_cons, ih, handle_carried]

/-! ## Two runs -/

/-- Without the two values that frames share on purpose. -/
def Handled.compared (h : Handled) : Handled :=
  { h with stats := { h.stats with macTime := (0, 0), rssi := 0 } }

/-- What `rtl8192_rx` does with the next frame, as far as it should depend on that frame alone. -/
def passed (b : Batch) (r : Received) : Option Handled := (receive b r).2.map Handled.compared

/-- The same frame, in a run where the station has another BSSID and another average. -/
def Received.seenAt (r : Received) (bssid : Addr) (rssi : Int) : Received :=
  { r with settings := { r.settings with bssid }, rssi }

/-- Of the variables that `r` does not set, both runs have the same. -/
structure Agree (r : Received) (c₁ c₂ : Carried) : Prop where
  bContainHTC : c₁.bContainHTC = c₂.bContainHTC
  len : c₁.len = c₂.len
  signal : c₁.signal = c₂.signal
  noise : c₁.noise = c₂.noise
  bShift : r.bufShift + r.desc.rxDrvInfoSize.toNat = 0 → c₁.bShift = c₂.bShift
  rxPower : r.isCck = true → c₁.rxPower = c₂.rxPower
  rxMIMOSignalStrength : r.isCck = true ∨ r.matchBssid = false →
    c₁.rxMIMOSignalStrength = c₂.rxMIMOSignalStrength
  cckAdcPwdb : ¬ (r.isCck = true ∧ r.settings.rxPathSel = true ∧ r.matchBssid = true) →
    c₁.cckAdcPwdb = c₂.cckAdcPwdb
  signalQuality : r.matchBssid = false → c₁.signalQuality = c₂.signalQuality
  signalStrength : r.isCck = false → c₁.signalStrength = c₂.signalStrength
  unicastPacket : r.unicast = false → c₁.unicastPacket = c₂.unicastPacket
  bLedBlinking : r.isMgmt = false → r.settings.ledControlHandler = true →
    c₁.bLedBlinking = c₂.bLedBlinking

variable {r : Received} {b b₁ b₂ : Batch}

theorem passed_bad (h : r.desc.bad = true) : passed b r = none := by
  unfold passed
  rw [receive_bad h]
  rfl

theorem passed_good (h : r.desc.bad = false) :
    passed b r = some (Handled.compared ⟨(queryStatusDesc b.lastRxDescTSF b.stats r).2.2,
      b.unicastPacket || r.unicast, b.bLedBlinking && !r.isMgmt && r.settings.ledControlHandler⟩) := by
  unfold passed
  rw [receive_good h]
  rfl

theorem passed_seenAt {bssid : Addr} {rssi : Int} (hbad : r.desc.bad = false)
    (h : (r.seenAt bssid rssi).matchBssid = r.matchBssid) :
    passed b (r.seenAt bssid rssi) = passed b r := by
  have hcck' : (r.seenAt bssid rssi).isCck = r.isCck := rfl
  have hbad' : (r.seenAt bssid rssi).desc.bad = r.desc.bad := rfl
  rw [passed_good hbad, passed_good (hbad'.trans hbad)]
  rcases Bool.eq_false_or_eq_true r.isCck with hcck | hcck
  · simp only [queryStatusDesc, translateRxSignalStuff, queryRxphystatus, queryCck, hbad, hbad', hcck, hcck', h,
        updateRxPktTimeStamp_eq, Bool.false_eq_true, if_false, if_true, Handled.compared, Received.toSelf]
    rfl
  · simp only [queryStatusDesc, translateRxSignalStuff, queryRxphystatus, queryOfdm, hbad, hbad', hcck, hcck', h,
        updateRxPktTimeStamp_eq, Bool.false_eq_true, if_false, Handled.compared, Received.toSelf]
    rfl

theorem queryStatusDesc_matchBssid {last : BitVec 32 × BitVec 32} {stats : RxStats}
    (h : r.desc.bad = false) : (queryStatusDesc last stats r).2.2.bPacketMatchBSSID = r.matchBssid := by
  unfold queryStatusDesc translateRxSignalStuff queryRxphystatus
  simp only [h, Bool.false_eq_true, if_false]
  split
  · rfl
  · rfl

structure Fixed (b : Batch) : Prop where
  freq : b.stats.freq = 1
  nicType : b.stats.nicType = 1

theorem ite_kept_iff {α : Type*} {p : Prop} [Decidable p] {x a₁ a₂ : α} :
    (if p then x else a₁) = (if p then x else a₂) ↔ (¬ p → a₁ = a₂) := by
  split
  · rename_i hp
    exact ⟨fun _ hno => absurd hp hno, fun _ => rfl⟩
  · rename_i hp
    exact ⟨fun h _ => h, fun h => h hp⟩

theorem or_kept_iff {x a₁ a₂ : Bool} : (a₁ || x) = (a₂ || x) ↔ (x = false → a₁ = a₂) := by
  cases x with
  | false => simp
  | true => simp

theorem and_kept_iff {x y a₁ a₂ : Bool} :
    (a₁ && !x && y) = (a₂ && !x && y) ↔ (x = false → y = true → a₁ = a₂) := by
  cases x with
  | false => cases y with
    | false => simp
    | true => simp
  | true => simp

theorem passed_eq_iff (hbad : r.desc.bad = false) (h₁ : Fixed b₁) (h₂ : Fixed b₂) :
    passed b₁ r = passed b₂ r ↔ Agree r b₁.carried b₂.carried := by
  rw [passed_good hbad, passed_good hbad, Option.some_inj]
  rcases Bool.eq_false_or_eq_true r.isCck with hcck | hcck
  · simp only [queryStatusDesc, translateRxSignalStuff, queryRxphystatus, queryCck, hbad, hcck,
      updateRxPktTimeStamp_eq, Bool.false_eq_true, if_false, if_true, Handled.compared,
      Handled.mk.injEq, RxStats.mk.injEq, true_and, and_true, h₁.freq, h₂.freq, h₁.nicType, h₂.nicType,
      ite_kept_iff, or_kept_iff, and_kept_iff, Bool.not_eq_true, Bool.and_eq_true]
    constructor
    · rintro ⟨⟨hsignal, hnoise, hlen, hquality, hpower, hshift, hhtc, hmimo, hadc⟩, hunicast, hled⟩
      exact ⟨hhtc, hlen, hsignal, hnoise, fun h => hshift (by omega), fun _ => hpower, fun _ => hmimo,
        fun h => hadc fun hsel => h ⟨hcck, hsel⟩, hquality, fun h => absurd (hcck.symm.trans h) (by simp),
        hunicast, hled⟩
    · intro h
      exact ⟨⟨h.signal, h.noise, h.len, h.signalQuality, h.rxPower hcck, fun hs => h.bShift (by omega),
        h.bContainHTC, h.rxMIMOSignalStrength (Or.inl hcck), fun hs => h.cckAdcPwdb fun hsel => hs hsel.2⟩,
        h.unicastPacket, h.bLedBlinking⟩
  · have hofdm : ¬ r.isCck = true := by simp [hcck]
    simp only [queryStatusDesc, translateRxSignalStuff, queryRxphystatus, queryOfdm, hbad, hcck,
      updateRxPktTimeStamp_eq, Bool.false_eq_true, if_false, Handled.compared,
      Handled.mk.injEq, RxStats.mk.injEq, true_and, and_true, h₁.freq, h₂.freq, h₁.nicType, h₂.nicType,
      ite_kept_iff, or_kept_iff, and_kept_iff, Bool.not_eq_true]
    constructor
    · rintro ⟨⟨hsignal, hnoise, hlen, hquality, hstrength, hshift, hhtc, hmimo, hadc⟩, hunicast, hled⟩
      exact ⟨hhtc, hlen, hsignal, hnoise, fun h => hshift (by omega), fun h => absurd h hofdm,
        fun h => hmimo (h.resolve_left hofdm), fun _ => hadc, hquality, fun _ => hstrength, hunicast, hled⟩
    · intro h
      exact ⟨⟨h.signal, h.noise, h.len, h.signalQuality, h.signalStrength hcck,
        fun hs => h.bShift (by omega), h.bContainHTC, fun hm => h.rxMIMOSignalStrength (Or.inr hm),
        h.cckAdcPwdb fun hs => hofdm hs.1⟩, h.unicastPacket, h.bLedBlinking⟩

theorem queryStatusDesc_fixed (last : BitVec 32 × BitVec 32) (stats : RxStats) (r : Received) :
    (queryStatusDesc last stats r).2.2.freq = stats.freq ∧
      (queryStatusDesc last stats r).2.2.nicType = stats.nicType := by
  unfold queryStatusDesc translateRxSignalStuff queryRxphystatus
  simp only [updateRxPktTimeStamp_eq]
  split
  · exact ⟨rfl, rfl⟩
  · split
    · exact ⟨rfl, rfl⟩
    · exact ⟨rfl, rfl⟩

theorem Fixed.handle (h : Fixed b) (e : Earlier) :
    Fixed (RxRing.handle b e.received e.rtllibRx) := by
  obtain ⟨hfreq, hnic⟩ := queryStatusDesc_fixed b.lastRxDescTSF b.stats e.received
  cases hbad : e.received.desc.bad with
  | true =>
    unfold RxRing.handle
    rw [receive_bad hbad]
    exact ⟨hfreq.trans h.freq, hnic.trans h.nicType⟩
  | false =>
    unfold RxRing.handle
    rw [receive_good hbad]
    exact ⟨hfreq.trans h.freq, hnic.trans h.nicType⟩

theorem frames_fixed (lastRxDescTSF : BitVec 32 × BitVec 32) (history : List Earlier) :
    Fixed (frames lastRxDescTSF history) :=
  exec_inv (C := fun _ _ => True) (fun _ e h _ => h.handle e) ⟨rfl, rfl⟩
    (meets_of_forall fun _ _ => trivial)

/-- After any two histories the next frame is treated the same exactly when it is bad, or both
histories leave it the same in all that it does not set itself. -/
theorem batch_independent_iff (t₁ t₂ : BitVec 32 × BitVec 32) (history₁ history₂ : List Earlier)
    (r : Received) (bssid : Addr) (rssi : Int) :
    passed (frames t₁ history₁) r = passed (frames t₂ history₂) (r.seenAt bssid rssi) ↔
      r.desc.bad = true ∨
        (r.seenAt bssid rssi).matchBssid = r.matchBssid ∧ Agree r (left history₁) (left history₂) := by
  have hbad' : (r.seenAt bssid rssi).desc.bad = r.desc.bad := rfl
  cases hbad : r.desc.bad with
  | true =>
    rw [passed_bad hbad, passed_bad (hbad'.trans hbad)]
    simp only [true_or]
  | false =>
    rw [← frames_carried t₁, ← frames_carried t₂]
    simp only [Bool.false_eq_true, false_or]
    constructor
    · intro h
      have hmatch : (r.seenAt bssid rssi).matchBssid = r.matchBssid := by
        rw [passed_good hbad, passed_good (hbad'.trans hbad), Option.some_inj] at h
        have hfield := congrArg (fun h => h.stats.bPacketMatchBSSID) h
        simp only [Handled.compared, queryStatusDesc_matchBssid hbad,
          queryStatusDesc_matchBssid (hbad'.trans hbad)] at hfield
        exact hfield.symm
      rw [passed_seenAt hbad hmatch] at h
      exact ⟨hmatch, (passed_eq_iff hbad (frames_fixed _ _) (frames_fixed _ _)).mp h⟩
    · rintro ⟨hmatch, hagree⟩
      rw [passed_seenAt hbad hmatch]
      exact (passed_eq_iff hbad (frames_fixed _ _) (frames_fixed _ _)).mpr hagree

/-! ## A group frame after a frame for one receiver -/

def dataFrame (addr1 : Byte) : Received where
  desc := ⟨100, false, false, 32, 0, false, false, false, 0⟩
  buf := fun i => if i = 32 then 0x08 else if i = 36 then addr1 else 0
  settings := ⟨fun _ => 0, fun _ => 0, false, false, false⟩
  tsfHigh := 0
  rssi := 0

theorem batch_not_independent : ¬ ∀ (t : BitVec 32 × BitVec 32) (history₁ history₂ : List Earlier)
    (r : Received), passed (frames t history₁) r = passed (frames t history₂) r := by
  intro h
  have hunicast := congrArg (Option.map Handled.unicast)
    (h (0, 0) [] [⟨dataFrame 0, ⟨true, false, none, none⟩⟩] (dataFrame 1))
  revert hunicast
  decide +kernel

end Rtl8190.RxRing
