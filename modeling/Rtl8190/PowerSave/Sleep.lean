import Mathlib.Algebra.Group.Nat.Defs
import Rtl8190.PowerSave.Code

/-!
# How long to sleep

`rtllib_sta_ps_sleep` (`rtllib_softmac.c`) decides after a beacon whether the station may sleep, and
for how many beacon intervals, in eight bits and from fields that the access point has sent. The
kernel's `msecs_to_jiffies` is a parameter.
-/

namespace Rtl8190.PowerSave

/-- The fields of `rtllib_device` that `rtllib_sta_ps_sleep` reads and writes -/
structure LpsState where
  lpsDelayCnt : BitVec 8
  dtimData : BitVec 8
  beaconInterval : BitVec 16
  dtimPeriod : BitVec 8
  timCount : BitVec 8
  lastDtimStaTime : Fin 2 → BitVec 32
  ps : BitVec 16
  lastRxPsTime : BitVec 64
  singleQueue : Bool
  mgmtQueueHead : BitVec 32
  mgmtQueueTail : BitVec 32
  bAwakePktSent : Bool
  regMaxLPSAwakeIntvl : BitVec 8
  lpsAwakeIntvl : BitVec 8
  deriving DecidableEq

/-- What the kernel provides. Only kernels before 4.7 have `trans_start`. -/
structure Clock where
  jiffies : BitVec 64
  transStart : Option (BitVec 64)
  msecsToJiffies : Nat → Nat

/-- `RTLLIB_DTIM_INVALID`, `RTLLIB_DTIM_VALID`, `RTLLIB_DTIM_UCAST` -/
def dtimInvalid : BitVec 8 := 0
def dtimValid : BitVec 8 := 1
def dtimUcast : BitVec 8 := 2

def timeAfter (a b : BitVec 64) : Bool := (b - a).slt 0

def Clock.msecs (clock : Clock) (m : Nat) : BitVec 64 := BitVec.ofNat 64 (clock.msecsToJiffies m)

def LpsState.maxPeriod (s : LpsState) : BitVec 8 :=
  if s.regMaxLPSAwakeIntvl = 0 then 1
  else if s.regMaxLPSAwakeIntvl = 0xff then s.dtimPeriod
  else s.regMaxLPSAwakeIntvl

def LpsState.nextAwakeIntvl (s : LpsState) : BitVec 8 :=
  if s.bAwakePktSent then 1
  else
    let awake := if s.lpsAwakeIntvl = 0 then 1 else s.lpsAwakeIntvl
    if awake ≥ s.maxPeriod then s.maxPeriod else awake + 1

/-- `LPSAwakeIntvl_tmp`; `none` is a division by 0. The sums and remainders are those of `int`. -/
def lpsAwakeIntvlTmp (awake period count : BitVec 8) : Option (BitVec 8) :=
  if count = 0 then
    if awake > period then
      if period = 0 then none
      else some (BitVec.ofNat 8 (period.toNat + (awake.toNat - period.toNat) -
        (awake.toNat - period.toNat) % period.toNat))
    else some awake
  else if awake > count then
    if period = 0 then none
    else some (BitVec.ofNat 8 (count.toNat + (awake.toNat - count.toNat) -
      (awake.toNat - count.toNat) % period.toNat))
  else some awake

/-- `rtllib_sta_ps_sleep`, whose caller asks for both of the times: the state, the result, and
`*time_h` and `*time_l` -/
def rtllibStaPsSleep (clock : Clock) (s : LpsState) :
    Option (LpsState × PsSleep × Option (BitVec 32 × BitVec 32)) :=
  if s.lpsDelayCnt ≠ 0 then
    some ({ s with lpsDelayCnt := s.lpsDelayCnt - 1 }, .nothing, none)
  else
    let dtim := s.dtimData
    if dtim &&& dtimValid = 0 then some (s, .nothing, none)
    else
      let timeout := s.beaconInterval.toNat
      let s := { s with dtimData := dtimInvalid }
      if dtim.setWidth 16 &&& (dtimUcast.setWidth 16 &&& s.ps) ≠ 0 then some (s, .wakeUp, none)
      else if (clock.transStart.any fun start =>
          !timeAfter clock.jiffies (start + clock.msecs timeout)) = true then
        some (s, .nothing, none)
      else if timeAfter clock.jiffies (s.lastRxPsTime + clock.msecs timeout) = false then
        some (s, .nothing, none)
      else if s.singleQueue = true ∧ s.mgmtQueueTail ≠ s.mgmtQueueHead then
        some (s, .nothing, none)
      else do
        let s := { s with lpsAwakeIntvl := s.nextAwakeIntvl }
        let tmp ← lpsAwakeIntvlTmp s.lpsAwakeIntvl s.dtimPeriod s.timCount
        let timeL := s.lastDtimStaTime 0 +
          (clock.msecs (s.beaconInterval.toNat * tmp.toNat)).setWidth 32
        let timeH := if timeL < s.lastDtimStaTime 0 then s.lastDtimStaTime 1 + 1
          else s.lastDtimStaTime 1
        return (s, .goToSleep, some (timeH, timeL))

/-- None of the early returns is taken. -/
def LpsState.MaySleep (clock : Clock) (s : LpsState) : Prop :=
  s.lpsDelayCnt = 0 ∧ s.dtimData &&& dtimValid ≠ 0 ∧
    s.dtimData.setWidth 16 &&& (dtimUcast.setWidth 16 &&& s.ps) = 0 ∧
    (clock.transStart.any fun start =>
      !timeAfter clock.jiffies (start + clock.msecs s.beaconInterval.toNat)) = false ∧
    timeAfter clock.jiffies (s.lastRxPsTime + clock.msecs s.beaconInterval.toNat) = true ∧
    (s.singleQueue = true → s.mgmtQueueTail = s.mgmtQueueHead)

/-- The beacons from the last one to the next DTIM beacon. -/
def LpsState.toDtim (s : LpsState) : Nat :=
  if s.timCount = 0 then s.dtimPeriod.toNat else s.timCount.toNat

/-- The `n`th beacon after the last one announces multicast. -/
def LpsState.IsDtim (s : LpsState) (n : Nat) : Prop :=
  ∃ k, n = s.timCount.toNat + k * s.dtimPeriod.toNat

/-- The station sleeps for a number of beacon intervals that it may, up to a DTIM beacon when
another one would be missed, and wakes at the right time. -/
structure SleepsWell (clock : Clock) (s s' : LpsState) (time : BitVec 32 × BitVec 32)
    (n : BitVec 8) : Prop where
  chosen : lpsAwakeIntvlTmp s'.lpsAwakeIntvl s.dtimPeriod s.timCount = some n
  awake_pos : 1 ≤ s'.lpsAwakeIntvl.toNat
  awake_le : s'.lpsAwakeIntvl.toNat ≤ s.maxPeriod.toNat
  pos : 1 ≤ n.toNat
  dtim : s.toDtim < n.toNat → s.IsDtim n.toNat
  time : time.1 ++ time.2 = s.lastDtimStaTime 1 ++ s.lastDtimStaTime 0 +
    clock.msecs (s.beaconInterval.toNat * n.toNat)

/-- The function never divides by 0, and when it returns 1 the station `SleepsWell`. -/
def Sound (clock : Clock) (s : LpsState) : Prop :=
  ∃ s' sleep time, rtllibStaPsSleep clock s = some (s', sleep, time) ∧
    (sleep = .goToSleep → ∃ t n, time = some t ∧ SleepsWell clock s s' t n)

/-- A DTIM period of 0 does no harm if it is never divided by: the count is not 0, and the awake
interval stays within it. -/
def LpsState.PeriodUsable (s : LpsState) : Prop :=
  s.dtimPeriod ≠ 0 ∨ (s.timCount ≠ 0 ∧ s.regMaxLPSAwakeIntvl ≠ 0xff ∧
    (s.bAwakePktSent = true ∨ s.maxPeriod ≤ s.timCount ∨
      max s.lpsAwakeIntvl.toNat 1 < s.timCount.toNat))

/-! ## The early returns -/

theorem rtllibStaPsSleep_of_not_maySleep {clock : Clock} {s : LpsState} (h : ¬ s.MaySleep clock) :
    ∃ s' sleep, rtllibStaPsSleep clock s = some (s', sleep, none) ∧ sleep ≠ .goToSleep := by
  unfold rtllibStaPsSleep
  simp only
  split_ifs with hdelay hdtim hucast htrans hrx hqueue
  · exact ⟨_, _, rfl, by simp⟩
  · exact ⟨_, _, rfl, by simp⟩
  · exact ⟨_, _, rfl, by simp⟩
  · exact ⟨_, _, rfl, by simp⟩
  · exact ⟨_, _, rfl, by simp⟩
  · exact ⟨_, _, rfl, by simp⟩
  · refine absurd ⟨not_not.mp hdelay, hdtim, not_not.mp hucast, ?_, ?_, ?_⟩ h
    · simpa using htrans
    · simpa using hrx
    · intro hsingle
      by_contra hne
      exact hqueue ⟨hsingle, hne⟩

theorem rtllibStaPsSleep_of_maySleep {clock : Clock} {s : LpsState} (h : s.MaySleep clock) :
    rtllibStaPsSleep clock s =
      (lpsAwakeIntvlTmp s.nextAwakeIntvl s.dtimPeriod s.timCount).map fun tmp =>
        let timeL := s.lastDtimStaTime 0 +
          (clock.msecs (s.beaconInterval.toNat * tmp.toNat)).setWidth 32
        ({ s with dtimData := dtimInvalid, lpsAwakeIntvl := s.nextAwakeIntvl }, .goToSleep,
          some (if timeL < s.lastDtimStaTime 0 then s.lastDtimStaTime 1 + 1
            else s.lastDtimStaTime 1, timeL)) := by
  obtain ⟨hdelay, hdtim, hucast, htrans, hrx, hqueue⟩ := h
  unfold rtllibStaPsSleep
  simp only
  rw [if_neg (not_not.mpr hdelay), if_neg hdtim, if_neg (not_not.mpr hucast),
    if_neg (by simpa using htrans), if_neg (by simpa using hrx),
    if_neg fun hne => hne.2 (hqueue hne.1)]
  change (lpsAwakeIntvlTmp s.nextAwakeIntvl s.dtimPeriod s.timCount).bind _ = _
  cases lpsAwakeIntvlTmp s.nextAwakeIntvl s.dtimPeriod s.timCount <;> rfl

/-! ## The awake interval -/

theorem nextAwakeIntvl_of_sent {s : LpsState} (h : s.bAwakePktSent = true) :
    s.nextAwakeIntvl = 1 := by
  unfold LpsState.nextAwakeIntvl
  rw [if_pos h]

theorem toNat_nextAwakeIntvl {s : LpsState} (h : s.bAwakePktSent = false) :
    s.nextAwakeIntvl.toNat = min s.maxPeriod.toNat (max s.lpsAwakeIntvl.toNat 1 + 1) := by
  have hmax := s.maxPeriod.isLt
  have hawake : (if s.lpsAwakeIntvl = 0 then 1 else s.lpsAwakeIntvl).toNat =
      max s.lpsAwakeIntvl.toNat 1 := by
    split_ifs with hzero
    · rw [hzero]
      rfl
    · have : s.lpsAwakeIntvl.toNat ≠ 0 := fun hz => hzero (BitVec.eq_of_toNat_eq hz)
      omega
  unfold LpsState.nextAwakeIntvl
  simp only [h, Bool.false_eq_true, if_false, ge_iff_le, BitVec.le_def, hawake]
  generalize (if s.lpsAwakeIntvl = 0 then 1 else s.lpsAwakeIntvl) = awake at hawake ⊢
  split_ifs with hge
  · omega
  · rw [BitVec.toNat_add, hawake]
    change (_ + 1) % 2 ^ 8 = _
    omega

theorem maxPeriod_eq_zero_iff (s : LpsState) :
    s.maxPeriod = 0 ↔ s.regMaxLPSAwakeIntvl = 0xff ∧ s.dtimPeriod = 0 := by
  unfold LpsState.maxPeriod
  split_ifs with hzero hall
  · simp [hzero]
  · simp [hall]
  · simp only [hzero, hall, false_and]

theorem nextAwakeIntvl_bounds {s : LpsState} (h : s.maxPeriod ≠ 0) :
    1 ≤ s.nextAwakeIntvl.toNat ∧ s.nextAwakeIntvl.toNat ≤ s.maxPeriod.toNat := by
  have hpos : s.maxPeriod.toNat ≠ 0 := fun hz => h (BitVec.eq_of_toNat_eq hz)
  cases hsent : s.bAwakePktSent with
  | true =>
    rw [nextAwakeIntvl_of_sent hsent]
    change 1 ≤ 1 ∧ 1 ≤ _
    omega
  | false =>
    rw [toNat_nextAwakeIntvl hsent]
    omega

/-! ## The number of beacon intervals -/

/-- Between `base` and `awake`, the last beacon that is a whole number of periods after `base`. -/
theorem lands (awake base period : Nat) :
    ∃ k, base + (awake - base) - (awake - base) % period = base + k * period := by
  refine ⟨(awake - base) / period, ?_⟩
  have hdiv := Nat.div_add_mod' (awake - base) period
  omega

theorem lpsAwakeIntvlTmp_of_period {awake period count : BitVec 8} (hperiod : period ≠ 0)
    (hawake : 1 ≤ awake.toNat) :
    ∃ n, lpsAwakeIntvlTmp awake period count = some n ∧ 1 ≤ n.toNat ∧
      ((if count = 0 then period.toNat else count.toNat) < n.toNat →
        ∃ k, n.toNat = count.toNat + k * period.toNat) := by
  have hpos : 0 < period.toNat :=
    Nat.pos_of_ne_zero fun hz => hperiod (BitVec.eq_of_toNat_eq hz)
  have hlt := awake.isLt
  unfold lpsAwakeIntvlTmp
  split_ifs with hcount hlong hlong
  · -- The last beacon was a DTIM beacon.
    have hlong : period.toNat < awake.toNat := hlong
    obtain ⟨k, hk⟩ := lands awake.toNat _ period.toNat
    refine ⟨_, rfl, ?_⟩
    rw [BitVec.toNat_ofNat, Nat.mod_eq_of_lt (by omega), hk]
    refine ⟨by omega, fun _ => ⟨k + 1, ?_⟩⟩
    rw [hcount, Nat.succ_mul]
    change _ = 0 + _
    omega
  · have hshort : ¬ period.toNat < awake.toNat := hlong
    exact ⟨awake, rfl, hawake, fun h => absurd h hshort⟩
  · have hlong : count.toNat < awake.toNat := hlong
    have hcountPos : count.toNat ≠ 0 := fun hz => hcount (BitVec.eq_of_toNat_eq hz)
    obtain ⟨k, hk⟩ := lands awake.toNat _ period.toNat
    refine ⟨_, rfl, ?_⟩
    rw [BitVec.toNat_ofNat, Nat.mod_eq_of_lt (by omega), hk]
    exact ⟨by omega, fun _ => ⟨k, rfl⟩⟩
  · have hshort : ¬ count.toNat < awake.toNat := hlong
    exact ⟨awake, rfl, hawake, fun h => absurd h hshort⟩

theorem lpsAwakeIntvlTmp_zero {awake count n : BitVec 8} (hawake : 1 ≤ awake.toNat) :
    lpsAwakeIntvlTmp awake 0 count = some n ↔ count ≠ 0 ∧ awake ≤ count ∧ n = awake := by
  have hpos : awake > 0 := hawake
  unfold lpsAwakeIntvlTmp
  simp only [if_true]
  split_ifs with hcount hlong
  · simp [hcount]
  · have hnot : ¬ awake ≤ count := BitVec.not_le.mpr hlong
    simp [hnot]
  · have hle : awake ≤ count := BitVec.not_lt.mp hlong
    simp only [Option.some.injEq, hle, true_and, ne_eq, hcount, not_false_eq_true]
    exact eq_comm

/-! ## The time -/

theorem toNat_words (hi lo : BitVec 32) : (hi ++ lo).toNat = hi.toNat * 2 ^ 32 + lo.toNat := by
  rw [BitVec.toNat_append, ← Nat.shiftLeft_add_eq_or_of_lt lo.isLt, Nat.shiftLeft_eq]

/-- A carry out of the low half is seen by comparing the sum with one of its terms. -/
theorem append_add_carry (hi lo : BitVec 32) (d : BitVec 64) (hd : d.toNat < 2 ^ 32) :
    (if lo + d.setWidth 32 < lo then hi + 1 else hi) ++ (lo + d.setWidth 32) = hi ++ lo + d := by
  have hhi := hi.isLt
  have hlo := lo.isLt
  have hsum : (lo + d.setWidth 32).toNat = (lo.toNat + d.toNat) % 2 ^ 32 := by
    rw [BitVec.toNat_add, BitVec.toNat_setWidth, Nat.mod_eq_of_lt hd]
  have hcarry : lo + d.setWidth 32 < lo ↔ 2 ^ 32 ≤ lo.toNat + d.toNat := by
    rw [BitVec.lt_def, hsum]
    omega
  apply BitVec.eq_of_toNat_eq
  rw [toNat_words, BitVec.toNat_add (x := hi ++ lo), toNat_words, hsum]
  split_ifs with h
  · rw [hcarry] at h
    rw [BitVec.toNat_add]
    change (_ + 1) % 2 ^ 32 * 2 ^ 32 + _ = _
    omega
  · rw [hcarry] at h
    omega

/-! ## The result -/

theorem sleepsWell_of_chosen {clock : Clock}
    (hclock : ∀ m ≤ 65535 * 255, clock.msecsToJiffies m < 2 ^ 32) {s s' : LpsState}
    (hs' : s'.lpsAwakeIntvl = s.nextAwakeIntvl) (hmax : s.maxPeriod ≠ 0) {n : BitVec 8}
    (hn : lpsAwakeIntvlTmp s.nextAwakeIntvl s.dtimPeriod s.timCount = some n) (hpos : 1 ≤ n.toNat)
    (hdtim : s.toDtim < n.toNat → s.IsDtim n.toNat) {timeL : BitVec 32}
    (hL : timeL = s.lastDtimStaTime 0 +
      (clock.msecs (s.beaconInterval.toNat * n.toNat)).setWidth 32) :
    SleepsWell clock s s'
      (if timeL < s.lastDtimStaTime 0 then s.lastDtimStaTime 1 + 1 else s.lastDtimStaTime 1,
        timeL) n := by
  have hsmall : (clock.msecs (s.beaconInterval.toNat * n.toNat)).toNat < 2 ^ 32 := by
    have hbound : s.beaconInterval.toNat * n.toNat ≤ 65535 * 255 :=
      Nat.mul_le_mul (Nat.le_of_lt_succ s.beaconInterval.isLt) (Nat.le_of_lt_succ n.isLt)
    have hlt := hclock _ hbound
    rw [Clock.msecs, BitVec.toNat_ofNat, Nat.mod_eq_of_lt (by omega)]
    exact hlt
  obtain ⟨hawake, hle⟩ := nextAwakeIntvl_bounds hmax
  subst hL
  exact {
    chosen := by rw [hs']; exact hn
    awake_pos := by rw [hs']; exact hawake
    awake_le := by rw [hs']; exact hle
    pos := hpos
    dtim := hdtim
    time := append_add_carry _ _ _ hsmall }

theorem sound_of_usable {clock : Clock}
    (hclock : ∀ m ≤ 65535 * 255, clock.msecsToJiffies m < 2 ^ 32) {s : LpsState}
    (hsleep : s.MaySleep clock) (h : s.PeriodUsable) : Sound clock s := by
  have hmax : s.maxPeriod ≠ 0 := by
    rw [ne_eq, maxPeriod_eq_zero_iff]
    rintro ⟨hall, hzero⟩
    rcases h with hperiod | ⟨-, hreg, -⟩
    · exact hperiod hzero
    · exact hreg hall
  obtain ⟨hawake, -⟩ := nextAwakeIntvl_bounds hmax
  have hchosen : ∃ n, lpsAwakeIntvlTmp s.nextAwakeIntvl s.dtimPeriod s.timCount = some n ∧
      1 ≤ n.toNat ∧ (s.toDtim < n.toNat → s.IsDtim n.toNat) := by
    by_cases hperiod : s.dtimPeriod = 0
    · rcases h with hne | ⟨hcount, -, hwithin⟩
      · exact absurd hperiod hne
      · have hle : s.nextAwakeIntvl ≤ s.timCount := by
          have hcountPos : s.timCount.toNat ≠ 0 := fun hz => hcount (BitVec.eq_of_toNat_eq hz)
          rw [BitVec.le_def]
          cases hsent : s.bAwakePktSent with
          | true =>
            rw [nextAwakeIntvl_of_sent hsent]
            change 1 ≤ _
            omega
          | false =>
            rw [toNat_nextAwakeIntvl hsent]
            rcases hwithin with hsent' | hmaxle | hlt
            · simp [hsent] at hsent'
            · have : s.maxPeriod.toNat ≤ s.timCount.toNat := hmaxle
              omega
            · omega
        refine ⟨s.nextAwakeIntvl, ?_, hawake, fun hlong => ?_⟩
        · rw [hperiod, lpsAwakeIntvlTmp_zero hawake]
          exact ⟨hcount, hle, rfl⟩
        · rw [LpsState.toDtim, if_neg hcount] at hlong
          exact absurd hlong (Nat.not_lt.mpr hle)
    · exact lpsAwakeIntvlTmp_of_period hperiod hawake
  obtain ⟨n, hn, hpos, hdtim⟩ := hchosen
  unfold Sound
  rw [rtllibStaPsSleep_of_maySleep hsleep, hn]
  refine ⟨_, _, _, rfl, fun _ => ⟨_, n, rfl, ?_⟩⟩
  exact sleepsWell_of_chosen hclock rfl hmax hn hpos hdtim rfl

/-- A function that may go on to its end does what it should only with a period that it can use. -/
theorem usable_of_sound {clock : Clock} {s : LpsState} (hsleep : s.MaySleep clock)
    (h : Sound clock s) : s.PeriodUsable := by
  obtain ⟨s', sleep, time, hrun, hwell⟩ := h
  rw [rtllibStaPsSleep_of_maySleep hsleep] at hrun
  obtain ⟨n, hn, hresult⟩ := Option.map_eq_some_iff.mp hrun
  simp only [Prod.mk.injEq] at hresult
  obtain ⟨hs', hsleeps, -⟩ := hresult
  obtain ⟨t, m, -, hwell⟩ := hwell hsleeps.symm
  have hs' : s'.lpsAwakeIntvl = s.nextAwakeIntvl := by rw [← hs']
  have hpos := hwell.awake_pos
  have hle := hwell.awake_le
  rw [hs'] at hpos hle
  by_cases hperiod : s.dtimPeriod = 0
  · right
    rw [hperiod, lpsAwakeIntvlTmp_zero hpos] at hn
    obtain ⟨hcount, hshort, -⟩ := hn
    refine ⟨hcount, ?_, ?_⟩
    · intro hall
      have hzero := (maxPeriod_eq_zero_iff s).mpr ⟨hall, hperiod⟩
      rw [hzero] at hle
      exact absurd (Nat.le_trans hpos hle) (by decide)
    · cases hsent : s.bAwakePktSent with
      | true => exact .inl rfl
      | false =>
        rw [BitVec.le_def, toNat_nextAwakeIntvl hsent] at hshort
        right
        rw [BitVec.le_def]
        omega
  · exact .inl hperiod

/-- The station goes to sleep as it should, unless it may go to sleep and the DTIM period is 0 and
gets used. -/
theorem rtllibStaPsSleep_sound_iff (clock : Clock)
    (hclock : ∀ m ≤ 65535 * 255, clock.msecsToJiffies m < 2 ^ 32) (s : LpsState) :
    Sound clock s ↔ (s.MaySleep clock → s.PeriodUsable) := by
  by_cases hsleep : s.MaySleep clock
  · exact ⟨fun h _ => usable_of_sound hsleep h, fun h => sound_of_usable hclock hsleep (h hsleep)⟩
  · obtain ⟨s', sleep, hrun, hne⟩ := rtllibStaPsSleep_of_not_maySleep hsleep
    apply iff_of_true
    · exact ⟨s', sleep, none, hrun, fun h => absurd h hne⟩
    · intro h
      exact absurd h hsleep

/-- A clock that ticks once a millisecond, a second after the last frames. -/
def secondLater : Clock := ⟨1000, some 0, id⟩

/-- A beacon of a network with the usual interval, and a DTIM with every third one. -/
def thirdBeacon : LpsState where
  lpsDelayCnt := 0
  dtimData := dtimValid
  beaconInterval := 100
  dtimPeriod := 3
  timCount := 1
  lastDtimStaTime := fun _ => 0xffffffff
  ps := 2
  lastRxPsTime := 0
  singleQueue := true
  mgmtQueueHead := 0
  mgmtQueueTail := 0
  bAwakePktSent := false
  regMaxLPSAwakeIntvl := 10
  lpsAwakeIntvl := 5

theorem rtllibStaPsSleep_sound_three : Sound secondLater thirdBeacon :=
  (rtllibStaPsSleep_sound_iff secondLater
    (fun m hm => Nat.lt_of_le_of_lt hm (by decide)) thirdBeacon).mpr
    fun _ => .inl (by decide)

/-- With a DTIM period of 0 and a count of 0, the function divides by 0. -/
theorem rtllibStaPsSleep_zero :
    ¬ Sound secondLater { thirdBeacon with dtimPeriod := 0, timCount := 0 } := by
  rintro ⟨s', sleep, time, hrun, -⟩
  have hnone : rtllibStaPsSleep secondLater { thirdBeacon with dtimPeriod := 0, timCount := 0 } =
      none := by decide
  rw [hnone] at hrun
  exact absurd hrun (by simp)

end Rtl8190.PowerSave
