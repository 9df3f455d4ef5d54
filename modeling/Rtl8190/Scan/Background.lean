import Rtl8190.Lib.Memory
import Rtl8190.Lib.Rounds
import Rtl8190.Lib.Run

/-!
# The background scan

`rtllib_start_scan`, `rtllib_softmac_stop_scan` and the work item `softmac_scan_wq`
(`rtllib_softmac.c`). Each run of the item tunes to one channel and queues the next one. A run may
wait for `scan_sem` after its tests, and a start may come while it holds it. Starts and stops are
serialized by `wx_sem`, which all of their callers hold.
-/

open Rtl8190.Memory (Byte)
open Rtl8190.Run Rtl8190.Rounds

namespace Rtl8190.Scan

abbrev maxChannelNumber : Nat := 161

/-- The run of `softmac_scan_wq`. It has its own copies of the map and of the channel. -/
inductive Worker where
  | idle
  /-- It waits for `scan_sem`. -/
  | waiting (channelMap : Nat → Byte) (lastChannel : Nat)
  /-- It is at `out`, with `scan_sem`. -/
  | leaving (lastChannel : Nat)

/-- A synchronous scan: `be_scan_inprogress` is set before `scan_sem` is taken, and cleared after it
is released. -/
inductive Syncro where
  | none
  | waiting
  | scanning
  | ending
  deriving DecidableEq, Repr

structure State where
  ieeeUp : Bool
  /-- `eRFPowerState == eRfOff` -/
  rfOff : Bool
  syncro : Syncro
  channelMap : Nat → Byte
  /-- `current_network.channel` -/
  channel : Nat
  scanning : Bool
  actscanning : Bool
  scanWatchDog : Nat
  /-- Whether `softmac_scan_wq` is pending. -/
  queued : Bool
  worker : Worker
  /-- The channels that the scan has tuned to, newest first -/
  tuned : List Nat

def State.free (s : State) : Bool :=
  s.syncro ≠ .scanning && match s.worker with
    | .leaving _ => false
    | _ => true

/-- The loop over the channels, with as many tries as `scan_watch_dog` leaves: the channel,
`scan_watch_dog`, and whether the channel is in the map -/
def scanLoop (channelMap : Nat → Byte) : Nat → Nat → Nat → Nat × Nat × Bool
  | 0, channel, watchDog =>
    let channel := (channel + 1) % maxChannelNumber
    (if channelMap channel = 0 then 6 else channel, watchDog + 1, false)
  | tries + 1, channel, watchDog =>
    let channel := (channel + 1) % maxChannelNumber
    if channelMap channel = 0 then scanLoop channelMap tries channel (watchDog + 1)
    else (channel, watchDog + 1, true)

/-- `rtllib_softmac_scan_wq` up to `down(&ieee->scan_sem)` -/
def beginRun (s : State) : State :=
  if s.ieeeUp = false then s
  else if s.rfOff = true then
    { s with actscanning := false, scanWatchDog := 0, scanning := false }
  else if s.syncro ≠ .none then s
  else { s with worker := .waiting s.channelMap s.channel }

def lockedRun (s : State) (channelMap : Nat → Byte) (lastChannel : Nat) : State :=
  let (channel, watchDog, found) :=
    scanLoop channelMap (maxChannelNumber + 1 - s.scanWatchDog) s.channel s.scanWatchDog
  if found = true ∧ s.scanning = true then
    { s with
      channel := channel, scanWatchDog := watchDog
      tuned := channel :: s.tuned, queued := true, worker := .idle }
  else { s with channel := channel, scanWatchDog := watchDog, worker := .leaving lastChannel }

def finishRun (s : State) (lastChannel : Nat) : State :=
  { s with
    channel := lastChannel
    actscanning := false
    scanWatchDog := 0
    scanning := false
    worker := .idle }

def rtllibSoftmacStopScan (s : State) : State :=
  if s.scanning = true then { s with scanWatchDog := 0, scanning := false, queued := false }
  else { s with scanWatchDog := 0 }

def rtllibStartScan (s : State) : State :=
  if s.scanning = false then { s with scanning := true, queued := true } else s

inductive Event where
  | start
  | stop
  /-- The pending item starts to run, gets `scan_sem` and is done. -/
  | run
  | lock
  | finish
  | syncBegin
  | syncLock
  | syncUnlock
  | syncEnd
  | setUp (up : Bool)
  | setRf (off : Bool)

/-- The item starts to run, if it is pending and its last run is over. -/
def runStep (s : State) : State :=
  match s.queued, s.worker with
  | true, .idle => beginRun { s with queued := false }
  | _, _ => s

def lockStep (s : State) : State :=
  match s.worker with
  | .waiting channelMap lastChannel =>
    if s.free = true then lockedRun s channelMap lastChannel else s
  | _ => s

def finishStep (s : State) : State :=
  match s.worker with
  | .leaving lastChannel => finishRun s lastChannel
  | _ => s

/-- One step. What waits for `scan_sem` does nothing while it is held. -/
def step (s : State) : Event → State
  | .start => rtllibStartScan s
  | .stop => if s.free = true then rtllibSoftmacStopScan s else s
  | .run => runStep s
  | .lock => lockStep s
  | .finish => finishStep s
  | .syncBegin => if s.syncro = .none then { s with syncro := .waiting } else s
  | .syncLock => if s.syncro = .waiting ∧ s.free = true then { s with syncro := .scanning } else s
  | .syncUnlock => if s.syncro = .scanning then { s with syncro := .ending } else s
  | .syncEnd => if s.syncro = .ending then { s with syncro := .none } else s
  | .setUp up => { s with ieeeUp := up }
  | .setRf off => { s with rfOff := off }

/-! ## The flag and the work item -/

/-- While `scanning` is set, the item is pending or runs. -/
def KeptUp (s : State) : Prop := s.scanning = true → s.queued = true ∨ s.worker ≠ .idle

/-- A run of the item ends at once although a scan is on: the interface is down, or the RF is on and
a synchronous scan is in progress. -/
def Drops (s : State) : Event → Prop
  | .run => (s.queued = true ∧ s.worker = .idle) ∧ s.scanning = true ∧
    (s.ieeeUp = false ∨ s.rfOff = false ∧ s.syncro ≠ .none)
  | _ => False

theorem keptUp_beginRun_iff (s : State) (hq : s.queued = false) (hw : s.worker = .idle) :
    KeptUp (beginRun s) ↔
      ¬ (s.scanning = true ∧ (s.ieeeUp = false ∨ s.rfOff = false ∧ s.syncro ≠ .none)) := by
  unfold beginRun KeptUp
  split_ifs with hup hrf hsync
  · simp [hq, hw, hup]
  · simp [hup, hrf]
  · simp [hq, hw, hup, hrf, hsync]
  · simp [hup, hrf, hsync]

theorem keptUp_lockedRun (s : State) (channelMap : Nat → Byte) (lastChannel : Nat) :
    KeptUp (lockedRun s channelMap lastChannel) := by
  unfold lockedRun KeptUp
  dsimp only
  split_ifs
  · exact fun _ => .inl rfl
  · exact fun _ => .inr (by simp)

theorem keptUp_runStep_iff (s : State) (h : KeptUp s) :
    KeptUp (runStep s) ↔ ¬ Drops s .run := by
  unfold runStep Drops
  split
  · next hq hw =>
    rw [keptUp_beginRun_iff { s with queued := false } rfl hw]
    simp [hq, hw]
  · next hnot =>
    refine iff_of_true h fun hdrops => ?_
    exact hnot hdrops.1.1 hdrops.1.2

theorem keptUp_stop (s : State) (h : KeptUp s) : KeptUp (rtllibSoftmacStopScan s) := by
  unfold rtllibSoftmacStopScan
  split_ifs
  · exact fun hscanning => absurd hscanning (by simp)
  · exact h

theorem keptUp_start (s : State) (h : KeptUp s) : KeptUp (rtllibStartScan s) := by
  unfold rtllibStartScan
  split_ifs
  · exact fun _ => .inl rfl
  · exact h

theorem keptUp_lockStep (s : State) (h : KeptUp s) : KeptUp (lockStep s) := by
  unfold lockStep
  split
  · split_ifs
    · exact keptUp_lockedRun _ _ _
    · exact h
  · exact h

theorem keptUp_finishStep (s : State) (h : KeptUp s) : KeptUp (finishStep s) := by
  unfold finishStep
  split
  · exact fun hscanning => absurd hscanning (by simp [finishRun])
  · exact h

theorem keptUp_step_iff (s : State) (e : Event) (h : KeptUp s) :
    KeptUp (step s e) ↔ ¬ Drops s e := by
  -- Only a run that ends at once leaves the flag alone.
  cases e with
  | run => exact keptUp_runStep_iff s h
  | start => exact iff_of_true (keptUp_start s h) id
  | stop =>
    refine iff_of_true ?_ id
    change KeptUp (if s.free = true then rtllibSoftmacStopScan s else s)
    split_ifs
    · exact keptUp_stop s h
    · exact h
  | lock => exact iff_of_true (keptUp_lockStep s h) id
  | finish => exact iff_of_true (keptUp_finishStep s h) id
  | syncBegin | syncLock | syncUnlock | syncEnd =>
    refine iff_of_true ?_ id
    unfold step
    dsimp only
    split_ifs <;> exact h
  | setUp up => exact iff_of_true h id
  | setRf off => exact iff_of_true h id

theorem keptUp_iff (s : State) (h : KeptUp s) (es : List Event) :
    Meets step (fun s e => ¬ Drops s e) s es ↔ ∀ fs, fs <+: es → KeptUp (exec step s fs) :=
  meets_iff_forall_prefixes (I := fun _ => True) (V := fun _ => True)
    (fun _ _ _ _ _ _ => trivial) (fun s e _ h _ => keptUp_step_iff s e h) trivial h
    fun _ _ => trivial

/-! ## An undisturbed scan -/

/-- The item runs undisturbed, if it is pending. -/
def turn (s : State) : State := exec step s [.run, .lock, .finish]

/-- Nothing is in the way of a scan. -/
structure Ready (s : State) : Prop where
  ieeeUp : s.ieeeUp = true
  rfOff : s.rfOff = false
  syncro : s.syncro = .none
  worker : s.worker = .idle

structure On (s : State) : Prop extends Ready s where
  scanning : s.scanning = true
  queued : s.queued = true

structure Ended (s : State) : Prop where
  scanning : s.scanning = false
  queued : s.queued = false
  worker : s.worker = .idle

/-- A scan that starts in `s` and is not disturbed ends, after tuning to all channels 1 .. 14 of the
map and to no other ones, with the channel as it was. -/
def ScansRight (s : State) : Prop :=
  ∃ n visited, Ended (turn^[n] (step s .start)) ∧
    (turn^[n] (step s .start)).tuned = visited ++ s.tuned ∧
    (∀ c, 1 ≤ c → c ≤ 14 → s.channelMap c ≠ 0 → c ∈ visited) ∧
    (∀ c ∈ visited, (1 ≤ c ∧ c ≤ 14) ∧ s.channelMap c ≠ 0) ∧
    (turn^[n] (step s .start)).channel = s.channel

/-- The map has no channel but 1 .. 14, and either none at all, or the one that the scan starts from
and not the one after it. -/
def Suits (s : State) : Prop :=
  (∀ c < maxChannelNumber, s.channelMap c ≠ 0 → 1 ≤ c ∧ c ≤ 14) ∧
    ((∀ c < maxChannelNumber, s.channelMap c = 0) ∨
      s.channel < maxChannelNumber ∧ s.channelMap s.channel ≠ 0 ∧
        s.channelMap ((s.channel + 1) % maxChannelNumber) = 0)

/-- The channels of the map among the next `t` ones after `c` -/
def mapped (channelMap : Nat → Byte) (c t : Nat) : List Nat :=
  (ahead maxChannelNumber c t).filter fun c => decide (channelMap c ≠ 0)

def State.toVisit (s : State) : List Nat :=
  mapped s.channelMap s.channel (maxChannelNumber + 1 - s.scanWatchDog)

theorem mem_mapped (channelMap : Nat → Byte) (c t x : Nat) :
    x ∈ mapped channelMap c t ↔ x ∈ ahead maxChannelNumber c t ∧ channelMap x ≠ 0 := by
  unfold mapped
  rw [List.mem_filter, decide_eq_true_iff]

theorem mapped_add (channelMap : Nat → Byte) (c s t : Nat) :
    mapped channelMap c (s + t) = mapped channelMap c s ++ mapped channelMap (c + s) t := by
  unfold mapped
  rw [ahead_add, List.filter_append]

theorem mapped_one (channelMap : Nat → Byte) (c : Nat) :
    mapped channelMap c 1 =
      if channelMap ((c + 1) % maxChannelNumber) = 0 then [] else [(c + 1) % maxChannelNumber] := by
  unfold mapped
  rw [ahead_one, List.filter_singleton]
  simp

theorem mapped_succ (channelMap : Nat → Byte) (c t : Nat) :
    mapped channelMap c (t + 1) =
      if channelMap ((c + 1) % maxChannelNumber) = 0 then
        mapped channelMap ((c + 1) % maxChannelNumber) t
      else (c + 1) % maxChannelNumber :: mapped channelMap ((c + 1) % maxChannelNumber) t := by
  unfold mapped
  rw [ahead_succ, List.filter_cons]
  simp

theorem scanLoop_spec (channelMap : Nat → Byte) (tries channel watchDog : Nat) :
    (mapped channelMap channel tries = [] ∧
      (scanLoop channelMap tries channel watchDog).2.2 = false) ∨
    ∃ found left, left < tries ∧
      scanLoop channelMap tries channel watchDog = (found, watchDog + (tries - left), true) ∧
      mapped channelMap channel tries = found :: mapped channelMap found left := by
  -- The loop finds the first channel of the map among the next ones.
  induction tries generalizing channel watchDog with
  | zero => exact .inl ⟨rfl, rfl⟩
  | succ tries ih =>
    rw [mapped_succ]
    unfold scanLoop
    dsimp only
    split_ifs with hmap
    · rcases ih ((channel + 1) % maxChannelNumber) (watchDog + 1) with hnone | hsome
      · exact .inl hnone
      · obtain ⟨found, left, hleft, hloop, hnext⟩ := hsome
        refine .inr ⟨found, left, by omega, ?_, hnext⟩
        rw [hloop]
        congr 2
        omega
    · refine .inr ⟨_, tries, Nat.lt_succ_self _, ?_, rfl⟩
      congr 2
      omega

theorem turn_ended (s : State) (h : Ended s) : turn s = s := by
  unfold turn
  simp [exec, step, runStep, lockStep, finishStep, h.queued, h.worker]

theorem turn_on (s : State) (h : On s) :
    turn s = finishStep (lockedRun
      { s with queued := false, worker := .waiting s.channelMap s.channel }
      s.channelMap s.channel) := by
  unfold turn
  simp [exec, step, runStep, lockStep, beginRun, State.free, h.queued, h.worker, h.ieeeUp, h.rfOff,
    h.syncro]

/-- A turn tunes to the first of the channels that are left; without any, the scan ends. -/
theorem turn_spec (s : State) (h : On s) :
    (s.toVisit = [] ∧ Ended (turn s) ∧ (turn s).tuned = s.tuned ∧ (turn s).channel = s.channel) ∨
    s.toVisit = (turn s).channel :: (turn s).toVisit ∧ On (turn s) ∧
      (turn s).tuned = (turn s).channel :: s.tuned := by
  rw [turn_on s h]
  unfold State.toVisit lockedRun
  rcases scanLoop_spec s.channelMap (maxChannelNumber + 1 - s.scanWatchDog) s.channel
    s.scanWatchDog with ⟨hnone, hloop⟩ | ⟨found, left, hleft, hloop, hnext⟩
  · refine .inl ⟨hnone, ?_⟩
    simp only [hloop, Bool.false_eq_true, false_and, if_false]
    exact ⟨⟨rfl, rfl, rfl⟩, rfl, rfl⟩
  · refine .inr ?_
    have hwatchDog : maxChannelNumber + 1 -
        (s.scanWatchDog + (maxChannelNumber + 1 - s.scanWatchDog - left)) = left := by omega
    simp only [hloop, h.scanning, and_self, if_true, finishStep, hwatchDog]
    exact ⟨hnext, ⟨⟨h.ieeeUp, h.rfOff, h.syncro, rfl⟩, rfl, rfl⟩, trivial⟩

theorem runs_spec (s : State) (h : On s) :
    ∃ n, Ended (turn^[n] s) ∧ (turn^[n] s).tuned = s.toVisit.reverse ++ s.tuned ∧
      (turn^[n] s).channel = s.toVisit.getLastD s.channel := by
  -- The scan visits what is left of it, and ends on the last one.
  generalize htoVisit : s.toVisit = left
  induction left generalizing s with
  | nil =>
    rcases turn_spec s h with ⟨-, hended, htuned, hchannel⟩ | ⟨hnext, -⟩
    · exact ⟨1, hended, htuned, hchannel⟩
    · rw [htoVisit] at hnext
      cases hnext
  | cons found left ih =>
    rcases turn_spec s h with ⟨hnone, -⟩ | ⟨hnext, hon, htuned⟩
    · rw [htoVisit] at hnone
      cases hnone
    · rw [htoVisit, List.cons.injEq] at hnext
      obtain ⟨n, hended, htuned', hchannel⟩ := ih (turn s) hon hnext.2.symm
      refine ⟨n + 1, hended, ?_, ?_⟩
      · rw [Function.iterate_succ_apply, htuned', htuned, hnext.1, List.reverse_cons,
          List.append_assoc]
        rfl
      · rw [Function.iterate_succ_apply, hchannel, hnext.1, List.getLastD_cons]

theorem turn_iterate_ended (s : State) (h : Ended s) (n : Nat) : turn^[n] s = s :=
  Function.iterate_fixed (turn_ended s h) n

theorem ended_unique (s : State) {m n : Nat} (hm : Ended (turn^[m] s)) (hn : Ended (turn^[n] s)) :
    turn^[m] s = turn^[n] s := by
  rcases Nat.le_total m n with hle | hle
  · obtain ⟨k, rfl⟩ := Nat.exists_eq_add_of_le hle
    rw [Nat.add_comm m k, Function.iterate_add_apply, turn_iterate_ended _ hm]
  · obtain ⟨k, rfl⟩ := Nat.exists_eq_add_of_le hle
    rw [Nat.add_comm n k, Function.iterate_add_apply, turn_iterate_ended _ hn]

theorem start_on (s : State) (h : Ready s) (hscanning : s.scanning = false) : On (step s .start) := by
  have hstart : step s .start = { s with scanning := true, queued := true } := if_pos hscanning
  rw [hstart]
  exact ⟨⟨h.ieeeUp, h.rfOff, h.syncro, h.worker⟩, rfl, rfl⟩

/-- Without a watchdog count, the scan comes to the whole map, and to the channel after the one it
starts from twice. -/
theorem start_toVisit (s : State) (hscanning : s.scanning = false) (hwatchDog : s.scanWatchDog = 0) :
    (step s .start).toVisit = mapped s.channelMap s.channel (maxChannelNumber + 1) := by
  have hstart : step s .start = { s with scanning := true, queued := true } := if_pos hscanning
  rw [hstart]
  unfold State.toVisit
  simp only [hwatchDog]
  rfl

theorem mem_mapped_all (channelMap : Nat → Byte) (c x : Nat) :
    x ∈ mapped channelMap c (maxChannelNumber + 1) ↔ x < maxChannelNumber ∧ channelMap x ≠ 0 := by
  rw [mem_mapped]
  refine and_congr_left fun _ => ⟨?_, ?_⟩
  · exact lt_of_mem_ahead (by decide)
  · exact mem_ahead (Nat.le_succ _)

theorem mapped_all (channelMap : Nat → Byte) (c : Nat) :
    mapped channelMap c (maxChannelNumber + 1) = mapped channelMap c (maxChannelNumber - 1) ++
      mapped channelMap (c + (maxChannelNumber - 1)) 1 ++
      mapped channelMap (c + maxChannelNumber) 1 := by
  have hsum : maxChannelNumber + 1 = maxChannelNumber - 1 + 1 + 1 := rfl
  rw [hsum, mapped_add, mapped_add]
  rfl

theorem getLastD_mapped_ne (channelMap : Nat → Byte) (c : Nat) {x : Nat}
    (hx : x ∈ mapped channelMap c (maxChannelNumber - 1)) :
    (mapped channelMap c (maxChannelNumber - 1)).getLastD c ≠ c := by
  -- Before it is back, the walk does not end where it started.
  intro hlast
  have hmem : c ∈ mapped channelMap c (maxChannelNumber - 1) := by
    rw [List.getLastD_eq_getLast?] at hlast
    rcases hlast? : (mapped channelMap c (maxChannelNumber - 1)).getLast? with _ | y
    · rw [List.getLast?_eq_none_iff.mp hlast?] at hx
      cases hx
    · rw [hlast?, Option.getD_some] at hlast
      rw [hlast] at hlast?
      exact List.mem_of_getLast? hlast?
  have hahead := ((mem_mapped _ _ _ _).mp hmem).1
  have hlt := lt_of_mem_ahead (by decide) hahead
  rw [← Nat.mod_eq_of_lt hlt, ahead_mod] at hahead
  exact mod_notMem_ahead (by decide) hahead

theorem getLastD_mapped_iff (channelMap : Nat → Byte) (c : Nat) :
    (mapped channelMap c (maxChannelNumber + 1)).getLastD c = c ↔
      (∀ x < maxChannelNumber, channelMap x = 0) ∨
      c < maxChannelNumber ∧ channelMap c ≠ 0 ∧
        channelMap ((c + 1) % maxChannelNumber) = 0 := by
  have hstart : (c + (maxChannelNumber - 1) + 1) % maxChannelNumber = c % maxChannelNumber :=
    Nat.add_mod_right c maxChannelNumber
  have hafter : (c + maxChannelNumber + 1) % maxChannelNumber = (c + 1) % maxChannelNumber := by
    rw [Nat.add_right_comm, Nat.add_mod_right]
  have hmem := mem_mapped_all channelMap c
  rw [mapped_all, mapped_one, mapped_one, hstart, hafter] at hmem ⊢
  by_cases hnext : channelMap ((c + 1) % maxChannelNumber) = 0
  · rw [if_pos hnext, List.append_nil] at hmem ⊢
    split_ifs at hmem ⊢ with hback
    · rw [List.append_nil] at hmem ⊢
      rcases hnil : mapped channelMap c (maxChannelNumber - 1) with _ | ⟨x, rest⟩
      · rw [hnil] at hmem
        refine iff_of_true rfl (.inl fun x hx => ?_)
        by_contra hmapped
        cases (hmem x).mpr ⟨hx, hmapped⟩
      · have hx : x ∈ mapped channelMap c (maxChannelNumber - 1) := hnil ▸ List.mem_cons_self
        rw [← hnil]
        refine iff_of_false (getLastD_mapped_ne channelMap c hx) ?_
        rintro (hnone | ⟨hlt, hmapped, -⟩)
        · exact ((hmem x).mp hx).2 (hnone x ((hmem x).mp hx).1)
        · rw [Nat.mod_eq_of_lt hlt] at hback
          exact hmapped hback
    · rw [List.getLastD_concat]
      refine ⟨fun heq => ?_, ?_⟩
      · rw [heq] at hback
        exact .inr ⟨heq ▸ Nat.mod_lt _ (by decide), hback, hnext⟩
      · rintro (hnone | ⟨hlt, -⟩)
        · exact absurd (hnone _ (Nat.mod_lt _ (by decide))) hback
        · exact Nat.mod_eq_of_lt hlt
  · rw [if_neg hnext, List.getLastD_concat]
    refine iff_of_false (fun heq => ?_) ?_
    · unfold maxChannelNumber at heq
      omega
    · rintro (hnone | ⟨-, -, hzero⟩)
      · exact hnext (hnone _ (Nat.mod_lt _ (by decide)))
      · exact hnext hzero

theorem scansRight_iff_suits (s : State) (h : Ready s) (hscanning : s.scanning = false)
    (hwatchDog : s.scanWatchDog = 0) : ScansRight s ↔ Suits s := by
  -- An undisturbed scan is right if and only if the map suits.
  have hstart : step s .start = { s with scanning := true, queued := true } := if_pos hscanning
  obtain ⟨n, hended, htuned, hchannel⟩ := runs_spec (step s .start) (start_on s h hscanning)
  rw [start_toVisit s hscanning hwatchDog] at htuned hchannel
  have hchannel' : (step s .start).channel = s.channel := by rw [hstart]
  have htuned' : (step s .start).tuned = s.tuned := by rw [hstart]
  rw [htuned'] at htuned
  rw [hchannel'] at hchannel
  have hlast := getLastD_mapped_iff s.channelMap s.channel
  have hmem := mem_mapped_all s.channelMap s.channel
  unfold Suits
  rw [← hlast]
  constructor
  · rintro ⟨m, visited, hended', hvisited, -, hothers, hkept⟩
    rw [ended_unique _ hended' hended] at hvisited hkept
    rw [htuned] at hvisited
    rw [hchannel] at hkept
    refine ⟨fun c hlt hmapped => ?_, hkept⟩
    apply (hothers c _).1
    rw [← List.append_cancel_right hvisited, List.mem_reverse]
    exact (hmem c).mpr ⟨hlt, hmapped⟩
  · rintro ⟨hothers, hkept⟩
    refine ⟨n, _, hended, htuned, fun c _ hle hmapped => ?_, fun c hc => ?_, ?_⟩
    · rw [List.mem_reverse]
      exact (hmem c).mpr ⟨by unfold maxChannelNumber; omega, hmapped⟩
    · rw [List.mem_reverse] at hc
      obtain ⟨hlt, hmapped⟩ := (hmem c).mp hc
      exact ⟨hothers c hlt hmapped, hmapped⟩
    · rw [hchannel, hkept]

/-! ## Every scan -/

def Rested (s : State) : Prop :=
  s.scanning = false → (∀ lastChannel, s.worker ≠ .leaving lastChannel) → s.scanWatchDog = 0

theorem rested_runStep (s : State) (h : Rested s) : Rested (runStep s) := by
  unfold runStep
  split
  · next hw =>
    have hwatchDog (hscanning : s.scanning = false) : s.scanWatchDog = 0 :=
      h hscanning (by simp [hw])
    unfold beginRun Rested
    split_ifs
    · exact fun hscanning _ => hwatchDog hscanning
    · exact fun _ _ => rfl
    · exact fun hscanning _ => hwatchDog hscanning
    · exact fun hscanning _ => hwatchDog hscanning
  · exact h

theorem rested_lockStep (s : State) (h : Rested s) : Rested (lockStep s) := by
  unfold lockStep lockedRun Rested
  split
  · dsimp only
    split_ifs with hfree hfound
    · rintro hscanning -
      exact absurd (hfound.2.symm.trans hscanning) (by decide)
    · rintro - hworker
      exact absurd rfl (hworker _)
    · exact h
  · exact h

theorem rested_finishStep (s : State) (h : Rested s) : Rested (finishStep s) := by
  unfold finishStep
  split
  · exact fun _ _ => rfl
  · exact h

theorem rested_start (s : State) (h : Rested s) : Rested (rtllibStartScan s) := by
  unfold rtllibStartScan
  split_ifs
  · exact fun hscanning => absurd hscanning (by simp)
  · exact h

theorem rested_stop (s : State) : Rested (rtllibSoftmacStopScan s) := by
  unfold rtllibSoftmacStopScan
  split_ifs
  · exact fun _ _ => rfl
  · exact fun _ _ => rfl

theorem rested_step (s : State) (e : Event) (h : Rested s) : Rested (step s e) := by
  cases e with
  | start => exact rested_start s h
  | stop =>
    change Rested (if s.free = true then rtllibSoftmacStopScan s else s)
    split_ifs
    · exact rested_stop s
    · exact h
  | run => exact rested_runStep s h
  | lock => exact rested_lockStep s h
  | finish => exact rested_finishStep s h
  | syncBegin | syncLock | syncUnlock | syncEnd =>
    unfold step
    dsimp only
    split_ifs <;> exact h
  | setUp up => exact h
  | setRf off => exact h

/-- The state that `rtllib_softmac_init` leaves -/
structure Fresh (s : State) : Prop where
  scanning : s.scanning = false
  scanWatchDog : s.scanWatchDog = 0
  queued : s.queued = false
  worker : s.worker = .idle
  syncro : s.syncro = .none

/-- In every run `scanning` implies a pending or running item for as long as no run of the item ends
at once during a scan; and whenever a scan can start undisturbed, it is right if and only if the map
suits. -/
theorem backgroundScan_iff (s : State) (hfresh : Fresh s) (es : List Event) :
    (Meets step (fun s e => ¬ Drops s e) s es ↔ ∀ fs, fs <+: es → KeptUp (exec step s fs)) ∧
    (Ready (exec step s es) → (exec step s es).scanning = false →
      (ScansRight (exec step s es) ↔ Suits (exec step s es))) := by
  refine ⟨?_, fun hready hscanning => ?_⟩
  · apply keptUp_iff
    intro hscanning
    exact absurd (hfresh.scanning.symm.trans hscanning) (by decide)
  · have hrested : Rested (exec step s es) :=
      exec_inv (C := fun _ _ => True) (fun s e h _ => rested_step s e h)
        (fun _ _ => hfresh.scanWatchDog) (meets_of_forall (P := fun _ => True) fun _ _ => trivial)
    apply scansRight_iff_suits _ hready hscanning
    apply hrested hscanning
    intro lastChannel
    rw [hready.worker]
    simp

def station (channels : List Nat) (channel : Nat) : State where
  ieeeUp := true
  rfOff := false
  syncro := .none
  channelMap := fun c => if c ∈ channels then 1 else 0
  channel := channel
  scanning := false
  actscanning := false
  scanWatchDog := 0
  queued := false
  worker := .idle
  tuned := []

theorem backgroundScan_three :
    (∀ fs, fs <+: [.start, .run, .lock, .stop] →
      KeptUp (exec step (station [1, 6, 11] 11) fs)) ∧
    ScansRight (exec step (station [1, 6, 11] 11) [.start, .run, .lock, .stop]) := by
  have h := backgroundScan_iff (station [1, 6, 11] 11) ⟨rfl, rfl, rfl, rfl, rfl⟩
    [.start, .run, .lock, .stop]
  constructor
  · apply h.1.mp
    refine ⟨id, ?_, id, id, trivial⟩
    rintro ⟨-, -, hup | ⟨-, hsync⟩⟩
    · cases hup
    · exact hsync rfl
  · apply (h.2 ⟨rfl, rfl, rfl, rfl⟩ rfl).mpr
    exact ⟨by decide +kernel, .inr (by decide +kernel)⟩

/-- With the channels 1 .. 11 and the current channel 6, the scan ends on channel 7; and a scan that
starts before the interface goes down stays on without its item. -/
theorem backgroundScan_channel :
    ¬ ScansRight (station (List.range' 1 11) 6) ∧
    ¬ KeptUp (exec step (station [1, 6, 11] 6) [.start, .setUp false, .run]) := by
  constructor
  · rw [scansRight_iff_suits _ ⟨rfl, rfl, rfl, rfl⟩ rfl rfl]
    rintro ⟨-, hnone | ⟨-, -, hnext⟩⟩
    · exact absurd (hnone 1 (by decide)) (by decide)
    · exact absurd hnext (by decide)
  · intro h
    rcases h rfl with hqueued | hworker
    · cases hqueued
    · exact hworker rfl

end Rtl8190.Scan
