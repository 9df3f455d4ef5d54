import Rtl8190.Lib.Run
import Rtl8190.Wx.Code

/-!
# Semaphores of the wireless extensions

Every handler gives back what it has taken, except the request to scan, which leaves `ieee->wx_sem`
to the work item that it queues, and the request to set the radio, which keeps `priv->wx_sem` when
it refuses its argument.
-/

open Function Rtl8190.Memory Rtl8190.Semaphore Rtl8190.Power Rtl8190.Run

namespace Rtl8190.Wx

/-! ## What handlers call -/

/-- The code holds at its end what it held at its beginning. -/
abbrev Neutral {α : Type} (held : Sem → Bool) (m : Code Sem α) : Prop := Holds held m held

variable {held : Sem → Bool} {l : Look} {dev : Looks}

theorem rtllibIpsLeave_neutral (hips : held .ipsSem = false) : Neutral held rtllibIpsLeave := by
  unfold rtllibIpsLeave
  exact (Holds.down hips).bind (.release () hips)

theorem leaveInactivePs_neutral (hips : held .ipsSem = false) (rtState : RfPowerState) :
    Neutral held (leaveInactivePs l rtState) := by
  unfold leaveInactivePs
  split
  · split
    · exact .pure true
    · exact (rtllibIpsLeave_neutral hips).bind (.pure false)
  · exact .pure false

theorem setKey_neutral (hips : held .ipsSem = false) : Neutral held (setKey l) := by
  unfold setKey
  exact (leaveInactivePs_neutral hips _).bind (.pure ())

theorem rtllibStopProtocol_neutral (hips : held .ipsSem = false) :
    Neutral held (rtllibStopProtocol l) := by
  unfold rtllibStopProtocol
  split
  · exact rtllibIpsLeave_neutral hips
  · exact .pure ()

theorem restart_neutral (hips : held .ipsSem = false) (started : Bool) :
    Neutral held (restart l started) := by
  unfold restart
  split
  · exact (rtllibStopProtocol_neutral hips).bind (.pure 0)
  · exact .pure 0

theorem rtllibSoftmacStopProtocol_neutral (hwx : held .ieeeWxSem = false)
    (hips : held .ipsSem = false) : Neutral held (rtllibSoftmacStopProtocol l) := by
  unfold rtllibSoftmacStopProtocol
  refine (Holds.down hwx).bind ((rtllibStopProtocol_neutral ?_).bind (.release () hwx))
  exact hips

theorem rtl8192Up_neutral (hwx : held .ieeeWxSem = false) : Neutral held (rtl8192Up l) := by
  unfold rtl8192Up rtllibSoftmacStartProtocol
  split
  · exact (Holds.down hwx).bind (.release () hwx)
  · exact .pure ()

theorem rtl8192Commit_neutral {after : Look} (hwx : held .ieeeWxSem = false)
    (hips : held .ipsSem = false) : Neutral held (rtl8192Commit l after) := by
  unfold rtl8192Commit
  split
  · exact (rtllibSoftmacStopProtocol_neutral hwx hips).bind (rtl8192Up_neutral hwx)
  · exact .pure ()

/-! ## `rtllib_softmac_wx.c` and `rtllib_wx.c` -/

theorem ips_free (hips : held .ipsSem = false) : update held .ieeeWxSem true .ipsSem = false := by
  rw [update_of_ne (by decide)]
  exact hips

section Softmac

variable (hwx : held .ieeeWxSem = false)
include hwx

theorem rtllibWxSetFreq_neutral (e m : Int) : Neutral held (rtllibWxSetFreq l e m) := by
  unfold rtllibWxSetFreq
  exact (Holds.down hwx).bind (.release _ hwx)

theorem rtllibWxSetWap_neutral {before : Look} (hips : held .ipsSem = false) (family : Nat) :
    Neutral held (rtllibWxSetWap before l family) := by
  unfold rtllibWxSetWap
  apply Holds.bracket (f := id) hwx
  split
  · exact .pure _
  · split
    · exact .pure _
    · exact restart_neutral (ips_free hips) _

theorem rtllibWxSetMode_neutral (hips : held .ipsSem = false) (mode : Nat) :
    Neutral held (rtllibWxSetMode l mode) := by
  unfold rtllibWxSetMode
  apply Holds.bracket (f := id) hwx
  cases IwMode.ofRequest mode with
  | none => exact .pure _
  | some mode => exact restart_neutral (ips_free hips) _

theorem rtllibWxSetEssid_neutral (hips : held .ipsSem = false) :
    Neutral held (rtllibWxSetEssid l) := by
  unfold rtllibWxSetEssid
  apply Holds.bracket (f := id) hwx
  split
  · exact .pure _
  · exact restart_neutral (ips_free hips) _

theorem rtllibWxSetRawtx_neutral : Neutral held rtllibWxSetRawtx := by
  unfold rtllibWxSetRawtx
  exact (Holds.down hwx).bind (.release _ hwx)

theorem rtllibWxSetPower_neutral (disabled : Bool) (mode : Nat) :
    Neutral held (rtllibWxSetPower l disabled mode) := by
  unfold rtllibWxSetPower
  split
  · exact .pure _
  · exact (Holds.down hwx).bind (.release _ hwx)

theorem rtllibWxGetPower_neutral : Neutral held rtllibWxGetPower := by
  unfold rtllibWxGetPower
  exact (Holds.down hwx).bind (.release _ hwx)

theorem rtllibWxGetScan_neutral (full : Bool) : Neutral held (rtllibWxGetScan full) := by
  unfold rtllibWxGetScan
  exact (Holds.down hwx).bind (.release _ hwx)

theorem rtllibWxSetMlme_neutral (cmd : Nat) : Neutral held (rtllibWxSetMlme l cmd) := by
  unfold rtllibWxSetMlme
  split
  · exact .pure _
  · refine (Holds.down hwx).bind ?_
    split
    · exact .release _ hwx
    · exact .release _ hwx

/-- What a request to scan holds at its end, besides what it held. -/
def keeps (held : Sem → Bool) (a : Answer) : Sem → Bool :=
  if a.handsOver then update held .ieeeWxSem true else held

theorem rtllibWxSetScan_holds : Holds held (rtllibWxSetScan l) (keeps held (rtllibWxSetScan l).val) := by
  unfold rtllibWxSetScan
  refine (Holds.down hwx).bind ?_
  by_cases hstopped : l.iwMode = .monitor ∨ l.protoStarted = false
  · simp only [if_pos hstopped]
    exact .release _ hwx
  · by_cases hlinked : l.state = .linked
    · simp only [if_neg hstopped, if_pos hlinked]
      exact .pure _
    · simp only [if_neg hstopped, if_neg hlinked]
      exact .release _ hwx

end Softmac

/-! ## `rtl_wx.c` -/

abbrev free : Sem → Bool := fun _ => false

abbrev busy : Sem → Bool := update free .privWxSem true

theorem underWxSem_neutral {m : Code Sem Int} (hm : Neutral busy m) : Neutral free (underWxSem m) := by
  unfold underWxSem
  exact (Holds.down rfl).bind (hm.bind (.release _ rfl))

theorem unlessRadioOff_neutral {m : Code Sem Int} (hm : Neutral free m) :
    Neutral free (unlessRadioOff l m) := by
  unfold unlessRadioOff
  split
  · exact .pure 0
  · exact hm

theorem setter_neutral {m : Code Sem Int} (hm : Neutral busy m) :
    Neutral free (unlessRadioOff l (underWxSem m)) :=
  unlessRadioOff_neutral (underWxSem_neutral hm)

theorem r8192WxSetMode_neutral (mode : Nat) : Neutral free (r8192WxSetMode dev mode) := by
  unfold r8192WxSetMode
  split
  · exact .pure 0
  · refine (Holds.down rfl).bind (Holds.bind (show Neutral busy _ from ?_) ?_)
    · split
      · exact leaveInactivePs_neutral rfl _
      · exact .pure false
    · refine Holds.ite (fun _ => ?_) fun _ => ?_
      · exact .release _ rfl
      · exact (rtllibWxSetMode_neutral rfl rfl mode).bind (.release _ rfl)

theorem release_keeps (a : Answer) :
    Holds (keeps busy a) (do up .privWxSem; pure a) (keeps free a) := by
  have hheld : keeps busy a .privWxSem = true := by
    unfold keeps
    split <;> rfl
  have hafter : update (keeps busy a) .privWxSem false = keeps free a := by
    unfold keeps
    split <;> (funext s; cases s <;> rfl)
  refine (Holds.up hheld).bind ?_
  rw [hafter]
  exact .pure a

theorem r8192WxSetScan_holds : Holds free (r8192WxSetScan dev) (keeps free (r8192WxSetScan dev).val) := by
  unfold r8192WxSetScan
  by_cases hradio : (dev 0).bHwRadioOff = true
  · simp only [if_pos hradio]
    exact .pure _
  by_cases hup : (dev 0).up = false
  · simp only [if_neg hradio, if_pos hup]
    exact .pure _
  by_cases hbusy : (dev 0).bBusyTraffic = true
  · simp only [if_neg hradio, if_neg hup, if_pos hbusy]
    exact .pure _
  simp only [if_neg hradio, if_neg hup, if_neg hbusy]
  refine (Holds.down rfl).bind ?_
  by_cases hlinked : (dev 1).state ≠ .linked
  · simp only [if_pos hlinked]
    refine (leaveInactivePs_neutral rfl _).bind ?_
    by_cases hrefused : (leaveInactivePs (dev 1) (dev 0).eRFPowerState).val = true
    · simp only [if_pos hrefused, bind_val]
      exact .release _ rfl
    · simp only [if_neg hrefused, bind_val]
      exact .release _ rfl
  · simp only [if_neg hlinked]
    refine (rtllibWxSetScan_holds rfl).bind ?_
    exact release_keeps _

theorem r8192WxGetScan_neutral (full : Bool) : Neutral free (r8192WxGetScan dev full) := by
  unfold r8192WxGetScan
  split
  · exact .pure _
  · exact setter_neutral (rtllibWxGetScan_neutral rfl full)

theorem r8192WxSetNick_neutral (length : Nat) : Neutral free (r8192WxSetNick length) := by
  unfold r8192WxSetNick
  split
  · exact .pure _
  · exact underWxSem_neutral (.pure 0)

theorem r8192WxSetEnc_neutral (disabled : Bool) (length : Nat) (ret : Int) :
    Neutral free (r8192WxSetEnc dev disabled length ret) := by
  unfold r8192WxSetEnc
  split
  · exact .pure 0
  · split
    · exact .pure _
    · refine (rtllibIpsLeave_neutral rfl).bind ((Holds.down rfl).bind ((Holds.up rfl).bind ?_))
      rw [update_idem, update_eq_self]
      split
      · exact (setKey_neutral rfl).bind (.pure ret)
      · exact .pure ret

theorem r8192WxSetRetry_neutral (r : Retry) : Neutral free (r8192WxSetRetry dev r) := by
  unfold r8192WxSetRetry
  split
  · exact .pure 0
  · apply Holds.bracket (f := id) rfl
    split
    · exact .pure _
    · split
      · exact .pure _
      · split
        · exact .pure _
        · exact (rtl8192Commit_neutral rfl rfl).bind (.pure 0)

theorem r8192WxSetSens_neutral (value : Int) : Neutral free (r8192WxSetSens dev value) := by
  unfold r8192WxSetSens
  split
  · exact .pure 0
  · exact (Holds.down rfl).bind (.release _ rfl)

theorem r8192WxSetEncExt_neutral (off : Bool) (ret : Int) :
    Neutral free (r8192WxSetEncExt dev off ret) := by
  unfold r8192WxSetEncExt
  split
  · exact .pure 0
  · refine (Holds.down rfl).bind ((rtllibIpsLeave_neutral rfl).bind (Holds.bind ?_ (.release _ rfl)))
    split
    · exact .pure ()
    · exact setKey_neutral rfl

/-! ## All requests -/

/-- The request to set the radio has one of the arguments that it accepts. -/
def RadioValid : Request → Prop
  | .setRadio extra => extra = 0 ∨ extra = 1
  | _ => True

theorem returning_holds {m : Code Sem Int} (hm : Neutral free m) :
    Holds free (returning m) (keeps free (returning m).val) := by
  unfold returning
  exact hm.bind (.pure _)

theorem setRadio_neutral {extra : Byte} (hvalid : extra = 0 ∨ extra = 1) :
    Neutral free (r8192seWxSetRadio extra) := by
  unfold r8192seWxSetRadio
  refine (Holds.down rfl).bind ?_
  rw [if_neg (by rcases hvalid with rfl | rfl <;> decide)]
  exact .release _ rfl

/-- A valid request ends with no semaphore, or with the one that the work item gets. -/
theorem handle_holds (dev : Looks) {r : Request} (hvalid : RadioValid r) :
    Holds free (handle dev r) (keeps free (handle dev r).val) := by
  have hpure : ∀ ret, Neutral free (underWxSem (pure ret)) := fun ret =>
    underWxSem_neutral (.pure ret)
  have hset : ∀ ret, Neutral free (unlessRadioOff (dev 0) (underWxSem (pure ret))) := fun ret =>
    setter_neutral (.pure ret)
  cases r with
  | lockless h ret => exact .pure _
  | setFreq e m => exact returning_holds (setter_neutral (rtllibWxSetFreq_neutral rfl e m))
  | setMode mode => exact returning_holds (r8192WxSetMode_neutral mode)
  | setSens value => exact returning_holds (r8192WxSetSens_neutral value)
  | setWap family => exact returning_holds (setter_neutral (rtllibWxSetWap_neutral rfl rfl family))
  | setScan => exact r8192WxSetScan_holds
  | getScan full => exact returning_holds (r8192WxGetScan_neutral full)
  | setEssid => exact returning_holds (setter_neutral (rtllibWxSetEssid_neutral rfl rfl))
  | getEssid ret => exact returning_holds (hpure ret)
  | setNick length => exact returning_holds (r8192WxSetNick_neutral length)
  | getNick => exact returning_holds (hpure 0)
  | setRate => exact returning_holds (hset 0)
  | setRts ret => exact returning_holds (hset ret)
  | setRetry r => exact returning_holds (r8192WxSetRetry_neutral r)
  | setEnc disabled length ret => exact returning_holds (r8192WxSetEnc_neutral disabled length ret)
  | setPower disabled mode =>
    exact returning_holds (setter_neutral (rtllibWxSetPower_neutral rfl disabled mode))
  | getPower => exact returning_holds (rtllibWxGetPower_neutral rfl)
  | setGenIe ret => exact returning_holds (hset ret)
  | setMlme cmd => exact returning_holds (setter_neutral (rtllibWxSetMlme_neutral rfl cmd))
  | setAuth ret => exact returning_holds (hset ret)
  | setEncExt off ret => exact returning_holds (r8192WxSetEncExt_neutral off ret)
  | setRawtx => exact returning_holds (setter_neutral (rtllibWxSetRawtx_neutral rfl))
  | forceReset => exact returning_holds (hpure 0)
  | forceMicError => exact returning_holds (hpure 0)
  | adapterPowerStatus => exact returning_holds (hpure 0)
  | setRadio extra => exact returning_holds (setRadio_neutral hvalid)
  | setLpsAwakeInterval => exact returning_holds (hpure 0)
  | setForceLps => exact returning_holds (hpure 0)

/-- The request releases each semaphore as often as it takes it, counting what the work item
releases that it hands `ieee->wx_sem` to. -/
def Balanced (dev : Looks) (r : Request) : Prop :=
  let m := handle dev r
  ∀ s, m.places.count (.down s) =
    m.places.count (.up s) + if m.val.handsOver then rtllibWxSyncScanWq.places.count (.up s) else 0

theorem balanced_of_valid {r : Request} (hvalid : RadioValid r) : Balanced dev r := by
  intro s
  have hcount := count_of_holdAll (handle_holds dev hvalid) s
  have hkept : (keeps free (handle dev r).val s).toNat =
      if (handle dev r).val.handsOver then rtllibWxSyncScanWq.places.count (.up s) else 0 := by
    unfold keeps
    split
    · cases s <;> rfl
    · rfl
  rw [← hkept]
  exact hcount

theorem setRadio_invalid {extra : Byte} (hinvalid : ¬ (extra = 0 ∨ extra = 1)) :
    handle dev (.setRadio extra) = ⟨⟨-1, false⟩, [.down .privWxSem]⟩ := by
  have hrefused : extra ≠ 0 ∧ extra ≠ 1 := not_or.mp hinvalid
  show returning (r8192seWxSetRadio extra) = _
  unfold returning r8192seWxSetRadio
  simp only [if_pos hrefused]
  rfl

/-- A request releases each semaphore as often as it takes it exactly when it is not one to set the
radio to something else than 0 or 1. The work item that gets `ieee->wx_sem` takes none, and releases
that one once. -/
theorem balanced_iff (dev : Looks) (r : Request) :
    (Balanced dev r ↔ RadioValid r) ∧ rtllibWxSyncScanWq.places = [.up .ieeeWxSem] := by
  refine ⟨⟨?_, balanced_of_valid⟩, rfl⟩
  intro hbalanced
  cases r with
  | setRadio extra =>
    by_contra hinvalid
    have := hbalanced .privWxSem
    rw [setRadio_invalid hinvalid] at this
    exact absurd this (by decide)
  | _ => trivial

/-! ## Runs -/

structure State where
  held : Sem → Bool
  /-- `wx_sync_scan_wq` is queued. -/
  scanQueued : Bool

inductive Event where
  | request (dev : Looks) (r : Request)
  /-- `wx_sync_scan_wq` runs. -/
  | syncScan

/-- A request that has to wait has not happened yet. -/
def step (s : State) : Event → State
  | .request dev r =>
    match holdAll s.held (handle dev r).places with
    | none => s
    | some held => ⟨held, s.scanQueued || (handle dev r).val.handsOver⟩
  | .syncScan =>
    if s.scanQueued then
      match holdAll s.held rtllibWxSyncScanWq.places with
      | none => s
      | some held => ⟨held, false⟩
    else s

/-- The queued scan has `ieee->wx_sem`, and nothing else holds a semaphore. -/
def State.Tidy (s : State) : Prop :=
  s.held = if s.scanQueued then update free .ieeeWxSem true else free

def ValidEvent (_ : State) : Event → Prop
  | .request _ r => RadioValid r
  | .syncScan => True

theorem tidy_request {s : State} (h : s.Tidy) (dev : Looks) {r : Request} (hvalid : RadioValid r) :
    (step s (.request dev r)).Tidy := by
  have hrun := holdAll_mono (handle_holds dev hvalid) (show ∀ i, free i = true → s.held i = true from nofun)
  unfold step
  rcases hrun with hwait | hdone
  · simp only [hwait]
    exact h
  · simp only [hdone]
    unfold State.Tidy keeps at *
    rw [h]
    cases s.scanQueued <;> cases (handle dev r).val.handsOver <;> (funext i; cases i <;> rfl)

theorem tidy_step_iff {s : State} (h : s.Tidy) (e : Event) : (step s e).Tidy ↔ ValidEvent s e := by
  -- A step keeps the semaphores tidy exactly when it is valid.
  obtain ⟨held, queued⟩ := s
  cases e with
  | syncScan =>
    refine iff_of_true ?_ trivial
    cases queued with
    | false => exact h
    | true =>
      obtain rfl : held = update free .ieeeWxSem true := h
      show State.Tidy ⟨_, false⟩
      unfold State.Tidy
      funext s
      cases s <;> rfl
  | request dev r =>
    refine ⟨fun htidy => ?_, tidy_request h dev⟩
    cases r with
    | setRadio extra =>
      by_contra hinvalid
      -- Its semaphore was free, so that it did not wait.
      have hfree : held .privWxSem = false := by
        rw [show held = _ from h]
        split <;> rfl
      have hdone : holdAll held (handle dev (.setRadio extra)).places =
          some (update held .privWxSem true) := by
        rw [setRadio_invalid hinvalid]
        show (if held .privWxSem then none else some (update held .privWxSem true)).bind some = _
        rw [hfree]
        rfl
      unfold step at htidy
      simp only [hdone] at htidy
      have hheld : true = (if queued || (handle dev (.setRadio extra)).val.handsOver then
          update free .ieeeWxSem true else free) .privWxSem := congrFun htidy .privWxSem
      generalize (queued || (handle dev (.setRadio extra)).val.handsOver) = b at hheld
      cases b <;> exact absurd hheld (by decide)
    | _ => trivial

/-- After every request all semaphores are free, except the one that a queued scan has, exactly when
every request to set the radio has one of the arguments that it accepts. -/
theorem tidy_run_iff (es : List Event) :
    Meets step ValidEvent ⟨free, false⟩ es ↔ ∀ fs, fs <+: es → (exec step ⟨free, false⟩ fs).Tidy := by
  apply meets_iff_forall_prefixes (I := fun _ => True) (V := fun _ => True)
  · exact fun _ _ _ _ _ _ => trivial
  · exact fun s e _ h _ => tidy_step_iff h e
  · trivial
  · rfl
  · exact fun _ _ => trivial

/-- The radio is set to 2. -/
theorem not_always_balanced : ¬ ∀ dev r, Balanced dev r := by
  intro h
  let l : Look := ⟨false, true, false, true, .eRfOn, 0, .nolink, .infra, true, fun _ => 1, true, none,
    true⟩
  have := h (fun _ => l) (.setRadio 2) .privWxSem
  exact absurd this (by decide)

end Rtl8190.Wx
