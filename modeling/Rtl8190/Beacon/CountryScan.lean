import Rtl8190.Beacon.Code
import Rtl8190.Lib.Run

/-!
# Which scans forget the country

A watchdog in eight bits counts the country elements that the source of the country sends. A scan
that ends and finds it 0 forgets the country.
-/

open Rtl8190.Memory Rtl8190.Run

namespace Rtl8190.Beacon

/-- `Dot11d_Init`, the fields of the structure -/
def dot11dInit (info : Dot11dInfo) : Dot11dInfo :=
  { info with
    bEnabled := false
    state := .none
    countryIeLen := 0
    channelMap := fun _ => 0
    maxTxPwrDbmList := fun _ => 0xff
    countryIeWatchdog := 0 }

def dot11dReset (info : Dot11dInfo) : Dot11dInfo :=
  { info with
    channelMap := fun c => if 1 ≤ c ∧ c ≤ 11 then 1 else if 12 ≤ c ∧ c ≤ 14 then 2 else 0
    maxTxPwrDbmList := fun _ => 0xff
    state := .none
    countryIeLen := 0
    countryIeWatchdog := 0 }

def dot11dScanComplete (info : Dot11dInfo) : Dot11dInfo :=
  match info.state with
  | .learned => { info with state := .done }
  | .done => if info.countryIeWatchdog = 0 then dot11dReset info else info
  | .none => info

/-- What `rtllib_start_scan` and `rtllib_start_scan_syncro` do about the country. -/
def startScanCountry (info : Dot11dInfo) : Dot11dInfo :=
  if info.bEnabled ∧ 0 < info.countryIeLen then { info with countryIeWatchdog := 0 } else info

inductive CountryEvent where
  /-- `rtllib_start_scan` or `rtllib_start_scan_syncro` -/
  | startScan
  /-- A country element in a beacon or probe response, that `rtllib_extract_country_ie` gets. -/
  | element (env : Env) (e : Elem) (st : ParseState)
  /-- The end of `rtllib_softmac_scan_wq` or `rtllib_softmac_scan_syncro` -/
  | scanEnd
  /-- `rtllib_disassociate` -/
  | disassociate

/-- `info`, and what has come in since the watchdog was set to 0 (`seen`), and since the start of a
scan has last set it to 0 (`heard`). -/
structure CountryState where
  info : Dot11dInfo
  seen : Nat
  heard : Bool

def extracted (env : Env) (e : Elem) (st : ParseState) (info : Dot11dInfo) : Dot11dInfo :=
  (rtllibExtractCountryIe env e { st with dot11d := info }).val.dot11d

def FromSource (info : Dot11dInfo) (st : ParseState) : Prop :=
  info.bEnabled ∧ info.countryIeSrcAddr = st.network.bssid

instance (info : Dot11dInfo) (st : ParseState) : Decidable (FromSource info st) :=
  inferInstanceAs (Decidable (_ ∧ _))

def CountryState.step (s : CountryState) : CountryEvent → CountryState
  | .startScan =>
    if s.info.bEnabled ∧ 0 < s.info.countryIeLen then ⟨startScanCountry s.info, 0, false⟩
    else { s with info := startScanCountry s.info }
  | .element env e st =>
    let info := extracted env e st s.info
    if FromSource info st then ⟨info, s.seen + 1, true⟩ else { s with info := info }
  | .scanEnd =>
    if s.info.bEnabled then
      if s.info.state = .done ∧ s.info.countryIeWatchdog = 0 then
        { s with info := dot11dScanComplete s.info, seen := 0 }
      else { s with info := dot11dScanComplete s.info }
    else s
  | .disassociate =>
    if s.info.bEnabled then { s with info := dot11dReset s.info, seen := 0 } else s

/-- After `Dot11d_Init`, with 802.11d switched on or not. -/
def CountryState.init (info : Dot11dInfo) (enabled : Bool) : CountryState :=
  ⟨{ dot11dInit info with bEnabled := enabled }, 0, false⟩

/-- The end of a scan in state `DONE` forgets the country just when nothing was heard. -/
def ForgetsUnheard (s : CountryState) (e : CountryEvent) : Prop :=
  e = .scanEnd → s.info.bEnabled → s.info.state = .done →
    ((s.step e).info.state = .none ↔ s.heard = false)

def NotRound (s : CountryState) (e : CountryEvent) : Prop :=
  e = .scanEnd → s.info.bEnabled → s.info.state = .done → ¬ (0 < s.seen ∧ 256 ∣ s.seen)

/-! ## What one element does -/

/-- What `Dot11d_UpdateCountryIe` does to the fields that the scans look at. -/
structure Learning (info info' : Dot11dInfo) (src : Addr) : Prop where
  bEnabled : info'.bEnabled = info.bEnabled
  watchdog : info'.countryIeWatchdog = info.countryIeWatchdog
  learned : (info'.countryIeSrcAddr = src ∧ info'.countryIeLen ≠ 0 ∧ info'.state = .learned) ∨
    (info'.countryIeSrcAddr = info.countryIeSrcAddr ∧ info'.countryIeLen = info.countryIeLen ∧
      info'.state = info.state)

theorem Learning.refl (info : Dot11dInfo) (src : Addr) : Learning info info src :=
  ⟨rfl, rfl, .inr ⟨rfl, rfl, rfl⟩⟩

theorem tripleLoop_keeps {π : Type} (ie : Nat → Reads π Byte) (n p m : Nat) (info : Dot11dInfo)
    (src : Addr) : Learning info (tripleLoop ie n p m info).val.2 src := by
  -- The triples change the lists only.
  induction n generalizing p m info with
  | zero => exact .refl info src
  | succ n ih =>
    unfold tripleLoop
    simp only [bind_val, ite_val, pure_val]
    split_ifs
    · exact .refl info src
    · exact .refl info src
    · exact ih _ _ _
    · have h := ih (p + 3) ((ie p).val.toNat + (ie (p + 1)).val.toNat - 1)
        (setChannels info (ie p).val.toNat (ie (p + 1)).val.toNat (ie (p + 2)).val)
      exact ⟨h.bEnabled, h.watchdog, h.learned⟩

theorem dot11dUpdateCountryIe_learning {π : Type} (ie : Nat → Reads π Byte) (src : Addr)
    {len : Nat} (hlen : len ≠ 0) (info : Dot11dInfo) :
    Learning info (dot11dUpdateCountryIe ie src len info).val src := by
  obtain ⟨henabled, hwatchdog, hlearned⟩ := tripleLoop_keeps ie (numTriples len) 3 0
    { info with channelMap := fun _ => 0, maxTxPwrDbmList := fun _ => 0xff } src
  unfold dot11dUpdateCountryIe
  simp only [bind_val, ite_val, pure_val]
  split_ifs
  · exact ⟨henabled, hwatchdog, .inl ⟨rfl, hlen, rfl⟩⟩
  · exact ⟨henabled, hwatchdog, hlearned⟩

def updated (env : Env) (e : Elem) (st : ParseState) (info : Dot11dInfo) : Dot11dInfo :=
  if e.len ≠ 0 ∧ info.countryIeLen = 0 then
    (dot11dUpdateCountryIe (e.data env) st.network.bssid e.len info).val
  else info

theorem extracted_eq (env : Env) (e : Elem) (st : ParseState) (info : Dot11dInfo) :
    extracted env e st info =
      if info.bEnabled then
        if (updated env e st info).countryIeSrcAddr = st.network.bssid then
          { updated env e st info with
            countryIeWatchdog := (updated env e st info).countryIeWatchdog + 1 }
        else updated env e st info
      else info := by
  unfold extracted rtllibExtractCountryIe updated
  simp only [ite_val, bind_val, pure_val]
  split_ifs <;> simp_all

theorem updated_learning (env : Env) (e : Elem) (st : ParseState) (info : Dot11dInfo) :
    Learning info (updated env e st info) st.network.bssid := by
  unfold updated
  split_ifs with h
  · exact dot11dUpdateCountryIe_learning _ _ h.1 _
  · exact .refl _ _

/-! ## What every state of a run has -/

structure CountryState.Inv (s : CountryState) : Prop where
  watchdog : s.info.countryIeWatchdog = BitVec.ofNat 8 s.seen
  noCountry : s.info.state = .none ↔ s.info.countryIeLen = 0
  heard_of_seen : 0 < s.seen → s.heard = true
  seen_of_heard : s.info.state ≠ .none → s.heard = true → 0 < s.seen

theorem inv_init (info : Dot11dInfo) (enabled : Bool) : (CountryState.init info enabled).Inv :=
  ⟨rfl, by simp [CountryState.init, dot11dInit], by simp [CountryState.init],
    by simp [CountryState.init]⟩

theorem inv_startScan {s : CountryState} (h : s.Inv) : (s.step .startScan).Inv := by
  unfold CountryState.step startScanCountry
  simp only
  split_ifs with hreset
  · exact ⟨rfl, h.noCountry, by simp, by simp⟩
  · exact h

theorem inv_element {s : CountryState} (h : s.Inv) (env : Env) (e : Elem) (st : ParseState) :
    (s.step (.element env e st)).Inv := by
  have hu := updated_learning env e st s.info
  unfold CountryState.step
  simp only [extracted_eq]
  by_cases henabled : s.info.bEnabled = true
  · by_cases hsrc : (updated env e st s.info).countryIeSrcAddr = st.network.bssid
    · -- It is counted, learned just now or not.
      simp only [henabled, if_true, if_pos hsrc]
      rw [if_pos ⟨hu.bEnabled.trans henabled, hsrc⟩]
      constructor
      · simp only
        rw [hu.watchdog, h.watchdog, BitVec.ofNat_add]
        rfl
      · rcases hu.learned with ⟨-, hlen, hstate⟩ | ⟨-, hlen, hstate⟩
        · simp [hlen, hstate]
        · simp only [hlen, hstate]
          exact h.noCountry
      · simp
      · simp
    · -- It is from another station, and nothing was learned.
      simp only [henabled, if_true, hsrc, if_false]
      rw [if_neg fun hfrom => hsrc hfrom.2]
      rcases hu.learned with ⟨hsrc', -⟩ | ⟨-, hlen, hstate⟩
      · exact absurd hsrc' hsrc
      · constructor
        · simp only [hu.watchdog]
          exact h.watchdog
        · simp only [hlen, hstate]
          exact h.noCountry
        · exact h.heard_of_seen
        · simp only [hstate]
          exact h.seen_of_heard
  · simp only [henabled, Bool.false_eq_true, if_false]
    rw [if_neg fun hfrom => henabled hfrom.1]
    exact h

theorem step_scanEnd_of_zero {s : CountryState} (henabled : s.info.bEnabled)
    (hdone : s.info.state = .done) (hzero : s.info.countryIeWatchdog = 0) :
    s.step .scanEnd = { s with info := dot11dReset s.info, seen := 0 } := by
  unfold CountryState.step dot11dScanComplete
  simp [henabled, hdone, hzero]

theorem step_scanEnd_of_ne_zero {s : CountryState} (hdone : s.info.state = .done)
    (hzero : ¬ s.info.countryIeWatchdog = 0) : s.step .scanEnd = s := by
  unfold CountryState.step dot11dScanComplete
  simp only [hdone, true_and, if_neg hzero]
  exact ite_id s

theorem inv_scanEnd {s : CountryState} (h : s.Inv) : (s.step .scanEnd).Inv := by
  by_cases henabled : s.info.bEnabled = true
  · cases hstate : s.info.state with
    | none =>
      have hstep : s.step .scanEnd = s := by
        unfold CountryState.step dot11dScanComplete
        simp [hstate]
      rw [hstep]
      exact h
    | learned =>
      have hstep : s.step .scanEnd = { s with info := { s.info with state := .done } } := by
        unfold CountryState.step dot11dScanComplete
        simp [henabled, hstate]
      have hlen : s.info.countryIeLen ≠ 0 := by
        rw [ne_eq, ← h.noCountry, hstate]
        decide
      rw [hstep]
      refine ⟨h.watchdog, by simp [hlen], h.heard_of_seen, fun _ => h.seen_of_heard ?_⟩
      rw [hstate]
      decide
    | done =>
      by_cases hzero : s.info.countryIeWatchdog = 0
      · rw [step_scanEnd_of_zero henabled hstate hzero]
        exact ⟨rfl, by simp [dot11dReset], by simp, by simp [dot11dReset]⟩
      · rw [step_scanEnd_of_ne_zero hstate hzero]
        exact h
  · have hstep : s.step .scanEnd = s := by
      unfold CountryState.step
      simp [henabled]
    rw [hstep]
    exact h

theorem inv_disassociate {s : CountryState} (h : s.Inv) : (s.step .disassociate).Inv := by
  unfold CountryState.step dot11dReset
  simp only
  split_ifs
  · exact ⟨rfl, by simp, by simp, by simp⟩
  · exact h

theorem inv_step (s : CountryState) (e : CountryEvent) (h : s.Inv) : (s.step e).Inv := by
  cases e with
  | startScan => exact inv_startScan h
  | element env e st => exact inv_element h env e st
  | scanEnd => exact inv_scanEnd h
  | disassociate => exact inv_disassociate h

/-! ## The watchdog as a flag -/

theorem watchdog_zero_iff {s : CountryState} (h : s.Inv) :
    s.info.countryIeWatchdog = 0 ↔ 256 ∣ s.seen := by
  rw [h.watchdog, ← BitVec.toNat_inj, BitVec.toNat_ofNat]
  exact (Nat.dvd_iff_mod_eq_zero).symm

theorem forgetsUnheard_iff {s : CountryState} (h : s.Inv) (e : CountryEvent) :
    ForgetsUnheard s e ↔ NotRound s e := by
  unfold ForgetsUnheard NotRound
  refine imp_congr_right fun hscan => imp_congr_right fun henabled => imp_congr_right fun hdone => ?_
  subst hscan
  have hheard : s.heard = true ↔ 0 < s.seen :=
    ⟨h.seen_of_heard (by rw [hdone]; decide), h.heard_of_seen⟩
  rw [← watchdog_zero_iff h, ← hheard]
  by_cases hzero : s.info.countryIeWatchdog = 0
  · rw [step_scanEnd_of_zero henabled hdone hzero]
    simp [dot11dReset, hzero]
  · rw [step_scanEnd_of_ne_zero hdone hzero, hdone]
    have hseen : 0 < s.seen := by
      apply Nat.pos_of_ne_zero
      intro hnone
      rw [watchdog_zero_iff h, hnone] at hzero
      exact hzero (Nat.dvd_zero 256)
    simp only [hheard.mpr hseen, hzero, reduceCtorEq, and_false, not_false_eq_true]

/-- In every run, the scans forget the country just when nothing was heard, unless the elements that
were heard are a multiple of 256 at the end of a scan; and then they do not. -/
theorem forgets_unheard_iff (info : Dot11dInfo) (enabled : Bool) (es : List CountryEvent) :
    Meets CountryState.step ForgetsUnheard (.init info enabled) es ↔
      Meets CountryState.step NotRound (.init info enabled) es :=
  meets_congr (fun s e hs _ => inv_step s e hs) (fun _ e hs => forgetsUnheard_iff hs e)
    (inv_init info enabled)

/-! ## A run that comes round -/

structure CountryState.Tuned (s : CountryState) (src : Addr) (n : Nat) : Prop where
  enabled : s.info.bEnabled = true
  done : s.info.state = .done
  known : s.info.countryIeLen ≠ 0
  source : s.info.countryIeSrcAddr = src
  seen : s.seen = n

theorem tuned_element {s : CountryState} {src : Addr} {n : Nat} (h : s.Tuned src n) (env : Env)
    (e : Elem) {st : ParseState} (hst : st.network.bssid = src) :
    (s.step (.element env e st)).Tuned src (n + 1) := by
  have hsame : updated env e st s.info = s.info := if_neg fun hlearn => h.known hlearn.2
  have hsource : s.info.countryIeSrcAddr = st.network.bssid := h.source.trans hst.symm
  unfold CountryState.step
  simp only [extracted_eq, hsame, if_pos h.enabled, if_pos hsource]
  rw [if_pos ⟨h.enabled, hsource⟩]
  exact ⟨h.enabled, h.done, h.known, h.source, congrArg (· + 1) h.seen⟩

theorem tuned_replicate {s : CountryState} {src : Addr} {n : Nat} (h : s.Tuned src n) (env : Env)
    (e : Elem) {st : ParseState} (hst : st.network.bssid = src) (m : Nat) :
    (exec CountryState.step s (List.replicate m (.element env e st))).Tuned src (n + m) := by
  induction m generalizing s n with
  | zero => exact h
  | succ m ih =>
    rw [List.replicate_succ, exec_cons, Nat.add_comm m 1, ← Nat.add_assoc]
    exact ih (tuned_element h env e hst)

theorem inv_exec {s : CountryState} (h : s.Inv) (es : List CountryEvent) :
    (exec CountryState.step s es).Inv := by
  induction es generalizing s with
  | nil => exact h
  | cons e es ih => exact ih (inv_step s e h)

def usFrame : ParseState :=
  ⟨{ (default : Network) with bssid := fun _ => 2 }, default, 0, 0, 0, fun _ => none⟩

/-- A country element of one triple: the channels 1 to 11. -/
def usBeacon : CountryEvent :=
  .element { (default : Env) with
    mem := fun i => ([7, 6, 0x55, 0x53, 0x20, 1, 11, 20] : List Byte).getD i 0 } ⟨0, 7, 6⟩ usFrame

/-- The country is learned; the next scan hears 256 beacons, and forgets it. -/
theorem forgotten_after_256_beacons :
    ¬ Meets CountryState.step ForgetsUnheard (.init default true)
      ([usBeacon, .scanEnd, .startScan] ++ List.replicate 256 usBeacon ++ [.scanEnd]) := by
  have hstart : (exec CountryState.step (.init default true)
      [usBeacon, .scanEnd, .startScan]).Tuned (fun _ => 2) 0 := by
    constructor <;> decide
  have hend := tuned_replicate hstart { (default : Env) with
    mem := fun i => ([7, 6, 0x55, 0x53, 0x20, 1, 11, 20] : List Byte).getD i 0 } ⟨0, 7, 6⟩
    (rfl : usFrame.network.bssid = fun _ => 2) 256
  rw [← usBeacon] at hend
  intro h
  rw [meets_append, exec_append] at h
  have hinv := inv_exec (inv_init default true)
    ([usBeacon, .scanEnd, .startScan] ++ List.replicate 256 usBeacon)
  rw [exec_append] at hinv
  have hround := (forgetsUnheard_iff hinv .scanEnd).mp h.2.1 rfl hend.enabled hend.done
  apply hround
  rw [hend.seen]
  decide

end Rtl8190.Beacon
