import Rtl8190.Association.Code

/-!
# The choice of a network

`rtllib_softmac_new_net` and `rtllib_softmac_check_all_nets` either leave the device alone or join
one network that suits it. `rtllib_start_protocol` looks for one in infrastructure mode.
-/

open Rtl8190.Beacon

namespace Rtl8190.Association

/-- What `rtllib_softmac_new_net` asks of a network. -/
def Suits (cfg : Config) (d : Device) (net : Network) : Prop :=
  (d.iwMode = .infra ∧ net.ess = true ∨
      d.iwMode = .adhoc ∧ net.ibss = true ∧ net.channel ≤ cfg.ibssMaxjoinChal) ∧
    selects d net = true

instance (cfg : Config) (d : Device) (net : Network) : Decidable (Suits cfg d net) := by
  unfold Suits
  infer_instance

def link (d : Device) (net : Network) : Device :=
  let d := { d with currentNetwork := joined d net }
  if d.iwMode = .infra then { d with asocRetryCount := 0, state := .associating }.queueProcedure
  else { d with state := .linked }

variable {cfg : Config} {env : Env} {d : Device} {net : Network}

theorem link_state_ne (d : Device) (net : Network) : (link d net).state ≠ .nolink := by
  unfold link
  dsimp only
  split
  · intro h
    cases h
  · intro h
    cases h

theorem newNet_eq (cfg : Config) (d : Device) (net : Network) :
    rtllibSoftmacNewNet cfg d net =
      if d.state = .nolink ∧ Suits cfg d net then link d net else d := by
  have hdef : rtllibSoftmacNewNet cfg d net =
      if d.state ≠ .nolink then d
      else if d.iwMode = .infra ∧ net.ess = false then d
      else if d.iwMode = .adhoc ∧ net.ibss = false then d
      else if d.iwMode = .adhoc ∧ net.channel > cfg.ibssMaxjoinChal then d
      else if (d.iwMode = .infra ∨ d.iwMode = .adhoc) ∧ selects d net then link d net
      else d := rfl
  rw [hdef]
  unfold Suits
  generalize link d net = linked
  by_cases hstate : d.state = .nolink
  · have hmodes : ∀ mode : IwMode, mode = .infra ∨ mode = .adhoc ∨ mode = .master ∨ mode = .monitor := by
      intro mode
      cases mode <;> decide
    rcases hmodes d.iwMode with hmode | hmode | hmode | hmode
    · rcases Bool.eq_false_or_eq_true net.ess with hess | hess <;> simp [hstate, hmode, hess]
    · rcases Bool.eq_false_or_eq_true net.ibss with hibss | hibss
      · by_cases hchan : net.channel ≤ cfg.ibssMaxjoinChal
        · simp [hstate, hmode, hibss, hchan, BitVec.not_lt.mpr hchan]
        · simp [hstate, hmode, hibss, hchan, BitVec.not_le.mp hchan]
      · simp [hstate, hmode, hibss]
    · simp [hstate, hmode]
    · simp [hstate, hmode]
  · rw [if_pos hstate, if_neg fun h => hstate h.1]

theorem newNet_of_suits (hstate : d.state = .nolink) (h : Suits cfg d net) :
    rtllibSoftmacNewNet cfg d net = link d net := by
  rw [newNet_eq, if_pos ⟨hstate, h⟩]

theorem newNet_of_not_suits (h : ¬ Suits cfg d net) : rtllibSoftmacNewNet cfg d net = d := by
  rw [newNet_eq, if_neg fun hs => h hs.2]

theorem checkNets_of_state_ne (h : d.state ≠ .nolink) (nets : List Network) :
    checkNets cfg env nets d = d := by
  cases nets with
  | nil => rfl
  | cons target rest =>
    unfold checkNets
    rw [if_pos h]

/-- The networks that `rtllib_softmac_check_all_nets` may join. -/
def Candidate (cfg : Config) (env : Env) (d : Device) (target : Network) : Prop :=
  recent cfg env target = true ∧ Suits cfg d target

instance (cfg : Config) (env : Env) (d : Device) (target : Network) :
    Decidable (Candidate cfg env d target) := by
  unfold Candidate
  infer_instance

theorem checkNets_of_none (nets : List Network) (h : ∀ target ∈ nets, ¬ Candidate cfg env d target) :
    checkNets cfg env nets d = d := by
  induction nets with
  | nil => rfl
  | cons target rest ih =>
    have hrest := ih fun t ht => h t (List.mem_cons_of_mem target ht)
    unfold checkNets
    split
    · rfl
    split
    · next hrecent =>
      rw [newNet_of_not_suits fun hs => h target List.mem_cons_self ⟨hrecent, hs⟩]
      exact hrest
    · exact hrest

theorem checkNets_of_some (nets : List Network) (hstate : d.state = .nolink)
    (h : ∃ target ∈ nets, Candidate cfg env d target) :
    ∃ target ∈ nets, Candidate cfg env d target ∧ checkNets cfg env nets d = link d target := by
  -- The first candidate is joined.
  induction nets with
  | nil =>
    obtain ⟨target, hmem, -⟩ := h
    cases hmem
  | cons target rest ih =>
    unfold checkNets
    rw [if_neg (not_not.mpr hstate)]
    by_cases hcand : Candidate cfg env d target
    · refine ⟨target, List.mem_cons_self, hcand, ?_⟩
      rw [if_pos hcand.1, newNet_of_suits hstate hcand.2]
      exact checkNets_of_state_ne (link_state_ne d target) rest
    · obtain ⟨t, ht, hc⟩ := h
      have hrest : ∃ t ∈ rest, Candidate cfg env d t := by
        rcases List.mem_cons.mp ht with rfl | ht
        · exact absurd hc hcand
        · exact ⟨t, ht, hc⟩
      obtain ⟨u, hu, hcu, heq⟩ := ih hrest
      refine ⟨u, List.mem_cons_of_mem target hu, hcu, ?_⟩
      have hsame : (if recent cfg env target = true then rtllibSoftmacNewNet cfg d target else d) =
          d := by
        split
        · next hrecent => exact newNet_of_not_suits fun hs => hcand ⟨hrecent, hs⟩
        · rfl
      rw [hsame, heq]

theorem checkNets_cases (cfg : Config) (env : Env) (d : Device) (nets : List Network) :
    checkNets cfg env nets d = d ∨
      d.state = .nolink ∧
        ∃ target ∈ nets, Candidate cfg env d target ∧ checkNets cfg env nets d = link d target := by
  by_cases hstate : d.state = .nolink
  · by_cases h : ∃ target ∈ nets, Candidate cfg env d target
    · exact .inr ⟨hstate, checkNets_of_some nets hstate h⟩
    · exact .inl (checkNets_of_none nets fun t ht hc => h ⟨t, ht, hc⟩)
  · exact .inl (checkNets_of_state_ne hstate nets)

/-! ## The start of the protocol -/

def Device.opened (d : Device) (channel : Memory.Byte) (interval : BitVec 16) : Device :=
  { d with
    protoStarted := true
    currentNetwork := { d.currentNetwork with channel := channel, beaconInterval := interval } }

/-- What `rtllib_start_protocol` does in each mode. -/
inductive Started (cfg : Config) (env : Env) (d : Device) : Device → Prop where
  | idle : Started cfg env d { d with protoStarted := true }
  | bss (c i) (mode : d.iwMode = .infra) : Started cfg env d (rtllibStartBss cfg env (d.opened c i))
  | ibss (c i) (mode : d.iwMode = .adhoc) : Started cfg env d
      { d.opened c i with startIbssWq := { d.startIbssWq with queued := true } }
  | master (c i) (mode : d.iwMode = .master) :
      Started cfg env d (rtllibStartMasterBss cfg (d.opened c i))
  | monitor (c i) (mode : d.iwMode = .monitor) : Started cfg env d (d.opened c i)

theorem started_of_stopped (cfg : Config) (env : Env) (h : d.protoStarted = false) :
    Started cfg env d (rtllibStartProtocol cfg env d) := by
  unfold rtllibStartProtocol
  rw [if_neg (by rw [h]; decide)]
  dsimp only
  split
  · exact .idle
  split
  · next hmode => exact .bss _ _ hmode
  · next hmode => exact .ibss _ _ hmode
  · next hmode => exact .master _ _ hmode
  · next hmode => exact .monitor _ _ hmode

theorem start_of_started (h : d.protoStarted = true) : rtllibStartProtocol cfg env d = d := by
  unfold rtllibStartProtocol
  rw [if_pos h]

theorem startBss_cases (cfg : Config) (env : Env) (d : Device) :
    rtllibStartBss cfg env d = d ∨
      d.state = .nolink ∧ ∃ target ∈ env.networkList,
        Candidate cfg env d target ∧ rtllibStartBss cfg env d = link d target := by
  unfold rtllibStartBss rtllibSoftmacCheckAllNets
  split
  · exact .inl rfl
  · exact checkNets_cases cfg env d env.networkList

end Rtl8190.Association
