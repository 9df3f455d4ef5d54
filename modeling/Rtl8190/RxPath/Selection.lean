import Rtl8190.Lib.Ranking
import Rtl8190.RxPath.Code

/-!
# The paths that a run selects

The pass finds the strongest, the second and the weakest of the enabled paths, for the signal strength and
for the power of CCK packets alike.
-/

open Rtl8190.Ranking

namespace Rtl8190.RxPath

variable {α : Type} [LinearOrder α] {value : Path → α} {l : List Path} {p : Pick α} {i : Path}

/-- What the pass has kept after the paths of a list -/
structure PickRight (value : Path → α) (l : List Path) (p : Pick α) : Prop where
  rfNum : p.rfNum = l.length
  ranked : l ≠ [] → Ranked value l p.maxIndex p.secIndex p.minIndex
  tmpMax : l ≠ [] → p.tmpMax = value p.maxIndex
  tmpSec : l ≠ [] → p.tmpSec = value p.secIndex
  tmpMin : l ≠ [] → p.tmpMin = value p.minIndex

theorem PickRight.ite {c : Prop} [Decidable c] {q : Pick α} (hp : c → PickRight value l p)
    (hq : ¬ c → PickRight value l q) : PickRight value l (if c then p else q) := by
  split
  next h => exact hp h
  next h => exact hq h

theorem pickPath_first (h : PickRight value [] p) : PickRight value [i] (pickPath p i (value i)) := by
  have hnum : p.rfNum + 1 = 1 := congrArg (· + 1) h.rfNum
  unfold pickPath
  dsimp only
  rw [if_pos hnum]
  exact ⟨hnum, fun _ => ranked_singleton i, fun _ => rfl, fun _ => rfl, fun _ => rfl⟩

theorem pickPath_second {a : Path} (h : PickRight value [a] p) (hne : a ≠ i) :
    PickRight value [a, i] (pickPath p i (value i)) := by
  have hnum : p.rfNum + 1 = 2 := congrArg (· + 1) h.rfNum
  have hranked := h.ranked (List.cons_ne_nil a [])
  have hmax := List.mem_singleton.mp hranked.max_mem
  have hsec := List.mem_singleton.mp hranked.sec_mem
  have hmin := List.mem_singleton.mp hranked.min_mem
  have htmpMax := h.tmpMax (List.cons_ne_nil a [])
  have htmpSec := h.tmpSec (List.cons_ne_nil a [])
  have htmpMin := h.tmpMin (List.cons_ne_nil a [])
  rw [hmax] at htmpMax
  rw [hsec] at htmpSec
  rw [hmin] at htmpMin
  unfold pickPath
  dsimp only
  rw [if_neg (by omega), if_pos hnum]
  split
  next hge =>
    rw [htmpMax] at hge
    refine ⟨hnum, fun _ => ?_, fun _ => rfl, fun _ => ?_, fun _ => ?_⟩
    · dsimp only
      rw [hsec, hmin]
      exact ranked_pair_above hne hge
    · exact htmpSec.trans (congrArg value hsec.symm)
    · exact htmpMin.trans (congrArg value hmin.symm)
  next hlt =>
    rw [htmpMax] at hlt
    refine ⟨hnum, fun _ => ?_, fun _ => ?_, fun _ => rfl, fun _ => rfl⟩
    · dsimp only
      rw [hmax]
      exact ranked_pair_below hne (le_of_lt (not_le.mp hlt))
    · exact htmpMax.trans (congrArg value hmax.symm)

theorem pickPath_further (h : PickRight value l p) (hl : 2 ≤ l.length) (hi : i ∉ l) :
    PickRight value (l ++ [i]) (pickPath p i (value i)) := by
  -- From the third path on, one of the four rules applies to each branch.
  have hne : l ≠ [] := List.ne_nil_of_length_pos (by omega)
  have hnum : p.rfNum + 1 = (l ++ [i]).length := by
    rw [List.length_append, h.rfNum, List.length_singleton]
  have hr := h.ranked hne
  have hmax := h.tmpMax hne
  have hsec := h.tmpSec hne
  have hmin := h.tmpMin hne
  have hsecmax : p.tmpSec ≤ p.tmpMax := by
    rw [hsec, hmax]
    exact hr.le_max _ hr.sec_mem
  have hminsec : p.tmpMin ≤ p.tmpSec := by
    rw [hmin, hsec]
    exact hr.min_le _ hr.sec_mem
  have hrfNum := h.rfNum
  unfold pickPath
  dsimp only
  rw [if_neg (by omega), if_neg (by omega)]
  have hfirst (hle : p.tmpMax ≤ value i) : PickRight value (l ++ [i])
      { p with rfNum := p.rfNum + 1, tmpSec := p.tmpMax, secIndex := p.maxIndex, tmpMax := value i, maxIndex := i } :=
    ⟨hnum, fun _ => hr.above hl hi (hmax ▸ hle), fun _ => rfl, fun _ => hmax, fun _ => hmin⟩
  have hsecond (hle : value i ≤ p.tmpMax) (hge : p.tmpSec ≤ value i) : PickRight value (l ++ [i])
      { p with rfNum := p.rfNum + 1, tmpSec := value i, secIndex := i } :=
    ⟨hnum, fun _ => hr.between hl hi (hmax ▸ hle) (hsec ▸ hge), fun _ => hmax, fun _ => rfl, fun _ => hmin⟩
  have hlast (hle : value i ≤ p.tmpMin) : PickRight value (l ++ [i])
      { p with rfNum := p.rfNum + 1, tmpMin := value i, minIndex := i } :=
    ⟨hnum, fun _ => hr.below hl hi (hmin ▸ hle), fun _ => hmax, fun _ => hsec, fun _ => rfl⟩
  have hnone (hle : value i ≤ p.tmpSec) (hge : p.tmpMin ≤ value i) (hlt : p.tmpMin < p.tmpSec) :
      PickRight value (l ++ [i]) { p with rfNum := p.rfNum + 1 } := by
    rw [hmin, hsec] at hlt
    exact ⟨hnum, fun _ => hr.within hl (hsec ▸ hle) (hmin ▸ hge) hlt, fun _ => hmax, fun _ => hsec, fun _ => hmin⟩
  refine .ite (fun h => hfirst (le_of_lt h)) fun h => ?_
  have hmaxle : value i ≤ p.tmpMax := not_lt.mp h
  refine .ite (fun h => hsecond (le_of_eq h) (h ▸ hsecmax)) fun hnemax => ?_
  have hltmax : value i < p.tmpMax := lt_of_le_of_ne hmaxle hnemax
  refine .ite (fun h => hsecond (le_of_lt h.1) (le_of_lt h.2)) fun h => ?_
  have hsecle : value i ≤ p.tmpSec := not_lt.mp fun hgt => h ⟨hltmax, hgt⟩
  refine .ite (fun heq => ?_) fun hnesec => ?_
  · refine .ite (fun _ => hsecond hmaxle (le_of_eq heq.symm)) fun hne => ?_
    exact hnone hsecle (heq ▸ hminsec) (lt_of_le_of_ne hminsec (Ne.symm hne))
  have hltsec : value i < p.tmpSec := lt_of_le_of_ne hsecle hnesec
  refine .ite (fun h => hnone hsecle (le_of_lt h.2) (lt_trans h.2 h.1)) fun h => ?_
  have hminle : value i ≤ p.tmpMin := not_lt.mp fun hgt => h ⟨hltsec, hgt⟩
  refine .ite (fun heq => ?_) fun hnemin => ?_
  · refine .ite (fun _ => hlast hminle) fun hne => ?_
    exact hnone hsecle (le_of_eq heq.symm) (lt_of_le_of_ne hminsec (Ne.symm hne))
  refine .ite (fun _ => hlast hminle) fun h => ?_
  -- The branches before cover every value.
  exact absurd (lt_of_le_of_ne hminle hnemin) h

theorem pickPath_right (h : PickRight value l p) (hi : i ∉ l) :
    PickRight value (l ++ [i]) (pickPath p i (value i)) := by
  match l, h, hi with
  | [], h, _ => exact pickPath_first h
  | [a], h, hi =>
    apply pickPath_second h
    rintro rfl
    exact hi (List.mem_singleton_self a)
  | a :: b :: l, h, hi => exact pickPath_further h (by simp) hi

theorem foldl_pickPath_right (hl : l.Nodup) (zero : α) :
    PickRight value l (l.foldl (fun p i => pickPath p i (value i)) ⟨0, 0, 0, 0, zero, zero, zero⟩) := by
  induction l using List.reverseRecOn with
  | nil => exact ⟨rfl, fun h => absurd rfl h, fun h => absurd rfl h, fun h => absurd rfl h, fun h => absurd rfl h⟩
  | append_singleton l i ih =>
    obtain ⟨hl, _, hdisjoint⟩ := List.nodup_append.mp hl
    rw [List.foldl_append]
    apply pickPath_right (ih hl)
    intro hi
    exact hdisjoint i hi i (List.mem_singleton_self i) rfl

def enabledPaths (enabled : Path → Bool) : List Path := (List.finRange 4).filter enabled

theorem pick_right (zero : α) (enabled : Path → Bool) (value : Path → α) :
    PickRight value (enabledPaths enabled) (pick zero enabled value) := by
  unfold pick enabledPaths
  rw [← List.foldl_filter]
  exact foldl_pickPath_right ((List.nodup_finRange 4).filter enabled) zero

/-- The indices that a run uses are the ranks of the enabled paths, if there are any. -/
def SelectionRight (s : State) : Prop :=
  enabledPaths s.brfpathRxenable ≠ [] →
    Ranked (fun i => (s.table.rfRssi i).toNat) (enabledPaths s.brfpathRxenable) (rssiPick s).maxIndex
        (rssiPick s).secIndex (rssiPick s).minIndex ∧
      Ranked s.table.cckPwdbSta (enabledPaths s.brfpathRxenable) (cckPick s).maxIndex (cckPick s).secIndex
        (cckPick s).minIndex

theorem selectionRight (s : State) : SelectionRight s := fun h =>
  ⟨(pick_right 0 _ _).ranked h, (pick_right 0 _ _).ranked h⟩

end Rtl8190.RxPath
