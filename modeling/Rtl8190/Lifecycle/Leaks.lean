import Mathlib.Data.List.Count
import Rtl8190.Lifecycle.Sessions

/-!
# One card after the other

A memory region that was lost stays lost: `request_mem_region` does not give it away a second time.
So a card whose memory could once not be mapped, or another one in its place, is never loaded again.
All else that is lost adds up.
-/

open Rtl8190.Resources

namespace Rtl8190.Lifecycle

def Kernel.withRegions (k : Kernel) (taken : Nat → Bool) : Kernel :=
  { k with memRegion := k.memRegion && !taken k.pmemStart }

/-- The driver is loaded and unloaded again and again; what was lost stays, and so do the variables
that nobody clears. The results are those of `rtl8192_pci_probe`. -/
def run (taken : Nat → Bool) (lost : Holding Res Vars) :
    List Kernel → Option (Holding Res Vars × List Int)
  | [] => some (lost, [])
  | k :: ks => do
    let (err, s) ← session (k.withRegions taken) (owning nothing lost.vars)
    let taken := Function.update taken k.pmemStart
      (taken k.pmemStart || s.held .memRegion != 0)
    let (lost, errs) ← run taken ⟨fun r => lost.held r + s.held r, s.vars⟩ ks
    pure (lost, err :: errs)

/-- The regions that are taken when the card is gone -/
def Kernel.takenAfter (k : Kernel) (taken : Nat → Bool) : Nat → Bool :=
  Function.update taken k.pmemStart
    (taken k.pmemStart || leaks (k.withRegions taken) .memRegion)

def heard (taken : Nat → Bool) : List Kernel → List Kernel
  | [] => []
  | k :: ks => k.withRegions taken :: heard (k.takenAfter taken) ks

section
variable (lost : Holding Res Vars) {taken : Nat → Bool}

theorem run_cons (k : Kernel) (ks : List Kernel) :
    if crashes (k.withRegions taken) then run taken lost (k :: ks) = none
    else ∃ v', run taken lost (k :: ks) =
      (run (k.takenAfter taken) ⟨fun r => lost.held r + (leaks (k.withRegions taken) r).toNat, v'⟩
        ks).map fun x => (x.1, errno (k.withRegions taken) :: x.2) := by
  have hsession := session_accounted (k.withRegions taken) lost.vars
  unfold Accounted at hsession
  split_ifs at hsession ⊢ with hcrash
  · simp [run, hsession]
  · obtain ⟨v', heq⟩ := hsession
    have hkept (b : Bool) : (b.toNat != 0) = b := by cases b <;> rfl
    refine ⟨v', ?_⟩
    simp only [run, heq, Option.bind_eq_bind, Option.bind_some, owning_held, owning_vars, hkept,
      Kernel.takenAfter]
    generalize run _ _ ks = rest
    cases rest <;> rfl

end

end Rtl8190.Lifecycle
