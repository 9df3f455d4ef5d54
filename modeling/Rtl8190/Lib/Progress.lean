import Mathlib.Order.WellFounded

/-!
# What a machine does when it is left alone

`Enabled s e` says that the step `e` is due in `s`. A goal is inevitable when the machine reaches
it whatever order it takes the due steps in.
-/

namespace Rtl8190.Run

variable {σ ε α : Type*} {step : σ → ε → σ} {Enabled : σ → ε → Prop} {G I : σ → Prop}

inductive Inevitable (step : σ → ε → σ) (Enabled : σ → ε → Prop) (G : σ → Prop) : σ → Prop
  | now {s : σ} (h : G s) : Inevitable step Enabled G s
  | later {s : σ} (h : ∃ e, Enabled s e)
      (hnext : ∀ e, Enabled s e → Inevitable step Enabled G (step s e)) :
      Inevitable step Enabled G s

/-- The progress rule: due steps keep `I` and decrease `μ`, and without one the goal is reached. -/
theorem inevitable_of_decreasing {r : α → α → Prop} (hr : WellFounded r) (μ : σ → α)
    (hI : ∀ s e, I s → Enabled s e → I (step s e))
    (hμ : ∀ s e, I s → Enabled s e → r (μ (step s e)) (μ s))
    (hG : ∀ s, I s → (∃ e, Enabled s e) ∨ G s) {s : σ} (h : I s) : Inevitable step Enabled G s := by
  generalize ha : μ s = a
  induction a using hr.induction generalizing s with
  | h a ih =>
    subst ha
    rcases hG s h with hdue | hg
    · exact .later hdue fun e he => ih _ (hμ s e h he) (hI s e h he) rfl
    · exact .now hg

theorem not_inevitable_of_invariant (hI : ∀ s e, I s → Enabled s e → I (step s e))
    (hG : ∀ s, I s → ¬ G s) {s : σ} (h : I s) : ¬ Inevitable step Enabled G s := by
  intro hs
  induction hs with
  | now hg => exact hG _ h hg
  | later hdue _ ih =>
    obtain ⟨e, he⟩ := hdue
    exact ih e he (hI _ e h he)

end Rtl8190.Run
