import Mathlib.Data.List.Induction
import Rtl8190.Lib.Run

/-!
# Switches with two thresholds

A switch that is off goes on at an event that `rises`, and one that is on stays on as long as the
events `keep` it. What rises also keeps. The state of the switch is then a matter of its history:
the last event that switched it on, and nothing since that let it go.
-/

open Rtl8190.Run

namespace Rtl8190.Hysteresis

variable {ε : Type*} {rises keeps : ε → Bool}

def latch (rises keeps : ε → Bool) (s : Bool) (e : ε) : Bool := if s then keeps e else rises e

/-- Some event has switched it on, and all later ones have kept it. -/
def Held (rises keeps : ε → Bool) (es : List ε) : Prop :=
  ∃ before e after, es = before ++ e :: after ∧ rises e = true ∧ ∀ f ∈ after, keeps f = true

theorem held_nil : ¬ Held rises keeps [] := by
  rintro ⟨before, e, after, heq, -⟩
  simp at heq

theorem held_concat (es : List ε) (e : ε) :
    Held rises keeps (es ++ [e]) ↔ rises e = true ∨ Held rises keeps es ∧ keeps e = true := by
  constructor
  · rintro ⟨before, f, after, heq, hrises, hkeeps⟩
    rcases List.eq_nil_or_concat after with rfl | ⟨after', g, rfl⟩
    · obtain ⟨-, hlast⟩ := List.append_inj' heq rfl
      exact .inl (List.singleton_inj.mp hlast ▸ hrises)
    · rw [List.concat_eq_append, ← List.cons_append, ← List.append_assoc] at heq
      obtain ⟨rfl, hlast⟩ := List.append_inj' heq rfl
      obtain rfl := List.singleton_inj.mp hlast
      exact .inr ⟨⟨before, f, after', rfl, hrises, fun g hg => hkeeps g (by simp [hg])⟩,
        hkeeps e (by simp)⟩
  · rintro (hrises | ⟨⟨before, f, after, rfl, hrises, hkeeps⟩, hkeep⟩)
    · exact ⟨es, e, [], rfl, hrises, by simp⟩
    · refine ⟨before, f, after ++ [e], by simp, hrises, fun g hg => ?_⟩
      rcases List.mem_append.mp hg with hg | hg
      · exact hkeeps g hg
      · rw [List.mem_singleton.mp hg]
        exact hkeep

theorem exec_latch_iff (h : ∀ e, rises e = true → keeps e = true) (es : List ε) :
    exec (latch rises keeps) false es = true ↔ Held rises keeps es := by
  induction es using List.reverseRecOn with
  | nil => exact ⟨fun hoff => absurd hoff Bool.false_ne_true, fun hheld => absurd hheld held_nil⟩
  | append_singleton es e ih =>
    rw [exec_append, exec_cons, exec_nil, held_concat, ← ih]
    cases exec (latch rises keeps) false es with
    | false => simp [latch]
    | true => exact ⟨fun hk => .inr ⟨rfl, hk⟩, fun hor => hor.elim (h e) And.right⟩

end Rtl8190.Hysteresis
