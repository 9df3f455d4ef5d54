import Rtl8190.Lib.Run

/-!
# Machines with an output

A step returns the next state and what it puts out. The trace of a run is all of its output, oldest
first.
-/

open Rtl8190.Run

namespace Rtl8190.Trace

variable {σ ε ω α : Type*} {f : σ → ε → σ × List ω}

def after (f : σ → ε → σ × List ω) (s : σ) (es : List ε) : σ := exec (fun s e => (f s e).1) s es

def trace (f : σ → ε → σ × List ω) : σ → List ε → List ω
  | _, [] => []
  | s, e :: es => (f s e).2 ++ trace f (f s e).1 es

@[simp] theorem after_nil (s : σ) : after f s [] = s := rfl

@[simp] theorem after_cons (s : σ) (e : ε) (es : List ε) :
    after f s (e :: es) = after f (f s e).1 es := rfl

theorem after_concat (s : σ) (es : List ε) (e : ε) :
    after f s (es ++ [e]) = (f (after f s es) e).1 := exec_append ..

theorem trace_append (s : σ) (es fs : List ε) :
    trace f s (es ++ fs) = trace f s es ++ trace f (after f s es) fs := by
  induction es generalizing s with
  | nil => rfl
  | cons e es ih => rw [List.cons_append, trace, ih, trace, List.append_assoc, after_cons]

/-! ## Readings -/

def latest (read : ω → Option α) (a : α) (os : List ω) : α := (os.filterMap read).getLast?.getD a

variable {read : ω → Option α}

@[simp] theorem latest_nil (a : α) : latest read a [] = a := rfl

theorem latest_append (a : α) (os os' : List ω) :
    latest read a (os ++ os') = latest read (latest read a os) os' := by
  unfold latest
  rw [List.filterMap_append, List.getLast?_append]
  cases (os'.filterMap read).getLast? with
  | none => rfl
  | some b => rfl

/-- A register that each step leaves with its latest reading always holds the latest of all. -/
theorem remembers {reg : σ → α} (h : ∀ s e, reg (f s e).1 = latest read (reg s) (f s e).2)
    (s : σ) (es : List ε) : reg (after f s es) = latest read (reg s) (trace f s es) := by
  induction es generalizing s with
  | nil => rfl
  | cons e es ih => rw [after_cons, ih, h, trace, latest_append]

/-! ## Bounded progress -/

/-- When every step either puts out `o` or decreases `μ`, a run that is longer than `μ` puts it out. -/
theorem mem_trace_of_decreasing {I : σ → Prop} {C : ε → Prop} {μ : σ → Nat} {o : ω}
    (hstep : ∀ s e, I s → C e → o ∈ (f s e).2 ∨ I (f s e).1 ∧ μ (f s e).1 < μ s) {s : σ}
    (hs : I s) {es : List ε} (hes : ∀ e ∈ es, C e) (hlen : μ s < es.length) :
    o ∈ trace f s es := by
  induction es generalizing s with
  | nil => exact absurd hlen (Nat.not_lt_zero _)
  | cons e es ih =>
    apply List.mem_append.mpr
    rcases hstep s e hs (hes e (by simp)) with ho | ⟨hnext, hless⟩
    · exact .inl ho
    · refine .inr (ih hnext (fun e' he' => hes e' (by simp [he'])) ?_)
      rw [List.length_cons] at hlen
      omega

end Rtl8190.Trace
