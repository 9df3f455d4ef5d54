import Mathlib.Data.List.Basic

/-!
# Runs of a state machine

A machine is a function `step : σ → ε → σ`. Every choice that the environment makes is part of the
event, so a run is the list of its events, oldest first.
-/

namespace Rtl8190.Run

variable {σ ε τ : Type*}

def exec (step : σ → ε → σ) (s : σ) (es : List ε) : σ := es.foldl step s

@[simp] theorem exec_nil (step : σ → ε → σ) (s : σ) : exec step s [] = s := rfl

@[simp] theorem exec_cons (step : σ → ε → σ) (s : σ) (e : ε) (es : List ε) :
    exec step s (e :: es) = exec step (step s e) es := rfl

theorem exec_append (step : σ → ε → σ) (s : σ) (es fs : List ε) :
    exec step s (es ++ fs) = exec step (exec step s es) fs := List.foldl_append

/-- Every step of the run meets `C`, which looks at the state before the step and at the event. -/
def Meets (step : σ → ε → σ) (C : σ → ε → Prop) : σ → List ε → Prop
  | _, [] => True
  | s, e :: es => C s e ∧ Meets step C (step s e) es

@[simp] theorem meets_nil (step : σ → ε → σ) (C : σ → ε → Prop) (s : σ) : Meets step C s [] := trivial

@[simp] theorem meets_cons (step : σ → ε → σ) (C : σ → ε → Prop) (s : σ) (e : ε) (es : List ε) :
    Meets step C s (e :: es) ↔ C s e ∧ Meets step C (step s e) es := Iff.rfl

instance decidableMeets (step : σ → ε → σ) (C : σ → ε → Prop) [∀ s e, Decidable (C s e)] :
    (s : σ) → (es : List ε) → Decidable (Meets step C s es)
  | _, [] => isTrue trivial
  | s, e :: es =>
    have := decidableMeets step C (step s e) es
    inferInstanceAs (Decidable (C s e ∧ Meets step C (step s e) es))

theorem meets_append (step : σ → ε → σ) (C : σ → ε → Prop) (s : σ) (es fs : List ε) :
    Meets step C s (es ++ fs) ↔ Meets step C s es ∧ Meets step C (exec step s es) fs := by
  induction es generalizing s with
  | nil => simp
  | cons e es ih => simp [ih, and_assoc]

theorem meets_iff_forall_step {step : σ → ε → σ} {C : σ → ε → Prop} {s : σ} {es : List ε} :
    Meets step C s es ↔ ∀ fs e, fs ++ [e] <+: es → C (exec step s fs) e := by
  induction es generalizing s with
  | nil => simp
  | cons e es ih =>
    rw [meets_cons, ih]
    constructor
    · rintro ⟨he, h⟩ fs f hfs
      cases fs with
      | nil =>
        obtain rfl : f = e := by simpa using hfs
        exact he
      | cons g gs =>
        obtain ⟨rfl, hgs⟩ := List.cons_prefix_cons.mp hfs
        exact h gs f hgs
    · intro h
      exact ⟨h [] e (by simp), fun fs f hfs => h (e :: fs) f (by simpa using hfs)⟩

/-- The invariant rule: what the first state has and every allowed step keeps, every state has. -/
theorem exec_inv {step : σ → ε → σ} {C : σ → ε → Prop} {I : σ → Prop}
    (hstep : ∀ s e, I s → C s e → I (step s e)) {s : σ} (h : I s) {es : List ε}
    (hes : Meets step C s es) : I (exec step s es) := by
  induction es generalizing s with
  | nil => exact h
  | cons e es ih => exact ih (hstep s e h hes.1) hes.2

theorem Meets.mono {step : σ → ε → σ} {C D : σ → ε → Prop} (hCD : ∀ s e, C s e → D s e) {s : σ}
    {es : List ε} (h : Meets step C s es) : Meets step D s es := by
  induction es generalizing s with
  | nil => trivial
  | cons e es ih => exact ⟨hCD s e h.1, ih h.2⟩

theorem Meets.and {step : σ → ε → σ} {C D : σ → ε → Prop} {s : σ} {es : List ε}
    (h : Meets step C s es) (h' : Meets step D s es) : Meets step (fun s e => C s e ∧ D s e) s es := by
  induction es generalizing s with
  | nil => trivial
  | cons e es ih => exact ⟨⟨h.1, h'.1⟩, ih h.2 h'.2⟩

theorem Meets.before {step : σ → ε → σ} {C : σ → ε → Prop} {s : σ} {fs es : List ε}
    (h : Meets step C s es) (hfs : fs <+: es) : Meets step C s fs := by
  obtain ⟨gs, rfl⟩ := hfs
  exact ((meets_append step C s fs gs).mp h).1

theorem exec_inv_before {step : σ → ε → σ} {C : σ → ε → Prop} {I : σ → Prop}
    (hstep : ∀ s e, I s → C s e → I (step s e)) {s : σ} (h : I s) {es : List ε}
    (hes : Meets step C s es) : ∀ fs, fs <+: es → I (exec step s fs) :=
  fun _ hfs => exec_inv hstep h (hes.before hfs)

theorem Meets.mono_of_inv {step : σ → ε → σ} {C D : σ → ε → Prop} {I : σ → Prop}
    (hI : ∀ s e, I s → C s e → I (step s e)) (hCD : ∀ s e, I s → C s e → D s e) {s : σ} (hs : I s)
    {es : List ε} (h : Meets step C s es) : Meets step D s es := by
  induction es generalizing s with
  | nil => trivial
  | cons e es ih => exact ⟨hCD s e hs h.1, ih (hI s e hs h.1) h.2⟩

theorem meets_of_forall {step : σ → ε → σ} {P : ε → Prop} {s : σ} {es : List ε}
    (h : ∀ e ∈ es, P e) : Meets step (fun _ e => P e) s es := by
  induction es generalizing s with
  | nil => trivial
  | cons e es ih =>
    exact ⟨h e List.mem_cons_self, ih fun f hf => h f (List.mem_cons_of_mem e hf)⟩

/-- Two conditions that agree on every state of an invariant hold of the same runs. -/
theorem meets_congr {step : σ → ε → σ} {C D : σ → ε → Prop} {I : σ → Prop}
    (hI : ∀ s e, I s → C s e → I (step s e)) (hCD : ∀ s e, I s → (C s e ↔ D s e)) {s : σ} (hs : I s)
    {es : List ε} : Meets step C s es ↔ Meets step D s es := by
  induction es generalizing s with
  | nil => simp
  | cons e es ih =>
    rw [meets_cons, meets_cons, ← hCD s e hs]
    exact and_congr_right fun hc => ih (hI s e hs hc)

/-- Where one allowed step breaks `P` exactly when it fails `C`, a run of allowed steps keeps `P` in
every state exactly when all its steps meet `C`. -/
theorem meets_iff_forall_prefixes_of_meets {step : σ → ε → σ} {C : σ → ε → Prop} {I P : σ → Prop}
    {V : σ → ε → Prop} (hI : ∀ s e, I s → P s → V s e → C s e → I (step s e))
    (hP : ∀ s e, I s → P s → V s e → (P (step s e) ↔ C s e)) {s : σ} (hs : I s) (hp : P s)
    {es : List ε} (hes : Meets step V s es) :
    Meets step C s es ↔ ∀ fs, fs <+: es → P (exec step s fs) := by
  induction es generalizing s with
  | nil =>
    simp only [meets_nil, List.prefix_nil, forall_eq, exec_nil, true_iff]
    exact hp
  | cons e es ih =>
    obtain ⟨he, hes⟩ := hes
    have ih := fun hc hp' => ih (hI s e hs hp he hc) hp' hes
    have hiff := hP s e hs hp he
    rw [meets_cons]
    constructor
    · rintro ⟨hc, hm⟩ fs hfs
      rcases List.prefix_cons_iff.mp hfs with rfl | ⟨gs, rfl, hgs⟩
      · exact hp
      · exact (ih hc (hiff.mpr hc)).mp hm gs hgs
    · intro h
      have hp' : P (step s e) := h [e] (by simp)
      have hc := hiff.mp hp'
      exact ⟨hc, (ih hc hp').mpr fun gs hgs => h (e :: gs) (by simpa using hgs)⟩

theorem meets_iff_forall_prefixes {step : σ → ε → σ} {C : σ → ε → Prop} {I P : σ → Prop}
    {V : ε → Prop} (hI : ∀ s e, I s → P s → V e → C s e → I (step s e))
    (hP : ∀ s e, I s → P s → V e → (P (step s e) ↔ C s e)) {s : σ} (hs : I s) (hp : P s)
    {es : List ε} (hes : ∀ e ∈ es, V e) :
    Meets step C s es ↔ ∀ fs, fs <+: es → P (exec step s fs) :=
  meets_iff_forall_prefixes_of_meets (V := fun _ e => V e) hI hP hs hp (meets_of_forall hes)

end Rtl8190.Run
