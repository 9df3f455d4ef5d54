import Mathlib.Logic.Function.Basic

/-!
# Resources

Programs that take resources, give them back and keep variables of their own. A program has no
result when it gives back what it does not hold or follows a pointer that leads nowhere.
-/

namespace Rtl8190.Resources

/-- How many of each resource are held, and the program's variables -/
structure Holding (ρ σ : Type) where
  held : ρ → Nat
  vars : σ

abbrev Prog (ρ σ α : Type) := StateT (Holding ρ σ) Option α

variable {ρ σ α β : Type}

section
variable [DecidableEq ρ]

def take (r : ρ) : Prog ρ σ Unit := fun s =>
  some ((), { s with held := Function.update s.held r (s.held r + 1) })

def drop (r : ρ) : Prog ρ σ Unit := fun s =>
  if s.held r = 0 then none
  else some ((), { s with held := Function.update s.held r (s.held r - 1) })

end

def crash : Prog ρ σ α := fun _ => none

def look (f : σ → α) : Prog ρ σ α := fun s => some (f s.vars, s)

def assign (f : σ → σ) : Prog ρ σ Unit := fun s => some ((), { s with vars := f s.vars })

def each (body : Nat → Prog ρ σ Unit) : Nat → Prog ρ σ Unit
  | 0 => pure ()
  | n + 1 => do
    each body n
    body n

/-- The same loop, left at the first round that answers `false` -/
def eachWhile (body : Nat → Prog ρ σ Bool) : Nat → Prog ρ σ Bool
  | 0 => pure true
  | n + 1 => do if ← eachWhile body n then body n else pure false

section
variable {s : Holding ρ σ}

@[simp] theorem pure_apply (a : α) : (pure a : Prog ρ σ α) s = some (a, s) := rfl

@[simp] theorem bind_apply (m : Prog ρ σ α) (f : α → Prog ρ σ β) :
    (m >>= f) s = (m s).bind fun x => f x.1 x.2 := by
  cases h : m s <;> simp [bind, StateT.bind, h]

theorem bind_of {m : Prog ρ σ α} {a : α} {s' : Holding ρ σ} (h : m s = some (a, s'))
    (f : α → Prog ρ σ β) : (m >>= f) s = f a s' := by
  rw [bind_apply, h, Option.bind_some]

@[simp] theorem map_apply (f : α → β) (m : Prog ρ σ α) :
    (f <$> m) s = (m s).map fun x => (f x.1, x.2) := by
  cases h : m s <;> simp [Functor.map, StateT.map, h]

@[simp] theorem crash_apply : (crash : Prog ρ σ α) s = none := rfl

end

/-! ## One of each at most -/

/-- What is held is held once. -/
def owning (own : ρ → Bool) (v : σ) : Holding ρ σ := ⟨fun r => (own r).toNat, v⟩

section
variable {own : ρ → Bool} {v : σ}

@[simp] theorem owning_held (r : ρ) : (owning own v).held r = (own r).toNat := rfl

@[simp] theorem owning_vars : (owning own v).vars = v := rfl

@[simp] theorem look_owning (f : σ → α) :
    (look f : Prog ρ σ α) (owning own v) = some (f v, owning own v) := rfl

@[simp] theorem assign_owning (f : σ → σ) :
    (assign f : Prog ρ σ Unit) (owning own v) = some ((), owning own (f v)) := rfl

variable [DecidableEq ρ] {r : ρ}

@[simp] theorem take_owning (h : own r = false) :
    (take r : Prog ρ σ Unit) (owning own v) = some ((), owning (Function.update own r true) v) := by
  have hheld : Function.update (fun r => (own r).toNat) r ((own r).toNat + 1) =
      fun r' => (Function.update own r true r').toNat := by
    funext r'
    by_cases hr : r' = r <;> simp [Function.update, hr, h]
  simp [take, owning, hheld]

@[simp] theorem drop_owning (h : own r = true) :
    (drop r : Prog ρ σ Unit) (owning own v) = some ((), owning (Function.update own r false) v) := by
  have hheld : Function.update (fun r => (own r).toNat) r 0 =
      fun r' => (Function.update own r false r').toNat := by
    funext r'
    by_cases hr : r' = r <;> simp [Function.update, hr]
  simp [drop, owning, hheld, h]

end

/-! ## Loops -/

theorem each_apply {body : Nat → Prog ρ σ Unit} (st : Nat → Holding ρ σ) {n : Nat}
    (h : ∀ i < n, body i (st i) = some ((), st (i + 1))) : each body n (st 0) = some ((), st n) := by
  induction n with
  | zero => rfl
  | succ n ih =>
    have hrest := ih fun i hi => h i (Nat.lt_succ_of_lt hi)
    simp [each, hrest, h n (Nat.lt_succ_self n)]

theorem eachWhile_apply {body : Nat → Prog ρ σ Bool} (st : Nat → Holding ρ σ) {n : Nat}
    (h : ∀ i < n, body i (st i) = some (true, st (i + 1))) :
    eachWhile body n (st 0) = some (true, st n) := by
  induction n with
  | zero => rfl
  | succ n ih =>
    have hrest := ih fun i hi => h i (Nat.lt_succ_of_lt hi)
    simp [eachWhile, hrest, h n (Nat.lt_succ_self n)]

theorem eachWhile_stops {body : Nat → Prog ρ σ Bool} (st : Nat → Holding ρ σ) {s : Holding ρ σ}
    {n i : Nat} (hi : i < n) (h : ∀ j < i, body j (st j) = some (true, st (j + 1)))
    (hstop : body i (st i) = some (false, s)) : eachWhile body n (st 0) = some (false, s) := by
  induction n with
  | zero => exact absurd hi (Nat.not_lt_zero i)
  | succ n ih =>
    rcases Nat.lt_succ_iff_lt_or_eq.mp hi with hlt | rfl
    · simp [eachWhile, ih hlt]
    · simp [eachWhile, eachWhile_apply st h, hstop]

/-- Either all of the first `n` answer `true`, or there is a first that does not. -/
theorem all_or_first (p : Nat → Prop) [DecidablePred p] (n : Nat) :
    (∀ i < n, p i) ∨ ∃ i < n, (∀ j < i, p j) ∧ ¬ p i := by
  induction n with
  | zero => exact .inl fun i hi => absurd hi (Nat.not_lt_zero i)
  | succ n ih =>
    rcases ih with hall | ⟨i, hi, hfirst⟩
    · by_cases hn : p n
      · refine .inl fun i hi => ?_
        rcases Nat.lt_succ_iff_lt_or_eq.mp hi with hlt | rfl
        · exact hall i hlt
        · exact hn
      · exact .inr ⟨n, Nat.lt_succ_self n, hall, hn⟩
    · exact .inr ⟨i, Nat.lt_succ_of_lt hi, hfirst⟩

end Rtl8190.Resources
