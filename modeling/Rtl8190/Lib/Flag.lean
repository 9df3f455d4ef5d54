import Mathlib.Logic.Function.Basic

/-!
# Flags that threads set and clear

Each thread is at a place of its code. Some places have a role: the thread there has taken a lock,
or is between setting a flag and clearing it. `Holder` is a lock that knows who took it, and
`Follows` a flag that is set exactly while some thread has its role.
-/

open Function

namespace Rtl8190.Flag

variable {ι π : Type*} {role : π → Bool} {pc : ι → π} {t u : ι} {p : π}

/-- The lock is held by the thread whose place has the role, and by nobody if no place has it. -/
def Holder (owner : Option ι) (role : π → Bool) (pc : ι → π) : Prop :=
  ∀ t, owner = some t ↔ role (pc t) = true

/-- The flag is set exactly while the place of some thread has the role. -/
def Follows (flag : Bool) (role : π → Bool) (pc : ι → π) : Prop :=
  flag = true ↔ ∃ t, role (pc t) = true

theorem Holder.exclusive {owner : Option ι} (h : Holder owner role pc) (ht : role (pc t) = true)
    (hu : role (pc u) = true) : t = u := by
  have ht := (h t).mpr ht
  rw [(h u).mpr hu] at ht
  exact (Option.some.inj ht).symm

theorem Holder.others {owner : Option ι} (h : Holder owner role pc) (ht : role (pc t) = true)
    (hu : u ≠ t) : role (pc u) = false := by
  rw [Bool.eq_false_iff]
  exact fun hr => hu (h.exclusive hr ht)

theorem Holder.follows {owner : Option ι} (h : Holder owner role pc) :
    Follows owner.isSome role pc := by
  unfold Follows
  rw [Option.isSome_iff_exists]
  exact exists_congr h

theorem Holder.free (h : Holder (none : Option ι) role pc) (u : ι) : role (pc u) = false := by
  rw [Bool.eq_false_iff]
  exact fun hr => nomatch (h u).mpr hr

theorem holder_none (h : ∀ t, role (pc t) = false) : Holder none role pc := by
  intro t
  simp [h t]

theorem follows_false (h : ∀ t, role (pc t) = false) : Follows false role pc := by
  unfold Follows
  simp [h]

section Update

variable [DecidableEq ι]

theorem role_update (role : π → Bool) (pc : ι → π) (t : ι) (p : π) (u : ι) :
    role (update pc t p u) = if u = t then role p else role (pc u) := by
  by_cases hu : u = t
  · rw [if_pos hu, hu, update_self]
  · rw [if_neg hu, update_of_ne hu]

theorem Holder.keep {owner : Option ι} (h : Holder owner role pc) (hp : role p = role (pc t)) :
    Holder owner role (update pc t p) := by
  intro u
  rw [role_update role pc t p u, h u]
  split
  · next hu => rw [hp, hu]
  · rfl

theorem Holder.take (h : Holder none role pc) (hp : role p = true) :
    Holder (some t) role (update pc t p) := by
  intro u
  rw [role_update role pc t p u, Option.some_inj, eq_comm]
  split
  · next hu => simp [hu, hp]
  · next hu => simp [hu, h.free]

theorem Holder.drop {owner : Option ι} (h : Holder owner role pc) (ht : role (pc t) = true)
    (hp : role p = false) : Holder none role (update pc t p) := by
  intro u
  rw [role_update role pc t p u]
  split
  · simp [hp]
  · next hu => simp [h.others ht hu]

theorem Follows.keep {flag : Bool} (h : Follows flag role pc) (hp : role p = role (pc t)) :
    Follows flag role (update pc t p) := by
  have hsame : ∀ u, role (update pc t p u) = role (pc u) := by
    intro u
    rw [role_update role pc t p u]
    split
    · next hu => rw [hp, hu]
    · rfl
  unfold Follows
  simp only [hsame]
  exact h

theorem Follows.raise (hp : role p = true) : Follows true role (update pc t p) :=
  ⟨fun _ => ⟨t, by rw [update_self, hp]⟩, fun _ => rfl⟩

theorem follows_lower_iff (hp : role p = false) :
    Follows false role (update pc t p) ↔ ∀ u, u ≠ t → role (pc u) = false := by
  unfold Follows
  simp only [Bool.false_eq_true, false_iff, not_exists, Bool.not_eq_true, role_update role pc t p]
  constructor
  · intro h u hu
    simpa [hu] using h u
  · intro h u
    split
    · exact hp
    · next hu => exact h u hu

end Update

end Rtl8190.Flag
