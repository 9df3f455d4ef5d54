import Mathlib.Data.List.Count
import Mathlib.Data.List.Nodup

/-!
# Ledgers

A program that owns resources writes down when it allocates one, frees one or gives one away.
`Accounted` says that each was allocated once and is held, was freed or was given away, and only one
of these.
-/

namespace Rtl8190.Ledger

variable {β : Type*}

inductive Op (β : Type*) where
  | alloc (b : β)
  | free (b : β)
  /-- Somebody else owns it from now on. -/
  | give (b : β)
  deriving DecidableEq

def Op.allocated? : Op β → Option β
  | .alloc b => some b
  | _ => none

def Op.freed? : Op β → Option β
  | .free b => some b
  | _ => none

def Op.given? : Op β → Option β
  | .give b => some b
  | _ => none

def allocated (log : List (Op β)) : List β := log.filterMap Op.allocated?
def freed (log : List (Op β)) : List β := log.filterMap Op.freed?
def given (log : List (Op β)) : List β := log.filterMap Op.given?

section Simp

variable (b : β) (log log' : List (Op β)) (bs : List β)

@[simp] theorem allocated_nil : allocated ([] : List (Op β)) = [] := rfl
@[simp] theorem freed_nil : freed ([] : List (Op β)) = [] := rfl
@[simp] theorem given_nil : given ([] : List (Op β)) = [] := rfl

@[simp] theorem allocated_alloc : allocated (.alloc b :: log) = b :: allocated log := rfl
@[simp] theorem allocated_free : allocated (.free b :: log) = allocated log := rfl
@[simp] theorem allocated_give : allocated (.give b :: log) = allocated log := rfl
@[simp] theorem freed_alloc : freed (.alloc b :: log) = freed log := rfl
@[simp] theorem freed_free : freed (.free b :: log) = b :: freed log := rfl
@[simp] theorem freed_give : freed (.give b :: log) = freed log := rfl
@[simp] theorem given_alloc : given (.alloc b :: log) = given log := rfl
@[simp] theorem given_free : given (.free b :: log) = given log := rfl
@[simp] theorem given_give : given (.give b :: log) = b :: given log := rfl

@[simp] theorem allocated_append : allocated (log ++ log') = allocated log ++ allocated log' :=
  List.filterMap_append

@[simp] theorem freed_append : freed (log ++ log') = freed log ++ freed log' :=
  List.filterMap_append

@[simp] theorem given_append : given (log ++ log') = given log ++ given log' :=
  List.filterMap_append

@[simp] theorem allocated_map_free : allocated (bs.map .free) = [] := by
  induction bs with
  | nil => rfl
  | cons b bs ih => exact ih

@[simp] theorem freed_map_free : freed (bs.map .free) = bs := by
  induction bs with
  | nil => rfl
  | cons b bs ih => exact congrArg (b :: ·) ih

@[simp] theorem given_map_free : given (bs.map .free) = [] := by
  induction bs with
  | nil => rfl
  | cons b bs ih => exact ih

@[simp] theorem allocated_map_give : allocated (bs.map .give) = [] := by
  induction bs with
  | nil => rfl
  | cons b bs ih => exact ih

@[simp] theorem freed_map_give : freed (bs.map .give) = [] := by
  induction bs with
  | nil => rfl
  | cons b bs ih => exact ih

@[simp] theorem given_map_give : given (bs.map .give) = bs := by
  induction bs with
  | nil => rfl
  | cons b bs ih => exact congrArg (b :: ·) ih

end Simp

/-! ## Accounts -/

variable [DecidableEq β] {held held' : List β} {log ops : List (Op β)} {b : β}

/-- What was allocated was so once, and is held, given away or freed, once and only one of these.
Nothing else is. -/
def Accounted (held : List β) (log : List (Op β)) : Prop :=
  ∀ b, held.count b + (given log).count b + (freed log).count b = (allocated log).count b ∧
    (allocated log).count b ≤ 1

namespace Accounted

theorem nil : Accounted ([] : List β) [] := fun b => by simp

theorem mem_allocated (h : Accounted held log) (hb : b ∈ held) : b ∈ allocated log := by
  have hpos := List.count_pos_iff.mpr hb
  obtain ⟨hsum, hle⟩ := h b
  exact List.count_pos_iff.mp (by omega)

theorem not_freed (h : Accounted held log) (hb : b ∈ held) : b ∉ freed log := by
  have hpos := List.count_pos_iff.mpr hb
  obtain ⟨hsum, hle⟩ := h b
  exact List.count_eq_zero.mp (by omega)

theorem not_given (h : Accounted held log) (hb : b ∈ held) : b ∉ given log := by
  have hpos := List.count_pos_iff.mpr hb
  obtain ⟨hsum, hle⟩ := h b
  exact List.count_eq_zero.mp (by omega)

theorem nodup (h : Accounted held log) : held.Nodup := by
  refine List.nodup_iff_count_le_one.mpr fun b => ?_
  obtain ⟨hsum, hle⟩ := h b
  omega

/-- The accounts stay right when what is new was never allocated and the changes add up. -/
theorem append_iff (h : Accounted held log) (hnew : ∀ b ∈ allocated ops, b ∉ allocated log)
    (hnodup : (allocated ops).Nodup) : Accounted held' (log ++ ops) ↔
      ∀ b, held'.count b + (given ops).count b + (freed ops).count b =
        held.count b + (allocated ops).count b := by
  have hone : ∀ b, (allocated log).count b + (allocated ops).count b ≤ 1 := fun b => by
    by_cases hb : b ∈ allocated ops
    · have hle := List.nodup_iff_count_le_one.mp hnodup b
      have hzero := List.count_eq_zero.mpr (hnew b hb)
      omega
    · have hzero := List.count_eq_zero.mpr hb
      have hle := (h b).2
      omega
  refine forall_congr' fun b => ?_
  have hsum := (h b).1
  have hle := hone b
  simp only [allocated_append, freed_append, given_append, List.count_append]
  omega

end Accounted

end Rtl8190.Ledger
