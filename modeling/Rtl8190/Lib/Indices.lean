import Mathlib.Algebra.GroupWithZero.Nat

/-!
# Index types

A literal of `Fin n` is in range where `n ≠ 0`. One named proof for each size that the arrays have.
-/

namespace Rtl8190.Indices

instance neZero_two : NeZero 2 := ⟨Nat.succ_ne_zero 1⟩

instance neZero_four : NeZero 4 := ⟨Nat.succ_ne_zero 3⟩

instance neZero_six : NeZero 6 := ⟨Nat.succ_ne_zero 5⟩

instance neZero_nine : NeZero 9 := ⟨Nat.succ_ne_zero 8⟩

instance neZero_sixteen : NeZero 16 := ⟨Nat.succ_ne_zero 15⟩

instance neZero_twentyFive : NeZero 25 := ⟨Nat.succ_ne_zero 24⟩

instance neZero_thirtyTwo : NeZero 32 := ⟨Nat.succ_ne_zero 31⟩

end Rtl8190.Indices
