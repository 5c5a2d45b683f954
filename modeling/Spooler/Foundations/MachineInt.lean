import Mathlib.Algebra.Group.Int.Defs
import Mathlib.Algebra.Group.Nat.Defs
import Mathlib.Data.Int.Init
import Mathlib.Tactic.Common

/-!
# `int`

Counters of 32 bits: what a conversion from a size leaves of it, and an increment that is not
defined at the upper bound.
-/

namespace Foundations.MachineInt

/-- A size, converted to `int`. -/
def ofSize (n : ℕ) : ℤ := Int.bmod n (2 ^ 32)

/-- `i + 1`, unless it overflows. -/
def succ (i : ℤ) : Option ℤ := if i + 1 < 2 ^ 31 then some (i + 1) else none

theorem ofSize_of_lt {n : ℕ} (h : n < 2 ^ 31) : ofSize n = n := by
  unfold ofSize
  rw [Int.bmod_def]
  split <;> omega

theorem ofSize_lt (n : ℕ) : ofSize n < 2 ^ 31 := by
  unfold ofSize
  rw [Int.bmod_def]
  split <;> omega

theorem ofSize_le (n : ℕ) : ofSize n ≤ n := by
  unfold ofSize
  rw [Int.bmod_def]
  split <;> omega

/-- The sizes that give a number are those with its residue. -/
theorem ofSize_add_eq_iff {p m : ℕ} (h : p < 2 ^ 31) : ofSize (p + m) = p ↔ 2 ^ 32 ∣ m := by
  unfold ofSize
  rw [Int.bmod_def]
  split <;> omega

/-- What follows an increment is reached when it does not overflow. -/
theorem succ_bind_eq_some {α : Type} {i : ℤ} {f : ℤ → Option α} {a : α} :
    (succ i >>= f) = some a ↔ i + 1 < 2 ^ 31 ∧ f (i + 1) = some a := by
  rw [Option.bind_eq_bind]
  unfold succ
  split_ifs with h
  · rw [Option.bind_some, and_iff_right h]
  · rw [Option.bind_none]
    constructor
    · intro he
      cases he
    · intro he
      exact absurd he.1 h

end Foundations.MachineInt
