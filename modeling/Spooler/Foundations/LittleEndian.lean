import Mathlib.Algebra.Order.Group.Nat
import Mathlib.Tactic.Common

/-!
# Words in memory

Numbers as bytes, the lowest first, and reading them at an index of an array, which is not defined
outside (`none`); strings up to their NUL in the same way.
-/

namespace Foundations.LittleEndian

/-- The lowest bytes of a number. -/
def split : ℕ → ℕ → List UInt8
  | 0, _ => []
  | n + 1, v => UInt8.ofNat v :: split n (v / 256)

/-- The number that bytes make up. -/
def combine : List UInt8 → ℕ
  | [] => 0
  | b :: bs => b.toNat + 256 * combine bs

@[simp] theorem length_split (n v : ℕ) : (split n v).length = n := by
  induction n generalizing v with
  | zero => rfl
  | succ n ih => rw [split, List.length_cons, ih]

theorem combine_split {n v : ℕ} (h : v < 256 ^ n) : combine (split n v) = v := by
  induction n generalizing v with
  | zero =>
    rw [pow_zero] at h
    obtain rfl : v = 0 := by omega
    rfl
  | succ n ih =>
    rw [pow_succ] at h
    have hlt : v / 256 < 256 ^ n := Nat.div_lt_of_lt_mul (by rwa [Nat.mul_comm])
    rw [split, combine, ih hlt, UInt8.toNat_ofNat']
    exact Nat.mod_add_div v 256

/-- The number in so many bytes from an index on. -/
def readWord (n : ℕ) (memory : List UInt8) (ptr : ℕ) : Option ℕ :=
  if ptr + n ≤ memory.length then some (combine ((memory.drop ptr).take n)) else none

theorem readWord_append {n v : ℕ} (h : v < 256 ^ n) (p q : List UInt8) :
    readWord n (p ++ (split n v ++ q)) p.length = some v := by
  rw [readWord, if_pos, List.drop_left, List.take_left' (length_split n v), combine_split h]
  rw [List.length_append, List.length_append, length_split]
  omega

/-- The bytes in front of the first NUL. -/
def cString : List UInt8 → Option (List UInt8)
  | [] => none
  | b :: bs => if b = 0 then some [] else (cString bs).map (b :: ·)

theorem cString_append {bs : List UInt8} (h : 0 ∉ bs) (q : List UInt8) :
    cString (bs ++ 0 :: q) = some bs := by
  induction bs with
  | nil => rfl
  | cons b bs ih =>
    rw [List.mem_cons, not_or] at h
    rw [List.cons_append, cString, if_neg (Ne.symm h.1), ih h.2, Option.map_some]

end Foundations.LittleEndian
