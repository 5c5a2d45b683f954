import Mathlib.Algebra.Order.Round
import Mathlib.Data.Int.Log
import Mathlib.Tactic.Linarith
import Mathlib.Tactic.FieldSimp
import Mathlib.Tactic.Ring
import Mathlib.Tactic.NormNum

/-!
# Rounding to nearest, ties to even

Rounding in an ordered field with a floor: to a whole number (`roundEven`) and to a number of
significant bits (`roundBits`, exponents without bounds). The rounded number is characterised by
its distance (`roundEven_eq_iff`), rounding to bits is off by half a unit in the last place at most
(`abs_sub_roundBits_le`), and `exists_roundBits_eq` gives the result in a binade as a whole multiple
of that unit.
-/

namespace Foundations

variable {K : Type*} [Field K] [LinearOrder K] [IsStrictOrderedRing K] [FloorRing K]

/-- The nearest whole number, the even one in the middle of two. -/
def roundEven (x : K) : ℤ :=
  if x - ⌊x⌋ < 1 / 2 then ⌊x⌋
  else if 1 / 2 < x - ⌊x⌋ then ⌊x⌋ + 1
  else if ⌊x⌋ % 2 = 0 then ⌊x⌋ else ⌊x⌋ + 1

/-- What `roundEven` gives is nearest, and even in the middle of two. -/
theorem roundEven_spec (x : K) : |x - roundEven x| < 1 / 2 ∨
    |x - roundEven x| = 1 / 2 ∧ roundEven x % 2 = 0 := by
  have hlo := Int.floor_le x
  have hhi := Int.lt_floor_add_one x
  unfold roundEven
  split_ifs with h₁ h₂ h₃
  · left
    rw [abs_lt]
    constructor <;> linarith
  · left
    push_cast
    rw [abs_lt]
    constructor <;> linarith
  · have heq : x - ⌊x⌋ = 1 / 2 := le_antisymm (not_lt.1 h₂) (not_lt.1 h₁)
    exact .inr ⟨by rw [heq, abs_of_pos (by norm_num)], h₃⟩
  · have heq : x - ⌊x⌋ = 1 / 2 := le_antisymm (not_lt.1 h₂) (not_lt.1 h₁)
    refine .inr ⟨?_, by omega⟩
    push_cast
    rw [show x - (⌊x⌋ + 1) = -(1 / 2) by linarith, abs_neg, abs_of_pos (by norm_num)]

theorem abs_sub_roundEven_le (x : K) : |x - roundEven x| ≤ 1 / 2 := by
  rcases roundEven_spec x with h | ⟨h, -⟩
  · exact h.le
  · exact h.le

/-- **The rounded number** is the one at a distance below one half, or the even one at that
distance. -/
theorem roundEven_eq_iff {x : K} {n : ℤ} : roundEven x = n ↔
    |x - n| < 1 / 2 ∨ |x - n| = 1 / 2 ∧ n % 2 = 0 := by
  constructor
  · rintro rfl
    exact roundEven_spec x
  · intro h
    -- two whole numbers this near to `x` differ by one at most, and then both are in the middle
    have hr := roundEven_spec x
    have hn : |x - n| ≤ 1 / 2 := h.elim le_of_lt fun h => h.1.le
    have hm := abs_sub_roundEven_le x
    by_contra hne
    have hdist : (1 : K) ≤ |(roundEven x : K) - n| := by
      have : 1 ≤ |roundEven x - n| := Int.one_le_abs (sub_ne_zero.2 hne)
      exact_mod_cast this
    have htri : |(roundEven x : K) - n| ≤ |x - n| + |x - roundEven x| := by
      rw [show (roundEven x : K) - n = (x - n) - (x - roundEven x) by ring]
      exact abs_sub _ _
    rcases hr with hr | ⟨hr, hre⟩
    · linarith
    · rcases h with h | ⟨h, hne'⟩
      · linarith
      · have hone : |(roundEven x : K) - n| = 1 := by linarith
        have hz : |roundEven x - n| = 1 := by exact_mod_cast hone
        rcases abs_eq (by norm_num) |>.1 hz with hz | hz <;> omega

@[simp] theorem roundEven_intCast (n : ℤ) : roundEven (n : K) = n :=
  roundEven_eq_iff.2 (.inl (by simp))

/-- Whole numbers bound what is rounded and what it is rounded to alike. -/
theorem le_roundEven {x : K} {n : ℤ} (h : (n : K) ≤ x) : n ≤ roundEven x := by
  have hd := (abs_le.1 (abs_sub_roundEven_le x)).2
  have hlt : (n : K) < roundEven x + 1 := by linarith
  have : n < roundEven x + 1 := by exact_mod_cast hlt
  omega

theorem roundEven_le {x : K} {n : ℤ} (h : x ≤ n) : roundEven x ≤ n := by
  have hd := (abs_le.1 (abs_sub_roundEven_le x)).1
  have hlt : (roundEven x : K) < (n + 1 : ℤ) := by
    push_cast
    linarith
  have := Int.cast_lt.1 hlt
  omega

/-- The unit in the last of `p` significant bits. -/
def ulp (p : ℕ) (x : K) : K := 2 ^ (Int.log 2 |x| - (p - 1))

theorem ulp_pos (p : ℕ) (x : K) : 0 < ulp p x := zpow_pos (by norm_num) _

/-- Rounding to `p` significant bits. -/
def roundBits (p : ℕ) (x : K) : K := roundEven (x / ulp p x) * ulp p x

theorem roundBits_nonneg (p : ℕ) {x : K} (h : 0 ≤ x) : 0 ≤ roundBits p x := by
  have hn : 0 ≤ roundEven (x / ulp p x) :=
    le_roundEven (by simpa using div_nonneg h (ulp_pos p x).le)
  exact mul_nonneg (by exact_mod_cast hn) (ulp_pos p x).le

/-- Rounding is off by half a unit at most. -/
theorem abs_sub_roundBits_le (p : ℕ) (x : K) : |x - roundBits p x| ≤ ulp p x / 2 := by
  have hu := ulp_pos p x
  have hx : x - roundBits p x = (x / ulp p x - roundEven (x / ulp p x)) * ulp p x := by
    rw [roundBits, sub_mul, div_mul_cancel₀ _ hu.ne']
  rw [hx, abs_mul, abs_of_pos hu]
  calc _ ≤ 1 / 2 * ulp p x :=
        mul_le_mul_of_nonneg_right (abs_sub_roundEven_le _) hu.le
    _ = ulp p x / 2 := by ring

/-- Rounding does not double a number. -/
theorem abs_roundBits_le {p : ℕ} (hp : 1 ≤ p) (x : K) : |roundBits p x| ≤ 2 * |x| := by
  rcases eq_or_ne x 0 with rfl | hx
  · have h0 : roundEven (0 : K) = 0 := by exact_mod_cast roundEven_intCast (K := K) 0
    rw [roundBits, zero_div, h0, Int.cast_zero, zero_mul, abs_zero, mul_zero]
  · have hpos : 0 < |x| := abs_pos.2 hx
    have hlog : (2 : K) ^ Int.log 2 |x| ≤ |x| := by
      exact_mod_cast Int.zpow_log_le_self (b := 2) (by norm_num) hpos
    have hulp : ulp p x ≤ |x| := le_trans (zpow_le_zpow_right₀ one_le_two (by omega)) hlog
    have hnear := abs_sub_roundBits_le p x
    have htri := abs_sub_abs_le_abs_sub (roundBits p x) x
    rw [abs_sub_comm] at htri
    linarith

/-- The exponent of a number in a binade. -/
theorem log_eq_of_mem {x : K} {e : ℤ} (h₁ : (2 : K) ^ e ≤ x) (h₂ : x < 2 ^ (e + 1)) :
    Int.log 2 |x| = e := by
  have hx : 0 < x := lt_of_lt_of_le (zpow_pos (by norm_num) _) h₁
  rw [abs_of_pos hx]
  have hle : e ≤ Int.log 2 x := (Int.zpow_le_iff_le_log (by norm_num) hx).1 (by exact_mod_cast h₁)
  have hlt : Int.log 2 x < e + 1 :=
    (Int.lt_zpow_iff_log_lt (by norm_num) hx).1 (by exact_mod_cast h₂)
  omega

theorem ulp_of_mem (p : ℕ) {x : K} {e : ℤ} (h₁ : (2 : K) ^ e ≤ x) (h₂ : x < 2 ^ (e + 1)) :
    ulp p x = 2 ^ (e - (p - 1)) := by rw [ulp, log_eq_of_mem h₁ h₂]

/-- Rounding does not leave a binade downwards. -/
theorem zpow_le_roundBits {p : ℕ} (hp : 1 ≤ p) {x : K} {e : ℤ} (h₁ : (2 : K) ^ e ≤ x)
    (h₂ : x < 2 ^ (e + 1)) : (2 : K) ^ e ≤ roundBits p x := by
  have hu := ulp_pos p x
  have hpow : (2 : K) ^ e = ((2 ^ (p - 1) : ℕ) : ℤ) * ulp p x := by
    rw [ulp_of_mem p h₁ h₂]
    push_cast
    rw [← zpow_natCast, ← zpow_add₀ (by norm_num), Nat.cast_sub hp]
    congr 1
    push_cast
    ring
  have hle : (((2 ^ (p - 1) : ℕ) : ℤ) : K) ≤ x / ulp p x := by
    rw [le_div_iff₀ hu, ← hpow]
    exact h₁
  rw [hpow, roundBits]
  have hn : (((2 ^ (p - 1) : ℕ) : ℤ) : K) ≤ (roundEven (x / ulp p x) : ℤ) :=
    Int.cast_le.2 (le_roundEven hle)
  exact mul_le_mul_of_nonneg_right hn hu.le

theorem ulp_le_of_lt (p : ℕ) {x : K} {e : ℤ} (hx : 0 < x) (h : x < 2 ^ (e + 1)) :
    ulp p x ≤ 2 ^ (e - (p - 1)) := by
  have hlt : Int.log 2 x < e + 1 :=
    (Int.lt_zpow_iff_log_lt (by norm_num) hx).1 (by exact_mod_cast h)
  rw [ulp, abs_of_pos hx]
  exact zpow_le_zpow_right₀ (by norm_num) (by omega)

/-- In a binade the rounded number is a whole multiple of the unit there, the nearest one. -/
theorem exists_roundBits_eq (p : ℕ) {x : K} {e : ℤ} (h₁ : (2 : K) ^ e ≤ x)
    (h₂ : x < 2 ^ (e + 1)) : ∃ j : ℤ, roundBits p x = j * 2 ^ (e - (p - 1)) ∧
      |x / 2 ^ (e - (p - 1)) - j| ≤ 1 / 2 := by
  rw [roundBits, ulp_of_mem p h₁ h₂]
  exact ⟨_, rfl, abs_sub_roundEven_le _⟩

end Foundations
