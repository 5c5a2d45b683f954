import Spooler.Text.Strings

/-!
# Whole numbers as texts

`atoi`, `into_string` and the conversions to the narrower integer types. What `into_string`
writes can be read back: no two numbers share a text (`intoString_injective`). The program is built
for 32 bits, where `atoi` stops at the bounds of a `long`.
-/

namespace Spooler

namespace Str

/-- The value of a digit string. -/
def digits (s : Str) : Nat :=
  (s.takeWhile Char.isDigit).foldl (fun n c => 10 * n + (c.toNat - 48)) 0

/-- The number at the start of a text, as it stands there. -/
def numeral (s : Str) : Int :=
  match s.dropWhile isSpace with
  | '-' :: ds => - (digits ds : Int)
  | '+' :: ds => digits ds
  | ds => digits ds

/-- `atoi(s)`, which is `strtol`: a number beyond `LONG_MIN` or `LONG_MAX` is read as that bound. -/
def atoi (s : Str) : Int := max (-2147483648) (min 2147483647 (numeral s))

/-- A number that an `int` holds is read as it stands there. -/
theorem atoi_of_range {s : Str} (h₀ : -2147483648 ≤ numeral s) (h₁ : numeral s ≤ 2147483647) :
    atoi s = numeral s := by
  unfold atoi
  omega

/-- `into_string(n)`. -/
def intoString (n : Int) : Str := (toString n).toList

/-- The text of a natural number. -/
theorem intoString_natCast (n : Nat) : intoString n = Nat.toDigits 10 n := by
  rw [intoString, Int.toString_eq_repr, Int.repr_eq_if, if_pos (Int.natCast_nonneg n),
    Int.toNat_natCast, Nat.toList_repr]

theorem intoString_of_neg {n : Int} (h : n < 0) :
    intoString n = '-' :: Nat.toDigits 10 (-n).toNat := by
  rw [intoString, Int.toString_eq_repr, Int.repr_eq_if, if_neg (by omega), String.toList_append,
    Nat.toList_repr]
  rfl

theorem isDigit_of_mem_toDigits {c : Char} {n : Nat} (h : c ∈ Nat.toDigits 10 n) :
    c.isDigit = true :=
  Nat.isDigit_of_mem_toDigits (by decide) (by decide) h

/-- The characters of a number. -/
theorem isDigit_or_of_mem_intoString {c : Char} {n : Int} (h : c ∈ intoString n) :
    c.isDigit = true ∨ c = '-' := by
  by_cases hn : n < 0
  · rw [intoString_of_neg hn, List.mem_cons] at h
    exact h.symm.imp isDigit_of_mem_toDigits id
  · obtain ⟨m, rfl⟩ := Int.eq_ofNat_of_zero_le (Int.not_lt.1 hn)
    rw [intoString_natCast] at h
    exact .inl (isDigit_of_mem_toDigits h)

/-- A digit is no blank. -/
theorem isSpace_of_isDigit {c : Char} (h : c.isDigit = true) : isSpace c = false := by
  unfold isSpace
  simp only [Bool.or_eq_false_iff, decide_eq_false_iff_not]
  refine ⟨⟨⟨⟨⟨?_, ?_⟩, ?_⟩, ?_⟩, ?_⟩, ?_⟩ <;> rintro rfl <;> revert h <;> decide

theorem digits_toDigits (n : Nat) : digits (Nat.toDigits 10 n) = n := by
  have htw : (Nat.toDigits 10 n).takeWhile Char.isDigit = Nat.toDigits 10 n :=
    List.takeWhile_eq_self_iff.2 fun c hc => isDigit_of_mem_toDigits hc
  rw [digits, htw]
  exact Nat.ofDigitChars_ten_toDigits

/-- The number that digits stand for. -/
theorem numeral_of_isDigit {ds : Str} (h : ∀ c ∈ ds, c.isDigit = true) :
    numeral ds = digits ds := by
  cases ds with
  | nil => rfl
  | cons c ds =>
    have hc := h c List.mem_cons_self
    rw [numeral, List.dropWhile_cons_of_neg (by simp [isSpace_of_isDigit hc])]
    split
    · rename_i heq
      rw [(List.cons.inj heq).1] at hc
      exact absurd hc (by decide)
    · rename_i heq
      rw [(List.cons.inj heq).1] at hc
      exact absurd hc (by decide)
    · rfl

/-- The text that `into_string` writes stands for the number. -/
theorem numeral_intoString (n : Int) : numeral (intoString n) = n := by
  by_cases hn : n < 0
  · rw [intoString_of_neg hn, numeral, List.dropWhile_cons_of_neg (by decide)]
    simp only [digits_toDigits]
    omega
  · obtain ⟨m, rfl⟩ := Int.eq_ofNat_of_zero_le (Int.not_lt.1 hn)
    rw [intoString_natCast, numeral_of_isDigit fun c hc => isDigit_of_mem_toDigits hc,
      digits_toDigits]

theorem intoString_injective : Function.Injective intoString :=
  Function.LeftInverse.injective numeral_intoString

end Str

/-- The value of a number stored in an `unsigned int`. -/
def toUnsigned (n : Int) : Nat := (n % 4294967296).toNat

/-- The value of a number stored in a `short`. -/
def toShort (n : Int) : Int := (n + 32768) % 65536 - 32768

theorem toShort_of_range {n : Int} (h₀ : -32768 ≤ n) (h₁ : n ≤ 32767) : toShort n = n := by
  unfold toShort
  omega

end Spooler
