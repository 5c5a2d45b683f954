import Spooler.Foundations.Rounding
import Spooler.Text.Decimals
import Spooler.Driver.Tabelas
import Mathlib.Data.Nat.Log
import Mathlib.Data.Rat.Floor
import Mathlib.Tactic.NormNum.Pow

/-!
# Amounts in single precision

An amount of `c` cents goes through a `double` and a `float` and is rounded to cents again.
**`roundEven_emFloat_iff`**: what comes out is `c` exactly when `Cabe c`. Below 131072.00 that is
every amount. From there on the numbers of a `float` are further apart than the cents, and an amount
survives only if it lies near enough to one of them. `Numeric.exato` are the conversions of the
driver as functions on rational numbers.
-/

namespace Spooler

open Foundations

/-- The number that remains of `x` in a `float`, by way of a `double`. -/
def emFloat (x : ℚ) : ℚ := roundBits 24 (roundBits 53 x)

theorem emFloat_nonneg {x : ℚ} (h : 0 ≤ x) : 0 ≤ emFloat x :=
  roundBits_nonneg _ (roundBits_nonneg _ h)

theorem abs_emFloat_le (x : ℚ) : |emFloat x| ≤ 4 * |x| := by
  have h₁ := abs_roundBits_le (p := 24) (by norm_num) (roundBits 53 x)
  have h₂ := abs_roundBits_le (p := 53) (by norm_num) x
  unfold emFloat
  linarith

/-- How far a number of hundredths is from the next whole number. -/
def centesimos (m : ℕ) : ℕ := min (m % 100) (100 - m % 100)

/-- An amount of `c` cents survives: with `2 ^ e` the power of two below it, it is nearer than half
a cent to a multiple of the unit `2 ^ (e - 23)`, or just as near and even. -/
def Cabe (c : ℕ) : Prop :=
  let e := Nat.log 2 (c / 100)
  if e ≤ 23 then
    2 * centesimos (c * 2 ^ (23 - e)) < 2 ^ (23 - e) ∨
      2 * centesimos (c * 2 ^ (23 - e)) = 2 ^ (23 - e) ∧ c % 2 = 0
  else c % (100 * 2 ^ (e - 23)) = 0

instance (c : ℕ) : Decidable (Cabe c) := by
  unfold Cabe
  infer_instance

theorem centesimos_le (m : ℕ) : centesimos m ≤ 50 := by
  unfold centesimos
  omega

/-- Small amounts all survive. -/
theorem cabe_of_lt {c : ℕ} (h : c < 13107200) : Cabe c := by
  have he : Nat.log 2 (c / 100) < 17 := Nat.log_lt_of_lt_pow' (by norm_num) (by norm_num; omega)
  have hq : 2 ^ 7 ≤ 2 ^ (23 - Nat.log 2 (c / 100)) :=
    Nat.pow_le_pow_right (by norm_num) (by omega)
  have hd := centesimos_le (c * 2 ^ (23 - Nat.log 2 (c / 100)))
  unfold Cabe
  rw [if_pos (by omega)]
  exact .inl (by omega)

/-- Rounding to cents gives `c` for a number next to `c`. -/
theorem roundEven_mul_of_near {x f : ℚ} {c : ℕ} (hx : x = c / 100) (h : |x - f| < 1 / 200) :
    roundEven (f * 100) = c := by
  rw [roundEven_eq_iff]
  left
  rw [abs_lt] at h ⊢
  push_cast
  constructor <;> linarith

/-- A small amount is off by less than half a cent. -/
theorem abs_sub_emFloat_lt {c : ℕ} (h₁ : 1 ≤ c) (h : c < 13107200) :
    |(c / 100 : ℚ) - emFloat (c / 100)| < 1 / 200 := by
  have hc : (1 : ℚ) ≤ c := by exact_mod_cast h₁
  have hc' : (c : ℚ) ≤ 13107199 := by exact_mod_cast Nat.le_of_lt_succ h
  have hx : (0 : ℚ) < c / 100 := by linarith
  have hx' : (c / 100 : ℚ) ≤ 131071.99 := by linarith
  generalize (c / 100 : ℚ) = x at hx hx' ⊢
  have hlo : (2 : ℚ) ^ Int.log 2 x ≤ x := by
    exact_mod_cast Int.zpow_log_le_self (by norm_num) hx
  have hhi : x < 2 ^ (Int.log 2 x + 1) := by
    exact_mod_cast Int.lt_zpow_succ_log_self (b := 2) (by norm_num) x
  have h17 : x < 2 ^ ((16 : ℤ) + 1) := by norm_num; linarith
  -- the double is as good as the amount, and has no more binary places in front of the point
  have hd := abs_sub_roundBits_le 53 x
  have hu : ulp 53 x ≤ 2 ^ ((16 : ℤ) - (53 - 1)) := by
    exact_mod_cast ulp_le_of_lt 53 hx h17
  have hy : 0 < roundBits 53 x :=
    lt_of_lt_of_le (zpow_pos (by norm_num) _) (zpow_le_roundBits (by norm_num) hlo hhi)
  norm_num at hu
  rw [abs_le] at hd
  have hy17 : roundBits 53 x < 2 ^ ((16 : ℤ) + 1) := by norm_num; linarith
  have hf := abs_sub_roundBits_le 24 (roundBits 53 x)
  have hv : ulp 24 (roundBits 53 x) ≤ 2 ^ ((16 : ℤ) - (24 - 1)) := by
    exact_mod_cast ulp_le_of_lt 24 hy hy17
  norm_num at hv
  rw [abs_le] at hf
  rw [emFloat, abs_lt]
  constructor <;> linarith

/-- An amount in a binade becomes a whole multiple of the unit of a `float` there, and one of the
nearest. -/
theorem exists_emFloat_eq {x : ℚ} {e : ℤ} (h₁ : (2 : ℚ) ^ e ≤ x)
    (h₂ : x + 2 ^ (e - 53) < 2 ^ (e + 1)) : ∃ j : ℤ, emFloat x = j * 2 ^ (e - 23) ∧
      |x / 2 ^ (e - 23) - j| ≤ 1 / 2 + 1 / 2 ^ 30 := by
  have hlt : x < 2 ^ (e + 1) :=
    lt_of_le_of_lt (le_add_of_nonneg_right (zpow_nonneg (by norm_num) _)) h₂
  have hy₁ := zpow_le_roundBits (p := 53) (by norm_num) h₁ hlt
  have hd : |x - roundBits 53 x| ≤ 2 ^ (e - 53) := by
    have hd := abs_sub_roundBits_le 53 x
    rw [ulp_of_mem 53 h₁ hlt] at hd
    refine hd.trans (le_of_eq ?_)
    rw [show e - ((53 : ℕ) - 1 : ℤ) = (e - 53) + 1 by push_cast; ring, zpow_add₀ (by norm_num)]
    ring
  have hy₂ : roundBits 53 x < 2 ^ (e + 1) := by
    rw [abs_le] at hd
    linarith
  obtain ⟨j, hj, hnear⟩ := exists_roundBits_eq 24 hy₁ hy₂
  have h23 : e - ((24 : ℕ) - 1 : ℤ) = e - 23 := by push_cast; ring
  rw [h23] at hj hnear
  refine ⟨j, hj, ?_⟩
  have hu : (0 : ℚ) < 2 ^ (e - 23) := zpow_pos (by norm_num) _
  have hxy : |x / 2 ^ (e - 23) - roundBits 53 x / 2 ^ (e - 23)| ≤ 1 / 2 ^ 30 := by
    rw [← sub_div, abs_div, abs_of_pos hu, div_le_iff₀ hu]
    refine hd.trans (le_of_eq ?_)
    rw [show e - 53 = (e - 23) + (-30) by ring, zpow_add₀ (by norm_num)]
    norm_num
    ring
  calc |x / 2 ^ (e - 23) - j|
      = |(x / 2 ^ (e - 23) - roundBits 53 x / 2 ^ (e - 23)) +
          (roundBits 53 x / 2 ^ (e - 23) - j)| := by ring_nf
    _ ≤ 1 / 2 ^ 30 + 1 / 2 := (abs_add_le _ _).trans (add_le_add hxy hnear)
    _ = 1 / 2 + 1 / 2 ^ 30 := by ring

/-- The binade of a large amount, and how far it stays from the next one. -/
theorem binade_of_le {c : ℕ} (h : 13107200 ≤ c) (hmax : c ≤ 9999999999) :
    17 ≤ Nat.log 2 (c / 100) ∧ Nat.log 2 (c / 100) ≤ 26 ∧
      100 * 2 ^ Nat.log 2 (c / 100) ≤ c ∧ c + 1 ≤ 100 * 2 ^ (Nat.log 2 (c / 100) + 1) := by
  have hlo : 2 ^ Nat.log 2 (c / 100) ≤ c / 100 := Nat.pow_log_le_self 2 (by omega)
  have hhi : c / 100 < 2 ^ (Nat.log 2 (c / 100) + 1) := Nat.lt_pow_succ_log_self (by norm_num) _
  have h17 : 17 ≤ Nat.log 2 (c / 100) := Nat.le_log_of_pow_le (by norm_num) (by norm_num; omega)
  have h26 : Nat.log 2 (c / 100) < 27 := Nat.log_lt_of_lt_pow' (by norm_num) (by norm_num; omega)
  refine ⟨h17, by omega, by omega, by omega⟩

/-- The amount `f` of a `float` is `c` cents again, in whole numbers: with units of `1 / q`. -/
theorem roundEven_div_iff {q c : ℕ} (hq : 0 < q) (j : ℤ) :
    roundEven ((j : ℚ) / q * 100) = c ↔
      2 * |100 * j - c * q| < q ∨ 2 * |100 * j - c * q| = q ∧ c % 2 = 0 := by
  have hq' : (0 : ℚ) < q := by exact_mod_cast hq
  have habs : |(j : ℚ) / q * 100 - (c : ℤ)| = ((|100 * j - c * q| : ℤ) : ℚ) / q := by
    rw [Int.cast_abs, eq_div_iff hq'.ne', ← abs_of_pos hq', ← abs_mul, abs_of_pos hq']
    congr 1
    push_cast
    field_simp
  rw [roundEven_eq_iff, habs, div_lt_iff₀ hq', div_eq_iff hq'.ne']
  have hlt : ((|100 * j - c * q| : ℤ) : ℚ) < 1 / 2 * q ↔ 2 * |100 * j - c * q| < q := by
    rw [← @Int.cast_lt ℚ]
    push_cast
    constructor <;> intro h <;> linarith
  have heq : ((|100 * j - c * q| : ℤ) : ℚ) = 1 / 2 * q ↔ 2 * |100 * j - c * q| = q := by
    rw [← @Int.cast_inj ℚ]
    push_cast
    constructor <;> intro h <;> linarith
  rw [hlt, heq]
  omega

/-- The distance of hundredths to the nearest whole number. -/
theorem abs_eq_centesimos {m : ℕ} {j : ℤ} (h : |100 * j - m| ≤ 50) :
    |100 * j - m| = centesimos m := by
  unfold centesimos
  rw [abs_le] at h
  have ha := abs_cases (100 * j - (m : ℤ))
  rcases le_total (m % 100) (100 - m % 100) with hm | hm
  · rw [min_eq_left hm]
    omega
  · rw [min_eq_right hm]
    omega

/-- A unit that divides one: cents and units meet in whole numbers. -/
theorem roundEven_unidade_iff {c q : ℕ} {j : ℤ} (hq : 0 < q)
    (hnear : |(c : ℚ) / 100 / (1 / q) - j| ≤ 1 / 2 + 1 / 2 ^ 30) :
    roundEven ((j : ℚ) * (1 / q) * 100) = c ↔
      2 * centesimos (c * q) < q ∨ 2 * centesimos (c * q) = q ∧ c % 2 = 0 := by
  have hj50 : |100 * j - ((c * q : ℕ) : ℤ)| ≤ 50 := by
    rw [div_div_eq_mul_div, div_one, abs_le] at hnear
    obtain ⟨hl, hr⟩ := hnear
    norm_num at hl hr
    have hlt : ((100 * j - ((c * q : ℕ) : ℤ) : ℤ) : ℚ) < (51 : ℤ) := by
      push_cast
      linarith
    have hgt : ((-51 : ℤ) : ℚ) < (100 * j - ((c * q : ℕ) : ℤ) : ℤ) := by
      push_cast
      linarith
    have hlt' := Int.cast_lt.1 hlt
    have hgt' := Int.cast_lt.1 hgt
    rw [abs_le]
    omega
  rw [mul_one_div, roundEven_div_iff hq, ← Nat.cast_mul, abs_eq_centesimos hj50]
  omega

/-- Whole numbers nearer to each other than one are the same. -/
theorem eq_of_abs_sub_lt_one {k j : ℤ} (h : |(k : ℚ) - j| < 1) : j = k := by
  have hlt : |k - j| < 1 := by exact_mod_cast h
  exact (sub_eq_zero.1 (Int.abs_lt_one_iff.1 hlt)).symm

/-- A unit that is a whole number: the amount is a multiple of it. -/
theorem roundEven_multiplo_iff {c u : ℕ} {j : ℤ} (hu : 0 < u)
    (hnear : |(c : ℚ) / 100 / u - j| ≤ 1 / 2 + 1 / 2 ^ 30) :
    roundEven ((j : ℚ) * u * 100) = c ↔ c % (100 * u) = 0 := by
  have hint : (j : ℚ) * u * 100 = ((100 * u * j : ℤ) : ℚ) := by
    push_cast
    ring
  rw [hint, roundEven_intCast, ← Nat.dvd_iff_mod_eq_zero]
  constructor
  · intro h
    rw [← Int.natCast_dvd_natCast, ← h]
    push_cast
    exact dvd_mul_right _ _
  · rintro ⟨k, rfl⟩
    have hu' : (u : ℚ) ≠ 0 := by exact_mod_cast hu.ne'
    have hk : (((100 * u * k : ℕ) : ℚ) / 100 / u) = k := by
      push_cast
      field_simp
    rw [hk] at hnear
    have hjk : j = k := eq_of_abs_sub_lt_one (by
      rw [Int.cast_natCast]
      exact hnear.trans_lt (by norm_num))
    rw [hjk]
    push_cast
    rfl

/-- **Which amounts survive**: what is rounded to cents again is the amount exactly when it lies
near enough to a number of a `float`. -/
theorem roundEven_emFloat_iff {c : ℕ} (h₁ : 1 ≤ c) (hmax : c ≤ 9999999999) :
    roundEven (emFloat (c / 100) * 100) = c ↔ Cabe c := by
  by_cases hc : c < 13107200
  · exact iff_of_true (roundEven_mul_of_near rfl (abs_sub_emFloat_lt h₁ hc)) (cabe_of_lt hc)
  · obtain ⟨h17, h26, hlo, hhi⟩ := binade_of_le (not_lt.1 hc) hmax
    unfold Cabe
    generalize Nat.log 2 (c / 100) = e at *
    have hlo' : (100 * 2 ^ e : ℚ) ≤ c := by exact_mod_cast hlo
    have hhi' : (c + 1 : ℚ) ≤ 100 * 2 ^ (e + 1) := by exact_mod_cast hhi
    have hsmall : (2 : ℚ) ^ ((e : ℤ) - 53) ≤ 2 ^ (-27 : ℤ) :=
      zpow_le_zpow_right₀ (by norm_num) (by omega)
    norm_num at hsmall
    obtain ⟨j, hj, hnear⟩ := exists_emFloat_eq (x := c / 100) (e := e)
      (by rw [zpow_natCast]; linarith)
      (by
        rw [show (e : ℤ) + 1 = ((e + 1 : ℕ) : ℤ) by push_cast; ring, zpow_natCast]
        linarith)
    rw [hj]
    by_cases he : e ≤ 23
    · have hunit : (2 : ℚ) ^ ((e : ℤ) - 23) = 1 / (2 ^ (23 - e) : ℕ) := by
        rw [show (e : ℤ) - 23 = -((23 - e : ℕ) : ℤ) by omega, zpow_neg, zpow_natCast]
        push_cast
        rw [one_div]
      rw [hunit] at hnear ⊢
      rw [if_pos he, roundEven_unidade_iff (Nat.two_pow_pos _) hnear]
    · have hunit : (2 : ℚ) ^ ((e : ℤ) - 23) = (2 ^ (e - 23) : ℕ) := by
        rw [show (e : ℤ) - 23 = ((e - 23 : ℕ) : ℤ) by omega, zpow_natCast]
        push_cast
        rfl
      rw [hunit] at hnear ⊢
      rw [if_neg he, roundEven_multiplo_iff (Nat.two_pow_pos _) hnear]

/-! ## The conversions of the driver -/

/-- `sprintf` with a format `%w.pf` or `%0w.pf`. -/
def sprintfF (zero : Bool) (width prec : ℕ) (v : ℚ) : Str :=
  let sinal : Str := if v < 0 then ['-'] else []
  let num := Str.decimal '.' prec (roundEven (|v| * 10 ^ prec)).toNat
  let falta := width - (sinal.length + num.length)
  if zero then sinal ++ List.replicate falta '0' ++ num
  else List.replicate falta ' ' ++ sinal ++ num

/-- The conversions between texts and numbers of type `float`, exact and rounded where the types
round. The amounts are taken to stay within the range of the type. -/
def Numeric.exato (resto : Numeric ℚ) : Numeric ℚ :=
  { resto with
    ofInt := fun n => roundBits 24 n
    atof := fun s => emFloat (Str.atofExato s)
    sprintf := fun fmt v =>
      match Str.formatoF fmt with
      | some (zero, width, prec) => some (sprintfF zero width prec v)
      | none => resto.sprintf fmt v }

theorem formato_valor : Str.formatoF "%11.2f" = some (false, 11, 2) := by decide

theorem formato_indice : Str.formatoF "%02.0f" = some (true, 2, 0) := by decide

theorem sprintf_exato (resto : Numeric ℚ) (v : ℚ) {fmt : String} {zero : Bool} {width prec : ℕ}
    (h : Str.formatoF fmt = some (zero, width, prec)) :
    (Numeric.exato resto).sprintf fmt v = some (sprintfF zero width prec v) := by
  simp only [Numeric.exato, h]

namespace Str

theorem dropWhile_isSpace_replicate {s : Str} (hs : ∀ c ∈ s.head?, isSpace c = false) (k : ℕ) :
    (List.replicate k ' ' ++ s).dropWhile isSpace = s := by
  rw [List.dropWhile_append_of_pos fun c hc => by rw [List.eq_of_mem_replicate hc]; rfl]
  cases s with
  | nil => rfl
  | cons c s => exact List.dropWhile_cons_of_neg (by simp [hs c rfl])

/-- Blanks in front are trimmed, what has none is left. -/
theorem trim_replicate_append {s : Str} (h : ∀ c ∈ s, isSpace c = false) (hne : s ≠ []) (k : ℕ) :
    trim (List.replicate k ' ' ++ s) = s := by
  have hr : rtrim (List.replicate k ' ' ++ s) = List.replicate k ' ' ++ s := by
    obtain ⟨t, c, rfl⟩ := List.eq_nil_or_concat s |>.resolve_left hne
    rw [rtrim, List.concat_eq_append, ← List.append_assoc, List.reverse_append]
    simp [h c (by simp)]
  rw [trim, hr]
  exact dropWhile_isSpace_replicate (fun c hc => h c (List.mem_of_mem_head? hc)) k

end Str

/-- `format_valor` with a format that `sprintf` knows. -/
theorem exec_formatValor_exato {σ : Type} {resto : Numeric ℚ} {fmt : String} {zero : Bool}
    {width prec : ℕ} (h : Str.formatoF fmt = some (zero, width, prec)) (v : ℚ) (s : σ) :
    exec (Driver.formatValor (.exato resto) v fmt : Exec Excp σ Str) s =
      (if (sprintfF zero width prec v).length < Driver.tamAux then
        .ok (Driver.comVirgula (sprintfF zero width prec v)) else .error .overrun, s) := by
  have haux := sprintf_exato resto v h
  by_cases hlen : (sprintfF zero width prec v).length < Driver.tamAux
  · rw [if_pos hlen, Driver.exec_formatValor_some haux hlen]
  · have hover : Driver.transborda (.exato resto) v fmt = true := by
      rw [Driver.transborda, haux, Option.any_some]
      exact decide_eq_true (not_lt.1 hlen)
    rw [if_neg hlen, Driver.formatValor, if_pos hover]
    rfl

/-- The text of an amount that is not negative. -/
theorem comVirgula_sprintfF {v : ℚ} (hv : 0 ≤ v) : Driver.comVirgula (sprintfF false 11 2 v) =
    Str.decimal ',' 2 (roundEven (v * 10 ^ 2)).toNat := by
  have hdec : ∀ (sep : Char) (t : ℕ), Str.decimal sep 2 t =
      Nat.toDigits 10 (t / 10 ^ 2) ++ sep :: Str.zeroPad 2 (t % 10 ^ 2) := fun _ _ => rfl
  simp only [Driver.comVirgula, sprintfF, Bool.false_eq_true, if_false, abs_of_nonneg hv,
    if_neg (not_lt.2 hv), List.append_nil, List.length_nil, Nat.zero_add]
  generalize (roundEven (v * 10 ^ 2)).toNat = t
  generalize 11 - (Str.decimal '.' 2 t).length = k
  -- the point is the first character that is no blank and no digit
  have hpre : ∀ c ∈ List.replicate k ' ' ++ Nat.toDigits 10 (t / 10 ^ 2),
      decide (c ≠ '.') = true := by
    intro c hc
    rw [decide_eq_true_eq]
    rintro rfl
    rcases List.mem_append.1 hc with hc | hc
    · exact absurd (List.eq_of_mem_replicate hc) (by decide)
    · exact absurd (Str.isDigit_of_mem_toDigits hc) (by decide)
  have hne : Str.decimal ',' 2 t ≠ [] := by simp [hdec]
  have hsp : ∀ c ∈ Str.decimal ',' 2 t, Str.isSpace c = false := by
    intro c hc
    rcases Str.mem_decimal hc with hc | rfl
    · exact Str.isSpace_of_isDigit hc
    · rfl
  rw [hdec, ← List.append_assoc, List.takeWhile_append_of_pos hpre,
    List.dropWhile_append_of_pos hpre, List.takeWhile_cons_of_neg (by decide),
    List.dropWhile_cons_of_neg (by decide), List.append_nil]
  simp only [List.append_assoc, ← hdec]
  exact Str.trim_replicate_append hsp hne k

/-- A number up to a hundred thousand million has room in the buffer. -/
theorem length_sprintfF_lt {zero : Bool} {width prec : ℕ} (hw : width ≤ 31) (hp : prec ≤ 17) {v : ℚ}
    (h : |v| ≤ (10 ^ 11 : ℕ)) : (sprintfF zero width prec v).length < Driver.tamAux := by
  have hround : roundEven (|v| * 10 ^ prec) ≤ (10 ^ 11 * 10 ^ prec : ℕ) := by
    refine roundEven_le ?_
    have hmul := mul_le_mul_of_nonneg_right h (pow_nonneg (by norm_num : (0 : ℚ) ≤ 10) prec)
    push_cast at hmul ⊢
    exact hmul
  have hdiv : (roundEven (|v| * 10 ^ prec)).toNat / 10 ^ prec ≤ 10 ^ 11 :=
    Nat.div_le_of_le_mul (by rw [Nat.mul_comm]; omega)
  have hdigits := (Nat.length_toDigits_le_iff (b := 10) (k := 12) (by norm_num)
    (by norm_num)).2 (lt_of_le_of_lt hdiv (by norm_num))
  have hponto : Str.ponto prec ≤ 18 := by
    unfold Str.ponto
    split_ifs <;> omega
  have hsinal : (if v < 0 then ['-'] else [] : Str).length ≤ 1 := by split_ifs <;> decide
  have hlen := Str.length_decimal '.' prec (roundEven (|v| * 10 ^ prec)).toNat
  unfold sprintfF Driver.tamAux
  generalize (if v < 0 then ['-'] else [] : Str) = sinal at hsinal ⊢
  cases zero <;>
    simp only [Bool.false_eq_true, if_false, if_true, List.length_append, List.length_replicate] <;>
    omega

end Spooler
