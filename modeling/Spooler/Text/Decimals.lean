import Spooler.Text.Numbers
import Mathlib.Algebra.Order.Field.Rat
import Mathlib.Tactic.FieldSimp
import Mathlib.Tactic.Ring
import Mathlib.Tactic.NormNum

/-!
# Decimal texts

Numbers with places behind a separator: `decimal` writes them, `parseDecimal` reads them, and
**`parseDecimal_decimal`**: what is written is read back.
-/

namespace Spooler.Str

/-- The digits of `n`, with zeros in front up to `k` of them. -/
def zeroPad (k n : Nat) : Str :=
  List.replicate (k - (Nat.toDigits 10 n).length) '0' ++ Nat.toDigits 10 n

/-- The number `t / 10 ^ prec`, with `prec` places. -/
def decimal (sep : Char) (prec t : Nat) : Str :=
  Nat.toDigits 10 (t / 10 ^ prec) ++
    if prec = 0 then [] else sep :: zeroPad prec (t % 10 ^ prec)

/-- The number in front of a text, and what follows it. -/
def parseDecimal (sep : Char) (s : Str) : ℚ × Str :=
  match s.dropWhile Char.isDigit with
  | [] => (digits s, [])
  | c :: frac =>
    if c = sep then
      (digits s + digits frac / 10 ^ (frac.takeWhile Char.isDigit).length,
        frac.dropWhile Char.isDigit)
    else (digits s, c :: frac)

/-! ## Digits -/

theorem isDigit_of_mem_zeroPad {k n : Nat} {c : Char} (h : c ∈ zeroPad k n) :
    c.isDigit = true := by
  rcases List.mem_append.1 h with h | h
  · rw [List.eq_of_mem_replicate h]
    decide
  · exact isDigit_of_mem_toDigits h

theorem length_zeroPad {k n : Nat} (hk : 0 < k) (h : n < 10 ^ k) : (zeroPad k n).length = k := by
  have hle : (Nat.toDigits 10 n).length ≤ k := (Nat.length_toDigits_le_iff (by decide) hk).2 h
  rw [zeroPad, List.length_append, List.length_replicate]
  omega

/-- The places behind a point, and the point. -/
def ponto (prec : Nat) : Nat := if prec = 0 then 0 else prec + 1

theorem length_decimal (sep : Char) (prec t : Nat) : (decimal sep prec t).length =
    (Nat.toDigits 10 (t / 10 ^ prec)).length + ponto prec := by
  unfold decimal ponto
  split_ifs with h
  · rw [List.append_nil, Nat.add_zero]
  · have hlt : t % 10 ^ prec < 10 ^ prec := Nat.mod_lt _ (Nat.pow_pos (by decide))
    rw [List.length_append, List.length_cons, length_zeroPad (Nat.pos_of_ne_zero h) hlt]

/-- Two digits, a single one behind a zero. -/
theorem zeroPad_two (n : Nat) : zeroPad 2 n = (if n < 10 then ['0'] else []) ++ intoString n := by
  rw [intoString_natCast, zeroPad]
  by_cases hn : n < 10
  · rw [if_pos hn, Nat.toDigits_of_lt_base hn]
    rfl
  · have hlen : ¬ (Nat.toDigits 10 n).length ≤ 1 := by
      rw [Nat.length_toDigits_le_iff (by decide) (by decide)]
      omega
    rw [if_neg hn, show 2 - (Nat.toDigits 10 n).length = 0 by omega]
    rfl

theorem trim_zeroPad (k n : Nat) : trim (zeroPad k n) = zeroPad k n :=
  trim_eq_self fun _ hc => isSpace_of_isDigit (isDigit_of_mem_zeroPad hc)

/-- The value of digits in front of something else. -/
theorem digits_append (ds s : Str) (h : ∀ c ∈ ds, c.isDigit = true)
    (hs : ∀ c ∈ s.head?, c.isDigit = false) : digits (ds ++ s) = Nat.ofDigitChars 10 ds 0 ∧
      (ds ++ s).takeWhile Char.isDigit = ds ∧ (ds ++ s).dropWhile Char.isDigit = s := by
  have ht : (ds ++ s).takeWhile Char.isDigit = ds := by
    rw [List.takeWhile_append_of_pos h]
    cases s with
    | nil => simp
    | cons c s => rw [List.takeWhile_cons_of_neg (by simp [hs c rfl]), List.append_nil]
  refine ⟨?_, ht, ?_⟩
  · rw [digits, ht]
    rfl
  · rw [List.dropWhile_append_of_pos h]
    cases s with
    | nil => rfl
    | cons c s => exact List.dropWhile_cons_of_neg (by simp [hs c rfl])

theorem ofDigitChars_zeroPad (k n : Nat) : Nat.ofDigitChars 10 (zeroPad k n) 0 = n := by
  rw [zeroPad, Nat.ofDigitChars_append, Nat.ofDigitChars_replicate_zero, Nat.mul_zero,
    Nat.ofDigitChars_ten_toDigits]

theorem isDigit_bounds {c : Char} (h : c.isDigit = true) : 48 ≤ c.toNat ∧ c.toNat ≤ 57 := by
  have hc : '0'.val ≤ c.val ∧ c.val ≤ '9'.val := by simpa [Char.isDigit] using h
  exact ⟨UInt32.le_iff_toNat_le.1 hc.1, UInt32.le_iff_toNat_le.1 hc.2⟩

/-- A digit is the character of its value. -/
theorem exists_digitChar {c : Char} (h : c.isDigit = true) : ∃ d < 10, Nat.digitChar d = c := by
  obtain ⟨h₀, h₉⟩ := isDigit_bounds h
  have hd : c.toNat - 48 < 10 := by omega
  obtain ⟨h₁, -⟩ := isDigit_bounds (c := Nat.digitChar (c.toNat - 48))
    (by rw [Nat.isDigit_digitChar]; exact decide_eq_true hd)
  have hval := Nat.toNat_digitChar_sub_48_of_lt_ten hd
  refine ⟨c.toNat - 48, hd, Char.toNat_inj.1 ?_⟩
  omega

theorem ofDigitChars_lt {ds : Str} (h : ∀ c ∈ ds, c.isDigit = true) :
    Nat.ofDigitChars 10 ds 0 < 10 ^ ds.length := by
  induction ds using List.reverseRecOn with
  | nil => simp
  | append_singleton ds c ih =>
    obtain ⟨d, hd, rfl⟩ := exists_digitChar (h c (by simp))
    have hds := ih fun c hc => h c (List.mem_append_left _ hc)
    rw [Nat.ofDigitChars_append, Nat.ofDigitChars_cons_digitChar_of_lt_ten hd,
      Nat.ofDigitChars_nil, List.length_append, List.length_singleton, pow_succ]
    omega

/-- A number without zeros in front is written with its digits. -/
theorem toDigits_ofDigitChars {ds : Str} (h : ∀ c ∈ ds, c.isDigit = true) (hne : ds ≠ [])
    (hz : ds.head? ≠ some '0') :
    0 < Nat.ofDigitChars 10 ds 0 ∧ Nat.toDigits 10 (Nat.ofDigitChars 10 ds 0) = ds := by
  induction ds using List.reverseRecOn with
  | nil => exact absurd rfl hne
  | append_singleton ds c ih =>
    obtain ⟨d, hd, rfl⟩ := exists_digitChar (h c (by simp))
    rw [Nat.ofDigitChars_append, Nat.ofDigitChars_cons_digitChar_of_lt_ten hd,
      Nat.ofDigitChars_nil]
    by_cases hds : ds = []
    · subst hds
      rw [Nat.ofDigitChars_nil, Nat.mul_zero, Nat.zero_add, Nat.toDigits_of_lt_base hd]
      refine ⟨Nat.pos_of_ne_zero ?_, rfl⟩
      rintro rfl
      exact hz rfl
    · rw [List.head?_append_of_ne_nil _ hds] at hz
      obtain ⟨hpos, heq⟩ := ih (fun c hc => h c (List.mem_append_left _ hc)) hds hz
      rw [← Nat.toDigits_append_toDigits (by decide) hpos hd, heq, Nat.toDigits_of_lt_base hd]
      exact ⟨by omega, rfl⟩

/-- A text is some zeros and a text that does not begin with one. -/
theorem exists_zeros (ds : Str) : ∃ z rest, ds = List.replicate z '0' ++ rest ∧
    rest.head? ≠ some '0' := by
  induction ds with
  | nil => exact ⟨0, [], rfl, nofun⟩
  | cons c ds ih =>
    by_cases hc : c = '0'
    · obtain ⟨z, rest, rfl, hrest⟩ := ih
      exact ⟨z + 1, rest, by rw [hc]; rfl, hrest⟩
    · exact ⟨0, c :: ds, rfl, fun h => hc (Option.some.inj h)⟩

/-- **Digits are the text of their value**, when there are `k` of them, or more and no zero in
front. -/
theorem zeroPad_ofDigitChars {k : Nat} {ds : Str} (h : ∀ c ∈ ds, c.isDigit = true) (hk : 0 < k)
    (hlen : k ≤ ds.length) (hz : ds.length = k ∨ ds.head? ≠ some '0') :
    zeroPad k (Nat.ofDigitChars 10 ds 0) = ds := by
  obtain ⟨z, rest, rfl, hrest⟩ := exists_zeros ds
  have hz' : z + rest.length = k ∨ z = 0 ∧ k ≤ rest.length := by
    rw [List.length_append, List.length_replicate] at hz hlen
    rcases hz with hz | hz
    · exact .inl hz
    · cases z with
      | zero => exact .inr ⟨rfl, by omega⟩
      | succ z => simp [List.replicate_succ] at hz
  rw [Nat.ofDigitChars_append, Nat.ofDigitChars_replicate_zero, Nat.mul_zero, zeroPad]
  by_cases hr : rest = []
  · subst hr
    rw [List.length_nil] at hz'
    obtain ⟨z, rfl⟩ : ∃ y, z = y + 1 := ⟨z - 1, by omega⟩
    rw [Nat.ofDigitChars_nil, Nat.toDigits_zero, List.append_nil, List.replicate_succ',
      List.length_singleton, show k - 1 = z by omega]
  · obtain ⟨-, heq⟩ := toDigits_ofDigitChars (fun c hc => h c (List.mem_append_right _ hc)) hr hrest
    rw [heq, show k - rest.length = z by omega]

/-- Four digits are two and two. -/
theorem zeroPad_four {n : Nat} (h : n < 10000) :
    zeroPad 4 n = zeroPad 2 (n / 100) ++ zeroPad 2 (n % 100) := by
  have h₁ := length_zeroPad (n := n / 100) (k := 2) (by decide) (by omega)
  have h₂ := length_zeroPad (n := n % 100) (k := 2) (by decide) (by omega)
  have hval : Nat.ofDigitChars 10 (zeroPad 2 (n / 100) ++ zeroPad 2 (n % 100)) 0 = n := by
    rw [Nat.ofDigitChars_append, Nat.ofDigitChars_eq_ofDigitChars_zero, h₂, ofDigitChars_zeroPad,
      ofDigitChars_zeroPad]
    omega
  have hlen : (zeroPad 2 (n / 100) ++ zeroPad 2 (n % 100)).length = 4 := by
    rw [List.length_append, h₁, h₂]
  have hdig : ∀ c ∈ zeroPad 2 (n / 100) ++ zeroPad 2 (n % 100), c.isDigit = true := by
    intro c hc
    exact (List.mem_append.1 hc).elim isDigit_of_mem_zeroPad isDigit_of_mem_zeroPad
  rw [← zeroPad_ofDigitChars hdig (by decide) hlen.ge (.inl hlen), hval]

theorem numeral_zeroPad (k n : Nat) : numeral (zeroPad k n) = n := by
  have hdig : ∀ c ∈ zeroPad k n, c.isDigit = true := fun c hc => isDigit_of_mem_zeroPad hc
  have hd := digits_append (zeroPad k n) [] hdig nofun
  rw [List.append_nil, ofDigitChars_zeroPad] at hd
  rw [numeral_of_isDigit hdig, hd.1]

theorem atoi_zeroPad (k : Nat) {n : Nat} (h : n < 2147483648) : atoi (zeroPad k n) = n := by
  have hnum := numeral_zeroPad k n
  rw [atoi_of_range (by omega) (by omega), hnum]

/-- A small number is not read from digits that stand for a large one. -/
theorem atoi_zeroPad_lt {k n m : Nat} (hm : m ≤ 2147483647) (h : atoi (zeroPad k n) < m) :
    n < m := by
  rw [atoi, numeral_zeroPad] at h
  omega

/-- Digits on both sides of the separator. -/
theorem parseDecimal_of_isDigit {sep : Char} (hsep : sep.isDigit = false) {ds fs : Str}
    (hds : ∀ c ∈ ds, c.isDigit = true) (hfs : ∀ c ∈ fs, c.isDigit = true) :
    parseDecimal sep (ds ++ sep :: fs) =
      ((Nat.ofDigitChars 10 ds 0 : ℚ) + (Nat.ofDigitChars 10 fs 0 : ℚ) / 10 ^ fs.length, []) := by
  have hint := digits_append ds (sep :: fs) hds (by simpa using hsep)
  have hfrac := digits_append fs [] hfs nofun
  rw [List.append_nil] at hfrac
  rw [parseDecimal, hint.2.2]
  simp only [if_true, hint.1, hfrac.1, hfrac.2.1, hfrac.2.2]

/-- **What is written is read back.** -/
theorem parseDecimal_decimal {sep : Char} (hsep : sep.isDigit = false) {prec : Nat}
    (hp : 0 < prec) (t : Nat) :
    parseDecimal sep (decimal sep prec t) = ((t : ℚ) / 10 ^ prec, []) := by
  have hlen := length_zeroPad hp (Nat.mod_lt t (Nat.pow_pos (n := prec) (by decide : 0 < 10)))
  have hval : (t : ℚ) = (10 ^ prec : ℕ) * (t / 10 ^ prec : ℕ) + (t % 10 ^ prec : ℕ) := by
    exact_mod_cast (Nat.div_add_mod t (10 ^ prec)).symm
  rw [decimal, if_neg hp.ne', parseDecimal_of_isDigit hsep
    (fun c hc => isDigit_of_mem_toDigits hc) fun c hc => isDigit_of_mem_zeroPad hc]
  rw [Nat.ofDigitChars_ten_toDigits, ofDigitChars_zeroPad, hlen, Prod.mk.injEq]
  refine ⟨?_, rfl⟩
  rw [hval]
  push_cast
  field_simp

/-- The characters of a decimal text. -/
theorem mem_decimal {sep c : Char} {prec t : Nat} (h : c ∈ decimal sep prec t) :
    c.isDigit = true ∨ c = sep := by
  rcases List.mem_append.1 h with h | h
  · exact .inl (isDigit_of_mem_toDigits h)
  · split at h
    · cases h
    · rcases List.mem_cons.1 h with rfl | h
      · exact .inr rfl
      · exact .inl (isDigit_of_mem_zeroPad h)

/-! ## `atof` and `sprintf` -/

/-- The exponent in front of a text. -/
def expoente (s : Str) : Int :=
  match s with
  | c :: ds =>
    if c = 'e' ∨ c = 'E' then
      match ds with
      | '-' :: ds => - (digits ds : Int)
      | '+' :: ds => digits ds
      | ds => digits ds
    else 0
  | [] => 0

/-- The number that `atof` reads, before it is rounded to a `double`: blanks, a sign, digits with a
point among them, an exponent. -/
def atofExato (s : Str) : ℚ :=
  let ler := fun s : Str =>
    (parseDecimal '.' s).1 * 10 ^ expoente (parseDecimal '.' s).2
  match s.dropWhile isSpace with
  | '-' :: s => - ler s
  | '+' :: s => ler s
  | s => ler s

/-- `atof` of digits with a point among them. -/
theorem atofExato_of_isDigit {ds fs : Str} (hds : ∀ c ∈ ds, c.isDigit = true)
    (hfs : ∀ c ∈ fs, c.isDigit = true) : atofExato (ds ++ '.' :: fs) =
      (Nat.ofDigitChars 10 ds 0 : ℚ) + (Nat.ofDigitChars 10 fs 0 : ℚ) / 10 ^ fs.length := by
  have hparse := parseDecimal_of_isDigit (show '.'.isDigit = false from rfl) hds hfs
  obtain ⟨d, s, hs, hd⟩ : ∃ d s, ds ++ '.' :: fs = d :: s ∧ (d.isDigit = true ∨ d = '.') := by
    cases ds with
    | nil => exact ⟨_, _, rfl, .inr rfl⟩
    | cons d ds => exact ⟨_, _, rfl, .inl (hds d List.mem_cons_self)⟩
  have hsp : isSpace d = false := by
    rcases hd with hd | rfl
    · exact isSpace_of_isDigit hd
    · rfl
  rw [hs] at hparse ⊢
  rw [atofExato, List.dropWhile_cons_of_neg (by simp [hsp])]
  split
  · rename_i heq
    rw [(List.cons.inj heq).1] at hd
    exact absurd hd (by decide)
  · rename_i heq
    rw [(List.cons.inj heq).1] at hd
    exact absurd hd (by decide)
  · simp only [hparse, expoente, zpow_zero, mul_one]

/-- The flag for zeros, the width and the precision of a format `%w.pf` or `%0w.pf`. -/
def formatoF (fmt : String) : Option (Bool × Nat × Nat) :=
  match fmt.toList with
  | '%' :: s =>
    match s.dropWhile Char.isDigit with
    | '.' :: p =>
      if p.dropWhile Char.isDigit = ['f'] then some (s.head? = some '0', digits s, digits p)
      else none
    | _ => none
  | _ => none

end Spooler.Str
