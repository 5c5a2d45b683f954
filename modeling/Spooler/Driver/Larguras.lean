import Spooler.Driver.Centavos
import Spooler.Driver.Status

/-!
# Texts in buffers of a fixed size

`format_valor`, `eval_retcode` and `random_name` write a number into a buffer with `sprintf`, whose
widths are lower bounds. Finite numbers of the type `float` are taken with all of their range, up to
`2 ^ 128`. **`espacos_iff`**: which numbers fit into the buffers.
-/

namespace Spooler

open Foundations

/-! ## Numbers -/

/-- A finite number of the type `float`: `± mantissa * 2 ^ expoente`. -/
structure Flutuante where
  negativo : Bool
  mantissa : ℕ
  expoente : ℤ
  mantissa_lt : mantissa < 2 ^ 24
  expoente_mem : -149 ≤ expoente ∧ expoente ≤ 104

namespace Flutuante

def modulo (f : Flutuante) : ℚ := f.mantissa * 2 ^ f.expoente

def valor (f : Flutuante) : ℚ := if f.negativo then -f.modulo else f.modulo

/-- The sign, which a zero has, too. -/
def sinal (f : Flutuante) : Str := if f.negativo then ['-'] else []

end Flutuante

/-- A field of a format: a sign and digits, with blanks in front, or zeros between them. -/
def campo (zero : Bool) (width : ℕ) (sinal num : Str) : Str :=
  let falta := width - (sinal.length + num.length)
  if zero then sinal ++ List.replicate falta '0' ++ num
  else List.replicate falta ' ' ++ sinal ++ num

/-- `sprintf` with a format `%w.pf` or `%0w.pf`, of a `float`. -/
def sprintfFlutuante (zero : Bool) (width prec : ℕ) (f : Flutuante) : Str :=
  campo zero width f.sinal (Str.decimal '.' prec (roundEven (f.modulo * 10 ^ prec)).toNat)

/-- `sprintf` with a format `%wd` or `%0wd`. -/
def sprintfD (zero : Bool) (width : ℕ) (n : ℤ) : Str :=
  campo zero width (if n < 0 then ['-'] else []) (Nat.toDigits 10 n.natAbs)

/-- A text written into a buffer; `none` when it goes, with its terminator, beyond the end. -/
def grava (tamanho : ℕ) (texto : Str) : Option Str :=
  if texto.length + 1 ≤ tamanho then some texto else none

/-! ## The functions -/

/-- The formats that the driver calls `format_valor` with. -/
def mascaras : List String :=
  ["%3.3f", "%4.3f", "%6.2f", "%02.0f", "%11.2f", "%06.0f", "%1.0f", "%04.0f"]

/-- `format_valor(valor, fmt)`, with `aux[32]`. -/
def formatValorMem (fmt : String) (valor : Flutuante) : Option Str := do
  let (zero, width, prec) ← Str.formatoF fmt
  let aux ← grava 32 (sprintfFlutuante zero width prec valor)
  some (Driver.comVirgula aux)

/-- The return codes that `eval_retcode` has a text for. -/
def codigos : List ℤ :=
  [bematechCommErr, bematechOk, bematechExecFailure, bematechInvalidParam, bematechMissingAliq,
    bematechMissingIniFile, bematechSerialOpenErr, bematechUnpluggedEcf, bematechTxtWriteErr,
    bematechMissingFpgto, bematechNotOkStatus]

/-- `eval_retcode(retcode)`, with `code[6]`. -/
def evalRetcodeMem (retcode : ℤ) : Option (Bool × Str) :=
  if retcode ∈ codigos then some (evalRetcode retcode)
  else do
    let code ← grava 6 (sprintfD false 5 retcode)
    some (false, "Codigo de retorno nao identificado! (#".toList ++ code ++ ")".toList)

/-- `fs::random_name(base)`, with `aux[7]`. -/
def randomNameMem (strfry : Str → Str) (base : Str) (myPid : ℕ) : Option Str := do
  let aux ← grava 7 (sprintfD true 6 myPid)
  some (Str.cstr (base ++ strfry aux))

/-! ## Lengths -/

theorem length_campo (zero : Bool) (width : ℕ) (sinal num : Str) :
    (campo zero width sinal num).length = max width (sinal.length + num.length) := by
  unfold campo
  split_ifs <;> simp only [List.length_append, List.length_replicate] <;> omega

theorem isSome_grava {tamanho : ℕ} {texto : Str} :
    (grava tamanho texto).isSome ↔ texto.length < tamanho := by
  unfold grava
  split_ifs with h
  · exact iff_of_true rfl h
  · exact iff_of_false (by simp) h

namespace Flutuante

theorem modulo_nonneg (f : Flutuante) : 0 ≤ f.modulo :=
  mul_nonneg (Nat.cast_nonneg _) (zpow_nonneg (by norm_num) _)

/-- A number from `2 ^ 24` on is whole. -/
theorem inteiro_or_le (f : Flutuante) :
    (∃ n : ℕ, f.modulo = n) ∨ f.modulo ≤ (2 ^ 24 - 1 : ℕ) := by
  rcases le_or_gt 0 f.expoente with he | he
  · left
    obtain ⟨e, he⟩ := Int.eq_ofNat_of_zero_le he
    refine ⟨f.mantissa * 2 ^ e, ?_⟩
    rw [modulo, he, Nat.cast_mul, Nat.cast_pow]
    rfl
  · right
    have hpow : (2 : ℚ) ^ f.expoente ≤ 1 := zpow_le_one_of_nonpos₀ (by norm_num) he.le
    have hm : (f.mantissa : ℚ) ≤ (2 ^ 24 - 1 : ℕ) :=
      Nat.cast_le.2 (Nat.le_sub_one_of_lt f.mantissa_lt)
    calc f.modulo ≤ f.mantissa * 1 := mul_le_mul_of_nonneg_left hpow (Nat.cast_nonneg _)
      _ ≤ (2 ^ 24 - 1 : ℕ) := by rwa [mul_one]

/-- The rounded number below a power of ten that the number is below. -/
theorem toNat_roundEven_lt (f : Flutuante) (prec : ℕ) {k : ℕ} (hk : 8 ≤ k)
    (h : f.modulo < 10 ^ k) : (roundEven (f.modulo * 10 ^ prec)).toNat < 10 ^ (k + prec) := by
  have hpos : 0 < 10 ^ prec := pow_pos (by norm_num) _
  rw [pow_add]
  rcases f.inteiro_or_le with ⟨n, hn⟩ | hle
  · have hcast : f.modulo * 10 ^ prec = ((n * 10 ^ prec : ℕ) : ℤ) := by
      rw [hn]
      push_cast
      rfl
    have hn' : n < 10 ^ k := by
      rw [hn] at h
      exact_mod_cast h
    rw [hcast, roundEven_intCast, Int.toNat_natCast]
    exact Nat.mul_lt_mul_of_pos_right hn' hpos
  · have hle' : f.modulo * 10 ^ prec ≤ (((2 ^ 24 - 1) * 10 ^ prec : ℕ) : ℤ) := by
      have hmul := mul_le_mul_of_nonneg_right hle (pow_nonneg (by norm_num : (0 : ℚ) ≤ 10) prec)
      push_cast at hmul ⊢
      exact hmul
    have hround := Int.toNat_le_toNat (roundEven_le hle')
    rw [Int.toNat_natCast] at hround
    have h8 : 10 ^ 8 ≤ 10 ^ k := Nat.pow_le_pow_right (by norm_num) hk
    exact lt_of_le_of_lt hround (Nat.mul_lt_mul_of_pos_right (by omega) hpos)

/-- **The digits in front of the point** are as many as those of the number. -/
theorem roundEven_lt_iff (f : Flutuante) (prec : ℕ) {k : ℕ} (hk : 8 ≤ k) :
    (roundEven (f.modulo * 10 ^ prec)).toNat / 10 ^ prec < 10 ^ k ↔ f.modulo < 10 ^ k := by
  have hpos : 0 < 10 ^ prec := pow_pos (by norm_num) _
  rw [Nat.div_lt_iff_lt_mul hpos, ← pow_add]
  refine ⟨fun h => ?_, f.toNat_roundEven_lt prec hk⟩
  by_contra hge
  have hle : (((10 ^ (k + prec) : ℕ) : ℤ) : ℚ) ≤ f.modulo * 10 ^ prec := by
    have hmul := mul_le_mul_of_nonneg_right (not_lt.1 hge)
      (pow_nonneg (by norm_num : (0 : ℚ) ≤ 10) prec)
    rw [← pow_add] at hmul
    exact_mod_cast hmul
  have hround := le_roundEven hle
  omega

/-- The length of the text of a number. -/
theorem length_sprintf_lt_iff (f : Flutuante) (zero : Bool) {width prec : ℕ} (hw : width ≤ 31)
    (hp : prec ≤ 17) : (sprintfFlutuante zero width prec f).length < 32 ↔
      f.modulo < 10 ^ (31 - f.sinal.length - Str.ponto prec) := by
  have hsinal : f.sinal.length ≤ 1 := by
    unfold sinal
    split_ifs <;> decide
  have hponto : Str.ponto prec ≤ 18 := by
    unfold Str.ponto
    split_ifs <;> omega
  have hk : 8 ≤ 31 - f.sinal.length - Str.ponto prec := by omega
  have hdigits := Nat.length_toDigits_le_iff (b := 10)
    (n := (roundEven (f.modulo * 10 ^ prec)).toNat / 10 ^ prec) (by norm_num)
    (show 0 < 31 - f.sinal.length - Str.ponto prec by omega)
  rw [← roundEven_lt_iff f prec hk, ← hdigits, sprintfFlutuante, length_campo, Str.length_decimal]
  omega

end Flutuante

theorem isSome_formatValorMem {fmt : String} {zero : Bool} {width prec : ℕ} {valor : Flutuante}
    (hfmt : Str.formatoF fmt = some (zero, width, prec)) (hw : width ≤ 31) (hp : prec ≤ 17) :
    (formatValorMem fmt valor).isSome ↔
      valor.modulo < 10 ^ (31 - valor.sinal.length - Str.ponto prec) := by
  rw [← valor.length_sprintf_lt_iff zero hw hp, ← isSome_grava, formatValorMem, hfmt]
  simp only [Option.bind_eq_bind, Option.bind_some]
  cases grava 32 (sprintfFlutuante zero width prec valor) <;> simp

/-- The places of a format. -/
def casas (fmt : String) : ℕ := ((Str.formatoF fmt).map fun f => f.2.2).getD 0

theorem formatoF_mascaras : ∀ fmt ∈ mascaras, ∃ f, Str.formatoF fmt = some f ∧
    f.2.1 ≤ 31 ∧ f.2.2 ≤ 17 := by
  simp only [mascaras, List.forall_mem_cons]
  refine ⟨⟨_, rfl, ?_⟩, ⟨_, rfl, ?_⟩, ⟨_, rfl, ?_⟩, ⟨_, rfl, ?_⟩, ⟨_, rfl, ?_⟩, ⟨_, rfl, ?_⟩,
    ⟨_, rfl, ?_⟩, ⟨_, rfl, ?_⟩, by simp⟩ <;> decide

/-- A whole number is written with as many characters as it has digits, and a sign. -/
theorem length_sprintfD (zero : Bool) (width : ℕ) (n : ℤ) : (sprintfD zero width n).length =
    max width ((if n < 0 then 1 else 0) + (Nat.toDigits 10 n.natAbs).length) := by
  rw [sprintfD, length_campo]
  split_ifs <;> rfl

theorem isSome_evalRetcodeMem (retcode : ℤ) : (evalRetcodeMem retcode).isSome ↔
    retcode ∈ codigos ∨ -9999 ≤ retcode ∧ retcode ≤ 99999 := by
  unfold evalRetcodeMem
  split_ifs with h
  · exact iff_of_true rfl (.inl h)
  · have hcode : (grava 6 (sprintfD false 5 retcode)).isSome ↔
        -9999 ≤ retcode ∧ retcode ≤ 99999 := by
      have h4 := Nat.length_toDigits_le_iff (b := 10) (n := retcode.natAbs) (k := 4)
        (by norm_num) (by norm_num)
      have h5 := Nat.length_toDigits_le_iff (b := 10) (n := retcode.natAbs) (k := 5)
        (by norm_num) (by norm_num)
      rw [isSome_grava, length_sprintfD]
      split_ifs with hneg <;> omega
    rw [or_iff_right h, ← hcode]
    cases grava 6 (sprintfD false 5 retcode) <;> simp

theorem isSome_randomNameMem (strfry : Str → Str) (base : Str) (myPid : ℕ) :
    (randomNameMem strfry base myPid).isSome ↔ myPid < 10 ^ 6 := by
  have haux : (grava 7 (sprintfD true 6 myPid)).isSome ↔ myPid < 10 ^ 6 := by
    have h6 := Nat.length_toDigits_le_iff (b := 10) (n := myPid) (k := 6) (by norm_num)
      (by norm_num)
    rw [isSome_grava, length_sprintfD, if_neg (by omega), Int.natAbs_natCast, ← h6]
    omega
  rw [← haux, randomNameMem]
  cases grava 7 (sprintfD true 6 myPid) <;> simp

/-! ## What is written when it fits -/

theorem eq_of_grava {tamanho : ℕ} {texto aux : Str} (h : grava tamanho texto = some aux) :
    aux = texto := by
  unfold grava at h
  split_ifs at h
  exact (Option.some.inj h).symm

/-- A number other than the negative zero is written as its value. -/
theorem sprintfFlutuante_eq {f : Flutuante} (h : f.negativo = true → 0 < f.modulo) (zero : Bool)
    (width prec : ℕ) : sprintfFlutuante zero width prec f = sprintfF zero width prec f.valor := by
  have hsinal : f.sinal = if f.valor < 0 then ['-'] else [] := by
    unfold Flutuante.sinal Flutuante.valor
    cases hn : f.negativo with
    | false => simp [f.modulo_nonneg]
    | true => simp [h hn]
  have habs : |f.valor| = f.modulo := by
    unfold Flutuante.valor
    split_ifs
    · rw [abs_neg, abs_of_nonneg f.modulo_nonneg]
    · exact abs_of_nonneg f.modulo_nonneg
  rw [sprintfFlutuante, sprintfF, hsinal, habs]
  rfl

/-- **What `formatValor` does with the buffer**: it gives the text that fits, and is stopped by any
other. -/
theorem formatValorMem_eq {σ : Type} {fmt : String} {zero : Bool} {width prec : ℕ} {f : Flutuante}
    (hfmt : Str.formatoF fmt = some (zero, width, prec)) (h : f.negativo = true → 0 < f.modulo)
    (resto : Numeric ℚ) (s : σ) :
    exec (Driver.formatValor (.exato resto) f.valor fmt : Exec Excp σ Str) s =
      ((formatValorMem fmt f).elim (.error .overrun) .ok, s) := by
  have hmem : formatValorMem fmt f =
      (grava Driver.tamAux (sprintfF zero width prec f.valor)).map Driver.comVirgula := by
    rw [formatValorMem, hfmt]
    simp only [Option.bind_eq_bind, Option.bind_some, sprintfFlutuante_eq h]
    exact Option.map_eq_bind.symm
  rw [exec_formatValor_exato hfmt, hmem, grava]
  by_cases hlen : (sprintfF zero width prec f.valor).length < Driver.tamAux
  · rw [if_pos hlen, if_pos (Nat.succ_le_of_lt hlen)]
    rfl
  · rw [if_neg hlen, if_neg (by omega)]
    rfl

/-- A whole number of the type `int` has room in the buffer. -/
theorem formatInteiro_exato {σ : Type} {fmt : String} (hfmt : fmt ∈ mascaras) {i : ℤ}
    (hi : |i| ≤ 2 ^ 31) (resto : Numeric ℚ) :
    (Driver.formatInteiro (.exato resto) i fmt : Exec Excp σ Str) =
      Driver.formatValor (.exato resto) ((Numeric.exato resto).ofInt i) fmt := by
  obtain ⟨⟨zero, width, prec⟩, hf, hw, hp⟩ := formatoF_mascaras fmt hfmt
  refine Driver.formatInteiro_eq ?_
  have hval : |roundBits 24 (i : ℚ)| ≤ ((10 ^ 11 : ℕ) : ℚ) := by
    have hround := abs_roundBits_le (p := 24) (by norm_num) (i : ℚ)
    have hcast : |(i : ℚ)| ≤ 2 ^ 31 := by exact_mod_cast hi
    norm_num at hcast ⊢
    linarith
  rw [Driver.transborda, sprintf_exato resto _ hf, Option.any_some]
  exact decide_eq_false (not_le.2 (length_sprintfF_lt hw hp hval))

theorem sprintfD_false (width : ℕ) (n : ℤ) : sprintfD false width n =
    List.replicate (width - (Str.intoString n).length) ' ' ++ Str.intoString n := by
  unfold sprintfD campo
  by_cases hn : n < 0
  · have habs : (-n).toNat = n.natAbs := by omega
    rw [Str.intoString_of_neg hn, habs, if_pos hn, List.length_cons, Nat.add_comm]
    exact List.append_assoc _ _ _
  · obtain ⟨k, rfl⟩ := Int.eq_ofNat_of_zero_le (not_lt.1 hn)
    rw [Str.intoString_natCast, if_neg hn, Int.natAbs_natCast,
      List.length_nil, Nat.zero_add]
    exact congrArg (· ++ Nat.toDigits 10 k) (List.append_nil _)

/-- A message that fits is that of `evalRetcode`. -/
theorem evalRetcodeMem_eq {retcode : ℤ} {r : Bool × Str} (h : evalRetcodeMem retcode = some r) :
    evalRetcode retcode = r := by
  unfold evalRetcodeMem at h
  split_ifs at h with hcod
  · exact Option.some.inj h
  · obtain ⟨code, hcode, h⟩ := Option.bind_eq_some_iff.1 h
    obtain rfl := eq_of_grava hcode
    simp only [codigos, List.mem_cons, List.not_mem_nil, or_false, not_or] at hcod
    obtain ⟨h₁, h₂, h₃, h₄, h₅, h₆, h₇, h₈, h₉, h₁₀, h₁₁⟩ := hcod
    rw [← Option.some.inj h, evalRetcode, if_neg h₁, if_neg h₂, if_neg h₃, if_neg h₄, if_neg h₅,
      if_neg h₆, if_neg h₇, if_neg h₈, if_neg h₉, if_neg h₁₀, if_neg h₁₁, sprintfD_false]
    simp only [List.append_assoc]

/-- **Which numbers fit into the buffers**: amounts below a power of ten that leaves room for the
sign and the places, return codes with a text or with five characters at most, process ids with six
digits. -/
theorem espacos_iff (fmt : String) (hfmt : fmt ∈ mascaras) (valor : Flutuante) (retcode : ℤ)
    (strfry : Str → Str) (base : Str) (myPid : ℕ) :
    ((formatValorMem fmt valor).isSome ↔
      valor.modulo < 10 ^ (31 - valor.sinal.length - Str.ponto (casas fmt))) ∧
    ((evalRetcodeMem retcode).isSome ↔
      retcode ∈ codigos ∨ -9999 ≤ retcode ∧ retcode ≤ 99999) ∧
    ((randomNameMem strfry base myPid).isSome ↔ myPid < 10 ^ 6) := by
  refine ⟨?_, isSome_evalRetcodeMem retcode, isSome_randomNameMem strfry base myPid⟩
  obtain ⟨⟨zero, width, prec⟩, hf, hw, hp⟩ := formatoF_mascaras fmt hfmt
  have hcasas : casas fmt = prec := by rw [casas, hf]; rfl
  rw [hcasas, isSome_formatValorMem hf hw hp]

/-- One. -/
def Flutuante.um : Flutuante := ⟨false, 1, 0, by norm_num, by norm_num⟩

theorem espacos_um : "%11.2f" ∈ mascaras ∧
    ((formatValorMem "%11.2f" .um).isSome ↔
      Flutuante.um.modulo < 10 ^ (31 - Flutuante.um.sinal.length - Str.ponto (casas "%11.2f"))) ∧
    ((evalRetcodeMem 77).isSome ↔ 77 ∈ codigos ∨ -9999 ≤ (77 : ℤ) ∧ (77 : ℤ) ≤ 99999) ∧
    ((randomNameMem id "x".toList 1).isSome ↔ 1 < 10 ^ 6) :=
  ⟨by decide, espacos_iff "%11.2f" (by decide) .um 77 id "x".toList 1⟩

/-- `2 ^ 100`. -/
def Flutuante.grande : Flutuante := ⟨false, 1, 100, by norm_num, by norm_num⟩

/-- An amount with 31 digits in front of the point, a return code with six digits and a process id
with seven do not fit. -/
theorem espacos_pequenos :
    (¬ ∀ fmt ∈ mascaras, ∀ valor : Flutuante, (formatValorMem fmt valor).isSome) ∧
    (¬ ∀ retcode : ℤ, -2 ^ 31 ≤ retcode ∧ retcode < 2 ^ 31 → (evalRetcodeMem retcode).isSome) ∧
    ¬ ∀ myPid ≤ 2 ^ 22, (randomNameMem id [] myPid).isSome := by
  refine ⟨fun h => ?_, fun h => ?_, fun h => ?_⟩
  · have hfit := (isSome_formatValorMem formato_valor (by norm_num) (by norm_num)).1
      (h "%11.2f" (by decide) .grande)
    norm_num [Flutuante.modulo, Flutuante.grande, Flutuante.sinal, Str.ponto] at hfit
  · have hfit := (isSome_evalRetcodeMem 100000).1 (h 100000 (by norm_num))
    revert hfit
    decide
  · have hfit := (isSome_randomNameMem id [] (2 ^ 22)).1 (h (2 ^ 22) le_rfl)
    norm_num at hfit

end Spooler
