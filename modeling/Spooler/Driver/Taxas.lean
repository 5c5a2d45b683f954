import Spooler.Driver.Aliquota
import Spooler.Driver.Centavos

/-!
# Rates in hundredths

A rate of `k` hundredths is written `DD.DD` for `atof` and by `strfmon`, and `DDDD` for the device
and in the text form `T:00:1700` of an aliquota. `Numeric.Centesimos` is what the code relies on of
the two functions and of the range check; numbers of type `float` have it (`centesimos_comTaxas`).
**What `get_serialized` writes, `set` reads back, and what `set` reads of the canonical form,
`get_serialized` writes**, `texto_fiel`.
-/

namespace Spooler

open Foundations

/-! ## The texts of a rate -/

/-- `k` hundredths with a point. -/
def textoTaxa (k : ℕ) : Str := Str.zeroPad 2 (k / 100) ++ '.' :: Str.zeroPad 2 (k % 100)

/-- The number `taxa k` stands for `k` hundredths: `atof` reads it, `strfmon` writes it with two
digits on each side of the point, with blanks around, and it is within the range of a rate. -/
structure Numeric.Centesimos {F : Type} (n : Numeric F) (taxa : ℕ → F) : Prop where
  atof : ∀ k < 10000, n.atof (textoTaxa k) = taxa k
  strfmon : ∀ k < 10000, ∃ a b, n.strfmon "%!=0-#2.2i" (taxa k) =
    some (List.replicate a ' ' ++ textoTaxa k ++ List.replicate b ' ')
  faixa : ∀ k < 10000, n.pcentOutOfRange (taxa k) = false

section Textos

variable {k : ℕ}

theorem length_doisDigitos (hk : k < 10000) :
    (Str.zeroPad 2 (k / 100)).length = 2 ∧ (Str.zeroPad 2 (k % 100)).length = 2 :=
  ⟨Str.length_zeroPad (by decide) (by omega), Str.length_zeroPad (by decide) (by omega)⟩

/-- A point behind two of the four digits. -/
theorem ponto_zeroPad_four (hk : k < 10000) :
    (Str.zeroPad 4 k).take 2 ++ '.' :: (Str.zeroPad 4 k).drop 2 = textoTaxa k := by
  obtain ⟨h₁, -⟩ := length_doisDigitos hk
  rw [Str.zeroPad_four hk, List.take_left' h₁, List.drop_left' h₁, textoTaxa]

theorem notMem_zeroPad {c : Char} (hc : c.isDigit = false) (w n : ℕ) : c ∉ Str.zeroPad w n := by
  intro h
  cases hc.symm.trans (Str.isDigit_of_mem_zeroPad h)

theorem isSpace_of_mem_textoTaxa {c : Char} (h : c ∈ textoTaxa k) : Str.isSpace c = false := by
  rcases List.mem_append.1 h with h | h
  · exact Str.isSpace_of_isDigit (Str.isDigit_of_mem_zeroPad h)
  · rcases List.mem_cons.1 h with rfl | h
    · rfl
    · exact Str.isSpace_of_isDigit (Str.isDigit_of_mem_zeroPad h)

end Textos

/-! ## Numbers of type `float` -/

/-- `strfmon` with the format `%!=0-#2.2i`: two digits at least in front of the point, filled up
with zeros, and a place for the sign. -/
def strfmonF (v : ℚ) : Str :=
  let t := (roundEven (|v| * 100)).toNat
  (if v < 0 then '-' else ' ') :: textoTaxa t

/-- The conversions of rates: the range is compared as a `double`. -/
def Numeric.comTaxas (resto : Numeric ℚ) : Numeric ℚ :=
  { Numeric.exato resto with
    strfmon := fun fmt v => if fmt = "%!=0-#2.2i" then some (strfmonF v) else resto.strfmon fmt v
    pcentOutOfRange := fun v => v < 0 || roundBits 53 (9999 / 100) < v }

/-- Other conversions, which rates do not use. -/
def Numeric.simples : Numeric ℚ where
  ofInt := fun n => n
  atof := Str.atofExato
  sprintf _ _ := none
  strfmon _ _ := none
  intoString v := Str.intoString ⌊v⌋
  isPositive v := 0 < v
  pcentOutOfRange v := v < 0 || 9999 / 100 < v

def Numeric.float : Numeric ℚ := .comTaxas .simples

/-- The number of type `float` for `k` hundredths. -/
def taxaFloat (k : ℕ) : ℚ := emFloat (k / 100)

theorem roundEven_taxaFloat {k : ℕ} (hk : k < 10000) : roundEven (taxaFloat k * 100) = k := by
  rcases Nat.eq_zero_or_pos k with rfl | hpos
  · simp [taxaFloat, emFloat, roundBits, roundEven]
  · exact roundEven_mul_of_near rfl (abs_sub_emFloat_lt hpos (by omega))

theorem taxaFloat_nonneg (k : ℕ) : 0 ≤ taxaFloat k := emFloat_nonneg (by positivity)

/-- The largest rate is rounded down, and more so as a `float` than as a `double`. -/
theorem taxaFloat_le {k : ℕ} (hk : k < 10000) : taxaFloat k ≤ roundBits 53 (9999 / 100) := by
  have hdouble : (9999 / 100 : ℚ) - 1 / 2 ^ 47 ≤ roundBits 53 (9999 / 100) := by
    have hd := abs_sub_roundBits_le 53 (9999 / 100 : ℚ)
    rw [ulp_of_mem 53 (e := 6) (by norm_num) (by norm_num), abs_le] at hd
    have hd := hd.2
    norm_num at hd ⊢
    linarith
  by_cases hmax : k = 9999
  · obtain ⟨j, hj, hnear⟩ := exists_emFloat_eq (x := 9999 / 100) (e := 6) (by norm_num)
      (by norm_num)
    rw [abs_le] at hnear
    have hj' : j < 13105890 := by
      have hlow := hnear.1
      norm_num at hlow
      have hlt : (j : ℚ) < (13105890 : ℤ) := by
        push_cast
        linarith
      exact Int.cast_lt.1 hlt
    have hjq : (j : ℚ) ≤ 13105889 := by exact_mod_cast Int.le_of_lt_add_one hj'
    have heq : taxaFloat k = j * 2 ^ ((6 : ℤ) - 23) := by rw [hmax, taxaFloat, ← hj, Nat.cast_ofNat]
    rw [heq]
    norm_num at hdouble ⊢
    linarith
  · rcases Nat.eq_zero_or_pos k with rfl | hpos
    · simpa [taxaFloat, emFloat, roundBits, roundEven] using
        roundBits_nonneg 53 (by norm_num : (0 : ℚ) ≤ 9999 / 100)
    · have hnear := abs_sub_emFloat_lt hpos (by omega)
      have hk' : (k : ℚ) ≤ 9998 := by exact_mod_cast (by omega : k ≤ 9998)
      rw [abs_lt] at hnear
      rw [taxaFloat]
      norm_num at hdouble
      linarith [hnear.1]

theorem atofExato_textoTaxa {k : ℕ} (hk : k < 10000) : Str.atofExato (textoTaxa k) = k / 100 := by
  have hval : (k : ℚ) = 100 * (k / 100 : ℕ) + (k % 100 : ℕ) := by
    exact_mod_cast (Nat.div_add_mod k 100).symm
  rw [textoTaxa, Str.atofExato_of_isDigit (fun _ hc => Str.isDigit_of_mem_zeroPad hc)
    fun _ hc => Str.isDigit_of_mem_zeroPad hc]
  rw [Str.ofDigitChars_zeroPad, Str.ofDigitChars_zeroPad, (length_doisDigitos hk).2, hval]
  norm_num
  ring

/-- **Numbers of type `float` stand for hundredths.** -/
theorem centesimos_comTaxas (resto : Numeric ℚ) :
    (Numeric.comTaxas resto).Centesimos taxaFloat where
  atof k hk := congrArg emFloat (atofExato_textoTaxa hk)
  strfmon k hk := by
    refine ⟨1, 0, congrArg some ?_⟩
    have hval : (roundEven (|taxaFloat k| * 100)).toNat = k := by
      rw [abs_of_nonneg (taxaFloat_nonneg k), roundEven_taxaFloat hk, Int.toNat_natCast]
    rw [strfmonF, hval, if_neg (not_lt.2 (taxaFloat_nonneg k)), List.replicate_zero,
      List.append_nil]
    rfl
  faixa k hk := by
    have hneg := not_lt.2 (taxaFloat_nonneg k)
    have hmax := not_lt.2 (taxaFloat_le hk)
    simp [Numeric.comTaxas, hneg, hmax]

theorem centesimos_float : Numeric.float.Centesimos taxaFloat := centesimos_comTaxas _

/-- Different rates are different numbers. -/
theorem taxaFloat_inj {j k : ℕ} (hj : j < 10000) (hk : k < 10000) :
    taxaFloat j = taxaFloat k ↔ j = k := by
  constructor
  · intro h
    have hround := roundEven_taxaFloat hj
    rw [h, roundEven_taxaFloat hk] at hround
    exact_mod_cast hround.symm
  · rintro rfl
    rfl

namespace Aliquota

variable {F : Type} {n : Numeric F} {taxa : ℕ → F}

/-! ## Writing -/

/-- The text form of an aliquota: `%c:%02d:%s`. -/
def serializado (tipo : Char) (cst k : ℕ) : Str :=
  tipo :: ':' :: (Str.zeroPad 2 cst ++ ':' :: Str.zeroPad 4 k)

theorem getRaw_taxa (h : n.Centesimos taxa) {k : ℕ} (hk : k < 10000) (tipo : Char) (cst : ℕ) :
    getRaw n ⟨tipo, cst, taxa k⟩ = .ok (textoTaxa k) := by
  obtain ⟨a, b, hbuff⟩ := h.strfmon k hk
  have hblank : ∀ i, (List.replicate i ' ').filter (fun c => !Str.isSpace c) = [] := by
    intro i
    rw [List.filter_eq_nil_iff]
    intro c hc
    rw [List.eq_of_mem_replicate hc]
    decide
  have htext : (textoTaxa k).filter (fun c => !Str.isSpace c) = textoTaxa k := by
    rw [List.filter_eq_self]
    intro c hc
    rw [isSpace_of_mem_textoTaxa hc]
    rfl
  rw [getRaw, hbuff]
  simp only [List.filter_append, hblank, htext, List.nil_append, List.append_nil]

/-- The four digits handed to the device. -/
theorem getRawNumbers_taxa (h : n.Centesimos taxa) {k : ℕ} (hk : k < 10000) (tipo : Char)
    (cst : ℕ) : getRawNumbers n ⟨tipo, cst, taxa k⟩ = .ok (Str.zeroPad 4 k) := by
  obtain ⟨h₁, -⟩ := length_doisDigitos hk
  have hpos : Str.find ['.'] (textoTaxa k) = some 2 := by
    rw [textoTaxa, Str.find_singleton_append (notMem_zeroPad rfl _ _), h₁]
  have hlen : (textoTaxa k).length = 5 := by
    rw [textoTaxa, List.length_append, List.length_cons, h₁, (length_doisDigitos hk).2]
  have htake : (textoTaxa k).take 2 = Str.zeroPad 2 (k / 100) := List.take_left' h₁
  have hdrop : (textoTaxa k).drop 3 = Str.zeroPad 2 (k % 100) := by
    rw [textoTaxa, List.drop_append, h₁, List.drop_of_length_le (by omega)]
    rfl
  have hfrac := Str.substrFrom_ok (show 2 + 1 ≤ (textoTaxa k).length by omega)
  rw [getRawNumbers, getRaw_taxa h hk]
  simp only [bind, Except.bind, pure, Except.pure, hpos, Str.substr_ok (Nat.zero_le _), hfrac,
    List.drop_zero, htake, hdrop]
  rw [Str.zeroPad_four hk]

theorem getSerialized_taxa (h : n.Centesimos taxa) {k : ℕ} (hk : k < 10000) (tipo : Char)
    (cst : ℕ) : getSerialized n ⟨tipo, cst, taxa k⟩ = .ok (serializado tipo cst k) := by
  rw [getSerialized, getRawNumbers_taxa h hk]
  simp only [bind, Except.bind, pure, Except.pure, ← Str.zeroPad_two]
  rfl

/-! ## Reading -/

/-- The pieces of a text between its separators: what stands in front of the first one, the CST
and the percentage. -/
structure Partes (str : Str) (tipo : Char) (cst pcent : Str) : Prop where
  texto : ∃ pre, str = pre ++ tipo :: ':' :: (cst ++ ':' :: pcent) ∧ ':' ∉ pre
  tipo : tipo ≠ ':'
  pcent : ':' ∉ pcent ∧ 2 ≤ pcent.length

/-- The values that the pieces stand for. -/
def cstLido (cst : Str) : ℕ := (Str.atoi cst % 65536).toNat

/-- What `set` cuts out of a text in pieces. -/
theorem Partes.cortes {str : Str} {tipo : Char} {cst pcent : Str} (h : Partes str tipo cst pcent) :
    ∃ sep1 sep2, Str.find [':'] str = some sep1 ∧ Str.rfind [':'] str = some sep2 ∧
      sep1 ≠ sep2 ∧ sep1 ≠ 0 ∧ Str.at' str (sep1 - 1) = .ok tipo ∧
      Str.substr str (sep1 + 1) (sep2 - sep1 - 1) = .ok cst ∧
      Str.substr str (sep2 + 1) 2 = .ok (pcent.take 2) ∧
      Str.substrFrom str (sep2 + 3) = .ok (pcent.drop 2) := by
  obtain ⟨⟨pre, hstr, hpre⟩, htipo, hpcent, hlen⟩ := h
  have hpre' : ':' ∉ pre ++ [tipo] := by
    rw [List.mem_append, List.mem_singleton, not_or]
    exact ⟨hpre, htipo.symm⟩
  have heq : str = (pre ++ [tipo]) ++ ':' :: (cst ++ ':' :: pcent) := by simp [hstr]
  have heq' : str = (pre ++ tipo :: ':' :: cst) ++ ':' :: pcent := by simp [hstr]
  have h₁ := Str.find_singleton_append hpre' (cst ++ ':' :: pcent)
  have h₂ := Str.rfind_singleton_append hpcent (pre ++ tipo :: ':' :: cst)
  have hsize : str.length = pre.length + (cst.length + (pcent.length + 3)) := by
    simp only [hstr, List.length_append, List.length_cons]
    omega
  have hcst : str.drop (pre.length + 1 + 1) = cst ++ ':' :: pcent := by
    have hdrop := Str.drop_append_cons (pre ++ [tipo]) ':' (cst ++ ':' :: pcent)
    rwa [← heq, List.length_append, List.length_singleton] at hdrop
  have hpct : str.drop (pre.length + (cst.length + 1 + 1) + 1) = pcent := by
    have hdrop := Str.drop_append_cons (pre ++ tipo :: ':' :: cst) ':' pcent
    rwa [← heq', List.length_append, List.length_cons, List.length_cons] at hdrop
  rw [← heq, List.length_append, List.length_singleton] at h₁
  rw [← heq', List.length_append, List.length_cons, List.length_cons] at h₂
  refine ⟨_, _, h₁, h₂, by omega, by omega, ?_, ?_, ?_, ?_⟩
  · rw [hstr, Str.at', Nat.add_sub_cancel, List.getElem?_append_right le_rfl, Nat.sub_self,
      List.getElem?_cons_zero]
  · rw [Str.substr_ok (by omega), hcst, List.take_left' (by omega)]
  · rw [Str.substr_ok (by omega), hpct]
  · rw [Str.substrFrom_ok (by omega),
      ← List.drop_drop (i := 2) (j := pre.length + (cst.length + 1 + 1) + 1), hpct]

/-- A text in pieces is read. -/
theorem setStr_of_partes (n : Numeric F) {str : Str} {tipo : Char} {cst pcent : Str}
    (h : Partes str tipo cst pcent) : setStr n str =
      set n tipo (cstLido cst) (n.atof (pcent.take 2 ++ '.' :: pcent.drop 2)) := by
  obtain ⟨sep1, sep2, h₁, h₂, hne, hpos, hat, hcst, hint, hfrac⟩ := h.cortes
  simp only [setStr, h₁, h₂, if_neg hne, if_neg hpos, hat, hcst, hint, hfrac]
  rfl

/-- The types of aliquota. -/
def tipos : List Char := [tributadoIss, tributadoIcms, substTributaria, naoIncidente, isento]

theorem notMem_tipos {tipo : Char} : tipo ∉ tipos ↔ tipo ≠ tributadoIss ∧
    tipo ≠ tributadoIcms ∧ tipo ≠ substTributaria ∧ tipo ≠ naoIncidente ∧ tipo ≠ isento := by
  simp [tipos]

theorem set_of_mem {tipo : Char} (ht : tipo ∈ tipos) (cst : ℕ) {pcent : F}
    (hp : n.pcentOutOfRange pcent = false) : set n tipo cst pcent = .ok ⟨tipo, cst, pcent⟩ := by
  rw [set, if_neg fun h => notMem_tipos.2 h ht, hp]
  rfl

theorem partes_serializado {tipo : Char} (ht : tipo ∈ tipos) (cst : ℕ) {k : ℕ} (hk : k < 10000) :
    Partes (serializado tipo cst k) tipo (Str.zeroPad 2 cst) (Str.zeroPad 4 k) where
  texto := ⟨[], rfl, nofun⟩
  tipo := by
    rintro rfl
    simp [tipos, tributadoIss, tributadoIcms, substTributaria, naoIncidente, isento] at ht
  pcent := ⟨notMem_zeroPad rfl _ _, by rw [Str.length_zeroPad (by decide) hk]; decide⟩

/-- The text form of an aliquota is read as the aliquota, its CST cut to 16 bits. -/
theorem setStr_serializado (h : n.Centesimos taxa) {tipo : Char} (ht : tipo ∈ tipos) {cst : ℕ}
    (hcst : cst < 2147483648) {k : ℕ} (hk : k < 10000) :
    setStr n (serializado tipo cst k) = .ok ⟨tipo, cst % 65536, taxa k⟩ := by
  have hlido : cstLido (Str.zeroPad 2 cst) = cst % 65536 := by
    rw [cstLido, Str.atoi_zeroPad 2 hcst]
    omega
  rw [setStr_of_partes n (partes_serializado ht cst hk), ponto_zeroPad_four hk, h.atof k hk, hlido,
    set_of_mem ht _ (h.faixa k hk)]

/-! ## There and back -/

/-- The canonical form `X:CC:DDDD`: one of the five types, a CST of at least two digits, without a
zero in front of two others, and four digits. -/
structure Canonico (str : Str) (tipo : Char) (cc dddd : Str) : Prop where
  texto : str = tipo :: ':' :: (cc ++ ':' :: dddd)
  tipo : tipo ∈ tipos
  cst : (∀ c ∈ cc, c.isDigit = true) ∧ 2 ≤ cc.length ∧ (cc.length = 2 ∨ cc.head? ≠ some '0')
  pcent : (∀ c ∈ dddd, c.isDigit = true) ∧ dddd.length = 4

theorem Canonico.eq_serializado {str : Str} {tipo : Char} {cc dddd : Str}
    (h : Canonico str tipo cc dddd) : ∃ k < 10000,
      str = serializado tipo (Nat.ofDigitChars 10 cc 0) k ∧
        (Str.atoi cc < 65536 → Nat.ofDigitChars 10 cc 0 < 65536) := by
  obtain ⟨hcc, hdois, hzero⟩ := h.cst
  obtain ⟨hdig, hquatro⟩ := h.pcent
  have hk : Nat.ofDigitChars 10 dddd 0 < 10000 := by
    have hlt := Str.ofDigitChars_lt hdig
    rwa [hquatro] at hlt
  have hc := Str.zeroPad_ofDigitChars hcc (by decide) hdois hzero
  have hd := Str.zeroPad_ofDigitChars hdig (by decide) hquatro.ge (.inl hquatro)
  refine ⟨_, hk, ?_, ?_⟩
  · rw [h.texto, serializado, hc, hd]
  · intro hlt
    rw [← hc] at hlt
    exact Str.atoi_zeroPad_lt (by decide) hlt

/-- **The text form is faithful** to every aliquota whose rate is a number of hundredths, and the
aliquota to every canonical text whose CST fits its type. -/
theorem texto_fiel (h : n.Centesimos taxa) :
    (∀ a : Aliquota F, a.tipo ∈ tipos → a.cst < 65536 → (∃ k < 10000, a.aliq = taxa k) →
      ∃ str, getSerialized n a = .ok str ∧ setStr n str = .ok a) ∧
    ∀ str tipo cc dddd, Canonico str tipo cc dddd → Str.atoi cc < 65536 →
      ∃ a, setStr n str = .ok a ∧ getSerialized n a = .ok str := by
  constructor
  · rintro ⟨tipo, cst, aliq⟩ ht hcst ⟨k, hk, rfl⟩
    refine ⟨_, getSerialized_taxa h hk tipo cst, ?_⟩
    rw [setStr_serializado h ht (hcst.trans (by decide)) hk, Nat.mod_eq_of_lt hcst]
  · intro str tipo cc dddd hcan hcc
    obtain ⟨k, hk, rfl, hval⟩ := hcan.eq_serializado
    have hcst := hval hcc
    refine ⟨_, setStr_serializado h hcan.tipo (hcst.trans (by decide)) hk, ?_⟩
    rw [Nat.mod_eq_of_lt hcst]
    exact getSerialized_taxa h hk tipo _

/-- Reading a CST of 17 bits cuts it. -/
theorem texto_infiel : Canonico "T:65536:0700".toList 'T' "65536".toList "0700".toList ∧
    ¬ ∃ a, setStr Numeric.float "T:65536:0700".toList = .ok a ∧
      getSerialized Numeric.float a = .ok "T:65536:0700".toList := by
  have hcan : Canonico "T:65536:0700".toList 'T' "65536".toList "0700".toList :=
    ⟨by decide, by decide, ⟨List.all_eq_true.1 (by decide), by decide⟩,
      ⟨List.all_eq_true.1 (by decide), by decide⟩⟩
  refine ⟨hcan, ?_⟩
  rintro ⟨a, hset, hget⟩
  have hread := setStr_serializado centesimos_float (show 'T' ∈ tipos by decide)
    (show 65536 < 2147483648 by decide) (k := 700) (by decide)
  have hwrite := getSerialized_taxa centesimos_float (k := 700) (by decide) 'T' (65536 % 65536)
  have htexto : serializado 'T' 65536 700 = "T:65536:0700".toList := by decide
  rw [htexto, hset, Except.ok.injEq] at hread
  rw [hread, hwrite, Except.ok.injEq] at hget
  exact absurd hget (by decide)

/-- One of each. -/
theorem texto_fiel_exemplo :
    (∃ str, getSerialized Numeric.float ⟨'S', 41, taxaFloat 905⟩ = .ok str ∧
      setStr Numeric.float str = .ok ⟨'S', 41, taxaFloat 905⟩) ∧
    ∃ a, setStr Numeric.float "F:60:1700".toList = .ok a ∧
      getSerialized Numeric.float a = .ok "F:60:1700".toList := by
  have h := texto_fiel centesimos_float
  refine ⟨h.1 ⟨'S', 41, taxaFloat 905⟩ (by decide) (by decide) ⟨905, by decide, rfl⟩, ?_⟩
  refine h.2 _ 'F' "60".toList "1700".toList ⟨by decide, by decide, ?_, ?_⟩ (by decide)
  · exact ⟨List.all_eq_true.1 (by decide), by decide⟩
  · exact ⟨List.all_eq_true.1 (by decide), by decide⟩

end Aliquota

end Spooler
