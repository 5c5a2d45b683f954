import Spooler.Packet.Excp
import Spooler.Text.Numbers
import Mathlib.Data.List.AList

/-!
# Numbers and tax rates

The floating point numbers of the spooler, which are abstract (`Numeric`: the conversions and
comparisons the code uses), and `aliq_trib::aliquota` with its text form `T:00:1700`.
-/

namespace Spooler

/-! ## Floating point numbers -/

/-- What the code does with floating point numbers. -/
structure Numeric (F : Type) where
  /-- `static_cast<float>` of a whole number. -/
  ofInt : Int → F
  atof : Str → F
  /-- `sprintf(aux, fmt, valor)`; `none` is a negative return. -/
  sprintf : String → F → Option Str
  /-- `strfmon(buffer, …, fmt, valor)`; `none` is `-1`. -/
  strfmon : String → F → Option Str
  /-- `into_string(valor)`. -/
  intoString : F → Str
  /-- `valor > 0`. -/
  isPositive : F → Bool
  /-- `(pcent < 0.0) || (pcent > 99.99)`. -/
  pcentOutOfRange : F → Bool

/-- Whole numbers in place of floating point numbers: enough for runs on fixed inputs. -/
def Numeric.inteiros : Numeric Int where
  ofInt := id
  atof := Str.numeral
  sprintf _ v := some (Str.intoString v)
  strfmon _ v := some (Str.intoString v)
  intoString := Str.intoString
  isPositive v := 0 < v
  pcentOutOfRange v := v < 0 || 99 < v

/-- Whole numbers, and the format `%02.0f` for those from 0 to 99. -/
def Numeric.doisDigitos : Numeric Int :=
  { Numeric.inteiros with
    sprintf fmt v :=
      some (if fmt = "%02.0f" ∧ 0 ≤ v ∧ v < 10 then '0' :: Str.intoString v
        else Str.intoString v) }

/-! ## Rates -/

/-- `aliq_trib::aliquota`. -/
structure Aliquota (F : Type) where
  tipo : Char
  cst : Nat
  aliq : F
  deriving DecidableEq

namespace Aliquota

variable {F : Type}

def tributadoIss : Char := 'S'
def tributadoIcms : Char := 'T'
def substTributaria : Char := 'F'
def naoIncidente : Char := 'N'
def isento : Char := 'I'

def msgUnknownType : Str := "Tipo de aliquota nao reconhecido.".toList
def msgPcentOutRange : Str := "Percentual fora da faixa.".toList
def msgMalformedAliq : Str := "Aliquota formatada incorretamente.".toList
def msgAliqFmtErr : Str := "Erro ao formatar aliquota.".toList

/-- The default constructor. -/
def padrao (n : Numeric F) : Aliquota F := ⟨tributadoIcms, 0, n.ofInt 0⟩

/-- `set(tipo, cst, pcent)`. -/
def set (n : Numeric F) (tipo : Char) (cst : Nat) (pcent : F) : Except Excp (Aliquota F) :=
  if tipo ≠ tributadoIss ∧ tipo ≠ tributadoIcms ∧ tipo ≠ substTributaria ∧
      tipo ≠ naoIncidente ∧ tipo ≠ isento then
    .error (.spooler .aliquotaExp msgUnknownType)
  else if n.pcentOutOfRange pcent then .error (.spooler .aliquotaExp msgPcentOutRange)
  else .ok ⟨tipo, cst, pcent⟩

/-- `set(str)`, for a text `T:00:1700`. -/
def setStr (n : Numeric F) (str : Str) : Except Excp (Aliquota F) :=
  match Str.find [':'] str, Str.rfind [':'] str with
  | some sep1, some sep2 =>
    if sep1 = sep2 then .error (.spooler .aliquotaExp msgMalformedAliq)
    else do
      -- in front of a separator at the start lies `npos`
      let tipo ← if sep1 = 0 then .error .outOfRange else Str.at' str (sep1 - 1)
      let cst ← Str.substr str (sep1 + 1) (sep2 - sep1 - 1)
      let pcent₀ ← Str.substr str (sep2 + 1) 2
      let pcent₁ ← Str.substrFrom str (sep2 + 3)
      set n tipo (Str.atoi cst % 65536).toNat (n.atof (pcent₀ ++ '.' :: pcent₁))
  | _, _ => .error (.spooler .aliquotaExp msgMalformedAliq)

/-- `get_raw()`: the percentage, blanks aside. -/
def getRaw (n : Numeric F) (a : Aliquota F) : Except Excp Str :=
  match n.strfmon "%!=0-#2.2i" a.aliq with
  | none => .error (.spooler .aliquotaExp msgAliqFmtErr)
  | some buff => .ok (buff.filter fun c => !Str.isSpace c)

/-- `get_raw_numbers()`: the percentage without its point. -/
def getRawNumbers (n : Numeric F) (a : Aliquota F) : Except Excp Str := do
  let obj ← getRaw n a
  match Str.find ['.'] obj with
  | none => pure obj
  | some pos => do
    let final₀ ← Str.substr obj 0 pos
    let final₁ ← Str.substrFrom obj (pos + 1)
    pure (final₀ ++ final₁)

/-- `get_serialized()`. -/
def getSerialized (n : Numeric F) (a : Aliquota F) : Except Excp Str := do
  let raw ← getRawNumbers n a
  let cst := (if a.cst < 10 then ['0'] else []) ++ Str.intoString a.cst
  pure (a.tipo :: ':' :: (cst ++ ':' :: raw))

/-! ## Texts that are cut short -/

/-- The text has more than one separator, but nothing in front of the first one, or fewer than two
characters behind the last one. -/
def malCortada (str : Str) : Bool :=
  match Str.find [':'] str, Str.rfind [':'] str with
  | some sep1, some sep2 => decide (sep1 ≠ sep2 ∧ (sep1 = 0 ∨ str.length < sep2 + 3))
  | _, _ => false

theorem aliquotaExp_of_set {n : Numeric F} {tipo : Char} {cst : Nat} {pcent : F} {e : Excp}
    (h : set n tipo cst pcent = .error e) : ∃ msg, e = .spooler .aliquotaExp msg := by
  unfold set at h
  split at h
  · cases h
    exact ⟨_, rfl⟩
  · split at h <;> cases h
    exact ⟨_, rfl⟩

/-- Serializing a rate raises exceptions about rates only. -/
theorem aliquotaExp_of_getSerialized {n : Numeric F} {a : Aliquota F} {e : Excp}
    (h : getSerialized n a = .error e) : ∃ msg, e = .spooler .aliquotaExp msg := by
  unfold getSerialized getRawNumbers getRaw at h
  cases hbuff : n.strfmon "%!=0-#2.2i" a.aliq with
  | none =>
    rw [hbuff] at h
    cases h
    exact ⟨_, rfl⟩
  | some buff =>
    rw [hbuff] at h
    cases hpos : Str.find ['.'] (buff.filter fun c => !Str.isSpace c) with
    | none => simp [hpos, bind, Except.bind, pure, Except.pure] at h
    | some pos =>
      have hlt := Str.lt_length_of_find hpos
      simp [hpos, Str.substr_ok (Nat.zero_le _), Str.substrFrom_ok hlt, bind, Except.bind, pure,
        Except.pure] at h

theorem isSpooler_of_getSerialized {n : Numeric F} {a : Aliquota F} {e : Excp}
    (h : getSerialized n a = .error e) : e.isSpooler = true := by
  obtain ⟨msg, rfl⟩ := aliquotaExp_of_getSerialized h
  rfl

/-- The reading of a text with two separators, the first not at its start, fails at the last
piece or not at all. -/
theorem setStr_of_pos (n : Numeric F) {str : Str} {sep1 sep2 : Nat}
    (h₁ : Str.find [':'] str = some sep1) (h₂ : Str.rfind [':'] str = some sep2)
    (hne : sep1 ≠ sep2) (hpos : sep1 ≠ 0) :
    ∃ tipo cst pcent₀, setStr n str = (Str.substrFrom str (sep2 + 3)).bind fun pcent₁ =>
      set n tipo cst (n.atof (pcent₀ ++ '.' :: pcent₁)) := by
  have hlt₁ := Str.lt_length_of_find h₁
  have hlt₂ := Str.lt_length_of_rfind h₂
  have hat : Str.at' str (sep1 - 1) = .ok str[sep1 - 1] := by
    rw [Str.at', List.getElem?_eq_getElem (by omega)]
  have hcst := Str.substr_ok (Nat.succ_le_of_lt hlt₁) (sep2 - sep1 - 1)
  have hpcent := Str.substr_ok (Nat.succ_le_of_lt hlt₂) 2
  simp only [setStr, h₁, h₂, if_neg hne, if_neg hpos, hat]
  simp only [Nat.succ_eq_add_one] at hcst hpcent
  simp only [hcst, hpcent]
  exact ⟨_, _, _, rfl⟩

/-- **Reading a rate runs out of a text that is cut short.** -/
theorem setStr_of_malCortada (n : Numeric F) {str : Str} (h : malCortada str = true) :
    setStr n str = .error .outOfRange := by
  unfold malCortada at h
  split at h
  · rename_i sep1 sep2 h₁ h₂
    obtain ⟨hne, hcut⟩ := of_decide_eq_true h
    by_cases hpos : sep1 = 0
    · simp only [setStr, h₁, h₂, if_neg hne, if_pos hpos]
      rfl
    · obtain ⟨tipo, cst, pcent₀, heq⟩ := setStr_of_pos n h₁ h₂ hne hpos
      have hlen : str.length < sep2 + 3 := hcut.resolve_left hpos
      rw [heq, Str.substrFrom, if_neg (by omega)]
      rfl
  · cases h

/-- Any other text is read, or refused with an exception about rates. -/
theorem aliquotaExp_of_setStr {n : Numeric F} {str : Str} (h : malCortada str = false) {e : Excp}
    (he : setStr n str = .error e) : ∃ msg, e = .spooler .aliquotaExp msg := by
  unfold malCortada at h
  split at h
  · rename_i sep1 sep2 h₁ h₂
    rw [decide_eq_false_iff_not, not_and, not_or] at h
    by_cases hne : sep1 = sep2
    · simp only [setStr, h₁, h₂, if_pos hne] at he
      cases he
      exact ⟨_, rfl⟩
    · obtain ⟨hpos, hlen⟩ := h hne
      obtain ⟨tipo, cst, pcent₀, heq⟩ := setStr_of_pos n h₁ h₂ hne hpos
      rw [heq, Str.substrFrom_ok (by omega)] at he
      exact aliquotaExp_of_set he
  · rename_i hnone
    unfold setStr at he
    split at he
    · rename_i sep1 sep2 h₁ h₂
      exact absurd h₂ (hnone sep1 sep2 h₁)
    · cases he
      exact ⟨_, rfl⟩

theorem isSpooler_of_setStr {n : Numeric F} {str : Str} (h : malCortada str = false) {e : Excp}
    (he : setStr n str = .error e) : e.isSpooler = true := by
  obtain ⟨msg, rfl⟩ := aliquotaExp_of_setStr h he
  rfl

end Aliquota

end Spooler
