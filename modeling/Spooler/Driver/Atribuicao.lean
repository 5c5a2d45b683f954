import Spooler.Driver.Taxas

/-!
# Setting an aliquota in place

`aliquota::set` changes an object that may hold a rate already: the type and the CST are stored in
front of the check of the percentage. `Objeto.set` and `Objeto.setStr` are the two forms over the
object; a call that returns leaves what `Aliquota.set` and `Aliquota.setStr` give. **A call that
throws leaves the object alone exactly when the percentage is not what it stumbles over, or the
object has the given type and CST already**, `inalterado_iff`.
-/

namespace Spooler.Aliquota

open Foundations

variable {F : Type}

namespace Objeto

variable (n : Numeric F)

/-- `set(tipo, cst, pcent)`. -/
def set (tipo : Char) (cst : ℕ) (pcent : F) : Exec Excp (Aliquota F) Unit := do
  if tipo ≠ tributadoIss ∧ tipo ≠ tributadoIcms ∧ tipo ≠ substTributaria ∧
      tipo ≠ naoIncidente ∧ tipo ≠ isento then
    throw (.spooler .aliquotaExp msgUnknownType)
  modify fun a => { a with tipo, cst }
  if n.pcentOutOfRange pcent then throw (.spooler .aliquotaExp msgPcentOutRange)
  modify fun a => { a with aliq := pcent }

/-- `set(str)`. -/
def setStr (str : Str) : Exec Excp (Aliquota F) Unit :=
  match Str.find [':'] str, Str.rfind [':'] str with
  | some sep1, some sep2 =>
    if sep1 = sep2 then throw (.spooler .aliquotaExp msgMalformedAliq)
    else do
      let tipo ← ofExcept (if sep1 = 0 then .error .outOfRange else Str.at' str (sep1 - 1))
      let cst ← ofExcept (Str.substr str (sep1 + 1) (sep2 - sep1 - 1))
      let pcent₀ ← ofExcept (Str.substr str (sep2 + 1) 2)
      let pcent₁ ← ofExcept (Str.substrFrom str (sep2 + 3))
      set n tipo (cstLido cst) (n.atof (pcent₀ ++ '.' :: pcent₁))
  | _, _ => throw (.spooler .aliquotaExp msgMalformedAliq)

end Objeto

variable {n : Numeric F} {a b : Aliquota F} {tipo : Char} {str cst pcent : Str}

/-! ## The form with three values -/

theorem exec_set_of_notMem (ht : tipo ∉ tipos) (cst : ℕ) (pcent : F) :
    exec (Objeto.set n tipo cst pcent) a = (.error (.spooler .aliquotaExp msgUnknownType), a) := by
  rw [Objeto.set, if_pos (notMem_tipos.1 ht)]
  rfl

/-- A percentage out of range is noticed too late. -/
theorem exec_set_of_outOfRange (ht : tipo ∈ tipos) (cst : ℕ) {pcent : F}
    (hp : n.pcentOutOfRange pcent = true) : exec (Objeto.set n tipo cst pcent) a =
      (.error (.spooler .aliquotaExp msgPcentOutRange), { a with tipo, cst }) := by
  rw [Objeto.set, if_neg fun h => notMem_tipos.2 h ht, hp]
  rfl

theorem exec_set_of_mem (ht : tipo ∈ tipos) (cst : ℕ) {pcent : F}
    (hp : n.pcentOutOfRange pcent = false) :
    exec (Objeto.set n tipo cst pcent) a = (.ok (), ⟨tipo, cst, pcent⟩) := by
  rw [Objeto.set, if_neg fun h => notMem_tipos.2 h ht, hp]
  rfl

/-! ## The form with a text -/

theorem exec_setStr_of_partes (h : Partes str tipo cst pcent) :
    exec (Objeto.setStr n str) a = exec (Objeto.set n tipo (cstLido cst)
      (n.atof (pcent.take 2 ++ '.' :: pcent.drop 2))) a := by
  obtain ⟨sep1, sep2, h₁, h₂, hne, hpos, hat, hcst, hint, hfrac⟩ := h.cortes
  simp only [Objeto.setStr, h₁, h₂, if_neg hne, if_neg hpos, hat, hcst, hint, hfrac]
  rfl

/-- A text with two separators, the first one not at its start, and two characters behind the last
one is in pieces. -/
theorem exists_partes {sep1 sep2 : ℕ} (h₁ : Str.find [':'] str = some sep1)
    (h₂ : Str.rfind [':'] str = some sep2) (hne : sep1 ≠ sep2) (hpos : sep1 ≠ 0)
    (hlen : sep2 + 3 ≤ str.length) : ∃ tipo cst pcent, Partes str tipo cst pcent := by
  obtain ⟨p, q, hp, hnop, rfl⟩ := Str.exists_of_find_singleton h₁
  obtain ⟨p', q', hp', hnoq, rfl⟩ := Str.exists_of_rfind_singleton h₂
  obtain ⟨pre, tipo, rfl⟩ : ∃ pre tipo, p = pre ++ [tipo] := by
    obtain rfl | ⟨pre, tipo, h⟩ := List.eq_nil_or_concat p
    · exact absurd rfl hpos
    · exact ⟨pre, tipo, by rw [h, List.concat_eq_append]⟩
  rw [List.mem_append, List.mem_singleton, not_or] at hnop
  -- the last separator stands behind the first one
  have hq : ∃ cst, q = cst ++ ':' :: q' := by
    have heq := hp.symm.trans hp'
    rcases List.append_eq_append_iff.1 heq with ⟨s, hs, hr⟩ | ⟨s, hs, hr⟩
    · cases s with
      | nil =>
        rw [List.append_nil] at hs
        exact absurd (congrArg List.length hs).symm hne
      | cons c s => exact ⟨s, (List.cons.inj hr).2⟩
    · cases s with
      | nil =>
        rw [List.append_nil] at hs
        exact absurd (congrArg List.length hs) hne
      | cons c s =>
        refine absurd ?_ hnoq
        rw [(List.cons.inj hr).2]
        exact List.mem_append_right _ List.mem_cons_self
  obtain ⟨cst, rfl⟩ := hq
  refine ⟨tipo, cst, q', ⟨pre, by rw [hp]; simp, hnop.1⟩, Ne.symm hnop.2, hnoq, ?_⟩
  rw [hp', List.length_append, List.length_cons] at hlen
  omega

/-- A text that is not in pieces is refused before anything is stored. -/
theorem exec_setStr_of_not_partes (h : ¬ ∃ tipo cst pcent, Partes str tipo cst pcent) :
    (exec (Objeto.setStr n str) a).2 = a := by
  cases h₁ : Str.find [':'] str with
  | none =>
    simp only [Objeto.setStr, h₁]
    rfl
  | some sep1 =>
    cases h₂ : Str.rfind [':'] str with
    | none =>
      simp only [Objeto.setStr, h₁, h₂]
      rfl
    | some sep2 =>
      by_cases hne : sep1 = sep2
      · simp only [Objeto.setStr, h₁, h₂, if_pos hne]
        rfl
      · simp only [Objeto.setStr, h₁, h₂, if_neg hne]
        by_cases hpos : sep1 = 0
        · rw [if_pos hpos]
          rfl
        · have hlt₁ := Str.lt_length_of_find h₁
          have hlt₂ := Str.lt_length_of_rfind h₂
          have hlen : ¬ sep2 + 3 ≤ str.length := fun hlen => h (exists_partes h₁ h₂ hne hpos hlen)
          have hat : Str.at' str (sep1 - 1) = .ok str[sep1 - 1] := by
            rw [Str.at', List.getElem?_eq_getElem (by omega)]
          have hfrac : Str.substrFrom str (sep2 + 3) = .error .outOfRange := if_neg hlen
          simp only [if_neg hpos, exec_bind, exec_ofExcept, hat,
            Str.substr_ok (Nat.succ_le_of_lt hlt₁), Str.substr_ok (Nat.succ_le_of_lt hlt₂), hfrac]

/-! ## The object against the value -/

/-- A member function that answers as a function of its arguments does, and leaves the value of
that function in the object. -/
def Realiza (x : Exec Excp (Aliquota F) Unit) (r : Except Excp (Aliquota F)) : Prop :=
  ∀ a, (∀ b, r = .ok b → exec x a = (.ok (), b)) ∧ ∀ e, r = .error e → (exec x a).1 = .error e

/-- Where the function fails, the member function has to fail alike. -/
theorem respostas_of_error {x : Exec Excp (Aliquota F) Unit} {a : Aliquota F} {e : Excp}
    (hx : (exec x a).1 = .error e) :
    (∀ b, (.error e : Except Excp (Aliquota F)) = .ok b → exec x a = (.ok (), b)) ∧
      ∀ e', (.error e : Except Excp (Aliquota F)) = .error e' → (exec x a).1 = .error e' := by
  constructor
  · intro b h
    cases h
  · intro e' h
    rw [hx, Except.error.inj h]

theorem realiza_throw (e : Excp) : Realiza (throw e) (.error e : Except Excp (Aliquota F)) :=
  fun _ => respostas_of_error rfl

/-- A value that is computed first. -/
theorem realiza_bind {α : Type} (x : Except Excp α) {f : α → Exec Excp (Aliquota F) Unit}
    {g : α → Except Excp (Aliquota F)} (h : ∀ v, Realiza (f v) (g v)) :
    Realiza (ofExcept x >>= f) (x >>= g) := by
  cases x with
  | error e => exact realiza_throw e
  | ok v => exact h v

theorem realiza_set (tipo : Char) (cst : ℕ) (pcent : F) :
    Realiza (Objeto.set n tipo cst pcent) (set n tipo cst pcent) := by
  intro a
  by_cases ht : tipo ∈ tipos
  · by_cases hp : n.pcentOutOfRange pcent = true
    · rw [set, if_neg fun h => notMem_tipos.2 h ht, if_pos hp]
      exact respostas_of_error (congrArg Prod.fst (exec_set_of_outOfRange ht cst hp))
    · have hp : n.pcentOutOfRange pcent = false := by simpa using hp
      rw [set_of_mem ht cst hp, exec_set_of_mem ht cst hp]
      constructor
      · intro b h
        rw [Except.ok.inj h]
      · intro e h
        cases h
  · rw [set, if_pos (notMem_tipos.1 ht)]
    exact respostas_of_error (congrArg Prod.fst (exec_set_of_notMem ht cst pcent))

/-- **Both forms of `set` are the functions that read a rate.** -/
theorem realiza_setStr (str : Str) : Realiza (Objeto.setStr n str) (setStr n str) := by
  cases h₁ : Str.find [':'] str with
  | none =>
    simp only [Objeto.setStr, setStr, h₁]
    exact realiza_throw _
  | some sep1 =>
    cases h₂ : Str.rfind [':'] str with
    | none =>
      simp only [Objeto.setStr, setStr, h₁, h₂]
      exact realiza_throw _
    | some sep2 =>
      simp only [Objeto.setStr, setStr, h₁, h₂]
      by_cases hne : sep1 = sep2
      · rw [if_pos hne, if_pos hne]
        exact realiza_throw _
      · rw [if_neg hne, if_neg hne]
        by_cases hpos : sep1 = 0
        · rw [if_pos hpos, if_pos hpos]
          exact realiza_throw _
        · rw [if_neg hpos, if_neg hpos]
          refine realiza_bind _ fun tipo => realiza_bind _ fun cst => ?_
          refine realiza_bind _ fun pcent₀ => realiza_bind _ fun pcent₁ => ?_
          exact realiza_set _ _ _

/-! ## Exceptions -/

/-- The arguments of the two forms of `set`. -/
inductive Argumento (F : Type)
  | campos (tipo : Char) (cst : ℕ) (pcent : F)
  | texto (str : Str)

namespace Argumento

/-- The call. -/
def atribui (n : Numeric F) : Argumento F → Exec Excp (Aliquota F) Unit
  | campos tipo cst pcent => Objeto.set n tipo cst pcent
  | texto str => Objeto.setStr n str

/-- The values that the argument gives; a text that is not in pieces gives none. -/
inductive Da (n : Numeric F) : Argumento F → Char → ℕ → F → Prop
  | campos (tipo : Char) (cst : ℕ) (pcent : F) : Da n (.campos tipo cst pcent) tipo cst pcent
  | texto {str : Str} {tipo : Char} {cst pcent : Str} (h : Partes str tipo cst pcent) :
    Da n (.texto str) tipo (cstLido cst) (n.atof (pcent.take 2 ++ '.' :: pcent.drop 2))

theorem Da.exec_atribui {arg : Argumento F} {tipo : Char} {cst : ℕ} {pcent : F}
    (h : Da n arg tipo cst pcent) (a : Aliquota F) :
    exec (arg.atribui n) a = exec (Objeto.set n tipo cst pcent) a := by
  cases h with
  | campos => rfl
  | texto h => exact exec_setStr_of_partes h

theorem exec_atribui_of_not_da {arg : Argumento F} (h : ¬ ∃ tipo cst pcent, Da n arg tipo cst pcent)
    (a : Aliquota F) : (exec (arg.atribui n) a).2 = a := by
  cases arg with
  | campos tipo cst pcent => exact absurd ⟨_, _, _, .campos tipo cst pcent⟩ h
  | texto str =>
    refine exec_setStr_of_not_partes ?_
    rintro ⟨tipo, cst, pcent, hp⟩
    exact h ⟨_, _, _, .texto hp⟩

end Argumento

/-- **A call that throws leaves the object alone** exactly when the object has the type and the CST
given already, wherever the type is one of the five and the percentage is out of range. -/
theorem inalterado_iff (n : Numeric F) (arg : Argumento F) (a : Aliquota F) :
    (∀ e, (exec (arg.atribui n) a).1 = .error e → (exec (arg.atribui n) a).2 = a) ↔
      ∀ tipo cst pcent, arg.Da n tipo cst pcent → tipo ∈ tipos →
        n.pcentOutOfRange pcent = true → a.tipo = tipo ∧ a.cst = cst := by
  constructor
  · intro h tipo cst pcent hda ht hp
    rw [hda.exec_atribui, exec_set_of_outOfRange ht cst hp] at h
    have heq := h _ rfl
    exact ⟨(congrArg Aliquota.tipo heq).symm, (congrArg Aliquota.cst heq).symm⟩
  · intro h e he
    by_cases hda : ∃ tipo cst pcent, arg.Da n tipo cst pcent
    · obtain ⟨tipo, cst, pcent, hda⟩ := hda
      rw [hda.exec_atribui] at he ⊢
      by_cases ht : tipo ∈ tipos
      · by_cases hp : n.pcentOutOfRange pcent = true
        · obtain ⟨rfl, rfl⟩ := h _ _ _ hda ht hp
          rw [exec_set_of_outOfRange ht _ hp]
        · rw [exec_set_of_mem ht cst (by simpa using hp)] at he
          cases he
      · rw [exec_set_of_notMem ht]
    · exact Argumento.exec_atribui_of_not_da hda a

/-- A percentage of 100 is refused, and the type has changed. -/
theorem tipo_alterado : ¬ ∀ e,
    (exec (Argumento.atribui Numeric.inteiros (.campos 'S' 0 100)) ⟨'T', 0, 17⟩).1 = .error e →
      (exec (Argumento.atribui Numeric.inteiros (.campos 'S' 0 100)) ⟨'T', 0, 17⟩).2 =
        ⟨'T', 0, 17⟩ := by
  have hfora : Numeric.inteiros.pcentOutOfRange 100 = true := rfl
  have hrun := exec_set_of_outOfRange (a := ⟨'T', 0, 17⟩) (show 'S' ∈ tipos by decide) 0 hfora
  rw [Argumento.atribui, hrun]
  intro h
  exact absurd (h _ rfl) (by decide)

end Spooler.Aliquota
