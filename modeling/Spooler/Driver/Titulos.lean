import Spooler.Driver.Cadastros
import Spooler.Text.Decimals

/-!
# New reports

`setRelGerencial` gives a new report the slot behind as many as the names it has kept, which are
those it takes to be in use behind the first one. **That slot is free exactly when the record in the
place of their number is blank on the device**, `nomeiaVaga_iff`: with a free slot before others it
may have a report, and with a full table there is no such slot.
-/

namespace Spooler

open Foundations Driver

/-! ## Two digits -/

/-- A number of at most two digits, as `%02.0f` writes it. -/
def Str.doisDigitos (k : ℕ) : Str := if k < 10 then '0' :: Str.intoString k else Str.intoString k

theorem doisDigitos_eq_zeroPad (k : ℕ) : Str.doisDigitos k = Str.zeroPad 2 k := by
  rw [Str.doisDigitos, Str.zeroPad_two]
  split <;> rfl

/-- `format_valor` leaves digits as they are. -/
theorem comVirgula_doisDigitos (k : ℕ) : comVirgula (Str.doisDigitos k) = Str.doisDigitos k := by
  have hponto : ∀ c ∈ Str.zeroPad 2 k, (c ≠ '.' : Bool) = true := by
    intro c hc
    have hdig := Str.isDigit_of_mem_zeroPad hc
    refine decide_eq_true ?_
    rintro rfl
    cases hdig
  rw [doisDigitos_eq_zeroPad, comVirgula, List.takeWhile_eq_self_iff.2 hponto,
    List.dropWhile_eq_nil_iff.2 hponto, List.append_nil]
  exact Str.trim_zeroPad 2 k

theorem doisDigitos_injective {i j : ℕ} (h : Str.doisDigitos i = Str.doisDigitos j) : i = j := by
  have hnum := congrArg Str.numeral h
  rw [doisDigitos_eq_zeroPad, doisDigitos_eq_zeroPad, Str.numeral_zeroPad,
    Str.numeral_zeroPad] at hnum
  exact Int.ofNat.inj hnum

/-- `printf` writes the numbers of the slots. -/
def Numeric.EscreveSlots {F : Type} (n : Numeric F) : Prop :=
  ∀ k : ℕ, k < 100 → n.sprintf "%02.0f" (n.ofInt k) = some (Str.doisDigitos k)

/-! ## The table of reports -/

namespace Driver

variable {F δ : Type} {bib : Biblioteca δ} {c : Classe} {titulo : Str}

/-- The descriptions of the reports of the device, behind the first one, as the driver reads
them. -/
def titulos (bib : Biblioteca δ) (c : Classe) (d : δ) : List Str :=
  descrRelger c.sizeRelger (bib.tabelas d).2.2

/-- The same descriptions, as the device shows them: the 17 characters of a record. -/
def titulosMostrados (bib : Biblioteca δ) (d : δ) : List Str :=
  let buffer := (bib.tabelas d).2.2
  (List.range 29).map fun i =>
    Str.trim ((buffer.drop (fimPrimeiro buffer + i * 22 + 1 + 4)).take 17)

/-- The answer of a search for a report. -/
def achaRelger (bib : Biblioteca δ) (c : Classe) (titulo : Str)
    (a : Aparelho F (δ × List Chamada)) : Option ℕ :=
  resposta [relatorioGeral] (titulos bib c a.dev.1) a.relger (titulo.take c.sizeRelger)

/-- The call that names the report in a slot. -/
def nomeiaRelger (c : Classe) (cidx titulo : Str) : Acao :=
  match c with
  | .base => .nomeiaRelatorioGerencialMFD cidx (Str.trim (titulo.take c.sizeRelger))
  | .cv0909 => .nomeiaRelatorioGerencialCV0909 cidx (Str.trim (titulo.take c.sizeRelger))

theorem nomeiaRelger_injective {cidx cidx' : Str}
    (h : nomeiaRelger c cidx titulo = nomeiaRelger c cidx' titulo) : cidx = cidx' := by
  cases c <;> simpa [nomeiaRelger] using h

/-- The number of reports behind the first one that the driver takes to be in use. -/
def emUsoRelger (nomes : List Str) : ℕ := nomes.countP (· ≠ [])

theorem length_emUso (nome : Str) (nomes : List Str) :
    (emUso [nome] nomes).length + 1 = emUsoRelger nomes + 2 := by
  rw [emUso, emUsoRelger, List.countP_eq_length_filter]
  simp

theorem length_titulos (bib : Biblioteca δ) (c : Classe) (d : δ) :
    (titulos bib c d).length = 29 := by
  simp [titulos, descrRelger]

/-- The slot behind as many as the reports in use has a number of two digits. -/
theorem emUsoRelger_lt (bib : Biblioteca δ) (c : Classe) (d : δ) :
    emUsoRelger (titulos bib c d) + 2 < 100 := by
  have hle : emUsoRelger (titulos bib c d) ≤ (titulos bib c d).length := List.countP_le_length
  rw [length_titulos] at hle
  omega

variable {a : Aparelho F (δ × List Chamada)}

theorem exec_getIdRelGerencial_kept {bib : Biblioteca δ} {a : Aparelho F δ} {i : ℕ}
    (h : idxElement (titulo.take c.sizeRelger) a.relger = some i) :
    exec (getIdRelGerencial bib c titulo) a = (.ok (some (i + 1)), a) := by
  simp only [getIdRelGerencial, exec_bind, exec_get, h, exec_pure]

/-- A title that is not kept is looked up in the table of the device, which is kept. -/
theorem exec_getIdRelGerencial_lida (h : bib.Mostra)
    (hidx : idxElement (titulo.take c.sizeRelger) a.relger = none) :
    ∃ t, exec (getIdRelGerencial bib.espia c titulo) a = (.ok (achaRelger bib c titulo a), t) ∧
      Leu bib a.toMaquina t.toMaquina ∧
      t.relger = emUso [relatorioGeral] (titulos bib c a.dev.1) := by
  obtain ⟨x, d, hx, hleu⟩ := exec_consulta_mostra (m := a.toMaquina) h
    (.pergunta .verificaRelatorioGerencialMFD) (h.relatorios a.dev.1) (h.tabelas_relatorios a.dev.1)
  have hcons : exec (consulta bib.espia.toDll
      (bib.espia.pergunta .verificaRelatorioGerencialMFD)) a.toMaquina = _ := hx
  generalize hrun : exec (getIdRelGerencial bib.espia c titulo) a = res
  simp only [getIdRelGerencial, noObjeto, exec_bind, exec_get, hidx, exec_zoom, hcons, exec_modify,
    exec_pure, TabelaBase.nomeia_comm] at hrun
  subst hrun
  refine ⟨{ a with
    toMaquina := a.toMaquina.com x d
    relger := emUso [relatorioGeral] (titulos bib c a.dev.1) }, ?_, hleu, rfl⟩
  rw [achaRelger, resposta, hidx]
  rfl

/-- What a search answers; one that finds nothing has kept the table. -/
theorem exec_getIdRelGerencial (h : bib.Mostra) (c : Classe) (titulo : Str)
    (a : Aparelho F (δ × List Chamada)) :
    ∃ t, exec (getIdRelGerencial bib.espia c titulo) a = (.ok (achaRelger bib c titulo a), t) ∧
      Leu bib a.toMaquina t.toMaquina ∧ (achaRelger bib c titulo a = none →
        t.relger = emUso [relatorioGeral] (titulos bib c a.dev.1)) := by
  cases hidx : idxElement (titulo.take c.sizeRelger) a.relger with
  | some j =>
    have hacha : achaRelger bib c titulo a = some (j + 1) := by
      rw [achaRelger, resposta, hidx]
    rw [hacha]
    exact ⟨a, exec_getIdRelGerencial_kept hidx, .refl bib _, fun hnone => by cases hnone⟩
  | none =>
    obtain ⟨t, ht, hleu, hrelger⟩ := exec_getIdRelGerencial_lida h hidx
    exact ⟨t, ht, hleu, fun _ => hrelger⟩

/-! ## The run -/

/-- A title that is found is not given to a slot. -/
theorem exec_setRelGerencial_achado (n : Numeric F) (h : bib.Mostra) {i : ℕ}
    (hacha : achaRelger bib c titulo a = some i) :
    (exec (setRelGerencial n bib.espia c titulo) a).2.atos = a.atos := by
  obtain ⟨t, ht, hleu, -⟩ := exec_getIdRelGerencial h c titulo a
  rw [hacha] at ht
  unfold setRelGerencial
  rw [exec_bind_ok ht]
  cases c <;> exact hleu.atos

/-- Any other title is given to the slot behind as many as the reports in use. -/
theorem exec_setRelGerencial_novo {n : Numeric F} (hn : n.EscreveSlots) (h : bib.Mostra)
    (hacha : achaRelger bib c titulo a = none) :
    ∃ t, exec (setRelGerencial n bib.espia c titulo) a = exec (do
        noObjeto (manda bib.espia (nomeiaRelger c
          (Str.doisDigitos (emUsoRelger (titulos bib c a.dev.1) + 2)) titulo))
        modify fun a => { a with relger := [] }) t ∧
      Leu bib a.toMaquina t.toMaquina := by
  obtain ⟨t, ht, hleu, hrelger⟩ := exec_getIdRelGerencial h c titulo a
  rw [hacha] at ht
  refine ⟨t, ?_, hleu⟩
  have hlen : (t.relger.length : ℤ) + 1 = (emUsoRelger (titulos bib c a.dev.1) + 2 : ℕ) := by
    rw [hrelger hacha, ← length_emUso relatorioGeral]
    rfl
  have hcem := emUsoRelger_lt bib c a.dev.1
  have hfmt := exec_formatInteiro_some (hn _ hcem) t
  rw [comVirgula_doisDigitos, ← hlen] at hfmt
  unfold setRelGerencial
  rw [exec_bind_ok ht]
  dsimp only
  rw [exec_bind_ok (exec_get t), exec_bind_ok hfmt]
  cases c <;> rfl

variable (bib) in
/-- What is left behind the call. -/
theorem exec_nomeiaRelger (x : Acao) (t : Aparelho F (δ × List Chamada)) :
    (exec (do
      noObjeto (manda bib.espia x)
      modify fun a => { a with relger := [] }) t).2.atos =
        t.atos ++ if t.drv.fake then [] else [.acao x] := by
  have hzoom : ∀ r u, exec (manda bib.espia x) t.toMaquina = (r, u) →
      (exec (do
        noObjeto (manda bib.espia x)
        modify fun a => { a with relger := [] }) t).2.atos = u.atos := by
    intro r u hu
    have hobj : exec (noObjeto (manda bib.espia x)) t = (r, { t with toMaquina := u }) := by
      rw [noObjeto, exec_zoom, hu]
    cases r with
    | ok v =>
      rw [exec_bind_ok hobj]
      rfl
    | error e =>
      rw [exec_bind_error hobj]
  cases hf : t.drv.fake with
  | true =>
    rw [hzoom _ _ (exec_manda_fake bib.espia x hf), if_pos rfl, List.append_nil]
  | false =>
    obtain ⟨r, u, hu, hsegue, -⟩ := exec_manda_espia bib x hf
    rw [hzoom r u hu, hsegue.atos]
    rfl

/-! ## Free slots only -/

/-- The operation gives the title to slots that the device shows as free only. -/
def NomeiaVaga (n : Numeric F) (bib : Biblioteca δ) (c : Classe) (titulo : Str)
    (a : Aparelho F (δ × List Chamada)) : Prop :=
  ∃ novas : List Acao,
    (exec (setRelGerencial n bib.espia c titulo) a).2.atos = a.atos ++ novas.map .acao ∧
    ∀ x ∈ novas, ∃ k, (titulosMostrados bib a.dev.1)[k]? = some [] ∧
      x = nomeiaRelger c (Str.doisDigitos (k + 2)) titulo

/-- **A new report gets a free slot** exactly when the record in the place of the number of reports
taken to be in use is blank on the device, unless the title is found or the driver is in fake
mode. -/
theorem nomeiaVaga_iff {n : Numeric F} (hn : n.EscreveSlots) (h : bib.Mostra) (c : Classe)
    (titulo : Str) (a : Aparelho F (δ × List Chamada)) :
    NomeiaVaga n bib c titulo a ↔
      (achaRelger bib c titulo a).isSome ∨ a.drv.fake = true ∨
        (titulosMostrados bib a.dev.1)[emUsoRelger (titulos bib c a.dev.1)]? = some [] := by
  unfold NomeiaVaga
  cases hacha : achaRelger bib c titulo a with
  | some i =>
    rw [exec_setRelGerencial_achado n h hacha]
    exact iff_of_true ⟨[], (List.append_nil _).symm, by simp⟩ (.inl rfl)
  | none =>
    obtain ⟨t, ht, hleu⟩ := exec_setRelGerencial_novo hn h hacha
    have hatos := exec_nomeiaRelger bib (nomeiaRelger c
      (Str.doisDigitos (emUsoRelger (titulos bib c a.dev.1) + 2)) titulo) t
    rw [hleu.atos, hleu.fake] at hatos
    rw [ht, hatos]
    cases hf : a.drv.fake with
    | true =>
      rw [if_pos rfl]
      exact iff_of_true ⟨[], rfl, by simp⟩ (.inr (.inl rfl))
    | false =>
      rw [if_neg Bool.false_ne_true]
      constructor
      · rintro ⟨novas, hnovas, hslots⟩
        have hlista := List.append_cancel_left hnovas
        obtain ⟨x, hx, heq⟩ := List.mem_map.1 (hlista ▸ List.mem_singleton_self _)
        obtain ⟨k, hk, rfl⟩ := hslots x hx
        have hslot : k + 2 = emUsoRelger (titulos bib c a.dev.1) + 2 :=
          doisDigitos_injective (nomeiaRelger_injective (Chamada.acao.inj heq))
        rw [Nat.add_right_cancel hslot] at hk
        exact .inr (.inr hk)
      · intro hlivre
        have hblank := (hlivre.resolve_left Bool.false_ne_true).resolve_left Bool.false_ne_true
        refine ⟨[_], rfl, fun x hx => ?_⟩
        rw [List.mem_singleton.1 hx]
        exact ⟨_, hblank, rfl⟩

/-! ### Slots in use -/

/-- A device with the table `T` of reports. -/
def comRelatorios (T : TabelaRelger) : Biblioteca Unit := sempreOk fun _ => T.codifica

theorem mostra_comRelatorios (T : TabelaRelger) : (comRelatorios T).Mostra where
  retorno _ := rfl
  tabelas_retorno _ := rfl
  formas _ := rfl
  tabelas_formas _ := rfl
  totais _ := rfl
  tabelas_totais _ := rfl
  relatorios _ := rfl
  tabelas_relatorios _ := rfl

/-- Thirty reports. -/
def relatoriosCheios : TabelaRelger where
  regs := (List.range 30).map fun i =>
    TabelaBase.registroRelger ('R' :: Str.doisDigitos i)
  length_regs := by decide
  largura := by decide +kernel
  limpo := by decide +kernel

/-- An object that has issued no call. -/
def objetoSemAtos : Aparelho ℤ (Unit × List Chamada) := .novo false ((), [])

theorem escreveSlots_doisDigitos : Numeric.doisDigitos.EscreveSlots := by
  intro k _
  simp [Numeric.doisDigitos, Numeric.inteiros, Str.doisDigitos]

/-- The first report, one more, and free slots. -/
def umRelatorio : TabelaRelger where
  regs := TabelaBase.registroRelger "RELATORIO GERAL".toList ::
    TabelaBase.registroRelger "VENDAS".toList :: List.replicate 28 (TabelaBase.registroRelger [])
  length_regs := by decide
  largura := by decide
  limpo := by decide

/-- Behind the reports in use there are free slots. -/
theorem nomeiaVaga_iff_turno : NomeiaVaga Numeric.doisDigitos (comRelatorios umRelatorio) .base
    "TURNO".toList objetoSemAtos :=
  (nomeiaVaga_iff escreveSlots_doisDigitos (mostra_comRelatorios _) _ _ _).2
    (.inr (.inr (by decide +kernel)))

/-- **Behind a free slot a report loses its name**, and with a full table slot 31 is named. -/
theorem setRelGerencial_sobrescreve :
    ((titulosMostrados (comRelatorios TabelaBase.geralVagaVendas) ())[1]? =
        some "VENDAS".toList ∧
      (exec (setRelGerencial Numeric.doisDigitos (comRelatorios TabelaBase.geralVagaVendas).espia
        .base "TURNO".toList) objetoSemAtos).2.atos =
          [.acao (.nomeiaRelatorioGerencialMFD "03".toList "TURNO".toList)]) ∧
    (exec (setRelGerencial Numeric.doisDigitos (comRelatorios relatoriosCheios).espia .cv0909
      "TURNO".toList) objetoSemAtos).2.atos =
        [.acao (.nomeiaRelatorioGerencialCV0909 "31".toList "TURNO".toList)] := by
  decide +kernel

end Driver

end Spooler
