import Spooler.Driver.Bematech
import Spooler.Driver.Relatorio
import Spooler.Driver.SemVagas

/-!
# New names in the tables of the device

`Base.setTotalizador`, `setTotalizador` and `setFormaPgto` (`Cadastro`) give a new name to the first
slot that the driver has marked as free. **They touch free slots only, and raise an exception when
there is none, exactly when that slot exists and is blank on the device**, `soEmVaga_iff`: a full
table has no marked slot, so slot 0 is named, and a slot is also marked when it is named like the
mark, in the base class when it is named like one of the two fixed totalizers, and in the other one
when only the characters are blank that this class reads.
-/

namespace Spooler

open Foundations Driver

/-! ## A device that shows its tables -/

section Mostra

variable {F δ : Type}

/-- The tables of payment forms, totalizers and reports, as the library writes them. -/
def Biblioteca.tabelas (bib : Biblioteca δ) (d : δ) : Str × Str × Str :=
  ((bib.verificaFormasPagamentoMFD d).1.2, (bib.verificaTotalizadoresNaoFiscaisMFD d).1.2,
    (bib.pergunta .verificaRelatorioGerencialMFD d).1.2)

/-- The device reports success and answers with its tables, which reading leaves alone. -/
structure Biblioteca.Mostra (bib : Biblioteca δ) : Prop where
  retorno : ∀ d, (bib.retornoImpressoraMFD d).1 = (bematechOk, ⟨6, 0, 0, 0⟩)
  tabelas_retorno : ∀ d, bib.tabelas (bib.retornoImpressoraMFD d).2 = bib.tabelas d
  formas : ∀ d, (bib.verificaFormasPagamentoMFD d).1.1 = bematechOk
  tabelas_formas : ∀ d, bib.tabelas (bib.verificaFormasPagamentoMFD d).2 = bib.tabelas d
  totais : ∀ d, (bib.verificaTotalizadoresNaoFiscaisMFD d).1.1 = bematechOk
  tabelas_totais : ∀ d, bib.tabelas (bib.verificaTotalizadoresNaoFiscaisMFD d).2 = bib.tabelas d
  relatorios : ∀ d, (bib.pergunta .verificaRelatorioGerencialMFD d).1.1 = bematechOk
  tabelas_relatorios : ∀ d,
    bib.tabelas (bib.pergunta .verificaRelatorioGerencialMFD d).2 = bib.tabelas d

/-- The machine has only read from the device. -/
structure Leu (bib : Biblioteca δ) (m t : Maquina F (δ × List Chamada)) : Prop where
  fake : t.drv.fake = m.drv.fake
  atos : t.atos = m.atos
  tabelas : bib.tabelas t.dev.1 = bib.tabelas m.dev.1

variable {bib : Biblioteca δ} {m t u : Maquina F (δ × List Chamada)}

theorem Leu.refl (bib : Biblioteca δ) (m : Maquina F (δ × List Chamada)) : Leu bib m m :=
  ⟨rfl, rfl, rfl⟩

theorem Leu.trans (h : Leu bib m t) (h' : Leu bib t u) : Leu bib m u :=
  ⟨h'.fake.trans h.fake, h'.atos.trans h.atos, h'.tabelas.trans h.tabelas⟩

/-- A table that the device shows is read. -/
theorem Driver.exec_consulta_mostra {α : Type} (h : bib.Mostra) {f : δ → (ℤ × α) × δ} (l : Leitura)
    (hok : (f m.dev.1).1.1 = bematechOk)
    (htab : bib.tabelas (f m.dev.1).2 = bib.tabelas m.dev.1) :
    ∃ x d, exec (consulta bib.espia.toDll (anota (.leitura l) f)) m =
      (.ok (f m.dev.1).1.2, m.com x d) ∧ Leu bib m (m.com x d) := by
  have hret : (bib.espia.retornoImpressoraMFD (anota (.leitura l) f m.dev).2).1 =
      (bematechOk, ⟨6, 0, 0, 0⟩) := h.retorno _
  obtain ⟨x, hx⟩ := exec_check_sadio (m := { m with dev := (anota (.leitura l) f m.dev).2 }) hret
  have hrun : exec (consulta bib.espia.toDll (anota (.leitura l) f)) m = exec (do
      check bib.espia.toDll (anota (.leitura l) f m.dev).1.1
      pure (anota (.leitura l) f m.dev).1.2) { m with dev := (anota (.leitura l) f m.dev).2 } := rfl
  have hcode : (anota (.leitura l) f m.dev).1.1 = bematechOk := hok
  rw [hcode] at hrun
  refine ⟨x, _, hrun.trans (exec_bind_ok hx), rfl, ?_, (h.tabelas_retorno _).trans htab⟩
  simp [Maquina.atos, Maquina.chamadas, Biblioteca.espia, Dll.espia, Chamada.soLe]

end Mostra

/-! ## The three operations -/

/-- A new name for a table: of totalizers, in either class, or of payment forms. -/
inductive Cadastro
  | totalizadorBase (descr : Str)
  | totalizador (descr tipo : Str)
  | forma (forma vinc : Str)

namespace Cadastro

variable {F δ : Type}

/-- The new name. -/
def descr : Cadastro → Str
  | totalizadorBase d => d
  | totalizador d _ => d
  | forma f _ => f

/-- How many of its characters are compared and programmed. -/
def tam : Cadastro → ℕ
  | totalizadorBase _ => Base.sizeTotcnf
  | totalizador _ _ => sizeTotcnf
  | forma _ _ => sizeFpgto

/-- What the driver keeps of the table. -/
def kept (drv : Driver F) : Cadastro → List Str
  | totalizadorBase _ | totalizador _ _ => drv.totCnf
  | forma _ _ => drv.fpgto

/-- The names in the slots of the table of the device, as the driver reads them. -/
def quadro (bib : Biblioteca δ) (d : δ) : Cadastro → List Str
  | totalizadorBase _ => Base.totalizadores (bib.tabelas d).2.1
  | totalizador _ _ => totalizadores (bib.tabelas d).2.1
  | forma _ _ => (registros totalFpgto (bib.tabelas d).1).map descrFpgto

/-- The names in the slots, as the device shows them: all 19 characters of a totalizer, or 16 of a
payment form, where the record is whole. -/
def mostrados (bib : Biblioteca δ) (d : δ) : Cadastro → List Str
  | totalizadorBase _ => (List.range Base.totalTotcnf).map fun i =>
      Str.trim (((bib.tabelas d).2.1.drop (i * 20)).take 19)
  | totalizador _ _ => (List.range (600 / 20)).map fun i =>
      Str.trim (((bib.tabelas d).2.1.drop (i * 20)).take 19)
  | forma _ _ => (registros totalFpgto (bib.tabelas d).1).map fun reg =>
      if reg.length < tamRegFpgto - 1 then txtUnavailable else Str.trim (reg.take 16)

/-- The name that the driver keeps for a slot. -/
def guarda : Cadastro → Str → Str
  | totalizadorBase _ => fun nome => if Base.programado nome then nome else txtAvailable
  | totalizador _ _ | forma _ _ => guardado

/-- The names kept behind those of the slots. -/
def fixos : Cadastro → List Str
  | totalizadorBase _ => [txtSangria, txtSuprimento]
  | totalizador _ _ | forma _ _ => []

/-- What is kept of a table that was read. -/
def cheia (c : Cadastro) (nomes : List Str) : List Str := nomes.map c.guarda ++ c.fixos

/-- The answer of a search for the text `q` among the names of the table. -/
def naTabela (q : Str) : Cadastro → List Str → Option ℕ
  | totalizadorBase _, nomes =>
    let idx := ultimoIdx (fun one => Base.programado one &&
      Str.strIequals (q.take Base.sizeTotcnf) one) nomes
    let idx := if Str.strIequals q txtSangria then some Base.totalTotcnf else idx
    let idx := if Str.strIequals q txtSuprimento then some (Base.totalTotcnf + 1) else idx
    idx.map (· + 1)
  | totalizador _ _, nomes => posicao q nomes
  | forma _ _, nomes => (ultimoIdx (Str.strIequals (q.take sizeFpgto)) nomes).map (· + 1)

/-- The answer of a search for the text `q`: from what is kept, else from the table. -/
def acha (c : Cadastro) (kept nomes : List Str) (q : Str) : Option ℕ :=
  match idxElement (q.take c.tam) kept with
  | some i => some (i + 1)
  | none => c.naTabela q nomes

/-- The search of the operation. -/
def busca (bib : Biblioteca δ) (q : Str) : Cadastro → Prog F δ (Option ℕ)
  | totalizadorBase _ => Base.getTotalizadorCnf bib q
  | totalizador _ _ => getTotalizadorCnf bib.toDll q
  | forma _ _ => getIdFormaPgto bib.toDll q

/-- The call that programs the slot `idx`. -/
def acao (idx : ℤ) : Cadastro → Acao
  | totalizadorBase d => .nomeiaTotalizadorNaoSujeitoIcms idx (Str.trim (d.take Base.sizeTotcnf))
  | totalizador d tipo =>
    .nomeiaTotalizadorNaoSujeitoIcmsCV0909 idx (Str.trim (d.take sizeTotcnf)) tipo
  | forma f vinc => .programaFormaPagamentoCV0909 (Str.intoString idx)
      (Str.trim (f.take sizeFpgto)) (if flagVinc vinc then 1 else 0)

/-- The function of the driver. -/
def prog (n : Numeric F) (bib : Biblioteca δ) : Cadastro → Prog F δ Unit
  | totalizadorBase d => Base.setTotalizador bib d
  | totalizador d tipo => setTotalizador n bib d tipo
  | forma f vinc => setFormaPgto bib f vinc

/-! ## Their common shape -/

/-- What becomes of a name that is found. -/
def repetida : Cadastro → Prog F δ Unit
  | totalizadorBase _ => throw (ecfExp totCnfPresent)
  | totalizador _ _ | forma _ _ => pure ()

/-- The first slot marked as free, counted from zero, `-1` when there is none. -/
def prox (bib : Biblioteca δ) (c : Cadastro) : Prog F δ ℤ := do
  let _ ← c.busca bib []
  let m ← get
  pure (((c.kept m.drv).findIdx? (· = txtAvailable)).elim (-1) Int.ofNat)

/-- The text that is made of the slot, for the log only. -/
def texto (n : Numeric F) (idx : ℤ) : Cadastro → Prog F δ Str
  | totalizador _ _ => formatInteiro n idx "%02.0f"
  | totalizadorBase _ | forma _ _ => pure []

/-- What is kept of the table is dropped. -/
def esquece : Cadastro → Prog F δ Unit
  | totalizadorBase _ | totalizador _ _ => altera fun drv => { drv with totCnf := [] }
  | forma _ _ => altera fun drv => { drv with fpgto := [] }

theorem prog_eq (n : Numeric F) (bib : Biblioteca δ) (c : Cadastro) : c.prog n bib = (do
    match ← c.busca bib c.descr with
    | some _ => c.repetida
    | none => do
      let idx := (← c.prox bib) + 1
      let _ ← c.texto n idx
      manda bib (c.acao idx)
      c.esquece) := by
  cases c <;> rfl

/-! ## The search -/

variable {bib : Biblioteca δ} {q : Str}

theorem exec_busca_kept {m : Maquina F δ} {c : Cadastro} {i : ℕ}
    (h : idxElement (q.take c.tam) (c.kept m.drv) = some i) :
    exec (c.busca bib q) m = (.ok (some (i + 1)), m) := by
  cases c with
  | totalizadorBase d =>
    have hidx : idxElement (q.take Base.sizeTotcnf) m.drv.totCnf = some i := h
    simp only [busca, Base.getTotalizadorCnf, exec_bind, exec_get, hidx, exec_pure]
  | totalizador d tipo => exact exec_getTotalizadorCnf_kept h
  | forma f vinc =>
    have hidx : idxElement (q.take sizeFpgto) m.drv.fpgto = some i := h
    simp only [busca, getIdFormaPgto, exec_bind, exec_get, hidx, exec_pure]

variable {m : Maquina F (δ × List Chamada)}

/-- A text that is not kept is looked up in the table of the device, which is kept. -/
theorem exec_busca_lida (h : bib.Mostra) {c : Cadastro}
    (hidx : idxElement (q.take c.tam) (c.kept m.drv) = none) :
    ∃ t, exec (c.busca bib.espia q) m = (.ok (c.naTabela q (c.quadro bib m.dev.1)), t) ∧
      Leu bib m t ∧ c.kept t.drv = c.cheia (c.quadro bib m.dev.1) := by
  obtain ⟨x, d, hx, hleu⟩ := exec_consulta_mostra (m := m) h .verificaTotalizadoresNaoFiscaisMFD
    (h.totais m.dev.1) (h.tabelas_totais m.dev.1)
  obtain ⟨y, e, hy, hleu'⟩ := exec_consulta_mostra (m := m) h .verificaFormasPagamentoMFD
    (h.formas m.dev.1) (h.tabelas_formas m.dev.1)
  generalize hrun : exec (c.busca bib.espia q) m = res
  cases c with
  | totalizadorBase d =>
    have hnone : idxElement (q.take Base.sizeTotcnf) m.drv.totCnf = none := hidx
    have hcons : exec (consulta bib.espia.toDll bib.espia.verificaTotalizadoresNaoFiscaisMFD) m =
      _ := hx
    simp only [busca, Base.getTotalizadorCnf, exec_bind, exec_get, hnone, hcons, exec_altera,
      exec_pure] at hrun
    subst hrun
    exact ⟨_, rfl, ⟨hleu.fake, hleu.atos, hleu.tabelas⟩, rfl⟩
  | totalizador d tipo =>
    have hcons : exec (consulta bib.espia.toDll bib.espia.verificaTotalizadoresNaoFiscaisMFD) m =
      _ := hx
    rw [busca, getTotalizadorCnf_carrega hidx, exec_bind_ok hcons] at hrun
    subst hrun
    refine ⟨_, rfl, ⟨hleu.fake, hleu.atos, hleu.tabelas⟩, ?_⟩
    exact (List.append_nil _).symm
  | forma f vinc =>
    have hcons : exec (consulta bib.espia.toDll bib.espia.verificaFormasPagamentoMFD) m = _ := hy
    rw [busca, getIdFormaPgto_carrega hidx, exec_bind_ok hcons] at hrun
    subst hrun
    rw [naTabela, quadro, ultimoIdx_map, cheia, fixos, List.append_nil, List.map_map]
    exact ⟨_, rfl, ⟨hleu'.fake, hleu'.atos, hleu'.tabelas⟩, rfl⟩

/-- A name in a table has no blanks around it. -/
theorem trim_of_mem_quadro {c : Cadastro} {d : δ} {nome : Str} (h : nome ∈ c.quadro bib d) :
    Str.trim nome = nome := by
  cases c <;> obtain ⟨x, -, rfl⟩ := List.mem_map.1 h <;> exact Str.trim_trim _

/-- What is kept of a slot is not blank. -/
theorem trim_guarda_ne_nil (c : Cadastro) {nome : Str} (h : Str.trim nome = nome) :
    Str.trim (c.guarda nome) ≠ [] := by
  have hmarca : Str.trim txtAvailable ≠ [] := by decide
  have hguardado : Str.trim (guardado nome) ≠ [] := by
    unfold guardado
    split
    · exact hmarca
    · rwa [h]
  cases c with
  | totalizadorBase d =>
    simp only [guarda]
    split
    · rename_i hprog
      rw [h]
      rintro rfl
      simp [Base.programado] at hprog
    · exact hmarca
  | totalizador d tipo => exact hguardado
  | forma f vinc => exact hguardado

/-- No slot is kept under a blank name. -/
theorem idxElement_nil (c : Cadastro) (d : δ) :
    idxElement [] (c.cheia (c.quadro bib d)) = none := by
  rw [idxElement, List.findIdx?_eq_none_iff]
  intro one hone
  rw [Bool.eq_false_iff]
  intro hnil
  have htrim := (strIequals_nil_right one).1 hnil
  obtain hone | hone := List.mem_append.1 hone
  · obtain ⟨nome, hnome, rfl⟩ := List.mem_map.1 hone
    exact trim_guarda_ne_nil c (trim_of_mem_quadro hnome) htrim
  · cases c with
    | totalizadorBase d =>
      have hfixos : ∀ one ∈ [txtSangria, txtSuprimento], Str.trim one ≠ [] := by decide
      exact hfixos one hone htrim
    | totalizador d tipo => cases hone
    | forma f vinc => cases hone

/-- The first slot that the driver has marked as free. -/
def vaga (c : Cadastro) (nomes : List Str) : Option ℕ :=
  nomes.findIdx? fun nome => c.guarda nome = txtAvailable

theorem findIdx?_cheia (c : Cadastro) (nomes : List Str) :
    (c.cheia nomes).findIdx? (· = txtAvailable) = c.vaga nomes := by
  have hfixos : c.fixos.findIdx? (· = txtAvailable) = none := by
    cases c with
    | totalizadorBase d =>
      have hne : ∀ one ∈ [txtSangria, txtSuprimento], decide (one = txtAvailable) = false := by
        decide
      exact List.findIdx?_eq_none_iff.2 hne
    | totalizador d tipo => rfl
    | forma f vinc => rfl
  rw [cheia, List.findIdx?_append, hfixos, Option.map_none, Option.or_none, List.findIdx?_map]
  rfl

/-- The table is read once more, and the first free slot taken from it. -/
theorem exec_prox (h : bib.Mostra) {c : Cadastro} {d : δ}
    (hkept : c.kept m.drv = c.cheia (c.quadro bib d)) :
    ∃ t, exec (c.prox bib.espia) m =
      (.ok ((c.vaga (c.quadro bib m.dev.1)).elim (-1) Int.ofNat), t) ∧ Leu bib m t := by
  have hidx : idxElement (([] : Str).take c.tam) (c.kept m.drv) = none := by
    rw [List.take_nil, hkept]
    exact idxElement_nil c d
  obtain ⟨t, ht, hleu, hcheia⟩ := exec_busca_lida h hidx
  refine ⟨t, ?_, hleu⟩
  rw [prox, exec_bind_ok ht, exec_bind_ok (exec_get t), exec_pure, hcheia, findIdx?_cheia]

/-! ## The run of an operation -/

/-- The number of the slot that is named: the one marked as free, counted from one, or 0. -/
def slot (c : Cadastro) (nomes : List Str) : ℕ := (c.vaga nomes).elim 0 (· + 1)

theorem elim_vaga (c : Cadastro) (nomes : List Str) :
    (c.vaga nomes).elim (-1) Int.ofNat + 1 = (c.slot nomes : ℤ) := by
  rw [slot]
  cases c.vaga nomes with
  | none => rfl
  | some p => rfl

theorem length_quadro_le (c : Cadastro) (bib : Biblioteca δ) (d : δ) :
    (c.quadro bib d).length ≤ 30 := by
  have hregs : ∀ k (buffer : Str), (registros k buffer).length = k := by
    intro k
    induction k with
    | zero => exact fun _ => rfl
    | succ k ih => exact fun buffer => congrArg (· + 1) (ih _)
  cases c with
  | totalizadorBase d => simp [quadro, Base.totalizadores, Base.totalTotcnf]
  | totalizador d tipo => simp [quadro, totalizadores]
  | forma f vinc => simp [quadro, hregs, totalFpgto, tamRegFpgto]

theorem slot_le (c : Cadastro) (bib : Biblioteca δ) (d : δ) : c.slot (c.quadro bib d) ≤ 30 := by
  rw [slot]
  cases hp : c.vaga (c.quadro bib d) with
  | none => exact Nat.zero_le _
  | some p =>
    have hlt := (List.findIdx?_eq_some_iff_getElem.1 hp).1
    exact Nat.le_trans hlt (c.length_quadro_le bib d)

theorem quadro_of_leu {t : Maquina F (δ × List Chamada)} (h : Leu bib m t) (c : Cadastro) :
    c.quadro bib t.dev.1 = c.quadro bib m.dev.1 := by
  cases c <;> simp only [Cadastro.quadro, h.tabelas]

theorem acao_injective (c : Cadastro) {i j : ℤ} (h : c.acao i = c.acao j) : i = j := by
  cases c with
  | totalizadorBase d => simpa [acao] using h
  | totalizador d tipo => simpa [acao] using h
  | forma f vinc =>
    simp only [acao, Acao.programaFormaPagamentoCV0909.injEq, and_true] at h
    exact Str.intoString_injective h

/-- A name that is found is not programmed. -/
theorem exec_prog_achado (n : Numeric F) (h : bib.Mostra) {c : Cadastro} {i : ℕ}
    (hacha : c.acha (c.kept m.drv) (c.quadro bib m.dev.1) c.descr = some i) :
    ∃ t, exec (c.prog n bib.espia) m = exec c.repetida t ∧ Leu bib m t := by
  rw [prog_eq]
  cases hidx : idxElement (c.descr.take c.tam) (c.kept m.drv) with
  | some j =>
    have hrun : exec (c.busca bib.espia c.descr) m = (.ok (some (j + 1)), m) :=
      exec_busca_kept hidx
    exact ⟨m, exec_bind_ok hrun, .refl bib m⟩
  | none =>
    obtain ⟨t, ht, hleu, -⟩ := exec_busca_lida h hidx
    rw [acha, hidx] at hacha
    have hsome : c.naTabela c.descr (c.quadro bib m.dev.1) = some i := hacha
    rw [hsome] at ht
    exact ⟨t, exec_bind_ok ht, hleu⟩

/-- A name that is not found is given to the slot behind the free position. -/
theorem exec_prog_novo {n : Numeric F} (hn : ∀ k : ℕ, k < 100 →
    ∃ aux, n.sprintf "%02.0f" (n.ofInt k) = some aux) (h : bib.Mostra) {c : Cadastro}
    (hacha : c.acha (c.kept m.drv) (c.quadro bib m.dev.1) c.descr = none) :
    ∃ t, exec (c.prog n bib.espia) m = exec (do
      manda bib.espia (c.acao (c.slot (c.quadro bib m.dev.1)))
      c.esquece) t ∧ Leu bib m t := by
  rw [prog_eq]
  cases hidx : idxElement (c.descr.take c.tam) (c.kept m.drv) with
  | some j =>
    rw [acha, hidx] at hacha
    cases hacha
  | none =>
    obtain ⟨t, ht, hleu, hkept⟩ := exec_busca_lida h hidx
    rw [acha, hidx] at hacha
    have hnone : c.naTabela c.descr (c.quadro bib m.dev.1) = none := hacha
    rw [hnone] at ht
    obtain ⟨u, hu, hleu'⟩ := exec_prox h hkept
    rw [quadro_of_leu hleu c] at hu
    obtain ⟨aux, haux⟩ := hn (c.slot (c.quadro bib m.dev.1))
      (Nat.lt_of_le_of_lt (c.slot_le bib _) (by decide))
    have htexto : ∃ txt, exec (c.texto n (c.slot (c.quadro bib m.dev.1))) u = (.ok txt, u) := by
      cases c with
      | totalizadorBase d => exact ⟨_, rfl⟩
      | totalizador d tipo => exact ⟨_, exec_formatInteiro_some haux u⟩
      | forma f vinc => exact ⟨_, rfl⟩
    obtain ⟨txt, htxt⟩ := htexto
    refine ⟨u, ?_, hleu.trans hleu'⟩
    rw [exec_bind_ok ht]
    dsimp only
    rw [exec_bind_ok hu, elim_vaga, exec_bind_ok htxt]

variable (bib) in
/-- What an operation leaves behind, once it has a slot. -/
theorem exec_programa (c : Cadastro) (k : ℤ) (m : Maquina F (δ × List Chamada)) :
    ∃ r t, exec (do
        manda bib.espia (c.acao k)
        c.esquece) m = (r, t) ∧
      (m.drv.fake = true ∧ r = .ok () ∧ t.atos = m.atos ∨
        m.drv.fake = false ∧ t.atos = m.atos ++ [.acao (c.acao k)]) := by
  have hesquece : ∀ t : Maquina F (δ × List Chamada),
      ∃ u, exec (c.esquece : Prog F _ Unit) t = (.ok (), u) ∧ u.atos = t.atos := by
    intro t
    cases c <;> exact ⟨_, rfl, rfl⟩
  cases hf : m.drv.fake with
  | true =>
    obtain ⟨u, hu, hatos⟩ := hesquece m
    exact ⟨_, u, (exec_bind_ok (exec_manda_fake bib.espia _ hf)).trans hu, .inl ⟨rfl, rfl, hatos⟩⟩
  | false =>
    obtain ⟨r, t, ht, hsegue, -, ⟨rfl, -⟩ | ⟨⟨msg, rfl⟩, -⟩⟩ := exec_manda_espia bib (c.acao k) hf
    · obtain ⟨u, hu, hatos⟩ := hesquece t
      exact ⟨_, u, (exec_bind_ok ht).trans hu, .inr ⟨rfl, hatos.trans hsegue.atos⟩⟩
    · exact ⟨_, t, exec_bind_error ht, .inr ⟨rfl, hsegue.atos⟩⟩

/-! ## Free slots only -/

/-- The operation issues calls that give the name to free slots of the device only, and raises an
`ecf_exp` and issues none when there is no free slot. -/
def SoEmVaga (n : Numeric F) (bib : Biblioteca δ) (c : Cadastro)
    (m : Maquina F (δ × List Chamada)) : Prop :=
  ∃ novas : List Acao,
    (exec (c.prog n bib.espia) m).2.atos = m.atos ++ novas.map .acao ∧
    (∀ a ∈ novas, ∃ k, (c.mostrados bib m.dev.1)[k]? = some [] ∧ a = c.acao (k + 1 : ℕ)) ∧
    ([] ∉ c.mostrados bib m.dev.1 → Recusada (exec (c.prog n bib.espia) m).1 ∧ novas = [])

/-- A name that is found is an error. -/
def RecusaRepetida : Cadastro → Prop
  | totalizadorBase _ => True
  | totalizador _ _ | forma _ _ => False

/-- The first slot that the driver has marked as free is blank on the device; in fake mode, and for
a name that is found and no error, there is a free slot. -/
def Livre (bib : Biblioteca δ) (c : Cadastro) (m : Maquina F (δ × List Chamada)) : Prop :=
  match c.acha (c.kept m.drv) (c.quadro bib m.dev.1) c.descr with
  | some _ => c.RecusaRepetida ∨ [] ∈ c.mostrados bib m.dev.1
  | none =>
    if m.drv.fake then [] ∈ c.mostrados bib m.dev.1
    else ∃ p, c.vaga (c.quadro bib m.dev.1) = some p ∧ (c.mostrados bib m.dev.1)[p]? = some []

theorem exec_repetida (c : Cadastro) (m : Maquina F (δ × List Chamada)) :
    (exec (c.repetida : Prog F _ Unit) m).2 = m ∧
      (Recusada (exec (c.repetida : Prog F _ Unit) m).1 ↔ c.RecusaRepetida) := by
  have hok : ¬ Recusada (.ok () : Except Excp Unit) := by
    rintro ⟨msg, hmsg⟩
    cases hmsg
  cases c with
  | totalizadorBase d => exact ⟨rfl, iff_of_true ⟨_, rfl⟩ trivial⟩
  | totalizador d tipo => exact ⟨rfl, iff_of_false hok id⟩
  | forma f vinc => exact ⟨rfl, iff_of_false hok id⟩

theorem slot_eq_iff {c : Cadastro} {nomes : List Str} {p : ℕ} :
    c.slot nomes = p + 1 ↔ c.vaga nomes = some p := by
  rw [slot]
  cases c.vaga nomes <;> simp

/-- **New names go to free slots only**, and to none when there is none, exactly when the first slot
marked as free is blank. -/
theorem soEmVaga_iff {n : Numeric F} (hn : ∀ k : ℕ, k < 100 →
    ∃ aux, n.sprintf "%02.0f" (n.ofInt k) = some aux) (h : bib.Mostra) (c : Cadastro)
    (m : Maquina F (δ × List Chamada)) : c.SoEmVaga n bib m ↔ c.Livre bib m := by
  unfold SoEmVaga Livre
  cases hacha : c.acha (c.kept m.drv) (c.quadro bib m.dev.1) c.descr with
  | some i =>
    obtain ⟨t, ht, hleu⟩ := exec_prog_achado n h hacha
    obtain ⟨hstate, hrec⟩ := exec_repetida c t
    rw [ht, hstate, hrec]
    constructor
    · rintro ⟨novas, -, -, hcheio⟩
      by_cases hvazia : [] ∈ c.mostrados bib m.dev.1
      · exact .inr hvazia
      · exact .inl (hcheio hvazia).1
    · intro hlivre
      refine ⟨[], by rw [hleu.atos, List.map_nil, List.append_nil], by simp, fun hcheio => ?_⟩
      exact ⟨hlivre.resolve_right hcheio, rfl⟩
  | none =>
    obtain ⟨t, ht, hleu⟩ := exec_prog_novo hn h hacha
    obtain ⟨r, u, hu, hcase⟩ := exec_programa bib c (c.slot (c.quadro bib m.dev.1)) t
    rw [ht, hu]
    dsimp only
    rw [hleu.fake, hleu.atos] at hcase
    obtain ⟨hfake, rfl, hatos⟩ | ⟨hfake, hatos⟩ := hcase
    · rw [hatos, if_pos hfake]
      constructor
      · rintro ⟨novas, -, -, hcheio⟩
        by_contra hvazia
        obtain ⟨⟨msg, hmsg⟩, -⟩ := hcheio hvazia
        cases hmsg
      · intro hvazia
        exact ⟨[], (List.append_nil _).symm, by simp, fun hcheio => absurd hvazia hcheio⟩
    · rw [hatos, if_neg (by rw [hfake]; exact Bool.false_ne_true)]
      constructor
      · rintro ⟨novas, hnovas, hslots, -⟩
        have hlista : [Chamada.acao (c.acao (c.slot (c.quadro bib m.dev.1)))] =
            novas.map .acao := List.append_cancel_left hnovas
        obtain ⟨a, ha, heq⟩ := List.mem_map.1 (hlista ▸ List.mem_singleton_self _)
        obtain ⟨k, hk, rfl⟩ := hslots a ha
        have hacao := acao_injective c (Chamada.acao.inj heq)
        exact ⟨k, slot_eq_iff.1 (Int.ofNat.inj hacao).symm, hk⟩
      · rintro ⟨p, hp, hblank⟩
        refine ⟨[c.acao (c.slot (c.quadro bib m.dev.1))], rfl, ?_, fun hcheio => ?_⟩
        · intro a ha
          rw [List.mem_singleton.1 ha, slot_eq_iff.2 hp]
          exact ⟨p, hblank, rfl⟩
        · exact absurd (List.mem_of_getElem? hblank) hcheio

/-! ### Full tables -/

/-- A library over a device with a table of totalizers. -/
def comTotais (T : TabelaTotcnf) : Biblioteca Unit :=
  { sempreOk fun _ => [] with
    verificaTotalizadoresNaoFiscaisMFD := fun d => ((bematechOk, T.codifica), d) }

theorem mostra_comTotais (T : TabelaTotcnf) : (comTotais T).Mostra where
  retorno _ := rfl
  tabelas_retorno _ := rfl
  formas _ := rfl
  tabelas_formas _ := rfl
  totais _ := rfl
  tabelas_totais _ := rfl
  relatorios _ := rfl
  tabelas_relatorios _ := rfl

/-- Thirty totalizers, `T0` to `T29`. -/
def totaisCheios : TabelaTotcnf where
  regs := (List.range totalTotcnf).map fun i =>
    (('T' :: Str.intoString i ++ List.replicate 16 ' ' ++ ['.', '.']).take 19, ',')
  length_regs := by decide
  largura := by decide +kernel
  limpo := by decide +kernel

/-- A machine that has issued no call. -/
def semAtos : Maquina ℤ (Unit × List Chamada) := .ligada false true [] ((), [])

theorem doisDigitos_escreve (k : ℕ) (_ : k < 100) :
    ∃ aux, Numeric.doisDigitos.sprintf "%02.0f" (Numeric.doisDigitos.ofInt k) = some aux :=
  ⟨_, rfl⟩

/-- A new totalizer. -/
def fundo : Cadastro := totalizador "FUNDO".toList ['E']

/-- On a device without totalizers the first one goes to the first slot. -/
theorem soEmVaga_iff_fundo :
    fundo.SoEmVaga Numeric.doisDigitos (comTotais ImpressoraTabelas.semTotais) semAtos := by
  refine (soEmVaga_iff doisDigitos_escreve (mostra_comTotais _) _ _).2 ?_
  have hacha : fundo.acha (fundo.kept semAtos.drv) (fundo.quadro
      (comTotais ImpressoraTabelas.semTotais) semAtos.dev.1) fundo.descr = none := by
    decide +kernel
  unfold Livre
  rw [hacha]
  exact ⟨0, by decide +kernel, by decide +kernel⟩

/-- A first slot with the name of a fixed totalizer, and free slots. -/
def sangriaNoInicio : TabelaTotcnf where
  regs := ("Sangria".toList ++ List.replicate 12 ' ', ',') ::
    List.replicate 29 (List.replicate 19 ' ', ',')
  length_regs := by decide
  largura := by decide
  limpo := by decide

/-- **On a full table slot 0 is named**, and the operation returns; the base class gives a new name
to a slot that has one. -/
theorem totaisCheios_slot_zero :
    ([] ∉ fundo.mostrados (comTotais totaisCheios) () ∧
      (exec (fundo.prog Numeric.doisDigitos (comTotais totaisCheios).espia) semAtos).1 = .ok () ∧
      (exec (fundo.prog Numeric.doisDigitos (comTotais totaisCheios).espia) semAtos).2.atos =
        [.acao (.nomeiaTotalizadorNaoSujeitoIcmsCV0909 0 "FUNDO".toList ['E'])]) ∧
    ((totalizadorBase "FUNDO".toList).mostrados (comTotais sangriaNoInicio) ())[0]? =
      some txtSangria ∧
    (exec ((totalizadorBase "FUNDO".toList).prog Numeric.doisDigitos
      (comTotais sangriaNoInicio).espia) semAtos).2.atos =
        [.acao (.nomeiaTotalizadorNaoSujeitoIcms 1 "FUNDO".toList)] := by
  decide +kernel

end Cadastro

end Spooler
