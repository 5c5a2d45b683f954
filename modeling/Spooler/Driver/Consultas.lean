import Spooler.Driver.Biblioteca
import Spooler.Driver.SequenciaCcd
import Spooler.Driver.Totalizadores
import Spooler.Foundations.Slots

/-!
# Searches by name

`getIdFormaPgto` and `getTotalizadorCnf` search what the driver keeps of a table of the device and
load the table when they find nothing there. `ImpressoraTabelas` is a library over a device with
both tables; what the driver keeps of each is nothing or the whole table, the free slots marked
(`guarda_run`), whatever was searched for before and whether or not the device has answered. With
descriptions in use that are pairwise different (`Distintas`) both ways of searching find the only
record there is, so **a search answers with the slot of the record it names, or with none**,
`consulta_confere`. The texts that a marked slot answers to name no record (`Procuravel`).
-/

namespace Spooler

open Foundations Driver

/-! ## A table, and what is kept of it -/

section Quadro

variable {nomes : List Str} {q nome : Str} {o : Option ℕ}

/-- The descriptions in use are pairwise different, their case aside. -/
def Distintas (nomes : List Str) : Prop :=
  nomes.Pairwise fun a b => a ≠ [] → b ≠ [] → Str.strIequals a b = false

instance (nomes : List Str) : Decidable (Distintas nomes) :=
  inferInstanceAs (Decidable (nomes.Pairwise fun a b =>
    a ≠ [] → b ≠ [] → Str.strIequals a b = false))

/-- The text is neither blank nor the mark of a free slot. -/
structure Procuravel (q : Str) : Prop where
  naoVazio : Str.trim q ≠ []
  naoMarca : Str.strIequals q txtAvailable = false

/-- The answer of a search among the descriptions of a table: the slot, counted from one, that has
the one searched for, or none. -/
def Confere (nomes : List Str) (q : Str) (r : Option ℕ) : Prop :=
  (∀ k, r = some k ↔ 1 ≤ k ∧ ∃ nome, nomes[k - 1]? = some nome ∧ Str.strIequals q nome = true) ∧
  (r = none ↔ ∀ nome ∈ nomes, Str.strIequals q nome = false)

theorem confere_of_locates (h : Locates (Str.strIequals q) nomes o) :
    Confere nomes q (o.map (· + 1)) := by
  refine ⟨fun k => ?_, by rw [Option.map_eq_none_iff]; exact h.eq_none_iff⟩
  rw [Option.map_eq_some_iff]
  constructor
  · rintro ⟨i, hi, rfl⟩
    exact ⟨Nat.succ_pos i, (h i).1 hi⟩
  · rintro ⟨hk, hnome⟩
    exact ⟨k - 1, (h _).2 hnome, Nat.sub_add_cancel hk⟩

theorem strIequals_nil_right (q : Str) : Str.strIequals q [] = true ↔ Str.trim q = [] := by
  rw [Str.strIequals_iff]
  exact List.map_eq_nil_iff

theorem Distintas.atMostOne (h : Distintas nomes) (hq : Str.trim q ≠ []) :
    AtMostOne (Str.strIequals q) nomes := by
  have hne : ∀ {nome}, Str.strIequals q nome = true → nome ≠ [] := by
    rintro nome hn rfl
    exact hq ((strIequals_nil_right q).1 hn)
  refine atMostOne_of_pairwise (h.imp fun {a b} hab hp => ?_)
  have heq : Str.strIequals a b = true :=
    Str.strIequals_iff.2 ((Str.strIequals_iff.1 hp.1).symm.trans (Str.strIequals_iff.1 hp.2))
  rw [hab (hne hp.1) (hne hp.2)] at heq
  cases heq

/-- What is kept for a slot is found under the same texts as its description. -/
theorem Procuravel.strIequals_guardado (hq : Procuravel q) (nome : Str) :
    Str.strIequals (guardado nome) q = Str.strIequals q nome := by
  rw [Str.strIequals_comm]
  unfold guardado
  split
  · rename_i hnil
    rw [hnil, hq.naoMarca, Bool.eq_false_iff.2 (mt (strIequals_nil_right q).1 hq.naoVazio)]
  · rfl

/-- **A search among the names kept.** -/
theorem Distintas.locates_idxElement (h : Distintas nomes) (hq : Procuravel q) :
    Locates (Str.strIequals q) nomes (idxElement q (nomes.map guardado)) := by
  have hfun : idxElement q (nomes.map guardado) = nomes.findIdx? (Str.strIequals q) := by
    rw [idxElement, List.findIdx?_map]
    exact congrFun (congrArg List.findIdx? (funext hq.strIequals_guardado)) nomes
  rw [hfun]
  exact (h.atMostOne hq.naoVazio).locates_findIdx?

/-- **A search among the records of the table just read.** -/
theorem Distintas.locates_ultimoIdx {p : Str → Bool} (h : Distintas nomes) (hq : Str.trim q ≠ [])
    (hp : ∀ nome ∈ nomes, p nome = Str.strIequals q nome) :
    Locates (Str.strIequals q) nomes (ultimoIdx p nomes) := by
  refine (h.atMostOne hq).locates (fun i hi => ?_) fun hnone nome hnome => ?_
  · obtain ⟨nome, hnome, hpnome⟩ := ultimoIdx_eq_some hi
    exact ⟨nome, hnome, by rw [← hp nome (List.mem_of_getElem? hnome), hpnome]⟩
  · rw [← hp nome hnome]
    exact ultimoIdx_eq_none.1 hnone nome hnome

end Quadro

/-! ## The tables -/

namespace TabelaFpgto

/-- The descriptions of the payment forms. -/
def descricoes (T : TabelaFpgto) : List Str := T.regs.map fun reg => Str.trim (reg.take sizeFpgto)

theorem descrFpgto_eq (T : TabelaFpgto) {reg : Str} (h : reg ∈ T.regs) :
    descrFpgto reg = Str.trim (reg.take sizeFpgto) := by
  have hlen := T.largura reg h
  rw [descrFpgto, Str.cstr_eq_self (T.limpo reg h).2, if_neg (by rw [hlen]; exact lt_irrefl _)]

theorem descricoes_eq (T : TabelaFpgto) : T.descricoes = T.regs.map descrFpgto :=
  List.map_congr_left fun _ hreg => (T.descrFpgto_eq hreg).symm

/-- The names that the driver keeps are those of the slots, the free ones marked. -/
theorem map_nomeFpgto (T : TabelaFpgto) :
    T.regs.map nomeFpgto = T.descricoes.map guardado := by
  rw [descricoes_eq, List.map_map]
  rfl

end TabelaFpgto

/-- The totalizers programmed into a device, in records of 19 characters, each with a separator
behind it. -/
structure TabelaTotcnf where
  regs : List (Str × Char)
  length_regs : regs.length = totalTotcnf
  largura : ∀ reg ∈ regs, reg.1.length = 19
  limpo : ∀ reg ∈ regs, '\x00' ∉ reg.1

namespace TabelaTotcnf

/-- The records as the library writes them. -/
def codifica (T : TabelaTotcnf) : Str := T.regs.flatMap fun reg => reg.1 ++ [reg.2]

/-- The descriptions of the totalizers. -/
def descricoes (T : TabelaTotcnf) : List Str :=
  T.regs.map fun reg => Str.trim (reg.1.take sizeTotcnf)

/-- The driver reads the descriptions of the table. -/
theorem totalizadores_codifica (T : TabelaTotcnf) :
    totalizadores T.codifica = T.descricoes := by
  have hlen : ∀ reg ∈ T.regs, (reg.1 ++ [reg.2]).length = 20 := by
    intro reg hreg
    rw [List.length_append, T.largura reg hreg]
    rfl
  rw [totalizadores, descricoes, codifica]
  refine map_range_eq_map T.length_regs fun i hi => ?_
  have hmem := List.getElem_mem hi
  have htam : sizeTotcnf ≤ T.regs[i].1.length := by
    rw [T.largura _ hmem]
    decide
  have hnul : '\x00' ∉ T.regs[i].1.take sizeTotcnf := fun h =>
    T.limpo _ hmem (List.mem_of_mem_take h)
  rw [drop_flatMap_getElem hlen hi, List.append_assoc, List.take_append_of_le_length htam,
    Str.cstr_eq_self hnul]

end TabelaTotcnf

/-- A library over a device with both tables. -/
structure ImpressoraTabelas (δ : Type) extends ImpressoraFpgto δ where
  totais : TabelaTotcnf
  totais_ok : ∀ d, (verificaTotalizadoresNaoFiscaisMFD d).1.1 = bematechOk →
    (verificaTotalizadoresNaoFiscaisMFD d).1.2 = totais.codifica

/-! ## One search -/

section Busca

variable {F δ : Type} {dll : Dll δ} {m : Maquina F δ} {q : Str}

/-- A search that finds nothing among the names kept loads the table. -/
theorem getIdFormaPgto_carrega (h : idxElement (q.take sizeFpgto) m.drv.fpgto = none) :
    exec (getIdFormaPgto dll q) m = exec (do
      let buffer ← consulta dll dll.verificaFormasPagamentoMFD
      let regs := registros totalFpgto buffer
      altera fun drv => { drv with fpgto := regs.map nomeFpgto, vincCcd := regs.map vincFpgto }
      pure ((ultimoIdx (fun reg => Str.strIequals (q.take sizeFpgto) (descrFpgto reg)) regs).map
        (· + 1)) : Prog F δ (Option ℕ)) m := by
  rw [getIdFormaPgto, exec_bind_ok (exec_get m), h]
  simp only [consulta, bind_assoc, pure_bind]
  rw [exec_bind_ok (exec_get m)]

theorem getTotalizadorCnf_carrega (h : idxElement (q.take sizeTotcnf) m.drv.totCnf = none) :
    exec (getTotalizadorCnf dll q) m = exec (do
      let buffer ← consulta dll dll.verificaTotalizadoresNaoFiscaisMFD
      let nomes := totalizadores buffer
      altera fun drv => { drv with totCnf := nomes.map guardado }
      pure (posicao q nomes) : Prog F δ (Option ℕ)) m := by
  rw [getTotalizadorCnf, exec_bind_ok (exec_get m), h]
  simp only [consulta, bind_assoc, pure_bind]
  rw [exec_bind_ok (exec_get m)]
  rfl

end Busca

namespace ImpressoraTabelas

variable {F δ : Type} {imp : ImpressoraTabelas δ} {m : Maquina F δ} {q : Str}

/-- The driver keeps nothing or the whole table, of payment forms and of totalizers. -/
structure Guarda (imp : ImpressoraTabelas δ) (drv : Driver F) : Prop where
  fiel : Fiel imp.tabela drv
  totais : drv.totCnf = [] ∨ drv.totCnf = imp.totais.descricoes.map guardado

theorem ne_nil_of_idxElement {kept : List Str} {i : ℕ} (h : idxElement q kept = some i) :
    kept ≠ [] := by
  rintro rfl
  cases h

/-- **A payment form is found where the table has it**, or the device has refused the table. -/
theorem wp_getIdFormaPgto (h : Guarda imp m.drv) :
    Wp (getIdFormaPgto imp.toDll q)
      (fun r t => Guarda imp t.drv ∧ (r.isSome → t.drv.vincCcd = imp.tabela.regs.map vincFpgto) ∧
        (Distintas imp.tabela.descricoes → Procuravel (q.take sizeFpgto) →
          Confere imp.tabela.descricoes (q.take sizeFpgto) r))
      (fun e t => Guarda imp t.drv ∧
        (exec (consulta imp.toDll imp.verificaFormasPagamentoMFD) m).1 = .error e) m := by
  cases hidx : idxElement (q.take sizeFpgto) m.drv.fpgto with
  | some i =>
    simp only [getIdFormaPgto, wp_bind, wp_get, hidx]
    obtain hnil | ⟨hkept, hvinc⟩ := h.fiel
    · exact absurd hnil (ne_nil_of_idxElement hidx)
    · refine ⟨h, fun _ => hvinc, fun hd hq => ?_⟩
      have hloc := hd.locates_idxElement hq
      rw [← TabelaFpgto.map_nomeFpgto, ← hkept, hidx] at hloc
      exact confere_of_locates hloc
  | none =>
    obtain ⟨r, x, d, hx, ⟨hok, rfl⟩ | ⟨msg, rfl⟩⟩ :=
      exec_consulta imp.toDll imp.verificaFormasPagamentoMFD m
    · rw [imp.formas_ok _ hok] at hx
      unfold Wp
      rw [getIdFormaPgto_carrega hidx, exec_bind_ok hx]
      simp only [TabelaFpgto.registros_codifica]
      refine ⟨⟨.inr ⟨rfl, rfl⟩, h.totais⟩, fun _ => rfl, fun hd hq => ?_⟩
      have hloc := hd.locates_ultimoIdx hq.naoVazio fun _ _ => rfl
      rw [TabelaFpgto.descricoes_eq, ultimoIdx_map] at hloc
      rw [TabelaFpgto.descricoes_eq]
      exact confere_of_locates hloc
    · unfold Wp
      rw [getIdFormaPgto_carrega hidx, exec_bind_error hx, hx]
      exact ⟨⟨h.fiel, h.totais⟩, rfl⟩

/-- **A totalizer is found where the table has it**, or the device has refused the table. -/
theorem wp_getTotalizadorCnf (h : Guarda imp m.drv) :
    Wp (getTotalizadorCnf imp.toDll q)
      (fun r t => Guarda imp t.drv ∧ (Distintas imp.totais.descricoes →
        Procuravel (q.take sizeTotcnf) → Confere imp.totais.descricoes (q.take sizeTotcnf) r))
      (fun e t => Guarda imp t.drv ∧
        (exec (consulta imp.toDll imp.verificaTotalizadoresNaoFiscaisMFD) m).1 = .error e) m := by
  cases hidx : idxElement (q.take sizeTotcnf) m.drv.totCnf with
  | some i =>
    simp only [getTotalizadorCnf, wp_bind, wp_get, hidx]
    refine ⟨h, fun hd hq => ?_⟩
    have hloc := hd.locates_idxElement hq
    obtain hnil | hkept := h.totais
    · exact absurd hnil (ne_nil_of_idxElement hidx)
    · rw [← hkept, hidx] at hloc
      exact confere_of_locates hloc
  | none =>
    obtain ⟨r, x, d, hx, ⟨hok, rfl⟩ | ⟨msg, rfl⟩⟩ :=
      exec_consulta imp.toDll imp.verificaTotalizadoresNaoFiscaisMFD m
    · rw [imp.totais_ok _ hok] at hx
      unfold Wp
      rw [getTotalizadorCnf_carrega hidx, exec_bind_ok hx]
      simp only [TabelaTotcnf.totalizadores_codifica]
      refine ⟨⟨h.fiel, .inr rfl⟩, fun hd hq => ?_⟩
      have hp : ∀ nome ∈ imp.totais.descricoes,
          (nome ≠ [] && Str.strIequals (q.take sizeTotcnf) nome) =
            Str.strIequals (q.take sizeTotcnf) nome := by
        intro nome _
        by_cases hnil : nome = []
        · simp [hnil, mt (strIequals_nil_right _).1 hq.naoVazio]
        · simp [hnil]
      exact confere_of_locates (hd.locates_ultimoIdx hq.naoVazio hp)
    · unfold Wp
      rw [getTotalizadorCnf_carrega hidx, exec_bind_error hx, hx]
      exact ⟨⟨h.fiel, h.totais⟩, rfl⟩

/-! ## Any sequence of searches -/

end ImpressoraTabelas

/-- A search by name. -/
inductive Consulta
  | forma (fpgto : Str)
  | totalizador (tot : Str)

namespace Consulta

variable {F δ : Type}

/-- The text compared with the descriptions. -/
def corte : Consulta → Str
  | forma fpgto => fpgto.take sizeFpgto
  | totalizador tot => tot.take sizeTotcnf

/-- The function of the driver. -/
def prog (dll : Dll δ) : Consulta → Prog F δ (Option ℕ)
  | forma fpgto => getIdFormaPgto dll fpgto
  | totalizador tot => getTotalizadorCnf dll tot

/-- The call that reads the table. -/
def le (dll : Dll δ) : Consulta → δ → (ℤ × Str) × δ
  | forma _ => dll.verificaFormasPagamentoMFD
  | totalizador _ => dll.verificaTotalizadoresNaoFiscaisMFD

/-- The descriptions in the table of the device. -/
def descricoes (imp : ImpressoraTabelas δ) : Consulta → List Str
  | forma _ => imp.tabela.descricoes
  | totalizador _ => imp.totais.descricoes

/-- The machine behind a search, however it ended. -/
def passo (dll : Dll δ) (m : Maquina F δ) (c : Consulta) : Maquina F δ := (exec (c.prog dll) m).2

end Consulta

namespace ImpressoraTabelas

variable {F δ : Type} {imp : ImpressoraTabelas δ} {m : Maquina F δ}

/-- What a search answers, and what it keeps. -/
theorem wp_consulta (h : Guarda imp m.drv) (c : Consulta) :
    Wp (c.prog imp.toDll)
      (fun r t => Guarda imp t.drv ∧ (Distintas (c.descricoes imp) → Procuravel c.corte →
        Confere (c.descricoes imp) c.corte r))
      (fun e t => Guarda imp t.drv ∧ (exec (consulta imp.toDll (c.le imp.toDll)) m).1 = .error e)
      m := by
  cases c with
  | totalizador tot => exact wp_getTotalizadorCnf h
  | forma fpgto =>
    exact (wp_getIdFormaPgto h).mono (fun _ _ hr => ⟨hr.1, hr.2.2⟩) fun _ _ he => he

theorem guarda_passo (h : Guarda imp m.drv) (c : Consulta) :
    Guarda imp (c.passo imp.toDll m).drv :=
  wp_state.1 ((wp_consulta h c).mono (fun _ _ hr => hr.1) fun _ _ he => he.1)

/-- **The driver keeps nothing or the whole table**, whatever was searched for. -/
theorem guarda_run (imp : ImpressoraTabelas δ) (fake ignorar : Bool)
    (specific : List (Str × Str)) (d : δ) (hist : List Consulta) :
    Guarda imp (run (Consulta.passo imp.toDll) (.ligada fake ignorar specific d) hist :
      Maquina F δ).drv := by
  have hinicio : Guarda imp (Maquina.ligada fake ignorar specific d : Maquina F δ).drv :=
    ⟨.inl rfl, .inl rfl⟩
  exact run_preserves (I := fun m : Maquina F δ => Guarda imp m.drv)
    (fun _ c hm => guarda_passo hm c) hinicio hist _ (run_mem_visited _ _ _)

/-- The flag of a record in use is the one the driver keeps. -/
theorem getVincFormaPgto_of_confere {drv : Driver F} {q : Str} {k : ℕ} {reg : Str}
    (hq : Str.trim q ≠ []) (hc : Confere imp.tabela.descricoes q (some k))
    (hvinc : drv.vincCcd = imp.tabela.regs.map vincFpgto)
    (hreg : imp.tabela.regs[k - 1]? = some reg) :
    getVincFormaPgto drv k = decide (reg[44]? = some '1') := by
  obtain ⟨hk, nome, hnome, higuais⟩ := (hc.1 k).1 rfl
  rw [ImpressoraFpgto.getVincFormaPgto_eq (Nat.ne_of_gt hk) hvinc, TabelaFpgto.vinculada, hreg]
  rw [TabelaFpgto.descricoes, List.getElem?_map, hreg] at hnome
  have hdescr : Str.trim (reg.take sizeFpgto) = nome := Option.some.inj hnome
  have hne : Str.trim (reg.take sizeFpgto) ≠ [] := by
    intro hnil
    rw [← hdescr, hnil] at higuais
    exact hq ((strIequals_nil_right q).1 higuais)
  simp [TabelaFpgto.vinculado, hne]

/-- **A search answers with the slot of the record it names**, counted from one, or with none when
there is no such record, whatever was searched for before; the slot of a payment form has its flag.
The only exceptions are those of a table that the device refuses. -/
theorem consulta_confere (imp : ImpressoraTabelas δ) (hformas : Distintas imp.tabela.descricoes)
    (htotais : Distintas imp.totais.descricoes) (fake ignorar : Bool)
    (specific : List (Str × Str)) (d : δ) (hist : List Consulta) (c : Consulta)
    (hc : Procuravel c.corte) :
    let m : Maquina F δ := run (Consulta.passo imp.toDll) (.ligada fake ignorar specific d) hist
    Wp (c.prog imp.toDll)
      (fun r t => Confere (c.descricoes imp) c.corte r ∧
        ∀ fpgto k reg, c = .forma fpgto → r = some k → imp.tabela.regs[k - 1]? = some reg →
          getVincFormaPgto t.drv k = decide (reg[44]? = some '1'))
      (fun e _ => (exec (consulta imp.toDll (c.le imp.toDll)) m).1 = .error e) m := by
  intro m
  have h : Guarda imp m.drv := guarda_run imp fake ignorar specific d hist
  cases c with
  | totalizador tot =>
    refine (wp_getTotalizadorCnf h).mono (fun r t hr => ⟨hr.2 htotais hc, ?_⟩) fun _ _ he => he.2
    intro fpgto k reg hforma
    cases hforma
  | forma fpgto =>
    refine (wp_getIdFormaPgto h).mono (fun r t hr => ⟨hr.2.2 hformas hc, ?_⟩) fun _ _ he => he.2
    rintro fpgto' k reg - rfl hreg
    exact getVincFormaPgto_of_confere hc.naoVazio (hr.2.2 hformas hc) (hr.2.1 rfl) hreg

/-! ### A device with free slots -/

/-- Thirty free totalizers. -/
def semTotais : TabelaTotcnf where
  regs := List.replicate totalTotcnf (List.replicate 19 ' ', ',')
  length_regs := List.length_replicate
  largura := by decide
  limpo := by decide

/-- Cash, a card and eighteen free payment forms, and no totalizers. -/
def comVagas : ImpressoraTabelas Unit where
  toImpressoraFpgto := { ImpressoraFpgto.comCartao with
    verificaTotalizadoresNaoFiscaisMFD := fun d => ((bematechOk, semTotais.codifica), d)
    formas_ok := fun _ _ => rfl }
  totais := semTotais
  totais_ok _ _ := rfl

/-- The mark of a free slot, in capitals. -/
def marcaMaiuscula : Str := "<AVAILABLE>".toList

/-- A text behind as many blanks as are compared. -/
def recuado : Str := List.replicate 15 ' ' ++ ['X']

/-- The card is found behind another search, in the second slot. -/
theorem consulta_confere_cartao :
    Confere comVagas.tabela.descricoes "CARTAO".toList (some 2) := by
  have h := consulta_confere (F := ℤ) comVagas (by decide +kernel) (by decide +kernel) false true []
    () [.totalizador "Fundo".toList] (.forma "CARTAO".toList) ⟨by decide, by decide⟩
  have hrun : (exec (getIdFormaPgto comVagas.toDll "CARTAO".toList)
      (run (Consulta.passo comVagas.toDll) (.ligada false true [] () : Maquina ℤ Unit)
        [.totalizador "Fundo".toList])).1 = .ok (some 2) := by
    decide +kernel
  exact (Wp.of_ok h hrun).1

/-- **Once the table was loaded a free slot answers to its mark in capitals**, which is the
description of no record, and the free totalizers do not answer to blanks, which is theirs. -/
theorem marca_responde :
    Distintas comVagas.tabela.descricoes ∧ Distintas comVagas.totais.descricoes ∧
    (Str.trim marcaMaiuscula ≠ [] ∧ marcaMaiuscula ≠ txtAvailable ∧
      (exec (getIdFormaPgto comVagas.toDll marcaMaiuscula)
        (run (Consulta.passo comVagas.toDll) (.ligada false true [] () : Maquina ℤ Unit)
          [.forma "CARTAO".toList, .forma "VALE".toList])).1 = .ok (some 3) ∧
      ∀ nome ∈ comVagas.tabela.descricoes,
        Str.strIequals (marcaMaiuscula.take sizeFpgto) nome = false) ∧
    (Str.trim recuado ≠ [] ∧ recuado ≠ txtAvailable ∧
      (exec (getTotalizadorCnf comVagas.toDll recuado)
        (.ligada false true [] () : Maquina ℤ Unit)).1 = .ok none ∧
      ∃ nome ∈ comVagas.totais.descricoes,
        Str.strIequals (recuado.take sizeTotcnf) nome = true) := by
  decide +kernel

end ImpressoraTabelas

end Spooler
