import Spooler.Driver.Simulacao

/-!
# The rate of an item

`vende_item` searches for the rate of an item with the `get_idx_aliquota` of the base class, over
the sixteen rates of the device. The driver keeps what a search has loaded, and `get_tab_aliq` of
the class `ecf_bematech_cv0909` searches with its own, over sixty rates; whichever comes first fills
the table that both use.

As long as no step of a run asks for the table where no rates are kept (`SemTabela`), the driver
keeps no rates or those of the base class (`uniforme_run`), so **two runs make the same of the same
text**, `mesma_aliquota`. `tabela_muda_aliquota` are two runs over one device that do not.
-/

namespace Spooler

open Foundations Driver

/-! ## Messages -/

section Mensagens

variable {ignorar : Bool} {stsmsg : Str}

theorem snd_ite_ne {c : Prop} [Decidable c] {x y : Bool × Str} {s : Str} (hx : x.2 ≠ s)
    (hy : y.2 ≠ s) : (if c then x else y).2 ≠ s := by
  split
  · exact hx
  · exact hy

theorem evalRetcode_ne (retcode : ℤ) : (evalRetcode retcode).2 ≠ Ecf.aliqNotDefined := by
  have hnum (s : Str) :
      "Codigo de retorno nao identificado! (#".toList ++ s ≠ Ecf.aliqNotDefined := by
    intro h
    have hc := congrArg List.head? h
    rw [List.head?_append_of_ne_nil _ (by decide)] at hc
    revert hc
    decide
  unfold evalRetcode
  iterate 11 refine snd_ite_ne (by decide) ?_
  simpa only [List.append_assoc] using hnum _

theorem evalSt1_ne (hs : stsmsg ≠ Ecf.aliqNotDefined) (st1 : ℕ) :
    (evalSt1 ignorar stsmsg st1).2 ≠ Ecf.aliqNotDefined := by
  unfold evalSt1
  refine snd_ite_ne hs ?_
  iterate 6 refine snd_ite_ne (by decide) ?_
  exact snd_ite_ne (snd_ite_ne (by decide) hs) (by decide)

theorem evalSt2_ne (hs : stsmsg ≠ Ecf.aliqNotDefined) (st2 : ℕ) :
    (evalSt2 stsmsg st2).2 ≠ Ecf.aliqNotDefined := by
  unfold evalSt2
  refine snd_ite_ne hs ?_
  iterate 7 refine snd_ite_ne (by decide) ?_
  decide

theorem ne_of_mem_bematechSt3Msgs :
    ∀ s ∈ bematechSt3Msgs, s ≠ "Aliquota tributaria nao definida." := by
  decide +kernel

theorem msgSt3_ne (st3 : ℕ) : msgSt3 st3 ≠ Ecf.aliqNotDefined := by
  unfold msgSt3
  split
  · decide
  · split
    · decide
    · intro h
      have hmsg : bematechSt3Msgs.getD st3 "" = "Aliquota tributaria nao definida." :=
        String.toList_inj.1 h
      obtain hlt | hge := Nat.lt_or_ge st3 bematechSt3Msgs.length
      · rw [List.getD_eq_getElem?_getD, List.getElem?_eq_getElem hlt, Option.getD_some] at hmsg
        exact ne_of_mem_bematechSt3Msgs _ (List.getElem_mem hlt) hmsg
      · rw [List.getD_eq_getElem?_getD, List.getElem?_eq_none hge, Option.getD_none] at hmsg
        revert hmsg
        decide

theorem evalStatus_ne (hs : stsmsg ≠ Ecf.aliqNotDefined) (sts : StatusMfd) :
    (evalStatus ignorar stsmsg sts).2 ≠ Ecf.aliqNotDefined := by
  unfold evalStatus
  exact snd_ite_ne (msgSt3_ne _) (evalSt2_ne (evalSt1_ne hs _) _)

theorem ecfExp_injective {msg msg' : Str} (h : ecfExp msg = ecfExp msg') : msg = msg' := by
  cases h
  rfl

end Mensagens

section Avisos

variable {F δ : Type}

/-- The message held is not that of a rate that is missing. -/
def SemAviso (m : Maquina F δ) : Prop := m.drv.sinal.stsmsg ≠ Ecf.aliqNotDefined

/-- The exception is not that of a rate that is missing. -/
def Outra (e : Excp) : Prop := e ≠ ecfExp Ecf.aliqNotDefined

theorem outra_ecfExp {msg : Str} (h : msg ≠ Ecf.aliqNotDefined) : Outra (ecfExp msg) :=
  fun he => h (ecfExp_injective he)

theorem contained_avaliaRetcode (retcode : ℤ) :
    Contained SemAviso Outra (avaliaRetcode retcode : Prog F δ Unit) := by
  unfold avaliaRetcode
  exact contained_bind (contained_modify fun _ hm => hm) fun _ =>
    contained_ite (contained_pure _) (contained_throw (outra_ecfExp (evalRetcode_ne _)))

theorem contained_colheRetorno (dll : Dll δ) :
    Contained SemAviso Outra (colheRetorno dll : Prog F δ ℤ) := by
  intro m hm
  have hstatus : ∀ sts, (evalStatus m.drv.ignorarPoucoPapel m.drv.sinal.stsmsg sts).2 ≠
      Ecf.aliqNotDefined := evalStatus_ne hm
  rw [colheRetorno, wp_bind, wp_get, wp_bind, wp_set, wp_ite]
  refine ⟨fun _ => hm, fun _ => ?_⟩
  simp only [wp_bind, wp_ite]
  exact ⟨fun _ => hstatus _, fun _ => ⟨outra_ecfExp (hstatus _), hstatus _⟩⟩

theorem contained_check (dll : Dll δ) (retcode : ℤ) :
    Contained SemAviso Outra (check dll retcode : Prog F δ Unit) :=
  contained_bind (contained_ite (contained_colheRetorno dll) (contained_pure _))
    contained_avaliaRetcode

theorem estavel_semAviso (bib : Biblioteca δ) :
    Estavel bib (SemAviso : Maquina F δ → Prop) Outra where
  check := contained_check bib.toDll
  avalia := contained_avaliaRetcode
  sts _ _ hm := hm
  le _ _ _ hm := hm
  membros _ _ hd hm := by
    unfold SemAviso
    rw [hd.sinal]
    exact hm
  acao _ _ _ hm := hm
  comando _ _ _ hm := hm
  registra _ _ hm := hm

end Avisos

/-! ## The rates kept -/

section Tabela

variable {F δ : Type} {n : Numeric F} {bib : Biblioteca δ} {t : TabelaAliqs} {ub : Estrago F δ}
  {I : Maquina F δ → Prop} {iss tab : Str}

/-- A search where rates are kept changes nothing. -/
theorem mantem_getIdxAliquota_cheia [BEq F] {c : Aliqs F} (hc : c ≠ ∅) (aliq : Aliquota F) :
    Mantem (fun m => I m ∧ m.drv.aliqs = c) (getIdxAliquota n bib t ub aliq) := by
  refine contained_bind (Estavel.mantem_ofExcept _) fun _ m hm => ?_
  rw [wp_bind, wp_get, wp_ite]
  refine ⟨fun hvazia => ?_, fun _ => hm⟩
  have hnada : c = ∅ := hm.2.symm.trans (AList.ext (List.map_eq_nil_iff.1 hvazia))
  exact absurd hnada hc

/-- The loops of the report leave the rates alone when there are none, or all of them. -/
theorem laco_snd {tipo : Char} {c : Aliqs F} (hc : c = ∅ ∨ Conhece c) :
    (laco (aliqIs n tipo) c 0 bematechTotalAliqs).2 = c := by
  obtain rfl | hc := hc
  · rw [laco_of_vazia rfl]
  · have h : ∀ j < 0 + bematechTotalAliqs, j ∈ c := by simpa [Conhece] using hc
    rw [laco_of_conhecidas tipo h]

/-- The table of sixteen rates has the sixteen positions. -/
theorem conhece_tabelaDe (htab : (pedacos tab).length = bematechTotalAliqs) :
    Conhece (tabelaDe n t iss tab) := by
  intro i hi
  refine mem_tabelaLida.2 (.inr ⟨Nat.zero_le i, ?_⟩)
  rw [length_conteudos, htab, Nat.zero_add]
  exact hi

variable (n iss tab) in
/-- The driver keeps no rates, or those of the base class's table, and holds no message about
rates. -/
def Uniforme (m : Maquina F δ) : Prop :=
  SemAviso m ∧ (m.drv.aliqs = ∅ ∨ m.drv.aliqs = tabelaDe n .base iss tab)

theorem estavel_uniforme (bib : Biblioteca δ) :
    Estavel bib (Uniforme n iss tab : Maquina F δ → Prop) fun _ => True :=
  ((estavel_semAviso bib).and (Estavel.de_aliqs bib
    fun c => c = ∅ ∨ c = tabelaDe n .base iss tab)).mono fun _ _ => trivial

/-- **A search of the base class keeps what the driver may keep.** -/
theorem mantem_getIdxAliquota [BEq F] (hfit : TabelaAliqs.base.Cabem n iss tab)
    (hbib : bib.Responde .base iss tab) (aliq : Aliquota F) :
    Mantem (Uniforme n iss tab) (getIdxAliquota n bib .base ub aliq) := by
  have h : EstavelLeitura bib (SemAviso : Maquina F δ → Prop) fun _ => True :=
    (estavel_semAviso bib).toEstavelLeitura.mono fun _ _ => trivial
  intro m hm
  refine (wp_getIdxAliquota h hfit hbib (fun _ _ => trivial) (fun _ _ hm => hm) hm.1 hm.2).mono
    (fun r m hr => ?_) fun e m he => ?_
  · exact ⟨hr.1.1, .inr hr.1.2⟩
  · exact ⟨trivial, he.2⟩

theorem mantem_dadosUltReducao (htab : (pedacos tab).length = bematechTotalAliqs) :
    Mantem (Uniforme n iss tab) (dadosUltReducao n bib.toDll : Prog F δ Str) := by
  refine (estavel_uniforme bib).dadosUltReducao fun tipo b m hm => ?_
  have hc : m.drv.aliqs = ∅ ∨ Conhece m.drv.aliqs := by
    refine hm.2.imp id fun h => ?_
    rw [h]
    exact conhece_tabelaDe htab
  rw [Wp, exec_secao, laco_snd hc]
  exact hm

end Tabela

/-! ## One step -/

section Passo

variable {F δ : Type} [BEq F] {amb : Ambiente F δ} {iss tab : Str}

/-- The table of rates is not asked for where no rates are kept. -/
def SemTabela (a : Aparelho F δ) : Evento F → Prop
  | .op .getTabAliq => a.drv.aliqs ≠ ∅
  | _ => True

/-- **A step that does not load the longer table keeps what the driver may keep.** -/
theorem uniforme_passo (hfit : TabelaAliqs.base.Cabem amb.n iss tab)
    (hbib : amb.bib.Responde .base iss tab) (htab : (pedacos tab).length = bematechTotalAliqs)
    {a : Aparelho F δ} {e : Evento F} (ha : Uniforme amb.n iss tab a.toMaquina)
    (he : SemTabela a e) : Uniforme amb.n iss tab (e.passo amb .cv0909 a).toMaquina := by
  have h : Estavel amb.bib (Uniforme amb.n iss tab : Maquina F δ → Prop) fun _ => True :=
    estavel_uniforme amb.bib
  have hidx : ∀ aliq, Mantem (Uniforme amb.n iss tab)
      (getIdxAliquota amb.n amb.bib .base amb.ub aliq) := mantem_getIdxAliquota hfit hbib
  by_cases hmexe : e.mexeAliqs = true
  · cases e with
    | constroi cfg => cases hmexe
    | op o =>
      cases o with
      | setAliquota aliq =>
        exact (mantem_so (h.setAliquota (hidx aliq) fun m hm => ⟨hm.1, .inl rfl⟩)).keeps ha
      | vendeItem codprod nomeprod straliq unidade qtde valor desc =>
        exact (mantem_so (h.vendeItem hidx _ _ _ _ _ _ _)).keeps ha
      | dadosUltReducao => exact (mantem_so (mantem_dadosUltReducao htab)).keeps ha
      | getTabAliq =>
        have hcheia : Estavel amb.bib (fun m : Maquina F δ => Uniforme amb.n iss tab m ∧
            m.drv.aliqs = a.drv.aliqs) fun _ => True :=
          h.and (Estavel.de_aliqs amb.bib (· = a.drv.aliqs))
        have hcarga : ∀ aliq, Mantem (fun m : Maquina F δ => Uniforme amb.n iss tab m ∧
            m.drv.aliqs = a.drv.aliqs)
            (getIdxAliquota amb.n amb.bib Classe.cv0909.tabela amb.ub aliq) :=
          mantem_getIdxAliquota_cheia he
        exact ((mantem_so (hcheia.getTabAliq hcarga)).keeps ⟨ha, rfl⟩).1
      | _ => cases hmexe
  · exact (mantem_evento h .cv0909 e (fun hal => absurd hal hmexe) fun _ _ _ hm => hm).keeps ha

/-- **A run none of whose steps loads the longer table** keeps no rates, or those of the base
class's table. -/
theorem uniforme_run (hfit : TabelaAliqs.base.Cabem amb.n iss tab)
    (hbib : amb.bib.Responde .base iss tab) (htab : (pedacos tab).length = bematechTotalAliqs)
    (fake : Bool) (dev : δ) {l : List (Evento F)}
    (hl : AllSteps (Evento.passo amb .cv0909) SemTabela (Aparelho.novo fake dev) l) :
    Uniforme amb.n iss tab
      (run (Evento.passo amb .cv0909) (Aparelho.novo fake dev) l).toMaquina := by
  have hmsg : ([] : Str) ≠ Ecf.aliqNotDefined := by decide
  have hnovo : Uniforme amb.n iss tab (Aparelho.novo fake dev : Aparelho F δ).toMaquina :=
    ⟨hmsg, .inl rfl⟩
  refine run_preserves_of_allSteps (I := fun a : Aparelho F δ => Uniforme amb.n iss tab a.toMaquina)
    (fun a e ha he => uniforme_passo hfit hbib htab ha he) hnovo hl _ (run_mem_visited _ _ _)

end Passo

/-! ## The item sold next -/

/-- What is sold, its rate aside. -/
structure Item (F : Type) where
  codprod : Str
  nomeprod : Str
  unidade : Str
  qtde : F
  valor : F
  desc : F

/-- The name of a rate that a call hands over. -/
def Chamada.aliq : Chamada → Option Str
  | .acao (.vendeItem _ _ aliq _ _ _ _ _ _) => some aliq
  | _ => none

section Venda

variable {F δ : Type} [BEq F]

/-- `vende_item` of the item, at the rate `straliq`. -/
def Item.venda (item : Item F) (straliq : Str) : Operacao F :=
  .vendeItem item.codprod item.nomeprod straliq item.unidade item.qtde item.valor item.desc

/-- What a run that issues these acting calls makes of the rate of an item: the name handed to the
library, or the exception for a rate that is missing; nothing where the driver simulates or another
exception comes first. -/
def desfechoDe (novas : List Chamada) (r : Except Excp Unit) : Option (Except Excp Str) :=
  match (novas.filterMap Chamada.aliq).head?, r with
  | some nome, _ => some (.ok nome)
  | none, .error e => if e = ecfExp Ecf.aliqNotDefined then some (.error e) else none
  | none, .ok () => none

/-- What becomes of the rate of an item sold next. -/
def desfechoVenda (amb : Ambiente F (δ × List Chamada)) (c : Classe) (item : Item F)
    (straliq : Str) (a : Aparelho F (δ × List Chamada)) : Option (Except Excp Str) :=
  let r := exec ((item.venda straliq).prog amb c) a
  desfechoDe (r.2.atos.drop a.atos.length) r.1

variable (n : Numeric F)

/-- The name of a rate in a table, or the exception for a rate that is missing. -/
def nomeDevido (tabela : Aliqs F) (straliq : Str) : Except Excp Str := do
  let aliq ← Aliquota.setStr n straliq
  (exec (nomeAliquota n (fun a => pure (posicaoAliq tabela a)) aliq : Exec Excp Unit Str) ()).1

end Venda

section Nome

variable {F δ σ : Type} {n : Numeric F}

theorem wp_comAux {aux : Option Str} {Q : Str → σ → Prop} {E : Excp → σ → Prop} {s : σ} :
    Wp (comAux aux) Q E s ↔
      (∀ x, (exec (comAux aux : Exec Excp Unit Str) ()).1 = .ok x → Q x s) ∧
        ∀ e, (exec (comAux aux : Exec Excp Unit Str) ()).1 = .error e → E e s := by
  cases aux <;> simp [comAux]

theorem wp_formatValor {valor : F} {fmt : String} {Q : Str → σ → Prop} {E : Excp → σ → Prop}
    {s : σ} :
    Wp (formatValor n valor fmt) Q E s ↔
      (∀ x, (exec (formatValor n valor fmt : Exec Excp Unit Str) ()).1 = .ok x → Q x s) ∧
        ∀ e, (exec (formatValor n valor fmt : Exec Excp Unit Str) ()).1 = .error e → E e s := by
  unfold formatValor
  cases transborda n valor fmt with
  | true => simp
  | false => exact wp_comAux

/-- **The name of a rate is that of its position**, where the search answers with it. -/
theorem wp_nomeAliquota {idxAliq : Aliquota F → Exec Excp σ (Option ℕ)}
    {busca : Aliquota F → Option ℕ} {I : σ → Prop} {aliq : Aliquota F}
    (hidx : ∀ s, I s → Wp (idxAliq aliq) (fun r t => I t ∧ r = busca aliq)
      (fun e t => I t ∧ Outra e) s) {s : σ} (hs : I s) :
    Wp (nomeAliquota n idxAliq aliq)
      (fun nome t => I t ∧
        (exec (nomeAliquota n (fun a => pure (busca a)) aliq : Exec Excp Unit Str) ()).1 = .ok nome)
      (fun e t => I t ∧ (e = ecfExp Ecf.aliqNotDefined →
        (exec (nomeAliquota n (fun a => pure (busca a)) aliq : Exec Excp Unit Str) ()).1 =
          .error e)) s := by
  unfold nomeAliquota
  by_cases hsubst : aliq.tipo = Aliquota.substTributaria
  · simp only [if_pos hsubst]
    exact ⟨hs, rfl⟩
  by_cases hnao : aliq.tipo = Aliquota.naoIncidente
  · simp only [if_neg hsubst, if_pos hnao]
    exact ⟨hs, rfl⟩
  by_cases hisento : aliq.tipo = Aliquota.isento
  · simp only [if_neg hsubst, if_neg hnao, if_pos hisento]
    exact ⟨hs, rfl⟩
  simp only [if_neg hsubst, if_neg hnao, if_neg hisento, pure_bind]
  rw [wp_bind]
  refine (hidx s hs).mono (fun r t ht => ?_) fun e t he => ⟨he.1, fun h => absurd h he.2⟩
  obtain ⟨ht, rfl⟩ := ht
  cases busca aliq with
  | none => exact ⟨ht, fun _ => rfl⟩
  | some idx => exact wp_comAux.2 ⟨fun x hx => ⟨ht, hx⟩, fun e he => ⟨ht, fun _ => he⟩⟩

end Nome

section Entrega

variable {F δ : Type} {n : Numeric F} {bib : Biblioteca δ} {l : List Chamada}
  {r : Except Excp Str}

/-- The calls issued after `l` hand over no rate but the one that `r` names. -/
def Entregue (l : List Chamada) (r : Except Excp Str) (m : Maquina F (δ × List Chamada)) : Prop :=
  ∃ novas, m.atos = l ++ novas ∧ ∀ nome ∈ novas.filterMap Chamada.aliq, r = .ok nome

theorem entregue_self {m : Maquina F (δ × List Chamada)} (h : m.atos = l) : Entregue l r m :=
  ⟨[], by rw [h, List.append_nil], fun _ hnome => absurd hnome List.not_mem_nil⟩

theorem contained_manda {a : Acao} (ha : ∀ nome, (Chamada.acao a).aliq = some nome → r = .ok nome) :
    Contained (fun m : Maquina F (δ × List Chamada) => SemAviso m ∧ Entregue l r m) Outra
      (manda bib.espia a) := by
  have hatos : Contained (fun m : Maquina F (δ × List Chamada) => Entregue l r m) (fun _ => True)
      (manda bib.espia a) := by
    refine contained_of_state fun m hm => ?_
    obtain ⟨novas, hnovas, hnome⟩ := id hm
    by_cases hf : m.drv.fake = true
    · have hnada : (exec (manda bib.espia a) m).2 = m := by simp [manda, exec_bind, hf]
      rw [hnada]
      exact hm
    · refine ⟨novas ++ [.acao a], ?_, ?_⟩
      · rw [atos_manda bib a (by simpa using hf), hnovas, List.append_assoc]
      · simp only [List.filterMap_append, List.mem_append]
        rintro nome (h | h)
        · exact hnome nome h
        · refine ha nome ?_
          simpa using h
  exact ((estavel_semAviso bib.espia).manda a).and hatos

/-- The calls for an item hand over the name they are given. -/
theorem contained_registraItem {auxAliq : Str} (hr : r = .ok auxAliq)
    (codprod nomeprod tmpQtde tmpValor tmpDesc : Str) :
    Contained (fun m : Maquina F (δ × List Chamada) => SemAviso m ∧ Entregue l r m) Outra
      (registraItem bib.espia codprod nomeprod auxAliq tmpQtde tmpValor tmpDesc) := by
  have haumenta : ∀ nome, (Chamada.acao (.aumentaDescricaoItem nomeprod)).aliq = some nome →
      r = .ok nome := by
    intro nome h
    cases h
  have hvende : ∀ nome, (Chamada.acao (.vendeItem (codprod.take 13) (nomeprod.take 29) auxAliq ['F']
      tmpQtde 3 tmpValor ['$'] tmpDesc)).aliq = some nome → r = .ok nome := by
    intro nome h
    rw [hr, ← Option.some_inj.1 h]
  exact contained_ite (contained_bind (contained_manda haumenta) fun _ => contained_manda hvende)
    (contained_manda hvende)

/-- What is read adds no acting call. -/
theorem estavelLeitura_atos (bib : Biblioteca δ) (l : List Chamada) :
    EstavelLeitura bib.espia (fun m : Maquina F (δ × List Chamada) => m.atos = l)
      fun _ => True where
  check retcode := contained_of_state fun m hm => (atos_check bib.toDll retcode m).trans hm
  avalia retcode := contained_of_state fun m hm => by
    obtain ⟨r, x, hx, -⟩ := exec_avaliaRetcode retcode m
    rw [hx]
    exact hm
  sts _ _ hm := hm
  le m d hd hm := (atos_le bib hd).trans hm
  membros _ _ _ hm := hm

theorem outra_of_aliquotaExp {e : Excp} (h : ∃ msg, e = .spooler .aliquotaExp msg) : Outra e := by
  obtain ⟨msg, rfl⟩ := h
  intro h
  cases h

theorem outra_setStr {straliq : Str} {e : Excp} (h : Aliquota.setStr n straliq = .error e) :
    Outra e := by
  by_cases hcut : Aliquota.malCortada straliq = true
  · rw [Aliquota.setStr_of_malCortada n hcut] at h
    cases h
    intro h
    cases h
  · exact outra_of_aliquotaExp (Aliquota.aliquotaExp_of_setStr (by simpa using hcut) h)

theorem outra_formatValor {valor : F} {fmt : String} {e : Excp}
    (h : (exec (formatValor n valor fmt : Exec Excp Unit Str) ()).1 = .error e) : Outra e := by
  unfold formatValor at h
  split at h
  · cases h
    exact nofun
  · cases haux : n.sprintf fmt valor with
    | none =>
      rw [haux] at h
      cases h
      exact outra_ecfExp (by decide)
    | some aux =>
      rw [haux] at h
      cases h

/-- **An item is sold at the rate that the table of the base class gives to the text**, or refused
where that table has none. -/
theorem wp_vendeItem [BEq F] {ub : Estrago F (δ × List Chamada)} {iss tab : Str}
    (hfit : TabelaAliqs.base.Cabem n iss tab) (hbib : bib.espia.Responde .base iss tab)
    (codprod nomeprod straliq unidade : Str) (qtde valor desc : F)
    {m : Maquina F (δ × List Chamada)} (hm : Uniforme n iss tab m) :
    Wp (vendeItem n bib.espia ub codprod nomeprod straliq unidade qtde valor desc)
      (fun _ t => Entregue m.atos (nomeDevido n (tabelaDe n .base iss tab) straliq) t)
      (fun e t => Entregue m.atos (nomeDevido n (tabelaDe n .base iss tab) straliq) t ∧
        (e = ecfExp Ecf.aliqNotDefined →
          nomeDevido n (tabelaDe n .base iss tab) straliq = .error e)) m := by
  have h : EstavelLeitura bib.espia
      (fun t : Maquina F (δ × List Chamada) => SemAviso t ∧ t.atos = m.atos) Outra :=
    (estavel_semAviso bib.espia).toEstavelLeitura.and (estavelLeitura_atos bib m.atos)
  generalize hdevido : nomeDevido n (tabelaDe n .base iss tab) straliq = devido
  have hoe : ∀ e, Outra e → Entregue m.atos devido m ∧ (e = ecfExp Ecf.aliqNotDefined →
      devido = .error e) := fun e he => ⟨entregue_self rfl, fun h => absurd h he⟩
  obtain ⟨un, hun⟩ := Ecf.exists_unidadeDe nomeprod unidade
  rw [vendeItem, hun, wp_bind, wp_ofExcept]
  refine ⟨fun _ _ => ?_, fun e he => by cases he⟩
  rw [wp_bind]
  refine wp_formatValor.2 ⟨fun tmpQtde _ => ?_, fun e he => hoe e (outra_formatValor he)⟩
  rw [wp_bind]
  refine wp_formatValor.2 ⟨fun tmpValor _ => ?_, fun e he => hoe e (outra_formatValor he)⟩
  rw [wp_bind]
  refine wp_formatValor.2 ⟨fun tmpDesc _ => ?_, fun e he => hoe e (outra_formatValor he)⟩
  rw [wp_bind, wp_ofExcept]
  refine ⟨fun objAliq haliq => ?_, fun e he => hoe e (outra_setStr he)⟩
  have hnome : (exec (nomeAliquota n (fun a => pure (posicaoAliq (tabelaDe n .base iss tab) a))
      objAliq : Exec Excp Unit Str) ()).1 = devido := by
    rw [← hdevido, nomeDevido, haliq]
    rfl
  have hidx : ∀ t : Maquina F (δ × List Chamada), Uniforme n iss tab t ∧ t.atos = m.atos →
      Wp (getIdxAliquota n bib.espia .base ub objAliq)
        (fun r t => (Uniforme n iss tab t ∧ t.atos = m.atos) ∧
          r = posicaoAliq (tabelaDe n .base iss tab) objAliq)
        (fun e t => (Uniforme n iss tab t ∧ t.atos = m.atos) ∧ Outra e) t := by
    intro t ht
    refine (wp_getIdxAliquota h hfit hbib (fun e he => ?_) (fun _ _ ht => ht) ⟨ht.1.1, ht.2⟩
      ht.1.2).mono (fun r t hr => ?_) fun e t he => ?_
    · exact outra_of_aliquotaExp (Aliquota.aliquotaExp_of_getSerialized he)
    · obtain ⟨⟨⟨haviso, hatos⟩, hc⟩, hr⟩ := hr
      exact ⟨⟨⟨haviso, .inr hc⟩, hatos⟩, hr⟩
    · obtain ⟨he, ⟨haviso, hatos⟩, hc⟩ := he
      exact ⟨⟨⟨haviso, hc⟩, hatos⟩, he⟩
  rw [wp_bind]
  refine (wp_nomeAliquota hidx ⟨hm, rfl⟩).mono (fun nome t ht => ?_) fun e t he => ?_
  · obtain ⟨⟨⟨haviso, -⟩, hatos⟩, hr⟩ := ht
    rw [hnome] at hr
    refine (contained_registraItem hr _ _ _ _ _ t ⟨haviso, entregue_self hatos⟩).mono
      (fun _ t ht => ht.2) fun e t he => ⟨he.2.2, fun h => absurd h he.1⟩
  · rw [hnome] at he
    exact ⟨entregue_self he.1.2, he.2⟩

end Entrega

section Resultado

variable {F δ : Type} [BEq F] {n : Numeric F} {bib : Biblioteca δ} {iss tab : Str}
  {suporteMfd : Classe → Bool} {ub : Estrago F (δ × List Chamada)}

omit [BEq F] in
theorem exec_so (x : Prog F δ Unit) (a : Aparelho F δ) :
    exec (Operacao.so x) a =
      ((exec x a.toMaquina).1, { a with toMaquina := (exec x a.toMaquina).2 }) := by
  rw [Operacao.so, bind_pure_unit]
  rfl

omit [BEq F] in
theorem eq_of_desfechoDe {novas : List Chamada} {r : Except Excp Unit} {d devido : Except Excp Str}
    (hnovas : ∀ nome ∈ novas.filterMap Chamada.aliq, devido = .ok nome)
    (hr : ∀ e, r = .error e → e = ecfExp Ecf.aliqNotDefined → devido = .error e)
    (hd : desfechoDe novas r = some d) : d = devido := by
  unfold desfechoDe at hd
  split at hd
  · rename_i nome hnome
    cases hd
    exact (hnovas nome (List.mem_of_head? hnome)).symm
  · rename_i e _
    split at hd
    · rename_i he
      cases hd
      exact (hr e rfl he).symm
    · cases hd
  · cases hd

/-- **What becomes of the rate of an item follows from the table of the base class.** -/
theorem eq_nomeDevido (hfit : TabelaAliqs.base.Cabem n iss tab)
    (hbib : bib.espia.Responde .base iss tab) {a : Aparelho F (δ × List Chamada)}
    (ha : Uniforme n iss tab a.toMaquina) {c : Classe} {item : Item F} {straliq : Str}
    {d : Except Excp Str}
    (hd : desfechoVenda (espiado n bib suporteMfd ub) c item straliq a = some d) :
    d = nomeDevido n (tabelaDe n .base iss tab) straliq := by
  have hvenda := @wp_vendeItem _ _ _ _ _ ub _ _ hfit hbib item.codprod item.nomeprod straliq
    item.unidade item.qtde item.valor item.desc _ ha
  have hprog : exec ((item.venda straliq).prog (espiado n bib suporteMfd ub) c) a = _ :=
    exec_so (vendeItem n bib.espia ub item.codprod item.nomeprod straliq item.unidade
      item.qtde item.valor item.desc) a
  rw [desfechoVenda, hprog] at hd
  unfold Wp at hvenda
  revert hvenda hd
  rcases exec (vendeItem n bib.espia ub item.codprod item.nomeprod straliq item.unidade
      item.qtde item.valor item.desc) a.toMaquina with ⟨e | u, t⟩
  · rintro hd ⟨⟨novas, hnovas, hnome⟩, hr⟩
    simp only [hnovas, List.drop_left] at hd
    exact eq_of_desfechoDe hnome (fun _ he => by cases he; exact hr) hd
  · rintro hd ⟨novas, hnovas, hnome⟩
    simp only [hnovas, List.drop_left] at hd
    exact eq_of_desfechoDe hnome (fun _ he => by cases he) hd

/-- **In any two runs none of whose steps loads the longer table, an item sold next is given the
same rate, or refused the same, for the same text.** -/
theorem mesma_aliquota (hresp : bib.Responde .base iss tab)
    (hfit : TabelaAliqs.base.Cabem n iss tab) (htab : (pedacos tab).length = bematechTotalAliqs)
    (straliq : Str) {fake₁ fake₂ : Bool} {dev₁ dev₂ : δ} {l₁ l₂ : List (Evento F)}
    (h₁ : AllSteps (Evento.passo (espiado n bib suporteMfd ub) .cv0909) SemTabela
      (Aparelho.novo fake₁ (dev₁, [])) l₁)
    (h₂ : AllSteps (Evento.passo (espiado n bib suporteMfd ub) .cv0909) SemTabela
      (Aparelho.novo fake₂ (dev₂, [])) l₂)
    {item₁ item₂ : Item F} {d₁ d₂ : Except Excp Str}
    (hd₁ : desfechoVenda (espiado n bib suporteMfd ub) .cv0909 item₁ straliq
      (run (Evento.passo (espiado n bib suporteMfd ub) .cv0909)
        (Aparelho.novo fake₁ (dev₁, [])) l₁) = some d₁)
    (hd₂ : desfechoVenda (espiado n bib suporteMfd ub) .cv0909 item₂ straliq
      (run (Evento.passo (espiado n bib suporteMfd ub) .cv0909)
        (Aparelho.novo fake₂ (dev₂, [])) l₂) = some d₂) : d₁ = d₂ := by
  have hbib : bib.espia.Responde .base iss tab :=
    ⟨fun d => hresp.iss d.1, fun d => hresp.tab d.1⟩
  have ha₁ := @uniforme_run _ _ _ (espiado n bib suporteMfd ub) _ _ hfit hbib htab fake₁ (dev₁, [])
    _ h₁
  have ha₂ := @uniforme_run _ _ _ (espiado n bib suporteMfd ub) _ _ hfit hbib htab fake₂ (dev₂, [])
    _ h₂
  rw [eq_nomeDevido hfit hbib ha₁ hd₁, eq_nomeDevido hfit hbib ha₂ hd₂]

end Resultado

/-! ## A device with two tables -/

/-- Texts between commas. -/
def comVirgulas (l : List String) : Str := List.intercalate [','] (l.map String.toList)

/-- A device whose second rate, of sixteen, is one of ISS; in the table of sixty, those of ISS start
at the thirty-first. -/
def duasTabelas : Pergunta → Str
  | .verificaIndiceAliquotasIss => "01".toList
  | .retornoAliquotas => comVirgulas (["0700", "0500"] ++ List.replicate 14 "0000")
  | .retornoAliquotasCV0909 =>
    comVirgulas ("0700" :: List.replicate 29 "0000" ++ "0500" :: List.replicate 29 "0000")
  | _ => []

def ambDuasTabelas : Ambiente ℤ (Unit × List Chamada) :=
  espiado .inteiros (sempreOk duasTabelas) (fun _ => false) fun m => (.ok none, m.drv.aliqs)

def itemUm : Item ℤ := ⟨"1".toList, "cafe".toList, "un".toList, 1, 1, 0⟩

/-- Asking for the table of rates changes the rate of the item sold next. -/
theorem tabela_muda_aliquota :
    ¬ ∀ (l₁ l₂ : List (Evento ℤ)) (d₁ d₂ : Except Excp Str),
      (∀ e ∈ l₁ ++ l₂, ∀ aliq, e ≠ .op (.setAliquota aliq)) →
      desfechoVenda ambDuasTabelas .cv0909 itemUm "S:00:0500".toList
        (run (Evento.passo ambDuasTabelas .cv0909) (Aparelho.novo false ((), [])) l₁) = some d₁ →
      desfechoVenda ambDuasTabelas .cv0909 itemUm "S:00:0500".toList
        (run (Evento.passo ambDuasTabelas .cv0909) (Aparelho.novo false ((), [])) l₂) = some d₂ →
      d₁ = d₂ := by
  intro h
  have hsem : ∀ e ∈ [Evento.op (F := ℤ) .getTabAliq] ++ [],
      ∀ aliq, e ≠ .op (.setAliquota aliq) := by
    intro e he aliq heq
    rw [List.append_nil, List.mem_singleton] at he
    cases he.symm.trans heq
  have hmesma := h [.op .getTabAliq] [] (.ok ['3', '1']) (.ok ['2']) hsem (by decide +kernel)
    (by decide +kernel)
  cases hmesma

theorem cabem_duasTabelas : TabelaAliqs.base.Cabem Numeric.inteiros
    (duasTabelas .verificaIndiceAliquotasIss) (duasTabelas .retornoAliquotas) where
  tamIss := by decide
  posicoes := by decide +kernel
  tamRet := by decide +kernel
  entradas := by decide +kernel
  taxas := by decide +kernel
  valores := by decide +kernel

theorem responde_duasTabelas : (sempreOk duasTabelas).Responde .base
    (duasTabelas .verificaIndiceAliquotasIss) (duasTabelas .retornoAliquotas) where
  iss := fun () => by decide +kernel
  tab := fun () => by decide +kernel

/-- A driver just built, and one that has sold an item before it was asked for the table. -/
theorem mesma_aliquota_duasTabelas : ∃ d₁ d₂,
    desfechoVenda ambDuasTabelas .cv0909 itemUm "S:00:0500".toList
      (run (Evento.passo ambDuasTabelas .cv0909) (Aparelho.novo false ((), [])) []) = some d₁ ∧
    desfechoVenda ambDuasTabelas .cv0909 itemUm "S:00:0500".toList
      (run (Evento.passo ambDuasTabelas .cv0909) (Aparelho.novo false ((), []))
        [.op (itemUm.venda "T:00:0700".toList), .op .getTabAliq]) = some d₂ ∧ d₁ = d₂ := by
  have h₁ : AllSteps (Evento.passo ambDuasTabelas .cv0909) SemTabela
      (Aparelho.novo false ((), [])) [] := trivial
  have h₂ : AllSteps (Evento.passo ambDuasTabelas .cv0909) SemTabela
      (Aparelho.novo false ((), []))
      [.op (itemUm.venda "T:00:0700".toList), .op .getTabAliq] := by
    refine ⟨trivial, fun hvazia => ?_, trivial⟩
    have hkeys := congrArg AList.keys hvazia
    revert hkeys
    decide +kernel
  have hd₁ : desfechoVenda ambDuasTabelas .cv0909 itemUm "S:00:0500".toList
      (run (Evento.passo ambDuasTabelas .cv0909) (Aparelho.novo false ((), [])) []) =
        some (.ok ['2']) := by decide +kernel
  have hd₂ : desfechoVenda ambDuasTabelas .cv0909 itemUm "S:00:0500".toList
      (run (Evento.passo ambDuasTabelas .cv0909) (Aparelho.novo false ((), []))
        [.op (itemUm.venda "T:00:0700".toList), .op .getTabAliq]) =
        some (.ok ['2']) := by decide +kernel
  exact ⟨_, _, hd₁, hd₂,
    mesma_aliquota responde_duasTabelas cabem_duasTabelas (by decide +kernel) _ h₁ h₂ hd₁ hd₂⟩

end Spooler
