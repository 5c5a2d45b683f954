import Spooler.Driver.Consultas
import Spooler.Driver.Operacoes

/-!
# Searches where free slots are not kept

`Base.getIdFormaPgto` and `getIdRelGerencial` count the slots of the device when they load its table
(`primeira`), and the positions of what they have kept of it when they do not (`resposta`). What is
kept are the descriptions in use, behind the name of the first report (`emUso`). **The two ways of
counting agree on a text exactly when no free slot stands before the record it names, no other
record has that name, and it is not the name of the first report**, `resposta_iff`; `buscaBase_iff`
says so of the runs of a driver over a device with tables of its own.
-/

namespace Spooler

open Foundations Driver

/-! ## Slots and positions -/

section Contagem

variable {fixos nomes : List Str} {q nome : Str} {i j : ℕ}

/-- The description is in use, and is the one searched for. -/
def nomeia (q nome : Str) : Bool := nome ≠ [] && Str.strIequals nome q

/-- What is kept of a table behind the names that are always there: the descriptions in use. -/
def emUso (fixos nomes : List Str) : List Str := fixos ++ nomes.filter (· ≠ [])

/-- The slot, counted from one, that a search in the table finds. -/
def primeira (fixos nomes : List Str) (q : Str) : Option ℕ :=
  (ultimoIdx (nomeia q) nomes).map (· + (fixos.length + 1))

/-- The answer of a search: from what is kept, else from the table. -/
def resposta (fixos nomes kept : List Str) (q : Str) : Option ℕ :=
  match idxElement q kept with
  | some i => some (i + 1)
  | none => primeira fixos nomes q

/-- A slot that is answered has the description searched for. -/
def DoRegistro (slots : List Str) (q : Str) (r : Option ℕ) : Prop :=
  ∀ k, r = some k → 1 ≤ k ∧ ∃ nome, slots[k - 1]? = some nome ∧ nomeia q nome = true

/-- The text is not one of the names that are always there, and names one record at most, with no
free slot before it. -/
structure SemSalto (fixos nomes : List Str) (q : Str) : Prop where
  livre : ∀ nome ∈ fixos, Str.strIequals nome q = false
  unico : AtMostOne (nomeia q) nomes
  cheios : ∀ i nome, nomes[i]? = some nome → nomeia q nome = true → [] ∉ nomes.take i

theorem idxElement_emUso (h : ∀ nome ∈ fixos, Str.strIequals nome q = false) :
    idxElement q (emUso fixos nomes) = (nomes.findIdx? (nomeia q)).map fun i =>
      (nomes.take i).countP (· ≠ []) + fixos.length := by
  have hfixos : fixos.findIdx? (Str.strIequals · q) = none := List.findIdx?_eq_none_iff.2 h
  rw [idxElement, emUso, List.findIdx?_append, hfixos, Option.none_or, findIdx?_filter,
    Option.map_map]
  rfl

theorem countP_ne_nil (hi : i ≤ nomes.length) :
    (nomes.take i).countP (· ≠ []) = i ↔ [] ∉ nomes.take i := by
  rw [countP_take_eq_self hi]
  constructor
  · intro h hmem
    simpa using h _ hmem
  · intro h nome hmem
    rw [decide_eq_true_eq]
    rintro rfl
    exact h hmem

/-- A name that is always there is never found in the table. -/
theorem resposta_ne_primeira (hnome : nome ∈ fixos) (hq : Str.strIequals nome q = true) :
    resposta fixos nomes (emUso fixos nomes) q ≠ primeira fixos nomes q := by
  obtain ⟨i, hi⟩ : ∃ i, fixos.findIdx? (Str.strIequals · q) = some i :=
    Option.isSome_iff_exists.1 (List.findIdx?_isSome.trans (List.any_eq_true.2 ⟨nome, hnome, hq⟩))
  have hlt : i < fixos.length := (List.findIdx?_eq_some_iff_getElem.1 hi).1
  have hidx : idxElement q (emUso fixos nomes) = some i := by
    rw [idxElement, emUso, List.findIdx?_append, hi, Option.some_or]
  rw [resposta, hidx, primeira]
  cases ultimoIdx (nomeia q) nomes with
  | none => exact Option.some_ne_none _
  | some j =>
    intro h
    have hj : i + 1 = j + (fixos.length + 1) := Option.some.inj h
    omega

theorem doRegistro_primeira (fixos nomes : List Str) (q : Str) :
    DoRegistro (fixos ++ nomes) q (primeira fixos nomes q) := by
  intro k hk
  obtain ⟨j, hj, rfl⟩ := Option.map_eq_some_iff.1 hk
  obtain ⟨nome, hnome, hp⟩ := ultimoIdx_eq_some hj
  refine ⟨Nat.succ_pos _, nome, ?_, hp⟩
  rw [← hnome, List.getElem?_append_right (by omega)]
  congr 1
  omega

/-- A text that names no record is answered alike, and skips nothing. -/
theorem semSalto_of_findIdx?_eq_none (hlivre : ∀ nome ∈ fixos, Str.strIequals nome q = false)
    (hi : nomes.findIdx? (nomeia q) = none) : SemSalto fixos nomes q := by
  have hfalso : ∀ (k : ℕ) nome, nomes[k]? = some nome → ¬ nomeia q nome = true := by
    intro k nome hk hp
    rw [List.findIdx?_eq_none_iff.1 hi nome (List.mem_of_getElem? hk)] at hp
    cases hp
  exact ⟨hlivre, fun k _ nome _ hk _ hp _ => absurd hp (hfalso k nome hk),
    fun k nome hk hp => absurd hp (hfalso k nome hk)⟩

/-- The record that a text names stands in the place of its first occurrence, with as many kept
before it, and of its last. -/
theorem countP_eq_ultimoIdx_iff (hlivre : ∀ nome ∈ fixos, Str.strIequals nome q = false)
    (hi : nomes.findIdx? (nomeia q) = some i) (hj : ultimoIdx (nomeia q) nomes = some j) :
    (nomes.take i).countP (· ≠ []) = j ↔ SemSalto fixos nomes q := by
  obtain ⟨nome, hnome, hp⟩ := findIdx?_eq_some_imp hi
  obtain ⟨ultimo, hultimo, hpu⟩ := ultimoIdx_eq_some hj
  have hle : i ≤ nomes.length := le_of_lt (List.getElem?_eq_some_iff.1 hnome).1
  constructor
  · intro hcount
    have hmax : (nomes.take i).countP (· ≠ []) ≤ (nomes.take i).length := List.countP_le_length
    rw [List.length_take_of_le hle] at hmax
    have hij := findIdx?_le hi hultimo hpu
    have hcheio : (nomes.take i).countP (· ≠ []) = i := by omega
    have hso : ∀ (k : ℕ) y, nomes[k]? = some y → nomeia q y = true → k = i := by
      intro k y hk hy
      have := findIdx?_le hi hk hy
      have := le_ultimoIdx hj hk hy
      omega
    refine ⟨hlivre, fun k k' y y' hk hk' hy hy' => ?_, fun k y hk hy => ?_⟩
    · rw [hso k y hk hy, hso k' y' hk' hy']
    · rw [hso k y hk hy]
      exact (countP_ne_nil hle).1 hcheio
  · intro h
    rw [(countP_ne_nil hle).2 (h.cheios i nome hnome hp)]
    exact h.unico i j nome ultimo hnome hultimo hp hpu

/-- **The two ways of counting agree** exactly when nothing is skipped on the way to the record. -/
theorem resposta_iff (fixos nomes : List Str) (q : Str) :
    (resposta fixos nomes (emUso fixos nomes) q = primeira fixos nomes q ∧
      DoRegistro (fixos ++ nomes) q (resposta fixos nomes (emUso fixos nomes) q)) ↔
    SemSalto fixos nomes q := by
  have hslot : resposta fixos nomes (emUso fixos nomes) q = primeira fixos nomes q →
      DoRegistro (fixos ++ nomes) q (resposta fixos nomes (emUso fixos nomes) q) := by
    intro h
    rw [h]
    exact doRegistro_primeira _ _ _
  rw [and_iff_left_of_imp hslot]
  by_cases hlivre : ∀ nome ∈ fixos, Str.strIequals nome q = false
  · cases hi : nomes.findIdx? (nomeia q) with
    | none =>
      refine iff_of_true ?_ (semSalto_of_findIdx?_eq_none hlivre hi)
      rw [resposta, idxElement_emUso hlivre, hi]
      rfl
    | some i =>
      have hres : resposta fixos nomes (emUso fixos nomes) q =
          some ((nomes.take i).countP (· ≠ []) + fixos.length + 1) := by
        rw [resposta, idxElement_emUso hlivre, hi]
        rfl
      cases hj : ultimoIdx (nomeia q) nomes with
      | none =>
        obtain ⟨nome, hnome, hp⟩ := findIdx?_eq_some_imp hi
        rw [ultimoIdx_eq_none.1 hj nome (List.mem_of_getElem? hnome)] at hp
        cases hp
      | some j =>
        have hprim : primeira fixos nomes q = some (j + (fixos.length + 1)) := by
          rw [primeira, hj]
          rfl
        rw [← countP_eq_ultimoIdx_iff hlivre hi hj, hres, hprim, Option.some.injEq, Nat.add_assoc,
          Nat.add_right_cancel_iff]
  · obtain ⟨nome, hnome, hq⟩ : ∃ nome ∈ fixos, Str.strIequals nome q = true := by
      simpa using hlivre
    refine iff_of_false (resposta_ne_primeira hnome hq) fun h => ?_
    rw [h.livre nome hnome] at hq
    cases hq

end Contagem

/-! ## The tables of a device -/

namespace Driver.Base

/-- The descriptions of the payment forms, as the base class reads them. -/
def descricoes (buffer : Str) : List Str :=
  (List.range totalFpgto).map fun i => descrFpgto (regFpgto buffer i)

end Driver.Base

/-- The slots that the base class reads are those of the table. -/
theorem TabelaFpgto.base_descricoes (T : TabelaFpgto) : Base.descricoes T.codifica =
    T.regs.map fun reg => Str.trim (reg.take Base.sizeFpgto) := by
  have hlen : ∀ reg ∈ T.regs, (reg ++ [',']).length = tamRegFpgto := by
    intro reg hreg
    rw [List.length_append, T.largura reg hreg]
    rfl
  refine map_range_eq_map T.length_regs fun i hi => ?_
  have hmem := List.getElem_mem hi
  obtain ⟨c, reg, hreg⟩ := List.exists_cons_of_length_pos (l := T.regs[i]) (by
    rw [T.largura _ hmem]
    decide)
  have hc : c ≠ ',' := by
    rintro rfl
    exact (T.limpo _ hmem).1 (by rw [hreg]; exact List.mem_cons_self)
  have htam : Base.sizeFpgto ≤ T.regs[i].length := by
    rw [T.largura _ hmem]
    decide
  have hnul : '\x00' ∉ T.regs[i].take Base.sizeFpgto := fun h =>
    (T.limpo _ hmem).2 (List.mem_of_mem_take h)
  have hdrop : T.codifica.drop (i * tamRegFpgto) =
      T.regs[i] ++ ([','] ++ (T.regs.drop (i + 1)).flatMap (· ++ [','])) := by
    rw [codifica, drop_flatMap_getElem hlen hi, List.append_assoc]
  have hreg' : Base.regFpgto T.codifica i = T.codifica.drop (i * tamRegFpgto) := by
    rw [Base.regFpgto, if_neg]
    rw [hdrop, hreg, List.cons_append, List.head?_cons, Option.some.injEq]
    exact hc
  rw [Base.descrFpgto, hreg', hdrop, List.take_append_of_le_length htam, Str.cstr_eq_self hnul]

/-- The reports programmed into a device, in records of 21 characters. -/
structure TabelaRelger where
  regs : List Str
  length_regs : regs.length = 30
  largura : ∀ reg ∈ regs, reg.length = 21
  limpo : ∀ reg ∈ regs, '\x00' ∉ reg

namespace TabelaRelger

/-- The records as the library writes them, each with a comma behind it. -/
def codifica (T : TabelaRelger) : Str := T.regs.flatMap (· ++ [','])

/-- The description of a record, behind the number of times it was used. -/
def descricao (tam : ℕ) (reg : Str) : Str := Str.trim ((reg.drop 4).take tam)

theorem length_registro (T : TabelaRelger) : ∀ reg ∈ T.regs, (reg ++ [',']).length = 22 := by
  intro reg hreg
  rw [List.length_append, T.largura reg hreg]
  rfl

theorem drop_codifica (T : TabelaRelger) {i : ℕ} (hi : i < T.regs.length) :
    T.codifica.drop (i * 22) =
      T.regs[i] ++ ',' :: (T.regs.drop (i + 1)).flatMap (· ++ [',']) := by
  rw [codifica, drop_flatMap_getElem T.length_registro hi, List.append_assoc]
  rfl

/-- The slots that the driver reads are those of the table, behind the first one. -/
theorem descrRelger_codifica (T : TabelaRelger) {tam : ℕ} (htam : tam ≤ 17) :
    descrRelger tam T.codifica = T.regs.tail.map (descricao tam) := by
  have h₀ : 0 < T.regs.length := by
    rw [T.length_regs]
    decide
  have hvirgula : T.codifica[21]? = some ',' := by
    have h := T.drop_codifica h₀
    have hlen := T.largura _ (List.getElem_mem h₀)
    rw [Nat.zero_mul, List.drop_zero] at h
    rw [h, List.getElem?_append_right (le_of_eq hlen), hlen]
    rfl
  have htail : T.regs.tail.length = 29 := by
    rw [List.length_tail, T.length_regs]
  simp only [descrRelger, fimPrimeiro, if_pos hvirgula]
  refine map_range_eq_map htail fun i hi => ?_
  have hlt : i + 1 < T.regs.length := by
    rw [T.length_regs]
    omega
  have hmem := List.getElem_mem hlt
  have hlong : 4 ≤ T.regs[i + 1].length := by
    rw [T.largura _ hmem]
    decide
  have hpos : 21 + i * 22 + 1 + 4 = (i + 1) * 22 + 4 := by omega
  have hcabe : tam ≤ (T.regs[i + 1].drop 4).length := by
    rw [List.length_drop, T.largura _ hmem]
    exact htam
  have hnul : '\x00' ∉ (T.regs[i + 1].drop 4).take tam := fun h =>
    T.limpo _ hmem (List.mem_of_mem_drop (List.mem_of_mem_take h))
  rw [List.getElem_tail, hpos, ← List.drop_drop, T.drop_codifica hlt,
    List.drop_append_of_le_length hlong, List.take_append_of_le_length hcabe, Str.cstr_eq_self hnul]
  rfl

end TabelaRelger

/-- A library over a device with tables of payment forms and reports. -/
structure ImpressoraBase (δ : Type) extends Biblioteca δ where
  formas : Str
  formas_ok : ∀ d, (verificaFormasPagamentoMFD d).1.1 = bematechOk →
    (verificaFormasPagamentoMFD d).1.2 = formas
  relatorios : Str
  relatorios_ok : ∀ d, (pergunta .verificaRelatorioGerencialMFD d).1.1 = bematechOk →
    (pergunta .verificaRelatorioGerencialMFD d).1.2 = relatorios

/-- The tables that the base class keeps without their free slots. -/
inductive TabelaBase
  | formas
  | relatorios

namespace TabelaBase

variable {F δ : Type}

/-- How many characters of a text are compared. -/
def tam : TabelaBase → ℕ
  | formas => Base.sizeFpgto
  | relatorios => Classe.base.sizeRelger

/-- The names that are always kept. -/
def fixos : TabelaBase → List Str
  | formas => []
  | relatorios => [relatorioGeral]

/-- The descriptions of the other slots. -/
def nomes (imp : ImpressoraBase δ) : TabelaBase → List Str
  | formas => Base.descricoes imp.formas
  | relatorios => descrRelger Classe.base.sizeRelger imp.relatorios

/-- What the driver keeps. -/
def kept (a : Aparelho F δ) : TabelaBase → List Str
  | formas => a.drv.fpgto
  | relatorios => a.relger

/-- What it keeps once the table was loaded. -/
def cheia (imp : ImpressoraBase δ) (t : TabelaBase) : List Str := emUso t.fixos (t.nomes imp)

/-- The search in the table. -/
def busca (imp : ImpressoraBase δ) (q : Str) : TabelaBase → ProgObj F δ (Option ℕ)
  | formas => noObjeto (Base.getIdFormaPgto imp.toBiblioteca q)
  | relatorios => getIdRelGerencial imp.toBiblioteca .base q

end TabelaBase

namespace TabelaBase

variable {F δ : Type} {imp : ImpressoraBase δ} {a : Aparelho F δ} {q : Str}

/-- The driver keeps nothing or all that is in use, of each table. -/
def Guarda (imp : ImpressoraBase δ) (a : Aparelho F δ) : Prop :=
  ∀ t : TabelaBase, t.kept a = [] ∨ t.kept a = t.cheia imp

/-- Of each table the driver keeps what it kept, or all that is in use. -/
def Cresce (imp : ImpressoraBase δ) (a a' : Aparelho F δ) : Prop :=
  ∀ t : TabelaBase, t.kept a' = t.kept a ∨ t.kept a' = t.cheia imp

theorem exec_busca_some {t : TabelaBase} {i : ℕ}
    (h : idxElement (q.take t.tam) (t.kept a) = some i) :
    exec (t.busca imp q) a = (.ok (some (i + 1)), a) := by
  cases t with
  | formas =>
    have hidx : idxElement (q.take Base.sizeFpgto) a.drv.fpgto = some i := h
    simp only [busca, noObjeto, exec_zoom, Base.getIdFormaPgto, exec_bind, exec_get, hidx,
      exec_pure]
  | relatorios =>
    have hidx : idxElement (q.take Classe.base.sizeRelger) a.relger = some i := h
    simp only [busca, getIdRelGerencial, exec_bind, exec_get, hidx, exec_pure]

theorem nomeia_comm (q nome : Str) : (nome ≠ [] && Str.strIequals q nome) = nomeia q nome := by
  rw [nomeia, Str.strIequals_comm]

/-- What the load of the payment forms keeps, and what it finds. -/
theorem carrega_formas (buffer : Str) (q : Str) :
    ((((List.range totalFpgto).map (Base.regFpgto buffer)).filter fun reg =>
      Base.descrFpgto reg ≠ []).map Base.descrFpgto = emUso [] (Base.descricoes buffer)) ∧
    ultimoIdx (fun reg => Base.descrFpgto reg ≠ [] && Str.strIequals q (Base.descrFpgto reg))
      ((List.range totalFpgto).map (Base.regFpgto buffer)) =
        ultimoIdx (nomeia q) (Base.descricoes buffer) := by
  have hmap : Base.descricoes buffer =
      ((List.range totalFpgto).map (Base.regFpgto buffer)).map Base.descrFpgto := by
    rw [List.map_map]
    rfl
  rw [hmap]
  constructor
  · rw [emUso, List.nil_append, List.filter_map (f := Base.descrFpgto)]
    rfl
  · rw [ultimoIdx_map _ Base.descrFpgto]
    simp only [nomeia_comm]

variable (imp) in
/-- A search that finds nothing among the names kept loads the table, unless it is refused. -/
theorem exec_busca_none {t : TabelaBase} (h : idxElement (q.take t.tam) (t.kept a) = none) :
    ∃ a', Cresce imp a a' ∧ (t.kept a' = t.cheia imp ∧ exec (t.busca imp q) a =
        (.ok (primeira t.fixos (t.nomes imp) (q.take t.tam)), a') ∨
      ∃ e, exec (t.busca imp q) a = (.error e, a')) := by
  cases t with
  | formas =>
    have hidx : idxElement (q.take Base.sizeFpgto) a.drv.fpgto = none := h
    obtain ⟨r, x, d, hx, ⟨hok, rfl⟩ | ⟨msg, rfl⟩⟩ :=
      exec_consulta imp.toDll imp.verificaFormasPagamentoMFD a.toMaquina
    · rw [imp.formas_ok _ hok] at hx
      obtain ⟨hkept, hfound⟩ := carrega_formas imp.formas (q.take Base.sizeFpgto)
      generalize hrun : exec (busca imp q formas) a = res
      simp only [busca, noObjeto, exec_zoom, Base.getIdFormaPgto, exec_bind, exec_get, hidx, hx,
        exec_altera, exec_pure, hkept, hfound] at hrun
      subst hrun
      refine ⟨_, ?_, .inl ⟨rfl, rfl⟩⟩
      rintro (_ | _)
      · exact .inr rfl
      · exact .inl rfl
    · generalize hrun : exec (busca imp q formas) a = res
      simp only [busca, noObjeto, exec_zoom, Base.getIdFormaPgto, exec_bind, exec_get, hidx,
        hx] at hrun
      subst hrun
      refine ⟨_, ?_, .inr ⟨_, rfl⟩⟩
      rintro (_ | _) <;> exact .inl rfl
  | relatorios =>
    have hidx : idxElement (q.take Classe.base.sizeRelger) a.relger = none := h
    obtain ⟨r, x, d, hx, ⟨hok, rfl⟩ | ⟨msg, rfl⟩⟩ := exec_consulta imp.toDll
      (imp.pergunta .verificaRelatorioGerencialMFD) a.toMaquina
    · rw [imp.relatorios_ok _ hok] at hx
      generalize hrun : exec (busca imp q relatorios) a = res
      simp only [busca, getIdRelGerencial, noObjeto, exec_bind, exec_get, hidx, exec_zoom, hx,
        exec_modify, exec_pure, nomeia_comm] at hrun
      subst hrun
      refine ⟨_, ?_, .inl ⟨rfl, rfl⟩⟩
      rintro (_ | _)
      · exact .inl rfl
      · exact .inr rfl
    · generalize hrun : exec (busca imp q relatorios) a = res
      simp only [busca, getIdRelGerencial, noObjeto, exec_bind, exec_get, hidx, exec_zoom,
        hx] at hrun
      subst hrun
      refine ⟨_, ?_, .inr ⟨_, rfl⟩⟩
      rintro (_ | _) <;> exact .inl rfl

/-- What a search answers, and what it keeps. -/
theorem wp_busca (h : Guarda imp a) (q : Str) (t : TabelaBase) :
    Wp (t.busca imp q)
      (fun r a' => r = resposta t.fixos (t.nomes imp) (t.kept a) (q.take t.tam) ∧
        t.kept a' = t.cheia imp ∧ Cresce imp a a')
      (fun _ a' => Cresce imp a a') a := by
  unfold Wp
  cases hidx : idxElement (q.take t.tam) (t.kept a) with
  | some i =>
    rw [exec_busca_some hidx]
    have hcheia := (h t).resolve_left (ImpressoraTabelas.ne_nil_of_idxElement hidx)
    exact ⟨by rw [resposta, hidx], hcheia, fun _ => .inl rfl⟩
  | none =>
    obtain ⟨a', hcresce, ⟨hcheia, hrun⟩ | ⟨e, hrun⟩⟩ := exec_busca_none imp hidx
    · rw [hrun]
      exact ⟨by rw [resposta, hidx], hcheia, hcresce⟩
    · rw [hrun]
      exact hcresce

/-! ## Any sequence of searches -/

/-- The machine behind a search, however it ended. -/
def passo (imp : ImpressoraBase δ) (a : Aparelho F δ) (b : TabelaBase × Str) : Aparelho F δ :=
  (exec (b.1.busca imp b.2) a).2

theorem cresce_passo (h : Guarda imp a) (b : TabelaBase × Str) :
    Cresce imp a (passo imp a b) :=
  wp_state.1 ((wp_busca h b.2 b.1).mono (fun _ _ hr => hr.2.2) fun _ _ he => he)

theorem Guarda.cresce {a' : Aparelho F δ} (h : Guarda imp a) (hc : Cresce imp a a') :
    Guarda imp a' := by
  intro t
  obtain hkept | hcheia := hc t
  · rw [hkept]
    exact h t
  · exact .inr hcheia

theorem guarda_run (h : Guarda imp a) (hist : List (TabelaBase × Str)) :
    Guarda imp (run (passo imp) a hist) :=
  run_preserves (I := Guarda imp) (fun _ b hm => hm.cresce (cresce_passo hm b)) h hist _
    (run_mem_visited _ _ _)

/-- A table that was loaded stays so. -/
theorem cheia_run (h : Guarda imp a) {t : TabelaBase} (ht : t.kept a = t.cheia imp)
    (hist : List (TabelaBase × Str)) : t.kept (run (passo imp) a hist) = t.cheia imp := by
  have hpasso : ∀ (a : Aparelho F δ) b, Guarda imp a ∧ t.kept a = t.cheia imp →
      Guarda imp (passo imp a b) ∧ t.kept (passo imp a b) = t.cheia imp := by
    rintro a b ⟨hg, hcheia⟩
    have hc := cresce_passo hg b
    exact ⟨hg.cresce hc, (hc t).elim (fun hkept => hkept.trans hcheia) fun h => h⟩
  exact (run_preserves (I := fun a => Guarda imp a ∧ t.kept a = t.cheia imp) hpasso ⟨h, ht⟩ hist _
    (run_mem_visited _ _ _)).2

/-- **The answers of the base class agree** with those of a first search, and name slots of the
device, exactly when no free slot stands before the record that the text names, no other record has
that name and it is not the name of the first report: for a driver that has kept nothing at first,
an answered search `q₀` in the table and any searches before and behind it. -/
theorem busca_iff (imp : ImpressoraBase δ) {a a₁ : Aparelho F δ}
    (hvazio : ∀ t : TabelaBase, t.kept a = []) (hvazio₁ : ∀ t : TabelaBase, t.kept a₁ = [])
    (hist hist' : List (TabelaBase × Str)) (t : TabelaBase) (q₀ q : Str) {r₀ : Option ℕ}
    (hq₀ : (exec (t.busca imp q₀) (run (passo imp) a hist)).1 = .ok r₀) :
    (∀ r, (exec (t.busca imp q) a₁).1 = .ok r →
      r = primeira t.fixos (t.nomes imp) (q.take t.tam)) ∧
    ((∀ r, (exec (t.busca imp q) (run (passo imp) a (hist ++ (t, q₀) :: hist'))).1 = .ok r →
      r = primeira t.fixos (t.nomes imp) (q.take t.tam) ∧
      DoRegistro (t.fixos ++ t.nomes imp) (q.take t.tam) r) ↔
    SemSalto t.fixos (t.nomes imp) (q.take t.tam)) := by
  have hguarda : Guarda imp (run (passo imp) a hist) :=
    guarda_run (fun t => .inl (hvazio t)) hist
  have hcheia₀ : t.kept (passo imp (run (passo imp) a hist) (t, q₀)) = t.cheia imp :=
    ((wp_busca hguarda q₀ t).of_ok hq₀).2.1
  have hguarda₀ := hguarda.cresce (cresce_passo hguarda (t, q₀))
  rw [run_append, run_cons]
  generalize passo imp (run (passo imp) a hist) (t, q₀) = a₂ at hcheia₀ hguarda₀ ⊢
  have hcheia := cheia_run hguarda₀ hcheia₀ hist'
  have hfim := guarda_run hguarda₀ hist'
  generalize run (passo imp) a₂ hist' = a₃ at hcheia hfim ⊢
  constructor
  · intro r hr
    have hres := ((wp_busca (fun t => .inl (hvazio₁ t)) q t).of_ok hr).1
    rw [hvazio₁ t] at hres
    exact hres
  · rw [← resposta_iff]
    constructor
    · intro h
      cases hidx : idxElement (q.take t.tam) (t.cheia imp) with
      | some i =>
        have hrun : exec (t.busca imp q) a₃ = (.ok (some (i + 1)), a₃) :=
          exec_busca_some (hcheia ▸ hidx)
        have hres : resposta t.fixos (t.nomes imp) (t.cheia imp) (q.take t.tam) = some (i + 1) := by
          rw [resposta, hidx]
        rw [cheia] at hres
        rw [hres]
        exact h _ (congrArg Prod.fst hrun)
      | none =>
        have hres : resposta t.fixos (t.nomes imp) (t.cheia imp) (q.take t.tam) =
            primeira t.fixos (t.nomes imp) (q.take t.tam) := by
          rw [resposta, hidx]
        rw [cheia] at hres
        rw [hres]
        exact ⟨rfl, doRegistro_primeira _ _ _⟩
    · rintro h r hr
      have hres := ((wp_busca hfim q t).of_ok hr).1
      rw [hcheia] at hres
      rw [hres]
      exact h

/-! ### A device with a free slot before others -/

/-- A record of the table of reports. -/
def registroRelger (nome : Str) : Str :=
  "0000".toList ++ nome ++ List.replicate (17 - nome.length) ' '

/-- Cash, a free slot, a card, and free slots. -/
def dinheiroVagaCartao : TabelaFpgto where
  regs := ImpressoraFpgto.registro "DINHEIRO".toList '0' :: ImpressoraFpgto.registro [] '0' ::
    ImpressoraFpgto.registro "CARTAO".toList '1' ::
      List.replicate 17 (ImpressoraFpgto.registro [] '0')
  length_regs := by decide
  largura := by decide
  limpo := by decide

/-- The first report, a free slot, one more report, and free slots. -/
def geralVagaVendas : TabelaRelger where
  regs := registroRelger "RELATORIO GERAL".toList :: registroRelger [] ::
    registroRelger "VENDAS".toList :: List.replicate 27 (registroRelger [])
  length_regs := by decide
  largura := by decide
  limpo := by decide

/-- A device that accepts everything. -/
def comVagaNoMeio : ImpressoraBase Unit where
  toBiblioteca := { sempreOk fun _ => geralVagaVendas.codifica with
    verificaFormasPagamentoMFD := fun d => ((bematechOk, dinheiroVagaCartao.codifica), d) }
  formas := dinheiroVagaCartao.codifica
  formas_ok _ _ := rfl
  relatorios := geralVagaVendas.codifica
  relatorios_ok _ _ := rfl

/-- A driver that has kept nothing, and what it is once it has looked for two names. -/
def ligado : Aparelho ℤ Unit := .novo false ()
def consultado : Aparelho ℤ Unit :=
  run (passo comVagaNoMeio) ligado [(formas, "VALE".toList), (relatorios, "TURNO".toList)]

theorem ligado_vazio (t : TabelaBase) : t.kept ligado = [] := by
  cases t <;> rfl

/-- Nothing is skipped on the way to the first slot. -/
theorem semSalto_dinheiro :
    SemSalto formas.fixos (formas.nomes comVagaNoMeio) "DINHEIRO".toList := by
  have hunico : AtMostOne (nomeia "DINHEIRO".toList) (formas.nomes comVagaNoMeio) :=
    atMostOne_of_pairwise (by decide +kernel)
  have hzero : (formas.nomes comVagaNoMeio)[0]? = some "DINHEIRO".toList := by decide +kernel
  refine ⟨fun _ h => absurd h List.not_mem_nil, hunico, fun i nome hi hp => ?_⟩
  rw [hunico i 0 nome _ hi hzero hp (by decide)]
  exact List.not_mem_nil

/-- Cash is in the first slot for a first search and for a later one. -/
theorem busca_iff_dinheiro :
    some 1 = primeira formas.fixos (formas.nomes comVagaNoMeio) "DINHEIRO".toList := by
  have hvale : (exec (formas.busca comVagaNoMeio "VALE".toList) ligado).1 = .ok none := by
    decide +kernel
  have h := busca_iff comVagaNoMeio ligado_vazio ligado_vazio [] [(relatorios, "TURNO".toList)]
    formas "VALE".toList "DINHEIRO".toList hvale
  exact (h.2.2 semSalto_dinheiro (some 1) (by decide +kernel)).1

/-- **The second answer names the slot before that of the card**, which is free; so with
reports. -/
theorem busca_muda :
    ((exec (formas.busca comVagaNoMeio "CARTAO".toList) ligado).1 = .ok (some 3) ∧
      (exec (formas.busca comVagaNoMeio "CARTAO".toList) consultado).1 = .ok (some 2)) ∧
    (exec (relatorios.busca comVagaNoMeio "VENDAS".toList) ligado).1 = .ok (some 3) ∧
      (exec (relatorios.busca comVagaNoMeio "VENDAS".toList) consultado).1 = .ok (some 2) := by
  decide +kernel

end TabelaBase

end Spooler
