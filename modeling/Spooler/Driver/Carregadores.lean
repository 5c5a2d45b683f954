import Spooler.Driver.Indices
import Spooler.Driver.Operacoes
import Mathlib.Order.Bounds.Basic

/-!
# The loaders of the table of rates

`Carga` is what a load is for: the arrays are not left, the table kept has the rates and the types
that the device means, and the answer is the position of an entry asked for. **The loader of the
CV0909, which adds 29 to a position, does this for all tables of the device**, `carga_cv0909`. **The
loader of the base class adds nothing, although its positions count from one and its entries from
zero: it does this for the tables without ISS only**, `carga_base_iff`.
-/

namespace Spooler

open Foundations Driver

/-! ## What the table is for -/

section Finalidade

variable {F δ : Type}

/-- The type of the entry at the position `p`, which is ISS when `iss p`. -/
def DoTipo (iss : ℕ → Prop) (p : ℕ) (tipo : Char) : Prop :=
  tipo = Aliquota.tributadoIss ∧ iss p ∨ tipo = Aliquota.tributadoIcms ∧ ¬ iss p

/-- The table kept has one entry for each rate, of the type that its position, counted from one,
has. -/
def Espelha (taxa : ℕ → F) (iss : ℕ → Prop) (ks : List ℕ) (c : Aliqs F) : Prop :=
  ∀ i, (∀ k, ks[i]? = some k → ∃ tipo, DoTipo iss (i + 1) tipo ∧
    c.lookup i = some ⟨tipo, 0, taxa k⟩) ∧ (ks[i]? = none → c.lookup i = none)

/-- The entry at the position `p`, counted from one, has the type and the rate. -/
def EntradaEm (iss : ℕ → Prop) (ks : List ℕ) (tipo : Char) (k p : ℕ) : Prop :=
  1 ≤ p ∧ ks[p - 1]? = some k ∧ DoTipo iss p tipo

/-- The position of an entry that is asked for, `none` when there is none. -/
def Posicao (iss : ℕ → Prop) (ks : List ℕ) (tipo : Char) (k : ℕ) : Option ℕ → Prop
  | none => ∀ p, ¬ EntradaEm iss ks tipo k p
  | some p => EntradaEm iss ks tipo k p

/-- The position of the last one. -/
def UltimaPosicao (iss : ℕ → Prop) (ks : List ℕ) (tipo : Char) (k : ℕ) : Option ℕ → Prop
  | none => ∀ p, ¬ EntradaEm iss ks tipo k p
  | some p => IsGreatest {p | EntradaEm iss ks tipo k p} p

/-- Different rates are told apart. -/
def TaxasDistintas [BEq F] (taxa : ℕ → F) : Prop :=
  ∀ j < 10000, ∀ k < 10000, (taxa j == taxa k) = true ↔ j = k

/-- `get_idx_aliquota` stays within its arrays, so that what they would overwrite does not matter;
when it returns, the table kept is that of the rates and the answer is as `R` says, and when a call
is refused the table kept is as it was; and it returns when no call is refused. -/
structure Carga [BEq F] (n : Numeric F) (taxa : ℕ → F) (bib : Biblioteca δ) (t : TabelaAliqs)
    (iss : ℕ → Prop) (ks : List ℕ) (m : Maquina F δ) (aliq : Aliquota F) (R : Option ℕ → Prop) :
    Prop where
  dentro : ∀ ub ub', exec (getIdxAliquota n bib t ub aliq) m =
    exec (getIdxAliquota n bib t ub' aliq) m
  efeito : ∀ ub, Wp (getIdxAliquota n bib t ub aliq)
    (fun r m' => Espelha taxa iss ks m'.drv.aliqs ∧ R r)
    (fun e m' => (∃ msg, e = ecfExp msg) ∧ m'.drv.aliqs = m.drv.aliqs) m
  termina : bib.AceitaTabelas t → ∀ ub, ∃ r, (exec (getIdxAliquota n bib t ub aliq) m).1 = .ok r

theorem DoTipo.unique {iss : ℕ → Prop} {p : ℕ} {tipo tipo' : Char} (h : DoTipo iss p tipo)
    (h' : DoTipo iss p tipo') : tipo = tipo' := by
  rcases h with ⟨rfl, hp⟩ | ⟨rfl, hp⟩ <;> rcases h' with ⟨rfl, hp'⟩ | ⟨rfl, hp'⟩
  · rfl
  · exact absurd hp hp'
  · exact absurd hp' hp
  · rfl

variable {taxa : ℕ → F} {iss : ℕ → Prop} {ks : List ℕ} {c : Aliqs F}

/-- The types of a table kept are those of its positions. -/
theorem Espelha.iss_iff {iss' : ℕ → Prop} (h : Espelha taxa iss ks c) (h' : Espelha taxa iss' ks c)
    {i : ℕ} (hi : i < ks.length) : iss (i + 1) ↔ iss' (i + 1) := by
  obtain ⟨tipo, ht, hl⟩ := (h i).1 _ (List.getElem?_eq_getElem hi)
  obtain ⟨tipo', ht', hl'⟩ := (h' i).1 _ (List.getElem?_eq_getElem hi)
  have heq : tipo = tipo' := congrArg Aliquota.tipo (Option.some.inj (hl.symm.trans hl'))
  subst heq
  have hne : Aliquota.tributadoIss ≠ Aliquota.tributadoIcms := by decide
  rcases ht with ⟨rfl, hp⟩ | ⟨rfl, hp⟩ <;> rcases ht' with ⟨heq, hp'⟩ | ⟨heq, hp'⟩
  · exact iff_of_true hp hp'
  · exact absurd heq hne
  · exact absurd heq.symm hne
  · exact iff_of_false hp hp'

variable [BEq F] {tipo : Char} {k cst : ℕ}

/-- When an entry kept matches. -/
theorem Espelha.casa_lookup (h : Espelha taxa iss ks c) {a b : Aliquota F} {i : ℕ}
    (hb : c.lookup i = some b) : casa a ⟨i, b⟩ = true ↔
      ∃ j, ks[i]? = some j ∧ (taxa j == a.aliq) = true ∧ DoTipo iss (i + 1) a.tipo := by
  cases hi : ks[i]? with
  | none => cases hb.symm.trans ((h i).2 hi)
  | some j =>
    obtain ⟨tipo, ht, hl⟩ := (h i).1 j hi
    obtain rfl := Option.some.inj (hb.symm.trans hl)
    rw [casa, Bool.and_eq_true, beq_iff_eq]
    constructor
    · rintro ⟨rfl, htaxa⟩
      exact ⟨j, rfl, htaxa, ht⟩
    · rintro ⟨k, hk, htaxa, ht'⟩
      obtain rfl := Option.some.inj hk
      exact ⟨ht.unique ht', htaxa⟩

/-- What the search finds an entry to be. -/
theorem Espelha.casa_iff (hd : TaxasDistintas taxa) (h : Espelha taxa iss ks c)
    (hks : ∀ k ∈ ks, k < 10000) (hk : k < 10000) {i : ℕ} {a : Aliquota F}
    (ha : c.lookup i = some a) :
    casa ⟨tipo, cst, taxa k⟩ ⟨i, a⟩ = true ↔ EntradaEm iss ks tipo k (i + 1) := by
  rw [h.casa_lookup ha, EntradaEm, Nat.add_sub_cancel]
  constructor
  · rintro ⟨j, hi, htaxa, ht⟩
    obtain rfl := (hd j (hks j (List.mem_of_getElem? hi)) k hk).1 htaxa
    exact ⟨by omega, hi, ht⟩
  · rintro ⟨-, hi, ht⟩
    exact ⟨k, hi, (hd k hk k hk).2 rfl, ht⟩

/-- **The search answers with the position of the last entry asked for.** -/
theorem Espelha.ultimaPosicao (hd : TaxasDistintas taxa) (h : Espelha taxa iss ks c)
    (hks : ∀ k ∈ ks, k < 10000) (hk : k < 10000) :
    UltimaPosicao iss ks tipo k (posicaoAliq c ⟨tipo, cst, taxa k⟩) := by
  have hlookup : ∀ p, EntradaEm iss ks tipo k p → ∃ i a, p = i + 1 ∧ c.lookup i = some a := by
    rintro p ⟨hp, hget, -⟩
    obtain ⟨tipo', -, hl⟩ := (h (p - 1)).1 k hget
    exact ⟨p - 1, _, by omega, hl⟩
  cases hr : posicaoAliq c ⟨tipo, cst, taxa k⟩ with
  | none =>
    intro p hp
    obtain ⟨i, a, rfl, ha⟩ := hlookup p hp
    have hno := posicaoAliq_eq_none hr ha
    rw [(h.casa_iff hd hks hk ha).2 hp] at hno
    cases hno
  | some q =>
    obtain ⟨i, a, rfl, ha, hcasa, hmax⟩ := posicaoAliq_eq_some hr
    refine ⟨(h.casa_iff hd hks hk ha).1 hcasa, fun p hp => ?_⟩
    obtain ⟨j, b, rfl, hb⟩ := hlookup p hp
    exact Nat.succ_le_succ (hmax j b hb ((h.casa_iff hd hks hk hb).2 hp))

omit [BEq F] in
theorem UltimaPosicao.posicao {r : Option ℕ} (h : UltimaPosicao iss ks tipo k r) :
    Posicao iss ks tipo k r := by
  cases r with
  | none => exact h
  | some p => exact h.1

end Finalidade

/-! ## The two loaders -/

section Carregadores

variable {F δ : Type} [BEq F] {n : Numeric F} {taxa : ℕ → F} {bib : Biblioteca δ}
  {t : TabelaAliqs} {ps ks : List ℕ} {m : Maquina F δ} {k : ℕ}

omit [BEq F] in
/-- The table of two texts mirrors the rates, each entry of the type its flag says. -/
theorem espelha_tabelaDe (hn : n.Centesimos taxa) (h : ListasCabem t ps ks) {iss : ℕ → Prop}
    (hiss : ∀ i, iss (i + 1) ↔ Marcada t ps i) :
    Espelha taxa iss ks (tabelaDe n t (listaIss ps) (listaTaxas ks)) := by
  intro i
  rw [lookup_tabelaDe hn h]
  refine ⟨fun k hget => ⟨_, ?_, by rw [hget, Option.map_some]⟩, fun hget => by rw [hget]; rfl⟩
  rw [DoTipo, hiss i]
  by_cases hm : Marcada t ps i
  · exact .inl ⟨if_pos hm, hm⟩
  · exact .inr ⟨if_neg hm, hm⟩

/-- The log shows the aliquota, and the table is loaded when there is none. -/
theorem exec_getIdxAliquota {aliq : Aliquota F} {s : Str} (hs : aliq.getSerialized n = .ok s)
    (ub : Estrago F δ) : exec (getIdxAliquota n bib t ub aliq) m =
      if m.drv.aliqs.keys = [] then exec (carregaAliqs n bib t ub aliq) m
      else (.ok (posicaoAliq m.drv.aliqs aliq), m) := by
  rw [getIdxAliquota, hs]
  simp only [exec_bind, exec_ofExcept, exec_get]
  split <;> rfl

/-- **The texts that fit are loaded as the types of the positions say**, from nothing or over the
table they have made before. -/
theorem carga_de_cabe (hn : n.Centesimos taxa) (hd : TaxasDistintas taxa)
    (h : ListasCabem t ps ks) {iss : ℕ → Prop} (hiss : ∀ i, iss (i + 1) ↔ Marcada t ps i)
    (hl : bib.Lista t m.dev (listaIss ps) (listaTaxas ks))
    (hm : m.drv.aliqs = ∅ ∨ Espelha taxa iss ks m.drv.aliqs) (hk : k < 10000) (tipo : Char)
    (cst : ℕ) : Carga n taxa bib t iss ks m ⟨tipo, cst, taxa k⟩ (UltimaPosicao iss ks tipo k) := by
  have hrun : ∀ ub, exec (getIdxAliquota n bib t ub ⟨tipo, cst, taxa k⟩) m = _ :=
    exec_getIdxAliquota (Aliquota.getSerialized_taxa hn hk tipo cst)
  by_cases hvazia : m.drv.aliqs.keys = []
  · have hnada : m.drv.aliqs = ∅ := AList.ext (List.map_eq_nil_iff.1 hvazia)
    have hesp := espelha_tabelaDe hn h hiss
    simp only [if_pos hvazia] at hrun
    rcases exec_carregaAliqs (cabem_listas hn h) hl hnada
      ⟨tipo, cst, taxa k⟩ with ⟨x, hload⟩ | ⟨hno, msg, x, d, hload⟩
    · simp only [hload] at hrun
      refine ⟨fun ub ub' => by rw [hrun, hrun], fun ub => ?_, fun _ ub => ⟨_, by rw [hrun]⟩⟩
      rw [Wp, hrun]
      exact ⟨hesp, hesp.ultimaPosicao hd h.taxas hk⟩
    · simp only [hload] at hrun
      refine ⟨fun ub ub' => by rw [hrun, hrun], fun ub => ?_, fun ha => absurd ha hno⟩
      rw [Wp, hrun]
      exact ⟨⟨msg, rfl⟩, rfl⟩
  · have hesp : Espelha taxa iss ks m.drv.aliqs := by
      refine hm.resolve_left fun hnada => hvazia ?_
      rw [hnada]
      rfl
    simp only [if_neg hvazia] at hrun
    refine ⟨fun ub ub' => by rw [hrun, hrun], fun ub => ?_, fun _ ub => ⟨_, by rw [hrun]⟩⟩
    rw [Wp, hrun]
    exact ⟨hesp, hesp.ultimaPosicao hd h.taxas hk⟩

theorem length_le_of_posicoes (hps : ps.Nodup) {b : ℕ} (h : ∀ p ∈ ps, 1 ≤ p ∧ p ≤ b) :
    ps.length ≤ b := by
  have hsub : ps ⊆ List.range' 1 b := by
    intro p hp
    rw [List.mem_range'_1]
    have := h p hp
    omega
  have hle := (List.subperm_of_subset hps hsub).length_le
  rwa [List.length_range'] at hle

/-- **The loader of the CV0909**: for all positions of ISS up to 30, which stand for the entries
from 31 on, and all tables of up to 60 rates. -/
theorem carga_cv0909 (hn : n.Centesimos taxa) (hd : TaxasDistintas taxa) (hps : ps.Nodup)
    (h30 : ∀ p ∈ ps, 1 ≤ p ∧ p ≤ 30) (hks : ks ≠ []) (hlen : ks.length ≤ 60)
    (hks' : ∀ k ∈ ks, k < 10000) (hl : bib.Lista .cv0909 m.dev (listaIss ps) (listaTaxas ks))
    (hm : m.drv.aliqs = ∅ ∨ Espelha taxa (fun p => p - 30 ∈ ps) ks m.drv.aliqs) (hk : k < 10000)
    (tipo : Char) (cst : ℕ) :
    Carga n taxa bib .cv0909 (fun p => p - 30 ∈ ps) ks m ⟨tipo, cst, taxa k⟩
      (UltimaPosicao (fun p => p - 30 ∈ ps) ks tipo k) := by
  have hcount := length_le_of_posicoes hps h30
  refine carga_de_cabe hn hd ⟨by decide, ?_, fun p hp => ?_, fun p hp => ?_, hks, ?_, hlen, hks'⟩
    (fun i => ?_) hl hm hk tipo cst
  · change 3 * ps.length < 91
    omega
  · have := h30 p hp
    omega
  · have := h30 p hp
    change 0 ≤ (p : ℤ) + 29 ∧ (p : ℤ) + 29 < 60
    omega
  · change 5 * ks.length < 301
    omega
  · change i + 1 - 30 ∈ ps ↔ ∃ p ∈ ps, (p : ℤ) + 29 = i
    constructor
    · intro hmem
      have := h30 _ hmem
      exact ⟨_, hmem, by omega⟩
    · rintro ⟨p, hmem, heq⟩
      rwa [show i + 1 - 30 = p by omega]

/-- A position that lies behind the array is written there. -/
theorem marcaIss_fora {flag : Str} (htotal : 2 < t.total) (hps : ∀ p ∈ ps, p < 100)
    {p : ℕ} (hp : p ∈ ps) (hfora : (t.total : ℤ) ≤ p + t.desloc) :
    marcaIss t (ps.map (Str.zeroPad 2)) flag = none := by
  induction ps generalizing flag with
  | nil => cases hp
  | cons q ps ih =>
    rw [List.forall_mem_cons] at hps
    rw [List.map_cons, marcaIss_zeroPad htotal hps.1]
    rcases List.mem_cons.1 hp with rfl | hp
    · rw [if_neg (by omega)]
    · split
      · exact ih hps.2 hp
      · rfl

/-- The texts of the base class: positions of ISS up to 16, and 16 rates. -/
structure ListaBase (ps ks : List ℕ) : Prop where
  nodup : ps.Nodup
  posicoes : ∀ p ∈ ps, 1 ≤ p ∧ p ≤ 16
  total : ks.length = 16
  taxas : ∀ k ∈ ks, k < 10000

theorem ListaBase.listasCabem (h : ListaBase ps ks) (h16 : 16 ∉ ps) : ListasCabem .base ps ks := by
  have hcount := length_le_of_posicoes h.nodup h.posicoes
  have htotal := h.total
  refine ⟨by decide, ?_, fun p hp => ?_, fun p hp => ?_, List.ne_nil_of_length_pos (by omega), ?_,
    htotal.le, h.taxas⟩
  · change 3 * ps.length < 50
    omega
  · have := h.posicoes p hp
    omega
  · have hne : p ≠ 16 := fun heq => h16 (heq ▸ hp)
    have := h.posicoes p hp
    change 0 ≤ (p : ℤ) + 0 ∧ (p : ℤ) + 0 < 16
    omega
  · change 5 * ks.length < 81
    omega

theorem marcada_base (ps : List ℕ) (i : ℕ) : i + 1 - 1 ∈ ps ↔ Marcada .base ps i := by
  change i + 1 - 1 ∈ ps ↔ ∃ p ∈ ps, (p : ℤ) + 0 = i
  rw [Nat.add_sub_cancel]
  constructor
  · exact fun hmem => ⟨i, hmem, by omega⟩
  · rintro ⟨p, hmem, heq⟩
    rwa [show i = p by omega]

/-- What the base class makes of its texts: a position stands for the entry behind the one it
means. -/
theorem carga_base (hn : n.Centesimos taxa) (hd : TaxasDistintas taxa) (h : ListaBase ps ks)
    (h16 : 16 ∉ ps) (hl : bib.Lista .base m.dev (listaIss ps) (listaTaxas ks))
    (hm : m.drv.aliqs = ∅ ∨ Espelha taxa (fun p => p - 1 ∈ ps) ks m.drv.aliqs) (hk : k < 10000)
    (tipo : Char) (cst : ℕ) :
    Carga n taxa bib .base (fun p => p - 1 ∈ ps) ks m ⟨tipo, cst, taxa k⟩
      (UltimaPosicao (fun p => p - 1 ∈ ps) ks tipo k) :=
  carga_de_cabe hn hd (h.listasCabem h16) (marcada_base ps) hl hm hk tipo cst

/-- With position 16 in the list `flag` is left, and anything may come of the call. -/
theorem exec_getIdxAliquota_fora (h : ListaBase ps ks) (h16 : 16 ∈ ps)
    (hl : bib.Lista .base m.dev (listaIss ps) (listaTaxas ks)) (ha : bib.AceitaTabelas .base)
    (hnada : m.drv.aliqs = ∅) {aliq : Aliquota F} {s : Str}
    (hs : aliq.getSerialized n = .ok s) : ∃ x d, ∀ ub,
      exec (getIdxAliquota n bib .base ub aliq) m =
        ((ub (m.com x d)).1, m.comAliqs x d (ub (m.com x d)).2) := by
  have hcount := length_le_of_posicoes h.nodup h.posicoes
  have hdig : ∀ p ∈ ps, p < 100 := fun p hp => by have := h.posicoes p hp; omega
  have hmarca : marcaIss .base (pedacos (listaIss ps)) (semIss .base) = none := by
    rw [pedacos_listaIss, if_neg (List.ne_nil_of_mem h16)]
    exact marcaIss_fora (by decide) hdig h16 le_rfl
  have htam : (listaIss ps).length < TabelaAliqs.base.tamIss := by
    have := length_listaIss_le hdig
    change _ < 50
    omega
  have hvazia : m.drv.aliqs.keys = [] := by
    rw [hnada]
    rfl
  obtain ⟨x, hiss | ⟨hno, -⟩⟩ := exec_leVetor hl.iss htam
  · refine ⟨x, bib.aposPergunta .verificaIndiceAliquotasIss m.dev, fun ub => ?_⟩
    rw [exec_getIdxAliquota hs, if_pos hvazia, carregaAliqs, hiss]
    simp only [hmarca, foraDoVetor, exec_bind, exec_get, exec_altera, exec_ofExcept]
    rfl
  · exact absurd ⟨ha.iss _, ha.retorno⟩ hno

/-- A device that answers with two texts. -/
def doisTextos (iss tab : Str) : Biblioteca Unit :=
  sempreOk fun q => if q = .verificaIndiceAliquotasIss then iss else tab

/-- The driver just built over it. -/
def ligadaNova (F : Type) : Maquina F Unit := .ligada false true [] ()

theorem aceita_doisTextos (iss tab : Str) : (doisTextos iss tab).AceitaTabelas .base :=
  ⟨fun _ => rfl, fun _ => rfl, fun _ => rfl⟩

theorem cstr_lista {w : ℕ} (ps : List ℕ) :
    Str.cstr ([','].intercalate (ps.map (Str.zeroPad w))) =
      [','].intercalate (ps.map (Str.zeroPad w)) := by
  refine Str.cstr_eq_self fun h => ?_
  rcases mem_intercalate h with h | ⟨s, hs, h⟩
  · cases h
  · obtain ⟨p, -, rfl⟩ := List.mem_map.1 hs
    exact notMem_zeroPad rfl w p h

theorem lista_doisTextos (ht : t.pergunta ≠ .verificaIndiceAliquotasIss) (ps ks : List ℕ)
    (d : Unit) :
    (doisTextos (listaIss ps) (listaTaxas ks)).Lista t d (listaIss ps) (listaTaxas ks) where
  iss := cstr_lista ps
  tab := by
    change Str.cstr (if t.pergunta = .verificaIndiceAliquotasIss then _ else _) = _
    rw [if_neg ht]
    exact cstr_lista ks

theorem Carga.mono {iss : ℕ → Prop} {aliq : Aliquota F} {R R' : Option ℕ → Prop}
    (h : Carga n taxa bib t iss ks m aliq R) (hR : ∀ r, R r → R' r) :
    Carga n taxa bib t iss ks m aliq R' where
  dentro := h.dentro
  efeito ub := (h.efeito ub).mono (fun r _ hr => ⟨hr.1, hR r hr.2⟩) fun _ _ he => he
  termina := h.termina

omit [BEq F] in
/-- The table is never the one meant when a position is listed: the entry of the first position
is not ISS. -/
theorem not_espelha_base (h : ListaBase ps ks) (hne : ps ≠ []) {c : Aliqs F}
    (hc : Espelha taxa (fun p => p - 1 ∈ ps) ks c) : ¬ Espelha taxa (fun p => p ∈ ps) ks c := by
  intro hc'
  obtain ⟨p, hp, hmin⟩ : ∃ p ∈ ps, ∀ q ∈ ps, p ≤ q := by
    obtain ⟨q, hq⟩ := List.exists_mem_of_ne_nil ps hne
    have hex : ∃ p, p ∈ ps := ⟨q, hq⟩
    exact ⟨Nat.find hex, Nat.find_spec hex, fun q hq => Nat.find_min' hex hq⟩
  have hpos := h.posicoes p hp
  have htotal := h.total
  have hiff := hc.iss_iff hc' (i := p - 1) (by omega)
  rw [Nat.add_sub_cancel, Nat.sub_add_cancel hpos.1] at hiff
  have := hmin _ (hiff.2 hp)
  omega

/-- A list with a position of ISS is loaded wrongly. -/
theorem not_carga_base (hn : n.Centesimos taxa) (hd : TaxasDistintas taxa) (h : ListaBase ps ks)
    (hne : ps ≠ []) : ¬ Carga n taxa (doisTextos (listaIss ps) (listaTaxas ks)) .base
      (fun p => p ∈ ps) ks (ligadaNova F) ⟨Aliquota.tributadoIcms, 0, taxa 0⟩
      (Posicao (fun p => p ∈ ps) ks Aliquota.tributadoIcms 0) := by
  intro hcarga
  by_cases h16 : 16 ∈ ps
  · -- two things that may come of leaving the array
    obtain ⟨x, d, hrun⟩ := exec_getIdxAliquota_fora (m := ligadaNova F) h h16
      (lista_doisTextos (by decide) ps ks ()) (aceita_doisTextos _ _) rfl
      (Aliquota.getSerialized_taxa hn (k := 0) (by decide) Aliquota.tributadoIcms 0)
    have hdentro := hcarga.dentro (fun _ => (.ok none, ∅)) fun _ => (.ok (some 0), ∅)
    rw [hrun, hrun] at hdentro
    cases (Prod.mk.inj hdentro).1
  · have hreal := carga_base (m := ligadaNova F) hn hd h h16
      (lista_doisTextos (by decide) ps ks ()) (.inl rfl) (k := 0) (by decide)
      Aliquota.tributadoIcms 0
    obtain ⟨r, hr⟩ := hreal.termina (aceita_doisTextos _ _) fun _ => (.ok none, ∅)
    have hc := (hreal.efeito _).of_ok hr
    have hc' := (hcarga.efeito _).of_ok hr
    exact not_espelha_base h hne hc.1 hc'.1

/-- **The loader of the base class** does what its table is for exactly when no position of ISS is
listed. -/
theorem carga_base_iff (hn : n.Centesimos taxa) (hd : TaxasDistintas taxa) (h : ListaBase ps ks) :
    (∀ (δ : Type) (bib : Biblioteca δ) (m : Maquina F δ),
      bib.Lista .base m.dev (listaIss ps) (listaTaxas ks) → m.drv.aliqs = ∅ →
      ∀ k < 10000, ∀ tipo cst, Carga n taxa bib .base (fun p => p ∈ ps) ks m ⟨tipo, cst, taxa k⟩
        (Posicao (fun p => p ∈ ps) ks tipo k)) ↔ ps = [] := by
  constructor
  · intro hall
    by_contra hne
    exact not_carga_base hn hd h hne (hall Unit _ _ (lista_doisTextos (by decide) ps ks ()) rfl 0
      (by decide) _ 0)
  · rintro rfl
    intro δ bib m hl hnada k hk tipo cst
    have heq : (fun p => p - 1 ∈ ([] : List ℕ)) = fun p => p ∈ [] := by
      funext p
      simp
    have hcarga := carga_base hn hd h (by simp) hl (.inl hnada) hk tipo cst
    rw [heq] at hcarga
    exact hcarga.mono fun r => UltimaPosicao.posicao

end Carregadores

/-! ## Two tables -/

theorem taxasDistintas_float : TaxasDistintas taxaFloat := by
  intro j hj k hk
  rw [beq_iff_eq, taxaFloat_inj hj hk]

/-- Sixteen rates of 7.00. -/
def dezesseisTaxas : List ℕ := List.replicate 16 700

theorem listaBase_dezesseisTaxas {ps : List ℕ} (hps : ps.Nodup) (h : ∀ p ∈ ps, 1 ≤ p ∧ p ≤ 16) :
    ListaBase ps dezesseisTaxas where
  nodup := hps
  posicoes := h
  total := List.length_replicate
  taxas k hk := by
    rw [List.eq_of_mem_replicate hk]
    decide

/-- Position 5 of the base class is loaded as ICMS, and position 6 as ISS. -/
theorem carga_base_errada : ¬ Carga Numeric.float taxaFloat
    (doisTextos (listaIss [5]) (listaTaxas dezesseisTaxas)) .base (fun p => p ∈ [5]) dezesseisTaxas
    (ligadaNova ℚ) ⟨Aliquota.tributadoIcms, 0, taxaFloat 0⟩
    (Posicao (fun p => p ∈ [5]) dezesseisTaxas Aliquota.tributadoIcms 0) :=
  not_carga_base centesimos_float taxasDistintas_float
    (listaBase_dezesseisTaxas (by decide) (by decide)) (by decide)

/-- A table without ISS is loaded as it is. -/
theorem carga_base_sem_iss : Carga Numeric.float taxaFloat
    (doisTextos (listaIss []) (listaTaxas dezesseisTaxas)) .base (fun p => p ∈ []) dezesseisTaxas
    (ligadaNova ℚ) ⟨Aliquota.tributadoIcms, 0, taxaFloat 700⟩
    (Posicao (fun p => p ∈ []) dezesseisTaxas Aliquota.tributadoIcms 700) :=
  (carga_base_iff centesimos_float taxasDistintas_float
    (listaBase_dezesseisTaxas List.nodup_nil (by simp))).2 rfl Unit _ _
    (lista_doisTextos (by decide) [] dezesseisTaxas ()) rfl 700 (by decide) _ 0

/-- Thirty-three rates, the first and the third of the entries from 31 on being ISS. -/
theorem carga_cv0909_com_iss : Carga Numeric.float taxaFloat
    (doisTextos (listaIss [3, 1]) (listaTaxas (List.replicate 33 1700))) .cv0909
    (fun p => p - 30 ∈ [3, 1]) (List.replicate 33 1700) (ligadaNova ℚ)
    ⟨Aliquota.tributadoIss, 0, taxaFloat 1700⟩
    (UltimaPosicao (fun p => p - 30 ∈ [3, 1]) (List.replicate 33 1700) Aliquota.tributadoIss
      1700) :=
  carga_cv0909 centesimos_float taxasDistintas_float (by decide) (by decide) (by decide) (by decide)
    (by simp) (lista_doisTextos (by decide) _ _ ()) (.inl rfl) (by decide) _ 0

end Spooler
