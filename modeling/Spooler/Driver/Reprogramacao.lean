import Spooler.Driver.Carregadores
import Spooler.Driver.Simulacao
import Spooler.Driver.Venda

/-!
# A rate that is programmed twice

A device with sixteen positions (`QuadroAliqs`) gives a free one to a rate that is programmed, and
lists it from then on (`GuardaTaxas`). `set_aliquota` programs a rate that it does not find. **Asked
again, it raises `ECF_ALIQ_DEFINED` exactly when the loader of the base class takes an entry of the
table for the one asked for**, `repetida_iff`: a rate of ICMS behind a position of ISS, or of ISS
behind a position without, is programmed again, and so are a rate of another type and one that is
not a number of hundredths.
-/

namespace Spooler

open Foundations Driver

/-! ## The table of the device -/

/-- The positions of ISS and the rates. -/
structure QuadroAliqs where
  iss : List ℕ
  taxas : List ℕ
  bem : ListaBase iss taxas

/-- A rate is given the position `p`, which was not one of ISS; now it is, when the rate is
programmed as ISS. -/
structure Programada (q : QuadroAliqs) (p k : ℕ) (iss : Prop) (q' : QuadroAliqs) : Prop where
  livre : 1 ≤ p ∧ p ≤ 16 ∧ p ∉ q.iss
  taxas : q'.taxas = q.taxas.set (p - 1) k
  iss : ∀ x, x ∈ q'.iss ↔ x ∈ q.iss ∨ iss ∧ x = p

/-- The device reports success, lists its table, which reading leaves alone, and gives a free
position to a rate that it accepts, which is one of four digits. -/
structure Biblioteca.GuardaTaxas {δ : Type} (bib : Biblioteca δ) (quadro : δ → QuadroAliqs) :
    Prop where
  retorno : ∀ d, (bib.retornoImpressoraMFD d).1 = (bematechOk, ⟨6, 0, 0, 0⟩)
  quadro_retorno : ∀ d, quadro (bib.retornoImpressoraMFD d).2 = quadro d
  leitura : ∀ d d', bib.Le d d' → quadro d' = quadro d
  iss : ∀ d, (bib.pergunta .verificaIndiceAliquotasIss d).1 =
    (bematechOk, listaIss (quadro d).iss)
  taxas : ∀ d, (bib.pergunta .retornoAliquotas d).1 = (bematechOk, listaTaxas (quadro d).taxas)
  programa : ∀ d raw flag, (bib.acao (.programaAliquota raw flag) d).1 = bematechOk →
    ∃ k < 10000, raw = Str.zeroPad 4 k ∧ ∃ p, Programada (quadro d) p k (flag = 1)
      (quadro (bib.acao (.programaAliquota raw flag) d).2)

namespace Biblioteca.GuardaTaxas

variable {F δ : Type} {bib : Biblioteca δ} {quadro : δ → QuadroAliqs}

theorem espia (h : bib.GuardaTaxas quadro) : bib.espia.GuardaTaxas fun s => quadro s.1 where
  retorno s := h.retorno s.1
  quadro_retorno s := h.quadro_retorno s.1
  leitura s s' hle := by
    refine h.leitura s.1 s'.1 ?_
    cases hle <;> constructor
  iss s := h.iss s.1
  taxas s := h.taxas s.1
  programa s := h.programa s.1

theorem aceita (h : bib.GuardaTaxas quadro) : bib.AceitaTabelas .base where
  retorno := h.retorno
  iss d := congrArg Prod.fst (h.iss d)
  tab d := congrArg Prod.fst (h.taxas d)

theorem quadro_aposCheck (h : bib.GuardaTaxas quadro) (retcode : ℤ) (d : δ) :
    quadro (bib.toDll.aposCheck retcode d) = quadro d := by
  unfold Dll.aposCheck
  split
  · exact h.quadro_retorno d
  · rfl

theorem quadro_aposPergunta (h : bib.GuardaTaxas quadro) (q : Pergunta) (d : δ) :
    quadro (bib.aposPergunta q d) = quadro d :=
  (h.quadro_aposCheck _ _).trans (h.leitura _ _ (.pergunta q))

theorem quadro_aposTabelas (h : bib.GuardaTaxas quadro) (t : TabelaAliqs) (d : δ) :
    quadro (bib.aposTabelas t d) = quadro d :=
  (h.quadro_aposPergunta _ _).trans (h.quadro_aposPergunta _ _)

/-- The two texts are those of the table. -/
theorem lista (h : bib.GuardaTaxas quadro) (d : δ) :
    bib.Lista .base d (listaIss (quadro d).iss) (listaTaxas (quadro d).taxas) where
  iss := by
    rw [h.iss]
    exact cstr_lista _
  tab := by
    have htab := h.taxas (bib.aposPergunta .verificaIndiceAliquotasIss d)
    rw [h.quadro_aposPergunta] at htab
    change Str.cstr (bib.pergunta .retornoAliquotas _).1.2 = _
    rw [htab]
    exact cstr_lista _

/-- The table survives what the driver reads. -/
theorem estavelLeitura (h : bib.GuardaTaxas quadro) (q : QuadroAliqs) :
    EstavelLeitura bib (fun m : Maquina F δ => quadro m.dev = q) fun _ => True where
  check retcode := contained_of_state fun m hm => by
    obtain ⟨r, x, hx, -⟩ := exec_check bib.toDll retcode m
    rw [hx]
    exact (h.quadro_aposCheck retcode m.dev).trans hm
  avalia retcode := contained_of_state fun m hm => by
    obtain ⟨r, x, hx, -⟩ := exec_avaliaRetcode retcode m
    rw [hx]
    exact hm
  sts _ _ hm := hm
  le m d hd hm := (h.leitura _ _ hd).trans hm
  membros _ _ _ hm := hm

end Biblioteca.GuardaTaxas

/-! ## One call -/

section Chamadas

variable {F δ : Type} {n : Numeric F} {taxa : ℕ → F} {bib : Biblioteca δ}
  {quadro : δ → QuadroAliqs} {m t : Maquina F δ} {a : Aliquota F} {s raw : Str} {ub : Estrago F δ}

theorem Aliquota.getRawNumbers_of_getSerialized (hs : a.getSerialized n = .ok s) :
    ∃ raw, a.getRawNumbers n = .ok raw := by
  unfold Aliquota.getSerialized at hs
  cases hraw : a.getRawNumbers n with
  | error e =>
    rw [hraw] at hs
    cases hs
  | ok raw => exact ⟨raw, rfl⟩

variable [BEq F]

/-- The loader of the base class takes an entry of the table for the one asked for: the entry `i`,
counted from zero, has the type of the position in front of it. -/
def QuadroAliqs.Reconhece (taxa : ℕ → F) (q : QuadroAliqs) (a : Aliquota F) : Prop :=
  16 ∉ q.iss ∧ ∃ i k, q.taxas[i]? = some k ∧ (taxa k == a.aliq) = true ∧
    DoTipo (fun p => p ∈ q.iss) i a.tipo

/-- The flag of ISS. -/
def flagIss (tipo : Char) : ℤ := if tipo = Aliquota.tributadoIss then 1 else 0

theorem flagIss_eq_one {tipo : Char} : flagIss tipo = 1 ↔ tipo = Aliquota.tributadoIss := by
  unfold flagIss
  split <;> simp [*]

/-- A search succeeds when an entry matches. -/
theorem posicaoAliq_isSome {c : Aliqs F} :
    (posicaoAliq c a).isSome = true ↔ ∃ i b, c.lookup i = some b ∧ casa a ⟨i, b⟩ = true := by
  cases hr : posicaoAliq c a with
  | none =>
    refine iff_of_false (by simp) ?_
    rintro ⟨i, b, hb, hcasa⟩
    cases hcasa.symm.trans (posicaoAliq_eq_none hr hb)
  | some p =>
    obtain ⟨i, b, -, hb, hcasa, -⟩ := posicaoAliq_eq_some hr
    exact iff_of_true rfl ⟨i, b, hb, hcasa⟩

/-- What the search of a table that has been loaded finds. -/
theorem Espelha.isSome_iff {iss : ℕ → Prop} {ks : List ℕ} {c : Aliqs F}
    (h : Espelha taxa iss ks c) : (posicaoAliq c a).isSome = true ↔
      ∃ i k, ks[i]? = some k ∧ (taxa k == a.aliq) = true ∧ DoTipo iss (i + 1) a.tipo := by
  rw [posicaoAliq_isSome]
  constructor
  · rintro ⟨i, b, hb, hcasa⟩
    exact ⟨i, (h.casa_lookup hb).1 hcasa⟩
  · rintro ⟨i, k, hi, hmatch⟩
    obtain ⟨tipo, -, hl⟩ := (h i).1 k hi
    exact ⟨i, _, hl, (h.casa_lookup hl).2 ⟨k, hi, hmatch⟩⟩

/-- A table without position 16 among those of ISS is loaded and searched. -/
theorem exec_getIdxAliquota_guarda (hn : n.Centesimos taxa) (h : bib.GuardaTaxas quadro)
    (hnada : m.drv.aliqs = ∅) (h16 : 16 ∉ (quadro m.dev).iss) (hs : a.getSerialized n = .ok s) :
    ∃ r x c, (r.isSome = true ↔ (quadro m.dev).Reconhece taxa a) ∧
      ∀ ub, exec (getIdxAliquota n bib .base ub a) m =
        (.ok r, m.comAliqs x (bib.aposTabelas .base m.dev) c) := by
  have hbem := (quadro m.dev).bem
  have hvazia : m.drv.aliqs.keys = [] := by
    rw [hnada]
    rfl
  have hesp : Espelha taxa (fun p => p - 1 ∈ (quadro m.dev).iss) _ _ :=
    espelha_tabelaDe hn (hbem.listasCabem h16) (marcada_base _)
  rcases exec_carregaAliqs (cabem_listas hn (hbem.listasCabem h16)) (h.lista m.dev) hnada a with
    ⟨x, hload⟩ | ⟨hno, -⟩
  · have hrun : ∀ ub, exec (getIdxAliquota n bib .base ub a) m = _ := exec_getIdxAliquota hs
    simp only [if_pos hvazia, hload] at hrun
    refine ⟨_, x, _, hesp.isSome_iff.trans ?_, hrun⟩
    exact (and_iff_right h16).symm
  · exact absurd h.aceita hno

omit [BEq F] in
/-- An action returns, having been carried out, or is refused. -/
theorem exec_aciona (dll : Dll δ) (f : δ → ℤ × δ) (m : Maquina F δ) : ∃ r x,
    exec (aciona dll f) m = (r, m.com x (dll.aposCheck (f m.dev).1 (f m.dev).2)) ∧
      (r = .ok () ∧ (f m.dev).1 = bematechOk ∨ Recusada r) := by
  obtain ⟨r, x, hx, hr⟩ := exec_check dll (f m.dev).1 { m with dev := (f m.dev).2 }
  refine ⟨r, x, hx, ?_⟩
  rcases hr with rfl | hr
  · exact .inl ⟨rfl, eq_ok_of_check (congrArg Prod.fst hx)⟩
  · exact .inr hr

omit [BEq F] in
/-- A device without errors returns from an action that it carries out. -/
theorem exec_aciona_sadio {dll : Dll δ} {f : δ → ℤ × δ} {m : Maquina F δ}
    (hret : ∀ d, (dll.retornoImpressoraMFD d).1 = (bematechOk, ⟨6, 0, 0, 0⟩))
    (hcode : (f m.dev).1 = bematechOk) :
    ∃ x d, exec (aciona dll f) m = (.ok (), m.com x d) := by
  obtain ⟨x, hx⟩ := exec_check_sadio (m := { m with dev := (f m.dev).2 }) (hret (f m.dev).2)
  refine ⟨x, (dll.retornoImpressoraMFD (f m.dev).2).2, ?_⟩
  simp only [aciona, exec_bind, exec_get, exec_set, hcode, hx]
  rfl

/-- A rate that is found is refused. -/
theorem exec_setAliquota_some (hs : a.getSerialized n = .ok s) {p : ℕ}
    (hidx : exec (getIdxAliquota n bib .base ub a) m = (.ok (some p), t)) :
    exec (setAliquota n bib ub a) m = (.error (ecfExp aliqDefined), t) := by
  rw [setAliquota, hs]
  simp only [exec_bind, exec_ofExcept, hidx, exec_throw]

/-- A rate that is not found is programmed, and the table kept is dropped. -/
theorem exec_setAliquota_none (hs : a.getSerialized n = .ok s) (hraw : a.getRawNumbers n = .ok raw)
    (hidx : exec (getIdxAliquota n bib .base ub a) m = (.ok none, t))
    (hreal : t.drv.fake = false) : exec (setAliquota n bib ub a) m =
      exec (do
        aciona bib.toDll (bib.acao (.programaAliquota raw (flagIss a.tipo)))
        altera fun drv => { drv with aliqs := ∅ }) t := by
  rw [setAliquota, hs]
  simp only [exec_bind, exec_ofExcept, hidx, programaAliquota, exec_get, hreal,
    Bool.false_eq_true, if_false, hraw]
  rfl

end Chamadas

/-! ## The second call -/

section Repeticao

variable {F δ : Type} [BEq F] {n : Numeric F} {taxa : ℕ → F} {bib : Biblioteca δ}
  {quadro : δ → QuadroAliqs} {m t : Maquina F (δ × List Chamada)} {a : Aliquota F} {s : Str}
  {ub : Estrago F (δ × List Chamada)}

/-- The rate is refused as defined already, and no call is made that acts on the device. -/
def Recusa (n : Numeric F) (bib : Biblioteca δ) (ub : Estrago F (δ × List Chamada))
    (a : Aliquota F) (m : Maquina F (δ × List Chamada)) : Prop :=
  (exec (setAliquota n bib.espia ub a) m).1 = .error (ecfExp aliqDefined) ∧
    (exec (setAliquota n bib.espia ub a) m).2.atos = m.atos

omit [BEq F] in
/-- An action is on the list, whatever comes of it. -/
theorem atos_aciona (a : Acao) (f : Driver F → Driver F) (m : Maquina F (δ × List Chamada)) :
    (exec (do
      aciona bib.espia.toDll (bib.espia.acao a)
      altera f) m).2.atos = m.atos ++ [.acao a] := by
  have haciona : (exec (aciona bib.espia.toDll (bib.espia.acao a)) m).2.atos =
      m.atos ++ [.acao a] := by
    simp only [aciona, exec_bind, exec_get, exec_set]
    refine (atos_check bib.toDll _ _).trans ?_
    simp [Maquina.atos, Maquina.chamadas, Biblioteca.espia, Chamada.soLe]
  rw [exec_bind]
  revert haciona
  rcases exec (aciona bib.espia.toDll (bib.espia.acao a)) m with ⟨⟨e⟩ | ⟨u⟩, t⟩ <;> exact id

/-- A rate that is not found is not refused as defined. -/
theorem not_recusa_of_none (hs : a.getSerialized n = .ok s)
    (hidx : exec (getIdxAliquota n bib.espia .base ub a) m = (.ok none, t))
    (hreal : t.drv.fake = false) (hatos : t.atos = m.atos) : ¬ Recusa n bib ub a m := by
  obtain ⟨raw, hraw⟩ := Aliquota.getRawNumbers_of_getSerialized hs
  rintro ⟨-, hno⟩
  rw [exec_setAliquota_none hs hraw hidx hreal, atos_aciona, hatos] at hno
  exact absurd hno (by simp)

/-- **From an empty table, a rate is refused as defined exactly when the loader takes an entry for
it.** -/
theorem recusa_iff (hn : n.Centesimos taxa) (h : bib.GuardaTaxas quadro)
    (hreal : m.drv.fake = false) (hnada : m.drv.aliqs = ∅) (hs : a.getSerialized n = .ok s) :
    (∀ ub, Recusa n bib ub a m) ↔ (quadro m.dev.1).Reconhece taxa a := by
  have hleitura := estavelLeitura_atos (F := F) bib m.atos
  have hatos : ∀ ub, (exec (getIdxAliquota n bib.espia .base ub a) m).2.atos = m.atos :=
    fun ub => (hleitura.getIdxAliquota (fun _ _ hm => hm) .base ub _).keeps rfl
  by_cases h16 : 16 ∈ (quadro m.dev.1).iss
  · -- the array is left: what comes of it may be that nothing is found
    refine iff_of_false (fun hall => ?_) fun hrec => hrec.1 h16
    obtain ⟨x, d, hrun⟩ := exec_getIdxAliquota_fora (quadro m.dev.1).bem h16
      (h.espia.lista m.dev) h.espia.aceita hnada hs
    have hnone := hrun fun _ => (.ok none, ∅)
    refine not_recusa_of_none hs hnone hreal ?_ (hall _)
    rw [← hatos fun _ => (.ok none, ∅), hnone]
  · obtain ⟨r, x, c, hr, hrun⟩ := exec_getIdxAliquota_guarda (m := m) hn h.espia hnada h16 hs
    rw [← hr]
    cases r with
    | none =>
      refine iff_of_false (fun hall => ?_) (by simp)
      have hnone := hrun fun _ => (.ok none, ∅)
      refine not_recusa_of_none hs hnone hreal ?_ (hall _)
      rw [← hatos fun _ => (.ok none, ∅), hnone]
    | some p =>
      refine iff_of_true (fun ub => ?_) rfl
      have hsome := exec_setAliquota_some hs (hrun ub)
      refine ⟨by rw [hsome], ?_⟩
      rw [hsome, ← hatos ub, hrun]

/-- A first call that returns has programmed the rate, and leaves no table behind. -/
theorem exec_setAliquota_ok (h : bib.GuardaTaxas quadro) (hreal : m.drv.fake = false)
    (hok : (exec (setAliquota n bib.espia ub a) m).1 = .ok ()) :
    (∃ s, a.getSerialized n = .ok s) ∧
      ∃ t, exec (setAliquota n bib.espia ub a) m = (.ok (), t) ∧
        t.drv.fake = false ∧ t.drv.aliqs = ∅ ∧
        ∃ k < 10000, a.getRawNumbers n = .ok (Str.zeroPad 4 k) ∧ ∃ p, Programada (quadro m.dev.1) p
          k (a.tipo = Aliquota.tributadoIss) (quadro t.dev.1) := by
  have hq := ((h.espia.estavelLeitura (F := F) (quadro m.dev.1)).getIdxAliquota (n := n)
    (fun _ _ hm => hm) .base ub a).keeps (s := m) rfl
  have hf := ((Estavel.de_fake (F := F) bib.espia false).getIdxAliquota (n := n)
    (fun _ _ hm => hm) .base ub a).keeps (s := m) hreal
  cases hs : a.getSerialized n with
  | error e =>
    rw [setAliquota, hs] at hok
    cases hok
  | ok s =>
    obtain ⟨raw, hraw⟩ := Aliquota.getRawNumbers_of_getSerialized hs
    refine ⟨⟨s, rfl⟩, ?_⟩
    rcases hidx : exec (getIdxAliquota n bib.espia .base ub a) m with ⟨⟨e⟩ | ⟨_ | p⟩, t⟩
    · rw [setAliquota, hs] at hok
      simp only [exec_bind, exec_ofExcept, hidx] at hok
      cases hok
    · rw [hidx] at hq hf
      rw [exec_setAliquota_none hs hraw hidx hf] at hok ⊢
      obtain ⟨r, x, hx, ⟨rfl, hcode⟩ | ⟨msg, rfl⟩⟩ := exec_aciona bib.espia.toDll
        (bib.espia.acao (.programaAliquota raw (flagIss a.tipo))) t
      · obtain ⟨k, hk, rfl, p, hp⟩ := h.espia.programa t.dev raw (flagIss a.tipo) hcode
        rw [exec_bind_ok hx, exec_altera]
        refine ⟨_, rfl, hf, rfl, k, hk, hraw, p, ?_⟩
        rw [flagIss_eq_one, hq] at hp
        change Programada _ _ _ _ (quadro (bib.espia.toDll.aposCheck _ _).1)
        rwa [h.espia.quadro_aposCheck]
      · rw [exec_bind_error hx] at hok
        cases hok
    · rw [exec_setAliquota_some hs hidx] at hok
      cases hok

/-- **A rate programmed twice**: the second call refuses it, and makes no call that acts on the
device, exactly when the loader takes an entry of the table for it. -/
theorem repetida_iff (hn : n.Centesimos taxa) (h : bib.GuardaTaxas quadro)
    (hreal : m.drv.fake = false) (hok : (exec (setAliquota n bib.espia ub a) m).1 = .ok ()) :
    ∃ t, exec (setAliquota n bib.espia ub a) m = (.ok (), t) ∧
      (∃ k < 10000, a.getRawNumbers n = .ok (Str.zeroPad 4 k) ∧ ∃ p, Programada (quadro m.dev.1) p
        k (a.tipo = Aliquota.tributadoIss) (quadro t.dev.1)) ∧
      ((∀ ub', Recusa n bib ub' a t) ↔ (quadro t.dev.1).Reconhece taxa a) := by
  obtain ⟨⟨s, hs⟩, t, hrun, hf, hnada, hprog⟩ := exec_setAliquota_ok h hreal hok
  exact ⟨t, hrun, hprog, recusa_iff hn h hf hnada hs⟩

/-- A rate that the table does not have is programmed by a device that accepts it. -/
theorem exec_setAliquota_nova (hn : n.Centesimos taxa) (h : bib.GuardaTaxas quadro)
    (hreal : m.drv.fake = false) (hnada : m.drv.aliqs = ∅) (h16 : 16 ∉ (quadro m.dev.1).iss)
    (hno : ¬ (quadro m.dev.1).Reconhece taxa a) (hs : a.getSerialized n = .ok s) {raw : Str}
    (hraw : a.getRawNumbers n = .ok raw) (haceita : ∀ d, quadro d = quadro m.dev.1 →
      (bib.acao (.programaAliquota raw (flagIss a.tipo)) d).1 = bematechOk) :
    (exec (setAliquota n bib.espia ub a) m).1 = .ok () := by
  obtain ⟨r, x, c, hr, hrun⟩ := exec_getIdxAliquota_guarda (m := m) hn h.espia hnada h16 hs
  cases r with
  | some p => exact absurd (hr.1 rfl) hno
  | none =>
    have hcode := haceita (bib.espia.aposTabelas .base m.dev).1 (h.espia.quadro_aposTabelas _ _)
    obtain ⟨y, d, hy⟩ := exec_aciona_sadio
      (f := bib.espia.acao (.programaAliquota raw (flagIss a.tipo)))
      (m := m.comAliqs x (bib.espia.aposTabelas .base m.dev) c) h.espia.retorno hcode
    rw [exec_setAliquota_none hs hraw (hrun ub) hreal, exec_bind_ok hy]
    rfl

end Repeticao

/-! ## A device of sixteen positions -/

namespace QuadroAliqs

/-- The first position without a rate. -/
def vaga (q : QuadroAliqs) : Option ℕ :=
  (List.range' 1 16).find? fun p => decide (p ∉ q.iss ∧ q.taxas[p - 1]? = some 0)

theorem livre_of_vaga {q : QuadroAliqs} {p : ℕ} (h : q.vaga = some p) :
    1 ≤ p ∧ p ≤ 16 ∧ p ∉ q.iss := by
  unfold vaga at h
  have hmem := List.mem_range'_1.1 (List.mem_of_find?_eq_some h)
  have hlivre := List.find?_some h
  rw [decide_eq_true_eq] at hlivre
  exact ⟨hmem.1, by omega, hlivre.1⟩

/-- Four digits are less than ten thousand. -/
theorem lt_of_quatro {raw : Str} (h : raw.all Char.isDigit = true ∧ raw.length = 4) :
    Nat.ofDigitChars 10 raw 0 < 10000 :=
  (Str.ofDigitChars_lt (List.all_eq_true.1 h.1)).trans_eq (by rw [h.2]; rfl)

/-- A rate is given a position. -/
def comTaxa (q : QuadroAliqs) (p k : ℕ) (flag : ℤ) (hp : 1 ≤ p ∧ p ≤ 16 ∧ p ∉ q.iss)
    (hk : k < 10000) : QuadroAliqs where
  iss := if flag = 1 then p :: q.iss else q.iss
  taxas := q.taxas.set (p - 1) k
  bem := by
    obtain ⟨h₁, h₁₆, hno⟩ := hp
    refine ⟨?_, fun x hx => ?_, (List.length_set ..).trans q.bem.total, fun x hx => ?_⟩
    · split
      · exact List.nodup_cons.2 ⟨hno, q.bem.nodup⟩
      · exact q.bem.nodup
    · split at hx
      · rcases List.mem_cons.1 hx with rfl | hx
        · exact ⟨h₁, h₁₆⟩
        · exact q.bem.posicoes x hx
      · exact q.bem.posicoes x hx
    · rcases List.mem_or_eq_of_mem_set hx with hx | rfl
      · exact q.bem.taxas x hx
      · exact hk

theorem programada_comTaxa (q : QuadroAliqs) {p k : ℕ} {flag : ℤ}
    (hp : 1 ≤ p ∧ p ≤ 16 ∧ p ∉ q.iss) (hk : k < 10000) :
    Programada q p k (flag = 1) (q.comTaxa p k flag hp hk) where
  livre := hp
  taxas := rfl
  iss x := by
    by_cases hflag : flag = 1
    · simp [comTaxa, hflag, or_comm]
    · simp [comTaxa, hflag]

/-- `Bematech_FI_ProgramaAliquota`: four digits are given the first position without a rate. -/
def programa (raw : Str) (flag : ℤ) (q : QuadroAliqs) : ℤ × QuadroAliqs :=
  if hraw : raw.all Char.isDigit = true ∧ raw.length = 4 then
    match hp : q.vaga with
    | some p => (bematechOk, q.comTaxa p (Nat.ofDigitChars 10 raw 0) flag (livre_of_vaga hp)
        (lt_of_quatro hraw))
    | none => (-2, q)
  else (-2, q)

/-- A table without rates. -/
def novo : QuadroAliqs where
  iss := []
  taxas := List.replicate 16 0
  bem := ⟨List.nodup_nil, by simp, List.length_replicate, fun k hk => by
    rw [List.eq_of_mem_replicate hk]
    decide⟩

end QuadroAliqs

/-- A device that keeps the table and carries out every other call. -/
def dezesseisPosicoes : Biblioteca QuadroAliqs where
  comando _ q := (bematechOk, q)
  retornoImpressoraMFD q := ((bematechOk, ⟨6, 0, 0, 0⟩), q)
  verificaFormasPagamentoMFD q := ((bematechOk, []), q)
  verificaTotalizadoresNaoFiscaisMFD q := ((bematechOk, []), q)
  dataHoraReducao q := ((bematechOk, [], []), q)
  dadosUltimaReducaoMFD q := ((bematechOk, []), q)
  acao
    | .programaAliquota raw flag, q => q.programa raw flag
    | _, q => (bematechOk, q)
  pergunta
    | .verificaIndiceAliquotasIss, q => ((bematechOk, listaIss q.iss), q)
    | .retornoAliquotas, q => ((bematechOk, listaTaxas q.taxas), q)
    | _, q => ((bematechOk, []), q)
  extrato _ q := (bematechOk, q)
  verificaEstadoImpressoraMFD q := ((bematechOk, ⟨6, 0, 0, 0⟩), q)
  dataHoraImpressora q := ((bematechOk, [], []), q)
  marcaModeloTipoImpressoraMFD q := ((bematechOk, [], [], []), q)
  flagsFiscais q := ((bematechOk, 0), q)
  statusEstendidoMFD q := ((bematechOk, 0), q)
  found _ _ := true
  randomName base q := (base, q)
  copyFile _ _ q := q

theorem guardaTaxas_dezesseisPosicoes : dezesseisPosicoes.GuardaTaxas id where
  retorno _ := rfl
  quadro_retorno _ := rfl
  leitura q q' hle := by
    cases hle with
    | pergunta p => cases p <;> rfl
    | _ => rfl
  iss _ := rfl
  taxas _ := rfl
  programa q raw flag hok := by
    change (q.programa raw flag).1 = bematechOk at hok
    change ∃ k < 10000, raw = Str.zeroPad 4 k ∧
      ∃ p, Programada q p k (flag = 1) (q.programa raw flag).2
    have hne : (-2 : ℤ) ≠ bematechOk := by decide
    unfold QuadroAliqs.programa at hok ⊢
    split at hok
    · rename_i hraw
      simp only [dif_pos hraw]
      split at hok
      · rename_i p hp
        refine ⟨_, QuadroAliqs.lt_of_quatro hraw, ?_, p, ?_⟩
        · exact (Str.zeroPad_ofDigitChars (List.all_eq_true.1 hraw.1) (by decide) hraw.2.ge
            (.inl hraw.2)).symm
        · exact q.programada_comTaxa (QuadroAliqs.livre_of_vaga hp) (QuadroAliqs.lt_of_quatro hraw)
      · exact absurd hok hne
    · exact absurd hok hne

/-- The driver just built over a device without rates. -/
def semTaxas (F : Type) : Maquina F (QuadroAliqs × List Chamada) :=
  .ligada false true [] (.novo, [])

theorem not_reconhece_novo {tipo : Char} : ¬ QuadroAliqs.novo.Reconhece taxaFloat
    ⟨tipo, 0, taxaFloat 1700⟩ := by
  rintro ⟨-, i, k, hi, htaxa, -⟩
  obtain rfl : k = 0 := List.eq_of_mem_replicate (List.mem_of_getElem? hi)
  rw [taxasDistintas_float 0 (by decide) 1700 (by decide)] at htaxa
  cases htaxa

/-- The rate programmed is the one given. -/
theorem eq_of_getRawNumbers {tipo : Char} {k : ℕ} (h : Aliquota.getRawNumbers .float
    ⟨tipo, 0, taxaFloat 1700⟩ = .ok (Str.zeroPad 4 k)) : k = 1700 := by
  rw [Aliquota.getRawNumbers_taxa centesimos_float (by decide)] at h
  have hnum := congrArg Str.numeral (Except.ok.inj h)
  rw [Str.numeral_zeroPad, Str.numeral_zeroPad] at hnum
  omega

/-- 17.00 is programmed as the first rate. -/
theorem exec_semTaxas (tipo : Char) (ub : Estrago ℚ (QuadroAliqs × List Chamada)) :
    (exec (setAliquota .float dezesseisPosicoes.espia ub ⟨tipo, 0, taxaFloat 1700⟩)
      (semTaxas ℚ)).1 = .ok () := by
  have hsem : 16 ∉ (id (semTaxas ℚ).dev.1).iss := List.not_mem_nil
  refine exec_setAliquota_nova centesimos_float guardaTaxas_dezesseisPosicoes rfl rfl hsem
    not_reconhece_novo (Aliquota.getSerialized_taxa centesimos_float (by decide) tipo 0)
    (Aliquota.getRawNumbers_taxa centesimos_float (by decide) tipo 0) ?_
  rintro q rfl
  rfl

/-- 17.00 of ICMS is refused the second time. -/
theorem repetida_icms : ∃ t, exec (setAliquota .float dezesseisPosicoes.espia
      (fun _ => (.ok none, ∅)) ⟨Aliquota.tributadoIcms, 0, taxaFloat 1700⟩) (semTaxas ℚ) =
      (.ok (), t) ∧
    ∀ ub, Recusa .float dezesseisPosicoes ub ⟨Aliquota.tributadoIcms, 0, taxaFloat 1700⟩ t := by
  obtain ⟨t, hrun, ⟨k, hk, hraw, p, hp⟩, hiff⟩ := repetida_iff centesimos_float
    guardaTaxas_dezesseisPosicoes rfl (exec_semTaxas Aliquota.tributadoIcms fun _ => (.ok none, ∅))
  have hsem : ∀ x, x ∉ (id t.dev.1).iss := by
    intro x hx
    rcases (hp.iss x).1 hx with hx | ⟨hx, -⟩
    · cases hx
    · exact absurd hx (by decide)
  refine ⟨t, hrun, hiff.2 ⟨hsem 16, p - 1, k, ?_, ?_, .inr ⟨rfl, hsem _⟩⟩⟩
  · have hlt : p - 1 < (id (semTaxas ℚ).dev.1).taxas.length := by
      change p - 1 < 16
      have := hp.livre
      omega
    rw [hp.taxas, List.getElem?_set_self hlt]
  · rw [eq_of_getRawNumbers hraw]
    exact beq_self_eq_true _

/-- 17.00 of ISS is programmed again: its position is the one in front of the entry that the loader
takes for ISS. -/
theorem repetida_iss : ∃ t, exec (setAliquota .float dezesseisPosicoes.espia
      (fun _ => (.ok none, ∅)) ⟨Aliquota.tributadoIss, 0, taxaFloat 1700⟩) (semTaxas ℚ) =
      (.ok (), t) ∧
    ¬ ∀ ub, Recusa .float dezesseisPosicoes ub ⟨Aliquota.tributadoIss, 0, taxaFloat 1700⟩ t := by
  obtain ⟨⟨s, hs⟩, t, hrun, hf, hnada, k, hk, hraw, p, hp⟩ := exec_setAliquota_ok
    guardaTaxas_dezesseisPosicoes rfl (exec_semTaxas Aliquota.tributadoIss fun _ => (.ok none, ∅))
  refine ⟨t, hrun, (recusa_iff centesimos_float guardaTaxas_dezesseisPosicoes hf hnada hs).not.2 ?_⟩
  rintro ⟨-, i, j, hi, htaxa, hdo⟩
  have hip : i = p := by
    rcases hdo with ⟨-, hmem⟩ | ⟨heq, -⟩
    · rcases (hp.iss i).1 hmem with hx | ⟨-, hx⟩
      · cases hx
      · exact hx
    · exact absurd heq (by decide)
  have hpos := hp.livre.1
  rw [hp.taxas, hip, List.getElem?_set_ne (by omega)] at hi
  obtain rfl : j = 0 := List.eq_of_mem_replicate (List.mem_of_getElem? hi)
  rw [taxasDistintas_float 0 (by decide) 1700 (by decide)] at htaxa
  cases htaxa

end Spooler
