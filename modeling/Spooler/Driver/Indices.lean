import Spooler.Driver.Carga
import Spooler.Driver.Taxas
import Spooler.Driver.Totalizadores
import Spooler.Foundations.Pieces

/-!
# The tables of rates a device lists

The device lists the positions of ISS with two digits and the rates with four, between commas
(`listaIss`, `listaTaxas`). **`lookup_tabelaDe` is the table that `get_idx_aliquota` makes of the
two texts**, entry by entry; `exec_carregaAliqs` is a load on a device that may refuse, and
`posicaoAliq_eq_some` the search.
-/

namespace Spooler

open Foundations Driver

/-! ## The search -/

section Busca

variable {F : Type} {c : Aliqs F}

theorem mem_emOrdem {e : Σ _ : ℕ, Aliquota F} : e ∈ emOrdem c ↔ c.lookup e.1 = some e.2 := by
  rw [emOrdem, List.mem_insertionSort]
  exact AList.mem_lookup_iff.symm

theorem pairwise_emOrdem (c : Aliqs F) : (emOrdem c).Pairwise fun a b => a.1 ≤ b.1 := by
  have : IsTrans (Σ _ : ℕ, Aliquota F) fun a b => a.1 ≤ b.1 := ⟨fun _ _ _ h h' => h.trans h'⟩
  have : Std.Total fun a b : (Σ _ : ℕ, Aliquota F) => a.1 ≤ b.1 := ⟨fun a b => le_total a.1 b.1⟩
  exact List.pairwise_insertionSort _ _

variable [BEq F] {aliq : Aliquota F}

/-- Nothing is found when no entry matches. -/
theorem posicaoAliq_eq_none (h : posicaoAliq c aliq = none) {i : ℕ} {a : Aliquota F}
    (ha : c.lookup i = some a) : casa aliq ⟨i, a⟩ = false := by
  rw [posicaoAliq, Option.map_eq_none_iff, List.getLast?_eq_none_iff, List.filter_eq_nil_iff] at h
  simpa using h ⟨i, a⟩ (mem_emOrdem.2 ha)

/-- The entry found matches, and none behind it does. -/
theorem posicaoAliq_eq_some {q : ℕ} (h : posicaoAliq c aliq = some q) :
    ∃ i a, q = i + 1 ∧ c.lookup i = some a ∧ casa aliq ⟨i, a⟩ = true ∧
      ∀ j b, c.lookup j = some b → casa aliq ⟨j, b⟩ = true → j ≤ i := by
  rw [posicaoAliq, Option.map_eq_some_iff] at h
  obtain ⟨⟨i, a⟩, hlast, rfl⟩ := h
  obtain ⟨l, hl⟩ := List.getLast?_eq_some_iff.1 hlast
  have hmem : (⟨i, a⟩ : Σ _ : ℕ, Aliquota F) ∈ (emOrdem c).filter (casa aliq) :=
    List.mem_of_getLast? hlast
  obtain ⟨hi, ha⟩ := List.mem_filter.1 hmem
  refine ⟨i, a, rfl, mem_emOrdem.1 hi, ha, fun j b hj hb => ?_⟩
  have hj : (⟨j, b⟩ : Σ _ : ℕ, Aliquota F) ∈ (emOrdem c).filter (casa aliq) :=
    List.mem_filter.2 ⟨mem_emOrdem.2 hj, hb⟩
  have hord := (pairwise_emOrdem c).filter (casa aliq)
  rw [hl] at hj hord
  rcases List.mem_append.1 hj with hj | hj
  · exact (List.pairwise_append.1 hord).2.2 _ hj _ List.mem_cons_self
  · rw [List.mem_singleton] at hj
    exact (congrArg Sigma.fst hj).le

end Busca

/-! ## The texts -/

/-- The positions of ISS. -/
def listaIss (ps : List ℕ) : Str := [','].intercalate (ps.map (Str.zeroPad 2))

/-- The rates, in hundredths. -/
def listaTaxas (ks : List ℕ) : Str := [','].intercalate (ks.map (Str.zeroPad 4))

section Textos

variable {ps ks : List ℕ}

theorem notMem_of_mem_zeroPad {w : ℕ} {l : List ℕ} : ∀ s ∈ l.map (Str.zeroPad w), ',' ∉ s := by
  intro s hs
  obtain ⟨k, -, rfl⟩ := List.mem_map.1 hs
  exact notMem_zeroPad rfl w k

theorem pedacos_listaTaxas (h : ks ≠ []) : pedacos (listaTaxas ks) = ks.map (Str.zeroPad 4) :=
  List.splitOn_intercalate ',' notMem_of_mem_zeroPad (by simpa using h)

/-- The empty list of positions is one empty piece. -/
theorem pedacos_listaIss (ps : List ℕ) :
    pedacos (listaIss ps) = if ps = [] then [[]] else ps.map (Str.zeroPad 2) := by
  split
  · subst ps
    rfl
  · rename_i h
    exact List.splitOn_intercalate ',' notMem_of_mem_zeroPad (by simpa using h)

/-- Numbers of `w` digits, with a comma between them. -/
theorem length_zeroPads_le {w : ℕ} {l : List ℕ} (hw : 0 < w) (h : ∀ k ∈ l, k < 10 ^ w) :
    ([','].intercalate (l.map (Str.zeroPad w))).length ≤ (w + 1) * l.length := by
  have hlen : ∀ s ∈ l.map (Str.zeroPad w), s.length ≤ w := by
    intro s hs
    obtain ⟨k, hk, rfl⟩ := List.mem_map.1 hs
    exact (Str.length_zeroPad hw (h k hk)).le
  have hle := length_intercalate_le ',' hlen
  rwa [List.length_map] at hle

theorem length_listaIss_le (h : ∀ p ∈ ps, p < 100) : (listaIss ps).length ≤ 3 * ps.length :=
  length_zeroPads_le (by decide) h

theorem length_listaTaxas_le (h : ∀ k ∈ ks, k < 10000) :
    (listaTaxas ks).length ≤ 5 * ks.length :=
  length_zeroPads_le (by decide) h

theorem length_ultimoPedaco_le (h : ∀ p ∈ ps, p < 100) :
    (ultimoPedaco (listaIss ps)).length ≤ 2 := by
  have hall : ∀ s ∈ pedacos (listaIss ps), s.length ≤ 2 := by
    intro s hs
    rw [pedacos_listaIss] at hs
    split at hs
    · rw [List.mem_singleton.1 hs]
      exact Nat.zero_le 2
    · obtain ⟨p, hp, rfl⟩ := List.mem_map.1 hs
      exact (Str.length_zeroPad (by decide) (h p hp)).le
  rw [ultimoPedaco, List.getLastD_eq_getLast?]
  cases hlast : (pedacos (listaIss ps)).getLast? with
  | none => exact Nat.zero_le 2
  | some s => exact hall s (List.mem_of_getLast? hlast)

/-- Four digits hide what the piece before has left. -/
theorem conteudos_listaTaxas {buft : Str} (hbuft : buft.length ≤ 4) (h : ∀ k ∈ ks, k < 10000) :
    conteudos buft (ks.map (Str.zeroPad 4)) = ks.map (Str.zeroPad 4) := by
  induction ks generalizing buft with
  | nil => rfl
  | cons k ks ih =>
    rw [List.forall_mem_cons] at h
    have hlen := Str.length_zeroPad (n := k) (k := 4) (by decide) h.1
    have hover : sobrepoe (Str.zeroPad 4 k) buft = Str.zeroPad 4 k := by
      rw [sobrepoe, hlen, List.drop_of_length_le hbuft, List.append_nil]
    rw [List.map_cons, conteudos, hover, ih hlen.le h.2]

end Textos

/-! ## The table that the texts make -/

/-- The entry `i`, counted from zero, is flagged as ISS. -/
def Marcada (t : TabelaAliqs) (ps : List ℕ) (i : ℕ) : Prop := ∃ p ∈ ps, (p : ℤ) + t.desloc = i

instance (t : TabelaAliqs) (ps : List ℕ) (i : ℕ) : Decidable (Marcada t ps i) :=
  inferInstanceAs (Decidable (∃ p ∈ ps, _))

/-- The positions and the rates fit into the arrays of the class. -/
structure ListasCabem (t : TabelaAliqs) (ps ks : List ℕ) : Prop where
  total : 4 < t.total
  tamIss : 3 * ps.length < t.tamIss
  digitos : ∀ p ∈ ps, p < 100
  dentro : ∀ p ∈ ps, 0 ≤ (p : ℤ) + t.desloc ∧ (p : ℤ) + t.desloc < t.total
  taxas_ne_nil : ks ≠ []
  tamRet : 5 * ks.length < t.tamRet
  entradas : ks.length ≤ t.total
  taxas : ∀ k ∈ ks, k < 10000

section Tabela

variable {t : TabelaAliqs} {ps ks : List ℕ}

/-- One position of ISS, written with two digits. -/
theorem marcaIss_zeroPad (htotal : 2 < t.total) {p : ℕ} (hp : p < 100) (l : List Str) (flag : Str) :
    marcaIss t (Str.zeroPad 2 p :: l) flag =
      if 0 ≤ (p : ℤ) + t.desloc ∧ (p : ℤ) + t.desloc < t.total then
        marcaIss t l (flag.set ((p : ℤ) + t.desloc).toNat Aliquota.tributadoIss)
      else none := by
  have hdois := Str.length_zeroPad (n := p) (k := 2) (by decide) hp
  have hne : Str.zeroPad 2 p ≠ [] := List.ne_nil_of_length_pos (by omega)
  rw [marcaIss, if_pos (by omega)]
  simp only [Str.trim_zeroPad, if_neg hne, Str.atoi_zeroPad 2 (show p < 2147483648 by omega)]

/-- The first loop over positions that stay within `flag`. -/
theorem marcaIss_posicoes (htotal : 2 < t.total) {flag : Str} (hlen : flag.length = t.total)
    (hps : ∀ p ∈ ps, p < 100 ∧ 0 ≤ (p : ℤ) + t.desloc ∧ (p : ℤ) + t.desloc < t.total) :
    ∃ f, marcaIss t (ps.map (Str.zeroPad 2)) flag = some f ∧ f.length = t.total ∧
      ∀ i < t.total, f[i]? = if Marcada t ps i then some Aliquota.tributadoIss else flag[i]? := by
  induction ps generalizing flag with
  | nil => exact ⟨flag, rfl, hlen, fun i _ => by simp [Marcada]⟩
  | cons p ps ih =>
    rw [List.forall_mem_cons] at hps
    obtain ⟨⟨hp, hpos⟩, hps⟩ := hps
    have hset : (flag.set ((p : ℤ) + t.desloc).toNat Aliquota.tributadoIss).length = t.total :=
      (List.length_set ..).trans hlen
    obtain ⟨f, hf, hflen, hget⟩ := ih hset hps
    refine ⟨f, ?_, hflen, fun i hi => ?_⟩
    · rw [List.map_cons, marcaIss_zeroPad htotal hp, if_pos hpos, hf]
    · have hcons : Marcada t (p :: ps) i ↔ (p : ℤ) + t.desloc = i ∨ Marcada t ps i := by
        simp [Marcada]
      rw [hget i hi, List.getElem?_set]
      by_cases hm : Marcada t ps i
      · rw [if_pos hm, if_pos (hcons.2 (.inr hm))]
      · by_cases heq : (p : ℤ) + t.desloc = i
        · rw [if_neg hm, if_pos (by omega), if_pos (by omega), if_pos (hcons.2 (.inl heq))]
        · rw [if_neg hm, if_neg (by omega), if_neg fun h => (hcons.1 h).elim heq hm]

/-- The flags that the positions stand for. -/
theorem flagsDe_listaIss (h : ListasCabem t ps ks) {i : ℕ} (hi : i < t.total) :
    (flagsDe t (listaIss ps))[i]? =
      some (if Marcada t ps i then Aliquota.tributadoIss else Aliquota.tributadoIcms) := by
  have htotal := h.total
  have hsem : (semIss t)[i]? = some Aliquota.tributadoIcms := by
    rw [semIss, List.getElem?_replicate, if_pos hi]
  rw [flagsDe, pedacos_listaIss]
  by_cases hps : ps = []
  · subst hps
    have hno : ¬ Marcada t [] i := by simp [Marcada]
    have hvazio : marcaIss t [[]] (semIss t) = some (semIss t) := by
      have hzero : ([] : Str).length < t.total := by
        rw [List.length_nil]
        omega
      rw [marcaIss, if_pos hzero]
      rfl
    rw [if_pos rfl, if_neg hno, hvazio]
    exact hsem
  · have hlen : (semIss t).length = t.total := List.length_replicate
    obtain ⟨f, hf, -, hget⟩ := marcaIss_posicoes (by omega) hlen
      fun p hp => ⟨h.digitos p hp, h.dentro p hp⟩
    rw [if_neg hps, hf, Option.getD_some, hget i hi, hsem]
    split <;> rfl

variable {F : Type} {n : Numeric F} {taxa : ℕ → F}

/-- The texts fit into the arrays of the class. -/
theorem cabem_listas (hn : n.Centesimos taxa) (h : ListasCabem t ps ks) :
    t.Cabem n (listaIss ps) (listaTaxas ks) where
  tamIss := (length_listaIss_le h.digitos).trans_lt h.tamIss
  posicoes := by
    have htotal := h.total
    intro s hs
    rw [pedacos_listaIss] at hs
    split at hs
    · rw [List.mem_singleton.1 hs]
      exact ⟨by simp; omega, fun hne => absurd rfl hne⟩
    · obtain ⟨p, hp, rfl⟩ := List.mem_map.1 hs
      refine ⟨?_, fun _ => ?_⟩
      · rw [Str.length_zeroPad (by decide) (h.digitos p hp)]
        omega
      · rw [Str.trim_zeroPad, Str.atoi_zeroPad 2 ((h.digitos p hp).trans (by decide))]
        exact h.dentro p hp
  tamRet := (length_listaTaxas_le h.taxas).trans_lt h.tamRet
  entradas := by
    rw [pedacos_listaTaxas h.taxas_ne_nil, List.length_map]
    exact h.entradas
  taxas := by
    intro s hs
    rw [pedacos_listaTaxas h.taxas_ne_nil] at hs
    obtain ⟨k, hmem, rfl⟩ := List.mem_map.1 hs
    rw [Str.length_zeroPad (by decide) (h.taxas k hmem)]
    exact h.total
  valores := by
    have hult := (length_ultimoPedaco_le h.digitos).trans (by decide : 2 ≤ 4)
    intro fmt hfmt
    rw [pedacos_listaTaxas h.taxas_ne_nil, conteudos_listaTaxas hult h.taxas] at hfmt
    obtain ⟨k, hmem, rfl⟩ := List.mem_map.1 hfmt
    have hk := h.taxas k hmem
    rw [Str.length_zeroPad (by decide) hk, comPonto, ponto_zeroPad_four hk, hn.atof k hk]
    exact ⟨by decide, hn.faixa k hk⟩

/-- The entries kept by the second loop. -/
theorem lookup_tabelaLida {flag : Str} {x : ℕ} {fmts : List Str} {c : Aliqs F}
    (hc : ∀ j, x ≤ j → c.lookup j = none) (i : ℕ) : (tabelaLida n flag x fmts c).lookup i =
      if i < x then c.lookup i else fmts[i - x]?.map fun fmt =>
        ⟨flag.getD i Aliquota.tributadoIcms, 0, n.atof (comPonto fmt)⟩ := by
  induction fmts generalizing x c with
  | nil =>
    rw [tabelaLida]
    split
    · rfl
    · rename_i hi
      exact hc i (not_lt.1 hi)
  | cons fmt fmts ih =>
    have hx : x ∉ c := by
      rw [← AList.lookup_eq_none]
      exact hc x le_rfl
    have hc' : ∀ j, x + 1 ≤ j → (c.insert x
        ⟨flag.getD x Aliquota.tributadoIcms, 0, n.atof (comPonto fmt)⟩).lookup j = none := by
      intro j hj
      rw [AList.lookup_insert_ne (by omega)]
      exact hc j (by omega)
    rw [tabelaLida, guarda, if_neg hx, ih hc']
    rcases Nat.lt_trichotomy i x with hi | rfl | hi
    · rw [if_pos (by omega), if_pos hi, AList.lookup_insert_ne (by omega)]
    · rw [if_pos (by omega), if_neg (lt_irrefl i), AList.lookup_insert, Nat.sub_self]
      rfl
    · rw [if_neg (by omega), if_neg (by omega), show i - x = i - (x + 1) + 1 by omega]
      rfl

/-- **The table that two texts make**, entry by entry. -/
theorem lookup_tabelaDe (hn : n.Centesimos taxa) (h : ListasCabem t ps ks) (i : ℕ) :
    (tabelaDe n t (listaIss ps) (listaTaxas ks)).lookup i = ks[i]?.map fun k =>
      ⟨if Marcada t ps i then Aliquota.tributadoIss else Aliquota.tributadoIcms, 0, taxa k⟩ := by
  have hnone : ∀ j, 0 ≤ j → (∅ : Aliqs F).lookup j = none := fun _ _ => rfl
  have hult := (length_ultimoPedaco_le h.digitos).trans (by decide : 2 ≤ 4)
  rw [tabelaDe, lookup_tabelaLida hnone, if_neg (Nat.not_lt_zero i), pedacos_listaTaxas
    h.taxas_ne_nil, conteudos_listaTaxas hult h.taxas, Nat.sub_zero, List.getElem?_map]
  cases hi : ks[i]? with
  | none => rfl
  | some k =>
    have hilen : i < t.total := (List.getElem?_eq_some_iff.1 hi).1.trans_le h.entradas
    have hkmem := h.taxas k (List.mem_of_getElem? hi)
    rw [Option.map_some, Option.map_some, Option.map_some, List.getD_eq_getElem?_getD,
      flagsDe_listaIss h hilen, Option.getD_some, comPonto, ponto_zeroPad_four hkmem,
      hn.atof k hkmem]

end Tabela

/-! ## A load -/

section Carga

variable {δ : Type}

/-- The device once a question has been asked and checked. -/
def Biblioteca.aposPergunta (bib : Biblioteca δ) (q : Pergunta) (d : δ) : δ :=
  bib.toDll.aposCheck (bib.pergunta q d).1.1 (bib.pergunta q d).2

/-- The device once both texts have been read. -/
def Biblioteca.aposTabelas (bib : Biblioteca δ) (t : TabelaAliqs) (d : δ) : δ :=
  bib.aposPergunta t.pergunta (bib.aposPergunta .verificaIndiceAliquotasIss d)

/-- The device lists these texts. -/
structure Biblioteca.Lista (bib : Biblioteca δ) (t : TabelaAliqs) (d : δ) (iss tab : Str) :
    Prop where
  iss : Str.cstr (bib.pergunta .verificaIndiceAliquotasIss d).1.2 = iss
  tab : Str.cstr (bib.pergunta t.pergunta
    (bib.aposPergunta .verificaIndiceAliquotasIss d)).1.2 = tab

/-- The device answers the two questions without an error. -/
structure Biblioteca.AceitaTabelas (bib : Biblioteca δ) (t : TabelaAliqs) : Prop where
  retorno : ∀ d, (bib.retornoImpressoraMFD d).1 = (bematechOk, ⟨6, 0, 0, 0⟩)
  iss : ∀ d, (bib.pergunta .verificaIndiceAliquotasIss d).1.1 = bematechOk
  tab : ∀ d, (bib.pergunta t.pergunta d).1.1 = bematechOk

/-- The machine with other signals, another device and another table of rates. -/
def Maquina.comAliqs {F : Type} (m : Maquina F δ) (x : Sinal) (d : δ) (c : Aliqs F) :
    Maquina F δ := { m with drv := { m.drv with sinal := x, aliqs := c }, dev := d }

variable {F : Type} {n : Numeric F} {bib : Biblioteca δ} {t : TabelaAliqs} {m : Maquina F δ}

/-- A text that fits into its buffer is passed on, or refused by a device with an error. -/
theorem exec_leVetor {q : Pergunta} {tam : ℕ} {s : Str}
    (hs : Str.cstr (bib.pergunta q m.dev).1.2 = s) (hlen : s.length < tam) :
    ∃ x, (∀ ub f, exec (leVetor bib ub q tam f) m =
        exec (f s) (m.com x (bib.aposPergunta q m.dev))) ∨
      ¬ ((bib.pergunta q m.dev).1.1 = bematechOk ∧
        ∀ d, (bib.retornoImpressoraMFD d).1 = (bematechOk, ⟨6, 0, 0, 0⟩)) ∧
      ∃ msg, ∀ ub f, exec (leVetor bib ub q tam f) m =
        (.error (ecfExp msg), m.com x (bib.aposPergunta q m.dev)) := by
  have hrun : ∀ ub f, exec (leVetor bib ub q tam f) m = exec (do
      check bib.toDll (bib.pergunta q m.dev).1.1
      f s) { m with dev := (bib.pergunta q m.dev).2 } := by
    intro ub f
    simp only [leVetor, exec_bind, exec_get, exec_set, hs, if_pos hlen]
  obtain ⟨r, x, hx, rfl | ⟨msg, rfl⟩⟩ := exec_check bib.toDll (bib.pergunta q m.dev).1.1
    { m with dev := (bib.pergunta q m.dev).2 }
  · exact ⟨x, .inl fun ub f => (hrun ub f).trans (exec_bind_ok hx)⟩
  · refine ⟨x, .inr ⟨?_, msg, fun ub f => (hrun ub f).trans (exec_bind_error hx)⟩⟩
    rintro ⟨hok, hsadio⟩
    obtain ⟨y, hy⟩ := exec_check_sadio (m := { m with dev := (bib.pergunta q m.dev).2 })
      (hsadio (bib.pergunta q m.dev).2)
    rw [hok, hy] at hx
    cases (Prod.mk.inj hx).1

/-- **A load** answers from the table that the texts make, or is refused; what an array would be
overwritten with does not matter. -/
theorem exec_carregaAliqs [BEq F] {iss tab : Str} (hfit : t.Cabem n iss tab)
    (hl : bib.Lista t m.dev iss tab) (hnada : m.drv.aliqs = ∅) (aliq : Aliquota F) :
    (∃ x, ∀ ub, exec (carregaAliqs n bib t ub aliq) m =
      (.ok (posicaoAliq (tabelaDe n t iss tab) aliq),
        m.comAliqs x (bib.aposTabelas t m.dev) (tabelaDe n t iss tab))) ∨
    ¬ bib.AceitaTabelas t ∧ ∃ msg x d, ∀ ub,
      exec (carregaAliqs n bib t ub aliq) m = (.error (ecfExp msg), m.com x d) := by
  obtain ⟨hflags, hlen, htrib⟩ := marcaIss_flagsDe hfit
  obtain ⟨x, hiss | ⟨hno, msg, hiss⟩⟩ := exec_leVetor hl.iss hfit.tamIss
  · obtain ⟨y, htab | ⟨hno, msg, htab⟩⟩ := exec_leVetor
      (m := m.com x (bib.aposPergunta .verificaIndiceAliquotasIss m.dev)) hl.tab hfit.tamRet
    · refine .inl ⟨y, fun ub => ?_⟩
      have hentradas : 0 + (pedacos tab).length ≤ (flagsDe t iss).length := by
        rw [hlen, Nat.zero_add]
        exact hfit.entradas
      rw [carregaAliqs, hiss]
      simp only [hflags]
      rw [htab, exec_gravaAliqs htrib _ hentradas hfit.taxas hfit.valores]
      simp only [com_drv, hnada]
      rfl
    · refine .inr ⟨fun ha => hno ⟨ha.tab _, ha.retorno⟩, msg, y, bib.aposTabelas t m.dev,
        fun ub => ?_⟩
      rw [carregaAliqs, hiss]
      simp only [hflags]
      exact htab ub _
  · refine .inr ⟨fun ha => hno ⟨ha.iss _, ha.retorno⟩, msg, x,
      bib.aposPergunta .verificaIndiceAliquotasIss m.dev, fun ub => ?_⟩
    rw [carregaAliqs, hiss]

end Carga

end Spooler
