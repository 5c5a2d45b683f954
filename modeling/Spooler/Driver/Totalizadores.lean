import Spooler.Driver.Biblioteca
import Spooler.Driver.Documentos

/-!
# Totalizers by name and by number

The functions of the `BEMATECH_CV0909` driver that name a totalizer or give it a name:
`abreNfiscalNvinc`, `getProxTotalizador` and `setTotalizador`. On a device that answers and keeps
the names it is given (`Biblioteca.GuardaNomes`) their runs are those of `exec_getTotalizadorCnf`,
`exec_getProxTotalizador` and `exec_setTotalizador`: **a name is looked up by its slot counted from
one, the next free slot is counted from zero.**
-/

namespace Spooler

open Foundations

/-! ## Positions in a list -/

section UltimoIdx

variable {α : Type} {p : α → Bool} {l : List α}

theorem mem_posicoes {i : ℕ} :
    i ∈ (l.zipIdx.filter fun x => p x.1).map Prod.snd ↔ ∃ x, l[i]? = some x ∧ p x = true := by
  simp only [List.mem_map, List.mem_filter, List.mem_zipIdx_iff_getElem?, Prod.exists]
  constructor
  · rintro ⟨x, j, ⟨hx, hp⟩, rfl⟩
    exact ⟨x, hx, hp⟩
  · rintro ⟨x, hx, hp⟩
    exact ⟨x, i, ⟨hx, hp⟩, rfl⟩

theorem Driver.ultimoIdx_eq_some {i : ℕ} (h : ultimoIdx p l = some i) :
    ∃ x, l[i]? = some x ∧ p x = true :=
  mem_posicoes.1 (List.mem_of_getLast? h)

theorem Driver.ultimoIdx_eq_none : ultimoIdx p l = none ↔ ∀ x ∈ l, p x = false := by
  rw [ultimoIdx, List.getLast?_eq_none_iff, List.eq_nil_iff_forall_not_mem]
  simp only [mem_posicoes, not_exists, not_and, Bool.not_eq_true]
  constructor
  · intro h x hx
    obtain ⟨i, hi⟩ := List.getElem?_of_mem hx
    exact h i x hi
  · intro h i x hi
    exact h x (List.mem_of_getElem? hi)

/-- The position of the only element that satisfies `p`. -/
theorem Driver.ultimoIdx_of_unico {i : ℕ} {x : α} (hx : l[i]? = some x) (hp : p x = true)
    (h : ∀ j y, l[j]? = some y → p y = true → j = i) : ultimoIdx p l = some i := by
  cases hu : ultimoIdx p l with
  | none => simp [ultimoIdx_eq_none.1 hu x (List.mem_of_getElem? hx)] at hp
  | some j =>
    obtain ⟨y, hy, hpy⟩ := ultimoIdx_eq_some hu
    rw [h j y hy hpy]

/-- No element behind the last position satisfies `p`. -/
theorem Driver.le_ultimoIdx {i j : ℕ} {x : α} (h : ultimoIdx p l = some j) (hx : l[i]? = some x)
    (hp : p x = true) : i ≤ j := by
  have hsorted : ((l.zipIdx.filter fun x => p x.1).map Prod.snd).Pairwise (· < ·) := by
    refine List.Pairwise.sublist (List.filter_sublist.map _) ?_
    rw [List.zipIdx_map_snd]
    exact List.pairwise_lt_range'
  obtain ⟨l', hl'⟩ := List.getLast?_eq_some_iff.1 h
  have hmem := mem_posicoes.2 ⟨x, hx, hp⟩
  rw [hl'] at hmem hsorted
  obtain hmem | hmem := List.mem_append.1 hmem
  · exact le_of_lt ((List.pairwise_append.1 hsorted).2.2 i hmem j (List.mem_singleton_self j))
  · exact le_of_eq (List.mem_singleton.1 hmem)

/-- Positions in a list of images. -/
theorem Driver.ultimoIdx_map {β : Type} (p : α → Bool) (f : β → α) (l : List β) :
    ultimoIdx p (l.map f) = ultimoIdx (fun x => p (f x)) l := by
  rw [ultimoIdx, ultimoIdx, List.zipIdx_map, List.filter_map, List.map_map]
  rfl

end UltimoIdx

/-! ## The functions -/

namespace Driver

variable {F δ : Type} (n : Numeric F) (bib : Biblioteca δ)

/-- `BEMATECH_TOTAL_TOTCNF_CV0909`. -/
def totalTotcnf : ℕ := 30

/-- `get_prox_totalizador`, over the `get_totalizador_cnf` of the class: positions count from zero,
`-1` is `IDX_NOT_FOUND`. -/
def getProxTotalizador (busca : Str → Prog F δ (Option ℕ)) : Prog F δ ℤ := do
  let _ ← busca []
  let m ← get
  pure ((m.drv.totCnf.findIdx? (· = txtAvailable)).elim (-1) Int.ofNat)

/-- `set_totalizador` of the CV0909: a name that is found is left as it is. -/
def setTotalizador (descr tipo : Str) : Prog F δ Unit := do
  match ← getTotalizadorCnf bib.toDll descr with
  | some _ => pure ()
  | none => do
    let idx := (← getProxTotalizador (getTotalizadorCnf bib.toDll)) + 1
    let _ ← formatInteiro n idx "%02.0f"
    manda bib (.nomeiaTotalizadorNaoSujeitoIcmsCV0909 idx (Str.trim (descr.take sizeTotcnf)) tipo)
    altera fun drv => { drv with totCnf := [] }

/-- `ECF_TOT_CNF_MISSING`. -/
def totCnfMissing : Str := "Totalizador nao fiscal nao encontrado.".toList

/-- `abre_nfiscal_nvinc`. -/
def abreNfiscalNvinc (nomeTot : Str) (valor : F) (moeda : Str) : Prog F δ Unit := do
  match ← getTotalizadorCnf bib.toDll nomeTot with
  | none => throw (ecfExp totCnfMissing)
  | some idx => do
    let tmpIdx ← formatInteiro n idx "%02.0f"
    let tmpValor ← formatValor n valor "%11.2f"
    manda bib (.recebimentoNaoFiscal tmpIdx tmpValor (Str.trim (moeda.take sizeFpgto)))

/-! ## What they leave alone -/

section SoSpooler

variable {I : Maquina F δ → Prop}

theorem soSpooler_getProxTotalizador {busca : Str → Prog F δ (Option ℕ)}
    (h : ∀ tot, SoSpooler I (busca tot)) : SoSpooler I (getProxTotalizador busca) :=
  contained_bind (h []) fun _ => contained_bind contained_get fun _ => contained_pure _

theorem soSpooler_setTotalizador (hI : Externa I) (descr tipo : Str) :
    SoSpooler I (setTotalizador n bib descr tipo) := by
  refine contained_bind (soSpooler_getTotalizadorCnf hI _ _) fun idx => ?_
  cases idx with
  | some idx => exact contained_pure _
  | none =>
    refine contained_bind (soSpooler_getProxTotalizador (soSpooler_getTotalizadorCnf hI _))
      fun idx => ?_
    exact contained_bind (soSpooler_formatInteiro _ _ _) fun _ =>
      contained_bind (soSpooler_manda hI.com _ _) fun _ =>
        soSpooler_altera fun m hm => hI.totCnf m _ hm

theorem soSeCabe_abreNfiscalNvinc (hI : Externa I) (nomeTot : Str) (valor : F) (moeda : Str) :
    SoSeCabe (transborda n valor "%11.2f" = false) I
      (abreNfiscalNvinc n bib nomeTot valor moeda) := by
  refine contained_bind (soSpooler_getTotalizadorCnf hI _ _).soSeCabe fun idx => ?_
  cases idx with
  | none => exact contained_throw (.inl rfl)
  | some idx =>
    exact contained_bind (soSpooler_formatInteiro _ _ _).soSeCabe fun _ =>
      contained_bind (soSeCabe_formatValor _ _ _) fun _ => (soSpooler_manda hI.com _ _).soSeCabe

end SoSpooler

end Driver

/-! ## A device that keeps its names -/

section Quadro

variable {F δ : Type}

/-- The names in the table of the device, as the driver reads them. -/
def Dll.quadro (dll : Dll δ) (d : δ) : List Str :=
  Driver.totalizadores (dll.verificaTotalizadoresNaoFiscaisMFD d).1.2

/-- The state of the device once the table was read and `check` has asked for the status. -/
def Dll.aposQuadro (dll : Dll δ) (d : δ) : δ :=
  (dll.retornoImpressoraMFD (dll.verificaTotalizadoresNaoFiscaisMFD d).2).2

/-- What the driver reads of a name that stands in a slot. -/
def lido (nome : Str) : Str := Str.trim (Str.cstr (nome.take Driver.sizeTotcnf))

/-- The name kept for a slot: a free one is marked. -/
def guardado (nome : Str) : Str := if nome = [] then Driver.txtAvailable else nome

/-- The device reports success, answers with its table, and keeps a name in the slot given. -/
structure Biblioteca.GuardaNomes (bib : Biblioteca δ) : Prop where
  retorno : ∀ d, (bib.retornoImpressoraMFD d).1 = (bematechOk, ⟨6, 0, 0, 0⟩)
  quadro_retorno : ∀ d, bib.quadro (bib.retornoImpressoraMFD d).2 = bib.quadro d
  verifica : ∀ d, (bib.verificaTotalizadoresNaoFiscaisMFD d).1.1 = bematechOk
  quadro_verifica : ∀ d, bib.quadro (bib.verificaTotalizadoresNaoFiscaisMFD d).2 = bib.quadro d
  nomeia : ∀ k < Driver.totalTotcnf, ∀ nome tipo d, lido nome ≠ [] →
    (bib.acao (.nomeiaTotalizadorNaoSujeitoIcmsCV0909 (k + 1 : ℕ) nome tipo) d).1 = bematechOk
  quadro_nomeia : ∀ k < Driver.totalTotcnf, ∀ nome tipo d, lido nome ≠ [] →
    bib.quadro (bib.acao (.nomeiaTotalizadorNaoSujeitoIcmsCV0909 (k + 1 : ℕ) nome tipo) d).2 =
      (bib.quadro d).set k (lido nome)

/-- Keeping a list of the calls makes no difference. -/
theorem Biblioteca.GuardaNomes.espia {bib : Biblioteca δ} (h : bib.GuardaNomes) :
    bib.espia.GuardaNomes where
  retorno s := h.retorno s.1
  quadro_retorno s := h.quadro_retorno s.1
  verifica s := h.verifica s.1
  quadro_verifica s := h.quadro_verifica s.1
  nomeia k hk nome tipo s := h.nomeia k hk nome tipo s.1
  quadro_nomeia k hk nome tipo s := h.quadro_nomeia k hk nome tipo s.1

theorem Biblioteca.GuardaNomes.quadro_apos {bib : Biblioteca δ} (h : bib.GuardaNomes) (d : δ) :
    bib.quadro (bib.aposQuadro d) = bib.quadro d :=
  (h.quadro_retorno _).trans (h.quadro_verifica d)

@[simp] theorem length_quadro (dll : Dll δ) (d : δ) :
    (dll.quadro d).length = Driver.totalTotcnf := by
  simp [Dll.quadro, Driver.totalizadores, Driver.totalTotcnf]

end Quadro

/-! ## Runs -/

/-- The machine with a table of totalizers kept. -/
def Maquina.comQuadro {F δ : Type} (m : Maquina F δ) (x : Sinal) (d : δ) (l : List Str) :
    Maquina F δ := { m with drv := { m.drv with sinal := x, totCnf := l }, dev := d }

namespace Driver

section Runs

variable {F δ : Type} {n : Numeric F} {bib : Biblioteca δ} {m : Maquina F δ}

/-- A call that went well on a device that reports no error. -/
theorem exec_check_sadio {dll : Dll δ}
    (h : (dll.retornoImpressoraMFD m.dev).1 = (bematechOk, ⟨6, 0, 0, 0⟩)) :
    ∃ x, exec (check dll bematechOk) m = (.ok (), m.com x (dll.retornoImpressoraMFD m.dev).2) := by
  have hst : evalStatus m.drv.ignorarPoucoPapel m.drv.sinal.stsmsg (Retorno.status ⟨6, 0, 0, 0⟩) =
      (true, m.drv.sinal.stsmsg) := rfl
  have hne : bematechOk ≠ bematechNotOkStatus := by decide
  simp only [check, if_pos, colheRetorno, exec_bind, exec_get, exec_set, h, if_neg hne,
    exec_altera, hst]
  exact ⟨_, rfl⟩

/-- The slot of a name, counted from one. -/
def posicao (tot : Str) (nomes : List Str) : Option ℕ :=
  (ultimoIdx (fun one => one ≠ [] && Str.strIequals (tot.take sizeTotcnf) one) nomes).map (· + 1)

/-- A name in the table kept. -/
theorem exec_getTotalizadorCnf_kept {dll : Dll δ} {tot : Str} {i : ℕ}
    (h : idxElement (tot.take sizeTotcnf) m.drv.totCnf = some i) :
    exec (getTotalizadorCnf dll tot) m = (.ok (some (i + 1)), m) := by
  simp [getTotalizadorCnf, exec_bind, h]

/-- Any other name is looked up in the table of the device. -/
theorem exec_getTotalizadorCnf (hg : bib.GuardaNomes) {tot : Str}
    (h : idxElement (tot.take sizeTotcnf) m.drv.totCnf = none) :
    ∃ x, exec (getTotalizadorCnf bib.toDll tot) m = (.ok (posicao tot (bib.quadro m.dev)),
      m.comQuadro x (bib.aposQuadro m.dev) ((bib.quadro m.dev).map guardado)) := by
  obtain ⟨x, hx⟩ := exec_check_sadio
    (m := { m with dev := (bib.verificaTotalizadoresNaoFiscaisMFD m.dev).2 }) (hg.retorno _)
  refine ⟨x, ?_⟩
  simp only [getTotalizadorCnf, exec_bind, exec_get, exec_set, h, hg.verifica, hx]
  rfl

theorem trim_of_mem_quadro {dll : Dll δ} {d : δ} {nome : Str} (h : nome ∈ dll.quadro d) :
    Str.trim nome = nome := by
  obtain ⟨i, -, rfl⟩ := List.mem_map.1 h
  exact Str.trim_trim _

/-- No slot is kept under an empty name. -/
theorem idxElement_nil (dll : Dll δ) (d : δ) :
    idxElement [] ((dll.quadro d).map guardado) = none := by
  rw [idxElement, List.findIdx?_eq_none_iff]
  intro one hone
  obtain ⟨nome, hnome, rfl⟩ := List.mem_map.1 hone
  rw [← Bool.not_eq_true, Str.strIequals_iff]
  unfold guardado
  split
  · decide
  · rename_i hne
    rw [trim_of_mem_quadro hnome]
    intro h
    exact hne (List.map_eq_nil_iff.1 h)

/-- The free slot that `get_prox_totalizador` finds, counted from zero. -/
def vaga (nomes : List Str) : Option ℕ := (nomes.map guardado).findIdx? (· = txtAvailable)

theorem lt_of_vaga {nomes : List Str} {p : ℕ} (h : vaga nomes = some p) : p < nomes.length := by
  obtain ⟨hlt, -⟩ := List.findIdx?_eq_some_iff_getElem.1 h
  simpa using hlt

theorem vaga_isSome {nomes : List Str} (h : [] ∈ nomes) : ∃ p, vaga nomes = some p := by
  refine Option.isSome_iff_exists.1 (List.findIdx?_isSome.trans (List.any_eq_true.2 ?_))
  exact ⟨txtAvailable, List.mem_map.2 ⟨[], h, rfl⟩, decide_eq_true rfl⟩

/-- The table is read again, whatever is kept. -/
theorem exec_getProxTotalizador (hg : bib.GuardaNomes) {p : ℕ}
    (h : idxElement [] m.drv.totCnf = none) (hp : vaga (bib.quadro m.dev) = some p) :
    ∃ x, exec (getProxTotalizador (getTotalizadorCnf bib.toDll)) m = (.ok (p : ℤ),
      m.comQuadro x (bib.aposQuadro m.dev) ((bib.quadro m.dev).map guardado)) := by
  obtain ⟨x, hx⟩ : ∃ x, exec (getTotalizadorCnf bib.toDll []) m =
      (.ok (posicao [] (bib.quadro m.dev)),
        m.comQuadro x (bib.aposQuadro m.dev) ((bib.quadro m.dev).map guardado)) :=
    exec_getTotalizadorCnf hg h
  refine ⟨x, ?_⟩
  simp only [getProxTotalizador, exec_bind, hx, exec_get, exec_pure]
  show (Except.ok (Option.elim (vaga (bib.quadro m.dev)) _ _), _) = _
  rw [hp]
  rfl

/-- What the device holds once a name was sent to it. -/
def aposNomeia (bib : Biblioteca δ) (p : ℕ) (descr tipo : Str) (d : δ) : δ :=
  (bib.retornoImpressoraMFD (bib.acao (.nomeiaTotalizadorNaoSujeitoIcmsCV0909 (p + 1 : ℕ)
    (Str.trim (descr.take sizeTotcnf)) tipo) d).2).2

theorem quadro_aposNomeia (hg : bib.GuardaNomes) {p : ℕ} {descr : Str} (hp : p < totalTotcnf)
    (hlido : lido (Str.trim (descr.take sizeTotcnf)) ≠ []) (tipo : Str) (d : δ) :
    bib.quadro (aposNomeia bib p descr tipo d) =
      (bib.quadro d).set p (lido (Str.trim (descr.take sizeTotcnf))) :=
  (hg.quadro_retorno _).trans (hg.quadro_nomeia p hp _ tipo d hlido)

theorem exec_manda_nomeia (hg : bib.GuardaNomes) {p : ℕ} {descr : Str} (hp : p < totalTotcnf)
    (hlido : lido (Str.trim (descr.take sizeTotcnf)) ≠ []) (hf : m.drv.fake = false) (tipo : Str) :
    ∃ x, exec (manda bib (.nomeiaTotalizadorNaoSujeitoIcmsCV0909 (p + 1 : ℕ)
        (Str.trim (descr.take sizeTotcnf)) tipo)) m =
      (.ok (), m.com x (aposNomeia bib p descr tipo m.dev)) := by
  obtain ⟨x, hx⟩ := exec_check_sadio
    (m := { m with dev := (bib.acao (.nomeiaTotalizadorNaoSujeitoIcmsCV0909 (p + 1 : ℕ)
      (Str.trim (descr.take sizeTotcnf)) tipo) m.dev).2 }) (hg.retorno _)
  refine ⟨x, ?_⟩
  simp only [manda, aciona, exec_bind, exec_get, hf, Bool.false_eq_true, if_false, exec_set,
    hg.nomeia p hp _ tipo m.dev hlido, hx]
  rfl

/-- **A new name goes to the slot behind the position that `get_prox_totalizador` gives.** -/
theorem exec_setTotalizador (hg : bib.GuardaNomes) {p : ℕ} {descr aux : Str}
    (hcache : idxElement (descr.take sizeTotcnf) m.drv.totCnf = none)
    (hnovo : posicao descr (bib.quadro m.dev) = none) (hp : vaga (bib.quadro m.dev) = some p)
    (hlido : lido (Str.trim (descr.take sizeTotcnf)) ≠ []) (hf : m.drv.fake = false)
    (haux : n.sprintf "%02.0f" (n.ofInt (p + 1)) = some aux) (tipo : Str) :
    ∃ x, exec (setTotalizador n bib descr tipo) m = (.ok (),
      m.comQuadro x (aposNomeia bib p descr tipo (bib.aposQuadro (bib.aposQuadro m.dev))) []) := by
  obtain ⟨x, hx⟩ := exec_getTotalizadorCnf hg hcache
  rw [hnovo] at hx
  have hlt : p < totalTotcnf := by simpa using lt_of_vaga hp
  obtain ⟨y, hy⟩ := exec_getProxTotalizador (p := p) hg
    (m := m.comQuadro x (bib.aposQuadro m.dev) ((bib.quadro m.dev).map guardado))
    (idxElement_nil _ _) (by rw [← hp]; exact congrArg vaga (hg.quadro_apos m.dev))
  obtain ⟨z, hz⟩ := exec_manda_nomeia hg hlt hlido (m := (m.comQuadro x (bib.aposQuadro m.dev)
    ((bib.quadro m.dev).map guardado)).comQuadro y (bib.aposQuadro (bib.aposQuadro m.dev))
    ((bib.quadro (bib.aposQuadro m.dev)).map guardado)) hf tipo
  refine ⟨z, ?_⟩
  push_cast at hz
  simp only [setTotalizador, exec_bind, hx]
  simp only [Maquina.comQuadro] at hy hz ⊢
  simp only [hy, exec_formatInteiro_some haux, hz, exec_altera]
  rfl

/-- What `get_totalizador_cnf` answers: from the table kept, else from that of the device. -/
def achado (kept nomes : List Str) (tot : Str) : Option ℕ :=
  match idxElement (tot.take sizeTotcnf) kept with
  | some i => some (i + 1)
  | none => posicao tot nomes

end Runs

/-! ## Names and slots -/

section Nomes

variable {kept nomes : List Str} {d nome : Str}

/-- A name in the table is found, whatever is kept. -/
theorem exists_achado (kept : List Str) (hmem : nome ∈ nomes) (hne : nome ≠ [])
    (hd : Str.strIequals (d.take sizeTotcnf) nome = true) :
    ∃ idx, achado kept nomes d = some idx := by
  unfold achado
  split
  · exact ⟨_, rfl⟩
  · cases hu : posicao d nomes with
    | some idx => exact ⟨idx, rfl⟩
    | none =>
      have hno := ultimoIdx_eq_none.1 (Option.map_eq_none_iff.1 hu) nome hmem
      simp [hne, hd] at hno

/-- What is found while the table kept is that of the device is one of its slots. -/
theorem achado_le (hc : kept = [] ∨ kept = nomes.map guardado) {idx : ℕ}
    (h : achado kept nomes d = some idx) : idx ≤ nomes.length := by
  unfold achado at h
  split at h
  · rename_i i hi
    cases h
    have hlt := (List.findIdx?_eq_some_iff_getElem.1 hi).1
    obtain rfl | rfl := hc
    · simp at hlt
    · rw [List.length_map] at hlt
      exact hlt
  · obtain ⟨i, hi, rfl⟩ := Option.map_eq_some_iff.1 h
    obtain ⟨x, hx, -⟩ := ultimoIdx_eq_some hi
    exact (List.getElem?_eq_some_iff.1 hx).1

/-- A name that no slot has. -/
def Novo (d : Str) (nomes : List Str) : Prop :=
  ∀ nome ∈ nomes, nome ≠ [] → Str.strIequals (d.take sizeTotcnf) nome = false

theorem posicao_of_novo (h : Novo d nomes) : posicao d nomes = none := by
  rw [posicao, Option.map_eq_none_iff, ultimoIdx_eq_none]
  intro nome hmem
  by_cases hne : nome = []
  · simp [hne]
  · simp [h nome hmem hne]

/-- A new name is not kept, unless it is the mark of a free slot. -/
theorem idxElement_of_novo (h : Novo d nomes)
    (hd : Str.strIequals (d.take sizeTotcnf) txtAvailable = false) :
    idxElement (d.take sizeTotcnf) (nomes.map guardado) = none := by
  rw [idxElement, List.findIdx?_eq_none_iff]
  intro one hone
  obtain ⟨nome, hmem, rfl⟩ := List.mem_map.1 hone
  rw [Str.strIequals_comm]
  unfold guardado
  split
  · exact hd
  · rename_i hne
    exact h nome hmem hne

theorem lido_trim (h : '\x00' ∉ d) :
    lido (Str.trim (d.take sizeTotcnf)) = Str.trim (d.take sizeTotcnf) := by
  have hlen : (Str.trim (d.take sizeTotcnf)).length ≤ sizeTotcnf :=
    (Str.trim_infix _).length_le.trans (List.length_take_le _ _)
  have hnul : '\x00' ∉ Str.trim (d.take sizeTotcnf) := fun hmem =>
    h (List.mem_of_mem_take ((Str.trim_infix _).subset hmem))
  rw [lido, List.take_of_length_le hlen, Str.cstr_eq_self hnul, Str.trim_trim]

/-- A new name is found in the slot it was given, by a search from scratch. -/
theorem posicao_set (h : Novo d nomes) {p : ℕ} (hp : p < nomes.length) (hnul : '\x00' ∉ d)
    (hd : Str.trim (d.take sizeTotcnf) ≠ []) :
    posicao d (nomes.set p (lido (Str.trim (d.take sizeTotcnf)))) = some (p + 1) := by
  rw [lido_trim hnul, posicao,
    ultimoIdx_of_unico (i := p) (x := Str.trim (d.take sizeTotcnf))]
  · rfl
  · exact List.getElem?_set_self hp
  · simp [hd, Str.strIequals_trim]
  · intro j y hy hpy
    by_contra hj
    rw [List.getElem?_set_ne (Ne.symm hj)] at hy
    have hmem := List.mem_of_getElem? hy
    by_cases hne : y = []
    · simp [hne] at hpy
    · simp [h y hmem hne] at hpy

end Nomes

/-! ## The calls issued -/

section Atos

variable {F δ : Type} {n : Numeric F} {bib : Biblioteca δ} {m : Maquina F (δ × List Chamada)}

theorem exec_getTotalizadorCnf_espia (hg : bib.GuardaNomes) (tot : Str) :
    ∃ t, exec (getTotalizadorCnf bib.espia.toDll tot) m =
        (.ok (achado m.drv.totCnf (bib.quadro m.dev.1) tot), t) ∧
      t.drv.fake = m.drv.fake ∧ t.atos = m.atos := by
  unfold achado
  cases h : idxElement (tot.take sizeTotcnf) m.drv.totCnf with
  | some i => exact ⟨m, exec_getTotalizadorCnf_kept h, rfl, rfl⟩
  | none =>
    obtain ⟨x, hx⟩ := exec_getTotalizadorCnf hg.espia h
    refine ⟨_, hx, rfl, ?_⟩
    simp [Maquina.atos, Maquina.chamadas, Maquina.comQuadro, Dll.aposQuadro, Biblioteca.espia,
      Dll.espia, Chamada.soLe]

variable {idx : ℕ} {d cidx : Str} {valor : F} {r : Except Excp Str}

/-- The index under which a receipt registers a totalizer, when its amount is written. -/
theorem atos_regNaoFiscalBase (hg : bib.GuardaNomes) (hf : m.drv.fake = false)
    (hidx : achado m.drv.totCnf (bib.quadro m.dev.1) d = some idx)
    (h₁ : ∀ t : Maquina F (δ × List Chamada),
      exec (formatInteiro n idx "%02.0f" : Prog _ _ _) t = (.ok cidx, t))
    (h₂ : ∀ t : Maquina F (δ × List Chamada),
      exec (formatValor n valor "%11.2f" : Prog _ _ _) t = (r, t)) :
    (exec (regNaoFiscalBase n bib.espia.toDll d valor) m).2.atos =
      m.atos ++ r.toOption.toList.map fun cvlr =>
        .comando (.efetuaRecebimentoNaoFiscalMFD cidx cvlr) := by
  obtain ⟨t, ht, hfake, hatos⟩ := exec_getTotalizadorCnf_espia hg (m := m) d
  rw [hidx] at ht
  rw [regNaoFiscalBase, exec_bind_ok ht]
  simp only [exec_bind, h₁, h₂]
  cases r with
  | error e => exact hatos.trans (List.append_nil _).symm
  | ok cvlr =>
    refine (atos_envia bib.toDll _ (hfake.trans hf)).trans ?_
    rw [hatos]
    rfl

theorem atos_regNaoFiscal (hg : bib.GuardaNomes) (hf : m.drv.fake = false) {cnfSaida : Str}
    (hs : m.drv.specific.lookup specCnfSaida = some cnfSaida)
    (hidx : achado m.drv.totCnf (bib.quadro m.dev.1) d = some idx)
    (h₁ : ∀ t : Maquina F (δ × List Chamada),
      exec (formatInteiro n idx "%02.0f" : Prog _ _ _) t = (.ok cidx, t))
    (h₂ : ∀ t : Maquina F (δ × List Chamada),
      exec (formatValor n valor "%11.2f" : Prog _ _ _) t = (r, t)) :
    (exec (regNaoFiscal n bib.espia.toDll d valor) m).2.atos =
      m.atos ++ r.toOption.toList.map fun cvlr =>
        .comando (.efetuaRecebimentoNaoFiscalMFD cidx cvlr) := by
  simp only [regNaoFiscal, valueByKey, exec_bind, exec_get, hs, exec_pure]
  split
  · simp only [exec_bind, exec_altera]
    exact atos_regNaoFiscalBase
      (m := { m with drv := { m.drv with dontPay := true } }) hg hf hidx h₁ h₂
  · exact atos_regNaoFiscalBase hg hf hidx h₁ h₂

/-- The index under which a receipt of its own names its totalizer, when its amount is written. -/
theorem atos_abreNfiscalNvinc (hg : bib.GuardaNomes) (hf : m.drv.fake = false)
    (hidx : achado m.drv.totCnf (bib.quadro m.dev.1) d = some idx)
    (h₁ : ∀ t : Maquina F (δ × List Chamada),
      exec (formatInteiro n idx "%02.0f" : Prog _ _ _) t = (.ok cidx, t))
    (h₂ : ∀ t : Maquina F (δ × List Chamada),
      exec (formatValor n valor "%11.2f" : Prog _ _ _) t = (r, t)) (moeda : Str) :
    (exec (abreNfiscalNvinc n bib.espia d valor moeda) m).2.atos =
      m.atos ++ r.toOption.toList.map fun cvlr =>
        .acao (.recebimentoNaoFiscal cidx cvlr (Str.trim (moeda.take sizeFpgto))) := by
  obtain ⟨t, ht, hfake, hatos⟩ := exec_getTotalizadorCnf_espia hg (m := m) d
  rw [hidx] at ht
  rw [abreNfiscalNvinc, exec_bind_ok ht]
  simp only [exec_bind, h₁, h₂]
  cases r with
  | error e => exact hatos.trans (List.append_nil _).symm
  | ok cvlr =>
    refine (atos_manda bib _ (hfake.trans hf)).trans ?_
    rw [hatos]
    rfl

/-- **Whatever the name, it goes to the slot behind the free position, if it goes anywhere.** -/
theorem atos_setTotalizador (hg : bib.GuardaNomes) (hf : m.drv.fake = false) {p : ℕ}
    (hp : vaga (bib.quadro m.dev.1) = some p) (descr tipo : Str) :
    (exec (setTotalizador n bib.espia descr tipo) m).2.atos = m.atos ∨
      (exec (setTotalizador n bib.espia descr tipo) m).2.atos = m.atos ++
        [.acao (.nomeiaTotalizadorNaoSujeitoIcmsCV0909 (p + 1) (Str.trim (descr.take sizeTotcnf))
          tipo)] := by
  cases hkept : idxElement (descr.take sizeTotcnf) m.drv.totCnf with
  | some i =>
    left
    simp only [setTotalizador, exec_bind, exec_getTotalizadorCnf_kept hkept, exec_pure]
  | none =>
    have hlidas : ∀ (t : Maquina F (δ × List Chamada)) x l,
        (t.comQuadro x (bib.espia.aposQuadro t.dev) l).atos = t.atos := by
      intro t x l
      simp [Maquina.atos, Maquina.chamadas, Maquina.comQuadro, Dll.aposQuadro, Biblioteca.espia,
        Dll.espia, Chamada.soLe]
    obtain ⟨x, hx⟩ := exec_getTotalizadorCnf hg.espia hkept
    have hq : bib.espia.quadro (bib.espia.aposQuadro m.dev) = bib.quadro m.dev.1 :=
      hg.espia.quadro_apos m.dev
    have hnil : idxElement [] ((bib.espia.quadro m.dev).map guardado) = none := idxElement_nil _ _
    have hm₁ := hlidas m x ((bib.espia.quadro m.dev).map guardado)
    simp only [setTotalizador, exec_bind, hx]
    generalize hx₁ : m.comQuadro x _ _ = m₁ at hm₁ ⊢
    have hf₁ : m₁.drv.fake = false := hx₁ ▸ hf
    cases hpos : posicao descr (bib.espia.quadro m.dev) with
    | some idx => exact .inl hm₁
    | none =>
      obtain ⟨y, hy⟩ := exec_getProxTotalizador (m := m₁) (p := p) hg.espia (hx₁ ▸ hnil)
        (by rw [← hx₁, ← hp]; exact congrArg vaga hq)
      have hm₂ := (hlidas m₁ y ((bib.espia.quadro m₁.dev).map guardado)).trans hm₁
      simp only [exec_bind, hy]
      generalize hm₃ : m₁.comQuadro y _ _ = m₃ at hm₂ ⊢
      have hf₃ : m₃.drv.fake = false := hm₃ ▸ hf₁
      obtain ⟨r, hr⟩ := exec_formatInteiro n ((p : ℤ) + 1) "%02.0f" m₃
      have ha := atos_manda bib (.nomeiaTotalizadorNaoSujeitoIcmsCV0909 (p + 1)
        (Str.trim (descr.take sizeTotcnf)) tipo) hf₃
      rw [hm₂] at ha
      simp only [hr]
      cases r with
      | error e => exact .inl hm₂
      | ok aux =>
        right
        dsimp only
        revert ha
        rcases exec (manda bib.espia _) m₃ with ⟨e | u, t⟩ <;> exact id

end Atos

end Driver

end Spooler
