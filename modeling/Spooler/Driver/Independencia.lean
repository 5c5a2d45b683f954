import Spooler.Driver.DadosReducao

/-!
# The report does not tell what was served before

Two drivers with caches `c₁` and `c₂` ask for the report and get the same answer from the device.
`Independe` says what the report promises then: the same line, with every position in one of the
two sections, and both caches as they were. **It is kept exactly when both caches know the sixteen
positions as ICMS or ISS and agree on them**, `independe_iff`. One direction runs the loops over
such caches; the other reads the sections off the line made for an answer of ones
(`linha_uns_injective`). `vazia_nao_independe`: a driver that has served nothing yet.
-/

namespace Spooler

open Foundations

/-! ## The line for an answer of ones -/

/-- An answer in which no field is zero. -/
def uns : Str := List.replicate Campo.tamanhoTotal '1'

theorem semVirgulas_uns : semVirgulas uns = uns := by
  rw [uns, semVirgulas, List.map_replicate]
  rfl

theorem parte_uns {c : Campo} {n i : Nat} (h : c.inicio + i * n + n ≤ Campo.tamanhoTotal) :
    c.parte n i uns = List.replicate n '1' := by
  have hlen : min n (Campo.tamanhoTotal - (c.inicio + i * n)) = n := by omega
  rw [Campo.parte, uns, List.drop_replicate, List.take_replicate, hlen, Str.cstr,
    List.takeWhile_replicate]
  rfl

/-- Every position of that answer has the same rate and total. -/
theorem entrada_uns {i : Nat} (h : i < bematechTotalAliqs) :
    entrada uns i true = barras [List.replicate 4 '1', List.replicate 14 '1'] := by
  have hi : i < 16 := h
  have hrate : Campo.aliquotasTributarias.inicio + 16 * 4 ≤ Campo.tamanhoTotal := by decide
  have htotal : Campo.totParciaisTributados.inicio + 16 * 14 ≤ Campo.tamanhoTotal := by decide
  rw [entrada, if_pos rfl, parte_uns (by omega), parte_uns (by omega)]

theorem length_entrada_uns {i : Nat} (h : i < bematechTotalAliqs) (f : Bool) :
    (entrada uns i f).length = 20 := by
  cases f with
  | false => rfl
  | true =>
    rw [entrada_uns h]
    rfl

/-- A position that is shown reads differently from one that is not. -/
theorem entrada_uns_injective {i : Nat} (h : i < bematechTotalAliqs) {f g : Bool}
    (hfg : entrada uns i f = entrada uns i g) : f = g := by
  have hne : entrada uns i true ≠ entrada uns i false := by
    rw [entrada_uns h]
    show _ ≠ barras ["0000".toList, "00000000000000".toList]
    decide
  cases f <;> cases g
  · rfl
  · exact absurd hfg.symm hne
  · exact absurd hfg hne
  · rfl

theorem length_textoSecao_uns {i : Nat} {fs : List Bool} (h : i + fs.length ≤ bematechTotalAliqs) :
    (textoSecao uns i fs).length = 20 * fs.length := by
  induction fs generalizing i with
  | nil => rfl
  | cons f fs ih =>
    rw [List.length_cons] at h ⊢
    rw [textoSecao, List.length_append, length_entrada_uns (by omega), ih (by omega)]
    omega

theorem textoSecao_uns_injective {i : Nat} {fs gs : List Bool} (hlen : fs.length = gs.length)
    (h : i + fs.length ≤ bematechTotalAliqs) (hfg : textoSecao uns i fs = textoSecao uns i gs) :
    fs = gs := by
  induction fs generalizing i gs with
  | nil => exact (List.length_eq_zero_iff.1 hlen.symm).symm
  | cons f fs ih =>
    cases gs with
    | nil => simp at hlen
    | cons g gs =>
      rw [List.length_cons] at h
      have hi : i < bematechTotalAliqs := by omega
      simp only [textoSecao] at hfg
      obtain ⟨hf, hrest⟩ := List.append_inj hfg
        ((length_entrada_uns hi f).trans (length_entrada_uns hi g).symm)
      rw [entrada_uns_injective hi hf, ih (by simpa using hlen) (by omega) hrest]

/-- The sections can be read off a line. -/
theorem montaDados_injective {b icms iss icms' iss' : Str} (hlen : icms.length = icms'.length)
    (h : montaDados b icms iss = montaDados b icms' iss') : icms = icms' ∧ iss = iss' := by
  simp only [montaDados, List.append_assoc, List.append_cancel_left_eq] at h
  obtain ⟨hicms, hrest⟩ := List.append_inj h hlen
  rw [List.append_cancel_left_eq] at hrest
  exact ⟨hicms, List.append_cancel_right hrest⟩

/-- **The positions shown can be read off the line made for ones.** -/
theorem linha_uns_injective {f g f' g' : List Bool} (hf : f.length = bematechTotalAliqs)
    (hf' : f'.length = bematechTotalAliqs) (hg : g.length = bematechTotalAliqs)
    (hg' : g'.length = bematechTotalAliqs)
    (h : Driver.linha uns f g = Driver.linha uns f' g') : f = f' ∧ g = g' := by
  have hlen : (textoSecao uns 0 f).length = (textoSecao uns 0 f').length := by
    rw [length_textoSecao_uns (by omega), length_textoSecao_uns (by omega), hf, hf']
  obtain ⟨hicms, hiss⟩ := montaDados_injective hlen h
  exact ⟨textoSecao_uns_injective (by omega) (by omega) hicms,
    textoSecao_uns_injective (by omega) (by omega) hiss⟩

/-! ## What the report promises -/

/-- The line that shows a position in the ICMS section where `S` says so, and in the ISS section
otherwise. -/
def relatorio (b : Str) (S : Nat → Bool) : Str :=
  Driver.linha (semVirgulas b) ((List.range bematechTotalAliqs).map S)
    ((List.range bematechTotalAliqs).map fun i => !S i)

namespace Driver

variable {F : Type} (n : Numeric F)

/-- Two reports, over drivers with these caches and the same answer of the device: the same line,
with every position in one of the two sections, and the caches as they were. -/
def Independe (c₁ c₂ : Aliqs F) : Prop :=
  ∀ (δ : Type) (dll : Dll δ) (m₁ m₂ t₁ t₂ : Maquina F δ) (r₁ r₂ : Str),
    m₁.drv.aliqs = c₁ → m₂.drv.aliqs = c₂ →
    (dll.dadosUltimaReducaoMFD m₁.dev).1.2 = (dll.dadosUltimaReducaoMFD m₂.dev).1.2 →
    exec (dadosUltReducao n dll) m₁ = (.ok r₁, t₁) →
    exec (dadosUltReducao n dll) m₂ = (.ok r₂, t₂) →
    r₁ = r₂ ∧ (∃ S, r₁ = relatorio (dll.dadosUltimaReducaoMFD m₁.dev).1.2 S) ∧
      t₁.drv.aliqs = c₁ ∧ t₂.drv.aliqs = c₂

/-- The cache knows the sixteen positions, as ICMS or ISS. -/
def Classifica (c : Aliqs F) : Prop :=
  ∀ i < bematechTotalAliqs, tipoEm c i = some Aliquota.tributadoIcms ∨
    tipoEm c i = some Aliquota.tributadoIss

variable {n}

theorem conhece_of_classifica {c : Aliqs F} (h : Classifica c) : Conhece c := by
  intro i hi
  have hsome : (tipoEm c i).isSome := by
    obtain h | h := h i hi <;> rw [h] <;> rfl
  exact AList.lookup_isSome.1 (by simpa [tipoEm] using hsome)

/-- Over a cache that classifies the positions the sections show each of them once. -/
theorem mostradas_of_classifica {c : Aliqs F} (h : Classifica c) (b : Str) :
    linha (semVirgulas b) (mostradas n c).1 (mostradas n c).2.1 =
        relatorio b (fun i => decide (tipoEm c i = some Aliquota.tributadoIcms)) ∧
      (mostradas n c).2.2 = c := by
  rw [mostradas_of_conhece (conhece_of_classifica h)]
  refine ⟨?_, rfl⟩
  have hiss : ((List.range bematechTotalAliqs).map fun i =>
        decide (tipoEm c i = some Aliquota.tributadoIss)) =
      (List.range bematechTotalAliqs).map fun i =>
        !decide (tipoEm c i = some Aliquota.tributadoIcms) := by
    refine List.map_congr_left fun i hi => ?_
    obtain h | h := h i (List.mem_range.1 hi) <;> rw [h] <;> decide
  rw [relatorio, hiss]

/-! ## Sections and caches from the promise -/

/-- A library that always succeeds, and answers `b`. -/
def dllDe (b : Str) : Dll Unit where
  comando _ d := (bematechOk, d)
  retornoImpressoraMFD d := ((bematechOk, ⟨6, 0, 0, 0⟩), d)
  verificaFormasPagamentoMFD d := ((bematechOk, []), d)
  verificaTotalizadoresNaoFiscaisMFD d := ((bematechOk, []), d)
  dataHoraReducao d := ((bematechOk, [], []), d)
  dadosUltimaReducaoMFD d := ((bematechOk, b), d)

/-- A driver with the given cache. -/
def comCache (c : Aliqs F) : Maquina F Unit := { drv := { aliqs := c }, dev := () }

theorem exec_dllDe (n : Numeric F) (b : Str) (c : Aliqs F) :
    ∃ t, exec (dadosUltReducao n (dllDe b)) (comCache c) =
        (.ok (linha (semVirgulas b) (mostradas n c).1 (mostradas n c).2.1), t) ∧
      t.drv.aliqs = (mostradas n c).2.2 := by
  have hck : ∃ x,
      exec (check (dllDe b) bematechOk) (comCache c) = (.ok (), (comCache c).com x ()) :=
    ⟨_, rfl⟩
  obtain ⟨x, hx⟩ := hck
  exact ⟨_, exec_dadosUltReducao hx, by simp only [comCache]⟩

/-- A cache left as it was, with a section for every position, classifies the positions. -/
theorem classifica_of_linha {c : Aliqs F} {S : Nat → Bool} (hc : (mostradas n c).2.2 = c)
    (h : linha (semVirgulas uns) (mostradas n c).1 (mostradas n c).2.1 = relatorio uns S) :
    Classifica c ∧
      ∀ i < bematechTotalAliqs, S i = decide (tipoEm c i = some Aliquota.tributadoIcms) := by
  rw [relatorio, semVirgulas_uns] at h
  obtain hvazia | hconhece := conhece_of_mostradas hc
  · have hm : mostradas n c =
        (List.replicate bematechTotalAliqs false, List.replicate bematechTotalAliqs false, c) := by
      simp only [mostradas, aliqIsIcms, aliqIsIss, laco_of_vazia hvazia]
    rw [hm] at h
    obtain ⟨hicms, hiss⟩ := linha_uns_injective (by simp) (by simp) (by simp) (by simp) h
    have h₀ : S 0 = false := by
      have := congrArg (·[0]?) hicms
      simpa [bematechTotalAliqs] using this.symm
    have h₁ : S 0 = true := by
      have := congrArg (·[0]?) hiss
      simpa [bematechTotalAliqs] using this.symm
    simp [h₀] at h₁
  · rw [mostradas_of_conhece hconhece] at h
    obtain ⟨hicms, hiss⟩ := linha_uns_injective (by simp) (by simp) (by simp) (by simp) h
    have hS : ∀ i < bematechTotalAliqs,
        S i = decide (tipoEm c i = some Aliquota.tributadoIcms) := by
      intro i hi
      exact (List.map_inj_left.1 hicms i (List.mem_range.2 hi)).symm
    refine ⟨fun i hi => ?_, hS⟩
    have hnot := List.map_inj_left.1 hiss i (List.mem_range.2 hi)
    rw [hS i hi] at hnot
    by_cases hT : tipoEm c i = some Aliquota.tributadoIcms
    · exact .inl hT
    · exact .inr (by simpa [hT] using hnot)

/-- Caches that keep the promise classify the sixteen positions alike. -/
theorem classifica_of_independe {c₁ c₂ : Aliqs F} (h : Independe n c₁ c₂) :
    Classifica c₁ ∧ Classifica c₂ ∧ ∀ i < bematechTotalAliqs, tipoEm c₁ i = tipoEm c₂ i := by
  obtain ⟨t₁, h₁, ht₁⟩ := exec_dllDe n uns c₁
  obtain ⟨t₂, h₂, ht₂⟩ := exec_dllDe n uns c₂
  obtain ⟨heq, ⟨S, hS⟩, hc₁, hc₂⟩ :=
    h Unit (dllDe uns) (comCache c₁) (comCache c₂) t₁ t₂ _ _ rfl rfl rfl h₁ h₂
  obtain ⟨hk₁, hS₁⟩ := classifica_of_linha (ht₁.symm.trans hc₁) hS
  obtain ⟨hk₂, hS₂⟩ := classifica_of_linha (ht₂.symm.trans hc₂) (heq.symm.trans hS)
  refine ⟨hk₁, hk₂, fun i hi => ?_⟩
  have hT : decide (tipoEm c₁ i = some Aliquota.tributadoIcms) =
      decide (tipoEm c₂ i = some Aliquota.tributadoIcms) := (hS₁ i hi).symm.trans (hS₂ i hi)
  rw [decide_eq_decide] at hT
  obtain h₁ | h₁ := hk₁ i hi
  · rw [h₁, hT.1 h₁]
  · obtain h₂ | h₂ := hk₂ i hi
    · rw [hT.2 h₂, h₂]
    · rw [h₁, h₂]

/-! ## When it is kept -/

/-- **The report keeps its promise over two caches exactly when both classify the sixteen positions
and do so alike.** -/
theorem independe_iff (n : Numeric F) (c₁ c₂ : Aliqs F) :
    Independe n c₁ c₂ ↔
      Classifica c₁ ∧ Classifica c₂ ∧ ∀ i < bematechTotalAliqs, tipoEm c₁ i = tipoEm c₂ i := by
  constructor
  · exact classifica_of_independe
  · rintro ⟨hk₁, hk₂, hagree⟩ δ dll m₁ m₂ t₁ t₂ r₁ r₂ rfl rfl hb h₁ h₂
    obtain ⟨hr₁, ht₁⟩ := dadosUltReducao_ok h₁
    obtain ⟨hr₂, ht₂⟩ := dadosUltReducao_ok h₂
    rw [← hb] at hr₂
    obtain ⟨hl₁, hc₁⟩ := mostradas_of_classifica (n := n) hk₁ (dll.dadosUltimaReducaoMFD m₁.dev).1.2
    obtain ⟨hl₂, hc₂⟩ := mostradas_of_classifica (n := n) hk₂ (dll.dadosUltimaReducaoMFD m₁.dev).1.2
    have hsame : relatorio (dll.dadosUltimaReducaoMFD m₁.dev).1.2
          (fun i => decide (tipoEm m₁.drv.aliqs i = some Aliquota.tributadoIcms)) =
        relatorio (dll.dadosUltimaReducaoMFD m₁.dev).1.2
          (fun i => decide (tipoEm m₂.drv.aliqs i = some Aliquota.tributadoIcms)) := by
      have hS : ∀ i ∈ List.range bematechTotalAliqs,
          decide (tipoEm m₁.drv.aliqs i = some Aliquota.tributadoIcms) =
            decide (tipoEm m₂.drv.aliqs i = some Aliquota.tributadoIcms) := by
        intro i hi
        rw [hagree i (List.mem_range.1 hi)]
      rw [relatorio, relatorio, List.map_congr_left hS,
        List.map_congr_left fun i hi => congrArg (!·) (hS i hi)]
    refine ⟨?_, ⟨_, hr₁.trans hl₁⟩, ht₁.trans hc₁, ht₂.trans hc₂⟩
    rw [hr₁, hl₁, hsame, ← hl₂, ← hr₂]

/-- The cache after the first sale on a device with sixteen ICMS rates of 18%. -/
def carregada : Aliqs Int :=
  (List.range bematechTotalAliqs).foldl
    (fun c i => c.insert i ⟨Aliquota.tributadoIcms, 0, 18⟩) ∅

/-- A driver that has served nothing shows no position, and one that has sold an item on the same
device shows them. -/
theorem vazia_nao_independe : ¬ Independe Numeric.inteiros ∅ carregada := by
  intro h
  obtain ⟨hk, -, -⟩ := classifica_of_independe h
  obtain h₀ | h₀ := hk 0 (by decide) <;> simp [tipoEm] at h₀

end Driver

end Spooler
