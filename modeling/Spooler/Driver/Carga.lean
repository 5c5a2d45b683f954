import Spooler.Driver.DadosReducao
import Spooler.Driver.Estavel
import Mathlib.Data.List.Sort

/-!
# The table of rates

`get_idx_aliquota` answers from `m_aliqs`, which it fills from two texts of the device, the
positions of ISS and the rates, when it is empty. The class `ecf_bematech_cv0909` has a function of
the same name over a longer table; it hides the one of `ecf_bematech` and does not override it, so
`getIdxAliquota` is one definition over the sizes of both (`TabelaAliqs`). Both scan the texts with
fixed arrays on the stack; once one of them is left anything may come of the call, and anything may
be kept (`Estrago`).

**A load of texts that fit into the arrays keeps the table they describe**, `wp_getIdxAliquota`,
and from then on the answer is the position of the last entry of that table with the type and the
percentage asked for.
-/

namespace Spooler

open Foundations

/-! ## The two tables -/

/-- The sizes of `get_idx_aliquota` in a class: the entries of `flag` and `buft`, the sizes of
`idx_iss` and `ret_aliq`, what is added to a position of ISS, and the call for the rates. -/
structure TabelaAliqs where
  total : ℕ
  tamIss : ℕ
  tamRet : ℕ
  desloc : ℤ
  pergunta : Pergunta

namespace TabelaAliqs

/-- `ecf_bematech::get_idx_aliquota`. -/
def base : TabelaAliqs := ⟨bematechTotalAliqs, 50, 81, 0, .retornoAliquotas⟩

/-- `BEMATECH_TOTAL_ALIQS_CV0909`. -/
def totalAliqsCv0909 : ℕ := 60

/-- `ecf_bematech_cv0909::get_idx_aliquota`. -/
def cv0909 : TabelaAliqs :=
  ⟨totalAliqsCv0909, 91, totalAliqsCv0909 * 5 + 1, 29, .retornoAliquotasCV0909⟩

end TabelaAliqs

/-- What becomes of a call of `get_idx_aliquota`, and of the table kept, once it has left one of
its arrays. -/
abbrev Estrago (F δ : Type) := Maquina F δ → Except Excp (Option ℕ) × Aliqs F

/-! ## Searching -/

section Busca

variable {F : Type} [BEq F]

/-- The entries of the map, in its order. -/
def emOrdem (c : Aliqs F) : List (Σ _ : ℕ, Aliquota F) :=
  c.entries.insertionSort fun a b => a.1 ≤ b.1

/-- The test of the search: the type and the percentage are compared, the CST is not. -/
def casa (aliq : Aliquota F) (e : Σ _ : ℕ, Aliquota F) : Bool :=
  e.2.tipo == aliq.tipo && e.2.aliq == aliq.aliq

/-- The last entry that matches, its position counted from one; `none` is `IDX_NOT_FOUND`. -/
def posicaoAliq (c : Aliqs F) (aliq : Aliquota F) : Option ℕ :=
  ((emOrdem c).filter (casa aliq)).getLast?.map fun e => e.1 + 1

end Busca

/-! ## Loading -/

/-- The pieces of a text between its commas. -/
def pedacos (s : Str) : List Str := s.splitOn ','

/-- The text that a piece of a table stands for: a point behind two digits. -/
def comPonto (fmt : Str) : Str := fmt.take 2 ++ '.' :: fmt.drop 2

/-- `strncpy` of a piece into a buffer that is not cleared. -/
def sobrepoe (p buft : Str) : Str := p ++ buft.drop p.length

/-- `m_aliqs.insert(…)`: an entry that is there stays. -/
def guarda {F : Type} (c : Aliqs F) (x : ℕ) (a : Aliquota F) : Aliqs F :=
  if x ∈ c then c else c.insert x a

namespace Driver

variable {F δ : Type} (n : Numeric F) (bib : Biblioteca δ) (t : TabelaAliqs)
  (ub : Estrago F δ)

/-- An array has been left. -/
def foraDoVetor : Prog F δ (Option ℕ) := do
  let m ← get
  altera fun drv => { drv with aliqs := (ub m).2 }
  ofExcept (ub m).1

/-- A text is asked for; its buffer has `tam` bytes. -/
def leVetor (q : Pergunta) (tam : ℕ) (f : Str → Prog F δ (Option ℕ)) : Prog F δ (Option ℕ) := do
  let m ← get
  let resp := bib.pergunta q m.dev
  set { m with dev := resp.2 }
  if (Str.cstr resp.1.2).length < tam then do
    check bib.toDll resp.1.1
    f (Str.cstr resp.1.2)
  else foraDoVetor ub

/-- The first loop: every position listed is flagged as ISS. `none`: an array has been left. -/
def marcaIss : List Str → Str → Option Str
  | [], flag => some flag
  | p :: ps, flag =>
    let oneIdx := Str.trim p
    if p.length < t.total then
      if oneIdx = [] then marcaIss ps flag
      else
        let i := Str.atoi oneIdx + t.desloc
        if 0 ≤ i ∧ i < t.total then marcaIss ps (flag.set i.toNat Aliquota.tributadoIss)
        else none
    else none

/-- The second loop: the rates are kept under the positions `x`, `x + 1`, …; `buft` is what the
piece before has left in the buffer. -/
def gravaAliqs (flag : Str) (fim : Prog F δ (Option ℕ)) :
    (x : ℕ) → (buft : Str) → List Str → Prog F δ (Option ℕ)
  | _, _, [] => fim
  | x, buft, p :: ps =>
    if p.length < t.total then do
      let fmt := sobrepoe p buft
      let resto ← ofExcept (Str.substrFrom fmt 2)
      match flag[x]? with
      | none => foraDoVetor ub
      | some tipo => do
        let objAliq ← ofExcept (Aliquota.set n tipo 0 (n.atof (fmt.take 2 ++ '.' :: resto)))
        altera fun drv => { drv with aliqs := guarda drv.aliqs x objAliq }
        gravaAliqs flag fim (x + 1) fmt ps
    else foraDoVetor ub

/-- All rates are ICMS. -/
def semIss : Str := List.replicate t.total Aliquota.tributadoIcms

/-- What the first loop leaves in the buffer. -/
def ultimoPedaco (iss : Str) : Str := (pedacos iss).getLastD []

/-- The search in the table kept. -/
def buscaAliq [BEq F] (aliq : Aliquota F) : Prog F δ (Option ℕ) := do
  let m ← get
  pure (posicaoAliq m.drv.aliqs aliq)

/-- The table is loaded, and searched. -/
def carregaAliqs [BEq F] (aliq : Aliquota F) : Prog F δ (Option ℕ) :=
  leVetor bib ub .verificaIndiceAliquotasIss t.tamIss fun iss =>
    match marcaIss t (pedacos iss) (semIss t) with
    | none => foraDoVetor ub
    | some flag => leVetor bib ub t.pergunta t.tamRet fun tab =>
        gravaAliqs n t ub flag (buscaAliq aliq) 0 (ultimoPedaco iss) (pedacos tab)

/-- `get_idx_aliquota`: positions count from one, `none` is `IDX_NOT_FOUND`. -/
def getIdxAliquota [BEq F] (aliq : Aliquota F) : Prog F δ (Option ℕ) := do
  -- the log shows the rate, which may fail to be written
  let _ ← ofExcept (aliq.getSerialized n)
  let m ← get
  if m.drv.aliqs.keys = [] then carregaAliqs n bib t ub aliq else buscaAliq aliq

end Driver

/-! ## Texts that fit -/

section Textos

variable {F : Type} (n : Numeric F) (t : TabelaAliqs)

/-- What the buffer holds at each comma. -/
def conteudos : (buft : Str) → List Str → List Str
  | _, [] => []
  | buft, p :: ps => sobrepoe p buft :: conteudos (sobrepoe p buft) ps

/-- The table kept for the contents of the buffer, the first one at position `x`. -/
def tabelaLida (flag : Str) : (x : ℕ) → List Str → Aliqs F → Aliqs F
  | _, [], c => c
  | x, fmt :: fmts, c =>
    tabelaLida flag (x + 1) fmts
      (guarda c x ⟨flag.getD x Aliquota.tributadoIcms, 0, n.atof (comPonto fmt)⟩)

/-- The flags that the positions listed stand for. -/
def flagsDe (iss : Str) : Str := (Driver.marcaIss t (pedacos iss) (Driver.semIss t)).getD []

/-- The table that two texts describe. -/
def tabelaDe (iss tab : Str) : Aliqs F :=
  tabelaLida n (flagsDe t iss) 0 (conteudos (Driver.ultimoPedaco iss) (pedacos tab)) ∅

/-- A piece of the list of positions names an entry of `flag`, or nothing. -/
def NoVetor (p : Str) : Prop :=
  p.length < t.total ∧ (Str.trim p ≠ [] → 0 ≤ Str.atoi (Str.trim p) + t.desloc ∧
    Str.atoi (Str.trim p) + t.desloc < t.total)

instance (p : Str) : Decidable (NoVetor t p) := inferInstanceAs (Decidable (_ ∧ (_ → _ ∧ _)))

/-- The positions and the rates fit into the arrays of the class, and the rates can be read. -/
structure TabelaAliqs.Cabem (iss tab : Str) : Prop where
  tamIss : iss.length < t.tamIss
  posicoes : ∀ p ∈ pedacos iss, NoVetor t p
  tamRet : tab.length < t.tamRet
  entradas : (pedacos tab).length ≤ t.total
  taxas : ∀ p ∈ pedacos tab, p.length < t.total
  valores : ∀ fmt ∈ conteudos (Driver.ultimoPedaco iss) (pedacos tab),
    2 ≤ fmt.length ∧ n.pcentOutOfRange (n.atof (comPonto fmt)) = false

end Textos

/-! ## The loops over texts that fit -/

/-- The entries of `flag`. -/
def Tributado (c : Char) : Prop := c = Aliquota.tributadoIss ∨ c = Aliquota.tributadoIcms

section Lacos

variable {F δ : Type} {n : Numeric F} {t : TabelaAliqs}

/-- The first loop stays within `flag` when every piece does. -/
theorem marcaIss_eq_some {ps : List Str} {flag : Str} (hps : ∀ p ∈ ps, NoVetor t p)
    (hlen : flag.length = t.total) (hflag : ∀ c ∈ flag, Tributado c) :
    ∃ f, Driver.marcaIss t ps flag = some f ∧ f.length = t.total ∧ ∀ c ∈ f, Tributado c := by
  induction ps generalizing flag with
  | nil => exact ⟨flag, rfl, hlen, hflag⟩
  | cons p ps ih =>
    rw [List.forall_mem_cons] at hps
    obtain ⟨⟨hp, hpos⟩, hps⟩ := hps
    rw [Driver.marcaIss, if_pos hp]
    by_cases hvazio : Str.trim p = []
    · rw [if_pos hvazio]
      exact ih hps hlen hflag
    · rw [if_neg hvazio, if_pos (hpos hvazio)]
      refine ih hps ((List.length_set ..).trans hlen) fun c hc => ?_
      obtain hc | rfl := List.mem_or_eq_of_mem_set hc
      · exact hflag c hc
      · exact .inl rfl

theorem marcaIss_flagsDe {iss tab : Str} (h : t.Cabem n iss tab) :
    Driver.marcaIss t (pedacos iss) (Driver.semIss t) = some (flagsDe t iss) ∧
      (flagsDe t iss).length = t.total ∧ ∀ c ∈ flagsDe t iss, Tributado c := by
  have hsem : ∀ c ∈ Driver.semIss t, Tributado c := fun c hc => .inr (List.eq_of_mem_replicate hc)
  have hlen : (Driver.semIss t).length = t.total := List.length_replicate
  obtain ⟨f, hf, hlen, hmem⟩ := marcaIss_eq_some h.posicoes hlen hsem
  have heq : flagsDe t iss = f := by rw [flagsDe, hf, Option.getD_some]
  rw [heq]
  exact ⟨hf, hlen, hmem⟩

theorem length_conteudos (buft : Str) (ps : List Str) : (conteudos buft ps).length = ps.length := by
  induction ps generalizing buft with
  | nil => rfl
  | cons p ps ih => rw [conteudos, List.length_cons, ih, List.length_cons]

theorem mem_guarda {c : Aliqs F} {x i : ℕ} {a : Aliquota F} :
    i ∈ guarda c x a ↔ i ∈ c ∨ i = x := by
  unfold guarda
  split
  · rename_i hx
    exact ⟨.inl, fun h => h.elim id fun h => h ▸ hx⟩
  · rw [AList.mem_insert, or_comm]

/-- The positions kept. -/
theorem mem_tabelaLida {flag : Str} {x i : ℕ} {fmts : List Str} {c : Aliqs F} :
    i ∈ tabelaLida n flag x fmts c ↔ i ∈ c ∨ x ≤ i ∧ i < x + fmts.length := by
  induction fmts generalizing x c with
  | nil =>
    have hno : ¬ (x ≤ i ∧ i < x + 0) := by omega
    rw [tabelaLida, List.length_nil, or_iff_left hno]
  | cons fmt fmts ih =>
    rw [tabelaLida, ih, mem_guarda, List.length_cons, or_assoc]
    refine or_congr Iff.rfl ?_
    omega

theorem set_tributado {tipo : Char} (ht : Tributado tipo) {pcent : F}
    (hp : n.pcentOutOfRange pcent = false) (cst : ℕ) :
    Aliquota.set n tipo cst pcent = .ok ⟨tipo, cst, pcent⟩ := by
  obtain rfl | rfl := ht <;> simp [Aliquota.set, hp]

/-- **The second loop keeps the table of the texts.** -/
theorem exec_gravaAliqs {ub : Estrago F δ} {flag : Str} (hflag : ∀ c ∈ flag, Tributado c)
    (fim : Prog F δ (Option ℕ)) {x : ℕ} {buft : Str} {ps : List Str}
    (hlen : x + ps.length ≤ flag.length) (hps : ∀ p ∈ ps, p.length < t.total)
    (hfmt : ∀ fmt ∈ conteudos buft ps,
      2 ≤ fmt.length ∧ n.pcentOutOfRange (n.atof (comPonto fmt)) = false) (m : Maquina F δ) :
    exec (Driver.gravaAliqs n t ub flag fim x buft ps) m =
      exec fim { m with
        drv := { m.drv with aliqs := tabelaLida n flag x (conteudos buft ps) m.drv.aliqs } } := by
  induction ps generalizing x buft m with
  | nil => rfl
  | cons p ps ih =>
    rw [List.forall_mem_cons] at hps
    rw [conteudos, List.forall_mem_cons] at hfmt
    rw [List.length_cons] at hlen
    obtain ⟨⟨hdois, hvalor⟩, hfmt⟩ := hfmt
    have hx : x < flag.length := by omega
    have hset := set_tributado (n := n) (hflag _ (List.getElem_mem hx)) hvalor 0
    rw [comPonto] at hset
    simp only [Driver.gravaAliqs, if_pos hps.1, exec_bind, exec_ofExcept, Str.substrFrom_ok hdois,
      List.getElem?_eq_getElem hx, hset, Driver.exec_altera]
    rw [ih (by omega) hps.2 hfmt, conteudos, tabelaLida, comPonto, List.getD_eq_getElem?_getD,
      List.getElem?_eq_getElem hx, Option.getD_some]

end Lacos

/-! ## The answer -/

/-- The device answers with these texts. -/
structure Biblioteca.Responde {δ : Type} (bib : Biblioteca δ) (t : TabelaAliqs) (iss tab : Str) :
    Prop where
  iss : ∀ d, Str.cstr (bib.pergunta .verificaIndiceAliquotasIss d).1.2 = iss
  tab : ∀ d, Str.cstr (bib.pergunta t.pergunta d).1.2 = tab

section Resposta

open Driver

variable {F δ : Type} {n : Numeric F} {bib : Biblioteca δ} {t : TabelaAliqs}
  {ub : Estrago F δ} {I : Maquina F δ → Prop} {E : Excp → Prop}

/-- A text that fits into its buffer is passed on once `check` has returned. -/
theorem wp_leVetor (h : EstavelLeitura bib I E) {q : Pergunta} {tam : ℕ} {s : Str}
    (hs : ∀ d, Str.cstr (bib.pergunta q d).1.2 = s) (hlen : s.length < tam)
    {f : Str → Prog F δ (Option ℕ)} {Q : Option ℕ → Maquina F δ → Prop}
    {R : Excp → Maquina F δ → Prop} (hR : ∀ e m, E e → I m → R e m)
    (hf : ∀ m, I m → Wp (f s) Q R m) {m : Maquina F δ} (hm : I m) :
    Wp (leVetor bib ub q tam f) Q R m := by
  have hdev : I { m with dev := (bib.pergunta q m.dev).2 } := h.le m _ (.pergunta q) hm
  rw [leVetor, wp_bind, wp_get, wp_bind, wp_set]
  simp only [hs, if_pos hlen, wp_bind]
  exact (h.check _ _ hdev).mono (fun _ m hm => hf m hm) fun e m he => hR e m he.1 he.2

/-- A load of texts that fit keeps their table and answers from it. -/
theorem wp_carregaAliqs [BEq F] (h : EstavelLeitura bib I E) {iss tab : Str}
    (hfit : t.Cabem n iss tab) (hbib : bib.Responde t iss tab)
    (hgrava : ∀ m c, I m → I { m with drv := { m.drv with aliqs := c } }) (aliq : Aliquota F)
    {m : Maquina F δ} (hm : I m) (hnada : m.drv.aliqs = ∅) :
    Wp (carregaAliqs n bib t ub aliq)
      (fun r m => (I m ∧ m.drv.aliqs = tabelaDe n t iss tab) ∧
        r = posicaoAliq (tabelaDe n t iss tab) aliq)
      (fun e m => E e ∧ I m ∧ m.drv.aliqs = ∅) m := by
  obtain ⟨hflags, hlen, htrib⟩ := marcaIss_flagsDe hfit
  have hI := h.and (Estavel.de_aliqs bib (· = ∅)).toEstavelLeitura
  have hR : ∀ e (m : Maquina F δ), E e → (I m ∧ m.drv.aliqs = ∅) → E e ∧ I m ∧ m.drv.aliqs = ∅ :=
    fun e m he hm => ⟨he, hm⟩
  refine wp_leVetor hI hbib.iss hfit.tamIss hR (fun m hm => ?_) ⟨hm, hnada⟩
  simp only [hflags]
  refine wp_leVetor hI hbib.tab hfit.tamRet hR (fun m hm => ?_) hm
  have hentradas : 0 + (pedacos tab).length ≤ (flagsDe t iss).length := by
    rw [hlen, Nat.zero_add]
    exact hfit.entradas
  rw [Wp, exec_gravaAliqs htrib _ hentradas hfit.taxas hfit.valores, hm.2]
  exact ⟨⟨hgrava m _ hm.1, rfl⟩, rfl⟩

/-- **From nothing or the table of two texts that fit, the answer is the position in that
table**, and the table is kept. -/
theorem wp_getIdxAliquota [BEq F] (h : EstavelLeitura bib I E) {iss tab : Str}
    (hfit : t.Cabem n iss tab) (hbib : bib.Responde t iss tab) {aliq : Aliquota F}
    (hlog : ∀ e, aliq.getSerialized n = .error e → E e)
    (hgrava : ∀ m c, I m → I { m with drv := { m.drv with aliqs := c } }) {m : Maquina F δ}
    (hm : I m) (hc : m.drv.aliqs = ∅ ∨ m.drv.aliqs = tabelaDe n t iss tab) :
    Wp (getIdxAliquota n bib t ub aliq)
      (fun r m => (I m ∧ m.drv.aliqs = tabelaDe n t iss tab) ∧
        r = posicaoAliq (tabelaDe n t iss tab) aliq)
      (fun e m => E e ∧ I m ∧ (m.drv.aliqs = ∅ ∨ m.drv.aliqs = tabelaDe n t iss tab)) m := by
  rw [getIdxAliquota, wp_bind, wp_ofExcept]
  refine ⟨fun _ _ => ?_, fun e he => ⟨hlog e he, hm, hc⟩⟩
  rw [wp_bind, wp_get, wp_ite]
  refine ⟨fun hvazia => ?_, fun hcheia => ?_⟩
  · have hnada : m.drv.aliqs = ∅ := AList.ext (List.map_eq_nil_iff.1 hvazia)
    exact (wp_carregaAliqs h hfit hbib hgrava aliq hm hnada).mono (fun _ _ hr => hr)
      fun e m he => ⟨he.1, he.2.1, .inl he.2.2⟩
  · have htabela : m.drv.aliqs = tabelaDe n t iss tab := by
      refine hc.resolve_left fun hnada => hcheia ?_
      rw [hnada]
      rfl
    rw [← htabela]
    exact ⟨⟨hm, rfl⟩, rfl⟩

end Resposta

end Spooler
