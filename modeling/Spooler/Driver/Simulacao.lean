import Spooler.Driver.Permanencia
import Spooler.Foundations.Runs

/-!
# Simulation mode

In fake mode (`SPOOLER_FAKE`) the device should only be read. The test for the mode stands in each
operation, by `manda` and `envia`; the constructor, `abre_gaveta`, `set_arredondamento` and the
readings of the fiscal memory and of the totals that are printed make their calls without it.

An `Evento` is the construction of the object or an operation on it. **In a run of a simulating
driver, of either class, the calls issued up to any point only read exactly when no step of the run
is one of those**, `so_le_iff`. `gaveta_em_simulacao` is a run of one step that opens the drawer.
-/

namespace Spooler

open Foundations Driver

/-! ## The list of calls -/

/-- The operations over a library that keeps a list of the calls issued. -/
def espiado {F δ : Type} (n : Numeric F) (bib : Biblioteca δ) (suporteMfd : Classe → Bool)
    (ub : Estrago F (δ × List Chamada)) : Ambiente F (δ × List Chamada) :=
  ⟨n, bib.espia, suporteMfd, ub⟩

namespace Driver

variable {F δ : Type} (bib : Biblioteca δ)

/-- A call made without asking for the mode is in the list. -/
theorem atos_aciona (a : Acao) (m : Maquina F (δ × List Chamada)) :
    (exec (aciona bib.espia.toDll (bib.espia.acao a)) m).2.atos = m.atos ++ [.acao a] := by
  have hcheck := atos_check (F := F) bib.toDll
  simp only [aciona, exec_bind, exec_get, exec_set]
  refine (hcheck _ _).trans ?_
  simp [Maquina.atos, Maquina.chamadas, Biblioteca.espia, Chamada.soLe]

/-- What reading adds to the list are readings. -/
theorem atos_le {m : Maquina F (δ × List Chamada)} {d : δ × List Chamada}
    (h : bib.espia.Le m.dev d) : { m with dev := d }.atos = m.atos := by
  cases h <;> simp [Maquina.atos, Maquina.chamadas, Biblioteca.espia, Dll.espia, Chamada.soLe]

end Driver

namespace Estavel

variable {F σ δ : Type}

/-- The mode survives. -/
theorem de_fake (bib : Biblioteca σ) (b : Bool) :
    Estavel bib (fun m : Maquina F σ => m.drv.fake = b) fun _ => True where
  check retcode := contained_of_state fun m hm => by
    obtain ⟨r, x, hx, -⟩ := exec_check bib.toDll retcode m
    rw [hx]
    exact hm
  avalia retcode := contained_of_state fun m hm => by
    obtain ⟨r, x, hx, -⟩ := exec_avaliaRetcode retcode m
    rw [hx]
    exact hm
  sts _ _ hm := hm
  le _ _ _ hm := hm
  acao _ _ _ hm := hm
  comando _ _ _ hm := hm
  registra _ _ hm := hm
  membros _ _ hd hm := hd.fake.trans hm

/-- What holds of the acting calls issued survives where it survives the calls that the driver may
make in its mode. -/
theorem de_atos (bib : Biblioteca δ) {P : Bool → List Chamada → Prop}
    (hP : ∀ l c, P false l → P false (l ++ [c])) :
    Estavel bib.espia (fun m : Maquina F (δ × List Chamada) => P m.drv.fake m.atos)
      fun _ => True where
  check retcode := contained_of_state fun m hm => by
    have hatos := atos_check (F := F) bib.toDll retcode m
    have hfake := ((de_fake bib.espia m.drv.fake).check retcode).keeps (s := m) rfl
    rw [hfake]
    exact hatos.symm ▸ hm
  avalia retcode := contained_of_state fun m hm => by
    obtain ⟨r, x, hx, -⟩ := exec_avaliaRetcode retcode m
    rw [hx]
    exact hm
  sts _ _ hm := hm
  le m d hd hm := (atos_le bib hd).symm ▸ hm
  acao m a hf hm := by
    have hatos : { m with dev := (bib.espia.acao a m.dev).2 }.atos = m.atos ++ [.acao a] := by
      simp [Maquina.atos, Maquina.chamadas, Biblioteca.espia, Chamada.soLe]
    show P m.drv.fake _
    rw [hatos, hf]
    exact hP _ _ (hf ▸ hm)
  comando m c hf hm := by
    have hatos : { m with dev := (bib.espia.comando c m.dev).2 }.atos = m.atos ++ [.comando c] := by
      simp [Maquina.atos, Maquina.chamadas, Biblioteca.espia, Dll.espia, Chamada.soLe]
    show P m.drv.fake _
    rw [hatos, hf]
    exact hP _ _ (hf ▸ hm)
  registra _ _ hm := hm
  membros m drv hd hm := by
    show P drv.fake _
    rw [hd.fake]
    exact hm

end Estavel

/-! ## One step -/

section Passo

variable {F δ : Type} (n : Numeric F) (bib : Biblioteca δ) (suporteMfd : Classe → Bool)
  (ub : Estrago F (δ × List Chamada)) (c : Classe)

/-- A step that makes no unconditional call issues none that acts. -/
theorem mantem_simulacao [BEq F] {e : Evento F} (he : e.atua = false) :
    Mantem (fun a : Aparelho F (δ × List Chamada) =>
      a.toMaquina.drv.fake = true ∧ a.toMaquina.atos = [])
      (e.prog (espiado n bib suporteMfd ub) c) := by
  have h : Estavel (espiado n bib suporteMfd ub).bib
      (fun m : Maquina F (δ × List Chamada) => m.drv.fake = true ∧ m.atos = []) fun _ => True :=
    Estavel.de_atos bib (P := fun b l => b = true ∧ l = []) fun l c hP => by cases hP.1
  refine mantem_evento h c e (fun _ _ _ hm => hm) fun he' => ?_
  cases he.symm.trans he'

end Passo

/-! ## Calls made without asking -/

/-- However a run of the code ends, a call that acts is in the list. -/
def Atua {F δ α : Type} (x : Prog F (δ × List Chamada) α) : Prop :=
  ∀ m, Wp x (fun _ t => t.atos ≠ []) (fun _ t => t.atos ≠ []) m

section Atua

variable {F δ α β : Type} (bib : Biblioteca δ)

theorem atua_aciona (a : Acao) :
    Atua (aciona bib.espia.toDll (bib.espia.acao a) : Prog F (δ × List Chamada) Unit) := by
  intro m
  have hatos : (exec (aciona bib.espia.toDll (bib.espia.acao a)) m).2.atos ≠ [] := by
    rw [atos_aciona]
    exact List.append_ne_nil_of_right_ne_nil _ (List.cons_ne_nil _ _)
  exact wp_state.2 hatos

theorem atua_bind {x : Prog F (δ × List Chamada) α} {f : α → Prog F (δ × List Chamada) β}
    (hx : Atua x) (hf : ∀ u, Mantem (fun m => m.atos ≠ []) (f u)) : Atua (x >>= f) := by
  intro m
  rw [wp_bind]
  refine (hx m).mono (fun u t ht => ?_) fun _ _ ht => ht
  exact (hf u t ht).mono (fun _ _ ht => ht) fun _ _ ht => ht.2

theorem atua_tryCatch {x : Prog F (δ × List Chamada) α} {h : Excp → Prog F (δ × List Chamada) α}
    (hx : Atua x) (hh : ∀ e, Mantem (fun m => m.atos ≠ []) (h e)) : Atua (tryCatch x h) := by
  intro m
  rw [wp_tryCatch]
  refine (hx m).mono (fun _ _ ht => ht) fun e t ht => ?_
  exact (hh e t ht).mono (fun _ _ ht => ht) fun _ _ ht => ht.2

/-- A reading that is printed. -/
theorem atua_emite {saida : ℤ} (hs : saida ≠ saidaSerial) (arquivo : Extrato) (impresso : Acao)
    (base : String) :
    Atua (emite bib.espia saida arquivo impresso base : Prog F (δ × List Chamada) Str) := by
  rw [emite, if_neg hs]
  exact atua_bind (atua_aciona bib impresso) fun _ => contained_pure _

/-- A reading of the fiscal memory that is printed. -/
theorem atua_memoriaFiscal {tipo : ℤ} {inicio fim : Str} {saida : ℤ} (hs : saida ≠ saidaSerial)
    (hle : Operacao.leMemoria tipo inicio fim = true) (completa : Bool) :
    Atua (memoriaFiscal bib.espia tipo inicio fim completa saida :
      Prog F (δ × List Chamada) Str) := by
  simp only [Operacao.leMemoria, Bool.or_eq_true, Bool.and_eq_true, decide_eq_true_eq] at hle
  unfold memoriaFiscal
  dsimp only
  obtain ⟨⟨rfl, hini⟩, hfim⟩ | rfl := hle
  · obtain ⟨dtIni, hini⟩ := Ecf.formatDate_of_length hini
    obtain ⟨dtFim, hfim⟩ := Ecf.formatDate_of_length hfim
    rw [if_pos rfl, hini, hfim]
    exact atua_emite bib hs _ _ _
  · rw [if_neg (by decide), if_pos rfl]
    exact atua_emite bib hs _ _ _

/-- The constructor. -/
theorem atua_inicializa (cfg : Configuracao) :
    Atua (inicializa bib.espia cfg : Prog F (δ × List Chamada) Unit) := by
  have hac (a : Acao) : Mantem (fun m : Maquina F (δ × List Chamada) => m.atos ≠ [])
      (aciona bib.espia.toDll (bib.espia.acao a)) :=
    fun m _ => ((atua_aciona bib a) m).mono (fun _ _ ht => ht) fun _ _ ht => ⟨trivial, ht⟩
  refine atua_tryCatch (atua_bind (atua_aciona bib _) fun _ => ?_) fun _ => contained_pure _
  refine contained_bind ?_ fun _ => contained_bind (Estavel.mantem_valueByKey _) fun _ => hac _
  refine contained_bind (contained_modify fun _ hm => hm) fun _ => ?_
  split
  · exact contained_pure _
  · exact contained_throw trivial

end Atua

/-! ## Runs of a simulating driver -/

section Simulacao

variable {F δ : Type} [BEq F] (n : Numeric F) (bib : Biblioteca δ) (suporteMfd : Classe → Bool)
  (ub : Estrago F (δ × List Chamada)) (c : Classe)

omit [BEq F] in
/-- An operation of the driver in the object. -/
theorem atos_so {α : Type} {x : Prog F (δ × List Chamada) α} (hx : Atua x)
    (a : Aparelho F (δ × List Chamada)) : (exec (Operacao.so x) a).2.toMaquina.atos ≠ [] := by
  have hso : Atua (x >>= fun _ => pure ()) := atua_bind hx fun _ => contained_pure _
  exact wp_state.1 (hso a.toMaquina)

/-- A step that makes an unconditional call issues one that acts. -/
theorem atos_of_atua {e : Evento F} (he : e.atua = true) (a : Aparelho F (δ × List Chamada)) :
    (e.passo (espiado n bib suporteMfd ub) c a).toMaquina.atos ≠ [] := by
  cases e with
  | constroi cfg =>
    have hini := atua_inicializa (F := F) bib cfg
    cases c with
    | base => exact wp_state.1 (hini a.toMaquina)
    | cv0909 =>
      have hfim : Atua (inicializa bib.espia cfg >>= fun _ =>
          altera fun drv : Driver F => { drv with dontPay := false }) :=
        atua_bind hini fun _ => contained_modify fun _ hm => hm
      exact wp_state.1 (hfim a.toMaquina)
  | op o =>
    cases o with
    | abreGaveta => exact atos_so (atua_aciona bib _) a
    | setArredondamento => exact atos_so (atua_aciona bib _) a
    | leituraX saida =>
      have hs : saida ≠ saidaSerial := by simpa [Evento.atua, Operacao.atua] using he
      exact atos_so (atua_emite bib hs _ _ _) a
    | memoriaFiscal tipo inicio fim completa saida =>
      have hs : saida ≠ saidaSerial ∧ Operacao.leMemoria tipo inicio fim = true := by
        simpa [Evento.atua, Operacao.atua] using he
      exact atos_so (atua_memoriaFiscal bib hs.1 hs.2 _) a
    | _ => cases he

/-- The mode is the one of the start. -/
theorem fake_passo (a : Aparelho F (δ × List Chamada)) (e : Evento F)
    (ha : a.toMaquina.drv.fake = true) :
    (e.passo (espiado n bib suporteMfd ub) c a).toMaquina.drv.fake = true := by
  have h : Estavel (espiado n bib suporteMfd ub).bib
      (fun m : Maquina F (δ × List Chamada) => m.drv.fake = true) fun _ => True :=
    Estavel.de_fake _ true
  exact (mantem_evento h c e (fun _ _ _ hm => hm) fun _ _ _ hm => hm).keeps ha

omit [BEq F] in
/-- All calls only read when none of them acts. -/
theorem atos_eq_nil_iff {m : Maquina F (δ × List Chamada)} :
    m.atos = [] ↔ ∀ q ∈ m.chamadas, q.soLe = true := by
  simp [Maquina.atos, List.filter_eq_nil_iff]

/-- **In a run with the mode on, only readings are issued exactly when no step is the construction
of the object or one of the operations that act in either mode.** -/
theorem so_le_iff (dev : δ) (l : List (Evento F)) :
    (∀ a ∈ visited (Evento.passo (espiado n bib suporteMfd ub) c)
        (Aparelho.novo true (dev, [])) l, ∀ q ∈ a.toMaquina.chamadas, q.soLe = true) ↔
      ∀ e ∈ l, e.atua = false := by
  simp only [← atos_eq_nil_iff]
  rw [← allSteps_const (Evento.passo (espiado n bib suporteMfd ub) c)
    (fun e => e.atua = false) (Aparelho.novo true (dev, [])) l]
  have hfake : (Aparelho.novo (F := F) true (dev, ([] : List Chamada))).drv.fake = true := rfl
  have hatos : (Aparelho.novo (F := F) true (dev, ([] : List Chamada))).atos = [] := rfl
  refine forall_visited_iff_of_invariant (J := fun a => a.drv.fake = true)
    (I := fun a => a.atos = []) (fun a e ha => fake_passo n bib suporteMfd ub c a e ha)
    (fun a e ha hatos => ?_) hfake hatos l
  constructor
  · intro hnada
    by_contra he
    exact atos_of_atua n bib suporteMfd ub c (by simpa using he) a hnada
  · intro he
    exact ((mantem_simulacao n bib suporteMfd ub c he).keeps ⟨ha, hatos⟩).2

end Simulacao

/-- The drawer of a simulating driver is opened. -/
theorem gaveta_em_simulacao :
    ¬ ∀ a ∈ visited
        (Evento.passo (espiado Numeric.inteiros (sempreOk fun _ => []) (fun _ => false)
          fun m => (.ok none, m.drv.aliqs)) .cv0909)
        (Aparelho.novo true ((), [])) [.op .abreGaveta],
      ∀ q ∈ a.toMaquina.chamadas, q.soLe = true := by
  intro h
  have hgaveta := h _ (run_mem_visited _ _ _) (.acao .acionaGaveta) (by decide)
  cases hgaveta

end Spooler
