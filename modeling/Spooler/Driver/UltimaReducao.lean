import Spooler.Driver.Maquina
import Spooler.Foundations.Runs

/-!
# Date and time of the last Z reduction

`get_data_ult_red` and `get_hora_ult_red` answer from two cached strings, `m_dt_ult_red` and
`m_hr_ult_red`, which `reducao_z` empties when the device reports success. The device may also
carry the reduction out and report an error; `reducao_z` swallows that error, and with it the
emptying.

The two strings always hold the date and the time of one reduction or nothing (`Guarda`), and a
query gives the date and time of the last reduction of the device exactly when they hold that one
or nothing (`coerente_iff`). Hence **the answers are right in every state of a run exactly when no
reduction is lost**, `coerente_iff_semPerda`: none is carried out under an error report while a
date and time are cached. `perdida_fica_em_cache` is a run that loses one.
-/

namespace Spooler

open Foundations

/-! ## The operations -/

namespace Driver

variable {F δ : Type}

/-- `get_data_hora_ult_red(data, hora)`: what the two buffers hold afterwards. -/
def leDataHoraUltRed (dll : Dll δ) : Prog F δ (Str × Str) := do
  let m ← get
  if m.drv.hrUltRed = [] ∨ m.drv.dtUltRed = [] then
    let resp := dll.dataHoraReducao m.dev
    set { m with dev := resp.2 }
    check dll resp.1.1
    pure resp.1.2
  else pure ([], [])

/-- `20aammdd` of a date `ddmmaa`. -/
def formataData (data : Str) : Str :=
  ['2', '0'] ++ (data.drop 4).take 2 ++ (data.drop 2).take 2 ++ data.take 2

/-- The two strings are filled from the buffers where they are empty. -/
def guardaDataHora (data hora : Str) (drv : Driver F) : Driver F :=
  { drv with
    hrUltRed := if drv.hrUltRed = [] ∧ Str.trim hora ≠ [] then Str.trim hora else drv.hrUltRed
    dtUltRed := if drv.dtUltRed = [] ∧ Str.trim data ≠ [] then formataData data else drv.dtUltRed }

/-- `get_data_hora_ult_red()`. -/
def getDataHoraUltRed (dll : Dll δ) : Prog F δ Unit := do
  let buffers ← leDataHoraUltRed dll
  altera (guardaDataHora buffers.1 buffers.2)

/-- `get_data_ult_red`. -/
def getDataUltRed (dll : Dll δ) : Prog F δ Str := do
  getDataHoraUltRed dll
  let m ← get
  pure m.drv.dtUltRed

/-- `get_hora_ult_red`. -/
def getHoraUltRed (dll : Dll δ) : Prog F δ Str := do
  getDataHoraUltRed dll
  let m ← get
  pure m.drv.hrUltRed

/-- The body of `reducao_z`. -/
def emiteReducaoZ (dll : Dll δ) : Prog F δ Unit := do
  let m ← get
  if m.drv.fake then set (m.registra (.reducaoZ [] []))
  else
    executa dll (.reducaoZ [] [])
    altera fun drv => { drv with dtUltRed := [], hrUltRed := [] }

/-- `reducao_z`: every exception is dropped. -/
def reducaoZ (dll : Dll δ) : Prog F δ Unit := tryCatch (emiteReducaoZ dll) fun _ => pure ()

end Driver

/-! ## A device that remembers its last reduction -/

/-- The stamp of a Z reduction: `ddmmaa` and `hhmmss`. -/
@[ext] structure Reducao where
  data : Str
  hora : Str
  data_length : data.length = 6
  hora_length : hora.length = 6
  data_digits : ∀ c ∈ data, c.isDigit = true
  hora_digits : ∀ c ∈ hora, c.isDigit = true

/-- A library over a device with a last reduction, which `Bematech_FI_DataHoraReducao` reads and
asking for the status does not touch. A command may carry a reduction out whatever it reports. -/
structure Impressora (δ : Type) extends Dll δ where
  ultima : δ → Reducao
  dataHora_ok : ∀ d, (dataHoraReducao d).1.1 = bematechOk →
    (dataHoraReducao d).1.2 = ((ultima d).data, (ultima d).hora)
  ultima_dataHora : ∀ d, ultima (dataHoraReducao d).2 = ultima d
  ultima_retorno : ∀ d, ultima (retornoImpressoraMFD d).2 = ultima d

namespace Impressora

variable {F δ : Type} (imp : Impressora δ)

theorem ultima_aposCheck (retcode : Int) (d : δ) :
    imp.ultima (imp.aposCheck retcode d) = imp.ultima d := by
  unfold Dll.aposCheck
  split
  · exact imp.ultima_retorno d
  · rfl

/-- The operations of a run. -/
inductive Op
  | reducaoZ
  | getDataUltRed
  | getHoraUltRed
  deriving DecidableEq

/-- What an operation leaves behind. -/
def passo (m : Maquina F δ) : Op → Maquina F δ
  | .reducaoZ => (exec (Driver.reducaoZ imp.toDll) m).2
  | .getDataUltRed => (exec (Driver.getDataUltRed imp.toDll) m).2
  | .getHoraUltRed => (exec (Driver.getHoraUltRed imp.toDll) m).2

/-- A query here that answers gives the date, or the time, of the last reduction. -/
def Coerente (m : Maquina F δ) : Prop :=
  (∀ data, (exec (Driver.getDataUltRed imp.toDll) m).1 = .ok data →
    data = Driver.formataData (imp.ultima m.dev).data) ∧
  ∀ hora, (exec (Driver.getHoraUltRed imp.toDll) m).1 = .ok hora → hora = (imp.ultima m.dev).hora

/-- The state of the device once it has been told to reduce. -/
def aposReducaoZ (m : Maquina F δ) : δ := (imp.comando (.reducaoZ [] []) m.dev).2

/-- A reduction asked for here is lost: it is carried out, it is reported as an error, and a date
and time are cached. -/
def Perdida (m : Maquina F δ) : Prop :=
  m.drv.fake = false ∧ imp.ultima (imp.aposReducaoZ m) ≠ imp.ultima m.dev ∧
    (exec (Driver.executa imp.toDll (.reducaoZ [] [])) m).1 ≠ .ok () ∧
    (m.drv.dtUltRed ≠ [] ∨ m.drv.hrUltRed ≠ [])

/-- The step loses no reduction. -/
def SemPerda (m : Maquina F δ) (op : Op) : Prop := op = .reducaoZ → ¬ imp.Perdida m

end Impressora

/-! ## The two strings hold one reduction -/

theorem Reducao.trim_data (u : Reducao) : Str.trim u.data = u.data :=
  Str.trim_eq_self fun c hc => Str.isSpace_of_isDigit (u.data_digits c hc)

theorem Reducao.trim_hora (u : Reducao) : Str.trim u.hora = u.hora :=
  Str.trim_eq_self fun c hc => Str.isSpace_of_isDigit (u.hora_digits c hc)

theorem Reducao.data_ne_nil (u : Reducao) : u.data ≠ [] := by
  have h := u.data_length
  intro e
  simp [e] at h

theorem Reducao.hora_ne_nil (u : Reducao) : u.hora ≠ [] := by
  have h := u.hora_length
  intro e
  simp [e] at h

namespace Driver

theorem formataData_ne_nil (data : Str) : formataData data ≠ [] := by simp [formataData]

/-- Rearranging a date loses nothing. -/
theorem formataData_injective : ∀ {d e : Str}, d.length = 6 → e.length = 6 →
    formataData d = formataData e → d = e
  | [_, _, _, _, _, _], [_, _, _, _, _, _], _, _, h => by
    simp only [formataData, List.cons_append, List.nil_append, List.drop_succ_cons, List.drop_zero,
      List.take_succ_cons, List.take_zero, List.cons.injEq] at h
    simp [h]

end Driver

namespace Impressora

variable {F δ : Type} (imp : Impressora δ)

/-- What the two strings hold: nothing, or the date and the time of one reduction. -/
def Guarda (m : Maquina F δ) : Option Reducao → Prop
  | none => m.drv.dtUltRed = [] ∧ m.drv.hrUltRed = []
  | some u => m.drv.dtUltRed = Driver.formataData u.data ∧ m.drv.hrUltRed = u.hora

variable {imp}

theorem guarda_com {m : Maquina F δ} {u : Option Reducao} (x : Sinal) (d : δ) :
    Guarda (m.com x d) u ↔ Guarda m u := by
  cases u <;> rfl

/-- With nothing cached a query asks the device, and caches its last reduction if that works. -/
theorem exec_getDataHoraUltRed_none (imp : Impressora δ) {m : Maquina F δ} (h : Guarda m none) :
    ∃ r t, exec (Driver.getDataHoraUltRed imp.toDll) m = (r, t) ∧
      imp.ultima t.dev = imp.ultima m.dev ∧
      (Recusada r ∧ Guarda t none ∨ r = .ok () ∧ Guarda t (some (imp.ultima m.dev))) := by
  obtain ⟨hdt, hhr⟩ := h
  have hdev : imp.ultima (imp.aposCheck (imp.dataHoraReducao m.dev).1.1
      (imp.dataHoraReducao m.dev).2) = imp.ultima m.dev := by
    rw [ultima_aposCheck, imp.ultima_dataHora]
  obtain ⟨r, x, hx, hr⟩ := Driver.exec_check imp.toDll (imp.dataHoraReducao m.dev).1.1
    { m with dev := (imp.dataHoraReducao m.dev).2 }
  simp only [Driver.getDataHoraUltRed, Driver.leDataHoraUltRed, exec_bind, exec_get, hdt, or_true,
    if_true, exec_set, hx]
  obtain rfl | ⟨msg, rfl⟩ := hr
  · have hok : (imp.dataHoraReducao m.dev).1.1 = bematechOk :=
      Driver.eq_ok_of_check (congrArg Prod.fst hx)
    refine ⟨_, _, rfl, hdev, .inr ⟨rfl, ?_, ?_⟩⟩
    · simp [Driver.guardaDataHora, hdt, imp.dataHora_ok _ hok, Reducao.trim_data,
        Reducao.data_ne_nil]
    · simp [Driver.guardaDataHora, hhr, imp.dataHora_ok _ hok, Reducao.trim_hora,
        Reducao.hora_ne_nil]
  · exact ⟨_, _, rfl, hdev, .inl ⟨⟨msg, rfl⟩, hdt, hhr⟩⟩

/-- With a reduction cached a query changes nothing. -/
theorem exec_getDataHoraUltRed_some {m : Maquina F δ} {u : Reducao} (h : Guarda m (some u)) :
    exec (Driver.getDataHoraUltRed imp.toDll) m = (.ok (), m) := by
  obtain ⟨hdt, hhr⟩ := h
  have hd : m.drv.dtUltRed ≠ [] := by
    rw [hdt]
    exact Driver.formataData_ne_nil _
  have hh : m.drv.hrUltRed ≠ [] := by
    rw [hhr]
    exact u.hora_ne_nil
  simp [Driver.getDataHoraUltRed, Driver.leDataHoraUltRed, Driver.guardaDataHora, exec_bind, hd, hh]

/-- **A query is right exactly when nothing or the last reduction is cached.** -/
theorem coerente_iff {m : Maquina F δ} {u : Option Reducao} (h : Guarda m u) :
    imp.Coerente m ↔ u = none ∨ u = some (imp.ultima m.dev) := by
  unfold Coerente Driver.getDataUltRed Driver.getHoraUltRed
  cases u with
  | none =>
    obtain ⟨r, t, hx, -, ⟨⟨msg, rfl⟩, -⟩ | ⟨rfl, hdt, hhr⟩⟩ :=
      exec_getDataHoraUltRed_none imp h
    · simp [exec_bind, hx]
    · simp [exec_bind, hx, hdt, hhr, Except.map]
  | some u =>
    obtain ⟨hdt, hhr⟩ := id h
    simp only [exec_bind, exec_getDataHoraUltRed_some h, exec_get, exec_pure, hdt, hhr,
      Except.ok.injEq, forall_eq', reduceCtorEq, Option.some.injEq, false_or]
    constructor
    · rintro ⟨hd, hh⟩
      exact Reducao.ext
        (Driver.formataData_injective u.data_length (imp.ultima m.dev).data_length hd) hh
    · rintro rfl
      exact ⟨rfl, rfl⟩

/-! ## What each operation does to the cache -/

/-- A query leaves the last reduction alone, and caches nothing but it. -/
theorem passo_query (imp : Impressora δ) {m : Maquina F δ} {u : Option Reducao} (h : Guarda m u)
    {op : Op} (hop : op ≠ .reducaoZ) : imp.ultima (imp.passo m op).dev = imp.ultima m.dev ∧
      (Guarda (imp.passo m op) u ∨ Guarda (imp.passo m op) (some (imp.ultima m.dev))) := by
  have hpasso : imp.passo m op = (exec (Driver.getDataHoraUltRed imp.toDll) m).2 := by
    cases op with
    | reducaoZ => exact absurd rfl hop
    | getDataUltRed =>
      rcases hx : exec (Driver.getDataHoraUltRed imp.toDll) m with ⟨_ | _, t⟩ <;>
        simp [passo, Driver.getDataUltRed, exec_bind, hx]
    | getHoraUltRed =>
      rcases hx : exec (Driver.getDataHoraUltRed imp.toDll) m with ⟨_ | _, t⟩ <;>
        simp [passo, Driver.getHoraUltRed, exec_bind, hx]
  rw [hpasso]
  cases u with
  | none =>
    obtain ⟨r, t, hx, hu, ⟨-, hg⟩ | ⟨-, hg⟩⟩ := exec_getDataHoraUltRed_none imp h
    · rw [hx]
      exact ⟨hu, .inl hg⟩
    · rw [hx]
      exact ⟨hu, .inr hg⟩
  | some u =>
    rw [exec_getDataHoraUltRed_some h]
    exact ⟨rfl, .inl h⟩

/-- In fake mode `reducao_z` changes neither the cache nor the device. -/
theorem passo_reducaoZ_fake (imp : Impressora δ) {m : Maquina F δ} (hf : m.drv.fake = true) :
    (imp.passo m .reducaoZ).drv = m.drv ∧ (imp.passo m .reducaoZ).dev = m.dev := by
  simp [passo, Driver.reducaoZ, Driver.emiteReducaoZ, exec_tryCatch, exec_bind, hf]

/-- Otherwise the device is told to reduce, and the cache is emptied if that is reported to have
worked. -/
theorem passo_reducaoZ (imp : Impressora δ) {m : Maquina F δ} {u : Option Reducao} (h : Guarda m u)
    (hf : m.drv.fake = false) :
    imp.ultima (imp.passo m .reducaoZ).dev = imp.ultima (imp.aposReducaoZ m) ∧
      Guarda (imp.passo m .reducaoZ)
        (if (exec (Driver.executa imp.toDll (.reducaoZ [] [])) m).1 = .ok () then none else u) := by
  obtain ⟨r, x, hx, hr⟩ := Driver.exec_executa imp.toDll (.reducaoZ [] []) m
  have hdev : imp.ultima (imp.aposCheck (imp.comando (.reducaoZ [] []) m.dev).1
      (imp.comando (.reducaoZ [] []) m.dev).2) = imp.ultima (imp.aposReducaoZ m) :=
    imp.ultima_aposCheck _ _
  simp only [passo, Driver.reducaoZ, Driver.emiteReducaoZ, exec_tryCatch, exec_bind, exec_get, hf,
    Bool.false_eq_true, if_false, hx]
  obtain rfl | ⟨msg, rfl⟩ := hr
  · exact ⟨hdev, rfl, rfl⟩
  · exact ⟨hdev, (guarda_com x _).2 h⟩

/-- **A reduction keeps the answers right exactly when it is not lost.** -/
theorem coerente_passo_reducaoZ {m : Maquina F δ} {u : Option Reducao} (h : Guarda m u)
    (hm : imp.Coerente m) : imp.Coerente (imp.passo m .reducaoZ) ↔ ¬ imp.Perdida m := by
  have hu := (coerente_iff h).1 hm
  by_cases hf : m.drv.fake = true
  · obtain ⟨hdrv, hdev⟩ := passo_reducaoZ_fake imp hf
    have hg : Guarda (imp.passo m .reducaoZ) u := by
      cases u <;> simpa only [Guarda, hdrv] using h
    rw [coerente_iff hg, hdev]
    simp [hu, Perdida, hf]
  · rw [Bool.not_eq_true] at hf
    obtain ⟨hdev, hg⟩ := passo_reducaoZ imp h hf
    rw [coerente_iff hg, hdev]
    unfold Perdida
    by_cases hok : (exec (Driver.executa imp.toDll (.reducaoZ [] [])) m).1 = .ok ()
    · simp [hok]
    · rw [if_neg hok]
      obtain rfl | rfl := hu
      · simp [h.1, h.2]
      · have hd : m.drv.dtUltRed ≠ [] := by
          rw [h.1]
          exact Driver.formataData_ne_nil _
        simp [hf, hok, hd, eq_comm]

/-! ## Runs -/

/-- **The answers are right in every state of a run exactly when the run loses no reduction.** -/
theorem coerente_iff_semPerda (imp : Impressora δ) (fake ignorar : Bool)
    (specific : List (Str × Str)) (d : δ) (ops : List Op) :
    (∀ m ∈ visited imp.passo (.ligada fake ignorar specific d : Maquina F δ) ops,
        imp.Coerente m) ↔
      AllSteps imp.passo imp.SemPerda (.ligada fake ignorar specific d : Maquina F δ) ops := by
  have h₀ : Guarda (.ligada fake ignorar specific d : Maquina F δ) none := ⟨rfl, rfl⟩
  refine forall_visited_iff_of_invariant (J := fun m => ∃ u, Guarda m u) ?_ ?_ ⟨none, h₀⟩
    ((coerente_iff h₀).2 (.inl rfl)) ops
  · rintro m op ⟨u, h⟩
    by_cases hop : op = .reducaoZ
    · subst hop
      by_cases hf : m.drv.fake = true
      · refine ⟨u, ?_⟩
        cases u <;> simpa only [Guarda, (passo_reducaoZ_fake imp hf).1] using h
      · exact ⟨_, (passo_reducaoZ imp h (Bool.not_eq_true _ ▸ hf)).2⟩
    · obtain ⟨-, hg | hg⟩ := passo_query imp h hop
      · exact ⟨_, hg⟩
      · exact ⟨_, hg⟩
  · rintro m op ⟨u, h⟩ hm
    by_cases hop : op = .reducaoZ
    · subst hop
      simp [SemPerda, coerente_passo_reducaoZ h hm]
    · obtain ⟨hu, hg | hg⟩ := passo_query imp h hop
      · simpa [SemPerda, hop, coerente_iff hg, hu] using (coerente_iff h).1 hm
      · simp [SemPerda, hop, coerente_iff hg, hu]

/-! ## A reduction that is lost -/

/-- A reduction on the last day of January 2017, and one a month later. -/
def janeiro : Reducao :=
  ⟨"310117".toList, "180000".toList, rfl, rfl, List.all_eq_true.1 rfl, List.all_eq_true.1 rfl⟩

def fevereiro : Reducao :=
  ⟨"280217".toList, "190000".toList, rfl, rfl, List.all_eq_true.1 rfl, List.all_eq_true.1 rfl⟩

/-- A device whose link breaks while it reduces: it goes from January's reduction to February's
and answers with a communication error. -/
def enlaceRuim : Impressora Bool where
  comando _ _ := (bematechCommErr, true)
  retornoImpressoraMFD d := ((bematechOk, ⟨6, 0, 0, 0⟩), d)
  verificaFormasPagamentoMFD d := ((bematechOk, []), d)
  verificaTotalizadoresNaoFiscaisMFD d := ((bematechOk, []), d)
  dataHoraReducao d :=
    let u := if d then fevereiro else janeiro
    ((bematechOk, u.data, u.hora), d)
  dadosUltimaReducaoMFD d := ((bematechOk, []), d)
  ultima d := if d then fevereiro else janeiro
  dataHora_ok _ _ := rfl
  ultima_dataHora _ := rfl
  ultima_retorno _ := rfl

/-- January's date is asked for, February's reduction is carried out under a communication error,
and the next query still answers with January. -/
theorem perdida_fica_em_cache :
    ¬ ∀ m ∈ visited enlaceRuim.passo (.ligada false true [] false : Maquina Unit Bool)
      [.getDataUltRed, .reducaoZ], enlaceRuim.Coerente m := by
  intro h
  have hd := (h _ (run_mem_visited _ _ _)).1 "20170131".toList rfl
  revert hd
  decide

end Impressora

end Spooler
