import Spooler.Driver.Status

/-!
# The driver and the vendor's library

`Driver` holds the data members of `ecf_bematech` and `ecf_bematech_cv0909`. The printer behind
the vendor's library is a state `δ` with the entry points of `Dll`, whatever they do; a `Maquina`
is both together. Every call goes through `check`, which returns when the library and the device
report success and raises an `ecf_exp` otherwise.

`exec_check` is the one fact the rest of the development uses about `check`: besides the device
it changes only what `Sinal` holds.
-/

namespace Spooler

open Foundations

/-! ## The library -/

/-- The calls of the library that give back nothing but a return code. -/
inductive Comando
  | abreCupomMFD (dcto nome endr : Str)
  | cancelaCupom
  | subTotalizaCupomMFD
  | acrescimoDescontoSubtotalCV0909 (flag tipo acr : Str)
  | totalizaCupomMFD
  | efetuaFormaPagamentoIndice (cidx cvlr : Str)
  | terminaFechamentoCupom (msg : Str)
  | abreRecebimentoNaoFiscalMFD (doc nome endr : Str)
  | cancelaRecebimentoNaoFiscalMFD (doc nome endr : Str)
  | efetuaRecebimentoNaoFiscalMFD (cidx cvlr : Str)
  | iniciaFechamentoRecebimentoNaoFiscalMFD (ad tp acr dsc : Str)
  | fechaRecebimentoNaoFiscalMFD (msg : Str)
  | abreComprovanteNaoFiscalVinculadoCV0909 (seq : Int) (cidx : Str) (parc via : Int)
      (doc nome endr : Str)
  | fechaComprovanteNaoFiscalVinculado
  | reducaoZ (data hora : Str)
  deriving DecidableEq

/-- The entry points of the library: each answers with its return code and what it writes to its
output arguments. -/
structure Dll (δ : Type) where
  comando : Comando → δ → Int × δ
  retornoImpressoraMFD : δ → (Int × Retorno) × δ
  verificaFormasPagamentoMFD : δ → (Int × Str) × δ
  verificaTotalizadoresNaoFiscaisMFD : δ → (Int × Str) × δ
  dataHoraReducao : δ → (Int × Str × Str) × δ
  dadosUltimaReducaoMFD : δ → (Int × Str) × δ

/-! ## The driver -/

/-- What `check` leaves behind: the messages and the status of the last call. -/
structure Sinal where
  retmsg : Str := []
  stsmsg : Str := []
  sts : EcfStatus := {}
  status : StatusMfd := {}
  deriving DecidableEq

/-- The data members of the driver. -/
structure Driver (F : Type) where
  sinal : Sinal := {}
  dtUltRed : Str := []
  hrUltRed : Str := []
  fpgto : List Str := []
  vincCcd : List Bool := []
  totCnf : List Str := []
  aliqs : AList fun _ : Nat => Aliquota F := ∅
  specific : List (Str × Str) := []
  dontPay : Bool := false
  fake : Bool := false
  ignorarPoucoPapel : Bool := true
  pgtoSeq : Int := -1
  useCcd : List Bool := []

/-- A driver just built: the settings are read, nothing is cached. -/
def Driver.novo {F : Type} (fake ignorarPoucoPapel : Bool) (specific : List (Str × Str)) :
    Driver F :=
  { fake, ignorarPoucoPapel, specific }

/-- The driver with its device, and the calls written to the log so far, whether they went to the
device or, in fake mode, to the log only. -/
structure Maquina (F δ : Type) where
  drv : Driver F
  dev : δ
  registro : List Comando := []

/-- A driver just built over its device. -/
def Maquina.ligada {F δ : Type} (fake ignorarPoucoPapel : Bool) (specific : List (Str × Str))
    (dev : δ) : Maquina F δ :=
  { drv := .novo fake ignorarPoucoPapel specific, dev }

/-- The machine with one more call in its log. -/
def Maquina.registra {F δ : Type} (m : Maquina F δ) (c : Comando) : Maquina F δ :=
  { m with registro := m.registro ++ [c] }

/-- Code of the driver. -/
abbrev Prog (F δ α : Type) := Exec Excp (Maquina F δ) α

namespace Driver

variable {F δ α : Type}

/-- Change data members. -/
def altera (f : Driver F → Driver F) : Prog F δ Unit := modify fun m => { m with drv := f m.drv }

/-- `ecf_exp`. -/
def ecfExp (msg : Str) : Excp := .spooler .ecfExp msg

/-- The first half of `check`, for a call the library carried out: the device is asked for its
status, which is stored and judged. The code to be judged next is given back. -/
def colheRetorno (dll : Dll δ) : Prog F δ Int := do
  let m ← get
  let resp := dll.retornoImpressoraMFD m.dev
  set { m with dev := resp.2 }
  if resp.1.1 = bematechNotOkStatus then pure resp.1.1
  else
    let status := resp.1.2.status
    let aval := evalStatus m.drv.ignorarPoucoPapel m.drv.sinal.stsmsg status
    let sts := EcfStatus.ofStatus m.drv.ignorarPoucoPapel status
    altera fun drv => { drv with sinal := { drv.sinal with status, sts, stsmsg := aval.2 } }
    if aval.1 then pure bematechOk else throw (ecfExp aval.2)

/-- The second half of `check`: the return code is judged. -/
def avaliaRetcode (retcode : Int) : Prog F δ Unit := do
  let aval := evalRetcode retcode
  altera fun drv => { drv with sinal := { drv.sinal with retmsg := aval.2 } }
  if aval.1 then pure () else throw (ecfExp aval.2)

/-- `check(retcode)`. -/
def check (dll : Dll δ) (retcode : Int) : Prog F δ Unit := do
  avaliaRetcode (← (if retcode = bematechOk then colheRetorno dll else pure retcode))

/-- `check` of a call that answers with a return code only; the call is logged. -/
def executa (dll : Dll δ) (c : Comando) : Prog F δ Unit := do
  let m ← get
  let resp := dll.comando c m.dev
  set { m.registra c with dev := resp.2 }
  check dll resp.1

/-- `if (!fake()) check(…); else debug_log("FAKE >> …");`. -/
def envia (dll : Dll δ) (c : Comando) : Prog F δ Unit := do
  let m ← get
  if m.drv.fake then set (m.registra c) else executa dll c

end Driver

/-! ## What a call changes -/

/-- The machine with other signals and another device state. -/
def Maquina.com {F δ : Type} (m : Maquina F δ) (x : Sinal) (dev : δ) : Maquina F δ :=
  { m with drv := { m.drv with sinal := x }, dev }

/-- A call was refused: an `ecf_exp` was raised. -/
def Recusada {α : Type} (r : Except Excp α) : Prop := ∃ msg, r = .error (Driver.ecfExp msg)

/-- The state of the device once `check` has asked for the status. -/
def Dll.aposCheck {δ : Type} (dll : Dll δ) (retcode : Int) (dev : δ) : δ :=
  if retcode = bematechOk then (dll.retornoImpressoraMFD dev).2 else dev

namespace Driver

variable {F δ α : Type}

section Frame

variable (m : Maquina F δ) (x y : Sinal) (d e : δ)

@[simp] theorem com_dev : (m.com x d).dev = d := rfl
@[simp] theorem com_registro : (m.com x d).registro = m.registro := rfl
@[simp] theorem com_drv : (m.com x d).drv = { m.drv with sinal := x } := rfl
@[simp] theorem registra_dev (c : Comando) : (m.registra c).dev = m.dev := rfl
@[simp] theorem registra_drv (c : Comando) : (m.registra c).drv = m.drv := rfl
@[simp] theorem registra_registro (c : Comando) :
    (m.registra c).registro = m.registro ++ [c] := rfl
@[simp] theorem com_com : (m.com x d).com y e = m.com y e := rfl

end Frame

@[simp] theorem exec_altera (f : Driver F → Driver F) (m : Maquina F δ) :
    exec (altera f : Prog F δ Unit) m = (.ok (), { m with drv := f m.drv }) := rfl

theorem exec_avaliaRetcode (retcode : Int) (m : Maquina F δ) :
    ∃ r x, exec (avaliaRetcode retcode) m = (r, m.com x m.dev) ∧ (r = .ok () ∨ Recusada r) := by
  unfold avaliaRetcode
  obtain ⟨ok, retmsg⟩ := evalRetcode retcode
  cases ok with
  | true => exact ⟨_, _, rfl, .inl rfl⟩
  | false => exact ⟨_, _, rfl, .inr ⟨retmsg, rfl⟩⟩

theorem exec_colheRetorno (dll : Dll δ) (m : Maquina F δ) :
    ∃ r x, exec (colheRetorno dll) m = (r, m.com x (dll.retornoImpressoraMFD m.dev).2) ∧
      ((∃ ret, r = .ok ret) ∨ Recusada r) := by
  simp only [colheRetorno, exec_bind, exec_get, exec_set]
  generalize dll.retornoImpressoraMFD m.dev = resp
  by_cases hr : resp.1.1 = bematechNotOkStatus
  · rw [if_pos hr]
    exact ⟨_, m.drv.sinal, rfl, .inl ⟨_, rfl⟩⟩
  · simp only [if_neg hr, exec_bind, exec_altera]
    obtain ⟨ok, stsmsg⟩ :=
      evalStatus m.drv.ignorarPoucoPapel m.drv.sinal.stsmsg resp.1.2.status
    cases ok with
    | true => exact ⟨_, _, rfl, .inl ⟨_, rfl⟩⟩
    | false => exact ⟨_, _, rfl, .inr ⟨stsmsg, rfl⟩⟩

/-- **`check` returns or refuses, and changes only the signals and the device.** -/
theorem exec_check (dll : Dll δ) (retcode : Int) (m : Maquina F δ) :
    ∃ r x, exec (check dll retcode) m = (r, m.com x (dll.aposCheck retcode m.dev)) ∧
      (r = .ok () ∨ Recusada r) := by
  unfold check Dll.aposCheck
  by_cases h : retcode = bematechOk
  · simp only [if_pos h]
    obtain ⟨r, x, hx, ⟨ret, rfl⟩ | ⟨msg, rfl⟩⟩ := exec_colheRetorno dll m
    · obtain ⟨r, y, hy, hr⟩ := exec_avaliaRetcode ret (m.com x (dll.retornoImpressoraMFD m.dev).2)
      exact ⟨r, y, (exec_bind_ok hx).trans hy, hr⟩
    · exact ⟨_, x, exec_bind_error hx, .inr ⟨msg, rfl⟩⟩
  · simp only [if_neg h]
    exact exec_avaliaRetcode retcode m

/-- `check` returns for a call the library carried out only. -/
theorem eq_ok_of_check {dll : Dll δ} {retcode : Int} {m : Maquina F δ}
    (h : (exec (check dll retcode) m).1 = .ok ()) : retcode = bematechOk := by
  by_contra hne
  have hf : (evalRetcode retcode).1 = false := by
    rw [← Bool.not_eq_true, evalRetcode_fst]
    exact hne
  simp only [check, if_neg hne, avaliaRetcode, exec_bind, exec_pure, exec_altera, hf] at h
  cases h

/-- A call that answers with a return code only returns or is refused. -/
theorem exec_executa (dll : Dll δ) (c : Comando) (m : Maquina F δ) :
    ∃ r x, exec (executa dll c) m = (r, (m.registra c).com x
        (dll.aposCheck (dll.comando c m.dev).1 (dll.comando c m.dev).2)) ∧
      (r = .ok () ∨ Recusada r) := by
  unfold executa
  exact exec_check dll (dll.comando c m.dev).1
    { m.registra c with dev := (dll.comando c m.dev).2 }

/-- A call in either mode returns or is refused. -/
theorem exec_envia (dll : Dll δ) (c : Comando) (m : Maquina F δ) :
    ∃ r x d, exec (envia dll c) m = (r, (m.registra c).com x d) ∧ (r = .ok () ∨ Recusada r) := by
  unfold envia
  simp only [exec_bind, exec_get]
  split
  · exact ⟨_, m.drv.sinal, m.dev, rfl, .inl rfl⟩
  · obtain ⟨r, x, hx, hr⟩ := exec_executa dll c m
    exact ⟨r, x, _, hx, hr⟩

/-! ## What calls leave alone -/

/-- A property of the machine that does not look at the signals, the device, the log or the
totalizers kept. -/
structure Externa (I : Maquina F δ → Prop) : Prop where
  com : ∀ m x d, I m → I (m.com x d)
  registra : ∀ m c, I m → I (m.registra c)
  totCnf : ∀ m l, I m → I { m with drv := { m.drv with totCnf := l } }

/-- A property of the data members that does not look at the signals or the totalizers. -/
theorem externa_drv {β : Type} {f : Driver F → β} (hs : ∀ d x, f { d with sinal := x } = f d)
    (ht : ∀ d l, f { d with totCnf := l } = f d) (b : β) :
    Externa (fun m : Maquina F δ => f m.drv = b) where
  com m x _ hm := (hs m.drv x).trans hm
  registra _ _ hm := hm
  totCnf m l hm := (ht m.drv l).trans hm

section SoSpooler

variable {I : Maquina F δ → Prop}

theorem soSpooler_altera {f : Driver F → Driver F} (h : ∀ m, I m → I { m with drv := f m.drv }) :
    SoSpooler I (altera f : Prog F δ Unit) := contained_modify h

/-- Code that returns or is refused, and keeps `I`. -/
theorem soSpooler_of_recusada {x : Prog F δ Unit}
    (h : ∀ m, I m → ((exec x m).1 = .ok () ∨ Recusada (exec x m).1) ∧ I (exec x m).2) :
    SoSpooler I x := by
  intro m hm
  have hx := h m hm
  revert hx
  unfold Wp
  rcases exec x m with ⟨e | u, t⟩
  · rintro ⟨hok | ⟨msg, hmsg⟩, ht⟩
    · cases hok
    · cases hmsg
      exact ⟨rfl, ht⟩
  · exact And.right

theorem soSpooler_check (hcom : ∀ m x d, I m → I (m.com x d)) (dll : Dll δ) (retcode : Int) :
    SoSpooler I (check dll retcode) := by
  refine soSpooler_of_recusada fun m hm => ?_
  obtain ⟨r, x, hx, hr⟩ := exec_check dll retcode m
  rw [hx]
  exact ⟨hr, hcom _ _ _ hm⟩

theorem soSpooler_envia (hI : Externa I) (dll : Dll δ) (c : Comando) :
    SoSpooler I (envia dll c) := by
  refine soSpooler_of_recusada fun m hm => ?_
  obtain ⟨r, x, d, hx, hr⟩ := exec_envia dll c m
  rw [hx]
  exact ⟨hr, hI.com _ _ _ (hI.registra _ _ hm)⟩

end SoSpooler

end Driver

end Spooler
