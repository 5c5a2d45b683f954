import Spooler.Driver.Maquina

/-!
# The rest of the library

`Biblioteca` has the entry points that the driver calls, those of `Dll` among them. A call that
acts on the device is an `Acao` (or a `Comando`) and answers with a return code only; the others
read from it. `Biblioteca.espia` is the same library over a device that keeps a list of the calls
issued to it (`Chamada`), so what a run of the driver issues is read off the device it leaves
behind. A call appends one entry to that list and answers as before (`exec_check_espia`).
-/

namespace Spooler

open Foundations

/-! ## Calls -/

/-- The calls, besides those of `Comando`, that act on the device: they print, work the drawer or
the cutter, or program the device. -/
inductive Acao
  | habilitaDesabilitaRetornoEstendidoMFD (flag : Str)
  | ativaDesativaSensorPoucoPapelMFD (flag : Int)
  | programaFormaPagamentoMFD (descr flg : Str)
  | programaFormaPagamentoCV0909 (idx descr : Str) (vinc : Int)
  | programaAliquota (aliq : Str) (flag : Int)
  | nomeiaTotalizadorNaoSujeitoIcms (idx : Int) (nome : Str)
  | nomeiaTotalizadorNaoSujeitoIcmsCV0909 (idx : Int) (nome tipo : Str)
  | aumentaDescricaoItem (descr : Str)
  | vendeItem (codigo descr aliq tpquant quant : Str) (decimais : Int) (vlrunit tpdesc desc : Str)
  | iniciaFechamentoCupomMFD (flag tipo acr dsc : Str)
  | abreComprovanteNaoFiscalVinculado (fpgto valor coo : Str)
  | usaComprovanteNaoFiscalVinculado (texto : Str)
  | recebimentoNaoFiscal (idx valor fpgto : Str)
  | acionaGaveta
  | programaArredondamento
  | leituraMemoriaFiscalDataMFD (ini fim tag : Str)
  | leituraMemoriaFiscalReducaoMFD (ini fim tag : Str)
  | leituraX
  | abreRelatorioGerencialMFD (idx : Str)
  | usaRelatorioGerencialMFD (texto : Str)
  | fechaRelatorioGerencial
  | nomeiaRelatorioGerencialMFD (idx descr : Str)
  | nomeiaRelatorioGerencialCV0909 (idx descr : Str)
  | acionaGuilhotinaMFD (modo : Int)
  | ativaDesativaCorteProximoMFD (flag : Int)
  | sangria (valor : Str)
  | suprimento (valor fpgto : Str)
  | programaHorarioVerao
  | cancelaItemGenerico (idx : Str)
  | cancelaItemAnterior
  | abreComprovanteNaoFiscalVinculadoMFD (fpgto valor coo doc nome endr : Str)
  | segundaViaNaoFiscalVinculadoMFD
  | reimpressaoNaoFiscalVinculadoMFD
  | estornoNaoFiscalVinculadoMFD (doc nome endr : Str)
  | estornoNaoFiscalVinculadoPosteriorMFD (fpgto valor coo ccd doc nome endr : Str)
  deriving DecidableEq

/-- The calls that read one text. -/
inductive Pergunta
  | numeroLoja | numeroSerieMFD | modeloImpressora | numeroSubstituicoesProprietario
  | numeroSerieCriptografado | numeroCaixa | versaoFirmwareMFD | dataMovimento | numeroCupom
  | verificaIndiceAliquotasIss | retornoAliquotas | retornoAliquotasCV0909 | numeroReducoes
  | verificaRelatorioGerencialMFD | grandeTotal | contadorCupomFiscalMFD
  | numeroOperacoesNaoFiscais | contadorComprovantesCreditoMFD | contadorRelatoriosGerenciaisMFD
  deriving DecidableEq

/-- The calls that have what they read written to a file. -/
inductive Extrato
  | leituraMemoriaFiscalSerialDataMFD (ini fim tag : Str)
  | leituraMemoriaFiscalSerialReducaoMFD (ini fim tag : Str)
  | leituraXSerial
  | downloadMFD (path tipo ini fim user : Str)
  | formatoDadosMFD (orig dest fmt tipo ini fim user : Str)
  deriving DecidableEq

/-- The calls that read from the device. -/
inductive Leitura
  | pergunta (q : Pergunta)
  | extrato (x : Extrato)
  | retornoImpressoraMFD
  | verificaEstadoImpressoraMFD
  | verificaFormasPagamentoMFD
  | verificaTotalizadoresNaoFiscaisMFD
  | dataHoraImpressora
  | dataHoraReducao
  | dadosUltimaReducaoMFD
  | marcaModeloTipoImpressoraMFD
  | flagsFiscais
  | statusEstendidoMFD
  deriving DecidableEq

/-- A call of the library, with its input arguments. -/
inductive Chamada
  | comando (c : Comando)
  | acao (a : Acao)
  | leitura (l : Leitura)
  deriving DecidableEq

/-- The call only reads. -/
def Chamada.soLe : Chamada → Bool
  | .leitura _ => true
  | _ => false

/-- The library, and the files around it. -/
structure Biblioteca (δ : Type) extends Dll δ where
  acao : Acao → δ → Int × δ
  pergunta : Pergunta → δ → (Int × Str) × δ
  extrato : Extrato → δ → Int × δ
  verificaEstadoImpressoraMFD : δ → (Int × Retorno) × δ
  dataHoraImpressora : δ → (Int × Str × Str) × δ
  marcaModeloTipoImpressoraMFD : δ → (Int × Str × Str × Str) × δ
  flagsFiscais : δ → (Int × Int) × δ
  statusEstendidoMFD : δ → (Int × Int) × δ
  /-- `fs::found(path)`. -/
  found : Str → δ → Bool
  /-- `fs::random_name(base)`. -/
  randomName : Str → δ → Str × δ
  /-- `fs::copy_file(orig, dest)`. -/
  copyFile : Str → Str → δ → δ

namespace Driver

variable {F δ α : Type}

/-! ## Programs -/

/-- `check` of a call that answers with more than a return code. -/
def consulta (dll : Dll δ) (f : δ → (Int × α) × δ) : Prog F δ α := do
  let m ← get
  let resp := f m.dev
  set { m with dev := resp.2 }
  check dll resp.1.1
  pure resp.1.2

/-- `check` of a call that answers with a return code only. -/
def aciona (dll : Dll δ) (f : δ → Int × δ) : Prog F δ Unit := do
  let m ← get
  let resp := f m.dev
  set { m with dev := resp.2 }
  check dll resp.1

/-- `if (!fake()) check(…); else debug_log("FAKE >> …");`. -/
def manda (bib : Biblioteca δ) (a : Acao) : Prog F δ Unit := do
  let m ← get
  if m.drv.fake then pure () else aciona bib.toDll (bib.acao a)

/-- A call that reads answers, or is refused, and changes only the signals and the device. -/
theorem exec_consulta (dll : Dll δ) (f : δ → (Int × α) × δ) (m : Maquina F δ) :
    ∃ r x d, exec (consulta dll f) m = (r, m.com x d) ∧
      ((f m.dev).1.1 = bematechOk ∧ r = .ok (f m.dev).1.2 ∨ Recusada r) := by
  have hrun : exec (consulta dll f) m = exec (do
      check dll (f m.dev).1.1
      pure (f m.dev).1.2) { m with dev := (f m.dev).2 } := rfl
  rw [hrun]
  obtain ⟨r, x, hx, rfl | ⟨msg, rfl⟩⟩ :=
    exec_check dll (f m.dev).1.1 { m with dev := (f m.dev).2 }
  · have hok := eq_ok_of_check (congrArg Prod.fst hx)
    exact ⟨_, x, _, exec_bind_ok hx, .inl ⟨hok, rfl⟩⟩
  · exact ⟨_, x, _, exec_bind_error hx, .inr ⟨msg, rfl⟩⟩

section SoSpooler

variable {I : Maquina F δ → Prop}

theorem soSpooler_aciona (hcom : ∀ m x d, I m → I (m.com x d)) (dll : Dll δ) (f : δ → Int × δ) :
    SoSpooler I (aciona dll f : Prog F δ Unit) := by
  intro m hm
  rw [aciona, wp_bind, wp_get, wp_bind, wp_set]
  exact soSpooler_check hcom dll _ _ (hcom m m.drv.sinal _ hm)

theorem soSpooler_consulta (hcom : ∀ m x d, I m → I (m.com x d)) (dll : Dll δ)
    (f : δ → (Int × α) × δ) : SoSpooler I (consulta dll f : Prog F δ α) := by
  intro m hm
  rw [consulta, wp_bind, wp_get, wp_bind, wp_set]
  exact contained_bind (soSpooler_check hcom dll _) (fun _ => contained_pure _) _
    (hcom m m.drv.sinal _ hm)

theorem soSpooler_manda (hcom : ∀ m x d, I m → I (m.com x d)) (bib : Biblioteca δ) (a : Acao) :
    SoSpooler I (manda bib a : Prog F δ Unit) :=
  contained_bind contained_get fun _ => contained_ite (contained_pure _)
    (soSpooler_aciona hcom _ _)

end SoSpooler

end Driver

/-! ## The calls issued -/

/-- The answer, with the call added to the list. -/
def anota {δ α : Type} (c : Chamada) (f : δ → α × δ) (s : δ × List Chamada) :
    α × (δ × List Chamada) := ((f s.1).1, ((f s.1).2, s.2 ++ [c]))

/-- The library of `dll`, with a list of the calls issued. -/
def Dll.espia {δ : Type} (dll : Dll δ) : Dll (δ × List Chamada) where
  comando c := anota (.comando c) (dll.comando c)
  retornoImpressoraMFD := anota (.leitura .retornoImpressoraMFD) dll.retornoImpressoraMFD
  verificaFormasPagamentoMFD :=
    anota (.leitura .verificaFormasPagamentoMFD) dll.verificaFormasPagamentoMFD
  verificaTotalizadoresNaoFiscaisMFD :=
    anota (.leitura .verificaTotalizadoresNaoFiscaisMFD) dll.verificaTotalizadoresNaoFiscaisMFD
  dataHoraReducao := anota (.leitura .dataHoraReducao) dll.dataHoraReducao
  dadosUltimaReducaoMFD := anota (.leitura .dadosUltimaReducaoMFD) dll.dadosUltimaReducaoMFD

/-- The library, with a list of the calls issued. -/
def Biblioteca.espia {δ : Type} (bib : Biblioteca δ) : Biblioteca (δ × List Chamada) where
  toDll := bib.toDll.espia
  acao a := anota (.acao a) (bib.acao a)
  pergunta q := anota (.leitura (.pergunta q)) (bib.pergunta q)
  extrato x := anota (.leitura (.extrato x)) (bib.extrato x)
  verificaEstadoImpressoraMFD :=
    anota (.leitura .verificaEstadoImpressoraMFD) bib.verificaEstadoImpressoraMFD
  dataHoraImpressora := anota (.leitura .dataHoraImpressora) bib.dataHoraImpressora
  marcaModeloTipoImpressoraMFD :=
    anota (.leitura .marcaModeloTipoImpressoraMFD) bib.marcaModeloTipoImpressoraMFD
  flagsFiscais := anota (.leitura .flagsFiscais) bib.flagsFiscais
  statusEstendidoMFD := anota (.leitura .statusEstendidoMFD) bib.statusEstendidoMFD
  found path s := bib.found path s.1
  randomName base s := ((bib.randomName base s.1).1, ((bib.randomName base s.1).2, s.2))
  copyFile orig dest s := (bib.copyFile orig dest s.1, s.2)

section Anota

variable {δ α : Type} (c : Chamada) (f : δ → α × δ) (s : δ × List Chamada)

@[simp] theorem anota_fst : (anota c f s).1 = (f s.1).1 := rfl
@[simp] theorem anota_dev : (anota c f s).2.1 = (f s.1).2 := rfl
@[simp] theorem anota_chamadas : (anota c f s).2.2 = s.2 ++ [c] := rfl

end Anota

namespace Maquina

variable {F δ : Type}

/-- The calls issued so far. -/
def chamadas (m : Maquina F (δ × List Chamada)) : List Chamada := m.dev.2

/-- The calls issued so far that act on the device. -/
def atos (m : Maquina F (δ × List Chamada)) : List Chamada := m.chamadas.filter fun c => !c.soLe

/-- The machine with an empty list of calls. -/
def comLista (m : Maquina F δ) : Maquina F (δ × List Chamada) := ⟨m.drv, (m.dev, []), m.registro⟩

/-- The machine without its list of calls. -/
def semLista (m : Maquina F (δ × List Chamada)) : Maquina F δ := ⟨m.drv, m.dev.1, m.registro⟩

end Maquina

namespace Driver

variable {F δ : Type}

/-- `check` only reads. -/
theorem atos_check (dll : Dll δ) (retcode : Int) (m : Maquina F (δ × List Chamada)) :
    (exec (check dll.espia retcode) m).2.atos = m.atos := by
  obtain ⟨r, x, hx, -⟩ := exec_check dll.espia retcode m
  rw [hx]
  unfold Dll.aposCheck
  split
  · simp [Maquina.atos, Maquina.chamadas, Dll.espia, Chamada.soLe]
  · rfl

/-- Outside fake mode a call is issued, whatever comes of it. -/
theorem atos_envia (dll : Dll δ) (c : Comando) {m : Maquina F (δ × List Chamada)}
    (h : m.drv.fake = false) :
    (exec (envia dll.espia c) m).2.atos = m.atos ++ [.comando c] := by
  simp only [envia, executa, exec_bind, exec_get, h, Bool.false_eq_true, if_false, exec_set,
    atos_check]
  simp [Maquina.atos, Maquina.chamadas, Dll.espia, Chamada.soLe]

theorem atos_manda (bib : Biblioteca δ) (a : Acao) {m : Maquina F (δ × List Chamada)}
    (h : m.drv.fake = false) :
    (exec (manda bib.espia a) m).2.atos = m.atos ++ [.acao a] := by
  have hcheck := atos_check (F := F) bib.toDll
  simp only [manda, aciona, exec_bind, exec_get, h, Bool.false_eq_true, if_false, exec_set]
  refine (hcheck _ _).trans ?_
  simp [Maquina.atos, Maquina.chamadas, Biblioteca.espia, Chamada.soLe]

end Driver

end Spooler
