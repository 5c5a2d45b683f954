import Spooler.Broker.Ecf
import Spooler.Driver.Biblioteca
import Spooler.Driver.DadosReducao
import Spooler.Driver.UltimaReducao

/-!
# What the driver reads

The operations of `ecf_bematech` that ask the device for something: its names and numbers, its
clock, its counters, its status, and the readings of the fiscal memory and of the totals. A reading
goes to a file or is printed (`memoriaFiscal`, `leituraX`); the file is copied away.
-/

namespace Spooler

open Foundations

namespace Driver

variable {F δ : Type} (n : Numeric F) (bib : Biblioteca δ)

/-! ## Names and numbers -/

/-- The text that a call writes to its buffer. -/
def leTexto (q : Pergunta) : Prog F δ Str := Str.cstr <$> consulta bib.toDll (bib.pergunta q)

/-- `atoi` of that text, stored in a `short`. -/
def leNumero (q : Pergunta) : Prog F δ ℤ := (fun s => toShort (Str.atoi s)) <$> leTexto bib q

/-- `atol` of that text. -/
def leContador (q : Pergunta) : Prog F δ ℤ := Str.atoi <$> leTexto bib q

/-- `get_nr_loja`. -/
def getNrLoja : Prog F δ ℤ := leNumero bib .numeroLoja

/-- `get_nr_serie`. -/
def getNrSerie : Prog F δ Str := leTexto bib .numeroSerieMFD

/-- `get_nr_usuario`. -/
def getNrUsuario : Prog F δ ℤ := leNumero bib .numeroSubstituicoesProprietario

/-- `get_nr_serie_cript`. -/
def getNrSerieCript : Prog F δ Str := leTexto bib .numeroSerieCriptografado

/-- `get_nr_caixa`. -/
def getNrCaixa : Prog F δ ℤ := leNumero bib .numeroCaixa

/-- `get_firmware`. -/
def getFirmware : Prog F δ Str := leTexto bib .versaoFirmwareMFD

/-- `get_nr_cupom`. -/
def getNrCupom : Prog F δ ℕ := (fun s => toUnsigned (Str.atoi s)) <$> leTexto bib .numeroCupom

/-- `get_nr_reducoes`. -/
def getNrReducoes : Prog F δ ℤ := leNumero bib .numeroReducoes

/-- `get_nr_reinicio`. -/
def getNrReinicio : Prog F δ ℤ := leNumero bib .numeroSubstituicoesProprietario

/-- `get_grande_total`. -/
def getGrandeTotal : Prog F δ F := n.atof <$> leTexto bib .grandeTotal

/-- `contador_cupom_fiscal`. -/
def contadorCupomFiscal : Prog F δ ℤ := leContador bib .contadorCupomFiscalMFD

/-- `contador_tot_naofiscal`. -/
def contadorTotNaofiscal : Prog F δ ℤ := leContador bib .numeroOperacoesNaoFiscais

/-- `contador_credito_debito`. -/
def contadorCreditoDebito : Prog F δ ℤ := leContador bib .contadorComprovantesCreditoMFD

/-- `contador_rel_gerenciais`. -/
def contadorRelGerenciais : Prog F δ ℤ := leContador bib .contadorRelatoriosGerenciaisMFD

/-! ## The clock -/

/-- `get_data_hora_atual`. -/
def getDataHoraAtual : Prog F δ (Str × Str) := consulta bib.toDll bib.dataHoraImpressora

/-- `get_data_atual`. -/
def getDataAtual : Prog F δ Str := (fun r => formataData r.1) <$> getDataHoraAtual bib

/-- `get_hora_atual`. -/
def getHoraAtual : Prog F δ Str := Prod.snd <$> getDataHoraAtual bib

/-- `get_data_mvto`. -/
def getDataMvto : Prog F δ Str := formataData <$> leTexto bib .dataMovimento

/-! ## The status -/

/-- `get_status_ecf`: the status is stored, a refused call is judged by its return code. -/
def getStatusEcf : Prog F δ EcfStatus := do
  let m ← get
  let resp := bib.verificaEstadoImpressoraMFD m.dev
  set { m with dev := resp.2 }
  if resp.1.1 = bematechOk then
    let sts := EcfStatus.ofStatus m.drv.ignorarPoucoPapel resp.1.2.status
    altera fun drv => { drv with sinal := { drv.sinal with sts } }
    pure sts
  else
    avaliaRetcode resp.1.1
    pure m.drv.sinal.sts

/-- `get_cupom_aberto`. -/
def getCupomAberto : Prog F δ Bool := EcfStatus.cupomFiscalAberto <$> getStatusEcf bib

/-- `is_horario_verao`. -/
def isHorarioVerao : Prog F δ Bool :=
  (fun tmp => (byte tmp).testBit 2) <$> consulta bib.toDll bib.flagsFiscais

/-- `nao_fiscal_aberto`. -/
def naoFiscalAberto : Prog F δ Bool :=
  (fun ists => (byte ists).testBit 0) <$> consulta bib.toDll bib.statusEstendidoMFD

/-- `pouco_papel`: the status of the last call tells. -/
def poucoPapel : Prog F δ Bool := do
  let m ← get
  pure (m.drv.sinal.status.st1.testBit 6)

/-! ## Files -/

/-- `BEMATECH_OUTPUT_PATH`. -/
def outputPath : Str := "/tmp/".toList

/-- `BEMATECH_OUTPUT_PATH` and `BEMATECH_RETURN_FILE`. -/
def retPath : Str := outputPath ++ "Retorno.txt".toList

/-- `BEMATECH_OUTFILE_NOT_FOUND`. -/
def outfileNotFound : Str := "Nao encontrado arquivo de retorno.".toList

/-- `fs::random_name(base)`, in the output directory. -/
def nomeSaida (base sufixo : String) : Prog F δ Str := do
  let m ← get
  let resp := bib.randomName base.toList m.dev
  set { m with dev := resp.2 }
  pure (outputPath ++ resp.1 ++ sufixo.toList)

/-- The file that the library has written is copied to a name of its own. -/
def recolhe (base : String) : Prog F δ Str := do
  let m ← get
  if bib.found retPath m.dev then
    let path ← nomeSaida bib base ".txt"
    modify fun m => { m with dev := bib.copyFile retPath path m.dev }
    pure path
  else throw (ecfExp outfileNotFound)

/-- A reading that is printed, or written to a file and copied away. -/
def emite (saida : ℤ) (arquivo : Extrato) (impresso : Acao) (base : String) : Prog F δ Str :=
  if saida = saidaSerial then do
    aciona bib.toDll (bib.extrato arquivo)
    recolhe bib base
  else do
    aciona bib.toDll (bib.acao impresso)
    pure []

/-- `leitura_x`. -/
def leituraX (saida : ℤ) : Prog F δ Str := emite bib saida .leituraXSerial .leituraX "leitura_x_"

/-- `memoria_fiscal`. -/
def memoriaFiscal (tipo : ℤ) (inicio fim : Str) (completa : Bool) (saida : ℤ) : Prog F δ Str :=
  let tag : Str := if completa then ['c'] else ['s']
  if tipo = leituraData then do
    let dtIni ← ofExcept (Ecf.formatDate inicio)
    let dtFim ← ofExcept (Ecf.formatDate fim)
    emite bib saida (.leituraMemoriaFiscalSerialDataMFD dtIni dtFim tag)
      (.leituraMemoriaFiscalDataMFD dtIni dtFim tag) "mem_fiscal_"
  else if tipo = leituraReducao then
    emite bib saida (.leituraMemoriaFiscalSerialReducaoMFD inicio fim tag)
      (.leituraMemoriaFiscalReducaoMFD inicio fim tag) "mem_fiscal_"
  else throw (ecfExp Ecf.tipoLeituraErr)

/-! ## The fiscal memory as a file -/

/-- `ECF_DOWNLOAD_MFD_TOTAL`. -/
def downloadMfdTotal : ℤ := 0

/-- `ECF_TIPO_DOWNLOAD_ERR`. -/
def tipoDownloadErr : Str := "Tipo de download da MFD nao suportado.".toList

/-- `ECF_FMT_CONV_ERR`. -/
def fmtConvErr : Str := "Formato de conversao de MFD nao suportado.".toList

/-- `BEMATECH_MFD_NOT_SUPPORTED`. -/
def mfdNotSupported : Str := "Download da MFD nao suportado.".toList

/-- A call whose return code alone is judged. -/
def avalia (f : δ → ℤ × δ) : Prog F δ Unit := do
  let m ← get
  let resp := f m.dev
  set { m with dev := resp.2 }
  avaliaRetcode resp.1

/-- The file has to be there. -/
def exige (path : Str) : Prog F δ Unit := do
  let m ← get
  if bib.found path m.dev then pure () else throw (ecfExp outfileNotFound)

/-- `download_mfd`. -/
def downloadMfd (tipo : ℤ) (ini fim : Str) (usr : ℤ) : Prog F δ Str :=
  if tipo ∉ [downloadMfdTotal, downloadMfdData, downloadMfdCoo] then
    throw (ecfExp tipoDownloadErr)
  else do
    let mfdName ← nomeSaida bib "mfd_" ".dat"
    let ctipo ← formatInteiro n tipo "%1.0f"
    let cusr ← formatInteiro n usr "%1.0f"
    avalia (bib.extrato (.downloadMFD mfdName ctipo ini fim cusr))
    exige bib mfdName
    pure mfdName

/-- `converte_mfd`; `suporte` tells whether it was compiled in. -/
def converteMfd (suporte : Bool) (tipo : ℤ) (ini fim origem destino : Str) (fmt usr : ℤ) :
    Prog F δ Unit :=
  if !suporte then throw (ecfExp mfdNotSupported)
  else if tipo ∉ [downloadMfdTotal, downloadMfdData, downloadMfdCoo] then
    throw (ecfExp tipoDownloadErr)
  else if fmt ∉ [convMfdTexto, convMfdCotepe] then throw (ecfExp fmtConvErr)
  else do
    let ctipo ← formatInteiro n tipo "%1.0f"
    let cfmt ← formatInteiro n fmt "%1.0f"
    let cusr ← formatInteiro n usr "%1.0f"
    avalia (bib.extrato (.formatoDadosMFD origem destino cfmt ctipo ini fim cusr))
    exige bib destino

end Driver

end Spooler
