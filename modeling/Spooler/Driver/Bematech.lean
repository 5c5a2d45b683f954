import Spooler.Driver.Carga
import Spooler.Driver.Leituras
import Spooler.Driver.Totalizadores

/-!
# The operations that act on the device

The functions of `ecf_bematech` that print, work the drawer and the cutter or program the device,
besides those of the documents, and what `ecf_bematech_cv0909` puts in the place of some of them.
The functions of the base class that have a namesake there are in `Base`. Most calls are made by
`manda` or `envia`, which leave the device alone in fake mode; the constructor, `abreGaveta` and
`setArredondamento` make theirs by `aciona`.
-/

namespace Spooler

open Foundations

namespace Driver

variable {F δ : Type} (n : Numeric F) (bib : Biblioteca δ)

/-! ## The constructor -/

/-- What `load_specific` makes of the file of settings: what it has read of them, and the exception
it raises, if any. -/
structure Configuracao where
  specific : List (Str × Str) := []
  ignorarPoucoPapel : Bool := false
  erro : Option Excp := none

/-- `load_specific`. -/
def loadSpecific (cfg : Configuracao) : Prog F δ Unit := do
  altera fun drv =>
    { drv with specific := cfg.specific, ignorarPoucoPapel := cfg.ignorarPoucoPapel }
  match cfg.erro with
  | none => pure ()
  | some e => throw e

/-- `BEMATECH_SENSOR_POUCO_PAPEL`. -/
def sensorPoucoPapel : Str := "sensor_pouco_papel".toList

/-- The calls of the constructor, whose exceptions are dropped. -/
def inicializa (cfg : Configuracao) : Prog F δ Unit :=
  tryCatch (do
    aciona bib.toDll (bib.acao (.habilitaDesabilitaRetornoEstendidoMFD ['1']))
    loadSpecific cfg
    let sensor ← valueByKey sensorPoucoPapel
    aciona bib.toDll (bib.acao (.ativaDesativaSensorPoucoPapelMFD
      (if Str.atoi sensor > 0 then 1 else 0)))) fun _ => pure ()

/-! ## Searches of the base class -/

/-- `BEMATECH_TXT_SANGRIA` and `BEMATECH_TXT_SUPRIMENTO`. -/
def txtSangria : Str := "Sangria".toList
def txtSuprimento : Str := "Suprimento".toList

/-- `ECF_FPGTO_PRESENT`, `ECF_TOT_CNF_PRESENT` and `ECF_ALIQ_DEFINED`. -/
def fpgtoPresent : Str := "Forma de pagamento ja cadastrada.".toList
def totCnfPresent : Str := "Totalizador nao fiscal ja cadastrado.".toList
def aliqDefined : Str := "Aliquota tributaria ja definida.".toList

namespace Base

/-- `BEMATECH_SIZE_FPGTO` and `BEMATECH_SIZE_TOTCNF`. -/
def sizeFpgto : ℕ := 16
def sizeTotcnf : ℕ := 19

/-- `BEMATECH_TOTAL_TOTCNF`. -/
def totalTotcnf : ℕ := 28

/-- The `i`-th record of the buffer, behind a comma at its start. -/
def regFpgto (buffer : Str) (i : ℕ) : Str :=
  let reg := buffer.drop (i * tamRegFpgto)
  if reg.head? = some ',' then reg.drop 1 else reg

/-- The description of a record. -/
def descrFpgto (reg : Str) : Str := Str.trim (Str.cstr (reg.take sizeFpgto))

/-- `ecf_bematech::get_id_forma_pgto`: free records are not kept. -/
def getIdFormaPgto (fpgto : Str) : Prog F δ (Option ℕ) := do
  let m ← get
  match idxElement (fpgto.take sizeFpgto) m.drv.fpgto with
  | some i => pure (some (i + 1))
  | none => do
    let buffer ← consulta bib.toDll bib.verificaFormasPagamentoMFD
    let regs := (List.range totalFpgto).map (regFpgto buffer)
    let usados := regs.filter fun reg => descrFpgto reg ≠ []
    altera fun drv =>
      { drv with fpgto := usados.map descrFpgto, vincCcd := usados.map (·[44]? = some '1') }
    pure ((ultimoIdx (fun reg => descrFpgto reg ≠ [] &&
      Str.strIequals (fpgto.take sizeFpgto) (descrFpgto reg)) regs).map (· + 1))

/-- The names of the totalizers that can be programmed. -/
def totalizadores (buffer : Str) : List Str :=
  (List.range totalTotcnf).map fun i =>
    Str.trim (Str.cstr ((buffer.drop (i * (sizeTotcnf + 1))).take sizeTotcnf))

/-- A name in the table of the totalizers that can be programmed. -/
def programado (one : Str) : Bool :=
  !(Str.strIequals one txtSangria || Str.strIequals one txtSuprimento || one = [])

/-- `ecf_bematech::get_totalizador_cnf`: the last two positions are taken. -/
def getTotalizadorCnf (tot : Str) : Prog F δ (Option ℕ) := do
  let m ← get
  match idxElement (tot.take sizeTotcnf) m.drv.totCnf with
  | some i => pure (some (i + 1))
  | none => do
    let buffer ← consulta bib.toDll bib.verificaTotalizadoresNaoFiscaisMFD
    let nomes := totalizadores buffer
    altera fun drv =>
      { drv with
        totCnf := nomes.map (fun one => if programado one then one else txtAvailable) ++
          [txtSangria, txtSuprimento] }
    let idx := ultimoIdx (fun one => programado one &&
      Str.strIequals (tot.take sizeTotcnf) one) nomes
    let idx := if Str.strIequals tot txtSangria then some totalTotcnf else idx
    let idx := if Str.strIequals tot txtSuprimento then some (totalTotcnf + 1) else idx
    pure (idx.map (· + 1))

/-! ## Programming the device -/

/-- `ecf_bematech::set_totalizador`. -/
def setTotalizador (descr : Str) : Prog F δ Unit := do
  match ← getTotalizadorCnf bib descr with
  | some _ => throw (ecfExp totCnfPresent)
  | none => do
    let idx := (← getProxTotalizador (getTotalizadorCnf bib)) + 1
    manda bib (.nomeiaTotalizadorNaoSujeitoIcms idx (Str.trim (descr.take sizeTotcnf)))
    altera fun drv => { drv with totCnf := [] }

end Base

/-- The flag of a payment form: the text says so, or starts with a `1`. -/
def flagVinc (vinc : Str) : Bool :=
  Str.strIequals vinc "true".toList || vinc.head? = some '1'

/-- `ecf_bematech::set_forma_pgto`. -/
def Base.setFormaPgto (forma vinc : Str) : Prog F δ Unit := do
  match ← Base.getIdFormaPgto bib forma with
  | some _ => throw (ecfExp fpgtoPresent)
  | none => do
    manda bib (.programaFormaPagamentoMFD (Str.trim (forma.take Base.sizeFpgto))
      (if flagVinc vinc then ['1'] else ['0']))
    altera fun drv => { drv with fpgto := [], vincCcd := [] }

/-- `get_prox_forma_pgto`: positions count from zero, `-1` is `IDX_NOT_FOUND`. -/
def getProxFormaPgto : Prog F δ ℤ := do
  let _ ← getIdFormaPgto bib.toDll []
  let m ← get
  pure ((m.drv.fpgto.findIdx? (· = txtAvailable)).elim (-1) Int.ofNat)

/-- `set_forma_pgto` of the CV0909: a form that is found is left as it is. -/
def setFormaPgto (forma vinc : Str) : Prog F δ Unit := do
  match ← getIdFormaPgto bib.toDll forma with
  | some _ => pure ()
  | none => do
    let idx := (← getProxFormaPgto bib) + 1
    manda bib (.programaFormaPagamentoCV0909 (Str.intoString idx)
      (Str.trim (forma.take sizeFpgto)) (if flagVinc vinc then 1 else 0))
    altera fun drv => { drv with fpgto := [] }

/-- The text of the rate is made for the call only. -/
def programaAliquota (aliq : Aliquota F) : Prog F δ Unit := do
  let m ← get
  if m.drv.fake then pure ()
  else do
    let raw ← ofExcept (aliq.getRawNumbers n)
    aciona bib.toDll (bib.acao (.programaAliquota raw
      (if aliq.tipo = Aliquota.tributadoIss then 1 else 0)))

/-- `set_aliquota`, which searches with the `get_idx_aliquota` of the base class. -/
def setAliquota [BEq F] (ub : Estrago F δ) (aliq : Aliquota F) : Prog F δ Unit := do
  let _ ← ofExcept (aliq.getSerialized n)
  match ← getIdxAliquota n bib .base ub aliq with
  | some _ => throw (ecfExp aliqDefined)
  | none => do
    programaAliquota n bib aliq
    altera fun drv => { drv with aliqs := ∅ }

/-- `set_arredondamento`. -/
def setArredondamento : Prog F δ Unit := aciona bib.toDll (bib.acao .programaArredondamento)

/-- `set_horario_verao`. -/
def setHorarioVerao : Prog F δ Unit := manda bib .programaHorarioVerao

/-! ## The drawer and the cutter -/

/-- `abre_gaveta`. -/
def abreGaveta : Prog F δ Unit := aciona bib.toDll (bib.acao .acionaGaveta)

/-- `ECF_TIPO_CORTE_ERR`. -/
def tipoCorteErr : Str := "Modo de corte nao reconhecido.".toList

/-- `aciona_guilhotina`. -/
def acionaGuilhotina (modo : ℤ) : Prog F δ Unit :=
  if modo ≠ corteParcial ∧ modo ≠ corteTotal then throw (ecfExp tipoCorteErr)
  else manda bib (.acionaGuilhotinaMFD modo)

/-- `corte_auto`. -/
def corteAuto : Prog F δ Unit := manda bib (.ativaDesativaCorteProximoMFD 0)

/-! ## The coupon -/

/-- The name under which the device knows a rate, over the position that `idxAliq` finds. -/
def nomeAliquota {σ : Type} (idxAliq : Aliquota F → Exec Excp σ (Option ℕ)) (aliq : Aliquota F) :
    Exec Excp σ Str :=
  if aliq.tipo = Aliquota.substTributaria then pure "FF".toList
  else if aliq.tipo = Aliquota.naoIncidente then pure "NN".toList
  else if aliq.tipo = Aliquota.isento then pure "II".toList
  else do
    match ← idxAliq aliq with
    | none => throw (ecfExp Ecf.aliqNotDefined)
    | some idx => formatInteiro n idx "%02.0f"

/-- The calls for an item, its texts being made. -/
def registraItem (codprod nomeprod auxAliq tmpQtde tmpValor tmpDesc : Str) : Prog F δ Unit := do
  if nomeprod.length > 29 then manda bib (.aumentaDescricaoItem nomeprod)
  manda bib (.vendeItem (codprod.take 13) (nomeprod.take 29) auxAliq ['F'] tmpQtde 3 tmpValor ['$']
    tmpDesc)

/-- `vende_item`, which searches with the `get_idx_aliquota` of the base class. -/
def vendeItem [BEq F] (ub : Estrago F δ) (codprod nomeprod straliq unidade : Str)
    (qtde valor desc : F) : Prog F δ Unit := do
  let _ ← ofExcept (Ecf.unidadeDe nomeprod unidade)
  let tmpQtde ← formatValor n qtde Ecf.fmtQtde
  let tmpValor ← formatValor n valor Ecf.fmtValor
  let tmpDesc ← formatValor n desc Ecf.fmtDesc
  let objAliq ← ofExcept (Aliquota.setStr n straliq)
  let auxAliq ← nomeAliquota n (getIdxAliquota n bib .base ub) objAliq
  registraItem bib codprod nomeprod auxAliq tmpQtde tmpValor tmpDesc

/-- `cancela_item`. -/
def cancelaItem (idx : ℤ) : Prog F δ Unit :=
  if idx > 0 then do
    let cidx ← formatInteiro n idx "%04.0f"
    manda bib (.cancelaItemGenerico cidx)
  else manda bib .cancelaItemAnterior

/-- `ecf_bematech::inicia_fechamento`. -/
def Base.iniciaFechamento (acresc : F) : Prog F δ Unit := do
  let tmpAcr ← formatValor n acresc "%11.2f"
  manda bib (.iniciaFechamentoCupomMFD ['A'] ['$'] tmpAcr "0,00".toList)
  altera fun drv => { drv with pgtoSeq := -1 }

/-- `ecf_bematech::pagamento`. -/
def Base.pagamento (fpgto : Str) (valor : F) : Prog F δ Unit := do
  match ← Base.getIdFormaPgto bib fpgto with
  | none => throw (ecfExp fpgtoMissing)
  | some idx => do
    let cidx ← formatInteiro n idx "%02.0f"
    let cvlr ← formatValor n valor "%11.2f"
    envia bib.toDll (.efetuaFormaPagamentoIndice cidx cvlr)

/-! ## Receipts and slips -/

/-- `ecf_bematech::abre_nfiscal_nvinc`. -/
def Base.abreNfiscalNvinc (nomeTot : Str) (valor : F) (moeda : Str) : Prog F δ Unit := do
  match ← Base.getTotalizadorCnf bib nomeTot with
  | none => throw (ecfExp totCnfMissing)
  | some idx => do
    let tmpIdx ← formatInteiro n idx "%02.0f"
    let tmpValor ← formatValor n valor "%11.2f"
    manda bib (.recebimentoNaoFiscal tmpIdx tmpValor (Str.trim (moeda.take Base.sizeFpgto)))

/-- `ecf_bematech::reg_nao_fiscal`, over the totalizers of the base class. -/
def Base.regNaoFiscal (totCnf : Str) (valor : F) : Prog F δ Unit := do
  match ← Base.getTotalizadorCnf bib totCnf with
  | none => throw (ecfExp totCnfMissing)
  | some idx => do
    let cidx ← formatInteiro n idx "%02.0f"
    let cvlr ← formatValor n valor "%11.2f"
    envia bib.toDll (.efetuaRecebimentoNaoFiscalMFD cidx cvlr)

/-- `abre_nfiscal_vinc`; payment forms have `tam` characters. -/
def abreNfiscalVinc (tam : ℕ) (fpgto : Str) (valor : F) (coo : ℕ) : Prog F δ Unit := do
  let tmpValor ← formatValor n valor "%11.2f"
  let tmpCoo ← formatInteiro n coo "%06.0f"
  manda bib (.abreComprovanteNaoFiscalVinculado (Str.trim (fpgto.take tam)) tmpValor tmpCoo)

/-- `msg_nfiscal_vinc`. -/
def msgNfiscalVinc (msg : Str) : Prog F δ Unit := manda bib (.usaComprovanteNaoFiscalVinculado msg)

/-- `fecha_nfiscal_vinc`. -/
def fechaNfiscalVinc : Prog F δ Unit := envia bib.toDll .fechaComprovanteNaoFiscalVinculado

/-- `ecf_bematech::abre_credito_debito`. -/
def Base.abreCreditoDebito (fpgto : Str) (valor : F) (coo : ℕ) (doc nome endr : Str) :
    Prog F δ Unit := do
  let cvalor ← formatValor n valor "%11.2f"
  let ccoo ← formatInteiro n coo "%06.0f"
  manda bib (.abreComprovanteNaoFiscalVinculadoMFD (Str.trim (fpgto.take Base.sizeFpgto)) cvalor
    ccoo doc (nome.take sizeNome) (endr.take sizeEndr))

/-- `segunda_via_ccd`. -/
def segundaViaCcd : Prog F δ Unit := manda bib .segundaViaNaoFiscalVinculadoMFD

/-- `reimprime_ccd`. -/
def reimprimeCcd : Prog F δ Unit := manda bib .reimpressaoNaoFiscalVinculadoMFD

/-- `estorna_ccd`. -/
def estornaCcd (doc nome endr : Str) : Prog F δ Unit :=
  manda bib (.estornoNaoFiscalVinculadoMFD doc (nome.take sizeNome) (endr.take sizeEndr))

/-- `cancela_nfiscal_pos`; payment forms have `tam` characters. -/
def cancelaNfiscalPos (tam : ℕ) (moeda : Str) (valor : F) (coo ccd : ℕ) (doc nome endr : Str) :
    Prog F δ Unit := do
  let ccoo ← formatInteiro n coo "%06.0f"
  let cccd ← formatInteiro n ccd "%06.0f"
  let cvlr ← formatValor n valor "%11.2f"
  manda bib (.estornoNaoFiscalVinculadoPosteriorMFD (Str.trim (moeda.take tam)) cvlr ccoo cccd doc
    (nome.take sizeNome) (endr.take sizeEndr))

/-- `sangria`. -/
def sangria (valor : F) : Prog F δ Unit := do
  let fmtValor ← formatValor n valor "%11.2f"
  manda bib (.sangria fmtValor)

/-- `suprimento`. -/
def suprimento (valor : F) (moeda : Str) : Prog F δ Unit := do
  let fmtValor ← formatValor n valor "%11.2f"
  manda bib (.suprimento fmtValor moeda)

/-! ## Reports -/

/-- The pieces of a text that `txt_rel_gerencial` sends, 480 characters each. -/
def trechos (msg : Str) : List Str :=
  let texto := Str.cstr msg
  (List.range ((texto.length + 479) / 480)).map fun i => (texto.drop (i * 480)).take 480

/-- The pieces are sent one after the other. -/
def usaRelatorio : List Str → Prog F δ Unit
  | [] => pure ()
  | buff :: resto => do
    manda bib (.usaRelatorioGerencialMFD buff)
    usaRelatorio resto

/-- `txt_rel_gerencial(msg)`. -/
def txtRelGerencial (msg : Str) : Prog F δ Unit := usaRelatorio bib (trechos msg)

/-- The loop of `txt_rel_gerencial(msg, tag)`. -/
def imprimeBlocos (msg : Str) (pivot : ℕ) : Prog F δ Unit := do
  let tmp ← ofExcept (Str.substrFrom msg pivot)
  match Str.find Ecf.tagCorte tmp with
  | none => txtRelGerencial bib tmp
  | some idx => do
    txtRelGerencial bib (tmp.take idx)
    acionaGuilhotina bib corteParcial
    if pivot + idx + Ecf.tagCorte.length < msg.length then
      imprimeBlocos msg (pivot + idx + Ecf.tagCorte.length)
termination_by msg.length - pivot
decreasing_by
  rw [Ecf.length_tagCorte] at *
  omega

/-- `fecha_rel_gerencial`. -/
def fechaRelGerencial : Prog F δ Unit := manda bib .fechaRelatorioGerencial

/-! ## The table of rates as a file -/

/-- The lines for the rates kept, numbered from `i`. -/
def linhasAliq : (i : ℕ) → List (Σ _ : ℕ, Aliquota F) → Prog F δ (List Str)
  | _, [] => pure []
  | i, e :: es => do
    let fmtIdx ← formatMonetary n (n.ofInt i) "%!=0#2.0i"
    let fmtPct ← formatMonetary n e.2.aliq "%!=0#2.2i"
    let resto ← linhasAliq (i + 1) es
    pure ((fmtIdx ++ [':', e.2.tipo, ':'] ++ fmtPct) :: resto)

/-- The rate for which `get_tab_aliq` has the table loaded. -/
def aliqDaTabela : Str := "T:00:8888".toList

/-- `get_tab_aliq`, over the `get_idx_aliquota` of the class: the name of the file, and its
lines. -/
def getTabAliq [BEq F] (t : TabelaAliqs) (ub : Estrago F δ) : Prog F δ (Str × List Str) := do
  let aliq ← ofExcept (Aliquota.setStr n aliqDaTabela)
  let _ ← getIdxAliquota n bib t ub aliq
  let arq ← nomeSaida bib "bema_aliq_" ""
  let m ← get
  let linhas ← linhasAliq n 1 (emOrdem m.drv.aliqs)
  pure (arq, linhas)

end Driver

end Spooler
