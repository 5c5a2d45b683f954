import Spooler.Broker.Comandos
import Spooler.Broker.Ecf
import Spooler.Broker.Parametros

/-!
# The broker

`ecf_broker`: one function for each command, which reads the parameters of the request, calls the
device and adds what it answers to the response, and `trade`, which chooses the function and turns
exceptions of the spooler into a response. A function that does not look at the request takes none.
-/

namespace Spooler

open Foundations Packet

/-- What the broker works on: the device, the response and the files written. -/
structure Guiche (σ : Type) where
  ecf : σ
  saida : ResponsePacket
  arquivos : List (Str × Str) := []

/-- Code of the broker. -/
abbrev Atendimento (σ α : Type) := Exec Excp (Guiche σ) α

/-- `ecf_broker`, with the floating point numbers and the process it runs in. -/
structure EcfBroker (E : Excp → Prop) (F σ : Type) where
  mEcf : Ecf E F σ
  num : Numeric F
  pid : Nat

namespace EcfBroker

variable {E : Excp → Prop} {F σ α : Type}

/-! ## Steps -/

/-- Call the device. -/
def chama (x : Exec Excp σ α) : Atendimento σ α :=
  zoom Guiche.ecf (fun g s => { g with ecf := s }) x

/-- `out->add_param(key, val)`. -/
def addParam (key : String) (val : Str) : Atendimento σ Unit :=
  modify fun g => { g with saida := g.saida.addMsg key.toList val }

/-- `get_param_value_by_name(name, in)`. -/
def parametro (name : String) (pedido : RequestPacket) : Atendimento σ Str :=
  ofExcept (getParamValueByName name.toList pedido)

/-- A parameter with a default: `try { … } catch (pkt_param_exp&) { … }`. -/
def opcional (name : String) (padrao : Str) (pedido : RequestPacket) : Atendimento σ Str :=
  tryCatch (parametro name pedido) fun e => if e.isA .pktParamExp then pure padrao else throw e

/-- Write a file, in place of one of that name. -/
def grava (nome txt : Str) : Atendimento σ Unit :=
  modify fun g => { g with arquivos := (nome, txt) :: g.arquivos.filter fun f => f.1 ≠ nome }

/-! ## Families of commands -/

/-- A question without parameters, answered in one parameter. -/
def responde (key : String) (metodo : Metodo E σ α) (texto : α → Str) : Atendimento σ Unit := do
  let valor ← chama metodo.run
  addParam key (texto valor)

/-- A file of the device, named in the response when there is one. -/
def entregaArquivo (metodo : Metodo E σ Str) : Atendimento σ Unit := do
  let arq ← chama metodo.run
  if arq ≠ [] then addParam "dados" arq

/-- An order with one text. -/
def ordena (name : String) (metodo : Str → Metodo E σ Unit) (pedido : RequestPacket) :
    Atendimento σ Unit := do
  let valor ← parametro name pedido
  chama (metodo valor).run

/-- An order about the buyer of a document. -/
def ordenaDocumento (metodo : Str → Str → Str → Metodo E σ Unit) (pedido : RequestPacket) :
    Atendimento σ Unit := do
  let dcto ← parametro "nr_documento" pedido
  let nome ← parametro "nome" pedido
  let endr ← parametro "endereco" pedido
  chama (metodo dcto nome endr).run

/-- The texts of flags. -/
def bit (b : Bool) : Str := if b then ['1'] else ['0']
def simNao (b : Bool) : Str := if b then "SIM".toList else "NAO".toList

variable (b : EcfBroker E F σ) (pedido : RequestPacket)

/-! ## The commands -/

def getNrLoja : Atendimento σ Unit := responde "valor" b.mEcf.getNrLoja Str.intoString
def getNrSerie : Atendimento σ Unit := responde "valor" b.mEcf.getNrSerie id
def getMarca : Atendimento σ Unit := responde "valor" b.mEcf.getMarca id
def getModelo : Atendimento σ Unit := responde "valor" b.mEcf.getModelo id
def getNrUsuario : Atendimento σ Unit := responde "valor" b.mEcf.getNrUsuario Str.intoString
def getNrSerieCript : Atendimento σ Unit := responde "valor" b.mEcf.getNrSerieCript id
def getNrCaixa : Atendimento σ Unit := responde "valor" b.mEcf.getNrCaixa Str.intoString
def getFirmware : Atendimento σ Unit := responde "versao" b.mEcf.getFirmware id
def getDataAtual : Atendimento σ Unit := responde "data" b.mEcf.getDataAtual id
def getHoraAtual : Atendimento σ Unit := responde "hora" b.mEcf.getHoraAtual id
def getDataMvto : Atendimento σ Unit := responde "data" b.mEcf.getDataMvto id
def getDataUltRed : Atendimento σ Unit := responde "data" b.mEcf.getDataUltRed id
def getHoraUltRed : Atendimento σ Unit := responde "hora" b.mEcf.getHoraUltRed id

/-- The states of the device that `get_status_ecf` reports. -/
def estados (sts : EcfStatus) : List String :=
  (if sts.poucoPapel then ["Pouco papel"] else []) ++
  (if sts.semPapel then ["Sem papel"] else []) ++
  (if sts.cupomFiscalAberto then ["Cupom Fiscal aberto"] else []) ++
  (if sts.zPendente then ["Reducao Z pendente"] else []) ++
  (if sts.memoriaCheia then ["Memoria Fiscal cheia"] else []) ++
  (if sts.naoFiscalAberto then ["Comprovante Nao Fiscal aberto"] else [])

/-- One `msg` for each of the states. -/
def addMsgs : List String → Atendimento σ Unit
  | [] => pure ()
  | msg :: msgs => do
    addParam "msg" msg.toList
    addMsgs msgs

def getStatusEcf : Atendimento σ Unit := do
  let sts ← chama b.mEcf.getStatusEcf.run
  addParam "contador" (Str.intoString (estados sts).length)
  addMsgs (estados sts)

def getNrCupom : Atendimento σ Unit :=
  responde "coo" b.mEcf.getNrCupom fun coo => Str.intoString coo

/-- A payment form that is not found has position 0 in the response. -/
def getIdFormaPgto : Atendimento σ Unit := do
  let descr ← parametro "descricao" pedido
  responde "indice" (b.mEcf.getIdFormaPgto descr) fun indice =>
    Str.intoString (if indice < 0 then 0 else indice)

def getTotalizadorCnf : Atendimento σ Unit := do
  let descr ← parametro "descricao" pedido
  responde "indice" (b.mEcf.getTotalizadorCnf descr) fun indice => Str.intoString (indice + 1)

def getProxTotalizador : Atendimento σ Unit :=
  responde "indice" b.mEcf.getProxTotalizador Str.intoString

def setFormaPgto : Atendimento σ Unit := do
  let descr ← parametro "descricao" pedido
  let vinc ← opcional "vinculado" "false".toList pedido
  chama (b.mEcf.setFormaPgto descr vinc).run

/-- The rate is serialized for the log. -/
def setAliquota : Atendimento σ Unit := do
  let aliq ← parametro "aliquota" pedido
  let data ← ofExcept (Aliquota.setStr b.num aliq)
  let _ ← ofExcept (data.getSerialized b.num)
  chama (b.mEcf.setAliquota data).run

def setTotalizador : Atendimento σ Unit := do
  let valor ← parametro "valor" pedido
  let tipo ← opcional "tipo" ['E'] pedido
  chama (b.mEcf.setTotalizador valor tipo).run

def sndAbreCupom : Atendimento σ Unit := ordenaDocumento b.mEcf.abreCupom pedido
def sndCancelaCupom : Atendimento σ Unit := chama b.mEcf.cancelaCupom.run

/-- Anything that goes wrong with the unit stands for no unit. -/
def sndVendeItem : Atendimento σ Unit := do
  let myUn ← tryCatch (parametro "unidade" pedido) fun _ => pure []
  let myCod ← parametro "codigo" pedido
  let myDescr ← parametro "descricao" pedido
  let myAliq ← parametro "aliquota" pedido
  let myQtde ← parametro "quantidade" pedido
  let myVlr ← parametro "valor" pedido
  let myDsc ← parametro "desconto" pedido
  chama (b.mEcf.vendeItem b.num myCod myDescr myAliq myUn (b.num.atof myQtde) (b.num.atof myVlr)
    (b.num.atof myDsc))

def sndIniciaFechamento : Atendimento σ Unit :=
  ordena "valor" (fun valor => b.mEcf.iniciaFechamento (b.num.atof valor)) pedido

def sndPagamento : Atendimento σ Unit := do
  let myMoeda ← parametro "indice" pedido
  let myVlr ← parametro "valor" pedido
  chama (b.mEcf.pagamento myMoeda (b.num.atof myVlr)).run

def sndFechaCupom : Atendimento σ Unit := ordena "mensagem" b.mEcf.fechaCupom pedido

def sndNfiscalVinc : Atendimento σ Unit := do
  let myDescr ← parametro "descricao" pedido
  let myVlr ← parametro "valor" pedido
  let myCoo ← parametro "coo" pedido
  chama (b.mEcf.abreNfiscalVinc myDescr (b.num.atof myVlr) (toUnsigned (Str.atoi myCoo))).run

def sndMsgVinc : Atendimento σ Unit := ordena "mensagem" b.mEcf.msgNfiscalVinc pedido
def sndFechaVinc : Atendimento σ Unit := chama b.mEcf.fechaNfiscalVinc.run

def sndNfiscalNvinc : Atendimento σ Unit := do
  let codigo ← parametro "codigo" pedido
  let valor ← parametro "valor" pedido
  let moeda ← parametro "moeda" pedido
  chama (b.mEcf.abreNfiscalNvinc codigo (b.num.atof valor) moeda).run

def getMaxCol : Atendimento σ Unit := responde "resposta" b.mEcf.getMaxCol Str.intoString
def sndAbregaveta : Atendimento σ Unit := chama b.mEcf.abreGaveta.run
def reducaoZ : Atendimento σ Unit := chama b.mEcf.reducaoZ.run
def getCupomAberto : Atendimento σ Unit := responde "resposta" b.mEcf.getCupomAberto bit
def setArredondamento : Atendimento σ Unit := chama b.mEcf.setArredondamento.run
def getImprimeCheques : Atendimento σ Unit := responde "resposta" b.mEcf.getImprimeCheques simNao
def getNrReducoes : Atendimento σ Unit := responde "valor" b.mEcf.getNrReducoes Str.intoString

/-- The file is emptied before the device is asked. -/
def dadosUltReducao : Atendimento σ Unit := do
  let dataFile := "/tmp/mapaecf_".toList ++ Str.intoString b.pid
  grava dataFile []
  let mapa ← chama b.mEcf.dadosUltReducao.run
  grava dataFile mapa
  addParam "dados" dataFile

def getCntReinicio : Atendimento σ Unit := responde "valor" b.mEcf.getNrReinicio Str.intoString

def memoriaFiscal : Atendimento σ Unit := do
  let tipo ← parametro "tipo" pedido
  let myIni ← parametro "data_inicio" pedido
  let myFim ← parametro "data_fim" pedido
  let compl ← parametro "completa" pedido
  let saida ← parametro "saida" pedido
  let dados ← chama (b.mEcf.memoriaFiscal
    (if Str.strIequals tipo "data".toList then leituraData else leituraReducao) myIni myFim
    (!Str.strIequals compl "false".toList)
    (if Str.strIequals saida "serial".toList then saidaSerial else saidaEcf))
  addParam "dados" dados

def leituraX : Atendimento σ Unit := do
  let arg ← opcional "saida" "ecf".toList pedido
  entregaArquivo (b.mEcf.leituraX
    (if Str.strIequals arg "serial".toList then saidaSerial else saidaEcf))

def setMoedaSingular : Atendimento σ Unit := ordena "descricao" b.mEcf.setMoedaSingular pedido
def setMoedaPlural : Atendimento σ Unit := ordena "descricao" b.mEcf.setMoedaPlural pedido

/-- The parameters are read in the order in which they are written. -/
def sndImprimeCheque : Atendimento σ Unit := do
  let valorX ← parametro "valor_x" pedido
  let valorY ← parametro "valor_y" pedido
  let valor ← parametro "valor" pedido
  let ext1X ← parametro "ext1_x" pedido
  let ext1Y ← parametro "ext1_y" pedido
  let ext2X ← parametro "ext2_x" pedido
  let ext2Y ← parametro "ext2_y" pedido
  let favX ← parametro "fav_x" pedido
  let favY ← parametro "fav_y" pedido
  let favorecido ← parametro "favorecido" pedido
  let localX ← parametro "local_x" pedido
  let localY ← parametro "local_y" pedido
  let localidade ← parametro "localidade" pedido
  let diaX ← parametro "dia_x" pedido
  let dia ← parametro "dia" pedido
  let mesX ← parametro "mes_x" pedido
  let mes ← parametro "mes" pedido
  let anoX ← parametro "ano_x" pedido
  let ano ← parametro "ano" pedido
  let mensagem ← parametro "mensagem" pedido
  chama (b.mEcf.imprimeCheque (Str.atoi valorX) (Str.atoi valorY) (b.num.atof valor)
    (Str.atoi ext1X) (Str.atoi ext1Y) (Str.atoi ext2X) (Str.atoi ext2Y) (Str.atoi favX)
    (Str.atoi favY) favorecido (Str.atoi localX) (Str.atoi localY) localidade (Str.atoi diaX)
    (Str.atoi dia) (Str.atoi mesX) (Str.atoi mes) (Str.atoi anoX) (Str.atoi ano) mensagem).run

def sndAbreRelGerencial : Atendimento σ Unit := ordena "titulo" b.mEcf.abreRelGerencial pedido
def sndTxtGerencial : Atendimento σ Unit := ordena "mensagem" b.mEcf.txtRelGerencial pedido
def sndFechaRelGerencial : Atendimento σ Unit := chama b.mEcf.fechaRelGerencial.run
def setRelGerencial : Atendimento σ Unit := ordena "descricao" b.mEcf.setRelGerencial pedido

def sndAcionaGuilhotina : Atendimento σ Unit :=
  ordena "cortetotal" (fun total => b.mEcf.acionaGuilhotina
    (if Str.strIequals total "true".toList then corteTotal else corteParcial)) pedido

def getIdRelGerencial : Atendimento σ Unit := do
  let descr ← parametro "descricao" pedido
  responde "valor" (b.mEcf.getIdRelGerencial descr) Str.intoString

def sndCorteAuto : Atendimento σ Unit := chama b.mEcf.corteAuto.run
def getIstermica : Atendimento σ Unit := responde "valor" b.mEcf.isTermica bit
def getIspafcompliant : Atendimento σ Unit := responde "valor" b.mEcf.isPafCompliant bit

def setTipoCorte : Atendimento σ Unit :=
  ordena "cortetotal" (fun total => b.mEcf.setTipoCorte (Str.strIequals total "true".toList)) pedido

def grandetotal : Atendimento σ Unit := responde "valor" b.mEcf.getGrandeTotal b.num.intoString
def matchconf : Atendimento σ Unit := responde "resposta" b.mEcf.matchConf bit

def sndSangria : Atendimento σ Unit :=
  ordena "valor" (fun valor => b.mEcf.sangria (b.num.atof valor)) pedido

def sndSuprimento : Atendimento σ Unit :=
  ordena "valor" (fun valor => b.mEcf.suprimento (b.num.atof valor) "Dinheiro".toList) pedido

def setHorarioverao : Atendimento σ Unit := chama b.mEcf.setHorarioVerao.run
def getIshorarioverao : Atendimento σ Unit := responde "resposta" b.mEcf.isHorarioVerao bit

/-- The kind of a range of the fiscal memory. -/
def tipoDownload (tipo : Str) : Int :=
  if Str.strIequals tipo "data".toList then downloadMfdData else downloadMfdCoo

def downloadmfd : Atendimento σ Unit := do
  let tipo ← parametro "tipo" pedido
  let inicial ← parametro "inicial" pedido
  let final ← parametro "final" pedido
  responde "dados" (b.mEcf.downloadMfd (tipoDownload tipo) inicial final 1) id

def getPoucopapel : Atendimento σ Unit := responde "resposta" b.mEcf.poucoPapel bit

def getCntCupomfiscal : Atendimento σ Unit :=
  responde "valor" b.mEcf.contadorCupomFiscal Str.intoString

def getCntNaofiscal : Atendimento σ Unit :=
  responde "valor" b.mEcf.contadorTotNaofiscal Str.intoString

def getCntCreddeb : Atendimento σ Unit :=
  responde "valor" b.mEcf.contadorCreditoDebito Str.intoString

def getCntRelgerencial : Atendimento σ Unit :=
  responde "valor" b.mEcf.contadorRelGerenciais Str.intoString

def sndCancelaItem : Atendimento σ Unit := chama (b.mEcf.cancelaItem 0).run
def sndAbrerecibo : Atendimento σ Unit := ordenaDocumento b.mEcf.abreRecibo pedido

def sndAbreccd : Atendimento σ Unit := do
  let fpgto ← parametro "formapgto" pedido
  let valor ← parametro "valor" pedido
  let coo ← parametro "coo" pedido
  ordenaDocumento (b.mEcf.abreCreditoDebito fpgto (b.num.atof valor) (toUnsigned (Str.atoi coo)))
    pedido

def sndSegundaviaccd : Atendimento σ Unit := chama b.mEcf.segundaViaCcd.run
def sndReimprimeccd : Atendimento σ Unit := chama b.mEcf.reimprimeCcd.run

/-- The buyer is optional, as a whole. -/
def sndCancelarecibo : Atendimento σ Unit := do
  let comprador ← tryCatch
    (do
      let doc ← parametro "nr_documento" pedido
      let nome ← parametro "nome" pedido
      let endr ← parametro "endereco" pedido
      pure (doc, nome, endr))
    fun e => if e.isA .pktParamExp then pure ([], [], []) else throw e
  chama (b.mEcf.cancelaRecibo comprador.1 comprador.2.1 comprador.2.2).run

def sndCancelaccd : Atendimento σ Unit := ordenaDocumento b.mEcf.estornaCcd pedido

def sndRegnaofiscal : Atendimento σ Unit := do
  let idx ← parametro "indice" pedido
  let vlr ← parametro "valor" pedido
  chama (b.mEcf.regNaoFiscal idx (b.num.atof vlr)).run

def sndLctonaofiscal : Atendimento σ Unit := do
  let fpgto ← parametro "formapgto" pedido
  let valor ← parametro "valor" pedido
  chama (b.mEcf.lctoNaoFiscal fpgto (b.num.atof valor)).run

def sndIniciafechamentonaofiscal : Atendimento σ Unit := do
  let tipo ← parametro "tipo" pedido
  let valor ← parametro "valor" pedido
  chama (b.mEcf.iniciaFechamentoNaoFiscal (tipo.headD '\x00') (b.num.atof valor)).run

def sndFecharecibo : Atendimento σ Unit := ordena "mensagem" b.mEcf.fechaRecibo pedido
def sndFechaccd : Atendimento σ Unit := chama b.mEcf.fechaCcd.run

def sndCancnaofiscalpos : Atendimento σ Unit := do
  let fpgto ← parametro "formapgto" pedido
  let valor ← parametro "valor" pedido
  let coo ← parametro "coo" pedido
  let cdc ← parametro "cdc" pedido
  ordenaDocumento (b.mEcf.cancelaNfiscalPos fpgto (b.num.atof valor) (toUnsigned (Str.atoi coo))
    (toUnsigned (Str.atoi cdc))) pedido

/-- The values behind the cursor, `k` at most, up to the first empty one. -/
def proximosValores : (k : Nat) → PktParam → Str
  | 0, _ => []
  | k + 1, msg =>
    match msg.nextValue with
    | .error _ => []
    | .ok (slice, msg) => if slice = [] then [] else slice ++ proximosValores k msg

/-- The values of a message, one after the other. -/
def juntaValores (msg : PktParam) : Except Excp Str := do
  let (slice, msg) ← msg.value
  pure (slice ++ proximosValores msg.numLines msg)

/-- A message without a value counts as empty, but `get_param_by_name` refuses one, and a missing
parameter too: what it raises is no `packet_exp`. -/
def sndAbreGerencial : Atendimento σ Unit := do
  b.sndAbreRelGerencial pedido
  let texto ← tryCatch
    (do
      let msg ← ofExcept (getParamByName "mensagem".toList pedido)
      tryCatch (ofExcept (juntaValores msg)) fun e =>
        if e.isA .pktParamExp then pure [] else throw e)
    fun e => if e.isA .packetExp then pure [] else throw e
  if texto ≠ [] then chama (b.mEcf.txtRelGerencialTag texto)
  b.sndFechaRelGerencial

def getNaofiscAberto : Atendimento σ Unit := responde "valor" b.mEcf.naoFiscalAberto bit
def getTabAliq : Atendimento σ Unit := entregaArquivo b.mEcf.getTabAliq
def getTabRelger : Atendimento σ Unit := entregaArquivo b.mEcf.getTabRelger
def getTabTotcnf : Atendimento σ Unit := entregaArquivo b.mEcf.getTabTotcnf
def getTabFpgto : Atendimento σ Unit := entregaArquivo b.mEcf.getTabFpgto

def convertemfd : Atendimento σ Unit := do
  let tipo ← parametro "tipo" pedido
  let inicial ← parametro "inicial" pedido
  let final ← parametro "final" pedido
  let origem ← parametro "origem" pedido
  let destino ← parametro "destino" pedido
  let fmt ← tryCatch
    (do
      let formato ← parametro "formato" pedido
      pure (if Str.strIequals formato "mfd".toList then convMfdTexto else convMfdCotepe))
    fun e => if e.isA .pktParamExp then pure convMfdTexto else throw e
  let usr ← opcional "usuario" ['1'] pedido
  chama (b.mEcf.converteMfd (tipoDownload tipo) inicial final origem destino fmt (Str.atoi usr)).run

/-! ## The choice of a command -/

/-- `CMDTAG_UNKNOWN_CMD`. -/
def cmdtagUnknownCmd : Str := "Comando nao reconhecido.".toList

/-- The `switch` of `trade`. -/
def despacha : CmdIdx → Atendimento σ Unit
  | .none => throw (.spooler .cmdtagExp cmdtagUnknownCmd)
  | .getNrLoja => b.getNrLoja
  | .getNrSerie => b.getNrSerie
  | .getMarca => b.getMarca
  | .getModelo => b.getModelo
  | .getNrUsuario => b.getNrUsuario
  | .getNrSerieCript => b.getNrSerieCript
  | .getNrCaixa => b.getNrCaixa
  | .getFirmware => b.getFirmware
  | .getDataAtual => b.getDataAtual
  | .getHoraAtual => b.getHoraAtual
  | .getDataMvto => b.getDataMvto
  | .getDataUltRed => b.getDataUltRed
  | .getHoraUltRed => b.getHoraUltRed
  | .getStatusEcf => b.getStatusEcf
  | .getNrCupom => b.getNrCupom
  | .getIdFormaPgto => b.getIdFormaPgto pedido
  | .getTotalizadorCnf => b.getTotalizadorCnf pedido
  | .getProxTotalizador => b.getProxTotalizador
  | .setFormaPgto => b.setFormaPgto pedido
  | .setAliquota => b.setAliquota pedido
  | .setTotalizador => b.setTotalizador pedido
  | .sndAbreCupom => b.sndAbreCupom pedido
  | .sndCancelaCupom => b.sndCancelaCupom
  | .sndVendeItem => b.sndVendeItem pedido
  | .sndIniciaFechamento => b.sndIniciaFechamento pedido
  | .sndPagamento => b.sndPagamento pedido
  | .sndFechaCupom => b.sndFechaCupom pedido
  | .sndNfiscalVinc => b.sndNfiscalVinc pedido
  | .sndMsgVinc => b.sndMsgVinc pedido
  | .sndFechaVinc => b.sndFechaVinc
  | .sndNfiscalNvinc => b.sndNfiscalNvinc pedido
  | .getMaxCol => b.getMaxCol
  | .sndAbregaveta => b.sndAbregaveta
  | .reducaoZ => b.reducaoZ
  | .getCupomAberto => b.getCupomAberto
  | .setArredondamento => b.setArredondamento
  | .getImprimeCheques => b.getImprimeCheques
  | .getNrReducoes => b.getNrReducoes
  | .dadosUltReducao => b.dadosUltReducao
  | .getCntReinicio => b.getCntReinicio
  | .memoriaFiscal => b.memoriaFiscal pedido
  | .leituraX => b.leituraX pedido
  | .setMoedaSingular => b.setMoedaSingular pedido
  | .setMoedaPlural => b.setMoedaPlural pedido
  | .sndImprimeCheque => b.sndImprimeCheque pedido
  | .sndAbreRelGerencial => b.sndAbreRelGerencial pedido
  | .sndTxtGerencial => b.sndTxtGerencial pedido
  | .sndFechaRelGerencial => b.sndFechaRelGerencial
  | .setRelGerencial => b.setRelGerencial pedido
  | .sndAcionaGuilhotina => b.sndAcionaGuilhotina pedido
  | .getIdRelGerencial => b.getIdRelGerencial pedido
  | .sndCorteAuto => b.sndCorteAuto
  | .getIstermica => b.getIstermica
  | .getIspafcompliant => b.getIspafcompliant
  | .setTipoCorte => b.setTipoCorte pedido
  | .grandetotal => b.grandetotal
  | .matchconf => b.matchconf
  | .sndSangria => b.sndSangria pedido
  | .sndSuprimento => b.sndSuprimento pedido
  | .setHorarioverao => b.setHorarioverao
  | .getIshorarioverao => b.getIshorarioverao
  | .downloadmfd => b.downloadmfd pedido
  | .getPoucopapel => b.getPoucopapel
  | .getCntCupomfiscal => b.getCntCupomfiscal
  | .getCntNaofiscal => b.getCntNaofiscal
  | .getCntCreddeb => b.getCntCreddeb
  | .getCntRelgerencial => b.getCntRelgerencial
  | .sndCancelaItem => b.sndCancelaItem
  | .sndAbrerecibo => b.sndAbrerecibo pedido
  | .sndAbreccd => b.sndAbreccd pedido
  | .sndSegundaviaccd => b.sndSegundaviaccd
  | .sndReimprimeccd => b.sndReimprimeccd
  | .sndCancelarecibo => b.sndCancelarecibo pedido
  | .sndCancelaccd => b.sndCancelaccd pedido
  | .sndRegnaofiscal => b.sndRegnaofiscal pedido
  | .sndLctonaofiscal => b.sndLctonaofiscal pedido
  | .sndIniciafechamentonaofiscal => b.sndIniciafechamentonaofiscal pedido
  | .sndFecharecibo => b.sndFecharecibo pedido
  | .sndFechaccd => b.sndFechaccd
  | .sndCancnaofiscalpos => b.sndCancnaofiscalpos pedido
  | .sndAbreGerencial => b.sndAbreGerencial pedido
  | .getNaofiscAberto => b.getNaofiscAberto
  | .getTabAliq => b.getTabAliq
  | .getTabRelger => b.getTabRelger
  | .getTabTotcnf => b.getTabTotcnf
  | .getTabFpgto => b.getTabFpgto
  | .convertemfd => b.convertemfd pedido

/-- The handler of `trade`: an exception of the spooler becomes an error with one message. -/
def recusa : Excp → Atendimento σ Unit
  | .spooler _ what => do
    modify fun g => { g with saida := { g.saida with retCode := pktResponseErr } }
    addParam "msg" (Str.cstr what)
  | e => throw e

/-- The response as `trade` starts with it. -/
def prepara (g : Guiche σ) : Guiche σ :=
  { g with saida :=
    { g.saida with type := pedido.type, id := pedido.id, retCode := pktResponseOk } }

/-- `ecf_broker::trade`. -/
def trade : Atendimento σ Unit :=
  tryCatch
    (do
      modify (prepara pedido)
      let oneCmd ← ofExcept (CmdIdx.tagEnum pedido.id)
      b.despacha pedido oneCmd)
    recusa

end EcfBroker

end Spooler
