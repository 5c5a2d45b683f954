import Spooler.Driver.Aliquota

/-!
# Status of the device

What `ecf_bematech` reads off an answer of the printer: the return code of the library
(`evalRetcode`), the status bytes ST1, ST2 and ST3 (`evalStatus`), and the flags `ecf_status`
kept of them (`EcfStatus.ofStatus`).
-/

namespace Spooler

/-! ## Constants -/

def bematechOk : Int := 1
def bematechCommErr : Int := 0
def bematechExecFailure : Int := -1
def bematechInvalidParam : Int := -2
def bematechMissingAliq : Int := -3
def bematechMissingIniFile : Int := -4
def bematechSerialOpenErr : Int := -5
def bematechUnpluggedEcf : Int := -6
def bematechTxtWriteErr : Int := -8
def bematechMissingFpgto : Int := -24
def bematechNotOkStatus : Int := -27
def bematechNaoFiscalAberto : Nat := 48
def bematechArrayHole : Nat := 216
def bematechHigherBound : Nat := 218

/-- The messages of ST3: one fewer than `bematechHigherBound` says. -/
def bematechSt3Msgs : List String :=
  ["Comando Ok", "Comando invalido", "Erro desconhecido", "Numero de parametro invalido",
   "Tipo de parametro invalido", "Todas aliquotas ja programadas",
   "Totalizador nao fiscal ja programado", "Cupom Fiscal aberto", "Cupom Fiscal fechado",
   "ECF ocupado", "Impressora em erro", "Impressora sem papel", "Impressora com cabeca levantada",
   "Impressora off line", "Aliquota nao programada", "Terminador de string faltando",
   "Acrescimo ou desconto maior que o total do cupom fiscal", "Cupom Fiscal sem item vendido",
   "Comando nao efetivado", "Sem espaco para novas formas de pagamento",
   "Forma de pagamento nao programada", "Indice maior que numero de forma de pagamento",
   "Formas de pagamento encerradas", "Cupom nao totalizado", "Comando maior que 7Fh (127d)",
   "Cupom Fiscal aberto e sem item", "Cancelamento nao imediataento apos",
   "Cancelamento ja efetuado", "Comprovante de credito ou debito nao permitido ou ja emitido",
   "Meio de pagamento nao permite TEF", "Sem comprovante nao fiscal aberto",
   "Comprovante de credito ou debito ja aberto", "Reimpressao nao permitida",
   "Comprovante nao fiscal ja aberto", "Totalizador nao fiscal nao programado",
   "Cupom nao fiscal sem item vendido", "Acrescimo e desconto maior que total CNF",
   "Meio de pagamento nao indicado", "Meio de pagamento diferente do total do recebimento",
   "Nao permitido mais de uma sangria ou suprimento", "Relatorio gerencial ja programado",
   "Relatorio gerencial nao programado", "Relatorio gerencial nao permitido",
   "MFD nao inicializada", "MFD ausente", "MFD sem numero de serie", "MFD ja inicializada",
   "MFD lotada", "Cupom nao fiscal aberto", "Memoria fiscal desconectada",
   "Memoria fiscal sem numero de serie da MFD", "Memoria fiscal lotada", "Data inicial invalida",
   "Data final invalida", "Contador de Reducao Z inicial invalido",
   "Contador de Reducao Z final invalido", "Erro de alocacao", "Dados do RTC incorretos",
   "Data anterior ao ultimo documento emitido", "Fora de intervencao tecnica",
   "Em intervencao tecnica", "Erro na memoria de trabalho", "Ja houve movimento no dia",
   "Bloqueio por RZ", "Forma de pagamento aberta", "Aguardando primeiro proprietario",
   "Aguardando RZ", "ECF ou loja igual a zero", "Cupom adicional nao permitido",
   "Desconto maior que o total vendido em ICMS", "Recebimento nao fiscal nulo nao permitido",
   "Acrescimo ou desconto maior que total nao fiscal", "Memoria fiscal lotada para novo cartucho",
   "Erro de gravacao na MF", "Erro de gravacao na MFD",
   "Dados do RTC anteriores ao ultimo DOC armazenado",
   "Memoria fiscal sem espaco para gravar leituras da MFD",
   "Memoria fiscal sem espaco para gravar versao do SB", "Decricao igual a DEFAULT nao permitido",
   "Extrapolado numero de repeticoes permitidas",
   "Segunda via do comprovante de credito ou debito nao permitido",
   "Parcelamento fora da sequencia", "Comprovante de credito ou debito aberto",
   "Texto com sequencia de ESC invalida", "Texto com sequencia de ESC incompleta",
   "Venda com valor nulo", "Estorno de valor nulo",
   "Forma de pagamento diferente do total da sangria",
   "Reducao nao permitida em intervencao tecnica",
   "Aguardando RZ para entrada em intervencao tecnica",
   "Forma de pagamento com valor nulo nao permitido",
   "Acrescimo e desconto maior que valor do item", "Autenticacao nao permitida",
   "Timeout na validacao", "Comando nao executado em impressora bilhete de passagem",
   "Comando nao executado em impressora de cupom fiscal", "Cupom nao fiscal fechado",
   "Parametro nao ASCII em campo ASCII", "Parametro nao ASCII numerico em campo ASCII numerico",
   "Tipo de transporte invalido", "Data e hora invalida",
   "Sem relatorio gerencial ou comprovante de credito ou debito aberto",
   "Numero do totalizador nao fiscal invalido", "Parametro de acrescimo ou desconto invalido",
   "Acrescimo ou desconto em sangria ou suprimento nao permitido",
   "Numero do relatorio gerencial invalido", "Forma de pagamento origem nao programada",
   "Forma de pagamento destino nao programada", "Estorno maior que forma pagamento",
   "Caracter numerico na codificacao GT nao permitido", "Erro na inicializacao da MF",
   "Nome do totalizador em branco nao permitido",
   "Data e hora anteriores ao ultimo DOC armazenado",
   "Parametro de acrescimo ou desconto invalido", "Item anterior aos trezentos ultimos",
   "Item nao existe ou ja cancelado", "Codigo com espacos nao permitido",
   "Descricao em caracter alfabetico nao permitido", "Acrescimo maior que valor do item",
   "Desconto maior que valor do item", "Desconto em ISS nao permitido",
   "Acrescimo em item ja efetuado", "Desconto em item ja efetuado",
   -- no comma stands between these two: they are one entry, and those behind move up
   "Erro na memoria fiscal. Chamar credenciado" ++ "Aguardando gravacao na memoria fiscal",
   "Caracter repetido na codificacao do GT", "Versao ja gravada na memoria fiscal",
   "Estouro de capacidade no cheque", "Timeout na leitura do cheque", "Mes invalido",
   "Coordenada invalida", "Sobreposicao de texto", "Sobreposicao de texto no valor",
   "Sobreposicao de texto no extenso", "Sobreposicao de texto no favorecido",
   "Sobreposicao de texto na localidade", "Sobreposicao de texto no opcional",
   "Sobreposicao de texto no dia", "Sobreposicao de texto no mes", "Sobreposicao de texto no ano",
   "Usando MFD de outro ECF", "Primeira dado diferente de ESC ou 1C",
   "Nao permitido alterar sem intervencao tecnica", "Dados da ultima RZ corrompidos",
   "Comando nao permitido no modo inicializacao", "Aguardando acerto de relogio",
   "MFD ja inicializada para outra MF", "Aguardando acerto do relogio ou desbloqueio pelo teclado",
   "Valor forma de pagamento maior que maximo permitido", "Razao social em branco",
   "Nome de fantasia em branco", "Endereco em branco", "Estorno de CDC nao permitido",
   "Dados do proprietario iguais ao atual", "Estorno de forma de pagamento nao permitido",
   "Descricao forma de pagamento igual ja programada",
   "Aerto de horario de verao so imediatamente apos RZ", "IT nao permitida MF reservada para RZ",
   "Senha CNPJ invalida", "Timeout na inicializacao da nova MF", "Nao encontrado dados na MFD",
   "Sangria ou suprimento devem ser unicos no CNF",
   "Indice de forma de pagamento nulo nao permitido", "UF destino invalida",
   "Tipo de transporte incompativel com UF destino",
   "Descricao do primeiro item do bilhete de passagem diferente de TARIFA",
   "Aguardando impressao de cheque ou autenticacao",
   "Nao permitido programacao CNPJ IE com espacos em branco",
   "Nao permitido programacao UF com espacos em branco",
   "Numero de impressoes da fita detalhe nesta intervencao tecnica esgotado",
   "CF ja subtotalizado", "Cupom nao subtotalizado", "Acrescimo em subtotal ja efetuado",
   "Desconto em subtotal ja efetuado", "Acrescimo nulo nao permitido",
   "Desconto nulo nao permitido",
   "Cancelamento de acrescimo ou desconto em subtotal nao permitido", "Data invalida",
   "Valor do cheque nulo nao permitido", "Valor do cheque invalido",
   "Cheque sem localidade nao permitido", "Cancelamento acrescimo em item nao permitido",
   "Cancelamento desconto em item nao permitido", "Numero maximo de itens atingido",
   "Numero de item nulo nao permitido",
   "Mais que duas aliquotas diferentes no bilhete de passagem nao permitido",
   "Acrescimo ou desconto em item nao permitido",
   "Cancelamento de acrescimo ou desconto em item nao permitido", "Cliche ja impresso",
   "Texto opcional do cheque excedeu o maximo permitido",
   "Impressao automatica no verso nao permitido neste equipamento",
   "Timeout na insercao do cheque",
   "Overflow na capacidade de texto do comprovante de credito ou debito",
   "Programacao de espacos entre cupons menor que o minimo permitido",
   "Equipamento nao possui leitor de cheque",
   "Programacao de aliquota com valor nulo nao permitido", "Parametro baud rate invalido",
   "Configuracao permitida somente pela porta do fisco", "Valor total do item excede 11 digitos",
   "Programacao da moeda com espacos em branco nao permitido",
   "Casas decimais devem ser programadas com 2 ou 3",
   "Nao permite cadastrar usuarios diferentes na mesma MFD",
   "Identificacao do consumidor nao permitida para sangria ou suprimento",
   "Casas decimais em quantidade maior do que a permitida",
   "Casas decimais do unitario maior do que a permitida", "Posicao reservada para ICMS",
   "Posicao reservada para ISS", "Todas as aliquotas com a mesma vinculacao nao permitido",
   "Data de embarque anterior a data de emissao",
   "Aliquota de ISS nao permitida sem inscricao municipal",
   "Retorno pacote cliche fora da sequencia", "Espaco para armazenamento do cliche esgotado",
   "Cliche grafico nao disponivel para confirmacao",
   "CRC do cliche grafico diferente do informado", "Intervalo invalido", "Usuario ja programado",
   "", "Detectada abertura do equipamento", "Cancelamento de acrescimo/desconto nao permitido"]

/-! ## The status bytes -/

/-- `bematech_status_mfd`. -/
structure StatusMfd where
  st3 : Nat := 0
  st2 : Nat := 0
  st1 : Nat := 0
  ack : Nat := 0
  deriving DecidableEq

/-- The four registers `Bematech_FI_RetornoImpressoraMFD` writes. -/
structure Retorno where
  ack : Int
  st1 : Int
  st2 : Int
  st3 : Int
  deriving DecidableEq

/-- `n & 0x00FF`. -/
def byte (n : Int) : Nat := (n % 256).toNat

/-- The status bytes of an answer. -/
def Retorno.status (r : Retorno) : StatusMfd :=
  { st3 := byte r.st3, st2 := byte r.st2, st1 := byte r.st1, ack := byte r.ack }

/-- `ecf_status`. -/
structure EcfStatus where
  poucoPapel : Bool := false
  semPapel : Bool := false
  cupomFiscalAberto : Bool := false
  zPendente : Bool := false
  memoriaCheia : Bool := false
  naoFiscalAberto : Bool := false
  deriving DecidableEq, Inhabited

/-- `set_status`. -/
def EcfStatus.ofStatus (ignorarPoucoPapel : Bool) (sts : StatusMfd) : EcfStatus where
  semPapel := sts.st1.testBit 7
  poucoPapel := sts.st1.testBit 6 && !ignorarPoucoPapel
  cupomFiscalAberto := sts.st1.testBit 1
  memoriaCheia := sts.st2.testBit 6
  naoFiscalAberto := sts.st3 = bematechNaoFiscalAberto

/-- The message for an error in ST3. What stands behind the table is taken for an empty text. -/
def msgSt3 (st3 : Nat) : Str :=
  if st3 = bematechArrayHole then "Codigo ST3 indefinido".toList
  else if bematechHigherBound < st3 then "Valor muito grande para ST3".toList
  else (bematechSt3Msgs.getD st3 "").toList

/-- ST1: whether it is good, and the message, which is left alone where paper running low is
ignored. -/
def evalSt1 (ignorarPoucoPapel : Bool) (stsmsg : Str) (st1 : Nat) : Bool × Str :=
  if st1 = 0 then (true, stsmsg)
  else if st1.testBit 0 then (false, "Num. de parametro(s) invalido(s)".toList)
  else if st1.testBit 1 then (false, "Cupom aberto".toList)
  else if st1.testBit 2 then (false, "Comando inexistente".toList)
  else if st1.testBit 3 then (false, "Comando nao iniciado com ESC".toList)
  else if st1.testBit 4 then (false, "Impressora em erro".toList)
  else if st1.testBit 5 then (false, "Erro no relogio".toList)
  else if st1.testBit 6 then
    if !ignorarPoucoPapel then (false, "Pouco papel".toList)
    -- with the bit cleared only the end of the paper is left
    else (!st1.testBit 7, stsmsg)
  else (false, "Fim de papel".toList)

/-- ST2. The test of bit 2 stores the message of bit 1. -/
def evalSt2 (stsmsg : Str) (st2 : Nat) : Bool × Str :=
  if st2 = 0 then (true, stsmsg)
  else if st2.testBit 0 then (false, "Comando nao executado".toList)
  else if st2.testBit 1 then (false, "CNPJ/IE propriet. nao programado".toList)
  else if st2.testBit 2 then (false, "CNPJ/IE propriet. nao programado".toList)
  else if st2.testBit 3 then (false, "Capacidade de aliquotas lotada".toList)
  else if st2.testBit 4 then (false, "Aliquota nao programada".toList)
  else if st2.testBit 5 then (false, "Erro na memoria RAM".toList)
  else if st2.testBit 6 then (false, "Memoria fiscal lotada".toList)
  else (false, "Tipo de param. de comando invalido".toList)

/-- `eval_status`: whether the status is good, and what `m_stsmsg` holds then. -/
def evalStatus (ignorarPoucoPapel : Bool) (stsmsg : Str) (sts : StatusMfd) : Bool × Str :=
  if sts.st3 ≠ 0 then (false, msgSt3 sts.st3)
  else
    let (flg1, stsmsg) := evalSt1 ignorarPoucoPapel stsmsg sts.st1
    let (flg2, stsmsg) := evalSt2 stsmsg sts.st2
    (flg1 && flg2, stsmsg)

/-! ## The return code -/

/-- `eval_retcode`: whether the call went well, and what `m_retmsg` holds then. The codes without a
text are taken to have five characters at most, all that `code[6]` has room for. -/
def evalRetcode (retcode : Int) : Bool × Str :=
  if retcode = bematechCommErr then (false, "Erro de comunicacao.".toList)
  else if retcode = bematechOk then (true, "Ok.".toList)
  else if retcode = bematechExecFailure then (false, "Erro de execucao da funcao.".toList)
  else if retcode = bematechInvalidParam then (false, "Parametro invalido na funcao.".toList)
  else if retcode = bematechMissingAliq then (false, "Aliquota nao programada.".toList)
  else if retcode = bematechMissingIniFile then
    (false, "Arquivo BemaFI32.ini nao encontrado.".toList)
  else if retcode = bematechSerialOpenErr then
    (false, "Erro ao abrir porta de comunicacao.".toList)
  else if retcode = bematechUnpluggedEcf then
    (false, "Impressora desligada ou cabo de comunicacao descontado.".toList)
  else if retcode = bematechTxtWriteErr then
    (false, "Erro ao criar/gravar STATUS.TXT ou RETORNO.TXT.".toList)
  else if retcode = bematechMissingFpgto then
    (false, "Forma de pagamento nao programada.".toList)
  else if retcode = bematechNotOkStatus then
    (false, "Status da impressora diferente de 6,0,0 (ACK, ST1 e ST2)".toList)
  else
    -- `sprintf(code, "%5d", retcode)`
    let code := Str.intoString retcode
    (false, "Codigo de retorno nao identificado! (#".toList ++
      List.replicate (5 - code.length) ' ' ++ code ++ ")".toList)

/-- Only `BEMATECH_OK` is a good return code. -/
theorem evalRetcode_fst (retcode : Int) :
    (evalRetcode retcode).1 = true ↔ retcode = bematechOk := by
  constructor
  · intro h
    by_contra hne
    simp only [evalRetcode, apply_ite Prod.fst, if_neg hne, ite_self, -String.reduceToList] at h
    cases h
  · intro h
    subst h
    rfl

end Spooler
