import Spooler.Driver.Bematech

/-!
# The two drivers

`Aparelho` is the machine with the data members that only a few operations look at. `Operacao` lists
the operations of the interface `ecf`, and `Operacao.prog` runs one of them in either class
(`Classe`); an `Evento` is an operation or the construction of the object. The class
`ecf_bematech_cv0909` inherits most of them and has its own in place of some. Where the base class
calls a function of the interface it gets the one of the object, except for `get_idx_aliquota`,
which is not part of the interface.
-/

namespace Spooler

open Foundations

/-! ## The object -/

/-- The driver with its device, and the rest of the data members. -/
structure Aparelho (F δ : Type) extends Maquina F δ where
  marca : Str := []
  modelo : Str := []
  tipo : Str := []
  relger : List Str := []

/-- An object before the body of its constructor. -/
def Aparelho.novo {F δ : Type} (fake : Bool) (dev : δ) : Aparelho F δ where
  toMaquina := .ligada fake true [] dev

/-- The class of an object. -/
inductive Classe
  | base
  | cv0909
  deriving DecidableEq

namespace Classe

/-- `m_size_fpgto` and `m_size_relger`. -/
def sizeFpgto : Classe → ℕ
  | base => Driver.Base.sizeFpgto
  | cv0909 => Driver.sizeFpgto

def sizeRelger : Classe → ℕ
  | base => 17
  | cv0909 => 15

/-- The `get_idx_aliquota` of the class. -/
def tabela : Classe → TabelaAliqs
  | base => .base
  | cv0909 => .cv0909

end Classe

/-- Code of the whole object. -/
abbrev ProgObj (F δ α : Type) := Exec Excp (Aparelho F δ) α

namespace Driver

variable {F δ α : Type} (n : Numeric F) (bib : Biblioteca δ)

/-- Code of the driver, in the object. -/
def noObjeto (x : Prog F δ α) : ProgObj F δ α :=
  zoom Aparelho.toMaquina (fun a m => { a with toMaquina := m }) x

/-! ## Brand and model -/

/-- `get_marca`. -/
def getMarca : ProgObj F δ Str := do
  let a ← get
  if a.marca = [] then do
    let r ← noObjeto (consulta bib.toDll bib.marcaModeloTipoImpressoraMFD)
    modify fun a =>
      { a with marca := Str.cstr r.1, modelo := Str.cstr r.2.1, tipo := Str.cstr r.2.2 }
    pure (Str.cstr r.1)
  else pure a.marca

/-- `get_modelo`. -/
def getModelo : ProgObj F δ Str := do
  let a ← get
  if a.modelo = [] then do
    let modelo ← noObjeto (leTexto bib .modeloImpressora)
    modify fun a => { a with modelo }
    pure modelo
  else pure a.modelo

/-! ## Reports by name -/

/-- `ECF_REL_GER_MISSING` and `ECF_REL_GER_PRESENT`. -/
def relGerMissing : Str := "Relatorio Gerencial nao encontrado.".toList
def relGerPresent : Str := "Relatorio Gerencial ja cadastrado.".toList

/-- The name of the report that every device has. The source is in UTF-8, so the accented letter
stands for two bytes. -/
def relatorioGeral : Str := "Relat\u00c3\u00b3rio Geral".toList

example : relatorioGeral.length = 16 := rfl

/-- Where the first record ends: with a comma in the 22nd place, or one place behind it. -/
def fimPrimeiro (buffer : Str) : ℕ := if buffer[21]? = some ',' then 21 else 22

/-- The descriptions of the reports behind the first one, each cut to `tam` characters. -/
def descrRelger (tam : ℕ) (buffer : Str) : List Str :=
  (List.range 29).map fun i =>
    Str.trim (Str.cstr ((buffer.drop (fimPrimeiro buffer + i * 22 + 1 + 4)).take tam))

/-- `get_id_rel_gerencial`: positions count from one, `none` is `IDX_NOT_FOUND`. -/
def getIdRelGerencial (c : Classe) (titulo : Str) : ProgObj F δ (Option ℕ) := do
  let a ← get
  match idxElement (titulo.take c.sizeRelger) a.relger with
  | some i => pure (some (i + 1))
  | none => do
    let buffer ← noObjeto (consulta bib.toDll (bib.pergunta .verificaRelatorioGerencialMFD))
    let descrs := descrRelger c.sizeRelger buffer
    modify fun a => { a with relger := relatorioGeral :: descrs.filter (· ≠ []) }
    pure ((ultimoIdx (fun descr => descr ≠ [] &&
      Str.strIequals (titulo.take c.sizeRelger) descr) descrs).map (· + 2))

variable {bib} in
/-- A search for a report changes the names kept, beside what the reading of the table does. -/
theorem contained_getIdRelGerencial {J : Aparelho F δ → Prop} {E : Excp → Prop}
    (hle : Contained J E
      (noObjeto (consulta bib.toDll (bib.pergunta .verificaRelatorioGerencialMFD))))
    (hrel : ∀ a l, J a → J { a with relger := l }) (c : Classe) (titulo : Str) :
    Contained J E (getIdRelGerencial bib c titulo) := by
  refine contained_bind contained_get fun a => ?_
  cases idxElement (titulo.take c.sizeRelger) a.relger with
  | some i => exact contained_pure _
  | none =>
    refine contained_bind hle fun buffer => ?_
    exact contained_bind (contained_modify fun a ha => hrel a _ ha) fun _ => contained_pure _

/-- `abre_rel_gerencial`. -/
def abreRelGerencial (c : Classe) (titulo : Str) : ProgObj F δ Unit := do
  match ← getIdRelGerencial bib c titulo with
  | none => throw (ecfExp relGerMissing)
  | some nidx => do
    let cidx ← formatInteiro n nidx "%02.0f"
    noObjeto (manda bib (.abreRelatorioGerencialMFD cidx))

/-- `set_rel_gerencial`; a name that is found is an error in the base class only. -/
def setRelGerencial (c : Classe) (titulo : Str) : ProgObj F δ Unit := do
  match ← getIdRelGerencial bib c titulo with
  | some _ =>
    match c with
    | .base => throw (ecfExp relGerPresent)
    | .cv0909 => pure ()
  | none => do
    let a ← get
    let cidx ← formatInteiro n (a.relger.length + 1) "%02.0f"
    let tmp := Str.trim (titulo.take c.sizeRelger)
    noObjeto (manda bib (match c with
      | .base => .nomeiaRelatorioGerencialMFD cidx tmp
      | .cv0909 => .nomeiaRelatorioGerencialCV0909 cidx tmp))
    modify fun a => { a with relger := [] }

end Driver

/-! ## The operations -/

/-- The operations of the interface. The texts of `get_tab_relger`, `get_tab_totcnf` and
`get_tab_fpgto` are empty, and `get_max_col`, `is_termica` and the like are constants. -/
inductive Operacao (F : Type)
  | getNrLoja | getNrSerie | getMarca | getModelo | getNrUsuario | getNrSerieCript | getNrCaixa
  | getFirmware | getDataAtual | getHoraAtual | getDataMvto | getDataUltRed | getHoraUltRed
  | getStatusEcf | getNrCupom
  | getIdFormaPgto (fpgto : Str)
  | getTotalizadorCnf (tot : Str)
  | getProxTotalizador
  | setFormaPgto (forma vinc : Str)
  | setAliquota (aliq : Aliquota F)
  | setTotalizador (descr tipo : Str)
  | abreCupom (dcto nome endr : Str)
  | cancelaCupom
  | vendeItem (codprod nomeprod straliq unidade : Str) (qtde valor desc : F)
  | iniciaFechamento (acresc : F)
  | pagamento (fpgto : Str) (valor : F)
  | fechaCupom (msg : Str)
  | abreNfiscalVinc (fpgto : Str) (valor : F) (coo : ℕ)
  | msgNfiscalVinc (msg : Str)
  | fechaNfiscalVinc
  | abreNfiscalNvinc (nomeTot : Str) (valor : F) (moeda : Str)
  | abreGaveta
  | reducaoZ
  | getCupomAberto
  | setArredondamento
  | getNrReducoes
  | dadosUltReducao
  | getNrReinicio
  | memoriaFiscal (tipo : ℤ) (inicio fim : Str) (completa : Bool) (saida : ℤ)
  | leituraX (saida : ℤ)
  | abreRelGerencial (titulo : Str)
  | getIdRelGerencial (titulo : Str)
  | txtRelGerencial (msg : Str)
  | txtRelGerencialTag (msg : Str)
  | fechaRelGerencial
  | setRelGerencial (titulo : Str)
  | acionaGuilhotina (modo : ℤ)
  | corteAuto
  | getGrandeTotal
  | sangria (valor : F)
  | suprimento (valor : F) (moeda : Str)
  | setHorarioVerao
  | isHorarioVerao
  | downloadMfd (tipo : ℤ) (ini fim : Str) (usr : ℤ)
  | converteMfd (tipo : ℤ) (ini fim origem destino : Str) (fmt usr : ℤ)
  | poucoPapel
  | contadorCupomFiscal | contadorTotNaofiscal | contadorCreditoDebito | contadorRelGerenciais
  | cancelaItem (idx : ℤ)
  | abreRecibo (doc nome endr : Str)
  | abreCreditoDebito (fpgto : Str) (valor : F) (coo : ℕ) (doc nome endr : Str)
  | segundaViaCcd
  | reimprimeCcd
  | cancelaRecibo (doc nome endr : Str)
  | estornaCcd (doc nome endr : Str)
  | regNaoFiscal (totCnf : Str) (valor : F)
  | lctoNaoFiscal (moeda : Str) (valor : F)
  | iniciaFechamentoNaoFiscal (tipo : Char) (valor : F)
  | fechaRecibo (msg : Str)
  | fechaCcd
  | cancelaNfiscalPos (moeda : Str) (valor : F) (coo ccd : ℕ) (doc nome endr : Str)
  | naoFiscalAberto
  | getTabAliq

/-- What the operations share: the arithmetic, the library, whether the conversion of the fiscal
memory was compiled in, and what becomes of a call that has left its arrays. -/
structure Ambiente (F δ : Type) where
  n : Numeric F
  bib : Biblioteca δ
  suporteMfd : Classe → Bool
  ub : Estrago F δ

namespace Operacao

open Driver

variable {F δ : Type} [BEq F] (amb : Ambiente F δ)

/-- An operation whose answer is not looked at. -/
def so {α : Type} (x : Prog F δ α) : ProgObj F δ Unit := noObjeto (x >>= fun _ => pure ())

/-- The operation, in an object of the class. -/
def prog (c : Classe) : Operacao F → ProgObj F δ Unit
  | getNrLoja => so (Driver.getNrLoja amb.bib)
  | getNrSerie => so (Driver.getNrSerie amb.bib)
  | getMarca => Driver.getMarca amb.bib >>= fun _ => pure ()
  | getModelo => Driver.getModelo amb.bib >>= fun _ => pure ()
  | getNrUsuario => so (Driver.getNrUsuario amb.bib)
  | getNrSerieCript => so (Driver.getNrSerieCript amb.bib)
  | getNrCaixa => so (Driver.getNrCaixa amb.bib)
  | getFirmware => so (Driver.getFirmware amb.bib)
  | getDataAtual => so (Driver.getDataAtual amb.bib)
  | getHoraAtual => so (Driver.getHoraAtual amb.bib)
  | getDataMvto => so (Driver.getDataMvto amb.bib)
  | getDataUltRed => so (Driver.getDataUltRed amb.bib.toDll)
  | getHoraUltRed => so (Driver.getHoraUltRed amb.bib.toDll)
  | getStatusEcf => so (Driver.getStatusEcf amb.bib)
  | getNrCupom => so (Driver.getNrCupom amb.bib)
  | getIdFormaPgto fpgto =>
    match c with
    | .base => so (Base.getIdFormaPgto amb.bib fpgto)
    | .cv0909 => so (Driver.getIdFormaPgto amb.bib.toDll fpgto)
  | getTotalizadorCnf tot =>
    match c with
    | .base => so (Base.getTotalizadorCnf amb.bib tot)
    | .cv0909 => so (Driver.getTotalizadorCnf amb.bib.toDll tot)
  | getProxTotalizador =>
    match c with
    | .base => so (Driver.getProxTotalizador (Base.getTotalizadorCnf amb.bib))
    | .cv0909 => so (Driver.getProxTotalizador (Driver.getTotalizadorCnf amb.bib.toDll))
  | setFormaPgto forma vinc =>
    match c with
    | .base => so (Base.setFormaPgto amb.bib forma vinc)
    | .cv0909 => so (Driver.setFormaPgto amb.bib forma vinc)
  | setAliquota aliq => so (Driver.setAliquota amb.n amb.bib amb.ub aliq)
  | setTotalizador descr tipo =>
    match c with
    | .base => so (Base.setTotalizador amb.bib descr)
    | .cv0909 => so (Driver.setTotalizador amb.n amb.bib descr tipo)
  | abreCupom dcto nome endr => so (Driver.abreCupom amb.bib.toDll dcto nome endr)
  | cancelaCupom => so (Driver.cancelaCupom amb.bib.toDll)
  | vendeItem codprod nomeprod straliq unidade qtde valor desc =>
    so (Driver.vendeItem amb.n amb.bib amb.ub codprod nomeprod straliq unidade qtde valor desc)
  | iniciaFechamento acresc =>
    match c with
    | .base => so (Base.iniciaFechamento amb.n amb.bib acresc)
    | .cv0909 => so (Driver.iniciaFechamento amb.n amb.bib.toDll acresc)
  | pagamento fpgto valor =>
    match c with
    | .base => so (Base.pagamento amb.n amb.bib fpgto valor)
    | .cv0909 => so (Driver.pagamento amb.n amb.bib.toDll fpgto valor)
  | fechaCupom msg => so (Driver.fechaCupom amb.bib.toDll msg)
  | abreNfiscalVinc fpgto valor coo =>
    so (Driver.abreNfiscalVinc amb.n amb.bib c.sizeFpgto fpgto valor coo)
  | msgNfiscalVinc msg => so (Driver.msgNfiscalVinc amb.bib msg)
  | fechaNfiscalVinc => so (Driver.fechaNfiscalVinc amb.bib)
  | abreNfiscalNvinc nomeTot valor moeda =>
    match c with
    | .base => so (Base.abreNfiscalNvinc amb.n amb.bib nomeTot valor moeda)
    | .cv0909 => so (Driver.abreNfiscalNvinc amb.n amb.bib nomeTot valor moeda)
  | abreGaveta => so (Driver.abreGaveta amb.bib)
  | reducaoZ => so (Driver.reducaoZ amb.bib.toDll)
  | getCupomAberto => so (Driver.getCupomAberto amb.bib)
  | setArredondamento => so (Driver.setArredondamento amb.bib)
  | getNrReducoes => so (Driver.getNrReducoes amb.bib)
  | dadosUltReducao => so (Driver.dadosUltReducao amb.n amb.bib.toDll)
  | getNrReinicio => so (Driver.getNrReinicio amb.bib)
  | memoriaFiscal tipo inicio fim completa saida =>
    so (Driver.memoriaFiscal amb.bib tipo inicio fim completa saida)
  | leituraX saida => so (Driver.leituraX amb.bib saida)
  | abreRelGerencial titulo => Driver.abreRelGerencial amb.n amb.bib c titulo
  | getIdRelGerencial titulo => Driver.getIdRelGerencial amb.bib c titulo >>= fun _ => pure ()
  | txtRelGerencial msg => so (Driver.txtRelGerencial amb.bib msg)
  | txtRelGerencialTag msg => so (Driver.imprimeBlocos amb.bib msg 0)
  | fechaRelGerencial => so (Driver.fechaRelGerencial amb.bib)
  | setRelGerencial titulo => Driver.setRelGerencial amb.n amb.bib c titulo
  | acionaGuilhotina modo => so (Driver.acionaGuilhotina amb.bib modo)
  | corteAuto => so (Driver.corteAuto amb.bib)
  | getGrandeTotal => so (Driver.getGrandeTotal amb.n amb.bib)
  | sangria valor => so (Driver.sangria amb.n amb.bib valor)
  | suprimento valor moeda => so (Driver.suprimento amb.n amb.bib valor moeda)
  | setHorarioVerao => so (Driver.setHorarioVerao amb.bib)
  | isHorarioVerao => so (Driver.isHorarioVerao amb.bib)
  | downloadMfd tipo ini fim usr => so (Driver.downloadMfd amb.n amb.bib tipo ini fim usr)
  | converteMfd tipo ini fim origem destino fmt usr =>
    so (Driver.converteMfd amb.n amb.bib (amb.suporteMfd c) tipo ini fim origem destino fmt usr)
  | poucoPapel => so Driver.poucoPapel
  | contadorCupomFiscal => so (Driver.contadorCupomFiscal amb.bib)
  | contadorTotNaofiscal => so (Driver.contadorTotNaofiscal amb.bib)
  | contadorCreditoDebito => so (Driver.contadorCreditoDebito amb.bib)
  | contadorRelGerenciais => so (Driver.contadorRelGerenciais amb.bib)
  | cancelaItem idx => so (Driver.cancelaItem amb.n amb.bib idx)
  | abreRecibo doc nome endr => so (Driver.abreRecibo amb.bib.toDll doc nome endr)
  | abreCreditoDebito fpgto valor coo doc nome endr =>
    match c with
    | .base => so (Base.abreCreditoDebito amb.n amb.bib fpgto valor coo doc nome endr)
    | .cv0909 => so (Driver.abreCreditoDebito amb.n amb.bib.toDll fpgto doc nome endr)
  | segundaViaCcd => so (Driver.segundaViaCcd amb.bib)
  | reimprimeCcd => so (Driver.reimprimeCcd amb.bib)
  | cancelaRecibo doc nome endr => so (Driver.cancelaRecibo amb.bib.toDll doc nome endr)
  | estornaCcd doc nome endr => so (Driver.estornaCcd amb.bib doc nome endr)
  | regNaoFiscal totCnf valor =>
    match c with
    | .base => so (Base.regNaoFiscal amb.n amb.bib totCnf valor)
    | .cv0909 => so (Driver.regNaoFiscal amb.n amb.bib.toDll totCnf valor)
  | lctoNaoFiscal moeda valor =>
    match c with
    | .base => so (Base.pagamento amb.n amb.bib moeda valor)
    | .cv0909 => so (Driver.lctoNaoFiscal amb.n amb.bib.toDll moeda valor)
  | iniciaFechamentoNaoFiscal tipo valor =>
    match c with
    | .base => so (iniciaFechamentoNaoFiscalBase amb.n amb.bib.toDll tipo valor)
    | .cv0909 => so (Driver.iniciaFechamentoNaoFiscal amb.n amb.bib.toDll tipo valor)
  | fechaRecibo msg => so (Driver.fechaRecibo amb.bib.toDll msg)
  | fechaCcd => so (Driver.fechaCcd amb.bib.toDll)
  | cancelaNfiscalPos moeda valor coo ccd doc nome endr =>
    so (Driver.cancelaNfiscalPos amb.n amb.bib c.sizeFpgto moeda valor coo ccd doc nome endr)
  | naoFiscalAberto => so (Driver.naoFiscalAberto amb.bib)
  | getTabAliq => so (Driver.getTabAliq amb.n amb.bib c.tabela amb.ub)

end Operacao

/-! ## Runs -/

/-- What happens to an object. -/
inductive Evento (F : Type)
  | constroi (cfg : Driver.Configuracao)
  | op (o : Operacao F)

namespace Evento

open Driver

variable {F δ : Type} [BEq F] (amb : Ambiente F δ) (c : Classe)

/-- The body of the constructor of the class, or the operation. -/
def prog : Evento F → ProgObj F δ Unit
  | constroi cfg =>
    match c with
    | .base => noObjeto (inicializa amb.bib cfg)
    | .cv0909 => noObjeto (inicializa amb.bib cfg >>= fun _ =>
        altera fun drv => { drv with dontPay := false })
  | op o => o.prog amb c

/-- What a step leaves behind, returning or raising. -/
def passo (a : Aparelho F δ) (e : Evento F) : Aparelho F δ := (exec (e.prog amb c) a).2

end Evento

/-! ## A library that always succeeds -/

/-- A library that carries out every call and answers every question with a text of its own. -/
def sempreOk (resposta : Pergunta → Str) : Biblioteca Unit where
  comando _ d := (bematechOk, d)
  retornoImpressoraMFD d := ((bematechOk, ⟨6, 0, 0, 0⟩), d)
  verificaFormasPagamentoMFD d := ((bematechOk, []), d)
  verificaTotalizadoresNaoFiscaisMFD d := ((bematechOk, []), d)
  dataHoraReducao d := ((bematechOk, [], []), d)
  dadosUltimaReducaoMFD d := ((bematechOk, []), d)
  acao _ d := (bematechOk, d)
  pergunta q d := ((bematechOk, resposta q), d)
  extrato _ d := (bematechOk, d)
  verificaEstadoImpressoraMFD d := ((bematechOk, ⟨6, 0, 0, 0⟩), d)
  dataHoraImpressora d := ((bematechOk, [], []), d)
  marcaModeloTipoImpressoraMFD d := ((bematechOk, [], [], []), d)
  flagsFiscais d := ((bematechOk, 0), d)
  statusEstendidoMFD d := ((bematechOk, 0), d)
  found _ _ := true
  randomName base d := (base, d)
  copyFile _ _ d := d

end Spooler
