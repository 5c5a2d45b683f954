import Spooler.Driver.Tabelas

/-!
# The device, as the broker sees it

`Ecf` is the interface `ecf`, over any state of the device. Its functions are `Metodo`s, which
carry what they may raise. Three functions of the `BEMATECH` driver cut up texts that come from the
client, and these cuts may run out of the text: `vende_item`, `memoria_fiscal` and
`txt_rel_gerencial` with a tag are therefore taken apart here (`Ecf.vendeItem`,
`Ecf.memoriaFiscal`, `Ecf.txtRelGerencialTag`), and what `Ecf` has in their place are the calls
that these make. The amounts of an item may also be too long for the buffer they are formatted in.
-/

namespace Spooler

open Foundations Driver

/-! ## The interface -/

/-- A function of the device, which raises exceptions in `E` only. -/
structure Metodo (E : Excp → Prop) (σ α : Type) where
  run : Exec Excp σ α
  contido : Contained (fun _ => True) E run

instance {E : Excp → Prop} {σ α : Type} [Inhabited α] : Inhabited (Metodo E σ α) :=
  ⟨⟨pure default, contained_pure _⟩⟩

/-- `ecf`. Counters and positions are whole numbers. -/
structure Ecf (E : Excp → Prop) (F σ : Type) where
  getNrLoja : Metodo E σ Int
  getNrSerie : Metodo E σ Str
  getMarca : Metodo E σ Str
  getModelo : Metodo E σ Str
  getNrUsuario : Metodo E σ Int
  getNrSerieCript : Metodo E σ Str
  getNrCaixa : Metodo E σ Int
  getFirmware : Metodo E σ Str
  getDataAtual : Metodo E σ Str
  getHoraAtual : Metodo E σ Str
  getDataMvto : Metodo E σ Str
  getDataUltRed : Metodo E σ Str
  getHoraUltRed : Metodo E σ Str
  getStatusEcf : Metodo E σ EcfStatus
  getNrCupom : Metodo E σ Nat
  getIdFormaPgto (fpgto : Str) : Metodo E σ Int
  getTotalizadorCnf (tot : Str) : Metodo E σ Int
  getProxTotalizador : Metodo E σ Int
  setFormaPgto (forma vinc : Str) : Metodo E σ Unit
  setAliquota (aliq : Aliquota F) : Metodo E σ Unit
  setTotalizador (descr tipo : Str) : Metodo E σ Unit
  abreCupom (dcto nome endr : Str) : Metodo E σ Unit
  cancelaCupom : Metodo E σ Unit
  /-- `get_idx_aliquota`, called by `vende_item`. -/
  getIdxAliquota (aliq : Aliquota F) : Metodo E σ Int
  /-- `Bematech_FI_AumentaDescricaoItem`, called by `vende_item`. -/
  aumentaDescricaoItem (nomeprod : Str) : Metodo E σ Unit
  /-- `Bematech_FI_VendeItem`, called by `vende_item`. -/
  fiVendeItem (codprod nomeprod aliq qtde valor desc : Str) : Metodo E σ Unit
  iniciaFechamento (acresc : F) : Metodo E σ Unit
  pagamento (fpgto : Str) (valor : F) : Metodo E σ Unit
  fechaCupom (msg : Str) : Metodo E σ Unit
  abreNfiscalVinc (fpgto : Str) (valor : F) (coo : Nat) : Metodo E σ Unit
  msgNfiscalVinc (msg : Str) : Metodo E σ Unit
  fechaNfiscalVinc : Metodo E σ Unit
  abreNfiscalNvinc (nomeTot : Str) (valor : F) (moeda : Str) : Metodo E σ Unit
  getMaxCol : Metodo E σ Int
  abreGaveta : Metodo E σ Unit
  reducaoZ : Metodo E σ Unit
  getCupomAberto : Metodo E σ Bool
  setArredondamento : Metodo E σ Unit
  getImprimeCheques : Metodo E σ Bool
  getNrReducoes : Metodo E σ Int
  dadosUltReducao : Metodo E σ Str
  getNrReinicio : Metodo E σ Int
  /-- `memoria_fiscal` from the call of the library on. -/
  leituraMemoriaFiscal (tipo : Int) (inicio fim : Str) (completa : Bool) (saida : Int) :
    Metodo E σ Str
  leituraX (saida : Int) : Metodo E σ Str
  setMoedaSingular (moeda : Str) : Metodo E σ Unit
  setMoedaPlural (moeda : Str) : Metodo E σ Unit
  imprimeCheque (valorX valorY : Int) (valor : F) (ext1X ext1Y ext2X ext2Y favX favY : Int)
    (favorecido : Str) (localX localY : Int) (localidade : Str)
    (diaX dia mesX mes anoX ano : Int) (msg : Str) : Metodo E σ Unit
  abreRelGerencial (titulo : Str) : Metodo E σ Unit
  getIdRelGerencial (titulo : Str) : Metodo E σ Int
  txtRelGerencial (msg : Str) : Metodo E σ Unit
  fechaRelGerencial : Metodo E σ Unit
  setRelGerencial (titulo : Str) : Metodo E σ Unit
  acionaGuilhotina (modo : Int) : Metodo E σ Unit
  corteAuto : Metodo E σ Unit
  isTermica : Metodo E σ Bool
  isPafCompliant : Metodo E σ Bool
  setTipoCorte (total : Bool) : Metodo E σ Unit
  getGrandeTotal : Metodo E σ F
  matchConf : Metodo E σ Bool
  sangria (valor : F) : Metodo E σ Unit
  suprimento (valor : F) (moeda : Str) : Metodo E σ Unit
  setHorarioVerao : Metodo E σ Unit
  isHorarioVerao : Metodo E σ Bool
  downloadMfd (tipo : Int) (ini fim : Str) (usr : Int) : Metodo E σ Str
  converteMfd (tipo : Int) (ini fim origem destino : Str) (fmt usr : Int) : Metodo E σ Unit
  poucoPapel : Metodo E σ Bool
  contadorCupomFiscal : Metodo E σ Int
  contadorTotNaofiscal : Metodo E σ Int
  contadorCreditoDebito : Metodo E σ Int
  contadorRelGerenciais : Metodo E σ Int
  cancelaItem (idx : Int) : Metodo E σ Unit
  abreRecibo (doc nome endr : Str) : Metodo E σ Unit
  abreCreditoDebito (fpgto : Str) (valor : F) (coo : Nat) (doc nome endr : Str) : Metodo E σ Unit
  segundaViaCcd : Metodo E σ Unit
  reimprimeCcd : Metodo E σ Unit
  cancelaRecibo (doc nome endr : Str) : Metodo E σ Unit
  estornaCcd (doc nome endr : Str) : Metodo E σ Unit
  regNaoFiscal (totCnf : Str) (valor : F) : Metodo E σ Unit
  lctoNaoFiscal (moeda : Str) (valor : F) : Metodo E σ Unit
  iniciaFechamentoNaoFiscal (tipo : Char) (valor : F) : Metodo E σ Unit
  fechaRecibo (msg : Str) : Metodo E σ Unit
  fechaCcd : Metodo E σ Unit
  cancelaNfiscalPos (moeda : Str) (valor : F) (coo ccd : Nat) (doc nome endr : Str) :
    Metodo E σ Unit
  naoFiscalAberto : Metodo E σ Bool
  getTabAliq : Metodo E σ Str
  getTabRelger : Metodo E σ Str
  getTabTotcnf : Metodo E σ Str
  getTabFpgto : Metodo E σ Str
  deriving Inhabited

/-- `ECF_SAIDA_ECF` and `ECF_SAIDA_SERIAL`. -/
def saidaEcf : Int := 0
def saidaSerial : Int := 1

/-- `ECF_LEITURA_DATA` and `ECF_LEITURA_REDUCAO`. -/
def leituraData : Int := 0
def leituraReducao : Int := 1

/-- `ECF_CORTE_PARCIAL` and `ECF_CORTE_TOTAL`. -/
def corteParcial : Int := 0
def corteTotal : Int := 1

/-- `ECF_DOWNLOAD_MFD_DATA` and `ECF_DOWNLOAD_MFD_COO`. -/
def downloadMfdData : Int := 1
def downloadMfdCoo : Int := 2

/-- `ECF_CONV_MFD_TEXTO` and `ECF_CONV_MFD_COTEPE`. -/
def convMfdTexto : Int := 0
def convMfdCotepe : Int := 1

namespace Ecf

variable {E : Excp → Prop} {F σ : Type} (n : Numeric F) (ecf : Ecf E F σ)

/-! ## Selling an item -/

/-- The unit at the end of a description: two characters of it when it is in brackets. -/
def unidadeFinal (tmpUn : Str) : Except Excp Str :=
  if tmpUn.length > 2 then do
    let primeiro ← Str.at' tmpUn 0
    if primeiro = '(' then Str.substr tmpUn 1 2 else pure tmpUn
  else pure tmpUn

/-- The unit of an item sold without one, which `vende_item` does not use further. -/
def unidadeDe (nomeprod unidade : Str) : Except Excp Str :=
  if unidade = [] then
    match Str.rfind [' '] (Str.trim nomeprod) with
    | none => pure unidade
    | some pos => Str.substrFrom (Str.trim nomeprod) (pos + 1) >>= unidadeFinal
  else pure unidade

/-- `ECF_ALIQ_NOT_DEFINED`. -/
def aliqNotDefined : Str := "Aliquota tributaria nao definida.".toList

/-- The name under which the device knows a rate: the totalizers it has of its own, else the
position in its table. -/
def nomeAliquota (aliq : Aliquota F) : Exec Excp σ Str :=
  if aliq.tipo = Aliquota.substTributaria then pure "FF".toList
  else if aliq.tipo = Aliquota.naoIncidente then pure "NN".toList
  else if aliq.tipo = Aliquota.isento then pure "II".toList
  else do
    let idxAliq ← (ecf.getIdxAliquota aliq).run
    if idxAliq < 0 then throw (ecfExp aliqNotDefined)
    else formatInteiro n idxAliq "%02.0f"

/-- The formats of the amounts of an item. -/
def fmtQtde : String := "%3.3f"
def fmtValor : String := "%4.3f"
def fmtDesc : String := "%6.2f"

/-- `ecf_bematech::vende_item`. -/
def vendeItem (codprod nomeprod straliq unidade : Str) (qtde valor desc : F) :
    Exec Excp σ Unit := do
  let _ ← ofExcept (unidadeDe nomeprod unidade)
  let tmpQtde ← formatValor n qtde fmtQtde
  let tmpValor ← formatValor n valor fmtValor
  let tmpDesc ← formatValor n desc fmtDesc
  let objAliq ← ofExcept (Aliquota.setStr n straliq)
  let auxAliq ← nomeAliquota n ecf objAliq
  if nomeprod.length > 29 then (ecf.aumentaDescricaoItem nomeprod).run
  (ecf.fiVendeItem (codprod.take 13) (nomeprod.take 29) auxAliq tmpQtde tmpValor tmpDesc).run

/-- The amount can be written, and `aux` has room for it. -/
def escreve (valor : F) (fmt : String) : Bool :=
  (n.sprintf fmt valor).any fun aux => aux.length < tamAux

/-- The sale leaves a buffer or a text: one of the amounts leaves `aux`, or all of them are written
and the rate is cut short. -/
def vendaEstoura (straliq : Str) (qtde valor desc : F) : Bool :=
  transborda n qtde fmtQtde || escreve n qtde fmtQtde &&
    (transborda n valor fmtValor || escreve n valor fmtValor &&
      (transborda n desc fmtDesc || escreve n desc fmtDesc && Aliquota.malCortada straliq))

theorem exists_unidadeFinal (tmpUn : Str) : ∃ un, unidadeFinal tmpUn = .ok un := by
  unfold unidadeFinal
  split
  · rename_i hlen
    have hat : Str.at' tmpUn 0 = .ok tmpUn[0] := by
      rw [Str.at', List.getElem?_eq_getElem (by omega)]
    rw [hat, Str.substr_ok (by omega)]
    by_cases hpar : tmpUn[0] = '('
    · exact ⟨_, if_pos hpar⟩
    · exact ⟨_, if_neg hpar⟩
  · exact ⟨_, rfl⟩

/-- The search for a unit stays within the description. -/
theorem exists_unidadeDe (nomeprod unidade : Str) : ∃ un, unidadeDe nomeprod unidade = .ok un := by
  unfold unidadeDe
  split
  · cases hpos : Str.rfind [' '] (Str.trim nomeprod) with
    | none => exact ⟨_, rfl⟩
    | some pos =>
      simp only [Str.substrFrom_ok (Str.lt_length_of_rfind hpos)]
      exact exists_unidadeFinal _
  · exact ⟨_, rfl⟩

/-- How an amount is formatted: it leaves `aux`, or it fits, or it is refused. -/
theorem formatValor_cases (valor : F) (fmt : String) :
    (transborda n valor fmt = true ∧
        (formatValor n valor fmt : Exec Excp σ Str) = throw .overrun) ∨
      (transborda n valor fmt = false ∧ escreve n valor fmt = true ∧
        ∃ txt, (formatValor n valor fmt : Exec Excp σ Str) = pure txt) ∨
      (transborda n valor fmt = false ∧ escreve n valor fmt = false ∧
        (formatValor n valor fmt : Exec Excp σ Str) = throw (ecfExp numFormatErr)) := by
  unfold formatValor transborda escreve
  cases n.sprintf fmt valor with
  | none => exact .inr (.inr ⟨rfl, rfl, rfl⟩)
  | some aux =>
    by_cases hlen : aux.length < tamAux
    · refine .inr (.inl ⟨?_, decide_eq_true hlen, comVirgula aux, ?_⟩)
      · exact decide_eq_false (not_le.2 hlen)
      · exact if_neg (by simpa using hlen)
    · refine .inl ⟨decide_eq_true (not_lt.1 hlen), if_pos ?_⟩
      simpa using hlen

theorem soSpooler_nomeAliquota (ecf : Ecf Excp.DoSpooler F σ) (aliq : Aliquota F) :
    SoSpooler (fun _ => True) (nomeAliquota n ecf aliq) := by
  refine contained_ite (contained_pure _) (contained_ite (contained_pure _)
    (contained_ite (contained_pure _) ?_))
  refine contained_bind (ecf.getIdxAliquota aliq).contido fun idxAliq => ?_
  exact contained_ite (contained_throw rfl) (soSpooler_formatInteiro n _ _)

/-- What stands behind a formatted amount runs only if the amount fits. -/
theorem soSpooler_formatValor_bind {α : Type} {I : σ → Prop} {valor : F} {fmt : String}
    {f : Str → Exec Excp σ α} (hover : transborda n valor fmt = false)
    (hf : escreve n valor fmt = true → ∀ txt, SoSpooler I (f txt)) :
    SoSpooler I (formatValor n valor fmt >>= f) := by
  obtain ⟨h, -⟩ | ⟨-, h, txt, heq⟩ | ⟨-, -, heq⟩ := formatValor_cases (σ := σ) n valor fmt
  · rw [hover] at h
    cases h
  · rw [heq, pure_bind]
    exact hf h txt
  · rw [heq]
    exact fun _ hs => ⟨rfl, hs⟩

/-- Any other sale stays within its texts and buffers. -/
theorem soSpooler_vendeItem (ecf : Ecf Excp.DoSpooler F σ) {straliq : Str} {qtde valor desc : F}
    (h : vendaEstoura n straliq qtde valor desc = false) (codprod nomeprod unidade : Str) :
    SoSpooler (fun _ => True)
      (vendeItem n ecf codprod nomeprod straliq unidade qtde valor desc) := by
  obtain ⟨un, hun⟩ := exists_unidadeDe nomeprod unidade
  refine contained_bind (contained_ofExcept fun e he => ?_) fun _ => ?_
  · rw [hun] at he
    cases he
  obtain ⟨hqtde, h⟩ := Bool.or_eq_false_iff.1 h
  refine soSpooler_formatValor_bind n hqtde fun h₁ tmpQtde => ?_
  rw [h₁, Bool.true_and] at h
  obtain ⟨hvalor, h⟩ := Bool.or_eq_false_iff.1 h
  refine soSpooler_formatValor_bind n hvalor fun h₂ tmpValor => ?_
  rw [h₂, Bool.true_and] at h
  obtain ⟨hdesc, h⟩ := Bool.or_eq_false_iff.1 h
  refine soSpooler_formatValor_bind n hdesc fun h₃ tmpDesc => ?_
  rw [h₃, Bool.true_and] at h
  have hset : SoSpooler (fun _ => True)
      (ofExcept (Aliquota.setStr n straliq) : Exec Excp σ (Aliquota F)) :=
    contained_ofExcept fun _ he => Aliquota.isSpooler_of_setStr h he
  refine contained_bind hset fun aliq => ?_
  refine contained_bind (soSpooler_nomeAliquota n ecf aliq) fun auxAliq => ?_
  have hvende := (ecf.fiVendeItem (codprod.take 13) (nomeprod.take 29) auxAliq tmpQtde tmpValor
    tmpDesc).contido
  exact contained_ite (contained_bind (ecf.aumentaDescricaoItem nomeprod).contido fun _ => hvende)
    hvende

/-- An amount that leaves `aux`, or that fits in front of something that goes wrong. -/
theorem exec_formatValor_bind_error {α : Type} {valor : F} {fmt : String} {f : Str → Exec Excp σ α}
    {s : σ} {c : Bool} (h : (transborda n valor fmt || escreve n valor fmt && c) = true)
    (hf : c = true → ∀ txt, ∃ e, exec (f txt) s = (.error e, s) ∧ e.isSpooler = false) :
    ∃ e, exec (formatValor n valor fmt >>= f) s = (.error e, s) ∧ e.isSpooler = false := by
  obtain ⟨-, heq⟩ | ⟨hover, -, txt, heq⟩ | ⟨hover, hno, -⟩ :=
    formatValor_cases (σ := σ) n valor fmt
  · rw [heq]
    exact ⟨.overrun, rfl, rfl⟩
  · rw [heq, pure_bind]
    rw [hover, Bool.false_or] at h
    exact hf (Bool.and_eq_true_iff.1 h).2 txt
  · rw [hover, hno] at h
    cases h

/-- **A sale whose amounts leave their buffer, or at a rate that is cut short, ends in what no
handler takes.** -/
theorem exec_vendeItem_of_estoura {straliq : Str} {qtde valor desc : F}
    (h : vendaEstoura n straliq qtde valor desc = true) (codprod nomeprod unidade : Str) (s : σ) :
    ∃ e, exec (vendeItem n ecf codprod nomeprod straliq unidade qtde valor desc) s =
      (.error e, s) ∧ e.isSpooler = false := by
  obtain ⟨un, hun⟩ := exists_unidadeDe nomeprod unidade
  rw [vendeItem, hun, exec_bind_ok (exec_ofExcept _ _)]
  refine exec_formatValor_bind_error n h fun h tmpQtde => ?_
  refine exec_formatValor_bind_error n h fun h tmpValor => ?_
  refine exec_formatValor_bind_error n h fun haliq tmpDesc => ?_
  rw [Aliquota.setStr_of_malCortada n haliq]
  exact ⟨.outOfRange, rfl, rfl⟩

/-! ## Reading the fiscal memory -/

/-- `format_date(valor)`, for a date `ddmmaa` or `ddmmaaaa`. -/
def formatDate (valor : Str) : Except Excp Str := do
  let dia ← Str.substr valor 0 2
  let mes ← Str.substr valor 2 2
  let ano ← Str.substrFrom valor 4
  pure (Str.cstr (dia ++ '/' :: (mes ++ '/' :: ano)))

theorem formatDate_of_length {valor : Str} (h : 4 ≤ valor.length) :
    ∃ data, formatDate valor = .ok data := by
  have hmes : 2 ≤ valor.length := by omega
  simp only [formatDate, Str.substr_ok (Nat.zero_le _), Str.substr_ok hmes, Str.substrFrom_ok h]
  exact ⟨_, rfl⟩

/-- A date of fewer than four characters is too short to be taken apart. -/
theorem formatDate_of_length_lt {valor : Str} (h : valor.length < 4) :
    formatDate valor = .error .outOfRange := by
  have hano : Str.substrFrom valor 4 = .error .outOfRange := if_neg (by omega)
  simp only [formatDate, Str.substr_ok (Nat.zero_le _), hano]
  by_cases hmes : 2 ≤ valor.length
  · rw [Str.substr_ok hmes]
    rfl
  · rw [Str.substr_error (by omega)]
    rfl

/-- `ECF_TIPO_LEITURA_ERR`. -/
def tipoLeituraErr : Str := "Tipo de leitura nao suportado.".toList

/-- `ecf_bematech::memoria_fiscal`. -/
def memoriaFiscal (tipo : Int) (inicio fim : Str) (completa : Bool) (saida : Int) :
    Exec Excp σ Str :=
  if tipo = leituraData then do
    let dtIni ← ofExcept (formatDate inicio)
    let dtFim ← ofExcept (formatDate fim)
    (ecf.leituraMemoriaFiscal tipo dtIni dtFim completa saida).run
  else if tipo = leituraReducao then
    (ecf.leituraMemoriaFiscal tipo inicio fim completa saida).run
  else throw (ecfExp tipoLeituraErr)

theorem soSpooler_memoriaFiscal (ecf : Ecf Excp.DoSpooler F σ) {tipo : Int} {inicio fim : Str}
    (h : tipo = leituraData → 4 ≤ inicio.length ∧ 4 ≤ fim.length) (completa : Bool) (saida : Int) :
    SoSpooler (fun _ => True)
      (memoriaFiscal ecf tipo inicio fim completa saida) := by
  unfold memoriaFiscal
  split
  · rename_i htipo
    obtain ⟨dtIni, hini⟩ := formatDate_of_length (h htipo).1
    obtain ⟨dtFim, hfim⟩ := formatDate_of_length (h htipo).2
    rw [hini, hfim]
    exact contained_bind (contained_pure _) fun _ => contained_bind (contained_pure _) fun _ =>
      (ecf.leituraMemoriaFiscal _ _ _ _ _).contido
  · exact contained_ite (ecf.leituraMemoriaFiscal _ _ _ _ _).contido (contained_throw rfl)

/-- **A reading by date runs out of a date that is too short.** -/
theorem exec_memoriaFiscal_of_curta {inicio fim : Str} (h : inicio.length < 4 ∨ fim.length < 4)
    (completa : Bool) (saida : Int) (s : σ) :
    exec (memoriaFiscal ecf leituraData inicio fim completa saida) s = (.error .outOfRange, s) := by
  simp only [memoriaFiscal, if_true, exec_bind, exec_ofExcept]
  by_cases hini : inicio.length < 4
  · rw [formatDate_of_length_lt hini]
  · obtain ⟨dtIni, hok⟩ := formatDate_of_length (not_lt.1 hini)
    rw [hok, formatDate_of_length_lt (h.resolve_left hini)]

/-! ## Printing a report -/

/-- The text at which `txt_rel_gerencial` has the paper cut. -/
def tagCorte : Str := "cortar_papel_ecf".toList

theorem length_tagCorte : tagCorte.length = 16 := rfl

/-- The loop of `txt_rel_gerencial(msg, tag)`. -/
def imprimeBlocos (msg : Str) (pivot : Nat) : Exec Excp σ Unit := do
  let tmp ← ofExcept (Str.substrFrom msg pivot)
  match Str.find tagCorte tmp with
  | none => (ecf.txtRelGerencial tmp).run
  | some idx => do
    (ecf.txtRelGerencial (tmp.take idx)).run
    (ecf.acionaGuilhotina corteParcial).run
    if pivot + idx + tagCorte.length < msg.length then
      imprimeBlocos msg (pivot + idx + tagCorte.length)
termination_by msg.length - pivot
decreasing_by
  rw [length_tagCorte] at *
  omega

/-- The loop stays within the text. -/
theorem contido_imprimeBlocos {msg : Str} {pivot : Nat} (h : pivot ≤ msg.length) :
    Contained (fun _ => True) E (imprimeBlocos ecf msg pivot) := by
  induction pivot using imprimeBlocos.induct msg with
  | case1 pivot ih =>
    rw [imprimeBlocos, Str.substrFrom_ok h]
    refine contained_bind (contained_pure _) fun tmp => ?_
    split
    · exact (ecf.txtRelGerencial tmp).contido
    · rename_i idx hidx
      refine contained_bind (ecf.txtRelGerencial _).contido fun _ => ?_
      refine contained_bind (ecf.acionaGuilhotina corteParcial).contido fun _ => ?_
      split
      · rename_i hlt
        exact ih _ hlt hlt.le
      · exact contained_pure _

/-- `ecf_bematech::txt_rel_gerencial(msg, tag)`, with the tag of the only caller. -/
def txtRelGerencialTag (msg : Str) : Exec Excp σ Unit := imprimeBlocos ecf msg 0

end Ecf

end Spooler
