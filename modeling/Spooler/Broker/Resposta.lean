import Spooler.Broker.Atendimento

/-!
# Every request is answered

A function of the broker is `Reservado` when it raises exceptions of the spooler only and does not
touch the response, and `Completo` when it raises them before it touches the response and keeps the
return code. Every command is complete (`completo_despacha`), unless it cuts a text of the client
where there is none, a rate in `set_aliquota` and `snd_vende_item` or a date in `memoria_fiscal`, or
formats an amount of an item that has no room in the buffer (`estoura`). **`trade` answers a
request, with success or with an error and one message, exactly when its command does neither**,
`atendido_trade_iff`; otherwise `std::out_of_range` leaves it, which no caller expects, or a buffer
is written past its end.
-/

namespace Spooler

open Foundations Packet

namespace EcfBroker

variable {E : Excp → Prop} {F σ α : Type}

/-! ## Code that keeps the response -/

/-- The code raises exceptions of the spooler only and does not touch the response. -/
def Reservado (x : Atendimento σ α) : Prop :=
  ∀ saida, SoSpooler (fun g => g.saida = saida) x

theorem reservado_chama {x : Exec Excp σ α}
    (h : SoSpooler (fun _ => True) x) : Reservado (chama x) :=
  fun _ => contained_zoom h fun _ _ ht => ht

theorem reservado_metodo (m : Metodo Excp.DoSpooler σ α) : Reservado (chama m.run) :=
  reservado_chama m.contido

theorem reservado_parametro (name : String) (pedido : RequestPacket) :
    Reservado (parametro name pedido : Atendimento σ Str) :=
  fun _ => contained_ofExcept fun _ he => (faltaParam_of_getParamValueByName he).isSpooler

theorem reservado_pure (a : α) : Reservado (pure a : Atendimento σ α) := fun _ => contained_pure _

theorem reservado_grava (nome txt : Str) : Reservado (grava nome txt : Atendimento σ Unit) :=
  fun _ => contained_modify fun _ hg => hg

theorem reservado_bind {β : Type} {x : Atendimento σ α} {f : α → Atendimento σ β}
    (hx : Reservado x) (hf : ∀ a, Reservado (f a)) : Reservado (x >>= f) :=
  fun saida => contained_bind (hx saida) fun a => hf a saida

theorem reservado_ite {c : Prop} [Decidable c] {x y : Atendimento σ α} (hx : Reservado x)
    (hy : Reservado y) : Reservado (if c then x else y) :=
  fun saida => contained_ite (hx saida) (hy saida)

/-- A handler that takes over for some exceptions of the spooler and passes on the others. -/
theorem reservado_tryCatch {x : Atendimento σ α} {a : α} {cls : SpoolerExp} (hx : Reservado x) :
    Reservado (tryCatch x fun e => if e.isA cls then pure a else throw e) :=
  fun saida => contained_tryCatch (hx saida) fun _ he =>
    contained_ite (contained_pure a) (contained_throw he)

theorem reservado_opcional (name : String) (padrao : Str) (pedido : RequestPacket) :
    Reservado (opcional name padrao pedido : Atendimento σ Str) :=
  reservado_tryCatch (reservado_parametro name pedido)

/-! ## Code that answers -/

/-- The code raises exceptions of the spooler only, and those before it touches the response; it
keeps the return code. -/
def Completo (x : Atendimento σ Unit) : Prop :=
  ∀ g, Wp x (fun _ t => t.saida.retCode = g.saida.retCode)
    (fun e t => e.isSpooler = true ∧ t.saida = g.saida) g

theorem Reservado.completo {x : Atendimento σ Unit} (h : Reservado x) : Completo x :=
  fun g => (h g.saida g rfl).mono (fun _ t ht => by rw [ht]) fun _ _ ht => ht

theorem completo_bind {x : Atendimento σ α} {f : α → Atendimento σ Unit} (hx : Reservado x)
    (hf : ∀ a, Completo (f a)) : Completo (x >>= f) := by
  intro g
  rw [wp_bind]
  refine (hx g.saida g rfl).mono (fun a t ht => ?_) fun _ _ ht => ht
  have h := hf a t
  rwa [ht] at h

/-- Behind a parameter stands code that knows its value. -/
theorem completo_parametro_bind {name : String} {pedido : RequestPacket}
    {f : Str → Atendimento σ Unit}
    (hf : ∀ valor, getParamValueByName name.toList pedido = .ok valor → Completo (f valor)) :
    Completo (parametro name pedido >>= f) := by
  intro g
  rw [wp_bind]
  unfold Wp parametro
  rw [exec_ofExcept]
  cases hvalor : getParamValueByName name.toList pedido with
  | ok valor => exact hf valor hvalor g
  | error e => exact ⟨(faltaParam_of_getParamValueByName hvalor).isSpooler, rfl⟩

theorem completo_ite {c : Prop} [Decidable c] {x y : Atendimento σ Unit} (hx : Completo x)
    (hy : Completo y) : Completo (if c then x else y) := by
  split
  · exact hx
  · exact hy

theorem completo_addParam (key : String) (val : Str) :
    Completo (addParam key val : Atendimento σ Unit) := fun _ => rfl

theorem exec_addMsgs (msgs : List String) (g : Guiche σ) :
    ∃ t, exec (addMsgs msgs) g = (.ok (), t) ∧ t.saida.retCode = g.saida.retCode := by
  induction msgs generalizing g with
  | nil => exact ⟨g, rfl, rfl⟩
  | cons msg msgs ih =>
    obtain ⟨t, ht, hret⟩ := ih { g with saida := g.saida.addMsg "msg".toList msg.toList }
    exact ⟨t, ht, hret⟩

theorem completo_responde (key : String) (metodo : Metodo Excp.DoSpooler σ α)
    (texto : α → Str) :
    Completo (responde key metodo texto) :=
  completo_bind (reservado_metodo metodo) fun _ => completo_addParam _ _

theorem completo_entregaArquivo (metodo : Metodo Excp.DoSpooler σ Str) :
    Completo (entregaArquivo metodo) :=
  completo_bind (reservado_metodo metodo) fun _ =>
    completo_ite (completo_addParam _ _) (reservado_pure _).completo

theorem reservado_ordena (name : String) (metodo : Str → Metodo Excp.DoSpooler σ Unit)
    (pedido : RequestPacket) : Reservado (ordena name metodo pedido) :=
  reservado_bind (reservado_parametro _ _) fun valor => reservado_metodo (metodo valor)

theorem reservado_ordenaDocumento (metodo : Str → Str → Str → Metodo Excp.DoSpooler σ Unit)
    (pedido : RequestPacket) : Reservado (ordenaDocumento metodo pedido) :=
  reservado_bind (reservado_parametro _ _) fun dcto =>
    reservado_bind (reservado_parametro _ _) fun nome =>
    reservado_bind (reservado_parametro _ _) fun endr => reservado_metodo (metodo dcto nome endr)

/-! ## The commands -/

section Completo

variable (b : EcfBroker Excp.DoSpooler F σ) (pedido : RequestPacket)

theorem completo_getStatusEcf : Completo b.getStatusEcf := by
  refine completo_bind (reservado_metodo _) fun sts g => ?_
  obtain ⟨t, ht, hret⟩ := exec_addMsgs (estados sts)
    { g with saida := g.saida.addMsg "contador".toList (Str.intoString (estados sts).length) }
  have hrun : exec (addParam "contador" (Str.intoString (estados sts).length) >>= fun _ =>
      addMsgs (estados sts)) g = (.ok (), t) := ht
  unfold Wp
  rw [hrun]
  exact hret

theorem reservado_sndImprimeCheque : Reservado (b.sndImprimeCheque pedido) := by
  unfold sndImprimeCheque
  repeat refine reservado_bind (reservado_parametro _ _) fun _ => ?_
  exact reservado_metodo _

theorem reservado_sndCancelarecibo : Reservado (b.sndCancelarecibo pedido) := by
  refine reservado_bind (reservado_tryCatch ?_) fun comprador => reservado_metodo _
  exact reservado_bind (reservado_parametro _ _) fun _ =>
    reservado_bind (reservado_parametro _ _) fun _ =>
    reservado_bind (reservado_parametro _ _) fun _ => reservado_pure _

theorem faltaParam_of_juntaValores {msg : PktParam} {e : Excp} (h : juntaValores msg = .error e) :
    FaltaParam e := by
  obtain h | ⟨_, -, h⟩ := error_of_bind h
  · exact faltaParam_of_value h
  · cases h

theorem reservado_sndAbreGerencial : Reservado (b.sndAbreGerencial pedido) := by
  have htexto : ∀ msg : PktParam, Reservado (ofExcept (juntaValores msg) : Atendimento σ Str) :=
    fun _ _ => contained_ofExcept fun _ he => (faltaParam_of_juntaValores he).isSpooler
  have hmsg : Reservado
      (ofExcept (getParamByName "mensagem".toList pedido) : Atendimento σ PktParam) :=
    fun _ => contained_ofExcept fun _ he => (faltaParam_of_getParamByName he).isSpooler
  refine reservado_bind (reservado_ordena _ _ _) fun _ => ?_
  refine reservado_bind (reservado_tryCatch (reservado_bind hmsg fun msg =>
    reservado_tryCatch (htexto msg))) fun texto => ?_
  refine reservado_ite (reservado_bind ?_ fun _ => reservado_metodo _) (reservado_metodo _)
  exact reservado_chama (Ecf.contido_imprimeBlocos _ (Nat.zero_le _))

theorem reservado_convertemfd : Reservado (b.convertemfd pedido) := by
  unfold convertemfd
  repeat refine reservado_bind (reservado_parametro _ _) fun _ => ?_
  refine reservado_bind (reservado_tryCatch (reservado_bind (reservado_parametro _ _) fun _ =>
    reservado_pure _)) fun fmt => ?_
  exact reservado_bind (reservado_opcional _ _ _) fun usr => reservado_metodo _

end Completo

/-! ## Cuts that run out of the text, amounts that run out of the buffer -/

/-- The parameters are there, and what is said of them holds. -/
def lidos (x : Except Excp Bool) : Bool :=
  match x with
  | .ok c => c
  | .error _ => false

theorem lidos_bind {x : Except Excp α} {f : α → Except Excp Bool} :
    lidos (x >>= f) = true ↔ ∃ a, x = .ok a ∧ lidos (f a) = true := by
  cases x with
  | error e => simp [lidos, bind, Except.bind]
  | ok a => simp [lidos, bind, Except.bind]

variable (b : EcfBroker E F σ) (pedido : RequestPacket)

/-- The command cuts a text of the request where there is none, a rate that is cut short or a date
of fewer than four characters, or one of the amounts of an item leaves its buffer. Parameters that
the command reads first must be there. -/
def estoura : CmdIdx → Bool
  | .setAliquota => lidos do
    let aliq ← getParamValueByName "aliquota".toList pedido
    pure (Aliquota.malCortada aliq)
  | .sndVendeItem => lidos do
    let _ ← getParamValueByName "codigo".toList pedido
    let _ ← getParamValueByName "descricao".toList pedido
    let aliq ← getParamValueByName "aliquota".toList pedido
    let qtde ← getParamValueByName "quantidade".toList pedido
    let vlr ← getParamValueByName "valor".toList pedido
    let dsc ← getParamValueByName "desconto".toList pedido
    pure (Ecf.vendaEstoura b.num aliq (b.num.atof qtde) (b.num.atof vlr) (b.num.atof dsc))
  | .memoriaFiscal => lidos do
    let tipo ← getParamValueByName "tipo".toList pedido
    let ini ← getParamValueByName "data_inicio".toList pedido
    let fim ← getParamValueByName "data_fim".toList pedido
    let _ ← getParamValueByName "completa".toList pedido
    let _ ← getParamValueByName "saida".toList pedido
    pure (Str.strIequals tipo "data".toList && decide (ini.length < 4 ∨ fim.length < 4))
  | _ => false

section Completo

variable {b : EcfBroker Excp.DoSpooler F σ} {pedido : RequestPacket}

theorem completo_setAliquota (h : b.estoura pedido .setAliquota = false) :
    Completo (b.setAliquota pedido) := by
  refine completo_parametro_bind fun aliq haliq => ?_
  have hcut : Aliquota.malCortada aliq = false := by
    simp only [estoura, haliq] at h
    exact h
  have hset : Reservado (ofExcept (Aliquota.setStr b.num aliq) : Atendimento σ (Aliquota F)) :=
    fun _ => contained_ofExcept fun _ he => Aliquota.isSpooler_of_setStr hcut he
  refine completo_bind hset fun data => ?_
  have hlog : Reservado (ofExcept (data.getSerialized b.num) : Atendimento σ Str) :=
    fun _ => contained_ofExcept fun _ he => Aliquota.isSpooler_of_getSerialized he
  exact completo_bind hlog fun _ => (reservado_metodo _).completo

theorem completo_sndVendeItem (h : b.estoura pedido .sndVendeItem = false) :
    Completo (b.sndVendeItem pedido) := by
  have hun : Reservado (tryCatch (parametro "unidade" pedido) fun _ => pure [] :
      Atendimento σ Str) :=
    fun saida => contained_tryCatch (reservado_parametro _ _ saida) fun _ _ => contained_pure _
  refine completo_bind hun fun un => ?_
  refine completo_parametro_bind fun cod hcod => ?_
  refine completo_parametro_bind fun descr hdescr => ?_
  refine completo_parametro_bind fun aliq haliq => ?_
  refine completo_parametro_bind fun qtde hqtde => ?_
  refine completo_parametro_bind fun vlr hvlr => ?_
  refine completo_parametro_bind fun dsc hdsc => ?_
  have hcut : Ecf.vendaEstoura b.num aliq (b.num.atof qtde) (b.num.atof vlr) (b.num.atof dsc) =
      false := by
    simp only [estoura, hcod, hdescr, haliq, hqtde, hvlr, hdsc] at h
    exact h
  exact (reservado_chama (Ecf.soSpooler_vendeItem _ _ hcut _ _ _)).completo

theorem completo_memoriaFiscal (h : b.estoura pedido .memoriaFiscal = false) :
    Completo (b.memoriaFiscal pedido) := by
  refine completo_parametro_bind fun tipo htipo => ?_
  refine completo_parametro_bind fun ini hini => ?_
  refine completo_parametro_bind fun fim hfim => ?_
  refine completo_parametro_bind fun compl hcompl => ?_
  refine completo_parametro_bind fun saida hsaida => ?_
  have hcut : (Str.strIequals tipo "data".toList && decide (ini.length < 4 ∨ fim.length < 4)) =
      false := by
    simp only [estoura, htipo, hini, hfim, hcompl, hsaida] at h
    exact h
  refine completo_bind (reservado_chama (Ecf.soSpooler_memoriaFiscal _ (fun hdata => ?_) _ _))
    fun _ => completo_addParam _ _
  by_cases hiq : Str.strIequals tipo "data".toList = true
  · rw [hiq, Bool.true_and, decide_eq_false_iff_not, not_or, not_lt, not_lt] at hcut
    exact hcut
  · rw [if_neg hiq] at hdata
    cases hdata

/-- **Every command is complete, unless it leaves a text or a buffer.** -/
theorem completo_despacha {cmd : CmdIdx} (h : b.estoura pedido cmd = false) :
    Completo (b.despacha pedido cmd) := by
  cases cmd with
  | none => exact fun _ => ⟨rfl, rfl⟩
  | getNrLoja | getNrSerie | getMarca | getModelo | getNrUsuario | getNrSerieCript | getNrCaixa
  | getFirmware | getDataAtual | getHoraAtual | getDataMvto | getDataUltRed | getHoraUltRed
  | getNrCupom | getProxTotalizador | getMaxCol | getCupomAberto | getImprimeCheques
  | getNrReducoes | getCntReinicio | getIstermica | getIspafcompliant | grandetotal | matchconf
  | getIshorarioverao | getPoucopapel | getCntCupomfiscal | getCntNaofiscal | getCntCreddeb
  | getCntRelgerencial | getNaofiscAberto =>
    exact completo_responde _ _ _
  | getStatusEcf =>
    exact completo_getStatusEcf b
  | getIdFormaPgto | getTotalizadorCnf | getIdRelGerencial =>
    exact completo_bind (reservado_parametro _ _) fun _ =>
      completo_responde _ _ _
  | setFormaPgto | setTotalizador =>
    exact completo_bind (reservado_parametro _ _) fun _ =>
      completo_bind (reservado_opcional _ _ _) fun _ =>
      (reservado_metodo _).completo
  | setAliquota =>
    exact completo_setAliquota h
  | sndAbreCupom | sndAbrerecibo | sndCancelaccd =>
    exact (reservado_ordenaDocumento _ _).completo
  | sndCancelaCupom | sndFechaVinc | sndAbregaveta | reducaoZ | setArredondamento
  | sndFechaRelGerencial | sndCorteAuto | setHorarioverao | sndCancelaItem | sndSegundaviaccd
  | sndReimprimeccd | sndFechaccd =>
    exact (reservado_metodo _).completo
  | sndVendeItem =>
    exact completo_sndVendeItem h
  | sndIniciaFechamento | sndFechaCupom | sndMsgVinc | setMoedaSingular | setMoedaPlural
  | sndAbreRelGerencial | sndTxtGerencial | setRelGerencial | sndAcionaGuilhotina
  | setTipoCorte | sndSangria | sndSuprimento | sndFecharecibo =>
    exact (reservado_ordena _ _ _).completo
  | sndPagamento | sndRegnaofiscal | sndLctonaofiscal | sndIniciafechamentonaofiscal =>
    exact completo_bind (reservado_parametro _ _) fun _ =>
      completo_bind (reservado_parametro _ _) fun _ =>
      (reservado_metodo _).completo
  | sndNfiscalVinc | sndNfiscalNvinc =>
    exact completo_bind (reservado_parametro _ _) fun _ =>
      completo_bind (reservado_parametro _ _) fun _ =>
      completo_bind (reservado_parametro _ _) fun _ =>
      (reservado_metodo _).completo
  | dadosUltReducao =>
    exact completo_bind (reservado_grava _ _) fun _ =>
      completo_bind (reservado_metodo _) fun _ =>
      completo_bind (reservado_grava _ _) fun _ => completo_addParam _ _
  | memoriaFiscal =>
    exact completo_memoriaFiscal h
  | leituraX =>
    exact completo_bind (reservado_opcional _ _ _) fun _ => completo_entregaArquivo _
  | sndImprimeCheque =>
    exact (reservado_sndImprimeCheque b pedido).completo
  | downloadmfd =>
    exact completo_bind (reservado_parametro _ _) fun _ =>
      completo_bind (reservado_parametro _ _) fun _ =>
      completo_bind (reservado_parametro _ _) fun _ =>
      completo_responde _ _ _
  | sndAbreccd =>
    exact completo_bind (reservado_parametro _ _) fun _ =>
      completo_bind (reservado_parametro _ _) fun _ =>
      completo_bind (reservado_parametro _ _) fun _ =>
      (reservado_ordenaDocumento _ _).completo
  | sndCancelarecibo =>
    exact (reservado_sndCancelarecibo b pedido).completo
  | sndCancnaofiscalpos =>
    exact completo_bind (reservado_parametro _ _) fun _ =>
      completo_bind (reservado_parametro _ _) fun _ =>
      completo_bind (reservado_parametro _ _) fun _ =>
      completo_bind (reservado_parametro _ _) fun _ =>
      (reservado_ordenaDocumento _ _).completo
  | sndAbreGerencial =>
    exact (reservado_sndAbreGerencial b pedido).completo
  | getTabAliq | getTabRelger | getTabTotcnf | getTabFpgto =>
    exact completo_entregaArquivo _
  | convertemfd =>
    exact (reservado_convertemfd b pedido).completo

end Completo

variable {b : EcfBroker E F σ} {pedido : RequestPacket}

/-- **A command that leaves a text or a buffer ends in what no handler takes.** -/
theorem exec_despacha_of_estoura {cmd : CmdIdx} (h : b.estoura pedido cmd = true) (g : Guiche σ) :
    ∃ e, (exec (b.despacha pedido cmd) g).1 = .error e ∧ e.isSpooler = false := by
  cases cmd with
  | setAliquota =>
    obtain ⟨aliq, haliq, hcut⟩ := lidos_bind.1 h
    refine ⟨.outOfRange, ?_, rfl⟩
    simp only [despacha, setAliquota, parametro, exec_bind, exec_ofExcept, haliq,
      Aliquota.setStr_of_malCortada b.num hcut]
  | sndVendeItem =>
    obtain ⟨cod, hcod, h⟩ := lidos_bind.1 h
    obtain ⟨descr, hdescr, h⟩ := lidos_bind.1 h
    obtain ⟨aliq, haliq, h⟩ := lidos_bind.1 h
    obtain ⟨qtde, hqtde, h⟩ := lidos_bind.1 h
    obtain ⟨vlr, hvlr, h⟩ := lidos_bind.1 h
    obtain ⟨dsc, hdsc, hcut⟩ := lidos_bind.1 h
    have hun : ∃ un, exec (tryCatch (parametro "unidade" pedido) fun _ => pure [] :
        Atendimento σ Str) g = (.ok un, g) := by
      rw [exec_tryCatch, parametro, exec_ofExcept]
      cases getParamValueByName "unidade".toList pedido with
      | ok un => exact ⟨un, rfl⟩
      | error e => exact ⟨[], rfl⟩
    obtain ⟨un, hun⟩ := hun
    obtain ⟨e, he, hspooler⟩ :=
      Ecf.exec_vendeItem_of_estoura b.num b.mEcf hcut cod descr un g.ecf
    refine ⟨e, ?_, hspooler⟩
    simp only [despacha, sndVendeItem, exec_bind, hun]
    simp only [parametro, exec_ofExcept, hcod, hdescr, haliq, hqtde, hvlr, hdsc, chama, exec_zoom,
      he]
  | memoriaFiscal =>
    obtain ⟨tipo, htipo, h⟩ := lidos_bind.1 h
    obtain ⟨ini, hini, h⟩ := lidos_bind.1 h
    obtain ⟨fim, hfim, h⟩ := lidos_bind.1 h
    obtain ⟨compl, hcompl, h⟩ := lidos_bind.1 h
    obtain ⟨saida, hsaida, hcut⟩ := lidos_bind.1 h
    obtain ⟨hdata, hcurta⟩ := Bool.and_eq_true_iff.1 hcut
    refine ⟨.outOfRange, ?_, rfl⟩
    simp only [despacha, memoriaFiscal, parametro, exec_bind, exec_ofExcept, htipo, hini, hfim,
      hcompl, hsaida, chama, exec_zoom, if_pos hdata,
      Ecf.exec_memoriaFiscal_of_curta b.mEcf (of_decide_eq_true hcurta)]
  | _ => cases h

/-! ## Requests -/

/-- The request was answered: nothing escaped, and the response reports success, or an error with
one message. -/
def Atendido (r : Except Excp Unit × Guiche σ) : Prop :=
  r.1 = .ok () ∧ (r.2.saida.retCode = pktResponseOk ∨
    r.2.saida.retCode = pktResponseErr ∧ ∃ msg, r.2.saida.contents = [("msg".toList, [msg])])

/-- The command of the request leaves a text or a buffer. -/
def estouraPedido (b : EcfBroker E F σ) (pedido : RequestPacket) : Bool :=
  match CmdIdx.tagEnum pedido.id with
  | .ok cmd => b.estoura pedido cmd
  | .error _ => false

/-- What the collector hands over with a request: a response without parameters. -/
def abreGuiche (pedido : RequestPacket) (ecf : σ) (arquivos : List (Str × Str)) : Guiche σ :=
  { ecf, arquivos, saida := { type := pedido.type, session := pedido.session, id := pedido.id } }

theorem atendido_recusa {e : Excp} (he : e.isSpooler = true) {t : Guiche σ}
    (ht : t.saida.contents = []) : Atendido (exec (recusa e) t) := by
  cases e with
  | spooler cls what =>
    refine ⟨rfl, .inr ⟨rfl, Str.cstr what, ?_⟩⟩
    have hmsg := ResponsePacket.addMsg_contents { t.saida with retCode := pktResponseErr }
      "msg".toList (Str.cstr what)
    exact hmsg.trans (congrArg (· ++ [("msg".toList, [Str.cstr what])]) ht)
  | outOfRange => cases he
  | iosFailure => cases he
  | overrun => cases he

/-- What no handler of the command takes leaves `trade` too. -/
theorem exec_trade_of_estoura (h : b.estouraPedido pedido = true) (g : Guiche σ) :
    ∃ e, (exec (b.trade pedido) g).1 = .error e ∧ e.isSpooler = false := by
  unfold trade
  rw [exec_tryCatch, exec_bind, exec_modify]
  simp only [exec_bind, exec_ofExcept]
  unfold estouraPedido at h
  cases hcmd : CmdIdx.tagEnum pedido.id with
  | error e =>
    rw [hcmd] at h
    cases h
  | ok cmd =>
    rw [hcmd] at h
    obtain ⟨e, hfora, hspooler⟩ := exec_despacha_of_estoura h (prepara pedido g)
    refine ⟨e, ?_, hspooler⟩
    dsimp only
    rcases hx : exec (b.despacha pedido cmd) (prepara pedido g) with ⟨r, t⟩
    rw [hx] at hfora
    subst hfora
    cases e with
    | spooler cls what => cases hspooler
    | _ => rfl

/-- Any other request is answered. -/
theorem atendido_trade {b : EcfBroker Excp.DoSpooler F σ} (h : b.estouraPedido pedido = false)
    (ecf : σ) (arquivos : List (Str × Str)) :
    Atendido (exec (b.trade pedido) (abreGuiche pedido ecf arquivos)) := by
  have hvazia : (prepara pedido (abreGuiche pedido ecf arquivos)).saida.contents = [] := rfl
  have hret : (prepara pedido (abreGuiche pedido ecf arquivos)).saida.retCode = pktResponseOk := rfl
  unfold trade
  rw [exec_tryCatch, exec_bind, exec_modify]
  simp only [exec_bind, exec_ofExcept]
  unfold estouraPedido at h
  generalize prepara pedido (abreGuiche pedido ecf arquivos) = g at hvazia hret ⊢
  cases hcmd : CmdIdx.tagEnum pedido.id with
  | error e => exact atendido_recusa (CmdIdx.isSpooler_of_tagEnum hcmd) hvazia
  | ok cmd =>
    rw [hcmd] at h
    have hwp := completo_despacha h g
    unfold Wp at hwp
    dsimp only
    rcases hx : exec (b.despacha pedido cmd) g with ⟨e | u, t⟩ <;> rw [hx] at hwp
    · exact atendido_recusa hwp.1 (by rw [hwp.2]; exact hvazia)
    · exact ⟨rfl, .inl (hwp.trans hret)⟩

/-- **`trade` answers a request exactly when its command makes no cut where there is no text and
formats no amount without room for it**, on any device that fails with exceptions of the spooler
only. -/
theorem atendido_trade_iff (b : EcfBroker Excp.DoSpooler F σ) (pedido : RequestPacket) (ecf : σ)
    (arquivos : List (Str × Str)) :
    Atendido (exec (b.trade pedido) (abreGuiche pedido ecf arquivos)) ↔
      b.estouraPedido pedido = false := by
  refine ⟨fun hatende => ?_, fun h => atendido_trade h ecf arquivos⟩
  rw [← Bool.not_eq_true]
  intro h
  obtain ⟨e, hfora, -⟩ := exec_trade_of_estoura h (abreGuiche pedido ecf arquivos)
  rw [hatende.1] at hfora
  cases hfora

/-! ## A rate written short -/

/-- A rate of seven per cent, written with one digit. -/
def aliquotaCurta : RequestPacket :=
  ({ id := "set_aliquota".toList, type := some .tpExecut } : Packet).addParamKeyVal
    "aliquota".toList "T:00:7".toList

/-- On a device that accepts everything, the rate ends the broker. -/
theorem aliquotaCurta_escapa :
    let b : EcfBroker Excp.DoSpooler Int Unit := ⟨default, .inteiros, 1⟩
    ¬ Atendido (exec (b.trade aliquotaCurta) (abreGuiche aliquotaCurta () [])) := by
  intro b h
  have hestoura : b.estouraPedido aliquotaCurta = true := by
    have hcmd : CmdIdx.tagEnum aliquotaCurta.id = .ok .setAliquota :=
      CmdIdx.tagEnum_of_filter (by simp [CmdIdx.cmdId]) nofun
    rw [estouraPedido, hcmd]
    decide
  obtain ⟨e, hfora, -⟩ := exec_trade_of_estoura hestoura (abreGuiche aliquotaCurta () [])
  rw [h.1] at hfora
  cases hfora

end EcfBroker

end Spooler
