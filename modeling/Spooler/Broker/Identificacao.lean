import Spooler.Broker.Resposta

/-!
# Responses that name their requests

`callback` opens the response to an execute packet with its type, its session and its command, and
`trade` writes the type and the command once more. Nothing that serves a command touches them
(`identifica_despacha`), so **whatever is asked and whatever the device does, the response comes
back under the type, the session and the command of its request** (`rotulo_trade`).
-/

namespace Spooler

open Foundations Packet

namespace EcfBroker

variable {E : Excp → Prop} {F σ α : Type}

/-- What tells the request of a packet. -/
def rotulo (p : Packet) : Option PacketType × Str × Str := (p.type, p.session, p.id)

/-- The code keeps the label of the response, whether it raises an exception or not. -/
def Identifica (x : Atendimento σ α) : Prop :=
  ∀ g, rotulo (exec x g).2.saida.toPacket = rotulo g.saida.toPacket

/-! ## Steps and families -/

theorem Reservado.identifica {x : Atendimento σ α} (h : Reservado x) : Identifica x := by
  intro g
  have hwp := h g.saida g rfl
  unfold Wp at hwp
  rcases hx : exec x g with ⟨e | a, t⟩ <;> rw [hx] at hwp
  · exact congrArg (fun r : ResponsePacket => rotulo r.toPacket) hwp.2
  · exact congrArg (fun r : ResponsePacket => rotulo r.toPacket) hwp

theorem identifica_chama (x : Exec Excp σ α) : Identifica (chama x) := by
  intro g
  rw [chama, exec_zoom]

theorem identifica_ofExcept (x : Except Excp α) : Identifica (ofExcept x : Atendimento σ α) := by
  intro g
  rw [exec_ofExcept]

theorem identifica_addParam (key : String) (val : Str) :
    Identifica (addParam key val : Atendimento σ Unit) := fun _ => rfl

theorem identifica_bind {β : Type} {x : Atendimento σ α} {f : α → Atendimento σ β}
    (hx : Identifica x) (hf : ∀ a, Identifica (f a)) : Identifica (x >>= f) := by
  intro g
  have hfirst := hx g
  rw [exec_bind]
  rcases hr : exec x g with ⟨e | a, t⟩ <;> rw [hr] at hfirst
  · exact hfirst
  · exact (hf a t).trans hfirst

theorem identifica_ite {c : Prop} [Decidable c] {x y : Atendimento σ α} (hx : Identifica x)
    (hy : Identifica y) : Identifica (if c then x else y) := by
  split
  · exact hx
  · exact hy

theorem identifica_addMsgs (msgs : List String) :
    Identifica (addMsgs msgs : Atendimento σ Unit) := by
  induction msgs with
  | nil => exact fun _ => rfl
  | cons msg msgs ih => exact identifica_bind (identifica_addParam _ _) fun _ => ih

theorem identifica_parametro_bind {name : String} {pedido : RequestPacket}
    {f : Str → Atendimento σ α} (hf : ∀ valor, Identifica (f valor)) :
    Identifica (parametro name pedido >>= f) :=
  identifica_bind (identifica_ofExcept _) hf

theorem identifica_responde (key : String) (metodo : Metodo E σ α) (texto : α → Str) :
    Identifica (responde key metodo texto) :=
  identifica_bind (identifica_chama _) fun _ => identifica_addParam _ _

theorem identifica_entregaArquivo (metodo : Metodo E σ Str) : Identifica (entregaArquivo metodo) :=
  identifica_bind (identifica_chama _) fun _ =>
    identifica_ite (identifica_addParam _ _) fun _ => rfl

/-! ## The commands -/

variable (b : EcfBroker Excp.DoSpooler F σ) (pedido : RequestPacket)

theorem identifica_getStatusEcf : Identifica b.getStatusEcf :=
  identifica_bind (identifica_chama _) fun _ =>
    identifica_bind (identifica_addParam _ _) fun _ => identifica_addMsgs _

theorem identifica_sndVendeItem : Identifica (b.sndVendeItem pedido) := by
  have hun : Reservado (tryCatch (parametro "unidade" pedido) fun _ => pure [] :
      Atendimento σ Str) :=
    fun saida => contained_tryCatch (reservado_parametro _ _ saida) fun _ _ => contained_pure _
  refine identifica_bind hun.identifica fun un => ?_
  repeat refine identifica_parametro_bind fun _ => ?_
  exact identifica_chama _

theorem identifica_setAliquota : Identifica (b.setAliquota pedido) :=
  identifica_parametro_bind fun _ => identifica_bind (identifica_ofExcept _) fun _ =>
    identifica_bind (identifica_ofExcept _) fun _ => identifica_chama _

theorem identifica_memoriaFiscal : Identifica (b.memoriaFiscal pedido) := by
  refine identifica_parametro_bind fun tipo => ?_
  refine identifica_parametro_bind fun ini => ?_
  refine identifica_parametro_bind fun fim => ?_
  refine identifica_parametro_bind fun compl => ?_
  refine identifica_parametro_bind fun saida => ?_
  exact identifica_bind (identifica_chama _) fun _ => identifica_addParam _ _

/-- **No command touches the label.** -/
theorem identifica_despacha (cmd : CmdIdx) : Identifica (b.despacha pedido cmd) := by
  cases cmd with
  | none => exact fun _ => rfl
  | getNrLoja | getNrSerie | getMarca | getModelo | getNrUsuario | getNrSerieCript | getNrCaixa
  | getFirmware | getDataAtual | getHoraAtual | getDataMvto | getDataUltRed | getHoraUltRed
  | getNrCupom | getProxTotalizador | getMaxCol | getCupomAberto | getImprimeCheques
  | getNrReducoes | getCntReinicio | getIstermica | getIspafcompliant | grandetotal | matchconf
  | getIshorarioverao | getPoucopapel | getCntCupomfiscal | getCntNaofiscal | getCntCreddeb
  | getCntRelgerencial | getNaofiscAberto =>
    exact identifica_responde _ _ _
  | getStatusEcf => exact identifica_getStatusEcf b
  | getIdFormaPgto | getTotalizadorCnf | getIdRelGerencial =>
    exact identifica_parametro_bind fun _ => identifica_responde _ _ _
  | downloadmfd =>
    exact identifica_parametro_bind fun _ => identifica_parametro_bind fun _ =>
      identifica_parametro_bind fun _ => identifica_responde _ _ _
  | setFormaPgto | setTotalizador =>
    exact identifica_parametro_bind fun _ =>
      identifica_bind (reservado_opcional _ _ _).identifica fun _ => identifica_chama _
  | setAliquota => exact identifica_setAliquota b pedido
  | sndVendeItem => exact identifica_sndVendeItem b pedido
  | memoriaFiscal => exact identifica_memoriaFiscal b pedido
  | sndAbreCupom | sndAbrerecibo | sndCancelaccd =>
    exact (reservado_ordenaDocumento _ _).identifica
  | sndCancelaCupom | sndFechaVinc | sndAbregaveta | reducaoZ | setArredondamento
  | sndFechaRelGerencial | sndCorteAuto | setHorarioverao | sndCancelaItem | sndSegundaviaccd
  | sndReimprimeccd | sndFechaccd =>
    exact identifica_chama _
  | sndIniciaFechamento | sndFechaCupom | sndMsgVinc | setMoedaSingular | setMoedaPlural
  | sndAbreRelGerencial | sndTxtGerencial | setRelGerencial | sndAcionaGuilhotina
  | setTipoCorte | sndSangria | sndSuprimento | sndFecharecibo =>
    exact (reservado_ordena _ _ _).identifica
  | sndPagamento | sndRegnaofiscal | sndLctonaofiscal | sndIniciafechamentonaofiscal =>
    exact identifica_parametro_bind fun _ => identifica_parametro_bind fun _ => identifica_chama _
  | sndNfiscalVinc | sndNfiscalNvinc =>
    exact identifica_parametro_bind fun _ => identifica_parametro_bind fun _ =>
      identifica_parametro_bind fun _ => identifica_chama _
  | dadosUltReducao =>
    exact identifica_bind (reservado_grava _ _).identifica fun _ =>
      identifica_bind (identifica_chama _) fun _ =>
      identifica_bind (reservado_grava _ _).identifica fun _ => identifica_addParam _ _
  | leituraX =>
    exact identifica_bind (reservado_opcional _ _ _).identifica fun _ => identifica_entregaArquivo _
  | sndImprimeCheque => exact (reservado_sndImprimeCheque b pedido).identifica
  | sndAbreccd =>
    exact identifica_parametro_bind fun _ => identifica_parametro_bind fun _ =>
      identifica_parametro_bind fun _ => (reservado_ordenaDocumento _ _).identifica
  | sndCancelarecibo => exact (reservado_sndCancelarecibo b pedido).identifica
  | sndCancnaofiscalpos =>
    exact identifica_parametro_bind fun _ => identifica_parametro_bind fun _ =>
      identifica_parametro_bind fun _ => identifica_parametro_bind fun _ =>
      (reservado_ordenaDocumento _ _).identifica
  | sndAbreGerencial => exact (reservado_sndAbreGerencial b pedido).identifica
  | getTabAliq | getTabRelger | getTabTotcnf | getTabFpgto => exact identifica_entregaArquivo _
  | convertemfd => exact (reservado_convertemfd b pedido).identifica

theorem identifica_recusa (e : Excp) : Identifica (recusa e : Atendimento σ Unit) := by
  intro g
  cases e <;> rfl

/-- **The response comes back under the label of its request.** -/
theorem rotulo_trade (ecf : σ) :
    rotulo (exec (b.trade pedido) (abreGuiche pedido ecf [])).2.saida.toPacket =
      rotulo pedido := by
  have hlabel : rotulo (prepara pedido (abreGuiche pedido ecf [])).saida.toPacket =
      rotulo pedido := rfl
  unfold trade
  rw [exec_tryCatch, exec_bind, exec_modify]
  simp only [exec_bind, exec_ofExcept]
  cases CmdIdx.tagEnum pedido.id with
  | error e => exact (identifica_recusa e _).trans hlabel
  | ok cmd =>
    have hkept := identifica_despacha b pedido cmd (prepara pedido (abreGuiche pedido ecf []))
    dsimp only
    rcases hx : exec (b.despacha pedido cmd) (prepara pedido (abreGuiche pedido ecf [])) with
      ⟨e | u, t⟩ <;> rw [hx] at hkept
    · exact (identifica_recusa e t).trans (hkept.trans hlabel)
    · exact hkept.trans hlabel

end EcfBroker

end Spooler
