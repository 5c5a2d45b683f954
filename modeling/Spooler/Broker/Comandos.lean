import Spooler.Packet.Excp

/-!
# Commands

The commands of the spooler (`cmdtags.h`) and their tags. `tagEnum` finds the command of a tag; a
text that is no tag is refused.
-/

namespace Spooler

/-- `cmd::cmd_idx`. -/
inductive CmdIdx
  | none | getNrLoja | getNrSerie | getMarca | getModelo | getNrUsuario | getNrSerieCript
  | getNrCaixa | getFirmware | getDataAtual | getHoraAtual | getDataMvto | getDataUltRed
  | getHoraUltRed | getStatusEcf | getNrCupom | getIdFormaPgto | getTotalizadorCnf
  | getProxTotalizador | setFormaPgto | setAliquota | setTotalizador | sndAbreCupom
  | sndCancelaCupom | sndVendeItem | sndIniciaFechamento | sndPagamento | sndFechaCupom
  | sndNfiscalVinc | sndMsgVinc | sndFechaVinc | sndNfiscalNvinc | getMaxCol | sndAbregaveta
  | reducaoZ | getCupomAberto | setArredondamento | getImprimeCheques | getNrReducoes
  | dadosUltReducao | getCntReinicio | memoriaFiscal | leituraX | setMoedaSingular
  | setMoedaPlural | sndImprimeCheque | sndAbreRelGerencial | sndTxtGerencial
  | sndFechaRelGerencial | setRelGerencial | sndAcionaGuilhotina | getIdRelGerencial
  | sndCorteAuto | getIstermica | getIspafcompliant | setTipoCorte | grandetotal | matchconf
  | sndSangria | sndSuprimento | setHorarioverao | getIshorarioverao | downloadmfd
  | getPoucopapel | getCntCupomfiscal | getCntNaofiscal | getCntCreddeb | getCntRelgerencial
  | sndCancelaItem | sndAbrerecibo | sndAbreccd | sndSegundaviaccd | sndReimprimeccd
  | sndCancelarecibo | sndCancelaccd | sndRegnaofiscal | sndLctonaofiscal
  | sndIniciafechamentonaofiscal | sndFecharecibo | sndFechaccd | sndCancnaofiscalpos
  | sndAbreGerencial | getNaofiscAberto | getTabAliq | getTabRelger | getTabTotcnf | getTabFpgto
  | convertemfd
  deriving DecidableEq, Repr

namespace CmdIdx

/-- `cmd::cmd_id`: each tag with the value of its position. -/
def cmdId : List (String × CmdIdx) :=
  [("", .none), ("get_nr_loja", .getNrLoja), ("get_nr_serie", .getNrSerie),
    ("get_marca", .getMarca), ("get_modelo", .getModelo), ("get_numusuario", .getNrUsuario),
    ("get_nr_serie_cript", .getNrSerieCript), ("get_nr_caixa", .getNrCaixa),
    ("get_firmware", .getFirmware), ("get_data_atual", .getDataAtual),
    ("get_hora_atual", .getHoraAtual), ("get_data_mvto", .getDataMvto),
    ("get_data_ult_red", .getDataUltRed), ("get_hora_ult_red", .getHoraUltRed),
    ("get_status_ecf", .getStatusEcf), ("get_nr_cupom", .getNrCupom),
    ("get_id_forma_pgto", .getIdFormaPgto), ("get_totalizador_cnf", .getTotalizadorCnf),
    ("get_prox_totalizador", .getProxTotalizador), ("set_forma_pgto", .setFormaPgto),
    ("set_aliquota", .setAliquota), ("set_totalizador", .setTotalizador),
    ("snd_abre_cupom", .sndAbreCupom), ("snd_cancela_cupom", .sndCancelaCupom),
    ("snd_vende_item", .sndVendeItem), ("snd_inicia_fechamento", .sndIniciaFechamento),
    ("snd_pagamento", .sndPagamento), ("snd_fecha_cupom", .sndFechaCupom),
    ("snd_nfiscal_vinc", .sndNfiscalVinc), ("snd_msg_vinc", .sndMsgVinc),
    ("snd_fecha_vinc", .sndFechaVinc), ("snd_nfiscal_nvinc", .sndNfiscalNvinc),
    ("get_max_col", .getMaxCol), ("snd_abregaveta", .sndAbregaveta), ("reducao_z", .reducaoZ),
    ("get_cupom_aberto", .getCupomAberto), ("set_arredondamento", .setArredondamento),
    ("get_imprime_cheques", .getImprimeCheques), ("get_nr_reducoes", .getNrReducoes),
    ("dados_ult_reducao", .dadosUltReducao), ("get_cnt_reinicio", .getCntReinicio),
    ("memoria_fiscal", .memoriaFiscal), ("leitura_x", .leituraX),
    ("set_moeda_singular", .setMoedaSingular), ("set_moeda_plural", .setMoedaPlural),
    ("snd_imprime_cheque", .sndImprimeCheque), ("snd_abre_rel_gerencial", .sndAbreRelGerencial),
    ("snd_txt_gerencial", .sndTxtGerencial), ("snd_fecha_rel_gerencial", .sndFechaRelGerencial),
    ("set_rel_gerencial", .setRelGerencial), ("snd_aciona_guilhotina", .sndAcionaGuilhotina),
    ("get_id_rel_gerencial", .getIdRelGerencial), ("snd_corte_auto", .sndCorteAuto),
    ("get_istermica", .getIstermica), ("get_ispafcompliant", .getIspafcompliant),
    ("set_tipo_corte", .setTipoCorte), ("grandetotal", .grandetotal), ("matchconf", .matchconf),
    ("snd_sangria", .sndSangria), ("snd_suprimento", .sndSuprimento),
    ("set_horarioverao", .setHorarioverao), ("get_ishorarioverao", .getIshorarioverao),
    ("downloadmfd", .downloadmfd), ("get_poucopapel", .getPoucopapel),
    ("get_cnt_cupomfiscal", .getCntCupomfiscal), ("get_cnt_naofiscal", .getCntNaofiscal),
    ("get_cnt_creddeb", .getCntCreddeb), ("get_cnt_relgerencial", .getCntRelgerencial),
    ("snd_cancela_item", .sndCancelaItem), ("snd_abrerecibo", .sndAbrerecibo),
    ("snd_abreccd", .sndAbreccd), ("snd_segundaviaccd", .sndSegundaviaccd),
    ("snd_reimprimeccd", .sndReimprimeccd), ("snd_cancelarecibo", .sndCancelarecibo),
    ("snd_cancelaccd", .sndCancelaccd), ("snd_regnaofiscal", .sndRegnaofiscal),
    ("snd_lctonaofiscal", .sndLctonaofiscal),
    ("snd_iniciafechamentonaofiscal", .sndIniciafechamentonaofiscal),
    ("snd_fecharecibo", .sndFecharecibo), ("snd_fechaccd", .sndFechaccd),
    ("snd_cancnaofiscalpos", .sndCancnaofiscalpos), ("snd_abre_gerencial", .sndAbreGerencial),
    ("get_naofisc_aberto", .getNaofiscAberto), ("get_tab_aliquotas", .getTabAliq),
    ("get_tab_relgerenciais", .getTabRelger), ("get_tab_totcnf", .getTabTotcnf),
    ("get_tab_formaspgto", .getTabFpgto), ("convertemfd", .convertemfd)]

/-- The text of the exception for a text that is no tag. -/
def tagInvalida (tag : Str) : Str := "Tag invalida \"".toList ++ tag ++ "\"!".toList

/-- `command_tags::tag_enum(tag)`: the last position with that tag. -/
def tagEnum (tag : Str) : Except Excp CmdIdx :=
  match (cmdId.filter fun e => e.1.toList = tag).getLast? with
  | .none | some (_, .none) => .error (.spooler .cmdtagExp (tagInvalida tag))
  | some (_, id) => .ok id

/-- A tag of one position is the command there. -/
theorem tagEnum_of_filter {tag : String} {id : CmdIdx}
    (h : (cmdId.filter fun e => e.1 = tag) = [(tag, id)]) (hid : id ≠ .none) :
    tagEnum tag.toList = .ok id := by
  simp only [tagEnum, String.toList_inj, h, List.getLast?_singleton]

theorem isSpooler_of_tagEnum {tag : Str} {e : Excp} (h : tagEnum tag = .error e) :
    e.isSpooler = true := by
  unfold tagEnum at h
  split at h <;> cases h <;> rfl

end CmdIdx

end Spooler
