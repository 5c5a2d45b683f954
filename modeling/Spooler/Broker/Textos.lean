import Spooler.Broker.Atendimento
import Spooler.Broker.Busca
import Spooler.Reader.Contents
import Spooler.Reader.Messages

/-!
# Texts for the device

Four commands hand the parameter `mensagem` of the request to the device as one text. The reader
stores a block of text as the values of one parameter, a line each, and these commands read it with
`get_param_value_by_name`, which returns the first value of a parameter.
**`entregaTudo_iff`**: the device is handed all lines of the block exactly when the block is one
line, which no `mensagem:` line in front of it hides.
-/

namespace Spooler

open Foundations Packet TxtReader

namespace Packet

/-- The values read for the first entry of a name are its own, when it has any. -/
theorem valoresLidos_of_contents {name nome : Str} {pkt : RequestPacket}
    {antes depois : List (Str × List Str)} {vals : List Str}
    (h : pkt.contents = antes ++ (nome, vals) :: depois)
    (hantes : ∀ e ∈ antes, Str.strIequals e.1 name = false)
    (hnome : Str.strIequals nome name = true) (hvals : vals ≠ []) :
    valoresLidos name pkt = some vals := by
  unfold contents at h
  obtain ⟨ps, rest, hps, hmap, hrest⟩ := List.map_eq_append_iff.1 h
  obtain ⟨q, qs, rfl, hq, -⟩ := List.map_eq_cons_iff.1 hrest
  obtain ⟨rfl, rfl⟩ := Prod.mk.inj hq
  have hbefore : ∀ p ∈ ps, Str.strIequals p.name name = false := by
    intro p hp
    have hmem : (p.name, p.val) ∈ antes := by
      rw [← hmap]
      exact List.mem_map_of_mem hp
    exact hantes _ hmem
  rw [valoresLidos, hps, lidos_append hbefore hnome, ultimos_concat, if_neg hvals]

end Packet

namespace TxtReader

/-! ## The command read -/

/-- The reader is past the line of the command, which was `id`. -/
structure Reader.Named (r : Reader) (id : Str) : Prop where
  id : r.pkt.id = id
  named : r.prcPhase = .inParam ∨ r.prcPhase = .inText ∨ r.prcPhase = .inStop

/-- A pass behind the line of the command keeps the command and stays behind that line. -/
theorem Pass.named {r t : Reader} {line id : Str} (h : Pass r line t) (hr : r.Named id) :
    t.Named id := by
  obtain ⟨hid, hphase⟩ := hr
  cases h with
  | cut hp => simp [hp] at hphase
  | start hp => simp [hp] at hphase
  | request hp => simp [hp] at hphase
  | ssid hp => simp [hp] at hphase
  | cmdid hp => simp [hp] at hphase
  | param hp => exact ⟨hid, hphase⟩
  | textOpen hp => exact ⟨hid, .inr (.inl rfl)⟩
  | textLine hp => exact ⟨hid, hphase⟩
  | textClose hp => exact ⟨hid, .inl rfl⟩
  | endTag hp => exact ⟨hid, .inr (.inr rfl)⟩
  | stop hp => exact ⟨hid, hphase⟩

/-- The entries of the packet only grow. -/
theorem Pass.grows {r t : Reader} {line : Str} {entries : List (Str × List Str)}
    (h : Pass r line t) (hr : entries <+: r.pkt.contents) : entries <+: t.pkt.contents := by
  cases h with
  | param hp =>
    rw [contents_addParamKeyVal]
    exact hr.trans (List.prefix_append _ _)
  | textClose hp =>
    rw [contents_addParam]
    exact hr.trans (List.prefix_append _ _)
  | _ => exact hr

theorem BetweenParams.wf {acc : List Str} {r : Reader} (h : BetweenParams acc r) : r.WF := by
  obtain ⟨hp, hd, hs, -⟩ := h
  exact ⟨hs, by simp [hp, hd], by simp [hp], by simp [hp]⟩

/-- What the packet has between two parameters it has when the reading ends. -/
theorem contents_readLines_of_between {acc : List Str} {r : Reader} (h : BetweenParams acc r)
    (ls : List Str) : (readLines r ls).reader.pkt.id = r.pkt.id ∧
      ∃ more, (readLines r ls).reader.pkt.contents = r.pkt.contents ++ more := by
  constructor
  · exact (readLines_keeps Pass.named h.wf ⟨rfl, .inl h.prcPhase⟩ ls).id
  · obtain ⟨more, hmore⟩ :=
      readLines_keeps (P := fun t => r.pkt.contents <+: t.pkt.contents) Pass.grows h.wf
        (List.prefix_refl _) ls
    exact ⟨more, hmore.symm⟩

end TxtReader

/-! ## The commands -/

/-- The commands whose text goes to the device as a whole. -/
inductive CmdTexto
  | sndTxtGerencial
  | sndMsgVinc
  | sndFechaCupom
  | sndFecharecibo

namespace CmdTexto

/-- The tag in `command_id`. -/
def tag : CmdTexto → String
  | sndTxtGerencial => "snd_txt_gerencial"
  | sndMsgVinc => "snd_msg_vinc"
  | sndFechaCupom => "snd_fecha_cupom"
  | sndFecharecibo => "snd_fecharecibo"

def cmdIdx : CmdTexto → CmdIdx
  | sndTxtGerencial => .sndTxtGerencial
  | sndMsgVinc => .sndMsgVinc
  | sndFechaCupom => .sndFechaCupom
  | sndFecharecibo => .sndFecharecibo

/-- The function of the device that is handed the text. -/
def metodo {E : Excp → Prop} {F σ : Type} (ecf : Ecf E F σ) : CmdTexto → Str → Metodo E σ Unit
  | sndTxtGerencial => ecf.txtRelGerencial
  | sndMsgVinc => ecf.msgNfiscalVinc
  | sndFechaCupom => ecf.fechaCupom
  | sndFecharecibo => ecf.fechaRecibo

theorem tagEnum_tag (cmd : CmdTexto) : CmdIdx.tagEnum cmd.tag.toList = .ok cmd.cmdIdx := by
  cases cmd <;> exact CmdIdx.tagEnum_of_filter (by simp [CmdIdx.cmdId, tag, cmdIdx]) nofun

theorem tag_oneLine (cmd : CmdTexto) : '\n' ∉ cmd.tag.toList := by
  cases cmd <;> decide

end CmdTexto

namespace EcfBroker

variable {E : Excp → Prop} {F σ : Type} (b : EcfBroker E F σ)

theorem despacha_cmdIdx (cmd : CmdTexto) (pedido : RequestPacket) :
    b.despacha pedido cmd.cmdIdx = ordena "mensagem" (cmd.metodo b.mEcf) pedido := by
  cases cmd <;> rfl

/-- `trade`, when the device is handed the text. -/
def entrega (cmd : CmdTexto) (pedido : RequestPacket) (texto : Str) : Atendimento σ Unit :=
  tryCatch
    (do
      modify (prepara pedido)
      chama (cmd.metodo b.mEcf texto).run)
    recusa

/-- **The text handed over is the value of the search.** -/
theorem trade_texto {cmd : CmdTexto} {pedido : RequestPacket} {texto : Str}
    (hid : pedido.id = cmd.tag.toList) (hval : getParamValueByName mensagem pedido = .ok texto) :
    b.trade pedido = b.entrega cmd pedido texto := by
  have hparam : (parametro "mensagem" pedido : Atendimento σ Str) = pure texto := by
    unfold parametro
    exact congrArg ofExcept hval
  have htag : (ofExcept (CmdIdx.tagEnum pedido.id) : Atendimento σ CmdIdx) = pure cmd.cmdIdx := by
    rw [hid, cmd.tagEnum_tag]
    rfl
  unfold trade entrega
  simp only [htag, pure_bind, despacha_cmdIdx, ordena, hparam]

/-- A device that keeps the last text. -/
def gravador : Ecf E Int Str :=
  let grava : Str → Metodo E Str Unit := fun msg => ⟨set msg, contained_modify fun _ _ => trivial⟩
  { (default : Ecf E Int Str) with
    txtRelGerencial := grava
    msgNfiscalVinc := grava
    fechaCupom := grava
    fechaRecibo := grava }

/-- Different texts are told apart by a device. -/
theorem entrega_injective (cmd : CmdTexto) (pedido : RequestPacket) {texto texto' : Str}
    (h : ∀ (E : Excp → Prop) (F σ : Type) (b : EcfBroker E F σ),
      b.entrega cmd pedido texto = b.entrega cmd pedido texto') : texto = texto' := by
  let b : EcfBroker Excp.DoSpooler Int Str :=
    { mEcf := gravador, num := Numeric.doisDigitos, pid := 1 }
  let g : Guiche Str := { ecf := [], saida := {} }
  have hkept : ∀ t, (exec (b.entrega cmd pedido t) g).2.ecf = t := by
    intro t
    cases cmd <;> rfl
  rw [← hkept texto, h _ Int Str b, hkept texto']

end EcfBroker

/-! ## The requests -/

/-- A file with an execute request for one of the commands, whose first block of text has lines:
`antes` are the lines in front of the block and `resto` is what follows it. -/
structure PedidoTexto where
  cortes : List Str
  cortado : ∀ l ∈ cortes, '\n' ∉ l ∧ Str.strIequals l cortarPapelEcf = true
  ssid : Identifier
  cmd : CmdTexto
  antes : List ParamLine
  abertura : Str
  aberta : '\n' ∉ abertura ∧ IsTextOpen abertura
  linhas : List TextLine
  comLinhas : linhas ≠ []
  fechamento : Str
  fechada : '\n' ∉ fechamento ∧ IsTextClose fechamento
  resto : Str

namespace PedidoTexto

variable (p : PedidoTexto)

/-- The lines of the message. -/
def textos : List Str := p.linhas.map TextLine.text

def bloco : List Str := p.abertura :: (p.textos ++ [p.fechamento])

/-- The lines of the file to the end of the block. -/
def cabeca : List Str :=
  p.cortes ++ (header p.ssid.text p.cmd.tag.toList ++
    (p.antes.map (fun q => q.name ++ ':' :: q.value) ++ p.bloco))

def arquivo : Str := unlines p.cabeca ++ p.resto

/-- The packet that is read from the file. -/
def pacote : RequestPacket := (readPacket (some p.arquivo)).reader.pkt

/-- The first line in front of the message that has its name. -/
def anterior : Option ParamLine := p.antes.find? fun q => Str.strIequals q.name mensagem

/-- Whatever the device, the broker hands it the text. -/
def Entregue (texto : Str) : Prop :=
  ∀ (E : Excp → Prop) (F σ : Type) (b : EcfBroker E F σ),
    b.trade p.pacote = b.entrega p.cmd p.pacote texto

/-- The text that the device is handed has all lines of the message, in their order. -/
def EntregaTudo : Prop := ∃ texto, p.Entregue texto ∧ p.textos.Sublist (getlines texto)

/-- The message is one line, and a line of its name in front of it says the same. -/
def UmaLinha : Prop := ∃ l, p.linhas = [l] ∧ ∀ q, p.anterior = some q → q.value = l.text

/-- The first value of the first parameter of the name. -/
def texto : Str := p.anterior.elim (p.linhas.head p.comLinhas).text ParamLine.value

/-- The first line of the message, which is the text unless it is hidden. -/
theorem exists_primeira : ∃ (l : TextLine) (ls : List TextLine),
    p.textos = l.text :: ls.map TextLine.text ∧ (p.anterior = none → p.texto = l.text) := by
  obtain ⟨l, ls, hl⟩ := List.exists_cons_of_ne_nil p.comLinhas
  refine ⟨l, ls, by rw [textos, hl, List.map_cons], fun hant => ?_⟩
  rw [texto, hant]
  simp [hl]

/-! ### The packet -/

theorem bloco_oneLine : ∀ l ∈ p.bloco, '\n' ∉ l := by
  intro l hl
  simp only [bloco, textos, List.mem_cons, List.mem_append, List.mem_map, List.not_mem_nil,
    or_false] at hl
  rcases hl with rfl | ⟨t, -, rfl⟩ | rfl
  · exact p.aberta.1
  · exact t.oneLine
  · exact p.fechada.1

theorem getlines_arquivo : getlines p.arquivo = p.cabeca ++ getlines p.resto := by
  refine getlines_unlines_append (List.forall_mem_append.2 ⟨fun l hl => (p.cortado l hl).1, ?_⟩) _
  refine List.forall_mem_append.2 ⟨header_oneLine p.ssid.oneLine p.cmd.tag_oneLine, ?_⟩
  refine List.forall_mem_append.2 ⟨?_, p.bloco_oneLine⟩
  rintro l hl
  obtain ⟨q, -, rfl⟩ := List.mem_map.1 hl
  exact q.oneLine

/-- Behind the block the reader has the command, the lines in front of the block and the block. -/
theorem scan_cabeca : ∃ t, BetweenParams p.textos t ∧
    scanner.scan {} (p.cabeca ++ getlines p.resto) = scanner.scan t (getlines p.resto) ∧
    t.pkt.id = p.cmd.tag.toList ∧
    t.pkt.contents = p.antes.map (fun q => (q.name, [q.value])) ++ [(mensagem, p.textos)] := by
  obtain ⟨r, hr, hcont, hid, hhead⟩ := scan_header p.ssid.text p.cmd.tag.toList
    (p.antes.map (fun q => q.name ++ ':' :: q.value) ++ (p.bloco ++ getlines p.resto))
  obtain ⟨s, hs, hants, hconts, hids⟩ := scan_params p.antes hr (p.bloco ++ getlines p.resto)
  obtain ⟨t, ht, hblock, hcontt, hidt⟩ :=
    scan_block p.aberta.2 p.linhas p.fechada.2 hs (getlines p.resto)
  refine ⟨t, ht, ?_, hidt.trans (hids.trans hid), ?_⟩
  · simp only [cabeca, List.append_assoc]
    rw [scan_cuts fun l hl => (p.cortado l hl).2, hhead, hants, ← hblock]
    simp [bloco, textos]
  · rw [hcontt, hconts, hcont, List.nil_append, List.nil_append]
    rfl

/-- The packet has the command, and the block is its first one. -/
theorem pacote_eq : p.pacote.id = p.cmd.tag.toList ∧ ∃ depois, p.pacote.contents =
    p.antes.map (fun q => (q.name, [q.value])) ++ (mensagem, p.textos) :: depois := by
  obtain ⟨t, ht, hscan, hid, hcont⟩ := p.scan_cabeca
  have hread : readPacket (some p.arquivo) = readLines t (getlines p.resto) := by
    rw [readPacket, getlines_arquivo, readLines_eq_scan t (getlines_ne_nil _), ← hscan,
      readLines_eq_scan {} (List.append_ne_nil_of_right_ne_nil _ (getlines_ne_nil _))]
  obtain ⟨hid', more, hmore⟩ := contents_readLines_of_between ht (getlines p.resto)
  rw [pacote, hread]
  refine ⟨hid'.trans hid, more, ?_⟩
  rw [hmore, hcont, List.append_assoc, List.singleton_append]

/-! ### The text -/

/-- **What `get_param_value_by_name` finds**: the first line of the message, or the value of the
line that hides it. -/
theorem getParamValueByName_pacote : getParamValueByName mensagem p.pacote = .ok p.texto := by
  obtain ⟨-, depois, hcont⟩ := p.pacote_eq
  rcases hant : p.anterior with _ | q
  · have hantes : ∀ q ∈ p.antes, Str.strIequals q.name mensagem = false := by
      simpa using List.find?_eq_none.1 hant
    obtain ⟨l, ls, htextos, htexto⟩ := p.exists_primeira
    rw [htextos] at hcont
    have hlidos := valoresLidos_of_contents hcont (List.forall_mem_map.2 hantes)
      (Str.strIequals_self _) (by simp)
    rw [getParamValueByName_lidos hlidos, htexto hant]
  · obtain ⟨hname, as, bs, heq, has⟩ := List.find?_eq_some_iff_append.1 hant
    have hantes : ∀ q ∈ as, Str.strIequals q.name mensagem = false := by simpa using has
    rw [heq, List.map_append, List.map_cons, List.append_assoc, List.cons_append] at hcont
    have hlidos := valoresLidos_of_contents hcont (List.forall_mem_map.2 hantes) hname (by simp)
    rw [getParamValueByName_lidos hlidos, texto, hant]
    rfl

theorem entregue_texto : p.Entregue p.texto := fun _ _ _ b =>
  b.trade_texto p.pacote_eq.1 p.getParamValueByName_pacote

/-- **The device is handed that text and no other.** -/
theorem entregue_iff (texto : Str) : p.Entregue texto ↔ texto = p.texto := by
  constructor
  · intro h
    refine EcfBroker.entrega_injective p.cmd p.pacote fun E F σ b => ?_
    rw [← h, p.entregue_texto]
  · rintro rfl
    exact p.entregue_texto

theorem entregaTudo_iff_sublist : p.EntregaTudo ↔ p.textos.Sublist (getlines p.texto) := by
  simp only [EntregaTudo, entregue_iff, exists_eq_left]

/-- What is handed over is one line. -/
theorem texto_oneLine : '\n' ∉ p.texto := by
  unfold texto
  cases p.anterior with
  | none => exact (p.linhas.head p.comLinhas).oneLine
  | some q =>
    intro hn
    exact q.oneLine (List.mem_append_right _ (List.mem_cons_of_mem _ hn))

/-- **When the device is handed all lines of the message**: when there is one, and no line of the
same name in front of it says something else. -/
theorem entregaTudo_iff : p.EntregaTudo ↔ p.UmaLinha := by
  rw [entregaTudo_iff_sublist, getlines_of_notMem p.texto_oneLine]
  constructor
  · intro hsub
    have hne : p.textos ≠ [] := by simpa [textos] using p.comLinhas
    have hone : p.textos = [p.texto] := (List.sublist_singleton.1 hsub).resolve_left hne
    obtain ⟨l, hl, htext⟩ := List.map_eq_singleton_iff.1 hone
    refine ⟨l, hl, fun q hq => ?_⟩
    rw [htext, texto, hq]
    rfl
  · rintro ⟨l, hl, hant⟩
    have htext : p.texto = l.text := by
      unfold texto
      rcases hq : p.anterior with _ | q
      · simp [hl]
      · exact hant q hq
    rw [textos, hl, htext]
    exact List.Sublist.refl _

/-- A message of two lines. -/
def duasLinhas : PedidoTexto where
  cortes := []
  cortado := fun l hl => absurd hl List.not_mem_nil
  ssid := ⟨"sgi_id_0".toList, by decide⟩
  cmd := .sndTxtGerencial
  antes := []
  abertura := paramMsgBegin
  aberta := ⟨by decide, isTextOpen_paramMsgBegin⟩
  linhas := [⟨"um".toList, ⟨by decide, by decide⟩, by decide⟩,
    ⟨"dois".toList, ⟨by decide, by decide⟩, by decide⟩]
  comLinhas := List.cons_ne_nil _ _
  fechamento := paramMsgEnd
  fechada := ⟨by decide, isTextClose_paramMsgEnd⟩
  resto := PacketTags.endTag

/-- **A line that is dropped**: the device is handed the first of the two. -/
theorem duasLinhas_perdeDois :
    duasLinhas.Entregue "um".toList ∧ ¬ duasLinhas.EntregaTudo := by
  refine ⟨(duasLinhas.entregue_iff _).2 rfl, ?_⟩
  rw [entregaTudo_iff_sublist]
  decide

/-! ## Lines as pieces of a text

`snd_abre_gerencial` puts the lines of a message together without newlines. Lines that may stand
anywhere in the text are dropped all the same. -/

/-- The text has the pieces, one behind the other. -/
def Contem : List Str → Str → Prop
  | [], _ => True
  | l :: ls, texto => ∃ a b, texto = a ++ (l ++ b) ∧ Contem ls b

theorem Contem.length_le {ls : List Str} {texto : Str} (h : Contem ls texto) :
    ls.flatten.length ≤ texto.length := by
  induction ls generalizing texto with
  | nil => simp
  | cons l ls ih =>
    obtain ⟨a, b, rfl, hb⟩ := h
    have hle := ih hb
    simp only [List.flatten_cons, List.length_append]
    omega

theorem contem_vazias {ls : List Str} (h : ∀ l ∈ ls, l = []) (texto : Str) : Contem ls texto := by
  induction ls generalizing texto with
  | nil => trivial
  | cons l ls ih =>
    rw [List.forall_mem_cons] at h
    exact ⟨[], texto, by simp [h.1], ih h.2 texto⟩

/-- The first of some pieces has all of them when the others are empty. -/
theorem contem_primeira {l : Str} {ls : List Str} : Contem (l :: ls) l ↔ ∀ m ∈ ls, m = [] := by
  constructor
  · intro h
    have hle := h.length_le
    rw [List.flatten_cons, List.length_append] at hle
    have hnil : ls.flatten = [] := List.length_eq_zero_iff.1 (by omega)
    exact List.flatten_eq_nil_iff.1 hnil
  · intro h
    exact ⟨[], [], by simp, contem_vazias h []⟩

/-- **Every line behind the first that has a character is dropped.** -/
theorem entregaPedacos_iff (hant : p.anterior = none) :
    (∃ texto, p.Entregue texto ∧ Contem p.textos texto) ↔ ∀ t ∈ p.textos.tail, t = [] := by
  obtain ⟨l, ls, htextos, htexto⟩ := p.exists_primeira
  simp only [entregue_iff, exists_eq_left, htexto hant, htextos, contem_primeira, List.tail_cons]

end PedidoTexto

end Spooler
