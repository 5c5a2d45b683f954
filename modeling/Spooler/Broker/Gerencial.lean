import Spooler.Broker.Atendimento
import Spooler.Broker.Busca
import Spooler.Driver.Relatorio

/-!
# A management report in one command

`snd_abre_gerencial` opens a report, gathers the lines of the first parameter `mensagem` into one
text, sends it and closes the report. The text ends at the first empty line behind the first line
(`textoDe`), and an exception raised on the way leaves the report open: a `pkt_param_exp` of the
search, which the handler for `packet_exp` does not catch, or the refusal of a text or of a cut
(`sndAbreGerencial_corre`).

**`sndAbreGerencial_soletra_iff`** says which lines arrive whole, **`sndAbreGerencial_fecha_iff`**
when the report is closed.
-/

namespace Spooler

open Foundations Packet

/-! ## The driver behind the interface -/

namespace Driver

variable {F δ α β : Type} (n : Numeric F) (bib : Biblioteca δ)

theorem noObjeto_bind (x : Prog F δ α) (f : α → Prog F δ β) :
    noObjeto (x >>= f) = noObjeto x >>= fun a => noObjeto (f a) := by
  apply zoom_bind
  · intro _ _
    rfl
  · intro _ _ _
    rfl

theorem noObjeto_ofExcept (x : Except Excp α) :
    noObjeto (ofExcept x : Prog F δ α) = ofExcept x := by
  apply exec_ext
  intro a
  rw [noObjeto, exec_zoom, exec_ofExcept, exec_ofExcept]

theorem soSpooler_noObjeto {x : Prog F δ α} (h : SoSpooler (fun _ => True) x) :
    SoSpooler (fun _ => True) (noObjeto x) := contained_zoom h fun _ _ _ => trivial

theorem soSpooler_abreRelGerencial (c : Classe) (titulo : Str) :
    SoSpooler (fun _ => True) (abreRelGerencial n bib c titulo) := by
  have hle := soSpooler_noObjeto (F := F) (soSpooler_consulta (fun _ _ _ h => h) bib.toDll
    (bib.pergunta .verificaRelatorioGerencialMFD))
  refine contained_bind (contained_getIdRelGerencial hle (fun _ _ h => h) c titulo) fun idx => ?_
  cases idx with
  | none => exact contained_throw rfl
  | some nidx =>
    exact contained_bind (soSpooler_formatInteiro _ _ _) fun _ =>
      soSpooler_noObjeto (soSpooler_manda (fun _ _ _ h => h) _ _)

theorem soSpooler_usaRelatorio (l : List Str) :
    SoSpooler (fun _ => True) (usaRelatorio bib l : Prog F δ Unit) := by
  induction l with
  | nil => exact contained_pure _
  | cons buff resto ih =>
    exact contained_bind (soSpooler_manda (fun _ _ _ h => h) _ _) fun _ => ih

theorem soSpooler_acionaGuilhotina (modo : ℤ) :
    SoSpooler (fun _ => True) (acionaGuilhotina bib modo : Prog F δ Unit) :=
  contained_ite (contained_throw rfl) (soSpooler_manda (fun _ _ _ h => h) _ _)

/-- A report is opened with one command. -/
theorem segue_abreRelGerencial {c : Classe} {titulo : Str} {a b : Aparelho F (δ × List Chamada)}
    (hfake : a.drv.fake = false)
    (h : exec (abreRelGerencial n bib.espia c titulo) a = (.ok (), b)) :
    ∃ cidx, Segue a.toMaquina b.toMaquina [.abreRelatorioGerencialMFD cidx] := by
  have hid : SoSpooler (fun t : Aparelho F (δ × List Chamada) => Segue a.toMaquina t.toMaquina [])
      (getIdRelGerencial bib.espia c titulo) :=
    contained_getIdRelGerencial
      (contained_zoom_sel (fun _ _ => rfl) (segue_pergunta bib a.toMaquina _))
      (fun _ _ ht => ht) c titulo
  have hseg := hid.keeps (Segue.refl a.toMaquina)
  unfold abreRelGerencial at h
  rcases hg : exec (getIdRelGerencial bib.espia c titulo) a with ⟨e | _ | nidx, t⟩
  · rw [exec_bind_error hg] at h
    cases h
  · rw [exec_bind_ok hg] at h
    cases h
  · rw [hg] at hseg
    simp only [exec_bind_ok hg] at h
    have hfmt : ∀ t : Aparelho F (δ × List Chamada),
        (exec (formatInteiro n nidx "%02.0f") t).2 = t := fun t =>
      (soSpooler_formatInteiro (J := (· = t)) n nidx "%02.0f").keeps rfl
    rcases hf : exec (formatInteiro n nidx "%02.0f") t with ⟨e | cidx, u⟩
    · rw [exec_bind_error hf] at h
      cases h
    · obtain rfl : u = t := by
        have := hfmt t
        rwa [hf] at this
      rw [exec_bind_ok hf, noObjeto, exec_zoom] at h
      obtain ⟨r, v, hv, hsegue, -⟩ :=
        exec_manda_espia bib (.abreRelatorioGerencialMFD cidx) (hseg.fake.trans hfake)
      rw [hv] at h
      cases h
      exact ⟨cidx, hseg.trans hsegue⟩

end Driver

/-- The functions about reports, as the driver has them. -/
def Ecf.comRelatorios {F δ : Type} (ecf : Ecf Excp.DoSpooler F (Aparelho F δ)) (n : Numeric F)
    (bib : Biblioteca δ) (c : Classe) : Ecf Excp.DoSpooler F (Aparelho F δ) :=
  { ecf with
    abreRelGerencial titulo :=
      ⟨Driver.abreRelGerencial n bib c titulo, Driver.soSpooler_abreRelGerencial n bib c titulo⟩
    txtRelGerencial msg :=
      ⟨Driver.noObjeto (Driver.txtRelGerencial bib msg),
        Driver.soSpooler_noObjeto (Driver.soSpooler_usaRelatorio bib _)⟩
    acionaGuilhotina modo :=
      ⟨Driver.noObjeto (Driver.acionaGuilhotina bib modo),
        Driver.soSpooler_noObjeto (Driver.soSpooler_acionaGuilhotina bib modo)⟩
    fechaRelGerencial :=
      ⟨Driver.noObjeto (Driver.fechaRelGerencial bib),
        Driver.soSpooler_noObjeto (Driver.soSpooler_manda (fun _ _ _ h => h) _ _)⟩ }

namespace Ecf

variable {F δ : Type} (ecf : Ecf Excp.DoSpooler F (Aparelho F δ)) (n : Numeric F)
  (bib : Biblioteca δ) (c : Classe)

theorem imprimeBlocos_comRelatorios (msg : Str) (pivot : ℕ) :
    (ecf.comRelatorios n bib c).imprimeBlocos msg pivot =
      Driver.noObjeto (Driver.imprimeBlocos bib msg pivot) := by
  induction pivot using imprimeBlocos.induct msg with
  | case1 pivot ih =>
    rw [imprimeBlocos, Driver.imprimeBlocos, Driver.noObjeto_bind, Driver.noObjeto_ofExcept]
    congr 1
    funext tmp
    rcases Str.find tagCorte tmp with _ | idx
    · rfl
    · simp only [Driver.noObjeto_bind]
      split
      · rename_i hlt
        rw [ih _ hlt]
        rfl
      · rfl

theorem tagCorte_ne_nil : tagCorte ≠ [] := by decide

/-- The text with its cuts is a list of actions. -/
theorem txtRelGerencialTag_comRelatorios (msg : Str) :
    (ecf.comRelatorios n bib c).txtRelGerencialTag msg =
      Driver.noObjeto (Driver.mandaTodas bib (Driver.acoes tagCorte tagCorte_ne_nil msg)) := by
  rw [txtRelGerencialTag, imprimeBlocos_comRelatorios, Driver.imprimeBlocos_eq,
    Driver.imprimeBlocosTag_eq _ _ _ (Nat.zero_le _), List.drop_zero]

end Ecf

/-! ## The text gathered -/

namespace EcfBroker

/-- The text gathered from the values of a message: up to the first empty one behind the first. -/
def textoDe : List Str → Str
  | [] => []
  | v :: vs => v ++ (vs.takeWhile (· ≠ [])).flatten

theorem proximosValores_eq {k : ℕ} {msg : PktParam} (h : msg.val.length ≤ msg.idx + k) :
    proximosValores k msg = ((msg.val.drop msg.idx).takeWhile (· ≠ [])).flatten := by
  induction k generalizing msg with
  | zero =>
    rw [List.drop_of_length_le (by omega)]
    rfl
  | succ k ih =>
    unfold proximosValores PktParam.nextValue
    by_cases hi : msg.idx < msg.val.length
    · rw [List.getElem?_eq_getElem hi, List.drop_eq_getElem_cons hi]
      simp only
      by_cases hnil : msg.val[msg.idx] = []
      · rw [if_pos hnil, List.takeWhile_cons_of_neg (by simp [hnil])]
        rfl
      · rw [if_neg hnil, List.takeWhile_cons_of_pos (by simp [hnil]), List.flatten_cons,
          ih (by simp only; omega)]
    · rw [List.getElem?_eq_none (not_lt.1 hi), List.drop_of_length_le (not_lt.1 hi)]
      rfl

theorem juntaValores_eq {msg : PktParam} {v : Str} {vs : List Str} (h : msg.val = v :: vs) :
    juntaValores msg = .ok (textoDe (v :: vs)) := by
  unfold juntaValores
  rw [value_eq_ok h]
  show Except.ok (v ++ proximosValores msg.numLines { msg with idx := 1 }) = _
  rw [proximosValores_eq (by simp only [PktParam.numLines]; omega), h]
  rfl

/-- What is gathered is all there is, unless a line comes behind an empty one. -/
theorem textoDe_eq_flatten_iff {vals : List Str} :
    textoDe vals = vals.flatten ↔ ∀ l ∈ vals.tail.dropWhile (· ≠ []), l = [] := by
  rcases vals with _ | ⟨v, vs⟩
  · simp [textoDe]
  · have hvs : vs.flatten =
        (vs.takeWhile (· ≠ [])).flatten ++ (vs.dropWhile (· ≠ [])).flatten := by
      rw [← List.flatten_append, List.takeWhile_append_dropWhile]
    rw [textoDe, List.flatten_cons, hvs, List.append_cancel_left_eq, List.self_eq_append_right,
      List.flatten_eq_nil_iff, List.tail_cons]

/-! ## What is sent -/

/-- The name of the message. -/
def mensagem : Str := "mensagem".toList

/-- The text of the message, gathered: the middle of `snd_abre_gerencial`. -/
def leMensagem {σ : Type} (pedido : RequestPacket) : Atendimento σ Str :=
  tryCatch
    (do
      let msg ← ofExcept (getParamByName mensagem pedido)
      tryCatch (ofExcept (juntaValores msg)) fun e =>
        if e.isA .pktParamExp then pure [] else throw e)
    fun e => if e.isA .packetExp then pure [] else throw e

theorem exec_leMensagem {σ : Type} {pedido : RequestPacket} {v : Str} {vs : List Str}
    (h : valoresLidos mensagem pedido = some (v :: vs)) (g : Guiche σ) :
    exec (leMensagem pedido) g = (.ok (textoDe (v :: vs)), g) := by
  obtain ⟨msg, hmsg, -, hval, -⟩ := getParamByName_lidos h
  rw [leMensagem, exec_tryCatch, exec_bind, exec_ofExcept, hmsg]
  simp only [exec_tryCatch, exec_ofExcept, juntaValores_eq hval]

/-- A message without values is an error: the exception is no `packet_exp`. -/
theorem exec_leMensagem_semLidos {σ : Type} {pedido : RequestPacket}
    (h : valoresLidos mensagem pedido = none ∨ valoresLidos mensagem pedido = some [])
    (g : Guiche σ) : ∃ e, exec (leMensagem pedido) g = (.error e, g) := by
  obtain ⟨_, hmsg, what, rfl⟩ := getParamByName_semLidos h
  refine ⟨.spooler .pktParamExp what, ?_⟩
  rw [leMensagem, exec_tryCatch, exec_bind, exec_ofExcept, hmsg]
  rfl

section Envio

variable {F δ : Type} (b : EcfBroker Excp.DoSpooler F (Aparelho F (δ × List Chamada)))
  (n : Numeric F) (bib : Biblioteca δ) (c : Classe) (pedido : RequestPacket)

/-- The broker over the driver, as far as reports are concerned. -/
def comRelatorios : EcfBroker Excp.DoSpooler F (Aparelho F (δ × List Chamada)) :=
  { b with mEcf := b.mEcf.comRelatorios n bib.espia c }

/-- The actions for the text of a message. -/
def acoesDe (vals : List Str) : List Acao :=
  Driver.acoes Ecf.tagCorte Ecf.tagCorte_ne_nil (textoDe vals)

/-- The message has a text that the device, in the state `d`, prints to its end. -/
def ImprimeTexto (ignorar : Bool) (d : δ) : Prop :=
  ∃ vals, valoresLidos mensagem pedido = some vals ∧ vals ≠ [] ∧
    bib.AceitaTodas ignorar (acoesDe vals) d

variable {b n bib c pedido} {titulo : Str} {g : Guiche (Aparelho F (δ × List Chamada))}
  {aberto : Aparelho F (δ × List Chamada)}

theorem exec_chama_noObjeto (x : Prog F (δ × List Chamada) Unit)
    (g : Guiche (Aparelho F (δ × List Chamada))) :
    exec (chama (Driver.noObjeto x)) g = ((exec x g.ecf.toMaquina).1,
      { g with ecf := { g.ecf with toMaquina := (exec x g.ecf.toMaquina).2 } }) := rfl

variable (b n bib c) in
/-- The report is closed with one command. -/
theorem segue_fecha (hfake : g.ecf.drv.fake = false) :
    Segue g.ecf.toMaquina
      (exec (b.comRelatorios n bib c).sndFechaRelGerencial g).2.ecf.toMaquina
      [.fechaRelatorioGerencial] := by
  obtain ⟨r, t, ht, hsegue, -⟩ := Driver.exec_manda_espia bib .fechaRelatorioGerencial hfake
  show Segue g.ecf.toMaquina
    (exec (chama (Driver.noObjeto (Driver.fechaRelGerencial bib.espia))) g).2.ecf.toMaquina _
  rw [exec_chama_noObjeto, Driver.fechaRelGerencial, ht]
  exact hsegue

/-- The text, if there is any, and the end of the report. -/
def imprime (b : EcfBroker Excp.DoSpooler F (Aparelho F (δ × List Chamada))) (texto : Str) :
    Atendimento (Aparelho F (δ × List Chamada)) Unit := do
  if texto ≠ [] then chama (b.mEcf.txtRelGerencialTag texto)
  b.sndFechaRelGerencial

theorem sndAbreGerencial_eq (b : EcfBroker Excp.DoSpooler F (Aparelho F (δ × List Chamada)))
    (pedido : RequestPacket) :
    b.sndAbreGerencial pedido =
      b.sndAbreRelGerencial pedido >>= fun _ => leMensagem pedido >>= imprime b := rfl

variable (b n bib c) in
/-- The text is sent to its end and the report closed, or the device refuses an action of the text
and the report stays open. -/
theorem segue_imprime (hfake : g.ecf.drv.fake = false) (vals : List Str) :
    bib.AceitaTodas g.ecf.drv.ignorarPoucoPapel (acoesDe vals) g.ecf.dev.1 ∧
        Segue g.ecf.toMaquina
          (exec (imprime (b.comRelatorios n bib c) (textoDe vals)) g).2.ecf.toMaquina
          (acoesDe vals ++ [.fechaRelatorioGerencial]) ∨
      ¬ bib.AceitaTodas g.ecf.drv.ignorarPoucoPapel (acoesDe vals) g.ecf.dev.1 ∧
        ∃ bs, bs <+: acoesDe vals ∧ Segue g.ecf.toMaquina
          (exec (imprime (b.comRelatorios n bib c) (textoDe vals)) g).2.ecf.toMaquina bs := by
  unfold imprime
  by_cases hnil : textoDe vals = []
  · have hno : acoesDe vals = [] := by
      rw [acoesDe, hnil, Driver.acoes_nil]
    rw [hno, if_neg (not_not_intro hnil)]
    exact .inl ⟨trivial, segue_fecha b n bib c hfake⟩
  · rw [if_pos hnil]
    have htexto : (b.comRelatorios n bib c).mEcf.txtRelGerencialTag (textoDe vals) =
        Driver.noObjeto (Driver.mandaTodas bib.espia (acoesDe vals)) :=
      Ecf.txtRelGerencialTag_comRelatorios b.mEcf n bib.espia c _
    rw [htexto]
    obtain ⟨r, t, ht, ⟨rfl, hall, hsegue⟩ | ⟨⟨msg, rfl⟩, hno, bs, hbs, hsegue⟩⟩ :=
      Driver.exec_mandaTodas bib (acoesDe vals) hfake
    · have hchama : exec (chama (Driver.noObjeto (Driver.mandaTodas bib.espia (acoesDe vals)))) g =
          (.ok (), { g with ecf := { g.ecf with toMaquina := t } }) := by
        rw [exec_chama_noObjeto, ht]
      rw [exec_bind_ok hchama]
      have hfecha := segue_fecha b n bib c
        (g := { g with ecf := { g.ecf with toMaquina := t } }) (hsegue.fake.trans hfake)
      exact .inl ⟨hall, hsegue.trans hfecha⟩
    · have hchama : exec (chama (Driver.noObjeto (Driver.mandaTodas bib.espia (acoesDe vals)))) g =
          (.error (Driver.ecfExp msg), { g with ecf := { g.ecf with toMaquina := t } }) := by
        rw [exec_chama_noObjeto, ht]
      rw [exec_bind_error hchama]
      exact .inr ⟨hno, bs, hbs, hsegue⟩

/-- The machine that the command leaves. -/
def aoFim (b : EcfBroker Excp.DoSpooler F (Aparelho F (δ × List Chamada))) (n : Numeric F)
    (bib : Biblioteca δ) (c : Classe) (pedido : RequestPacket)
    (g : Guiche (Aparelho F (δ × List Chamada))) :
    Maquina F (δ × List Chamada) :=
  (exec ((b.comRelatorios n bib c).sndAbreGerencial pedido) g).2.ecf.toMaquina

/-- **Behind the command that opens the report**: the text and the command that closes it, where
there is a text and the device prints it, and otherwise a beginning of the text at most. -/
theorem sndAbreGerencial_corre (htit : getParamValueByName "titulo".toList pedido = .ok titulo)
    (hopen : exec (Driver.abreRelGerencial n bib.espia c titulo) g.ecf = (.ok (), aberto))
    (hfake : aberto.drv.fake = false) :
    (∃ vals, valoresLidos mensagem pedido = some vals ∧ vals ≠ [] ∧
        bib.AceitaTodas aberto.drv.ignorarPoucoPapel (acoesDe vals) aberto.dev.1 ∧
        Segue aberto.toMaquina (aoFim b n bib c pedido g)
          (acoesDe vals ++ [.fechaRelatorioGerencial])) ∨
      ¬ ImprimeTexto bib pedido aberto.drv.ignorarPoucoPapel aberto.dev.1 ∧
        ∃ vals bs, bs <+: acoesDe vals ∧
          Segue aberto.toMaquina (aoFim b n bib c pedido g) bs := by
  have habre : exec ((b.comRelatorios n bib c).sndAbreRelGerencial pedido) g =
      (.ok (), { g with ecf := aberto }) := by
    unfold sndAbreRelGerencial ordena parametro
    rw [exec_bind, exec_ofExcept, htit]
    show exec (chama (Driver.abreRelGerencial n bib.espia c titulo)) g = _
    rw [chama, exec_zoom, hopen]
  unfold aoFim
  rw [sndAbreGerencial_eq, exec_bind_ok habre]
  have hsem : valoresLidos mensagem pedido = none ∨ valoresLidos mensagem pedido = some [] →
      ¬ ImprimeTexto bib pedido aberto.drv.ignorarPoucoPapel aberto.dev.1 ∧
        ∃ vals bs, bs <+: acoesDe vals ∧ Segue aberto.toMaquina
          (exec (leMensagem pedido >>= imprime (b.comRelatorios n bib c))
            { g with ecf := aberto }).2.ecf.toMaquina bs := by
    intro hno
    obtain ⟨e, he⟩ := exec_leMensagem_semLidos hno { g with ecf := aberto }
    rw [exec_bind_error he]
    refine ⟨?_, [], [], List.nil_prefix, .refl _⟩
    rintro ⟨vals, hvals, hne, -⟩
    rcases hno with hno | hno
    · rw [hvals] at hno
      cases hno
    · rw [hvals] at hno
      exact hne (Option.some.inj hno)
  rcases hl : valoresLidos mensagem pedido with _ | _ | ⟨v, vs⟩
  · exact .inr (hsem (.inl hl))
  · exact .inr (hsem (.inr hl))
  · rw [exec_bind_ok (exec_leMensagem hl _)]
    rcases segue_imprime b n bib c (g := { g with ecf := aberto }) hfake (v :: vs) with
      ⟨hall, hsegue⟩ | ⟨hno, bs, hbs, hsegue⟩
    · exact .inl ⟨v :: vs, rfl, List.cons_ne_nil _ _, hall, hsegue⟩
    · refine .inr ⟨?_, v :: vs, bs, hbs, hsegue⟩
      rintro ⟨vals, hvals, -, hall⟩
      rw [hl, Option.some.injEq] at hvals
      exact hno (hvals ▸ hall)

/-- A text is texts and cuts. -/
theorem fecha_notMem_acoes (texto : Str) :
    Acao.fechaRelatorioGerencial ∉ Driver.acoes Ecf.tagCorte Ecf.tagCorte_ne_nil texto := by
  have htexto : ∀ s, Acao.fechaRelatorioGerencial ∉ Driver.acoesTexto s := by
    intro s h
    obtain ⟨t, -, ht⟩ := List.mem_map.1 h
    cases ht
  induction texto using Driver.pedacos.induct Ecf.tagCorte Ecf.tagCorte_ne_nil with
  | case1 s hnone =>
    rw [Driver.acoes_none _ hnone]
    exact htexto s
  | case2 s i hsome ih =>
    rw [Driver.acoes_some _ hsome, List.mem_append, List.mem_append, not_or, not_or]
    refine ⟨⟨htexto _, ?_⟩, ih⟩
    rw [List.mem_singleton]
    exact fun h => by cases h

/-! ## The report is closed -/

variable (b n bib c pedido g) in
/-- The command that closes the report is issued behind the one that opened it. -/
def Fecha (aberto : Aparelho F (δ × List Chamada)) : Prop :=
  ∃ as, (aoFim b n bib c pedido g).atos = aberto.atos ++ as ∧
    .acao .fechaRelatorioGerencial ∈ as

/-- **A report that was opened is closed exactly when the message has a text, which may be empty,
and the device prints it.** -/
theorem sndAbreGerencial_fecha_iff
    (htit : getParamValueByName "titulo".toList pedido = .ok titulo)
    (hopen : exec (Driver.abreRelGerencial n bib.espia c titulo) g.ecf = (.ok (), aberto))
    (hfake : g.ecf.drv.fake = false) :
    Fecha b n bib c pedido g aberto ↔
      ImprimeTexto bib pedido g.ecf.drv.ignorarPoucoPapel aberto.dev.1 := by
  obtain ⟨cidx, habre⟩ := Driver.segue_abreRelGerencial n bib hfake hopen
  rw [← habre.ignorar]
  rcases sndAbreGerencial_corre (b := b) htit hopen (habre.fake.trans hfake) with
    ⟨vals, hvals, hne, hall, hsegue⟩ | ⟨hno, vals, bs, hbs, hsegue⟩
  · refine iff_of_true ⟨_, hsegue.atos, ?_⟩ ⟨vals, hvals, hne, hall⟩
    exact List.mem_map_of_mem (List.mem_append_right _ (List.mem_singleton_self _))
  · refine iff_of_false ?_ hno
    rintro ⟨as, has, hmem⟩
    rw [hsegue.atos, List.append_cancel_left_eq] at has
    rw [← has] at hmem
    obtain ⟨a, ha, heq⟩ := List.mem_map.1 hmem
    cases heq
    exact fecha_notMem_acoes _ (hbs.subset ha)

/-! ## The text arrives whole -/

variable (b n bib c pedido g) in
/-- The commands sent open a report, spell the lines `L` one behind the other, with a cut for each
occurrence of `cortar_papel_ecf`, and close the report. -/
def Relata (L : List Str) : Prop :=
  ∃ cidx as, Soletra Ecf.tagCorte L.flatten as ∧
    (aoFim b n bib c pedido g).atos = g.ecf.atos ++
      ([Acao.abreRelatorioGerencialMFD cidx] ++
        (as ++ [Acao.fechaRelatorioGerencial])).map .acao

/-- The text leaves nothing on the paper. -/
def NadaImprime (texto : Str) : Prop := Str.cstr texto = [] ∧ ¬ Ecf.tagCorte <:+: texto

/-- With the lines `L` in the message: none of them comes behind an empty one other than the first
and has a text; or there are no lines, and the ones of the parameter before it that has any give a
text that prints nothing. -/
def SemPerda (pedido : RequestPacket) (L : List Str) : Prop :=
  (L ≠ [] ∧ ∀ l ∈ L.tail.dropWhile (· ≠ []), l = []) ∨
    (L = [] ∧ ∃ vals, valoresLidos mensagem pedido = some vals ∧ vals ≠ [] ∧
      NadaImprime (textoDe vals))

theorem acoes_eq_nil_iff (texto : Str) :
    Driver.acoes Ecf.tagCorte Ecf.tagCorte_ne_nil texto = [] ↔ NadaImprime texto := by
  unfold NadaImprime
  rcases hf : Str.find Ecf.tagCorte texto with _ | i
  · rw [Driver.acoes_none _ hf, Driver.acoesTexto, Driver.trechos_eq, List.map_eq_nil_iff,
      and_iff_left (Str.not_infix_of_find hf)]
    constructor
    · intro h
      rw [← flatten_blocks (by decide : 0 < 480) (Str.cstr texto), h]
      rfl
    · intro h
      rw [h]
      rfl
  · rw [Driver.acoes_some _ hf]
    refine iff_of_false (by simp) fun h => h.2 ⟨_, _, Driver.take_append_tag hf⟩

theorem soletra_nil {tag : Str} (htag : tag ≠ []) {as : List Acao} (h : Soletra tag [] as) :
    as = [] := by
  obtain ⟨pecas, textos, hsplits, hpartes, rfl⟩ := h
  obtain rfl : pecas = [[]] := by
    have hnil : Splits tag [] [[]] := .whole fun h => htag (List.infix_nil.1 h)
    exact hsplits.unique hnil
  rcases hpartes with _ | ⟨⟨hflat, hts⟩, hnil⟩
  cases hnil
  rename_i ts
  obtain rfl : ts = [] := by
    rcases ts with _ | ⟨t, ts⟩
    · rfl
    · exact absurd (List.append_eq_nil_iff.1 hflat).1 (hts t (List.mem_cons_self ..)).1
  rfl

/-- The text of a message holds characters of its lines only. -/
theorem subset_textoDe (vals : List Str) : textoDe vals ⊆ vals.flatten := by
  rcases vals with _ | ⟨v, vs⟩
  · exact List.Subset.refl _
  · rw [textoDe, List.flatten_cons]
    intro x hx
    rcases List.mem_append.1 hx with hx | hx
    · exact List.mem_append_left _ hx
    · obtain ⟨l, hl, hxl⟩ := List.mem_flatten.1 hx
      exact List.mem_append_right _
        (List.mem_flatten.2 ⟨l, (List.takeWhile_prefix _).subset hl, hxl⟩)

/-- The values read for a message with lines are these lines. -/
theorem valoresLidos_of_find {L : List Str}
    (hL : (pedido.params.find? fun q => Str.strIequals q.name mensagem).map (·.val) = some L)
    (hne : L ≠ []) : valoresLidos mensagem pedido = some L := by
  rcases semNome_or_primeiro mensagem pedido.params with hno | ⟨antes, q, depois, hps, hantes, hq⟩
  · have hfind : pedido.params.find? (fun q => Str.strIequals q.name mensagem) = none :=
      List.find?_eq_none.2 fun q hq => by simp [hno q hq]
    rw [hfind] at hL
    cases hL
  · rw [hps, find?_primeiro hantes hq] at hL
    obtain rfl : q.val = L := Option.some.inj hL
    rw [valoresLidos, hps, lidos_append hantes hq, ultimos_concat, if_neg hne]

theorem acao_injective : Function.Injective Chamada.acao := fun _ _ h => Chamada.acao.inj h

/-- What was sent is a whole report exactly when values were read that spell the lines. -/
theorem relata_iff (htit : getParamValueByName "titulo".toList pedido = .ok titulo)
    (hopen : exec (Driver.abreRelGerencial n bib.espia c titulo) g.ecf = (.ok (), aberto))
    (hfake : g.ecf.drv.fake = false)
    (hdev : ∀ a d, bib.Aceita g.ecf.drv.ignorarPoucoPapel a d) (L : List Str) :
    Relata b n bib c pedido g L ↔
      ∃ vals, valoresLidos mensagem pedido = some vals ∧ vals ≠ [] ∧
        Soletra Ecf.tagCorte L.flatten (acoesDe vals) := by
  obtain ⟨cidx, habre⟩ := Driver.segue_abreRelGerencial n bib hfake hopen
  unfold Relata
  rcases sndAbreGerencial_corre (b := b) htit hopen (habre.fake.trans hfake) with
    ⟨vals, hvals, hne, -, hsegue⟩ | ⟨hno, vals, bs, hbs, hsegue⟩
  · have hatos := (habre.trans hsegue).atos
    constructor
    · rintro ⟨cidx', as, has, heq⟩
      rw [hatos, List.append_cancel_left_eq] at heq
      have hlist := (List.map_injective_iff.2 acao_injective) heq
      rw [List.singleton_append, List.singleton_append] at hlist
      obtain rfl := List.append_cancel_right (List.cons.inj hlist).2
      exact ⟨vals, hvals, hne, has⟩
    · rintro ⟨vals', hvals', -, has⟩
      rw [hvals, Option.some.injEq] at hvals'
      exact ⟨cidx, acoesDe vals, hvals' ▸ has, hatos⟩
  · have hatos := (habre.trans hsegue).atos
    refine iff_of_false ?_ ?_
    · rintro ⟨cidx', as, -, heq⟩
      rw [hatos, List.append_cancel_left_eq] at heq
      have hlist := (List.map_injective_iff.2 acao_injective) heq
      rw [List.singleton_append, List.singleton_append] at hlist
      have hmem : Acao.fechaRelatorioGerencial ∈ bs := by
        rw [(List.cons.inj hlist).2]
        exact List.mem_append_right _ (List.mem_singleton_self _)
      exact fecha_notMem_acoes _ (hbs.subset hmem)
    · rintro ⟨vals', hvals', hne', -⟩
      rw [← habre.ignorar] at hdev
      exact hno ⟨vals', hvals', hne', Biblioteca.aceitaTodas_of_forall hdev _ _⟩

/-- **The report says what the message says exactly when no line is lost.** -/
theorem sndAbreGerencial_soletra_iff
    (htit : getParamValueByName "titulo".toList pedido = .ok titulo)
    (hopen : exec (Driver.abreRelGerencial n bib.espia c titulo) g.ecf = (.ok (), aberto))
    (hfake : g.ecf.drv.fake = false)
    (hdev : ∀ a d, bib.Aceita g.ecf.drv.ignorarPoucoPapel a d) {L : List Str}
    (hL : (pedido.params.find? fun q => Str.strIequals q.name mensagem).map (·.val) = some L)
    (hnul : ∀ l ∈ L, '\x00' ∉ l) :
    Relata b n bib c pedido g L ↔ SemPerda pedido L := by
  rw [relata_iff htit hopen hfake hdev]
  unfold SemPerda
  by_cases hne : L = []
  · subst hne
    have hacoes : ∀ vals, Soletra Ecf.tagCorte [] (acoesDe vals) ↔ NadaImprime (textoDe vals) := by
      intro vals
      rw [← acoes_eq_nil_iff]
      constructor
      · exact soletra_nil Ecf.tagCorte_ne_nil
      · intro h
        rw [acoesDe, h, ← Driver.acoes_nil Ecf.tagCorte_ne_nil]
        exact Driver.soletra_acoes _ (by simp)
    simp only [List.flatten_nil, hacoes, ne_eq, not_true_eq_false, false_and, true_and, false_or]
  · have htexto : '\x00' ∉ textoDe L := by
      intro h
      obtain ⟨l, hl, hx⟩ := List.mem_flatten.1 (subset_textoDe L h)
      exact hnul l hl hx
    have hspell : Soletra Ecf.tagCorte L.flatten (acoesDe L) ↔ textoDe L = L.flatten := by
      have hown := Driver.soletra_acoes Ecf.tagCorte_ne_nil htexto
      constructor
      · intro h
        exact hown.eq.symm.trans h.eq
      · intro h
        rw [← h]
        exact hown
    simp only [valoresLidos_of_find hL hne, Option.some.injEq, exists_eq_left', hspell,
      textoDe_eq_flatten_iff, hne, ne_eq, not_false_eq_true, true_and, false_and, or_false]

end Envio

/-! ## Requests that are read from files -/

/-- The request for a report with the given lines in the place of the message. -/
def relatorioDe (linhas : List Str) : RequestPacket :=
  (TxtReader.readPacket (some (unlines (["<ecf_sgi_begin>".toList, "ecf_execute_request".toList,
    "session_id:0".toList, "command_id:snd_abre_gerencial".toList, "titulo:FECHAMENTO".toList] ++
      linhas ++ ["<ecf_sgi_end>".toList])))).reader.pkt

/-- The lines of a message. -/
def blocoDe (linhas : List Str) : List Str := "mensagem\x7b".toList :: linhas ++ ["\x7d".toList]

/-- A device that does everything, whose second report is `FECHAMENTO`. -/
def comFechamento : Biblioteca Unit :=
  sempreOk fun _ => List.replicate 21 ' ' ++ ",0001FECHAMENTO".toList

/-- A broker of which only the functions about reports are looked at. -/
def corretor : EcfBroker Excp.DoSpooler Int (Aparelho Int (Unit × List Chamada)) :=
  { mEcf := default, num := Numeric.doisDigitos, pid := 1 }

def aoAbrir : Guiche (Aparelho Int (Unit × List Chamada)) :=
  { ecf := .novo false ((), []), saida := {} }

/-- The driver with the report `FECHAMENTO` open. -/
def fechamentoAberto : Aparelho Int (Unit × List Chamada) :=
  (exec (Driver.abreRelGerencial Numeric.doisDigitos comFechamento.espia .base "FECHAMENTO".toList)
    aoAbrir.ecf).2

theorem exec_abreFechamento :
    exec (Driver.abreRelGerencial Numeric.doisDigitos comFechamento.espia .base "FECHAMENTO".toList)
      aoAbrir.ecf = (.ok (), fechamentoAberto) :=
  Prod.ext (by decide) rfl

theorem aceita_comFechamento (ignorar : Bool) (a : Acao) (d : Unit) :
    comFechamento.Aceita ignorar a d := by
  cases ignorar <;> rfl

/-- The message `a`, `b` and the same with an empty line in between. -/
def doisSeguidos : RequestPacket := relatorioDe (blocoDe ["a".toList, "b".toList])
def doisSeparados : RequestPacket := relatorioDe (blocoDe ["a".toList, [], "b".toList])

/-- A request without a message. -/
def semMensagem : RequestPacket := relatorioDe []

/-- Lines without an empty one among them. -/
theorem sndAbreGerencial_soletra_dois :
    Relata corretor Numeric.doisDigitos comFechamento .base doisSeguidos aoAbrir
        ["a".toList, "b".toList] ∧
      SemPerda doisSeguidos ["a".toList, "b".toList] := by
  have htit : getParamValueByName "titulo".toList doisSeguidos = .ok "FECHAMENTO".toList := by
    decide
  have hsem : SemPerda doisSeguidos ["a".toList, "b".toList] :=
    .inl ⟨by decide, by decide⟩
  exact ⟨(sndAbreGerencial_soletra_iff htit exec_abreFechamento rfl (aceita_comFechamento _)
    (by decide) (by decide)).2 hsem, hsem⟩

/-- **A line that is lost**: the one behind an empty line. -/
theorem sndAbreGerencial_perdeLinha :
    getParamValueByName "titulo".toList doisSeparados = .ok "FECHAMENTO".toList ∧
      (doisSeparados.params.find? fun q => Str.strIequals q.name mensagem).map (·.val) =
        some ["a".toList, [], "b".toList] ∧
      valoresLidos mensagem doisSeparados = some ["a".toList, [], "b".toList] ∧
      acoesDe ["a".toList, [], "b".toList] = [.usaRelatorioGerencialMFD "a".toList] ∧
      ¬ Relata corretor Numeric.doisDigitos comFechamento .base doisSeparados aoAbrir
        ["a".toList, [], "b".toList] := by
  have htit : getParamValueByName "titulo".toList doisSeparados = .ok "FECHAMENTO".toList := by
    decide
  have hlidos : valoresLidos mensagem doisSeparados = some ["a".toList, [], "b".toList] := by
    decide
  have hacoes : acoesDe ["a".toList, [], "b".toList] = [.usaRelatorioGerencialMFD "a".toList] :=
    Driver.acoes_none Ecf.tagCorte_ne_nil (by decide)
  refine ⟨htit, by decide, hlidos, hacoes, ?_⟩
  rw [relata_iff htit exec_abreFechamento rfl (aceita_comFechamento _)]
  rintro ⟨vals, hvals, -, hsoletra⟩
  rw [hlidos, Option.some.injEq] at hvals
  rw [← hvals, hacoes] at hsoletra
  exact absurd hsoletra.eq (by decide)

/-- A report with a text is closed. -/
theorem sndAbreGerencial_fecha_dois :
    Fecha corretor Numeric.doisDigitos comFechamento .base doisSeguidos aoAbrir
      fechamentoAberto := by
  have htit : getParamValueByName "titulo".toList doisSeguidos = .ok "FECHAMENTO".toList := by
    decide
  exact (sndAbreGerencial_fecha_iff htit exec_abreFechamento rfl).2 ⟨["a".toList, "b".toList],
    by decide, by decide,
    Biblioteca.aceitaTodas_of_forall (aceita_comFechamento _) _ _⟩

/-- **A report that stays open**: the request has no message. -/
theorem sndAbreGerencial_ficaAberto :
    getParamValueByName "titulo".toList semMensagem = .ok "FECHAMENTO".toList ∧
      fechamentoAberto.atos = [.acao (.abreRelatorioGerencialMFD "02".toList)] ∧
      (aoFim corretor Numeric.doisDigitos comFechamento .base semMensagem aoAbrir).atos =
        fechamentoAberto.atos ∧
      ¬ Fecha corretor Numeric.doisDigitos comFechamento .base semMensagem aoAbrir
        fechamentoAberto := by
  have hatos : (aoFim corretor Numeric.doisDigitos comFechamento .base semMensagem aoAbrir).atos =
      fechamentoAberto.atos := by decide
  refine ⟨by decide, by decide, hatos, ?_⟩
  rintro ⟨as, has, hmem⟩
  rw [hatos, List.self_eq_append_right] at has
  rw [has] at hmem
  cases hmem

end EcfBroker

end Spooler
