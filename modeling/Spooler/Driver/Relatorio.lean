import Spooler.Driver.Operacoes
import Spooler.Driver.Mensagem
import Spooler.Foundations.Pieces

/-!
# The text of a management report

`txt_rel_gerencial(msg)` sends a text in blocks of 480 characters, and `txt_rel_gerencial(msg, tag)`
has the paper cut where it finds the tag. What either sends is a list of actions that depends on the
text only (`acoes`, `txtRelGerencialTag_eq`), carried out one after the other until the device
refuses one (`exec_mandaTodas`).

**`txtRelGerencialTag_soletra`**: on a device that refuses nothing the actions spell the text, with
one cut for each of the leftmost, non-overlapping occurrences of the tag.
-/

namespace Spooler

open Foundations

/-! ## The outcome of an action -/

/-- The message held decides what is said of a refusal, not whether there is one. -/
theorem desfecho_ok_iff {ignorar : Bool} {a : Retornado} (stsmsg stsmsg' : Str) :
    desfecho ignorar stsmsg a = .ok () ↔ desfecho ignorar stsmsg' a = .ok () := by
  by_cases h : a.Avaliado ∧ Calado ignorar a.regs.status
  · rw [desfecho_of_calado h.1 h.2, desfecho_of_calado h.1 h.2]
    simp
  · rw [desfecho_of_not_calado h stsmsg stsmsg']

namespace Biblioteca

variable {δ : Type} (bib : Biblioteca δ)

/-- The answer to an action in the state `d` of the device. -/
def retorno (a : Acao) (d : δ) : Retornado where
  retcode := (bib.acao a d).1
  ret := (bib.retornoImpressoraMFD (bib.acao a d).2).1.1
  regs := (bib.retornoImpressoraMFD (bib.acao a d).2).1.2

/-- The state of the device behind an action and its `check`. -/
def apos (a : Acao) (d : δ) : δ := bib.toDll.aposCheck (bib.acao a d).1 (bib.acao a d).2

/-- In the state `d` the device carries the action out. -/
def Aceita (ignorar : Bool) (a : Acao) (d : δ) : Prop :=
  desfecho ignorar [] (bib.retorno a d) = .ok ()

/-- The device carries out the actions one after the other. -/
def AceitaTodas (ignorar : Bool) : List Acao → δ → Prop
  | [], _ => True
  | a :: as, d => bib.Aceita ignorar a d ∧ AceitaTodas ignorar as (bib.apos a d)

variable {bib} {ignorar : Bool}

theorem aceitaTodas_of_forall (h : ∀ a d, bib.Aceita ignorar a d) (as : List Acao) (d : δ) :
    bib.AceitaTodas ignorar as d := by
  induction as generalizing d with
  | nil => trivial
  | cons a as ih => exact ⟨h a d, ih _⟩

end Biblioteca

/-- The machine after actions: the settings are as before, the list of calls is longer. -/
structure Segue {F δ : Type} (m t : Maquina F (δ × List Chamada)) (as : List Acao) : Prop where
  fake : t.drv.fake = m.drv.fake
  ignorar : t.drv.ignorarPoucoPapel = m.drv.ignorarPoucoPapel
  atos : t.atos = m.atos ++ as.map .acao

theorem Segue.refl {F δ : Type} (m : Maquina F (δ × List Chamada)) : Segue m m [] :=
  ⟨rfl, rfl, (List.append_nil _).symm⟩

theorem Segue.trans {F δ : Type} {m t u : Maquina F (δ × List Chamada)} {as bs : List Acao}
    (h : Segue m t as) (h' : Segue t u bs) : Segue m u (as ++ bs) where
  fake := h'.fake.trans h.fake
  ignorar := h'.ignorar.trans h.ignorar
  atos := by rw [h'.atos, h.atos, List.map_append, List.append_assoc]

namespace Driver

variable {F δ : Type} (bib : Biblioteca δ)

/-- An action: the device is asked, and its answer is judged. -/
theorem exec_manda (a : Acao) {m : Maquina F δ} (h : m.drv.fake = false) :
    ∃ r x, exec (manda bib a) m = (r, m.com x (bib.apos a m.dev)) ∧
      (r = .ok () ∧ bib.Aceita m.drv.ignorarPoucoPapel a m.dev ∨
        Recusada r ∧ ¬ bib.Aceita m.drv.ignorarPoucoPapel a m.dev) := by
  simp only [manda, aciona, exec_bind, exec_get, h, Bool.false_eq_true, if_false, exec_set]
  obtain ⟨r, x, hx, hr⟩ := exec_check bib.toDll (bib.acao a m.dev).1
    { m with dev := (bib.acao a m.dev).2 }
  have hfst : (exec (check bib.toDll (bib.retorno a m.dev).retcode)
      { m with dev := (bib.acao a m.dev).2 }).1 =
        desfecho m.drv.ignorarPoucoPapel m.drv.sinal.stsmsg (bib.retorno a m.dev) :=
    exec_check_fst rfl
  have hr₁ : r = desfecho m.drv.ignorarPoucoPapel m.drv.sinal.stsmsg (bib.retorno a m.dev) :=
    (congrArg Prod.fst hx).symm.trans hfst
  refine ⟨r, x, hx, ?_⟩
  have hok : r = .ok () ↔ bib.Aceita m.drv.ignorarPoucoPapel a m.dev := by
    rw [hr₁]
    exact desfecho_ok_iff _ _
  rcases hr with hr | hr
  · exact .inl ⟨hr, hok.1 hr⟩
  · refine .inr ⟨hr, fun ha => ?_⟩
    obtain ⟨msg, hmsg⟩ := hr
    rw [hok.2 ha] at hmsg
    cases hmsg

theorem exec_manda_fake (a : Acao) {m : Maquina F δ} (h : m.drv.fake = true) :
    exec (manda bib a) m = (.ok (), m) := by
  simp only [manda, exec_bind, exec_get, h, if_true, exec_pure]

theorem apos_espia (a : Acao) (d : δ × List Chamada) :
    (bib.espia.apos a d).1 = bib.apos a d.1 := by
  unfold Biblioteca.apos Dll.aposCheck
  have hcode : (bib.espia.acao a d).1 = (bib.acao a d.1).1 := rfl
  rw [hcode]
  split <;> rfl

/-- The same over a device that lists the calls. -/
theorem exec_manda_espia (a : Acao) {m : Maquina F (δ × List Chamada)} (h : m.drv.fake = false) :
    ∃ r t, exec (manda bib.espia a) m = (r, t) ∧ Segue m t [a] ∧ t.dev.1 = bib.apos a m.dev.1 ∧
      (r = .ok () ∧ bib.Aceita m.drv.ignorarPoucoPapel a m.dev.1 ∨
        Recusada r ∧ ¬ bib.Aceita m.drv.ignorarPoucoPapel a m.dev.1) := by
  obtain ⟨r, x, hx, hr⟩ := exec_manda bib.espia a h
  have hatos := atos_manda bib a h
  refine ⟨r, _, hx, ⟨rfl, rfl, ?_⟩, ?_, hr⟩
  · rw [hx] at hatos
    exact hatos
  · exact apos_espia bib a m.dev

theorem segue_check (m : Maquina F (δ × List Chamada)) (retcode : ℤ) :
    SoSpooler (fun t => Segue m t []) (check bib.toDll.espia retcode) := by
  refine soSpooler_of_recusada fun t ht => ?_
  obtain ⟨r, x, hx, hr⟩ := exec_check bib.toDll.espia retcode t
  have hatos := atos_check bib.toDll retcode t
  rw [hx] at hatos ⊢
  exact ⟨hr, ht.fake, ht.ignorar, hatos.trans ht.atos⟩

/-- What is read is no action. -/
theorem segue_pergunta (m : Maquina F (δ × List Chamada)) (q : Pergunta) :
    SoSpooler (fun t => Segue m t [])
      (consulta bib.espia.toDll (bib.espia.pergunta q) : Prog F (δ × List Chamada) Str) := by
  intro t ht
  rw [consulta, wp_bind, wp_get, wp_bind, wp_set]
  refine contained_bind (segue_check bib m _) (fun _ => contained_pure _) _
    ⟨ht.fake, ht.ignorar, ?_⟩
  rw [← ht.atos]
  simp [Maquina.atos, Maquina.chamadas, Biblioteca.espia, Chamada.soLe]

/-! ## Actions one after the other -/

/-- The actions, up to the first that is refused. -/
def mandaTodas : List Acao → Prog F δ Unit
  | [] => pure ()
  | a :: as => manda bib a >>= fun _ => mandaTodas as

theorem mandaTodas_append (as bs : List Acao) :
    (mandaTodas bib (as ++ bs) : Prog F δ Unit) =
      mandaTodas bib as >>= fun _ => mandaTodas bib bs := by
  induction as with
  | nil => simp [mandaTodas]
  | cons a as ih => simp [mandaTodas, ih]

/-- In fake mode nothing is sent. -/
theorem exec_mandaTodas_fake (as : List Acao) {m : Maquina F δ} (h : m.drv.fake = true) :
    exec (mandaTodas bib as) m = (.ok (), m) := by
  induction as with
  | nil => rfl
  | cons a as ih => rw [mandaTodas, exec_bind_ok (exec_manda_fake bib a h), ih]

/-- **All actions are sent, or a beginning of them behind which the device refused one.** -/
theorem exec_mandaTodas (as : List Acao) {m : Maquina F (δ × List Chamada)}
    (h : m.drv.fake = false) :
    ∃ r t, exec (mandaTodas bib.espia as) m = (r, t) ∧
      (r = .ok () ∧ bib.AceitaTodas m.drv.ignorarPoucoPapel as m.dev.1 ∧ Segue m t as ∨
        Recusada r ∧ ¬ bib.AceitaTodas m.drv.ignorarPoucoPapel as m.dev.1 ∧
          ∃ bs, bs <+: as ∧ Segue m t bs) := by
  induction as generalizing m with
  | nil => exact ⟨_, _, rfl, .inl ⟨rfl, trivial, .refl m⟩⟩
  | cons a as ih =>
    obtain ⟨r, t, hx, ht, hdev, ⟨rfl, ha⟩ | ⟨hr, ha⟩⟩ := exec_manda_espia bib a h
    · obtain ⟨r, u, hu, hcase⟩ := ih (ht.fake.trans h)
      rw [ht.ignorar, hdev] at hcase
      refine ⟨r, u, (exec_bind_ok hx).trans hu, ?_⟩
      rcases hcase with ⟨hr, has, hu⟩ | ⟨hr, has, bs, hbs, hu⟩
      · exact .inl ⟨hr, ⟨ha, has⟩, ht.trans hu⟩
      · exact .inr ⟨hr, fun hall => has hall.2, a :: bs, (List.prefix_cons_inj a).2 hbs,
          ht.trans hu⟩
    · obtain ⟨msg, rfl⟩ := hr
      exact ⟨_, t, exec_bind_error hx, .inr ⟨⟨msg, rfl⟩, fun hall => ha hall.1, [a],
        (List.prefix_cons_inj a).2 (List.nil_prefix), ht⟩⟩

/-! ## The actions of a text -/

/-- The blocks of a text. -/
def acoesTexto (msg : Str) : List Acao := (trechos msg).map .usaRelatorioGerencialMFD

theorem trechos_eq (msg : Str) : trechos msg = blocks 480 (Str.cstr msg) := rfl

theorem txtRelGerencial_eq (msg : Str) :
    (txtRelGerencial bib msg : Prog F δ Unit) = mandaTodas bib (acoesTexto msg) := by
  unfold txtRelGerencial acoesTexto
  induction trechos msg with
  | nil => rfl
  | cons buff resto ih => rw [usaRelatorio, ih, List.map_cons, mandaTodas]

/-- The cut at a tag. -/
def corte : Acao := .acionaGuilhotinaMFD corteParcial

theorem acionaGuilhotina_eq :
    (acionaGuilhotina bib corteParcial : Prog F δ Unit) = mandaTodas bib [corte] := by
  rw [acionaGuilhotina, if_neg (by decide)]
  exact (bind_pure_unit (x := manda bib corte)).symm

/-- The loop of `txt_rel_gerencial(msg, tag)`; with an empty tag it would not end. -/
def imprimeBlocosTag (tag : Str) (htag : tag ≠ []) (msg : Str) (pivot : ℕ) : Prog F δ Unit := do
  let tmp ← ofExcept (Str.substrFrom msg pivot)
  match Str.find tag tmp with
  | none => txtRelGerencial bib tmp
  | some idx => do
    txtRelGerencial bib (tmp.take idx)
    acionaGuilhotina bib corteParcial
    if pivot + idx + tag.length < msg.length then
      imprimeBlocosTag tag htag msg (pivot + idx + tag.length)
termination_by msg.length - pivot
decreasing_by
  have hpos := List.length_pos_iff.2 htag
  omega

/-- `txt_rel_gerencial(msg, tag)`. -/
def txtRelGerencialTag (msg tag : Str) (htag : tag ≠ []) : Prog F δ Unit :=
  imprimeBlocosTag bib tag htag msg 0

/-- The pieces of a text that the loop goes through. -/
def pedacos (tag : Str) (htag : tag ≠ []) (s : Str) : List Str :=
  match _h : Str.find tag s with
  | none => [s]
  | some i => s.take i :: pedacos tag htag (s.drop (i + tag.length))
termination_by s.length
decreasing_by
  have hle := Str.add_length_le_of_find htag _h
  have hpos := List.length_pos_iff.2 htag
  rw [List.length_drop]
  omega

/-- The actions for a text. -/
def acoes (tag : Str) (htag : tag ≠ []) (s : Str) : List Acao :=
  [corte].intercalate ((pedacos tag htag s).map acoesTexto)

section Acoes

variable {tag : Str} (htag : tag ≠ [])

theorem pedacos_none {s : Str} (h : Str.find tag s = none) : pedacos tag htag s = [s] := by
  rw [pedacos]
  split
  · rfl
  · rename_i hsome
    rw [h] at hsome
    cases hsome

theorem pedacos_some {s : Str} {i : ℕ} (h : Str.find tag s = some i) :
    pedacos tag htag s = s.take i :: pedacos tag htag (s.drop (i + tag.length)) := by
  rw [pedacos]
  split
  · rename_i hnone
    rw [h] at hnone
    cases hnone
  · rename_i hsome
    rw [h] at hsome
    cases hsome
    rfl

theorem pedacos_ne_nil (s : Str) : pedacos tag htag s ≠ [] := by
  rw [pedacos]
  split <;> exact List.cons_ne_nil _ _

/-- A text is split at the occurrence that the search finds. -/
theorem take_append_tag {s : Str} {i : ℕ} (h : Str.find tag s = some i) :
    s.take i ++ tag ++ s.drop (i + tag.length) = s := by
  obtain ⟨r, hr⟩ := Str.find_eq_some h
  have hdrop : s.drop (i + tag.length) = r := by
    rw [← List.drop_drop, ← hr, List.drop_left]
  rw [hdrop, List.append_assoc, hr, List.take_append_drop]

/-- **The loop goes through the pieces between the leftmost occurrences of the tag.** -/
theorem splits_pedacos (s : Str) : Splits tag s (pedacos tag htag s) := by
  induction s using pedacos.induct tag htag with
  | case1 s hnone =>
    rw [pedacos_none htag hnone]
    exact .whole (Str.not_infix_of_find hnone)
  | case2 s i hsome ih =>
    rw [pedacos_some htag hsome]
    have hfirst : FirstAt tag (s.take i) (s.drop (i + tag.length)) := by
      intro q r hqr
      rw [take_append_tag hsome] at hqr
      exact (List.length_take_le _ _).trans (Str.le_of_find hsome hqr)
    have hcut := Splits.cut hfirst ih
    rwa [take_append_tag hsome] at hcut

theorem acoes_none {s : Str} (h : Str.find tag s = none) : acoes tag htag s = acoesTexto s := by
  rw [acoes, pedacos_none htag h, List.map_singleton, List.intercalate_singleton]

theorem acoes_some {s : Str} {i : ℕ} (h : Str.find tag s = some i) :
    acoes tag htag s =
      acoesTexto (s.take i) ++ [corte] ++ acoes tag htag (s.drop (i + tag.length)) := by
  obtain ⟨p, ps, hp⟩ := List.exists_cons_of_ne_nil
    (pedacos_ne_nil htag (s.drop (i + tag.length)))
  rw [acoes, acoes, pedacos_some htag h, hp, List.map_cons, List.map_cons,
    List.intercalate_cons_cons]

theorem acoes_nil : acoes tag htag [] = [] := by
  have hnone : Str.find tag [] = none := if_neg htag
  rw [acoes_none htag hnone]
  rfl

/-- **The loop sends the actions of the text**, and so comes to an end. -/
theorem imprimeBlocosTag_eq (msg : Str) {pivot : ℕ} (h : pivot ≤ msg.length) :
    (imprimeBlocosTag bib tag htag msg pivot : Prog F δ Unit) =
      mandaTodas bib (acoes tag htag (msg.drop pivot)) := by
  induction pivot using imprimeBlocosTag.induct tag htag msg with
  | case1 pivot ih =>
    rw [imprimeBlocosTag, Str.substrFrom_ok h]
    show (pure (msg.drop pivot) >>= _) = _
    rw [pure_bind]
    rcases hf : Str.find tag (msg.drop pivot) with _ | idx
    · simp only [acoes_none htag hf, txtRelGerencial_eq]
    · simp only [acoes_some htag hf, txtRelGerencial_eq, acionaGuilhotina_eq, mandaTodas_append,
        List.drop_drop, ← Nat.add_assoc, bind_assoc]
      split
      · rename_i hlt
        rw [ih _ hlt hlt.le]
      · rename_i hno
        rw [List.drop_of_length_le (not_lt.1 hno), acoes_nil]
        rfl

theorem txtRelGerencialTag_eq (msg : Str) :
    (txtRelGerencialTag bib msg tag htag : Prog F δ Unit) =
      mandaTodas bib (acoes tag htag msg) :=
  imprimeBlocosTag_eq bib htag msg (Nat.zero_le _)

/-- The loop of the only caller. -/
theorem imprimeBlocos_eq (msg : Str) (pivot : ℕ) :
    (imprimeBlocos bib msg pivot : Prog F δ Unit) =
      imprimeBlocosTag bib Ecf.tagCorte (by decide) msg pivot := by
  induction pivot using imprimeBlocos.induct msg with
  | case1 pivot ih =>
    rw [imprimeBlocos, imprimeBlocosTag]
    congr 1
    funext tmp
    rcases Str.find Ecf.tagCorte tmp with _ | idx
    · rfl
    · simp only
      split
      · rename_i hlt
        rw [ih _ hlt]
      · rfl

end Acoes

end Driver

/-! ## What actions spell -/

/-- The texts are a piece, in parts of at most 480 characters, none of them empty. -/
def Partes (peca : Str) (textos : List Str) : Prop :=
  textos.flatten = peca ∧ ∀ t ∈ textos, t ≠ [] ∧ t.length ≤ 480

/-- The actions spell `msg`: they send the pieces of `msg` between the leftmost, non-overlapping
occurrences of the tag, with one cut for each of these. -/
def Soletra (tag msg : Str) (as : List Acao) : Prop :=
  ∃ pecas textos, Splits tag msg pecas ∧ List.Forall₂ Partes pecas textos ∧
    as = [Driver.corte].intercalate
      (textos.map (List.map Acao.usaRelatorioGerencialMFD))

/-- What the actions leave on the paper, with the tag where they cut it. -/
def escrito (tag : Str) (as : List Acao) : Str :=
  as.flatMap fun
    | .usaRelatorioGerencialMFD t => t
    | .acionaGuilhotinaMFD _ => tag
    | _ => []

theorem escrito_append (tag : Str) (as bs : List Acao) :
    escrito tag (as ++ bs) = escrito tag as ++ escrito tag bs := List.flatMap_append

theorem escrito_textos (tag : Str) (ts : List Str) :
    escrito tag (ts.map Acao.usaRelatorioGerencialMFD) = ts.flatten := by
  induction ts with
  | nil => rfl
  | cons t ts ih => exact congrArg (t ++ ·) ih

theorem escrito_intercalate (tag : Str) (tss : List (List Str)) :
    escrito tag ([Driver.corte].intercalate (tss.map (List.map Acao.usaRelatorioGerencialMFD))) =
      tag.intercalate (tss.map List.flatten) := by
  induction tss with
  | nil => rfl
  | cons ts tss ih =>
    cases tss with
    | nil => simp only [List.map_cons, List.map_nil, List.intercalate_singleton, escrito_textos]
    | cons us tss =>
      simp only [List.map_cons, List.intercalate_cons_cons] at ih ⊢
      have hcorte : escrito tag [Driver.corte] = tag := List.append_nil tag
      rw [escrito_append, escrito_append, escrito_textos, hcorte, ih]

theorem flatten_of_partes {pecas : List Str} {textos : List (List Str)}
    (h : List.Forall₂ Partes pecas textos) : textos.map List.flatten = pecas := by
  induction h with
  | nil => rfl
  | cons hp _ ih => rw [List.map_cons, hp.1, ih]

/-- **Actions spell one text.** -/
theorem Soletra.eq {tag msg : Str} {as : List Acao} (h : Soletra tag msg as) :
    escrito tag as = msg := by
  obtain ⟨pecas, textos, hsplits, hpartes, rfl⟩ := h
  rw [escrito_intercalate, flatten_of_partes hpartes, hsplits.intercalate_eq]

namespace Driver

variable {F δ : Type} {tag : Str}

theorem partes_trechos {p : Str} (h : '\x00' ∉ p) : Partes p (trechos p) := by
  rw [trechos_eq, Str.cstr_eq_self h]
  refine ⟨flatten_blocks (by decide) p, fun t ht => ⟨?_, length_le_of_mem_blocks ht⟩⟩
  rintro rfl
  exact nil_notMem_blocks (by decide) p ht

theorem soletra_acoes (htag : tag ≠ []) {msg : Str} (h : '\x00' ∉ msg) :
    Soletra tag msg (acoes tag htag msg) := by
  have hsplits := splits_pedacos htag msg
  refine ⟨_, (pedacos tag htag msg).map trechos, hsplits, ?_, ?_⟩
  · rw [List.forall₂_map_right_iff, List.forall₂_same]
    exact fun p hp => partes_trechos fun hmem => h ((hsplits.infix_of_mem hp).subset hmem)
  · rw [List.map_map]
    rfl

/-- **The text of a report is sent whole**: `txt_rel_gerencial(msg, tag)` ends, and on a device that
carries out every action those it has sent spell `msg`. In fake mode nothing is sent. -/
theorem txtRelGerencialTag_soletra (bib : Biblioteca δ) (htag : tag ≠ []) {msg : Str}
    (hmsg : '\x00' ∉ msg) (m : Maquina F (δ × List Chamada))
    (hdev : ∀ a d, bib.Aceita m.drv.ignorarPoucoPapel a d) :
    ∃ t as, exec (txtRelGerencialTag bib.espia msg tag htag) m = (.ok (), t) ∧
      Soletra tag msg as ∧
      t.atos = m.atos ++ (if m.drv.fake then [] else as).map .acao := by
  rw [txtRelGerencialTag_eq]
  rcases hfake : m.drv.fake with _ | _
  · obtain ⟨r, t, hx, ⟨rfl, -, ht⟩ | ⟨-, hno, -⟩⟩ :=
      exec_mandaTodas bib (acoes tag htag msg) hfake
    · exact ⟨t, _, hx, soletra_acoes htag hmsg, ht.atos⟩
    · exact absurd (Biblioteca.aceitaTodas_of_forall hdev _ _) hno
  · exact ⟨m, _, exec_mandaTodas_fake _ _ hfake, soletra_acoes htag hmsg,
      (List.append_nil _).symm⟩

/-- Two lines with a cut between them. -/
theorem txtRelGerencialTag_duasLinhas :
    ∃ t as, exec (txtRelGerencialTag (sempreOk fun _ => []).espia "um[]dois".toList "[]".toList
        (by decide)) (.ligada false true [] ((), []) : Maquina Int (Unit × List Chamada)) =
          (.ok (), t) ∧
      Soletra "[]".toList "um[]dois".toList as ∧ t.atos = as.map .acao :=
  txtRelGerencialTag_soletra _ (by decide) (by decide) _ fun _ _ => rfl

end Driver

end Spooler
