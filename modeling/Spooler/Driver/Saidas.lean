import Spooler.Driver.Bematech
import Spooler.Driver.Supressao
import Spooler.Foundations.Pieces
import Spooler.Settings.Load

/-!
# The output totalizers of a setting

The setting `cnf_saida=#DESPESAS#PAGAMENTOS#` lists the descriptions of the output totalizers, and
`reg_nao_fiscal` switches payments off for one of them. It searches for the description, cut and
trimmed, in the text of the setting. **A listed description is always found; what is not listed is
found by mistake exactly when it is empty, occurs inside a description, or goes across a
separator**, `liga_iff`.
-/

namespace Spooler

open Foundations Driver

/-- The description is one of those listed, all of them cut and trimmed. -/
def Listada (ds : List Str) (totCnf : Str) : Prop :=
  argCnf totCnf ≠ [] ∧ ∃ d ∈ ds, argCnf d = argCnf totCnf

/-- What the search cannot mistake for a listed description: a text that is not empty, is listed as
a whole if it occurs inside a listed one, and does not go across a separator. -/
structure SemEngano (ds : List Str) (totCnf : Str) : Prop where
  naoVazio : argCnf totCnf ≠ []
  inteiro : '#' ∉ argCnf totCnf → ∀ d ∈ ds, argCnf totCnf <:+: d →
    ∃ d' ∈ ds, argCnf d' = argCnf totCnf
  semSeparador : '#' ∈ argCnf totCnf → ¬ argCnf totCnf <:+: delimited '#' ds

section Busca

variable {ds : List Str} {totCnf : Str}

theorem infix_argCnf (d : Str) : argCnf d <:+: d :=
  (Str.trim_infix _).trans (List.take_prefix _ _).isInfix

/-- A listed description does not contain the separator. -/
theorem Listada.notMem (hd : ∀ d ∈ ds, '#' ∉ d) (h : Listada ds totCnf) : '#' ∉ argCnf totCnf := by
  obtain ⟨-, d, hmem, heq⟩ := h
  rw [← heq]
  exact fun hc => hd d hmem ((infix_argCnf d).subset hc)

/-- A listed description is found. -/
theorem Listada.occurs (hd : ∀ d ∈ ds, '#' ∉ d) (h : Listada ds totCnf) :
    argCnf totCnf <:+: delimited '#' ds := by
  rw [infix_delimited_iff (h.notMem hd) h.1]
  obtain ⟨-, d, hmem, heq⟩ := h
  exact ⟨d, hmem, heq ▸ infix_argCnf d⟩

/-- The search finds the listed descriptions only, exactly when it is not mistaken. -/
theorem infix_iff_listada (hd : ∀ d ∈ ds, '#' ∉ d) :
    (argCnf totCnf <:+: delimited '#' ds ↔ Listada ds totCnf) ↔ SemEngano ds totCnf := by
  constructor
  · intro h
    refine ⟨fun hnil => ?_, fun hno d hmem hinf => ?_, fun hmem hinf => ?_⟩
    · exact (h.1 (hnil ▸ List.nil_infix)).1 hnil
    · by_cases hnil : argCnf totCnf = []
      · exact absurd hnil (h.1 (hnil ▸ List.nil_infix)).1
      · exact (h.1 ((infix_delimited_iff hno hnil).2 ⟨d, hmem, hinf⟩)).2
    · exact (h.1 hinf).notMem hd hmem
  · intro h
    refine ⟨fun hinf => ⟨h.naoVazio, ?_⟩, fun hl => hl.occurs hd⟩
    by_cases hmem : '#' ∈ argCnf totCnf
    · exact absurd hinf (h.semSeparador hmem)
    · obtain ⟨d, hd', hsub⟩ := (infix_delimited_iff hmem h.naoVazio).1 hinf
      exact h.inteiro hmem d hd' hsub

end Busca

section Registro

variable {F δ : Type} {n : Numeric F} {dll : Dll δ} {m : Maquina F δ} {ds : List Str}

/-- The registration switches payments off. -/
def Liga (n : Numeric F) (dll : Dll δ) (m : Maquina F δ) (totCnf : Str) (valor : F) : Prop :=
  m.drv.dontPay = false ∧ ((Op.regNaoFiscal totCnf valor).passo n dll m).drv.dontPay = true

/-- **Payments are switched off for the listed descriptions only, exactly when the search is not
mistaken.** -/
theorem liga_iff (hd : ∀ d ∈ ds, '#' ∉ d)
    (hcnf : m.drv.specific.lookup specCnfSaida = some (delimited '#' ds))
    (hpaga : m.drv.dontPay = false) (totCnf : Str) (valor : F) :
    (Liga n dll m totCnf valor ↔ Listada ds totCnf) ↔ SemEngano ds totCnf := by
  have hliga : Liga n dll m totCnf valor ↔ argCnf totCnf <:+: delimited '#' ds := by
    rw [Liga, passo_regNaoFiscal_dontPay, hpaga, Bool.false_or, marca, hcnf, Str.contains_iff]
    exact and_iff_right rfl
  rw [hliga, infix_iff_listada hd]

/-- What the driver keeps of a file of settings. -/
def configuracao (t : Settings.Specific) : Configuracao where
  specific := t.specific.nodes
  ignorarPoucoPapel := t.ignorarPoucoPapel

/-- **The settings that the driver looks up** are those of the file, when no entry is dropped. -/
theorem lookup_loadSpecific {es : List (Str × Str)} {newline : Bool}
    (h : ∀ e ∈ es, Settings.Legible e) (hun : Settings.Unbroken es newline) {cfgFile : Str}
    (hfile : cfgFile ≠ []) (s : Settings.Specific) : ∃ t,
      Settings.loadSpecific cfgFile (some (Settings.fileOf es newline)) s = some (.ok (), t) ∧
        ∀ k, (exec (loadSpecific (configuracao t)) m).2.drv.specific.lookup k =
          Datapair.lastValue es k := by
  obtain ⟨r, t, ht, hfaith⟩ := (Settings.loadSpecific_faithful_iff h newline hfile s).2 hun
  obtain ⟨r', t', ht', -, hok⟩ := Settings.loadSpecific_fileOf h newline hfile s
  obtain ⟨rfl, rfl⟩ := Prod.mk.inj (Option.some.inj (ht.symm.trans ht'))
  rw [hok fun e he => hun.keys e (Settings.mem_of_mem_kept he)] at ht
  refine ⟨t, ht, fun k => ?_⟩
  rw [loadSpecific, exec_bind, exec_altera]
  exact (t.specific.lookup_nodes k).trans (hfaith k)

/-- The driver just built with a setting of two output totalizers. -/
def comSaidas : Maquina Int Unit :=
  .ligada false true [(specCnfSaida, "#DESPESAS#PAGAMENTOS#".toList)] ()

/-- `DESPESAS` is listed, and switches payments off. -/
theorem liga_listada : Liga .inteiros Caixa.aceitaTudo comSaidas "DESPESAS ".toList 10 ↔
    Listada ["DESPESAS".toList, "PAGAMENTOS".toList] "DESPESAS ".toList := by
  refine (liga_iff (by decide) rfl rfl _ _).2 ⟨by decide, fun _ d _ _ => ?_, fun h => ?_⟩
  · exact ⟨"DESPESAS".toList, List.mem_cons_self, by decide⟩
  · exact absurd h (by decide)

/-- `PAGA` is not listed, and switches payments off all the same. -/
theorem liga_parte : ¬ (Liga .inteiros Caixa.aceitaTudo comSaidas "PAGA".toList 10 ↔
    Listada ["DESPESAS".toList, "PAGAMENTOS".toList] "PAGA".toList) := by
  intro h
  have hliga : Liga .inteiros Caixa.aceitaTudo comSaidas "PAGA".toList 10 := ⟨rfl, by decide⟩
  have hno : ∀ d ∈ ["DESPESAS".toList, "PAGAMENTOS".toList], argCnf d ≠ argCnf "PAGA".toList := by
    decide
  obtain ⟨-, d, hd, heq⟩ := h.1 hliga
  exact hno d hd heq

end Registro

end Spooler
