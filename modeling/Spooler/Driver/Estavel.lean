import Spooler.Driver.Biblioteca
import Spooler.Driver.Tabelas

/-!
# What the calls of the library leave alone

`EstavelLeitura bib I E`: the calls of `check` and what is read from the device keep the property
`I` of the machine, and so do changes to the data members other than the signals, the mode and the
rates (`Reserva`); a refused call raises an exception in `E`. `Estavel bib I E`: so do the calls
that act on the device, outside fake mode, and the log. The lemmas carry this from the calls to the
ways in which the driver makes them: `consulta`, `manda`, `envia` and the searches in the tables of
the device.
-/

namespace Spooler

open Foundations

/-- What reading makes of a device. -/
inductive Biblioteca.Le {δ : Type} (bib : Biblioteca δ) (d : δ) : δ → Prop
  | pergunta (q : Pergunta) : Le bib d (bib.pergunta q d).2
  | extrato (x : Extrato) : Le bib d (bib.extrato x d).2
  | verificaEstadoImpressoraMFD : Le bib d (bib.verificaEstadoImpressoraMFD d).2
  | verificaFormasPagamentoMFD : Le bib d (bib.verificaFormasPagamentoMFD d).2
  | verificaTotalizadoresNaoFiscaisMFD : Le bib d (bib.verificaTotalizadoresNaoFiscaisMFD d).2
  | dataHoraImpressora : Le bib d (bib.dataHoraImpressora d).2
  | dataHoraReducao : Le bib d (bib.dataHoraReducao d).2
  | dadosUltimaReducaoMFD : Le bib d (bib.dadosUltimaReducaoMFD d).2
  | marcaModeloTipoImpressoraMFD : Le bib d (bib.marcaModeloTipoImpressoraMFD d).2
  | flagsFiscais : Le bib d (bib.flagsFiscais d).2
  | statusEstendidoMFD : Le bib d (bib.statusEstendidoMFD d).2
  | randomName (base : Str) : Le bib d (bib.randomName base d).2
  | copyFile (orig dest : Str) : Le bib d (bib.copyFile orig dest d)

/-- The signals of `check`, the mode and the rates are the same. -/
structure Driver.Reserva {F : Type} (a b : Driver F) : Prop where
  sinal : b.sinal = a.sinal
  fake : b.fake = a.fake
  aliqs : b.aliqs = a.aliqs

/-- `I` survives what the driver reads and keeps for itself, and refused calls raise exceptions in
`E`. -/
structure EstavelLeitura {F δ : Type} (bib : Biblioteca δ) (I : Maquina F δ → Prop)
    (E : Excp → Prop) : Prop where
  check : ∀ retcode, Contained I E (Driver.check bib.toDll retcode)
  avalia : ∀ retcode, Contained I E (Driver.avaliaRetcode retcode : Prog F δ Unit)
  sts : ∀ m sts, I m → I { m with drv := { m.drv with sinal := { m.drv.sinal with sts } } }
  le : ∀ m d, bib.Le m.dev d → I m → I { m with dev := d }
  membros : ∀ m drv, m.drv.Reserva drv → I m → I { m with drv }

/-- `I` survives the calls that act as well, outside fake mode. -/
structure Estavel {F δ : Type} (bib : Biblioteca δ) (I : Maquina F δ → Prop) (E : Excp → Prop) :
    Prop extends EstavelLeitura bib I E where
  acao : ∀ m a, m.drv.fake = false → I m → I { m with dev := (bib.acao a m.dev).2 }
  comando : ∀ m c, m.drv.fake = false → I m → I { m with dev := (bib.comando c m.dev).2 }
  registra : ∀ m c, I m → I (m.registra c)

namespace EstavelLeitura

open Driver

variable {F δ α : Type} {bib : Biblioteca δ} {I : Maquina F δ → Prop} {E : Excp → Prop}

/-- Two properties survive together. -/
theorem and {J : Maquina F δ → Prop} {E' : Excp → Prop} (h : EstavelLeitura bib I E)
    (h' : EstavelLeitura bib J E') : EstavelLeitura bib (fun m => I m ∧ J m) E where
  check retcode := (h.check retcode).and (h'.check retcode)
  avalia retcode := (h.avalia retcode).and (h'.avalia retcode)
  sts m x hm := ⟨h.sts m x hm.1, h'.sts m x hm.2⟩
  le m d hd hm := ⟨h.le m d hd hm.1, h'.le m d hd hm.2⟩
  membros m drv hd hm := ⟨h.membros m drv hd hm.1, h'.membros m drv hd hm.2⟩

theorem mono {E' : Excp → Prop} (h : EstavelLeitura bib I E) (hE : ∀ e, E e → E' e) :
    EstavelLeitura bib I E' where
  check retcode := (h.check retcode).mono hE
  avalia retcode := (h.avalia retcode).mono hE
  sts := h.sts
  le := h.le
  membros := h.membros

/-! ## Single calls -/

theorem altera (h : EstavelLeitura bib I E) {f : Driver F → Driver F}
    (hf : ∀ drv : Driver F, drv.Reserva (f drv)) :
    Contained I E (Driver.altera f : Prog F δ Unit) :=
  contained_modify fun m hm => h.membros m _ (hf m.drv) hm

/-- A call that reads. -/
theorem consulta (h : EstavelLeitura bib I E) {f : δ → (ℤ × α) × δ} (hf : ∀ d, bib.Le d (f d).2) :
    Contained I E (Driver.consulta bib.toDll f : Prog F δ α) := by
  intro m hm
  rw [Driver.consulta, wp_bind, wp_get, wp_bind, wp_set]
  exact contained_bind (h.check _) (fun _ => contained_pure _) _ (h.le m _ (hf m.dev) hm)

/-- A call that answers with a return code only, where `I` survives it. -/
theorem aciona (h : EstavelLeitura bib I E) {f : δ → ℤ × δ}
    (hf : ∀ m, I m → I { m with dev := (f m.dev).2 }) :
    Contained I E (Driver.aciona bib.toDll f : Prog F δ Unit) := by
  intro m hm
  rw [Driver.aciona, wp_bind, wp_get, wp_bind, wp_set]
  exact h.check _ _ (hf m hm)

/-- A call that has what it reads written to a file. -/
theorem extrato (h : EstavelLeitura bib I E) (x : Extrato) :
    Contained I E (Driver.aciona bib.toDll (bib.extrato x) : Prog F δ Unit) :=
  h.aciona fun m hm => h.le m _ (.extrato x) hm

/-! ## Searches -/

theorem getIdFormaPgto (h : EstavelLeitura bib I E) (fpgto : Str) :
    Contained I E (Driver.getIdFormaPgto bib.toDll fpgto : Prog F δ (Option ℕ)) := by
  intro m hm
  rw [Driver.getIdFormaPgto, wp_bind, wp_get]
  cases idxElement (fpgto.take sizeFpgto) m.drv.fpgto with
  | some i => exact hm
  | none =>
    have hdev : I { m with dev := (bib.verificaFormasPagamentoMFD m.dev).2 } :=
      h.le m _ .verificaFormasPagamentoMFD hm
    rw [wp_bind, wp_set]
    refine contained_bind (h.check _) (fun _ => ?_) _ hdev
    refine contained_bind (h.altera fun _ => ?_) fun _ => contained_pure _
    exact ⟨rfl, rfl, rfl⟩

theorem getTotalizadorCnf (h : EstavelLeitura bib I E) (tot : Str) :
    Contained I E (Driver.getTotalizadorCnf bib.toDll tot : Prog F δ (Option ℕ)) := by
  intro m hm
  rw [Driver.getTotalizadorCnf, wp_bind, wp_get]
  cases idxElement (tot.take sizeTotcnf) m.drv.totCnf with
  | some i => exact hm
  | none =>
    have hdev : I { m with dev := (bib.verificaTotalizadoresNaoFiscaisMFD m.dev).2 } :=
      h.le m _ .verificaTotalizadoresNaoFiscaisMFD hm
    rw [wp_bind, wp_set]
    refine contained_bind (h.check _) (fun _ => ?_) _ hdev
    refine contained_bind (h.altera fun _ => ?_) fun _ => contained_pure _
    exact ⟨rfl, rfl, rfl⟩

end EstavelLeitura

/-! ## Acting calls -/

namespace Estavel

open Driver

variable {F δ α : Type} {bib : Biblioteca δ} {I : Maquina F δ → Prop} {E : Excp → Prop}

theorem and {J : Maquina F δ → Prop} {E' : Excp → Prop} (h : Estavel bib I E)
    (h' : Estavel bib J E') : Estavel bib (fun m => I m ∧ J m) E where
  toEstavelLeitura := h.toEstavelLeitura.and h'.toEstavelLeitura
  acao m a hf hm := ⟨h.acao m a hf hm.1, h'.acao m a hf hm.2⟩
  comando m c hf hm := ⟨h.comando m c hf hm.1, h'.comando m c hf hm.2⟩
  registra m c hm := ⟨h.registra m c hm.1, h'.registra m c hm.2⟩

theorem mono {E' : Excp → Prop} (h : Estavel bib I E) (hE : ∀ e, E e → E' e) :
    Estavel bib I E' where
  toEstavelLeitura := h.toEstavelLeitura.mono hE
  acao := h.acao
  comando := h.comando
  registra := h.registra

/-- What holds of the rates kept survives. -/
theorem de_aliqs (bib : Biblioteca δ) (P : (AList fun _ : ℕ => Aliquota F) → Prop) :
    Estavel bib (fun m : Maquina F δ => P m.drv.aliqs) fun e => e.isSpooler = true where
  check := soSpooler_check (fun _ _ _ hm => hm) bib.toDll
  avalia retcode := by
    refine soSpooler_of_recusada fun m hm => ?_
    obtain ⟨r, x, hx, hr⟩ := exec_avaliaRetcode retcode m
    rw [hx]
    exact ⟨hr, hm⟩
  sts _ _ hm := hm
  le _ _ _ hm := hm
  membros _ _ hd hm := hd.aliqs.symm ▸ hm
  acao _ _ _ hm := hm
  comando _ _ _ hm := hm
  registra _ _ hm := hm

theorem manda (h : Estavel bib I E) (a : Acao) :
    Contained I E (Driver.manda bib a : Prog F δ Unit) := by
  intro m hm
  rw [Driver.manda, wp_bind, wp_get, wp_ite]
  refine ⟨fun _ => hm, fun hf => ?_⟩
  rw [Driver.aciona, wp_bind, wp_get, wp_bind, wp_set]
  exact h.check _ _ (h.acao m a (by simpa using hf) hm)

theorem executa (h : Estavel bib I E) (c : Comando) {m : Maquina F δ} (hf : m.drv.fake = false)
    (hm : I m) : Wp (Driver.executa bib.toDll c) (fun _ t => I t) (fun e t => E e ∧ I t) m := by
  rw [Driver.executa, wp_bind, wp_get, wp_bind, wp_set]
  exact h.check _ _ (h.registra _ c (h.comando m c hf hm))

theorem envia (h : Estavel bib I E) (c : Comando) :
    Contained I E (Driver.envia bib.toDll c : Prog F δ Unit) := by
  intro m hm
  rw [Driver.envia, wp_bind, wp_get, wp_ite]
  exact ⟨fun _ => h.registra m c hm, fun hf => h.executa c (by simpa using hf) hm⟩

end Estavel

end Spooler
