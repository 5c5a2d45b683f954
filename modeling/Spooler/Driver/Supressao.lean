import Spooler.Driver.Documentos

/-!
# Suppressed payments

A receipt with an output totalizer takes no payments: the driver returns from them without sending
anything. The switch is `m_dont_pay`, set by `reg_nao_fiscal` in front of the registration and
cleared by `fecha_recibo` and `fecha_ccd`.

A `Caixa` is the machine with the document open on its device, as the accepted commands leave it.
`SoEmSaida` says that a payment made here is suppressed only if that document is a receipt with an
output totalizer; `soEmSaida_iff` puts it as a relation between switch and document. **It holds in
every state of a run exactly when every step is `Conforme`**, `soEmSaida_iff_conforme`: a
registration that sets the switch is an accepted one of an output totalizer on a receipt, or comes
behind one, and no receipt is cancelled or replaced while the switch is set.
`cancelado_suprime_cupom` is a cancelled receipt that swallows the payments of the next coupon.
-/

namespace Spooler

open Foundations

/-! ## The document -/

/-- The document open on the device; a receipt may have an output totalizer registered. -/
inductive Documento
  | nenhum
  | cupom
  | recibo (saida : Bool)
  | ccd
  deriving DecidableEq

namespace Driver

variable {F δ : Type}

/-- The names listed in a setting `#DESPESAS#PAGAMENTOS#`. -/
def nomesDeSaida (cnfSaida : Str) : List Str :=
  (cnfSaida.splitOn '#').filter fun nome => Str.trim nome ≠ []

/-- The totalizer is one of the output totalizers of `cnf_saida`, names being compared as in the
table of the device. -/
def listado (m : Maquina F δ) (totCnf : Str) : Bool :=
  match m.drv.specific.lookup specCnfSaida with
  | none => false
  | some cnfSaida => (nomesDeSaida cnfSaida).any fun nome =>
      Str.strIequals (nome.take sizeTotcnf) (totCnf.take sizeTotcnf)

/-- The test of `reg_nao_fiscal`: the name occurs somewhere in the setting. -/
def marca (m : Maquina F δ) (totCnf : Str) : Bool :=
  match m.drv.specific.lookup specCnfSaida with
  | none => false
  | some cnfSaida => Str.contains (argCnf totCnf) cnfSaida

end Driver

namespace Documento

/-- The document after an accepted operation; `listado` tells whether it registered an output
totalizer. -/
def apos {F : Type} (listado : Bool) (doc : Documento) : Op F → Documento
  | .abreCupom _ _ _ => cupom
  | .abreRecibo _ _ _ => recibo false
  | .abreCreditoDebito _ _ _ _ _ _ => ccd
  | .fechaCupom _ | .cancelaCupom =>
    match doc with
    | cupom => nenhum
    | doc => doc
  | .fechaRecibo _ | .cancelaRecibo _ _ _ =>
    match doc with
    | recibo _ => nenhum
    | doc => doc
  | .fechaCcd =>
    match doc with
    | ccd => nenhum
    | doc => doc
  | .regNaoFiscal _ _ =>
    match doc with
    | recibo saida => recibo (saida || listado)
    | doc => doc
  | .iniciaFechamento _ | .pagamento _ _ | .lctoNaoFiscal _ _ | .iniciaFechamentoNaoFiscal _ _ =>
    doc

end Documento

/-- The machine with the document open on its device. -/
structure Caixa (F δ : Type) where
  maq : Maquina F δ
  doc : Documento

namespace Caixa

variable {F δ : Type} (n : Numeric F) (dll : Dll δ)

/-- Whether an operation registers an output totalizer, should it be accepted. -/
def registraSaida (m : Maquina F δ) : Op F → Bool
  | .regNaoFiscal totCnf _ => Driver.listado m totCnf
  | _ => false

/-- One operation. -/
def passo (c : Caixa F δ) (op : Op F) : Caixa F δ where
  maq := op.passo n dll c.maq
  doc := if op.Aceita n dll c.maq then c.doc.apos (registraSaida c.maq op) op else c.doc

/-- The payment returns, and nothing is sent. -/
def Suprimido (m : Maquina F δ) (fpgto : Str) (valor : F) : Prop :=
  (exec (Driver.pagamento n dll fpgto valor) m).1 = .ok () ∧
    (exec (Driver.pagamento n dll fpgto valor) m).2.registro = m.registro

/-- A payment made here is suppressed only if a receipt with an output totalizer is open. -/
def SoEmSaida (c : Caixa F δ) : Prop :=
  ∀ fpgto valor, Suprimido n dll c.maq fpgto valor → c.doc = .recibo true

/-- A step that keeps the switch in line with the document: a registration that sets it is an
accepted one of an output totalizer on a receipt, or comes on a receipt that has one already; and
no receipt is cancelled or replaced while it is set. -/
def Conforme (c : Caixa F δ) (op : Op F) : Prop :=
  match op with
  | .regNaoFiscal totCnf _ => Driver.marca c.maq totCnf = true →
      c.doc = .recibo true ∨
        op.Aceita n dll c.maq ∧ Driver.listado c.maq totCnf = true ∧ ∃ saida, c.doc = .recibo saida
  | .cancelaRecibo _ _ _ | .abreCupom _ _ _ | .abreRecibo _ _ _ | .abreCreditoDebito _ _ _ _ _ _ =>
    c.maq.drv.dontPay = true → ¬ op.Aceita n dll c.maq
  | _ => True

end Caixa

/-! ## The switch -/

namespace Driver

variable {F δ : Type} {n : Numeric F} {dll : Dll δ}

/-- Operations that do not write the switch leave it alone. -/
theorem passo_dontPay {m : Maquina F δ} {op : Op F} (h : op.mexeDontPay = false) :
    (op.passo n dll m).drv.dontPay = m.drv.dontPay := by
  have hext : Externa (fun t : Maquina F δ => t.drv.dontPay = m.drv.dontPay) :=
    externa_drv (f := Driver.dontPay) (fun _ _ => rfl) (fun _ _ => rfl) _
  have hop : SoSeCabe (op.estoura n = false) (fun t : Maquina F δ => t.drv.dontPay = m.drv.dontPay)
      (op.prog n dll) := by
    refine soSeCabe_prog hext (fun fpgto => soSpooler_getIdFormaPgto hext.com ?_ dll fpgto)
      (fun _ _ _ hm => hm) ?_
    · exact fun _ _ _ hm => hm
    · intro h'
      rw [h] at h'
      cases h'
  exact hop.keeps rfl

/-- Closing a receipt or a slip clears the switch, whatever the device answers. -/
theorem fecha_dontPay (dll : Dll δ) (c : Comando) (m : Maquina F δ) :
    (exec (altera (fun drv => { drv with dontPay := false }) >>= fun _ => envia dll c)
      m).2.drv.dontPay = false := by
  have hext : Externa (fun t : Maquina F δ => t.drv.dontPay = false) :=
    externa_drv (f := Driver.dontPay) (fun _ _ => rfl) (fun _ _ => rfl) _
  rw [exec_bind, exec_altera]
  exact (soSpooler_envia hext dll c).keeps rfl

/-- A registration sets the switch when the test says so, and never clears it. -/
theorem passo_regNaoFiscal_dontPay (m : Maquina F δ) (totCnf : Str) (valor : F) :
    ((Op.regNaoFiscal totCnf valor).passo n dll m).drv.dontPay =
      (m.drv.dontPay || marca m totCnf) := by
  have hbase : ∀ (t : Maquina F δ),
      (exec (regNaoFiscalBase n dll totCnf valor) t).2.drv.dontPay = t.drv.dontPay := by
    intro t
    have hext : Externa (fun u : Maquina F δ => u.drv.dontPay = t.drv.dontPay) :=
      externa_drv (f := Driver.dontPay) (fun _ _ => rfl) (fun _ _ => rfl) _
    exact (soSeCabe_regNaoFiscalBase hext totCnf valor).keeps rfl
  unfold Op.passo Op.prog regNaoFiscal marca valueByKey
  simp only [exec_bind, exec_get]
  cases m.drv.specific.lookup specCnfSaida with
  | none => simp
  | some cnfSaida =>
    by_cases hc : Str.contains (argCnf totCnf) cnfSaida = true
    · simp [hc, exec_bind, hbase]
    · simp [hc, hbase]

/-- A payment that goes through while payments are let through is sent. -/
theorem pagamento_registro {m : Maquina F δ} {fpgto : Str} {valor : F}
    (hd : m.drv.dontPay = false)
    (hok : (exec (pagamento n dll fpgto valor) m).1 = .ok ()) :
    (exec (pagamento n dll fpgto valor) m).2.registro ≠ m.registro := by
  have hreg : (exec (getIdFormaPgto dll fpgto) m).2.registro = m.registro :=
    (soSpooler_getIdFormaPgto (I := fun t => t.registro = m.registro) (fun _ _ _ h => h)
      (fun _ _ _ h => h) dll fpgto).keeps rfl
  rw [exec_pagamento hd] at hok ⊢
  rcases hx : exec (getIdFormaPgto dll fpgto) m with ⟨e | _ | idx, t⟩ <;> rw [hx] at hok hreg
  · cases hok
  · cases hok
  · obtain ⟨-, hne, -⟩ | ⟨hno, -⟩ := exec_efetuaPagamento n dll idx valor t
    · rw [← hreg]
      exact hne
    · exact absurd hok hno

end Driver

namespace Caixa

variable {F δ : Type} {n : Numeric F} {dll : Dll δ}

theorem suprimido_iff {m : Maquina F δ} {fpgto : Str} {valor : F} :
    Suprimido n dll m fpgto valor ↔ m.drv.dontPay = true := by
  constructor
  · rintro ⟨hok, hreg⟩
    by_contra hd
    exact Driver.pagamento_registro (Bool.not_eq_true _ ▸ hd) hok hreg
  · intro hd
    have hrun : exec (Driver.pagamento n dll fpgto valor) m = (.ok (), m) := by
      simp [Driver.pagamento, exec_bind, hd]
    rw [Suprimido, hrun]
    exact ⟨rfl, rfl⟩

/-- **The property as a relation between switch and document.** -/
theorem soEmSaida_iff {c : Caixa F δ} :
    SoEmSaida n dll c ↔ (c.maq.drv.dontPay = true → c.doc = .recibo true) := by
  unfold SoEmSaida
  simp only [suprimido_iff]
  constructor
  · intro h
    exact h [] (n.ofInt 0)
  · intro h _ _
    exact h

/-! ## One step -/

/-- A registration keeps the property exactly when it is conforming. -/
theorem soEmSaida_regNaoFiscal {c : Caixa F δ} (hc : SoEmSaida n dll c)
    (totCnf : Str) (valor : F) : SoEmSaida n dll (c.passo n dll (.regNaoFiscal totCnf valor)) ↔
      Conforme n dll c (.regNaoFiscal totCnf valor) := by
  rw [soEmSaida_iff] at hc ⊢
  simp only [passo, Driver.passo_regNaoFiscal_dontPay, Conforme, registraSaida, Bool.or_eq_true]
  by_cases hrec : c.doc = .recibo true
  · simp [hrec, Documento.apos]
  · have hd : c.maq.drv.dontPay ≠ true := fun h => hrec (hc h)
    by_cases ha : (Op.regNaoFiscal totCnf valor).Aceita n dll c.maq
    · cases hdoc : c.doc with
      | recibo saida =>
        have hs : saida = false := by
          cases saida with
          | false => rfl
          | true => exact absurd hdoc hrec
        simp [ha, hd, hs, Documento.apos]
      | nenhum => simp [ha, hd, Documento.apos]
      | cupom => simp [ha, hd, Documento.apos]
      | ccd => simp [ha, hd, Documento.apos]
    · simp [ha, hd, hrec]

/-- An operation that only replaces or ends the document keeps the property exactly when it is
refused while the switch is set. -/
theorem soEmSaida_substitui {c : Caixa F δ} (hc : SoEmSaida n dll c) {op : Op F}
    (hop : op.mexeDontPay = false)
    (hdoc : c.doc = .recibo true → c.doc.apos (registraSaida c.maq op) op ≠ .recibo true) :
    SoEmSaida n dll (c.passo n dll op) ↔
      (c.maq.drv.dontPay = true → ¬ op.Aceita n dll c.maq) := by
  rw [soEmSaida_iff] at hc ⊢
  simp only [passo, Driver.passo_dontPay hop]
  constructor
  · intro h hd ha
    have := h hd
    rw [if_pos ha] at this
    exact hdoc (hc hd) this
  · intro h hd
    rw [if_neg (h hd)]
    exact hc hd

/-- An operation that leaves a receipt open keeps the property. -/
theorem soEmSaida_mantem {c : Caixa F δ} (hc : SoEmSaida n dll c) {op : Op F}
    (hop : op.mexeDontPay = false)
    (hdoc : c.doc = .recibo true → c.doc.apos (registraSaida c.maq op) op = .recibo true) :
    SoEmSaida n dll (c.passo n dll op) := by
  rw [soEmSaida_iff] at hc ⊢
  simp only [passo, Driver.passo_dontPay hop]
  intro hd
  split
  · exact hdoc (hc hd)
  · exact hc hd

/-- **A step keeps the property exactly when it is conforming.** -/
theorem soEmSaida_passo {c : Caixa F δ} (hc : SoEmSaida n dll c) (op : Op F) :
    SoEmSaida n dll (c.passo n dll op) ↔ Conforme n dll c op := by
  have hmantem : ∀ op : Op F, op.mexeDontPay = false →
      (c.doc = .recibo true → c.doc.apos (registraSaida c.maq op) op = .recibo true) →
      (SoEmSaida n dll (c.passo n dll op) ↔ True) :=
    fun op hop hdoc => iff_true_intro (soEmSaida_mantem hc hop hdoc)
  have hfecha : ∀ cmd : Comando, op.prog n dll =
      (Driver.altera (fun drv => { drv with dontPay := false }) >>= fun _ => Driver.envia dll cmd) →
      SoEmSaida n dll (c.passo n dll op) := by
    intro cmd hprog
    rw [soEmSaida_iff]
    simp [passo, Op.passo, hprog, Driver.fecha_dontPay]
  cases op with
  | abreCupom dcto nome endr => exact soEmSaida_substitui hc rfl fun _ => by simp [Documento.apos]
  | iniciaFechamento acresc => exact hmantem _ rfl id
  | pagamento fpgto valor => exact hmantem _ rfl id
  | lctoNaoFiscal moeda valor => exact hmantem _ rfl id
  | fechaCupom msg => exact hmantem _ rfl fun h => by rw [h]; rfl
  | cancelaCupom => exact hmantem _ rfl fun h => by rw [h]; rfl
  | abreRecibo doc nome endr => exact soEmSaida_substitui hc rfl fun _ => by simp [Documento.apos]
  | regNaoFiscal totCnf valor => exact soEmSaida_regNaoFiscal hc totCnf valor
  | iniciaFechamentoNaoFiscal tipo valor => exact hmantem _ rfl id
  | fechaRecibo msg => exact iff_true_intro (hfecha _ rfl)
  | cancelaRecibo doc nome endr =>
    exact soEmSaida_substitui hc rfl fun h => by rw [h]; simp [Documento.apos]
  | abreCreditoDebito fpgto valor coo doc nome endr =>
    exact soEmSaida_substitui hc rfl fun _ => by simp [Documento.apos]
  | fechaCcd => exact iff_true_intro (hfecha _ rfl)

/-! ## Runs -/

/-- **Payments are suppressed on receipts with an output totalizer only, in every state of a run
from a driver just built, exactly when every step of the run is conforming.** -/
theorem soEmSaida_iff_conforme (n : Numeric F) (dll : Dll δ) (fake ignorar : Bool)
    (specific : List (Str × Str)) (d : δ) (doc : Documento) (ops : List (Op F)) :
    (∀ c ∈ visited (passo n dll) ⟨.ligada fake ignorar specific d, doc⟩ ops, SoEmSaida n dll c) ↔
      AllSteps (passo n dll) (Conforme n dll) ⟨.ligada fake ignorar specific d, doc⟩ ops := by
  refine forall_visited_iff (fun c op hc => soEmSaida_passo hc op) ?_ ops
  rw [soEmSaida_iff]
  simp [Maquina.ligada, Driver.novo]

/-! ## A cancelled receipt -/

/-- A device that accepts everything, with one totalizer, `DESPESAS`. -/
def aceitaTudo : Dll Unit where
  comando _ d := (bematechOk, d)
  retornoImpressoraMFD d := ((bematechOk, ⟨6, 0, 0, 0⟩), d)
  verificaFormasPagamentoMFD d := ((bematechOk, []), d)
  verificaTotalizadoresNaoFiscaisMFD d := ((bematechOk, "DESPESAS".toList), d)
  dataHoraReducao d := ((bematechOk, [], []), d)
  dadosUltimaReducaoMFD d := ((bematechOk, []), d)

/-- An expense is registered on a receipt, the receipt is cancelled and a coupon opened: the
payments of the coupon are suppressed. -/
theorem cancelado_suprime_cupom :
    ¬ ∀ c ∈ visited (passo Numeric.inteiros aceitaTudo)
        ⟨.ligada false true [(Driver.specCnfSaida, "#DESPESAS#".toList)] (), .nenhum⟩
        [.abreRecibo [] [] [], .regNaoFiscal "DESPESAS".toList 10, .cancelaRecibo [] [] [],
          .abreCupom [] [] []],
      SoEmSaida Numeric.inteiros aceitaTudo c := by
  intro h
  have hc := soEmSaida_iff.1 (h _ (run_mem_visited _ _ _))
  revert hc
  decide

end Caixa

end Spooler
