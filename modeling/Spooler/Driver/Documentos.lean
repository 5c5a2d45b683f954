import Spooler.Driver.Tabelas
import Spooler.Foundations.Runs

/-!
# The documents of the device

The operations of the `BEMATECH_CV0909` driver that open, fill and close a document: the fiscal
coupon, the non fiscal receipt (`recibo`) and the credit or debit slip (`ccd`). `Op.prog` runs one
of them, `passo` gives the machine it leaves behind, returning or raising, and `soSeCabe_prog` is
what all of them leave alone.
-/

namespace Spooler

open Foundations

namespace Driver

variable {F δ : Type} (n : Numeric F) (dll : Dll δ)

/-- `BEMATECH_SIZE_NOME` and `BEMATECH_SIZE_ENDR`. -/
def sizeNome : Nat := 30
def sizeEndr : Nat := 80

/-! ## The fiscal coupon -/

/-- `abre_cupom`. -/
def abreCupom (dcto nome endr : Str) : Prog F δ Unit :=
  envia dll (.abreCupomMFD (Str.trim dcto) (Str.trim (nome.take sizeNome))
    (Str.trim (endr.take sizeEndr)))

/-- `cancela_cupom`. -/
def cancelaCupom : Prog F δ Unit := envia dll .cancelaCupom

/-- `fecha_cupom`. -/
def fechaCupom (msg : Str) : Prog F δ Unit := envia dll (.terminaFechamentoCupom msg)

/-- `inicia_fechamento` of the CV0909: the payments of the document before are forgotten once the
coupon is totalled. -/
def iniciaFechamento (acresc : F) : Prog F δ Unit := do
  envia dll .subTotalizaCupomMFD
  let acr ← formatValor n acresc "%11.2f"
  envia dll (.acrescimoDescontoSubtotalCV0909 ['A'] ['$'] acr)
  envia dll .totalizaCupomMFD
  altera fun drv => { drv with useCcd := [], pgtoSeq := -1 }

/-! ## Payments -/

/-- `ECF_FPGTO_MISSING`. -/
def fpgtoMissing : Str := "Forma de pagamento nao encontrada.".toList

/-- The second half of `pagamento`: the payment form is known. -/
def efetuaPagamento (idx : Nat) (valor : F) : Prog F δ Unit := do
  let cidx ← formatInteiro n idx "%02.0f"
  let cvlr ← formatValor n valor "%11.2f"
  envia dll (.efetuaFormaPagamentoIndice cidx cvlr)
  altera fun drv => { drv with useCcd := drv.useCcd ++ [getVincFormaPgto drv idx] }

/-- `pagamento` of the CV0909. While payments are suppressed it only returns. -/
def pagamento (fpgto : Str) (valor : F) : Prog F δ Unit := do
  let m ← get
  if m.drv.dontPay then pure ()
  else
    match ← getIdFormaPgto dll fpgto with
    | none => throw (ecfExp fpgtoMissing)
    | some idx => efetuaPagamento n dll idx valor

/-- `lcto_nao_fiscal`. -/
def lctoNaoFiscal (moeda : Str) (valor : F) : Prog F δ Unit := pagamento n dll moeda valor

/-! ## The receipt -/

/-- `abre_recibo`. -/
def abreRecibo (doc nome endr : Str) : Prog F δ Unit :=
  envia dll (.abreRecebimentoNaoFiscalMFD doc (nome.take sizeNome) (endr.take sizeEndr))

/-- `cancela_recibo`. -/
def cancelaRecibo (doc nome endr : Str) : Prog F δ Unit :=
  envia dll (.cancelaRecebimentoNaoFiscalMFD doc (nome.take sizeNome) (endr.take sizeEndr))

/-- `ecf_bematech::reg_nao_fiscal`. -/
def regNaoFiscalBase (totCnf : Str) (valor : F) : Prog F δ Unit := do
  match ← getTotalizadorCnf dll totCnf with
  | none => throw (ecfExp "Totalizador nao fiscal nao encontrado.".toList)
  | some idx => do
    let cidx ← formatInteiro n idx "%02.0f"
    let cvlr ← formatValor n valor "%11.2f"
    envia dll (.efetuaRecebimentoNaoFiscalMFD cidx cvlr)

/-- `BEMATECH_SPEC_CNF_SAIDA`. -/
def specCnfSaida : Str := "cnf_saida".toList

/-- What `reg_nao_fiscal` searches for in the setting. -/
def argCnf (totCnf : Str) : Str := Str.trim (totCnf.take sizeTotcnf)

/-- `reg_nao_fiscal` of the CV0909: payments are suppressed from here on when the name of the
totalizer occurs in the setting `cnf_saida`. -/
def regNaoFiscal (totCnf : Str) (valor : F) : Prog F δ Unit := do
  let cnfSaida ← valueByKey specCnfSaida
  if Str.contains (argCnf totCnf) cnfSaida then altera fun drv => { drv with dontPay := true }
  regNaoFiscalBase n dll totCnf valor

/-- The format of a subtotal: percentages are upper case, amounts lower case. -/
def fmtSubtotal (tipo : Char) : String := if tipo.isUpper then "%!=0#2.2i" else "%!=0#12.2i"

/-- The texts `inicia_fechamento_nao_fiscal` formats and does not use, for each kind of subtotal. -/
def formataSubtotal (tipo : Char) (valor : F) : Prog F δ Unit :=
  match tipo.toUpper with
  | 'A' => do
    let _ ← formatMonetary n valor (fmtSubtotal tipo)
    let _ ← formatMonetary n (n.ofInt 0) (fmtSubtotal tipo)
  | 'D' => do
    let _ ← formatMonetary n (n.ofInt 0) (fmtSubtotal tipo)
    let _ ← formatMonetary n valor (fmtSubtotal tipo)
  | _ => do
    let _ ← formatMonetary n (n.ofInt 0) (fmtSubtotal tipo)
    let _ ← formatMonetary n (n.ofInt 0) (fmtSubtotal tipo)
    let _ ← formatMonetary n valor (fmtSubtotal tipo)

/-- `ecf_bematech::inicia_fechamento_nao_fiscal`. -/
def iniciaFechamentoNaoFiscalBase (tipo : Char) (valor : F) : Prog F δ Unit :=
  if tipo = '\x00' then pure ()
  else if tipo ∉ ['A', 'D', 'X', 'a', 'd', 'x'] then
    throw (ecfExp "Modo invalido ao subtotalizar.".toList)
  else do
    formataSubtotal n tipo valor
    envia dll (.iniciaFechamentoRecebimentoNaoFiscalMFD ['X'] ['%'] "0000".toList "0000".toList)
    altera fun drv => { drv with pgtoSeq := -1 }

/-- `inicia_fechamento_nao_fiscal` of the CV0909. -/
def iniciaFechamentoNaoFiscal (tipo : Char) (valor : F) : Prog F δ Unit := do
  iniciaFechamentoNaoFiscalBase n dll tipo valor
  altera fun drv => { drv with useCcd := [], pgtoSeq := -1 }

/-- `fecha_recibo`: payments are let through again before the device is asked to close. -/
def fechaRecibo (msg : Str) : Prog F δ Unit := do
  altera fun drv => { drv with dontPay := false }
  envia dll (.fechaRecebimentoNaoFiscalMFD msg)

/-! ## The slip -/

/-- `ECF_CCD_UNAVAILABLE`. -/
def ccdUnavailable : Str := "Nao ha moedas vinculadas para emitir CCD.".toList

/-- The first position from `j` on that is at least `i` and linked, `-1` when there is none. The
position is a `short`. -/
def procuraCcd (i : Int) : (j : Int) → List Bool → Int
  | _, [] => -1
  | j, f :: fs => if j ≥ i ∧ f = true then j else procuraCcd i (toShort (j + 1)) fs

/-- The position `get_next_pgto_ccd` stores; with no payment on record the first one is tried. -/
def proximoCcd (drv : Driver F) : Int :=
  let idx := procuraCcd (toShort (drv.pgtoSeq + 1)) 0 drv.useCcd
  if drv.useCcd = [] then idx + 1 else idx

/-- `get_next_pgto_ccd`: the position is stored before it is tested. -/
def getNextPgtoCcd : Prog F δ Int := do
  let m ← get
  let idx := proximoCcd m.drv
  altera fun drv => { drv with pgtoSeq := idx }
  if idx = -1 then throw (ecfExp ccdUnavailable)
  else pure (toShort (idx + 1))

/-- `abre_credito_debito` of the CV0909. -/
def abreCreditoDebito (fpgto doc nome endr : Str) : Prog F δ Unit := do
  let idx ← getIdFormaPgto dll fpgto
  let seq ← getNextPgtoCcd
  let cidx ← formatInteiro n (idx.elim (-1) Int.ofNat) "%02.0f"
  envia dll (.abreComprovanteNaoFiscalVinculadoCV0909 seq cidx 1 1 doc (nome.take sizeNome)
    (endr.take sizeEndr))

/-- `fecha_ccd`. -/
def fechaCcd : Prog F δ Unit := do
  altera fun drv => { drv with dontPay := false }
  envia dll .fechaComprovanteNaoFiscalVinculado

end Driver

/-! ## Runs -/

/-- The operations, with their arguments. `valor` and `coo` of `abre_credito_debito` are not used
by the driver. -/
inductive Op (F : Type)
  | abreCupom (dcto nome endr : Str)
  | iniciaFechamento (acresc : F)
  | pagamento (fpgto : Str) (valor : F)
  | lctoNaoFiscal (moeda : Str) (valor : F)
  | fechaCupom (msg : Str)
  | cancelaCupom
  | abreRecibo (doc nome endr : Str)
  | regNaoFiscal (totCnf : Str) (valor : F)
  | iniciaFechamentoNaoFiscal (tipo : Char) (valor : F)
  | fechaRecibo (msg : Str)
  | cancelaRecibo (doc nome endr : Str)
  | abreCreditoDebito (fpgto : Str) (valor : F) (coo : Nat) (doc nome endr : Str)
  | fechaCcd
  deriving DecidableEq

namespace Op

variable {F δ : Type} (n : Numeric F) (dll : Dll δ)

/-- The driver's code for an operation. -/
def prog : Op F → Prog F δ Unit
  | .abreCupom dcto nome endr => Driver.abreCupom dll dcto nome endr
  | .iniciaFechamento acresc => Driver.iniciaFechamento n dll acresc
  | .pagamento fpgto valor => Driver.pagamento n dll fpgto valor
  | .lctoNaoFiscal moeda valor => Driver.lctoNaoFiscal n dll moeda valor
  | .fechaCupom msg => Driver.fechaCupom dll msg
  | .cancelaCupom => Driver.cancelaCupom dll
  | .abreRecibo doc nome endr => Driver.abreRecibo dll doc nome endr
  | .regNaoFiscal totCnf valor => Driver.regNaoFiscal n dll totCnf valor
  | .iniciaFechamentoNaoFiscal tipo valor => Driver.iniciaFechamentoNaoFiscal n dll tipo valor
  | .fechaRecibo msg => Driver.fechaRecibo dll msg
  | .cancelaRecibo doc nome endr => Driver.cancelaRecibo dll doc nome endr
  | .abreCreditoDebito fpgto _ _ doc nome endr => Driver.abreCreditoDebito n dll fpgto doc nome endr
  | .fechaCcd => Driver.fechaCcd dll

/-- The machine an operation leaves behind. -/
def passo (m : Maquina F δ) (op : Op F) : Maquina F δ := (exec (op.prog n dll) m).2

/-- The operation returns. -/
def Aceita (m : Maquina F δ) (op : Op F) : Prop := (exec (op.prog n dll) m).1 = .ok ()

instance (m : Maquina F δ) (op : Op F) : Decidable (Aceita n dll m op) :=
  match h : (exec (op.prog n dll) m).1 with
  | .ok () => isTrue h
  | .error _ => isFalse fun h' => by rw [Aceita, h] at h'; cases h'

/-- The operations that switch the suppression of payments. -/
def mexeDontPay : Op F → Bool
  | .regNaoFiscal _ _ | .fechaRecibo _ | .fechaCcd => true
  | _ => false

/-- The operations that total a document. -/
def totaliza : Op F → Bool
  | .iniciaFechamento _ | .iniciaFechamentoNaoFiscal _ _ => true
  | _ => false

/-- The amount of the operation leaves the buffer that `format_valor` has for it. -/
def estoura : Op F → Bool
  | .iniciaFechamento valor | .pagamento _ valor | .lctoNaoFiscal _ valor
  | .regNaoFiscal _ valor => Driver.transborda n valor "%11.2f"
  | _ => false

/-- Writing the switch keeps `I`, for the operations that do it. -/
def Suporta (I : Maquina F δ → Prop) (op : Op F) : Prop :=
  op.mexeDontPay = true → ∀ m b, I m → I { m with drv := { m.drv with dontPay := b } }

end Op

/-! ## Payments, half by half -/

namespace Driver

variable {F δ : Type} {n : Numeric F} {dll : Dll δ}

theorem exec_pagamento {m : Maquina F δ} (hd : m.drv.dontPay = false) (fpgto : Str) (valor : F) :
    exec (pagamento n dll fpgto valor) m =
      match exec (getIdFormaPgto dll fpgto) m with
      | (.error e, t) => (.error e, t)
      | (.ok none, t) => (.error (ecfExp fpgtoMissing), t)
      | (.ok (some idx), t) => exec (efetuaPagamento n dll idx valor) t := by
  simp only [pagamento, exec_bind, exec_get, hd, Bool.false_eq_true, if_false]
  rcases exec (getIdFormaPgto dll fpgto) m with ⟨e | _ | idx, t⟩ <;> rfl

/-- A payment of a known form is sent and recorded, or refused. -/
theorem exec_efetuaPagamento (n : Numeric F) (dll : Dll δ) (idx : Nat) (valor : F)
    (m : Maquina F δ) :
    (exec (efetuaPagamento n dll idx valor) m).1 = .ok () ∧
        (exec (efetuaPagamento n dll idx valor) m).2.registro ≠ m.registro ∧
        (exec (efetuaPagamento n dll idx valor) m).2.drv.useCcd =
          m.drv.useCcd ++ [getVincFormaPgto m.drv idx] ∨
      (exec (efetuaPagamento n dll idx valor) m).1 ≠ .ok () ∧
        (exec (efetuaPagamento n dll idx valor) m).2.drv.useCcd = m.drv.useCcd := by
  obtain ⟨r₁, h₁⟩ := exec_formatInteiro n idx "%02.0f" m
  obtain ⟨r₂, h₂⟩ := exec_formatValor n valor "%11.2f" m
  cases r₁ with
  | error e => simp [efetuaPagamento, exec_bind, h₁]
  | ok cidx =>
    cases r₂ with
    | error e => simp [efetuaPagamento, exec_bind, h₁, h₂]
    | ok cvlr =>
      obtain ⟨r, x, d, hx, rfl | ⟨msg, rfl⟩⟩ :=
        exec_envia dll (.efetuaFormaPagamentoIndice cidx cvlr) m
      · simp [efetuaPagamento, exec_bind, h₁, h₂, hx, getVincFormaPgto]
      · simp [efetuaPagamento, exec_bind, h₁, h₂, hx]

/-- A payment whose texts can be formatted is written to the log. -/
theorem registro_efetuaPagamento {idx : Nat} {valor : F} {m : Maquina F δ} {cidx cvlr : Str}
    (h₁ : exec (formatInteiro n idx "%02.0f" : Prog F δ Str) m = (.ok cidx, m))
    (h₂ : exec (formatValor n valor "%11.2f" : Prog F δ Str) m = (.ok cvlr, m)) :
    (exec (efetuaPagamento n dll idx valor) m).2.registro =
      m.registro ++ [.efetuaFormaPagamentoIndice cidx cvlr] := by
  obtain ⟨r, x, d, hx, rfl | ⟨msg, rfl⟩⟩ :=
    exec_envia dll (.efetuaFormaPagamentoIndice cidx cvlr) m
  · simp only [efetuaPagamento, exec_bind, h₁, h₂, hx, exec_altera, com_registro,
      registra_registro]
  · simp only [efetuaPagamento, exec_bind, h₁, h₂, hx, com_registro, registra_registro]

/-- What a payment adds to the log: nothing, or the call with its amount formatted. -/
theorem registro_pagamento (m : Maquina F δ) (fpgto : Str) (valor : F) :
    (exec (pagamento n dll fpgto valor) m).2.registro = m.registro ∨
      ∃ (t : Maquina F δ) (cidx cvlr : Str),
        exec (formatValor n valor "%11.2f" : Prog F δ Str) t = (.ok cvlr, t) ∧
        (exec (pagamento n dll fpgto valor) m).2.registro =
          m.registro ++ [.efetuaFormaPagamentoIndice cidx cvlr] := by
  cases hd : m.drv.dontPay with
  | true => exact .inl (by simp [pagamento, exec_bind, hd])
  | false =>
    have hreg : (exec (getIdFormaPgto dll fpgto) m).2.registro = m.registro :=
      (soSpooler_getIdFormaPgto (I := fun t => t.registro = m.registro) (fun _ _ _ h => h)
        (fun _ _ _ h => h) dll fpgto).keeps rfl
    rw [exec_pagamento hd]
    rcases hx : exec (getIdFormaPgto dll fpgto) m with ⟨e | _ | idx, t⟩ <;> rw [hx] at hreg
    · exact .inl hreg
    · exact .inl hreg
    · obtain ⟨r₁, h₁⟩ := exec_formatInteiro n idx "%02.0f" t
      obtain ⟨r₂, h₂⟩ := exec_formatValor n valor "%11.2f" t
      cases r₁ with
      | error e => exact .inl (by simpa [efetuaPagamento, exec_bind, h₁] using hreg)
      | ok cidx =>
        cases r₂ with
        | error e => exact .inl (by simpa [efetuaPagamento, exec_bind, h₁, h₂] using hreg)
        | ok cvlr =>
          exact .inr ⟨t, cidx, cvlr, h₂, (registro_efetuaPagamento h₁ h₂).trans (by rw [hreg])⟩

/-- Once a document is totalled the payments of the one before are forgotten. -/
theorem passo_totaliza {m : Maquina F δ} {op : Op F} (hop : op.totaliza = true)
    (h : op.Aceita n dll m) :
    (op.passo n dll m).drv.useCcd = [] ∧ (op.passo n dll m).drv.pgtoSeq = -1 := by
  have hfim : ∀ t : Maquina F δ,
      Wp (altera (fun drv => { drv with useCcd := [], pgtoSeq := -1 }) : Prog F δ Unit)
        (fun _ u => u.drv.useCcd = [] ∧ u.drv.pgtoSeq = -1) (fun _ _ => True) t :=
    fun _ => ⟨rfl, rfl⟩
  have hwp : Wp (op.prog n dll) (fun _ u => u.drv.useCcd = [] ∧ u.drv.pgtoSeq = -1)
      (fun _ _ => True) m := by
    cases op with
    | iniciaFechamento acresc =>
      exact wp_bind_of_forall fun _ _ => wp_bind_of_forall fun _ _ =>
        wp_bind_of_forall fun _ _ => wp_bind_of_forall fun _ => hfim
    | iniciaFechamentoNaoFiscal tipo valor => exact wp_bind_of_forall fun _ => hfim
    | _ => cases hop
  exact hwp.of_ok h

end Driver

/-! ## What the operations leave alone -/

namespace Driver

variable {F δ : Type} {n : Numeric F} {dll : Dll δ} {I : Maquina F δ → Prop}

theorem soSeCabe_pagamento (hI : Externa I)
    (hF : ∀ fpgto, SoSpooler I (getIdFormaPgto dll fpgto : Prog F δ _))
    (hU : ∀ m l, I m → I { m with drv := { m.drv with useCcd := l } }) (fpgto : Str) (valor : F) :
    SoSeCabe (transborda n valor "%11.2f" = false) I (pagamento n dll fpgto valor) := by
  refine contained_bind contained_get fun m => contained_ite (contained_pure _) ?_
  refine contained_bind (hF fpgto).soSeCabe fun idx => ?_
  cases idx with
  | none => exact contained_throw (.inl rfl)
  | some idx =>
    exact contained_bind (soSpooler_formatInteiro _ _ _).soSeCabe fun _ =>
      contained_bind (soSeCabe_formatValor _ _ _) fun _ =>
      contained_bind (soSpooler_envia hI _ _).soSeCabe fun _ =>
      (soSpooler_altera fun m hm => hU m _ hm).soSeCabe

theorem soSeCabe_regNaoFiscalBase (hI : Externa I) (totCnf : Str) (valor : F) :
    SoSeCabe (transborda n valor "%11.2f" = false) I (regNaoFiscalBase n dll totCnf valor) := by
  refine contained_bind (soSpooler_getTotalizadorCnf hI _ _).soSeCabe fun idx => ?_
  cases idx with
  | none => exact contained_throw (.inl rfl)
  | some idx =>
    exact contained_bind (soSpooler_formatInteiro _ _ _).soSeCabe fun _ =>
      contained_bind (soSeCabe_formatValor _ _ _) fun _ => (soSpooler_envia hI _ _).soSeCabe

theorem soSeCabe_regNaoFiscal (hI : Externa I)
    (hD : ∀ m b, I m → I { m with drv := { m.drv with dontPay := b } }) (totCnf : Str) (valor : F) :
    SoSeCabe (transborda n valor "%11.2f" = false) I (regNaoFiscal n dll totCnf valor) := by
  have hbase : SoSeCabe (transborda n valor "%11.2f" = false) I
      (regNaoFiscalBase n dll totCnf valor) := soSeCabe_regNaoFiscalBase hI totCnf valor
  refine contained_bind (soSpooler_valueByKey _).soSeCabe fun cnfSaida => contained_ite ?_ ?_
  · exact contained_bind (soSpooler_altera fun m hm => hD m _ hm).soSeCabe fun _ => hbase
  · exact hbase

theorem soSeCabe_iniciaFechamento (hI : Externa I)
    (hU : ∀ m l q, I m → I { m with drv := { m.drv with useCcd := l, pgtoSeq := q } })
    (acresc : F) :
    SoSeCabe (transborda n acresc "%11.2f" = false) I (iniciaFechamento n dll acresc) :=
  contained_bind (soSpooler_envia hI _ _).soSeCabe fun _ =>
    contained_bind (soSeCabe_formatValor _ _ _) fun _ =>
    contained_bind (soSpooler_envia hI _ _).soSeCabe fun _ =>
    contained_bind (soSpooler_envia hI _ _).soSeCabe fun _ =>
    (soSpooler_altera fun m hm => hU m _ _ hm).soSeCabe

theorem soSpooler_formataSubtotal (tipo : Char) (valor : F) :
    SoSpooler I (formataSubtotal n tipo valor : Prog F δ Unit) := by
  unfold formataSubtotal
  split <;> repeat' first
    | exact contained_pure _
    | refine contained_bind (soSpooler_formatMonetary _ _ _) fun _ => ?_

theorem soSpooler_iniciaFechamentoNaoFiscal (hI : Externa I)
    (hU : ∀ m l q, I m → I { m with drv := { m.drv with useCcd := l, pgtoSeq := q } })
    (tipo : Char) (valor : F) : SoSpooler I (iniciaFechamentoNaoFiscal n dll tipo valor) := by
  refine contained_bind ?_ fun _ => soSpooler_altera fun m hm => hU m _ _ hm
  refine contained_ite (contained_pure _) (contained_ite (contained_throw rfl) ?_)
  exact contained_bind (soSpooler_formataSubtotal _ _) fun _ =>
    contained_bind (soSpooler_envia hI _ _) fun _ => soSpooler_altera fun m hm => hU m _ _ hm

theorem soSpooler_getNextPgtoCcd
    (hP : ∀ m q, I m → I { m with drv := { m.drv with pgtoSeq := q } }) :
    SoSpooler I (getNextPgtoCcd : Prog F δ Int) :=
  contained_bind contained_get fun _ =>
    contained_bind (soSpooler_altera fun m hm => hP m _ hm) fun _ =>
      contained_ite (contained_throw rfl) (contained_pure _)

/-- **What all operations leave alone**: a property that looks neither at what a call or a search
changes nor at the record of payments, nor at the switch where the operation writes it. They raise
exceptions of the spooler only, when their amount fits. -/
theorem soSeCabe_prog (hI : Externa I)
    (hF : ∀ fpgto, SoSpooler I (getIdFormaPgto dll fpgto : Prog F δ _))
    (hU : ∀ m l q, I m → I { m with drv := { m.drv with useCcd := l, pgtoSeq := q } })
    {op : Op F} (hD : op.Suporta I) : SoSeCabe (op.estoura n = false) I (op.prog n dll) := by
  have hU' : ∀ m l, I m → I { m with drv := { m.drv with useCcd := l } } :=
    fun m l hm => hU m l m.drv.pgtoSeq hm
  have hP : ∀ m q, I m → I { m with drv := { m.drv with pgtoSeq := q } } :=
    fun m q hm => hU m m.drv.useCcd q hm
  cases op with
  | abreCupom dcto nome endr => exact (soSpooler_envia hI _ _).soSeCabe
  | iniciaFechamento acresc => exact soSeCabe_iniciaFechamento hI hU acresc
  | pagamento fpgto valor => exact soSeCabe_pagamento hI hF hU' fpgto valor
  | lctoNaoFiscal moeda valor => exact soSeCabe_pagamento hI hF hU' moeda valor
  | fechaCupom msg => exact (soSpooler_envia hI _ _).soSeCabe
  | cancelaCupom => exact (soSpooler_envia hI _ _).soSeCabe
  | abreRecibo doc nome endr => exact (soSpooler_envia hI _ _).soSeCabe
  | regNaoFiscal totCnf valor => exact soSeCabe_regNaoFiscal hI (hD rfl) totCnf valor
  | iniciaFechamentoNaoFiscal tipo valor =>
    exact (soSpooler_iniciaFechamentoNaoFiscal hI hU tipo valor).soSeCabe
  | fechaRecibo msg =>
    exact SoSpooler.soSeCabe (contained_bind (soSpooler_altera fun m hm => hD rfl m _ hm)
      fun _ => soSpooler_envia hI _ _)
  | cancelaRecibo doc nome endr => exact (soSpooler_envia hI _ _).soSeCabe
  | abreCreditoDebito fpgto valor coo doc nome endr =>
    exact SoSpooler.soSeCabe (contained_bind (hF fpgto) fun _ =>
      contained_bind (soSpooler_getNextPgtoCcd hP) fun _ =>
      contained_bind (soSpooler_formatInteiro _ _ _) fun _ => soSpooler_envia hI _ _)
  | fechaCcd =>
    exact SoSpooler.soSeCabe (contained_bind (soSpooler_altera fun m hm => hD rfl m _ hm)
      fun _ => soSpooler_envia hI _ _)

end Driver

end Spooler
