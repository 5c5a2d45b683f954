import Spooler.Broker.Cv0909
import Spooler.Driver.Centavos
import Spooler.Driver.Supressao

/-!
# The amount of a payment on its way to the device

A `snd_pagamento` request whose amount is the text of `c` cents, served by the driver with the
conversions of `Numeric.exato`. **`entrega_denota_iff`**: the text handed to the library denotes the
same amount exactly when `Cabe c`.
-/

namespace Spooler.EcfBroker

open Foundations Packet Driver

/-- The text of `c` cents, with two places. -/
def textoCentavos (c : ℕ) : Str := Str.decimal '.' 2 c

/-- The text is that of `c` cents with a comma, whole. -/
def Denota (vlr : Str) (c : ℕ) : Prop := Str.parseDecimal ',' vlr = ((c : ℚ) / 100, [])

theorem denota_decimal (t c : ℕ) : Denota (Str.decimal ',' 2 t) c ↔ t = c := by
  rw [Denota, Str.parseDecimal_decimal (by decide) (by decide), Prod.mk.injEq, and_iff_left rfl]
  constructor
  · intro h
    norm_num at h
    exact_mod_cast h
  · rintro rfl
    norm_num

/-- `atof` reads the amount. -/
theorem atofExato_textoCentavos (c : ℕ) : Str.atofExato (textoCentavos c) = c / 100 := by
  have hlen := Str.length_zeroPad (n := c % 100) (k := 2) (by decide) (by omega)
  have hval : (c : ℚ) = 100 * (c / 100 : ℕ) + (c % 100 : ℕ) := by
    exact_mod_cast (Nat.div_add_mod c 100).symm
  have hds : ∀ d ∈ Nat.toDigits 10 (c / 100), d.isDigit = true :=
    fun _ hd => Str.isDigit_of_mem_toDigits hd
  have hfs : ∀ d ∈ Str.zeroPad 2 (c % 100), d.isDigit = true :=
    fun _ hd => Str.isDigit_of_mem_zeroPad hd
  refine (Str.atofExato_of_isDigit hds hfs).trans ?_
  rw [Nat.ofDigitChars_ten_toDigits, Str.ofDigitChars_zeroPad, hlen, hval]
  norm_num
  ring

variable {δ : Type}

/-- Serving the request makes the driver hand the library a payment with this amount. -/
def Entrega (n : Numeric ℚ) (dll : Dll δ) (resto : Ecf Excp.DoDriver ℚ (Maquina ℚ δ)) (pid : ℕ)
    (m : Maquina ℚ δ) (pedido : RequestPacket) (vlr : Str) : Prop :=
  ∃ novos cidx, (atende n dll resto pid m pedido).registro = m.registro ++ novos ∧
    Comando.efetuaFormaPagamentoIndice cidx vlr ∈ novos

variable {n : Numeric ℚ} {dll : Dll δ} {resto : Ecf Excp.DoDriver ℚ (Maquina ℚ δ)} {pid : ℕ}
  {m : Maquina ℚ δ} {pedido : RequestPacket} {c : ℕ} {vlr : Str}

/-- The text handed over is the amount rounded to cents. -/
theorem eq_decimal_of_entrega (hcmd : CmdIdx.tagEnum pedido.id = .ok .sndPagamento)
    (hvalor : getParamValueByName "valor".toList pedido = .ok (textoCentavos c))
    (h : Entrega (.exato n) dll resto pid m pedido vlr) :
    vlr = Str.decimal ',' 2 (roundEven (emFloat (c / 100) * 100)).toNat := by
  obtain ⟨novos, cidx, hreg, hmem⟩ := h
  have hdoc : documento (.exato n) pedido =
      some (leValor (.exato n) pedido "indice" .pagamento) := by
    rw [documento, hcmd]
    rfl
  rw [atende_of_documento hdoc, operacaoLida, hdoc, leValor, hvalor] at hreg
  cases hind : getParamValueByName "indice".toList pedido with
  | error e =>
    rw [hind] at hreg
    have hnil : novos = [] := List.append_cancel_left (hreg.symm.trans (List.append_nil _).symm)
    rw [hnil] at hmem
    cases hmem
  | ok indice =>
    rw [hind] at hreg
    have hval : (Numeric.exato n).atof (textoCentavos c) = emFloat (c / 100) := by
      show emFloat (Str.atofExato (textoCentavos c)) = _
      rw [atofExato_textoCentavos]
    have hpos : 0 ≤ emFloat (c / 100 : ℚ) := emFloat_nonneg (by positivity)
    simp only [Except.bind, bind, pure, Except.pure, Option.elim_some, hval] at hreg
    rcases registro_pagamento (n := .exato n) m indice (emFloat (c / 100)) with
      hno | ⟨t, cidx', cvlr, hf, hyes⟩
    · have hnil : novos = [] :=
        List.append_cancel_left (hreg.symm.trans (hno.trans (List.append_nil _).symm))
      rw [hnil] at hmem
      cases hmem
    · have hone := List.append_cancel_left (hreg.symm.trans hyes)
      rw [hone, List.mem_singleton] at hmem
      obtain ⟨-, rfl⟩ := Comando.efetuaFormaPagamentoIndice.inj hmem
      rw [exec_formatValor_exato formato_valor] at hf
      split_ifs at hf with hlen
      · rw [comVirgula_sprintfF hpos] at hf
        have hcvlr := Except.ok.inj (Prod.mk.inj hf).1
        rw [← hcvlr]
        norm_num
      · cases (Prod.mk.inj hf).1

/-- **When the amount arrives.** -/
theorem entrega_denota_iff (h₁ : 1 ≤ c) (hmax : c ≤ 9999999999)
    (hcmd : CmdIdx.tagEnum pedido.id = .ok .sndPagamento)
    (hvalor : getParamValueByName "valor".toList pedido = .ok (textoCentavos c))
    (h : Entrega (.exato n) dll resto pid m pedido vlr) : Denota vlr c ↔ Cabe c := by
  rw [eq_decimal_of_entrega hcmd hvalor h, denota_decimal, ← roundEven_emFloat_iff h₁ hmax]
  have hpos : (0 : ℤ) ≤ roundEven (emFloat (c / 100) * 100) :=
    le_roundEven (by
      push_cast
      exact mul_nonneg (emFloat_nonneg (by positivity)) (by norm_num))
  omega

/-- A payment in a known form, while payments are let through, is handed over. -/
theorem entrega_of_conhecida {indice : Str} {i : ℕ} (hmax : c ≤ 9999999999)
    (hcmd : CmdIdx.tagEnum pedido.id = .ok .sndPagamento)
    (hvalor : getParamValueByName "valor".toList pedido = .ok (textoCentavos c))
    (hindice : getParamValueByName "indice".toList pedido = .ok indice)
    (hpago : m.drv.dontPay = false)
    (hidx : idxElement (indice.take sizeFpgto) m.drv.fpgto = some i) :
    ∃ vlr, Entrega (.exato n) dll resto pid m pedido vlr := by
  have hdoc : documento (.exato n) pedido =
      some (leValor (.exato n) pedido "indice" .pagamento) := by
    rw [documento, hcmd]
    rfl
  have hget : exec (Driver.getIdFormaPgto dll indice) m = (.ok (some (i + 1)), m) := by
    simp [Driver.getIdFormaPgto, exec_bind, hidx]
  have hval : (Numeric.exato n).atof (textoCentavos c) = emFloat (c / 100) := by
    show emFloat (Str.atofExato (textoCentavos c)) = _
    rw [atofExato_textoCentavos]
  have hcabe : |emFloat (c / 100)| ≤ ((10 ^ 11 : ℕ) : ℚ) := by
    refine (abs_emFloat_le _).trans ?_
    have hc : (c : ℚ) ≤ 9999999999 := by exact_mod_cast hmax
    rw [abs_of_nonneg (by positivity)]
    norm_num
    linarith
  obtain ⟨cidx, h₁⟩ : ∃ cidx, exec (formatInteiro (.exato n) (i + 1 : ℕ) "%02.0f" :
      Prog ℚ δ Str) m = (.ok cidx, m) :=
    ⟨_, exec_formatInteiro_some (sprintf_exato n _ formato_indice) m⟩
  obtain ⟨cvlr, h₂⟩ : ∃ cvlr, exec (formatValor (.exato n) ((Numeric.exato n).atof
      (textoCentavos c)) "%11.2f" : Prog ℚ δ Str) m = (.ok cvlr, m) :=
    ⟨_, exec_formatValor_some (sprintf_exato n _ formato_valor)
      (length_sprintfF_lt (by norm_num) (by norm_num) (hval.symm ▸ hcabe)) m⟩
  refine ⟨cvlr, [.efetuaFormaPagamentoIndice cidx cvlr], cidx, ?_, List.mem_singleton.2 rfl⟩
  rw [atende_of_documento hdoc, operacaoLida, hdoc, leValor, hvalor, hindice]
  show (exec (pagamento (.exato n) dll indice _) m).2.registro = _
  rw [exec_pagamento hpago, hget]
  exact registro_efetuaPagamento h₁ h₂

/-! ## One cent too many -/

/-- Conversions of which only those that `Numeric.exato` replaces matter. -/
def conversoes : Numeric ℚ where
  ofInt n := n
  atof := Str.atofExato
  sprintf _ _ := none
  strfmon _ _ := none
  intoString _ := []
  isPositive v := 0 < v
  pcentOutOfRange v := v < 0 || 9999 / 100 < v

/-- A payment of `c` cents in cash. -/
def pagaEmDinheiro (c : ℕ) : RequestPacket :=
  (({ id := "snd_pagamento".toList, type := some .tpExecut } : Packet).addParamKeyVal
    "indice".toList "Dinheiro".toList).addParamKeyVal "valor".toList (textoCentavos c)

theorem tagEnum_pagaEmDinheiro (c : ℕ) :
    CmdIdx.tagEnum (pagaEmDinheiro c).id = .ok .sndPagamento := by
  show CmdIdx.tagEnum "snd_pagamento".toList = _
  exact CmdIdx.tagEnum_of_filter (by simp [CmdIdx.cmdId]) nofun

theorem valor_pagaEmDinheiro (c : ℕ) :
    getParamValueByName "valor".toList (pagaEmDinheiro c) = .ok (textoCentavos c) := by
  unfold pagaEmDinheiro
  generalize textoCentavos c = v
  rfl

theorem indice_pagaEmDinheiro (c : ℕ) :
    getParamValueByName "indice".toList (pagaEmDinheiro c) = .ok "Dinheiro".toList := by
  unfold pagaEmDinheiro
  generalize textoCentavos c = v
  rfl

/-- A machine that knows the form, on a device that accepts everything. -/
def caixaAberto : Maquina ℚ Unit :=
  { drv := { fpgto := ["Dinheiro".toList] }, dev := () }

theorem entrega_caixaAberto {c : ℕ} (hmax : c ≤ 9999999999) : ∃ vlr,
    Entrega (.exato conversoes) Caixa.aceitaTudo default 1 caixaAberto (pagaEmDinheiro c) vlr :=
  entrega_of_conhecida (i := 0) hmax (tagEnum_pagaEmDinheiro c) (valor_pagaEmDinheiro c)
    (indice_pagaEmDinheiro c) rfl rfl

/-- The amount of 131072.00 arrives. -/
theorem entrega_denota_cheio : ∃ vlr,
    Entrega (.exato conversoes) Caixa.aceitaTudo default 1 caixaAberto (pagaEmDinheiro 13107200)
        vlr ∧
      Denota vlr 13107200 := by
  obtain ⟨vlr, h⟩ := entrega_caixaAberto (c := 13107200) (by decide)
  exact ⟨vlr, h, (entrega_denota_iff (by decide) (by decide) (tagEnum_pagaEmDinheiro _)
    (valor_pagaEmDinheiro _) h).2 (by decide)⟩

/-- The amount of 131072.01 arrives as another. -/
theorem entrega_altera_centavo : ∃ vlr,
    Entrega (.exato conversoes) Caixa.aceitaTudo default 1 caixaAberto (pagaEmDinheiro 13107201)
        vlr ∧
      ¬ Denota vlr 13107201 := by
  obtain ⟨vlr, h⟩ := entrega_caixaAberto (c := 13107201) (by decide)
  refine ⟨vlr, h, ?_⟩
  have hround := (roundEven_emFloat_iff (c := 13107201) (by decide) (by decide)).not.2
    (by decide)
  rw [eq_decimal_of_entrega (tagEnum_pagaEmDinheiro _) (valor_pagaEmDinheiro _) h, denota_decimal]
  push_cast at hround ⊢
  omega

end Spooler.EcfBroker
