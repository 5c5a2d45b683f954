import Spooler.Driver.Operacoes

/-!
# What every operation leaves alone

`mantem_evento`: a property that survives the calls (`Estavel`) survives every step of an object of
either class, except that four operations also change the rates kept (`Operacao.mexeAliqs`), and
four, and the constructor, call a function that acts on the device without asking for the mode
(`Evento.atua`). One lemma for each operation, from those of `Estavel` for the calls it makes.
-/

namespace Spooler

open Foundations

/-- Code that keeps `I`, however it ends. -/
abbrev Mantem {σ α : Type} (I : σ → Prop) (x : Exec Excp σ α) : Prop :=
  Contained I (fun _ => True) x

namespace EstavelLeitura

open Driver

variable {F δ : Type} {n : Numeric F} {bib : Biblioteca δ} {I : Maquina F δ → Prop}
  (h : EstavelLeitura bib I fun _ => True)
  (hal : ∀ m c, I m → I { m with drv := { m.drv with aliqs := c } })
include h hal

omit h in
theorem mantem_foraDoVetor (ub : Estrago F δ) : Mantem I (Driver.foraDoVetor ub) := by
  refine contained_bind contained_get fun m => ?_
  exact contained_bind (contained_modify fun m' hm => hal m' _ hm)
    fun _ => contained_ofExcept fun _ _ => trivial

theorem leVetor (ub : Estrago F δ) (q : Pergunta) (tam : ℕ) {f : Str → Prog F δ (Option ℕ)}
    (hf : ∀ s, Mantem I (f s)) : Mantem I (Driver.leVetor bib ub q tam f) := by
  intro m hm
  have hdev : I { m with dev := (bib.pergunta q m.dev).2 } := h.le m _ (.pergunta q) hm
  rw [Driver.leVetor, wp_bind, wp_get, wp_bind, wp_set, wp_ite]
  refine ⟨fun _ => ?_, fun _ => mantem_foraDoVetor hal ub _ hdev⟩
  exact contained_bind (h.check _) (fun _ => hf _) _ hdev

omit h in
theorem mantem_gravaAliqs (t : TabelaAliqs) (ub : Estrago F δ) (flag : Str)
    {fim : Prog F δ (Option ℕ)} (hfim : Mantem I fim) (x : ℕ) (buft : Str) (ps : List Str) :
    Mantem I (Driver.gravaAliqs n t ub flag fim x buft ps) := by
  induction ps generalizing x buft with
  | nil => exact hfim
  | cons p ps ih =>
    refine contained_ite ?_ (mantem_foraDoVetor hal ub)
    refine contained_bind (contained_ofExcept fun _ _ => trivial) fun resto => ?_
    split
    · exact mantem_foraDoVetor hal ub
    · refine contained_bind (contained_ofExcept fun _ _ => trivial) fun objAliq => ?_
      exact contained_bind (contained_modify fun m hm => hal m _ hm) fun _ => ih _ _

/-- A search for a rate changes the rates kept only. -/
theorem getIdxAliquota [BEq F] (t : TabelaAliqs) (ub : Estrago F δ) (aliq : Aliquota F) :
    Mantem I (Driver.getIdxAliquota n bib t ub aliq) := by
  have hbusca : Mantem I (buscaAliq aliq : Prog F δ (Option ℕ)) :=
    contained_bind contained_get fun _ => contained_pure _
  refine contained_bind (contained_ofExcept fun _ _ => trivial) fun _ => ?_
  refine contained_bind contained_get fun m => contained_ite ?_ hbusca
  refine h.leVetor hal ub _ _ fun iss => ?_
  split
  · exact mantem_foraDoVetor hal ub
  · exact h.leVetor hal ub _ _ fun tab => mantem_gravaAliqs hal t ub _ hbusca _ _ _

end EstavelLeitura

namespace Estavel

open Driver

variable {F δ α : Type} {n : Numeric F} {bib : Biblioteca δ} {I : Maquina F δ → Prop}

/-! ## Formatting -/

theorem mantem_formatValor {σ : Type} {J : σ → Prop} (n : Numeric F) (valor : F) (fmt : String) :
    Mantem J (Driver.formatValor n valor fmt : Exec Excp σ Str) :=
  (soSeCabe_formatValor n valor fmt).mono fun _ _ => trivial

theorem mantem_formatInteiro {σ : Type} {J : σ → Prop} (n : Numeric F) (valor : ℤ) (fmt : String) :
    Mantem J (Driver.formatInteiro n valor fmt : Exec Excp σ Str) := contained_comAux trivial _

/-- Code over one amount. -/
theorem mantem_valor {f : Str → Prog F δ Unit} (hf : ∀ s, Mantem I (f s)) (v : F) (fmt : String) :
    Mantem I (Driver.formatValor n v fmt >>= f) :=
  contained_bind (mantem_formatValor _ _ _) hf

/-- Code over a position and an amount. -/
theorem mantem_indiceValor {f : Str → Str → Prog F δ Unit} (hf : ∀ s t, Mantem I (f s t)) (i : ℤ)
    (v : F) (fmt fmt' : String) :
    Mantem I (Driver.formatInteiro n i fmt >>= fun s => Driver.formatValor n v fmt' >>= fun t =>
      f s t) :=
  contained_bind (mantem_formatInteiro _ _ _) fun s => mantem_valor (hf s) _ _

/-- Code over an amount and a counter. -/
theorem mantem_valorIndice {f : Str → Str → Prog F δ Unit} (hf : ∀ s t, Mantem I (f s t)) (v : F)
    (i : ℤ) (fmt fmt' : String) :
    Mantem I (Driver.formatValor n v fmt >>= fun s => Driver.formatInteiro n i fmt' >>= fun t =>
      f s t) :=
  mantem_valor (fun s => contained_bind (mantem_formatInteiro _ _ _) (hf s)) _ _

theorem mantem_formatMonetary {σ : Type} {J : σ → Prop} (n : Numeric F) (valor : F)
    (fmt : String) : Mantem J (formatMonetary n valor fmt : Exec Excp σ Str) := by
  unfold formatMonetary
  split
  · exact contained_throw trivial
  · exact contained_pure _

theorem mantem_ofExcept {σ : Type} {J : σ → Prop} (x : Except Excp α) :
    Mantem J (ofExcept x : Exec Excp σ α) := contained_ofExcept fun _ _ => trivial

theorem mantem_valueByKey {J : Maquina F δ → Prop} (key : Str) :
    Mantem J (valueByKey key : Prog F δ Str) := by
  refine contained_bind contained_get fun m => ?_
  split
  · exact contained_pure _
  · exact contained_throw trivial

variable (h : Estavel bib I fun _ => True)
include h

/-! ## Readings -/

theorem leTexto (q : Pergunta) : Mantem I (Driver.leTexto bib q : Prog F δ Str) :=
  contained_map _ (h.consulta fun _ => .pergunta q)

theorem leNumero (q : Pergunta) : Mantem I (Driver.leNumero bib q : Prog F δ ℤ) :=
  contained_map _ (h.leTexto q)

theorem leContador (q : Pergunta) : Mantem I (Driver.leContador bib q : Prog F δ ℤ) :=
  contained_map _ (h.leTexto q)

theorem getDataHoraAtual : Mantem I (Driver.getDataHoraAtual bib : Prog F δ (Str × Str)) :=
  h.consulta fun _ => .dataHoraImpressora

theorem leDataHoraUltRed : Mantem I (Driver.leDataHoraUltRed bib.toDll : Prog F δ (Str × Str)) := by
  intro m hm
  rw [Driver.leDataHoraUltRed, wp_bind, wp_get, wp_ite]
  refine ⟨fun _ => ?_, fun _ => hm⟩
  have hdev : I { m with dev := (bib.dataHoraReducao m.dev).2 } := h.le m _ .dataHoraReducao hm
  rw [wp_bind, wp_set]
  exact contained_bind (h.check _) (fun _ => contained_pure _) _ hdev

theorem getDataHoraUltRed : Mantem I (Driver.getDataHoraUltRed bib.toDll : Prog F δ Unit) :=
  contained_bind h.leDataHoraUltRed fun _ => h.altera fun _ => ⟨rfl, rfl, rfl⟩

theorem getDataUltRed : Mantem I (Driver.getDataUltRed bib.toDll : Prog F δ Str) :=
  contained_bind h.getDataHoraUltRed fun _ => contained_bind contained_get fun _ => contained_pure _

theorem getHoraUltRed : Mantem I (Driver.getHoraUltRed bib.toDll : Prog F δ Str) :=
  contained_bind h.getDataHoraUltRed fun _ => contained_bind contained_get fun _ => contained_pure _

theorem getStatusEcf : Mantem I (Driver.getStatusEcf bib : Prog F δ EcfStatus) := by
  intro m hm
  have hdev : I { m with dev := (bib.verificaEstadoImpressoraMFD m.dev).2 } :=
    h.le m _ .verificaEstadoImpressoraMFD hm
  rw [Driver.getStatusEcf, wp_bind, wp_get, wp_bind, wp_set, wp_ite]
  refine ⟨fun _ => ?_, fun _ => ?_⟩
  · exact h.sts _ _ hdev
  · exact contained_bind (h.avalia _) (fun _ => contained_pure _) _ hdev

/-! ## Files -/

theorem nomeSaida (base sufixo : String) :
    Mantem I (Driver.nomeSaida bib base sufixo : Prog F δ Str) :=
  fun m hm => h.le m _ (.randomName _) hm

theorem recolhe (base : String) : Mantem I (Driver.recolhe bib base : Prog F δ Str) := by
  refine contained_bind contained_get fun m => contained_ite ?_ (contained_throw trivial)
  refine contained_bind (h.nomeSaida _ _) fun path => ?_
  exact contained_bind (contained_modify fun m hm => h.le m _ (.copyFile _ _) hm)
    fun _ => contained_pure _

/-- A reading that goes to a file, or is printed where `I` survives that. -/
theorem emite {saida : ℤ} (hac : saida ≠ saidaSerial →
      ∀ m a, I m → I { m with dev := (bib.acao a m.dev).2 })
    (arquivo : Extrato) (impresso : Acao) (base : String) :
    Mantem I (Driver.emite bib saida arquivo impresso base : Prog F δ Str) := by
  unfold Driver.emite
  split
  · exact contained_bind (h.extrato _) fun _ => h.recolhe _
  · rename_i hs
    exact contained_bind (h.aciona fun m hm => hac hs m _ hm) fun _ => contained_pure _

theorem avalia' {f : δ → ℤ × δ} (hf : ∀ d, bib.Le d (f d).2) :
    Mantem I (Driver.avalia f : Prog F δ Unit) := by
  intro m hm
  rw [Driver.avalia, wp_bind, wp_get, wp_bind, wp_set]
  exact h.avalia _ _ (h.le m _ (hf m.dev) hm)

omit h in
theorem mantem_exige (path : Str) : Mantem I (Driver.exige bib path : Prog F δ Unit) :=
  contained_bind contained_get fun _ => contained_ite (contained_pure _) (contained_throw trivial)

theorem downloadMfd (tipo : ℤ) (ini fim : Str) (usr : ℤ) :
    Mantem I (Driver.downloadMfd n bib tipo ini fim usr) := by
  refine contained_ite (contained_throw trivial) ?_
  refine contained_bind (h.nomeSaida _ _) fun mfdName => ?_
  refine contained_bind (mantem_formatInteiro _ _ _) fun ctipo => ?_
  refine contained_bind (mantem_formatInteiro _ _ _) fun cusr => ?_
  refine contained_bind (h.avalia' fun _ => .extrato _) fun _ => ?_
  exact contained_bind (mantem_exige _) fun _ => contained_pure _

theorem converteMfd (suporte : Bool) (tipo : ℤ) (ini fim origem destino : Str) (fmt usr : ℤ) :
    Mantem I (Driver.converteMfd n bib suporte tipo ini fim origem destino fmt usr) := by
  refine contained_ite (contained_throw trivial) (contained_ite (contained_throw trivial)
    (contained_ite (contained_throw trivial) ?_))
  refine contained_bind (mantem_formatInteiro _ _ _) fun ctipo => ?_
  refine contained_bind (mantem_formatInteiro _ _ _) fun cfmt => ?_
  refine contained_bind (mantem_formatInteiro _ _ _) fun cusr => ?_
  exact contained_bind (h.avalia' fun _ => .extrato _) fun _ => mantem_exige _

/-! ## Searches and tables -/

theorem baseGetIdFormaPgto (fpgto : Str) :
    Mantem I (Base.getIdFormaPgto bib fpgto : Prog F δ _) := by
  refine contained_bind contained_get fun m => ?_
  cases idxElement (fpgto.take Base.sizeFpgto) m.drv.fpgto with
  | some i => exact contained_pure _
  | none =>
    refine contained_bind (h.consulta fun _ => .verificaFormasPagamentoMFD) fun buffer => ?_
    refine contained_bind (h.altera fun _ => ?_) fun _ => contained_pure _
    exact ⟨rfl, rfl, rfl⟩

theorem baseGetTotalizadorCnf (tot : Str) :
    Mantem I (Base.getTotalizadorCnf bib tot : Prog F δ _) := by
  refine contained_bind contained_get fun m => ?_
  cases idxElement (tot.take Base.sizeTotcnf) m.drv.totCnf with
  | some i => exact contained_pure _
  | none =>
    refine contained_bind (h.consulta fun _ => .verificaTotalizadoresNaoFiscaisMFD) fun buffer => ?_
    refine contained_bind (h.altera fun _ => ?_) fun _ => contained_pure _
    exact ⟨rfl, rfl, rfl⟩

omit h in
theorem mantem_getProxTotalizador {busca : Str → Prog F δ (Option ℕ)}
    (hb : ∀ tot, Mantem I (busca tot)) :
    Mantem I (Driver.getProxTotalizador busca) :=
  contained_bind (hb []) fun _ => contained_bind contained_get fun _ => contained_pure _

theorem baseSetTotalizador (descr : Str) :
    Mantem I (Base.setTotalizador bib descr : Prog F δ Unit) := by
  refine contained_bind (h.baseGetTotalizadorCnf _) fun idx => ?_
  cases idx with
  | some idx => exact contained_throw trivial
  | none =>
    refine contained_bind (mantem_getProxTotalizador h.baseGetTotalizadorCnf) fun idx => ?_
    refine contained_bind (h.manda _) fun _ => h.altera fun _ => ?_
    exact ⟨rfl, rfl, rfl⟩

theorem setTotalizador (descr tipo : Str) : Mantem I (Driver.setTotalizador n bib descr tipo) := by
  refine contained_bind (h.getTotalizadorCnf _) fun idx => ?_
  cases idx with
  | some idx => exact contained_pure _
  | none =>
    refine contained_bind (mantem_getProxTotalizador h.getTotalizadorCnf) fun idx => ?_
    refine contained_bind (mantem_formatInteiro _ _ _) fun _ => ?_
    refine contained_bind (h.manda _) fun _ => h.altera fun _ => ?_
    exact ⟨rfl, rfl, rfl⟩

theorem baseSetFormaPgto (forma vinc : Str) :
    Mantem I (Base.setFormaPgto bib forma vinc : Prog F δ Unit) := by
  refine contained_bind (h.baseGetIdFormaPgto _) fun idx => ?_
  cases idx with
  | some idx => exact contained_throw trivial
  | none =>
    refine contained_bind (h.manda _) fun _ => h.altera fun _ => ?_
    exact ⟨rfl, rfl, rfl⟩

theorem setFormaPgto (forma vinc : Str) :
    Mantem I (Driver.setFormaPgto bib forma vinc : Prog F δ Unit) := by
  refine contained_bind (h.getIdFormaPgto _) fun idx => ?_
  cases idx with
  | some idx => exact contained_pure _
  | none =>
    refine contained_bind (contained_bind (h.getIdFormaPgto _) fun _ =>
      contained_bind contained_get fun _ => contained_pure _) fun idx => ?_
    refine contained_bind (h.manda _) fun _ => h.altera fun _ => ?_
    exact ⟨rfl, rfl, rfl⟩

/-! ## The coupon -/

theorem acionaGuilhotina (modo : ℤ) : Mantem I (Driver.acionaGuilhotina bib modo : Prog F δ Unit) :=
  contained_ite (contained_throw trivial) (h.manda _)

theorem cancelaItem (idx : ℤ) : Mantem I (Driver.cancelaItem n bib idx) :=
  contained_ite (contained_bind (mantem_formatInteiro _ _ _) fun _ => h.manda _) (h.manda _)

theorem baseIniciaFechamento (acresc : F) : Mantem I (Base.iniciaFechamento n bib acresc) := by
  refine contained_bind (mantem_formatValor _ _ _) fun tmpAcr => ?_
  refine contained_bind (h.manda _) fun _ => h.altera fun _ => ?_
  exact ⟨rfl, rfl, rfl⟩

theorem iniciaFechamento (acresc : F) :
    Mantem I (Driver.iniciaFechamento n bib.toDll acresc) := by
  refine contained_bind (h.envia _) fun _ => ?_
  refine contained_bind (mantem_formatValor _ _ _) fun acr => ?_
  refine contained_bind (h.envia _) fun _ => ?_
  refine contained_bind (h.envia _) fun _ => h.altera fun _ => ?_
  exact ⟨rfl, rfl, rfl⟩

theorem basePagamento (fpgto : Str) (valor : F) : Mantem I (Base.pagamento n bib fpgto valor) := by
  refine contained_bind (h.baseGetIdFormaPgto _) fun idx => ?_
  cases idx with
  | none => exact contained_throw trivial
  | some idx => exact mantem_indiceValor (fun _ _ => h.envia _) _ _ _ _

theorem pagamento (fpgto : Str) (valor : F) :
    Mantem I (Driver.pagamento n bib.toDll fpgto valor) := by
  refine contained_bind contained_get fun m => contained_ite (contained_pure _) ?_
  refine contained_bind (h.getIdFormaPgto _) fun idx => ?_
  cases idx with
  | none => exact contained_throw trivial
  | some idx =>
    refine mantem_indiceValor (fun cidx cvlr => ?_) _ _ _ _
    refine contained_bind (h.envia _) fun _ => h.altera fun _ => ?_
    exact ⟨rfl, rfl, rfl⟩

/-! ## Receipts and slips -/

theorem baseAbreNfiscalNvinc (nomeTot : Str) (valor : F) (moeda : Str) :
    Mantem I (Base.abreNfiscalNvinc n bib nomeTot valor moeda) := by
  refine contained_bind (h.baseGetTotalizadorCnf _) fun idx => ?_
  cases idx with
  | none => exact contained_throw trivial
  | some idx => exact mantem_indiceValor (fun _ _ => h.manda _) _ _ _ _

theorem abreNfiscalNvinc (nomeTot : Str) (valor : F) (moeda : Str) :
    Mantem I (Driver.abreNfiscalNvinc n bib nomeTot valor moeda) := by
  refine contained_bind (h.getTotalizadorCnf _) fun idx => ?_
  cases idx with
  | none => exact contained_throw trivial
  | some idx => exact mantem_indiceValor (fun _ _ => h.manda _) _ _ _ _

theorem baseRegNaoFiscal (totCnf : Str) (valor : F) :
    Mantem I (Base.regNaoFiscal n bib totCnf valor) := by
  refine contained_bind (h.baseGetTotalizadorCnf _) fun idx => ?_
  cases idx with
  | none => exact contained_throw trivial
  | some idx => exact mantem_indiceValor (fun _ _ => h.envia _) _ _ _ _

theorem regNaoFiscal (totCnf : Str) (valor : F) :
    Mantem I (Driver.regNaoFiscal n bib.toDll totCnf valor) := by
  have hbase : Mantem I (regNaoFiscalBase n bib.toDll totCnf valor) := by
    refine contained_bind (h.getTotalizadorCnf _) fun idx => ?_
    cases idx with
    | none => exact contained_throw trivial
    | some idx => exact mantem_indiceValor (fun _ _ => h.envia _) _ _ _ _
  refine contained_bind (mantem_valueByKey _) fun cnfSaida => contained_ite ?_ hbase
  refine contained_bind (h.altera fun _ => ?_) fun _ => hbase
  exact ⟨rfl, rfl, rfl⟩

theorem abreNfiscalVinc (tam : ℕ) (fpgto : Str) (valor : F) (coo : ℕ) :
    Mantem I (Driver.abreNfiscalVinc n bib tam fpgto valor coo) :=
  mantem_valorIndice (fun _ _ => h.manda _) _ _ _ _

theorem baseAbreCreditoDebito (fpgto : Str) (valor : F) (coo : ℕ) (doc nome endr : Str) :
    Mantem I (Base.abreCreditoDebito n bib fpgto valor coo doc nome endr) :=
  mantem_valorIndice (fun _ _ => h.manda _) _ _ _ _

theorem abreCreditoDebito (fpgto doc nome endr : Str) :
    Mantem I (Driver.abreCreditoDebito n bib.toDll fpgto doc nome endr) := by
  have hseq : Mantem I (getNextPgtoCcd : Prog F δ ℤ) := by
    refine contained_bind contained_get fun m => ?_
    refine contained_bind (h.altera fun _ => ?_) fun _ =>
      contained_ite (contained_throw trivial) (contained_pure _)
    exact ⟨rfl, rfl, rfl⟩
  refine contained_bind (h.getIdFormaPgto _) fun idx => contained_bind hseq fun seq => ?_
  exact contained_bind (mantem_formatInteiro _ _ _) fun _ => h.envia _

theorem cancelaNfiscalPos (tam : ℕ) (moeda : Str) (valor : F) (coo ccd : ℕ) (doc nome endr : Str) :
    Mantem I (Driver.cancelaNfiscalPos n bib tam moeda valor coo ccd doc nome endr) := by
  refine contained_bind (mantem_formatInteiro _ _ _) fun ccoo => ?_
  refine contained_bind (mantem_formatInteiro _ _ _) fun cccd => ?_
  exact mantem_valor (fun _ => h.manda _) _ _

omit h in
theorem mantem_formataSubtotal (tipo : Char) (valor : F) :
    Mantem I (Driver.formataSubtotal n tipo valor : Prog F δ Unit) := by
  unfold Driver.formataSubtotal
  split <;> repeat' first
    | exact contained_pure _
    | refine contained_bind (mantem_formatMonetary _ _ _) fun _ => ?_

theorem iniciaFechamentoNaoFiscalBase (tipo : Char) (valor : F) :
    Mantem I (Driver.iniciaFechamentoNaoFiscalBase n bib.toDll tipo valor) := by
  refine contained_ite (contained_pure _) (contained_ite (contained_throw trivial) ?_)
  refine contained_bind (mantem_formataSubtotal _ _) fun _ => ?_
  refine contained_bind (h.envia _) fun _ => h.altera fun _ => ?_
  exact ⟨rfl, rfl, rfl⟩

theorem iniciaFechamentoNaoFiscal (tipo : Char) (valor : F) :
    Mantem I (Driver.iniciaFechamentoNaoFiscal n bib.toDll tipo valor) := by
  refine contained_bind (h.iniciaFechamentoNaoFiscalBase _ _) fun _ => h.altera fun _ => ?_
  exact ⟨rfl, rfl, rfl⟩

/-- A call behind the switch for payments. -/
theorem libera (c : Comando) :
    Mantem I (Driver.altera (fun drv => { drv with dontPay := false }) >>= fun _ =>
      Driver.envia bib.toDll c : Prog F δ Unit) := by
  refine contained_bind (h.altera fun _ => ?_) fun _ => h.envia _
  exact ⟨rfl, rfl, rfl⟩

theorem reducaoZ : Mantem I (Driver.reducaoZ bib.toDll : Prog F δ Unit) := by
  refine contained_tryCatch ?_ fun _ _ => contained_pure _
  intro m hm
  rw [emiteReducaoZ, wp_bind, wp_get, wp_ite]
  refine ⟨fun _ => h.registra m _ hm, fun hf => ?_⟩
  rw [wp_bind]
  refine (h.executa _ (by simpa using hf) hm).mono (fun _ m hm => ?_) fun _ _ he => he
  exact h.membros m _ ⟨rfl, rfl, rfl⟩ hm

/-! ## Reports -/

theorem usaRelatorio (l : List Str) : Mantem I (Driver.usaRelatorio bib l : Prog F δ Unit) := by
  induction l with
  | nil => exact contained_pure _
  | cons buff resto ih => exact contained_bind (h.manda _) fun _ => ih

theorem imprimeBlocos (msg : Str) (pivot : ℕ) :
    Mantem I (Driver.imprimeBlocos bib msg pivot : Prog F δ Unit) := by
  induction pivot using Driver.imprimeBlocos.induct msg with
  | case1 pivot ih =>
    rw [Driver.imprimeBlocos]
    refine contained_bind (mantem_ofExcept _) fun tmp => ?_
    split
    · exact h.usaRelatorio _
    · rename_i idx hidx
      refine contained_bind (h.usaRelatorio _) fun _ => ?_
      refine contained_bind (h.acionaGuilhotina _) fun _ => ?_
      split
      · rename_i hlt
        exact ih _ hlt
      · exact contained_pure _

/-! ## The rates kept -/

section Aliqs

variable (hal : ∀ m c, I m → I { m with drv := { m.drv with aliqs := c } })
include hal

theorem getIdxAliquota [BEq F] (t : TabelaAliqs) (ub : Estrago F δ) (aliq : Aliquota F) :
    Mantem I (Driver.getIdxAliquota n bib t ub aliq) :=
  h.toEstavelLeitura.getIdxAliquota hal t ub aliq

omit h hal in
theorem mantem_secao {teste : Aliqs F → ℕ → Bool × Aliqs F}
    (hteste : ∀ m i, I m → I { m with drv := { m.drv with aliqs := (teste m.drv.aliqs i).2 } })
    (b : Str) (i k : ℕ) : Mantem I (Driver.secao teste b i k : Prog F δ Str) := by
  induction k generalizing i with
  | zero => exact contained_pure _
  | succ k ih =>
    intro m hm
    rw [Driver.secao, wp_bind, wp_get, wp_bind]
    exact contained_bind (ih _) (fun _ => contained_pure _) _ (hteste m i hm)

end Aliqs

theorem programaAliquota (aliq : Aliquota F) : Mantem I (Driver.programaAliquota n bib aliq) := by
  intro m hm
  rw [Driver.programaAliquota, wp_bind, wp_get, wp_ite]
  refine ⟨fun _ => hm, fun hf => ?_⟩
  rw [wp_bind, wp_ofExcept]
  refine ⟨fun raw _ => ?_, fun _ _ => ⟨trivial, hm⟩⟩
  rw [Driver.aciona, wp_bind, wp_get, wp_bind, wp_set]
  exact h.check _ _ (h.acao m _ (by simpa using hf) hm)

/-- Programming a rate searches for it, and forgets the rates. -/
theorem setAliquota [BEq F] {ub : Estrago F δ} {aliq : Aliquota F}
    (hidx : Mantem I (Driver.getIdxAliquota n bib .base ub aliq))
    (hvazia : ∀ m, I m → I { m with drv := { m.drv with aliqs := ∅ } }) :
    Mantem I (Driver.setAliquota n bib ub aliq) := by
  refine contained_bind (mantem_ofExcept _) fun _ => contained_bind hidx fun idx => ?_
  cases idx with
  | some idx => exact contained_throw trivial
  | none =>
    exact contained_bind (h.programaAliquota aliq) fun _ => contained_modify fun m hm => hvazia m hm

theorem registraItem (codprod nomeprod auxAliq tmpQtde tmpValor tmpDesc : Str) :
    Mantem I (Driver.registraItem bib codprod nomeprod auxAliq tmpQtde tmpValor tmpDesc :
      Prog F δ Unit) :=
  contained_ite (contained_bind (h.manda _) fun _ => h.manda _) (h.manda _)

theorem vendeItem [BEq F] {ub : Estrago F δ}
    (hidx : ∀ aliq, Mantem I (Driver.getIdxAliquota n bib .base ub aliq))
    (codprod nomeprod straliq unidade : Str) (qtde valor desc : F) :
    Mantem I (Driver.vendeItem n bib ub codprod nomeprod straliq unidade qtde valor desc) := by
  refine contained_bind (mantem_ofExcept _) fun un => ?_
  refine contained_bind (mantem_formatValor _ _ _) fun tmpQtde => ?_
  refine contained_bind (mantem_formatValor _ _ _) fun tmpValor => ?_
  refine contained_bind (mantem_formatValor _ _ _) fun tmpDesc => ?_
  refine contained_bind (mantem_ofExcept _) fun objAliq => ?_
  refine contained_bind ?_ fun auxAliq => h.registraItem _ _ _ _ _ _
  refine contained_ite (contained_pure _) (contained_ite (contained_pure _)
    (contained_ite (contained_pure _) ?_))
  refine contained_bind (hidx objAliq) fun idx => ?_
  cases idx with
  | none => exact contained_throw trivial
  | some idx => exact mantem_formatInteiro _ _ _

theorem dadosUltReducao (hsec : ∀ tipo b,
      Mantem I (secao (aliqIs n tipo) b 0 bematechTotalAliqs : Prog F δ Str)) :
    Mantem I (Driver.dadosUltReducao n bib.toDll) := by
  intro m hm
  have hdev : I { m with dev := (bib.dadosUltimaReducaoMFD m.dev).2 } :=
    h.le m _ .dadosUltimaReducaoMFD hm
  rw [Driver.dadosUltReducao, wp_bind, wp_get, wp_bind, wp_set]
  refine contained_bind (h.check _) (fun _ => ?_) _ hdev
  unfold aliqIsIcms aliqIsIss
  generalize bematechTotalAliqs = k at hsec ⊢
  refine contained_bind (hsec _ _) fun icms => ?_
  exact contained_bind (hsec _ _) fun iss => contained_pure _

omit h in
theorem mantem_linhasAliq (i : ℕ) (l : List (Σ _ : ℕ, Aliquota F)) :
    Mantem I (Driver.linhasAliq n i l : Prog F δ (List Str)) := by
  induction l generalizing i with
  | nil => exact contained_pure _
  | cons e es ih =>
    refine contained_bind (mantem_formatMonetary _ _ _) fun _ => ?_
    refine contained_bind (mantem_formatMonetary _ _ _) fun _ => ?_
    exact contained_bind (ih _) fun _ => contained_pure _

theorem getTabAliq [BEq F] {t : TabelaAliqs} {ub : Estrago F δ}
    (hidx : ∀ aliq, Mantem I (Driver.getIdxAliquota n bib t ub aliq)) :
    Mantem I (Driver.getTabAliq n bib t ub) := by
  unfold Driver.getTabAliq
  refine contained_bind (mantem_ofExcept _) fun aliq => ?_
  refine contained_bind (hidx aliq) fun _ => ?_
  refine contained_bind (h.nomeSaida _ _) fun arq => ?_
  refine contained_bind contained_get fun m => ?_
  exact contained_bind (mantem_linhasAliq _ _) fun _ => contained_pure _

/-! ## The object -/

omit h in
theorem mantem_noObjeto {x : Prog F δ α} (hx : Mantem I x) :
    Mantem (fun a : Aparelho F δ => I a.toMaquina) (Driver.noObjeto x) :=
  contained_zoom_sel (fun _ _ => rfl) hx

theorem getIdRelGerencial (c : Classe) (titulo : Str) :
    Mantem (fun a : Aparelho F δ => I a.toMaquina) (Driver.getIdRelGerencial bib c titulo) :=
  contained_getIdRelGerencial (mantem_noObjeto (h.consulta fun _ => .pergunta _))
    (fun _ _ hm => hm) c titulo

theorem abreRelGerencial (c : Classe) (titulo : Str) :
    Mantem (fun a : Aparelho F δ => I a.toMaquina) (Driver.abreRelGerencial n bib c titulo) := by
  refine contained_bind (h.getIdRelGerencial _ _) fun idx => ?_
  cases idx with
  | none => exact contained_throw trivial
  | some idx =>
    exact contained_bind (mantem_formatInteiro _ _ _) fun _ => mantem_noObjeto (h.manda _)

theorem setRelGerencial (c : Classe) (titulo : Str) :
    Mantem (fun a : Aparelho F δ => I a.toMaquina) (Driver.setRelGerencial n bib c titulo) := by
  refine contained_bind (h.getIdRelGerencial _ _) fun idx => ?_
  cases idx with
  | some idx =>
    cases c with
    | base => exact contained_throw trivial
    | cv0909 => exact contained_pure _
  | none =>
    refine contained_bind contained_get fun a => ?_
    refine contained_bind (mantem_formatInteiro _ _ _) fun _ => ?_
    exact contained_bind (mantem_noObjeto (h.manda _)) fun _ => contained_modify fun _ hm => hm

theorem getMarca :
    Mantem (fun a : Aparelho F δ => I a.toMaquina) (Driver.getMarca bib) := by
  refine contained_bind contained_get fun a => contained_ite ?_ (contained_pure _)
  have hmarca := mantem_noObjeto (h.consulta fun _ => .marcaModeloTipoImpressoraMFD)
  refine contained_bind hmarca fun r => ?_
  exact contained_bind (contained_modify fun _ hm => hm) fun _ => contained_pure _

theorem getModelo :
    Mantem (fun a : Aparelho F δ => I a.toMaquina) (Driver.getModelo bib) := by
  refine contained_bind contained_get fun a => contained_ite ?_ (contained_pure _)
  refine contained_bind (mantem_noObjeto (h.leTexto _)) fun modelo => ?_
  exact contained_bind (contained_modify fun _ hm => hm) fun _ => contained_pure _

/-! ## Every operation -/

end Estavel

namespace Operacao

open Driver

variable {F δ : Type} {I : Maquina F δ → Prop}

/-- The operation may change the rates kept. -/
def mexeAliqs : Operacao F → Bool
  | setAliquota _ => true
  | vendeItem .. => true
  | dadosUltReducao => true
  | getTabAliq => true
  | _ => false

/-- The reading is asked for by a date that can be formatted, or by a reduction. -/
def leMemoria (tipo : ℤ) (inicio fim : Str) : Bool :=
  tipo = leituraData && 4 ≤ inicio.length && 4 ≤ fim.length || tipo = leituraReducao

/-- The operation makes a call that acts on the device whatever the mode is. -/
def atua : Operacao F → Bool
  | abreGaveta => true
  | setArredondamento => true
  | leituraX saida => saida ≠ saidaSerial
  | memoriaFiscal tipo inicio fim _ saida => saida ≠ saidaSerial && leMemoria tipo inicio fim
  | _ => false

end Operacao

namespace Evento

variable {F : Type}

/-- `Operacao.mexeAliqs`, of a step. -/
def mexeAliqs : Evento F → Bool
  | constroi _ => false
  | op o => o.mexeAliqs

/-- `Operacao.atua`, of a step: the constructor always acts. -/
def atua : Evento F → Bool
  | constroi _ => true
  | op o => o.atua

end Evento

section Prog

open Driver Estavel

variable {F δ : Type} {amb : Ambiente F δ} {I : Maquina F δ → Prop}

theorem mantem_so {α : Type} {x : Prog F δ α} (hx : Mantem I x) :
    Mantem (fun a : Aparelho F δ => I a.toMaquina) (Operacao.so x) :=
  mantem_noObjeto (contained_bind hx fun _ => contained_pure _)

theorem le_length_of_formatDate {valor data : Str} (h : Ecf.formatDate valor = .ok data) :
    4 ≤ valor.length := by
  by_contra hlt
  rw [Ecf.formatDate_of_length_lt (by omega)] at h
  cases h

theorem mantem_memoriaFiscal (h : Estavel amb.bib I fun _ => True) {tipo : ℤ} {inicio fim : Str}
    {saida : ℤ} (hac : saida ≠ saidaSerial → Operacao.leMemoria tipo inicio fim = true →
      ∀ m a, I m → I { m with dev := (amb.bib.acao a m.dev).2 }) (completa : Bool) :
    Mantem I (Driver.memoriaFiscal amb.bib tipo inicio fim completa saida : Prog F δ Str) := by
  unfold Driver.memoriaFiscal
  dsimp only
  split
  · rename_i htipo
    intro m hm
    rw [wp_bind, wp_ofExcept]
    refine ⟨fun dtIni hini => ?_, fun _ _ => ⟨trivial, hm⟩⟩
    rw [wp_bind, wp_ofExcept]
    refine ⟨fun dtFim hfim => ?_, fun _ _ => ⟨trivial, hm⟩⟩
    have hle : Operacao.leMemoria tipo inicio fim = true := by
      simp [Operacao.leMemoria, htipo, le_length_of_formatDate hini, le_length_of_formatDate hfim]
    exact h.emite (fun hs => hac hs hle) _ _ _ _ hm
  · split
    · rename_i htipo
      have hle : Operacao.leMemoria tipo inicio fim = true := by simp [Operacao.leMemoria, htipo]
      exact h.emite (fun hs => hac hs hle) _ _ _
    · exact contained_throw trivial

/-- **What survives the calls survives every operation**: where the operation changes the rates
kept the property has to survive that too, and where it acts on the device in either mode, any
acting call. -/
theorem mantem_prog [BEq F] (h : Estavel amb.bib I fun _ => True) (c : Classe) (op : Operacao F)
    (hal : op.mexeAliqs = true → ∀ m c, I m → I { m with drv := { m.drv with aliqs := c } })
    (hac : op.atua = true → ∀ m a, I m → I { m with dev := (amb.bib.acao a m.dev).2 }) :
    Mantem (fun a : Aparelho F δ => I a.toMaquina) (op.prog amb c) := by
  cases op with
  | getNrLoja => exact mantem_so (h.leNumero _)
  | getNrSerie => exact mantem_so (h.leTexto _)
  | getMarca => exact contained_bind h.getMarca fun _ => contained_pure _
  | getModelo => exact contained_bind h.getModelo fun _ => contained_pure _
  | getNrUsuario => exact mantem_so (h.leNumero _)
  | getNrSerieCript => exact mantem_so (h.leTexto _)
  | getNrCaixa => exact mantem_so (h.leNumero _)
  | getFirmware => exact mantem_so (h.leTexto _)
  | getDataAtual => exact mantem_so (contained_map _ h.getDataHoraAtual)
  | getHoraAtual => exact mantem_so (contained_map _ h.getDataHoraAtual)
  | getDataMvto => exact mantem_so (contained_map _ (h.leTexto _))
  | getDataUltRed => exact mantem_so h.getDataUltRed
  | getHoraUltRed => exact mantem_so h.getHoraUltRed
  | getStatusEcf => exact mantem_so h.getStatusEcf
  | getNrCupom => exact mantem_so (contained_map _ (h.leTexto _))
  | getIdFormaPgto fpgto =>
    cases c with
    | base => exact mantem_so (h.baseGetIdFormaPgto _)
    | cv0909 => exact mantem_so (h.getIdFormaPgto _)
  | getTotalizadorCnf tot =>
    cases c with
    | base => exact mantem_so (h.baseGetTotalizadorCnf _)
    | cv0909 => exact mantem_so (h.getTotalizadorCnf _)
  | getProxTotalizador =>
    cases c with
    | base => exact mantem_so (mantem_getProxTotalizador h.baseGetTotalizadorCnf)
    | cv0909 => exact mantem_so (mantem_getProxTotalizador h.getTotalizadorCnf)
  | setFormaPgto forma vinc =>
    cases c with
    | base => exact mantem_so (h.baseSetFormaPgto _ _)
    | cv0909 => exact mantem_so (h.setFormaPgto _ _)
  | setAliquota aliq =>
    exact mantem_so (h.setAliquota (h.getIdxAliquota (hal rfl) _ _ _) fun m => hal rfl m ∅)
  | setTotalizador descr tipo =>
    cases c with
    | base => exact mantem_so (h.baseSetTotalizador _)
    | cv0909 => exact mantem_so (h.setTotalizador _ _)
  | abreCupom dcto nome endr => exact mantem_so (h.envia _)
  | cancelaCupom => exact mantem_so (h.envia _)
  | vendeItem codprod nomeprod straliq unidade qtde valor desc =>
    exact mantem_so (h.vendeItem (h.getIdxAliquota (hal rfl) _ _) _ _ _ _ _ _ _)
  | iniciaFechamento acresc =>
    cases c with
    | base => exact mantem_so (h.baseIniciaFechamento _)
    | cv0909 => exact mantem_so (h.iniciaFechamento _)
  | pagamento fpgto valor =>
    cases c with
    | base => exact mantem_so (h.basePagamento _ _)
    | cv0909 => exact mantem_so (h.pagamento _ _)
  | fechaCupom msg => exact mantem_so (h.envia _)
  | abreNfiscalVinc fpgto valor coo => exact mantem_so (h.abreNfiscalVinc _ _ _ _)
  | msgNfiscalVinc msg => exact mantem_so (h.manda _)
  | fechaNfiscalVinc => exact mantem_so (h.envia _)
  | abreNfiscalNvinc nomeTot valor moeda =>
    cases c with
    | base => exact mantem_so (h.baseAbreNfiscalNvinc _ _ _)
    | cv0909 => exact mantem_so (h.abreNfiscalNvinc _ _ _)
  | abreGaveta => exact mantem_so (h.aciona fun m hm => hac rfl m _ hm)
  | reducaoZ => exact mantem_so h.reducaoZ
  | getCupomAberto => exact mantem_so (contained_map _ h.getStatusEcf)
  | setArredondamento => exact mantem_so (h.aciona fun m hm => hac rfl m _ hm)
  | getNrReducoes => exact mantem_so (h.leNumero _)
  | dadosUltReducao =>
    exact mantem_so (h.dadosUltReducao fun _ _ => mantem_secao (fun m _ => hal rfl m _) _ _ _)
  | getNrReinicio => exact mantem_so (h.leNumero _)
  | memoriaFiscal tipo inicio fim completa saida =>
    refine mantem_so (mantem_memoriaFiscal h (fun hs hle => hac ?_) _)
    simp [Operacao.atua, hs, hle]
  | leituraX saida =>
    refine mantem_so (h.emite (fun hs => hac ?_) _ _ _)
    simp [Operacao.atua, hs]
  | abreRelGerencial titulo => exact h.abreRelGerencial _ _
  | getIdRelGerencial titulo =>
    exact contained_bind (h.getIdRelGerencial _ _) fun _ => contained_pure _
  | txtRelGerencial msg => exact mantem_so (h.usaRelatorio _)
  | txtRelGerencialTag msg => exact mantem_so (h.imprimeBlocos _ _)
  | fechaRelGerencial => exact mantem_so (h.manda _)
  | setRelGerencial titulo => exact h.setRelGerencial _ _
  | acionaGuilhotina modo => exact mantem_so (h.acionaGuilhotina _)
  | corteAuto => exact mantem_so (h.manda _)
  | getGrandeTotal => exact mantem_so (contained_map _ (h.leTexto _))
  | sangria valor => exact mantem_so (mantem_valor (fun _ => h.manda _) _ _)
  | suprimento valor moeda => exact mantem_so (mantem_valor (fun _ => h.manda _) _ _)
  | setHorarioVerao => exact mantem_so (h.manda _)
  | isHorarioVerao => exact mantem_so (contained_map _ (h.consulta fun _ => .flagsFiscais))
  | downloadMfd tipo ini fim usr => exact mantem_so (h.downloadMfd _ _ _ _)
  | converteMfd tipo ini fim origem destino fmt usr =>
    exact mantem_so (h.converteMfd _ _ _ _ _ _ _ _)
  | poucoPapel => exact mantem_so (contained_bind contained_get fun _ => contained_pure _)
  | contadorCupomFiscal => exact mantem_so (h.leContador _)
  | contadorTotNaofiscal => exact mantem_so (h.leContador _)
  | contadorCreditoDebito => exact mantem_so (h.leContador _)
  | contadorRelGerenciais => exact mantem_so (h.leContador _)
  | cancelaItem idx => exact mantem_so (h.cancelaItem _)
  | abreRecibo doc nome endr => exact mantem_so (h.envia _)
  | abreCreditoDebito fpgto valor coo doc nome endr =>
    cases c with
    | base => exact mantem_so (h.baseAbreCreditoDebito _ _ _ _ _ _)
    | cv0909 => exact mantem_so (h.abreCreditoDebito _ _ _ _)
  | segundaViaCcd => exact mantem_so (h.manda _)
  | reimprimeCcd => exact mantem_so (h.manda _)
  | cancelaRecibo doc nome endr => exact mantem_so (h.envia _)
  | estornaCcd doc nome endr => exact mantem_so (h.manda _)
  | regNaoFiscal totCnf valor =>
    cases c with
    | base => exact mantem_so (h.baseRegNaoFiscal _ _)
    | cv0909 => exact mantem_so (h.regNaoFiscal _ _)
  | lctoNaoFiscal moeda valor =>
    cases c with
    | base => exact mantem_so (h.basePagamento _ _)
    | cv0909 => exact mantem_so (h.pagamento _ _)
  | iniciaFechamentoNaoFiscal tipo valor =>
    cases c with
    | base => exact mantem_so (h.iniciaFechamentoNaoFiscalBase _ _)
    | cv0909 => exact mantem_so (h.iniciaFechamentoNaoFiscal _ _)
  | fechaRecibo msg => exact mantem_so (h.libera _)
  | fechaCcd => exact mantem_so (h.libera _)
  | cancelaNfiscalPos moeda valor coo ccd doc nome endr =>
    exact mantem_so (h.cancelaNfiscalPos _ _ _ _ _ _ _ _)
  | naoFiscalAberto => exact mantem_so (contained_map _ (h.consulta fun _ => .statusEstendidoMFD))
  | getTabAliq => exact mantem_so (h.getTabAliq (h.getIdxAliquota (hal rfl) _ _))

/-- The constructor drops its exceptions, and acts in either mode. -/
theorem mantem_inicializa {bib : Biblioteca δ} (h : Estavel bib I fun _ => True)
    (hac : ∀ m a, I m → I { m with dev := (bib.acao a m.dev).2 }) (cfg : Configuracao) :
    Mantem I (inicializa bib cfg) := by
  refine contained_tryCatch ?_ fun _ _ => contained_pure _
  refine contained_bind (h.aciona fun m hm => hac m _ hm) fun _ => ?_
  refine contained_bind ?_ fun _ => contained_bind (mantem_valueByKey _) fun _ =>
    h.aciona fun m hm => hac m _ hm
  refine contained_bind (h.altera fun _ => ⟨rfl, rfl, rfl⟩) fun _ => ?_
  split
  · exact contained_pure _
  · exact contained_throw trivial

/-- **What survives the calls survives every step.** -/
theorem mantem_evento [BEq F] (h : Estavel amb.bib I fun _ => True) (c : Classe) (e : Evento F)
    (hal : e.mexeAliqs = true → ∀ m c, I m → I { m with drv := { m.drv with aliqs := c } })
    (hac : e.atua = true → ∀ m a, I m → I { m with dev := (amb.bib.acao a m.dev).2 }) :
    Mantem (fun a : Aparelho F δ => I a.toMaquina) (e.prog amb c) := by
  cases e with
  | constroi cfg =>
    have hini : Mantem I (inicializa amb.bib cfg) := mantem_inicializa h (hac rfl) cfg
    cases c with
    | base => exact mantem_noObjeto hini
    | cv0909 =>
      refine mantem_noObjeto (contained_bind hini fun _ => h.altera fun _ => ?_)
      exact ⟨rfl, rfl, rfl⟩
  | op o => exact mantem_prog h c o hal hac

end Prog

end Spooler
