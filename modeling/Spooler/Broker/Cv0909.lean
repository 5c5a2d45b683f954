import Spooler.Broker.Resposta
import Spooler.Driver.Documentos

/-!
# The driver behind the broker

The operations of the `BEMATECH_CV0909` driver raise exceptions of the spooler only, unless their
amount leaves its buffer (`Op.soSeCabe`). `ecfCv0909` puts them in the places of the interface that
they fill, over any device for the rest. **A command
for a document does to the machine what the operation does that is read from the request**,
`exec_despacha_documento`, so requests about documents are runs of the driver, `run_atende`.
-/

namespace Spooler

open Foundations Packet Driver

/-! ## The driver as a device -/

variable {F δ : Type} (n : Numeric F) (dll : Dll δ)

/-- **The operations raise exceptions of the spooler only, when their amount fits.** -/
theorem Op.soSeCabe (op : Op F) :
    SoSeCabe (op.estoura n = false) (fun _ => True) (op.prog n dll) := by
  have hext : Externa (fun _ : Maquina F δ => True) :=
    ⟨fun _ _ _ _ => trivial, fun _ _ _ => trivial, fun _ _ _ => trivial⟩
  have hF : ∀ fpgto, SoSpooler (fun _ : Maquina F δ => True) (getIdFormaPgto dll fpgto) :=
    fun fpgto => soSpooler_getIdFormaPgto hext.com (fun _ _ _ _ => trivial) dll fpgto
  exact soSeCabe_prog hext hF (fun _ _ _ _ => trivial) fun _ _ _ _ => trivial

/-- An operation of the driver, in a place of the interface. -/
def Op.metodo (op : Op F) : Metodo Excp.DoDriver (Maquina F δ) Unit :=
  ⟨op.prog n dll, (op.soSeCabe n dll).doDriver⟩

/-- The operations of the driver, with any device for the rest of the interface. -/
def ecfCv0909 (resto : Ecf Excp.DoDriver F (Maquina F δ)) :
    Ecf Excp.DoDriver F (Maquina F δ) :=
  { resto with
    abreCupom := fun dcto nome endr => (Op.abreCupom dcto nome endr).metodo n dll
    iniciaFechamento := fun acresc => (Op.iniciaFechamento acresc).metodo n dll
    pagamento := fun fpgto valor => (Op.pagamento fpgto valor).metodo n dll
    lctoNaoFiscal := fun moeda valor => (Op.lctoNaoFiscal moeda valor).metodo n dll
    fechaCupom := fun msg => (Op.fechaCupom msg).metodo n dll
    cancelaCupom := Op.cancelaCupom.metodo n dll
    abreRecibo := fun doc nome endr => (Op.abreRecibo doc nome endr).metodo n dll
    regNaoFiscal := fun totCnf valor => (Op.regNaoFiscal totCnf valor).metodo n dll
    iniciaFechamentoNaoFiscal := fun tipo valor =>
      (Op.iniciaFechamentoNaoFiscal tipo valor).metodo n dll
    fechaRecibo := fun msg => (Op.fechaRecibo msg).metodo n dll
    cancelaRecibo := fun doc nome endr => (Op.cancelaRecibo doc nome endr).metodo n dll
    abreCreditoDebito := fun fpgto valor coo doc nome endr =>
      (Op.abreCreditoDebito fpgto valor coo doc nome endr).metodo n dll
    fechaCcd := Op.fechaCcd.metodo n dll }

namespace EcfBroker

variable (pedido : RequestPacket)

/-- The parameters that name the buyer of a document. -/
def leComprador {α : Type} (f : Str → Str → Str → α) : Except Excp α := do
  let dcto ← getParamValueByName "nr_documento".toList pedido
  let nome ← getParamValueByName "nome".toList pedido
  let endr ← getParamValueByName "endereco".toList pedido
  pure (f dcto nome endr)

/-- The buyer, or nobody when a parameter is missing. -/
def leCompradorOpcional {α : Type} (f : Str → Str → Str → α) : Except Excp α :=
  match leComprador pedido f with
  | .ok op => .ok op
  | .error e => if e.isA .pktParamExp then .ok (f [] [] []) else .error e

/-- One parameter. -/
def leTexto {α : Type} (name : String) (f : Str → α) : Except Excp α := do
  let texto ← getParamValueByName name.toList pedido
  pure (f texto)

/-- A parameter and an amount. -/
def leValor {α : Type} (name : String) (f : Str → F → α) : Except Excp α := do
  let texto ← getParamValueByName name.toList pedido
  let valor ← getParamValueByName "valor".toList pedido
  pure (f texto (n.atof valor))

/-- The operation a request asks for, with its arguments; `none` for a command that is about no
document. -/
def operacao : CmdIdx → Option (Except Excp (Op F))
  | .sndAbreCupom => some (leComprador pedido .abreCupom)
  | .sndIniciaFechamento =>
    some (leTexto pedido "valor" fun valor => .iniciaFechamento (n.atof valor))
  | .sndPagamento => some (leValor n pedido "indice" .pagamento)
  | .sndLctonaofiscal => some (leValor n pedido "formapgto" .lctoNaoFiscal)
  | .sndFechaCupom => some (leTexto pedido "mensagem" .fechaCupom)
  | .sndCancelaCupom => some (.ok .cancelaCupom)
  | .sndAbrerecibo => some (leComprador pedido .abreRecibo)
  | .sndRegnaofiscal => some (leValor n pedido "indice" .regNaoFiscal)
  | .sndIniciafechamentonaofiscal => some (leValor n pedido "tipo" fun tipo valor =>
    .iniciaFechamentoNaoFiscal (tipo.headD '\x00') valor)
  | .sndFecharecibo => some (leTexto pedido "mensagem" .fechaRecibo)
  | .sndCancelarecibo => some (leCompradorOpcional pedido .cancelaRecibo)
  | .sndAbreccd => some do
    let fpgto ← getParamValueByName "formapgto".toList pedido
    let valor ← getParamValueByName "valor".toList pedido
    let coo ← getParamValueByName "coo".toList pedido
    leComprador pedido (.abreCreditoDebito fpgto (n.atof valor) (toUnsigned (Str.atoi coo)))
  | .sndFechaccd => some (.ok .fechaCcd)
  | _ => none

/-- The broker that serves with the driver. -/
def cv0909 (n : Numeric F) (dll : Dll δ) (resto : Ecf Excp.DoDriver F (Maquina F δ))
    (pid : Nat) : EcfBroker Excp.DoDriver F (Maquina F δ) :=
  { mEcf := ecfCv0909 n dll resto, num := n, pid }

/-- Run the operation read, if all its parameters are there. -/
def aplica (x : Except Excp (Op F)) (g : Guiche (Maquina F δ)) :
    Except Excp Unit × Guiche (Maquina F δ) :=
  match x with
  | .error e => (.error e, g)
  | .ok op => ((exec (op.prog n dll) g.ecf).1, { g with ecf := op.passo n dll g.ecf })

variable {n dll pedido}

/-- Reading a parameter in front of a command and in front of an operation. -/
theorem exec_parametro_eq {name : String} {f : Str → Atendimento (Maquina F δ) Unit}
    {k : Str → Except Excp (Op F)} {g : Guiche (Maquina F δ)}
    (h : ∀ valor, exec (f valor) g = aplica n dll (k valor) g) :
    exec (parametro name pedido >>= f) g =
      aplica n dll (getParamValueByName name.toList pedido >>= k) g := by
  rw [exec_bind, parametro, exec_ofExcept]
  cases getParamValueByName name.toList pedido with
  | ok valor => exact h valor
  | error e => rfl

theorem exec_ordenaDocumento (f : Str → Str → Str → Op F) (g : Guiche (Maquina F δ)) :
    exec (ordenaDocumento (fun dcto nome endr => (f dcto nome endr).metodo n dll) pedido) g =
      aplica n dll (leComprador pedido f) g :=
  exec_parametro_eq fun _ => exec_parametro_eq fun _ => exec_parametro_eq fun _ => rfl

theorem exec_sndCancelarecibo (resto : Ecf Excp.DoDriver F (Maquina F δ)) (pid : Nat)
    (g : Guiche (Maquina F δ)) :
    exec ((cv0909 n dll resto pid).sndCancelarecibo pedido) g =
      aplica n dll (leCompradorOpcional pedido .cancelaRecibo) g := by
  simp only [sndCancelarecibo, exec_bind, exec_tryCatch, parametro, exec_ofExcept,
    leCompradorOpcional, leComprador]
  cases hdoc : getParamValueByName "nr_documento".toList pedido with
  | error e =>
    obtain ⟨what, rfl⟩ := faltaParam_of_getParamValueByName hdoc
    rfl
  | ok doc =>
    cases hnome : getParamValueByName "nome".toList pedido with
    | error e =>
      obtain ⟨what, rfl⟩ := faltaParam_of_getParamValueByName hnome
      rfl
    | ok nome =>
      cases hendr : getParamValueByName "endereco".toList pedido with
      | error e =>
        obtain ⟨what, rfl⟩ := faltaParam_of_getParamValueByName hendr
        rfl
      | ok endr => rfl

/-- **A command for a document does to the machine what the operation does that is read from the
request**, and nothing when the request lacks a parameter. -/
theorem exec_despacha_documento {resto : Ecf Excp.DoDriver F (Maquina F δ)} {pid : Nat}
    {cmd : CmdIdx} {x : Except Excp (Op F)} (h : operacao n pedido cmd = some x)
    (g : Guiche (Maquina F δ)) :
    exec ((cv0909 n dll resto pid).despacha pedido cmd) g = aplica n dll x g := by
  cases cmd with
  | sndAbreCupom | sndAbrerecibo =>
    cases h
    exact exec_ordenaDocumento _ g
  | sndIniciaFechamento | sndFechaCupom | sndFecharecibo =>
    cases h
    exact exec_parametro_eq fun _ => rfl
  | sndPagamento | sndLctonaofiscal | sndRegnaofiscal | sndIniciafechamentonaofiscal =>
    cases h
    exact exec_parametro_eq fun _ => exec_parametro_eq fun _ => rfl
  | sndCancelaCupom | sndFechaccd =>
    cases h
    rfl
  | sndCancelarecibo =>
    cases h
    exact exec_sndCancelarecibo resto pid g
  | sndAbreccd =>
    cases h
    exact exec_parametro_eq fun _ => exec_parametro_eq fun _ => exec_parametro_eq fun _ =>
      exec_ordenaDocumento _ g
  | _ => cases h

/-! ## Exceptions -/

theorem isSpooler_of_leComprador {f : Str → Str → Str → Op F} {e : Excp}
    (h : leComprador pedido f = .error e) : e.isSpooler = true := by
  obtain h | ⟨dcto, -, h⟩ := error_of_bind h
  · exact (faltaParam_of_getParamValueByName h).isSpooler
  obtain h | ⟨nome, -, h⟩ := error_of_bind h
  · exact (faltaParam_of_getParamValueByName h).isSpooler
  obtain h | ⟨endr, -, h⟩ := error_of_bind h
  · exact (faltaParam_of_getParamValueByName h).isSpooler
  · cases h

theorem isSpooler_of_leTexto {name : String} {f : Str → Op F} {e : Excp}
    (h : leTexto pedido name f = .error e) : e.isSpooler = true := by
  obtain h | ⟨texto, -, h⟩ := error_of_bind h
  · exact (faltaParam_of_getParamValueByName h).isSpooler
  · cases h

theorem isSpooler_of_leValor {name : String} {f : Str → F → Op F} {e : Excp}
    (h : leValor n pedido name f = .error e) : e.isSpooler = true := by
  obtain h | ⟨texto, -, h⟩ := error_of_bind h
  · exact (faltaParam_of_getParamValueByName h).isSpooler
  · exact isSpooler_of_leTexto (f := f texto ∘ n.atof) h

theorem isSpooler_of_operacao {cmd : CmdIdx} {e : Excp}
    (h : operacao n pedido cmd = some (.error e)) : e.isSpooler = true := by
  cases cmd with
  | sndAbreCupom | sndAbrerecibo => exact isSpooler_of_leComprador (Option.some.inj h)
  | sndIniciaFechamento | sndFechaCupom | sndFecharecibo =>
    exact isSpooler_of_leTexto (Option.some.inj h)
  | sndPagamento | sndLctonaofiscal | sndRegnaofiscal | sndIniciafechamentonaofiscal =>
    exact isSpooler_of_leValor (Option.some.inj h)
  | sndCancelarecibo =>
    have h' := Option.some.inj h
    unfold leCompradorOpcional at h'
    split at h'
    · cases h'
    · rename_i e' he'
      split at h'
      · cases h'
      · cases h'
        exact isSpooler_of_leComprador he'
  | sndAbreccd =>
    obtain h | ⟨fpgto, -, h⟩ := error_of_bind (Option.some.inj h)
    · exact (faltaParam_of_getParamValueByName h).isSpooler
    obtain h | ⟨valor, -, h⟩ := error_of_bind h
    · exact (faltaParam_of_getParamValueByName h).isSpooler
    obtain h | ⟨coo, -, h⟩ := error_of_bind h
    · exact (faltaParam_of_getParamValueByName h).isSpooler
    · exact isSpooler_of_leComprador h
  | _ => cases h

/-! ## Runs of requests -/

variable (n dll) (resto : Ecf Excp.DoDriver F (Maquina F δ)) (pid : Nat)

/-- The command of the request is about a document, and this is the operation it asks for. -/
def documento (pedido : RequestPacket) : Option (Except Excp (Op F)) :=
  match CmdIdx.tagEnum pedido.id with
  | .ok cmd => operacao n pedido cmd
  | .error _ => none

/-- The operation, when all its parameters are there. -/
def operacaoLida (pedido : RequestPacket) : Option (Op F) :=
  match documento n pedido with
  | some (.ok op) => some op
  | _ => none

/-- The machine a request leaves behind. -/
def atende (m : Maquina F δ) (pedido : RequestPacket) : Maquina F δ :=
  (exec ((cv0909 n dll resto pid).trade pedido) (abreGuiche pedido m [])).2.ecf

variable {n dll resto pid}

theorem ecf_recusa {σ : Type} (e : Excp) (t : Guiche σ) : (exec (recusa e) t).2.ecf = t.ecf := by
  cases e <;> rfl

theorem atende_of_documento {m : Maquina F δ} {pedido : RequestPacket} {x : Except Excp (Op F)}
    (h : documento n pedido = some x) :
    atende n dll resto pid m pedido = (operacaoLida n pedido).elim m (Op.passo n dll m) := by
  unfold atende trade operacaoLida
  rw [h, exec_tryCatch, exec_bind, exec_modify]
  simp only [exec_bind, exec_ofExcept]
  unfold documento at h
  split at h
  · rename_i cmd hcmd
    simp only [hcmd, exec_despacha_documento h]
    cases x with
    | error e => exact ecf_recusa _ _
    | ok op =>
      rw [Option.elim_some]
      unfold aplica Op.passo
      simp only [prepara, abreGuiche]
      rcases exec (op.prog n dll) m with ⟨e | u, t⟩
      · exact ecf_recusa _ _
      · rfl
  · cases h

/-- **Requests about documents run the operations of the driver**: what the broker makes of the
machine in any sequence of them is a run of the operations read. -/
theorem run_atende {pedidos : List RequestPacket} (h : ∀ p ∈ pedidos, (documento n p).isSome)
    (m : Maquina F δ) :
    run (atende n dll resto pid) m pedidos =
      run (Op.passo n dll) m (pedidos.filterMap (operacaoLida n)) := by
  induction pedidos generalizing m with
  | nil => rfl
  | cons p pedidos ih =>
    rw [List.forall_mem_cons] at h
    obtain ⟨x, hx⟩ := Option.isSome_iff_exists.1 h.1
    rw [run_cons, ih h.2, atende_of_documento hx]
    cases hop : operacaoLida n p with
    | none => rw [List.filterMap_cons_none hop]; rfl
    | some op => rw [List.filterMap_cons_some hop, run_cons]; rfl

end EcfBroker

end Spooler
