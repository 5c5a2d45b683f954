import Spooler.Broker.Cv0909
import Spooler.Broker.Identificacao
import Spooler.Driver.Supressao
import Spooler.Queue.Sequence

/-!
# The service with the broker and the driver

The service of `Spooler.Queue.Service` with the broker behind `callback`. **The response to every
command comes back under the label of its request**, over any device (`responses_identified`). With
the driver of the CV0909 behind the broker, and commands about documents, **the device goes through
the operations read from the command files, in the order of the calls, and the response to each of
them tells whether the device carried it out** on what the earlier ones had left behind
(`documents_in_sequence`). Requests about sessions and files that could not be read do not reach it.
-/

namespace Spooler

open Foundations

/-- The service in front of a broker. An exception that leaves `trade` ends the process: the results
below are about runs in which every command served is one that `trade` returns from
(`responses_identified`), as it does from those for documents (`tells_trade`). -/
def EcfBroker.env {E : Excp → Prop} {F σ : Type} (b : EcfBroker E F σ) (workDir : Str)
    (indeterminate : PacketType) : Env σ where
  workDir := workDir
  indeterminate := indeterminate
  trade := fun pedido saida ecf =>
    let t := (exec (b.trade pedido) { ecf := ecf, saida := saida }).2
    (t.saida, t.ecf)

/-! ## Calls that reach the broker -/

/-- The packet was read in full and is an execute packet. -/
def executes (indeterminate : PacketType) (packet : RequestPacket) (failure : Bool) : Bool :=
  !failure && packet.type.getD indeterminate = .tpExecut

namespace TxtCollector

variable {β : Type} {env : Env β} {packet : RequestPacket} {failure : Bool}

theorem serve_of_executes (h : executes env.indeterminate packet failure = true) (draw : Draw)
    (session : Session) (broker : β) :
    let pkt : ResponsePacket := { type := packet.type, session := packet.session, id := packet.id }
    (serve env draw failure packet session broker).response = (env.trade packet pkt broker).1 ∧
      (serve env draw failure packet session broker).broker = (env.trade packet pkt broker).2 := by
  obtain ⟨hf, ht⟩ := Bool.and_eq_true_iff.1 h
  obtain rfl : failure = false := by simpa using hf
  rw [serve_execut env draw broker (of_decide_eq_true ht) rfl]
  exact ⟨rfl, rfl⟩

/-- No other packet reaches the broker; the response to it is opened with its type too. -/
theorem serve_of_not_executes (h : executes env.indeterminate packet failure = false) (draw : Draw)
    (session : Session) (broker : β) :
    (serve env draw failure packet session broker).broker = broker ∧
      (serve env draw failure packet session broker).response.type = packet.type := by
  cases failure with
  | true => rw [serve_failure]; exact ⟨rfl, rfl⟩
  | false =>
    have ht : packet.type.getD env.indeterminate ≠ .tpExecut := by simpa [executes] using h
    unfold serve
    simp only [Bool.not_false, if_true]
    split
    · rename_i htype
      exact absurd htype ht
    all_goals
      first
      | exact ⟨rfl, rfl⟩
      | (split <;> first | exact ⟨rfl, rfl⟩ | (split <;> exact ⟨rfl, rfl⟩))

end TxtCollector

/-! ## One command for a document -/

namespace EcfBroker

variable {F δ : Type} (n : Numeric F) (dll : Dll δ) (resto : Ecf Excp.DoDriver F (Maquina F δ))
  (pid : Nat)

/-- The command of the request is about a document, or there is no such command. -/
def AboutDocument (pedido : RequestPacket) : Prop :=
  ∀ cmd, CmdIdx.tagEnum pedido.id = .ok cmd → (operacao n pedido cmd).isSome

instance (pedido : RequestPacket) : Decidable (AboutDocument n pedido) :=
  match h : CmdIdx.tagEnum pedido.id with
  | .error _ => isTrue fun _ hc => by cases h.symm.trans hc
  | .ok cmd => decidable_of_iff ((operacao n pedido cmd).isSome = true)
    ⟨fun hop _ hc => Except.ok.inj (h.symm.trans hc) ▸ hop, fun hop => hop cmd h⟩

/-- The amount that the request names has room in the buffer it is formatted in. -/
def AmountFits (pedido : RequestPacket) : Prop :=
  ∀ op, operacaoLida n pedido = some op → op.estoura n = false

instance (pedido : RequestPacket) : Decidable (AmountFits n pedido) :=
  match h : operacaoLida n pedido with
  | none => isTrue fun _ hop => by cases h.symm.trans hop
  | some op => decidable_of_iff (op.estoura n = false)
    ⟨fun hfit _ hop => Option.some.inj (h.symm.trans hop) ▸ hfit, fun hfit => hfit op h⟩

/-- The response tells what the device in the state `m` made of the request. -/
structure Tells (m : Maquina F δ) (pedido : RequestPacket) (r : ResponsePacket) : Prop where
  type : r.type = pedido.type
  session : r.session = pedido.session
  id : r.id = pedido.id
  outcome :
    (∃ op, operacaoLida n pedido = some op ∧ Op.Aceita n dll m op ∧
      r.retCode = pktResponseOk ∧ r.contents = []) ∨
    ((∀ op, operacaoLida n pedido = some op → ¬Op.Aceita n dll m op) ∧
      r.retCode = pktResponseErr ∧ ∃ msg, r.contents = [("msg".toList, [msg])])

variable {n dll resto pid} {pedido : RequestPacket}

/-- `trade` is an attempt at the operation that the request asks for. -/
theorem exec_trade_of_aboutDocument (h : AboutDocument n pedido) (m : Maquina F δ) :
    ∃ x : Except Excp (Op F), operacaoLida n pedido = x.toOption ∧
      (∀ e, x = .error e → e.isSpooler = true) ∧
      exec ((cv0909 n dll resto pid).trade pedido) (abreGuiche pedido m []) =
        match aplica n dll x (prepara pedido (abreGuiche pedido m [])) with
        | (.ok _, t) => (.ok (), t)
        | (.error e, t) => exec (recusa e) t := by
  unfold trade
  rw [exec_tryCatch, exec_bind, exec_modify]
  simp only [exec_bind, exec_ofExcept]
  unfold operacaoLida documento
  cases hcmd : CmdIdx.tagEnum pedido.id with
  | error e =>
    refine ⟨.error e, rfl, fun e' he' => ?_, rfl⟩
    cases he'
    exact CmdIdx.isSpooler_of_tagEnum hcmd
  | ok cmd =>
    obtain ⟨x, hx⟩ := Option.isSome_iff_exists.1 (h cmd hcmd)
    refine ⟨x, ?_, fun e he => isSpooler_of_operacao (hx.trans (congrArg some he)), ?_⟩
    · simp only [hx]
      cases x <;> rfl
    · simp only [exec_despacha_documento hx]
      rcases aplica n dll x (prepara pedido (abreGuiche pedido m [])) with ⟨e | u, t⟩ <;> rfl

/-- The answer to an operation that was not carried out. -/
theorem tells_recusa {e : Excp} {t : Guiche (Maquina F δ)} {m : Maquina F δ}
    (hsaida : t.saida = (prepara pedido (abreGuiche pedido m [])).saida)
    (hspooler : e.isSpooler = true)
    (hop : ∀ op, operacaoLida n pedido = some op → ¬Op.Aceita n dll m op) :
    Tells n dll m pedido (exec (recusa e) t).2.saida := by
  cases e with
  | spooler cls what =>
    have hmsg := ResponsePacket.addMsg_contents { t.saida with retCode := pktResponseErr }
      "msg".toList (Str.cstr what)
    have hvazia : t.saida.contents = [] := by rw [hsaida]; rfl
    exact {
      type := congrArg (fun r : ResponsePacket => r.type) hsaida
      session := congrArg (fun r : ResponsePacket => r.session) hsaida
      id := congrArg (fun r : ResponsePacket => r.id) hsaida
      outcome := .inr ⟨hop, rfl, Str.cstr what,
        hmsg.trans (congrArg (· ++ [("msg".toList, [Str.cstr what])]) hvazia)⟩ }
  | outOfRange => cases hspooler
  | iosFailure => cases hspooler
  | overrun => cases hspooler

/-- **What `trade` answers to a command for a document, and what it makes of the device.** -/
theorem tells_trade (h : AboutDocument n pedido) (hfit : AmountFits n pedido) (m : Maquina F δ) :
    let t := (exec ((cv0909 n dll resto pid).trade pedido) (abreGuiche pedido m [])).2
    Tells n dll m pedido t.saida ∧
      t.ecf = (operacaoLida n pedido).elim m (Op.passo n dll m) := by
  obtain ⟨x, hx, hspooler, heq⟩ := exec_trade_of_aboutDocument h m
  rw [heq, hx]
  cases x with
  | error e =>
    refine ⟨tells_recusa rfl (hspooler e rfl) fun op hop => ?_, ecf_recusa _ _⟩
    cases hx.symm.trans hop
  | ok op =>
    unfold aplica
    have hecf : (prepara pedido (abreGuiche pedido m [])).ecf = m := rfl
    have hwp := (op.soSeCabe n dll).soSpooler (hfit op hx) m trivial
    simp only [hecf]
    unfold Wp at hwp
    rcases hr : exec (op.prog n dll) m with ⟨e | u, t⟩
    · rw [hr] at hwp
      refine ⟨tells_recusa rfl hwp.1 fun op' hop' => ?_, ecf_recusa _ _⟩
      obtain rfl : op = op' := Option.some.inj (hx.symm.trans hop')
      intro haceita
      rw [Op.Aceita, hr] at haceita
      cases haceita
    · exact ⟨⟨rfl, rfl, rfl, .inl ⟨op, hx, congrArg Prod.fst hr, rfl, rfl⟩⟩, rfl⟩

/-- The operations that the packets ask for, in their order. -/
def operations (n : Numeric F) (indeterminate : PacketType)
    (packets : List (RequestPacket × Bool)) : List (Op F) :=
  packets.filterMap fun x => if executes indeterminate x.1 x.2 then operacaoLida n x.1 else none

end EcfBroker

/-! ## The desk in front of the driver -/

namespace Desk

open EcfBroker

variable {β : Type}

theorem exchanges_append (env : Env β) (d : Desk β) (qs qs' : List Request) :
    exchanges env d.collector (qs ++ qs') = exchanges env d.collector qs ++
      exchanges env (run (step env) d qs).collector qs' := by
  induction qs generalizing d with
  | nil => rfl
  | cons q qs ih =>
    rw [List.cons_append, exchanges, exchanges, List.cons_append, run_cons]
    exact congrArg _ (ih (step env d q))

theorem length_exchanges (env : Env β) (c : TxtCollector β) (qs : List Request) :
    (exchanges env c qs).length = qs.length := by
  induction qs generalizing c with
  | nil => rfl
  | cons q qs ih => rw [exchanges, List.length_cons, List.length_cons, ih]

variable {F δ : Type} {n : Numeric F} {dll : Dll δ} {resto : Ecf Excp.DoDriver F (Maquina F δ)}
  {pid : Nat}
  {workDir : Str} {indeterminate : PacketType} {q : Request}

/-- **One request does to the device what its operation does**, if it has one and reaches it. -/
theorem broker_step
    (h : executes indeterminate q.packet q.failure = true →
      AboutDocument n q.packet ∧ AmountFits n q.packet) (d : Desk (Maquina F δ)) :
    (step ((cv0909 n dll resto pid).env workDir indeterminate) d q).collector.broker =
      run (Op.passo n dll) d.collector.broker
        (operations n indeterminate [(q.packet, q.failure)]) := by
  show (TxtCollector.serve ((cv0909 n dll resto pid).env workDir indeterminate) q.draw q.failure
    q.packet d.collector.session d.collector.broker).broker = _
  cases hx : executes indeterminate q.packet q.failure with
  | false =>
    rw [(TxtCollector.serve_of_not_executes hx _ _ _).1, operations,
      List.filterMap_cons_none (by simp [hx])]
    rfl
  | true =>
    rw [(TxtCollector.serve_of_executes hx _ _ _).2]
    refine (tells_trade (h hx).1 (h hx).2 d.collector.broker).2.trans ?_
    cases hop : operacaoLida n q.packet <;> simp [operations, hx, hop]

theorem broker_run {qs : List Request}
    (h : ∀ q ∈ qs, executes indeterminate q.packet q.failure = true →
      AboutDocument n q.packet ∧ AmountFits n q.packet) (d : Desk (Maquina F δ)) :
    (run (step ((cv0909 n dll resto pid).env workDir indeterminate)) d qs).collector.broker =
      run (Op.passo n dll) d.collector.broker
        (operations n indeterminate (qs.map fun q => (q.packet, q.failure))) := by
  induction qs generalizing d with
  | nil => rfl
  | cons q qs ih =>
    rw [List.forall_mem_cons] at h
    have hsplit : operations n indeterminate ((q :: qs).map fun q => (q.packet, q.failure)) =
        operations n indeterminate [(q.packet, q.failure)] ++
          operations n indeterminate (qs.map fun q => (q.packet, q.failure)) := by
      rw [operations, operations, operations, ← List.filterMap_append]
      rfl
    rw [run_cons, ih h.2, broker_step h.1, hsplit, run_append]

/-- The response to an execute packet tells what the device made of it. -/
theorem tells_response (hx : executes indeterminate q.packet q.failure = true)
    (h : AboutDocument n q.packet ∧ AmountFits n q.packet) (c : TxtCollector (Maquina F δ)) :
    Tells n dll c.broker q.packet
      (response ((cv0909 n dll resto pid).env workDir indeterminate) q c) := by
  unfold response
  rw [(TxtCollector.serve_of_executes hx _ _ _).1]
  exact (tells_trade h.1 h.2 c.broker).1

end Desk

/-! ## The service in front of the driver -/

namespace Service

open EcfBroker

/-- The response written for a call, as the desk gives it behind the packets before. -/
theorem exists_reply {β : Type} {env : Env β} {broker : β} {s : Service β} {qs : List Request}
    (h : Mirrors env s (run (Desk.step env) (Desk.start broker) qs))
    (hcalls : qs.map (fun q => (q.packet, q.failure)) = s.calls.map Prod.snd)
    {pre post : List Call} {call : Call} (hsplit : s.calls = pre ++ call :: post) :
    ∃ qpre q qpost before after, qs = qpre ++ q :: qpost ∧
      qpre.map (fun q => (q.packet, q.failure)) = pre.map Prod.snd ∧
      (q.packet, q.failure) = call.2 ∧ before.length = pre.length ∧
      s.collector.written = before ++ (env.workDir ++ call.1,
        Desk.response env q (run (Desk.step env) (Desk.start broker) qpre).collector) :: after := by
  rw [hsplit, List.map_append, List.map_cons] at hcalls
  obtain ⟨qpre, rest, rfl, hpre, hrest⟩ := List.map_eq_append_iff.1 hcalls
  obtain ⟨q, qpost, rfl, hcall, -⟩ := List.map_eq_cons_iff.1 hrest
  have hfiles := h.files
  rw [hsplit, List.map_append, List.map_cons] at hfiles
  obtain ⟨before, rest, hw, hbefore, hrest⟩ := List.map_eq_append_iff.1 hfiles
  obtain ⟨entry, after, rfl, hentry, -⟩ := List.map_eq_cons_iff.1 hrest
  have hlen : before.length = pre.length := by
    have hlength := congrArg List.length hbefore
    rwa [List.length_map, List.length_map] at hlength
  have hqlen : qpre.length = pre.length := by
    have hlength := congrArg List.length hpre
    rwa [List.length_map, List.length_map] at hlength
  -- both sides give one response to each packet, so they agree packet by packet
  have hresponses : s.collector.written.map Prod.snd =
      (Desk.exchanges env (Desk.start broker).collector (qpre ++ q :: qpost)).map
        Desk.Exchange.response := by
    rw [h.responses, responses_exchanges]
    rfl
  rw [hw, Desk.exchanges_append, List.map_append, List.map_append] at hresponses
  have hparts := (List.append_inj hresponses (by
    rw [List.length_map, List.length_map, Desk.length_exchanges, hlen, hqlen])).2
  have hresponse : entry.2 =
      Desk.response env q (run (Desk.step env) (Desk.start broker) qpre).collector := by
    rw [Desk.exchanges, List.map_cons, List.map_cons] at hparts
    exact (List.cons.inj hparts).1
  refine ⟨qpre, q, qpost, before, after, rfl, hpre, hcall, hlen, ?_⟩
  rw [hw, ← hresponse, ← hentry]

/-- **Every response names its request**: in every run of the service with a broker, over any
device, in which no command leaves a text or a buffer, the response to a call is written under the
path of its file with the type of its packet; to an execute packet also with its session and its
command, and it reports success, or an error with one message. -/
theorem responses_identified {F σ : Type} (b : EcfBroker Excp.DoSpooler F σ) (workDir : Str)
    (indeterminate : PacketType) (ecf : σ) (cmdPrefix : Str) (disk : List (Str × Str))
    (moves : List Move)
    (hreturns : ∀ call ∈ (run (step (b.env workDir indeterminate))
      (start ecf cmdPrefix disk) moves).calls, executes indeterminate call.2.1 call.2.2 = true →
      b.estouraPedido call.2.1 = false) :
    let s := run (step (b.env workDir indeterminate)) (start ecf cmdPrefix disk) moves
    ∀ pre call post, s.calls = pre ++ call :: post →
      ∃ before r after, s.collector.written = before ++ (workDir ++ call.1, r) :: after ∧
        before.length = pre.length ∧ r.type = call.2.1.type ∧
        (executes indeterminate call.2.1 call.2.2 = true →
          r.session = call.2.1.session ∧ r.id = call.2.1.id ∧ (r.retCode = pktResponseOk ∨
            r.retCode = pktResponseErr ∧ ∃ msg, r.contents = [("msg".toList, [msg])])) := by
  intro s pre call post hsplit
  have h : Mirrors (b.env workDir indeterminate) s _ := mirrors_run _ ecf cmdPrefix disk moves
  have hcalls := requests_eq_calls (b.env workDir indeterminate) ecf cmdPrefix disk moves
  obtain ⟨qpre, q, qpost, before, after, hq, hpre, hcall, hlen, hw⟩ :=
    exists_reply h hcalls hsplit
  have hback := hreturns call (hsplit ▸ List.mem_append_right _ List.mem_cons_self)
  refine ⟨before, _, after, hw, hlen, ?_⟩
  rw [← hcall] at hback ⊢
  unfold Desk.response
  generalize (run (Desk.step (b.env workDir indeterminate)) (Desk.start ecf) qpre).collector = c
  cases hx : executes indeterminate q.packet q.failure with
  | false => exact ⟨(TxtCollector.serve_of_not_executes hx _ _ _).2, nofun⟩
  | true =>
    rw [(TxtCollector.serve_of_executes hx _ _ _).1]
    have hlabel := rotulo_trade b q.packet c.broker
    exact ⟨congrArg (fun x => x.1) hlabel, fun _ => ⟨congrArg (fun x => x.2.1) hlabel,
      congrArg (fun x => x.2.2) hlabel, (atendido_trade (hback hx) c.broker []).2⟩⟩

/-- A question to the device and a command that there is not. -/
theorem responses_identified_two :
    let b : EcfBroker Excp.DoSpooler Int Unit := { mEcf := default, num := .inteiros, pid := 1 }
    let file (cmd : String) : Str := unlines ["<ecf_sgi_begin>".toList,
      "ecf_execute_request".toList, "session_id:7".toList, ("command_id:" ++ cmd).toList,
      "<ecf_sgi_end>".toList]
    let go : Move := .advance { valor := 0, strfry := id, strfry_perm := List.Perm.refl }
    let moves : List Move := [go, go, go, .directoryScan ["arqcmd.1".toList, "arqcmd.2".toList],
      go, go, go, go, go, go, go, go, go, go, go, go, go, go, go]
    let disk := [("arqcmd.1".toList, file "get_nr_loja"), ("arqcmd.2".toList, file "get_loja")]
    let s := run (step (b.env "/ecf/".toList .notTyped)) (start () "arqcmd".toList disk) moves
    s.collector.written.map (fun w => (w.2.session, w.2.retCode)) = [(['7'], 0), (['7'], 1)] ∧
      ∀ pre call post, s.calls = pre ++ call :: post →
        ∃ before r after,
          s.collector.written = before ++ ("/ecf/".toList ++ call.1, r) :: after ∧
          before.length = pre.length ∧ r.type = call.2.1.type ∧
          (executes .notTyped call.2.1 call.2.2 = true →
            r.session = call.2.1.session ∧ r.id = call.2.1.id ∧ (r.retCode = pktResponseOk ∨
              r.retCode = pktResponseErr ∧ ∃ msg, r.contents = [("msg".toList, [msg])])) :=
  ⟨by decide, responses_identified _ _ _ _ _ _ _ (by decide)⟩

variable {F δ : Type}

/-- A service that mirrors the desk has told what the device made of each execute packet. -/
theorem tells_of_mirrors {n : Numeric F} {dll : Dll δ} {resto : Ecf Excp.DoDriver F (Maquina F δ)}
    {pid : Nat} {workDir : Str} {indeterminate : PacketType} {m : Maquina F δ}
    {s : Service (Maquina F δ)} {qs : List Request}
    (h : Mirrors ((cv0909 n dll resto pid).env workDir indeterminate) s
      (run (Desk.step ((cv0909 n dll resto pid).env workDir indeterminate)) (Desk.start m) qs))
    (hcalls : qs.map (fun q => (q.packet, q.failure)) = s.calls.map Prod.snd)
    (hdoc : ∀ call ∈ s.calls, executes indeterminate call.2.1 call.2.2 = true →
      AboutDocument n call.2.1 ∧ AmountFits n call.2.1) :
    s.collector.broker =
        run (Op.passo n dll) m (operations n indeterminate (s.calls.map Prod.snd)) ∧
      ∀ pre call post, s.calls = pre ++ call :: post →
        executes indeterminate call.2.1 call.2.2 = true →
        ∃ before r after, s.collector.written = before ++ (workDir ++ call.1, r) :: after ∧
          before.length = pre.length ∧
          Tells n dll (run (Op.passo n dll) m (operations n indeterminate (pre.map Prod.snd)))
            call.2.1 r := by
  have habout : ∀ q ∈ qs, executes indeterminate q.packet q.failure = true →
      AboutDocument n q.packet ∧ AmountFits n q.packet := by
    intro q hq hx
    have hmem : (q.packet, q.failure) ∈ s.calls.map Prod.snd :=
      hcalls ▸ List.mem_map_of_mem hq
    obtain ⟨call, hc, he⟩ := List.mem_map.1 hmem
    have hcall := hdoc call hc
    rw [he] at hcall
    exact hcall hx
  refine ⟨?_, fun pre call post hsplit hx => ?_⟩
  · rw [h.broker, Desk.broker_run habout, hcalls]
    rfl
  · obtain ⟨qpre, q, qpost, before, after, hq, hpre, hcall, hlen, hw⟩ :=
      exists_reply h hcalls hsplit
    have hbroker : (run (Desk.step ((cv0909 n dll resto pid).env workDir indeterminate))
        (Desk.start m) qpre).collector.broker =
        run (Op.passo n dll) m (operations n indeterminate (pre.map Prod.snd)) := by
      rw [Desk.broker_run fun q hmem _ => habout q (hq ▸ List.mem_append_left _ hmem) ‹_›, hpre]
      rfl
    refine ⟨before, _, after, hw, hlen, ?_⟩
    rw [← hcall] at hx ⊢
    rw [← hbroker]
    exact Desk.tells_response hx
      (habout q (hq ▸ List.mem_append_right _ List.mem_cons_self) hx) _

/-- **The device goes through the commands, and the responses tell how**: in every run of the
service whose execute packets are about documents, with amounts that fit the driver's buffer, the
device is left as the run of the operations read from them leaves it, in the order of the calls; and
the response to each, under the path of its file, tells whether the device carried it out in the
state that the earlier ones left behind. -/
theorem documents_in_sequence (n : Numeric F) (dll : Dll δ)
    (resto : Ecf Excp.DoDriver F (Maquina F δ)) (pid : Nat) (workDir : Str)
    (indeterminate : PacketType) (m : Maquina F δ) (cmdPrefix : Str) (disk : List (Str × Str))
    (moves : List Move)
    (hdoc : ∀ call ∈ (run (step ((cv0909 n dll resto pid).env workDir indeterminate))
      (start m cmdPrefix disk) moves).calls, executes indeterminate call.2.1 call.2.2 = true →
      AboutDocument n call.2.1 ∧ AmountFits n call.2.1) :
    let s := run (step ((cv0909 n dll resto pid).env workDir indeterminate))
      (start m cmdPrefix disk) moves
    s.collector.broker =
        run (Op.passo n dll) m (operations n indeterminate (s.calls.map Prod.snd)) ∧
      ∀ pre call post, s.calls = pre ++ call :: post →
        executes indeterminate call.2.1 call.2.2 = true →
        ∃ before r after, s.collector.written = before ++ (workDir ++ call.1, r) :: after ∧
          before.length = pre.length ∧
          Tells n dll (run (Op.passo n dll) m (operations n indeterminate (pre.map Prod.snd)))
            call.2.1 r := by
  intro s
  exact tells_of_mirrors (mirrors_run _ m cmdPrefix disk moves)
    (requests_eq_calls _ m cmdPrefix disk moves) hdoc

/-- A coupon is cancelled; the payment behind it has no parameters, and is refused without a call of
the library. -/
theorem documents_in_sequence_two :
    let n := Numeric.inteiros
    let b := cv0909 n Caixa.aceitaTudo default 1
    let file (cmd : String) : Str := unlines ["<ecf_sgi_begin>".toList,
      "ecf_execute_request".toList, "session_id:7".toList, ("command_id:" ++ cmd).toList,
      "<ecf_sgi_end>".toList]
    let go : Move := .advance { valor := 0, strfry := id, strfry_perm := List.Perm.refl }
    let moves : List Move := [go, go, go, .directoryScan ["arqcmd.1".toList, "arqcmd.2".toList],
      go, go, go, go, go, go, go, go, go, go, go, go, go, go, go]
    let disk := [("arqcmd.1".toList, file "snd_cancela_cupom"),
      ("arqcmd.2".toList, file "snd_pagamento")]
    let m : Maquina Int Unit := { drv := {}, dev := () }
    let s := run (step (b.env "/ecf/".toList .notTyped)) (start m "arqcmd".toList disk) moves
    s.collector.written.map (fun w => w.2.retCode) = [0, 1] ∧
      s.collector.broker.registro.length = 1 ∧
      s.collector.broker =
        run (Op.passo n Caixa.aceitaTudo) m (operations n .notTyped (s.calls.map Prod.snd)) ∧
      ∀ pre call post, s.calls = pre ++ call :: post →
        executes .notTyped call.2.1 call.2.2 = true →
        ∃ before r after,
          s.collector.written = before ++ ("/ecf/".toList ++ call.1, r) :: after ∧
          before.length = pre.length ∧
          Tells n Caixa.aceitaTudo
            (run (Op.passo n Caixa.aceitaTudo) m (operations n .notTyped (pre.map Prod.snd)))
            call.2.1 r :=
  ⟨by decide, by decide,
    documents_in_sequence _ _ _ _ _ _ _ _ _ _ (by decide)⟩

end Service

end Spooler
