import Spooler.Reader.TxtReader
import Spooler.Collector.Session

/-!
# The collector of command files

`txt_collector` (`txtcollector.cc`): `accept` reads the packet of a command file, removes the file
and hands the packet to `callback`, which serves it and has the response written. `serve` is the
`switch` of `callback`. The broker is a parameter (`Env.trade`), as is the value read from the type
of a packet to which none was assigned. What the collector does to its surroundings is kept in the
state: the files of the work directory, the responses written, the packets handed to
`ecf_broker::trade`.
-/

namespace Spooler

open Foundations

variable {β : Type}

/-- The return codes of `accept` and `callback`. -/
inductive CollectorCode
  | running
  | stop
  | abort
  deriving DecidableEq, Repr

/-- What a collector is set up with. -/
structure Env (β : Type) where
  workDir : Str
  /-- `ecf_broker::trade`: the response and the broker afterwards. It is taken to return. -/
  trade : RequestPacket → ResponsePacket → β → ResponsePacket × β
  /-- The value of `m_type` in a packet whose type was never assigned. -/
  indeterminate : PacketType

/-- `class txt_collector` with its surroundings. -/
structure TxtCollector (β : Type) where
  failure : Bool := false
  mute : Bool := false
  cmdfile : Str := []
  packet : RequestPacket := {}
  session : Session := {}
  broker : β
  /-- The files of the work directory, by name. -/
  disk : List (Str × Str) := []
  /-- The calls of the writer: the command file and the response. -/
  written : List (Str × ResponsePacket) := []
  /-- The packets handed to `ecf_broker::trade`. -/
  traded : List RequestPacket := []

namespace TxtCollector

/-- The result of the `switch` of `callback`: the response, the session and the broker, and the
packet handed to `ecf_broker::trade`, if any. -/
structure Served (β : Type) where
  response : ResponsePacket
  session : Session
  broker : β
  traded : List RequestPacket := []

/-- `txt_collector::callback` up to the writing of the response. -/
def serve (env : Env β) (draw : Draw) (failure : Bool) (packet : RequestPacket)
    (session : Session) (broker : β) : Served β :=
  let pkt : ResponsePacket := { type := packet.type }
  if !failure then
    match packet.type.getD env.indeterminate with
    | .tpExecut =>
      let pkt := { pkt with session := packet.session, id := packet.id }
      let (pkt, broker) := env.trade packet pkt broker
      { response := pkt, session := session, broker := broker, traded := [packet] }
    | .tpBeginSession =>
      if !session.created then
        let session := session.generate draw
        { response := { pkt with session := session.sessionId, retCode := pktResponseOk }
          session := session, broker := broker }
      else
        { response := { pkt with retCode := -1 }.addMsg "msg".toList "ECF ja esta em uso".toList
          session := session, broker := broker }
    | .tpEndSession =>
      let pkt := { pkt with session := packet.session }
      if !session.created then
        { response := { pkt with retCode := -4 }.addMsg "msg".toList
            "Nao ha uma sessao aberta".toList
          session := session, broker := broker }
      else if session.matches' packet.session then
        { response := { pkt with retCode := pktResponseOk }
          session := session.reset, broker := broker }
      else
        { response := { pkt with retCode := -2 }.addMsg "msg".toList
            "Identificador de sessao invalido".toList
          session := session, broker := broker }
    | .tpStatus =>
      if session.created then
        { response := { pkt with session := session.sessionId, retCode := 500 }.addMsg "msg".toList
            "Sessao ja esta aberta".toList
          session := session, broker := broker }
      else
        { response := { pkt with retCode := 501 }.addMsg "msg".toList
            "Nao ha uma sessao aberta".toList
          session := session, broker := broker }
    | .tpReset =>
      { response := { pkt with session := packet.session, retCode := pktResponseOk }
        session := session.reset, broker := broker }
    | _ =>
      { response := { pkt with retCode := pktResponseErr }.addMsg "msg".toList
          "Tipo de pacote invalido!".toList
        session := session, broker := broker }
  else
    { response := { pkt with session := session.sessionId, retCode := 1 }.addMsg "msg".toList
        "Erro ao processar pacote de comando.".toList
      session := session, broker := broker }

section Cases

variable (env : Env β) (draw : Draw) {packet : RequestPacket} {session : Session} (broker : β)

theorem serve_failure : serve env draw true packet session broker =
    { response := ResponsePacket.addMsg
        { type := packet.type, session := session.sessionId, retCode := 1 } "msg".toList
        "Erro ao processar pacote de comando.".toList
      session := session, broker := broker } := rfl

variable {tp : PacketType} (h : packet.type.getD env.indeterminate = tp)

include h

theorem serve_execut (ht : tp = .tpExecut) :
    let pkt : ResponsePacket :=
      { type := packet.type, session := packet.session, id := packet.id }
    serve env draw false packet session broker =
      { response := (env.trade packet pkt broker).1, session := session
        broker := (env.trade packet pkt broker).2, traded := [packet] } := by
  subst ht
  simp only [serve, h, Bool.not_false, if_true]

theorem serve_begin_closed (ht : tp = .tpBeginSession) (hs : session.created = false) :
    serve env draw false packet session broker =
      { response := { type := packet.type, session := (session.generate draw).sessionId }
        session := session.generate draw, broker := broker } := by
  subst ht
  simp only [serve, h, hs, Bool.not_false, if_true]
  rfl

theorem serve_begin_open (ht : tp = .tpBeginSession) (hs : session.created = true) :
    serve env draw false packet session broker =
      { response := ResponsePacket.addMsg { type := packet.type, retCode := -1 } "msg".toList
          "ECF ja esta em uso".toList
        session := session, broker := broker } := by
  subst ht
  simp only [serve, h, hs, Bool.not_false, Bool.not_true, Bool.false_eq_true, if_true, if_false]

theorem serve_end_closed (ht : tp = .tpEndSession) (hs : session.created = false) :
    serve env draw false packet session broker =
      { response := ResponsePacket.addMsg
          { type := packet.type, session := packet.session, retCode := -4 } "msg".toList
          "Nao ha uma sessao aberta".toList
        session := session, broker := broker } := by
  subst ht
  simp only [serve, h, hs, Bool.not_false, if_true]

theorem serve_end_match (ht : tp = .tpEndSession) (hs : session.created = true)
    (hm : session.matches' packet.session = true) :
    serve env draw false packet session broker =
      { response := { type := packet.type, session := packet.session }
        session := session.reset, broker := broker } := by
  subst ht
  simp only [serve, h, hs, hm, Bool.not_false, Bool.not_true, Bool.false_eq_true, if_true, if_false]
  rfl

theorem serve_end_mismatch (ht : tp = .tpEndSession) (hs : session.created = true)
    (hm : session.matches' packet.session = false) :
    serve env draw false packet session broker =
      { response := ResponsePacket.addMsg
          { type := packet.type, session := packet.session, retCode := -2 } "msg".toList
          "Identificador de sessao invalido".toList
        session := session, broker := broker } := by
  subst ht
  simp only [serve, h, hs, hm, Bool.not_false, Bool.not_true, Bool.false_eq_true, if_true, if_false]

theorem serve_status (session : Session) (ht : tp = .tpStatus) :
    ∃ r : ResponsePacket, (r.retCode = 500 ∨ r.retCode = 501) ∧
      serve env draw false packet session broker =
        { response := r, session := session, broker := broker } := by
  subst ht
  rcases hs : session.created with _ | _ <;>
    simp only [serve, h, hs, Bool.not_false, Bool.false_eq_true, if_true, if_false]
  · exact ⟨_, .inr rfl, rfl⟩
  · exact ⟨_, .inl rfl, rfl⟩

theorem serve_reset (ht : tp = .tpReset) :
    serve env draw false packet session broker =
      { response := { type := packet.type, session := packet.session }
        session := session.reset, broker := broker } := by
  subst ht
  simp only [serve, h, Bool.not_false, if_true]
  rfl

theorem serve_invalid (ht : tp = .notTyped ∨ tp = .tpDeadEnd) :
    serve env draw false packet session broker =
      { response := ResponsePacket.addMsg
          { type := packet.type, retCode := pktResponseErr } "msg".toList
          "Tipo de pacote invalido!".toList
        session := session, broker := broker } := by
  rcases ht with rfl | rfl <;> simp only [serve, h, Bool.not_false, if_true]

end Cases

/-- `txt_collector::callback`; the writer is taken to succeed. -/
def callback (env : Env β) (draw : Draw) (c : TxtCollector β) : TxtCollector β :=
  let served := serve env draw c.failure c.packet c.session c.broker
  { c with
    session := served.session
    broker := served.broker
    traded := c.traded ++ served.traded
    written := if !c.mute then c.written ++ [(c.cmdfile, served.response)] else c.written }

/-- What `fs::sys_unlink` throws where there is no such file. (The message that `fs_err_msg` returns
points into a string already destroyed.) -/
def missingFile : Excp :=
  .spooler .fsExp "Falha ao encontrar arquivo, ou link e uma string vazia".toList

/-- `fs::sys_unlink` of a file of the work directory. -/
def sysUnlink (name : Str) : Exec Excp (TxtCollector β) PUnit := do
  let c ← get
  if (c.disk.lookup name).isSome then
    set { c with disk := c.disk.filter fun f => f.1 ≠ name }
  else throw missingFile

/-- `txt_collector::accept` from the moment `scan_files` has delivered a name. -/
def accept (env : Env β) (draw : Draw) (tmpName : Str) :
    Exec Excp (TxtCollector β) CollectorCode := do
  let c ← get
  let tmpFpath := env.workDir ++ tmpName
  let res := TxtReader.readPacket (c.disk.lookup tmpName)
  set { c with failure := false, mute := false, packet := res.reader.pkt }
  tryCatch
    (do
      match res.excp with
      | some e => throw e
      | none => pure ()
      sysUnlink tmpName
      modify fun c => { c with cmdfile := tmpFpath })
    (fun err => do
      if err.isA .cortarPapelExp then
        modify fun c => { c with failure := true, mute := true }
      else
        sysUnlink tmpName
        modify fun c => { c with cmdfile := tmpFpath }
        -- an exception raised by the line that reached the end of the file does not count
        if !res.eof then modify fun c => { c with failure := true })
  modify (callback env draw)
  modify fun c => { c with cmdfile := [] }
  pure .running

end TxtCollector

end Spooler
