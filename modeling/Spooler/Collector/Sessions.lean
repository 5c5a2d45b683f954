import Spooler.Collector.TxtCollector
import Spooler.Foundations.Runs

/-!
# Sessions over runs of the collector

Runs of `callback` over collected packets, beside the identifier that the answers so far have left
open (`Desk.openId`, read off requests and responses only). The session of the collector is that
identifier all along (`agrees_run`), and **`exclusive_iff_authorised`**: execute packets of other
clients are kept from the device in a run exactly when no such packet arrives, since `callback`
hands every execute packet to the broker.
-/

namespace Spooler

open Foundations

variable {β : Type}

/-- A collected packet: what `accept` leaves for `callback`, and what a session would draw. -/
structure Request where
  packet : RequestPacket
  failure : Bool := false
  draw : Draw

/-- The collector, and the identifier of the session that its answers have left open. -/
structure Desk (β : Type) where
  collector : TxtCollector β
  openId : Option Str := none

namespace Desk

/-- `callback` on a collected packet. -/
def collect (env : Env β) (q : Request) (c : TxtCollector β) : TxtCollector β :=
  TxtCollector.callback env q.draw
    { c with failure := q.failure, mute := false, packet := q.packet }

/-- The type `callback` branches on. -/
def tp (env : Env β) (q : Request) : PacketType := q.packet.type.getD env.indeterminate

/-- The response to a collected packet. -/
def response (env : Env β) (q : Request) (c : TxtCollector β) : ResponsePacket :=
  (TxtCollector.serve env q.draw q.failure q.packet c.session c.broker).response

/-- The identifier left open by an answered request: handed out by a successful `begin_session`,
withdrawn by a successful `end_session` or `reset`. -/
def openAfter (openId : Option Str) (tp : PacketType) (r : ResponsePacket) : Option Str :=
  if r.retCode = pktResponseOk then
    match tp with
    | .tpBeginSession => some r.session
    | .tpEndSession => none
    | .tpReset => none
    | _ => openId
  else openId

/-- One collected packet is served. -/
def step (env : Env β) (s : Desk β) (q : Request) : Desk β where
  collector := collect env q s.collector
  openId := openAfter s.openId (tp env q) (response env q s.collector)

/-- The desk of a collector that starts, with no session open. -/
def start (broker : β) : Desk β := { collector := { broker := broker } }

/-- The packet names the session that is open. -/
def Authorised (s : Desk β) (q : Request) : Prop :=
  ∃ ssid, s.openId = some ssid ∧ Str.strIequals q.packet.session ssid = true

/-- The device is kept for the open session: `trade` is called for its packets only, and an execute
packet of another is answered with an error, without a command for the device. -/
def Exclusive (env : Env β) (s : Desk β) (q : Request) : Prop :=
  ((step env s q).collector.traded ≠ s.collector.traded → Authorised s q) ∧
  (tp env q = .tpExecut → ¬ Authorised s q →
    (step env s q).collector.traded = s.collector.traded ∧
    (step env s q).collector.broker = s.collector.broker ∧
    (response env q s.collector).retCode ≠ pktResponseOk)

/-- An execute packet that was read in full comes from the open session. -/
def ExecuteAuthorised (env : Env β) (s : Desk β) (q : Request) : Prop :=
  q.failure = false → tp env q = .tpExecut → Authorised s q

/-- The session of the collector is the one left open. -/
def Agrees (s : Desk β) : Prop :=
  s.collector.session.sessionId = s.openId.getD [] ∧ ∀ ssid, s.openId = some ssid → ssid ≠ []

theorem agrees_start (broker : β) : Agrees (start broker) := ⟨rfl, by simp [start]⟩

/-! ## One packet -/

section Step

variable (env : Env β) (s : Desk β) (q : Request)

theorem step_traded : (step env s q).collector.traded = s.collector.traded ++
    (TxtCollector.serve env q.draw q.failure q.packet s.collector.session
      s.collector.broker).traded :=
  rfl

/-- `trade` is called for the execute packets that were read in full, and for no other. -/
theorem serve_traded_iff (session : Session) (broker : β) :
    (TxtCollector.serve env q.draw q.failure q.packet session broker).traded ≠ [] ↔
      q.failure = false ∧ tp env q = .tpExecut := by
  rcases hf : q.failure with _ | _
  · cases h : tp env q with
    | tpExecut => simp [TxtCollector.serve_execut env q.draw broker h rfl]
    | tpBeginSession =>
      rcases hs : session.created with _ | _
      · simp [TxtCollector.serve_begin_closed env q.draw broker h rfl hs]
      · simp [TxtCollector.serve_begin_open env q.draw broker h rfl hs]
    | tpEndSession =>
      rcases hs : session.created with _ | _
      · simp [TxtCollector.serve_end_closed env q.draw broker h rfl hs]
      · rcases hm : session.matches' q.packet.session with _ | _
        · simp [TxtCollector.serve_end_mismatch env q.draw broker h rfl hs hm]
        · simp [TxtCollector.serve_end_match env q.draw broker h rfl hs hm]
    | tpStatus =>
      obtain ⟨r, -, hr⟩ := TxtCollector.serve_status env q.draw broker h session rfl
      simp [hr]
    | tpReset => simp [TxtCollector.serve_reset env q.draw broker h rfl]
    | notTyped => simp [TxtCollector.serve_invalid env q.draw broker h (.inl rfl)]
    | tpDeadEnd => simp [TxtCollector.serve_invalid env q.draw broker h (.inr rfl)]
  · simp [TxtCollector.serve_failure]

theorem response_retCode_of_failure (hf : q.failure = true) :
    (response env q s.collector).retCode = 1 := by
  rw [response, hf, TxtCollector.serve_failure]
  rfl

/-- **One packet keeps the session and the answers in step.** -/
theorem agrees_step (h : Agrees s) : Agrees (step env s q) := by
  obtain ⟨hid, hne⟩ := h
  -- the session and the answer of every type of packet, one by one
  suffices hs : ∀ v, TxtCollector.serve env q.draw q.failure q.packet s.collector.session
      s.collector.broker = v → v.session.sessionId =
        (openAfter s.openId (tp env q) v.response).getD [] ∧
      ∀ ssid, openAfter s.openId (tp env q) v.response = some ssid → ssid ≠ [] from hs _ rfl
  rintro v rfl
  rcases hf : q.failure with _ | _
  · cases ht : tp env q with
    | tpExecut =>
      rw [TxtCollector.serve_execut env q.draw _ ht rfl]
      simpa [openAfter] using ⟨hid, hne⟩
    | tpBeginSession =>
      rcases hs : s.collector.session.created with _ | _
      · rw [TxtCollector.serve_begin_closed env q.draw _ ht rfl hs]
        have hc := Session.created_iff.1 (Session.generate_created s.collector.session q.draw)
        simpa [openAfter, pktResponseOk] using hc
      · rw [TxtCollector.serve_begin_open env q.draw _ ht rfl hs]
        simpa [openAfter, pktResponseOk] using ⟨hid, hne⟩
    | tpEndSession =>
      rcases hs : s.collector.session.created with _ | _
      · rw [TxtCollector.serve_end_closed env q.draw _ ht rfl hs]
        simpa [openAfter, pktResponseOk] using ⟨hid, hne⟩
      · rcases hm : s.collector.session.matches' q.packet.session with _ | _
        · rw [TxtCollector.serve_end_mismatch env q.draw _ ht rfl hs hm]
          simpa [openAfter, pktResponseOk] using ⟨hid, hne⟩
        · rw [TxtCollector.serve_end_match env q.draw _ ht rfl hs hm]
          simp [openAfter, pktResponseOk]
    | tpStatus =>
      obtain ⟨r, hcode, hr⟩ := TxtCollector.serve_status env q.draw s.collector.broker ht
        s.collector.session rfl
      rw [hr]
      have hnz : r.retCode ≠ pktResponseOk := by
        rcases hcode with hc | hc <;> rw [hc] <;> decide
      simpa [openAfter, hnz] using ⟨hid, hne⟩
    | tpReset =>
      rw [TxtCollector.serve_reset env q.draw _ ht rfl]
      simp [openAfter, pktResponseOk]
    | notTyped =>
      rw [TxtCollector.serve_invalid env q.draw _ ht (.inl rfl)]
      simpa [openAfter, pktResponseOk, pktResponseErr] using ⟨hid, hne⟩
    | tpDeadEnd =>
      rw [TxtCollector.serve_invalid env q.draw _ ht (.inr rfl)]
      simpa [openAfter, pktResponseOk, pktResponseErr] using ⟨hid, hne⟩
  · rw [TxtCollector.serve_failure]
    simpa [openAfter, pktResponseOk] using ⟨hid, hne⟩

/-- **One packet keeps the device for the open session exactly when it is no execute packet of
another.** -/
theorem exclusive_iff : Exclusive env s q ↔ ExecuteAuthorised env s q := by
  have ht : (step env s q).collector.traded ≠ s.collector.traded ↔
      q.failure = false ∧ tp env q = .tpExecut := by
    rw [← serve_traded_iff env q s.collector.session s.collector.broker, step_traded]
    simp
  constructor
  · intro h hf hx
    exact h.1 (ht.2 ⟨hf, hx⟩)
  · intro h
    refine ⟨fun htr => h (ht.1 htr).1 (ht.1 htr).2, fun hx hn => ?_⟩
    have hf : q.failure = true := by
      rcases hf : q.failure with _ | _
      · exact absurd (h hf hx) hn
      · rfl
    refine ⟨by_contra fun hc => ?_, ?_, ?_⟩
    · rw [(ht.1 hc).1] at hf
      cases hf
    · have hb : (step env s q).collector.broker = (TxtCollector.serve env q.draw q.failure q.packet
          s.collector.session s.collector.broker).broker := rfl
      rw [hb, hf, TxtCollector.serve_failure]
    · rw [response_retCode_of_failure env s q hf]
      decide

end Step

/-! ## Runs -/

/-- In every state of a run the session of the collector is the one its answers left open. -/
theorem agrees_run (env : Env β) (broker : β) (qs : List Request) :
    ∀ s ∈ visited (step env) (start broker) qs, Agrees s :=
  run_preserves (fun s q h => agrees_step env s q h) (agrees_start broker) qs

/-- **When the device is kept for the open session over a run**: when every execute packet that was
read in full arrives while a session is open, with the identifier of that session. -/
theorem exclusive_iff_authorised (env : Env β) (broker : β) (qs : List Request) :
    AllSteps (step env) (Exclusive env) (start broker) qs ↔
      AllSteps (step env) (ExecuteAuthorised env) (start broker) qs :=
  allSteps_iff_of_invariant (J := fun _ => True) (fun _ _ _ => trivial)
    (fun s q _ => exclusive_iff env s q) trivial qs

/-- An execute request that reaches a collector without a session is handed to the broker. -/
theorem execute_without_session_is_traded :
    ¬ AllSteps (step (β := Unit)
        { workDir := [], trade := fun _ pkt b => (pkt, b), indeterminate := .notTyped })
      (Exclusive { workDir := [], trade := fun _ pkt b => (pkt, b), indeterminate := .notTyped })
      (start ())
      [{ packet := (TxtReader.readPacket (some (unlines ["<ecf_sgi_begin>".toList,
          "ecf_execute_request".toList, "session_id:sgi_id_0".toList,
          "command_id:leitura_x".toList, "<ecf_sgi_end>".toList]))).reader.pkt
         draw := { valor := 0, strfry := id, strfry_perm := List.Perm.refl } }] := by
  rintro ⟨⟨h, -⟩, -⟩
  obtain ⟨ssid, hopen, -⟩ := h (by decide)
  cases hopen

end Desk

end Spooler
