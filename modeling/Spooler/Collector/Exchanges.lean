import Spooler.Collector.Sessions

/-!
# One session at a time

The packets of a run beside the responses to them (`exchanges`). What these say about sessions is a
chain of moves between "no session" and "this identifier is open" (`Moves`, `Chain`): the collector
follows such a chain in every run (`chain_exchanges`), and a chain is all that is needed to see,
far apart in the run, that **a session is opened only when the one before was closed, and ended
only under the identifier handed out last** (`one_session_at_a_time`).
-/

namespace Spooler

open Foundations

variable {β : Type}

namespace Desk

/-- A packet and the response to it. -/
structure Exchange where
  request : Request
  response : ResponsePacket

/-- The packets of a run with the responses to them. -/
def exchanges (env : Env β) : TxtCollector β → List Request → List Exchange
  | _, [] => []
  | c, q :: qs => ⟨q, response env q c⟩ :: exchanges env (collect env q c) qs

section Moves

variable (env : Env β)

/-- A `begin_session` answered with success. -/
def Begins (e : Exchange) : Prop :=
  tp env e.request = .tpBeginSession ∧ e.response.retCode = pktResponseOk

/-- An `end_session` answered with success. -/
def Ends (e : Exchange) : Prop :=
  tp env e.request = .tpEndSession ∧ e.response.retCode = pktResponseOk

/-- A `reset` that was no failed packet. -/
def Resets (e : Exchange) : Prop := tp env e.request = .tpReset ∧ e.request.failure = false

/-- The session there was is closed. -/
def Closes (e : Exchange) : Prop := Ends env e ∨ Resets env e

/-- The identifier open before an exchange and the one open after it. -/
inductive Moves : Option Str → Exchange → Option Str → Prop
  | begins {e : Exchange} : Begins env e → Moves none e (some e.response.session)
  | ends {e : Exchange} {ssid : Str} : Ends env e →
      Str.strIequals e.request.packet.session ssid = true → Moves (some ssid) e none
  | resets {e : Exchange} {openId : Option Str} : Resets env e → Moves openId e none
  | quiet {e : Exchange} {openId : Option Str} : ¬Begins env e → ¬Closes env e →
      Moves openId e openId

/-- A sequence of exchanges, each of which goes on from where the one before stopped. -/
inductive Chain : Option Str → List Exchange → Option Str → Prop
  | nil {o : Option Str} : Chain o [] o
  | cons {o o' o'' : Option Str} {e : Exchange} {es : List Exchange} :
      Moves env o e o' → Chain o' es o'' → Chain o (e :: es) o''

end Moves

/-! ## Chains -/

section Chains

variable {env : Env β} {o o' o'' : Option Str} {e : Exchange} {es : List Exchange}

theorem Begins.not_closes (h : Begins env e) : ¬Closes env e := by
  rintro (hc | hc) <;> cases h.1.symm.trans hc.1

/-- A session is opened only where none is open. -/
theorem Moves.of_begins (h : Moves env o e o') (hb : Begins env e) :
    o = none ∧ o' = some e.response.session := by
  cases h with
  | begins => exact ⟨rfl, rfl⟩
  | ends he => exact absurd (.inl he) hb.not_closes
  | resets hr => exact absurd (.inr hr) hb.not_closes
  | quiet hnb => exact absurd hb hnb

/-- A session is ended only under its own identifier. -/
theorem Moves.of_ends (h : Moves env o e o') (he : Ends env e) :
    ∃ ssid, o = some ssid ∧ Str.strIequals e.request.packet.session ssid = true := by
  cases h with
  | begins hb => exact absurd (.inl he) hb.not_closes
  | ends _ hm => exact ⟨_, rfl, hm⟩
  | resets hr => cases he.1.symm.trans hr.1
  | quiet _ hnc => exact absurd (.inl he) hnc

theorem Chain.of_append {fs : List Exchange} (h : Chain env o (es ++ fs) o'') :
    ∃ o', Chain env o es o' ∧ Chain env o' fs o'' := by
  induction es generalizing o with
  | nil => exact ⟨o, .nil, h⟩
  | cons e es ih =>
    cases h with
    | cons hm hc =>
      obtain ⟨o', hes, hfs⟩ := ih hc
      exact ⟨o', .cons hm hes, hfs⟩

theorem Chain.of_cons (h : Chain env o (e :: es) o'') :
    ∃ o', Moves env o e o' ∧ Chain env o' es o'' := by
  cases h with
  | cons hm hc => exact ⟨_, hm, hc⟩

/-- Where a session was open and none is, one was closed. -/
theorem Chain.exists_closes {ssid : Str} (h : Chain env (some ssid) es none) :
    ∃ e ∈ es, Closes env e := by
  generalize ho : some ssid = o at h
  generalize ho' : none = o' at h
  induction h generalizing ssid with
  | nil => cases ho.trans ho'.symm
  | cons hm hc ih =>
    cases hm with
    | begins => cases ho
    | ends he => exact ⟨_, List.mem_cons_self, .inl he⟩
    | resets hr => exact ⟨_, List.mem_cons_self, .inr hr⟩
    | quiet =>
      obtain ⟨e, he, hcl⟩ := ih ho ho'
      exact ⟨e, List.mem_cons_of_mem _ he, hcl⟩

/-- Where none was open and one is, it was opened, and nothing has happened to it since. -/
theorem Chain.exists_begins {ssid : Str} (h : Chain env none es (some ssid)) :
    ∃ pre a mid, es = pre ++ a :: mid ∧ Begins env a ∧ a.response.session = ssid ∧
      ∀ e ∈ mid, ¬Begins env e ∧ ¬Closes env e := by
  induction es using List.reverseRecOn with
  | nil => cases h
  | append_singleton es e ih =>
    obtain ⟨o, hes, he⟩ := h.of_append
    obtain ⟨o', hm, hnil⟩ := he.of_cons
    cases hnil
    cases hm with
    | begins hb => exact ⟨es, e, [], rfl, hb, rfl, by simp⟩
    | quiet hnb hnc =>
      obtain ⟨pre, a, mid, rfl, ha, hid, hmid⟩ := ih hes
      refine ⟨pre, a, mid ++ [e], by simp, ha, hid, fun f hf => ?_⟩
      rcases List.mem_append.1 hf with hf | hf
      · exact hmid f hf
      · rw [List.mem_singleton.1 hf]
        exact ⟨hnb, hnc⟩

end Chains

/-! ## The collector follows a chain -/

section Collector

variable (env : Env β)

/-- An exchange that was refused moves nothing, a `reset` aside. -/
theorem moves_of_refused {o : Option Str} {q : Request} {r : ResponsePacket} {n : Int}
    (hc : r.retCode = n) (hne : n ≠ pktResponseOk) (hr : ¬Resets env ⟨q, r⟩) :
    Moves env o ⟨q, r⟩ (openAfter o (tp env q) r) := by
  have hk : r.retCode ≠ pktResponseOk := hc ▸ hne
  rw [show openAfter o (tp env q) r = o from if_neg hk]
  refine .quiet (fun hb => hk hb.2) ?_
  rintro (he | hr')
  · exact hk he.2
  · exact hr hr'

/-- An exchange of a type that is no business of the session moves nothing. -/
theorem moves_of_tp {o : Option Str} {e : Exchange} (hb : tp env e.request ≠ .tpBeginSession)
    (he : tp env e.request ≠ .tpEndSession) (hr : tp env e.request ≠ .tpReset) :
    Moves env o e o := by
  refine .quiet (fun h => hb h.1) ?_
  rintro (h | h)
  · exact he h.1
  · exact hr h.1

theorem openId_of_not_created {s : Desk β} (h : Agrees s)
    (hs : s.collector.session.created = false) : s.openId = none := by
  cases ho : s.openId with
  | none => rfl
  | some ssid =>
    have hid := h.1
    rw [ho, Option.getD_some] at hid
    have hc := Session.created_iff.2 (hid ▸ h.2 ssid ho)
    cases hs.symm.trans hc

theorem openId_of_created {s : Desk β} (h : Agrees s)
    (hs : s.collector.session.created = true) : s.openId = some s.collector.session.sessionId := by
  have hid := h.1
  cases ho : s.openId with
  | none =>
    rw [ho] at hid
    exact absurd hid (Session.created_iff.1 hs)
  | some ssid =>
    rw [ho] at hid
    rw [hid, Option.getD_some]

/-- **One packet is one move.** -/
theorem moves_step {s : Desk β} (h : Agrees s) (q : Request) :
    Moves env s.openId ⟨q, response env q s.collector⟩ (step env s q).openId := by
  show Moves env s.openId _ (openAfter s.openId (tp env q) (response env q s.collector))
  rcases hf : q.failure with _ | _
  · cases ht : tp env q with
    | tpBeginSession =>
      have hr : ∀ r, ¬Resets env ⟨q, r⟩ := fun r hres => by cases ht.symm.trans hres.1
      rcases hs : s.collector.session.created with _ | _
      · rw [openId_of_not_created h hs, response, hf,
          TxtCollector.serve_begin_closed env q.draw _ ht rfl hs]
        exact .begins ⟨ht, rfl⟩
      · rw [← ht, response, hf, TxtCollector.serve_begin_open env q.draw _ ht rfl hs]
        exact moves_of_refused (n := -1) env rfl (by decide) (hr _)
    | tpEndSession =>
      have hr : ∀ r, ¬Resets env ⟨q, r⟩ := fun r hres => by cases ht.symm.trans hres.1
      rcases hs : s.collector.session.created with _ | _
      · rw [← ht, response, hf, TxtCollector.serve_end_closed env q.draw _ ht rfl hs]
        exact moves_of_refused (n := -4) env rfl (by decide) (hr _)
      · rcases hm : s.collector.session.matches' q.packet.session with _ | _
        · rw [← ht, response, hf, TxtCollector.serve_end_mismatch env q.draw _ ht rfl hs hm]
          exact moves_of_refused (n := -2) env rfl (by decide) (hr _)
        · rw [openId_of_created h hs, response, hf,
            TxtCollector.serve_end_match env q.draw _ ht rfl hs hm]
          exact .ends ⟨ht, rfl⟩ hm
    | tpReset =>
      rw [response, hf, TxtCollector.serve_reset env q.draw _ ht rfl]
      exact .resets ⟨ht, hf⟩
    | tpExecut | tpStatus | notTyped | tpDeadEnd =>
      have hopen : openAfter s.openId (tp env q) (response env q s.collector) = s.openId := by
        rw [ht]
        exact ite_self _
      rw [← ht, hopen]
      exact moves_of_tp env (by simp [ht]) (by simp [ht]) (by simp [ht])
  · exact moves_of_refused env (response_retCode_of_failure env s q hf) (by decide)
      fun hres => by cases hf.symm.trans hres.2

/-- **A run is a chain.** -/
theorem chain_exchanges {s : Desk β} (h : Agrees s) (qs : List Request) :
    Chain env s.openId (exchanges env s.collector qs) (run (step env) s qs).openId := by
  induction qs generalizing s with
  | nil => exact .nil
  | cons q qs ih => exact .cons (moves_step env h q) (ih (agrees_step env s q h))

/-- A packet that is no business of the session. -/
def Quiet (q : Request) : Prop :=
  tp env q = .tpStatus ∨ tp env q = .tpExecut ∨ q.failure = true

theorem collect_session_of_quiet {q : Request} (h : Quiet env q) (c : TxtCollector β) :
    (collect env q c).session = c.session := by
  show (TxtCollector.serve env q.draw q.failure q.packet c.session c.broker).session = c.session
  rcases hf : q.failure with _ | _
  · rcases h with ht | ht | hq
    · obtain ⟨r, -, hr⟩ := TxtCollector.serve_status env q.draw c.broker ht c.session rfl
      rw [hr]
    · rw [TxtCollector.serve_execut env q.draw c.broker ht rfl]
    · cases hf.symm.trans hq
  · rw [TxtCollector.serve_failure]

end Collector

/-! ## The law -/

/-- What the requests and responses of a run say about sessions. -/
structure OneAtATime (env : Env β) (es : List Exchange) : Prop where
  /-- Between two openings there is a closing. -/
  between : ∀ pre a mid b post, es = pre ++ a :: (mid ++ b :: post) → Begins env a →
    Begins env b → ∃ e ∈ mid, Closes env e
  /-- A session ended is the one opened last, under the identifier handed out then. -/
  own : ∀ pre b post, es = pre ++ b :: post → Ends env b →
    ∃ pre' a mid, pre = pre' ++ a :: mid ∧ Begins env a ∧
      (∀ e ∈ mid, ¬Begins env e ∧ ¬Closes env e) ∧
      Str.upperString (Str.trim b.request.packet.session) =
        Str.upperString (Str.trim a.response.session)

theorem Chain.oneAtATime {env : Env β} {es : List Exchange} {o : Option Str}
    (h : Chain env none es o) : OneAtATime env es := by
  refine ⟨?_, ?_⟩
  · rintro pre a mid b post rfl ha hb
    obtain ⟨o₁, -, h₁⟩ := h.of_append
    obtain ⟨o₂, hma, h₂⟩ := h₁.of_cons
    obtain ⟨o₃, hmid, h₃⟩ := h₂.of_append
    obtain ⟨o₄, hmb, -⟩ := h₃.of_cons
    obtain ⟨-, rfl⟩ := hma.of_begins ha
    obtain ⟨rfl, -⟩ := hmb.of_begins hb
    exact hmid.exists_closes
  · rintro pre b post rfl hb
    obtain ⟨o₁, hpre, h₁⟩ := h.of_append
    obtain ⟨o₂, hmb, -⟩ := h₁.of_cons
    obtain ⟨ssid, rfl, hm⟩ := hmb.of_ends hb
    obtain ⟨pre', a, mid, rfl, ha, rfl, hmid⟩ := hpre.exists_begins
    exact ⟨pre', a, mid, rfl, ha, hmid, Str.strIequals_iff.1 hm⟩

/-- **One session at a time**, in every run of a collector that starts; and a packet that is no
business of the session leaves it alone in every state. -/
theorem one_session_at_a_time (env : Env β) (broker : β) (qs : List Request) :
    OneAtATime env (exchanges env { broker } qs) ∧
      ∀ (c : TxtCollector β) (q : Request), Quiet env q →
        (collect env q c).session = c.session :=
  ⟨(chain_exchanges env (agrees_start broker) qs).oneAtATime,
    fun c _ hq => collect_session_of_quiet env hq c⟩

end Desk

end Spooler
