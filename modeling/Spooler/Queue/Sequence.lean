import Spooler.Queue.Steps
import Spooler.Collector.Exchanges
import Spooler.Foundations.Simulation

/-!
# The service serves like a desk

Clients, stop requests and the process interleave freely; the commands are served one after the
other all the same. A run of the service hands requests to `callback` (`request`), and **the
responses it writes, the session and the broker are those of the desk of
`Spooler.Collector.Sessions` that is handed these requests in the order of the calls**, each
response under the path of the command file it answers (`served_in_sequence`). What the desk is
known to keep the service keeps: one session at a time (`sessions_in_sequence`).
-/

namespace Spooler.Service

open Foundations

variable {β : Type}

/-- The request a step hands to `callback`. -/
def request (s : Service β) : Move → List Request
  | .advance draw =>
    match s.place with
    | .serving _ => [{ packet := s.collector.packet, failure := s.collector.failure, draw := draw }]
    | _ => []
  | _ => []

/-- The service has done what the desk has done. -/
structure Mirrors (env : Env β) (s : Service β) (d : Desk β) : Prop where
  known : Known s
  session : s.collector.session = d.collector.session
  broker : s.collector.broker = d.collector.broker
  traded : s.collector.traded = d.collector.traded
  responses : s.collector.written.map Prod.snd = d.collector.written.map Prod.snd
  files : s.collector.written.map Prod.fst = s.calls.map fun call => env.workDir ++ call.1
  audible : s.collector.mute = false
  cmdfile : ∀ name, s.place = .serving name → s.collector.cmdfile = env.workDir ++ name

section Step

variable {env : Env β} {s t : Service β} {d : Desk β}

theorem request_of_ne {a : Move} (h : ∀ name, s.place ≠ .serving name) : request s a = [] := by
  cases a with
  | advance draw =>
    unfold request
    cases hp : s.place with
    | serving name => exact absurd hp (h name)
    | _ => rfl
  | _ => rfl

/-- A step that leaves the collector to itself. -/
theorem Mirrors.of_collector (h : Mirrors env s d) (hl : Known t)
    (hc : t.collector = s.collector) (hcalls : t.calls = s.calls)
    (hp : ∀ name, t.place = .serving name → s.place = .serving name) : Mirrors env t d where
  known := hl
  session := hc ▸ h.session
  broker := hc ▸ h.broker
  traded := hc ▸ h.traded
  responses := hc ▸ h.responses
  files := by rw [hc, hcalls, h.files]
  audible := hc ▸ h.audible
  cmdfile := fun name hn => hc ▸ h.cmdfile name (hp name hn)

/-- What serving a file writes. -/
theorem written_serve (env : Env β) (draw : Draw) (hm : s.collector.mute = false) {name : Str} :
    (s.serve env draw name).collector.written = s.collector.written ++ [(s.collector.cmdfile,
      (TxtCollector.serve env draw s.collector.failure s.collector.packet s.collector.session
        s.collector.broker).response)] := by
  show (if !s.collector.mute then _ else _) = _
  rw [hm]
  rfl

/-- **Serving a file is one step of the desk.** -/
theorem mirrors_serve (h : Mirrors env s d) {name : Str} (hp : s.place = .serving name)
    (draw : Draw) (hl : Known (s.serve env draw name)) :
    Mirrors env (s.serve env draw name) (Desk.step env d
      { packet := s.collector.packet, failure := s.collector.failure, draw := draw }) where
  known := hl
  session := by
    show (TxtCollector.serve env draw _ _ s.collector.session s.collector.broker).session = _
    rw [h.session, h.broker]
    rfl
  broker := by
    show (TxtCollector.serve env draw _ _ s.collector.session s.collector.broker).broker = _
    rw [h.session, h.broker]
    rfl
  traded := by
    show s.collector.traded ++
      (TxtCollector.serve env draw _ _ s.collector.session s.collector.broker).traded = _
    rw [h.session, h.broker, h.traded]
    rfl
  responses := by
    rw [written_serve env draw h.audible, List.map_append, h.responses, h.session, h.broker]
    show _ = (d.collector.written ++ [_]).map Prod.snd
    rw [List.map_append]
    rfl
  files := by
    rw [written_serve env draw h.audible, List.map_append, h.files, h.cmdfile name hp]
    show _ = (s.calls ++ [(name, s.collector.packet, s.collector.failure)]).map _
    rw [List.map_append]
    rfl
  audible := h.audible
  cmdfile := fun name' hp' => by cases hp'

theorem mirrors_goes (h : Mirrors env s d) {a : Move} (hg : Goes env s a t) (hl : Known t) :
    Mirrors env t (run (Desk.step env) d (request s a)) := by
  cases hg with
  | serve hp =>
    simp only [request, hp]
    exact mirrors_serve h hp _ hl
  | remove hp =>
    rw [request_of_ne (by simp [hp])]
    rename_i name res
    obtain ⟨data, rfl⟩ := h.known.read name res hp
    cases hd : s.collector.disk.lookup name with
    | none =>
      rw [remove_missing data hd] at hl ⊢
      exact h.of_collector hl rfl rfl fun _ hp' => by cases hp'
    | some data' =>
      rw [remove_eq data hd] at hl ⊢
      exact {
        known := hl
        session := h.session
        broker := h.broker
        traded := h.traded
        responses := h.responses
        files := h.files
        audible := h.audible
        cmdfile := fun name' hp' => by
          cases hp'
          rfl }
  | read hp =>
    rw [request_of_ne (by simp [hp])]
    exact {
      known := hl
      session := h.session
      broker := h.broker
      traded := h.traded
      responses := h.responses
      files := h.files
      audible := rfl
      cmdfile := fun name' hp' => by cases hp' }
  | deliver =>
    exact { h with known := hl }
  | toFalse => exact h.of_collector hl rfl rfl fun _ hp => hp
  | interrupt hp | kernelScan hp | directoryScan hp | enter hp | switch hp | none hp | stopped hp
  | loop hp | finish hp | test hp | halt hp | found hp | watch hp | nameless hp | take hp
  | recheck hp | stop hp =>
    rw [request_of_ne (by simp [hp])]
    exact h.of_collector hl rfl rfl fun _ hp' => by cases hp'
  | fail hp =>
    rw [request_of_ne (by rcases hp with hp | hp <;> simp [hp])]
    exact h.of_collector hl rfl rfl fun _ hp' => by cases hp'

/-- A step that is not enabled has nothing to hand over. -/
theorem request_of_next_none {a : Move} (h : next env s a = none) : request s a = [] := by
  cases a with
  | advance draw =>
    refine request_of_ne fun name hp => ?_
    simp only [next, advance, hp] at h
    cases h
  | _ => rfl

/-- **Every step is followed by the desk**, which is handed a request when `callback` is. -/
theorem mirrors_step (h : Mirrors env s d) (a : Move) :
    Mirrors env (step env s a) (run (Desk.step env) d (request s a)) := by
  have hl : Known (step env s a) := known_step h.known a
  unfold step at hl ⊢
  cases hn : next env s a with
  | none =>
    rw [request_of_next_none hn]
    exact h
  | some t =>
    rw [hn] at hl
    exact mirrors_goes h (goes_of_next hn) hl

end Step

section Run

variable {env : Env β} {s t : Service β}

theorem calls_goes {a : Move} (hg : Goes env s a t) :
    t.calls.map Prod.snd =
      s.calls.map Prod.snd ++ (request s a).map fun q => (q.packet, q.failure) := by
  cases hg with
  | serve hp => simp [request, hp, serve]
  | remove hp =>
    rw [request_of_ne (by simp [hp]), List.map_nil, List.append_nil, remove]
    rcases exec (TxtCollector.removeFile env _ _) s.collector with ⟨⟨e⟩ | ⟨u⟩, c⟩ <;> rfl
  | deliver | toFalse => exact (List.append_nil _).symm
  | interrupt hp | kernelScan hp | directoryScan hp | enter hp | switch hp | none hp | stopped hp
  | loop hp | finish hp | test hp | halt hp | found hp | watch hp | nameless hp | take hp
  | recheck hp | stop hp | read hp =>
    rw [request_of_ne (by simp [hp])]
    exact (List.append_nil _).symm
  | fail hp =>
    rw [request_of_ne (by rcases hp with hp | hp <;> simp [hp])]
    exact (List.append_nil _).symm

theorem calls_step (a : Move) : (step env s a).calls.map Prod.snd =
    s.calls.map Prod.snd ++ (request s a).map fun q => (q.packet, q.failure) := by
  unfold step
  cases hn : next env s a with
  | none => rw [request_of_next_none hn, List.map_nil, List.append_nil, Option.getD_none]
  | some t => exact calls_goes (goes_of_next hn)

theorem mirrors_start (env : Env β) (broker : β) (cmdPrefix : Str) (disk : List (Str × Str)) :
    Mirrors env (start broker cmdPrefix disk) (Desk.start broker) where
  known := known_start broker cmdPrefix disk
  session := rfl
  broker := rfl
  traded := rfl
  responses := rfl
  files := rfl
  audible := rfl
  cmdfile := fun _ hp => by cases hp

variable (env) in
/-- What the desk writes is what it answers. -/
theorem responses_exchanges (d : Desk β) (qs : List Request) :
    (run (Desk.step env) d qs).collector.written.map Prod.snd =
      d.collector.written.map Prod.snd ++
        (Desk.exchanges env d.collector qs).map Desk.Exchange.response := by
  induction qs generalizing d with
  | nil => exact (List.append_nil _).symm
  | cons q qs ih =>
    have hq : (Desk.step env d q).collector.written.map Prod.snd =
        d.collector.written.map Prod.snd ++ [Desk.response env q d.collector] :=
      List.map_append
    rw [run_cons, ih, hq, List.append_assoc]
    rfl

variable (env) in
theorem exchanges_request (c : TxtCollector β) (qs : List Request) :
    (Desk.exchanges env c qs).map Desk.Exchange.request = qs := by
  induction qs generalizing c with
  | nil => rfl
  | cons q qs ih => rw [Desk.exchanges, List.map_cons, ih]

variable (env) (broker : β) (cmdPrefix : Str) (disk : List (Str × Str)) (moves : List Move)

/-- The requests of a run. -/
def requests : List Request := outputs (step env) request (start broker cmdPrefix disk) moves

theorem mirrors_run :
    Mirrors env (run (step env) (start broker cmdPrefix disk) moves)
      (run (Desk.step env) (Desk.start broker) (requests env broker cmdPrefix disk moves)) :=
  run_simulates (R := Mirrors env) (C := fun _ => True) (fun _ _ a _ h => mirrors_step h a)
    (mirrors_start env broker cmdPrefix disk) fun _ _ => trivial

/-- The requests are the calls. -/
theorem requests_eq_calls :
    (requests env broker cmdPrefix disk moves).map (fun q => (q.packet, q.failure)) =
      (run (step env) (start broker cmdPrefix disk) moves).calls.map Prod.snd := by
  refine run_records
    (R := fun (s : Service β) (qs : List Request) =>
      qs.map (fun q => (q.packet, q.failure)) = s.calls.map Prod.snd)
    (fun s qs a h => ?_) rfl moves
  rw [List.map_append, h, calls_step]

end Run

/-- **The service serves like a desk**: in every run, however clients, stop requests and the process
interleave, the session, the broker and the packets handed to it are those of the desk that is
handed the packets of the calls in their order, and so are the responses, each written under the
path of the command file of its call. -/
theorem served_in_sequence (env : Env β) (broker : β) (cmdPrefix : Str)
    (disk : List (Str × Str)) (moves : List Move) :
    let s := run (step env) (start broker cmdPrefix disk) moves
    let qs := requests env broker cmdPrefix disk moves
    let d := run (Desk.step env) (Desk.start broker) qs
    qs.map (fun q => (q.packet, q.failure)) = s.calls.map Prod.snd ∧
      s.collector.session = d.collector.session ∧
      s.collector.broker = d.collector.broker ∧
      s.collector.traded = d.collector.traded ∧
      s.collector.written = List.zip (s.calls.map fun call => env.workDir ++ call.1)
        ((Desk.exchanges env { broker } qs).map Desk.Exchange.response) := by
  intro s qs d
  have h : Mirrors env s d := mirrors_run env broker cmdPrefix disk moves
  refine ⟨requests_eq_calls env broker cmdPrefix disk moves, h.session, h.broker, h.traded, ?_⟩
  have hr : s.collector.written.map Prod.snd =
      (Desk.exchanges env { broker } qs).map Desk.Exchange.response := by
    rw [h.responses, responses_exchanges]
    rfl
  exact List.zip_of_prod h.files hr

/-- A session is opened; the request that closes it comes while the first one is being read, and is
answered second. -/
theorem served_in_sequence_two :
    let env : Env Unit :=
      { workDir := "/ecf/".toList, trade := fun _ pkt b => (pkt, b), indeterminate := .notTyped }
    let file (tag : String) : Str :=
      unlines ["<ecf_sgi_begin>".toList, tag.toList, "<ecf_sgi_end>".toList]
    let go : Move := .advance { valor := 0, strfry := id, strfry_perm := List.Perm.refl }
    let moves : List Move := [go, go, go, .directoryScan ["arqcmd.1".toList], go, go, go, go, go,
      .deliver "arqcmd.2".toList (file "ecf_reset_request"), go, go, go, go,
      .directoryScan ["arqcmd.2".toList], go, go, go, go, go, go, go]
    let disk := [("arqcmd.1".toList, file "ecf_begin_session_request")]
    let s := run (step env) (start () "arqcmd".toList disk) moves
    s.collector.session.created = false ∧
      s.collector.written = List.zip ["/ecf/arqcmd.1".toList, "/ecf/arqcmd.2".toList]
        ((Desk.exchanges env { broker := () }
          (requests env () "arqcmd".toList disk moves)).map Desk.Exchange.response) :=
  ⟨by decide, (served_in_sequence _ () _ _ _).2.2.2.2⟩

/-- **One session at a time across all interleavings**: the calls of a run and the responses it
writes are the two sides of a list of exchanges that keeps the law of sessions. -/
theorem sessions_in_sequence (env : Env β) (broker : β) (cmdPrefix : Str)
    (disk : List (Str × Str)) (moves : List Move) :
    let s := run (step env) (start broker cmdPrefix disk) moves
    ∃ es : List Desk.Exchange, Desk.OneAtATime env es ∧
      es.map (fun e => (e.request.packet, e.request.failure)) = s.calls.map Prod.snd ∧
      es.map Desk.Exchange.response = s.collector.written.map Prod.snd := by
  intro s
  set qs := requests env broker cmdPrefix disk moves with hqs
  have h : Mirrors env s (run (Desk.step env) (Desk.start broker) qs) :=
    mirrors_run env broker cmdPrefix disk moves
  refine ⟨Desk.exchanges env { broker } qs, ?_, ?_, ?_⟩
  · exact (Desk.chain_exchanges env (Desk.agrees_start broker) qs).oneAtATime
  · rw [← requests_eq_calls, ← hqs]
    conv_rhs => rw [← exchanges_request env { broker } qs]
    rw [List.map_map]
    rfl
  · rw [h.responses, responses_exchanges]
    rfl

/-- Two clients ask for a session, the second one while the first is being served; one gets it. -/
theorem sessions_in_sequence_two :
    let env : Env Unit :=
      { workDir := "/ecf/".toList, trade := fun _ pkt b => (pkt, b), indeterminate := .notTyped }
    let file : Str := unlines ["<ecf_sgi_begin>".toList, "ecf_begin_session_request".toList,
      "<ecf_sgi_end>".toList]
    let go : Move := .advance { valor := 0, strfry := id, strfry_perm := List.Perm.refl }
    let moves : List Move := [go, go, go, .directoryScan ["arqcmd.1".toList], go, go, go, go, go,
      .deliver "arqcmd.2".toList file, go, go, go, go, .directoryScan ["arqcmd.2".toList], go, go,
      go, go, go, go, go]
    let s := run (step env) (start () "arqcmd".toList [("arqcmd.1".toList, file)]) moves
    s.collector.written.map (fun w => w.2.retCode) = [0, -1] ∧
      ∃ es : List Desk.Exchange, Desk.OneAtATime env es ∧
        es.map (fun e => (e.request.packet, e.request.failure)) = s.calls.map Prod.snd ∧
        es.map Desk.Exchange.response = s.collector.written.map Prod.snd :=
  ⟨by decide, sessions_in_sequence _ () _ _ _⟩

end Spooler.Service
