import Spooler.Queue.Documents
import Spooler.Queue.Replies

/-!
# Documents, from the command file to the response file

The parts of the spooler around one work directory: the service with its writer, the broker behind
it and the driver of the CV0909 behind the broker. What the writer writes is what `callback` has
answered (`responses_run`), and the calls are those of a service without a writer. **So the response
file of a command for a document tells what the device made of it** (`documents_answered`).
-/

namespace Spooler

open Foundations Serializer

namespace Writing

variable {β : Type}

section Written

variable {env : Env β} {cmdPrefix : Str} {p : Writing β}

open Service (Goes)

/-- Removing a command file writes no response. -/
theorem contained_removeFile (env : Env β) (name : Str) (res : TxtReader.ReadResult)
    (l : List (Str × ResponsePacket)) :
    Contained (fun c : TxtCollector β => c.written = l) (fun _ => True)
      (TxtCollector.removeFile env name res) := by
  have hunlink : Contained (fun c : TxtCollector β => c.written = l) (fun _ => True)
      (TxtCollector.sysUnlink name) :=
    contained_of_state fun c hc => by
      simp only [TxtCollector.sysUnlink, exec_bind, exec_get]
      split <;> exact hc
  have hmodify : ∀ f : TxtCollector β → TxtCollector β, (∀ c, (f c).written = c.written) →
      Contained (fun c : TxtCollector β => c.written = l) (fun _ : Excp => True) (modify f) :=
    fun f hf => contained_modify fun c hc => (hf c).trans hc
  have hrest : Contained (fun c : TxtCollector β => c.written = l) (fun _ => True)
      (TxtCollector.sysUnlink name >>= fun _ =>
        modify fun c => { c with cmdfile := env.workDir ++ name }) :=
    contained_bind hunlink fun _ => hmodify _ fun _ => rfl
  unfold TxtCollector.removeFile
  refine contained_tryCatch ?_ fun e _ => contained_ite (hmodify _ fun _ => rfl)
    (contained_bind hunlink fun _ => contained_bind (hmodify _ fun _ => rfl) fun _ =>
      contained_ite (hmodify _ fun _ => rfl) (contained_pure _))
  cases res.excp with
  | none => exact hrest
  | some e => exact contained_bind (contained_throw trivial) fun _ => hrest

/-- Only serving writes a response. -/
theorem written_of_goes {s t : Service β} {a : Move} (hg : Goes env s a t)
    (hs : ∀ draw name, a = .advance draw → s.place ≠ .serving name) :
    t.collector.written = s.collector.written := by
  cases hg with
  | serve hp => exact absurd hp (hs _ _ rfl)
  | remove hp =>
    rename_i draw name res
    have hkept := (contained_removeFile env name res s.collector.written).keeps rfl
    unfold Service.remove
    rcases hx : exec (TxtCollector.removeFile env name res) s.collector with ⟨⟨e⟩ | ⟨u⟩, c⟩ <;>
      rw [hx] at hkept
    · exact hkept
    · exact hkept
  | _ => rfl

/-- Serving hands the writer what `callback` answers. -/
theorem written_serve (env : Env β) (draw : Draw) (o : Outcomes)
    (hm : p.service.collector.mute = false) (name : Str) :
    (p.serve env draw o name).service.collector.written = p.service.collector.written ++
      [(p.service.collector.cmdfile, response env draw p.service.collector)] := by
  have hserve : (p.service.serve env draw name).collector.written = _ :=
    Service.written_serve env draw hm
  refine Eq.trans ?_ hserve
  simp only [serve, hm, Bool.false_eq_true, if_false]
  rcases (written env draw o p.service.collector).1 with e | u <;> rfl

theorem responses_step (h : Parted env cmdPrefix p.service)
    (hr : p.replies.map Reply.response = p.service.collector.written.map Prod.snd) (d : Deed) :
    (step env p d).replies.map Reply.response =
      (step env p d).service.collector.written.map Prod.snd := by
  unfold step
  cases hnext : next env p d with
  | none => exact hr
  | some q =>
    cases does_of_next hnext with
    | move hg hs ha =>
      rw [Option.getD_some, written_of_goes hg hs]
      exact hr
    | serve hd hp =>
      rename_i draw o name
      rw [Option.getD_some, (serve_spec env draw o h.audible hd name).1,
        written_serve env draw o h.audible, List.map_append, List.map_append, hr]
      rfl

end Written

section Runs

variable (env : Env β) (broker : β) {cmdPrefix : Str} {disk : List (Str × Str)}
  (hplain : ∀ f ∈ disk, '/' ∉ f.1) (hapart : Apart env.workDir cmdPrefix) {deeds : List Deed}
  (hdeeds : ∀ d ∈ deeds, Decent d)

include hplain hapart hdeeds

/-- **The writer writes what `callback` has answered.** -/
theorem responses_run :
    (run (step env) (start broker cmdPrefix disk) deeds).replies.map Reply.response =
      (run (step env) (start broker cmdPrefix disk)
        deeds).service.collector.written.map Prod.snd := by
  refine (run_preserves_of_allSteps (I := fun (p : Writing β) => Parted env cmdPrefix p.service ∧
    p.replies.map Reply.response = p.service.collector.written.map Prod.snd)
    (C := fun _ d => Decent d) ?_ ⟨parted_start env broker hplain, rfl⟩
    ((allSteps_const _ _ _ _).2 hdeeds) _ (run_mem_visited _ _ _)).2
  rintro p d ⟨h, hr⟩ hd
  exact ⟨(commands_step hapart h hd).1, responses_step h hr d⟩

/-- The service with its writer mirrors a desk too. -/
theorem mirrors_commands :
    ∃ qs, Service.Mirrors env
        (commands (run (step env) (start broker cmdPrefix disk) deeds).service)
        (run (Desk.step env) (Desk.start broker) qs) ∧
      qs.map (fun q => (q.packet, q.failure)) =
        (run (step env) (start broker cmdPrefix disk) deeds).service.calls.map Prod.snd := by
  have hrun := (parted_run env broker hplain hapart hdeeds).2
  rw [commands_start] at hrun
  refine ⟨_, hrun ▸ Service.mirrors_run env broker cmdPrefix _ _, ?_⟩
  have hcalls := Service.requests_eq_calls env broker cmdPrefix
    (disk.filter fun f => cmdPrefix.isPrefixOf f.1)
    (outputs (step env) (meaning env) (start broker cmdPrefix disk) deeds)
  rw [← hrun] at hcalls
  exact hcalls

end Runs

open EcfBroker

/-- **From the command file to the response file**: with clients that deliver command files only,
each name once, and send commands about documents, with amounts that fit the driver's buffer, every
call for an execute packet has the reply at its place, whose response tells what the device made of
the packet in the state that the earlier ones left behind; and where its file operations all
succeeded it is in its file at the end of the run. -/
theorem documents_answered {F δ : Type} (n : Numeric F) (dll : Dll δ)
    (resto : Ecf Excp.DoDriver F (Maquina F δ)) (pid : Nat) (indeterminate : PacketType)
    (m : Maquina F δ) {workDir cmdPrefix : Str} {disk : List (Str × Str)}
    (hdir : workDir.getLast? = some '/') (hno : ¬ cmdName <:+: workDir)
    (hpre : cmdName <:+: cmdPrefix) (hdisk : (disk.map Prod.fst).Nodup)
    (hplain : ∀ f ∈ disk, '/' ∉ f.1) {deeds : List Deed}
    (hdeeds : ∀ d ∈ deeds, Courteous cmdPrefix d)
    (hfresh : AllSteps (step ((cv0909 n dll resto pid).env workDir indeterminate)) Fresh
      (start m cmdPrefix disk) deeds)
    (hdoc : ∀ call ∈ (run (step ((cv0909 n dll resto pid).env workDir indeterminate))
      (start m cmdPrefix disk) deeds).service.calls,
      executes indeterminate call.2.1 call.2.2 = true →
        AboutDocument n call.2.1 ∧ AmountFits n call.2.1) :
    let env := (cv0909 n dll resto pid).env workDir indeterminate
    let p := run (step env) (start m cmdPrefix disk) deeds
    ∀ pre call post, p.service.calls = pre ++ call :: post →
      executes indeterminate call.2.1 call.2.2 = true →
      ∃ before r after, p.replies = before ++ r :: after ∧ before.length = pre.length ∧
        r.name = call.1 ∧
        Tells n dll (run (Op.passo n dll) m (operations n indeterminate (pre.map Prod.snd)))
          call.2.1 r.response ∧
        (r.outcomes.Fine (TxtWriter.writePacket indeterminate r.response) →
          (∀ r' ∈ p.replies, NoClash r r') → Kept env p r) := by
  intro env p pre call post hsplit hx
  have hapart : Apart workDir cmdPrefix := apart_of_contains hdir hno hpre
  have hdecent : ∀ d ∈ deeds, Decent d := fun d hd => (hdeeds d hd).decent
  have hkeeping : Keeping env cmdPrefix p :=
    keeping_run env m hdir hno hpre hdisk hplain hdeeds hfresh
  obtain ⟨qs, hmirrors, hcalls⟩ := mirrors_commands env m hplain hapart hdecent
  obtain ⟨before, r, after, hw, hlen, htells⟩ :=
    (Service.tells_of_mirrors hmirrors hcalls hdoc).2 pre call post hsplit hx
  -- the replies are the responses written, under the names of the calls
  have hresponses : p.replies.map Reply.response = p.service.collector.written.map Prod.snd :=
    responses_run env m hplain hapart hdecent
  have hwritten : p.service.collector.written = before ++ (workDir ++ call.1, r) :: after := hw
  rw [hwritten, List.map_append, List.map_cons] at hresponses
  obtain ⟨first, rest, hreplies, hfirst, hrest⟩ := List.map_eq_append_iff.1 hresponses
  obtain ⟨reply, last, rfl, hreply, -⟩ := List.map_eq_cons_iff.1 hrest
  have hfirstlen : first.length = pre.length := by
    have hlength := congrArg List.length hfirst
    rw [List.length_map, List.length_map] at hlength
    exact hlength.trans hlen
  have hnames := hkeeping.names
  rw [hreplies, hsplit, List.map_append, List.map_append] at hnames
  have hname := (List.append_inj hnames (by rw [List.length_map, List.length_map, hfirstlen])).2
  rw [List.map_cons, List.map_cons] at hname
  refine ⟨first, reply, last, hreplies, hfirstlen, (List.cons.inj hname).1, ?_, ?_⟩
  · rw [hreply]
    exact htells
  · exact hkeeping.kept reply (hreplies ▸ List.mem_append_right _ List.mem_cons_self)

/-- A coupon is cancelled and a payment without parameters refused; the disk is full when the second
response is copied. -/
theorem documents_answered_two :
    let n := Numeric.inteiros
    let env := (cv0909 n Caixa.aceitaTudo default 1).env "/ecf/".toList .notTyped
    let file (cmd : String) : Str := unlines ["<ecf_sgi_begin>".toList,
      "ecf_execute_request".toList, "session_id:7".toList, ("command_id:" ++ cmd).toList,
      "<ecf_sgi_end>".toList]
    let draw : Draw := { valor := 0, strfry := id, strfry_perm := List.Perm.refl }
    let go : Deed := .move (.advance draw)
    let deeds := [go, go, go, .move (.directoryScan ["arqcmd.1".toList, "arqcmd.2".toList]), go,
      go, go, go, go, go, .serve draw semFalhas, go, go, go, go, go, go, go,
      .serve draw discoCheio]
    let disk := [("arqcmd.1".toList, file "snd_cancela_cupom"),
      ("arqcmd.2".toList, file "snd_pagamento")]
    let m : Maquina Int Unit := { drv := {}, dev := () }
    let p := run (step env) (start m "arqcmd".toList disk) deeds
    p.replies.map (fun r => r.response.retCode) = [0, 1] ∧
      ∀ pre call post, p.service.calls = pre ++ call :: post →
        executes .notTyped call.2.1 call.2.2 = true →
        ∃ before r after, p.replies = before ++ r :: after ∧ before.length = pre.length ∧
          r.name = call.1 ∧
          Tells n Caixa.aceitaTudo
            (run (Op.passo n Caixa.aceitaTudo) m (operations n .notTyped (pre.map Prod.snd)))
            call.2.1 r.response ∧
          (r.outcomes.Fine (TxtWriter.writePacket .notTyped r.response) →
            (∀ r' ∈ p.replies, NoClash r r') → Kept env p r) :=
  ⟨by decide, documents_answered _ _ _ _ _ _ (by decide) (by decide) (by decide) (by decide)
    (by decide) (by simp [Courteous]) (by decide) (by decide)⟩

end Writing

end Spooler
