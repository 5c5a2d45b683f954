import Spooler.Reader.Language
import Spooler.Collector.TxtCollector

/-!
# What `accept` does with a file

`accept` on a file of the work directory and on a name without a file, as two equations
(`exec_accept_found`, `exec_accept_missing`), and its main consequence:
**`accept_servesOnlyComplete_iff`**: a file without a complete packet is handled as a failed packet
exactly when a line in front of its last one spoils it. The remaining files are cut off, or
malformed in their last line: there the loop of `read_packet` ends with the stream, or the handler
in `accept` drops the exception, and what was read of the packet is served.
-/

namespace Spooler.TxtCollector

open Foundations TxtReader

variable {β : Type} {env : Env β} {draw : Draw} {c : TxtCollector β} {name data : Str}

/-- A client puts a file into the work directory, in the place of one of the same name. -/
def deliver (name data : Str) (c : TxtCollector β) : TxtCollector β :=
  { c with disk := (c.disk.filter fun f => f.1 ≠ name) ++ [(name, data)] }

theorem lookup_deliver (name data : Str) (c : TxtCollector β) :
    (c.deliver name data).disk.lookup name = some data := by
  have hn : List.lookup name (c.disk.filter fun f => f.1 ≠ name) = none := by
    rw [List.lookup_eq_none_iff]
    intro f hf
    have hne : f.1 ≠ name := by simpa using (List.mem_filter.1 hf).2
    simpa using hne.symm
  rw [deliver, List.lookup_append, hn]
  simp

/-- What `callback` serves for a file with contents `data`. -/
def servedFor (env : Env β) (draw : Draw) (data : Str) (c : TxtCollector β) : Served β :=
  let res := readPacket (some data)
  serve env draw (res.excp.isSome && !res.eof) res.reader.pkt c.session c.broker

/-- The collector after `accept` has served the file `name` with contents `data`. -/
def afterAccept (env : Env β) (draw : Draw) (name data : Str) (c : TxtCollector β) :
    TxtCollector β :=
  let res := readPacket (some data)
  let served := servedFor env draw data c
  { failure := res.excp.isSome && !res.eof
    mute := false
    cmdfile := []
    packet := res.reader.pkt
    session := served.session
    broker := served.broker
    disk := c.disk.filter fun f => f.1 ≠ name
    written := c.written ++ [(env.workDir ++ name, served.response)]
    traded := c.traded ++ served.traded }

/-- **`accept` on a file that exists** returns normally. -/
theorem exec_accept_found (h : c.disk.lookup name = some data) :
    exec (accept env draw name) c = (.ok .running, afterAccept env draw name data c) := by
  have hnc : ∀ e, (readPacket (some data)).excp = some e → e.isA .cortarPapelExp = false :=
    fun e he => readLines_excp_not_cortar he
  simp only [accept, exec_bind, exec_tryCatch, exec_get, exec_set, h, afterAccept, servedFor]
  generalize readPacket (some data) = res at hnc ⊢
  rcases hx : res.excp with _ | e
  · simp only [sysUnlink, exec_bind, exec_pure, exec_get, exec_set, exec_modify, h,
      Option.isSome_some, if_true]
    rfl
  · simp only [sysUnlink, exec_bind, exec_throw, exec_pure, exec_get, exec_set, exec_modify, h,
      hnc e hx, Option.isSome_some, if_true, Bool.false_eq_true, if_false]
    rcases res.eof with _ | _ <;>
      simp only [Bool.not_true, Bool.not_false, if_true, Bool.false_eq_true, if_false, exec_pure,
        exec_modify] <;> rfl

/-- **`accept` on a name without a file**: `open` fails, the stream throws, and so does the
`unlink` of the handler. -/
theorem exec_accept_missing (h : c.disk.lookup name = none) :
    exec (accept env draw name) c = (.error missingFile,
      { c with failure := false, mute := false, packet := {} }) := by
  have hi : Excp.isA .cortarPapelExp .iosFailure = false := rfl
  simp only [accept, exec_bind, exec_tryCatch, exec_get, exec_set, h, readPacket, exec_throw,
    sysUnlink, hi, Bool.false_eq_true, if_false, Option.isSome_none]

/-! ## Complete packets and the others -/

/-- The text of the answer to a failed packet. -/
def msgFailedPacket : Str := "Erro ao processar pacote de comando.".toList

/-- The response given to a failed packet. -/
structure FailedResponse (session : Session) (r : ResponsePacket) : Prop where
  retCode : r.retCode = 1
  ssid : r.session = session.sessionId
  msg : r.contents = [("msg".toList, [msgFailedPacket])]

/-- From `c` to `c'`, the file at `path` was handled as a failed packet: that answer, no command
for the device and the session as it was. -/
structure HandledAsFailed (path : Str) (c c' : TxtCollector β) : Prop where
  response : ∃ r, c'.written = c.written ++ [(path, r)] ∧ FailedResponse c.session r
  traded : c'.traded = c.traded
  broker : c'.broker = c.broker
  session : c'.session = c.session

/-- `accept` returns; it calls `trade` or changes the session for a complete packet only, and
handles every other file as a failed packet. -/
def ServesOnlyComplete (env : Env β) (draw : Draw) (name data : Str) (c : TxtCollector β) : Prop :=
  ∃ code c', exec (accept env draw name) (c.deliver name data) = (.ok code, c') ∧
    (c'.traded ≠ c.traded ∨ c'.session ≠ c.session → Complete data) ∧
    (¬ Complete data → HandledAsFailed (env.workDir ++ name) c c')

theorem failedResponse_serve (pkt : RequestPacket) (session : Session) (b : β) :
    FailedResponse session (serve env draw true pkt session b).response := by
  rw [serve_failure]
  exact ⟨rfl, rfl, rfl⟩

private theorem msgInvalidType_ne (h : [("msg".toList, ["Tipo de pacote invalido!".toList])] =
    [("msg".toList, [msgFailedPacket])]) : False := by
  revert h
  decide

/-- Nothing that is served for a packet taken as good looks like the handling of a failed one. -/
theorem serve_ne_failed (pkt : RequestPacket) (session : Session) (b : β)
    (hr : FailedResponse session (serve env draw false pkt session b).response)
    (ht : (serve env draw false pkt session b).traded = []) :
    (serve env draw false pkt session b).session ≠ session := by
  cases h : pkt.type.getD env.indeterminate with
  | tpExecut =>
    rw [serve_execut env draw b h rfl] at ht
    cases ht
  | tpBeginSession =>
    rcases hs : session.created with _ | _
    · rw [serve_begin_closed env draw b h rfl hs]
      intro he
      have hc : (session.generate draw).created = true := Session.generate_created session draw
      have he' : session.generate draw = session := he
      rw [he', hs] at hc
      cases hc
    · rw [serve_begin_open env draw b h rfl hs] at hr
      exact absurd (show (-1 : Int) = 1 from hr.retCode) (by decide)
  | tpEndSession =>
    rcases hs : session.created with _ | _
    · rw [serve_end_closed env draw b h rfl hs] at hr
      exact absurd (show (-4 : Int) = 1 from hr.retCode) (by decide)
    · rcases hm : session.matches' pkt.session with _ | _
      · rw [serve_end_mismatch env draw b h rfl hs hm] at hr
        exact absurd (show (-2 : Int) = 1 from hr.retCode) (by decide)
      · rw [serve_end_match env draw b h rfl hs hm] at hr
        exact absurd (show (0 : Int) = 1 from hr.retCode) (by decide)
  | tpStatus =>
    obtain ⟨r, hcode, hs⟩ := serve_status env draw b h session rfl
    rw [hs] at hr
    have hone : r.retCode = 1 := hr.retCode
    omega
  | tpReset =>
    rw [serve_reset env draw b h rfl] at hr
    exact absurd (show (0 : Int) = 1 from hr.retCode) (by decide)
  | notTyped =>
    rw [serve_invalid env draw b h (.inl rfl)] at hr
    exact (msgInvalidType_ne hr.msg).elim
  | tpDeadEnd =>
    rw [serve_invalid env draw b h (.inr rfl)] at hr
    exact (msgInvalidType_ne hr.msg).elim

/-- **A file is handled as a failed packet exactly when the reading raised an exception before the
end of the file.** -/
theorem handledAsFailed_iff : HandledAsFailed (env.workDir ++ name) c
      (afterAccept env draw name data (c.deliver name data)) ↔
    ((readPacket (some data)).excp.isSome && !(readPacket (some data)).eof) = true := by
  simp only [afterAccept, servedFor]
  generalize readPacket (some data) = res
  rcases hf : (res.excp.isSome && !res.eof) with _ | _
  · refine ⟨?_, by simp⟩
    rintro ⟨⟨r, hw, hr⟩, ht, -, hs⟩
    have hresp : (serve env draw false res.reader.pkt c.session c.broker).response = r := by
      simpa [deliver] using hw
    have htr : (serve env draw false res.reader.pkt c.session c.broker).traded = [] := by
      simpa [deliver] using ht
    exact absurd hs (serve_ne_failed _ _ _ (hresp ▸ hr) htr)
  · refine ⟨fun _ => rfl, fun _ => ⟨⟨_, rfl, failedResponse_serve _ _ _⟩, ?_, rfl, rfl⟩⟩
    rw [serve_failure]
    exact List.append_nil _

/-- **When `accept` serves complete packets only**: the file holds a complete packet, or a line in
front of its last one can not stand where it does. -/
theorem accept_servesOnlyComplete_iff (env : Env β) (draw : Draw) (name data : Str)
    (c : TxtCollector β) :
    ServesOnlyComplete env draw name data c ↔ Complete data ∨ RefusedEarly data := by
  have hexec : exec (accept env draw name) (c.deliver name data) =
      (.ok .running, afterAccept env draw name data (c.deliver name data)) :=
    exec_accept_found (lookup_deliver name data c)
  by_cases hc : Complete data
  · refine ⟨fun _ => .inl hc, fun _ => ⟨_, _, hexec, fun _ => hc, fun hn => absurd hc hn⟩⟩
  · have hiff : HandledAsFailed (env.workDir ++ name) c
          (afterAccept env draw name data (c.deliver name data)) ↔ RefusedEarly data := by
      rw [handledAsFailed_iff, readPacket_of_not_complete hc]
    constructor
    · rintro ⟨code, c', he, -, hfail⟩
      rw [hexec] at he
      cases he
      exact .inr (hiff.1 (hfail hc))
    · rintro (h | h)
      · exact absurd h hc
      · have hf := hiff.2 h
        refine ⟨_, _, hexec, ?_, fun _ => hf⟩
        rintro (ht | hs)
        · exact absurd hf.traded ht
        · exact absurd hf.session hs

/-- A reset request cut off in front of its end tag closes the open session. -/
theorem truncated_reset_is_served :
    ¬ ServesOnlyComplete (β := Unit)
      { workDir := [], trade := fun _ pkt b => (pkt, b), indeterminate := .notTyped }
      { valor := 0, strfry := id, strfry_perm := List.Perm.refl }
      "arqcmd1".toList
      (unlines ["<ecf_sgi_begin>".toList, "ecf_reset_request".toList])
      { broker := (), session := { sessionId := "sgi_id_0".toList } } := by
  rintro ⟨code, c', he, h, -⟩
  rw [exec_accept_found (lookup_deliver _ _ _)] at he
  cases he
  have hc : ¬ Complete (unlines ["<ecf_sgi_begin>".toList, "ecf_reset_request".toList]) := by
    decide
  refine hc (h (.inr ?_))
  decide

end Spooler.TxtCollector
