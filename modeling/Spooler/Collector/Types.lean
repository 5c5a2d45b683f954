import Spooler.Reader.Contents
import Spooler.Collector.Accept

/-!
# The type of the packet served

Only the line behind the begin tag assigns a type (`readLines_type_iff`), and a reading can end in
front of it: at the end of the file, or with an exception that `accept` drops or turns into a failed
packet. `callback` asks for the type in all these cases.
**`typedByFile_iff`**: what it finds there comes from the file exactly when the file begins with a
begin tag and the line of a request type, `cortar_papel_ecf` lines aside.
-/

namespace Spooler

open Foundations

namespace TxtReader

/-- The line of a request type, in front of anything. -/
def RequestFirst (tp : PacketType) (ls : List Str) : Prop :=
  tp ∈ packetTypes ∧ ∃ rest, ls = requestTag tp :: rest

/-- The file begins with a begin tag and the line of a request type, `cortar_papel_ecf` lines
aside. -/
def BeginsRequest (data : Str) : Prop := ∃ tp, Begun (RequestFirst tp) (getlines data)

/-- The reader is past the line of the request type, which was `tp`. -/
structure Reader.Past (r : Reader) (tp : PacketType) : Prop where
  type : r.pkt.type = some tp
  begun : r.prcPhase ≠ .inIdle
  requested : r.prcPhase ≠ .inRequest

section Readings

variable {r t : Reader} {line : Str} {ls rest : List Str} {tp : PacketType}

/-- A pass behind the line of the request type keeps the type and stays behind that line. -/
theorem Pass.past (h : Pass r line t) (hr : r.Past tp) : t.Past tp := by
  obtain ⟨htp, hidle, hrequest⟩ := hr
  cases h with
  | cut hp => exact absurd hp hidle
  | start hp => exact absurd hp hidle
  | request hp => exact absurd hp hrequest
  | ssid hp => refine ⟨htp, ?_, ?_⟩ <;> simp only <;> split_ifs <;> simp
  | cmdid hp => exact ⟨htp, by simp, by simp⟩
  | param hp => exact ⟨htp, hidle, hrequest⟩
  | textOpen hp => exact ⟨htp, by simp, by simp⟩
  | textLine hp => exact ⟨htp, hidle, hrequest⟩
  | textClose hp => exact ⟨htp, by simp, by simp⟩
  | endTag hp => exact ⟨htp, by simp, by simp⟩
  | stop hp => exact ⟨htp, hidle, hrequest⟩

theorem past_requestTag (hp : r.prcPhase = .inRequest) (ht : tp ∈ packetTypes)
    (hs : step r (requestTag tp) = .ok t) : t.Past tp := by
  cases (step_requestTag hp ht).symm.trans hs
  refine ⟨rfl, ?_, ?_⟩ <;> simp only <;> split_ifs <;> simp

/-- Behind the line of the request type the type stays. -/
theorem type_readLines_past (h : r.WF) (hr : r.Past tp) :
    (readLines r ls).reader.pkt.type = some tp :=
  (readLines_keeps Pass.past h hr ls).type

/-- Behind the begin tag the type is that of the next line. -/
theorem type_readLines_inRequest (h : r.WF) (hp : r.prcPhase = .inRequest)
    (hn : r.pkt.type = none) :
    (readLines r ls).reader.pkt.type = some tp ↔ RequestFirst tp ls := by
  cases ls with
  | nil => simp [readLines, RequestFirst, hn]
  | cons line rest =>
    by_cases hr : ∃ tp ∈ packetTypes, line = requestTag tp
    · obtain ⟨tp', ht', rfl⟩ := hr
      have hstep := step_requestTag hp ht'
      have htype : (readLines r (requestTag tp' :: rest)).reader.pkt.type = some tp' := by
        rw [reader_readLines_ok hstep h.hasStop]
        exact type_readLines_past (derivatives_residual.keep h hstep h.hasStop)
          (past_requestTag hp ht' hstep)
      rw [htype]
      constructor
      · intro he
        cases he
        exact ⟨ht', rest, rfl⟩
      · rintro ⟨ht, rest', he⟩
        rw [requestTag_injective tp' ht' tp ht (List.cons.inj he).1]
    · rw [reader_readLines_error (step_notRequest h hp hr), hn]
      constructor
      · intro he
        cases he
      · rintro ⟨ht, rest', he⟩
        exact absurd ⟨tp, ht, (List.cons.inj he).1⟩ hr

/-- **A type is assigned by the line behind the begin tag, and by no other.** -/
theorem type_readLines_inIdle (h : r.WF) (hp : r.prcPhase = .inIdle) (hn : r.pkt.type = none) :
    (readLines r ls).reader.pkt.type = some tp ↔ Begun (RequestFirst tp) ls := by
  induction ls with
  | nil =>
    refine ⟨fun he => ?_, fun hb => absurd hb not_begun_nil⟩
    cases hn.symm.trans he
  | cons line rest ih =>
    by_cases hb : line = PacketTags.beginTag
    · subst hb
      have hstep := step_beginTag hp
      rw [reader_readLines_ok hstep h.hasStop, begun_cons_beginTag]
      exact type_readLines_inRequest (derivatives_residual.keep h hstep h.hasStop) rfl hn
    · rcases hc : Str.strIequals line cortarPapelEcf with _ | _
      · rw [reader_readLines_error (step_notBegin h hp hb hc), hn]
        constructor
        · intro he
          cases he
        · intro hbegun
          exact absurd hbegun (not_begun_cons hb hc)
      · rw [reader_readLines_ok (step_cut h hp hb hc) h.hasStop, begun_cons_cut hc]
        exact ih

theorem type_readPacket_iff {data : Str} :
    (readPacket (some data)).reader.pkt.type = some tp ↔
      Begun (RequestFirst tp) (getlines data) :=
  type_readLines_inIdle wf_init rfl rfl

theorem Begun.requestTag_mem (h : Begun (RequestFirst tp) ls) :
    tp ∈ packetTypes ∧ requestTag tp ∈ ls := by
  obtain ⟨cuts, body, -, ⟨ht, rest, rfl⟩, rfl⟩ := h
  exact ⟨ht, by simp⟩

end Readings

end TxtReader

namespace TxtCollector

open TxtReader

variable {β : Type} {env : Env β} {draw : Draw} {c : TxtCollector β} {name data : Str}

/-- The response is one of the type `tp`, as it is or as `ecf_broker::trade` returned it. -/
def Served.StartsAs (env : Env β) (packet : RequestPacket) (b : β) (s : Served β)
    (tp : Option PacketType) : Prop :=
  ∃ r : ResponsePacket, r.type = tp ∧ ((s.response = r ∧ s.traded = []) ∨
    (s.response = (env.trade packet r b).1 ∧ s.traded = [packet]))

theorem Served.startsAs_kept {packet : RequestPacket} {b : β} {s : Served β}
    {tp : Option PacketType} (hr : s.response.type = tp) (ht : s.traded = []) :
    s.StartsAs env packet b tp := ⟨s.response, hr, .inl ⟨rfl, ht⟩⟩

/-- The response starts with the type of the packet, whatever is branched on. -/
theorem serve_startsAs (env : Env β) (draw : Draw) (failure : Bool) (packet : RequestPacket)
    (session : Session) (b : β) :
    (serve env draw failure packet session b).StartsAs env packet b packet.type := by
  rcases failure with _ | _
  · simp only [serve, Bool.not_false, if_true]
    split
    · exact ⟨_, rfl, .inr ⟨rfl, rfl⟩⟩
    · split_ifs <;> exact Served.startsAs_kept rfl rfl
    · split_ifs <;> exact Served.startsAs_kept rfl rfl
    · split_ifs <;> exact Served.startsAs_kept rfl rfl
    · exact Served.startsAs_kept rfl rfl
    · exact Served.startsAs_kept rfl rfl
  · exact Served.startsAs_kept rfl rfl

/-- For a packet with a type it makes no difference what is found in one never assigned. -/
theorem serve_indeterminate {packet : RequestPacket} {tp : PacketType} (h : packet.type = some tp)
    (failure : Bool) (session : Session) (b : β) (i : PacketType) :
    serve { env with indeterminate := i } draw failure packet session b =
      serve env draw failure packet session b := by
  simp only [serve, h, Option.getD_some]

/-- From `c` to `c'`, the packet served was of type `tp`, and so was the response that `callback`
set up for it, which was written as it is or as `ecf_broker::trade` returned it. -/
structure ServedAs (env : Env β) (path : Str) (c c' : TxtCollector β) (tp : PacketType) : Prop where
  packet : c'.packet.type = some tp
  response : ∃ r : ResponsePacket, r.type = some tp ∧
    ((c'.written = c.written ++ [(path, r)] ∧ c'.traded = c.traded) ∨
      (c'.written = c.written ++ [(path, (env.trade c'.packet r c.broker).1)] ∧
        c'.traded = c.traded ++ [c'.packet]))

/-- `accept` branches on, and copies, a type that was assigned from the line of a request type of
the file: what it does is the same whatever is found in a type never assigned. -/
def TypedByFile (env : Env β) (draw : Draw) (name data : Str) (c : TxtCollector β) : Prop :=
  ∃ code c' tp, tp ∈ packetTypes ∧ requestTag tp ∈ getlines data ∧
    ServedAs env (env.workDir ++ name) c c' tp ∧
    ∀ i, exec (accept { env with indeterminate := i } draw name) (c.deliver name data) =
      (.ok code, c')

theorem servedAs_afterAccept {tp : PacketType}
    (h : (readPacket (some data)).reader.pkt.type = some tp) :
    ServedAs env (env.workDir ++ name) c (afterAccept env draw name data (c.deliver name data))
      tp := by
  refine ⟨h, ?_⟩
  obtain ⟨r, hr, hcase⟩ := serve_startsAs env draw
    ((readPacket (some data)).excp.isSome && !(readPacket (some data)).eof)
    (readPacket (some data)).reader.pkt c.session c.broker
  refine ⟨r, hr.trans h, ?_⟩
  rcases hcase with ⟨hresp, ht⟩ | ⟨hresp, ht⟩
  · refine .inl ⟨?_, ?_⟩
    · simp only [afterAccept, servedFor, deliver, hresp]
    · simp only [afterAccept, servedFor, deliver, ht, List.append_nil]
  · refine .inr ⟨?_, ?_⟩
    · simp only [afterAccept, servedFor, deliver, hresp]
    · simp only [afterAccept, servedFor, deliver, ht]

/-- What `accept` does with a file that assigns a type. -/
theorem exec_accept_typed {tp : PacketType}
    (h : (readPacket (some data)).reader.pkt.type = some tp) (i : PacketType) :
    exec (accept { env with indeterminate := i } draw name) (c.deliver name data) =
      (.ok .running, afterAccept env draw name data (c.deliver name data)) := by
  rw [exec_accept_found (lookup_deliver name data c)]
  simp only [afterAccept, servedFor, serve_indeterminate h]

/-- **When the type `callback` goes by comes from the file**: the file begins with a begin tag and
the line of a request type. -/
theorem typedByFile_iff (env : Env β) (draw : Draw) (name data : Str) (c : TxtCollector β) :
    TypedByFile env draw name data c ↔ BeginsRequest data := by
  constructor
  · rintro ⟨code, c', tp, -, -, hs, hexec⟩
    have he := hexec env.indeterminate
    rw [exec_accept_found (lookup_deliver name data c)] at he
    cases he
    exact ⟨tp, type_readPacket_iff.1 hs.packet⟩
  · rintro ⟨tp, hb⟩
    obtain ⟨ht, hline⟩ := hb.requestTag_mem
    have htype := type_readPacket_iff.2 hb
    exact ⟨.running, _, tp, ht, hline, servedAs_afterAccept htype, exec_accept_typed htype⟩

/-- An empty file: the reading ends at the end of the file, which is no failed packet, and
`callback` branches on a type that was never assigned. -/
theorem not_typedByFile_empty :
    ¬ TypedByFile (β := Unit)
      { workDir := [], trade := fun _ pkt b => (pkt, b), indeterminate := .tpReset }
      { valor := 0, strfry := id, strfry_perm := List.Perm.refl }
      "arqcmd1".toList [] { broker := () } := by
  rintro ⟨code, c', tp, -, -, hs, hexec⟩
  have he := hexec .tpReset
  rw [exec_accept_found (lookup_deliver _ _ _)] at he
  cases he
  have hn : (readPacket (some [])).reader.pkt.type = none := by decide
  cases hn.symm.trans hs.packet

end TxtCollector

end Spooler
