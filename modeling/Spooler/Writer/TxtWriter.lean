import Spooler.Packet.Packet
import Spooler.Text.Numbers

/-!
# The text of a response

`txt_writer::write_packet` (`txtwriter.cc`), as the insertions it makes into the stream, line by
line. The values of a parameter are fetched through its cursor, and the debug log fetches from the
same cursor: `value` starts again at the first value, but every second call of `next_value` is
spent on the log (`nextValues`).

**`writePacket_injective`**: two responses with parameters of one line each have the same text only
if they agree in everything that the layout carries.
-/

namespace Spooler

/-- The strings inserted into a stream in front of one `std::endl`. -/
abbrev Line := List Str

/-- `response_packet::context_tag`. -/
def ResponsePacket.contextTag (_ : ResponsePacket) : Str := PacketTags.context .ctxResponse

namespace TxtWriter

/-- `SERVER_ID_TAG`. -/
def serverIdTag : Str := "server_id:".toList

/-- The line that names the server, with the constants of `vrstags.h`. -/
def serverLine : Line :=
  [serverIdTag, "spooler".toList, " - ".toList, "Gateway para ECFs".toList, " (".toList,
    "4".toList, ".".toList, "1-0".toList, "b".toList, ")".toList]

/-- The inner loop of `write_packet`, for at most the given number of passes. -/
def nextValues : Nat → PktParam → List Line
  | 0, _ => []
  | n + 1, obj =>
    match obj.nextValue with
    | .error _ => []
    -- the value fetched for the log is not written
    | .ok (_, obj) =>
      match obj.nextValue with
      | .error _ => []
      | .ok (v, obj) => [v] :: nextValues n obj

/-- The lines of one parameter. -/
def paramLines (obj : PktParam) : List Line :=
  match obj.value with
  | .error _ => []
  | .ok (_, obj) =>
    match obj.value with
    | .error _ => []
    | .ok (v, obj) => [v] :: if obj.numLines > 1 then nextValues obj.numLines obj else []

/-- The outer loop of `write_packet`, for at most the given number of passes. The cursor of `obj`
does not outlive a pass: `value` sets it. -/
def paramLoop : Nat → Bool → Packet → PktParam → List Line
  | 0, _, _, _ => []
  | n + 1, head, pkt, obj =>
    match if head then pkt.firstParam else pkt.nextParam with
    | .error _ => []
    | .ok (q, pkt) => paramLines (obj.copy q) ++ paramLoop n false pkt (obj.copy q)

/-- `txt_writer::write_packet`; `indeterminate` is the value of `m_type` in a packet whose type was
never assigned. -/
def writePacket (indeterminate : PacketType) (pkt : ResponsePacket) : List Line :=
  let tp := pkt.type.getD indeterminate
  [[PacketTags.beginTag], [PacketTags.type tp, pkt.contextTag]] ++
  (if tp = .tpBeginSession ∨ tp = .tpStatus then [serverLine] else []) ++
  (if tp = .tpBeginSession ∧ pkt.retCode ≠ pktResponseOk then []
    else [[sessionIdTag, pkt.session]]) ++
  [[Str.intoString pkt.retCode]] ++
  paramLoop (pkt.params.length + 1) true pkt.toPacket {} ++
  [[PacketTags.endTag]]

/-- What insertions leave in a stream that takes them all. -/
def text (ls : List Line) : Str := unlines (ls.map List.flatten)

/-! ## The values that are written -/

/-- The values at the even places: the log is given the others. -/
def alternados : List Str → List Str
  | [] => []
  | [v] => [v]
  | v :: _ :: vs => v :: alternados vs

/-- The values written for the parameters, when the object they are assigned to holds `vals`. -/
def escritos (vals : List Str) : List PktParam → List Str
  | [] => []
  | q :: qs =>
    let vals := if q.val = [] then vals else q.val
    alternados vals ++ escritos vals qs

/-- The values of the parameters, in order. -/
def values (pkt : ResponsePacket) : List Str := pkt.params.flatMap (·.val)

theorem alternados_cons (v : Str) (vs : List Str) :
    alternados (v :: vs) = v :: alternados (vs.drop 1) := by
  cases vs <;> rfl

/-- The inner loop writes every second value behind the cursor. -/
theorem nextValues_eq {n : Nat} {obj : PktParam} (h : obj.val.length ≤ obj.idx + n) :
    nextValues n obj = (alternados (obj.val.drop (obj.idx + 1))).map fun v => [v] := by
  induction n generalizing obj with
  | zero =>
    rw [List.drop_of_length_le (by omega)]
    rfl
  | succ n ih =>
    unfold nextValues PktParam.nextValue
    by_cases hi : obj.idx < obj.val.length
    · rw [List.getElem?_eq_getElem hi]
      by_cases hi' : obj.idx + 1 < obj.val.length
      · simp only [List.getElem?_eq_getElem hi']
        rw [ih (by simp only; omega), List.drop_eq_getElem_cons hi', alternados_cons,
          List.drop_drop, List.map_cons]
      · simp only [List.getElem?_eq_none (not_lt.1 hi')]
        rw [List.drop_of_length_le (by omega)]
        rfl
    · rw [List.getElem?_eq_none (not_lt.1 hi), List.drop_of_length_le (by omega)]
      rfl

theorem paramLines_eq (obj : PktParam) :
    paramLines obj = (alternados obj.val).map fun v => [v] := by
  unfold paramLines PktParam.value PktParam.numLines
  rcases hv : obj.val with _ | ⟨v, vs⟩
  · rfl
  · simp only [List.length_cons]
    rw [alternados_cons, List.map_cons]
    split
    · rw [nextValues_eq (by simp only [List.length_cons]; omega)]
      simp
    · rw [List.drop_of_length_le (by omega)]
      rfl

/-- The loop from the second pass on writes the parameters behind the cursor. -/
theorem paramLoop_next {n : Nat} {pkt : Packet} {obj : PktParam}
    (h : pkt.params.length < pkt.idx + n) :
    paramLoop n false pkt obj =
      (escritos obj.val (pkt.params.drop pkt.idx)).map fun v => [v] := by
  induction n generalizing pkt obj with
  | zero =>
    rw [paramLoop, List.drop_of_length_le (by omega)]
    rfl
  | succ n ih =>
    simp only [paramLoop, Packet.nextParam, Bool.false_eq_true, if_false]
    by_cases hi : pkt.idx < pkt.params.length
    · simp only [List.getElem?_eq_getElem hi]
      rw [ih (by simp only; omega), List.drop_eq_getElem_cons hi, paramLines_eq, escritos,
        List.map_append, PktParam.copy_val]
    · rw [List.getElem?_eq_none (by omega), List.drop_of_length_le (by omega)]
      rfl

/-- **What the parameters leave in a response.** -/
theorem paramLoop_eq (pkt : Packet) :
    paramLoop (pkt.params.length + 1) true pkt {} =
      (escritos [] pkt.params).map fun v => [v] := by
  simp only [paramLoop, Packet.firstParam, if_true]
  rcases hp : pkt.params with _ | ⟨q, qs⟩
  · rfl
  · simp only
    rw [paramLines_eq, paramLoop_next (by simp only [List.length_cons]; omega), escritos,
      List.map_append, PktParam.copy_val]
    rfl

/-! ## Parameters of one line -/

/-- Every parameter holds exactly one value. -/
def SingleValued (pkt : ResponsePacket) : Prop := ∀ q ∈ pkt.params, q.val.length = 1

theorem escritos_single {vals : List Str} {qs : List PktParam} (h : ∀ q ∈ qs, q.val.length = 1) :
    escritos vals qs = qs.flatMap (·.val) := by
  induction qs generalizing vals with
  | nil => rfl
  | cons q qs ih =>
    rw [List.forall_mem_cons] at h
    obtain ⟨v, hv⟩ := List.length_eq_one_iff.1 h.1
    rw [escritos, ih h.2, List.flatMap_cons, hv]
    rfl

theorem paramLoop_first {pkt : ResponsePacket} (h : SingleValued pkt) :
    paramLoop (pkt.params.length + 1) true pkt.toPacket {} =
      (values pkt).map fun v => [v] := by
  rw [paramLoop_eq, escritos_single h, values]

/-! ## The layout can be read back -/

/-- A type was given to the packet; `not_typed` stands for none. -/
def Assigned (pkt : ResponsePacket) : Prop := ∃ tp, pkt.type = some tp ∧ tp ≠ .notTyped

/-- A response whose parameters are lines, as are its session and its values. -/
structure Plain (pkt : ResponsePacket) : Prop where
  assigned : Assigned pkt
  single : SingleValued pkt
  session : '\n' ∉ pkt.session
  values : ∀ v ∈ values pkt, '\n' ∉ v

/-- The layout has a line for the session: all but the one of a refused `begin_session`. -/
def WritesSession (pkt : ResponsePacket) : Prop :=
  ¬ (pkt.type = some .tpBeginSession ∧ pkt.retCode ≠ pktResponseOk)

/-- The line of the request type. -/
def typeLine (tp : PacketType) : Str := PacketTags.type tp ++ PacketTags.context .ctxResponse

/-- The lines between the type and the return code. -/
def idLines (tp : PacketType) (retCode : Int) (session : Str) : List Str :=
  (if tp = .tpBeginSession ∨ tp = .tpStatus then [serverLine.flatten] else []) ++
  if tp = .tpBeginSession ∧ retCode ≠ pktResponseOk then [] else [sessionIdTag ++ session]

/-- The lines of a packet. -/
theorem flatten_writePacket {i tp : PacketType} {pkt : ResponsePacket} (ht : pkt.type = some tp)
    (h : SingleValued pkt) : (writePacket i pkt).map List.flatten =
      PacketTags.beginTag :: typeLine tp :: (idLines tp pkt.retCode pkt.session ++
        Str.intoString pkt.retCode :: (values pkt ++ [PacketTags.endTag])) := by
  have hv : ((values pkt).map fun v => [v]).map List.flatten = values pkt := by
    simp only [List.map_map]
    exact List.map_id'' (fun v => List.append_nil v) _
  have hs : (if tp = .tpBeginSession ∨ tp = .tpStatus then [serverLine] else []).map List.flatten =
      if tp = .tpBeginSession ∨ tp = .tpStatus then [serverLine.flatten] else [] := by
    split <;> rfl
  have hi : (if tp = .tpBeginSession ∧ pkt.retCode ≠ pktResponseOk then []
      else [[sessionIdTag, pkt.session]]).map List.flatten =
      if tp = .tpBeginSession ∧ pkt.retCode ≠ pktResponseOk then []
      else [sessionIdTag ++ pkt.session] := by
    split <;> simp
  simp only [writePacket, ht, Option.getD_some, paramLoop_first h, List.map_append, hv, hs, hi,
    idLines, typeLine]
  simp [ResponsePacket.contextTag]

theorem newline_notMem_typeLine (tp : PacketType) : '\n' ∉ typeLine tp := by
  cases tp <;> decide

theorem newline_notMem_intoString (n : Int) : '\n' ∉ Str.intoString n := by
  intro h
  rcases Str.isDigit_or_of_mem_intoString h with h | h <;> revert h <;> decide

theorem newline_notMem_idLines {tp : PacketType} {retCode : Int} {session l : Str}
    (hs : '\n' ∉ session) (hl : l ∈ idLines tp retCode session) : '\n' ∉ l := by
  rcases List.mem_append.1 hl with hl | hl
  · split at hl
    · rw [List.mem_singleton.1 hl]
      decide
    · cases hl
  · split at hl
    · cases hl
    · rw [List.mem_singleton.1 hl, List.mem_append, not_or]
      exact ⟨by decide, hs⟩

theorem newline_notMem_line {i : PacketType} {pkt : ResponsePacket} (h : Plain pkt) :
    ∀ l ∈ (writePacket i pkt).map List.flatten, '\n' ∉ l := by
  obtain ⟨tp, ht, -⟩ := h.assigned
  rw [flatten_writePacket ht h.single]
  intro l hl
  simp only [List.mem_cons, List.mem_append, List.not_mem_nil, or_false] at hl
  rcases hl with rfl | rfl | hl | rfl | hl | rfl
  · decide
  · exact newline_notMem_typeLine tp
  · exact newline_notMem_idLines h.session hl
  · exact newline_notMem_intoString _
  · exact h.values l hl
  · decide

/-- The line of the type tells the types of packets apart. -/
theorem typeLine_inj {tp tq : PacketType} (hp : tp ≠ .notTyped) (hq : tq ≠ .notTyped)
    (h : typeLine tp = typeLine tq) : tp = tq := by
  have htag : PacketTags.type tp = PacketTags.type tq := List.append_cancel_right h
  cases tp <;> cases tq <;> first | rfl | exact absurd rfl hp | exact absurd rfl hq | skip
  all_goals
    revert htag
    decide

/-- A return code is no session line. -/
theorem intoString_ne_session (n : Int) (s : Str) : Str.intoString n ≠ sessionIdTag ++ s := by
  intro h
  have hm : 's' ∈ Str.intoString n := by
    rw [h]
    exact List.mem_append_left _ (by decide)
  rcases Str.isDigit_or_of_mem_intoString hm with h | h <;> revert h <;> decide

/-- What follows the type determines the return code, the session line and the rest. -/
theorem idLines_inj {tp : PacketType} {m n : Int} {s t : Str} {vs ws : List Str}
    (h : idLines tp m s ++ Str.intoString m :: vs = idLines tp n t ++ Str.intoString n :: ws) :
    m = n ∧ vs = ws ∧ (¬ (tp = .tpBeginSession ∧ m ≠ pktResponseOk) → s = t) := by
  simp only [idLines, List.append_assoc, List.append_cancel_left_eq] at h
  by_cases hm : tp = .tpBeginSession ∧ m ≠ pktResponseOk <;>
    by_cases hn : tp = .tpBeginSession ∧ n ≠ pktResponseOk
  · rw [if_pos hm, if_pos hn] at h
    obtain ⟨hc, ht⟩ := List.cons.inj h
    exact ⟨Str.intoString_injective hc, ht, fun hno => absurd hm hno⟩
  · rw [if_pos hm, if_neg hn] at h
    exact absurd (List.cons.inj h).1 (intoString_ne_session m t)
  · rw [if_neg hm, if_pos hn] at h
    exact absurd (List.cons.inj h).1.symm (intoString_ne_session n s)
  · rw [if_neg hm, if_neg hn] at h
    obtain ⟨hs, h⟩ := List.cons.inj h
    obtain ⟨hc, ht⟩ := List.cons.inj h
    exact ⟨Str.intoString_injective hc, ht, fun _ => List.append_cancel_left hs⟩

/-- **The response format is unambiguous.** -/
theorem writePacket_injective {i j : PacketType} {p q : ResponsePacket} (hp : Plain p)
    (hq : Plain q) (h : text (writePacket i p) = text (writePacket j q)) :
    p.type = q.type ∧ p.retCode = q.retCode ∧ values p = values q ∧
      (WritesSession p → p.session = q.session) := by
  have hl := unlines_injective (newline_notMem_line hp) (newline_notMem_line hq) h
  obtain ⟨tp, htp, hnp⟩ := hp.assigned
  obtain ⟨tq, htq, hnq⟩ := hq.assigned
  rw [flatten_writePacket htp hp.single, flatten_writePacket htq hq.single] at hl
  obtain ⟨htype, hrest⟩ := List.cons.inj (List.cons.inj hl).2
  obtain rfl := typeLine_inj hnp hnq htype
  obtain ⟨hret, hvals, hsession⟩ := idLines_inj hrest
  refine ⟨by rw [htp, htq], hret, List.append_cancel_right hvals, fun hw => hsession ?_⟩
  rintro ⟨rfl, hm⟩
  exact hw ⟨htp, hm⟩

/-- A response that refuses a session. -/
def recusa (session key : Str) : ResponsePacket :=
  ResponsePacket.addMsg { type := some .tpBeginSession, session := session, retCode := -1 } key
    "ECF ja esta em uso".toList

/-- Two refusals with one text: the session and the name of the parameter are not in it. -/
theorem writePacket_injective_refused :
    text (writePacket .notTyped (recusa [] "msg".toList)) =
      text (writePacket .notTyped (recusa "sgi_id_0".toList "texto".toList)) ∧
    values (recusa [] "msg".toList) = values (recusa "sgi_id_0".toList "texto".toList) := by
  have hp : Plain (recusa [] "msg".toList) :=
    ⟨⟨_, rfl, by decide⟩, by unfold SingleValued; decide, by decide, by decide⟩
  have hq : Plain (recusa "sgi_id_0".toList "texto".toList) :=
    ⟨⟨_, rfl, by decide⟩, by unfold SingleValued; decide, by decide, by decide⟩
  exact ⟨rfl, (writePacket_injective (i := .notTyped) (j := .notTyped) hp hq rfl).2.2.1⟩

end TxtWriter

end Spooler
