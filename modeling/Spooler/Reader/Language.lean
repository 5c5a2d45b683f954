import Spooler.Reader.Grammar
import Spooler.Foundations.Scanner

/-!
# The language of the reader

The passes of `read_packet` are a scanner of lines, and its loop is the run of that scanner
(`readLines_eq_scan`). `Residual r` is the list of lines that complete the packet from a state of
the reader, phase by phase; it has the derivatives of the scanner (`derivatives_residual`), so

* `accepts_iff_isPacket`: the reader reads a list of lines to its end and stops there exactly when
  the list is a packet;
* `live`: in every phase the packet can still be completed.
-/

namespace Spooler.TxtReader

open Foundations

/-- The passes of `read_packet` as a scanner of lines. -/
def scanner : Scanner Excp Reader Str := ⟨step, Reader.hasStop⟩

/-- The loop of `read_packet` is the run of the scanner; the end of the stream is reached when no
line is left. -/
theorem readLines_eq_scan (r : Reader) {ls : List Str} (h : ls ≠ []) :
    readLines r ls = match scanner.scan r ls with
      | .stopped t rest => ⟨none, rest.isEmpty, t⟩
      | .failed e t rest => ⟨some e, rest.isEmpty, t⟩
      | .ended t => ⟨none, true, t⟩ := by
  induction ls generalizing r with
  | nil => exact absurd rfl h
  | cons line rest ih =>
    simp only [readLines, Scanner.scan, scanner]
    rcases hstep : step r line with e | t
    · rfl
    · rcases hstop : t.hasStop with _ | _
      · cases rest with
        | nil => simp [hstop, Scanner.scan]
        | cons l rest => simpa [hstop, scanner] using ih t (by simp)
      · simp [hstop]

/-- What holds between the locals of `read_packet` at the start of a pass. -/
structure Reader.WF (r : Reader) : Prop where
  hasStop : r.hasStop = false
  dflPhase : r.dflPhase = if r.prcPhase = .inText then .inText else .inUnknown
  prcPhase : r.prcPhase ∈
    [InPhase.inIdle, .inRequest, .inStop, .inSsid, .inCmdid, .inParam, .inText]
  rqtTag : r.prcPhase = .inSsid →
    r.rqtTag = PacketTags.type .tpEndSession ∨ r.rqtTag = PacketTags.type .tpExecut

theorem wf_init : Reader.WF {} := ⟨rfl, rfl, by simp, by simp⟩

/-- The lines that complete the packet in a phase. -/
def Residual (r : Reader) (w : List Str) : Prop :=
  match r.prcPhase with
  | .inIdle => IsPacket w
  | .inRequest => ∃ tp body, Body tp body ∧ w = requestTag tp :: body
  | .inStop => w = [PacketTags.endTag]
  | .inSsid =>
    if r.rqtTag = PacketTags.type .tpEndSession then Body .tpEndSession w else Body .tpExecut w
  | .inCmdid => ∃ cmdid ps, w = cmdid :: (ps ++ [PacketTags.endTag]) ∧ commandIdTag <+: cmdid ∧
      ParamSection ps
  | .inParam => ∃ ps, w = ps ++ [PacketTags.endTag] ∧ ParamSection ps
  | .inText => ∃ body closing ps, w = body ++ closing :: (ps ++ [PacketTags.endTag]) ∧
      (∀ l ∈ body, IsTextLine l) ∧ IsTextClose closing ∧ ParamSection ps
  | _ => False

/-! ## Phase by phase -/

section Phases

variable {r : Reader} {line : Str}

theorem Reader.WF.dflUnknown (h : r.WF) (hp : r.prcPhase ≠ .inText) : r.dflPhase = .inUnknown := by
  rw [h.dflPhase, if_neg hp]

theorem Reader.WF.isDefault (h : r.WF) : IsDefault r.dflPhase := by
  rw [h.dflPhase]
  split
  · exact .inr rfl
  · exact .inl rfl

/-- The line is qualified as the tag of `p` exactly when it carries it. -/
theorem Reader.WF.qualify (h : r.WF) {p : InPhase} (hp : CollectsTag p) :
    qualifyToken line r.dflPhase = p ↔ TagLine line p :=
  qualifyToken_eq_iff h.isDefault hp

theorem step_beginTag (hp : r.prcPhase = .inIdle) :
    step r PacketTags.beginTag = .ok { r with prcPhase := .inRequest } := by
  simp only [step, hp, qualifyToken_beginTag, ne_eq, not_true_eq_false, if_false]

/-- In front of the begin tag the lines of the paper cut are passed over. -/
theorem step_cut (h : r.WF) (hp : r.prcPhase = .inIdle) (hb : line ≠ PacketTags.beginTag)
    (hc : Str.strIequals line cortarPapelEcf = true) : step r line = .ok r := by
  have hq : qualifyToken line r.dflPhase ≠ .inStart :=
    fun hstart => hb ((h.qualify (by simp [CollectsTag])).1 hstart)
  simp [step, hp, hq, hc]

theorem step_notBegin (h : r.WF) (hp : r.prcPhase = .inIdle) (hb : line ≠ PacketTags.beginTag)
    (hc : Str.strIequals line cortarPapelEcf = false) :
    step r line = .error (.spooler .rqtReaderExp
      (msgExpectedStart ++ " != ".toList ++ line)) := by
  have hq : qualifyToken line r.dflPhase ≠ .inStart :=
    fun hstart => hb ((h.qualify (by simp [CollectsTag])).1 hstart)
  simp [step, hp, hq, hc]

theorem derives_inIdle (h : r.WF) (hp : r.prcPhase = .inIdle) :
    scanner.Derives Reader.WF Residual r line := by
  by_cases hb : line = PacketTags.beginTag
  · subst hb
    refine Scanner.derives_next (step_beginTag hp) h.hasStop ?_ fun l => ?_
    · exact ⟨h.hasStop, h.dflUnknown (by simp [hp]), by simp, by simp⟩
    · simp only [Residual, hp]
      exact isPacket_cons_beginTag
  · rcases hc : Str.strIequals line cortarPapelEcf with _ | _
    · refine Scanner.derives_error (step_notBegin h hp hb hc) fun l => ?_
      simp only [Residual, hp]
      exact not_isPacket_cons hb hc
    · refine Scanner.derives_next (step_cut h hp hb hc) h.hasStop h fun l => ?_
      simp only [Residual, hp]
      exact isPacket_cons_cut hc

theorem step_stop (hp : r.prcPhase = .inStop) :
    step r PacketTags.endTag = .ok { r with hasStop := true } := by
  simp only [step, hp, qualifyToken_endTag, ne_eq, not_true_eq_false, if_false]

theorem step_notStop (h : r.WF) (hp : r.prcPhase = .inStop) (he : line ≠ PacketTags.endTag) :
    step r line = .error (unexpected msgExpectedStop line) := by
  have hq : qualifyToken line r.dflPhase ≠ .inStop :=
    fun hstop => he ((h.qualify (by simp [CollectsTag])).1 hstop)
  simp [step, hp, hq]

theorem derives_inStop (h : r.WF) (hp : r.prcPhase = .inStop) :
    scanner.Derives Reader.WF Residual r line := by
  by_cases he : line = PacketTags.endTag
  · refine Scanner.derives_stop (he ▸ step_stop hp) rfl fun l => ?_
    simp [Residual, hp, he]
  · refine Scanner.derives_error (step_notStop h hp he) fun l => ?_
    simp [Residual, hp, he]

private theorem rfind_request : ∀ tp ∈ packetTypes,
    Str.rfind (PacketTags.context .ctxRequest) (requestTag tp) =
      some (PacketTags.type tp).length := by decide

private theorem typeFromString_type : ∀ tp ∈ packetTypes,
    typeFromString (PacketTags.type tp) = tp := by decide

/-- The type tags that do not go on to the session identifier. -/
private theorem type_short_iff : ∀ tp ∈ packetTypes,
    ((PacketTags.type tp ≠ PacketTags.type .tpBeginSession ∧
      PacketTags.type tp ≠ PacketTags.type .tpReset ∧
      PacketTags.type tp ≠ PacketTags.type .tpStatus) ↔ (tp = .tpEndSession ∨ tp = .tpExecut)) := by
  decide

/-- The pass that reads the line of a request type. -/
theorem step_requestTag (hp : r.prcPhase = .inRequest) {tp : PacketType} (ht : tp ∈ packetTypes) :
    step r (requestTag tp) = .ok { r with
      rqtTag := PacketTags.type tp
      pkt := { r.pkt with type := some tp }
      prcPhase := if tp = .tpEndSession ∨ tp = .tpExecut then .inSsid else .inStop } := by
  have hk : (requestTag tp).take (PacketTags.type tp).length = PacketTags.type tp :=
    List.take_left
  simp only [step, hp, qualifyToken_requestTag ht, rfind_request tp ht, hk,
    typeFromString_type tp ht, type_short_iff tp ht]
  split_ifs <;> simp_all

theorem step_notRequest (h : r.WF) (hp : r.prcPhase = .inRequest)
    (hr : ¬ ∃ tp ∈ packetTypes, line = requestTag tp) :
    step r line = .error (unexpected msgExpectedRequest line) := by
  have hq : qualifyToken line r.dflPhase ≠ .inRequest :=
    fun hrequest => hr ((h.qualify (by simp [CollectsTag])).1 hrequest)
  simp only [step, hp, ne_eq, hq, not_false_eq_true, if_true]

theorem derives_inRequest (h : r.WF) (hp : r.prcPhase = .inRequest) :
    scanner.Derives Reader.WF Residual r line := by
  by_cases hr : ∃ tp ∈ packetTypes, line = requestTag tp
  · obtain ⟨tp, ht, rfl⟩ := hr
    refine Scanner.derives_next (step_requestTag hp ht) h.hasStop ?_ fun l => ?_
    · refine ⟨h.hasStop, ?_, ?_, ?_⟩
      · simp only [h.dflUnknown (by simp [hp])]
        split_ifs <;> simp_all
      · simp only
        split_ifs <;> simp
      · simp only
        intro hssid
        by_cases htp : tp = .tpEndSession ∨ tp = .tpExecut
        · rcases htp with rfl | rfl
          · exact .inl rfl
          · exact .inr rfl
        · simp [htp] at hssid
    · have hres : Residual r (requestTag tp :: l) ↔ Body tp l := by
        simp only [Residual, hp, List.cons.injEq]
        constructor
        · rintro ⟨tp', body, hb, he, rfl⟩
          rwa [requestTag_injective tp ht tp' hb.mem_packetTypes he]
        · intro hb
          exact ⟨tp, l, hb, rfl, rfl⟩
      rw [hres]
      simp only [packetTypes, List.mem_cons, List.not_mem_nil, or_false] at ht
      rcases ht with rfl | rfl | rfl | rfl | rfl
      · exact ⟨fun hb => by cases hb; rfl, fun hl => hl ▸ .beginSession⟩
      · have hne : PacketTags.type .tpExecut ≠ PacketTags.type .tpEndSession := by decide
        simp [Residual, hne]
      · simp [Residual]
      · exact ⟨fun hb => by cases hb; rfl, fun hl => hl ▸ .status⟩
      · exact ⟨fun hb => by cases hb; rfl, fun hl => hl ▸ .reset⟩
  · refine Scanner.derives_error (step_notRequest h hp hr) fun l => ?_
    simp only [Residual, hp]
    rintro ⟨tp, body, hb, he⟩
    exact hr ⟨tp, hb.mem_packetTypes, (List.cons.inj he).1⟩

theorem step_ssid (hp : r.prcPhase = .inSsid) (hs : sessionIdTag <+: line) :
    step r line = .ok { r with
      pkt := { r.pkt with session := line.drop sessionIdTag.length }
      prcPhase := if r.rqtTag = PacketTags.type .tpEndSession then .inStop else .inCmdid } := by
  simp only [step, hp, qualifyToken_ssid hs, Str.substrFrom_ok hs.length_le, ne_eq,
    not_true_eq_false, if_false]
  split_ifs <;> rfl

theorem step_notSsid (h : r.WF) (hp : r.prcPhase = .inSsid) (hs : ¬ sessionIdTag <+: line) :
    step r line = .error (unexpected msgExpectedSsid line) := by
  have hq : qualifyToken line r.dflPhase ≠ .inSsid :=
    fun hssid => hs ((h.qualify (by simp [CollectsTag])).1 hssid)
  simp [step, hp, hq]

theorem derives_inSsid (h : r.WF) (hp : r.prcPhase = .inSsid) :
    scanner.Derives Reader.WF Residual r line := by
  by_cases hs : sessionIdTag <+: line
  · have hstep := step_ssid hp hs
    by_cases he : r.rqtTag = PacketTags.type .tpEndSession
    · rw [if_pos he] at hstep
      refine Scanner.derives_next hstep h.hasStop ?_ fun l => ?_
      · exact ⟨h.hasStop, h.dflUnknown (by simp [hp]), by simp, by simp⟩
      · simp only [Residual, hp, he, if_true]
        exact ⟨fun hb => by cases hb; rfl, fun hl => hl ▸ .endSession hs⟩
    · rw [if_neg he] at hstep
      refine Scanner.derives_next hstep h.hasStop ?_ fun l => ?_
      · exact ⟨h.hasStop, h.dflUnknown (by simp [hp]), by simp, by simp⟩
      · simp only [Residual, hp, he, if_false]
        constructor
        · intro hb
          cases hb with
          | execut _ hc hps => exact ⟨_, _, rfl, hc, hps⟩
        · rintro ⟨cmdid, ps, rfl, hc, hps⟩
          exact .execut hs hc hps
  · refine Scanner.derives_error (step_notSsid h hp hs) fun l => ?_
    simp only [Residual, hp]
    split
    · intro hb
      cases hb with
      | endSession hs' => exact hs hs'
    · intro hb
      cases hb with
      | execut hs' _ _ => exact hs hs'

theorem step_cmdid (hp : r.prcPhase = .inCmdid) (hc : commandIdTag <+: line) :
    step r line = .ok { r with
      pkt := { r.pkt with id := line.drop commandIdTag.length }, prcPhase := .inParam } := by
  simp only [step, hp, qualifyToken_cmdid hc, Str.substrFrom_ok hc.length_le, ne_eq,
    not_true_eq_false, if_false]

theorem step_notCmdid (h : r.WF) (hp : r.prcPhase = .inCmdid) (hc : ¬ commandIdTag <+: line) :
    step r line = .error (unexpected msgExpectedCmdid line) := by
  have hq : qualifyToken line r.dflPhase ≠ .inCmdid :=
    fun hcmdid => hc ((h.qualify (by simp [CollectsTag])).1 hcmdid)
  simp [step, hp, hq]

theorem derives_inCmdid (h : r.WF) (hp : r.prcPhase = .inCmdid) :
    scanner.Derives Reader.WF Residual r line := by
  by_cases hc : commandIdTag <+: line
  · refine Scanner.derives_next (step_cmdid hp hc) h.hasStop ?_ fun l => ?_
    · exact ⟨h.hasStop, h.dflUnknown (by simp [hp]), by simp, by simp⟩
    · simp only [Residual, hp]
      constructor
      · rintro ⟨cmdid, ps, he, -, hps⟩
        exact ⟨ps, (List.cons.inj he).2, hps⟩
      · rintro ⟨ps, rfl, hps⟩
        exact ⟨line, ps, rfl, hc, hps⟩
  · refine Scanner.derives_error (step_notCmdid h hp hc) fun l => ?_
    simp only [Residual, hp]
    rintro ⟨cmdid, ps, he, hc', -⟩
    rw [← (List.cons.inj he).1] at hc'
    exact hc hc'

/-- A parameter section and the end tag, by their first line. -/
theorem section_cons {l : List Str} :
    (∃ ps, line :: l = ps ++ [PacketTags.endTag] ∧ ParamSection ps) ↔
      (line = PacketTags.endTag ∧ l = []) ∨
      ∃ ps, l = ps ++ [PacketTags.endTag] ∧ ParamSection (line :: ps) := by
  constructor
  · rintro ⟨ps, he, hps⟩
    cases ps with
    | nil =>
      rw [List.nil_append, List.cons.injEq] at he
      exact .inl he
    | cons p ps =>
      rw [List.cons_append, List.cons.injEq] at he
      exact .inr ⟨ps, he.2, he.1 ▸ hps⟩
  · rintro (⟨rfl, rfl⟩ | ⟨ps, rfl, hps⟩)
    · exact ⟨[], rfl, .nil⟩
    · exact ⟨line :: ps, rfl, hps⟩

/-! The passes that read a parameter section. -/

theorem step_endTag (hp : r.prcPhase = .inParam) :
    step r PacketTags.endTag = .ok { r with prcPhase := .inStop, hasStop := true } := by
  simp [step, hp, qualifyToken_endTag]

/-- A `name:value` line is split at its first separator. -/
theorem step_paramLine (hp : r.prcPhase = .inParam) (hu : r.dflPhase = .inUnknown)
    (hl : IsParamLine line) :
    ∃ pos, Str.find paramSeparator line = some pos ∧ step r line = .ok { r with
      pkt := r.pkt.addParamKeyVal (line.take pos) (line.drop (pos + 1)) } := by
  have hmem : Str.contains paramSeparator line = true := contains_paramSeparator.2 hl.2
  obtain ⟨pos, hpos⟩ := Option.isSome_iff_exists.1 hmem
  have hlen : pos + 1 ≤ line.length := by
    have hpre := (Str.find_eq_some hpos).length_le
    have hone : paramSeparator.length = 1 := rfl
    rw [List.length_drop, hone] at hpre
    omega
  refine ⟨pos, hpos, ?_⟩
  simp [step, hp, hu, qualifyToken_eq_inParam_iff.2 hl, hpos, Str.substrFrom_ok hlen]

theorem step_textOpen (hp : r.prcPhase = .inParam) (hu : r.dflPhase = .inUnknown)
    (ho : IsTextOpen line) :
    step r line = .ok { r with
      text := { r.text with name := mensagem }
      dflPhase := .inText
      prcPhase := .inText } := by
  simp [step, hp, hu, qualifyToken_eq_inText_iff.2 ho]

theorem step_notEntry (hp : r.prcPhase = .inParam) (hu : r.dflPhase = .inUnknown)
    (he : line ≠ PacketTags.endTag) (hl : ¬ IsParamLine line) (ho : ¬ IsTextOpen line) :
    step r line = .error (.spooler .rqtReaderExp (msgUnexpectedToken ++ ": ".toList ++ line)) := by
  have hn : qualifyToken line .inUnknown ≠ .inParam ∧ qualifyToken line .inUnknown ≠ .inStop ∧
      qualifyToken line .inUnknown ≠ .inText := by
    rw [ne_eq, ne_eq, ne_eq, qualifyToken_eq_inParam_iff, qualifyToken_eq_inText_iff,
      qualifyToken_eq_iff (.inl rfl) (by simp [CollectsTag])]
    exact ⟨hl, he, ho⟩
  simp only [step, hp, hu, if_pos hn]

theorem step_textLine (hp : r.prcPhase = .inText) (hd : r.dflPhase = .inText)
    (hl : IsTextLine line) : step r line = .ok { r with text := r.text.addValue line } := by
  simp [step, hp, hd, qualifyToken_inText_eq_inText_iff.2 hl.1, contains_paramMsgEnd, hl.2]

theorem step_textClose (hp : r.prcPhase = .inText) (hd : r.dflPhase = .inText)
    (hc : IsTextClose line) :
    step r line = .ok { r with
      dflPhase := .inUnknown, prcPhase := .inParam, pkt := r.pkt.addParam r.text } := by
  simp [step, hp, hd, qualifyToken_inText_eq_inText_iff.2 hc.1, contains_paramMsgEnd, hc.2]

theorem step_reserved (hp : r.prcPhase = .inText) (hd : r.dflPhase = .inText)
    (hr : Reserved line) :
    step r line = .error (.spooler .rqtReaderExp (msgMessageMalformed ++ ": ".toList ++ line)) := by
  have hq : qualifyToken line r.dflPhase ≠ .inText := by
    rw [hd, ne_eq, qualifyToken_inText_eq_inText_iff]
    exact not_not.2 hr
  simp [step, hp, hq]

theorem derives_inParam (h : r.WF) (hp : r.prcPhase = .inParam) :
    scanner.Derives Reader.WF Residual r line := by
  have hu : r.dflPhase = .inUnknown := h.dflUnknown (by simp [hp])
  have hres : ∀ l, Residual r (line :: l) ↔ (line = PacketTags.endTag ∧ l = []) ∨
      ∃ ps, l = ps ++ [PacketTags.endTag] ∧ ParamSection (line :: ps) := by
    intro l
    simp only [Residual, hp]
    exact section_cons
  by_cases he : line = PacketTags.endTag
  · refine Scanner.derives_stop (he ▸ step_endTag hp) rfl fun l => ?_
    rw [hres]
    refine ⟨?_, fun hl => .inl ⟨he, hl⟩⟩
    rintro (⟨-, hl⟩ | ⟨ps, -, hps⟩)
    · exact hl
    · exact absurd (he ▸ reserved_endTag) hps.not_reserved
  by_cases hpar : IsParamLine line
  · obtain ⟨pos, -, hstep⟩ := step_paramLine hp hu hpar
    refine Scanner.derives_next hstep h.hasStop ?_ fun l => ?_
    · exact ⟨h.hasStop, h.dflPhase, h.prcPhase, h.rqtTag⟩
    · rw [hres]
      simp only [Residual, hp]
      constructor
      · rintro (⟨hend, -⟩ | ⟨ps, rfl, hps⟩)
        · exact absurd hend he
        · rcases paramSection_cons.1 hps with ⟨-, hps⟩ | ⟨ho, -⟩
          · exact ⟨ps, rfl, hps⟩
          · exact absurd hpar.2 ho.2.1
      · rintro ⟨ps, rfl, hps⟩
        exact .inr ⟨ps, rfl, .param hpar hps⟩
  by_cases hopen : IsTextOpen line
  · refine Scanner.derives_next (step_textOpen hp hu hopen) h.hasStop ?_ fun l => ?_
    · exact ⟨h.hasStop, rfl, by simp, by simp⟩
    · rw [hres]
      simp only [Residual]
      constructor
      · rintro (⟨hend, -⟩ | ⟨ps, rfl, hps⟩)
        · exact absurd hend he
        · rcases paramSection_cons.1 hps with ⟨hl, -⟩ | ⟨-, body, closing, ps, rfl, hb, hc, hps⟩
          · exact absurd hl hpar
          · exact ⟨body, closing, ps, by simp, hb, hc, hps⟩
      · rintro ⟨body, closing, ps, rfl, hb, hc, hps⟩
        exact .inr ⟨body ++ closing :: ps, by simp, .text hopen hb hc hps⟩
  · refine Scanner.derives_error (step_notEntry hp hu he hpar hopen) fun l => ?_
    rw [hres]
    rintro (⟨hend, -⟩ | ⟨ps, -, hps⟩)
    · exact he hend
    · rcases paramSection_cons.1 hps with ⟨hl, -⟩ | ⟨ho, -⟩
      · exact hpar hl
      · exact hopen ho

theorem derives_inText (h : r.WF) (hp : r.prcPhase = .inText) :
    scanner.Derives Reader.WF Residual r line := by
  have hd : r.dflPhase = .inText := by rw [h.dflPhase, if_pos hp]
  have hres : ∀ l, Residual r (line :: l) ↔
      (IsTextClose line ∧ ∃ ps, l = ps ++ [PacketTags.endTag] ∧ ParamSection ps) ∨
      (IsTextLine line ∧ Residual r l) := by
    intro l
    simp only [Residual, hp]
    constructor
    · rintro ⟨body, closing, ps, he, hb, hc, hps⟩
      cases body with
      | nil =>
        rw [List.nil_append, List.cons.injEq] at he
        exact .inl ⟨he.1 ▸ hc, ps, he.2, hps⟩
      | cons b body =>
        rw [List.cons_append, List.cons.injEq] at he
        rw [List.forall_mem_cons] at hb
        exact .inr ⟨he.1 ▸ hb.1, body, closing, ps, he.2, hb.2, hc, hps⟩
    · rintro (⟨hc, ps, rfl, hps⟩ | ⟨hl, body, closing, ps, rfl, hb, hc, hps⟩)
      · exact ⟨[], line, ps, rfl, by simp, hc, hps⟩
      · exact ⟨line :: body, closing, ps, rfl, List.forall_mem_cons.2 ⟨hl, hb⟩, hc, hps⟩
  by_cases hr : Reserved line
  · refine Scanner.derives_error (step_reserved hp hd hr) fun l => ?_
    rw [hres]
    rintro (⟨hc, -⟩ | ⟨hl, -⟩)
    · exact hc.1 hr
    · exact hl.1 hr
  by_cases hclose : '\x7d' ∈ line
  · refine Scanner.derives_next (step_textClose hp hd ⟨hr, hclose⟩) h.hasStop ?_ fun l => ?_
    · exact ⟨h.hasStop, rfl, by simp, by simp⟩
    · rw [hres]
      simp only [Residual]
      refine ⟨?_, fun hl => .inl ⟨⟨hr, hclose⟩, hl⟩⟩
      rintro (⟨-, hl⟩ | ⟨hl, -⟩)
      · exact hl
      · exact absurd hclose hl.2
  · refine Scanner.derives_next (step_textLine hp hd ⟨hr, hclose⟩) h.hasStop ?_ fun l => ?_
    · exact ⟨h.hasStop, h.dflPhase, h.prcPhase, h.rqtTag⟩
    · rw [hres]
      have hsame : Residual { r with text := r.text.addValue line } l ↔ Residual r l := Iff.rfl
      rw [hsame]
      refine ⟨?_, fun hl => .inr ⟨⟨hr, hclose⟩, hl⟩⟩
      rintro (⟨hc, -⟩ | ⟨-, hl⟩)
      · exact absurd hc.2 hclose
      · exact hl

end Phases

theorem not_residual_nil {r : Reader} (h : r.WF) : ¬ Residual r [] := by
  have hmem := h.prcPhase
  simp only [List.mem_cons, List.not_mem_nil, or_false] at hmem
  unfold Residual
  rcases hmem with hp | hp | hp | hp | hp | hp | hp <;> simp only [hp]
  · exact not_isPacket_nil
  · simp
  · simp
  · split <;> exact fun hb => by cases hb
  · simp
  · simp
  · simp

/-- **The residual lists have the derivatives of the reader.** -/
theorem derivatives_residual : Scanner.Derivatives scanner Reader.WF Residual where
  nil := fun _ => not_residual_nil
  cons := by
    intro r line h
    have hmem := h.prcPhase
    simp only [List.mem_cons, List.not_mem_nil, or_false] at hmem
    rcases hmem with hp | hp | hp | hp | hp | hp | hp
    · exact derives_inIdle h hp
    · exact derives_inRequest h hp
    · exact derives_inStop h hp
    · exact derives_inSsid h hp
    · exact derives_inCmdid h hp
    · exact derives_inParam h hp
    · exact derives_inText h hp

/-- **The reader stops at the end of a list of lines, and not before, exactly when the list is a
packet.** -/
theorem accepts_iff_isPacket (ls : List Str) : scanner.Accepts {} ls ↔ IsPacket ls :=
  Scanner.accepts_iff derivatives_residual wf_init ls

/-- **In every phase the packet can still be completed.** -/
theorem live {r : Reader} (h : r.WF) : ∃ w, Residual r w := by
  have hreset : Body .tpReset [PacketTags.endTag] := .reset
  have hps : ∃ ps, [PacketTags.endTag] = ps ++ [PacketTags.endTag] ∧ ParamSection ps :=
    ⟨[], rfl, .nil⟩
  have hmem := h.prcPhase
  simp only [List.mem_cons, List.not_mem_nil, or_false] at hmem
  unfold Residual
  rcases hmem with hp | hp | hp | hp | hp | hp | hp <;> simp only [hp]
  · exact ⟨_, [], _, _, by simp, hreset, rfl⟩
  · exact ⟨_, _, _, hreset, rfl⟩
  · exact ⟨_, rfl⟩
  · split
    · exact ⟨_, .endSession (List.prefix_refl _)⟩
    · exact ⟨_, .execut (List.prefix_refl _) (List.prefix_refl _) .nil⟩
  · exact ⟨_, _, [], rfl, List.prefix_refl _, .nil⟩
  · exact ⟨_, hps⟩
  · exact ⟨_, [], "\x7d".toList, [], rfl, by simp, ⟨by decide, by decide⟩, .nil⟩

/-! ## What a reading tells about the file -/

/-- Some of the first lines of the file are a packet. -/
def Complete (data : Str) : Prop := ∃ p, p <+: getlines data ∧ IsPacket p

/-- Some of the lines in front of the last one can not be continued to a packet. -/
def RefusedEarly (data : Str) : Prop :=
  ∃ p, p <+: (getlines data).dropLast ∧ ¬ ∃ u, IsPacket (p ++ u)

theorem viable_iff (ls : List Str) : scanner.Viable {} ls ↔ ∃ u, IsPacket (ls ++ u) :=
  exists_congr fun u => accepts_iff_isPacket (ls ++ u)

/-- **The reader finds the end tag exactly in the files that hold a packet**, and raises nothing
then. -/
theorem complete_iff_stopped (data : Str) :
    Complete data ↔ ∃ t rest, scanner.scan {} (getlines data) = .stopped t rest := by
  rw [← Scanner.exists_accepted_prefix_iff]
  exact exists_congr fun p => and_congr_right fun _ => (accepts_iff_isPacket p).symm

/-- Whether a file holds a packet is read off the end tag seen by the reader. -/
theorem complete_iff_hasStop (data : Str) :
    Complete data ↔ (readPacket (some data)).reader.hasStop = true := by
  rw [complete_iff_stopped]
  simp only [readPacket, readLines_eq_scan _ (getlines_ne_nil data)]
  rcases hs : scanner.scan {} (getlines data) with ⟨t, rest⟩ | ⟨e, t, rest⟩ | ⟨t⟩
  · have ht : t.hasStop = true := Scanner.stop_of_stopped hs
    simp [ht]
  · obtain ⟨pre, a, -, hpre, -⟩ := Scanner.exists_of_failed hs
    have ht : t.hasStop = false := (Scanner.ended_keep derivatives_residual wf_init hpre).hasStop
    simp [ht]
  · have ht : t.hasStop = false := (Scanner.ended_keep derivatives_residual wf_init hs).hasStop
    simp [ht]

instance (data : Str) : Decidable (Complete data) :=
  decidable_of_iff _ (complete_iff_hasStop data).symm

theorem readPacket_of_complete {data : Str} (h : Complete data) :
    (readPacket (some data)).excp = none := by
  obtain ⟨t, rest, hs⟩ := (complete_iff_stopped data).1 h
  simp only [readPacket, readLines_eq_scan _ (getlines_ne_nil data), hs]

/-- **On a file without a packet the reader raises an exception before the end of the file exactly
when a line in front of the last one spoils it.** -/
theorem readPacket_of_not_complete {data : Str} (h : ¬ Complete data) :
    ((readPacket (some data)).excp.isSome && !(readPacket (some data)).eof) = true ↔
      RefusedEarly data := by
  have hne := getlines_ne_nil data
  simp only [readPacket, readLines_eq_scan _ hne]
  rcases hs : scanner.scan {} (getlines data) with ⟨t, rest⟩ | ⟨e, t, rest⟩ | ⟨t⟩
  · exact absurd ((complete_iff_stopped data).2 ⟨t, rest, hs⟩) h
  · have hf := Scanner.failed_iff derivatives_residual (fun _ => live) wf_init hs
    simp only [viable_iff] at hf
    rw [RefusedEarly, ← hf]
    simp
  · have hv : ¬ RefusedEarly data := by
      rintro ⟨p, hp, hu⟩
      have hpre : p <+: getlines data := hp.trans (List.dropLast_prefix _)
      exact hu ((viable_iff p).1
        (Scanner.viable_prefix_of_ended derivatives_residual (fun _ => live) wf_init hs hpre))
    simp [hv]

/-- A pass that does not end with `cortar_papel_exp`. -/
private def NotCortar (x : Except Excp Reader) : Prop :=
  ∀ e, x = .error e → e.isA .cortarPapelExp = false

private theorem notCortar_ok (t : Reader) : NotCortar (.ok t) := fun _ h => by cases h

private theorem notCortar_error {e : Excp} (he : e.isA .cortarPapelExp = false) :
    NotCortar (.error e) := fun _ h => by cases h; exact he

private theorem notCortar_substrFrom {s : Str} {pos : Nat} {f : Str → Except Excp Reader}
    (hf : ∀ t, NotCortar (f t)) :
    NotCortar (match Str.substrFrom s pos with | .error e => .error e | .ok t => f t) := by
  unfold Str.substrFrom
  split_ifs
  · exact hf _
  · exact notCortar_error rfl

/-- `cortar_papel_exp` is never raised: in the dormant phase its test is the negation of the one
around it. -/
theorem step_not_cortar (r : Reader) (line : Str) : NotCortar (step r line) := by
  have hok := notCortar_ok
  have hrd : ∀ msg, NotCortar (.error (.spooler .rqtReaderExp msg)) := fun _ => notCortar_error rfl
  simp only [step, unexpected]
  cases r.prcPhase with
  | inIdle =>
    rcases Str.strIequals line cortarPapelEcf with _ | _ <;>
      simp only [Bool.not_false, Bool.not_true, Bool.false_eq_true, if_true, if_false] <;>
      split_ifs <;> simp only [hok, hrd]
  | inRequest =>
    simp only
    split_ifs
    · exact hrd _
    · split
      · split_ifs <;> exact hok _
      · exact hrd _
  | inSsid =>
    simp only
    split_ifs
    · exact hrd _
    · exact notCortar_substrFrom fun _ => hok _
    · exact notCortar_substrFrom fun _ => hok _
  | inCmdid =>
    simp only
    split_ifs
    · exact hrd _
    · exact notCortar_substrFrom fun _ => hok _
  | inParam =>
    simp only
    split_ifs
    · exact hrd _
    · exact hok _
    · split
      · exact notCortar_substrFrom fun _ => hok _
      · exact hrd _
    · exact hok _
  | inText =>
    simp only
    split_ifs <;> simp only [hok, hrd]
  | inStop =>
    simp only
    split_ifs <;> simp only [hok, hrd]
  | _ => exact hrd _

theorem readLines_excp_not_cortar {r : Reader} {ls : List Str} {e : Excp}
    (h : (readLines r ls).excp = some e) : e.isA .cortarPapelExp = false := by
  induction ls generalizing r with
  | nil => cases h
  | cons line rest ih =>
    simp only [readLines] at h
    rcases hstep : step r line with e' | t
    · simp only [hstep, Option.some.injEq] at h
      exact step_not_cortar r line e (h ▸ hstep)
    · simp only [hstep] at h
      split at h
      · cases h
      · exact ih h

/-- Reading a file never fails with a `cortar_papel_exp`, a file that is not there included. -/
theorem readPacket_excp_not_cortar {data : Option Str} {e : Excp}
    (h : (readPacket data).excp = some e) : e.isA .cortarPapelExp = false := by
  cases data with
  | none =>
    cases h
    rfl
  | some data => exact readLines_excp_not_cortar h

end Spooler.TxtReader
