import Spooler.Reader.Language
import Mathlib.Data.List.Forall2

/-!
# What a packet read says about its file

The lines that a reading took from the file (`consumed`), the words they form and the packet such a
word stands for (`Word`). A pass that goes well is one of the passes of `Pass`, and every pass keeps
what the phase says about the lines read so far (`Pass.seen`), so that **a packet read to its end
tag is the one its lines stand for** (`word_of_readPacket`).
-/

namespace Spooler.TxtReader

open Foundations

/-! ## Words -/

/-- An entry of the parameter section of a command. -/
inductive Entry
  | param (line : Str)
  | block (opening : Str) (body : List Str) (closing : Str)

namespace Entry

/-- The lines of an entry. -/
def lines : Entry → List Str
  | param line => [line]
  | block opening body closing => opening :: (body ++ [closing])

/-- A `name:value` line has a separator; a block of text starts at a line that has none. -/
def WellFormed : Entry → Prop
  | param line => ':' ∈ line
  | block opening _ closing =>
    Str.contains paramMsgBegin opening = true ∧ ':' ∉ opening ∧ '\x7d' ∈ closing

/-- The parameter an entry becomes: the line split at its first separator, or a `mensagem`. -/
def Becomes : Entry → Str × List Str → Prop
  | param line, p => ∃ value, line = p.1 ++ ':' :: value ∧ ':' ∉ p.1 ∧ p.2 = [value]
  | block _ _ _, p => p.1 = mensagem

end Entry

/-- Lines equal to `cortar_papel_ecf`, case and surrounding blanks aside. -/
def Cuts (cuts : List Str) : Prop :=
  ∀ l ∈ cuts, Str.upperString (Str.trim l) = Str.upperString (Str.trim cortarPapelEcf)

/-- The lines between the request type and the end tag, and the packet they stand for. -/
inductive Content : PacketType → List Str → RequestPacket → Prop
  | short {tp : PacketType} {pkt : RequestPacket} :
      tp = .tpBeginSession ∨ tp = .tpStatus ∨ tp = .tpReset → pkt.session = [] → pkt.id = [] →
      pkt.contents = [] → Content tp [] pkt
  | endSession {pkt : RequestPacket} : pkt.id = [] → pkt.contents = [] →
      Content .tpEndSession [sessionIdTag ++ pkt.session] pkt
  | execut {pkt : RequestPacket} {entries : List Entry} : (∀ e ∈ entries, e.WellFormed) →
      List.Forall₂ Entry.Becomes entries pkt.contents →
      Content .tpExecut ((sessionIdTag ++ pkt.session) :: (commandIdTag ++ pkt.id) ::
        entries.flatMap Entry.lines) pkt

/-- The lines are those of a packet: `cortar_papel_ecf` lines, the begin tag, the request type, what
it goes with and the end tag. -/
def Word (ls : List Str) (pkt : RequestPacket) : Prop :=
  ∃ cuts tp body, Cuts cuts ∧ pkt.type = some tp ∧ Content tp body pkt ∧
    ls = cuts ++ PacketTags.beginTag :: requestTag tp :: (body ++ [PacketTags.endTag])

/-- The lines the loop of `read_packet` reads before it ends. -/
def consumedLines (r : Reader) : List Str → List Str
  | [] => []
  | line :: rest =>
    line :: match step r line with
      | .error _ => []
      | .ok r' => if rest.isEmpty || r'.hasStop then [] else consumedLines r' rest

/-- The lines a call of `read_packet` takes from a file. -/
def consumed : Option Str → List Str
  | some data => consumedLines {} (getlines data)
  | none => []

/-! ## Passes -/

/-- A pass that goes well. -/
inductive Pass (r : Reader) (line : Str) : Reader → Prop
  | cut : r.prcPhase = .inIdle → Str.strIequals line cortarPapelEcf = true → Pass r line r
  | start : r.prcPhase = .inIdle → line = PacketTags.beginTag →
      Pass r line { r with prcPhase := .inRequest }
  | request {tp : PacketType} : r.prcPhase = .inRequest → tp ∈ packetTypes →
      line = requestTag tp →
      Pass r line { r with
        rqtTag := PacketTags.type tp
        pkt := { r.pkt with type := some tp }
        prcPhase := if tp = .tpEndSession ∨ tp = .tpExecut then .inSsid else .inStop }
  | ssid {value : Str} : r.prcPhase = .inSsid → line = sessionIdTag ++ value →
      Pass r line { r with
        pkt := { r.pkt with session := value }
        prcPhase := if r.rqtTag = PacketTags.type .tpEndSession then .inStop else .inCmdid }
  | cmdid {value : Str} : r.prcPhase = .inCmdid → line = commandIdTag ++ value →
      Pass r line { r with pkt := { r.pkt with id := value }, prcPhase := .inParam }
  | param {name value : Str} : r.prcPhase = .inParam → line = name ++ ':' :: value →
      ':' ∉ name → Pass r line { r with pkt := r.pkt.addParamKeyVal name value }
  | textOpen : r.prcPhase = .inParam → IsTextOpen line →
      Pass r line { r with
        text := { r.text with name := mensagem }, dflPhase := .inText, prcPhase := .inText }
  | textLine : r.prcPhase = .inText → Pass r line { r with text := r.text.addValue line }
  | textClose : r.prcPhase = .inText → '\x7d' ∈ line →
      Pass r line { r with
        dflPhase := .inUnknown, prcPhase := .inParam, pkt := r.pkt.addParam r.text }
  | endTag : r.prcPhase = .inParam → line = PacketTags.endTag →
      Pass r line { r with prcPhase := .inStop, hasStop := true }
  | stop : r.prcPhase = .inStop → line = PacketTags.endTag →
      Pass r line { r with hasStop := true }

section Passes

variable {r t : Reader} {line : Str}

theorem pass_inIdle (h : r.WF) (hp : r.prcPhase = .inIdle) (hs : step r line = .ok t) :
    Pass r line t := by
  by_cases hb : line = PacketTags.beginTag
  · subst hb
    cases (step_beginTag hp).symm.trans hs
    exact .start hp rfl
  · rcases hc : Str.strIequals line cortarPapelEcf with _ | _
    · cases (step_notBegin h hp hb hc).symm.trans hs
    · cases (step_cut h hp hb hc).symm.trans hs
      exact .cut hp hc

theorem pass_inRequest (h : r.WF) (hp : r.prcPhase = .inRequest) (hs : step r line = .ok t) :
    Pass r line t := by
  by_cases hr : ∃ tp ∈ packetTypes, line = requestTag tp
  · obtain ⟨tp, ht, rfl⟩ := hr
    cases (step_requestTag hp ht).symm.trans hs
    exact .request hp ht rfl
  · cases (step_notRequest h hp hr).symm.trans hs

theorem pass_inSsid (h : r.WF) (hp : r.prcPhase = .inSsid) (hs : step r line = .ok t) :
    Pass r line t := by
  by_cases hl : sessionIdTag <+: line
  · have hstep := step_ssid hp hl
    obtain ⟨value, rfl⟩ := hl
    rw [List.drop_left] at hstep
    cases hstep.symm.trans hs
    exact .ssid hp rfl
  · cases (step_notSsid h hp hl).symm.trans hs

theorem pass_inCmdid (h : r.WF) (hp : r.prcPhase = .inCmdid) (hs : step r line = .ok t) :
    Pass r line t := by
  by_cases hl : commandIdTag <+: line
  · have hstep := step_cmdid hp hl
    obtain ⟨value, rfl⟩ := hl
    rw [List.drop_left] at hstep
    cases hstep.symm.trans hs
    exact .cmdid hp rfl
  · cases (step_notCmdid h hp hl).symm.trans hs

theorem pass_inParam (h : r.WF) (hp : r.prcPhase = .inParam) (hs : step r line = .ok t) :
    Pass r line t := by
  have hu : r.dflPhase = .inUnknown := h.dflUnknown (by simp [hp])
  by_cases he : line = PacketTags.endTag
  · subst he
    cases (step_endTag hp).symm.trans hs
    exact .endTag hp rfl
  by_cases hl : IsParamLine line
  · obtain ⟨pos, hpos, hstep⟩ := step_paramLine hp hu hl
    obtain ⟨name, value, rfl, hname, rfl⟩ := Str.exists_of_find_singleton (c := ':') hpos
    have hvalue : (name ++ ':' :: value).drop (name.length + 1) = value := by simp
    rw [List.take_left, hvalue] at hstep
    cases hstep.symm.trans hs
    exact .param hp rfl hname
  by_cases ho : IsTextOpen line
  · cases (step_textOpen hp hu ho).symm.trans hs
    exact .textOpen hp ho
  · cases (step_notEntry hp hu he hl ho).symm.trans hs

theorem pass_inText (h : r.WF) (hp : r.prcPhase = .inText) (hs : step r line = .ok t) :
    Pass r line t := by
  have hd : r.dflPhase = .inText := by rw [h.dflPhase, if_pos hp]
  by_cases hr : Reserved line
  · cases (step_reserved hp hd hr).symm.trans hs
  by_cases hclose : '\x7d' ∈ line
  · cases (step_textClose hp hd ⟨hr, hclose⟩).symm.trans hs
    exact .textClose hp hclose
  · cases (step_textLine hp hd ⟨hr, hclose⟩).symm.trans hs
    exact .textLine hp

theorem pass_inStop (h : r.WF) (hp : r.prcPhase = .inStop) (hs : step r line = .ok t) :
    Pass r line t := by
  by_cases he : line = PacketTags.endTag
  · subst he
    cases (step_stop hp).symm.trans hs
    exact .stop hp rfl
  · cases (step_notStop h hp he).symm.trans hs

/-- **What a pass can do.** -/
theorem pass_of_step (h : r.WF) (hs : step r line = .ok t) : Pass r line t := by
  have hmem := h.prcPhase
  simp only [List.mem_cons, List.not_mem_nil, or_false] at hmem
  rcases hmem with hp | hp | hp | hp | hp | hp | hp
  · exact pass_inIdle h hp hs
  · exact pass_inRequest h hp hs
  · exact pass_inStop h hp hs
  · exact pass_inSsid h hp hs
  · exact pass_inCmdid h hp hs
  · exact pass_inParam h hp hs
  · exact pass_inText h hp hs

end Passes

/-! ## What the phases say about the lines read -/

/-- The lines of an execute request up to the command identifier, and those of some entries. -/
def Started (cuts : List Str) (pkt : RequestPacket) (entries : List Entry) : List Str :=
  cuts ++ PacketTags.beginTag :: requestTag .tpExecut :: (sessionIdTag ++ pkt.session) ::
    (commandIdTag ++ pkt.id) :: entries.flatMap Entry.lines

/-- The entries read so far, and what they became. -/
structure Entries (entries : List Entry) (pkt : RequestPacket) : Prop where
  type : pkt.type = some .tpExecut
  wellFormed : ∀ e ∈ entries, e.WellFormed
  becomes : List.Forall₂ Entry.Becomes entries pkt.contents

/-- What the phase of the reader says about the lines `ls` it has read. -/
def Seen (ls : List Str) (r : Reader) : Prop :=
  match r.prcPhase with
  | .inIdle => Cuts ls ∧ r.pkt = {}
  | .inRequest => ∃ cuts, Cuts cuts ∧ ls = cuts ++ [PacketTags.beginTag] ∧ r.pkt = {}
  | .inStop => Word (ls ++ [PacketTags.endTag]) r.pkt
  | .inSsid => ∃ cuts tp, Cuts cuts ∧ (tp = .tpEndSession ∨ tp = .tpExecut) ∧
      ls = cuts ++ [PacketTags.beginTag, requestTag tp] ∧ r.rqtTag = PacketTags.type tp ∧
      r.pkt = { type := some tp }
  | .inCmdid => ∃ cuts ssid, Cuts cuts ∧
      ls = cuts ++ [PacketTags.beginTag, requestTag .tpExecut, sessionIdTag ++ ssid] ∧
      r.pkt = { type := some .tpExecut, session := ssid }
  | .inParam => ∃ cuts entries, Cuts cuts ∧ Entries entries r.pkt ∧
      ls = Started cuts r.pkt entries
  | .inText => ∃ cuts entries opening body, Cuts cuts ∧ Entries entries r.pkt ∧
      IsTextOpen opening ∧ r.text.name = mensagem ∧
      ls = Started cuts r.pkt entries ++ opening :: body
  | _ => False

section Seen

variable {r t : Reader} {line : Str} {ls : List Str}

theorem Cuts.concat (h : Cuts ls) (hc : Str.strIequals line cortarPapelEcf = true) :
    Cuts (ls ++ [line]) := by
  intro l hl
  rcases List.mem_append.1 hl with hl | hl
  · exact h l hl
  · rw [List.mem_singleton.1 hl]
    exact Str.strIequals_iff.1 hc

theorem Entries.concat {entries : List Entry} {pkt pkt' : RequestPacket} {e : Entry}
    {p : Str × List Str} (h : Entries entries pkt) (ht : pkt'.type = pkt.type)
    (hc : pkt'.contents = pkt.contents ++ [p]) (he : e.WellFormed) (hp : e.Becomes p) :
    Entries (entries ++ [e]) pkt' := by
  refine ⟨ht.trans h.type, fun f hf => ?_, ?_⟩
  · rcases List.mem_append.1 hf with hf | hf
    · exact h.wellFormed f hf
    · exact List.mem_singleton.1 hf ▸ he
  · rw [hc]
    exact List.rel_append h.becomes (.cons hp .nil)

/-- The end tag completes the word of an execute request. -/
theorem Entries.word {cuts : List Str} {entries : List Entry} {pkt : RequestPacket}
    (h : Entries entries pkt) (hc : Cuts cuts) :
    Word (Started cuts pkt entries ++ [PacketTags.endTag]) pkt :=
  ⟨cuts, .tpExecut, _, hc, h.type, .execut h.wellFormed h.becomes, by simp [Started]⟩

/-- **A pass keeps what the phase says, and the pass that reads the end tag completes the word.** -/
theorem Pass.seen (h : Pass r line t) (hstop : r.hasStop = false) (hs : Seen ls r) :
    if t.hasStop = true then Word (ls ++ [line]) t.pkt else Seen (ls ++ [line]) t := by
  cases h with
  | cut hp hc =>
    rw [hstop, if_neg Bool.false_ne_true]
    simp only [Seen, hp] at hs ⊢
    exact ⟨hs.1.concat hc, hs.2⟩
  | start hp hl =>
    simp only [hstop, Bool.false_eq_true, if_false]
    simp only [Seen, hp] at hs ⊢
    exact ⟨ls, hs.1, by rw [hl], hs.2⟩
  | @request tp hp ht hl =>
    simp only [hstop, Bool.false_eq_true, if_false]
    simp only [Seen, hp] at hs
    obtain ⟨cuts, hcuts, rfl, hpkt⟩ := hs
    by_cases htp : tp = .tpEndSession ∨ tp = .tpExecut
    · simp only [if_pos htp, Seen]
      exact ⟨cuts, tp, hcuts, htp, by simp [hl], rfl, by rw [hpkt]⟩
    · simp only [if_neg htp, Seen]
      have hshort : tp = .tpBeginSession ∨ tp = .tpStatus ∨ tp = .tpReset := by
        simp only [packetTypes, List.mem_cons, List.not_mem_nil, or_false] at ht
        tauto
      exact ⟨cuts, tp, [], hcuts, rfl, .short hshort (by rw [hpkt]) (by rw [hpkt])
        (by rw [hpkt]; rfl), by simp [hl]⟩
  | @ssid value hp hl =>
    simp only [hstop, Bool.false_eq_true, if_false]
    simp only [Seen, hp] at hs
    obtain ⟨cuts, tp, hcuts, rfl | rfl, rfl, htag, hpkt⟩ := hs
    · simp only [if_pos htag, Seen]
      have hc : Content .tpEndSession [sessionIdTag ++ value] { r.pkt with session := value } :=
        @Content.endSession { r.pkt with session := value } (by rw [hpkt]) (by rw [hpkt]; rfl)
      exact ⟨cuts, .tpEndSession, [line], hcuts, by rw [hpkt], hl ▸ hc, by simp⟩
    · have hne : r.rqtTag ≠ PacketTags.type .tpEndSession := by
        rw [htag]
        decide
      simp only [if_neg hne, Seen]
      exact ⟨cuts, value, hcuts, by simp [hl], by rw [hpkt]⟩
  | @cmdid value hp hl =>
    simp only [hstop, Bool.false_eq_true, if_false]
    simp only [Seen, hp] at hs ⊢
    obtain ⟨cuts, ssid, hcuts, rfl, hpkt⟩ := hs
    refine ⟨cuts, [], hcuts, ⟨by rw [hpkt], by simp, ?_⟩, by simp [Started, hl, hpkt]⟩
    rw [hpkt]
    exact .nil
  | @param name value hp hl hn =>
    simp only [hstop, Bool.false_eq_true, if_false]
    simp only [Seen, hp] at hs ⊢
    obtain ⟨cuts, entries, hcuts, hentries, rfl⟩ := hs
    refine ⟨cuts, entries ++ [.param line], hcuts, ?_, ?_⟩
    · exact hentries.concat (Packet.addParamKeyVal_type ..) (Packet.contents_addParamKeyVal ..)
        (by simp [Entry.WellFormed, hl]) ⟨value, hl, hn, rfl⟩
    · simp [Started, Entry.lines]
  | textOpen hp ho =>
    simp only [hstop, Bool.false_eq_true, if_false]
    simp only [Seen, hp] at hs ⊢
    obtain ⟨cuts, entries, hcuts, hentries, rfl⟩ := hs
    exact ⟨cuts, entries, line, [], hcuts, hentries, ho, trivial, rfl⟩
  | textLine hp =>
    simp only [hstop, Bool.false_eq_true, if_false]
    simp only [Seen, hp] at hs ⊢
    obtain ⟨cuts, entries, opening, body, hcuts, hentries, ho, hname, rfl⟩ := hs
    exact ⟨cuts, entries, opening, body ++ [line], hcuts, hentries, ho, hname, by simp⟩
  | textClose hp hc =>
    simp only [hstop, Bool.false_eq_true, if_false]
    simp only [Seen, hp] at hs ⊢
    obtain ⟨cuts, entries, opening, body, hcuts, hentries, ho, hname, rfl⟩ := hs
    refine ⟨cuts, entries ++ [.block opening body line], hcuts, ?_, ?_⟩
    · exact hentries.concat (Packet.addParam_type ..) (Packet.contents_addParam ..)
        ⟨ho.2.2, ho.2.1, hc⟩ hname
    · simp [Started, Entry.lines]
  | endTag hp he =>
    simp only [if_true]
    simp only [Seen, hp] at hs
    obtain ⟨cuts, entries, hcuts, hentries, rfl⟩ := hs
    rw [he]
    exact hentries.word hcuts
  | stop hp he =>
    simp only [if_true]
    simp only [Seen, hp] at hs
    rw [he]
    exact hs

end Seen

/-! ## The reading of a file -/

section Readings

variable {r t : Reader} {line : Str} {rest : List Str}

/-- A line that is refused ends the reading. -/
theorem reader_readLines_error {e : Excp} (h : step r line = .error e) :
    (readLines r (line :: rest)).reader = r := by
  simp only [readLines, h]

/-- A line that is read, and is not the end tag, leaves the reading to the lines behind it. -/
theorem reader_readLines_ok (h : step r line = .ok t) (hstop : t.hasStop = false) :
    (readLines r (line :: rest)).reader = (readLines t rest).reader := by
  cases rest with
  | nil => simp [readLines, h]
  | cons l rest => simp [readLines, h, hstop]

theorem reader_readLines_stop (h : step r line = .ok t) (hstop : t.hasStop = true) :
    (readLines r (line :: rest)).reader = t := by
  simp only [readLines, h, hstop, Bool.or_true, if_true]

/-- **What every pass keeps holds when the reading ends**, however it ends. -/
theorem readLines_keeps {P : Reader → Prop}
    (hpass : ∀ {r t : Reader} {line : Str}, Pass r line t → P r → P t) (h : r.WF) (hr : P r)
    (ls : List Str) : P (readLines r ls).reader := by
  induction ls generalizing r with
  | nil => exact hr
  | cons line rest ih =>
    rcases hstep : step r line with e | t
    · rw [reader_readLines_error hstep]
      exact hr
    · have ht : P t := hpass (pass_of_step h hstep) hr
      rcases hstop : t.hasStop with _ | _
      · rw [reader_readLines_ok hstep hstop]
        exact ih (derivatives_residual.keep h hstep hstop) ht
      · rw [reader_readLines_stop hstep hstop]
        exact ht

end Readings

/-- **A packet read to its end tag is the one its lines stand for**, from any phase on. -/
theorem word_of_readLines {r : Reader} {p ls : List Str} (h : r.WF) (hseen : Seen p r)
    (hexcp : (readLines r ls).excp = none) (hstop : (readLines r ls).reader.hasStop = true) :
    Word (p ++ consumedLines r ls) (readLines r ls).reader.pkt := by
  induction ls generalizing r p with
  | nil => cases h.hasStop.symm.trans hstop
  | cons line rest ih =>
    simp only [readLines] at hexcp hstop ⊢
    rcases hstep : step r line with e | t
    · simp [hstep] at hexcp
    · have hpass := (pass_of_step h hstep).seen h.hasStop hseen
      simp only [hstep, consumedLines] at hexcp hstop ⊢
      rcases ht : t.hasStop with _ | _
      · simp only [ht, Bool.or_false, Bool.false_eq_true, if_false] at hexcp hstop hpass ⊢
        have hwf : t.WF := derivatives_residual.keep h hstep ht
        rcases hrest : rest.isEmpty with _ | _
        · simp only [hrest, Bool.false_eq_true, if_false] at hexcp hstop ⊢
          rw [List.append_cons]
          exact ih hwf hpass hexcp hstop
        · simp only [hrest, if_true] at hstop
          cases ht.symm.trans hstop
      · simpa only [ht, Bool.or_true, if_true] using hpass

/-- **What `read_packet` returns from a file is what the lines it took stand for.** -/
theorem word_of_readPacket {file : Option Str} (hexcp : (readPacket file).excp = none)
    (hstop : (readPacket file).reader.hasStop = true) :
    Word (consumed file) (readPacket file).reader.pkt := by
  cases file with
  | none => cases hexcp
  | some data =>
    have hseen : Seen [] {} := ⟨fun _ hl => absurd hl List.not_mem_nil, rfl⟩
    exact word_of_readLines wf_init hseen hexcp hstop

/-- An execute request with a parameter and a block of text, behind a line that is skipped. -/
theorem word_of_readPacket_execut :
    Word (consumed (some (unlines [" CORTAR_papel_ecf".toList, "<ecf_sgi_begin>".toList,
        "ecf_execute_request".toList, "session_id:sgi_id_0".toList, "command_id:x".toList,
        "a:b:c".toList, "mensagem\x7b".toList, "um".toList, "\x7d".toList,
        "<ecf_sgi_end>".toList, "resto".toList])))
      (readPacket (some (unlines [" CORTAR_papel_ecf".toList, "<ecf_sgi_begin>".toList,
        "ecf_execute_request".toList, "session_id:sgi_id_0".toList, "command_id:x".toList,
        "a:b:c".toList, "mensagem\x7b".toList, "um".toList, "\x7d".toList,
        "<ecf_sgi_end>".toList, "resto".toList]))).reader.pkt :=
  word_of_readPacket (by decide) (by decide)

end Spooler.TxtReader
