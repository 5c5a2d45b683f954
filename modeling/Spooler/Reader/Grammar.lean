import Spooler.Reader.TxtReader

/-!
# The grammar of command files

What a request packet is, line by line: skipped `cortar_papel_ecf` lines, the begin tag, the line
of the request type, what that type requires and the end tag (`IsPacket`). The kinds of lines are
those that `qualify_token` tells apart: `qualifyToken_eq_iff` for the tags,
`qualifyToken_eq_inParam_iff`, `qualifyToken_eq_inText_iff` and
`qualifyToken_inText_eq_inText_iff` for the lines of a parameter section.
-/

namespace Spooler.TxtReader

/-! ## Lines -/

/-- The line carries the tag that a phase collects. -/
def TagLine (line : Str) : InPhase → Prop
  | .inStart => line = PacketTags.beginTag
  | .inRequest => ∃ tp ∈ packetTypes, line = requestTag tp
  | .inSsid => sessionIdTag <+: line
  | .inCmdid => commandIdTag <+: line
  | .inStop => line = PacketTags.endTag
  | _ => False

/-- A line that stands for a tag wherever it is read. -/
def Reserved (line : Str) : Prop :=
  line = PacketTags.beginTag ∨ (∃ tp ∈ packetTypes, line = requestTag tp) ∨
    sessionIdTag <+: line ∨ commandIdTag <+: line ∨ line = PacketTags.endTag

instance (line : Str) : Decidable (Reserved line) :=
  inferInstanceAs (Decidable (_ ∨ (∃ tp ∈ packetTypes, line = requestTag tp) ∨ _ ∨ _ ∨ _))

theorem Reserved.exists_tagLine {line : Str} (h : Reserved line) : ∃ p, TagLine line p := by
  rcases h with h | h | h | h | h
  · exact ⟨.inStart, h⟩
  · exact ⟨.inRequest, h⟩
  · exact ⟨.inSsid, h⟩
  · exact ⟨.inCmdid, h⟩
  · exact ⟨.inStop, h⟩

/-- A `name:value` line. -/
def IsParamLine (line : Str) : Prop := ¬ Reserved line ∧ ':' ∈ line

/-- A line that opens a block of text. -/
def IsTextOpen (line : Str) : Prop :=
  ¬ Reserved line ∧ ':' ∉ line ∧ Str.contains paramMsgBegin line = true

/-- A line of a block of text. -/
def IsTextLine (line : Str) : Prop := ¬ Reserved line ∧ '\x7d' ∉ line

/-- A line that closes a block of text. -/
def IsTextClose (line : Str) : Prop := ¬ Reserved line ∧ '\x7d' ∈ line

section Tags

private theorem beginTag_ne_requestTag :
    ∀ tp ∈ packetTypes, PacketTags.beginTag ≠ requestTag tp := by decide

private theorem endTag_ne_requestTag :
    ∀ tp ∈ packetTypes, PacketTags.endTag ≠ requestTag tp := by decide

private theorem not_sessionIdTag_prefix_requestTag :
    ∀ tp ∈ packetTypes, ¬ sessionIdTag <+: requestTag tp := by decide

private theorem not_commandIdTag_prefix_requestTag :
    ∀ tp ∈ packetTypes, ¬ commandIdTag <+: requestTag tp := by decide

private theorem not_sessionIdTag_prefix_beginTag : ¬ sessionIdTag <+: PacketTags.beginTag := by
  decide

private theorem not_commandIdTag_prefix_beginTag : ¬ commandIdTag <+: PacketTags.beginTag := by
  decide

private theorem not_sessionIdTag_prefix_endTag : ¬ sessionIdTag <+: PacketTags.endTag := by decide

private theorem not_commandIdTag_prefix_endTag : ¬ commandIdTag <+: PacketTags.endTag := by decide

private theorem endTag_ne_beginTag : PacketTags.endTag ≠ PacketTags.beginTag := by decide

/-- No line carries both identifiers. -/
private theorem not_both_tags {line : Str} (hs : sessionIdTag <+: line) :
    ¬ commandIdTag <+: line := by
  intro hc
  have h := List.prefix_or_prefix_of_prefix hs hc
  revert h
  decide

end Tags

theorem validPacketType_iff {line : Str} :
    validPacketType line = true ↔ ∃ tp ∈ packetTypes, line = requestTag tp := by
  simp [validPacketType]

theorem take_eq_tag_iff {tag line : Str} : line.take tag.length = tag ↔ tag <+: line := by
  rw [List.prefix_iff_eq_take, eq_comm]

theorem contains_paramSeparator {line : Str} :
    Str.contains paramSeparator line = true ↔ ':' ∈ line :=
  Str.contains_singleton

theorem contains_paramMsgEnd {line : Str} :
    Str.contains paramMsgEnd line = true ↔ '\x7d' ∈ line :=
  Str.contains_singleton

/-! ## How the lines are qualified -/

theorem qualifyToken_beginTag (d : InPhase) : qualifyToken PacketTags.beginTag d = .inStart := by
  simp [qualifyToken]

theorem qualifyToken_requestTag {tp : PacketType} (h : tp ∈ packetTypes) (d : InPhase) :
    qualifyToken (requestTag tp) d = .inRequest := by
  have hv : validPacketType (requestTag tp) = true := validPacketType_iff.2 ⟨tp, h, rfl⟩
  simp [qualifyToken, hv, (beginTag_ne_requestTag tp h).symm]

theorem not_validPacketType {line : Str} (h : ∀ tp ∈ packetTypes, line ≠ requestTag tp) :
    validPacketType line = false := by
  rw [Bool.eq_false_iff, ne_eq, validPacketType_iff]
  rintro ⟨tp, ht, rfl⟩
  exact h tp ht rfl

theorem qualifyToken_ssid {line : Str} (h : sessionIdTag <+: line) (d : InPhase) :
    qualifyToken line d = .inSsid := by
  have hb : line ≠ PacketTags.beginTag := by
    rintro rfl
    exact not_sessionIdTag_prefix_beginTag h
  have hv : validPacketType line = false := by
    refine not_validPacketType ?_
    rintro tp ht rfl
    exact not_sessionIdTag_prefix_requestTag tp ht h
  simp [qualifyToken, hb, hv, take_eq_tag_iff.2 h]

theorem qualifyToken_cmdid {line : Str} (h : commandIdTag <+: line) (d : InPhase) :
    qualifyToken line d = .inCmdid := by
  have hb : line ≠ PacketTags.beginTag := by
    rintro rfl
    exact not_commandIdTag_prefix_beginTag h
  have hv : validPacketType line = false := by
    refine not_validPacketType ?_
    rintro tp ht rfl
    exact not_commandIdTag_prefix_requestTag tp ht h
  have hs : line.take sessionIdTag.length ≠ sessionIdTag := fun hs =>
    not_both_tags (take_eq_tag_iff.1 hs) h
  simp only [qualifyToken, hb, hv, hs, take_eq_tag_iff.2 h, if_false, if_true, Bool.false_eq_true]

theorem qualifyToken_endTag (d : InPhase) : qualifyToken PacketTags.endTag d = .inStop := by
  have hv : validPacketType PacketTags.endTag = false := not_validPacketType endTag_ne_requestTag
  have hs : PacketTags.endTag.take sessionIdTag.length ≠ sessionIdTag := fun hs =>
    not_sessionIdTag_prefix_endTag (take_eq_tag_iff.1 hs)
  have hc : PacketTags.endTag.take commandIdTag.length ≠ commandIdTag := fun hc =>
    not_commandIdTag_prefix_endTag (take_eq_tag_iff.1 hc)
  simp only [qualifyToken, endTag_ne_beginTag, hv, hs, hc, if_false, if_true, Bool.false_eq_true]

theorem qualifyToken_of_not_reserved {line : Str} (h : ¬ Reserved line) (d : InPhase) :
    qualifyToken line d =
      if ':' ∈ line then if d ≠ .inText then .inParam else d
      else if Str.contains paramMsgBegin line = true then .inText else d := by
  simp only [Reserved, not_or] at h
  obtain ⟨hb, hr, hs, hc, he⟩ := h
  have hv : validPacketType line = false := by
    rw [Bool.eq_false_iff, ne_eq, validPacketType_iff]
    exact hr
  rw [← take_eq_tag_iff] at hs hc
  simp only [qualifyToken, hb, hv, hs, hc, he, contains_paramSeparator, if_false,
    Bool.false_eq_true]

/-- A tag is recognised whatever the default phase. -/
theorem qualifyToken_tagLine {line : Str} {p : InPhase} (h : TagLine line p) (d : InPhase) :
    qualifyToken line d = p := by
  cases p with
  | inStart => exact h ▸ qualifyToken_beginTag d
  | inRequest =>
    obtain ⟨tp, ht, rfl⟩ := h
    exact qualifyToken_requestTag ht d
  | inSsid => exact qualifyToken_ssid h d
  | inCmdid => exact qualifyToken_cmdid h d
  | inStop => exact h ▸ qualifyToken_endTag d
  | _ => exact h.elim

/-- The default phases of the reader: none, or the one inside a block of text. -/
def IsDefault (d : InPhase) : Prop := d = .inUnknown ∨ d = .inText

/-- The phases that collect a tag. -/
def CollectsTag (p : InPhase) : Prop := p ≠ .inUnknown ∧ p ≠ .inParam ∧ p ≠ .inText

/-- **A line is qualified as a tag exactly when it carries it.** -/
theorem qualifyToken_eq_iff {line : Str} {d p : InPhase} (hd : IsDefault d) (hp : CollectsTag p) :
    qualifyToken line d = p ↔ TagLine line p := by
  refine ⟨fun h => ?_, fun h => qualifyToken_tagLine h d⟩
  by_cases hr : Reserved line
  · obtain ⟨q, hq⟩ := hr.exists_tagLine
    rw [qualifyToken_tagLine hq] at h
    exact h ▸ hq
  · obtain ⟨hu, hpar, htxt⟩ := hp
    rw [qualifyToken_of_not_reserved hr] at h
    rcases hd with rfl | rfl <;> split_ifs at h <;> simp_all

theorem qualifyToken_eq_inParam_iff {line : Str} :
    qualifyToken line .inUnknown = .inParam ↔ IsParamLine line := by
  by_cases hr : Reserved line
  · obtain ⟨q, hq⟩ := hr.exists_tagLine
    rw [qualifyToken_tagLine hq, IsParamLine]
    refine ⟨?_, fun h => absurd hr h.1⟩
    rintro rfl
    exact hq.elim
  · rw [qualifyToken_of_not_reserved hr, IsParamLine]
    split_ifs <;> simp_all

theorem qualifyToken_eq_inText_iff {line : Str} :
    qualifyToken line .inUnknown = .inText ↔ IsTextOpen line := by
  by_cases hr : Reserved line
  · obtain ⟨q, hq⟩ := hr.exists_tagLine
    rw [qualifyToken_tagLine hq, IsTextOpen]
    refine ⟨?_, fun h => absurd hr h.1⟩
    rintro rfl
    exact hq.elim
  · rw [qualifyToken_of_not_reserved hr, IsTextOpen]
    split_ifs <;> simp_all

/-- Inside a block of text, every line that is no tag is text. -/
theorem qualifyToken_inText_eq_inText_iff {line : Str} :
    qualifyToken line .inText = .inText ↔ ¬ Reserved line := by
  by_cases hr : Reserved line
  · obtain ⟨q, hq⟩ := hr.exists_tagLine
    rw [qualifyToken_tagLine hq]
    refine ⟨?_, fun h => absurd hr h⟩
    rintro rfl
    exact hq.elim
  · rw [qualifyToken_of_not_reserved hr]
    simp [hr]

/-! ## Packets -/

/-- The parameters of a command: `name:value` lines and blocks of text. -/
inductive ParamSection : List Str → Prop
  | nil : ParamSection []
  | param {line ls} : IsParamLine line → ParamSection ls → ParamSection (line :: ls)
  | text {opening body closing ls} : IsTextOpen opening → (∀ l ∈ body, IsTextLine l) →
      IsTextClose closing → ParamSection ls → ParamSection (opening :: (body ++ closing :: ls))

/-- What follows the line of a request type, the end tag included. -/
inductive Body : PacketType → List Str → Prop
  | beginSession : Body .tpBeginSession [PacketTags.endTag]
  | status : Body .tpStatus [PacketTags.endTag]
  | reset : Body .tpReset [PacketTags.endTag]
  | endSession {ssid} : sessionIdTag <+: ssid → Body .tpEndSession [ssid, PacketTags.endTag]
  | execut {ssid cmdid ps} : sessionIdTag <+: ssid → commandIdTag <+: cmdid → ParamSection ps →
      Body .tpExecut (ssid :: cmdid :: (ps ++ [PacketTags.endTag]))

/-- **A complete request packet**, behind any number of `cortar_papel_ecf` lines. -/
def IsPacket (ls : List Str) : Prop :=
  ∃ cuts tp body, (∀ l ∈ cuts, Str.strIequals l cortarPapelEcf = true) ∧ Body tp body ∧
    ls = cuts ++ PacketTags.beginTag :: requestTag tp :: body

theorem Body.mem_packetTypes {tp : PacketType} {body : List Str} (h : Body tp body) :
    tp ∈ packetTypes := by
  cases h <;> simp [packetTypes]

theorem requestTag_injective :
    ∀ tp ∈ packetTypes, ∀ tp' ∈ packetTypes, requestTag tp = requestTag tp' → tp = tp' := by
  decide

theorem beginTag_not_cut : Str.strIequals PacketTags.beginTag cortarPapelEcf = false := by decide

/-! ### Packets line by line -/

/-- Skipped lines and the begin tag, with the lines behind it as `P` says. -/
def Begun (P : List Str → Prop) (ls : List Str) : Prop :=
  ∃ cuts body, (∀ l ∈ cuts, Str.strIequals l cortarPapelEcf = true) ∧ P body ∧
    ls = cuts ++ PacketTags.beginTag :: body

section Begun

variable {P : List Str → Prop} {line : Str} {ls : List Str}

theorem not_begun_nil : ¬ Begun P [] := by
  rintro ⟨cuts, body, -, -, h⟩
  simp at h

theorem begun_cons_beginTag : Begun P (PacketTags.beginTag :: ls) ↔ P ls := by
  constructor
  · rintro ⟨cuts, body, hcuts, hb, h⟩
    cases cuts with
    | nil =>
      rw [List.nil_append, List.cons.injEq] at h
      exact h.2 ▸ hb
    | cons c cuts =>
      rw [List.cons_append, List.cons.injEq] at h
      have hc := hcuts c (List.mem_cons_self ..)
      rw [← h.1, beginTag_not_cut] at hc
      cases hc
  · intro hb
    exact ⟨[], ls, by simp, hb, rfl⟩

theorem begun_cons_cut (h : Str.strIequals line cortarPapelEcf = true) :
    Begun P (line :: ls) ↔ Begun P ls := by
  constructor
  · rintro ⟨cuts, body, hcuts, hb, e⟩
    cases cuts with
    | nil =>
      rw [List.nil_append, List.cons.injEq] at e
      rw [e.1, beginTag_not_cut] at h
      cases h
    | cons c cuts =>
      rw [List.cons_append, List.cons.injEq] at e
      exact ⟨cuts, body, fun l hl => hcuts l (List.mem_cons_of_mem _ hl), hb, e.2⟩
  · rintro ⟨cuts, body, hcuts, hb, rfl⟩
    exact ⟨line :: cuts, body, by simpa using ⟨h, hcuts⟩, hb, rfl⟩

theorem not_begun_cons (hb : line ≠ PacketTags.beginTag)
    (hc : Str.strIequals line cortarPapelEcf = false) : ¬ Begun P (line :: ls) := by
  rintro ⟨cuts, body, hcuts, -, e⟩
  cases cuts with
  | nil =>
    rw [List.nil_append, List.cons.injEq] at e
    exact hb e.1
  | cons c cuts =>
    rw [List.cons_append, List.cons.injEq] at e
    have h := hcuts c (List.mem_cons_self ..)
    rw [← e.1, hc] at h
    cases h

theorem isPacket_iff_begun :
    IsPacket ls ↔ Begun (fun b => ∃ tp body, Body tp body ∧ b = requestTag tp :: body) ls := by
  constructor
  · rintro ⟨cuts, tp, body, hcuts, hb, rfl⟩
    exact ⟨cuts, _, hcuts, ⟨tp, body, hb, rfl⟩, rfl⟩
  · rintro ⟨cuts, _, hcuts, ⟨tp, body, hb, rfl⟩, rfl⟩
    exact ⟨cuts, tp, body, hcuts, hb, rfl⟩

theorem not_isPacket_nil : ¬ IsPacket [] := by
  rw [isPacket_iff_begun]
  exact not_begun_nil

theorem isPacket_cons_beginTag :
    IsPacket (PacketTags.beginTag :: ls) ↔
      ∃ tp body, Body tp body ∧ ls = requestTag tp :: body := by
  rw [isPacket_iff_begun, begun_cons_beginTag]

theorem isPacket_cons_cut (h : Str.strIequals line cortarPapelEcf = true) :
    IsPacket (line :: ls) ↔ IsPacket ls := by
  rw [isPacket_iff_begun, isPacket_iff_begun, begun_cons_cut h]

theorem not_isPacket_cons (hb : line ≠ PacketTags.beginTag)
    (hc : Str.strIequals line cortarPapelEcf = false) : ¬ IsPacket (line :: ls) := by
  rw [isPacket_iff_begun]
  exact not_begun_cons hb hc

end Begun

theorem paramSection_cons {line : Str} {ls : List Str} :
    ParamSection (line :: ls) ↔ (IsParamLine line ∧ ParamSection ls) ∨
      (IsTextOpen line ∧ ∃ body closing ps, ls = body ++ closing :: ps ∧
        (∀ l ∈ body, IsTextLine l) ∧ IsTextClose closing ∧ ParamSection ps) := by
  constructor
  · intro h
    cases h with
    | param hl hs => exact .inl ⟨hl, hs⟩
    | text ho hb hc hs => exact .inr ⟨ho, _, _, _, rfl, hb, hc, hs⟩
  · rintro (⟨hl, hs⟩ | ⟨ho, body, closing, ps, rfl, hb, hc, hs⟩)
    · exact .param hl hs
    · exact .text ho hb hc hs

/-- The first line of a parameter section carries no tag. -/
theorem ParamSection.not_reserved {line : Str} {ls : List Str} (h : ParamSection (line :: ls)) :
    ¬ Reserved line := by
  rcases paramSection_cons.1 h with ⟨hl, -⟩ | ⟨ho, -⟩
  · exact hl.1
  · exact ho.1

theorem reserved_endTag : Reserved PacketTags.endTag := by simp [Reserved]

end Spooler.TxtReader
