import Spooler.Reader.Language

/-!
# Blocks of text

The parameters of an execute request as its author means them, a list of `name:value` lines and
blocks of text (`Segment`), and as `read_packet` collects them (`collected`): the object that
gathers the lines of a block outlives the block, so every block comes with the lines of the blocks
before it. `readPacket_request` is the reading of a whole request, and
**`readsMessages_iff`**: the request is accepted and every block comes with its own lines exactly
when no `name:value` line is taken for an identifier and all blocks but the last are empty.
-/

namespace Spooler.TxtReader

open Foundations

/-! ## Requests with blocks of text -/

/-- A line inside a block of text. -/
structure TextLine where
  text : Str
  isText : IsTextLine text
  oneLine : '\n' ∉ text

/-- A `name:value` line. -/
structure NameValue where
  name : Str
  value : Str
  noSeparator : ':' ∉ name
  oneLine : '\n' ∉ name ++ ':' :: value

/-- The line starts as those of the two identifiers do. -/
def NameValue.IsIdentifier (p : NameValue) : Prop :=
  sessionIdTag <+: p.name ++ ':' :: p.value ∨ commandIdTag <+: p.name ++ ':' :: p.value

/-- A `name:value` line that is none of the two identifiers: those are tags. -/
structure ParamLine where
  name : Str
  value : Str
  noSeparator : ':' ∉ name
  notTag : ¬ Reserved (name ++ ':' :: value)
  oneLine : '\n' ∉ name ++ ':' :: value

/-- A parameter of a request. -/
inductive Segment
  | param (p : NameValue)
  | block (ls : List TextLine)

namespace Segment

/-- The lines of the file. -/
def lines : Segment → List Str
  | param p => [p.name ++ ':' :: p.value]
  | block ls => paramMsgBegin :: (ls.map TextLine.text ++ [paramMsgEnd])

/-- The parameter that is meant: its name and its values. -/
def content : Segment → Str × List Str
  | param p => (p.name, [p.value])
  | block ls => (mensagem, ls.map TextLine.text)

/-- The blocks of a list of segments. -/
def blocks : List Segment → List (List TextLine)
  | [] => []
  | param _ :: segs => blocks segs
  | block ls :: segs => ls :: blocks segs

/-- The parameters as they are collected, `acc` being the lines gathered so far. -/
def collected (acc : List Str) : List Segment → List (Str × List Str)
  | [] => []
  | param p :: segs => (p.name, [p.value]) :: collected acc segs
  | block ls :: segs =>
    let acc := acc ++ ls.map TextLine.text
    (mensagem, acc) :: collected acc segs

theorem lines_oneLine (seg : Segment) : ∀ l ∈ seg.lines, '\n' ∉ l := by
  cases seg with
  | param p => simpa [lines] using p.oneLine
  | block ls =>
    intro l hl
    simp only [lines, List.mem_cons, List.mem_append, List.mem_map, List.not_mem_nil,
      or_false] at hl
    rcases hl with rfl | ⟨t, -, rfl⟩ | rfl
    · decide
    · exact t.oneLine
    · decide

/-- **What is collected is what is meant** when nothing has been gathered, or nothing is left to
add to, and every block but the last is empty. -/
theorem collected_eq_iff (acc : List Str) (segs : List Segment) :
    collected acc segs = segs.map content ↔
      (blocks segs = [] ∨ acc = []) ∧ ∀ b ∈ (blocks segs).dropLast, b = [] := by
  induction segs generalizing acc with
  | nil => simp [collected, blocks]
  | cons seg segs ih =>
    cases seg with
    | param p => simp [collected, blocks, content, ih]
    | block ls =>
      have hnil : ls.map TextLine.text = [] ↔ ls = [] := List.map_eq_nil_iff
      simp only [collected, content, blocks, List.map_cons, List.cons.injEq, Prod.mk.injEq,
        true_and, ih, List.append_eq_nil_iff, hnil, List.append_left_eq_self, reduceCtorEq,
        false_or]
      rcases hb : blocks segs with _ | ⟨b, bs⟩
      · simp
      · simp only [reduceCtorEq, false_or, List.dropLast_cons_cons, List.forall_mem_cons]
        constructor
        · rintro ⟨hacc, ⟨-, hls⟩, hrest⟩
          exact ⟨hacc, hls, hrest⟩
        · rintro ⟨hacc, hls, hrest⟩
          exact ⟨hacc, ⟨hacc, hls⟩, hrest⟩

end Segment

/-- The lines in front of the parameters of an execute request. -/
def header (ssid cmdid : Str) : List Str :=
  [PacketTags.beginTag, requestTag .tpExecut, sessionIdTag ++ ssid, commandIdTag ++ cmdid]

/-- The file of an execute request; `tail` is what follows the end tag, with the newline between
them, if anything does. -/
def requestFile (ssid cmdid : Str) (segs : List Segment) (tail : Option Str) : Str :=
  unlines (header ssid cmdid ++ segs.flatMap Segment.lines) ++
    (PacketTags.endTag ++ tail.elim [] ('\n' :: ·))

/-! ## Their reading -/

/-- The reader is between two parameters, having gathered the lines `acc`. -/
structure BetweenParams (acc : List Str) (r : Reader) : Prop where
  prcPhase : r.prcPhase = .inParam
  dflPhase : r.dflPhase = .inUnknown
  hasStop : r.hasStop = false
  text : r.text.val = acc

theorem scan_step {r t : Reader} {line : Str} (h : step r line = .ok t) (ht : t.hasStop = false)
    (ls : List Str) : scanner.scan r (line :: ls) = scanner.scan t ls := by
  simp [Scanner.scan, scanner, h, ht]

/-- The lines of a block, from the opening line to the closing one. -/
theorem scan_textLines (ls : List TextLine) {r : Reader} (hp : r.prcPhase = .inText)
    (hd : r.dflPhase = .inText) (hs : r.hasStop = false) (us : List Str) :
    scanner.scan r (ls.map TextLine.text ++ us) =
      scanner.scan { r with text := { r.text with val := r.text.val ++ ls.map TextLine.text } }
        us := by
  induction ls generalizing r with
  | nil => simp
  | cons l ls ih =>
    rw [List.map_cons, List.cons_append, scan_step (step_textLine hp hd l.isText) hs,
      ih (by exact hp) (by exact hd) (by exact hs)]
    simp [PktParam.addValue]

theorem isTextOpen_paramMsgBegin : IsTextOpen paramMsgBegin := ⟨by decide, by decide, by decide⟩

theorem isTextClose_paramMsgEnd : IsTextClose paramMsgEnd := ⟨by decide, by decide⟩

/-- **A block is read**: the packet gains its lines, behind those gathered before. -/
theorem scan_block {opening closing : Str} (ho : IsTextOpen opening) (ls : List TextLine)
    (hc : IsTextClose closing) {acc : List Str} {r : Reader} (h : BetweenParams acc r)
    (us : List Str) :
    ∃ t, BetweenParams (acc ++ ls.map TextLine.text) t ∧
      scanner.scan r (opening :: (ls.map TextLine.text ++ closing :: us)) = scanner.scan t us ∧
      t.pkt.contents = r.pkt.contents ++ [(mensagem, acc ++ ls.map TextLine.text)] ∧
      t.pkt.id = r.pkt.id := by
  let rOpen : Reader := { r with
    text := { r.text with name := mensagem }, dflPhase := .inText, prcPhase := .inText }
  let rText : Reader := { rOpen with
    text := { rOpen.text with val := rOpen.text.val ++ ls.map TextLine.text } }
  let rClose : Reader := { rText with
    dflPhase := .inUnknown, prcPhase := .inParam, pkt := rText.pkt.addParam rText.text }
  have hopen : step r opening = .ok rOpen := step_textOpen h.prcPhase h.dflPhase ho
  have hbody : scanner.scan rOpen (ls.map TextLine.text ++ closing :: us) =
      scanner.scan rText (closing :: us) :=
    scan_textLines (r := rOpen) ls rfl rfl h.hasStop _
  have hclose : step rText closing = .ok rClose := step_textClose (r := rText) rfl rfl hc
  refine ⟨rClose, ⟨rfl, rfl, h.hasStop, ?_⟩, ?_, ?_, rfl⟩
  · exact congrArg (· ++ ls.map TextLine.text) h.text
  · rw [scan_step hopen h.hasStop, hbody, scan_step hclose h.hasStop]
  · simp [rClose, rText, rOpen, h.text]

/-- Of the tags, those of the two identifiers alone have a separator. -/
theorem NameValue.reserved_iff (p : NameValue) :
    Reserved (p.name ++ ':' :: p.value) ↔ p.IsIdentifier := by
  have hmem : ':' ∈ p.name ++ ':' :: p.value := by simp
  constructor
  · rintro (h | ⟨tp, htp, h⟩ | h | h | h)
    · rw [h] at hmem
      exact absurd hmem (by decide)
    · have htags : ∀ tp ∈ packetTypes, ':' ∉ requestTag tp := by decide
      rw [h] at hmem
      exact absurd hmem (htags tp htp)
    · exact .inl h
    · exact .inr h
    · rw [h] at hmem
      exact absurd hmem (by decide)
  · rintro (h | h)
    · exact .inr (.inr (.inl h))
    · exact .inr (.inr (.inr (.inl h)))

/-- A `name:value` line is read. -/
theorem scan_param {name value : Str} (hname : ':' ∉ name)
    (htag : ¬ Reserved (name ++ ':' :: value)) {acc : List Str} {r : Reader}
    (h : BetweenParams acc r) (us : List Str) :
    ∃ t, BetweenParams acc t ∧
      scanner.scan r ((name ++ ':' :: value) :: us) = scanner.scan t us ∧
      t.pkt.contents = r.pkt.contents ++ [(name, [value])] ∧ t.pkt.id = r.pkt.id := by
  have hl : IsParamLine (name ++ ':' :: value) := ⟨htag, by simp⟩
  obtain ⟨pos, hpos, hstep⟩ := step_paramLine h.prcPhase h.dflPhase hl
  have hlen : pos = name.length := by
    have hf : Str.find paramSeparator (name ++ ':' :: value) = some name.length :=
      Str.find_singleton_append hname value
    exact Option.some.inj (hpos.symm.trans hf)
  subst hlen
  refine ⟨_, ?_, scan_step hstep h.hasStop us, ?_, rfl⟩
  · exact ⟨h.prcPhase, h.dflPhase, h.hasStop, h.text⟩
  · simp

/-- The line of an identifier is refused between two parameters. -/
theorem scan_identifier {p : NameValue} (hp : p.IsIdentifier) {acc : List Str} {r : Reader}
    (h : BetweenParams acc r) (us : List Str) :
    ∃ e, scanner.scan r ((p.name ++ ':' :: p.value) :: us) = .failed e r us := by
  have hr := p.reserved_iff.2 hp
  have hend : p.name ++ ':' :: p.value ≠ PacketTags.endTag := by
    intro heq
    have hmem : ':' ∈ p.name ++ ':' :: p.value := by simp
    rw [heq] at hmem
    exact absurd hmem (by decide)
  refine ⟨.spooler .rqtReaderExp
    (msgUnexpectedToken ++ ": ".toList ++ (p.name ++ ':' :: p.value)), ?_⟩
  simp only [Scanner.scan, scanner,
    step_notEntry h.prcPhase h.dflPhase hend (fun hl => hl.1 hr) fun ho => ho.1 hr]

/-- **One parameter is read**: the packet gains it, a block with all lines gathered so far. -/
theorem scan_segment {seg : Segment} (hseg : ∀ p, seg = .param p → ¬ p.IsIdentifier)
    {acc : List Str} {r : Reader} (h : BetweenParams acc r) (us : List Str) :
    ∃ acc' t, BetweenParams acc' t ∧ scanner.scan r (seg.lines ++ us) = scanner.scan t us ∧
      ∀ segs, r.pkt.contents ++ Segment.collected acc (seg :: segs) =
        t.pkt.contents ++ Segment.collected acc' segs := by
  cases seg with
  | param p =>
    have htag : ¬ Reserved (p.name ++ ':' :: p.value) := fun hr => hseg p rfl (p.reserved_iff.1 hr)
    obtain ⟨t, ht, hscan, hcont, -⟩ := scan_param p.noSeparator htag h us
    refine ⟨acc, t, ht, hscan, fun segs => ?_⟩
    rw [hcont, Segment.collected, List.append_assoc]
    rfl
  | block ls =>
    obtain ⟨t, ht, hscan, hcont, -⟩ :=
      scan_block isTextOpen_paramMsgBegin ls isTextClose_paramMsgEnd h us
    refine ⟨_, t, ht, ?_, fun segs => ?_⟩
    · simpa only [Segment.lines, List.cons_append, List.append_assoc, List.nil_append] using hscan
    · rw [hcont, Segment.collected, List.append_assoc]
      rfl

/-- No line among the parameters is taken for an identifier. -/
def Segment.NoIdentifier (segs : List Segment) : Prop := ∀ p, .param p ∈ segs → ¬ p.IsIdentifier

/-- **All parameters are read.** -/
theorem scan_segments {segs : List Segment} (hsegs : Segment.NoIdentifier segs) {acc : List Str}
    {r : Reader} (h : BetweenParams acc r) (us : List Str) :
    ∃ acc' t, BetweenParams acc' t ∧
      scanner.scan r (segs.flatMap Segment.lines ++ us) = scanner.scan t us ∧
      t.pkt.contents = r.pkt.contents ++ Segment.collected acc segs := by
  induction segs generalizing acc r with
  | nil => exact ⟨acc, r, h, rfl, by simp [Segment.collected]⟩
  | cons seg segs ih =>
    have hseg : ∀ p, seg = .param p → ¬ p.IsIdentifier := by
      rintro p rfl
      exact hsegs p List.mem_cons_self
    have htail : Segment.NoIdentifier segs := fun p hp => hsegs p (List.mem_cons_of_mem _ hp)
    obtain ⟨acc₁, t₁, h₁, hscan₁, hc₁⟩ := scan_segment hseg h (segs.flatMap Segment.lines ++ us)
    obtain ⟨acc₂, t₂, h₂, hscan₂, hc₂⟩ := ih htail h₁
    refine ⟨acc₂, t₂, h₂, ?_, ?_⟩
    · rw [List.flatMap_cons, List.append_assoc, hscan₁, hscan₂]
    · rw [hc₂, hc₁]

/-- The first line that is taken for an identifier is refused. -/
theorem scan_segments_identifier {segs : List Segment} (hsegs : ¬ Segment.NoIdentifier segs)
    {acc : List Str} {r : Reader} (h : BetweenParams acc r) (us : List Str) :
    ∃ e t rest, scanner.scan r (segs.flatMap Segment.lines ++ us) = .failed e t rest := by
  induction segs generalizing acc r with
  | nil => exact absurd (fun p hp => absurd hp List.not_mem_nil) hsegs
  | cons seg segs ih =>
    rw [List.flatMap_cons, List.append_assoc]
    by_cases hseg : ∀ p, seg = .param p → ¬ p.IsIdentifier
    · have htail : ¬ Segment.NoIdentifier segs := by
        intro htail
        refine hsegs fun p hp => ?_
        rcases List.mem_cons.1 hp with heq | hp
        · exact hseg p heq.symm
        · exact htail p hp
      obtain ⟨acc', t, ht, hscan, -⟩ := scan_segment hseg h (segs.flatMap Segment.lines ++ us)
      rw [hscan]
      exact ih htail ht
    · push Not at hseg
      obtain ⟨p, rfl, hp⟩ := hseg
      obtain ⟨e, hscan⟩ := scan_identifier hp h (segs.flatMap Segment.lines ++ us)
      exact ⟨e, _, _, hscan⟩

/-- `name:value` lines leave what was gathered alone. -/
theorem scan_params (ps : List ParamLine) {acc : List Str} {r : Reader} (h : BetweenParams acc r)
    (us : List Str) :
    ∃ t, BetweenParams acc t ∧
      scanner.scan r (ps.map (fun p => p.name ++ ':' :: p.value) ++ us) = scanner.scan t us ∧
      t.pkt.contents = r.pkt.contents ++ ps.map (fun p => (p.name, [p.value])) ∧
      t.pkt.id = r.pkt.id := by
  induction ps generalizing r with
  | nil => exact ⟨r, h, rfl, by simp, rfl⟩
  | cons p ps ih =>
    obtain ⟨t₁, h₁, hscan₁, hc₁, hid₁⟩ :=
      scan_param p.noSeparator p.notTag h (ps.map (fun p => p.name ++ ':' :: p.value) ++ us)
    obtain ⟨t₂, h₂, hscan₂, hc₂, hid₂⟩ := ih h₁
    refine ⟨t₂, h₂, hscan₁.trans hscan₂, ?_, hid₂.trans hid₁⟩
    rw [hc₂, hc₁, List.append_assoc]
    rfl

/-- The lines in front of the parameters lead to an empty packet of the request. -/
theorem scan_header (ssid cmdid : Str) (us : List Str) :
    ∃ t, BetweenParams [] t ∧ t.pkt.contents = [] ∧ t.pkt.id = cmdid ∧
      scanner.scan {} (header ssid cmdid ++ us) = scanner.scan t us := by
  have hne : PacketTags.type .tpExecut ≠ PacketTags.type .tpEndSession := by decide
  simp only [header, List.cons_append, List.nil_append]
  rw [scan_step (step_beginTag rfl) rfl,
    scan_step (step_requestTag rfl (show PacketType.tpExecut ∈ packetTypes by decide)) rfl,
    scan_step (step_ssid rfl (List.prefix_append _ _)) rfl,
    scan_step (step_cmdid (by simp [hne]) (List.prefix_append _ _)) rfl]
  exact ⟨_, ⟨rfl, rfl, rfl, rfl⟩, rfl, List.drop_left, rfl⟩

/-- A line `cortar_papel_ecf` leaves the reader as it is. -/
theorem step_init_cut {l : Str} (h : Str.strIequals l cortarPapelEcf = true) :
    step {} l = .ok {} := by
  refine step_cut wf_init rfl ?_ h
  rintro rfl
  revert h
  decide

/-- Such lines are skipped in front of a packet. -/
theorem scan_cuts {cuts : List Str} (h : ∀ l ∈ cuts, Str.strIequals l cortarPapelEcf = true)
    (us : List Str) : scanner.scan {} (cuts ++ us) = scanner.scan {} us := by
  induction cuts with
  | nil => rfl
  | cons l cuts ih =>
    rw [List.forall_mem_cons] at h
    rw [List.cons_append, scan_step (step_init_cut h.1) rfl, ih h.2]

theorem header_oneLine {ssid cmdid : Str} (hs : '\n' ∉ ssid) (hc : '\n' ∉ cmdid) :
    ∀ l ∈ header ssid cmdid, '\n' ∉ l := by
  intro l hl
  simp only [header, List.mem_cons, List.not_mem_nil, or_false] at hl
  rcases hl with rfl | rfl | rfl | rfl
  · decide
  · decide
  · rw [List.mem_append, not_or]
    exact ⟨by decide, hs⟩
  · rw [List.mem_append, not_or]
    exact ⟨by decide, hc⟩

/-- The lines of the file of a request. -/
theorem getlines_requestFile {ssid cmdid : Str} (hs : '\n' ∉ ssid) (hc : '\n' ∉ cmdid)
    (segs : List Segment) (tail : Option Str) :
    ∃ rest, getlines (requestFile ssid cmdid segs tail) =
      header ssid cmdid ++ (segs.flatMap Segment.lines ++ PacketTags.endTag :: rest) := by
  have hend : ∃ rest, getlines (PacketTags.endTag ++ tail.elim [] ('\n' :: ·)) =
      PacketTags.endTag :: rest := by
    cases tail with
    | none =>
      refine ⟨[], ?_⟩
      rw [Option.elim_none, List.append_nil]
      exact getlines_of_notMem (by decide)
    | some data => exact ⟨getlines data, getlines_append (by decide) data⟩
  obtain ⟨rest, hend⟩ := hend
  have hsegs : ∀ l ∈ segs.flatMap Segment.lines, '\n' ∉ l := by
    intro l hl
    obtain ⟨seg, -, hl⟩ := List.mem_flatMap.1 hl
    exact seg.lines_oneLine l hl
  have hlines := List.forall_mem_append.2 ⟨header_oneLine hs hc, hsegs⟩
  exact ⟨rest, by rw [requestFile, getlines_unlines_append hlines, hend, List.append_assoc]⟩

/-- **The reading of a request.** -/
theorem readPacket_request {ssid cmdid : Str} (hs : '\n' ∉ ssid) (hc : '\n' ∉ cmdid)
    {segs : List Segment} (hsegs : Segment.NoIdentifier segs) (tail : Option Str) :
    (readPacket (some (requestFile ssid cmdid segs tail))).excp = none ∧
    (readPacket (some (requestFile ssid cmdid segs tail))).reader.hasStop = true ∧
    (readPacket (some (requestFile ssid cmdid segs tail))).reader.pkt.contents =
      Segment.collected [] segs := by
  obtain ⟨rest, hget⟩ := getlines_requestFile hs hc segs tail
  obtain ⟨t₀, h₀, hc₀, -, hscan₀⟩ := scan_header ssid cmdid
    (segs.flatMap Segment.lines ++ PacketTags.endTag :: rest)
  obtain ⟨acc, t, h, hscan, hct⟩ := scan_segments hsegs h₀ (PacketTags.endTag :: rest)
  have hstop : scanner.scan {} (getlines (requestFile ssid cmdid segs tail)) =
      .stopped { t with prcPhase := .inStop, hasStop := true } rest := by
    rw [hget, hscan₀, hscan]
    simp [Scanner.scan, scanner, step_endTag h.prcPhase]
  rw [hc₀, List.nil_append] at hct
  simp only [readPacket, readLines_eq_scan _ (getlines_ne_nil _), hstop]
  exact ⟨trivial, trivial, hct⟩

/-- A request with a line that is taken for an identifier is refused. -/
theorem readPacket_request_identifier {ssid cmdid : Str} (hs : '\n' ∉ ssid) (hc : '\n' ∉ cmdid)
    {segs : List Segment} (hsegs : ¬ Segment.NoIdentifier segs) (tail : Option Str) :
    (readPacket (some (requestFile ssid cmdid segs tail))).excp ≠ none := by
  obtain ⟨rest, hget⟩ := getlines_requestFile hs hc segs tail
  obtain ⟨t₀, h₀, -, -, hscan₀⟩ := scan_header ssid cmdid
    (segs.flatMap Segment.lines ++ PacketTags.endTag :: rest)
  obtain ⟨e, t, us, hscan⟩ := scan_segments_identifier hsegs h₀ (PacketTags.endTag :: rest)
  rw [← hscan₀, ← hget] at hscan
  simp only [readPacket, readLines_eq_scan _ (getlines_ne_nil _), hscan]
  exact Option.some_ne_none e

/-- An identifier, as it stands on one line. -/
structure Identifier where
  text : Str
  oneLine : '\n' ∉ text

/-- The file is accepted, and the parameters of the packet are those that are meant: every block
of text with its own lines. -/
def ReadsMessages (ssid cmdid : Identifier) (segs : List Segment) (tail : Option Str) : Prop :=
  let res := readPacket (some (requestFile ssid.text cmdid.text segs tail))
  res.excp = none ∧ res.reader.hasStop = true ∧
    res.reader.pkt.contents = segs.map Segment.content

/-- **When the blocks of text of a request are read as they are meant**: when no `name:value` line
is taken for an identifier, and every block but the last is empty. -/
theorem readsMessages_iff (ssid cmdid : Identifier) (segs : List Segment) (tail : Option Str) :
    ReadsMessages ssid cmdid segs tail ↔
      Segment.NoIdentifier segs ∧ ∀ b ∈ (Segment.blocks segs).dropLast, b = [] := by
  by_cases hsegs : Segment.NoIdentifier segs
  · obtain ⟨hexcp, hstop, hcont⟩ := readPacket_request ssid.oneLine cmdid.oneLine hsegs tail
    simp only [ReadsMessages, hexcp, hstop, hcont, true_and, Segment.collected_eq_iff, or_true,
      and_iff_right hsegs]
  · exact iff_of_false
      (fun h => readPacket_request_identifier ssid.oneLine cmdid.oneLine hsegs tail h.1)
      fun h => hsegs h.1

/-- The second of two blocks comes with the line of the first. -/
theorem second_block_keeps_first_line :
    ¬ ReadsMessages ⟨"sgi_id_0".toList, by decide⟩ ⟨"snd_txt_gerencial".toList, by decide⟩
      [.block [⟨"um".toList, ⟨by decide, by decide⟩, by decide⟩],
       .block [⟨"dois".toList, ⟨by decide, by decide⟩, by decide⟩]] (some []) := by
  rintro ⟨-, -, h⟩
  revert h
  decide

end Spooler.TxtReader
