import Spooler.Packet.Packet

/-!
# The reader of command files

`txt_reader` (`txtreader.cc`). A line is qualified by `qualifyToken`; `step` is one pass of the
loop of `read_packet` through its `switch`, with the locals of the function that outlive a pass in
`Reader`; `readLines` is the loop over what `std::getline` delivers and `readPacket` the function
on a stream. The loop ends at the end tag or after the line that reached the end of the stream.
-/

namespace Spooler

/-- `enum in_phase`. -/
inductive InPhase
  | inUnknown
  | inIdle
  | inStart
  | inRequest
  | inSsid
  | inCmdid
  | inParam
  | inText
  | inStop
  deriving DecidableEq, Repr

namespace TxtReader

/-- The types the loops of `valid_packet_type` and `type_from_string` go through. -/
def packetTypes : List PacketType :=
  [.tpBeginSession, .tpExecut, .tpEndSession, .tpStatus, .tpReset]

/-- The line of a request of the type. -/
def requestTag (tp : PacketType) : Str :=
  PacketTags.type tp ++ PacketTags.context .ctxRequest

/-- `txt_reader::valid_packet_type`. -/
def validPacketType (token : Str) : Bool := (packetTypes.map requestTag).any (token = ·)

/-- `txt_reader::type_from_string`. -/
def typeFromString (line : Str) : PacketType :=
  packetTypes.foldl (fun tp i => if line = PacketTags.type i then i else tp) .notTyped

/-- `txt_reader::qualify_token`. -/
def qualifyToken (line : Str) (dflPhase : InPhase) : InPhase :=
  if line = PacketTags.beginTag then .inStart
  else if validPacketType line then .inRequest
  else if line.take sessionIdTag.length = sessionIdTag then .inSsid
  else if line.take commandIdTag.length = commandIdTag then .inCmdid
  else if line = PacketTags.endTag then .inStop
  else if Str.contains paramSeparator line then
    if dflPhase ≠ .inText then .inParam else dflPhase
  else if Str.contains paramMsgBegin line then .inText
  else dflPhase

def msgUnknownToken : Str := "Token nao reconhecido".toList

def msgUnexpectedToken : Str := "Token nao esperado".toList

def msgExpectedStart : Str := "Esperada tag de inicio".toList

def msgExpectedStop : Str := "Esperada tag de fim".toList

def msgExpectedRequest : Str := "Esperada tag de tipo".toList

def msgExpectedSsid : Str := "Esperada identificacao de sessao".toList

def msgExpectedCmdid : Str := "Esperada identificacao de comando".toList

def msgRequestNotFound : Str := "Sufixo _request nao encontrado".toList

def msgParamMalformed : Str := "Definicao invalida de parametro".toList

def msgMessageMalformed : Str := "Mensagem mal formada".toList

/-- The locals of `read_packet` that outlive a pass of its loop, with the packet it fills. -/
structure Reader where
  prcPhase : InPhase := .inIdle
  dflPhase : InPhase := .inUnknown
  hasStop : Bool := false
  rqtTag : Str := []
  text : PktParam := {}
  pkt : RequestPacket := {}
  deriving DecidableEq, Repr

/-- `rqt_reader_exp` with the line that was found. -/
def unexpected (msg line : Str) : Excp := .spooler .rqtReaderExp (msg ++ " != ".toList ++ line)

/-- The line `cortar_papel_ecf`, which the dormant machine skips. -/
def cortarPapelEcf : Str := "cortar_papel_ecf".toList

/-- The name of the parameter that a block of text becomes. -/
def mensagem : Str := "mensagem".toList

/-- One pass of the loop of `read_packet` with the line it read. -/
def step (r : Reader) (line : Str) : Except Excp Reader :=
  let pktPhase := qualifyToken line r.dflPhase
  match r.prcPhase with
  | .inIdle =>
    if pktPhase ≠ .inStart then
      if !Str.strIequals line cortarPapelEcf then
        let msg := msgExpectedStart ++ " != ".toList ++ line
        -- the second test of the same condition fails: `cortar_papel_exp` is never thrown
        if Str.strIequals line cortarPapelEcf then .error (.spooler .cortarPapelExp msg)
        else .error (.spooler .rqtReaderExp msg)
      else .ok r
    else .ok { r with prcPhase := .inRequest }
  | .inStop =>
    if pktPhase ≠ .inStop then .error (unexpected msgExpectedStop line)
    else .ok { r with hasStop := true }
  | .inRequest =>
    if pktPhase ≠ .inRequest then .error (unexpected msgExpectedRequest line)
    else match Str.rfind (PacketTags.context .ctxRequest) line with
      | some pos =>
        let rqtTag := line.take pos
        let r := { r with rqtTag := rqtTag,
                          pkt := { r.pkt with type := some (typeFromString rqtTag) } }
        if rqtTag ≠ PacketTags.type .tpBeginSession ∧ rqtTag ≠ PacketTags.type .tpReset ∧
            rqtTag ≠ PacketTags.type .tpStatus then
          .ok { r with prcPhase := .inSsid }
        else .ok { r with prcPhase := .inStop }
      | none => .error (.spooler .rqtReaderExp
          (msgRequestNotFound ++ " (".toList ++ line ++ ")".toList))
  | .inSsid =>
    if pktPhase ≠ .inSsid then .error (unexpected msgExpectedSsid line)
    else match Str.substrFrom line sessionIdTag.length with
      | .error e => .error e
      | .ok sessionId =>
        let r := { r with pkt := { r.pkt with session := sessionId } }
        if r.rqtTag = PacketTags.type .tpEndSession then .ok { r with prcPhase := .inStop }
        else .ok { r with prcPhase := .inCmdid }
  | .inCmdid =>
    if pktPhase ≠ .inCmdid then .error (unexpected msgExpectedCmdid line)
    else match Str.substrFrom line commandIdTag.length with
      | .error e => .error e
      | .ok commandId => .ok { r with pkt := { r.pkt with id := commandId }, prcPhase := .inParam }
  | .inParam =>
    if pktPhase ≠ .inParam ∧ pktPhase ≠ .inStop ∧ pktPhase ≠ .inText then
      .error (.spooler .rqtReaderExp (msgUnexpectedToken ++ ": ".toList ++ line))
    else if pktPhase = .inStop then .ok { r with prcPhase := .inStop, hasStop := true }
    else if pktPhase = .inParam then
      match Str.find paramSeparator line with
      | some pos =>
        match Str.substrFrom line (pos + 1) with
        | .error e => .error e
        | .ok paramVal => .ok { r with pkt := r.pkt.addParamKeyVal (line.take pos) paramVal }
      | none => .error (.spooler .rqtReaderExp (msgParamMalformed ++ ": ".toList ++ line))
    else
      .ok { r with text := { r.text with name := mensagem },
                   dflPhase := .inText, prcPhase := .inText }
  | .inText =>
    if pktPhase ≠ .inText then
      .error (.spooler .rqtReaderExp (msgMessageMalformed ++ ": ".toList ++ line))
    else if Str.contains paramMsgEnd line then
      .ok { r with dflPhase := .inUnknown, prcPhase := .inParam, pkt := r.pkt.addParam r.text }
    else .ok { r with text := r.text.addValue line }
  | _ => .error (.spooler .rqtReaderExp (msgUnknownToken ++ ": ".toList ++ line))

/-- How `read_packet` ended: the exception it raised, if any, the `eofbit` of the stream, and the
packet as filled so far. -/
structure ReadResult where
  excp : Option Excp
  eof : Bool
  reader : Reader
  deriving DecidableEq

/-- The loop of `read_packet` over the lines the stream delivers. -/
def readLines (r : Reader) : List Str → ReadResult
  | [] => ⟨none, true, r⟩
  | line :: rest =>
    let eof := rest.isEmpty
    match step r line with
    | .error e => ⟨some e, eof, r⟩
    | .ok r' => if eof || r'.hasStop then ⟨none, eof, r'⟩ else readLines r' rest

/-- `txt_reader::read_packet` on the stream of a file, `none` when `open` failed: the stream then
has its `failbit` set and the first call of `exceptions` throws, before anything is read. -/
def readPacket : Option Str → ReadResult
  | some data => readLines {} (getlines data)
  | none => ⟨some .iosFailure, false, {}⟩

end TxtReader

end Spooler
