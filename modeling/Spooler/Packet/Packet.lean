import Spooler.Packet.Param

/-!
# Packets

The tags of `pkttags.cc` and `txttags.h`, and `class packet` with its two derived classes: a list
of parameters with a cursor, a type that the constructor leaves unassigned, a session and a
command identifier.
-/

namespace Spooler

/-- `tags::packet_type`. -/
inductive PacketType
  | notTyped
  | tpBeginSession
  | tpExecut
  | tpEndSession
  | tpStatus
  | tpReset
  | tpDeadEnd
  deriving DecidableEq, Repr

/-- `tags::packet_context`. -/
inductive PacketContext
  | noContext
  | ctxRequest
  | ctxResponse
  deriving DecidableEq, Repr

namespace PacketTags

def beginTag : Str := "<ecf_sgi_begin>".toList

def endTag : Str := "<ecf_sgi_end>".toList

def context : PacketContext → Str
  | .ctxRequest => "_request".toList
  | .ctxResponse => "_response".toList
  | .noContext => []

def type : PacketType → Str
  | .tpBeginSession => "ecf_begin_session".toList
  | .tpExecut => "ecf_execute".toList
  | .tpEndSession => "ecf_end_session".toList
  | .tpStatus => "ecf_status".toList
  | .tpReset => "ecf_reset".toList
  | .notTyped => []
  | .tpDeadEnd => []

end PacketTags

def sessionIdTag : Str := "session_id:".toList

def commandIdTag : Str := "command_id:".toList

def paramSeparator : Str := ":".toList

def paramMsgBegin : Str := "mensagem\x7b".toList

def paramMsgEnd : Str := "\x7d".toList

/-- `class packet`; `type` is `none` while `m_type` has not been assigned. -/
structure Packet where
  params : List PktParam := []
  idx : Nat := 0
  type : Option PacketType := none
  session : Str := []
  id : Str := []
  deriving DecidableEq, Repr

namespace Packet

/-- `packet::add_param(const pkt_param&)`: a copy of the parameter is made, and the vector keeps
a copy of the copy. -/
def addParam (p : Packet) (param : PktParam) : Packet :=
  let tmp := PktParam.ofCopy param
  { p with params := p.params ++ [PktParam.ofCopy tmp], idx := p.idx + 1 }

/-- `packet::add_param(key, val)`. -/
def addParamKeyVal (p : Packet) (key val : Str) : Packet :=
  let tmp := PktParam.ofNameVal key val
  { p with params := p.params ++ [PktParam.ofCopy tmp], idx := p.idx + 1 }

/-- `packet::first_param`: the first parameter, the cursor behind it. -/
def firstParam (p : Packet) : Except Excp (PktParam × Packet) :=
  match p.params with
  | q :: _ => .ok (q, { p with idx := 1 })
  | [] => .error (.spooler .packetExp "Nenhum parametro definido".toList)

/-- `packet::next_param`. -/
def nextParam (p : Packet) : Except Excp (PktParam × Packet) :=
  match p.params[p.idx]? with
  | some q => .ok (q, { p with idx := p.idx + 1 })
  | none => .error (.spooler .packetExp "Nao ha mais parametros definidos".toList)

/-- The parameters as names with their values. -/
def contents (p : Packet) : List (Str × List Str) := p.params.map fun q => (q.name, q.val)

@[simp] theorem contents_addParam (p : Packet) (q : PktParam) :
    (p.addParam q).contents = p.contents ++ [(q.name, q.val)] := by
  simp [contents, addParam]

@[simp] theorem contents_addParamKeyVal (p : Packet) (k v : Str) :
    (p.addParamKeyVal k v).contents = p.contents ++ [(k, [v])] := by
  simp [contents, addParamKeyVal]

@[simp] theorem addParam_type (p : Packet) (q : PktParam) : (p.addParam q).type = p.type := rfl

@[simp] theorem addParam_session (p : Packet) (q : PktParam) :
    (p.addParam q).session = p.session := rfl

@[simp] theorem addParam_id (p : Packet) (q : PktParam) : (p.addParam q).id = p.id := rfl

@[simp] theorem addParamKeyVal_type (p : Packet) (k v : Str) :
    (p.addParamKeyVal k v).type = p.type := rfl

@[simp] theorem addParamKeyVal_session (p : Packet) (k v : Str) :
    (p.addParamKeyVal k v).session = p.session := rfl

@[simp] theorem addParamKeyVal_id (p : Packet) (k v : Str) :
    (p.addParamKeyVal k v).id = p.id := rfl

end Packet

/-- `class request_packet`. -/
abbrev RequestPacket := Packet

/-- `class response_packet`. -/
structure ResponsePacket extends Packet where
  retCode : Int := 0
  deriving DecidableEq, Repr

/-- `PKT_RESPONSE_OK`. -/
def pktResponseOk : Int := 0

/-- `PKT_RESPONSE_ERR`. -/
def pktResponseErr : Int := 1

namespace ResponsePacket

/-- `add_param(key, val)` on a response. -/
def addMsg (p : ResponsePacket) (key val : Str) : ResponsePacket :=
  { p with toPacket := p.toPacket.addParamKeyVal key val }

@[simp] theorem addMsg_retCode (p : ResponsePacket) (k v : Str) :
    (p.addMsg k v).retCode = p.retCode := rfl

@[simp] theorem addMsg_contents (p : ResponsePacket) (k v : Str) :
    (p.addMsg k v).contents = p.contents ++ [(k, [v])] :=
  Packet.contents_addParamKeyVal _ _ _

end ResponsePacket

end Spooler
