import Spooler.Foundations.Exec
import Spooler.Packet.Packet

/-!
# Searching the parameters of a request

`ecf_broker::get_param_by_name` and `get_param_value_by_name`. A search starts at the first
parameter, wherever the cursor of the packet stands, and either finds a parameter with the name
asked for that has a value, or raises a `pkt_param_exp` (`faltaParam_of_getParamByName`).
-/

namespace Spooler

open Foundations

/-- `BROKER_NO_PARAM`. -/
def brokerNoParam : Str := "Nenhum parametro encontrado.".toList

/-- `BROKER_PARAM_NOT_FOUND`. -/
def brokerParamNotFound : Str := "Parametro nao encontrado.".toList

namespace Packet

/-- The loop of `get_param_by_name`, with `k` parameters at most behind the cursor. A parameter is
assigned to the one read before, which keeps its values when the new one has none. Names asked for
are not blank, so a parameter found has a name and ends the loop. -/
def procuraParam (name : Str) : (k : Nat) → RequestPacket → PktParam → Except Excp PktParam
  | 0, _, _ => .error (.spooler .pktParamExp brokerParamNotFound)
  | k + 1, pkt, param =>
    match pkt.nextParam with
    | .error _ => .error (.spooler .pktParamExp brokerParamNotFound)
    | .ok (q, pkt) =>
      let param := PktParam.copy param q
      if Str.strIequals param.name name then .ok (PktParam.ofCopy param)
      else procuraParam name k pkt param

/-- `get_param_by_name(name, pkt)`. The value of the parameter found is read for the log. -/
def getParamByName (name : Str) (pkt : RequestPacket) : Except Excp PktParam :=
  match pkt.firstParam with
  | .error _ => .error (.spooler .pktParamExp brokerNoParam)
  | .ok (q, pkt) => do
    let param := PktParam.ofCopy q
    let achado ← (if Str.strIequals param.name name then .ok (PktParam.ofCopy param)
      else procuraParam name pkt.params.length pkt param)
    let (_, achado) ← achado.value
    pure achado

/-- `get_param_value_by_name(name, pkt)`. -/
def getParamValueByName (name : Str) (pkt : RequestPacket) : Except Excp Str := do
  let achado ← getParamByName name pkt
  if Str.strIequals achado.name name then
    let (valor, _) ← achado.value
    pure valor
  else pure []

/-- A `pkt_param_exp` was raised. -/
def FaltaParam (e : Excp) : Prop := ∃ what, e = .spooler .pktParamExp what

theorem FaltaParam.isA {e : Excp} (h : FaltaParam e) : e.isA .pktParamExp = true := by
  obtain ⟨what, rfl⟩ := h
  rfl

theorem FaltaParam.isSpooler {e : Excp} (h : FaltaParam e) : e.isSpooler = true :=
  Excp.isSpooler_of_isA h.isA

theorem faltaParam_of_value {p : PktParam} {e : Excp} (h : p.value = .error e) : FaltaParam e := by
  unfold PktParam.value at h
  split at h <;> cases h
  exact ⟨_, rfl⟩

theorem faltaParam_of_procuraParam {name : Str} {k : Nat} {pkt : RequestPacket} {param : PktParam}
    {e : Excp} (h : procuraParam name k pkt param = .error e) : FaltaParam e := by
  induction k generalizing pkt param with
  | zero =>
    cases h
    exact ⟨_, rfl⟩
  | succ k ih =>
    unfold procuraParam at h
    split at h
    · cases h
      exact ⟨_, rfl⟩
    · simp only at h
      split at h
      · cases h
      · exact ih h

/-- **A search fails with a `pkt_param_exp` only.** -/
theorem faltaParam_of_getParamByName {name : Str} {pkt : RequestPacket} {e : Excp}
    (h : getParamByName name pkt = .error e) : FaltaParam e := by
  unfold getParamByName at h
  split at h
  · cases h
    exact ⟨_, rfl⟩
  · obtain h | ⟨achado, -, h⟩ := error_of_bind h
    · split at h
      · cases h
      · exact faltaParam_of_procuraParam h
    · obtain h | ⟨_, -, h⟩ := error_of_bind h
      · exact faltaParam_of_value h
      · cases h

theorem faltaParam_of_getParamValueByName {name : Str} {pkt : RequestPacket} {e : Excp}
    (h : getParamValueByName name pkt = .error e) : FaltaParam e := by
  obtain h | ⟨achado, -, h⟩ := error_of_bind h
  · exact faltaParam_of_getParamByName h
  · split at h
    · obtain h | ⟨_, -, h⟩ := error_of_bind h
      · exact faltaParam_of_value h
      · cases h
    · cases h

end Packet

end Spooler
