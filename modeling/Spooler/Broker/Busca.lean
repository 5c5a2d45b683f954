import Spooler.Broker.Parametros
import Spooler.Reader.TxtReader

/-!
# What a search finds

`get_param_by_name` reads the parameters one after the other into one object, and a parameter
without values leaves in that object the ones of an earlier parameter (`PktParam.copy_val`). The
values a search hands out are therefore `valoresLidos` (`toOption_getParamValueByName`): those of
the parameter found or, where it has none, those of the last one before it that has.

**`getParamValueByName_primeiro`**: the value is the one of the parameter asked for exactly when
that parameter inherits nothing.
-/

namespace Spooler

open Foundations

namespace Packet

/-- The first value of the first parameter of the name. -/
def primeiroValor (name : Str) (pkt : RequestPacket) : Option Str :=
  (pkt.params.find? fun q => Str.strIequals q.name name).bind fun q => q.val.head?

/-- The values in an object that held `vals`, assigned the parameters one after the other. -/
def ultimos (vals : List Str) (qs : List PktParam) : List Str :=
  qs.foldl (fun vals q => if q.val = [] then vals else q.val) vals

/-- The values in the object of the search when it stops at the name. -/
def lidos (name : Str) (vals : List Str) : List PktParam → Option (List Str)
  | [] => none
  | q :: qs =>
    let vals := if q.val = [] then vals else q.val
    if Str.strIequals q.name name then some vals else lidos name vals qs

/-- The values of the parameter that `get_param_by_name` returns. -/
def valoresLidos (name : Str) (pkt : RequestPacket) : Option (List Str) :=
  lidos name [] pkt.params

/-- The first parameter of the name has values of its own, or none before it has any. -/
def SemHeranca (name : Str) (pkt : RequestPacket) : Prop :=
  ∀ q, (pkt.params.find? fun q => Str.strIequals q.name name) = some q → q.val = [] →
    ∀ p ∈ pkt.params.takeWhile fun p => !Str.strIequals p.name name, p.val = []

/-! ## The values that were read -/

theorem ultimos_eq_nil {vals : List Str} {qs : List PktParam} :
    ultimos vals qs = [] ↔ vals = [] ∧ ∀ q ∈ qs, q.val = [] := by
  induction qs generalizing vals with
  | nil => simp [ultimos]
  | cons q qs ih =>
    rw [ultimos, List.foldl_cons, ← ultimos, ih, List.forall_mem_cons]
    by_cases hq : q.val = [] <;> simp [hq]

theorem ultimos_concat (vals : List Str) (qs : List PktParam) (q : PktParam) :
    ultimos vals (qs ++ [q]) = if q.val = [] then ultimos vals qs else q.val := by
  rw [ultimos, List.foldl_append, ← ultimos]
  rfl

theorem lidos_eq_none {name : Str} {vals : List Str} {qs : List PktParam}
    (h : ∀ q ∈ qs, Str.strIequals q.name name = false) : lidos name vals qs = none := by
  induction qs generalizing vals with
  | nil => rfl
  | cons q qs ih =>
    rw [List.forall_mem_cons] at h
    rw [lidos, h.1]
    exact ih h.2

/-- The values read are the last ones assigned. -/
theorem lidos_append {name : Str} {vals : List Str} {antes depois : List PktParam} {q : PktParam}
    (h : ∀ p ∈ antes, Str.strIequals p.name name = false)
    (hq : Str.strIequals q.name name = true) :
    lidos name vals (antes ++ q :: depois) = some (ultimos vals (antes ++ [q])) := by
  induction antes generalizing vals with
  | nil => simp [lidos, ultimos, hq]
  | cons p antes ih =>
    rw [List.forall_mem_cons] at h
    rw [List.cons_append, lidos, h.1]
    exact ih h.2

/-- The parameters up to the first of a name, or all of them. -/
theorem semNome_or_primeiro (name : Str) (qs : List PktParam) :
    (∀ q ∈ qs, Str.strIequals q.name name = false) ∨
      ∃ antes q depois, qs = antes ++ q :: depois ∧
        (∀ p ∈ antes, Str.strIequals p.name name = false) ∧
        Str.strIequals q.name name = true := by
  rcases hf : qs.find? fun q => Str.strIequals q.name name with _ | q
  · exact .inl fun q hq => by simpa using List.find?_eq_none.1 hf q hq
  · obtain ⟨hq, antes, depois, heq, hantes⟩ := List.find?_eq_some_iff_append.1 hf
    exact .inr ⟨antes, q, depois, heq, fun p hp => by simpa using hantes p hp, hq⟩

theorem find?_primeiro {name : Str} {antes depois : List PktParam} {q : PktParam}
    (h : ∀ p ∈ antes, Str.strIequals p.name name = false)
    (hq : Str.strIequals q.name name = true) :
    (antes ++ q :: depois).find? (fun q => Str.strIequals q.name name) = some q :=
  List.find?_eq_some_iff_append.2 ⟨hq, antes, depois, rfl, fun p hp => by simp [h p hp]⟩

theorem takeWhile_primeiro {name : Str} {antes depois : List PktParam} {q : PktParam}
    (h : ∀ p ∈ antes, Str.strIequals p.name name = false)
    (hq : Str.strIequals q.name name = true) :
    (antes ++ q :: depois).takeWhile (fun p => !Str.strIequals p.name name) = antes := by
  rw [List.takeWhile_append_of_pos fun p hp => by simp [h p hp],
    List.takeWhile_cons_of_neg (by simp [hq]), List.append_nil]

/-! ## The search -/

/-- The loop reads the parameters behind the cursor. -/
theorem procuraParam_lidos {name : Str} {k : Nat} {pkt : RequestPacket} {param : PktParam}
    (hk : pkt.params.length ≤ pkt.idx + k) :
    (procuraParam name k pkt param).toOption.map (·.val) =
      lidos name param.val (pkt.params.drop pkt.idx) := by
  induction k generalizing pkt param with
  | zero =>
    rw [List.drop_of_length_le (by omega)]
    rfl
  | succ k ih =>
    unfold procuraParam nextParam
    by_cases hi : pkt.idx < pkt.params.length
    · rw [List.getElem?_eq_getElem hi, List.drop_eq_getElem_cons hi]
      simp only [lidos, PktParam.copy_name]
      split
      · simp [Except.toOption, PktParam.copy_val]
      · rw [ih (by simp only; omega), PktParam.copy_val]
    · rw [List.getElem?_eq_none (by omega), List.drop_of_length_le (by omega)]
      rfl

theorem name_of_procuraParam {name : Str} {k : Nat} {pkt : RequestPacket} {param p : PktParam}
    (h : procuraParam name k pkt param = .ok p) : Str.strIequals p.name name = true := by
  induction k generalizing pkt param with
  | zero => cases h
  | succ k ih =>
    unfold procuraParam at h
    split at h
    · cases h
    · simp only at h
      split at h
      · cases h
        rwa [PktParam.ofCopy_name]
      · exact ih h

/-- `get_param_by_name` up to the log entry at its end. -/
def busca (name : Str) (pkt : RequestPacket) : Except Excp PktParam :=
  match pkt.firstParam with
  | .error _ => .error (.spooler .pktParamExp brokerNoParam)
  | .ok (q, pkt) =>
    let param := PktParam.ofCopy q
    if Str.strIequals param.name name then .ok (PktParam.ofCopy param)
    else procuraParam name pkt.params.length pkt param

theorem getParamByName_eq_busca (name : Str) (pkt : RequestPacket) :
    getParamByName name pkt = busca name pkt >>= fun p => p.value >>= fun r => pure r.2 := by
  unfold getParamByName busca
  cases pkt.firstParam <;> rfl

theorem busca_lidos (name : Str) (pkt : RequestPacket) :
    (busca name pkt).toOption.map (·.val) = valoresLidos name pkt := by
  unfold busca valoresLidos firstParam
  rcases hp : pkt.params with _ | ⟨q, qs⟩
  · rfl
  · have hv : (if q.val = [] then [] else q.val) = q.val := by
      split <;> simp [*]
    simp only [lidos, hv, PktParam.ofCopy_name]
    split
    · simp [Except.toOption]
    · rw [procuraParam_lidos (by simp), PktParam.ofCopy_val]
      simp

theorem name_of_busca {name : Str} {pkt : RequestPacket} {p : PktParam}
    (h : busca name pkt = .ok p) : Str.strIequals p.name name = true := by
  unfold busca at h
  split at h
  · cases h
  · simp only at h
    split at h
    · rename_i hname
      cases h
      rwa [PktParam.ofCopy_name]
    · exact name_of_procuraParam h

/-- Reading the first value moves the cursor only. -/
theorem value_eq_ok {p : PktParam} {v : Str} {vs : List Str} (h : p.val = v :: vs) :
    p.value = .ok (v, { p with idx := 1 }) := by
  simp [PktParam.value, h]

theorem value_eq_error {p : PktParam} (h : p.val = []) :
    p.value = .error (.spooler .pktParamExp "Nenhum valor definido".toList) := by
  simp [PktParam.value, h]

/-- **The parameter found holds the values read**, and there are some. -/
theorem getParamByName_lidos {name : Str} {pkt : RequestPacket} {v : Str} {vs : List Str}
    (h : valoresLidos name pkt = some (v :: vs)) :
    ∃ p, getParamByName name pkt = .ok p ∧ Str.strIequals p.name name = true ∧
      p.val = v :: vs ∧ p.idx = 1 := by
  rw [← busca_lidos] at h
  rcases hb : busca name pkt with e | p
  · rw [hb] at h
    cases h
  · rw [hb] at h
    have hval : p.val = v :: vs := Option.some.inj h
    have hname : Str.strIequals p.name name = true := name_of_busca hb
    refine ⟨{ p with idx := 1 }, ?_, hname, hval, rfl⟩
    rw [getParamByName_eq_busca, hb]
    show (p.value >>= fun r => pure r.2) = _
    rw [value_eq_ok hval]
    rfl

/-- Where no value was read the search raises a `pkt_param_exp`. -/
theorem getParamByName_semLidos {name : Str} {pkt : RequestPacket}
    (h : valoresLidos name pkt = none ∨ valoresLidos name pkt = some []) :
    ∃ e, getParamByName name pkt = .error e ∧ FaltaParam e := by
  rcases hg : getParamByName name pkt with e | p
  · exact ⟨e, rfl, faltaParam_of_getParamByName hg⟩
  · rw [getParamByName_eq_busca] at hg
    rw [← busca_lidos] at h
    rcases hb : busca name pkt with e | q
    · rw [hb] at hg
      cases hg
    · rw [hb] at h hg
      have hval : q.val = [] := by
        rcases h with h | h
        · cases h
        · exact Option.some.inj h
      have hg : (q.value >>= fun r => pure r.2) = Except.ok p := hg
      rw [value_eq_error hval] at hg
      cases hg

theorem getParamValueByName_lidos {name : Str} {pkt : RequestPacket} {v : Str} {vs : List Str}
    (h : valoresLidos name pkt = some (v :: vs)) : getParamValueByName name pkt = .ok v := by
  obtain ⟨p, hp, hname, hval, -⟩ := getParamByName_lidos h
  unfold getParamValueByName
  rw [hp]
  show (if _ then _ else _) = _
  rw [if_pos hname, value_eq_ok hval]
  rfl

theorem getParamValueByName_semLidos {name : Str} {pkt : RequestPacket}
    (h : valoresLidos name pkt = none ∨ valoresLidos name pkt = some []) :
    ∃ e, getParamValueByName name pkt = .error e ∧ FaltaParam e := by
  obtain ⟨e, he, hf⟩ := getParamByName_semLidos h
  refine ⟨e, ?_, hf⟩
  unfold getParamValueByName
  rw [he]
  rfl

/-- **What `get_param_value_by_name` returns**: the first of the values read. -/
theorem toOption_getParamValueByName (name : Str) (pkt : RequestPacket) :
    (getParamValueByName name pkt).toOption = (valoresLidos name pkt).bind List.head? := by
  rcases hl : valoresLidos name pkt with _ | _ | ⟨v, vs⟩
  · obtain ⟨e, he, -⟩ := getParamValueByName_semLidos (.inl hl)
    rw [he]
    rfl
  · obtain ⟨e, he, -⟩ := getParamValueByName_semLidos (.inr hl)
    rw [he]
    rfl
  · rw [getParamValueByName_lidos hl]
    rfl

/-! ## Own and inherited values -/

/-- The search answers with the value of the parameter asked for. -/
def AchaPrimeiro (name : Str) (pkt : RequestPacket) : Prop :=
  (∀ v, getParamValueByName name pkt = .ok v ↔ primeiroValor name pkt = some v) ∧
    ((∃ e, getParamValueByName name pkt = .error e ∧ FaltaParam e) ↔
      primeiroValor name pkt = none)

theorem achaPrimeiro_iff (name : Str) (pkt : RequestPacket) :
    AchaPrimeiro name pkt ↔ (valoresLidos name pkt).bind List.head? = primeiroValor name pkt := by
  rw [← toOption_getParamValueByName]
  unfold AchaPrimeiro
  rcases hv : getParamValueByName name pkt with e | v
  · have hf := faltaParam_of_getParamValueByName hv
    rcases primeiroValor name pkt with _ | w <;> simp [Except.toOption, hf]
  · rcases primeiroValor name pkt with _ | w
    · simp [Except.toOption]
    · simp only [Except.toOption, Except.ok.injEq, Option.some.injEq, reduceCtorEq, false_and]
      refine ⟨fun h => ((h.1 v).1 rfl).symm, fun h => ⟨fun x => by rw [h], by simp⟩⟩

/-- **A search returns the value of the parameter asked for exactly when that parameter has one or
inherits none.** -/
theorem getParamValueByName_primeiro (name : Str) (_ : Str.trim name ≠ []) (pkt : RequestPacket) :
    AchaPrimeiro name pkt ↔ SemHeranca name pkt := by
  rw [achaPrimeiro_iff]
  unfold valoresLidos primeiroValor SemHeranca
  rcases semNome_or_primeiro name pkt.params with hno | ⟨antes, q, depois, hps, hantes, hq⟩
  · have hfind : pkt.params.find? (fun q => Str.strIequals q.name name) = none :=
      List.find?_eq_none.2 fun q hq => by simp [hno q hq]
    rw [lidos_eq_none hno, hfind]
    exact iff_of_true rfl fun q hq => by cases hq
  · rw [hps, lidos_append hantes hq, find?_primeiro hantes hq, takeWhile_primeiro hantes hq]
    simp only [Option.bind_some, Option.some.injEq, forall_eq']
    rw [ultimos_concat]
    by_cases hnil : q.val = []
    · rw [if_pos hnil, hnil, List.head?_nil, List.head?_eq_none_iff, ultimos_eq_nil]
      simp
    · rw [if_neg hnil]
      simp [hnil]

/-- A search among parameters that all have values. -/
theorem getParamValueByName_primeiro_titulo :
    Str.trim "titulo".toList ≠ [] ∧ AchaPrimeiro "titulo".toList
      { params := [PktParam.ofNameVal "titulo".toList "foo".toList] } := by
  refine ⟨by decide, (getParamValueByName_primeiro _ (by decide) _).2 ?_⟩
  intro q hq hnil
  cases hq
  cases hnil

/-- A request whose block of text has no lines. -/
def textoVazio : Str :=
  unlines ["<ecf_sgi_begin>".toList, "ecf_execute_request".toList, "session_id:0".toList,
    "command_id:snd_abre_gerencial".toList, "titulo:foo".toList, "mensagem\x7b".toList,
    "\x7d".toList, "<ecf_sgi_end>".toList]

/-- **The value of another parameter**: the request is read without an error, its block of text
has no values, and the search for it returns the title. -/
theorem getParamValueByName_deOutro :
    ∃ pkt, (TxtReader.readPacket (some textoVazio)).excp = none ∧
      (TxtReader.readPacket (some textoVazio)).reader.pkt = pkt ∧
      Str.trim TxtReader.mensagem ≠ [] ∧ primeiroValor TxtReader.mensagem pkt = none ∧
      getParamValueByName TxtReader.mensagem pkt = .ok "foo".toList ∧
      ¬ AchaPrimeiro TxtReader.mensagem pkt := by
  have hpkt : primeiroValor TxtReader.mensagem
      (TxtReader.readPacket (some textoVazio)).reader.pkt = none := by decide
  have hval : getParamValueByName TxtReader.mensagem
      (TxtReader.readPacket (some textoVazio)).reader.pkt = .ok "foo".toList := by decide
  refine ⟨_, by decide, rfl, by decide, hpkt, hval, fun h => ?_⟩
  rw [(h.1 _).1 hval] at hpkt
  cases hpkt

end Packet

end Spooler
