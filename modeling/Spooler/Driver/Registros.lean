import Spooler.Foundations.CArray
import Spooler.Driver.SequenciaCcd
import Spooler.Driver.Totalizadores

/-!
# The records of the payment forms in memory

`get_id_forma_pgto` over the arrays it works on: the answer of the device, 920 bytes, from which it
copies twenty records into a buffer of 46, each up to a comma. The source index goes on from record
to record and is checked after its use, the other one not at all.
**The copying stays inside of both arrays** exactly when it does not come to the answer or all of
the twenty records fit, `dentro_iff`. A record of 46 bytes fits and leaves no room for a terminator:
`strlen` then reads on behind the buffer, which is not counted here, and finds the record complete.
-/

namespace Spooler

open Foundations CArray

namespace Driver

variable {F δ : Type}

/-- `sizeof(buffer_fpgto)`. -/
def tamBufferFpgto : ℕ := 920

def virgula (c : Char) : Bool := c = ','

/-- The next `k` records, from the index `j` of the answer on, as they stand in `buffer_reg`; `none`
when an access is outside of its array. -/
def leRegistros (bufferFpgto : Str) : ℕ → ℕ → Option (List Str)
  | 0, _ => some []
  | k + 1, j => do
    let (j, bufferReg) ← copyUntil virgula bufferFpgto j (List.replicate tamRegFpgto '\x00') 0
    let regs ← leRegistros bufferFpgto k j
    some (bufferReg :: regs)

/-- What `get_id_forma_pgto` makes of the records. -/
def guardaFpgto (fpgto : Str) (regs : List Str) : Prog F δ (Option ℕ) := do
  altera fun drv => { drv with fpgto := regs.map nomeFpgto, vincCcd := regs.map vincFpgto }
  pure ((ultimoIdx (fun reg => Str.strIequals (fpgto.take sizeFpgto) (descrFpgto reg)) regs).map
    (· + 1))

/-- `get_id_forma_pgto(fpgto)` over its arrays; `none` when the copying reads outside of the answer
or writes outside of the record. -/
def getIdFormaPgtoMem (dll : Dll δ) (fpgto : Str) (m : Maquina F δ) :
    Option (Except Excp (Option ℕ) × Maquina F δ) :=
  match idxElement (fpgto.take sizeFpgto) m.drv.fpgto with
  | some i => some (.ok (some (i + 1)), m)
  | none =>
    let resp := dll.verificaFormasPagamentoMFD m.dev
    match exec (check dll resp.1.1) { m with dev := resp.2 } with
    | (.error e, m) => some (.error e, m)
    | (.ok _, m) => do
      let regs ← leRegistros resp.1.2 totalFpgto 0
      some (exec (guardaFpgto fpgto regs) m)

/-! ## The records -/

variable {buffer : Str} {j k : ℕ}

/-- A record in the zeroed buffer. -/
def completo (reg : Str) : Str := overwrite (List.replicate tamRegFpgto '\x00') 0 reg

theorem drop_min (buffer : Str) (i : ℕ) : buffer.drop (min i buffer.length) = buffer.drop i := by
  rcases Nat.le_total i buffer.length with h | h
  · rw [Nat.min_eq_left h]
  · rw [Nat.min_eq_right h, List.drop_length, List.drop_eq_nil_of_le h]

theorem registros_drop (buffer : Str) (k j : ℕ) :
    registros (k + 1) (buffer.drop j) = piece virgula buffer j ::
      registros k (buffer.drop (min (j + (piece virgula buffer j).length + 1) buffer.length)) := by
  have hvirgula : (fun c => !virgula c) = fun c => decide (c ≠ ',') := by
    funext c
    rw [virgula, ← decide_not]
  have hpiece : piece virgula buffer j = (buffer.drop j).takeWhile fun c => decide (c ≠ ',') := by
    rw [piece, hvirgula]
  have hsplit : buffer.drop j =
      piece virgula buffer j ++ (buffer.drop j).dropWhile fun c => decide (c ≠ ',') := by
    rw [hpiece, List.takeWhile_append_dropWhile]
  have hrest : (buffer.drop j).dropWhile (fun c => decide (c ≠ ',')) =
      buffer.drop (j + (piece virgula buffer j).length) := by
    rw [← List.drop_drop, hsplit, List.drop_left, ← hsplit]
  rw [registros, ← hpiece, drop_min, hrest, List.drop_drop]

/-- From inside of the answer a record is read when it fits. -/
theorem copyUntil_registro (hj : j < buffer.length) :
    copyUntil virgula buffer j (List.replicate tamRegFpgto '\x00') 0 =
      if (piece virgula buffer j).length ≤ tamRegFpgto then
        some (min (j + (piece virgula buffer j).length + 1) buffer.length,
          completo (piece virgula buffer j))
      else none := by
  rw [copyUntil_eq hj (Nat.zero_le _), Nat.zero_add, List.length_replicate, completo]

/-- What is read are the records, when it is read at all. -/
theorem leRegistros_eq_some {regs : List Str} (h : leRegistros buffer k j = some regs) :
    regs = (registros k (buffer.drop j)).map completo ∧
      ∀ reg ∈ registros k (buffer.drop j), reg.length ≤ tamRegFpgto := by
  induction k generalizing j regs with
  | zero =>
    cases h
    exact ⟨rfl, fun reg hreg => (nomatch hreg)⟩
  | succ k ih =>
    obtain ⟨⟨j', reg⟩, hcopy, h⟩ := Option.bind_eq_some_iff.1 h
    obtain ⟨rest, hrest, h⟩ := Option.bind_eq_some_iff.1 h
    cases h
    have hj : j < buffer.length := by
      by_contra hj
      cases hcopy.symm.trans (copyUntil_of_le (by omega))
    rw [copyUntil_registro hj] at hcopy
    split_ifs at hcopy with hfit
    cases hcopy
    obtain ⟨rfl, hall⟩ := ih hrest
    rw [registros_drop]
    exact ⟨rfl, List.forall_mem_cons.2 ⟨hfit, hall⟩⟩

/-- Records that fit are read, from an answer with bytes for all of them. -/
theorem leRegistros_isSome (h : ∀ reg ∈ registros k (buffer.drop j), reg.length ≤ tamRegFpgto)
    (hk : j + k * (tamRegFpgto + 1) ≤ buffer.length + tamRegFpgto) :
    (leRegistros buffer k j).isSome := by
  induction k generalizing j with
  | zero => rfl
  | succ k ih =>
    rw [registros_drop, List.forall_mem_cons] at h
    have hle : (piece virgula buffer j).length ≤ tamRegFpgto := h.1
    unfold tamRegFpgto at hk hle
    have hrest := ih h.2 (by unfold tamRegFpgto; omega)
    obtain ⟨regs, hregs⟩ := Option.isSome_iff_exists.1 hrest
    rw [leRegistros, copyUntil_registro (by omega), if_pos h.1]
    simp only [Option.bind_eq_bind, Option.bind_some, hregs, Option.isSome_some]

/-! ## The zeroed buffer -/

theorem completo_eq (reg : Str) :
    completo reg = reg ++ List.replicate (tamRegFpgto - reg.length) '\x00' := by
  rw [completo, overwrite, List.take_zero, List.nil_append, Nat.zero_add, List.drop_replicate]

theorem cstr_replicate (n : ℕ) : Str.cstr (List.replicate n '\x00') = [] := by
  cases n <;> rfl

theorem cstr_completo (reg : Str) : Str.cstr (completo reg) = Str.cstr reg := by
  rw [completo_eq]
  by_cases h : '\x00' ∈ reg
  · exact Str.cstr_append_of_mem h _
  · rw [Str.cstr_append_of_notMem h, cstr_replicate, List.append_nil, Str.cstr_eq_self h]

theorem descrFpgto_completo (reg : Str) : descrFpgto (completo reg) = descrFpgto reg := by
  rw [descrFpgto, descrFpgto, cstr_completo]

theorem flag_completo (reg : Str) : (completo reg)[44]? = some '1' ↔ reg[44]? = some '1' := by
  rw [completo_eq]
  by_cases h : 44 < reg.length
  · rw [List.getElem?_append_left h]
  · rw [List.getElem?_append_right (by omega), List.getElem?_replicate,
      List.getElem?_eq_none (by omega)]
    refine ⟨fun he => ?_, fun he => (nomatch he)⟩
    split_ifs at he with hlt
    exact absurd (Option.some.inj he) (by decide)

/-- The buffer gives what the record gives. -/
theorem guardaFpgto_completo (fpgto : Str) (regs : List Str) :
    (guardaFpgto fpgto (regs.map completo) : Prog F δ (Option ℕ)) = guardaFpgto fpgto regs := by
  have hnome : nomeFpgto ∘ completo = nomeFpgto := by
    funext reg
    rw [Function.comp_apply, nomeFpgto, nomeFpgto, descrFpgto_completo]
  have hvinc : vincFpgto ∘ completo = vincFpgto := by
    funext reg
    rw [Function.comp_apply, vincFpgto, vincFpgto, descrFpgto_completo,
      decide_eq_decide.2 (flag_completo reg)]
  have hidx : ultimoIdx (fun reg => Str.strIequals (fpgto.take sizeFpgto) (descrFpgto reg))
      (regs.map completo) =
        ultimoIdx (fun reg => Str.strIequals (fpgto.take sizeFpgto) (descrFpgto reg)) regs := by
    rw [ultimoIdx_map]
    simp only [descrFpgto_completo]
  rw [guardaFpgto, guardaFpgto, hidx, List.map_map, List.map_map, hnome, hvinc]

/-- **A search whose copying stays inside of the arrays** is the search of `getIdFormaPgto`. -/
theorem getIdFormaPgtoMem_eq {dll : Dll δ} {fpgto : Str} {m : Maquina F δ}
    {r : Except Excp (Option ℕ) × Maquina F δ} (h : getIdFormaPgtoMem dll fpgto m = some r) :
    exec (getIdFormaPgto dll fpgto) m = r := by
  unfold getIdFormaPgtoMem at h
  simp only [getIdFormaPgto, exec_bind, exec_get]
  cases hidx : idxElement (fpgto.take sizeFpgto) m.drv.fpgto with
  | some i =>
    simp only [hidx] at h ⊢
    exact Option.some.inj h
  | none =>
    simp only [hidx, exec_bind, exec_set] at h ⊢
    rcases hcheck : exec (check dll (dll.verificaFormasPagamentoMFD m.dev).1.1)
      { m with dev := (dll.verificaFormasPagamentoMFD m.dev).2 } with ⟨e | u, t⟩
    · simp only [hcheck] at h ⊢
      exact Option.some.inj h
    · simp only [hcheck] at h ⊢
      obtain ⟨regs, hregs, h⟩ := Option.bind_eq_some_iff.1 h
      rw [← Option.some.inj h, (leRegistros_eq_some hregs).1, guardaFpgto_completo]
      rfl

/-! ## The search -/

/-- The search by the cases of the code: kept, refused, read. -/
theorem isSome_getIdFormaPgtoMem (dll : Dll δ) (fpgto : Str) (m : Maquina F δ) :
    (getIdFormaPgtoMem dll fpgto m).isSome ↔
      (idxElement (fpgto.take sizeFpgto) m.drv.fpgto).isSome ∨
      (∃ e, (exec (check dll (dll.verificaFormasPagamentoMFD m.dev).1.1)
        { m with dev := (dll.verificaFormasPagamentoMFD m.dev).2 }).1 = .error e) ∨
      (leRegistros (dll.verificaFormasPagamentoMFD m.dev).1.2 totalFpgto 0).isSome := by
  unfold getIdFormaPgtoMem
  cases hidx : idxElement (fpgto.take sizeFpgto) m.drv.fpgto with
  | some i => simp
  | none =>
    simp only [Option.isSome_none, Bool.false_eq_true, false_or]
    rcases hcheck : exec (check dll (dll.verificaFormasPagamentoMFD m.dev).1.1)
      { m with dev := (dll.verificaFormasPagamentoMFD m.dev).2 } with ⟨e | u, t⟩
    · simp
    · cases leRegistros (dll.verificaFormasPagamentoMFD m.dev).1.2 totalFpgto 0 <;> simp

theorem isSome_leRegistros_iff {bufferFpgto : Str} (h : bufferFpgto.length = tamBufferFpgto) :
    (leRegistros bufferFpgto totalFpgto 0).isSome ↔
      ∀ reg ∈ registros totalFpgto bufferFpgto, reg.length ≤ tamRegFpgto := by
  constructor
  · intro hlidos
    obtain ⟨regs, hregs⟩ := Option.isSome_iff_exists.1 hlidos
    exact (leRegistros_eq_some hregs).2
  · intro hfit
    refine leRegistros_isSome hfit ?_
    rw [h]
    decide

/-- **When the copying stays inside of the arrays**: the search finds the form in memory, or the
device refuses, or the first twenty records of the answer fit. -/
theorem dentro_iff (dll : Dll δ) (fpgto : Str) (m : Maquina F δ)
    (hresp : (dll.verificaFormasPagamentoMFD m.dev).1.2.length = tamBufferFpgto) :
    (getIdFormaPgtoMem dll fpgto m).isSome ↔
      (idxElement (fpgto.take sizeFpgto) m.drv.fpgto).isSome ∨
      (∃ e, (exec (check dll (dll.verificaFormasPagamentoMFD m.dev).1.1)
        { m with dev := (dll.verificaFormasPagamentoMFD m.dev).2 }).1 = .error e) ∨
      ∀ reg ∈ registros totalFpgto (dll.verificaFormasPagamentoMFD m.dev).1.2,
        reg.length ≤ tamRegFpgto := by
  rw [isSome_getIdFormaPgtoMem, isSome_leRegistros_iff hresp]

end Driver

/-! ## A table, and an answer without commas -/

open Driver

theorem TabelaFpgto.length_codifica (T : TabelaFpgto) : T.codifica.length = tamBufferFpgto := by
  have hsum : ∀ regs : List Str, (∀ reg ∈ regs, reg.length = tamRegFpgto - 1) →
      (regs.flatMap (· ++ [','])).length = regs.length * tamRegFpgto := by
    intro regs h
    induction regs with
    | nil => rfl
    | cons reg regs ih =>
      rw [List.forall_mem_cons] at h
      rw [List.flatMap_cons, List.length_append, ih h.2, List.length_append, h.1,
        List.length_singleton, List.length_cons, Nat.succ_mul, Nat.add_comm]
      rfl
  rw [codifica, hsum T.regs T.largura, T.length_regs]
  rfl

namespace ImpressoraFpgto

variable {F δ : Type}

/-- The answer of a device with its table is copied inside of the arrays. -/
theorem dentro_tabela (imp : ImpressoraFpgto δ) (fpgto : Str) (m : Maquina F δ) :
    (getIdFormaPgtoMem imp.toDll fpgto m).isSome := by
  rw [isSome_getIdFormaPgtoMem]
  rcases hcheck : (exec (check imp.toDll (imp.verificaFormasPagamentoMFD m.dev).1.1)
    { m with dev := (imp.verificaFormasPagamentoMFD m.dev).2 }).1 with e | u
  · exact .inr (.inl ⟨e, rfl⟩)
  · right
    right
    rw [imp.formas_ok _ (eq_ok_of_check hcheck), isSome_leRegistros_iff imp.tabela.length_codifica,
      imp.tabela.registros_codifica]
    intro reg hreg
    rw [imp.tabela.largura reg hreg]
    exact Nat.sub_le _ _

/-- The driver just built, on a device without a state of its own. -/
def novaMaquina : Maquina ℤ Unit := .ligada false true [] ()

theorem dentro_iff_comCartao :
    (getIdFormaPgtoMem comCartao.toDll "CARTAO".toList novaMaquina).isSome ↔
      (idxElement ("CARTAO".toList.take sizeFpgto) novaMaquina.drv.fpgto).isSome ∨
      (∃ e, (exec (check comCartao.toDll bematechOk) novaMaquina).1 = .error e) ∨
      ∀ reg ∈ registros totalFpgto dinheiroCartao.codifica, reg.length ≤ tamRegFpgto :=
  dentro_iff comCartao.toDll "CARTAO".toList novaMaquina dinheiroCartao.length_codifica

/-- The same device, with an answer without a comma. -/
def semVirgulas : Dll Unit :=
  { comCartao.toDll with
    verificaFormasPagamentoMFD := fun d => ((bematechOk, List.replicate tamBufferFpgto '0'), d) }

/-- An answer without a comma is copied beyond the end of the record. -/
theorem fora_sem_virgulas :
    ¬ ∀ (dll : Dll Unit) (fpgto : Str) (m : Maquina ℤ Unit),
      (dll.verificaFormasPagamentoMFD m.dev).1.2.length = tamBufferFpgto →
      (getIdFormaPgtoMem dll fpgto m).isSome := by
  intro h
  have hdentro := h semVirgulas [] novaMaquina List.length_replicate
  rw [isSome_getIdFormaPgtoMem] at hdentro
  rcases hdentro with hidx | ⟨e, he⟩ | hlidos
  · cases hidx
  · obtain ⟨x, hx⟩ : ∃ x, exec (check semVirgulas bematechOk) novaMaquina =
        (.ok (), novaMaquina.com x ()) := exec_check_sadio rfl
    cases (congrArg Prod.fst hx).symm.trans he
  · have hfirst := (isSome_leRegistros_iff List.length_replicate).1 hlidos _ List.mem_cons_self
    have hall : (List.replicate tamBufferFpgto '0').takeWhile (fun c => decide (c ≠ ',')) =
        List.replicate tamBufferFpgto '0' := by
      refine List.takeWhile_eq_self_iff.2 fun c hc => ?_
      rw [List.eq_of_mem_replicate hc]
      rfl
    rw [hall, List.length_replicate] at hfirst
    exact absurd hfirst (by decide)

end ImpressoraFpgto

end Spooler
