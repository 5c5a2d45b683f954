import Spooler.Driver.Maquina

/-!
# The tables of the device

Payment forms and non fiscal totalizers are named by their position in a table of the device. The
driver keeps both tables in memory and loads one again whenever a name is not in it
(`getIdFormaPgto`, `getTotalizadorCnf`). Besides the device and the signals of `check`, a search
changes nothing but the table kept (`soSpooler_getIdFormaPgto`, `soSpooler_getTotalizadorCnf`).
-/

namespace Spooler

open Foundations

/-! ## Formatting -/

namespace Driver

variable {F δ σ : Type}

/-- `ECF_NUM_FORMAT_ERR`. -/
def numFormatErr : Str := "Erro ao formatar valor.".toList

/-- The text that `format_valor` makes of the one of `sprintf`: the first point becomes a comma. -/
def comVirgula (aux : Str) : Str :=
  Str.trim (aux.takeWhile (· ≠ '.') ++
    match aux.dropWhile (· ≠ '.') with
    | [] => []
    | _ :: resto => ',' :: resto)

/-- `sizeof(aux)` in `format_valor`. -/
def tamAux : Nat := 32

/-- `sprintf` leaves `aux`: there is no room for the text and the end of it. -/
def transborda (n : Numeric F) (valor : F) (fmt : String) : Bool :=
  (n.sprintf fmt valor).any fun aux => tamAux ≤ aux.length

/-- `format_valor`, from the return of `sprintf` on. -/
def comAux : Option Str → Exec Excp σ Str
  | none => throw (ecfExp numFormatErr)
  | some aux => pure (comVirgula aux)

/-- `format_valor(valor, fmt)`. -/
def formatValor (n : Numeric F) (valor : F) (fmt : String) : Exec Excp σ Str :=
  if transborda n valor fmt then throw .overrun else comAux (n.sprintf fmt valor)

/-- `format_valor` of a whole number, a position or a counter: an `int` has eleven characters at
most, and the widest format of them has six. -/
def formatInteiro (n : Numeric F) (valor : Int) (fmt : String) : Exec Excp σ Str :=
  comAux (n.sprintf fmt (n.ofInt valor))

/-- `format_valor` of a value that `sprintf` writes, and that `aux` has room for. -/
theorem exec_formatValor_some {n : Numeric F} {valor : F} {fmt : String} {aux : Str}
    (h : n.sprintf fmt valor = some aux) (hlen : aux.length < tamAux) (s : σ) :
    exec (formatValor n valor fmt : Exec Excp σ Str) s = (.ok (comVirgula aux), s) := by
  have hcabe : transborda n valor fmt = false := by
    rw [transborda, h, Option.any_some]
    exact decide_eq_false (not_le.2 hlen)
  rw [formatValor, hcabe, h]
  rfl

theorem exec_formatInteiro_some {n : Numeric F} {valor : Int} {fmt : String} {aux : Str}
    (h : n.sprintf fmt (n.ofInt valor) = some aux) (s : σ) :
    exec (formatInteiro n valor fmt : Exec Excp σ Str) s = (.ok (comVirgula aux), s) := by
  rw [formatInteiro, h]
  rfl

/-- A whole number that `aux` has room for is formatted as any other value. -/
theorem formatInteiro_eq {n : Numeric F} {valor : Int} {fmt : String}
    (h : transborda n (n.ofInt valor) fmt = false) :
    (formatInteiro n valor fmt : Exec Excp σ Str) = formatValor n (n.ofInt valor) fmt := by
  rw [formatValor, h]
  rfl

/-- `format_monetary(valor, fmt)`: the digits. -/
def formatMonetary (n : Numeric F) (valor : F) (fmt : String) : Exec Excp σ Str :=
  match n.strfmon fmt valor with
  | none => throw (ecfExp numFormatErr)
  | some buffer => pure (buffer.filter Char.isDigit)

/-- `m_specific.get_value_by_key(key)`. -/
def valueByKey (key : Str) : Prog F δ Str := do
  let m ← get
  match m.drv.specific.lookup key with
  | some value => pure value
  | none => throw (.spooler .datapairExp "Chave nao definida".toList)

/-! ## Searching -/

/-- `BEMATECH_SIZE_FPGTO_CV0909` and `BEMATECH_SIZE_TOTCNF_CV0909`. -/
def sizeFpgto : Nat := 15
def sizeTotcnf : Nat := 15

/-- `BEMATECH_TXT_AVAILABLE`. -/
def txtAvailable : Str := "<available>".toList

/-- `BEMATECH_TXT_UNAVAILABLE`. -/
def txtUnavailable : Str := "<unavailable>".toList

/-- `idx_element(item, vct)`: `none` is `IDX_NOT_FOUND`. -/
def idxElement (item : Str) (vct : List Str) : Option Nat := vct.findIdx? (Str.strIequals · item)

/-- The position of the last element that satisfies `p`. -/
def ultimoIdx {α : Type} (p : α → Bool) (l : List α) : Option Nat :=
  ((l.zipIdx.filter fun x => p x.1).map Prod.snd).getLast?

/-! ## Payment forms -/

/-- The next `k` records of a buffer, each up to its comma. -/
def registros : (k : Nat) → Str → List Str
  | 0, _ => []
  | k + 1, buffer =>
    buffer.takeWhile (· ≠ ',') :: registros k ((buffer.dropWhile (· ≠ ',')).drop 1)

/-- `sizeof(bematech_reg_fpgto_mfd)`, its comma included, and how many of them a buffer holds. -/
def tamRegFpgto : Nat := 46
def totalFpgto : Nat := 920 / tamRegFpgto

/-- The description of a record, cut and trimmed. -/
def descrFpgto (reg : Str) : Str :=
  let reg := if (Str.cstr reg).length < tamRegFpgto - 1 then txtUnavailable else Str.cstr reg
  Str.trim (reg.take sizeFpgto)

/-- The name kept for a record: a free one is marked. -/
def nomeFpgto (reg : Str) : Str := if descrFpgto reg = [] then txtAvailable else descrFpgto reg

/-- The flag kept for a record: a free one is not linked. -/
def vincFpgto (reg : Str) : Bool := descrFpgto reg ≠ [] && reg[44]? = some '1'

/-- `get_id_forma_pgto(fpgto)`: positions count from one, `none` is `IDX_NOT_FOUND`. -/
def getIdFormaPgto (dll : Dll δ) (fpgto : Str) : Prog F δ (Option Nat) := do
  let m ← get
  match idxElement (fpgto.take sizeFpgto) m.drv.fpgto with
  | some i => pure (some (i + 1))
  | none => do
    let resp := dll.verificaFormasPagamentoMFD m.dev
    set { m with dev := resp.2 }
    check dll resp.1.1
    let regs := registros totalFpgto resp.1.2
    altera fun drv => { drv with fpgto := regs.map nomeFpgto, vincCcd := regs.map vincFpgto }
    pure ((ultimoIdx (fun reg => Str.strIequals (fpgto.take sizeFpgto) (descrFpgto reg)) regs).map
      (· + 1))

/-- `get_vinc_forma_pgto(idx)`. -/
def getVincFormaPgto (drv : Driver F) (idx : Nat) : Bool :=
  if idx = 0 then false else drv.vincCcd.getD (idx - 1) false

/-! ## Totalizers -/

/-- The `k` records of a buffer from the `i`-th on, each cut and trimmed. -/
def totalizadores (buffer : Str) : List Str :=
  (List.range (600 / 20)).map fun i =>
    Str.trim (Str.cstr ((buffer.drop (i * 20)).take sizeTotcnf))

/-- `get_totalizador_cnf(tot)`: positions count from one, `none` is `IDX_NOT_FOUND`. -/
def getTotalizadorCnf (dll : Dll δ) (tot : Str) : Prog F δ (Option Nat) := do
  let m ← get
  match idxElement (tot.take sizeTotcnf) m.drv.totCnf with
  | some i => pure (some (i + 1))
  | none => do
    let resp := dll.verificaTotalizadoresNaoFiscaisMFD m.dev
    set { m with dev := resp.2 }
    check dll resp.1.1
    let nomes := totalizadores resp.1.2
    altera fun drv =>
      { drv with totCnf := nomes.map fun one => if one = [] then txtAvailable else one }
    pure ((ultimoIdx (fun one => one ≠ [] && Str.strIequals (tot.take sizeTotcnf) one) nomes).map
      (· + 1))

/-! ## What a search leaves alone -/

section SoSpooler

variable {I : Maquina F δ → Prop}

theorem contained_comAux {J : σ → Prop} {E : Excp → Prop} (hE : E (ecfExp numFormatErr))
    (aux : Option Str) : Contained J E (comAux aux : Exec Excp σ Str) := by
  cases aux with
  | none => exact contained_throw hE
  | some aux => exact contained_pure _

/-- Formatting a value changes nothing. -/
theorem exec_formatValor (n : Numeric F) (valor : F) (fmt : String) (s : σ) :
    ∃ r, exec (formatValor n valor fmt : Exec Excp σ Str) s = (r, s) := by
  unfold formatValor
  split
  · exact ⟨_, rfl⟩
  · cases n.sprintf fmt valor <;> exact ⟨_, rfl⟩

theorem exec_formatInteiro (n : Numeric F) (valor : Int) (fmt : String) (s : σ) :
    ∃ r, exec (formatInteiro n valor fmt : Exec Excp σ Str) s = (r, s) := by
  unfold formatInteiro
  cases n.sprintf fmt (n.ofInt valor) <;> exact ⟨_, rfl⟩

theorem soSpooler_formatInteiro {J : σ → Prop} (n : Numeric F) (valor : Int) (fmt : String) :
    SoSpooler J (formatInteiro n valor fmt : Exec Excp σ Str) :=
  contained_comAux (E := Excp.DoSpooler) rfl _

theorem soSeCabe_formatValor {J : σ → Prop} (n : Numeric F) (valor : F) (fmt : String) :
    SoSeCabe (transborda n valor fmt = false) J (formatValor n valor fmt : Exec Excp σ Str) := by
  unfold formatValor
  split
  · rename_i h
    exact contained_throw (.inr ⟨by simp [h], rfl⟩)
  · exact contained_comAux (E := Excp.DoBuffer _) (.inl rfl) _

theorem soSpooler_formatMonetary (n : Numeric F) (valor : F) (fmt : String) :
    SoSpooler I (formatMonetary n valor fmt : Prog F δ Str) := by
  unfold formatMonetary
  split
  · exact contained_throw rfl
  · exact contained_pure _

theorem soSpooler_valueByKey (key : Str) : SoSpooler I (valueByKey key : Prog F δ Str) := by
  refine contained_bind contained_get fun m => ?_
  split
  · exact contained_pure _
  · exact contained_throw rfl

/-- A search for a payment form changes nothing but the table kept. -/
theorem soSpooler_getIdFormaPgto (hcom : ∀ m x d, I m → I (m.com x d))
    (hF : ∀ m fs vs, I m → I { m with drv := { m.drv with fpgto := fs, vincCcd := vs } })
    (dll : Dll δ) (fpgto : Str) : SoSpooler I (getIdFormaPgto dll fpgto) := by
  intro m hm
  rw [getIdFormaPgto, wp_bind, wp_get]
  cases idxElement (fpgto.take sizeFpgto) m.drv.fpgto with
  | some i => exact hm
  | none =>
    have hdev : I { m with dev := (dll.verificaFormasPagamentoMFD m.dev).2 } :=
      hcom m m.drv.sinal _ hm
    rw [wp_bind, wp_set]
    exact contained_bind (soSpooler_check hcom dll _) (fun _ =>
      contained_bind (soSpooler_altera fun m hm => hF m _ _ hm) fun _ => contained_pure _) _ hdev

theorem soSpooler_getTotalizadorCnf (hI : Externa I) (dll : Dll δ) (tot : Str) :
    SoSpooler I (getTotalizadorCnf dll tot) := by
  intro m hm
  rw [getTotalizadorCnf, wp_bind, wp_get]
  cases idxElement (tot.take sizeTotcnf) m.drv.totCnf with
  | some i => exact hm
  | none =>
    have hdev : I { m with dev := (dll.verificaTotalizadoresNaoFiscaisMFD m.dev).2 } :=
      hI.com m m.drv.sinal _ hm
    rw [wp_bind, wp_set]
    exact contained_bind (soSpooler_check hI.com dll _) (fun _ =>
      contained_bind (soSpooler_altera fun m hm => hI.totCnf m _ hm) fun _ => contained_pure _)
      _ hdev

end SoSpooler

end Driver

end Spooler
