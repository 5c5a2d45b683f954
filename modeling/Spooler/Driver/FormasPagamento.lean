import Spooler.Driver.Documentos

/-!
# The payment forms of the device

`TabelaFpgto` is the table of payment forms programmed into a device, twenty records of fixed
width, and `ImpressoraFpgto` a library over a device with that table. What the driver keeps of it
is nothing or the table (`Fiel`), whatever operations it has served (`fiel_run`), so a payment
form the driver finds has the flag of its record (`getVincFormaPgto_eq`), and **a payment records
the flag of its form when the device accepts it, and nothing otherwise**,
`passo_pagamento_useCcd`.
-/

namespace Spooler

open Foundations Driver

/-! ## The table -/

/-- The payment forms programmed into a device, in records of 45 characters. -/
structure TabelaFpgto where
  regs : List Str
  length_regs : regs.length = totalFpgto
  largura : ∀ reg ∈ regs, reg.length = tamRegFpgto - 1
  limpo : ∀ reg ∈ regs, ',' ∉ reg ∧ '\x00' ∉ reg

namespace TabelaFpgto

/-- The records as the library writes them, each with a comma behind it. -/
def codifica (T : TabelaFpgto) : Str := T.regs.flatMap (· ++ [','])

/-- The record has a description, and its flag lets a slip be printed. -/
def vinculado (reg : Str) : Bool := Str.trim (reg.take sizeFpgto) ≠ [] && reg[44]? = some '1'

/-- The payment form in the given position, counted from one, is linked. -/
def vinculada (T : TabelaFpgto) (idx : Nat) : Bool :=
  match T.regs[idx - 1]? with
  | some reg => vinculado reg
  | none => false

end TabelaFpgto

theorem registros_flatMap {regs : List Str} (h : ∀ reg ∈ regs, ',' ∉ reg) (resto : Str) :
    registros regs.length (regs.flatMap (· ++ [',']) ++ resto) = regs := by
  induction regs with
  | nil => rfl
  | cons reg regs ih =>
    rw [List.forall_mem_cons] at h
    have hreg : ∀ c ∈ reg, decide (c ≠ ',') = true := by
      intro c hc
      rw [decide_eq_true_eq]
      rintro rfl
      exact h.1 hc
    simp only [List.length_cons, registros, List.flatMap_cons, List.append_assoc,
      List.singleton_append, List.takeWhile_append_of_pos hreg, List.dropWhile_append_of_pos hreg]
    simp [ih h.2]

/-- The driver reads the records of the table. -/
theorem TabelaFpgto.registros_codifica (T : TabelaFpgto) :
    registros totalFpgto T.codifica = T.regs := by
  have h := registros_flatMap (fun reg hreg => (T.limpo reg hreg).1) []
  rwa [List.append_nil, T.length_regs] at h

/-- The driver keeps the flag of a record. -/
theorem TabelaFpgto.vincFpgto_eq (T : TabelaFpgto) {reg : Str} (h : reg ∈ T.regs) :
    vincFpgto reg = vinculado reg := by
  have hlen := T.largura reg h
  rw [vincFpgto, vinculado, descrFpgto, Str.cstr_eq_self (T.limpo reg h).2,
    if_neg (by rw [hlen]; exact lt_irrefl _)]

/-! ## What the driver keeps -/

/-- A library over a device with a table of payment forms. -/
structure ImpressoraFpgto (δ : Type) extends Dll δ where
  tabela : TabelaFpgto
  formas_ok : ∀ d, (verificaFormasPagamentoMFD d).1.1 = bematechOk →
    (verificaFormasPagamentoMFD d).1.2 = tabela.codifica

/-- The driver keeps nothing of the payment forms, or the whole table. -/
def Fiel {F : Type} (T : TabelaFpgto) (drv : Driver F) : Prop :=
  drv.fpgto = [] ∨ drv.fpgto = T.regs.map nomeFpgto ∧ drv.vincCcd = T.regs.map vincFpgto

namespace ImpressoraFpgto

variable {F δ : Type} {n : Numeric F} {imp : ImpressoraFpgto δ}

theorem externa_fiel (T : TabelaFpgto) : Externa (fun m : Maquina F δ => Fiel T m.drv) where
  com _ _ _ hm := hm
  registra _ _ hm := hm
  totCnf _ _ hm := hm

/-- A search ends with the table in memory when it finds a payment form. -/
theorem exec_getIdFormaPgto (imp : ImpressoraFpgto δ) {m : Maquina F δ}
    (h : Fiel imp.tabela m.drv) (fpgto : Str) :
    Wp (getIdFormaPgto imp.toDll fpgto)
      (fun idx t => Fiel imp.tabela t.drv ∧
        ∀ i, idx = some i → i ≠ 0 ∧ t.drv.vincCcd = imp.tabela.regs.map vincFpgto)
      (fun e t => e.isSpooler = true ∧ Fiel imp.tabela t.drv) m := by
  simp only [getIdFormaPgto, wp_bind, wp_get]
  cases hidx : idxElement (fpgto.take sizeFpgto) m.drv.fpgto with
  | some i =>
    have hne : m.drv.fpgto ≠ [] := by
      intro hnil
      rw [hnil] at hidx
      cases hidx
    refine ⟨h, fun j hj => ?_⟩
    obtain hnil | ⟨-, hvinc⟩ := h
    · exact absurd hnil hne
    · rw [Option.some.injEq] at hj
      exact ⟨by omega, hvinc⟩
  | none =>
    simp only [wp_bind, wp_set]
    obtain ⟨r, x, hx, hr⟩ := exec_check imp.toDll (imp.verificaFormasPagamentoMFD m.dev).1.1
      { m with dev := (imp.verificaFormasPagamentoMFD m.dev).2 }
    obtain rfl | ⟨msg, rfl⟩ := hr
    · have hbuf := imp.formas_ok m.dev (eq_ok_of_check (congrArg Prod.fst hx))
      simp only [Wp, hx, exec_altera, exec_pure, hbuf, TabelaFpgto.registros_codifica]
      refine ⟨.inr ⟨rfl, rfl⟩, fun j hj => ?_⟩
      obtain ⟨i, -, rfl⟩ := Option.map_eq_some_iff.1 hj
      exact ⟨Nat.succ_ne_zero i, trivial⟩
    · simp only [Wp, hx]
      exact ⟨rfl, h⟩

/-- No search loses the table. -/
theorem soSpooler_fiel (fpgto : Str) :
    SoSpooler (fun m : Maquina F δ => Fiel imp.tabela m.drv) (getIdFormaPgto imp.toDll fpgto) :=
  fun _ hm => (exec_getIdFormaPgto imp hm fpgto).mono (fun _ _ h => h.1) (fun _ _ h => h)

theorem fiel_passo {m : Maquina F δ} (hm : Fiel imp.tabela m.drv) (op : Op F) :
    Fiel imp.tabela (op.passo n imp.toDll m).drv :=
  (soSeCabe_prog (externa_fiel _) soSpooler_fiel (fun _ _ _ h => h) (fun _ _ _ h => h)).keeps hm

/-- **The driver keeps nothing or the table**, whatever it has served since it was built. -/
theorem fiel_run (n : Numeric F) (imp : ImpressoraFpgto δ) (fake ignorar : Bool)
    (specific : List (Str × Str)) (d : δ) (hist : List (Op F)) :
    Fiel imp.tabela
      (run (Op.passo n imp.toDll) (.ligada fake ignorar specific d) hist : Maquina F δ).drv := by
  have hpasso : ∀ (m : Maquina F δ) (op : Op F), Fiel imp.tabela m.drv →
      Fiel imp.tabela (op.passo n imp.toDll m).drv := fun m op hm => fiel_passo hm op
  have hinicio : Fiel imp.tabela (Maquina.ligada fake ignorar specific d : Maquina F δ).drv :=
    .inl rfl
  exact run_preserves (I := fun m : Maquina F δ => Fiel imp.tabela m.drv) hpasso hinicio hist _
    (run_mem_visited _ _ _)

/-! ## What a payment records -/

/-- The position of the payment form the driver finds under a name. -/
def formaPaga (imp : ImpressoraFpgto δ) (m : Maquina F δ) (fpgto : Str) : Option Nat :=
  match (exec (getIdFormaPgto imp.toDll fpgto) m).1 with
  | .ok idx => idx
  | .error _ => none

/-- What a payment adds to the record: whether its form is linked, when the device accepts it, and
nothing when it is refused or suppressed. -/
def aceito (n : Numeric F) (imp : ImpressoraFpgto δ) (m : Maquina F δ) (fpgto : Str) (valor : F) :
    List Bool :=
  if m.drv.dontPay = false ∧ (Op.pagamento fpgto valor).Aceita n imp.toDll m then
    ((formaPaga imp m fpgto).map imp.tabela.vinculada).toList
  else []

/-- The driver reads the flag of the record off what it keeps. -/
theorem getVincFormaPgto_eq {drv : Driver F} {T : TabelaFpgto} {idx : Nat} (h₀ : idx ≠ 0)
    (h : drv.vincCcd = T.regs.map vincFpgto) : getVincFormaPgto drv idx = T.vinculada idx := by
  rw [getVincFormaPgto, if_neg h₀, h, TabelaFpgto.vinculada, List.getD_eq_getElem?_getD,
    List.getElem?_map]
  cases hreg : T.regs[idx - 1]? with
  | none => rfl
  | some reg => exact T.vincFpgto_eq (List.mem_of_getElem? hreg)

/-- **A payment records the flag of its form when it is accepted, and nothing otherwise.** -/
theorem passo_pagamento_useCcd {m : Maquina F δ} (hm : Fiel imp.tabela m.drv) (fpgto : Str)
    (valor : F) : ((Op.pagamento fpgto valor).passo n imp.toDll m).drv.useCcd =
      m.drv.useCcd ++ aceito n imp m fpgto valor := by
  have hwp := exec_getIdFormaPgto imp hm fpgto
  have hpres : (exec (getIdFormaPgto imp.toDll fpgto) m).2.drv.useCcd = m.drv.useCcd :=
    (soSpooler_getIdFormaPgto (I := fun t => t.drv.useCcd = m.drv.useCcd) (fun _ _ _ h => h)
      (fun _ _ _ h => h) imp.toDll fpgto).keeps rfl
  unfold aceito formaPaga Op.Aceita Op.passo Op.prog
  by_cases hd : m.drv.dontPay = false
  · simp only [exec_pagamento hd, hd, true_and]
    unfold Wp at hwp
    rcases hx : exec (getIdFormaPgto imp.toDll fpgto) m with ⟨e | _ | idx, t⟩ <;>
      rw [hx] at hwp hpres
    · simpa using hpres
    · simpa using hpres
    · obtain ⟨h₀, hvinc⟩ := hwp.2 idx rfl
      obtain ⟨hok, -, huse⟩ | ⟨hno, huse⟩ := exec_efetuaPagamento n imp.toDll idx valor t
      · rw [if_pos hok, huse, hpres, getVincFormaPgto_eq h₀ hvinc]
        rfl
      · rw [if_neg hno, huse, hpres, List.append_nil]
  · rw [Bool.not_eq_false] at hd
    simp [pagamento, exec_bind, hd]

end ImpressoraFpgto

end Spooler
