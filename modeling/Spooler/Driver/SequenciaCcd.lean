import Spooler.Driver.FormasPagamento

/-!
# The sequence numbers of slips

Once a document is paid, slips are printed for the payments whose form is linked, each named by
the position of the payment in the document. `get_next_pgto_ccd` hands these positions out one
after the other, from the record of flags `m_use_ccd` and the last position handed out, a `short`
in which `-1` means both that none has been handed out and that none was found.

`esperadas L k` is what `k` calls should give: the first `k` positions of `L`, and an error beyond
them. While the positions fit into a `short` the calls go round (`chamadas_eq_ciclo`): behind the
last position one call fails, and the next one starts again. **They hand out the positions in order
and fail from then on exactly when at most one call is made too many, or there is nothing to hand
out, and the positions asked for fit into a `short`**, `emite_iff`, from any history of the driver.
-/

namespace Spooler

open Foundations Driver

/-! ## Positions -/

/-- The positions of the linked payments, counted from `p`. -/
def posicoes : (p : Nat) → List Bool → List Nat
  | _, [] => []
  | p, f :: fs => if f then p :: posicoes (p + 1) fs else posicoes (p + 1) fs

theorem le_of_mem_posicoes {p x : Nat} {fs : List Bool} (h : x ∈ posicoes p fs) : p ≤ x := by
  induction fs generalizing p with
  | nil => cases h
  | cons f fs ih =>
    have htail : x ∈ posicoes (p + 1) fs → p ≤ x := fun h => Nat.le_of_succ_le (ih h)
    cases f with
    | false => exact htail h
    | true =>
      obtain rfl | h := List.mem_cons.1 h
      · exact le_rfl
      · exact htail h

theorem pairwise_posicoes (p : Nat) (fs : List Bool) : (posicoes p fs).Pairwise (· < ·) := by
  induction fs generalizing p with
  | nil => exact List.Pairwise.nil
  | cons f fs ih =>
    cases f with
    | false => exact ih (p + 1)
    | true => exact List.Pairwise.cons (fun x hx => le_of_mem_posicoes hx) (ih (p + 1))

theorem mem_of_filter_eq_cons {L B : List Nat} {q : Nat → Bool} {p : Nat}
    (h : L.filter q = p :: B) : p ∈ L ∧ q p = true := by
  have hp : p ∈ L.filter q := by
    rw [h]
    exact List.mem_cons_self
  exact List.mem_filter.1 hp

/-- What lies behind the first element beyond a bound lies beyond that element. -/
theorem filter_lt_of_filter_eq_cons {L B : List Nat} {i p : Nat} (hL : L.Pairwise (· < ·))
    (h : L.filter (i < ·) = p :: B) : L.filter (p < ·) = B := by
  have hsorted : (p :: B).Pairwise (· < ·) := by
    rw [← h]
    exact hL.filter _
  have hi : i < p := by simpa using (mem_of_filter_eq_cons h).2
  have hnarrow : L.filter (p < ·) = (L.filter (i < ·)).filter (p < ·) := by
    rw [List.filter_filter]
    refine List.filter_congr fun x _ => ?_
    by_cases hx : p < x
    · simp [hx, hi.trans hx]
    · simp [hx]
  rw [hnarrow, h, List.filter_cons_of_neg (by simp)]
  exact List.filter_eq_self.2 fun x hx => by simpa using (List.pairwise_cons.1 hsorted).1 x hx

/-! ## The search -/

theorem procuraCcd_false (i j : Int) {fs : List Bool} (h : ∀ f ∈ fs, f = false) :
    procuraCcd i j fs = -1 := by
  induction fs generalizing j with
  | nil => rfl
  | cons f fs ih =>
    rw [List.forall_mem_cons] at h
    simp [procuraCcd, h.1, ih _ h.2]

theorem eq_false_of_posicoes {p : Nat} {fs : List Bool} (h : posicoes p fs = []) :
    ∀ f ∈ fs, f = false := by
  induction fs generalizing p with
  | nil => simp
  | cons f fs ih =>
    cases f with
    | false => exact List.forall_mem_cons.2 ⟨rfl, ih h⟩
    | true => cases h

/-- The search finds the first position beyond `i`, if it fits into a `short`. -/
theorem procuraCcd_some {i j p : Nat} {fs : List Bool} {B : List Nat}
    (h : (posicoes (j + 1) fs).filter (i < ·) = p :: B) (hp : p ≤ 32767) :
    procuraCcd i j fs = p - 1 := by
  induction fs generalizing j with
  | nil => cases h
  | cons f fs ih =>
    have hmem : p ∈ posicoes (j + 1) (f :: fs) := (mem_of_filter_eq_cons h).1
    have hj := le_of_mem_posicoes hmem
    by_cases hf : f = true ∧ i ≤ j
    · obtain ⟨rfl, hij⟩ := hf
      have hpj : p = j + 1 := by
        simp only [posicoes, if_true] at h
        rw [List.filter_cons_of_pos (by simpa using Nat.lt_succ_of_le hij)] at h
        exact (List.cons.inj h).1.symm
      rw [procuraCcd, if_pos ⟨by omega, rfl⟩]
      omega
    · have htail : (posicoes (j + 1 + 1) fs).filter (i < ·) = p :: B := by
        cases f with
        | false => exact h
        | true =>
          have hij : ¬ i < j + 1 := by
            intro hlt
            exact hf ⟨rfl, by omega⟩
          simp only [posicoes, if_true] at h
          rwa [List.filter_cons_of_neg (by simpa using hij)] at h
      have hmem' : p ∈ posicoes (j + 1 + 1) fs := (mem_of_filter_eq_cons htail).1
      have hj' := le_of_mem_posicoes hmem'
      have hshort : toShort ((j : Int) + 1) = ((j + 1 : Nat) : Int) := by
        rw [toShort_of_range (by omega) (by omega)]
        rfl
      rw [procuraCcd, if_neg (fun hc => hf ⟨hc.2, by omega⟩), hshort]
      exact ih htail

/-- The search finds nothing beyond the last position, if all positions fit into a `short`. -/
theorem procuraCcd_none {i j : Nat} {fs : List Bool} (hj : j ≤ 32767)
    (h : (posicoes (j + 1) fs).filter (i < ·) = [])
    (hp : ∀ p ∈ posicoes (j + 1) fs, p ≤ 32767) : procuraCcd i j fs = -1 := by
  induction fs generalizing j with
  | nil => rfl
  | cons f fs ih =>
    have hsub : ∀ p ∈ posicoes (j + 1 + 1) fs, p ∈ posicoes (j + 1) (f :: fs) := by
      intro p hmem
      cases f with
      | false => exact hmem
      | true => exact List.mem_cons_of_mem _ hmem
    have hf : ¬ ((j : Int) ≥ i ∧ f = true) := by
      rintro ⟨hij, rfl⟩
      have := List.filter_eq_nil_iff.1 h (j + 1) (by simp [posicoes])
      simp only [decide_eq_true_eq, not_lt] at this
      omega
    have htail : (posicoes (j + 1 + 1) fs).filter (i < ·) = [] :=
      List.filter_eq_nil_iff.2 fun p hmem => List.filter_eq_nil_iff.1 h p (hsub p hmem)
    rw [procuraCcd, if_neg hf]
    by_cases hlast : j = 32767
    · have hnil : posicoes (j + 1 + 1) fs = [] := by
        rw [List.eq_nil_iff_forall_not_mem]
        intro p hmem
        have h₁ := le_of_mem_posicoes hmem
        have h₂ := hp p (hsub p hmem)
        omega
      exact procuraCcd_false _ _ (eq_false_of_posicoes hnil)
    · have hshort : toShort ((j : Int) + 1) = ((j + 1 : Nat) : Int) := by
        rw [toShort_of_range (by omega) (by omega)]
        rfl
      rw [hshort]
      exact ih (by omega) htail fun p hmem => hp p (hsub p hmem)

/-! ## Calls -/

section Chamadas

variable {F δ : Type}

/-- The results of `k` calls of `get_next_pgto_ccd`. -/
def chamadas : Maquina F δ → (k : Nat) → List (Except Excp Int)
  | _, 0 => []
  | m, k + 1 => (exec getNextPgtoCcd m).1 :: chamadas (exec getNextPgtoCcd m).2 k

/-- `ECF_CCD_UNAVAILABLE` is raised. -/
def indisponivel : Except Excp Int := .error (ecfExp ccdUnavailable)

/-- The result that hands a position out, or says that there is none. -/
def entrega : Option Nat → Except Excp Int
  | some p => .ok p
  | none => indisponivel

/-- The results that are asked for: the positions of `L` in order, then an error each time. -/
def esperadas (L : List Nat) (k : Nat) : List (Except Excp Int) :=
  (List.range k).map fun i => entrega L[i]?

/-- The results of calls that go round: with `B` left of `L`, the positions of `B` in order, an
error, and `L` from its start. -/
def ciclo (L : List Nat) : (B : List Nat) → (k : Nat) → List (Except Excp Int)
  | _, 0 => []
  | [], k + 1 => indisponivel :: ciclo L L k
  | p :: B, k + 1 => entrega (some p) :: ciclo L B k

theorem esperadas_cons (p : Nat) (B : List Nat) (k : Nat) :
    esperadas (p :: B) (k + 1) = entrega (some p) :: esperadas B k := by
  simp [esperadas, List.range_succ_eq_map, Function.comp_def]

theorem esperadas_nil (k : Nat) :
    esperadas [] (k + 1) = indisponivel :: esperadas [] k := by
  simp [esperadas, List.range_succ_eq_map, Function.comp_def, entrega]

/-- **Going round gives what is asked for as long as no call follows the error**, or there is
nothing to go round. -/
theorem ciclo_eq_esperadas_iff (L B : List Nat) (k : Nat) :
    ciclo L B k = esperadas B k ↔ L = [] ∨ k ≤ B.length + 1 := by
  induction k generalizing B with
  | zero => simp [ciclo, esperadas]
  | succ k ih =>
    cases B with
    | cons p B => simp [ciclo, esperadas_cons, ih]
    | nil =>
      rw [ciclo, esperadas_nil, List.cons.injEq]
      cases L with
      | nil => simp [ih]
      | cons q L =>
        cases k with
        | zero => simp [ciclo, esperadas]
        | succ k => simp [ciclo, esperadas_nil, entrega, indisponivel]

theorem exec_getNextPgtoCcd {m : Maquina F δ} {idx : Int} (h : proximoCcd m.drv = idx) :
    exec getNextPgtoCcd m =
      (if idx = -1 then indisponivel else .ok (toShort (idx + 1)),
        { m with drv := { m.drv with pgtoSeq := idx } }) := by
  simp only [getNextPgtoCcd, exec_bind, exec_get, exec_altera, h]
  split <;> rfl

theorem proximoCcd_of_ne_nil {drv : Driver F} (h : drv.useCcd ≠ []) :
    proximoCcd drv = procuraCcd (toShort (drv.pgtoSeq + 1)) 0 drv.useCcd := if_neg h

/-- What a call hands out fits into a `short`. -/
theorem le_of_ok_mem_chamadas {m : Maquina F δ} {k : Nat} {v : Int}
    (h : .ok v ∈ chamadas m k) : v ≤ 32767 := by
  induction k generalizing m with
  | zero => cases h
  | succ k ih =>
    obtain h | h := List.mem_cons.1 h
    · rw [exec_getNextPgtoCcd rfl] at h
      split at h
      · cases h
      · rw [Except.ok.injEq] at h
        rw [h, toShort]
        omega
    · exact ih h

theorem filter_pos_posicoes (fs : List Bool) :
    (posicoes 1 fs).filter (0 < ·) = posicoes 1 fs := by
  refine List.filter_eq_self.2 fun p hp => ?_
  have hp' := le_of_mem_posicoes hp
  simpa using Nat.lt_of_succ_le hp'

/-- **The calls go round**, as long as they meet positions that fit into a `short`: here with the
positions up to `i` handed out. -/
theorem chamadas_eq_ciclo {m : Maquina F δ} (hne : m.drv.useCcd ≠ []) {i : Nat} (hi : i ≤ 32767)
    (hseq : m.drv.pgtoSeq = (i : Int) - 1) {k : Nat}
    (hB : ∀ p ∈ ((posicoes 1 m.drv.useCcd).filter (i < ·)).take k, p ≤ 32767)
    (hfim : ((posicoes 1 m.drv.useCcd).filter (i < ·)).length < k →
      ∀ p ∈ posicoes 1 m.drv.useCcd, p ≤ 32767) :
    chamadas m k = ciclo (posicoes 1 m.drv.useCcd)
      ((posicoes 1 m.drv.useCcd).filter (i < ·)) k := by
  induction k generalizing m i with
  | zero => rfl
  | succ k ih =>
    have hshort : toShort (m.drv.pgtoSeq + 1) = (i : Int) := by
      rw [hseq, toShort_of_range (by omega) (by omega)]
      omega
    cases hrest : (posicoes 1 m.drv.useCcd).filter (i < ·) with
    | nil =>
      rw [hrest] at hfim
      have hall := hfim (Nat.succ_pos k)
      have hidx : proximoCcd m.drv = -1 := by
        rw [proximoCcd_of_ne_nil hne, hshort]
        exact procuraCcd_none (j := 0) (by omega) hrest hall
      rw [chamadas, exec_getNextPgtoCcd hidx, ciclo, if_pos rfl]
      have hnext := ih (m := { m with drv := { m.drv with pgtoSeq := -1 } }) (i := 0) hne
        (by omega) rfl (fun p hp => hall p (by
          rw [filter_pos_posicoes] at hp
          exact List.mem_of_mem_take hp)) (fun _ => hall)
      rw [filter_pos_posicoes] at hnext
      rw [hnext]
    | cons p B =>
      rw [hrest] at hB hfim
      have hp : p ≤ 32767 := hB p (by simp)
      have hpos : 1 ≤ p := le_of_mem_posicoes (mem_of_filter_eq_cons hrest).1
      have hidx : proximoCcd m.drv = (p : Int) - 1 := by
        rw [proximoCcd_of_ne_nil hne, hshort]
        exact procuraCcd_some (j := 0) hrest hp
      have hp' : toShort ((p : Int) - 1 + 1) = p := by
        rw [toShort_of_range (by omega) (by omega)]
        omega
      have hB' := filter_lt_of_filter_eq_cons (pairwise_posicoes 1 m.drv.useCcd) hrest
      rw [chamadas, exec_getNextPgtoCcd hidx, ciclo, if_neg (by omega), hp']
      have hnext := ih (m := { m with drv := { m.drv with pgtoSeq := (p : Int) - 1 } }) (i := p) hne
        hp rfl (by
          rw [hB']
          exact fun q hq => hB q (by simp [hq])) (by
          rw [hB']
          exact fun hlt => hfim (by simpa using hlt))
      rw [hB'] at hnext
      rw [hnext]
      rfl

/-- **The calls give the positions in order and fail from then on** exactly when at most one call is
made too many, or there is no position, and the positions asked for fit into a `short`. -/
theorem chamadas_eq_esperadas_iff {m : Maquina F δ} (hne : m.drv.useCcd ≠ [])
    (hseq : m.drv.pgtoSeq = -1) (k : Nat) :
    chamadas m k = esperadas (posicoes 1 m.drv.useCcd) k ↔
      (posicoes 1 m.drv.useCcd = [] ∨ k ≤ (posicoes 1 m.drv.useCcd).length + 1) ∧
        ∀ p ∈ (posicoes 1 m.drv.useCcd).take k, p ≤ 32767 := by
  have hciclo : (∀ p ∈ (posicoes 1 m.drv.useCcd).take k, p ≤ 32767) →
      chamadas m k = ciclo (posicoes 1 m.drv.useCcd) (posicoes 1 m.drv.useCcd) k := by
    intro hB
    have hfim : (posicoes 1 m.drv.useCcd).length < k →
        ∀ p ∈ posicoes 1 m.drv.useCcd, p ≤ 32767 := by
      intro hlt
      rwa [List.take_of_length_le hlt.le] at hB
    rw [← filter_pos_posicoes] at hB hfim ⊢
    rw [chamadas_eq_ciclo hne (Nat.zero_le _) hseq hB (by rwa [filter_pos_posicoes] at hfim ⊢),
      filter_pos_posicoes]
  constructor
  · intro h
    have hB : ∀ p ∈ (posicoes 1 m.drv.useCcd).take k, p ≤ 32767 := by
      intro p hp
      obtain ⟨i, hi, rfl⟩ := List.mem_take_iff_getElem.1 hp
      have hmem : (.ok ((posicoes 1 m.drv.useCcd)[i] : Int) : Except Excp Int) ∈ chamadas m k := by
        rw [h]
        refine List.mem_map.2 ⟨i, List.mem_range.2 (by omega), ?_⟩
        rw [List.getElem?_eq_getElem (by omega)]
        rfl
      have hle := le_of_ok_mem_chamadas hmem
      omega
    exact ⟨(ciclo_eq_esperadas_iff _ _ k).1 ((hciclo hB).symm.trans h), hB⟩
  · rintro ⟨hk, hB⟩
    exact (hciclo hB).trans ((ciclo_eq_esperadas_iff _ _ k).2 hk)

end Chamadas

/-! ## A document, paid -/

namespace ImpressoraFpgto

variable {F δ : Type} (n : Numeric F) (imp : ImpressoraFpgto δ)

/-- The machine after a sequence of payments. -/
def pago (m : Maquina F δ) (pags : List (Str × F)) : Maquina F δ :=
  run (Op.passo n imp.toDll) m (pags.map fun p => .pagamento p.1 p.2)

/-- Of the payments the device accepts, in order: is the form linked? -/
def aceitos (m : Maquina F δ) : List (Str × F) → List Bool
  | [] => []
  | p :: pags => aceito n imp m p.1 p.2 ++
      aceitos ((Op.pagamento p.1 p.2).passo n imp.toDll m) pags

/-- The positions, among the payments the device accepts, of those whose form is linked. -/
def vinculados (m : Maquina F δ) (pags : List (Str × F)) : List Nat :=
  posicoes 1 (aceitos n imp m pags)

variable {n imp}

/-- Payments record the flags of the accepted ones and leave the position alone. -/
theorem pago_record {m : Maquina F δ} (hm : Fiel imp.tabela m.drv) (pags : List (Str × F)) :
    (pago n imp m pags).drv.useCcd = m.drv.useCcd ++ aceitos n imp m pags ∧
      (pago n imp m pags).drv.pgtoSeq = m.drv.pgtoSeq := by
  induction pags generalizing m with
  | nil => simp [pago, aceitos]
  | cons p pags ih =>
    obtain ⟨huse, hseq⟩ := ih (fiel_passo (n := n) hm (.pagamento p.1 p.2))
    have hext : Externa (fun t : Maquina F δ => t.drv.pgtoSeq = m.drv.pgtoSeq) :=
      externa_drv (f := Driver.pgtoSeq) (fun _ _ => rfl) (fun _ _ => rfl) _
    have hpgto : ((Op.pagamento p.1 p.2).passo n imp.toDll m).drv.pgtoSeq = m.drv.pgtoSeq :=
      (soSeCabe_pagamento hext
        (fun fpgto => soSpooler_getIdFormaPgto hext.com (fun _ _ _ h => h) imp.toDll fpgto)
        (fun _ _ h => h) p.1 p.2).keeps rfl
    refine ⟨?_, hseq.trans hpgto⟩
    rw [pago, List.map_cons, run_cons]
    rw [pago] at huse
    rw [huse, passo_pagamento_useCcd hm, aceitos, List.append_assoc]

/-- **Slips get the positions of the linked payments, each once, exactly when at most one is asked
for too many**, or no payment is linked, and the positions fit into a `short`: for a document
totalled and paid after any history of the driver. -/
theorem emite_iff (n : Numeric F) (imp : ImpressoraFpgto δ) (fake ignorar : Bool)
    (specific : List (Str × Str)) (d : δ) (hist : List (Op F)) (inicia : Op F)
    (hin : inicia.totaliza = true)
    (hok : inicia.Aceita n imp.toDll
      (run (Op.passo n imp.toDll) (.ligada fake ignorar specific d) hist))
    {m : Maquina F δ}
    (hm : m = run (Op.passo n imp.toDll) (.ligada fake ignorar specific d) (hist ++ [inicia]))
    {pags : List (Str × F)} (hpags : aceitos n imp m pags ≠ []) (k : Nat) :
    chamadas (pago n imp m pags) k = esperadas (vinculados n imp m pags) k ↔
      (vinculados n imp m pags = [] ∨ k ≤ (vinculados n imp m pags).length + 1) ∧
        ∀ p ∈ (vinculados n imp m pags).take k, p ≤ 32767 := by
  have hfiel : Fiel imp.tabela m.drv := by
    rw [hm]
    exact fiel_run n imp fake ignorar specific d _
  obtain ⟨huse₀, hseq₀⟩ : m.drv.useCcd = [] ∧ m.drv.pgtoSeq = -1 := by
    rw [hm, run_append, run_cons, run_nil]
    exact passo_totaliza hin hok
  obtain ⟨huse, hseq⟩ := pago_record (n := n) hfiel pags
  rw [huse₀, List.nil_append] at huse
  rw [vinculados, ← huse]
  exact chamadas_eq_esperadas_iff (by rwa [huse]) (hseq.trans hseq₀) k

/-! ## One call too many -/

/-- A record of the table: the name, spaces up to the flag, the flag. -/
def registro (nome : Str) (flag : Char) : Str :=
  nome ++ List.replicate (44 - nome.length) ' ' ++ [flag]

/-- Cash, which is not linked, a card, which is, and eighteen free records. -/
def dinheiroCartao : TabelaFpgto where
  regs := registro "DINHEIRO".toList '0' :: registro "CARTAO".toList '1' ::
    List.replicate 18 (registro [] '0')
  length_regs := by decide
  largura := by decide
  limpo := by decide

/-- A device that accepts everything. -/
def comCartao : ImpressoraFpgto Unit where
  comando _ d := (bematechOk, d)
  retornoImpressoraMFD d := ((bematechOk, ⟨6, 0, 0, 0⟩), d)
  verificaFormasPagamentoMFD d := ((bematechOk, dinheiroCartao.codifica), d)
  verificaTotalizadoresNaoFiscaisMFD d := ((bematechOk, []), d)
  dataHoraReducao d := ((bematechOk, [], []), d)
  dadosUltimaReducaoMFD d := ((bematechOk, []), d)
  tabela := dinheiroCartao
  formas_ok _ _ := rfl

/-- A coupon is totalled on the device just built. -/
def cupomTotalizado : Maquina Int Unit :=
  run (Op.passo Numeric.inteiros comCartao.toDll) (.ligada false true [] ()) [.iniciaFechamento 0]

/-- One payment, of the linked form. -/
def noCartao : List (Str × Int) := [("CARTAO".toList, 10)]

/-- One linked payment is accepted; the third call hands its position out again. -/
theorem terceira_chamada_repete :
    chamadas (pago Numeric.inteiros comCartao cupomTotalizado noCartao) 3 ≠
      esperadas (vinculados Numeric.inteiros comCartao cupomTotalizado noCartao) 3 := by
  decide

/-- The same document, with as many calls as it has linked payments. -/
theorem emite_primeira :
    chamadas (pago Numeric.inteiros comCartao cupomTotalizado noCartao) 1 =
      esperadas (vinculados Numeric.inteiros comCartao cupomTotalizado noCartao) 1 :=
  (emite_iff Numeric.inteiros comCartao false true [] () [] (.iniciaFechamento 0) rfl (by decide)
    rfl (by decide) 1).2 (by decide)

end ImpressoraFpgto

end Spooler
