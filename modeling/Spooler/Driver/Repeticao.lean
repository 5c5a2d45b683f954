import Spooler.Driver.SequenciaCcd

/-!
# A slip that the device refuses

`get_next_pgto_ccd` stores the position it hands out before `abre_credito_debito` asks the device
for the slip, and nothing puts the old one back (`pgtoSeq_of_comandoFalha`). So a slip that is
refused and asked for again goes to the payment after it.

**`abreCreditoDebito_repete_iff`**: a refused command leaves the position as it was only where
handing out a position does not change it, which are the two states of `NaoAvanca`.
-/

namespace Spooler

open Foundations Driver

variable {F δ : Type}

/-- The command of `abre_credito_debito` was given to the device and failed. -/
def ComandoFalha (n : Numeric F) (dll : Dll δ) (m : Maquina F δ) (fpgto doc nome endr : Str) :
    Prop :=
  (∃ e, (exec (abreCreditoDebito n dll fpgto doc nome endr) m).1 = .error e) ∧
    (exec (abreCreditoDebito n dll fpgto doc nome endr) m).2.registro ≠ m.registro

/-- The states in which the next position is the one already stored: behind a restart with one slip
asked for, and where the position after the last of a `short` is the last again. -/
def NaoAvanca (drv : Driver F) : Prop :=
  (drv.useCcd = [] ∧ drv.pgtoSeq = 0) ∨
    (drv.pgtoSeq = 32767 ∧ ∃ p, drv.useCcd.findIdx? id = some p ∧ p % 65536 = 32767)

/-! ## Where the search ends -/

theorem toShort_range (i : Int) : -32768 ≤ toShort i ∧ toShort i ≤ 32767 := by
  unfold toShort
  omega

theorem le_procuraCcd {i j : Int} {fs : List Bool} (h : procuraCcd i j fs ≠ -1) :
    i ≤ procuraCcd i j fs := by
  induction fs generalizing j with
  | nil => exact absurd rfl h
  | cons f fs ih =>
    rw [procuraCcd] at h ⊢
    split at h
    · rename_i hj
      rw [if_pos hj]
      exact hj.1
    · rename_i hj
      rw [if_neg hj]
      exact ih h

theorem procuraCcd_range (i : Int) {j : Int} (hj : -32768 ≤ j ∧ j ≤ 32767) (fs : List Bool) :
    -32768 ≤ procuraCcd i j fs ∧ procuraCcd i j fs ≤ 32767 := by
  induction fs generalizing j with
  | nil =>
    rw [procuraCcd]
    exact ⟨by decide, by decide⟩
  | cons f fs ih =>
    rw [procuraCcd]
    split
    · exact hj
    · exact ih (toShort_range _)

/-- From the least `short` on the search ends at the first flag that is set. -/
theorem procuraCcd_primeira {j : Int} (hj : -32768 ≤ j ∧ j ≤ 32767) (fs : List Bool) :
    procuraCcd (-32768) j fs = (fs.findIdx? id).elim (-1) fun p => toShort (j + p) := by
  induction fs generalizing j with
  | nil => rfl
  | cons f fs ih =>
    rw [procuraCcd, List.findIdx?_cons]
    cases f with
    | true =>
      rw [if_pos ⟨hj.1, rfl⟩]
      show j = toShort (j + (0 : Nat))
      rw [Int.natCast_zero, Int.add_zero, toShort_of_range hj.1 hj.2]
    | false =>
      rw [if_neg (by simp), ih (toShort_range _)]
      have hpasso : ∀ p : Nat, toShort (toShort (j + 1) + p) = toShort (j + (p + 1 : Nat)) := by
        intro p
        unfold toShort
        omega
      cases fs.findIdx? id <;> simp [hpasso]

theorem proximoCcd_congr {drv drv' : Driver F} (hu : drv.useCcd = drv'.useCcd)
    (hp : drv.pgtoSeq = drv'.pgtoSeq) : proximoCcd drv = proximoCcd drv' := by
  unfold proximoCcd
  rw [hu, hp]

/-- **The position handed out is the one stored in two kinds of states only.** -/
theorem proximoCcd_eq_iff {drv : Driver F} (h : proximoCcd drv ≠ -1) :
    proximoCcd drv = drv.pgtoSeq ↔ NaoAvanca drv := by
  unfold NaoAvanca
  by_cases hnil : drv.useCcd = []
  · have hprox : proximoCcd drv = 0 := by simp [proximoCcd, procuraCcd, hnil]
    rw [hprox, hnil]
    simp [eq_comm]
  · rw [proximoCcd_of_ne_nil hnil] at h ⊢
    have hrange := procuraCcd_range (toShort (drv.pgtoSeq + 1)) (j := 0) ⟨by decide, by decide⟩
      drv.useCcd
    have hle := le_procuraCcd h
    by_cases hmax : drv.pgtoSeq = 32767
    · have hi : toShort (drv.pgtoSeq + 1) = -32768 := by
        rw [hmax]
        decide
      rw [hi] at h ⊢
      rw [procuraCcd_primeira ⟨by decide, by decide⟩] at h ⊢
      simp only [hnil, hmax, false_and, true_and, false_or]
      rcases hp : drv.useCcd.findIdx? id with _ | p
      · rw [hp] at h
        exact absurd rfl h
      · simp only [Option.elim_some, Option.some.injEq, exists_eq_left', toShort]
        omega
    · -- the search starts beyond the stored position, or that is no `short`
      simp only [hnil, hmax, false_and, or_false, iff_false]
      intro heq
      rw [heq] at hrange hle
      rw [toShort_of_range (by omega) (by omega)] at hle
      omega

/-! ## The refused command -/

section Comando

variable (n : Numeric F) (dll : Dll δ)

/-- What a refused command leaves: the position handed out, and the record of payments. -/
theorem pgtoSeq_of_comandoFalha {m : Maquina F δ} {fpgto doc nome endr : Str}
    (h : ComandoFalha n dll m fpgto doc nome endr) :
    proximoCcd m.drv ≠ -1 ∧
      (exec (abreCreditoDebito n dll fpgto doc nome endr) m).2.drv.pgtoSeq = proximoCcd m.drv ∧
      (exec (abreCreditoDebito n dll fpgto doc nome endr) m).2.drv.useCcd = m.drv.useCcd := by
  obtain ⟨-, hreg⟩ := h
  have hid : SoSpooler (fun t : Maquina F δ => t.registro = m.registro ∧
      t.drv.useCcd = m.drv.useCcd ∧ t.drv.pgtoSeq = m.drv.pgtoSeq)
      (getIdFormaPgto dll fpgto : Prog F δ _) :=
    soSpooler_getIdFormaPgto (fun _ _ _ ht => ht) (fun _ _ _ ht => ht) dll fpgto
  obtain ⟨hr, hu, hp⟩ := hid.keeps (s := m) ⟨rfl, rfl, rfl⟩
  rcases hg : exec (getIdFormaPgto dll fpgto) m with ⟨e | idx, t⟩
  · rw [abreCreditoDebito, exec_bind_error hg] at hreg
    rw [hg] at hr
    exact absurd hr hreg
  rw [hg] at hr hu hp
  have hprox : proximoCcd t.drv = proximoCcd m.drv := proximoCcd_congr hu hp
  have hnext := exec_getNextPgtoCcd (m := t) hprox
  rw [abreCreditoDebito, exec_bind_ok hg] at hreg ⊢
  by_cases hidx : proximoCcd m.drv = -1
  · rw [if_pos hidx] at hnext
    rw [exec_bind_error hnext] at hreg
    exact absurd hr hreg
  · rw [if_neg hidx] at hnext
    rw [exec_bind_ok hnext]
    have hresto : SoSpooler (fun u : Maquina F δ =>
        u.drv.pgtoSeq = proximoCcd m.drv ∧ u.drv.useCcd = m.drv.useCcd)
        (formatInteiro n (idx.elim (-1) Int.ofNat) "%02.0f" >>= fun cidx =>
          envia dll (.abreComprovanteNaoFiscalVinculadoCV0909 (toShort (proximoCcd m.drv + 1)) cidx
            1 1 doc (nome.take sizeNome) (endr.take sizeEndr)) : Prog F δ Unit) :=
      contained_bind (soSpooler_formatInteiro _ _ _) fun _ =>
        soSpooler_envia ⟨fun _ _ _ ht => ht, fun _ _ ht => ht, fun _ _ ht => ht⟩ _ _
    exact ⟨hidx, hresto.keeps ⟨rfl, hu⟩⟩

/-- **A refused slip leaves the position alone, so that a second call goes to the same payment,
exactly where a call does not move it.** -/
theorem abreCreditoDebito_repete_iff {m : Maquina F δ} {fpgto doc nome endr : Str}
    (h : ComandoFalha n dll m fpgto doc nome endr) :
    ((exec (abreCreditoDebito n dll fpgto doc nome endr) m).2.drv.pgtoSeq = m.drv.pgtoSeq ∧
      proximoCcd (exec (abreCreditoDebito n dll fpgto doc nome endr) m).2.drv =
        proximoCcd m.drv) ↔
      NaoAvanca m.drv := by
  obtain ⟨hne, hseq, huse⟩ := pgtoSeq_of_comandoFalha n dll h
  rw [← proximoCcd_eq_iff hne, hseq]
  exact ⟨And.left, fun heq => ⟨heq, proximoCcd_congr huse (hseq.trans heq)⟩⟩

end Comando

/-! ## A second call goes to the next payment -/

namespace ImpressoraFpgto

/-- A device with the table of `comCartao` that refuses slips. -/
def semComprovante : ImpressoraFpgto Unit :=
  { comCartao with
    comando := fun c d => (match c with
      | .abreComprovanteNaoFiscalVinculadoCV0909 .. => 0
      | _ => bematechOk, d) }

/-- The sequence numbers of the slips asked for. -/
def sequencias (registro : List Comando) : List Int :=
  registro.filterMap fun c => match c with
    | .abreComprovanteNaoFiscalVinculadoCV0909 seq .. => some seq
    | _ => none

/-- A driver just built, to which the device refuses the first slip. -/
def recemLigada : Maquina Int Unit := .ligada false true [] ()

/-- The driver after that slip. -/
def recusada : Maquina Int Unit :=
  (exec (abreCreditoDebito Numeric.inteiros semComprovante.toDll "CARTAO".toList [] [] [])
    recemLigada).2

/-- The slip is refused a second time, behind a restart: the position stays. -/
theorem abreCreditoDebito_repete_reinicio :
    ComandoFalha Numeric.inteiros semComprovante.toDll recusada "CARTAO".toList [] [] [] ∧
      NaoAvanca recusada.drv ∧
      (exec (abreCreditoDebito Numeric.inteiros semComprovante.toDll "CARTAO".toList [] [] [])
        recusada).2.drv.pgtoSeq = recusada.drv.pgtoSeq := by
  have hfalha : ComandoFalha Numeric.inteiros semComprovante.toDll recusada
      "CARTAO".toList [] [] [] := ⟨⟨ecfExp _, rfl⟩, by decide⟩
  have hnao : NaoAvanca recusada.drv := .inl ⟨rfl, rfl⟩
  exact ⟨hfalha, hnao,
    ((abreCreditoDebito_repete_iff Numeric.inteiros semComprovante.toDll hfalha).2 hnao).1⟩

/-- A coupon paid with the card twice. -/
def duasVezesNoCartao : Maquina Int Unit :=
  pago Numeric.inteiros semComprovante cupomTotalizado [("CARTAO".toList, 10), ("CARTAO".toList, 5)]

/-- **The slip refused is for the first payment, the one asked for next for the second.** -/
theorem segunda_chamada_outroPagamento :
    let tenta (m : Maquina Int Unit) :=
      (exec (abreCreditoDebito Numeric.inteiros semComprovante.toDll "CARTAO".toList [] [] []) m).2
    ComandoFalha Numeric.inteiros semComprovante.toDll duasVezesNoCartao "CARTAO".toList [] [] [] ∧
      duasVezesNoCartao.drv.pgtoSeq = -1 ∧ (tenta duasVezesNoCartao).drv.pgtoSeq = 0 ∧
      sequencias (tenta (tenta duasVezesNoCartao)).registro = [1, 2] := by
  exact ⟨⟨⟨ecfExp _, rfl⟩, by decide⟩, by decide, by decide, by decide⟩

end ImpressoraFpgto

end Spooler
