import Spooler.Driver.Maquina
import Spooler.Foundations.Runs
import Mathlib.Tactic.IntervalCases

/-!
# The message of a refused call

`check` throws the text it finds in `m_stsmsg` after `eval_status`, and some branches of
`eval_status` leave there what an earlier command put. `Julgado` is what is expected: the outcome
of a call follows from its own answer and the flag, paper running low counts for nothing with the
flag set, and the table of ST3 is read inside its bounds. **It holds of all answers but two kinds**,
`julgado_iff`: with the flag set, ST2 and ST3 good and ST1 showing the end of the paper together
with paper running low and nothing else, the call is refused with an older message; and an ST3 of
218, the bound that the code compares with, is one behind the last entry of the table.
-/

namespace Spooler

open Foundations

/-! ## The status bytes, message aside -/

/-- ST1 with the bit of paper running low cleared. -/
def semPoucoPapel (st1 : Nat) : Nat := st1 &&& 0xBF

/-- Only the two bits about paper are set. -/
def fimEPoucoPapel : Nat := 0xC0

theorem byte_lt (n : Int) : byte n < 256 := by
  unfold byte
  omega

/-- The six bits of ST1 that are tested before those about paper. -/
def errosSt1 (st1 : Nat) : Nat := st1 % 64

theorem testBit_errosSt1 {st1 i : Nat} (hi : i < 6) :
    (errosSt1 st1).testBit i = st1.testBit i := by
  rw [errosSt1, show (64 : Nat) = 2 ^ 6 from rfl, Nat.testBit_mod_two_pow, decide_eq_true hi,
    Bool.true_and]

/-- With none of the six bits, four values are left. -/
theorem eq_of_errosSt1_eq_zero {st1 : Nat} (h : st1 < 256) (h0 : errosSt1 st1 = 0) :
    st1 = 0 ∨ st1 = 0x40 ∨ st1 = 0x80 ∨ st1 = fimEPoucoPapel := by
  unfold errosSt1 at h0
  unfold fimEPoucoPapel
  omega

/-- With one of the six bits ST1 is refused, and the message depends on these bits only. -/
theorem evalSt1_of_erros {st1 : Nat} (h : errosSt1 st1 ≠ 0) :
    ∃ msg, ∀ ignorar stsmsg st1', errosSt1 st1' = errosSt1 st1 →
      evalSt1 ignorar stsmsg st1' = (false, msg) := by
  refine ⟨(evalSt1 true [] st1).2, fun ignorar stsmsg st1' he => ?_⟩
  have hne : st1 ≠ 0 := by
    rintro rfl
    exact h rfl
  have hne' : st1' ≠ 0 := by
    rintro rfl
    exact h he.symm
  have hbit : ∀ i < 6, st1'.testBit i = st1.testBit i := fun i hi => by
    rw [← testBit_errosSt1 hi, he, testBit_errosSt1 hi]
  have hsome : ∃ i < 6, st1.testBit i = true := by
    by_contra hno
    push Not at hno
    refine h (Nat.eq_of_testBit_eq fun i => ?_)
    rw [Nat.zero_testBit]
    by_cases hi : i < 6
    · rw [testBit_errosSt1 hi]
      exact Bool.eq_false_iff.2 (hno i hi)
    · exact Nat.testBit_lt_two_pow ((Nat.mod_lt st1 (by decide : 0 < 64)).trans_le
        (Nat.pow_le_pow_right Nat.two_pos (Nat.le_of_not_lt hi)))
  simp only [evalSt1, if_neg hne, if_neg hne', hbit 0 (by decide), hbit 1 (by decide),
    hbit 2 (by decide), hbit 3 (by decide), hbit 4 (by decide), hbit 5 (by decide)]
  split
  · rfl
  split
  · rfl
  split
  · rfl
  split
  · rfl
  split
  · rfl
  split
  · rfl
  · obtain ⟨i, hi, hset⟩ := hsome
    interval_cases i <;> contradiction

/-- ST2 is good, or is refused with a message of its own. -/
theorem evalSt2_of_ne {st2 : Nat} (h : st2 ≠ 0) :
    ∃ msg, ∀ stsmsg, evalSt2 stsmsg st2 = (false, msg) := by
  refine ⟨(evalSt2 [] st2).2, fun stsmsg => ?_⟩
  simp only [evalSt2, if_neg h]
  split
  · rfl
  split
  · rfl
  split
  · rfl
  split
  · rfl
  split
  · rfl
  split
  · rfl
  split
  · rfl
  · rfl

/-- ST1 is refused with a message of its own, or is good, or is refused with no message. -/
theorem evalSt1_cases (ignorar : Bool) {st1 : Nat} (h : st1 < 256) :
    (∃ msg, ∀ stsmsg, evalSt1 ignorar stsmsg st1 = (false, msg)) ∨
      (∀ stsmsg, evalSt1 ignorar stsmsg st1 = (true, stsmsg)) ∨
      (ignorar = true ∧ st1 = fimEPoucoPapel) ∧
        ∀ stsmsg, evalSt1 ignorar stsmsg st1 = (false, stsmsg) := by
  by_cases he : errosSt1 st1 = 0
  · rcases eq_of_errosSt1_eq_zero h he with rfl | rfl | rfl | rfl
    · exact .inr (.inl fun _ => rfl)
    · cases ignorar with
      | false => exact .inl ⟨_, fun _ => rfl⟩
      | true => exact .inr (.inl fun _ => rfl)
    · exact .inl ⟨_, fun _ => rfl⟩
    · cases ignorar with
      | false => exact .inl ⟨_, fun _ => rfl⟩
      | true => exact .inr (.inr ⟨⟨rfl, rfl⟩, fun _ => rfl⟩)
  · obtain ⟨msg, hmsg⟩ := evalSt1_of_erros he
    exact .inl ⟨msg, fun stsmsg => hmsg ignorar stsmsg st1 rfl⟩

/-- The status to which `eval_status` has nothing to say: paper running low is ignored, the paper
has ended, and nothing else is wrong. -/
def Calado (ignorar : Bool) (sts : StatusMfd) : Prop :=
  ignorar = true ∧ sts.st3 = 0 ∧ sts.st2 = 0 ∧ sts.st1 = fimEPoucoPapel

instance (ignorar : Bool) (sts : StatusMfd) : Decidable (Calado ignorar sts) :=
  inferInstanceAs (Decidable (_ ∧ _ ∧ _ ∧ _))

/-- The status with the bit of paper running low cleared. -/
def StatusMfd.semPoucoPapel (sts : StatusMfd) : StatusMfd :=
  { sts with st1 := Spooler.semPoucoPapel sts.st1 }

theorem evalStatus_of_st3 {sts : StatusMfd} (h : sts.st3 ≠ 0) (ignorar : Bool) (stsmsg : Str) :
    evalStatus ignorar stsmsg sts = (false, msgSt3 sts.st3) := if_pos h

/-- With ST3 and ST2 good, ST1 decides. -/
theorem evalStatus_of_st1 {sts : StatusMfd} (h3 : sts.st3 = 0) (h2 : sts.st2 = 0) (ignorar : Bool)
    (stsmsg : Str) : evalStatus ignorar stsmsg sts = evalSt1 ignorar stsmsg sts.st1 := by
  have hst2 : ∀ stsmsg, evalSt2 stsmsg 0 = (true, stsmsg) := fun _ => rfl
  simp only [evalStatus, h3, h2, hst2, Bool.and_true, ne_eq, not_true_eq_false, if_false]

/-- With ST3 good and ST2 not, the message is that of ST2. -/
theorem evalStatus_of_st2 {sts : StatusMfd} (h3 : sts.st3 = 0) (h2 : sts.st2 ≠ 0) :
    ∃ msg, ∀ ignorar stsmsg st1, evalStatus ignorar stsmsg { sts with st1 } = (false, msg) := by
  obtain ⟨msg, hmsg⟩ := evalSt2_of_ne h2
  refine ⟨msg, fun ignorar stsmsg st1 => ?_⟩
  simp only [evalStatus, h3, hmsg, Bool.and_false, ne_eq, not_true_eq_false, if_false]

/-- A status is accepted, or is refused with a message of its own, or is refused with the message
there was. -/
theorem evalStatus_cases (ignorar : Bool) {sts : StatusMfd} (h : sts.st1 < 256) :
    (∀ stsmsg, (evalStatus ignorar stsmsg sts).1 = true) ∨
      (∃ msg, ∀ stsmsg, evalStatus ignorar stsmsg sts = (false, msg)) ∨
      Calado ignorar sts ∧ ∀ stsmsg, evalStatus ignorar stsmsg sts = (false, stsmsg) := by
  by_cases h3 : sts.st3 = 0
  · by_cases h2 : sts.st2 = 0
    · simp only [evalStatus_of_st1 h3 h2]
      rcases evalSt1_cases ignorar h with ⟨msg, hmsg⟩ | hok | ⟨⟨hi, h1⟩, hsame⟩
      · exact .inr (.inl ⟨msg, hmsg⟩)
      · exact .inl fun stsmsg => by rw [hok]
      · exact .inr (.inr ⟨⟨hi, h3, h2, h1⟩, hsame⟩)
    · obtain ⟨msg, hmsg⟩ := evalStatus_of_st2 h3 h2
      exact .inr (.inl ⟨msg, fun stsmsg => hmsg ignorar stsmsg sts.st1⟩)
  · exact .inr (.inl ⟨_, evalStatus_of_st3 h3 ignorar⟩)

/-- What the library answers to a call: its return code, and the return code and the registers of
the status asked for next. -/
structure Retornado where
  retcode : Int
  ret : Int
  regs : Retorno
  deriving DecidableEq

/-- The answer with the bit of paper running low cleared. -/
def Retornado.semPoucoPapel (a : Retornado) : Retornado :=
  { a with regs := { a.regs with st1 := Spooler.semPoucoPapel (byte a.regs.st1) } }

/-- The status of the answer is judged: the call was carried out and the status could be had. -/
def Retornado.Avaliado (a : Retornado) : Prop :=
  a.retcode = bematechOk ∧ a.ret ≠ bematechNotOkStatus

instance (a : Retornado) : Decidable a.Avaliado := inferInstanceAs (Decidable (_ ∧ _))

/-- The return code that is judged where the status is not. -/
def Retornado.codigo (a : Retornado) : Int := if a.retcode = bematechOk then a.ret else a.retcode

/-- The verdict on a flag and a message. -/
def veredito (aval : Bool × Str) : Except Excp Unit :=
  if aval.1 then .ok () else .error (Driver.ecfExp aval.2)

/-- The outcome of a call, over the message left by the calls before. -/
def desfecho (ignorar : Bool) (stsmsg : Str) (a : Retornado) : Except Excp Unit :=
  if a.Avaliado then veredito (evalStatus ignorar stsmsg a.regs.status)
  else veredito (evalRetcode a.codigo)

namespace Driver

variable {F δ : Type} {dll : Dll δ} {m : Maquina F δ}

/-- The library answers with `a` where the call left the device in the state `dev`. -/
def Responde (dll : Dll δ) (dev : δ) (a : Retornado) : Prop :=
  (dll.retornoImpressoraMFD dev).1 = (a.ret, a.regs)

theorem exec_avaliaRetcode_fst (retcode : Int) :
    (exec (avaliaRetcode retcode) m).1 = veredito (evalRetcode retcode) := by
  unfold avaliaRetcode veredito
  obtain ⟨ok, retmsg⟩ := evalRetcode retcode
  cases ok <;> rfl

/-- **The outcome of `check`**, from the flag, the message held and the answer. -/
theorem exec_check_fst {a : Retornado} (h : Responde dll m.dev a) :
    (exec (check dll a.retcode) m).1 =
      desfecho m.drv.ignorarPoucoPapel m.drv.sinal.stsmsg a := by
  obtain ⟨retcode, ret, regs⟩ := a
  unfold check desfecho Retornado.codigo
  by_cases hok : retcode = bematechOk
  · subst hok
    unfold Responde at h
    simp only [if_pos, colheRetorno, exec_bind, exec_get, exec_set, h]
    by_cases hret : ret = bematechNotOkStatus
    · subst hret
      exact exec_avaliaRetcode_fst bematechNotOkStatus
    · rw [if_pos (show Retornado.Avaliado ⟨bematechOk, ret, regs⟩ from ⟨rfl, hret⟩)]
      simp only [if_neg hret, exec_bind, exec_altera]
      obtain ⟨ok, stsmsg⟩ := evalStatus m.drv.ignorarPoucoPapel m.drv.sinal.stsmsg regs.status
      cases ok with
      | true => rfl
      | false => rfl
  · simp only [if_neg hok, if_neg (fun hav : Retornado.Avaliado ⟨retcode, ret, regs⟩ => hok hav.1)]
    exact exec_avaliaRetcode_fst retcode

/-- A call is judged: it left the device in the state `c.1` and came back with the code `c.2`. -/
def julga (dll : Dll δ) (m : Maquina F δ) (c : δ × Int) : Maquina F δ :=
  (exec (check dll c.2) { m with dev := c.1 }).2

end Driver

/-! ## Histories -/

/-- A driver just built over a device, and the calls of all the commands it served since. -/
structure Historia (δ : Type) where
  dll : Dll δ
  fake : Bool
  specific : List (Str × Str)
  dev : δ
  chamadas : List (δ × Int)

namespace Historia

open Driver

variable {δ : Type}

/-- The driver as the history leaves it. -/
def maquina (F : Type) (h : Historia δ) (ignorar : Bool) : Maquina F δ :=
  run (julga h.dll) (.ligada h.fake ignorar h.specific h.dev) h.chamadas

/-- The message the history leaves. -/
def mensagem (F : Type) (h : Historia δ) (ignorar : Bool) : Str :=
  (h.maquina F ignorar).drv.sinal.stsmsg

variable {F : Type} {h : Historia δ} {ignorar : Bool} {a : Retornado} {d : δ}

end Historia

/-! ## The law -/

variable {F : Type} {ignorar : Bool} {a : Retornado}

theorem desfecho_of_not_calado (h : ¬(a.Avaliado ∧ Calado ignorar a.regs.status))
    (stsmsg stsmsg' : Str) : desfecho ignorar stsmsg a = desfecho ignorar stsmsg' a := by
  unfold desfecho
  by_cases hav : a.Avaliado
  · simp only [if_pos hav, veredito]
    have hlt : a.regs.status.st1 < 256 := byte_lt a.regs.st1
    rcases evalStatus_cases ignorar hlt with hok | ⟨msg, hmsg⟩ | ⟨hc, -⟩
    · rw [if_pos (hok stsmsg), if_pos (hok stsmsg')]
    · rw [hmsg, hmsg]
    · exact absurd ⟨hav, hc⟩ h
  · rw [if_neg hav, if_neg hav]

theorem desfecho_of_calado (hav : a.Avaliado) (h : Calado ignorar a.regs.status) (stsmsg : Str) :
    desfecho ignorar stsmsg a = .error (Driver.ecfExp stsmsg) := by
  obtain ⟨hi, h3, h2, h1⟩ := h
  rw [desfecho, if_pos hav, evalStatus_of_st1 h3 h2, h1, hi]
  rfl

end Spooler
