import Spooler.Foundations.Runs

/-!
# Runs that follow other runs

A transition function whose steps put out inputs for another one: `outputs step out s l` is all that
the run of `l` from `s` puts out. A relation between the states of the two that each step keeps,
when the other takes the inputs put out, is kept by whole runs (`run_simulates`). With a list that
collects what is put out in the place of the other system this is the rule for a history beside the
state (`run_records`).
-/

namespace Foundations

variable {σ τ α γ : Type*}

/-- What a run puts out. -/
def outputs (step : σ → α → σ) (out : σ → α → List γ) : σ → List α → List γ
  | _, [] => []
  | s, a :: l => out s a ++ outputs step out (step s a) l

@[simp] theorem outputs_nil (step : σ → α → σ) (out : σ → α → List γ) (s : σ) :
    outputs step out s [] = [] := rfl

@[simp] theorem outputs_cons (step : σ → α → σ) (out : σ → α → List γ) (s : σ) (a : α)
    (l : List α) : outputs step out s (a :: l) = out s a ++ outputs step out (step s a) l := rfl

/-- **A run is followed by the run of what it puts out**, when each of its steps is; `C` is a
condition that the inputs of the run meet. -/
theorem run_simulates {step : σ → α → σ} {step' : τ → γ → τ} {out : σ → α → List γ}
    {R : σ → τ → Prop} {C : α → Prop}
    (h : ∀ s t a, C a → R s t → R (step s a) (run step' t (out s a))) {s : σ} {t : τ}
    (hst : R s t) {l : List α} (hl : ∀ a ∈ l, C a) :
    R (run step s l) (run step' t (outputs step out s l)) := by
  induction l generalizing s t with
  | nil => exact hst
  | cons a l ih =>
    rw [outputs_cons, run_append, run_cons]
    exact ih (h s t a (hl a List.mem_cons_self) hst) fun b hb => hl b (List.mem_cons_of_mem _ hb)

/-- **A run beside the list of what it has put out.** -/
theorem run_records {step : σ → α → σ} {out : σ → α → List γ} {R : σ → List γ → Prop}
    (h : ∀ s x a, R s x → R (step s a) (x ++ out s a)) {s : σ} (hs : R s []) (l : List α) :
    R (run step s l) (outputs step out s l) := by
  suffices hx : ∀ x s, R s x → R (run step s l) (x ++ outputs step out s l) from hx [] s hs
  induction l with
  | nil =>
    intro x s hs
    rwa [outputs_nil, List.append_nil]
  | cons a l ih =>
    intro x s hs
    rw [outputs_cons, ← List.append_assoc, run_cons]
    exact ih (x ++ out s a) (step s a) (h s x a hs)

end Foundations
