import Mathlib.Data.List.Basic
import Mathlib.Tactic.Common

/-!
# Runs of a transition function

A deterministic step function `step : σ → α → σ` driven by a list of inputs. `visited` lists the
states of a run, `AllSteps C` says that every step of it meets a condition on the state before
the step and the input. Two rules carry the developments that use this module:

* `run_preserves`: what every step keeps, every run keeps;
* `forall_visited_iff`: an invariant that a step keeps *exactly when* it meets `C` holds in every
  state of a run exactly when all its steps meet `C`.
-/

namespace Foundations

variable {σ α : Type*}

/-! ## Runs of a step function -/

/-- The last state of a run. -/
def run (step : σ → α → σ) : σ → List α → σ
  | s, [] => s
  | s, a :: l => run step (step s a) l

/-- The states of a run, the first one included. -/
def visited (step : σ → α → σ) : σ → List α → List σ
  | s, [] => [s]
  | s, a :: l => s :: visited step (step s a) l

/-- Every step of the run meets `C`, read in the state before the step. -/
def AllSteps (step : σ → α → σ) (C : σ → α → Prop) : σ → List α → Prop
  | _, [] => True
  | s, a :: l => C s a ∧ AllSteps step C (step s a) l

@[simp] theorem run_nil (step : σ → α → σ) (s : σ) : run step s [] = s := rfl

@[simp] theorem run_cons (step : σ → α → σ) (s : σ) (a : α) (l : List α) :
    run step s (a :: l) = run step (step s a) l := rfl

@[simp] theorem visited_nil (step : σ → α → σ) (s : σ) : visited step s [] = [s] := rfl

@[simp] theorem visited_cons (step : σ → α → σ) (s : σ) (a : α) (l : List α) :
    visited step s (a :: l) = s :: visited step (step s a) l := rfl

@[simp] theorem allSteps_nil (step : σ → α → σ) (C : σ → α → Prop) (s : σ) :
    AllSteps step C s [] := trivial

@[simp] theorem allSteps_cons (step : σ → α → σ) (C : σ → α → Prop) (s : σ) (a : α) (l : List α) :
    AllSteps step C s (a :: l) ↔ C s a ∧ AllSteps step C (step s a) l := Iff.rfl

theorem allSteps_and (step : σ → α → σ) (C D : σ → α → Prop) (s : σ) (l : List α) :
    AllSteps step (fun s a => C s a ∧ D s a) s l ↔ AllSteps step C s l ∧ AllSteps step D s l := by
  induction l generalizing s with
  | nil => simp
  | cons a l ih =>
    simp only [allSteps_cons, ih]
    exact and_and_and_comm

/-- A condition on the inputs only. -/
theorem allSteps_const (step : σ → α → σ) (C : α → Prop) (s : σ) (l : List α) :
    AllSteps step (fun _ a => C a) s l ↔ ∀ a ∈ l, C a := by
  induction l generalizing s with
  | nil => simp
  | cons a l ih => rw [allSteps_cons, ih, List.forall_mem_cons]

instance decidableAllSteps (step : σ → α → σ) (C : σ → α → Prop) [∀ s a, Decidable (C s a)] :
    (s : σ) → (l : List α) → Decidable (AllSteps step C s l)
  | _, [] => isTrue trivial
  | s, a :: l =>
    have := decidableAllSteps step C (step s a) l
    inferInstanceAs (Decidable (C s a ∧ AllSteps step C (step s a) l))

theorem run_append (step : σ → α → σ) (s : σ) (l m : List α) :
    run step s (l ++ m) = run step (run step s l) m := by
  induction l generalizing s with
  | nil => rfl
  | cons a l ih => exact ih (step s a)

theorem mem_visited_self (step : σ → α → σ) (s : σ) (l : List α) : s ∈ visited step s l := by
  cases l <;> simp

theorem run_mem_visited (step : σ → α → σ) (s : σ) (l : List α) :
    run step s l ∈ visited step s l := by
  induction l generalizing s with
  | nil => simp
  | cons a l ih => exact List.mem_cons_of_mem _ (ih (step s a))

/-- **A run keeps what every step keeps.** -/
theorem run_preserves {step : σ → α → σ} {I : σ → Prop} (h : ∀ s a, I s → I (step s a))
    {s : σ} (hs : I s) (l : List α) : ∀ t ∈ visited step s l, I t := by
  induction l generalizing s with
  | nil => simpa using hs
  | cons a l ih =>
    intro t ht
    rcases List.mem_cons.1 ht with rfl | ht
    · exact hs
    · exact ih (h s a hs) t ht

/-- A run whose steps all meet `C` keeps what every such step keeps. -/
theorem run_preserves_of_allSteps {step : σ → α → σ} {I : σ → Prop} {C : σ → α → Prop}
    (h : ∀ s a, I s → C s a → I (step s a)) {s : σ} (hs : I s) {l : List α}
    (hl : AllSteps step C s l) : ∀ t ∈ visited step s l, I t := by
  induction l generalizing s with
  | nil => simpa using hs
  | cons a l ih =>
    intro t ht
    rcases List.mem_cons.1 ht with rfl | ht
    · exact hs
    · exact ih (h s a hs hl.1) hl.2 t ht

/-- **An invariant that a step keeps exactly when it meets `C`**, beside an invariant `J` that every
step keeps, holds along a run exactly when every step of the run meets `C`. -/
theorem forall_visited_iff_of_invariant {step : σ → α → σ} {I J : σ → Prop} {C : σ → α → Prop}
    (hJ : ∀ s a, J s → J (step s a)) (h : ∀ s a, J s → I s → (I (step s a) ↔ C s a))
    {s : σ} (hsJ : J s) (hs : I s) (l : List α) :
    (∀ t ∈ visited step s l, I t) ↔ AllSteps step C s l := by
  induction l generalizing s with
  | nil => simpa using hs
  | cons a l ih =>
    simp only [visited_cons, List.forall_mem_cons, allSteps_cons]
    constructor
    · rintro ⟨-, hl⟩
      have hc : C s a := (h s a hsJ hs).1 (hl _ (mem_visited_self _ _ _))
      exact ⟨hc, (ih (hJ s a hsJ) ((h s a hsJ hs).2 hc)).1 hl⟩
    · rintro ⟨hc, hl⟩
      exact ⟨hs, (ih (hJ s a hsJ) ((h s a hsJ hs).2 hc)).2 hl⟩

/-- The same rule with nothing beside. -/
theorem forall_visited_iff {step : σ → α → σ} {I : σ → Prop} {C : σ → α → Prop}
    (h : ∀ s a, I s → (I (step s a) ↔ C s a)) {s : σ} (hs : I s) (l : List α) :
    (∀ t ∈ visited step s l, I t) ↔ AllSteps step C s l :=
  forall_visited_iff_of_invariant (J := fun _ => True) (fun _ _ _ => trivial)
    (fun s a _ => h s a) trivial hs l

/-- Two conditions that agree where an invariant holds are met by the same runs. -/
theorem allSteps_iff_of_invariant {step : σ → α → σ} {J : σ → Prop} {C D : σ → α → Prop}
    (hJ : ∀ s a, J s → J (step s a)) (h : ∀ s a, J s → (C s a ↔ D s a)) {s : σ} (hs : J s)
    (l : List α) : AllSteps step C s l ↔ AllSteps step D s l := by
  induction l generalizing s with
  | nil => rfl
  | cons a l ih => rw [allSteps_cons, allSteps_cons, h s a hs, ih (hJ s a hs)]

end Foundations
