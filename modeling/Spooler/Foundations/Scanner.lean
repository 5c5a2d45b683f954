import Mathlib.Data.List.Basic
import Mathlib.Data.List.Infix
import Mathlib.Tactic.Common

/-!
# Scanners that stop

A scanner reads items one by one, can refuse an item with an error, and stops at the first state
that says so; what follows is not read. `scan` is its run on a list of items, with three outcomes.
`Accepts` is its language (the lists it reads to the end, stopping exactly there) and `Viable`
says that a list can be extended to one of the language. The main results:

* `accepts_iff`: a family of languages with the derivatives of the scanner is its language;
* `exists_accepted_prefix_iff`: it stops on a list exactly when a prefix is in the language;
* `failed_iff`: when every state can still reach the end, it refuses an item in front of the last
  one exactly when some prefix of the items before the last is not viable.
-/

namespace Foundations

variable {ε σ ι : Type*}

/-- A scanner: a step that may refuse the item, and the states in which it stops. -/
structure Scanner (ε σ ι : Type*) where
  step : σ → ι → Except ε σ
  stop : σ → Bool

namespace Scanner

/-- How a run of a scanner ends. -/
inductive Outcome (ε σ ι : Type*)
  /-- It stopped in a state, with some items unread. -/
  | stopped (t : σ) (rest : List ι)
  /-- It refused an item in a state, with some items behind it. -/
  | failed (e : ε) (t : σ) (rest : List ι)
  /-- The items came to their end. -/
  | ended (t : σ)

variable (m : Scanner ε σ ι)

/-- The run on a list of items. -/
def scan : σ → List ι → Outcome ε σ ι
  | s, [] => .ended s
  | s, a :: l =>
    match m.step s a with
    | .error e => .failed e s l
    | .ok t => if m.stop t then .stopped t l else scan t l

/-- The language of a state. -/
def Accepts : σ → List ι → Prop
  | _, [] => False
  | s, a :: l =>
    match m.step s a with
    | .error _ => False
    | .ok t => if m.stop t then l = [] else Accepts t l

/-- Some continuation is in the language. -/
def Viable (s : σ) (l : List ι) : Prop := ∃ u, m.Accepts s (l ++ u)

variable {m}

/-! ## Languages by their derivatives -/

/-- What a language `L` of the states satisfying `I` has to say of the lists that start with `a`,
for the scanner to read `a` as it does. -/
def Derives (m : Scanner ε σ ι) (I : σ → Prop) (L : σ → List ι → Prop) (s : σ) (a : ι) : Prop :=
  match m.step s a with
  | .error _ => ∀ l, ¬ L s (a :: l)
  | .ok t =>
    if m.stop t then ∀ l, L s (a :: l) ↔ l = []
    else I t ∧ ∀ l, L s (a :: l) ↔ L t l

theorem derives_error {I : σ → Prop} {L : σ → List ι → Prop} {s : σ} {a : ι} {e : ε}
    (h : m.step s a = .error e) (hL : ∀ l, ¬ L s (a :: l)) : m.Derives I L s a := by
  simpa only [Derives, h] using hL

theorem derives_stop {I : σ → Prop} {L : σ → List ι → Prop} {s t : σ} {a : ι}
    (h : m.step s a = .ok t) (hstop : m.stop t = true) (hL : ∀ l, L s (a :: l) ↔ l = []) :
    m.Derives I L s a := by
  simpa only [Derives, h, hstop, if_true] using hL

theorem derives_next {I : σ → Prop} {L : σ → List ι → Prop} {s t : σ} {a : ι}
    (h : m.step s a = .ok t) (hstop : m.stop t = false) (ht : I t)
    (hL : ∀ l, L s (a :: l) ↔ L t l) : m.Derives I L s a := by
  simpa only [Derives, h, hstop, Bool.false_eq_true, if_false] using And.intro ht hL

/-- `L` has the derivatives of the scanner on the states satisfying `I`. -/
structure Derivatives (m : Scanner ε σ ι) (I : σ → Prop) (L : σ → List ι → Prop) : Prop where
  nil : ∀ s, I s → ¬ L s []
  cons : ∀ s a, I s → m.Derives I L s a

theorem Derivatives.keep {I : σ → Prop} {L : σ → List ι → Prop} (h : Derivatives m I L) {s t : σ}
    {a : ι} (hs : I s) (hstep : m.step s a = .ok t) (hstop : m.stop t = false) : I t := by
  have hd := h.cons s a hs
  simp only [Derives, hstep, hstop] at hd
  exact hd.1

/-- **A family of languages with the derivatives of the scanner is its language.** -/
theorem accepts_iff {I : σ → Prop} {L : σ → List ι → Prop} (h : Derivatives m I L) {s : σ}
    (hs : I s) (l : List ι) : m.Accepts s l ↔ L s l := by
  induction l generalizing s with
  | nil => exact ⟨False.elim, fun hl => h.nil s hs hl⟩
  | cons a l ih =>
    have hd := h.cons s a hs
    unfold Accepts
    unfold Derives at hd
    rcases hstep : m.step s a with e | t
    · rw [hstep] at hd
      exact ⟨False.elim, fun hl => hd l hl⟩
    · rcases hstop : m.stop t with _ | _
      · simp only [hstep, hstop] at hd
        rw [hd.2 l, ← ih hd.1]
        simp [hstop]
      · simp only [hstep, hstop] at hd
        simpa [hstop] using (hd l).symm

/-! ## Outcomes and prefixes -/

theorem accepts_append {s t : σ} {l : List ι} (h : m.scan s l = .ended t) (u : List ι) :
    m.Accepts s (l ++ u) ↔ m.Accepts t u := by
  induction l generalizing s with
  | nil => cases h; rfl
  | cons a l ih =>
    simp only [scan] at h
    simp only [Accepts, List.cons_append]
    rcases hstep : m.step s a with e | t'
    · simp [hstep] at h
    · rcases hstop : m.stop t' with _ | _
      · simp only [hstep, hstop] at h
        simpa [hstop] using ih h
      · simp [hstep, hstop] at h

/-- **The scanner stops on a list exactly when a prefix of it is in the language.** -/
theorem exists_accepted_prefix_iff (s : σ) (l : List ι) :
    (∃ p, p <+: l ∧ m.Accepts s p) ↔ ∃ t rest, m.scan s l = .stopped t rest := by
  induction l generalizing s with
  | nil =>
    constructor
    · rintro ⟨p, hp, ha⟩
      rw [List.prefix_nil] at hp
      subst hp
      exact ha.elim
    · rintro ⟨t, rest, h⟩
      cases h
  | cons a l ih =>
    have hcons : (∃ p, p <+: a :: l ∧ m.Accepts s p) ↔
        ∃ p, p <+: l ∧ m.Accepts s (a :: p) := by
      constructor
      · rintro ⟨p, hp, ha⟩
        cases p with
        | nil => exact ha.elim
        | cons b p =>
          obtain ⟨rfl, hp'⟩ := List.cons_prefix_cons.1 hp
          exact ⟨p, hp', ha⟩
      · rintro ⟨p, hp, ha⟩
        exact ⟨a :: p, List.cons_prefix_cons.2 ⟨rfl, hp⟩, ha⟩
    rw [hcons]
    simp only [Accepts, scan]
    rcases m.step s a with e | t
    · simp
    · rcases hstop : m.stop t with _ | _
      · simpa [hstop] using ih t
      · simp only [hstop, if_true]
        exact ⟨fun _ => ⟨t, l, rfl⟩, fun _ => ⟨[], List.nil_prefix, rfl⟩⟩

theorem stop_of_stopped {s t : σ} {l rest : List ι} (h : m.scan s l = .stopped t rest) :
    m.stop t = true := by
  induction l generalizing s with
  | nil => cases h
  | cons a l ih =>
    simp only [scan] at h
    rcases hstep : m.step s a with e | t'
    · simp [hstep] at h
    · rcases hstop : m.stop t' with _ | _
      · simp only [hstep, hstop] at h
        exact ih h
      · simp only [hstep, hstop, if_true, Outcome.stopped.injEq] at h
        exact h.1 ▸ hstop

/-- A refused item splits the list. -/
theorem exists_of_failed {s t : σ} {l rest : List ι} {e : ε} (h : m.scan s l = .failed e t rest) :
    ∃ pre a, l = pre ++ a :: rest ∧ m.scan s pre = .ended t ∧ m.step t a = .error e := by
  induction l generalizing s with
  | nil => cases h
  | cons a l ih =>
    simp only [scan] at h
    rcases hstep : m.step s a with e' | t'
    · rw [hstep] at h
      cases h
      exact ⟨[], a, rfl, rfl, hstep⟩
    · rcases hstop : m.stop t' with _ | _
      · simp only [hstep, hstop] at h
        obtain ⟨pre, b, rfl, hpre, herr⟩ := ih h
        exact ⟨a :: pre, b, rfl, by simpa [scan, hstep, hstop] using hpre, herr⟩
      · simp [hstep, hstop] at h

/-- The runs on the prefixes of a list read to its end were read to their end. -/
theorem prefix_ended {s t : σ} {l p : List ι} (h : m.scan s l = .ended t) (hp : p <+: l) :
    ∃ t', m.scan s p = .ended t' := by
  induction l generalizing s p with
  | nil => exact ⟨s, by rw [List.prefix_nil.1 hp]; rfl⟩
  | cons a l ih =>
    cases p with
    | nil => exact ⟨s, rfl⟩
    | cons b p =>
      obtain ⟨rfl, hp'⟩ := List.cons_prefix_cons.1 hp
      simp only [scan] at h ⊢
      rcases hstep : m.step s b with e | t'
      · simp [hstep] at h
      · rcases hstop : m.stop t' with _ | _
        · simp only [hstep, hstop] at h ⊢
          exact ih h hp'
        · simp [hstep, hstop] at h

theorem ended_keep {I : σ → Prop} {L : σ → List ι → Prop} (hL : Derivatives m I L) {s t : σ}
    {l : List ι} (hs : I s) (h : m.scan s l = .ended t) : I t := by
  induction l generalizing s with
  | nil => cases h; exact hs
  | cons a l ih =>
    simp only [scan] at h
    rcases hstep : m.step s a with e | t'
    · simp [hstep] at h
    · rcases hstop : m.stop t' with _ | _
      · simp only [hstep, hstop] at h
        exact ih (hL.keep hs hstep hstop) h
      · simp [hstep, hstop] at h

section Live

variable {I : σ → Prop} {L : σ → List ι → Prop} (hL : Derivatives m I L)
  (live : ∀ s, I s → ∃ u, L s u)

include hL live

/-- What has been read without refusal can be completed. -/
theorem viable_of_ended {s t : σ} {l : List ι} (hs : I s) (h : m.scan s l = .ended t) :
    m.Viable s l := by
  have ht : I t := ended_keep hL hs h
  obtain ⟨u, hu⟩ := live t ht
  exact ⟨u, (accepts_append h u).2 ((accepts_iff hL ht u).2 hu)⟩

/-- A list read to its end has viable prefixes only. -/
theorem viable_prefix_of_ended {s t : σ} {l p : List ι} (hs : I s) (h : m.scan s l = .ended t)
    (hp : p <+: l) : m.Viable s p := by
  obtain ⟨t', ht'⟩ := prefix_ended h hp
  exact viable_of_ended hL live hs ht'

/-- **An item is refused in front of the last one** exactly when the items before the last have a
prefix that is not viable. -/
theorem failed_iff {s t : σ} {l rest : List ι} {e : ε} (hs : I s)
    (h : m.scan s l = .failed e t rest) :
    rest ≠ [] ↔ ∃ p, p <+: l.dropLast ∧ ¬ m.Viable s p := by
  obtain ⟨pre, a, rfl, hpre, herr⟩ := exists_of_failed h
  constructor
  · intro hrest
    refine ⟨pre ++ [a], ?_, ?_⟩
    · obtain ⟨b, rest, rfl⟩ := List.exists_cons_of_ne_nil hrest
      rw [List.dropLast_append_of_ne_nil (by simp), List.dropLast_cons_cons]
      exact (List.prefix_append_right_inj pre).2 (List.cons_prefix_cons.2 ⟨rfl, List.nil_prefix⟩)
    · rintro ⟨u, hu⟩
      rw [List.append_assoc, accepts_append hpre] at hu
      simp [Accepts, herr] at hu
  · rintro ⟨p, hp, hv⟩ rfl
    rw [List.dropLast_append_of_ne_nil (by simp)] at hp
    simp only [List.dropLast_singleton, List.append_nil] at hp
    exact hv (viable_prefix_of_ended hL live hs hpre hp)

end Live

end Scanner

end Foundations
