import Mathlib.Tactic.Common

/-!
# State with exceptions

Code that reads and changes a state and may raise an exception, where the changes made before the
exception stay: `Exec ε σ α` is `ExceptT ε (StateM σ) α`. `exec` runs it, with one equation for
each construct. `Wp x Q E s` says of a run of `x` from `s` that it returns a value and a state in
`Q` or raises an exception and leaves a state in `E`; its rules (`wp_bind`, `wp_tryCatch`, …) are
equivalences, so `simp only` computes the condition of a block of code from those of its parts,
and `Wp.mono` weakens it. `Contained I E x` says that no run of `x` leaves `I`, however it ends, and
that none raises an exception outside `E`.
-/

namespace Foundations

variable {ε σ α β : Type}

/-- An exception raised by two computations in a row is raised by one of them. -/
theorem error_of_bind {x : Except ε α} {f : α → Except ε β} {e : ε} (h : x >>= f = .error e) :
    x = .error e ∨ ∃ a, x = .ok a ∧ f a = .error e := by
  cases x with
  | error e' =>
    cases h
    exact .inl rfl
  | ok a => exact .inr ⟨a, rfl, h⟩

/-- Code over a state `σ` that may raise an exception in `ε`. -/
abbrev Exec (ε σ α : Type) := ExceptT ε (StateM σ) α

/-- Run the code from a state. -/
def exec (x : Exec ε σ α) (s : σ) : Except ε α × σ := StateT.run (ExceptT.run x) s

/-- Code over a part of the state. -/
def zoom {τ : Type} (sel : τ → σ) (put : τ → σ → τ) (x : Exec ε σ α) : Exec ε τ α :=
  ExceptT.mk fun t => ((exec x (sel t)).1, put t (exec x (sel t)).2)

section Equations

@[simp] theorem exec_ofExcept (x : Except ε α) (s : σ) :
    exec (ofExcept x : Exec ε σ α) s = (x, s) := by
  cases x <;> rfl

@[simp] theorem exec_zoom {τ : Type} (sel : τ → σ) (put : τ → σ → τ) (x : Exec ε σ α) (t : τ) :
    exec (zoom sel put x) t = ((exec x (sel t)).1, put t (exec x (sel t)).2) := rfl

@[simp] theorem exec_pure (a : α) (s : σ) : exec (pure a : Exec ε σ α) s = (.ok a, s) := rfl

@[simp] theorem exec_throw (e : ε) (s : σ) : exec (throw e : Exec ε σ α) s = (.error e, s) := rfl

@[simp] theorem exec_get (s : σ) : exec (get : Exec ε σ σ) s = (.ok s, s) := rfl

@[simp] theorem exec_set (t s : σ) : exec (set t : Exec ε σ PUnit) s = (.ok ⟨⟩, t) := rfl

@[simp] theorem exec_modify (f : σ → σ) (s : σ) :
    exec (modify f : Exec ε σ PUnit) s = (.ok ⟨⟩, f s) := rfl

theorem exec_bind (x : Exec ε σ α) (f : α → Exec ε σ β) (s : σ) :
    exec (x >>= f) s = match exec x s with
      | (.ok a, t) => exec (f a) t
      | (.error e, t) => (.error e, t) := by
  show (_ : Except ε β × σ) = _
  unfold exec
  simp only [ExceptT.run_bind, StateT.run_bind]
  rcases StateT.run (ExceptT.run x) s with ⟨⟨e⟩ | ⟨a⟩, t⟩ <;> rfl

@[simp] theorem exec_map (f : α → β) (x : Exec ε σ α) (s : σ) :
    exec (f <$> x) s = ((exec x s).1.map f, (exec x s).2) := by
  rw [← bind_pure_comp, exec_bind]
  rcases exec x s with ⟨⟨e⟩ | ⟨a⟩, t⟩ <;> rfl

theorem exec_tryCatch (x : Exec ε σ α) (h : ε → Exec ε σ α) (s : σ) :
    exec (tryCatch x h) s = match exec x s with
      | (.ok a, t) => (.ok a, t)
      | (.error e, t) => exec (h e) t := by
  show (_ : Except ε α × σ) = _
  unfold exec
  rcases hx : StateT.run (ExceptT.run x) s with ⟨⟨e⟩ | ⟨a⟩, t⟩ <;>
    simp [tryCatch, tryCatchThe, MonadExceptOf.tryCatch, ExceptT.tryCatch, ExceptT.run, ExceptT.mk,
      StateT.run_bind] at hx ⊢ <;> rw [hx] <;> rfl

theorem exec_bind_ok {x : Exec ε σ α} {f : α → Exec ε σ β} {s t : σ} {a : α}
    (h : exec x s = (.ok a, t)) : exec (x >>= f) s = exec (f a) t := by
  rw [exec_bind, h]

theorem exec_bind_error {x : Exec ε σ α} {f : α → Exec ε σ β} {s t : σ} {e : ε}
    (h : exec x s = (.error e, t)) : exec (x >>= f) s = (.error e, t) := by
  rw [exec_bind, h]

/-- Code is what its runs are. -/
theorem exec_ext {x y : Exec ε σ α} (h : ∀ s, exec x s = exec y s) : x = y := funext h

/-- A block of code over a part of the state. -/
theorem zoom_bind {τ : Type} {sel : τ → σ} {put : τ → σ → τ} (hsel : ∀ t s, sel (put t s) = s)
    (hput : ∀ t s s', put (put t s) s' = put t s') (x : Exec ε σ α) (f : α → Exec ε σ β) :
    zoom sel put (x >>= f) = zoom sel put x >>= fun a => zoom sel put (f a) := by
  apply exec_ext
  intro t
  rw [exec_zoom, exec_bind, exec_bind, exec_zoom]
  rcases exec x (sel t) with ⟨⟨e⟩ | ⟨a⟩, s⟩
  · rfl
  · simp only [exec_zoom, hsel, hput]

end Equations

/-! ## What a run ensures -/

/-- A run of `x` from `s` returns in `Q` or raises in `E`. -/
def Wp (x : Exec ε σ α) (Q : α → σ → Prop) (E : ε → σ → Prop) (s : σ) : Prop :=
  match exec x s with
  | (.ok a, t) => Q a t
  | (.error e, t) => E e t

section Rules

variable {Q : α → σ → Prop} {R : β → σ → Prop} {E : ε → σ → Prop} {s : σ}

theorem Wp.mono {x : Exec ε σ α} {Q' : α → σ → Prop} {E' : ε → σ → Prop} (h : Wp x Q E s)
    (hQ : ∀ a t, Q a t → Q' a t) (hE : ∀ e t, E e t → E' e t) : Wp x Q' E' s := by
  revert h
  unfold Wp
  rcases exec x s with ⟨⟨e⟩ | ⟨a⟩, t⟩
  · exact hE e t
  · exact hQ a t

theorem Wp.and {x : Exec ε σ α} {Q' : α → σ → Prop} {E' : ε → σ → Prop} (h : Wp x Q E s)
    (h' : Wp x Q' E' s) : Wp x (fun a t => Q a t ∧ Q' a t) (fun e t => E e t ∧ E' e t) s := by
  revert h h'
  unfold Wp
  rcases exec x s with ⟨⟨e⟩ | ⟨a⟩, t⟩ <;> exact And.intro

@[simp] theorem wp_pure (a : α) : Wp (pure a : Exec ε σ α) Q E s ↔ Q a s := Iff.rfl

@[simp] theorem wp_throw (e : ε) : Wp (throw e : Exec ε σ α) Q E s ↔ E e s := Iff.rfl

@[simp] theorem wp_get {Q : σ → σ → Prop} : Wp (get : Exec ε σ σ) Q E s ↔ Q s s := Iff.rfl

@[simp] theorem wp_set {Q : PUnit → σ → Prop} (t : σ) :
    Wp (set t : Exec ε σ PUnit) Q E s ↔ Q ⟨⟩ t := Iff.rfl

@[simp] theorem wp_modify {Q : PUnit → σ → Prop} (f : σ → σ) :
    Wp (modify f : Exec ε σ PUnit) Q E s ↔ Q ⟨⟩ (f s) := Iff.rfl

@[simp] theorem wp_bind (x : Exec ε σ α) (f : α → Exec ε σ β) :
    Wp (x >>= f) R E s ↔ Wp x (fun a t => Wp (f a) R E t) E s := by
  unfold Wp
  rw [exec_bind]
  rcases exec x s with ⟨⟨e⟩ | ⟨a⟩, t⟩ <;> rfl

@[simp] theorem wp_tryCatch (x : Exec ε σ α) (h : ε → Exec ε σ α) :
    Wp (tryCatch x h) Q E s ↔ Wp x Q (fun e t => Wp (h e) Q E t) s := by
  unfold Wp
  rw [exec_tryCatch]
  rcases exec x s with ⟨⟨e⟩ | ⟨a⟩, t⟩ <;> rfl

theorem wp_ofExcept (x : Except ε α) :
    Wp (ofExcept x : Exec ε σ α) Q E s ↔
      (∀ a, x = .ok a → Q a s) ∧ ∀ e, x = .error e → E e s := by
  unfold Wp
  rw [exec_ofExcept]
  cases x <;> simp

@[simp] theorem wp_ite (c : Prop) [Decidable c] (x y : Exec ε σ α) :
    Wp (if c then x else y) Q E s ↔ (c → Wp x Q E s) ∧ (¬ c → Wp y Q E s) := by
  split <;> simp [*]

/-- A condition on the state only is one on the state that the run leaves. -/
theorem wp_state {P : σ → Prop} {x : Exec ε σ α} :
    Wp x (fun _ t => P t) (fun _ t => P t) s ↔ P (exec x s).2 := by
  unfold Wp
  rcases exec x s with ⟨⟨e⟩ | ⟨a⟩, t⟩ <;> rfl

theorem Wp.of_ok {x : Exec ε σ α} (h : Wp x Q E s) {a : α} (hok : (exec x s).1 = .ok a) :
    Q a (exec x s).2 := by
  unfold Wp at h
  rcases hx : exec x s with ⟨⟨e⟩ | ⟨b⟩, t⟩
  · simp [hx] at hok
  · rw [hx] at h hok
    cases hok
    exact h

/-- Code behind `x` that ensures `Q` from any state ensures it behind `x`. -/
theorem wp_bind_of_forall {x : Exec ε σ α} {f : α → Exec ε σ β}
    (h : ∀ a t, Wp (f a) R (fun _ _ => True) t) : Wp (x >>= f) R (fun _ _ => True) s := by
  rw [wp_bind]
  unfold Wp
  rcases exec x s with ⟨⟨e⟩ | ⟨a⟩, t⟩
  · trivial
  · exact h a t

end Rules

/-! ## What a run leaves alone, and what it may raise -/

/-- Every run of `x` from a state in `I` stays in `I` and raises exceptions in `E` only. -/
def Contained (I : σ → Prop) (E : ε → Prop) (x : Exec ε σ α) : Prop :=
  ∀ s, I s → Wp x (fun _ t => I t) (fun e t => E e ∧ I t) s

section Contained

variable {I : σ → Prop} {E : ε → Prop}

/-- However a run ends, it leaves a state in `I`. -/
theorem Contained.keeps {x : Exec ε σ α} (h : Contained I E x) {s : σ} (hs : I s) :
    I (exec x s).2 := by
  have ht := h s hs
  revert ht
  unfold Wp
  rcases exec x s with ⟨⟨e⟩ | ⟨a⟩, t⟩
  · exact And.right
  · exact id

theorem Contained.mono {E' : ε → Prop} {x : Exec ε σ α} (h : Contained I E x)
    (hE : ∀ e, E e → E' e) : Contained I E' x :=
  fun s hs => (h s hs).mono (fun _ _ ht => ht) fun e _ he => ⟨hE e he.1, he.2⟩

/-- Two properties are kept together. -/
theorem Contained.and {J : σ → Prop} {E' : ε → Prop} {x : Exec ε σ α} (h : Contained I E x)
    (h' : Contained J E' x) : Contained (fun s => I s ∧ J s) E x := by
  intro s hs
  have hx := h s hs.1
  have hx' := h' s hs.2
  revert hx hx'
  unfold Wp
  rcases exec x s with ⟨⟨e⟩ | ⟨a⟩, t⟩
  · exact fun hx hx' => ⟨hx.1, hx.2, hx'.2⟩
  · exact And.intro

theorem contained_of_state {x : Exec ε σ α} (h : ∀ s, I s → I (exec x s).2) :
    Contained I (fun _ => True) x :=
  fun s hs => (wp_state.2 (h s hs)).mono (fun _ _ ht => ht) fun _ _ ht => ⟨trivial, ht⟩

theorem contained_pure (a : α) : Contained I E (pure a : Exec ε σ α) := fun _ h => h

theorem contained_get : Contained I E (get : Exec ε σ σ) := fun _ h => h

theorem contained_throw {e : ε} (h : E e) : Contained I E (throw e : Exec ε σ α) :=
  fun _ hs => ⟨h, hs⟩

theorem contained_modify {f : σ → σ} (h : ∀ s, I s → I (f s)) :
    Contained I E (modify f : Exec ε σ PUnit) := h

theorem contained_ofExcept {x : Except ε α} (h : ∀ e, x = .error e → E e) :
    Contained I E (ofExcept x : Exec ε σ α) := by
  intro s hs
  cases x with
  | ok a => exact hs
  | error e => exact ⟨h e rfl, hs⟩

theorem contained_bind {x : Exec ε σ α} {f : α → Exec ε σ β} (hx : Contained I E x)
    (hf : ∀ a, Contained I E (f a)) : Contained I E (x >>= f) := by
  intro s hs
  rw [wp_bind]
  exact (hx s hs).mono (fun a t ht => hf a t ht) (fun _ _ h => h)

theorem contained_map (f : α → β) {x : Exec ε σ α} (hx : Contained I E x) :
    Contained I E (f <$> x) := by
  rw [← bind_pure_comp]
  exact contained_bind hx fun _ => contained_pure _

theorem contained_ite {c : Prop} [Decidable c] {x y : Exec ε σ α} (hx : Contained I E x)
    (hy : Contained I E y) : Contained I E (if c then x else y) := by
  split
  · exact hx
  · exact hy

theorem contained_tryCatch {x : Exec ε σ α} {h : ε → Exec ε σ α} (hx : Contained I E x)
    (hh : ∀ e, E e → Contained I E (h e)) : Contained I E (tryCatch x h) := by
  intro s hs
  rw [wp_tryCatch]
  exact (hx s hs).mono (fun _ _ h => h) (fun e t h => hh e h.1 t h.2)

/-- Code over a part of the state keeps what does not look at that part. -/
theorem contained_zoom {τ : Type} {J : τ → Prop} {sel : τ → σ} {put : τ → σ → τ}
    {x : Exec ε σ α} (hx : Contained (fun _ => True) E x) (hput : ∀ t s, J t → J (put t s)) :
    Contained J E (zoom sel put x) := by
  intro t ht
  have h := hx (sel t) trivial
  unfold Wp at h ⊢
  rw [exec_zoom]
  revert h
  rcases exec x (sel t) with ⟨⟨e⟩ | ⟨a⟩, s⟩
  · exact fun h => ⟨h.1, hput t s ht⟩
  · exact fun _ => hput t s ht

/-- Code over a part of the state keeps what it keeps there. -/
theorem contained_zoom_sel {τ : Type} {sel : τ → σ} {put : τ → σ → τ} {x : Exec ε σ α}
    (hput : ∀ t s, sel (put t s) = s) (hx : Contained I E x) :
    Contained (fun t => I (sel t)) E (zoom sel put x) := by
  intro t ht
  have h := hx (sel t) ht
  unfold Wp at h ⊢
  rw [exec_zoom]
  revert h
  rcases exec x (sel t) with ⟨⟨e⟩ | ⟨a⟩, s⟩ <;> simp only [hput] <;> exact id

end Contained

end Foundations
