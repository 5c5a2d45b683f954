import Mathlib.Data.List.Basic
import Mathlib.Tactic.Common

/-!
# Positions in a table

A table is a list whose slots are counted from zero. `Locates p l o` says that `o` is where the
element of `l` that satisfies `p` stands. When there is at most one such element (`AtMostOne`), any
search that answers with a position where `p` holds, and with none only when there is none, finds
it: `AtMostOne.locates`. **`findIdx?_filter`**: in a list of some of the elements it is found
at the number of those kept before it, which is its own position only when all of them are kept
(`countP_take_eq_self`).
-/

namespace Foundations

variable {α : Type*} {p q : α → Bool} {l : List α} {o : Option ℕ} {i : ℕ}

/-! ## The place of an element -/

/-- `o` is the place of the element that satisfies `p`, if there is one. -/
def Locates (p : α → Bool) (l : List α) (o : Option ℕ) : Prop :=
  ∀ i, o = some i ↔ ∃ x, l[i]? = some x ∧ p x = true

theorem Locates.eq_none_iff (h : Locates p l o) : o = none ↔ ∀ x ∈ l, p x = false := by
  constructor
  · rintro rfl x hx
    obtain ⟨i, hi⟩ := List.getElem?_of_mem hx
    rw [← Bool.not_eq_true]
    intro hp
    cases (h i).2 ⟨x, hi, hp⟩
  · intro hno
    cases ho : o with
    | none => rfl
    | some i =>
      obtain ⟨x, hx, hp⟩ := (h i).1 ho
      rw [hno x (List.mem_of_getElem? hx)] at hp
      cases hp

/-- There is only one place to find. -/
theorem Locates.unique {o' : Option ℕ} (h : Locates p l o) (h' : Locates p l o') : o = o' :=
  Option.ext fun i => (h i).trans (h' i).symm

/-! ## At most one element -/

/-- No two places have an element that satisfies `p`. -/
def AtMostOne (p : α → Bool) (l : List α) : Prop :=
  ∀ (i j : ℕ) (x y : α), l[i]? = some x → l[j]? = some y → p x = true → p y = true → i = j

/-- Elements that exclude each other. -/
theorem atMostOne_of_pairwise (h : l.Pairwise fun x y => ¬ (p x = true ∧ p y = true)) :
    AtMostOne p l := by
  intro i j x y hx hy hpx hpy
  rw [List.pairwise_iff_getElem] at h
  obtain ⟨hi, rfl⟩ := List.getElem?_eq_some_iff.1 hx
  obtain ⟨hj, rfl⟩ := List.getElem?_eq_some_iff.1 hy
  rcases Nat.lt_trichotomy i j with hlt | heq | hgt
  · exact absurd ⟨hpx, hpy⟩ (h i j hi hj hlt)
  · exact heq
  · exact absurd ⟨hpy, hpx⟩ (h j i hj hi hgt)

/-- **The only element is found by every search that finds some.** -/
theorem AtMostOne.locates (h : AtMostOne p l)
    (hsome : ∀ i, o = some i → ∃ x, l[i]? = some x ∧ p x = true)
    (hnone : o = none → ∀ x ∈ l, p x = false) : Locates p l o := by
  intro i
  constructor
  · exact hsome i
  · rintro ⟨x, hx, hp⟩
    cases ho : o with
    | none =>
      rw [hnone ho x (List.mem_of_getElem? hx)] at hp
      cases hp
    | some j =>
      obtain ⟨y, hy, hpy⟩ := hsome j ho
      rw [h j i y x hy hx hpy hp]

theorem findIdx?_eq_some_imp (h : l.findIdx? p = some i) : ∃ x, l[i]? = some x ∧ p x = true := by
  obtain ⟨hi, hp, -⟩ := List.findIdx?_eq_some_iff_getElem.1 h
  exact ⟨l[i], List.getElem?_eq_getElem hi, hp⟩

/-- No element before the position found satisfies `p`. -/
theorem findIdx?_le {k : ℕ} {x : α} (h : l.findIdx? p = some i) (hx : l[k]? = some x)
    (hp : p x = true) : i ≤ k := by
  obtain ⟨_, _, hfirst⟩ := List.findIdx?_eq_some_iff_getElem.1 h
  obtain ⟨hk, rfl⟩ := List.getElem?_eq_some_iff.1 hx
  by_contra hlt
  exact hfirst k (Nat.lt_of_not_le hlt) hp

theorem AtMostOne.locates_findIdx? (h : AtMostOne p l) : Locates p l (l.findIdx? p) :=
  h.locates (fun _ hi => findIdx?_eq_some_imp hi) List.findIdx?_eq_none_iff.1

/-! ## Some of the elements -/

/-- **Among the elements kept** an element stands at the number of those kept before it. -/
theorem findIdx?_filter (p q : α → Bool) (l : List α) : (l.filter q).findIdx? p =
    (l.findIdx? fun x => q x && p x).map fun i => (l.take i).countP q := by
  induction l with
  | nil => rfl
  | cons x l ih =>
    rw [List.findIdx?_cons]
    cases hq : q x with
    | true =>
      rw [List.filter_cons_of_pos hq, List.findIdx?_cons, Bool.true_and]
      cases hp : p x with
      | true => rfl
      | false =>
        rw [ih]
        cases l.findIdx? fun x => q x && p x <;> simp [hq]
    | false =>
      rw [List.filter_cons_of_neg (by rw [hq]; exact Bool.false_ne_true), ih, Bool.false_and]
      cases l.findIdx? fun x => q x && p x <;> simp [hq]

/-- As many are kept as there are, when all of them are. -/
theorem countP_take_eq_self (hi : i ≤ l.length) :
    (l.take i).countP q = i ↔ ∀ x ∈ l.take i, q x = true := by
  have hlen : (l.take i).length = i := List.length_take_of_le hi
  rw [← List.countP_eq_length, hlen]

/-! ## Slots of one width -/

/-- Behind the first `i` pieces of one length. -/
theorem drop_flatMap {β : Type*} {f : α → List β} {c : ℕ} (hc : ∀ x ∈ l, (f x).length = c) (i : ℕ) :
    (l.flatMap f).drop (i * c) = (l.drop i).flatMap f := by
  induction l generalizing i with
  | nil => simp
  | cons x l ih =>
    rw [List.forall_mem_cons] at hc
    cases i with
    | zero => simp
    | succ i =>
      rw [List.flatMap_cons, List.drop_succ_cons, Nat.succ_mul, Nat.add_comm, ← List.drop_drop,
        List.drop_left' hc.1, ih hc.2]

/-- The piece `i`, and what is behind it. -/
theorem drop_flatMap_getElem {β : Type*} {f : α → List β} {c : ℕ} (hc : ∀ x ∈ l, (f x).length = c)
    {i : ℕ} (hi : i < l.length) :
    (l.flatMap f).drop (i * c) = f l[i] ++ (l.drop (i + 1)).flatMap f := by
  rw [drop_flatMap hc, List.drop_eq_getElem_cons hi, List.flatMap_cons]

/-- What is computed for each slot by its number, and for each element of a list. -/
theorem map_range_eq_map {β : Type*} {f : ℕ → β} {g : α → β} {n : ℕ} (hn : l.length = n)
    (h : ∀ i (hi : i < l.length), f i = g l[i]) : (List.range n).map f = l.map g := by
  subst hn
  refine List.ext_getElem (by simp) fun i hi _ => ?_
  rw [List.getElem_map, List.getElem_map, List.getElem_range]
  exact h i _

end Foundations
