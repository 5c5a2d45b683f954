import Mathlib.Data.List.Basic
import Mathlib.Data.List.Infix
import Mathlib.Tactic.Common

/-!
# Pieces of a list

`Splits tag s ps` says that `ps` are what `s` consists of between the occurrences of `tag`, taken
from the left and without overlaps. The pieces are determined (`Splits.unique`), and with the tag
between them they give `s` back (`Splits.intercalate_eq`).

`blocks k s` cuts `s` into blocks of `k` elements, the last of which may be shorter: no block is
empty, none is longer, and together they are `s` (`flatten_blocks`).
-/

namespace Foundations

variable {α : Type}

/-! ## Pieces between tags -/

/-- No occurrence of the tag in `p ++ tag ++ s` starts before the end of `p`. -/
def FirstAt (tag p s : List α) : Prop :=
  ∀ q r, p ++ tag ++ s = q ++ tag ++ r → p.length ≤ q.length

/-- The pieces of a list between the leftmost, non-overlapping occurrences of the tag. -/
inductive Splits (tag : List α) : List α → List (List α) → Prop
  | whole {s} : ¬ tag <:+: s → Splits tag s [s]
  | cut {p s ps} : FirstAt tag p s → Splits tag s ps → Splits tag (p ++ tag ++ s) (p :: ps)

namespace Splits

variable {tag s : List α} {ps qs : List (List α)}

theorem ne_nil (h : Splits tag s ps) : ps ≠ [] := by
  cases h <;> exact List.cons_ne_nil _ _

/-- **The pieces with the tag between them are the list.** -/
theorem intercalate_eq (h : Splits tag s ps) : tag.intercalate ps = s := by
  induction h with
  | whole _ => exact List.intercalate_singleton
  | @cut p s ps _ hs ih =>
    obtain ⟨q, qs, rfl⟩ := List.exists_cons_of_ne_nil hs.ne_nil
    rw [List.intercalate_cons_cons, ih]

theorem infix_of_mem {p : List α} (h : Splits tag s ps) (hp : p ∈ ps) : p <:+: s := by
  induction h with
  | whole _ =>
    rw [List.mem_singleton] at hp
    exact hp ▸ List.infix_rfl
  | @cut q s ps _ _ ih =>
    rcases List.mem_cons.1 hp with rfl | hp
    · exact ((List.prefix_append p tag).trans (List.prefix_append _ s)).isInfix
    · exact (ih hp).trans (List.suffix_append (q ++ tag) s).isInfix

/-- **There is one way to split a list.** -/
theorem unique (h : Splits tag s ps) (h' : Splits tag s qs) : ps = qs := by
  induction h generalizing qs with
  | whole hno =>
    cases h' with
    | whole _ => rfl
    | cut _ _ => exact absurd ⟨_, _, rfl⟩ hno
  | @cut p s ps hp hs ih =>
    generalize hw : p ++ tag ++ s = w at h'
    cases h' with
    | whole hno => exact absurd ⟨p, s, hw⟩ hno
    | @cut p' s' ps' hp' hs' =>
      have hlen : p.length = p'.length := Nat.le_antisymm (hp p' s' hw) (hp' p s hw.symm)
      have hpp := List.append_inj (List.append_assoc .. ▸ List.append_assoc .. ▸ hw) hlen
      obtain ⟨rfl, hrest⟩ := hpp
      obtain rfl := List.append_cancel_left hrest
      rw [ih hs']

end Splits

/-- Short pieces with one element between them. -/
theorem length_intercalate_le {w : ℕ} (c : α) {ps : List (List α)} (h : ∀ p ∈ ps, p.length ≤ w) :
    ([c].intercalate ps).length ≤ (w + 1) * ps.length := by
  induction ps with
  | nil => simp
  | cons p ps ih =>
    rw [List.forall_mem_cons] at h
    have hp := h.1
    have htail := ih h.2
    cases ps with
    | nil =>
      rw [List.intercalate_singleton, List.length_singleton]
      omega
    | cons q qs =>
      have hsucc : (p :: q :: qs).length = (q :: qs).length + 1 := rfl
      rw [List.intercalate_cons_cons, List.length_append, List.length_append, List.length_singleton,
        hsucc, Nat.mul_succ]
      omega

theorem mem_intercalate {c x : α} {ps : List (List α)} (h : x ∈ [c].intercalate ps) :
    x = c ∨ ∃ p ∈ ps, x ∈ p := by
  induction ps with
  | nil => cases h
  | cons p ps ih =>
    cases ps with
    | nil =>
      rw [List.intercalate_singleton] at h
      exact .inr ⟨p, List.mem_cons_self, h⟩
    | cons q qs =>
      rw [List.intercalate_cons_cons, List.mem_append, List.mem_append, List.mem_singleton] at h
      rcases h with (h | h) | h
      · exact .inr ⟨p, List.mem_cons_self, h⟩
      · exact .inl h
      · exact (ih h).imp id fun ⟨r, hr, hx⟩ => ⟨r, List.mem_cons_of_mem _ hr, hx⟩

/-! ## Delimited lists -/

/-- A separator in front of each piece and behind the last one. -/
def delimited (sep : α) (ps : List (List α)) : List α := sep :: ps.flatMap fun p => p ++ [sep]

/-- What does not contain the separator occurs on one side of it. -/
theorem infix_append_cons_iff {sep : α} {a xs ys : List α} (h : sep ∉ a) :
    a <:+: xs ++ sep :: ys ↔ a <:+: xs ∨ a <:+: ys := by
  constructor
  · intro hinf
    rcases List.infix_append_iff.1 hinf with hx | hy | ⟨a₁, a₂, rfl, hx, hy⟩
    · exact .inl hx
    · rcases List.infix_cons_iff.1 hy with hpre | hy
      · rcases List.prefix_cons_iff.1 hpre with rfl | ⟨t, rfl, -⟩
        · exact .inl (List.nil_infix)
        · exact absurd List.mem_cons_self h
      · exact .inr hy
    · rcases List.prefix_cons_iff.1 hy with rfl | ⟨t, rfl, -⟩
      · rw [List.append_nil]
        exact .inl hx.isInfix
      · exact absurd (List.mem_append_right a₁ List.mem_cons_self) h
  · rintro (hx | hy)
    · exact List.infix_append_of_infix_left hx
    · exact List.infix_append_of_infix_right (List.infix_cons hy)

/-- **What is not empty and does not contain the separator occurs in a delimited list when it occurs
in a piece.** -/
theorem infix_delimited_iff {sep : α} {a : List α} {ps : List (List α)} (h : sep ∉ a)
    (hne : a ≠ []) : a <:+: delimited sep ps ↔ ∃ p ∈ ps, a <:+: p := by
  have hnil : ¬ a <:+: [] := fun ha => hne (List.infix_nil.1 ha)
  have hhead : a <:+: delimited sep ps ↔ a <:+: ps.flatMap fun p => p ++ [sep] := by
    rw [delimited, ← List.nil_append (sep :: _), infix_append_cons_iff h, or_iff_right hnil]
  rw [hhead]
  clear hhead
  induction ps with
  | nil => exact iff_of_false hnil (by simp)
  | cons p ps ih =>
    rw [List.flatMap_cons, List.append_assoc, List.singleton_append, infix_append_cons_iff h,
      List.exists_mem_cons_iff]
    exact or_congr_right ih

/-! ## Blocks -/

/-- The blocks of `k` elements of a list. -/
def blocks (k : ℕ) (s : List α) : List (List α) :=
  (List.range ((s.length + (k - 1)) / k)).map fun i => (s.drop (i * k)).take k

theorem length_le_of_mem_blocks {k : ℕ} {s b : List α} (h : b ∈ blocks k s) : b.length ≤ k := by
  obtain ⟨i, -, rfl⟩ := List.mem_map.1 h
  exact List.length_take_le _ _

theorem nil_notMem_blocks {k : ℕ} (hk : 0 < k) (s : List α) : [] ∉ blocks k s := by
  intro h
  obtain ⟨i, hi, hnil⟩ := List.mem_map.1 h
  have hlt : (i + 1) * k ≤ s.length + (k - 1) :=
    (Nat.le_div_iff_mul_le hk).1 (List.mem_range.1 hi)
  rw [Nat.succ_mul] at hlt
  have hlen := congrArg List.length hnil
  rw [List.length_take, List.length_drop, List.length_nil] at hlen
  omega

/-- The first blocks are the beginning of the list. -/
theorem flatten_map_range (k : ℕ) (s : List α) (n : ℕ) :
    ((List.range n).map fun i => (s.drop (i * k)).take k).flatten = s.take (n * k) := by
  induction n with
  | zero => simp
  | succ n ih =>
    rw [List.range_succ, List.map_append, List.flatten_append, ih, Nat.succ_mul, List.take_add]
    simp

/-- **The blocks together are the list.** -/
theorem flatten_blocks {k : ℕ} (hk : 0 < k) (s : List α) : (blocks k s).flatten = s := by
  rw [blocks, flatten_map_range]
  refine List.take_of_length_le ?_
  have hdiv := Nat.div_add_mod (s.length + (k - 1)) k
  have hmod := Nat.mod_lt (s.length + (k - 1)) hk
  rw [Nat.mul_comm] at hdiv
  omega

end Foundations
