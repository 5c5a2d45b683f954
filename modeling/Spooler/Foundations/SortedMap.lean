import Mathlib.Data.List.Basic
import Mathlib.Order.Lattice
import Mathlib.Tactic.Common

/-!
# Maps in the order of their keys

A `SortedMap` is a list of nodes with keys that grow strictly (`std::map`). `insert` leaves a node
that is there alone, `replace` gives it another value; `lookup_insert` and `lookup_replace` say what
is found afterwards. Both keep the order, so that a map is the function of its keys and no more.
-/

namespace Foundations

/-- The nodes, in the order of their keys. -/
structure SortedMap (κ α : Type) [LinearOrder κ] where
  nodes : List (κ × α)
  sorted : nodes.Pairwise fun a b => a.1 < b.1

namespace SortedMap

variable {κ α : Type} [LinearOrder κ]

def empty : SortedMap κ α := ⟨[], .nil⟩

/-- The value in the first node with a key. -/
def find (k : κ) : List (κ × α) → Option α
  | [] => none
  | n :: ns => if n.1 = k then some n.2 else find k ns

/-- The value of a key. -/
def lookup (m : SortedMap κ α) (k : κ) : Option α := find k m.nodes

/-- A node in front of the first one with a greater key, unless there is one with its key. -/
def insertNode (k : κ) (a : α) : List (κ × α) → List (κ × α)
  | [] => [(k, a)]
  | n :: ns =>
    if k < n.1 then (k, a) :: n :: ns
    else if k = n.1 then n :: ns
    else n :: insertNode k a ns

theorem mem_insertNode {k : κ} {a : α} {n : κ × α} {ns : List (κ × α)}
    (h : n ∈ insertNode k a ns) : n = (k, a) ∨ n ∈ ns := by
  induction ns with
  | nil => exact .inl (List.mem_singleton.1 h)
  | cons p ns ih =>
    rw [insertNode] at h
    split_ifs at h with hlt heq
    · exact List.mem_cons.1 h
    · exact .inr h
    · rcases List.mem_cons.1 h with rfl | h
      · exact .inr List.mem_cons_self
      · exact (ih h).imp id (List.mem_cons_of_mem p)

theorem sorted_insertNode (k : κ) (a : α) {ns : List (κ × α)}
    (h : ns.Pairwise fun a b => a.1 < b.1) :
    (insertNode k a ns).Pairwise fun a b => a.1 < b.1 := by
  induction ns with
  | nil => exact List.pairwise_singleton _ _
  | cons p ns ih =>
    obtain ⟨hp, hns⟩ := List.pairwise_cons.1 h
    rw [insertNode]
    split_ifs with hlt heq
    · refine List.pairwise_cons.2 ⟨fun n hn => ?_, h⟩
      rcases List.mem_cons.1 hn with rfl | hn
      · exact hlt
      · exact lt_trans hlt (hp n hn)
    · exact h
    · refine List.pairwise_cons.2 ⟨fun n hn => ?_, ih hns⟩
      rcases mem_insertNode hn with rfl | hn
      · exact lt_of_le_of_ne (not_lt.1 hlt) (Ne.symm heq)
      · exact hp n hn

/-- `insert`: no effect on a key that is there. -/
def insert (k : κ) (a : α) (m : SortedMap κ α) : SortedMap κ α :=
  ⟨insertNode k a m.nodes, sorted_insertNode k a m.sorted⟩

/-- A node, with another value when it has the key. -/
def setNode (k : κ) (a : α) (n : κ × α) : κ × α := if n.1 = k then (n.1, a) else n

theorem setNode_fst (k : κ) (a : α) (n : κ × α) : (setNode k a n).1 = n.1 := by
  unfold setNode
  split_ifs <;> rfl

/-- Another value for a key that is there. -/
def replace (k : κ) (a : α) (m : SortedMap κ α) : SortedMap κ α where
  nodes := m.nodes.map (setNode k a)
  sorted := m.sorted.map _ fun n p hlt => by rwa [setNode_fst, setNode_fst]

@[simp] theorem lookup_empty (k : κ) : (empty : SortedMap κ α).lookup k = none := rfl

theorem find_insertNode {k : κ} (a : α) {ns : List (κ × α)} (h : find k ns = none) (j : κ)
    [Decidable (j = k)] : find j (insertNode k a ns) = if j = k then some a else find j ns := by
  have hfront : ∀ ns, find j ((k, a) :: ns) = if j = k then some a else find j ns := by
    intro ns
    by_cases hj : j = k
    · rw [find, if_pos hj.symm, if_pos hj]
    · rw [find, if_neg (Ne.symm hj), if_neg hj]
  induction ns with
  | nil => exact hfront []
  | cons n ns ih =>
    unfold find at h
    split_ifs at h with hn
    rw [insertNode]
    by_cases hlt : k < n.1
    · rw [if_pos hlt, hfront]
    · rw [if_neg hlt, if_neg (Ne.symm hn), find, ih h, find]
      by_cases hj : n.1 = j
      · have hjk : j ≠ k := hj ▸ hn
        rw [if_pos hj, if_neg hjk, if_pos hj]
      · rw [if_neg hj, if_neg hj]

theorem find_map_setNode (k : κ) (a : α) (ns : List (κ × α)) (j : κ) [Decidable (j = k)] :
    find j (ns.map (setNode k a)) = if j = k then (find k ns).map fun _ => a else find j ns := by
  induction ns with
  | nil => exact (ite_self none).symm
  | cons n ns ih =>
    rw [List.map_cons, find, setNode_fst, ih, find, find]
    by_cases hn : n.1 = j
    · rw [if_pos hn, if_pos hn, setNode, hn]
      split_ifs <;> rfl
    · rw [if_neg hn, if_neg hn]
      by_cases hj : j = k
      · have hnk : n.1 ≠ k := hj ▸ hn
        rw [if_pos hj, if_pos hj, if_neg hnk]
      · rw [if_neg hj, if_neg hj]

/-- **What is found once a key has been inserted** that was not there. -/
theorem lookup_insert {k : κ} (a : α) {m : SortedMap κ α} (h : m.lookup k = none) (j : κ)
    [Decidable (j = k)] : (m.insert k a).lookup j = if j = k then some a else m.lookup j :=
  find_insertNode a h j

/-- **What is found once a key that is there has been given a value.** -/
theorem lookup_replace {k : κ} (a : α) {m : SortedMap κ α} (h : m.lookup k ≠ none) (j : κ)
    [Decidable (j = k)] : (m.replace k a).lookup j = if j = k then some a else m.lookup j := by
  obtain ⟨b, hb⟩ := Option.ne_none_iff_exists'.1 h
  refine (find_map_setNode k a m.nodes j).trans ?_
  change (if j = k then (m.lookup k).map fun _ => a else m.lookup j) = _
  rw [hb, Option.map_some]

/-- The map as a list of pairs. -/
theorem lookup_nodes [BEq κ] [LawfulBEq κ] (m : SortedMap κ α) (k : κ) :
    m.nodes.lookup k = m.lookup k := by
  unfold lookup
  induction m.nodes with
  | nil => rfl
  | cons n ns ih =>
    rw [List.lookup_cons, find, ih]
    by_cases h : n.1 = k
    · rw [if_pos h, beq_iff_eq.2 h.symm]
    · rw [if_neg h, beq_false_of_ne (Ne.symm h)]

/-! ## Positions -/

/-- The number of nodes with a smaller key. -/
def rank (k : κ) (ns : List (κ × α)) : ℕ := ns.countP (·.1 < k)

/-- The number of nodes with a greater key. -/
def above (k : κ) (ns : List (κ × α)) : ℕ := ns.countP (k < ·.1)

theorem rank_eq_zero {k : κ} {ns : List (κ × α)} (h : ∀ n ∈ ns, k < n.1) : rank k ns = 0 := by
  refine List.countP_eq_zero.2 fun n hn => ?_
  rw [decide_eq_true_eq]
  exact lt_asymm (h n hn)

/-- **The position of a node** is the number of smaller keys. -/
theorem rank_of_getElem? {ns : List (κ × α)} (hs : ns.Pairwise fun a b => a.1 < b.1) {i : ℕ}
    {n : κ × α} (h : ns[i]? = some n) : rank n.1 ns = i := by
  induction ns generalizing i with
  | nil => cases h
  | cons p ns ih =>
    obtain ⟨hp, hns⟩ := List.pairwise_cons.1 hs
    cases i with
    | zero =>
      obtain rfl := Option.some.inj h
      rw [rank, List.countP_cons_of_neg (by simp)]
      exact rank_eq_zero hp
    | succ i =>
      rw [List.getElem?_cons_succ] at h
      have hlt := hp n (List.mem_of_getElem? h)
      rw [rank, List.countP_cons_of_pos (by simpa), ← ih hns h, rank]

theorem mem_of_find {k : κ} {a : α} {ns : List (κ × α)} (h : find k ns = some a) :
    (k, a) ∈ ns := by
  induction ns with
  | nil => cases h
  | cons n ns ih =>
    rw [find] at h
    split_ifs at h with hn
    · rw [← hn, ← Option.some.inj h]
      exact List.mem_cons_self
    · exact List.mem_cons_of_mem n (ih h)

theorem getElem?_rank {ns : List (κ × α)} (hs : ns.Pairwise fun a b => a.1 < b.1) {k : κ} {a : α}
    (h : find k ns = some a) : ns[rank k ns]? = some (k, a) := by
  obtain ⟨i, hi⟩ := List.mem_iff_getElem?.1 (mem_of_find h)
  rwa [rank_of_getElem? hs hi]

theorem rank_insertNode (k : κ) (a : α) (ns : List (κ × α)) :
    rank k (insertNode k a ns) = rank k ns := by
  have hfront : ∀ ns, rank k ((k, a) :: ns) = rank k ns := fun ns =>
    List.countP_cons_of_neg (by simp)
  induction ns with
  | nil => exact hfront []
  | cons n ns ih =>
    rw [insertNode]
    split_ifs with hlt heq
    · exact hfront _
    · rfl
    · unfold rank at ih ⊢
      rw [List.countP_cons, List.countP_cons, ih]

theorem rank_map_setNode (j k : κ) (a : α) (ns : List (κ × α)) :
    rank j (ns.map (setNode k a)) = rank j ns := by
  unfold rank
  rw [List.countP_map]
  refine List.countP_congr fun n _ => ?_
  rw [Function.comp_apply, setNode_fst]

theorem length_of_find_eq_none {k : κ} {ns : List (κ × α)} (h : find k ns = none) :
    ns.length = rank k ns + above k ns := by
  unfold rank above
  induction ns with
  | nil => rfl
  | cons n ns ih =>
    rw [find] at h
    split_ifs at h with hn
    rw [List.length_cons, ih h]
    rcases lt_or_gt_of_ne hn with hlt | hgt
    · rw [List.countP_cons_of_pos (by simpa), List.countP_cons_of_neg (by simpa using lt_asymm hlt)]
      omega
    · rw [List.countP_cons_of_neg (by simpa using lt_asymm hgt), List.countP_cons_of_pos (by simpa)]
      omega

theorem length_insertNode {k : κ} (a : α) {ns : List (κ × α)} (h : find k ns = none) :
    (insertNode k a ns).length = ns.length + 1 := by
  induction ns with
  | nil => rfl
  | cons n ns ih =>
    rw [find] at h
    split_ifs at h with hn
    rw [insertNode]
    split_ifs with hlt heq
    · rfl
    · exact absurd heq.symm hn
    · rw [List.length_cons, ih h, List.length_cons]

end SortedMap

end Foundations
