import Spooler.Foundations.MachineInt
import Spooler.Settings.Datapair

/-!
# The index of a node

`assign` returns an index for `get_key` and `get_value_by_idx`. For a key that is there it counts
the nodes up to it, for a new one it takes the size of the map, although the node goes to its place
in the order of the keys. **The index designates the node when the key was there or has no greater
one**, `assign_designates_iff`.
-/

namespace Spooler

open Foundations

namespace Datapair

/-- The loop of `get_key` and `get_value_by_idx`, with `idx` before it. -/
def nodeByIdx (nodeIdx : ℤ) : ℤ → List (Str × Str) → Option (Option (Str × Str))
  | _, [] => some none
  | idx, i :: ns => do
    let idx ← MachineInt.succ idx
    if nodeIdx = idx then some (some i) else nodeByIdx nodeIdx idx ns

/-- `get_value_by_idx(node_idx)`; `none` when the index overflows. -/
def getValueByIdx (nodeIdx : ℤ) (d : Datapair) : Option (Except Excp Str) := do
  match ← nodeByIdx nodeIdx 0 d.nodes with
  | some i => some (.ok i.2)
  | none => some (.error (.spooler .datapairExp undefDatapair))

/-- `get_key(node_idx)`; `none` when the index overflows. -/
def getKey (nodeIdx : ℤ) (d : Datapair) : Option (Except Excp Str) := do
  match ← nodeByIdx nodeIdx 0 d.nodes with
  | some i => some (.ok i.1)
  | none => some (.error (.spooler .datapairExp undefDatapair))

/-- The loop of `assign`, with `idx` before it. -/
def idxOfKey (nodeKey : Str) : ℤ → List (Str × Str) → Option ℤ
  | idx, [] => some idx
  | idx, i :: ns => do
    let idx ← MachineInt.succ idx
    if nodeKey = i.1 then some idx else idxOfKey nodeKey idx ns

/-- `assign(node_key, node_value)` with its index as an `int`; `none` when it overflows. -/
def assignInt (nodeKey nodeValue : Str) (d : Datapair) : Option (ℤ × Datapair) :=
  if d.defined nodeKey then do
    let idx ← idxOfKey nodeKey 0 d.nodes
    some (idx, d.replace nodeKey nodeValue)
  else
    let d' := d.insert nodeKey nodeValue
    some (MachineInt.ofSize d'.nodes.length, d')

/-! ## The loops -/

theorem nodeByIdx_eq_some_iff {nodeIdx idx : ℤ} {ns : List (Str × Str)} {n : Str × Str} :
    nodeByIdx nodeIdx idx ns = some (some n) ↔
      ∃ p : ℕ, nodeIdx = idx + p + 1 ∧ nodeIdx < 2 ^ 31 ∧ ns[p]? = some n := by
  induction ns generalizing idx with
  | nil =>
    constructor
    · intro h
      cases h
    · rintro ⟨p, -, -, h⟩
      cases h
  | cons i ns ih =>
    rw [nodeByIdx, MachineInt.succ_bind_eq_some]
    constructor
    · rintro ⟨hlt, h⟩
      split_ifs at h with hi
      · cases h
        exact ⟨0, by omega, by omega, rfl⟩
      · obtain ⟨p, hp, hlt', hn⟩ := ih.1 h
        exact ⟨p + 1, by omega, hlt', hn⟩
    · rintro ⟨p, hp, hlt, hn⟩
      refine ⟨by omega, ?_⟩
      cases p with
      | zero => rw [if_pos (by omega), Option.some.inj hn]
      | succ p =>
        rw [if_neg (by omega)]
        exact ih.2 ⟨p, by omega, hlt, hn⟩

theorem idxOfKey_eq_some_iff {k : Str} {idx i : ℤ} {ns : List (Str × Str)}
    (hs : ns.Pairwise fun a b => a.1 < b.1) (h : SortedMap.find k ns ≠ none) :
    idxOfKey k idx ns = some i ↔ i = idx + SortedMap.rank k ns + 1 ∧ i < 2 ^ 31 := by
  induction ns generalizing idx with
  | nil => exact absurd rfl h
  | cons n ns ih =>
    obtain ⟨hn, hns⟩ := List.pairwise_cons.1 hs
    rw [idxOfKey, MachineInt.succ_bind_eq_some]
    by_cases hk : n.1 = k
    · -- the key's own node: no smaller key
      have hr : SortedMap.rank k (n :: ns) = 0 :=
        hk ▸ SortedMap.rank_of_getElem? (i := 0) hs rfl
      rw [if_pos hk.symm, hr, Option.some.injEq]
      omega
    · rw [SortedMap.find, if_neg hk] at h
      obtain ⟨a, ha⟩ := Option.ne_none_iff_exists'.1 h
      have hlt : n.1 < k := hn _ (SortedMap.mem_of_find ha)
      have hr : SortedMap.rank k (n :: ns) = SortedMap.rank k ns + 1 :=
        List.countP_cons_of_pos (by simpa)
      rw [if_neg (Ne.symm hk), ih hns h, hr]
      omega

/-! ## The index -/

theorem getKey_eq_ok_iff {i : ℤ} {d : Datapair} {k : Str} : getKey i d = some (.ok k) ↔
    ∃ n, nodeByIdx i 0 d.nodes = some (some n) ∧ n.1 = k := by
  unfold getKey
  cases nodeByIdx i 0 d.nodes with
  | none => simp
  | some o => cases o <;> simp

theorem getValueByIdx_eq_ok_iff {i : ℤ} {d : Datapair} {v : Str} :
    getValueByIdx i d = some (.ok v) ↔ ∃ n, nodeByIdx i 0 d.nodes = some (some n) ∧ n.2 = v := by
  unfold getValueByIdx
  cases nodeByIdx i 0 d.nodes with
  | none => simp
  | some o => cases o <;> simp

/-- **The one index of a node**: the number of smaller keys, plus one. -/
theorem node_at_iff {d : Datapair} {k v : Str} (h : d.lookup k = some v) (i : ℤ) :
    getKey i d = some (.ok k) ∧ getValueByIdx i d = some (.ok v) ↔
      i = SortedMap.rank k d.nodes + 1 ∧ i < 2 ^ 31 := by
  rw [getKey_eq_ok_iff, getValueByIdx_eq_ok_iff]
  constructor
  · rintro ⟨⟨n, hn, rfl⟩, -⟩
    obtain ⟨p, hp, hlt, hget⟩ := nodeByIdx_eq_some_iff.1 hn
    rw [SortedMap.rank_of_getElem? d.sorted hget]
    exact ⟨by omega, hlt⟩
  · rintro ⟨hi, hlt⟩
    have hget := SortedMap.getElem?_rank d.sorted h
    have hn : nodeByIdx i 0 d.nodes = some (some (k, v)) :=
      nodeByIdx_eq_some_iff.2 ⟨_, by omega, hlt, hget⟩
    exact ⟨⟨_, hn, rfl⟩, ⟨_, hn, rfl⟩⟩

/-- The map after `assign` is that of `Datapair.assign`. -/
theorem assignInt_snd {k v : Str} {d d' : Datapair} {i : ℤ}
    (h : assignInt k v d = some (i, d')) : d' = (d.assign k v).2 := by
  unfold assignInt at h
  unfold assign
  split_ifs at h ⊢ with hk
  · obtain ⟨j, -, hj⟩ := Option.bind_eq_some_iff.1 h
    exact (Prod.mk.inj (Option.some.inj hj)).2.symm
  · exact (Prod.mk.inj (Option.some.inj h)).2.symm

theorem assignInt_of_defined {k : Str} (v : Str) {d : Datapair} (hk : d.defined k = true) (i : ℤ) :
    assignInt k v d = some (i, (d.assign k v).2) ↔
      i = SortedMap.rank k d.nodes + 1 ∧ i < 2 ^ 31 := by
  have hfind : SortedMap.find k d.nodes ≠ none := Option.isSome_iff_ne_none.1 hk
  have hidx : idxOfKey k 0 d.nodes = some i ↔ i = SortedMap.rank k d.nodes + 1 ∧ i < 2 ^ 31 := by
    rw [idxOfKey_eq_some_iff d.sorted hfind, Int.zero_add]
  rw [← hidx, assignInt, if_pos hk, assign, if_pos hk, Option.bind_eq_bind,
    Option.bind_eq_some_iff]
  constructor
  · rintro ⟨j, hj, h⟩
    rw [hj, (Prod.mk.inj (Option.some.inj h)).1]
  · intro h
    exact ⟨i, h, rfl⟩

theorem assignInt_of_not_defined {k : Str} (v : Str) {d : Datapair} (hk : d.defined k ≠ true)
    (i : ℤ) : assignInt k v d = some (i, (d.assign k v).2) ↔
      i = MachineInt.ofSize (SortedMap.rank k d.nodes + 1 + SortedMap.above k d.nodes) := by
  have hfind : SortedMap.find k d.nodes = none := by simpa [defined, SortedMap.lookup] using hk
  have hlen : (d.insert k v).nodes.length =
      SortedMap.rank k d.nodes + 1 + SortedMap.above k d.nodes := by
    refine (SortedMap.length_insertNode v hfind).trans ?_
    rw [SortedMap.length_of_find_eq_none hfind, Nat.add_right_comm]
  rw [assignInt, if_neg hk, assign, if_neg hk, ← hlen]
  constructor
  · intro h
    exact (Prod.mk.inj (Option.some.inj h)).1.symm
  · intro h
    rw [h]

theorem rank_assign (k v : Str) (d : Datapair) :
    SortedMap.rank k (d.assign k v).2.nodes = SortedMap.rank k d.nodes := by
  unfold assign
  split_ifs
  · exact SortedMap.rank_map_setNode k k v d.nodes
  · exact SortedMap.rank_insertNode k v d.nodes

/-- The index that `assign` returns is that of the node. -/
def Designates (k v : Str) (d : Datapair) : Prop :=
  ∃ i d', assignInt k v d = some (i, d') ∧ getKey i d' = some (.ok k) ∧
    getValueByIdx i d' = some (.ok v) ∧
    ∀ j, j ≠ k → d'.getValueByKey j = d.getValueByKey j

/-- **The index of an assignment designates its node** when the key was there, or when none (or a
multiple of `2 ^ 32`) is greater; in both cases while the place of the key is an `int`. -/
theorem assign_designates_iff (k v : Str) (d : Datapair) : Designates k v d ↔
    SortedMap.rank k d.nodes + 1 < 2 ^ 31 ∧
      (d.defined k = true ∨ 2 ^ 32 ∣ SortedMap.above k d.nodes) := by
  have hlookup : (d.assign k v).2.lookup k = some v := by rw [lookup_assign, if_pos rfl]
  have hnode := node_at_iff hlookup
  rw [rank_assign] at hnode
  have hkeep : ∀ j, j ≠ k → (d.assign k v).2.getValueByKey j = d.getValueByKey j := by
    intro j hj
    rw [getValueByKey, lookup_assign, if_neg hj, getValueByKey]
  -- the node has one index only, so that `assign` has to return it
  have hindex : Designates k v d ↔
      assignInt k v d = some ((SortedMap.rank k d.nodes + 1 : ℤ), (d.assign k v).2) ∧
        (SortedMap.rank k d.nodes + 1 : ℤ) < 2 ^ 31 := by
    constructor
    · rintro ⟨i, d', h, hkey, hval, -⟩
      obtain rfl := assignInt_snd h
      obtain ⟨rfl, hlt⟩ := (hnode i).1 ⟨hkey, hval⟩
      exact ⟨h, hlt⟩
    · rintro ⟨h, hlt⟩
      obtain ⟨hkey, hval⟩ := (hnode _).2 ⟨rfl, hlt⟩
      exact ⟨_, _, h, hkey, hval, hkeep⟩
  rw [hindex]
  by_cases hk : d.defined k = true
  · rw [assignInt_of_defined v hk]
    simp only [hk, true_and, true_or, and_true]
    omega
  · rw [assignInt_of_not_defined v hk, or_iff_right hk, eq_comm, and_comm]
    constructor
    · rintro ⟨hlt, hsize⟩
      have hp : SortedMap.rank k d.nodes + 1 < 2 ^ 31 := by omega
      exact ⟨hp, (MachineInt.ofSize_add_eq_iff hp).1 hsize⟩
    · rintro ⟨hp, hdvd⟩
      exact ⟨by omega, (MachineInt.ofSize_add_eq_iff hp).2 hdvd⟩

/-- A new key in front of another one is given the index of the other. -/
theorem assign_misses : ¬ ∀ (k v : Str) (d : Datapair), Designates k v d := by
  intro h
  obtain ⟨i, d', hi, hkey, -⟩ := h ['a'] [] (SortedMap.empty.insert ['b'] [])
  obtain rfl := assignInt_snd hi
  have hsize := (assignInt_of_not_defined [] (by decide) i).1 hi
  have htwo : SortedMap.rank ['a'] (SortedMap.empty.insert ['b'] ([] : Str)).nodes + 1 +
      SortedMap.above ['a'] (SortedMap.empty.insert ['b'] ([] : Str)).nodes = 2 := rfl
  rw [htwo, MachineInt.ofSize_of_lt (by omega)] at hsize
  subst hsize
  have hother : getKey 2 ((SortedMap.empty.insert ['b'] []).insert ['a'] []) =
      some (.ok ['b']) := rfl
  have hne := hkey.symm.trans hother
  cases hne

end Datapair

end Spooler
