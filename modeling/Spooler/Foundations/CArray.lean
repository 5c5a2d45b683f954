import Mathlib.Data.List.TakeWhile
import Mathlib.Tactic.Common

/-!
# Arrays of a fixed size

Reading and writing at an index, which is not defined outside of the array (`none`), and a loop that
copies up to a delimiter and checks neither index before it uses it. **The loop stays inside when
the piece fits**, `copyUntil_eq`.
-/

namespace Foundations.CArray

variable {α : Type}

/-- `a[i] = v`. -/
def write (a : List α) (i : ℕ) (v : α) : Option (List α) :=
  if i < a.length then some (a.set i v) else none

/-- `do { if (src[j] != delim) dst[x++] = src[j]; else found = true; j++; }
while (j < sizeof(src) && !found)`, with `j` and `dst` afterwards. -/
def copyUntil (delim : α → Bool) (src : List α) (j : ℕ) (dst : List α) (x : ℕ) :
    Option (ℕ × List α) :=
  match _h : src[j]? with
  | none => none
  | some v =>
    if delim v then some (j + 1, dst)
    else
      match write dst x v with
      | none => none
      | some dst =>
        if j + 1 < src.length then copyUntil delim src (j + 1) dst (x + 1) else some (j + 1, dst)
termination_by src.length - j

/-- What lies between an index and the next delimiter. -/
def piece (delim : α → Bool) (src : List α) (j : ℕ) : List α :=
  (src.drop j).takeWhile fun v => !delim v

variable {delim : α → Bool} {src dst : List α} {j x : ℕ}

theorem piece_of_delim (hj : j < src.length) (h : delim src[j] = true) :
    piece delim src j = [] := by
  rw [piece, List.drop_eq_getElem_cons hj, List.takeWhile_cons_of_neg (by simp [h])]

theorem piece_of_not_delim (hj : j < src.length) (h : delim src[j] = false) :
    piece delim src j = src[j] :: piece delim src (j + 1) := by
  rw [piece, List.drop_eq_getElem_cons hj, List.takeWhile_cons_of_pos (by simp [h]), piece]

theorem piece_of_le (hj : src.length ≤ j) : piece delim src j = [] := by
  rw [piece, List.drop_eq_nil_of_le hj, List.takeWhile_nil]

/-- The target with a piece written over it. -/
def overwrite (dst : List α) (x : ℕ) (p : List α) : List α :=
  dst.take x ++ (p ++ dst.drop (x + p.length))

theorem overwrite_nil (dst : List α) (x : ℕ) : overwrite dst x [] = dst := by
  rw [overwrite, List.nil_append, List.length_nil, Nat.add_zero, List.take_append_drop]

theorem overwrite_set (hx : x < dst.length) (v : α) (p : List α) :
    overwrite (dst.set x v) (x + 1) p = overwrite dst x (v :: p) := by
  have hlen : (dst.take x ++ [v]).length = x + 1 := by
    rw [List.length_append, List.length_take_of_le hx.le, List.length_singleton]
  have hset : dst.set x v = (dst.take x ++ [v]) ++ dst.drop (x + 1) := by
    rw [List.set_eq_take_append_cons_drop, if_pos hx, List.append_assoc, List.singleton_append]
  have hdrop : (dst.set x v).drop (x + 1 + p.length) = dst.drop (x + (v :: p).length) := by
    rw [hset, ← List.drop_drop, List.drop_left' hlen, List.drop_drop, List.length_cons,
      Nat.add_assoc, Nat.add_comm 1]
  rw [overwrite, hdrop, hset, List.take_left' hlen, overwrite, List.append_assoc,
    List.singleton_append, List.cons_append]

theorem write_eq_some {dst' : List α} {v : α} :
    write dst x v = some dst' ↔ x < dst.length ∧ dst' = dst.set x v := by
  unfold write
  split_ifs with hx
  · exact ⟨fun h => ⟨hx, (Option.some.inj h).symm⟩, fun h => congrArg some h.2.symm⟩
  · exact ⟨fun h => (nomatch h), fun h => absurd h.1 hx⟩

/-- **A copy up to a delimiter**, from inside of the source: it stays inside of the target when the
piece fits. -/
theorem copyUntil_eq (hj : j < src.length) (hx : x ≤ dst.length) :
    copyUntil delim src j dst x =
      if x + (piece delim src j).length ≤ dst.length then
        some (min (j + (piece delim src j).length + 1) src.length,
          overwrite dst x (piece delim src j))
      else none := by
  fun_induction copyUntil delim src j dst x with
  | case1 j dst x hnone => exact absurd (List.getElem?_eq_none_iff.1 hnone) (by omega)
  | case2 j dst x v hv hdelim =>
    obtain ⟨hlt, rfl⟩ := List.getElem?_eq_some_iff.1 hv
    have hfit : x + ([] : List α).length ≤ dst.length := hx
    rw [piece_of_delim hlt hdelim, overwrite_nil, if_pos hfit]
    exact congrArg (fun i => some (i, dst)) (Nat.min_eq_left hj).symm
  | case3 j dst x v hv hdelim hwrite =>
    -- the write is outside of the target
    obtain ⟨hlt, rfl⟩ := List.getElem?_eq_some_iff.1 hv
    have hfull : ¬ x < dst.length := by
      intro h
      cases hwrite.symm.trans (write_eq_some.2 ⟨h, rfl⟩)
    rw [piece_of_not_delim hlt (Bool.eq_false_iff.2 hdelim), if_neg]
    rw [List.length_cons]
    omega
  | case4 j dst x v hv hdelim dst' hwrite hnext ih =>
    obtain ⟨hlt, rfl⟩ := List.getElem?_eq_some_iff.1 hv
    obtain ⟨hin, rfl⟩ := write_eq_some.1 hwrite
    have hpiece := piece_of_not_delim hlt (Bool.eq_false_iff.2 hdelim)
    have hlen : (piece delim src j).length = (piece delim src (j + 1)).length + 1 := by
      rw [hpiece, List.length_cons]
    rw [ih hnext (by rw [List.length_set]; omega), overwrite_set hin, ← hpiece, List.length_set,
      hlen, Nat.add_right_comm x 1, Nat.add_assoc x, Nat.add_right_comm j 1, Nat.add_assoc j]
  | case5 j dst x v hv hdelim dst' hwrite hnext =>
    -- the end of the source, without a delimiter
    obtain ⟨hlt, rfl⟩ := List.getElem?_eq_some_iff.1 hv
    obtain ⟨hin, rfl⟩ := write_eq_some.1 hwrite
    have hpiece : piece delim src j = [src[j]] := by
      rw [piece_of_not_delim hlt (Bool.eq_false_iff.2 hdelim), piece_of_le (by omega)]
    have hmin : min (j + 1 + 1) src.length = j + 1 := by omega
    rw [hpiece, List.length_singleton, if_pos (Nat.succ_le_of_lt hin), hmin, ← overwrite_set hin,
      overwrite_nil]

/-- From outside of the source the first read is outside. -/
theorem copyUntil_of_le (hj : src.length ≤ j) : copyUntil delim src j dst x = none := by
  unfold copyUntil
  split
  · rfl
  · rename_i v hv
    exact absurd (List.getElem?_eq_some_iff.1 hv).1 (by omega)

end Foundations.CArray
