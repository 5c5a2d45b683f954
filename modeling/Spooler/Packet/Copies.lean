import Spooler.Foundations.MachineInt
import Spooler.Packet.Param

/-!
# Copies of a parameter

`copy` with both objects in view: it reads the source through the cursor of the source, counts the
values with an `int`, and replaces the values of the target in its first pass only. **An assignment
copies a list of values that is not empty** (and short enough for an `int`); without values nothing
is replaced, `assigns_iff`.
-/

namespace Spooler

open Foundations

namespace PktParam

/-- The objects, by their addresses. -/
abbrev Objs := ℕ → PktParam

/-- A pass of the loop of `copy`: `value` and `add_value` get a reference into the list of the
source, which must not be their own list. -/
def pass (dest obj : ℕ) (σ : Objs) (i : ℕ) : Option Objs :=
  match if i = 0 then (σ obj).value else (σ obj).nextValue with
  | .error _ => some σ
  | .ok (txt, src) =>
    let σ := Function.update σ obj src
    if dest = obj then none
    else some (Function.update σ dest
      (if i = 0 then (σ dest).setValue txt else (σ dest).addValue txt))

/-- `lines` in `copy`. -/
def lines (p : PktParam) : ℤ := MachineInt.ofSize p.numLines

/-- `copy(obj)` on the object at `dest`, and `operator=`. -/
def assign (dest obj : ℕ) (σ : Objs) : Option Objs :=
  (List.range (σ obj).lines.toNat).foldlM (pass dest obj)
    (Function.update σ dest { σ dest with name := (σ obj).name })

/-- The copy constructor, on a new object. -/
def construct (dest obj : ℕ) (σ : Objs) : Option Objs :=
  assign dest obj (Function.update σ dest {})

/-- `next_value()` until it throws. -/
def readRest (p : PktParam) : List Str :=
  match _h : p.nextValue with
  | .ok (v, q) => v :: readRest q
  | .error _ => []
termination_by p.val.length - p.idx
decreasing_by
  unfold nextValue at _h
  split at _h
  · rename_i hv
    cases _h
    have hlt := (List.getElem?_eq_some_iff.1 hv).1
    simp only
    omega
  · cases _h

/-- `value()`, then `next_value()` until it throws. -/
def readOut (p : PktParam) : List Str :=
  match p.value with
  | .ok (v, q) => v :: readRest q
  | .error _ => []

/-! ## Reading -/

theorem readRest_eq (p : PktParam) : p.readRest = p.val.drop p.idx := by
  fun_induction readRest p with
  | case1 p v q h ih =>
    unfold nextValue at h
    split at h
    · rename_i hv
      cases h
      obtain ⟨hlt, rfl⟩ := List.getElem?_eq_some_iff.1 hv
      rw [ih, List.drop_eq_getElem_cons hlt]
    · cases h
  | case2 p e h =>
    unfold nextValue at h
    split at h
    · cases h
    · rename_i hv
      rw [List.drop_eq_nil_of_le (List.getElem?_eq_none_iff.1 hv)]

theorem value_of_val_eq_cons {p : PktParam} {v : Str} {vs : List Str} (h : p.val = v :: vs) :
    p.value = .ok (v, { p with idx := 1 }) := by
  obtain ⟨name, val, idx⟩ := p
  cases h
  rfl

theorem readOut_eq (p : PktParam) : p.readOut = p.val := by
  unfold readOut value
  cases hp : p.val with
  | nil => rfl
  | cons v vs => exact congrArg (v :: ·) ((readRest_eq _).trans (by simp))

/-! ## The loop -/

/-- What is there after the first passes. -/
structure Copied (dest obj : ℕ) (σ : Objs) (n : ℕ) (σ' : Objs) : Prop where
  name : (σ' dest).name = (σ dest).name
  val : (σ' dest).val = (σ obj).val.take n
  src : σ' obj = { σ obj with idx := n }
  frame : ∀ o, o ≠ dest → o ≠ obj → σ' o = σ o

variable {dest obj : ℕ} {σ : Objs}

theorem pass_zero (hne : dest ≠ obj) (h : 0 < (σ obj).val.length) :
    ∃ σ', pass dest obj σ 0 = some σ' ∧ Copied dest obj σ 1 σ' := by
  obtain ⟨v, vs, hv⟩ := List.exists_cons_of_length_pos h
  have hvalue := value_of_val_eq_cons hv
  refine ⟨_, by rw [pass, if_pos rfl, hvalue]; exact if_neg hne, ?_⟩
  rw [if_pos rfl, Function.update_of_ne hne]
  refine ⟨?_, ?_, ?_, fun o ho ho' => ?_⟩
  · rw [Function.update_self, setValue_name]
  · rw [Function.update_self, setValue_val, hv]
    rfl
  · rw [Function.update_of_ne (Ne.symm hne), Function.update_self]
  · rw [Function.update_of_ne ho, Function.update_of_ne ho']

theorem pass_succ {σ' : Objs} {n : ℕ} (hne : dest ≠ obj) (h : n < (σ obj).val.length) (hn : n ≠ 0)
    (hc : Copied dest obj σ n σ') :
    ∃ σ'', pass dest obj σ' n = some σ'' ∧ Copied dest obj σ (n + 1) σ'' := by
  have hvalue : (σ' obj).nextValue = .ok ((σ obj).val[n], { σ obj with idx := n + 1 }) := by
    rw [nextValue, hc.src]
    simp only [List.getElem?_eq_getElem h]
  refine ⟨_, by rw [pass, if_neg hn, hvalue]; exact if_neg hne, ?_⟩
  rw [if_neg hn, Function.update_of_ne hne]
  refine ⟨?_, ?_, ?_, fun o ho ho' => ?_⟩
  · rw [Function.update_self, addValue_name, hc.name]
  · rw [Function.update_self, addValue_val, hc.val, List.take_concat_get' _ _ h]
  · rw [Function.update_of_ne (Ne.symm hne), Function.update_self]
  · rw [Function.update_of_ne ho, Function.update_of_ne ho', hc.frame o ho ho']

/-- The passes copy as many values. -/
theorem passes (hne : dest ≠ obj) {n : ℕ} (h : n < (σ obj).val.length) :
    ∃ σ', (List.range (n + 1)).foldlM (pass dest obj) σ = some σ' ∧
      Copied dest obj σ (n + 1) σ' := by
  induction n with
  | zero =>
    obtain ⟨σ', hpass, hc⟩ := pass_zero hne h
    exact ⟨σ', by simp [List.range_one, hpass], hc⟩
  | succ n ih =>
    obtain ⟨σ', hrun, hc⟩ := ih (by omega)
    obtain ⟨σ'', hpass, hc'⟩ := pass_succ hne h (by omega) hc
    exact ⟨σ'', by simp [List.range_succ (n := n + 1), hrun, hpass], hc'⟩

/-! ## Assignment and construction -/

/-- The passes of a loop that is reached find a value each. -/
theorem exists_lines_eq {p : PktParam} (h : 0 < p.lines) :
    ∃ n, p.lines.toNat = n + 1 ∧ n < p.val.length := by
  have hle : p.lines ≤ p.val.length := MachineInt.ofSize_le _
  exact ⟨p.lines.toNat - 1, by omega, by omega⟩

/-- No pass: the name is copied, and no more. -/
theorem assign_of_lines_le (h : (σ obj).lines ≤ 0) :
    assign dest obj σ = some (Function.update σ dest { σ dest with name := (σ obj).name }) := by
  rw [assign, Int.toNat_eq_zero.2 h]
  rfl

/-- **An assignment that reaches its loop** replaces the values by as many of the source's as
`lines` says. -/
theorem assign_of_lines_pos (hne : dest ≠ obj) (h : 0 < (σ obj).lines) :
    ∃ σ', assign dest obj σ = some σ' ∧ (σ' dest).name = (σ obj).name ∧
      (σ' dest).val = (σ obj).val.take (σ obj).lines.toNat ∧ (σ' obj).val = (σ obj).val := by
  obtain ⟨n, hn, hlen⟩ := exists_lines_eq h
  have hobj : Function.update σ dest { σ dest with name := (σ obj).name } obj = σ obj :=
    Function.update_of_ne (Ne.symm hne) _ _
  obtain ⟨σ', hrun, hc⟩ := passes (σ := Function.update σ dest { σ dest with name := (σ obj).name })
    hne (n := n) (by rwa [hobj])
  refine ⟨σ', by rw [assign, hn, hrun], ?_, ?_, ?_⟩
  · rw [hc.name, Function.update_self]
  · rw [hc.val, hobj, hn]
  · rw [hc.src, hobj]

/-- The object has the name and the values of the source, which keeps its own, and they are read
from it in their order. -/
def Holds (dest obj : ℕ) (σ σ' : Objs) : Prop :=
  (σ' dest).name = (σ obj).name ∧ (σ' dest).val = (σ obj).val ∧ (σ' obj).val = (σ obj).val ∧
    (σ' dest).readOut = (σ obj).val

/-- What `dest = obj` is for. -/
def Assigns (dest obj : ℕ) (σ : Objs) : Prop :=
  ∃ σ', assign dest obj σ = some σ' ∧ Holds dest obj σ σ'

/-- What `dest(obj)` is for. -/
def Constructs (dest obj : ℕ) (σ : Objs) : Prop :=
  ∃ σ', construct dest obj σ = some σ' ∧ Holds dest obj σ σ'

/-- An object with values, assigned to itself, appends a reference that `clear` has destroyed. -/
theorem assign_self (h : 0 < (σ obj).lines) : assign obj obj σ = none := by
  obtain ⟨n, hn, hlen⟩ := exists_lines_eq h
  obtain ⟨v, vs, hv⟩ := List.exists_cons_of_length_pos (Nat.zero_lt_of_lt hlen)
  have hname : { σ obj with name := (σ obj).name } = σ obj := rfl
  have hpass : pass obj obj σ 0 = none := by
    rw [pass, if_pos rfl, value_of_val_eq_cons hv]
    exact if_pos rfl
  rw [assign, hn, hname, Function.update_eq_self, List.range_succ_eq_map, List.foldlM_cons, hpass]
  rfl

theorem holds_iff_of_lines_le (dest obj : ℕ) (σ : Objs) :
    Holds dest obj σ (Function.update σ dest { σ dest with name := (σ obj).name }) ↔
      (σ dest).val = (σ obj).val := by
  have hobj : (Function.update σ dest { σ dest with name := (σ obj).name } obj).val =
      (σ obj).val := by
    by_cases h : obj = dest
    · rw [h, Function.update_self]
    · rw [Function.update_of_ne h]
  unfold Holds
  rw [readOut_eq, hobj, Function.update_self]
  exact ⟨fun h => h.2.1, fun h => ⟨rfl, h, rfl, h⟩⟩

theorem assigns_iff_of_lines_le (h : (σ obj).lines ≤ 0) :
    Assigns dest obj σ ↔ (σ dest).val = (σ obj).val := by
  rw [← holds_iff_of_lines_le, Assigns, assign_of_lines_le h]
  simp only [Option.some.injEq, exists_eq_left']

theorem assigns_iff_of_lines_pos (h : 0 < (σ obj).lines) :
    Assigns dest obj σ ↔ dest ≠ obj ∧ (σ obj).val.length < 2 ^ 31 := by
  have hlt : (σ obj).lines < 2 ^ 31 := MachineInt.ofSize_lt _
  have hle : (σ obj).lines ≤ (σ obj).val.length := MachineInt.ofSize_le _
  by_cases hne : dest = obj
  · rw [hne, Assigns, assign_self h]
    simp
  · obtain ⟨σ', hassign, hname, hval, hobj⟩ := assign_of_lines_pos hne h
    rw [Assigns, hassign]
    simp only [Option.some.injEq, exists_eq_left']
    constructor
    · rintro ⟨-, hall, -, -⟩
      rw [hval, List.take_eq_self_iff] at hall
      exact ⟨hne, by omega⟩
    · rintro ⟨-, hsmall⟩
      have hlines : (σ obj).lines = (σ obj).val.length := MachineInt.ofSize_of_lt hsmall
      have hall : (σ' dest).val = (σ obj).val := by
        rw [hval, hlines, Int.toNat_natCast, List.take_length]
      exact ⟨hname, hall, hobj, by rw [readOut_eq, hall]⟩

theorem lines_pos_of_lt (hpos : 0 < (σ obj).val.length) (hlt : (σ obj).val.length < 2 ^ 31) :
    0 < (σ obj).lines := by
  have hlines : (σ obj).lines = (σ obj).val.length := MachineInt.ofSize_of_lt hlt
  omega

/-- What an assignment copies: a list with as many values as an `int` counts, but for the empty
one, which leaves the values of the target. -/
theorem assigns_iff (dest obj : ℕ) (σ : Objs) : Assigns dest obj σ ↔
    (dest ≠ obj ∧ 0 < (σ obj).val.length ∧ (σ obj).val.length < 2 ^ 31) ∨
      ((σ obj).lines ≤ 0 ∧ (σ dest).val = (σ obj).val) := by
  by_cases h : (σ obj).lines ≤ 0
  · rw [assigns_iff_of_lines_le h]
    constructor
    · exact fun hval => .inr ⟨h, hval⟩
    · rintro (⟨-, hpos, hlt⟩ | ⟨-, hval⟩)
      · exact absurd (lines_pos_of_lt hpos hlt) (by omega)
      · exact hval
  · have hle : (σ obj).lines ≤ (σ obj).val.length := MachineInt.ofSize_le _
    rw [assigns_iff_of_lines_pos (by omega)]
    constructor
    · rintro ⟨hne, hlt⟩
      exact .inl ⟨hne, by omega, hlt⟩
    · rintro (⟨hne, -, hlt⟩ | ⟨hlines, -⟩)
      · exact ⟨hne, hlt⟩
      · exact absurd hlines h

/-- What a new object is given: all values that an `int` counts. -/
theorem constructs_iff (hne : dest ≠ obj) :
    Constructs dest obj σ ↔ (σ obj).val.length < 2 ^ 31 := by
  have hobj : Function.update σ dest {} obj = σ obj := Function.update_of_ne (Ne.symm hne) _ _
  have hassigns : Constructs dest obj σ ↔ Assigns dest obj (Function.update σ dest {}) := by
    unfold Constructs Assigns Holds construct
    rw [hobj]
  rw [hassigns, assigns_iff, hobj, Function.update_self]
  constructor
  · rintro (⟨-, -, hlt⟩ | ⟨-, hval⟩)
    · exact hlt
    · rw [← hval]
      exact Nat.two_pow_pos 31
  · intro hlt
    rcases Nat.eq_zero_or_pos (σ obj).val.length with hzero | hpos
    · have hnil := List.eq_nil_of_length_eq_zero hzero
      refine .inr ⟨?_, hnil.symm⟩
      rw [lines, numLines, hzero, MachineInt.ofSize_of_lt (by omega)]
      exact Int.le_refl 0
    · exact .inl ⟨hne, hpos, hlt⟩

/-- The values are those of `PktParam.copy`. -/
theorem assign_eq_copy {σ' : Objs} (hne : dest ≠ obj) (hlt : (σ obj).val.length < 2 ^ 31)
    (h : assign dest obj σ = some σ') : (σ' dest).val = (copy (σ dest) (σ obj)).val ∧
      (σ' dest).name = (copy (σ dest) (σ obj)).name := by
  have hlines : (σ obj).lines = (σ obj).val.length := MachineInt.ofSize_of_lt hlt
  rw [copy_val, copy_name]
  rcases Nat.eq_zero_or_pos (σ obj).val.length with hzero | hpos
  · rw [assign_of_lines_le (by omega)] at h
    cases h
    rw [Function.update_self, if_pos (List.eq_nil_of_length_eq_zero hzero)]
    exact ⟨rfl, rfl⟩
  · obtain ⟨σ₁, hassign, hname, hval, -⟩ := assign_of_lines_pos hne (lines_pos_of_lt hpos hlt)
    obtain rfl := Option.some.inj (hassign.symm.trans h)
    rw [hval, hlines, Int.toNat_natCast, List.take_length,
      if_neg (List.ne_nil_of_length_pos hpos)]
    exact ⟨rfl, hname⟩

/-- **What is copied**: by an assignment, as many values as an `int` counts, but for the empty list,
which leaves the values of the target; into a new object the empty one, too. -/
theorem copies_iff (dest obj : ℕ) (σ : Objs) :
    (Assigns dest obj σ ↔
      (dest ≠ obj ∧ 0 < (σ obj).val.length ∧ (σ obj).val.length < 2 ^ 31) ∨
        ((σ obj).lines ≤ 0 ∧ (σ dest).val = (σ obj).val)) ∧
      (dest ≠ obj → (Constructs dest obj σ ↔ (σ obj).val.length < 2 ^ 31)) :=
  ⟨assigns_iff dest obj σ, constructs_iff⟩

theorem copies_iff_one_value :
    (0 : ℕ) ≠ 1 ∧ (Constructs 0 1 (fun _ => ofNameVal ['n'] ['v']) ↔
      (ofNameVal ['n'] ['v']).val.length < 2 ^ 31) :=
  ⟨by decide, (copies_iff 0 1 fun _ => ofNameVal ['n'] ['v']).2 (by decide)⟩

/-- An empty source leaves the value of the target. -/
theorem assign_misses_empty :
    ¬ ∀ (dest obj : ℕ) (σ : Objs), dest ≠ obj → Assigns dest obj σ := by
  intro h
  have hassigns := h 0 1 (fun o => if o = 0 then ofNameVal ['n'] ['v'] else {}) (by decide)
  rcases (assigns_iff _ _ _).1 hassigns with ⟨-, hpos, -⟩ | ⟨-, hval⟩
  · exact absurd hpos (by decide)
  · exact absurd hval (by decide)

end PktParam

end Spooler
