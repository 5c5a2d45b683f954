import Spooler.Packet.Excp

/-!
# Parameters of a packet

`pkt_param`: a name, a list of values and a cursor into it. `copy` is the member function behind
the copy constructor and both assignments; it copies value by value through the cursor of the
object it reads, so an object without values leaves the ones of the target in place
(`copy_val`).
-/

namespace Spooler

/-- `class pkt_param`; `idx` is the distance of `m_idx` from the beginning of `m_val`. -/
structure PktParam where
  name : Str := []
  val : List Str := []
  idx : Nat := 0
  deriving DecidableEq, Repr

namespace PktParam

/-- `pkt_param::add_value`. -/
def addValue (p : PktParam) (txt : Str) : PktParam := { p with val := p.val ++ [txt] }

/-- `pkt_param::value(txt)`. -/
def setValue (p : PktParam) (txt : Str) : PktParam :=
  addValue (if p.val = [] then p else { p with val := [] }) txt

/-- `pkt_param(name, val)`. -/
def ofNameVal (name val : Str) : PktParam := setValue { name := name } val

/-- `pkt_param::value()`: the first value, the cursor behind it. -/
def value (p : PktParam) : Except Excp (Str × PktParam) :=
  match p.val with
  | v :: _ => .ok (v, { p with idx := 1 })
  | [] => .error (.spooler .pktParamExp "Nenhum valor definido".toList)

/-- `pkt_param::next_value()`. -/
def nextValue (p : PktParam) : Except Excp (Str × PktParam) :=
  match p.val[p.idx]? with
  | some v => .ok (v, { p with idx := p.idx + 1 })
  | none => .error (.spooler .pktParamExp "Nao ha mais valores definidos".toList)

/-- `pkt_param::num_lines`. -/
def numLines (p : PktParam) : Nat := p.val.length

/-- The passes of the loop of `copy` after the first. -/
def copyNext (p obj : PktParam) : Nat → PktParam
  | 0 => p
  | n + 1 =>
    match obj.nextValue with
    | .ok (v, obj) => copyNext (p.addValue v) obj n
    | .error _ => copyNext p obj n

/-- `pkt_param::copy`. -/
def copy (p obj : PktParam) : PktParam :=
  let p := { p with name := obj.name }
  match obj.numLines with
  | 0 => p
  | n + 1 =>
    match obj.value with
    | .ok (v, obj) => copyNext (p.setValue v) obj n
    | .error _ => copyNext p obj n

/-- The copy constructor. -/
def ofCopy (p : PktParam) : PktParam := copy {} p

@[simp] theorem addValue_name (p : PktParam) (t : Str) : (p.addValue t).name = p.name := rfl

@[simp] theorem addValue_val (p : PktParam) (t : Str) : (p.addValue t).val = p.val ++ [t] := rfl

@[simp] theorem setValue_name (p : PktParam) (t : Str) : (p.setValue t).name = p.name := by
  unfold setValue
  split <;> rfl

@[simp] theorem setValue_val (p : PktParam) (t : Str) : (p.setValue t).val = [t] := by
  unfold setValue
  split
  · simp [*]
  · rfl

theorem copyNext_name (p obj : PktParam) (n : Nat) : (copyNext p obj n).name = p.name := by
  induction n generalizing p obj with
  | zero => rfl
  | succ n ih =>
    unfold copyNext
    split
    · rw [ih, addValue_name]
    · rw [ih]

/-- The loop appends the values between the cursor and the end. -/
theorem copyNext_val (p obj : PktParam) {n : Nat} (h : obj.idx + n = obj.val.length) :
    (copyNext p obj n).val = p.val ++ obj.val.drop obj.idx := by
  induction n generalizing p obj with
  | zero =>
    have hd : obj.val.drop obj.idx = [] := List.drop_of_length_le (by omega)
    rw [copyNext, hd, List.append_nil]
  | succ n ih =>
    have hi : obj.idx < obj.val.length := by omega
    simp only [copyNext, nextValue, List.getElem?_eq_getElem hi]
    rw [ih _ _ (by simp only; omega), addValue_val, List.append_assoc,
      List.singleton_append, List.drop_eq_getElem_cons hi]

@[simp] theorem copy_name (p obj : PktParam) : (copy p obj).name = obj.name := by
  unfold copy
  split
  · rfl
  · split <;> simp [copyNext_name]

/-- **What `copy` copies**: the values of the object, or nothing when it has none. -/
theorem copy_val (p obj : PktParam) :
    (copy p obj).val = if obj.val = [] then p.val else obj.val := by
  unfold copy numLines value
  rcases h : obj.val with _ | ⟨v, vs⟩
  · simp
  · simp only [List.length_cons]
    rw [copyNext_val _ _ (by simp [Nat.add_comm])]
    simp

@[simp] theorem ofCopy_name (p : PktParam) : (ofCopy p).name = p.name := copy_name _ _

@[simp] theorem ofCopy_val (p : PktParam) : (ofCopy p).val = p.val := by
  rw [ofCopy, copy_val]
  split
  · simp [*]
  · rfl

@[simp] theorem ofNameVal_name (n v : Str) : (ofNameVal n v).name = n := by simp [ofNameVal]

@[simp] theorem ofNameVal_val (n v : Str) : (ofNameVal n v).val = [v] := by simp [ofNameVal]

end PktParam

end Spooler
