import Spooler.Foundations.SortedMap
import Spooler.Packet.Excp
import Mathlib.Algebra.Group.Nat.Defs
import Mathlib.Data.Char
import Mathlib.Data.List.Lex

/-!
# Keys and values

`datapair`: a map of keys to values that reads entries `key=value`. **A list of entries read one
after the other leaves the last value of each key and nothing else**, `lookup_readAll`.
-/

namespace Spooler

open Foundations

/-- `datapair`. Its own delimiter is not used to read entries. -/
abbrev Datapair := SortedMap Str Str

namespace Datapair

/-- `UNDEF_DATAPAIR`. -/
def undefDatapair : Str := "Chave nao definida".toList

/-- `DEFAULT_DELIM`. -/
def defaultDelim : Str := ['=']

/-- `get_value_by_key(node_key)`. -/
def getValueByKey (d : Datapair) (nodeKey : Str) : Except Excp Str :=
  match d.lookup nodeKey with
  | some value => .ok value
  | none => .error (.spooler .datapairExp undefDatapair)

/-- `defined(node_key)`. -/
def defined (d : Datapair) (nodeKey : Str) : Bool := (d.lookup nodeKey).isSome

/-- `assign(node_key, node_value)`, with the index it returns. -/
def assign (nodeKey nodeValue : Str) (d : Datapair) : ℕ × Datapair :=
  if d.defined nodeKey then
    (d.nodes.findIdx (·.1 = nodeKey) + 1, d.replace nodeKey nodeValue)
  else
    let d' := d.insert nodeKey nodeValue
    (d'.nodes.length, d')

/-- `INVALID_RAW_PAIR`. -/
def invalidRawPair : Str := "Erro de parsing".toList

/-- `from_raw_data(raw_data)`. The program is built for 32 bits, where the `unsigned int` that the
position is kept in can be `npos`. -/
def fromRawData (rawData : Str) (d : Datapair) : Except Excp (ℕ × Datapair) :=
  match Str.find defaultDelim rawData with
  | some cut => do
    let nodeKey ← Str.substr rawData 0 cut
    let nodeValue ← Str.substrFrom rawData (cut + 1)
    pure (d.assign nodeKey nodeValue)
  | none => .error (.spooler .datapairExp invalidRawPair)

theorem lookup_assign (k v : Str) (d : Datapair) (j : Str) :
    (d.assign k v).2.lookup j = if j = k then some v else d.lookup j := by
  unfold assign defined
  cases hk : d.lookup k with
  | none => exact SortedMap.lookup_insert v hk j
  | some a =>
    have hne : d.lookup k ≠ none := by simp [hk]
    exact SortedMap.lookup_replace v hne j

/-! ## Entries -/

/-- `key=value`. -/
def line (e : Str × Str) : Str := e.1 ++ '=' :: e.2

/-- An entry is read. -/
theorem fromRawData_line {e : Str × Str} (h : '=' ∉ e.1) (d : Datapair) :
    fromRawData (line e) d = .ok (d.assign e.1 e.2) := by
  have hfind : Str.find defaultDelim (line e) = some e.1.length := Str.find_singleton_append h _
  have hl : (line e).length = e.1.length + (e.2.length + 1) := List.length_append
  have hkey : Str.substr (line e) 0 e.1.length = .ok e.1 := by
    rw [Str.substr_ok (Nat.zero_le _), line, List.drop_zero, List.take_left' rfl]
  have hvalue : Str.substrFrom (line e) (e.1.length + 1) = .ok e.2 := by
    rw [Str.substrFrom_ok (by omega), line, Str.drop_append_cons]
  simp only [fromRawData, hfind, hkey, hvalue]
  rfl

/-- A text without the delimiter is refused. -/
theorem fromRawData_of_notMem {raw : Str} (h : '=' ∉ raw) (d : Datapair) :
    fromRawData raw d = .error (.spooler .datapairExp invalidRawPair) := by
  rw [fromRawData, defaultDelim, Str.find_singleton_eq_none.2 h]

/-- The value of the last entry with a key. -/
def lastValue (es : List (Str × Str)) (k : Str) : Option Str :=
  (es.reverse.find? (·.1 = k)).map Prod.snd

/-- The entries, one after the other. -/
def readAll (es : List (Str × Str)) (d : Datapair) : Datapair :=
  es.foldl (fun d e => (d.assign e.1 e.2).2) d

theorem lastValue_append_singleton (es : List (Str × Str)) (e : Str × Str) (k : Str) :
    lastValue (es ++ [e]) k = if k = e.1 then some e.2 else lastValue es k := by
  rw [lastValue, List.reverse_append, List.reverse_singleton, List.singleton_append]
  by_cases h : e.1 = k
  · rw [List.find?_cons_of_pos (by simpa), if_pos h.symm]
    rfl
  · rw [List.find?_cons_of_neg (by simpa), if_neg (Ne.symm h)]
    rfl

theorem exists_of_lastValue {es : List (Str × Str)} {k v : Str} (h : lastValue es k = some v) :
    ∃ e ∈ es, e.1 = k := by
  obtain ⟨e, he, -⟩ := Option.map_eq_some_iff.1 h
  exact ⟨e, List.mem_reverse.1 (List.mem_of_find?_eq_some he), by simpa using List.find?_some he⟩

theorem exists_lastValue {es : List (Str × Str)} {e : Str × Str} (h : e ∈ es) :
    ∃ v, lastValue es e.1 = some v := by
  cases hf : es.reverse.find? (·.1 = e.1) with
  | none => exact absurd (List.find?_eq_none.1 hf e (List.mem_reverse.2 h)) (by simp)
  | some d => exact ⟨d.2, by rw [lastValue, hf, Option.map_some]⟩

/-- Other values. -/
theorem lastValue_map (f : Str → Str) (es : List (Str × Str)) (k : Str) :
    lastValue (es.map fun e => (e.1, f e.2)) k = (lastValue es k).map f := by
  induction es using List.reverseRecOn with
  | nil => rfl
  | append_singleton es e ih =>
    rw [List.map_append, List.map_singleton, lastValue_append_singleton, lastValue_append_singleton,
      ih]
    split_ifs <;> rfl

/-- **Entries read one after the other** leave the last value of each key, and no other key. -/
theorem lookup_readAll (es : List (Str × Str)) (k : Str) :
    (readAll es .empty).lookup k = lastValue es k := by
  induction es using List.reverseRecOn with
  | nil => rfl
  | append_singleton es e ih =>
    rw [readAll, List.foldl_append, lastValue_append_singleton, ← ih]
    exact lookup_assign e.1 e.2 _ k

end Datapair

end Spooler
