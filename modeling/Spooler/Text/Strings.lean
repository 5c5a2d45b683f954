import Mathlib.Data.List.Basic
import Mathlib.Data.List.Infix
import Mathlib.Data.List.TakeWhile
import Mathlib.Tactic.Common

/-!
# Strings

The `std::string` operations of the spooler, on lists of characters: `find`, `rfind`, `substr`
and `erase` as the standard library defines them, and `trim`, `upperString` and `strIequals` of
`utils.h` in the C locale.
-/

namespace Spooler

/-- The contents of a `std::string`. -/
abbrev Str := List Char

-- a constant of its own: the decision of `name ∈ names` is then the same term in every module
instance : LawfulBEq Str := inferInstance

namespace Str

/-! ## Searching -/

/-- `s.find(pat)`; `none` is `npos`. -/
def find (pat : Str) : Str → Option Nat
  | [] => if pat = [] then some 0 else none
  | c :: s => if pat.isPrefixOf (c :: s) then some 0 else (find pat s).map (· + 1)

/-- `s.rfind(pat)`; `none` is `npos`. -/
def rfind (pat : Str) : Str → Option Nat
  | [] => if pat = [] then some 0 else none
  | c :: s =>
    match rfind pat s with
    | some i => some (i + 1)
    | none => if pat.isPrefixOf (c :: s) then some 0 else none

/-- `s.find(pat) != npos`. -/
def contains (pat s : Str) : Bool := (find pat s).isSome

/-- What follows the first occurrence of `pat`: `pat` occurs in `s` at that place. -/
theorem find_eq_some {pat s : Str} {i : Nat} (h : find pat s = some i) :
    pat <+: s.drop i := by
  induction s generalizing i with
  | nil =>
    unfold find at h
    split at h
    · simp_all
    · cases h
  | cons c s ih =>
    unfold find at h
    split at h
    · cases h
      exact List.isPrefixOf_iff_prefix.1 ‹_›
    · obtain ⟨j, hj, rfl⟩ := Option.map_eq_some_iff.1 h
      simpa using ih hj

/-- The first occurrence is found. -/
theorem le_of_find {pat s q r : Str} {i : Nat} (h : find pat s = some i)
    (hs : s = q ++ pat ++ r) : i ≤ q.length := by
  induction s generalizing i q with
  | nil =>
    unfold find at h
    split at h <;> cases h
    exact Nat.zero_le _
  | cons c s ih =>
    unfold find at h
    split at h
    · cases h
      exact Nat.zero_le _
    · rename_i hno
      obtain ⟨j, hj, rfl⟩ := Option.map_eq_some_iff.1 h
      cases q with
      | nil =>
        rw [hs, List.nil_append] at hno
        exact absurd (List.isPrefixOf_iff_prefix.2 (List.prefix_append _ _)) hno
      | cons d q =>
        have hs := (List.cons.inj hs).2
        exact Nat.succ_le_succ (ih hj hs)

theorem add_length_le_of_find {pat s : Str} {i : Nat} (hpat : pat ≠ []) (h : find pat s = some i) :
    i + pat.length ≤ s.length := by
  have hle := (find_eq_some h).length_le
  have hpos := List.length_pos_iff.2 hpat
  rw [List.length_drop] at hle
  omega

theorem not_infix_of_find {pat s : Str} (h : find pat s = none) : ¬ pat <:+: s := by
  induction s with
  | nil =>
    unfold find at h
    split at h
    · cases h
    · simpa
  | cons c s ih =>
    unfold find at h
    split at h
    · cases h
    · rename_i hno
      rw [List.infix_cons_iff, not_or]
      exact ⟨fun hpre => hno (List.isPrefixOf_iff_prefix.2 hpre),
        ih (Option.map_eq_none_iff.1 h)⟩

theorem contains_iff {pat s : Str} : contains pat s = true ↔ pat <:+: s := by
  rw [contains, Option.isSome_iff_exists]
  constructor
  · rintro ⟨i, h⟩
    exact (find_eq_some h).isInfix.trans (List.drop_suffix i s).isInfix
  · intro h
    cases hf : find pat s with
    | none => exact absurd h (not_infix_of_find hf)
    | some i => exact ⟨i, rfl⟩

theorem find_self_append (pat s : Str) : find pat (pat ++ s) = some 0 := by
  cases pat with
  | nil => cases s <;> rfl
  | cons c pat =>
    rw [List.cons_append, find, if_pos]
    exact List.isPrefixOf_iff_prefix.2 (List.prefix_append (c :: pat) s)

/-- What follows does not matter once the text has been found. -/
theorem find_append {pat s : Str} {i : Nat} (h : find pat s = some i) (t : Str) :
    find pat (s ++ t) = some i := by
  induction s generalizing i with
  | nil =>
    obtain rfl : pat = [] := List.prefix_nil.1 (by simpa using find_eq_some h)
    obtain rfl : i = 0 := Nat.le_zero.1 (le_of_find (q := []) (r := []) h rfl)
    exact find_self_append [] t
  | cons c s ih =>
    unfold find at h
    rw [List.cons_append, find]
    split at h
    · rename_i hpre
      rw [if_pos, h]
      rw [List.isPrefixOf_iff_prefix] at hpre ⊢
      exact hpre.trans (List.prefix_append (c :: s) t)
    · rename_i hno
      obtain ⟨j, hj, rfl⟩ := Option.map_eq_some_iff.1 h
      have hlen := (find_eq_some hj).length_le
      rw [List.length_drop] at hlen
      rw [if_neg, ih hj, Option.map_some]
      rw [List.isPrefixOf_iff_prefix] at hno ⊢
      intro hpre
      refine hno (List.prefix_of_prefix_length_le hpre (List.prefix_append (c :: s) t) ?_)
      rw [List.length_cons]
      omega

/-- A text that lacks a character is found behind it, when it does not occur in front of it. -/
theorem find_behind {pat d : Str} {c : Char} (hc : c ∉ pat) (hne : pat ≠ []) (h : ¬ pat <:+: d)
    (s : Str) : find pat (d ++ c :: (pat ++ s)) = some (d.length + 1) := by
  induction d with
  | nil =>
    have hno : ¬ pat.isPrefixOf (c :: (pat ++ s)) = true := by
      rw [List.isPrefixOf_iff_prefix, List.prefix_cons_iff]
      rintro (rfl | ⟨t, rfl, -⟩)
      · exact hne rfl
      · exact hc List.mem_cons_self
    rw [List.nil_append, find, if_neg hno, find_self_append]
    rfl
  | cons b d ih =>
    rw [List.infix_cons_iff, not_or] at h
    have hno : ¬ pat.isPrefixOf (b :: (d ++ c :: (pat ++ s))) = true := by
      rw [List.isPrefixOf_iff_prefix, ← List.cons_append]
      rintro ⟨t, ht⟩
      rcases List.append_eq_append_iff.1 ht with ⟨as, has, -⟩ | ⟨bs, hbs, hcs⟩
      · exact h.1 ⟨as, has.symm⟩
      · cases bs with
        | nil => exact h.1 ⟨[], by rw [hbs, List.append_nil, List.append_nil]⟩
        | cons x bs =>
          obtain rfl : c = x := List.head_eq_of_cons_eq hcs
          exact hc (hbs ▸ List.mem_append_right _ List.mem_cons_self)
    rw [List.cons_append, find, if_neg hno, ih h.2]
    rfl

theorem rfind_eq_some {pat s : Str} {i : Nat} (h : rfind pat s = some i) :
    pat <+: s.drop i := by
  induction s generalizing i with
  | nil =>
    unfold rfind at h
    split at h
    · simp_all
    · cases h
  | cons c s ih =>
    unfold rfind at h
    split at h
    · cases h
      simpa using ih ‹_›
    · split at h
      · cases h
        exact List.isPrefixOf_iff_prefix.1 ‹_›
      · cases h

theorem lt_length_of_find {c : Char} {s : Str} {i : Nat} (h : find [c] s = some i) :
    i < s.length := by
  have hpre := (find_eq_some h).length_le
  simp only [List.length_singleton, List.length_drop] at hpre
  omega

theorem lt_length_of_rfind {c : Char} {s : Str} {i : Nat} (h : rfind [c] s = some i) :
    i < s.length := by
  have hpre := (rfind_eq_some h).length_le
  simp only [List.length_singleton, List.length_drop] at hpre
  omega

/-- Searching for one character. -/
theorem find_singleton_eq_none {c : Char} {s : Str} : find [c] s = none ↔ c ∉ s := by
  induction s with
  | nil => simp [find]
  | cons d s ih =>
    unfold find
    by_cases h : c = d
    · simp [h]
    · simp [h, ih]

theorem contains_singleton {c : Char} {s : Str} : contains [c] s = true ↔ c ∈ s := by
  rw [contains, Option.isSome_iff_ne_none, ne_eq, find_singleton_eq_none, not_not]

/-- The first occurrence of a character splits the string in front of it. -/
theorem find_singleton_append {c : Char} {p : Str} (h : c ∉ p) (s : Str) :
    find [c] (p ++ c :: s) = some p.length := by
  induction p with
  | nil => simp [find]
  | cons d p ih =>
    rw [List.mem_cons, not_or] at h
    simp [find, h.1, ih h.2]

/-- The first occurrence of a character splits the string. -/
theorem exists_of_find_singleton {c : Char} {s : Str} {i : Nat} (h : find [c] s = some i) :
    ∃ p q, s = p ++ c :: q ∧ c ∉ p ∧ i = p.length := by
  have hmem : c ∈ s := by
    by_contra hno
    cases h.symm.trans (find_singleton_eq_none.2 hno)
  obtain ⟨p, q, rfl, hp⟩ := List.eq_append_cons_of_mem hmem
  exact ⟨p, q, rfl, hp, Option.some.inj (h.symm.trans (find_singleton_append hp q))⟩

/-- What follows a character. -/
theorem drop_append_cons (p : Str) (c : Char) (q : Str) :
    (p ++ c :: q).drop (p.length + 1) = q := List.drop_length_add_append ..

theorem rfind_singleton_eq_none {c : Char} {s : Str} (h : c ∉ s) : rfind [c] s = none := by
  induction s with
  | nil => rfl
  | cons d s ih =>
    rw [List.mem_cons, not_or] at h
    simp [rfind, ih h.2, h.1]

/-- The last occurrence of a character splits the string behind it. -/
theorem rfind_singleton_append {c : Char} {q : Str} (h : c ∉ q) (p : Str) :
    rfind [c] (p ++ c :: q) = some p.length := by
  induction p with
  | nil => simp [rfind, rfind_singleton_eq_none h]
  | cons d p ih => rw [List.cons_append, rfind, ih, List.length_cons]

/-- The last occurrence of a character splits the string. -/
theorem exists_of_rfind_singleton {c : Char} {s : Str} {i : Nat} (h : rfind [c] s = some i) :
    ∃ p q, s = p ++ c :: q ∧ c ∉ q ∧ i = p.length := by
  have hmem : c ∈ s.reverse := by
    by_contra hno
    cases h.symm.trans (rfind_singleton_eq_none fun hc => hno (List.mem_reverse.2 hc))
  obtain ⟨q, p, hs, hq⟩ := List.eq_append_cons_of_mem hmem
  have hs' : s = p.reverse ++ c :: q.reverse := by
    rw [← List.reverse_reverse s, hs]
    simp
  have hq' : c ∉ q.reverse := fun hc => hq (List.mem_reverse.1 hc)
  refine ⟨p.reverse, q.reverse, hs', hq', Option.some.inj (h.symm.trans ?_)⟩
  rw [hs', rfind_singleton_append hq']

/-! ## C strings -/

/-- The characters in front of the first `'\0'`. -/
def cstr (s : Str) : Str := s.takeWhile (· ≠ '\x00')

theorem cstr_eq_self {s : Str} (h : '\x00' ∉ s) : cstr s = s :=
  List.takeWhile_eq_self_iff.2 fun c hc => by
    rw [decide_eq_true_eq]
    rintro rfl
    exact h hc

theorem prefix_cstr (s : Str) : cstr s <+: s := List.takeWhile_prefix _

theorem notMem_cstr (s : Str) : '\x00' ∉ cstr s := by
  intro h
  simpa using List.mem_takeWhile_imp h

theorem cstr_append_of_notMem {a : Str} (h : '\x00' ∉ a) (b : Str) : cstr (a ++ b) = a ++ cstr b :=
  List.takeWhile_append_of_pos fun c hc => by
    rw [decide_eq_true_eq]
    rintro rfl
    exact h hc

theorem cstr_append_of_mem {a : Str} (h : '\x00' ∈ a) (b : Str) : cstr (a ++ b) = cstr a := by
  have hne : (cstr a).length ≠ a.length := by
    intro heq
    rw [← (prefix_cstr a).eq_of_length heq] at h
    exact notMem_cstr a h
  exact List.takeWhile_append.trans (if_neg hne)

/-! ## Case and blanks -/

/-- `std::isspace` in the C locale. -/
def isSpace (c : Char) : Bool :=
  c = ' ' || c = '\t' || c = '\n' || c = '\x0b' || c = '\x0c' || c = '\r'

def ltrim (s : Str) : Str := s.dropWhile isSpace

def rtrim (s : Str) : Str := (s.reverse.dropWhile isSpace).reverse

def trim (s : Str) : Str := ltrim (rtrim s)

theorem ltrim_of_head {s : Str} (h : ∀ c ∈ s.head?, isSpace c = false) : ltrim s = s := by
  cases s with
  | nil => rfl
  | cons c s => exact List.dropWhile_cons_of_neg (by simp [h c rfl])

theorem ltrim_eq_self {s : Str} (h : ∀ c ∈ s, isSpace c = false) : ltrim s = s :=
  ltrim_of_head fun c hc => h c (List.mem_of_mem_head? hc)

/-- Trimming leaves a text without blanks alone. -/
theorem trim_eq_self {s : Str} (h : ∀ c ∈ s, isSpace c = false) : trim s = s := by
  have hr : rtrim s = s := by
    have hl : ltrim s.reverse = s.reverse :=
      ltrim_eq_self fun c hc => h c (List.mem_reverse.1 hc)
    rw [rtrim, ← ltrim, hl, List.reverse_reverse]
  rw [trim, hr, ltrim_eq_self h]

theorem ltrim_suffix (s : Str) : ltrim s <:+ s := List.dropWhile_suffix _

theorem rtrim_prefix_self (s : Str) : rtrim s <+: s := by
  rw [← List.reverse_suffix, rtrim, List.reverse_reverse]
  exact List.dropWhile_suffix _

/-- Trimming takes characters away at the ends only. -/
theorem trim_infix (s : Str) : trim s <:+: s :=
  (ltrim_suffix _).isInfix.trans (rtrim_prefix_self s).isInfix

theorem isSpace_head_ltrim {s : Str} : ∀ c ∈ (ltrim s).head?, isSpace c = false := by
  intro c hc
  have h := List.head?_dropWhile_not isSpace s
  rw [ltrim] at hc
  rw [Option.mem_def.1 hc] at h
  simpa using h

theorem trim_trim (s : Str) : trim (trim s) = trim s := by
  have hlast : ∀ c ∈ (trim s).reverse.head?, isSpace c = false := by
    intro c hc
    rw [List.head?_reverse] at hc
    obtain ⟨t, ht⟩ := ltrim_suffix (rtrim s)
    have hr : (rtrim s).getLast? = some c := by
      rw [← ht, List.getLast?_append, ← trim, hc, Option.some_or]
    rw [rtrim, List.getLast?_reverse] at hr
    exact isSpace_head_ltrim c hr
  have hr : rtrim (trim s) = trim s := by
    rw [rtrim, ← ltrim, ltrim_of_head hlast, List.reverse_reverse]
  rw [trim, hr]
  exact ltrim_of_head isSpace_head_ltrim
/-- `std::transform(…, ::toupper)` in the C locale. -/
def upperString (s : Str) : Str := s.map Char.toUpper

/-- Equality of two strings, blanks around them and case aside. -/
def strIequals (str1 str2 : Str) : Bool :=
  let cpy1 := upperString (trim str1)
  let cpy2 := upperString (trim str2)
  if cpy1.length ≠ cpy2.length ∧ (cpy1.length = 0 ∨ cpy2.length = 0) then false
  else cpy1 = cpy2

theorem strIequals_iff {s t : Str} :
    strIequals s t = true ↔ upperString (trim s) = upperString (trim t) := by
  unfold strIequals
  constructor
  · intro h
    simp only at h
    split at h
    · cases h
    · simpa using h
  · intro h
    simp [h]

@[simp] theorem strIequals_self (s : Str) : strIequals s s = true := by
  simp [strIequals_iff]

theorem strIequals_comm (s t : Str) : strIequals s t = strIequals t s := by
  rw [Bool.eq_iff_iff, strIequals_iff, strIequals_iff, eq_comm]

theorem strIequals_trim (s : Str) : strIequals s (trim s) = true := by
  rw [strIequals_iff, trim_trim]

end Str

/-! ## Lines -/

/-- What successive calls of `std::getline` on a stream with contents `data` read: the pieces
between newlines. The last piece is read up to the end of the stream, so its read sets `eofbit`
(and `failbit` too when the piece is empty). -/
def getlines : Str → List Str
  | [] => [[]]
  | c :: data =>
    if c = '\n' then [] :: getlines data
    else match getlines data with
      | [] => [[c]]
      | line :: rest => (c :: line) :: rest

@[simp] theorem getlines_ne_nil (data : Str) : getlines data ≠ [] := by
  cases data with
  | nil => simp [getlines]
  | cons c data =>
    unfold getlines
    split
    · simp
    · split <;> simp

/-- A line in front of a newline is read whole. -/
theorem getlines_append {line : Str} (h : '\n' ∉ line) (data : Str) :
    getlines (line ++ '\n' :: data) = line :: getlines data := by
  induction line with
  | nil => simp [getlines]
  | cons c line ih =>
    rw [List.mem_cons, not_or] at h
    have hc : c ≠ '\n' := fun e => h.1 e.symm
    rw [List.cons_append, getlines, if_neg hc, ih h.2]

theorem getlines_of_notMem {line : Str} (h : '\n' ∉ line) : getlines line = [line] := by
  induction line with
  | nil => rfl
  | cons c line ih =>
    rw [List.mem_cons, not_or] at h
    have hc : c ≠ '\n' := fun e => h.1 e.symm
    rw [getlines, if_neg hc, ih h.2]

/-- The text of a list of lines, each ended by a newline. -/
def unlines : List Str → Str
  | [] => []
  | line :: rest => line ++ '\n' :: unlines rest

/-- Reading the text of lines back gives the lines and the empty rest of the stream. -/
theorem getlines_unlines_append {ls : List Str} (h : ∀ l ∈ ls, '\n' ∉ l) (data : Str) :
    getlines (unlines ls ++ data) = ls ++ getlines data := by
  induction ls with
  | nil => rfl
  | cons l ls ih =>
    rw [List.forall_mem_cons] at h
    rw [unlines, List.append_assoc, List.cons_append, getlines_append h.1, ih h.2, List.cons_append]

/-- Lines without newlines are determined by their text. -/
theorem unlines_injective {ls ms : List Str} (hl : ∀ l ∈ ls, '\n' ∉ l) (hm : ∀ l ∈ ms, '\n' ∉ l)
    (h : unlines ls = unlines ms) : ls = ms := by
  have hls := getlines_unlines_append hl []
  have hms := getlines_unlines_append hm []
  rw [List.append_nil] at hls hms
  rw [h, hms] at hls
  exact (List.append_cancel_right hls).symm

end Spooler
