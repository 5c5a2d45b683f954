import Spooler.Foundations.Exec
import Mathlib.Data.List.Basic

/-!
# Streams that can fail

Files, and streams over them whose operations can each go wrong: an operation takes all it is
given, a proper part of it, or nothing, and in the last two cases sets the error bits of the stream
(`Outcome`). No operation raises an exception, and a stream with an error bit set takes nothing
more. What a flush does not bring to the file is lost.

`exec_putLines` says what lines written to a stream leave in its file: all of their text when every
operation succeeds, and less than that otherwise.
-/

namespace Foundations

variable {ε κ α : Type}

/-- How an operation on a stream goes. -/
inductive Outcome
  | ok
  /-- No more than the first `n` elements get through, and not all of them. -/
  | short (n : Nat)
  | fail
  deriving DecidableEq, Repr

namespace Outcome

/-- What gets through of a text. -/
def taken : Outcome → List α → List α
  | ok, s => s
  | short n, s => s.take (min n (s.length - 1))
  | fail, _ => []

@[simp] theorem taken_ok (s : List α) : taken ok s = s := rfl

@[simp] theorem taken_nil (o : Outcome) : taken o ([] : List α) = [] := by
  cases o <;> simp [taken]

theorem length_taken_le (o : Outcome) (s : List α) : (o.taken s).length ≤ s.length := by
  cases o with
  | ok => exact Nat.le_refl _
  | short n => exact List.length_take_le' _ _
  | fail => exact Nat.zero_le _

theorem length_taken_lt {o : Outcome} (h : o ≠ ok) {s : List α} (hs : s ≠ []) :
    (o.taken s).length < s.length := by
  have hl := List.length_pos_iff.2 hs
  cases o with
  | ok => exact absurd rfl h
  | short n =>
    rw [taken, List.length_take]
    omega
  | fail => exact hl

end Outcome

/-- Files by name, and the names of those opened for writing so far. -/
structure Disk (κ α : Type) where
  files : κ → Option (List α)
  created : List κ := []

/-- An output stream: its file, whether its error bits are clear, and what it holds back. -/
structure OStream (κ α : Type) where
  path : κ
  good : Bool
  buf : List α := []

/-- An input stream. -/
structure IStream (κ : Type) where
  path : κ
  isOpen : Bool

/-! ## Insertions -/

/-- What an input stream reads. -/
def Disk.contents (d : Disk κ α) (inp : IStream κ) : List α :=
  if inp.isOpen then (d.files inp.path).getD [] else []

namespace OStream

/-- A text is inserted. -/
def insert (o : Outcome) (s : List α) (st : OStream κ α) : OStream κ α :=
  if st.good then { st with good := o = .ok, buf := st.buf ++ o.taken s } else st

/-- Texts are inserted one after the other. -/
def insertAll (o : Nat → Outcome) : List (List α) → OStream κ α → OStream κ α
  | [], st => st
  | s :: ss, st => insertAll (fun k => o (k + 1)) ss (st.insert (o 0) s)

/-- The contents of an input stream are inserted; none is an error. -/
def insertFrom (o : Outcome) (inp : IStream κ) (st : OStream κ α) :
    Exec ε (Disk κ α) (OStream κ α) := do
  let d ← get
  match d.contents inp with
  | [] => pure { st with good := false }
  | c :: s => pure (st.insert o (c :: s))

variable {st : OStream κ α} {o : Nat → Outcome}

theorem insertAll_of_bad (h : st.good = false) (ss : List (List α)) :
    st.insertAll o ss = st := by
  induction ss generalizing o with
  | nil => rfl
  | cons s ss ih =>
    have hi : st.insert (o 0) s = st := by simp [insert, h]
    rw [insertAll, hi, ih]

theorem insertAll_path (ss : List (List α)) : (st.insertAll o ss).path = st.path := by
  induction ss generalizing o st with
  | nil => rfl
  | cons s ss ih =>
    have hi : (st.insert (o 0) s).path = st.path := by
      unfold insert
      split <;> rfl
    rw [insertAll, ih, hi]

theorem insertAll_ok (hg : st.good = true) (ss : List (List α)) (h : ∀ k < ss.length, o k = .ok) :
    st.insertAll o ss = { st with buf := st.buf ++ ss.flatten } := by
  induction ss generalizing o st with
  | nil => simp [insertAll]
  | cons s ss ih =>
    have hi : st.insert (o 0) s = { st with buf := st.buf ++ s } := by
      simp [insert, hg, h 0 (by simp)]
    have hg' : ({ st with buf := st.buf ++ s } : OStream κ α).good = true := hg
    rw [insertAll, hi, ih hg' fun k hk => h (k + 1) (by simpa using hk)]
    simp

/-- A text in front of a nonempty one does not get through whole: neither do both. -/
theorem insertAll_short (hg : st.good = true) {ss : List (List α)} {s : List α} (hs : s ≠ [])
    (h : ¬ ∀ k < ss.length + 1, o k = .ok) :
    (st.insertAll o (ss ++ [s])).good = false ∧
      (st.insertAll o (ss ++ [s])).buf.length < (st.buf ++ (ss ++ [s]).flatten).length := by
  have hpos := List.length_pos_iff.2 hs
  induction ss generalizing o st with
  | nil =>
    have h0 : o 0 ≠ .ok := fun h0 => h fun k hk => by
      obtain rfl : k = 0 := by simpa using hk
      exact h0
    have hlt := Outcome.length_taken_lt h0 hs
    simp [insertAll, insert, hg, h0, hlt]
  | cons t ss ih =>
    by_cases h0 : o 0 = .ok
    · have hi : st.insert (o 0) t = { st with buf := st.buf ++ t } := by simp [insert, hg, h0]
      have hrest : ¬ ∀ k < ss.length + 1, o (k + 1) = .ok := fun hall => h fun k hk => by
        cases k with
        | zero => exact h0
        | succ k => exact hall k (by simpa using hk)
      rw [List.cons_append, insertAll, hi]
      have hg' : ({ st with buf := st.buf ++ t } : OStream κ α).good = true := hg
      obtain ⟨hb, hl⟩ := ih hg' hrest
      exact ⟨hb, by simpa using hl⟩
    · have hbad : (st.insert (o 0) t).good = false := by simp [insert, hg, h0]
      have hbuf : (st.insert (o 0) t).buf = st.buf ++ (o 0).taken t := by simp [insert, hg]
      have hle := Outcome.length_taken_le (o 0) t
      rw [List.cons_append, insertAll, insertAll_of_bad hbad]
      refine ⟨hbad, ?_⟩
      simp only [hbuf, List.length_append, List.flatten_cons, List.flatten_append,
        List.flatten_nil, List.append_nil]
      omega

theorem exec_insertFrom_of_bad (hg : st.good = false) (o : Outcome) (inp : IStream κ)
    (d : Disk κ α) : exec (st.insertFrom o inp : Exec ε _ _) d = (.ok st, d) := by
  simp only [insertFrom, exec_bind, exec_get]
  split
  · rw [← hg, exec_pure]
  · simp [insert, hg]

/-- An empty stream holds what gets through of the contents. -/
theorem exec_insertFrom (hg : st.good = true) (hb : st.buf = []) (o : Outcome) (inp : IStream κ)
    (d : Disk κ α) : ∃ g, exec (st.insertFrom o inp : Exec ε _ _) d =
      (.ok { st with good := g, buf := o.taken (d.contents inp) }, d) := by
  simp only [insertFrom, exec_bind, exec_get]
  split
  · rename_i h
    exact ⟨false, by rw [exec_pure, h, Outcome.taken_nil, ← hb]⟩
  · rename_i h
    exact ⟨decide (o = .ok), by simp [insert, hg, hb, h]⟩

end OStream

/-! ## Files and flushes -/

section Operations

variable [DecidableEq κ]

namespace Disk

/-- The file is there, and empty. -/
def create (d : Disk κ α) (path : κ) : Disk κ α :=
  { files := fun k => if k = path then some [] else d.files k, created := d.created ++ [path] }

/-- A text is appended to a file. -/
def append (d : Disk κ α) (path : κ) (s : List α) : Disk κ α :=
  { d with files := fun k => if k = path then (d.files k).map (· ++ s) else d.files k }

/-- The file is removed. -/
def erase (d : Disk κ α) (path : κ) : Disk κ α :=
  { d with files := fun k => if k = path then none else d.files k }

@[simp] theorem append_nil (d : Disk κ α) (path : κ) : d.append path [] = d := by
  have hf : (fun k => if k = path then (d.files k).map (· ++ []) else d.files k) = d.files := by
    funext k
    split <;> simp
  rw [append, hf]

theorem append_append (d : Disk κ α) (path : κ) (s t : List α) :
    (d.append path s).append path t = d.append path (s ++ t) := by
  simp only [append, Disk.mk.injEq, and_true]
  funext k
  by_cases hk : k = path
  · simp [hk, Function.comp_def]
  · simp [hk]

@[simp] theorem append_created (d : Disk κ α) (path : κ) (s : List α) :
    (d.append path s).created = d.created := rfl

theorem append_files (d : Disk κ α) (path : κ) (s : List α) :
    (d.append path s).files path = (d.files path).map (· ++ s) := if_pos rfl

theorem append_files_ne (d : Disk κ α) {k path : κ} (h : k ≠ path) (s : List α) :
    (d.append path s).files k = d.files k := if_neg h

@[simp] theorem create_files (d : Disk κ α) (path : κ) : (d.create path).files path = some [] :=
  if_pos rfl

theorem create_files_ne (d : Disk κ α) {k path : κ} (h : k ≠ path) :
    (d.create path).files k = d.files k := if_neg h

@[simp] theorem create_created (d : Disk κ α) (path : κ) :
    (d.create path).created = d.created ++ [path] := rfl

theorem erase_files_ne (d : Disk κ α) {k path : κ} (h : k ≠ path) :
    (d.erase path).files k = d.files k := if_neg h

@[simp] theorem erase_created (d : Disk κ α) (path : κ) : (d.erase path).created = d.created := rfl

end Disk

/-- A file is opened for writing: it is made empty, or the error bits are set. -/
def openOut (path : κ) (ok : Bool) : Exec ε (Disk κ α) (OStream κ α) := do
  if ok then modify fun d => d.create path
  pure { path := path, good := ok }

@[simp] theorem exec_openOut (path : κ) (ok : Bool) (d : Disk κ α) :
    exec (openOut path ok : Exec ε _ _) d =
      (.ok { path := path, good := ok }, if ok then d.create path else d) := by
  cases ok <;> rfl

/-- A file is opened for reading. -/
def openIn (path : κ) (ok : Bool) : Exec ε (Disk κ α) (IStream κ) := do
  let d ← get
  pure { path := path, isOpen := ok && (d.files path).isSome }

namespace OStream

/-- What is held back goes to the file. -/
def flush (o : Outcome) (st : OStream κ α) : Exec ε (Disk κ α) (OStream κ α) :=
  if st.good then do
    modify fun d => d.append st.path (o.taken st.buf)
    pure { st with good := o = .ok, buf := [] }
  else pure st

/-- The stream is closed; what it holds back goes to the file. -/
def close (o : Outcome) (st : OStream κ α) : Exec ε (Disk κ α) PUnit :=
  modify fun d => d.append st.path (o.taken st.buf)

/-- Texts, a line end and a flush. -/
def putLine (o : Nat → Outcome) (nl : α) (l : List (List α)) (st : OStream κ α) :
    Exec ε (Disk κ α) (OStream κ α) :=
  (st.insertAll o (l ++ [[nl]])).flush (o (l.length + 1))

/-- Lines, each flushed. -/
def putLines (o : Nat → Nat → Outcome) (nl : α) :
    List (List (List α)) → OStream κ α → Exec ε (Disk κ α) (OStream κ α)
  | [], st => pure st
  | l :: ls, st => do
    let st ← st.putLine (o 0) nl l
    putLines (fun i => o (i + 1)) nl ls st

end OStream

/-! ## What lines leave in a file -/

/-- Every operation of a line succeeds. -/
def LineOk (o : Nat → Outcome) (l : List (List α)) : Prop := ∀ k < l.length + 2, o k = .ok

/-- Every operation of some lines succeeds. -/
def LinesOk : (Nat → Nat → Outcome) → List (List (List α)) → Prop
  | _, [] => True
  | o, l :: ls => LineOk (o 0) l ∧ LinesOk (fun i => o (i + 1)) ls

/-- The text of lines. -/
def lineText (nl : α) (ls : List (List (List α))) : List α :=
  ls.flatMap fun l => l.flatten ++ [nl]

namespace OStream

variable {st : OStream κ α} {o : Nat → Outcome}

/-- A line whose operations all succeed reaches the file. -/
theorem exec_putLine_ok (hg : st.good = true) (hb : st.buf = []) {nl : α} {l : List (List α)}
    (h : LineOk o l) (d : Disk κ α) :
    exec (st.putLine o nl l : Exec ε _ _) d = (.ok st, d.append st.path (l.flatten ++ [nl])) := by
  have hi := insertAll_ok (o := o) hg (l ++ [[nl]]) fun k hk =>
    h k (by simp at hk; omega)
  have hst : ({ st with good := true, buf := [] } : OStream κ α) = st := by rw [← hg, ← hb]
  simp only [putLine, hi, flush, hg, if_true, exec_bind, exec_modify, exec_pure,
    h (l.length + 1) (by omega), Outcome.taken_ok, decide_true, hst]
  simp [hb]

/-- A line with an operation that fails does not. -/
theorem exec_putLine_short (hg : st.good = true) (hb : st.buf = []) {nl : α} {l : List (List α)}
    (h : ¬ LineOk o l) (d : Disk κ α) :
    ∃ st' x, exec (st.putLine o nl l : Exec ε _ _) d = (.ok st', d.append st.path x) ∧
      st'.path = st.path ∧ st'.good = false ∧
      (x ++ st'.buf).length < (l.flatten ++ [nl]).length := by
  by_cases hall : ∀ k < l.length + 1, o k = .ok
  · -- only the flush fails
    have hf : o (l.length + 1) ≠ .ok := fun hf => h fun k hk => by
      rcases Nat.lt_succ_iff_lt_or_eq.1 hk with hk | rfl
      · exact hall k hk
      · exact hf
    have hi := insertAll_ok (o := o) hg (l ++ [[nl]]) fun k hk =>
      hall k (by simp at hk; omega)
    have hne : l.flatten ++ [nl] ≠ [] := by simp
    refine ⟨{ st with good := false, buf := [] }, (o (l.length + 1)).taken (l.flatten ++ [nl]), ?_,
      rfl, rfl, ?_⟩
    · simp only [putLine, hi, flush, hg, if_true, exec_bind, exec_modify, exec_pure, hf,
        decide_false]
      simp [hb]
    · simpa using Outcome.length_taken_lt hf hne
  · obtain ⟨hbad, hlt⟩ := insertAll_short (o := o) hg (List.cons_ne_nil nl []) hall
    refine ⟨st.insertAll o (l ++ [[nl]]), [], ?_, insertAll_path _, hbad, ?_⟩
    · simp [putLine, flush, hbad]
    · simpa [hb] using hlt

theorem exec_putLine_of_bad (hg : st.good = false) (nl : α) (l : List (List α)) (d : Disk κ α) :
    exec (st.putLine o nl l : Exec ε _ _) d = (.ok st, d) := by
  simp [putLine, insertAll_of_bad hg, flush, hg]

theorem exec_putLines_of_bad {o : Nat → Nat → Outcome} (hg : st.good = false) (nl : α)
    (ls : List (List (List α))) (d : Disk κ α) :
    exec (st.putLines o nl ls : Exec ε _ _) d = (.ok st, d) := by
  induction ls generalizing o with
  | nil => rfl
  | cons l ls ih => rw [putLines, exec_bind_ok (exec_putLine_of_bad hg nl l d), ih]

/-- **Lines written to a stream** leave their text in the file if every operation succeeds, and
less than that otherwise. -/
theorem exec_putLines {o : Nat → Nat → Outcome} (hg : st.good = true) (hb : st.buf = []) (nl : α)
    (ls : List (List (List α))) (d : Disk κ α) :
    ∃ st' x, exec (st.putLines o nl ls : Exec ε _ _) d = (.ok st', d.append st.path x) ∧
      st'.path = st.path ∧
      (LinesOk o ls → x = lineText nl ls ∧ st'.buf = []) ∧
      (¬ LinesOk o ls → (x ++ st'.buf).length < (lineText nl ls).length) := by
  induction ls generalizing o d with
  | nil => exact ⟨st, [], by simp [putLines], rfl, fun _ => ⟨rfl, hb⟩, fun h => absurd trivial h⟩
  | cons l ls ih =>
    by_cases hl : LineOk (o 0) l
    · obtain ⟨st', x, hx, hp, hok, hshort⟩ :=
        ih (o := fun i => o (i + 1)) (d.append st.path (l.flatten ++ [nl]))
      refine ⟨st', (l.flatten ++ [nl]) ++ x, ?_, hp, fun h => ?_, fun h => ?_⟩
      · rw [putLines, exec_bind_ok (exec_putLine_ok hg hb hl d), hx, Disk.append_append]
      · obtain ⟨rfl, hbuf⟩ := hok h.2
        exact ⟨by simp [lineText], hbuf⟩
      · have hlt := hshort fun hls => h ⟨hl, hls⟩
        simp only [lineText, List.flatMap_cons, List.length_append] at hlt ⊢
        omega
    · obtain ⟨st', x, hx, hp, hbad, hlt⟩ := exec_putLine_short hg hb hl d
      refine ⟨st', x, ?_, hp, fun h => absurd h.1 hl, fun _ => ?_⟩
      · rw [putLines, exec_bind_ok hx, exec_putLines_of_bad hbad]
      · simp only [lineText, List.flatMap_cons, List.length_append] at hlt ⊢
        omega

end OStream

end Operations

end Foundations
