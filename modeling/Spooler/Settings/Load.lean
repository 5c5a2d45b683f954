import Spooler.Settings.Datapair
import Spooler.Text.Numbers

/-!
# The loaders of the settings

`load_cfg` reads a file of entries `key=value` word by word, and `load_specific` of the driver line
by line. Both ask for the end of the file between reading an entry and keeping it. **So all entries
of a text that ends with a newline are kept, and of any other all but the last one**,
`loadCfg_fileOf` and `loadSpecific_fileOf`; `loadCfg_faithful_iff` and `loadSpecific_faithful_iff`
say when no entry is missed for that.
-/

namespace Spooler.Settings

open Foundations Datapair

/-! ## `load_cfg` -/

/-- The loop of `load_cfg` over the pieces between blanks. The word that ends with the file is not
kept, and a file without another word ends the loop with an exception that is dropped. -/
def cfgLoop : List Str → Datapair → Except Excp Datapair
  | [], cfg => .ok cfg
  | [_], cfg => .ok cfg
  | word :: next :: words, cfg =>
    if word = [] then cfgLoop (next :: words) cfg
    else do
      let r ← fromRawData word cfg
      cfgLoop (next :: words) r.2

/-- `load_cfg(cfg, file)`; `none` is a file that does not exist. `main` ends with its exceptions,
and what was read by then with it. -/
def loadCfg (contents : Option Str) (file : Str) (cfg : Datapair) : Except Excp Datapair :=
  match contents with
  | none => .error (.spooler .spoolerExp
      ("Arquivo de configuracoes \"".toList ++ file ++ "\" nao encontrado!".toList))
  | some text => cfgLoop (text.splitOnP Str.isSpace) cfg

/-! ## `load_specific` -/

/-- The members of the driver that `load_specific` writes. -/
structure Specific where
  specific : Datapair
  ignorarPoucoPapel : Bool
  recFolder : Str

/-- `sizeof(buff)`. -/
def sizeBuff : ℕ := 2048

/-- `BEMATECH_IGNORAR_POUCO_PAPEL`, `BEMATECH_REC_FOLDER` and `BEMATECH_OUTPUT_PATH`. -/
def keyIgnorarPoucoPapel : Str := "ignorar_pouco_papel".toList
def keyRecFolder : Str := "diretorio_registro".toList
def outputPath : Str := "/tmp/".toList

/-- The loop of `load_specific` over the pieces between newlines, with the map it leaves; `none` is
a loop without end. The piece that ends with the file is not kept. A piece that does not fit into
the buffer sets `failbit`: nothing is read any more, and the end of the file is not reached. -/
def specificLoop : List Str → Datapair → Option (Except Excp Unit × Datapair)
  | [], d => some (.ok (), d)
  | [line], d => if line.length < sizeBuff then some (.ok (), d) else none
  | line :: next :: lines, d =>
    if line.length < sizeBuff then
      match fromRawData (Str.cstr line) d with
      | .ok r => specificLoop (next :: lines) r.2
      | .error e => some (.error e, d)
    else none

/-- What is set from the entries: a key that is missing ends it with an exception that is dropped,
the file being at its end. -/
def Specific.keep (s : Specific) (d : Datapair) : Specific :=
  match d.getValueByKey keyIgnorarPoucoPapel with
  | .error _ => { s with specific := d }
  | .ok ignorar =>
    match d.getValueByKey keyRecFolder with
    | .error _ => { s with specific := d, ignorarPoucoPapel := 0 < Str.atoi ignorar }
    | .ok folder => ⟨d, 0 < Str.atoi ignorar, Str.cstr folder⟩

/-- `load_specific()` with the file `m_cfg_file`, and the members it leaves. A line that is no entry
ends it with an exception, behind the entries read by then. -/
def loadSpecific (cfgFile : Str) (contents : Option Str) (s : Specific) :
    Option (Except Excp Unit × Specific) :=
  if cfgFile = [] then
    some (.ok (), { s with ignorarPoucoPapel := false, recFolder := outputPath })
  else match contents with
    | none => some (.error (.spooler .spoolerExp
        ("Configuracoes do driver (\"".toList ++ Str.cstr cfgFile ++
          "\") nao encontradas".toList)), s)
    | some text => (specificLoop (getlines text) .empty).map fun
      | (.ok _, d) => (.ok (), s.keep d)
      | (.error e, d) => (.error e, { s with specific := d })

theorem keep_specific (s : Specific) (d : Datapair) : (s.keep d).specific = d := by
  unfold Specific.keep
  split
  · rfl
  · split <;> rfl

/-! ## The text of a list of entries -/

/-- The entries one on a line; the last line may end with a newline. -/
def fileOf (es : List (Str × Str)) (newline : Bool) : Str :=
  if newline then unlines (es.map line) else ['\n'].intercalate (es.map line)

/-- An entry that can be written on a line. -/
structure Legible (e : Str × Str) : Prop where
  key_ne_nil : e.1 ≠ []
  delim : '=' ∉ e.1
  blanks : ∀ c ∈ line e, Str.isSpace c = false
  length : (line e).length < 2047

/-- The entries that are read before the end of the file. -/
def kept (es : List (Str × Str)) (newline : Bool) : List (Str × Str) :=
  if newline then es else es.dropLast

section Texts

variable {es : List (Str × Str)} {newline : Bool}

theorem mem_of_mem_kept {e : Str × Str} (he : e ∈ kept es newline) : e ∈ es := by
  unfold kept at he
  split at he
  · exact he
  · exact List.dropLast_subset _ he

theorem intercalate_append_singleton (ls : List Str) (l : Str) :
    ['\n'].intercalate (ls ++ [l]) = unlines ls ++ l := by
  induction ls with
  | nil => exact List.intercalate_singleton
  | cons k ls ih =>
    obtain ⟨q, qs, hq⟩ := List.exists_cons_of_ne_nil (List.append_ne_nil_of_right_ne_nil ls
      (List.cons_ne_nil l []))
    rw [List.cons_append, hq, List.intercalate_cons_cons, ← hq, ih, unlines]
    simp

/-- The text: lines with the entries that are kept, and what is read up to the end of the file. -/
theorem exists_fileOf (es : List (Str × Str)) (newline : Bool) :
    ∃ rest, fileOf es newline = unlines ((kept es newline).map line) ++ rest ∧
      (rest = [] ∨ ∃ e ∈ es, rest = line e) := by
  cases newline with
  | true => exact ⟨[], (List.append_nil _).symm, .inl rfl⟩
  | false =>
    rcases List.eq_nil_or_concat es with rfl | ⟨init, e, rfl⟩
    · exact ⟨[], rfl, .inl rfl⟩
    · refine ⟨line e, ?_, .inr ⟨e, by simp, rfl⟩⟩
      rw [List.concat_eq_append, fileOf, kept, if_neg Bool.false_ne_true, if_neg Bool.false_ne_true,
        List.map_append, List.dropLast_concat]
      exact intercalate_append_singleton _ _

/-! ## The loops -/

theorem cfgLoop_cons {w : Str} (hw : w ≠ []) {ws : List Str} (hws : ws ≠ []) (d : Datapair) :
    cfgLoop (w :: ws) d = fromRawData w d >>= fun r => cfgLoop ws r.2 := by
  obtain ⟨x, xs, rfl⟩ := List.exists_cons_of_ne_nil hws
  rw [cfgLoop, if_neg hw]

theorem specificLoop_cons {l : Str} (hl : l.length < sizeBuff) {ls : List Str} (hls : ls ≠ [])
    {d : Datapair} {r : ℕ × Datapair} (hr : fromRawData (Str.cstr l) d = .ok r) :
    specificLoop (l :: ls) d = specificLoop ls r.2 := by
  obtain ⟨x, xs, rfl⟩ := List.exists_cons_of_ne_nil hls
  rw [specificLoop, if_pos hl, hr]

theorem specificLoop_error {l : Str} (hl : l.length < sizeBuff) {ls : List Str} (hls : ls ≠ [])
    {d : Datapair} {e : Excp} (hr : fromRawData (Str.cstr l) d = .error e) :
    specificLoop (l :: ls) d = some (.error e, d) := by
  obtain ⟨x, xs, rfl⟩ := List.exists_cons_of_ne_nil hls
  rw [specificLoop, if_pos hl, hr]

/-- What `load_specific` reads of an entry: its buffer ends with the first NUL. -/
def entryRead (e : Str × Str) : Str × Str := (e.1, Str.cstr e.2)

/-- The entries in front of the first one whose key a NUL cuts. -/
def readable (es : List (Str × Str)) : List (Str × Str) := es.takeWhile fun e => '\x00' ∉ e.1

theorem fromRawData_cstr_line {e : Str × Str} (he : Legible e) (h0 : '\x00' ∉ e.1) (d : Datapair) :
    fromRawData (Str.cstr (line e)) d = .ok (d.assign (entryRead e).1 (entryRead e).2) := by
  have hcut : Str.cstr (line e) = line (entryRead e) := Str.cstr_append_of_notMem h0 _
  rw [hcut, fromRawData_line (e := entryRead e) he.delim]

/-- A key with a NUL loses the delimiter. -/
theorem fromRawData_cstr_cut {e : Str × Str} (he : Legible e) (h0 : '\x00' ∈ e.1) (d : Datapair) :
    fromRawData (Str.cstr (line e)) d = .error (.spooler .datapairExp invalidRawPair) := by
  have hcut : Str.cstr (line e) = Str.cstr e.1 := Str.cstr_append_of_mem h0 _
  rw [hcut, fromRawData_of_notMem fun h => he.delim ((Str.prefix_cstr _).subset h)]

theorem cfgLoop_lines (h : ∀ e ∈ es, Legible e) (rest : Str) (d : Datapair) :
    cfgLoop (es.map line ++ [rest]) d = .ok (readAll es d) := by
  induction es generalizing d with
  | nil => rfl
  | cons e es ih =>
    rw [List.forall_mem_cons] at h
    have hne : line e ≠ [] := by simp [line]
    rw [List.map_cons, List.cons_append, cfgLoop_cons hne (by simp), fromRawData_line h.1.delim]
    exact ih h.2 _

theorem specificLoop_lines (h : ∀ e ∈ es, Legible e) {rest : Str} (hrest : rest.length < sizeBuff)
    (d : Datapair) : ∃ r, specificLoop (es.map line ++ [rest]) d =
      some (r, readAll ((readable es).map entryRead) d) ∧
        ((∀ e ∈ es, '\x00' ∉ e.1) → r = .ok ()) := by
  induction es generalizing d with
  | nil => exact ⟨_, if_pos hrest, fun _ => rfl⟩
  | cons e es ih =>
    rw [List.forall_mem_cons] at h
    have hlen : (line e).length < sizeBuff := h.1.length.trans (by decide)
    rw [List.map_cons, List.cons_append]
    by_cases h0 : '\x00' ∈ e.1
    · have hnil : readable (e :: es) = [] := List.takeWhile_cons_of_neg (by simpa using h0)
      refine ⟨.error (.spooler .datapairExp invalidRawPair), ?_, fun hall =>
        absurd h0 (hall e List.mem_cons_self)⟩
      rw [specificLoop_error hlen (by simp) (fromRawData_cstr_cut h.1 h0 d), hnil]
      rfl
    · obtain ⟨r, hr, hok⟩ := ih h.2 (d.assign (entryRead e).1 (entryRead e).2).2
      have hcons : readable (e :: es) = e :: readable es :=
        List.takeWhile_cons_of_pos (by simpa using h0)
      refine ⟨r, ?_, fun hall => hok fun e' he' => hall e' (List.mem_cons_of_mem _ he')⟩
      rw [specificLoop_cons hlen (by simp) (fromRawData_cstr_line h.1 h0 d), hr, hcons]
      rfl

/-! ## The loaders -/

theorem Legible.notMem_newline {e : Str × Str} (h : Legible e) : '\n' ∉ line e :=
  fun hmem => absurd (h.blanks _ hmem) (by decide)

theorem splitOnP_unlines_append {ls : List Str} (h : ∀ l ∈ ls, ∀ c ∈ l, Str.isSpace c = false)
    (s : Str) : (unlines ls ++ s).splitOnP Str.isSpace = ls ++ s.splitOnP Str.isSpace := by
  induction ls with
  | nil => rfl
  | cons l ls ih =>
    rw [List.forall_mem_cons] at h
    rw [unlines, List.append_assoc, List.cons_append,
      List.splitOnP_append_cons_of_forall_mem h.1 '\n' rfl, ih h.2, List.cons_append]

variable (h : ∀ e ∈ es, Legible e)

include h

theorem legible_kept : ∀ e ∈ kept es newline, Legible e := fun e he => h e (mem_of_mem_kept he)

/-- **`load_cfg` keeps the entries in front of the end of the file.** -/
theorem loadCfg_fileOf (newline : Bool) (file : Str) :
    loadCfg (some (fileOf es newline)) file .empty = .ok (readAll (kept es newline) .empty) := by
  obtain ⟨rest, hfile, hrest⟩ := exists_fileOf es newline
  have hlines : ∀ l ∈ (kept es newline).map line, ∀ c ∈ l, Str.isSpace c = false := by
    intro l hl
    obtain ⟨e, he, rfl⟩ := List.mem_map.1 hl
    exact (legible_kept h e he).blanks
  have hblank : ∀ c ∈ rest, Str.isSpace c = false := by
    rcases hrest with rfl | ⟨e, he, rfl⟩
    · exact nofun
    · exact (h e he).blanks
  rw [loadCfg, hfile, splitOnP_unlines_append hlines, List.splitOnP_eq_singleton hblank]
  exact cfgLoop_lines (legible_kept h) rest .empty

/-- **`load_specific` keeps the same entries**, up to the first key with a NUL and with values up to
the first NUL. -/
theorem loadSpecific_fileOf (newline : Bool) {cfgFile : Str} (hfile : cfgFile ≠ [])
    (s : Specific) : ∃ r t, loadSpecific cfgFile (some (fileOf es newline)) s = some (r, t) ∧
      t.specific = readAll ((readable (kept es newline)).map entryRead) .empty ∧
        ((∀ e ∈ kept es newline, '\x00' ∉ e.1) → r = .ok ()) := by
  obtain ⟨rest, heq, hrest⟩ := exists_fileOf es newline
  have hlines : ∀ l ∈ (kept es newline).map line, '\n' ∉ l := by
    intro l hl
    obtain ⟨e, he, rfl⟩ := List.mem_map.1 hl
    exact (legible_kept h e he).notMem_newline
  have hshort : '\n' ∉ rest ∧ rest.length < sizeBuff := by
    rcases hrest with rfl | ⟨e, he, rfl⟩
    · exact ⟨List.not_mem_nil, by decide⟩
    · exact ⟨(h e he).notMem_newline, (h e he).length.trans (by decide)⟩
  obtain ⟨r, hr, hok⟩ := specificLoop_lines (legible_kept h) hshort.2 .empty
  rw [loadSpecific, if_neg hfile]
  simp only [heq, getlines_unlines_append hlines, getlines_of_notMem hshort.1]
  rw [hr]
  cases r with
  | ok _ => exact ⟨_, _, rfl, keep_specific s _, fun _ => rfl⟩
  | error e => exact ⟨_, _, rfl, rfl, fun hall => nomatch hok hall⟩

end Texts

/-! ## No entry is dropped -/

/-- Every key listed has the value of its last entry, and there is no other key. -/
def Faithful (es : List (Str × Str)) (d : Datapair) : Prop := ∀ k, d.lookup k = lastValue es k

/-- A last entry without a newline behind it has the key and the value of one in front of it, and
the key none with another value in between. -/
def LastRepeated (f : Str → Str) (es : List (Str × Str)) (newline : Bool) : Prop :=
  newline = false → ∀ e ∈ es.getLast?, ∃ v, lastValue es.dropLast e.1 = some v ∧ f v = e.2

/-- What keeps `load_specific` from missing an entry: besides, no NUL cuts a key, or the last value
of a key. -/
structure Unbroken (es : List (Str × Str)) (newline : Bool) : Prop where
  keys : ∀ e ∈ es, '\x00' ∉ e.1
  values : ∀ k v, lastValue es k = some v → '\x00' ∉ v
  last : LastRepeated Str.cstr es newline

section Faithful

variable {es : List (Str × Str)} {newline : Bool}

theorem map_eq_self_iff {f : Str → Str} {o : Option Str} :
    o.map f = o ↔ ∀ v, o = some v → f v = v := by
  cases o with
  | none => simp
  | some v => simp

/-- The entries in front of the last one have the last values of all the entries. -/
theorem lastValue_init_iff {f : Str → Str} (hf : ∀ v, f (f v) = f v) (init : List (Str × Str))
    (e : Str × Str) :
    (∀ k, (lastValue init k).map f = lastValue (init ++ [e]) k) ↔
      (∀ k v, lastValue (init ++ [e]) k = some v → f v = v) ∧
        ∃ v, lastValue init e.1 = some v ∧ f v = e.2 := by
  simp only [lastValue_append_singleton]
  constructor
  · intro h
    obtain ⟨v, hv, hve⟩ := Option.map_eq_some_iff.1 ((h e.1).trans (if_pos rfl))
    refine ⟨fun k w hw => ?_, v, hv, hve⟩
    by_cases hk : k = e.1
    · rw [if_pos hk, Option.some.injEq] at hw
      rw [← hw, ← hve, hf]
    · have hmapk := (h k).trans (if_neg hk)
      rw [if_neg hk] at hw
      exact map_eq_self_iff.1 hmapk w hw
  · rintro ⟨hvalues, v, hv, hve⟩ k
    by_cases hk : k = e.1
    · rw [if_pos hk, hk, hv, Option.map_some, hve]
    · rw [if_neg hk]
      refine map_eq_self_iff.2 fun w hw => hvalues k w ?_
      rwa [if_neg hk]

/-- The entries kept have the last values of all the entries. -/
theorem lastValue_kept_iff {f : Str → Str} (hf : ∀ v, f (f v) = f v) (es : List (Str × Str))
    (newline : Bool) :
    (∀ k, (lastValue (kept es newline) k).map f = lastValue es k) ↔
      (∀ k v, lastValue es k = some v → f v = v) ∧ LastRepeated f es newline := by
  cases newline with
  | true =>
    change (∀ k, (lastValue es k).map f = lastValue es k) ↔ _
    simp only [map_eq_self_iff, LastRepeated, Bool.true_eq_false, false_imp_iff, and_true]
  | false =>
    rcases List.eq_nil_or_concat es with rfl | ⟨init, e, rfl⟩
    · refine iff_of_true (fun k => rfl) ⟨fun k v h => ?_, fun _ e he => ?_⟩
      · cases h
      · cases he
    · rw [List.concat_eq_append]
      have hkept : kept (init ++ [e]) false = init := by
        rw [kept, if_neg Bool.false_ne_true, List.dropLast_concat]
      have hlast : LastRepeated f (init ++ [e]) false ↔
          ∃ v, lastValue init e.1 = some v ∧ f v = e.2 := by
        simp [LastRepeated]
      rw [hkept, hlast]
      exact lastValue_init_iff hf init e

/-- **`load_cfg` drops no entry** exactly when the text ends with a newline or the last entry is
repeated. -/
theorem loadCfg_faithful_iff (h : ∀ e ∈ es, Legible e) (newline : Bool) (file : Str) :
    (∃ d, loadCfg (some (fileOf es newline)) file .empty = .ok d ∧ Faithful es d) ↔
      LastRepeated id es newline := by
  have hiff := lastValue_kept_iff (f := id) (fun _ => rfl) es newline
  have hmap : ∀ k, (lastValue (kept es newline) k).map id =
      (readAll (kept es newline) .empty).lookup k := by
    intro k
    rw [Option.map_id, id, lookup_readAll]
  rw [loadCfg_fileOf h]
  constructor
  · rintro ⟨d, hd, hfaith⟩
    obtain rfl := Except.ok.inj hd
    exact (hiff.1 fun k => (hmap k).trans (hfaith k)).2
  · intro hlast
    exact ⟨_, rfl, fun k => (hmap k).symm.trans (hiff.2 ⟨fun _ _ _ => rfl, hlast⟩ k)⟩

/-- A key that is found was not cut. -/
theorem Faithful.keys (h : Faithful es (readAll ((readable (kept es newline)).map entryRead)
    .empty)) : ∀ e ∈ es, '\x00' ∉ e.1 := by
  intro e he
  obtain ⟨v, hv⟩ := exists_lastValue he
  rw [← h e.1, lookup_readAll] at hv
  obtain ⟨p, hp, heq⟩ := exists_of_lastValue hv
  obtain ⟨q, hq, rfl⟩ := List.mem_map.1 hp
  rw [← heq]
  simpa [entryRead] using List.mem_takeWhile_imp hq

/-- What is read of entries with whole keys. -/
theorem lookup_entryRead (h : ∀ e ∈ es, '\x00' ∉ e.1) (k : Str) :
    (readAll ((readable (kept es newline)).map entryRead) .empty).lookup k =
      (lastValue (kept es newline) k).map Str.cstr := by
  have hall : readable (kept es newline) = kept es newline :=
    List.takeWhile_eq_self_iff.2 fun e he => by simpa using h e (mem_of_mem_kept he)
  have hread : (kept es newline).map entryRead =
      (kept es newline).map fun e => (e.1, Str.cstr e.2) := rfl
  rw [hall, lookup_readAll, hread, lastValue_map]

/-- **`load_specific` drops no entry**, and changes none, exactly when no NUL cuts an entry and,
again, the text ends with a newline or the last entry is repeated. -/
theorem loadSpecific_faithful_iff (h : ∀ e ∈ es, Legible e) (newline : Bool) {cfgFile : Str}
    (hfile : cfgFile ≠ []) (s : Specific) :
    (∃ r t, loadSpecific cfgFile (some (fileOf es newline)) s = some (r, t) ∧
      Faithful es t.specific) ↔ Unbroken es newline := by
  have hcstr : ∀ v, Str.cstr (Str.cstr v) = Str.cstr v :=
    fun v => Str.cstr_eq_self (Str.notMem_cstr v)
  have hiff := lastValue_kept_iff hcstr es newline
  obtain ⟨r, t, hload, hspecific, -⟩ := loadSpecific_fileOf h newline hfile s
  constructor
  · rintro ⟨r', t', ht, hfaith⟩
    obtain ⟨rfl, rfl⟩ := Prod.mk.inj (Option.some.inj (hload.symm.trans ht))
    rw [hspecific] at hfaith
    have hkeys := hfaith.keys
    obtain ⟨hvalues, hlast⟩ := hiff.1 fun k => (lookup_entryRead hkeys k).symm.trans (hfaith k)
    exact ⟨hkeys, fun k v hv => hvalues k v hv ▸ Str.notMem_cstr v, hlast⟩
  · intro hun
    refine ⟨r, t, hload, fun k => ?_⟩
    rw [hspecific, lookup_entryRead hun.keys]
    exact hiff.2 ⟨fun k v hv => Str.cstr_eq_self (hun.values k v hv), hun.last⟩ k

/-- **What the two loaders leave of a list of entries.** -/
theorem loaders_faithful_iff (h : ∀ e ∈ es, Legible e) (newline : Bool) (file : Str)
    {cfgFile : Str} (hfile : cfgFile ≠ []) (s : Specific) :
    ((∃ d, loadCfg (some (fileOf es newline)) file .empty = .ok d ∧ Faithful es d) ↔
      LastRepeated id es newline) ∧
    ((∃ r t, loadSpecific cfgFile (some (fileOf es newline)) s = some (r, t) ∧
      Faithful es t.specific) ↔ Unbroken es newline) :=
  ⟨loadCfg_faithful_iff h newline file, loadSpecific_faithful_iff h newline hfile s⟩

/-- `ecf=BEMATECH`. -/
def oneEntry : List (Str × Str) := [("ecf".toList, "BEMATECH".toList)]

theorem legible_oneEntry : ∀ e ∈ oneEntry, Legible e := by
  intro e he
  rw [List.mem_singleton.1 he]
  refine ⟨by decide, by decide, fun c hc => ?_, by decide⟩
  have hno := List.any_eq_false.1 (by decide :
    (line ("ecf".toList, "BEMATECH".toList)).any Str.isSpace = false) c hc
  exact Bool.eq_false_iff.2 hno

/-- With a newline at its end the entry is kept. -/
theorem loaders_newline :
    (∃ d, loadCfg (some (fileOf oneEntry true)) "spooler.cfg".toList .empty = .ok d ∧
      Faithful oneEntry d) ∧
    ∃ r t, loadSpecific "ecf.cfg".toList (some (fileOf oneEntry true)) ⟨.empty, false, []⟩ =
      some (r, t) ∧ Faithful oneEntry t.specific := by
  obtain ⟨hcfg, hspecific⟩ := loaders_faithful_iff legible_oneEntry true "spooler.cfg".toList
    (show "ecf.cfg".toList ≠ [] by decide) ⟨.empty, false, []⟩
  refine ⟨hcfg.2 nofun, hspecific.2 ⟨by decide, fun k v hv => ?_, nofun⟩⟩
  have hone := lastValue_append_singleton [] ("ecf".toList, "BEMATECH".toList) k
  replace hv := hone.symm.trans hv
  split_ifs at hv
  · obtain rfl := Option.some.inj hv
    decide
  · cases hv

/-- Without one it is dropped by both. -/
theorem loaders_noNewline :
    (¬ ∃ d, loadCfg (some (fileOf oneEntry false)) "spooler.cfg".toList .empty = .ok d ∧
      Faithful oneEntry d) ∧
    ¬ ∃ r t, loadSpecific "ecf.cfg".toList (some (fileOf oneEntry false)) ⟨.empty, false, []⟩ =
      some (r, t) ∧ Faithful oneEntry t.specific := by
  rw [loadCfg_faithful_iff legible_oneEntry,
    loadSpecific_faithful_iff legible_oneEntry _ (by decide)]
  constructor
  · intro h
    obtain ⟨v, hv, -⟩ := h rfl _ rfl
    cases hv
  · intro h
    obtain ⟨v, hv, -⟩ := h.last rfl _ rfl
    cases hv

end Faithful

end Spooler.Settings
