import Spooler.Writer.Serializer

/-!
# The names of the response files

`serializer` makes the names of its files from the path of the command file: the first `arqcmd` in
the whole path becomes `arqret`, or `_rqret` for the temporary file. **For the command files of a
directory these are the files that are meant, beside the command file, exactly when the path of the
directory does not contain `arqcmd` itself**, `named_iff`.
-/

namespace Spooler

open Foundations

namespace Serializer

/-- The prefix of command files. -/
def cmdName : Str := "arqcmd".toList

/-- What is meant by the response file, the temporary one and the lock file of the command file
`arqcmd` with the suffix `s`. -/
def rspFile (dir s : Str) : Str := dir ++ rspName ++ s
def tmpFile (dir s : Str) : Str := dir ++ tmpName ++ s
def lckFile (dir s : Str) : Str := rspFile dir s ++ lckSuffix

/-- The file lies in the directory. -/
def InDir (dir file : Str) : Prop := ∃ name, '/' ∉ name ∧ file = dir ++ name

/-- All operations on the files of a call succeed. -/
structure Outcomes.Fine (o : Outcomes) (lines : List Line) : Prop where
  openTmp : o.openTmp = true
  out : LinesOk o.out lines
  openIn : o.openIn = true
  openOut : o.openOut = true
  copy : o.copy = .ok
  closeOut : o.closeOut = .ok
  unlinkTmp : o.unlinkTmp = none
  openLck : o.openLck = true

section Calls

variable (o : Outcomes) (indeterminate : PacketType) {path : Str} (pkt : ResponsePacket)
  (files : Str → Option Str)

/-- **The files of a call**: no other one is created or changed, and all of them are created, with
the response in its file, when nothing goes wrong. -/
theorem call_files {pos : ℕ} (hpos : Str.find cmdName path = some pos) {tmp rsp : Str}
    (htmp : path.replace pos 6 tmpName = tmp) (hrsp : path.replace pos 6 rspName = rsp) :
    (∀ k ∈ (call o indeterminate path pkt files).2.created,
      k = tmp ∨ k = rsp ∨ k = rsp ++ lckSuffix) ∧
    (∀ k, k ≠ tmp → k ≠ rsp → k ≠ rsp ++ lckSuffix →
      (call o indeterminate path pkt files).2.files k = files k) ∧
    (o.Fine (TxtWriter.writePacket indeterminate pkt) →
      (call o indeterminate path pkt files).2.created = [tmp, rsp, rsp ++ lckSuffix] ∧
      (call o indeterminate path pkt files).2.files rsp =
        some (TxtWriter.text (TxtWriter.writePacket indeterminate pkt))) := by
  obtain ⟨htr, hlr, hlt⟩ := names_ne path pos
  have hcall := call_eq_body o indeterminate pkt files hpos
  rw [htmp, hrsp] at htr hlt
  rw [hrsp] at hlr
  simp only [htmp, hrsp] at hcall
  have hne : TxtWriter.text (TxtWriter.writePacket indeterminate pkt) ≠ [] := text_ne_nil
  generalize TxtWriter.writePacket indeterminate pkt = lines at *
  obtain ⟨d, hd, hcreated, hothers, hnone, hwhole⟩ := exec_upToUnlink o files htr hne
  rw [exec_tryCatch, ← bind_assoc, exec_bind_ok hd] at hcall
  by_cases hu : UnlinkFails o files tmp
  · obtain ⟨e, he⟩ := exec_sysUnlink_fails o files hnone hu
    rw [exec_bind_error he] at hcall
    simp only [exec_throw] at hcall
    rw [hcall]
    refine ⟨fun k hk => ?_, fun k ht hr _ => hothers k ht hr, fun hfine => ?_⟩
    · exact (eq_of_mem_opened o (hcreated ▸ hk)).imp_right .inl
    · rcases hu with hu | ⟨hu, -⟩
      · exact absurd hfine.unlinkTmp hu
      · cases hfine.openTmp.symm.trans hu
  · obtain ⟨d', hd', hf', hc'⟩ := exec_writeLck o (rsp ++ lckSuffix) (d.erase tmp)
    rw [exec_bind_ok (exec_sysUnlink_ok o files hnone hu), hd'] at hcall
    rw [hcall]
    refine ⟨fun k hk => ?_, fun k ht hr hl => ?_, fun hfine => ?_⟩
    · rw [hc', Disk.erase_created, hcreated, List.mem_append] at hk
      rcases hk with hk | hk
      · exact (eq_of_mem_opened o hk).imp_right .inl
      · split at hk
        · exact .inr (.inr (List.mem_singleton.1 hk))
        · cases hk
    · rw [hf' k hl, Disk.erase_files_ne d ht, hothers k ht hr]
    · constructor
      · rw [hc', Disk.erase_created, hcreated, opened, hfine.openTmp, hfine.openOut, hfine.openLck]
        rfl
      · rw [hf' rsp hlr.symm, Disk.erase_files_ne d htr.symm, hwhole, CopiesWhole,
          if_pos hfine.openOut, if_pos hfine.openTmp]
        exact ⟨hfine.openIn, hfine.out, hfine.copy, hfine.closeOut⟩

end Calls

/-- The command file with the suffix `s` has the files that are meant: whatever goes wrong, no other
file is created or changed, they lie in the directory, and when nothing goes wrong all three are
created, the response being in the second. -/
structure Named (dir s : Str) : Prop where
  created : ∀ o indeterminate pkt files,
    ∀ k ∈ (call o indeterminate (dir ++ cmdName ++ s) pkt files).2.created,
      k = tmpFile dir s ∨ k = rspFile dir s ∨ k = lckFile dir s
  inDir : InDir dir (tmpFile dir s) ∧ InDir dir (rspFile dir s) ∧ InDir dir (lckFile dir s)
  others : ∀ o indeterminate pkt files k,
    k ≠ tmpFile dir s → k ≠ rspFile dir s → k ≠ lckFile dir s →
      (call o indeterminate (dir ++ cmdName ++ s) pkt files).2.files k = files k
  whole : ∀ o indeterminate pkt files,
    Outcomes.Fine o (TxtWriter.writePacket indeterminate pkt) →
      (call o indeterminate (dir ++ cmdName ++ s) pkt files).2.created =
        [tmpFile dir s, rspFile dir s, lckFile dir s] ∧
      (call o indeterminate (dir ++ cmdName ++ s) pkt files).2.files (rspFile dir s) =
        some (TxtWriter.text (TxtWriter.writePacket indeterminate pkt))

section Names

variable {dir s : Str}

theorem replace_append (a b s t : Str) :
    (a ++ b ++ s).replace a.length b.length t = a ++ t ++ s := by
  rw [Str.replace, List.append_assoc a b s, List.take_left' rfl, ← List.append_assoc,
    List.drop_left' List.length_append]

/-- The prefix is found behind a directory that does not contain it. -/
theorem find_cmdName (hdir : dir.getLast? = some '/') (h : ¬ cmdName <:+: dir) (s : Str) :
    Str.find cmdName (dir ++ cmdName ++ s) = some dir.length := by
  obtain ⟨d, rfl⟩ := List.getLast?_eq_some_iff.1 hdir
  have hslash : '/' ∉ cmdName := by decide
  have hd : ¬ cmdName <:+: d := fun hinf => h (hinf.trans (List.prefix_append d ['/']).isInfix)
  rw [List.append_assoc, List.append_assoc, List.length_append]
  exact Str.find_behind hslash (by decide) hd s

/-- Otherwise it is found in the directory. -/
theorem exists_find_cmdName (h : cmdName <:+: dir) : ∃ a r, dir = a ++ cmdName ++ r ∧
    ∀ s, dir ++ cmdName ++ s = a ++ cmdName ++ (r ++ cmdName ++ s) ∧
      Str.find cmdName (a ++ cmdName ++ (r ++ cmdName ++ s)) = some a.length := by
  cases hf : Str.find cmdName dir with
  | none => exact absurd h (Str.not_infix_of_find hf)
  | some i =>
    obtain ⟨r, hr⟩ := Str.find_eq_some hf
    have hi : i ≤ dir.length := by
      have hlen := congrArg List.length hr
      rw [List.length_append, List.length_drop] at hlen
      have : cmdName.length = 6 := rfl
      omega
    have hdir : dir = dir.take i ++ cmdName ++ r := by
      rw [List.append_assoc, hr, List.take_append_drop]
    have hpath : ∀ s, dir ++ cmdName ++ s =
        dir.take i ++ cmdName ++ (r ++ cmdName ++ s) := by
      intro s
      calc dir ++ cmdName ++ s = dir.take i ++ cmdName ++ r ++ cmdName ++ s := by rw [← hdir]
        _ = _ := by simp only [List.append_assoc]
    refine ⟨dir.take i, r, hdir, fun s => ⟨hpath s, ?_⟩⟩
    rw [← hpath, List.append_assoc, Str.find_append hf, List.length_take_of_le hi]

/-- The files of a command file in a directory without the prefix. -/
theorem named_of_not_infix (hdir : dir.getLast? = some '/') (h : ¬ cmdName <:+: dir)
    (hs : '/' ∉ s) : Named dir s := by
  have hpos := find_cmdName hdir h s
  have hrep := replace_append dir cmdName s
  have hfiles := fun o ind pkt files =>
    call_files o ind pkt files hpos (hrep tmpName) (hrep rspName)
  have hname : ∀ t : Str, '/' ∉ t → '/' ∉ t ++ s := fun t ht hmem =>
    (List.mem_append.1 hmem).elim ht hs
  have hrsp := hname rspName (by decide)
  refine ⟨fun o ind pkt files => (hfiles o ind pkt files).1, ⟨?_, ?_, ?_⟩,
    fun o ind pkt files => (hfiles o ind pkt files).2.1,
    fun o ind pkt files => (hfiles o ind pkt files).2.2⟩
  · exact ⟨tmpName ++ s, hname tmpName (by decide), List.append_assoc _ _ _⟩
  · exact ⟨rspName ++ s, hrsp, List.append_assoc _ _ _⟩
  · refine ⟨rspName ++ s ++ lckSuffix, fun hmem => ?_, ?_⟩
    · exact (List.mem_append.1 hmem).elim hrsp (by decide)
    · rw [lckFile, rspFile, List.append_assoc dir, List.append_assoc dir]

/-- Nothing goes wrong. -/
def semFalhas : Outcomes := { discoCheio with copy := .ok }

theorem linesOk_semFalhas (lines : List Line) : LinesOk semFalhas.out lines := by
  induction lines with
  | nil => trivial
  | cons l ls ih => exact ⟨fun _ _ => rfl, ih⟩

theorem fine_semFalhas (lines : List Line) : semFalhas.Fine lines :=
  ⟨rfl, linesOk_semFalhas lines, rfl, rfl, rfl, rfl, rfl, rfl⟩

/-- In a directory with the prefix the directory is what is replaced. -/
theorem not_named_of_infix (h : cmdName <:+: dir) (s : Str) : ¬ Named dir s := by
  intro hnamed
  obtain ⟨a, r, rfl, hfind⟩ := exists_find_cmdName h
  obtain ⟨hpath, hpos⟩ := hfind s
  obtain ⟨-, -, hfiles⟩ := call_files semFalhas .notTyped { type := some .tpReset } (fun _ => none)
    hpos (replace_append a cmdName _ tmpName) (replace_append a cmdName _ rspName)
  have hwhole := (hnamed.whole semFalhas .notTyped { type := some .tpReset } (fun _ => none)
    (fine_semFalhas _)).1
  rw [hpath, (hfiles (fine_semFalhas _)).1] at hwhole
  have hrsp := (List.cons.inj (List.cons.inj hwhole).2).1
  simp only [rspFile, List.append_assoc] at hrsp
  have hname := (List.append_inj (List.append_cancel_left hrsp) rfl).1
  exact absurd hname (by decide)

/-- Different suffixes, different response files. -/
theorem rspPath_injective (hdir : dir.getLast? = some '/') {s' : Str}
    (h : rspPath (dir ++ cmdName ++ s) = rspPath (dir ++ cmdName ++ s')) : s = s' := by
  by_cases hinf : cmdName <:+: dir
  · obtain ⟨a, r, rfl, hfind⟩ := exists_find_cmdName hinf
    have hrsp : ∀ s, rspPath (a ++ cmdName ++ r ++ cmdName ++ s) =
        some (a ++ rspName ++ (r ++ cmdName ++ s)) := by
      intro s
      obtain ⟨hpath, hpos⟩ := hfind s
      rw [rspPath, hpath, ← cmdName, hpos, Option.map_some]
      exact congrArg some (replace_append a cmdName _ rspName)
    rw [hrsp, hrsp] at h
    exact List.append_cancel_left (List.append_cancel_left (Option.some.inj h))
  · have hrsp : ∀ s, rspPath (dir ++ cmdName ++ s) = some (rspFile dir s) := by
      intro s
      rw [rspPath, ← cmdName, find_cmdName hdir hinf s, Option.map_some]
      exact congrArg some (replace_append dir cmdName s rspName)
    rw [hrsp, hrsp] at h
    exact List.append_cancel_left (Option.some.inj h)

/-- **The files of the command files of a directory** are those that are meant, and are not shared,
exactly when the path of the directory does not contain the prefix of command files. -/
theorem named_iff (hdir : dir.getLast? = some '/') :
    ((∀ s, '/' ∉ s → Named dir s) ∧ ∀ s s', '/' ∉ s → '/' ∉ s' →
      rspPath (dir ++ cmdName ++ s) = rspPath (dir ++ cmdName ++ s') → s = s') ↔
    ¬ cmdName <:+: dir := by
  constructor
  · rintro ⟨hnamed, -⟩ hinf
    exact not_named_of_infix hinf [] (hnamed [] List.not_mem_nil)
  · intro hno
    exact ⟨fun s hs => named_of_not_infix hdir hno hs, fun s s' _ _ => rspPath_injective hdir⟩

/-- The command files of a directory of the spooler. -/
theorem named_spool : Named "/var/spool/ecf/".toList ".1".toList :=
  ((named_iff (by decide)).2 (by decide)).1 _ (by decide)

/-- The command files of a directory that is named like one. -/
theorem not_named_arqcmd : ¬ ((∀ s, '/' ∉ s → Named "/var/arqcmd/".toList s) ∧
    ∀ s s', '/' ∉ s → '/' ∉ s' → rspPath ("/var/arqcmd/".toList ++ cmdName ++ s) =
      rspPath ("/var/arqcmd/".toList ++ cmdName ++ s') → s = s') := by
  rintro ⟨hnamed, -⟩
  exact not_named_of_infix (by decide) ".1".toList (hnamed _ (by decide))

end Names

end Serializer

end Spooler
