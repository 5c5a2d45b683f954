import Spooler.Foundations.Streams
import Spooler.Packet.Excp
import Spooler.Writer.TxtWriter

/-!
# Writing the response file

`serializer` (`main.cc`): the text of the response goes to a temporary file, which is copied to the
response file and removed, and then the lock file is created that tells the client to read the
response. The streams have no exception mask, so of all the operations only the `unlink` of a
temporary file that is not there is noticed.

**`signals_iff_faithful`**: the lock file is created for complete responses only, and everything
else is reported by an exception, exactly when that `unlink` fails, or every operation that the
response depends on succeeds together with the opening of the lock file.
-/

namespace Spooler

open Foundations

/-- The files that the spooler writes. -/
abbrev Dir := Disk Str Char

/-- `s.replace(pos, n, t)`. -/
def Str.replace (s : Str) (pos n : Nat) (t : Str) : Str := s.take pos ++ t ++ s.drop (pos + n)

theorem Str.length_replace (s : Str) (pos n : Nat) {t u : Str} (h : t.length = u.length) :
    (s.replace pos n t).length = (s.replace pos n u).length := by
  simp [replace, h]

theorem Str.replace_inj {s : Str} {pos n : Nat} {t u : Str}
    (h : s.replace pos n t = s.replace pos n u) : t = u :=
  List.append_cancel_left (List.append_cancel_right h)

namespace Serializer

/-- How the file operations of one call go. -/
structure Outcomes where
  openTmp : Bool
  /-- The insertions and the flush of each line of `write_packet`. -/
  out : Nat → Nat → Outcome
  closeTmp : Outcome
  openIn : Bool
  openOut : Bool
  copy : Outcome
  closeOut : Outcome
  /-- The message of the error that `unlink` returns, if any. -/
  unlinkTmp : Option Str
  openLck : Bool
  writeLck : Outcome
  closeLck : Outcome

def rspName : Str := "arqret".toList

def tmpName : Str := "_rqret".toList

def lckSuffix : Str := ".lck".toList

variable (o : Outcomes)

/-- `fs::copy_file`. -/
def copyFile (orig dest : Str) : Exec Excp Dir PUnit := do
  let inp ← openIn orig o.openIn
  let out ← openOut dest o.openOut
  let out ← out.insertFrom o.copy inp
  out.close o.closeOut

/-- `fs::sys_unlink`. -/
def sysUnlink (path : Str) : Exec Excp Dir PUnit := do
  let d ← get
  match o.unlinkTmp, d.files path with
  | none, some _ => set (d.erase path)
  | none, none =>
    throw (.spooler .fsExp "Falha ao encontrar arquivo, ou link e uma string vazia".toList)
  | some what, _ => throw (.spooler .fsExp what)

/-- The packet is written to the temporary file. -/
def writeTmp (lines : List Line) (tmp : Str) : Exec Excp Dir PUnit := do
  let out ← openOut tmp o.openTmp
  let out ← out.putLines o.out '\n' lines
  out.close o.closeTmp

/-- The lock file is created. -/
def writeLck (lck : Str) : Exec Excp Dir PUnit := do
  let out ← openOut lck o.openLck
  (out.insert o.writeLck []).close o.closeLck

/-- `serializer`. -/
def serializer (indeterminate : PacketType) (path : Str) (pkt : ResponsePacket) :
    Exec Excp Dir PUnit :=
  match Str.find "arqcmd".toList path with
  | some pos =>
    let rsp := path.replace pos 6 rspName
    let tmp := path.replace pos 6 tmpName
    tryCatch
      (do
        writeTmp o (TxtWriter.writePacket indeterminate pkt) tmp
        copyFile o tmp rsp
        sysUnlink o tmp
        writeLck o (rsp ++ lckSuffix))
      (fun _ => throw (.spooler .spoolerExp "Erro ao gravar arquivo de retorno.".toList))
  | none =>
    throw (.spooler .spoolerExp "Erro ao definir nome do arquivo de retorno.".toList)

/-! ## The single steps -/

/-- What a copy of contents leaves in a file that could be opened. -/
def copied (s : Str) : Str := o.closeOut.taken (o.copy.taken s)

theorem text_eq_lineText (lines : List Line) : TxtWriter.text lines = lineText '\n' lines := by
  induction lines with
  | nil => rfl
  | cons l ls ih =>
    simp only [TxtWriter.text, lineText, List.map_cons, unlines, List.flatMap_cons] at ih ⊢
    rw [ih, List.append_assoc, List.singleton_append]

/-- What `write_packet` leaves in the temporary file. -/
theorem exec_writeTmp (lines : List Line) (tmp : Str) (d : Dir) :
    ∃ d' : Dir, exec (writeTmp o lines tmp) d = (.ok ⟨⟩, d') ∧
      (∀ k, k ≠ tmp → d'.files k = d.files k) ∧
      d'.created = d.created ++ (if o.openTmp then [tmp] else []) ∧
      (o.openTmp = false → d'.files tmp = d.files tmp) ∧
      (o.openTmp = true → ∃ s, d'.files tmp = some s ∧
        (LinesOk o.out lines → s = TxtWriter.text lines) ∧
        (¬ LinesOk o.out lines → s.length < (TxtWriter.text lines).length)) := by
  cases ho : o.openTmp with
  | false =>
    refine ⟨d, ?_, fun _ _ => rfl, by simp, fun _ => rfl, by simp⟩
    simp [writeTmp, ho, exec_bind, OStream.exec_putLines_of_bad, OStream.close]
  | true =>
    have hgood : ({ path := tmp, good := true } : OStream Str Char).good = true := rfl
    obtain ⟨st, x, hx, hp, hok, hshort⟩ := OStream.exec_putLines (ε := Excp) (o := o.out) hgood rfl
      '\n' lines (d.create tmp)
    refine ⟨((d.create tmp).append tmp x).append tmp (o.closeTmp.taken st.buf), ?_, ?_, ?_,
      by simp, fun _ => ⟨x ++ o.closeTmp.taken st.buf, ?_, ?_, ?_⟩⟩
    · simp [writeTmp, ho, exec_bind, hx, OStream.close, hp]
    · intro k hk
      rw [Disk.append_files_ne _ hk, Disk.append_files_ne _ hk, Disk.create_files_ne _ hk]
    · simp
    · simp [Disk.append_files]
    · intro h
      obtain ⟨rfl, hbuf⟩ := hok h
      rw [hbuf, Outcome.taken_nil, List.append_nil, text_eq_lineText]
    · intro h
      have hlt := hshort h
      have hle := Outcome.length_taken_le o.closeTmp st.buf
      rw [text_eq_lineText]
      simp only [List.length_append] at hlt ⊢
      omega

/-- What `copy_file` leaves in its destination. -/
theorem exec_copyFile {orig dest : Str} (hne : orig ≠ dest) (d : Dir) :
    ∃ d' : Dir, exec (copyFile o orig dest) d = (.ok ⟨⟩, d') ∧
      (∀ k, k ≠ dest → d'.files k = d.files k) ∧
      d'.created = d.created ++ (if o.openOut then [dest] else []) ∧
      d'.files dest = if o.openOut then
        some (copied o (if o.openIn then (d.files orig).getD [] else [])) else d.files dest := by
  set inp : IStream Str := { path := orig, isOpen := o.openIn && (d.files orig).isSome } with hinp
  have hin : exec (openIn orig o.openIn : Exec Excp Dir _) d = (.ok inp, d) := rfl
  rw [copyFile, exec_bind_ok hin]
  cases ho : o.openOut with
  | false =>
    refine ⟨d, ?_, fun _ _ => rfl, by simp, by simp⟩
    simp [exec_bind, OStream.exec_insertFrom_of_bad, OStream.close]
  | true =>
    have hgood : ({ path := dest, good := true } : OStream Str Char).good = true := rfl
    obtain ⟨g, hg⟩ := OStream.exec_insertFrom (ε := Excp) hgood rfl o.copy inp (d.create dest)
    refine ⟨(d.create dest).append dest
      (copied o (if o.openIn then (d.files orig).getD [] else [])), ?_, ?_, by simp, ?_⟩
    · have hc : (d.create dest).contents inp =
          if o.openIn then (d.files orig).getD [] else [] := by
        rw [Disk.contents, hinp, Disk.create_files_ne d hne]
        rcases o.openIn with _ | _ <;> rcases d.files orig with _ | s <;> rfl
      simp [exec_bind, hg, OStream.close, copied, hc]
    · intro k hk
      rw [Disk.append_files_ne _ hk, Disk.create_files_ne _ hk]
    · simp [Disk.append_files]

/-- The lock file is created when it can be opened. -/
theorem exec_writeLck (lck : Str) (d : Dir) :
    ∃ d' : Dir, exec (writeLck o lck) d = (.ok ⟨⟩, d') ∧
      (∀ k, k ≠ lck → d'.files k = d.files k) ∧
      d'.created = d.created ++ (if o.openLck then [lck] else []) := by
  cases ho : o.openLck with
  | false =>
    refine ⟨d, ?_, fun _ _ => rfl, by simp⟩
    simp [writeLck, ho, exec_bind, OStream.insert, OStream.close]
  | true =>
    refine ⟨d.create lck, ?_, fun k hk => Disk.create_files_ne d hk, by simp⟩
    simp [writeLck, ho, exec_bind, OStream.insert, OStream.close]

/-! ## What the lock file says -/

variable (indeterminate : PacketType) (path : Str) (pkt : ResponsePacket)
  (files : Str → Option Str)

/-- The response file of a command file, and the temporary one. -/
def rspPath : Option Str :=
  (Str.find "arqcmd".toList path).map fun pos => path.replace pos 6 rspName

def tmpPath : Option Str :=
  (Str.find "arqcmd".toList path).map fun pos => path.replace pos 6 tmpName

/-- One call, with nothing created so far. -/
def call : Except Excp PUnit × Dir :=
  exec (serializer o indeterminate path pkt) { files := files }

/-- The lock file of the response was created. -/
def LockCreated (d : Dir) : Prop := ∃ rsp ∈ rspPath path, rsp ++ lckSuffix ∈ d.created

/-- The response file holds the whole response. -/
def ResponseWhole (d : Dir) : Prop :=
  ∃ rsp ∈ rspPath path,
    d.files rsp = some (TxtWriter.text (TxtWriter.writePacket indeterminate pkt))

/-- With the lock file comes the whole response, without it an exception. -/
def Signals : Prop :=
  (LockCreated path (call o indeterminate path pkt files).2 →
    ResponseWhole indeterminate path pkt (call o indeterminate path pkt files).2) ∧
  (¬ LockCreated path (call o indeterminate path pkt files).2 →
    ∃ what, (call o indeterminate path pkt files).1 = .error (.spooler .spoolerExp what))

/-- The `unlink` of the temporary file fails: of itself, or because the file is not there. -/
def UnlinkFails (tmp : Str) : Prop :=
  o.unlinkTmp ≠ none ∨ (o.openTmp = false ∧ files tmp = none)

/-- All that the contents of the response file depend on goes well, or the file holds the response
from before. -/
def CopiesWhole (lines : List Line) (tmp rsp : Str) : Prop :=
  if o.openOut then
    o.openIn = true ∧
      if o.openTmp then LinesOk o.out lines ∧ o.copy = .ok ∧ o.closeOut = .ok
      else (files tmp).map (copied o) = some (TxtWriter.text lines)
  else files rsp = some (TxtWriter.text lines)

/-- The name makes no response file, the `unlink` fails, or the response file gets the whole
response and the lock file can be opened. -/
def Faithful : Prop :=
  ∀ rsp ∈ rspPath path, ∀ tmp ∈ tmpPath path, UnlinkFails o files tmp ∨
    (o.openLck = true ∧
      CopiesWhole o files (TxtWriter.writePacket indeterminate pkt) tmp rsp)

theorem length_copied_le (s : Str) : (copied o s).length ≤ s.length :=
  (Outcome.length_taken_le _ _).trans (Outcome.length_taken_le _ _)

/-- A copy of nonempty contents is whole only if nothing fails. -/
theorem copied_eq_self {s : Str} (hs : s ≠ []) :
    copied o s = s ↔ o.copy = .ok ∧ o.closeOut = .ok := by
  constructor
  · intro h
    have hlen : (copied o s).length = s.length := by rw [h]
    have hcopy : o.copy = .ok := by
      by_contra hc
      have hlt := Outcome.length_taken_lt hc hs
      have hle := Outcome.length_taken_le o.closeOut (o.copy.taken s)
      rw [copied] at hlen
      omega
    refine ⟨hcopy, ?_⟩
    by_contra hc
    have hlt := Outcome.length_taken_lt hc hs
    rw [copied, hcopy, Outcome.taken_ok] at hlen
    omega
  · rintro ⟨h₁, h₂⟩
    rw [copied, h₁, h₂, Outcome.taken_ok, Outcome.taken_ok]

theorem text_ne_nil {l : Line} {ls : List Line} : TxtWriter.text (l :: ls) ≠ [] := by
  simp [TxtWriter.text, unlines]

variable {o} in
/-- The copy of the temporary file that was opened is the response only if every operation on
either file succeeds. -/
theorem copied_eq_text {lines : List Line} (hne : TxtWriter.text lines ≠ []) {s : Str}
    (hok : LinesOk o.out lines → s = TxtWriter.text lines)
    (hshort : ¬ LinesOk o.out lines → s.length < (TxtWriter.text lines).length) :
    copied o s = TxtWriter.text lines ↔
      LinesOk o.out lines ∧ o.copy = .ok ∧ o.closeOut = .ok := by
  by_cases hl : LinesOk o.out lines
  · obtain rfl := hok hl
    rw [copied_eq_self o hne, and_iff_right hl]
  · refine ⟨fun h => ?_, fun h => absurd h.1 hl⟩
    have hlt := hshort hl
    have hle := length_copied_le o s
    rw [h] at hle
    omega

section Body

variable {tmp rsp lck : Str} {lines : List Line}

/-- The files that have been opened for writing in front of the `unlink`. -/
def opened (tmp rsp : Str) : List Str :=
  (if o.openTmp then [tmp] else []) ++ if o.openOut then [rsp] else []

theorem eq_of_mem_opened {k : Str} (h : k ∈ opened o tmp rsp) : k = tmp ∨ k = rsp := by
  unfold opened at h
  cases hto : o.openTmp <;> cases hro : o.openOut <;> simp_all

/-- What the body of `serializer` has done when it comes to the `unlink`. -/
theorem exec_upToUnlink (htr : tmp ≠ rsp) (hne : TxtWriter.text lines ≠ []) :
    ∃ d : Dir, exec (writeTmp o lines tmp >>= fun _ => copyFile o tmp rsp) { files := files } =
        (.ok ⟨⟩, d) ∧
      d.created = opened o tmp rsp ∧
      (∀ k, k ≠ tmp → k ≠ rsp → d.files k = files k) ∧
      (d.files tmp = none ↔ o.openTmp = false ∧ files tmp = none) ∧
      (d.files rsp = some (TxtWriter.text lines) ↔ CopiesWhole o files lines tmp rsp) := by
  obtain ⟨d₁, h₁, hf₁, hc₁, hn₁, hs₁⟩ := exec_writeTmp o lines tmp { files := files }
  obtain ⟨d₂, h₂, hf₂, hc₂, hr₂⟩ := exec_copyFile o htr d₁
  refine ⟨d₂, by rw [exec_bind_ok h₁, h₂], ?_, ?_, ?_, ?_⟩
  · rw [hc₂, hc₁, List.nil_append, opened]
  · intro k ht hr
    rw [hf₂ k hr, hf₁ k ht]
  · rw [hf₂ tmp htr]
    cases ho : o.openTmp with
    | false => simp [hn₁ ho]
    | true =>
      obtain ⟨s, hs, -⟩ := hs₁ ho
      simp [hs]
  · rw [hr₂, hf₁ rsp htr.symm, CopiesWhole]
    cases hout : o.openOut with
    | false => simp
    | true =>
      have hnil : copied o [] ≠ TxtWriter.text lines := by simpa [copied] using hne.symm
      cases hin : o.openIn with
      | false => simp [hnil]
      | true =>
        cases ho : o.openTmp with
        | false =>
          rw [hn₁ ho]
          rcases hf : files tmp with _ | s <;> simp [hnil, hf]
        | true =>
          obtain ⟨s, hs, hok, hshort⟩ := hs₁ ho
          simpa [hs] using copied_eq_text hne hok hshort

/-- A failing `unlink` ends the body in front of the lock file. -/
theorem exec_sysUnlink_fails {d : Dir} (hd : d.files tmp = none ↔
    o.openTmp = false ∧ files tmp = none) (h : UnlinkFails o files tmp) :
    ∃ e, exec (sysUnlink o tmp) d = (.error e, d) := by
  rcases hu : o.unlinkTmp with _ | what
  · have hn : d.files tmp = none := hd.2 (h.resolve_left fun hc => hc hu)
    simp only [sysUnlink, exec_bind, exec_get, hu, hn, exec_throw]
    exact ⟨_, rfl⟩
  · simp only [sysUnlink, exec_bind, exec_get, hu, exec_throw]
    exact ⟨_, rfl⟩

theorem exec_sysUnlink_ok {d : Dir} (hd : d.files tmp = none ↔
    o.openTmp = false ∧ files tmp = none) (h : ¬ UnlinkFails o files tmp) :
    exec (sysUnlink o tmp) d = (.ok ⟨⟩, d.erase tmp) := by
  rw [UnlinkFails, not_or, not_not] at h
  obtain ⟨hu, hn⟩ := h
  obtain ⟨s, hs⟩ := Option.ne_none_iff_exists'.1 (mt hd.1 hn)
  simp only [sysUnlink, exec_bind, exec_get, hu, hs, exec_set]

end Body

/-- The names of the three files differ. -/
theorem names_ne (pos : Nat) :
    path.replace pos 6 tmpName ≠ path.replace pos 6 rspName ∧
    path.replace pos 6 rspName ++ lckSuffix ≠ path.replace pos 6 rspName ∧
    path.replace pos 6 rspName ++ lckSuffix ≠ path.replace pos 6 tmpName := by
  have hlen := Str.length_replace path pos 6 (t := tmpName) (u := rspName) rfl
  have hlck : lckSuffix.length = 4 := rfl
  refine ⟨fun h => absurd (Str.replace_inj h) (by decide), fun h => ?_, fun h => ?_⟩
  · have := congrArg List.length h
    rw [List.length_append, hlck] at this
    omega
  · have := congrArg List.length h
    rw [List.length_append, hlck] at this
    omega

variable {path} in
/-- The body of a call. -/
theorem call_eq_body {pos : ℕ} (hpos : Str.find "arqcmd".toList path = some pos) :
    call o indeterminate path pkt files = exec (tryCatch
      (writeTmp o (TxtWriter.writePacket indeterminate pkt) (path.replace pos 6 tmpName) >>=
        fun _ => copyFile o (path.replace pos 6 tmpName) (path.replace pos 6 rspName) >>=
        fun _ => sysUnlink o (path.replace pos 6 tmpName) >>=
        fun _ => writeLck o (path.replace pos 6 rspName ++ lckSuffix))
      (fun _ => throw (.spooler .spoolerExp "Erro ao gravar arquivo de retorno.".toList)))
      { files := files } := by
  simp only [call, serializer, hpos]

/-- **When the lock file can be trusted.** -/
theorem signals_iff_faithful : Signals o indeterminate path pkt files ↔
    Faithful o indeterminate path pkt files := by
  rcases hpos : Str.find "arqcmd".toList path with _ | pos
  · -- no response file: the exception is raised before anything is opened
    have hcall : call o indeterminate path pkt files =
        (.error (.spooler .spoolerExp "Erro ao definir nome do arquivo de retorno.".toList),
          { files := files }) := by
      simp only [call, serializer, hpos, exec_throw]
    have hnone : ∀ rsp, rsp ∉ rspPath path := fun rsp h => by
      rw [rspPath, hpos] at h
      cases h
    exact iff_of_true ⟨fun ⟨rsp, hrsp, _⟩ => absurd hrsp (hnone rsp), fun _ => ⟨_, by rw [hcall]⟩⟩
      fun rsp hrsp => absurd hrsp (hnone rsp)
  · obtain ⟨htr, hlr, hlt⟩ := names_ne path pos
    have hrsp : rspPath path = some (path.replace pos 6 rspName) := by
      rw [rspPath, hpos, Option.map_some]
    have htmp : tmpPath path = some (path.replace pos 6 tmpName) := by
      rw [tmpPath, hpos, Option.map_some]
    have hcall := call_eq_body o indeterminate pkt files hpos
    simp only [Signals, Faithful, LockCreated, ResponseWhole, hrsp, htmp, Option.mem_some_iff,
      exists_eq_left', forall_eq', hcall]
    clear hcall hrsp htmp
    generalize path.replace pos 6 rspName = rsp at *
    generalize path.replace pos 6 tmpName = tmp at *
    have hne : TxtWriter.text (TxtWriter.writePacket indeterminate pkt) ≠ [] := text_ne_nil
    generalize TxtWriter.writePacket indeterminate pkt = lines at *
    obtain ⟨d, hd, hcreated, -, hnone, hwhole⟩ := exec_upToUnlink o files htr hne
    have hlock : rsp ++ lckSuffix ∉ d.created := fun hm =>
      (eq_of_mem_opened o (hcreated ▸ hm)).elim hlt hlr
    rw [exec_tryCatch, ← bind_assoc, exec_bind_ok hd]
    by_cases hu : UnlinkFails o files tmp
    · obtain ⟨e, he⟩ := exec_sysUnlink_fails o files hnone hu
      rw [exec_bind_error he]
      simp only [exec_throw]
      exact iff_of_true ⟨fun hm => absurd hm hlock, fun _ => ⟨_, rfl⟩⟩ (.inl hu)
    · obtain ⟨d', hd', hf', hc'⟩ := exec_writeLck o (rsp ++ lckSuffix) (d.erase tmp)
      rw [exec_bind_ok (exec_sysUnlink_ok o files hnone hu), hd']
      simp only [hc', hf' rsp hlr.symm, Disk.erase_files_ne d htr.symm, Disk.erase_created, hwhole]
      cases hl : o.openLck with
      | false => simp [hlock, hu]
      | true => simp [hu]

/-- The disk is full when the temporary file is copied: ten characters get through. -/
def discoCheio : Outcomes where
  openTmp := true
  out _ _ := .ok
  closeTmp := .ok
  openIn := true
  openOut := true
  copy := .short 10
  closeOut := .ok
  unlinkTmp := none
  openLck := true
  writeLck := .ok
  closeLck := .ok

/-- The lock file is created beside the first ten characters of a response. -/
theorem lock_beside_part_of_response :
    ¬ Signals discoCheio .notTyped "/ecf/arqcmd.1".toList { type := some .tpReset }
      (fun _ => none) := by
  rintro ⟨h, -⟩
  obtain ⟨rsp, hrsp, hf⟩ := h ⟨"/ecf/arqret.1".toList, by decide, by decide⟩
  have hr : "/ecf/arqret.1".toList = rsp := by
    have hp : rspPath "/ecf/arqcmd.1".toList = some "/ecf/arqret.1".toList := by decide
    exact Option.some.inj (hp.symm.trans hrsp)
  subst hr
  revert hf
  decide

end Serializer

end Spooler
