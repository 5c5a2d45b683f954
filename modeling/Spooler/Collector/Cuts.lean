import Spooler.Collector.Types
import Spooler.Reader.Messages

/-!
# Files of `cortar_papel_ecf` lines

A file without a packet, of lines `cortar_papel_ecf` only. `accept` has a handler that silences the
response to such a file, for the exception `cortar_papel_exp`; but the line is skipped before the
throw is reached, and the end of such a file is no failure. **`callback` answers every one of these
files**, `accept_cut_not_silent`, with what it does for the type of an empty packet.
-/

namespace Spooler

open Foundations

namespace TxtReader

/-- One or more lines `cortar_papel_ecf` (case and surrounding blanks aside), with or without a
newline behind the last one. -/
def CutFile (data : Str) : Prop :=
  ∃ cuts last, (∀ l ∈ cuts ++ [last], '\n' ∉ l ∧ Str.strIequals l cortarPapelEcf = true) ∧
    (data = unlines cuts ++ last ∨ data = unlines (cuts ++ [last]))

/-- Such lines are skipped, in front of others. -/
theorem readLines_cuts {cuts rest : List Str}
    (h : ∀ l ∈ cuts, Str.strIequals l cortarPapelEcf = true) (hrest : rest ≠ []) :
    readLines {} (cuts ++ rest) = readLines {} rest := by
  rw [readLines_eq_scan _ (List.append_ne_nil_of_right_ne_nil cuts hrest),
    readLines_eq_scan _ hrest, scan_cuts h]

/-- The lines of a file of cuts. -/
theorem CutFile.getlines {data : Str} (h : CutFile data) :
    ∃ cuts last, (∀ l ∈ cuts, Str.strIequals l cortarPapelEcf = true) ∧
      Str.strIequals last cortarPapelEcf = true ∧
      (getlines data = cuts ++ [last] ∨ getlines data = cuts ++ [last, []]) := by
  obtain ⟨cuts, last, hl, hdata⟩ := h
  refine ⟨cuts, last, fun l h => (hl l (List.mem_append_left _ h)).2, (hl last (by simp)).2, ?_⟩
  have hnl : ∀ l ∈ cuts ++ [last], '\n' ∉ l := fun l h => (hl l h).1
  rcases hdata with rfl | rfl
  · left
    rw [getlines_unlines_append fun l h => hnl l (List.mem_append_left _ h),
      getlines_of_notMem (hnl last (by simp))]
  · right
    have hall := getlines_unlines_append hnl []
    rwa [List.append_nil, List.append_assoc] at hall

/-- **What is read from a file of cuts**: nothing, and that is no failure. -/
theorem CutFile.readPacket {data : Str} (h : CutFile data) :
    (readPacket (some data)).reader = {} ∧
      ((readPacket (some data)).excp.isSome && !(readPacket (some data)).eof) = false := by
  obtain ⟨cuts, last, hcuts, hlast, hlines⟩ := h.getlines
  have hstep := step_init_cut hlast
  rw [TxtReader.readPacket]
  rcases hlines with hl | hl <;> rw [hl]
  · rw [readLines_cuts hcuts (by simp), readLines, hstep]
    exact ⟨rfl, rfl⟩
  · -- the empty piece behind the last newline is refused, at the end of the file
    rw [readLines_cuts hcuts (by simp), readLines, hstep]
    exact ⟨rfl, rfl⟩

end TxtReader

namespace TxtCollector

open TxtReader

variable {β : Type} {env : Env β} {draw : Draw} {c : TxtCollector β} {name data : Str}

/-- `accept` on a file leaves the responses, the commands to the device and the session as they
are. -/
def Silent (env : Env β) (draw : Draw) (name data : Str) (c : TxtCollector β) : Prop :=
  ∃ code c', exec (accept env draw name) (c.deliver name data) = (.ok code, c') ∧
    c'.written = c.written ∧ c'.traded = c.traded ∧ c'.session = c.session

/-- The empty packet is served. -/
theorem servedFor_cut (h : CutFile data) :
    servedFor env draw data c = serve env draw false {} c.session c.broker := by
  obtain ⟨hreader, hfailure⟩ := h.readPacket
  simp only [servedFor, hfailure, hreader]

/-- **A file of cuts is answered**, by a response that depends on what is found in a type never
assigned. -/
theorem exec_accept_cut (env : Env β) (draw : Draw) (name : Str) (c : TxtCollector β)
    (h : CutFile data) :
    ∃ c', exec (accept env draw name) (c.deliver name data) = (.ok .running, c') ∧
      c'.mute = false ∧ c'.failure = false ∧
      c'.written = c.written ++
        [(env.workDir ++ name, (serve env draw false {} c.session c.broker).response)] := by
  refine ⟨_, exec_accept_found (lookup_deliver name data c), rfl, h.readPacket.2, ?_⟩
  change c.written ++ [(_, (servedFor env draw data (c.deliver name data)).response)] = _
  rw [servedFor_cut h]
  rfl

/-- The session may be closed by such a file. -/
theorem session_cut_reset (h : CutFile data) (hi : env.indeterminate = .tpReset) :
    (afterAccept env draw name data (c.deliver name data)).session = c.session.reset := by
  have hreset : serve env draw false {} c.session c.broker = _ :=
    serve_reset env draw c.broker hi rfl
  change (servedFor env draw data (c.deliver name data)).session = _
  rw [servedFor_cut h]
  exact congrArg Served.session hreset

/-- **No file of cuts is silent.** -/
theorem accept_cut_not_silent (env : Env β) (draw : Draw) (name : Str) (c : TxtCollector β)
    {data : Str} (h : CutFile data) : ¬ Silent env draw name data c := by
  rintro ⟨code, c₁, hexec, hwritten, -⟩
  obtain ⟨c₂, hexec₂, -, -, hwritten₂⟩ := exec_accept_cut env draw name c h
  cases hexec.symm.trans hexec₂
  have hlen := congrArg List.length (hwritten₂.symm.trans hwritten)
  simp at hlen

theorem cutFile_line : CutFile "cortar_papel_ecf".toList := by
  refine ⟨[], _, fun l hl => ?_, .inl rfl⟩
  rw [List.mem_singleton.1 hl]
  decide

theorem accept_cut_not_silent_line :
    CutFile "cortar_papel_ecf".toList ∧ ¬ Silent (β := Unit)
      { workDir := [], trade := fun _ pkt b => (pkt, b), indeterminate := .notTyped }
      { valor := 0, strfry := id, strfry_perm := List.Perm.refl }
      "arqcmd1".toList "cortar_papel_ecf".toList { broker := () } :=
  ⟨cutFile_line, accept_cut_not_silent _ _ _ _ cutFile_line⟩

/-- One line without a newline: the response is "Tipo de pacote invalido!" when nothing better is
found in the type. -/
theorem cut_line_answered : ¬ ∀ data, CutFile data → Silent (β := Unit)
    { workDir := [], trade := fun _ pkt b => (pkt, b), indeterminate := .notTyped }
    { valor := 0, strfry := id, strfry_perm := List.Perm.refl }
    "arqcmd1".toList data { broker := () } := by
  intro h
  obtain ⟨code, c₁, hexec, hwritten, -⟩ := h _ cutFile_line
  obtain ⟨c₂, hexec₂, -, -, hwritten₂⟩ := exec_accept_cut _ _ _ _ cutFile_line
  cases hexec.symm.trans hexec₂
  cases hwritten.symm.trans hwritten₂

end TxtCollector

end Spooler
