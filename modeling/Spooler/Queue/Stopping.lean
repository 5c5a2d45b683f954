import Spooler.Queue.Steps
import Spooler.Foundations.Runs

/-!
# When a stop request takes effect

A stop request only lowers the flag; the process looks at it in two places of `accept`, before it
asks for a name and before it opens the file. So **at most one command is still served behind the
request, the one whose file has been found and tested** (`stop_latency`). But in between, in
`scan_files`, the process does not look: **a request that reaches it there without interrupting
`select` has no effect until a command file arrives**, while an interrupted `select` makes it return
within the five steps behind it (`stop_needs_interrupt`).
-/

namespace Spooler.Service

open Foundations

variable {β : Type} {env : Env β} {s t : Service β}

/-! ## The command in hand -/

/-- The file that has passed the second test of the flag. -/
def committed : Place → List Str
  | .reading name => [name]
  | .removing name _ => [name]
  | .serving name => [name]
  | _ => []

/-- The calls made and the one that cannot be held back. -/
def promised (s : Service β) : List Str := s.calls.map Prod.fst ++ committed s.place

/-- The flag is down for good: only the entry of `run` raises it. -/
structure Halting (s : Service β) : Prop where
  flag : s.flag = false
  place : s.place ≠ .entering

theorem promised_of_place {p : Place} (hc : t.calls = s.calls) (hp : t.place = p)
    (hn : committed p = []) : t.promised <+: s.promised := by
  rw [promised, promised, hc, hp, hn, List.append_nil]
  exact List.prefix_append _ _

/-- **Behind the stop request nothing is promised any more.** -/
theorem halting_goes (h : Halting s) {a : Move} (hg : Goes env s a t) :
    Halting t ∧ t.promised <+: s.promised ∧ s.calls <+: t.calls := by
  cases hg with
  | enter hp => exact absurd hp h.place
  | test hp hf | recheck hp hf => cases hf.symm.trans h.flag
  | deliver => exact ⟨⟨h.flag, h.place⟩, List.prefix_rfl, List.prefix_rfl⟩
  | toFalse => exact ⟨⟨rfl, h.place⟩, List.prefix_rfl, List.prefix_rfl⟩
  | read hp =>
    refine ⟨⟨h.flag, by simp⟩, ?_, List.prefix_rfl⟩
    rw [promised, promised, hp]
    exact List.prefix_rfl
  | remove hp =>
    unfold remove
    rcases exec (TxtCollector.removeFile env _ _) s.collector with ⟨⟨e⟩ | ⟨u⟩, c⟩
    · exact ⟨⟨h.flag, by simp⟩, promised_of_place rfl rfl rfl, List.prefix_rfl⟩
    · refine ⟨⟨h.flag, by simp⟩, ?_, List.prefix_rfl⟩
      rw [promised, promised, hp]
      exact List.prefix_rfl
  | serve hp =>
    rename_i draw name
    have hc : (s.serve env draw name).promised = s.promised := by
      simp [promised, serve, committed, hp]
    exact ⟨⟨h.flag, by simp [serve]⟩, hc ▸ List.prefix_rfl, List.prefix_append _ _⟩
  | _ => exact ⟨⟨by first | exact h.flag | rfl, by simp⟩, promised_of_place rfl rfl rfl,
      List.prefix_rfl⟩

theorem halting_step (env : Env β) (h : Halting s) (a : Move) :
    Halting (step env s a) ∧ (step env s a).promised <+: s.promised ∧
      s.calls <+: (step env s a).calls := by
  rcases step_cases env s a with hs | hg
  · rw [hs]
    exact ⟨h, List.prefix_rfl, List.prefix_rfl⟩
  · exact halting_goes h hg

/-- **A stop request takes effect within one command**: whatever happens once the flag is down and
`run` has been entered, which raises it, the calls made from then on are at most one, for the file
that had passed both tests by then. -/
theorem stop_latency (env : Env β) (s : Service β) (hflag : s.flag = false)
    (hplace : s.place ≠ .entering) (moves : List Move) :
    ∃ late, late <+: committed s.place ∧
      (run (step env) s moves).calls.map Prod.fst = s.calls.map Prod.fst ++ late := by
  have hrun : ∀ t ∈ visited (step env) s moves,
      Halting t ∧ t.promised <+: s.promised ∧ s.calls <+: t.calls := by
    refine run_preserves (I := fun t => Halting t ∧ t.promised <+: s.promised ∧ s.calls <+: t.calls)
      (fun t a ht => ?_) ⟨⟨hflag, hplace⟩, List.prefix_rfl, List.prefix_rfl⟩ moves
    obtain ⟨hh, hp, hc⟩ := halting_step env ht.1 a
    exact ⟨hh, hp.trans ht.2.1, ht.2.2.trans hc⟩
  obtain ⟨-, hp, late, hc⟩ := hrun _ (run_mem_visited _ _ _)
  refine ⟨late.map Prod.fst, ?_, ?_⟩
  · have hle := (List.prefix_append _ _).trans hp
    rw [← hc, List.map_append] at hle
    exact (List.prefix_append_right_inj _).1 hle
  · rw [← hc, List.map_append]

/-- The file is open when the request comes; it is served, and the one behind it stays. -/
theorem stop_latency_one :
    let env : Env Unit :=
      { workDir := "/ecf/".toList, trade := fun _ pkt b => (pkt, b), indeterminate := .notTyped }
    let go : Move := .advance { valor := 0, strfry := id, strfry_perm := List.Perm.refl }
    let s : Service Unit :=
      { start () "arqcmd".toList [("arqcmd.1".toList, []), ("arqcmd.2".toList, [])] with
        fq := { cmdPrefix := "arqcmd".toList, queue := ["arqcmd.2".toList] }
        place := .reading "arqcmd.1".toList }
    (run (step env) s [go, go, go, go, go]).calls.length = 1 ∧
      ∃ late, late <+: committed s.place ∧
        (run (step env) s [go, go, go, go, go]).calls.map Prod.fst =
          s.calls.map Prod.fst ++ late :=
  ⟨by decide, stop_latency _ _ rfl (by decide) _⟩

/-! ## A request that is not noticed -/

/-- The process looks for events in `scan_files`, and there is nothing for it to find. -/
structure Idle (s : Service β) : Prop where
  place : s.place = .scanning ∨ s.place = .polling
  queue : s.fq.queue = []
  scanType : s.fq.scanType = .eventScan
  events : ∀ name ∈ s.events, s.fq.selects name = false

/-- Not an interrupted or failing call, and not the delivery of a command file. -/
def Unnoticed (cmdPrefix : Str) : Move → Prop
  | .deliver name _ => name.take cmdPrefix.length ≠ cmdPrefix
  | .interrupt => False
  | .fail _ => False
  | _ => True

theorem idle_goes (h : Idle s) {a : Move} (ha : Unnoticed s.fq.cmdPrefix a)
    (hg : Goes env s a t) :
    Idle t ∧ t.fq.cmdPrefix = s.fq.cmdPrefix ∧ t.calls = s.calls := by
  have hplace : ∀ {p : Place}, s.place = p → p = .scanning ∨ p = .polling := fun hp => hp ▸ h.place
  cases hg with
  | deliver =>
    refine ⟨⟨h.place, h.queue, h.scanType, fun n hn => ?_⟩, rfl, rfl⟩
    simp only at hn
    split at hn
    · rcases List.mem_append.1 hn with hn | hn
      · exact h.events n hn
      · rw [List.mem_singleton.1 hn]
        exact decide_eq_false ha
    · exact h.events n hn
  | toFalse => exact ⟨⟨h.place, h.queue, h.scanType, h.events⟩, rfl, rfl⟩
  | interrupt | fail => exact absurd ha id
  | directoryScan hp hq hd => cases hd.symm.trans h.scanType
  | kernelScan hp =>
    rename_i k
    have hk : (s.events.take k).filter s.fq.selects = [] :=
      List.filter_eq_nil_iff.2 fun n hn => by simp [h.events n (List.mem_of_mem_take hn)]
    refine ⟨⟨.inl rfl, ?_, h.scanType, fun n hn => h.events n (List.mem_of_mem_drop hn)⟩, rfl, rfl⟩
    simp only [FileQueue.kernelScan, h.queue, hk, List.append_nil]
  | found hp hq => exact absurd h.queue hq
  | watch hp => exact ⟨⟨.inr rfl, h.queue, h.scanType, h.events⟩, rfl, rfl⟩
  | enter hp | loop hp | finish hp | test hp | halt hp | switch hp | none hp | nameless hp
  | take hp | recheck hp | stop hp | read hp | remove hp | serve hp | stopped hp =>
    rcases hplace hp with hp' | hp' <;> cases hp'

theorem idle_run (env : Env β) (h : Idle s) {moves : List Move}
    (hm : ∀ a ∈ moves, Unnoticed s.fq.cmdPrefix a) :
    Idle (run (step env) s moves) ∧ (run (step env) s moves).calls = s.calls := by
  have hrun : ∀ u ∈ visited (step env) s moves,
      Idle u ∧ u.fq.cmdPrefix = s.fq.cmdPrefix ∧ u.calls = s.calls := by
    refine run_preserves_of_allSteps
      (I := fun u => Idle u ∧ u.fq.cmdPrefix = s.fq.cmdPrefix ∧ u.calls = s.calls)
      (C := fun _ a => Unnoticed s.fq.cmdPrefix a) (fun u a hu ha => ?_) ⟨h, rfl, rfl⟩
      ((allSteps_const (step env) (Unnoticed s.fq.cmdPrefix) s moves).2 hm)
    rcases step_cases env u a with hs | hg
    · rw [hs]
      exact hu
    · obtain ⟨hi, hp, hc⟩ := idle_goes hu.1 (hu.2.1 ▸ ha) hg
      exact ⟨hi, hp.trans hu.2.1, hc.trans hu.2.2⟩
  obtain ⟨hi, -, hc⟩ := hrun _ (run_mem_visited _ _ _)
  exact ⟨hi, hc⟩

/-- An interrupted `select` leads out of both loops and out of `run`. -/
theorem interrupt_returns (h : Idle s) (hp : s.place = .polling) (hf : s.flag = false)
    (draw : Draw) :
    run (step env) s (.interrupt :: List.replicate 5 (.advance draw)) =
      { s with flag := false, running := false, code := .stop, place := .returned .stop } := by
  have h₁ : step env s .interrupt = { s with place := .leaving } := by simp [step, next, hp]
  have h₂ : step env { s with place := .leaving } (.advance draw) =
      { s with place := .testing } := by
    simp [step, next, advance, leave, h.queue]
  have h₃ : step env { s with place := .testing } (.advance draw) =
      { s with running := false, place := .rechecking [] } := by
    simp [step, next, advance, hf]
  have h₄ : step env { s with running := false, place := .rechecking [] } (.advance draw) =
      { s with running := false, place := .stopping } := by
    simp [step, next, advance, hf]
  rw [run_cons, h₁, List.replicate, run_cons, h₂, List.replicate, run_cons, h₃, List.replicate,
    run_cons, h₄]
  rfl

/-- **A stop request needs an interrupted `select`**: with the process in `scan_files` and nothing
for it to find, it stays there, flag or no flag, and makes no call, whatever else happens than an
interruption, a failing call or the delivery of a command file; and an interruption behind all that
makes it return, when the flag is down. -/
theorem stop_needs_interrupt (env : Env β) (s : Service β) (h : Idle s) (moves : List Move)
    (hm : ∀ a ∈ moves, Unnoticed s.fq.cmdPrefix a) :
    let t := run (step env) s moves
    (t.place = .scanning ∨ t.place = .polling) ∧ t.calls = s.calls ∧
      (t.place = .polling → t.flag = false → ∀ draw,
        (run (step env) t (.interrupt :: List.replicate 5 (.advance draw))).place =
          .returned .stop) := by
  intro t
  obtain ⟨hi, hc⟩ := idle_run env h hm
  exact ⟨hi.place, hc, fun hp hf draw => by rw [interrupt_returns hi hp hf]⟩

/-- The request comes between the test of the flag and `select`; the response to another command
is no reason to look up either. -/
theorem stop_needs_interrupt_three :
    let env : Env Unit :=
      { workDir := "/ecf/".toList, trade := fun _ pkt b => (pkt, b), indeterminate := .notTyped }
    let go : Move := .advance { valor := 0, strfry := id, strfry_perm := List.Perm.refl }
    let s : Service Unit := { start () "arqcmd".toList [] with
      fq := { cmdPrefix := "arqcmd".toList, scanType := .eventScan }, flag := true
      place := .scanning }
    let t := run (step env) s [.toFalse, go, .deliver "arqret.7".toList [], .kernelScan 1, go]
    t.flag = false ∧ (t.place = .scanning ∨ t.place = .polling) ∧ t.calls = s.calls ∧
      (t.place = .polling → t.flag = false → ∀ draw,
        (run (step env) t (.interrupt :: List.replicate 5 (.advance draw))).place =
          .returned .stop) := by
  refine ⟨by decide, stop_needs_interrupt _ _ ⟨.inl rfl, rfl, rfl, ?_⟩ _ ?_⟩
  · simp [start]
  · simp [Unnoticed]

end Spooler.Service
