import Spooler.Queue.Steps
import Spooler.Foundations.Simulation

/-!
# First come, first served

`arrivals` lists the command files of a run in the order in which the queue learns of them: those a
directory pass finds, in the order of `readdir`, and those delivered while the watch stands, in the
order of their delivery. **The calls of `callback` are made in this order, and none is left out**
(`served_in_order`): they are the files that arrived first, and as long as the process is neither
stopped nor dead the others are in its hand, in the queue or in an event, in the same order.
-/

namespace Spooler.Service

open Foundations

variable {β : Type}

/-- What `scan_files` delivers to `accept`: a name that begins with the prefix and is not empty. -/
def isCommand (cmdPrefix name : Str) : Bool :=
  name.take cmdPrefix.length = cmdPrefix && !name.isEmpty

/-- The files the queue learns of in a step. -/
def arrived (s : Service β) : Move → List Str
  | .deliver name _ => if s.fq.watch then [name].filter (isCommand s.fq.cmdPrefix) else []
  | .directoryScan listing =>
    if s.place = .scanning ∧ s.fq.queue = [] ∧ s.fq.scanType = .dirScan ∧
        listing.Perm s.names then
      listing.filter (isCommand s.fq.cmdPrefix)
    else []
  | _ => []

/-- The command files of a run, as the queue learns of them. -/
def arrivals (env : Env β) (s : Service β) (moves : List Move) : List Str :=
  outputs (step env) arrived s moves

/-- The process serves no further command. -/
def Over (s : Service β) : Prop :=
  s.place = .stopping ∨ (s.place = .looping ∧ s.running = false) ∨
    (∃ code, s.place = .returned code) ∨ ∃ e, s.place = .terminated e

/-- The files that have arrived and wait to be served, in their order. -/
def waiting (s : Service β) : List Str :=
  inHand s.place ++ (s.fq.queue ++ s.events).filter (isCommand s.fq.cmdPrefix)

/-- The calls follow the arrivals. -/
structure Lined (s : Service β) (arr : List Str) : Prop where
  served : s.calls.map Prod.fst <+: arr
  waits : ¬s.Over → arr = s.calls.map Prod.fst ++ s.waiting
  selected : ∀ name ∈ s.fq.queue, s.fq.selects name = true
  unwatched : s.fq.watch = false → s.events = []
  dirScan : s.fq.scanType = .dirScan → s.fq.watch = false
  /-- `accept` leaves its loop without a name only when the flag is down. -/
  down : s.place = .rechecking [] → s.flag = false
  halted : s.place = .stopping → s.running = false

section Step

variable {env : Env β} {s t : Service β} {arr : List Str}

theorem not_over_of_place {p : Place} (hp : s.place = p) (h₁ : p ≠ .stopping) (h₂ : p ≠ .looping)
    (h₃ : ∀ code, p ≠ .returned code) (h₄ : ∀ e, p ≠ .terminated e) : ¬s.Over := by
  rintro (h | ⟨h, -⟩ | ⟨code, h⟩ | ⟨e, h⟩)
  · exact h₁ (hp ▸ h)
  · exact h₂ (hp ▸ h)
  · exact h₃ code (hp ▸ h)
  · exact h₄ e (hp ▸ h)

theorem isCommand_eq (q : FileQueue) (name : Str) :
    isCommand q.cmdPrefix name = (q.selects name && !name.isEmpty) := rfl

/-- The scans keep what `scan_files` will deliver. -/
theorem filter_isCommand_selects (q : FileQueue) (names : List Str) :
    (names.filter q.selects).filter (isCommand q.cmdPrefix) =
      names.filter (isCommand q.cmdPrefix) := by
  rw [List.filter_filter]
  refine List.filter_congr fun name _ => ?_
  rw [isCommand_eq]
  cases q.selects name <;> simp

/-- A step that makes no call and moves no file in the line. -/
theorem Lined.goto (h : Lined s arr) (hs : ¬s.Over) (hc : t.calls = s.calls)
    (hw : ¬t.Over → t.waiting = s.waiting)
    (hq : ∀ name ∈ t.fq.queue, t.fq.selects name = true)
    (hu : t.fq.watch = false → t.events = [])
    (hd : t.fq.scanType = .dirScan → t.fq.watch = false)
    (hdown : t.place = .rechecking [] → t.flag = false)
    (hh : t.place = .stopping → t.running = false) : Lined t (arr ++ []) where
  served := by
    rw [hc, List.append_nil]
    exact h.served
  waits := fun ht => by rw [hw ht, hc, ← h.waits hs, List.append_nil]
  selected := hq
  unwatched := hu
  dirScan := hd
  down := hdown
  halted := hh

/-- A step behind which nothing is served any more. -/
theorem Lined.ends (h : Lined s arr) (ht : t.Over) (hc : t.calls = s.calls) (hfq : t.fq = s.fq)
    (he : t.events = s.events) (hdown : t.place = .rechecking [] → t.flag = false)
    (hh : t.place = .stopping → t.running = false) : Lined t (arr ++ []) where
  served := by
    rw [hc, List.append_nil]
    exact h.served
  waits := fun hn => absurd ht hn
  selected := hfq ▸ h.selected
  unwatched := by
    rw [hfq, he]
    exact h.unwatched
  dirScan := hfq ▸ h.dirScan
  down := hdown
  halted := hh

theorem lined_deliver (h : Lined s arr) {name data : Str} :
    Lined { s with
      collector := s.collector.deliver name data
      events := if s.fq.watch then s.events ++ [name] else s.events
      delivered := s.delivered ++ [(name, data)] } (arr ++ arrived s (.deliver name data)) where
  served := h.served.trans (List.prefix_append _ _)
  waits := fun ht => by
    rw [h.waits ht, arrived]
    rcases hw : s.fq.watch with _ | _
    · simp [waiting]
    · simp [waiting]
  selected := h.selected
  unwatched := fun hw => by
    have hw' : s.fq.watch = false := hw
    simp only [hw', Bool.false_eq_true, if_false]
    exact h.unwatched hw'
  dirScan := h.dirScan
  down := h.down
  halted := h.halted

theorem lined_directoryScan (h : Lined s arr) {listing : List Str} (hp : s.place = .scanning)
    (hq : s.fq.queue = []) (hd : s.fq.scanType = .dirScan) (hl : listing.Perm s.names) :
    Lined { s with
      fq := (s.fq.directoryScan listing).2, place := .scanned (s.fq.directoryScan listing).1 }
        (arr ++ arrived s (.directoryScan listing)) where
  served := h.served.trans (List.prefix_append _ _)
  waits := fun _ => by
    have hs : ¬s.Over := not_over_of_place hp (by simp) (by simp) (by simp) (by simp)
    have he : s.events = [] := h.unwatched (h.dirScan hd)
    rw [h.waits hs, arrived, if_pos ⟨hp, hq, hd, hl⟩]
    simp only [waiting, hp, hq, he, inHand, List.append_nil, List.nil_append, List.filter_nil,
      FileQueue.directoryScan_queue, FileQueue.directoryScan_cmdPrefix, filter_isCommand_selects]
  selected := fun name hn => by
    rw [FileQueue.directoryScan_queue, hq, List.nil_append] at hn
    exact (List.mem_filter.1 hn).2
  unwatched := h.unwatched
  dirScan := h.dirScan
  down := fun hp' => by cases hp'
  halted := fun hp' => by cases hp'

theorem lined_kernelScan (h : Lined s arr) {k : Nat} (hp : s.place = .polling) :
    Lined { s with
      fq := s.fq.kernelScan (s.events.take k), events := s.events.drop k, place := .scanning }
        (arr ++ []) := by
  refine h.goto (not_over_of_place hp (by simp) (by simp) (by simp) (by simp)) rfl (fun _ => ?_)
    (fun name hn => ?_) (fun hw => ?_) h.dirScan (fun hp' => ?_) fun hp' => ?_
  · -- the events read are in the queue now, as far as they are command files
    have hcut : ((s.events.take k).filter (isCommand s.fq.cmdPrefix)) ++
        (s.events.drop k).filter (isCommand s.fq.cmdPrefix) =
          s.events.filter (isCommand s.fq.cmdPrefix) := by
      rw [← List.filter_append, List.take_append_drop]
    simp only [waiting, hp, inHand, FileQueue.kernelScan, List.filter_append, List.nil_append,
      filter_isCommand_selects, List.append_assoc, hcut]
  · rcases List.mem_append.1 hn with hn | hn
    · exact h.selected name hn
    · exact (List.mem_filter.1 hn).2
  · show s.events.drop k = []
    rw [h.unwatched hw, List.drop_nil]
  · cases hp'
  · cases hp'

theorem lined_take (h : Lined s arr) {name : Str} {rest : List Str} (hp : s.place = .leaving)
    (hq : s.fq.queue = name :: rest) (hn : name ≠ []) :
    Lined { s with fq := { s.fq with queue := rest }, place := .rechecking name }
      (arr ++ []) := by
  refine h.goto (not_over_of_place hp (by simp) (by simp) (by simp) (by simp)) rfl (fun _ => ?_)
    (fun n hr => ?_) h.unwatched h.dirScan (fun hp' => ?_) fun hp' => ?_
  · have hs : isCommand s.fq.cmdPrefix name = true := by
      rw [isCommand_eq, h.selected name (hq ▸ List.mem_cons_self)]
      simpa using hn
    simp [waiting, hp, hq, inHand, hn, hs]
  · exact h.selected n (hq ▸ List.mem_cons_of_mem _ hr)
  · cases hp'
    exact absurd rfl hn
  · cases hp'

theorem lined_nameless (h : Lined s arr) {rest : List Str} (hp : s.place = .leaving)
    (hq : s.fq.queue = [] :: rest) :
    Lined { s with fq := { s.fq with queue := rest }, place := .testing } (arr ++ []) := by
  refine h.goto (not_over_of_place hp (by simp) (by simp) (by simp) (by simp)) rfl (fun _ => ?_)
    (fun n hr => h.selected n (hq ▸ List.mem_cons_of_mem _ hr)) h.unwatched h.dirScan
    (fun hp' => by cases hp') fun hp' => by cases hp'
  have hs : isCommand s.fq.cmdPrefix [] = false := by simp [isCommand]
  simp [waiting, hp, hq, inHand, hs]

/-- A removal that fails ends the process; one that succeeds leaves the line as it is. -/
theorem lined_remove (h : Lined s arr) {name : Str} {res : TxtReader.ReadResult}
    (hp : s.place = .removing name res) : Lined (s.remove env name res) (arr ++ []) := by
  have hs : ¬s.Over := not_over_of_place hp (by simp) (by simp) (by simp) (by simp)
  unfold remove
  rcases exec (TxtCollector.removeFile env name res) s.collector with ⟨⟨e⟩ | ⟨u⟩, c⟩
  · exact h.goto hs rfl (fun ht => absurd (.inr (.inr (.inr ⟨_, rfl⟩))) ht) h.selected h.unwatched
      h.dirScan (fun hp' => by cases hp') fun hp' => by cases hp'
  · refine h.goto hs rfl (fun _ => ?_) h.selected h.unwatched h.dirScan (fun hp' => by cases hp')
      fun hp' => by cases hp'
    simp only [waiting, hp, inHand]

theorem lined_serve (h : Lined s arr) {name : Str} (hp : s.place = .serving name) (draw : Draw) :
    Lined (s.serve env draw name) (arr ++ []) := by
  have hs : ¬s.Over := not_over_of_place hp (by simp) (by simp) (by simp) (by simp)
  have harr : arr = (s.calls.map Prod.fst ++ [name]) ++
      (s.fq.queue ++ s.events).filter (isCommand s.fq.cmdPrefix) := by
    rw [h.waits hs, List.append_assoc]
    simp only [waiting, hp, inHand]
  have hc : (s.serve env draw name).calls.map Prod.fst = s.calls.map Prod.fst ++ [name] := by
    rw [serve, List.map_append]
    rfl
  exact {
    served := by
      rw [hc, List.append_nil, harr]
      exact List.prefix_append _ _
    waits := fun _ => by
      rw [hc, List.append_nil, harr]
      rfl
    selected := h.selected
    unwatched := h.unwatched
    dirScan := h.dirScan
    down := fun hp' => by cases hp'
    halted := fun hp' => by cases hp' }

/-- **Every step keeps the line.** -/
theorem lined_goes (h : Lined s arr) {a : Move} (hg : Goes env s a t) :
    Lined t (arr ++ arrived s a) := by
  cases hg with
  | deliver => exact lined_deliver h
  | directoryScan hp hq hd hl => exact lined_directoryScan h hp hq hd hl
  | kernelScan hp => exact lined_kernelScan h hp
  | take hp hq hn => exact lined_take h hp hq hn
  | nameless hp hq => exact lined_nameless h hp hq
  | remove hp => exact lined_remove h hp
  | serve hp => exact lined_serve h hp _
  | toFalse =>
    rw [show arrived s .toFalse = [] from rfl, List.append_nil]
    exact { h with waits := h.waits, down := fun _ => rfl }
  | finish hp hr => exact h.ends (.inr (.inr (.inl ⟨_, rfl⟩))) rfl rfl rfl (by simp) (by simp)
  | fail hp => exact h.ends (.inr (.inr (.inr ⟨_, rfl⟩))) rfl rfl rfl (by simp) (by simp)
  | stop hp hf => exact h.ends (.inl rfl) rfl rfl rfl (by simp) fun _ => rfl
  | stopped hp => exact h.ends (.inr (.inl ⟨rfl, h.halted hp⟩)) rfl rfl rfl (by simp) (by simp)
  | loop hp hr =>
    refine h.goto ?_ rfl (fun _ => by simp only [waiting, hp, inHand]) h.selected h.unwatched
      h.dirScan (by simp) (by simp)
    rintro (h' | ⟨-, h'⟩ | ⟨code, h'⟩ | ⟨e, h'⟩) <;> simp_all
  | recheck hp hf =>
    rename_i name
    refine h.goto (not_over_of_place hp (by simp) (by simp) (by simp) (by simp)) rfl (fun _ => ?_)
      h.selected h.unwatched h.dirScan (by simp) (by simp)
    -- with the flag up there is a name in hand
    have hne : name ≠ [] := by
      rintro rfl
      cases hf.symm.trans (h.down hp)
    simp [waiting, hp, inHand, hne]
  | watch hp hq he =>
    exact h.goto (not_over_of_place hp (by simp) (by simp) (by simp) (by simp)) rfl
      (fun _ => by simp only [waiting, hp, inHand, FileQueue.startMonitoring]) h.selected
      (fun hw => by cases hw) (fun hd => by cases he.symm.trans hd) (by simp) (by simp)
  | switch hp =>
    rename_i gotOne
    refine h.goto (not_over_of_place hp (by simp) (by simp) (by simp) (by simp)) rfl (fun _ => ?_)
      (fun name hn => ?_) (fun hw => ?_) (fun hd => ?_) (by simp) (by simp)
    · simp [waiting, hp, inHand]
    · cases gotOne <;> exact h.selected name hn
    · exact h.unwatched (by simpa using hw)
    · cases gotOne with
      | true => exact h.dirScan hd
      | false => cases hd
  | halt hp hf =>
    exact h.goto (not_over_of_place hp (by simp) (by simp) (by simp) (by simp)) rfl
      (fun _ => by simp [waiting, hp, inHand]) h.selected h.unwatched h.dirScan (fun _ => hf)
      (by simp)
  | interrupt hp | none hp | enter hp | test hp | found hp | read hp =>
    exact h.goto (not_over_of_place hp (by simp) (by simp) (by simp) (by simp)) rfl
      (fun _ => by simp only [waiting, hp, inHand]) h.selected h.unwatched h.dirScan (by simp)
      (by simp)

/-- A step that is not enabled brings nothing. -/
theorem arrived_of_next_none {a : Move} (h : next env s a = none) : arrived s a = [] := by
  cases a with
  | deliver name data => cases h
  | directoryScan listing =>
    simp only [next] at h
    split at h
    · cases h
    · exact if_neg ‹_›
  | _ => rfl

theorem lined_step (h : Lined s arr) (a : Move) : Lined (step env s a) (arr ++ arrived s a) := by
  unfold step
  cases hn : next env s a with
  | none =>
    rw [arrived_of_next_none hn, List.append_nil]
    exact h
  | some t => exact lined_goes h (goes_of_next hn)

end Step

theorem lined_start (broker : β) (cmdPrefix : Str) (disk : List (Str × Str)) :
    Lined (start broker cmdPrefix disk) [] where
  served := List.prefix_rfl
  waits := fun _ => rfl
  selected := fun _ hn => absurd hn List.not_mem_nil
  unwatched := fun _ => rfl
  dirScan := fun _ => rfl
  down := fun hp => by cases hp
  halted := fun hp => by cases hp

/-- **First come, first served**: in every run the calls of `callback` are the command files that
arrived first, in the order of their arrival; and until the process stops or dies, the ones that
have arrived since are waiting, in the same order. -/
theorem served_in_order (env : Env β) (broker : β) (cmdPrefix : Str) (disk : List (Str × Str))
    (moves : List Move) :
    let s := run (step env) (start broker cmdPrefix disk) moves
    let arr := arrivals env (start broker cmdPrefix disk) moves
    s.calls.map Prod.fst <+: arr ∧ (¬s.Over → arr = s.calls.map Prod.fst ++ s.waiting) := by
  intro s arr
  have h : Lined s arr :=
    run_records (R := Lined) (fun _ _ a h => lined_step h a) (lined_start broker cmdPrefix disk)
      moves
  exact ⟨h.served, h.waits⟩

end Spooler.Service
