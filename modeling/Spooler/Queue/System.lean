import Spooler.Queue.FileQueue
import Spooler.Collector.Accept
import Spooler.Foundations.Runs

/-!
# The collector, its queue and its clients

The spooler and its surroundings as one system, in steps that interleave freely: a client delivers
a file into the work directory; `scan_files` reads the directory, switches to events, adds the
watch, reads events and pops a name; `accept` processes it. The kernel is assumed to keep one
event, in order, for each delivery made while the watch is there, and none for earlier ones. An
exception that leaves `accept` passes through `collector::run` and `main`, which throw it on: it
ends the process.
-/

namespace Spooler

open Foundations

variable {β : Type}

/-- Where `scan_files` and `accept` stand. -/
inductive Pc
  /-- At the test of the loop of `scan_files`. -/
  | loop
  /-- Behind `directory_scan`, with its result. -/
  | scanned (gotOne : Bool)
  /-- In `kernel_scan`, behind `start_monitoring`. -/
  | polling
  /-- In `accept`, with the name that was popped. -/
  | processing (name : Str)
  /-- Ended by an exception. -/
  | terminated (e : Excp)
  deriving DecidableEq

/-- The spooler with its surroundings. -/
structure Sys (β : Type) where
  collector : TxtCollector β
  fq : FileQueue
  /-- The names of the unread events of the watch. -/
  events : List Str := []
  pc : Pc := .loop
  /-- The files that `accept` removed. -/
  consumed : List Str := []

/-- The steps of the system. -/
inductive Act
  /-- A client renames a file into the directory, or writes and closes one there. -/
  | deliver (name data : Str)
  /-- One `readdir` pass, with the entries in the order delivered. -/
  | directoryScan (listing : List Str)
  | switchScan
  | startMonitoring
  /-- `read` delivers the first `k` unread events; none on a timeout. -/
  | kernelScan (k : Nat)
  | pop
  | accept (draw : Draw)

namespace Sys

/-- The names of the files in the work directory. -/
def names (s : Sys β) : List Str := s.collector.disk.map Prod.fst

/-- The files that the prefix selects are the command files. -/
def isCmd (s : Sys β) (name : Str) : Bool := s.fq.selects name

/-- A step, where it is enabled. -/
def next (env : Env β) (s : Sys β) : Act → Option (Sys β)
  | .deliver name data =>
    some { s with
      collector := s.collector.deliver name data
      events := if s.fq.watch then s.events ++ [name] else s.events }
  | .directoryScan listing =>
    if s.pc = .loop ∧ s.fq.queue = [] ∧ s.fq.scanType = .dirScan ∧ listing.Perm s.names then
      let (gotOne, fq) := s.fq.directoryScan listing
      some { s with fq := fq, pc := .scanned gotOne }
    else none
  | .switchScan =>
    match s.pc with
    | .scanned gotOne => some { s with fq := s.fq.switchScan gotOne, pc := .loop }
    | _ => none
  | .startMonitoring =>
    if s.pc = .loop ∧ s.fq.queue = [] ∧ s.fq.scanType = .eventScan then
      some { s with fq := s.fq.startMonitoring, pc := .polling }
    else none
  | .kernelScan k =>
    if s.pc = .polling then
      some { s with
        fq := s.fq.kernelScan (s.events.take k), events := s.events.drop k, pc := .loop }
    else none
  | .pop =>
    match s.pc, s.fq.queue with
    | .loop, name :: rest =>
      some { s with fq := { s.fq with queue := rest }, pc := .processing name }
    | _, _ => none
  | .accept draw =>
    match s.pc with
    | .processing name =>
      match exec (TxtCollector.accept env draw name) s.collector with
      | (.ok _, c) => some { s with
          collector := c
          pc := .loop
          consumed :=
            if name ∈ s.names ∧ name ∉ c.disk.map Prod.fst then s.consumed ++ [name]
            else s.consumed }
      | (.error e, c) => some { s with collector := c, pc := .terminated e }
    | _ => none

/-- A step; one that is not enabled changes nothing. -/
def step (env : Env β) (s : Sys β) (a : Act) : Sys β := (next env s a).getD s

/-- The spooler as it starts on a work directory with some files in it. -/
def start (broker : β) (cmdPrefix : Str) (disk : List (Str × Str)) : Sys β where
  collector := { broker := broker, disk := disk }
  fq := { cmdPrefix := cmdPrefix }

theorem mem_names_iff {s : Sys β} {name : Str} :
    name ∈ s.names ↔ s.collector.disk.lookup name ≠ none := by
  constructor
  · intro hmem hnone
    obtain ⟨f, hf, rfl⟩ := List.mem_map.1 hmem
    simpa using List.lookup_eq_none_iff.1 hnone f hf
  · intro hsome
    by_contra hmem
    refine hsome (List.lookup_eq_none_iff.2 fun f hf => ?_)
    have hne : name ≠ f.1 := fun h => hmem (h ▸ List.mem_map_of_mem hf)
    simpa using hne

theorem mem_names_of_lookup {s : Sys β} {name data : Str}
    (h : s.collector.disk.lookup name = some data) : name ∈ s.names := by
  rw [mem_names_iff, h]
  simp

/-! ## What a step does -/

section Steps

variable {env : Env β} {s t : Sys β}

theorem next_directoryScan {listing : List Str} (h : next env s (.directoryScan listing) = some t) :
    s.pc = .loop ∧ s.fq.queue = [] ∧ listing.Perm s.names ∧
      t = { s with fq := (s.fq.directoryScan listing).2
                   pc := .scanned (listing.any s.fq.selects) } := by
  simp only [next] at h
  split at h
  · obtain ⟨hp, hq, -, hl⟩ := ‹_ ∧ _›
    exact ⟨hp, hq, hl, (Option.some.inj h).symm⟩
  · cases h

theorem next_switchScan (h : next env s .switchScan = some t) :
    ∃ gotOne, s.pc = .scanned gotOne ∧
      t = { s with fq := s.fq.switchScan gotOne, pc := .loop } := by
  simp only [next] at h
  split at h
  · exact ⟨_, ‹_›, (Option.some.inj h).symm⟩
  · cases h

theorem next_startMonitoring (h : next env s .startMonitoring = some t) :
    s.pc = .loop ∧ s.fq.scanType = .eventScan ∧
      t = { s with fq := s.fq.startMonitoring, pc := .polling } := by
  simp only [next] at h
  split at h
  · obtain ⟨hp, -, ht⟩ := ‹_ ∧ _›
    exact ⟨hp, ht, (Option.some.inj h).symm⟩
  · cases h

theorem next_kernelScan {k : Nat} (h : next env s (.kernelScan k) = some t) :
    s.pc = .polling ∧ t = { s with
      fq := s.fq.kernelScan (s.events.take k), events := s.events.drop k, pc := .loop } := by
  simp only [next] at h
  split at h
  · exact ⟨‹_›, (Option.some.inj h).symm⟩
  · cases h

theorem next_pop (h : next env s .pop = some t) :
    ∃ name rest, s.pc = .loop ∧ s.fq.queue = name :: rest ∧
      t = { s with fq := { s.fq with queue := rest }, pc := .processing name } := by
  simp only [next] at h
  split at h
  · exact ⟨_, _, ‹_›, ‹_›, (Option.some.inj h).symm⟩
  · cases h

/-- **The step of `accept`**: a file that is there is served and removed; a name without a file
ends the process. -/
theorem next_accept {draw : Draw} (h : next env s (.accept draw) = some t) :
    ∃ name, s.pc = .processing name ∧
      ((∃ data, s.collector.disk.lookup name = some data ∧ t = { s with
          collector := TxtCollector.afterAccept env draw name data s.collector
          pc := .loop
          consumed := s.consumed ++ [name] }) ∨
        (s.collector.disk.lookup name = none ∧ ∃ e c, c.disk = s.collector.disk ∧
          t = { s with collector := c, pc := .terminated e })) := by
  simp only [next] at h
  cases hpc : s.pc with
  | processing name =>
    refine ⟨name, rfl, ?_⟩
    simp only [hpc] at h
    rcases hd : s.collector.disk.lookup name with _ | data
    · rw [TxtCollector.exec_accept_missing hd] at h
      refine .inr ⟨rfl, _, _, ?_, (Option.some.inj h).symm⟩
      rfl
    · rw [TxtCollector.exec_accept_found hd] at h
      have hin : name ∈ s.names := mem_names_of_lookup hd
      have hout : name ∉ (TxtCollector.afterAccept env draw name data s.collector).disk.map
          Prod.fst := by
        simp [TxtCollector.afterAccept]
      have ht := (Option.some.inj h).symm
      rw [if_pos ⟨hin, hout⟩] at ht
      exact .inl ⟨data, rfl, ht⟩
  | _ => simp [hpc] at h

end Steps

/-- A property kept by the enabled steps is kept by all. -/
theorem step_of_next {env : Env β} {s : Sys β} {a : Act} {P : Sys β → Prop} (hs : P s)
    (h : ∀ t, next env s a = some t → P t) : P (step env s a) := by
  unfold step
  rcases hn : next env s a with _ | t
  · exact hs
  · exact h t hn

end Sys

end Spooler
