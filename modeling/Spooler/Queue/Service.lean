import Spooler.Queue.FileQueue
import Spooler.Collector.Accept
import Spooler.Foundations.Runs

/-!
# The service and the stop request

`collector::run` with the flag that `loopctrl::to_false` clears from outside,
`txt_collector::accept` statement by statement and `file_queue::scan_files` inside it, as the steps
of one process that interleave freely with clients delivering files, stop requests and interrupted
system calls. The process is the one that executes the loop (the child, when `run` is asked to work
in the background).

`delivered`, `removed` and `calls` record what happened: the files that were ever put into the work
directory, those removed by `accept`, and the packets handed to `callback`. A client may use a name
again; results that need each name used once say so (`Fresh`).
-/

namespace Spooler

open Foundations

variable {β : Type}

/-! ## `accept` in parts -/

namespace TxtCollector

/-- The part of `accept` that reads the packet of the file. -/
def readFile (tmpName : Str) : Exec Excp (TxtCollector β) TxtReader.ReadResult := do
  let c ← get
  let res := TxtReader.readPacket (c.disk.lookup tmpName)
  set { c with failure := false, mute := false, packet := res.reader.pkt }
  pure res

/-- The part that removes the file, or notes why it is left. -/
def removeFile (env : Env β) (tmpName : Str) (res : TxtReader.ReadResult) :
    Exec Excp (TxtCollector β) PUnit :=
  tryCatch
    (do
      match res.excp with
      | some e => throw e
      | none => pure ()
      sysUnlink tmpName
      modify fun c => { c with cmdfile := env.workDir ++ tmpName })
    (fun err => do
      if err.isA .cortarPapelExp then
        modify fun c => { c with failure := true, mute := true }
      else
        sysUnlink tmpName
        modify fun c => { c with cmdfile := env.workDir ++ tmpName }
        if !res.eof then modify fun c => { c with failure := true })

/-- The part that has the packet served. -/
def respond (env : Env β) (draw : Draw) : Exec Excp (TxtCollector β) CollectorCode := do
  modify (callback env draw)
  modify fun c => { c with cmdfile := [] }
  pure .running

theorem accept_eq (env : Env β) (draw : Draw) (tmpName : Str) :
    accept env draw tmpName = (do
      let res ← readFile tmpName
      removeFile env tmpName res
      respond env draw) := by
  rfl

/-- The packet of a file, and whether it counts as failed. -/
def readingOf (data : Str) : RequestPacket × Bool :=
  let res := TxtReader.readPacket (some data)
  (res.reader.pkt, res.excp.isSome && !res.eof)

theorem exec_readFile (tmpName : Str) (c : TxtCollector β) :
    exec (readFile tmpName) c = (.ok (TxtReader.readPacket (c.disk.lookup tmpName)),
      { c with
        failure := false, mute := false
        packet := (TxtReader.readPacket (c.disk.lookup tmpName)).reader.pkt }) := rfl

/-- **A file that is there is removed**, whatever was read. -/
theorem exec_removeFile {env : Env β} {tmpName data' : Str} {c : TxtCollector β}
    (data : Option Str) (h : c.disk.lookup tmpName = some data') :
    let res := TxtReader.readPacket data
    exec (removeFile env tmpName res) c = (.ok (), { c with
      failure := (res.excp.isSome && !res.eof) || c.failure
      cmdfile := env.workDir ++ tmpName
      disk := c.disk.filter fun f => f.1 ≠ tmpName }) := by
  intro res
  have hnc : ∀ e, res.excp = some e → e.isA .cortarPapelExp = false :=
    fun e he => TxtReader.readPacket_excp_not_cortar he
  clear_value res
  rcases hx : res.excp with _ | e
  · simp only [removeFile, hx, sysUnlink, exec_tryCatch, exec_bind, exec_get, exec_set,
      exec_modify, h, Option.isSome_some, if_true]
    rfl
  · simp only [removeFile, hx, sysUnlink, exec_tryCatch, exec_bind, exec_throw, exec_get, exec_set,
      exec_modify, h, hnc e hx, Option.isSome_some, if_true, Bool.false_eq_true, if_false]
    rcases res.eof with _ | _ <;> rfl

/-- Where there is none, the second `unlink` throws as well. -/
theorem exec_removeFile_missing {env : Env β} {tmpName : Str} {c : TxtCollector β}
    (data : Option Str) (h : c.disk.lookup tmpName = none) :
    exec (removeFile env tmpName (TxtReader.readPacket data)) c = (.error missingFile, c) := by
  have hnc : ∀ e, (TxtReader.readPacket data).excp = some e → e.isA .cortarPapelExp = false :=
    fun e he => TxtReader.readPacket_excp_not_cortar he
  have hmissing : missingFile.isA .cortarPapelExp = false := rfl
  generalize TxtReader.readPacket data = res at hnc
  rcases hx : res.excp with _ | e
  · simp [removeFile, hx, sysUnlink, exec_tryCatch, exec_bind, h, hmissing]
  · simp [removeFile, hx, sysUnlink, exec_tryCatch, exec_bind, h, hnc e hx]

end TxtCollector

/-! ## The process and its surroundings -/

/-- Where the process stands. -/
inductive Place
  /-- In `run`, in front of `loopctrl::to_true`. -/
  | entering
  /-- At the test of the loop of `run`. -/
  | looping
  /-- At the test of the loop of `accept`. -/
  | testing
  /-- At the test of the loop of `scan_files`. -/
  | scanning
  /-- Behind `directory_scan`, with its result. -/
  | scanned (gotOne : Bool)
  /-- In `kernel_scan`, behind `start_monitoring`. -/
  | polling
  /-- Behind the loop of `scan_files`. -/
  | leaving
  /-- Behind the loop of `accept`, with the name it ended with. -/
  | rechecking (name : Str)
  /-- In front of the opening of the file. -/
  | reading (name : Str)
  /-- In front of its removal. -/
  | removing (name : Str) (res : TxtReader.ReadResult)
  /-- In front of `callback`. -/
  | serving (name : Str)
  /-- Back in `run`, `accept` having returned `COLLECTOR_STOP`. -/
  | stopping
  | returned (code : CollectorCode)
  | terminated (e : Excp)
  deriving DecidableEq

/-- A call of `callback`: the file, the packet and whether reading it failed. -/
abbrev Call := Str × RequestPacket × Bool

/-- The process with its surroundings. -/
structure Service (β : Type) where
  collector : TxtCollector β
  fq : FileQueue
  /-- The names of the unread events of the watch. -/
  events : List Str := []
  /-- The flag in shared memory. -/
  flag : Bool := false
  /-- `m_running`. -/
  running : Bool := true
  /-- `code` of `run`. -/
  code : CollectorCode := .running
  place : Place := .entering
  delivered : List (Str × Str)
  removed : List (Str × Str) := []
  calls : List Call := []

/-- The steps of the service. -/
inductive Move
  /-- A client puts a file into the directory, in the place of the one of that name if there is one,
  by a rename: two of them are two events. -/
  | deliver (name data : Str)
  /-- `loopctrl::to_false`, from a signal handler or another process. -/
  | toFalse
  /-- `select` is interrupted. -/
  | interrupt
  /-- A system call of `scan_files` fails. -/
  | fail (e : Excp)
  /-- One `readdir` pass, with the entries in the order delivered. -/
  | directoryScan (listing : List Str)
  /-- `read` delivers the first `k` unread events; none on a timeout. -/
  | kernelScan (k : Nat)
  /-- The process goes on; `draw` is what a session opened now would draw. -/
  | advance (draw : Draw)

namespace Service

/-- The names of the files in the work directory. -/
def names (s : Service β) : List Str := s.collector.disk.map Prod.fst

/-- `scan_files` in front of a scan: leave, read the directory next, or add the watch. -/
def scan (s : Service β) : Option (Service β) :=
  if s.fq.queue ≠ [] then some { s with place := .leaving }
  else if s.fq.scanType = .eventScan then
    some { s with fq := s.fq.startMonitoring, place := .polling }
  else none

/-- The last lines of `scan_files`, and what the loop of `accept` makes of the name. -/
def leave (s : Service β) : Service β :=
  match s.fq.queue with
  | [] => { s with place := .testing }
  | name :: rest =>
    { s with
      fq := { s.fq with queue := rest }
      place := if name.isEmpty then .testing else .rechecking name }

/-- The file `name` is removed. -/
def remove (env : Env β) (name : Str) (res : TxtReader.ReadResult) (s : Service β) : Service β :=
  match exec (TxtCollector.removeFile env name res) s.collector with
  | (.ok _, c) => { s with
      collector := c
      removed := s.removed ++ s.collector.disk.filter fun f => f ∉ c.disk
      place := .serving name }
  | (.error e, c) => { s with collector := c, place := .terminated e }

/-- The packet of the file `name` is served. -/
def serve (env : Env β) (draw : Draw) (name : Str) (s : Service β) : Service β :=
  { s with
    collector := (exec (TxtCollector.respond env draw) s.collector).2
    code := .running
    place := .looping
    calls := s.calls ++ [(name, s.collector.packet, s.collector.failure)] }

/-- The next step of the process, where it has one of its own. -/
def advance (env : Env β) (draw : Draw) (s : Service β) : Option (Service β) :=
  match s.place with
  | .entering => some { s with flag := true, place := .looping }
  | .looping => some { s with place := if s.running then .testing else .returned s.code }
  | .testing => some { s with
      running := s.flag, place := if s.flag then .scanning else .rechecking [] }
  | .scanning => s.scan
  | .scanned gotOne => some { s with fq := s.fq.switchScan gotOne, place := .scanning }
  | .polling => none
  | .leaving => some s.leave
  | .rechecking name => some { s with
      running := s.flag, place := if s.flag then .reading name else .stopping }
  | .reading name => some { s with
      collector := (exec (TxtCollector.readFile name) s.collector).2
      place := .removing name (TxtReader.readPacket (s.collector.disk.lookup name)) }
  | .removing name res => some (s.remove env name res)
  | .serving name => some (s.serve env draw name)
  | .stopping => some { s with flag := false, code := .stop, place := .looping }
  | .returned _ => none
  | .terminated _ => none

/-- A step, where it is enabled. -/
def next (env : Env β) (s : Service β) : Move → Option (Service β)
  | .deliver name data => some { s with
      collector := s.collector.deliver name data
      events := if s.fq.watch then s.events ++ [name] else s.events
      delivered := s.delivered ++ [(name, data)] }
  | .toFalse => some { s with flag := false }
  | .interrupt => if s.place = .polling then some { s with place := .leaving } else none
  | .fail e =>
    if s.place = .scanning ∨ s.place = .polling then some { s with place := .terminated e }
    else none
  | .directoryScan listing =>
    if s.place = .scanning ∧ s.fq.queue = [] ∧ s.fq.scanType = .dirScan ∧
        listing.Perm s.names then
      some { s with
        fq := (s.fq.directoryScan listing).2, place := .scanned (s.fq.directoryScan listing).1 }
    else none
  | .kernelScan k =>
    if s.place = .polling then
      some { s with
        fq := s.fq.kernelScan (s.events.take k), events := s.events.drop k, place := .scanning }
    else none
  | .advance draw => s.advance env draw

/-- A step; one that is not enabled changes nothing. -/
def step (env : Env β) (s : Service β) (a : Move) : Service β := (next env s a).getD s

/-- The step delivers no file under a name that was used before. -/
def Fresh (s : Service β) : Move → Prop
  | .deliver name _ => name ∉ s.delivered.map Prod.fst
  | _ => True

instance (s : Service β) : (a : Move) → Decidable (Fresh s a)
  | .deliver name _ => inferInstanceAs (Decidable (name ∉ s.delivered.map Prod.fst))
  | .toFalse | .interrupt | .fail _ | .directoryScan _ | .kernelScan _ | .advance _ =>
    inferInstanceAs (Decidable True)

/-- The service in front of `run`, on a work directory with some files in it. -/
def start (broker : β) (cmdPrefix : Str) (disk : List (Str × Str)) : Service β where
  collector := { broker := broker, disk := disk }
  fq := { cmdPrefix := cmdPrefix }
  delivered := disk

end Service

end Spooler
