import Spooler.Text.Strings

/-!
# The queue of command files

`file_queue` (`filequeue.cc`): a queue of names filled by reading the directory until that finds
nothing, and from then on by the events of an inotify watch, which is added on the first event
scan. The directory listing and the events read are arguments: what they can be is said where the
queue meets the file system (`Spooler.Queue.System`).
-/

namespace Spooler

/-- `enum scan_type`. -/
inductive ScanType
  | dirScan
  | eventScan
  deriving DecidableEq, Repr

/-- `class file_queue`; `watch` says that `m_fd` and `m_wd` have been set. -/
structure FileQueue where
  queue : List Str := []
  scanType : ScanType := .dirScan
  cmdPrefix : Str
  watch : Bool := false
  deriving DecidableEq, Repr

namespace FileQueue

/-- The test of both scans: the name begins with the prefix. -/
def selects (q : FileQueue) (name : Str) : Bool := name.take q.cmdPrefix.length = q.cmdPrefix

/-- `directory_scan` over the entries that `readdir` delivers; the flag is its result. -/
def directoryScan (q : FileQueue) (listing : List Str) : Bool × FileQueue :=
  (listing.any q.selects, { q with queue := q.queue ++ listing.filter q.selects })

/-- The branch of `scan_files` behind `directory_scan`. -/
def switchScan (q : FileQueue) (gotOne : Bool) : FileQueue :=
  if !gotOne then { q with scanType := .eventScan } else q

/-- `start_monitoring`. -/
def startMonitoring (q : FileQueue) : FileQueue := { q with watch := true }

/-- The loop of `kernel_scan` over the names of the events that `read` delivers. -/
def kernelScan (q : FileQueue) (names : List Str) : FileQueue :=
  { q with queue := q.queue ++ names.filter q.selects }

@[simp] theorem directoryScan_cmdPrefix (q : FileQueue) (l : List Str) :
    (q.directoryScan l).2.cmdPrefix = q.cmdPrefix := rfl

@[simp] theorem directoryScan_watch (q : FileQueue) (l : List Str) :
    (q.directoryScan l).2.watch = q.watch := rfl

@[simp] theorem directoryScan_scanType (q : FileQueue) (l : List Str) :
    (q.directoryScan l).2.scanType = q.scanType := rfl

@[simp] theorem directoryScan_queue (q : FileQueue) (l : List Str) :
    (q.directoryScan l).2.queue = q.queue ++ l.filter q.selects := rfl

@[simp] theorem switchScan_queue (q : FileQueue) (b : Bool) : (q.switchScan b).queue = q.queue := by
  cases b <;> rfl

@[simp] theorem switchScan_watch (q : FileQueue) (b : Bool) : (q.switchScan b).watch = q.watch := by
  cases b <;> rfl

@[simp] theorem switchScan_cmdPrefix (q : FileQueue) (b : Bool) :
    (q.switchScan b).cmdPrefix = q.cmdPrefix := by
  cases b <;> rfl

/-- What is selected depends on the prefix only. -/
theorem selects_congr {q q' : FileQueue} (h : q.cmdPrefix = q'.cmdPrefix) (name : Str) :
    q.selects name = q'.selects name := by
  simp only [selects, h]

end FileQueue

end Spooler
