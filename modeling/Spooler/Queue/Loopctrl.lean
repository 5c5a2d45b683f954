import Spooler.Queue.Steps
import Spooler.Foundations.Runs

/-!
# The flag in shared memory

`loopctrl` (`loopctrl.cc`): each of `to_true`, `to_false` and `running` attaches the block once more
and never detaches it, and none of them can tell a failing `shmat`, since what is compared with -1
is the first field of the block and not the address. The service of `Spooler.Queue.Service` is put
on this flag (`Linked`): it runs as before (`service_linked`) for as long as blocks can be attached,
and **a process that may attach `limit` blocks serves fewer than `limit / 2` commands and is then
killed by its next look at the flag, without an exception of `loopctrl`** (`served_le_limit`).
-/

namespace Spooler

open Foundations

variable {β : Type}

/-- `lp_struct`, as it lies in the shared block: all zero when `shmget` has made it. -/
structure LpStruct where
  handler : Int := 0
  keepRunning : Bool := false
  procId : Int := 0
  deriving DecidableEq, Repr

/-- The shared block and the process that attaches it. -/
structure Shm where
  block : LpStruct := {}
  /-- The addresses at which the block is attached. -/
  attached : Nat := 0
  /-- How many blocks the process may have attached. -/
  limit : Nat
  errno : Int := 0
  deriving DecidableEq, Repr

/-- How a function of `loopctrl` can end other than by returning. -/
inductive Fault
  /-- The address -1 is read. -/
  | segv
  | excp (e : Excp)
  deriving DecidableEq

namespace Loopctrl

/-- `loopctrl::err_shmat`, with the codes `EACCES`, `EINVAL`, `EMFILE` and `ENOMEM`. -/
def errShmat (code : Int) : Str :=
  if code = 13 then "Acesso ao bloco de memoria negado.".toList
  else if code = 22 then "Argumentos invalidos para acesso ao bloco de memoria.".toList
  else if code = 24 then "Processo excedeu qtde. de blocos compartilhados acessados.".toList
  else if code = 12 then "Memoria insuficiente.".toList
  else "Erro desconhecido (shmat(...)).".toList

/-- `shmat`: whether it succeeds. -/
def shmat : Exec Fault Shm Bool := do
  let m ← get
  if m.attached < m.limit then
    set { m with attached := m.attached + 1 }
    pure true
  else pure false

/-- The lines that `to_true`, `to_false` and `running` begin with. -/
def attach : Exec Fault Shm Unit := do
  if ← shmat then
    let m ← get
    if m.block.handler = -1 then
      throw (.excp (.spooler .loopctrlExp (errShmat m.errno)))
  else throw .segv

/-- What the three functions do: attach the block, then use it. -/
def withBlock {α : Type} (f : LpStruct → α × LpStruct) : Exec Fault Shm α := do
  attach
  let m ← get
  set { m with block := (f m.block).2 }
  pure (f m.block).1

/-- `loopctrl::to_true`. -/
def toTrue : Exec Fault Shm Unit := withBlock fun b => ((), { b with keepRunning := true })

/-- `loopctrl::to_false`. -/
def toFalse : Exec Fault Shm Unit := withBlock fun b => ((), { b with keepRunning := false })

/-- `loopctrl::running`. -/
def running : Exec Fault Shm Bool := withBlock fun b => (b.keepRunning, b)

/-- With a block whose first field nobody has written. -/
theorem exec_withBlock {α : Type} (f : LpStruct → α × LpStruct) {m : Shm}
    (h : m.block.handler = 0) :
    exec (withBlock f) m = if m.attached < m.limit then
      (.ok (f m.block).1, { m with block := (f m.block).2, attached := m.attached + 1 })
      else (.error .segv, m) := by
  by_cases hl : m.attached < m.limit
  · simp [withBlock, attach, shmat, exec_bind, hl, h]
    rfl
  · simp [withBlock, attach, shmat, exec_bind, hl]

end Loopctrl

/-! ## The service on the flag -/

/-- The service with the shared block; `fault` is what has killed the process. -/
structure Linked (β : Type) where
  service : Service β
  shm : Shm
  fault : Option Fault := none

namespace Linked

/-- What a step of the service does with `loopctrl`. -/
def look (s : Service β) : Move → Exec Fault Shm Unit
  | .toFalse => Loopctrl.toFalse
  | .advance _ =>
    match s.place with
    | .entering => Loopctrl.toTrue
    | .testing => discard Loopctrl.running
    | .rechecking _ => discard Loopctrl.running
    | .stopping => Loopctrl.toFalse
    | _ => pure ()
  | _ => pure ()

/-- A step of the service on the flag as it lies in the block. -/
def step (env : Env β) (p : Linked β) (a : Move) : Linked β :=
  if p.fault.isSome then p
  else
    match exec (look p.service a) p.shm with
    | (.ok _, shm) =>
      { p with
        service := Service.step env { p.service with flag := p.shm.block.keepRunning } a
        shm := shm }
    | (.error e, shm) => { p with shm := shm, fault := some e }

/-- The process in front of `run`, with a block as `shmget` makes it. -/
def start (broker : β) (cmdPrefix : Str) (disk : List (Str × Str)) (limit : Nat) : Linked β where
  service := Service.start broker cmdPrefix disk
  shm := { limit := limit }

/-- How often the process has looked at the flag since the last call, at least. -/
def due : Place → Nat
  | .entering => 0
  | .looping | .testing | .returned _ | .terminated _ => 1
  | .scanning | .scanned _ | .polling | .leaving | .rechecking _ => 2
  | .reading _ | .removing _ _ | .serving _ | .stopping => 3

/-- The process lives: the flag is the one in the block, and its looks have been counted. -/
structure Counted (limit : Nat) (s : Service β) (m : Shm) : Prop where
  handler : m.block.handler = 0
  flag : s.flag = m.block.keepRunning
  count : 2 * s.calls.length + due s.place ≤ m.attached
  entering : s.place = .entering → s.calls = []
  bound : m.attached ≤ limit
  limit : m.limit = limit

section Step

variable {env : Env β} {s t : Service β} {m m' : Shm} {a : Move} {limit : Nat}

/-- A look at the flag attaches the block, if that is still possible. -/
theorem exec_withBlock_ok {α : Type} {f : LpStruct → α × LpStruct} {x : α} (h : Counted limit s m)
    (hok : exec (Loopctrl.withBlock f) m = (.ok x, m')) :
    m.attached < m.limit ∧
      m' = { m with block := (f m.block).2, attached := m.attached + 1 } := by
  rw [Loopctrl.exec_withBlock f h.handler] at hok
  by_cases hl : m.attached < m.limit
  · rw [if_pos hl] at hok
    cases hok
    exact ⟨hl, rfl⟩
  · rw [if_neg hl] at hok
    cases hok

theorem exec_discard_ok {x : Exec Fault Shm Bool} {u : Unit}
    (h : exec (discard x) m = (.ok u, m')) : ∃ b, exec x m = (.ok b, m') := by
  unfold discard at h
  rw [show (Functor.mapConst () x : Exec Fault Shm Unit) = (fun _ => ()) <$> x from rfl,
    exec_map] at h
  rcases hx : exec x m with ⟨⟨e⟩ | ⟨b⟩, m₁⟩
  · rw [hx] at h
    cases h
  · rw [hx] at h
    cases h
    exact ⟨b, rfl⟩

/-- A step without a look at the flag. -/
theorem Counted.goto (h : Counted limit s m) (hf : t.flag = s.flag) (hc : t.calls = s.calls)
    (hd : due t.place ≤ due s.place) (he : t.place ≠ .entering) : Counted limit t m where
  handler := h.handler
  flag := hf.trans h.flag
  count := by
    have := h.count
    rw [hc]
    omega
  entering := fun hp => absurd hp he
  bound := h.bound
  limit := h.limit

/-- A step with a look at the flag. -/
theorem Counted.looked (h : Counted limit s m) (hl : m.attached < m.limit) {b : LpStruct}
    (hb : b.handler = 0) (hf : t.flag = b.keepRunning) (hc : t.calls = s.calls)
    (hd : due t.place ≤ due s.place + 1) (he : t.place ≠ .entering) :
    Counted limit t { m with block := b, attached := m.attached + 1 } where
  handler := hb
  flag := hf
  count := by
    have := h.count
    rw [hc]
    simp only
    omega
  entering := fun hp => absurd hp he
  bound := h.limit ▸ hl
  limit := h.limit

/-- **Every look at the flag is counted.** -/
theorem counted_goes (h : Counted limit s m) (hg : Service.Goes env s a t) {u : Unit}
    (hok : exec (look s a) m = (.ok u, m')) : Counted limit t m' := by
  cases hg with
  | toFalse =>
    rw [look, Loopctrl.toFalse] at hok
    obtain ⟨hl, rfl⟩ := exec_withBlock_ok h hok
    exact {
      handler := h.handler
      flag := rfl
      count := h.count.trans (Nat.le_succ _)
      entering := h.entering
      bound := h.limit ▸ hl
      limit := h.limit }
  | enter hp =>
    simp only [look, hp, Loopctrl.toTrue] at hok
    obtain ⟨hl, rfl⟩ := exec_withBlock_ok h hok
    exact h.looked hl h.handler rfl rfl (by simp [due, hp]) (by simp)
  | test hp | halt hp | recheck hp | stop hp =>
    simp only [look, hp, Loopctrl.running] at hok
    obtain ⟨b, hb⟩ := exec_discard_ok hok
    obtain ⟨hl, rfl⟩ := exec_withBlock_ok h hb
    exact h.looked hl h.handler h.flag rfl (by simp [due, hp]) (by simp)
  | stopped hp =>
    simp only [look, hp, Loopctrl.toFalse] at hok
    obtain ⟨hl, rfl⟩ := exec_withBlock_ok h hok
    exact h.looked hl h.handler rfl rfl (by simp [due, hp]) (by simp)
  | deliver =>
    cases hok
    exact { h with }
  | interrupt hp | directoryScan hp | kernelScan hp =>
    cases hok
    exact h.goto rfl rfl (by simp [due, hp]) (by simp)
  | fail hp =>
    cases hok
    exact h.goto rfl rfl (by rcases hp with hp | hp <;> simp [due, hp]) (by simp)
  | serve hp =>
    simp only [look, hp] at hok
    cases hok
    exact {
      handler := h.handler
      flag := h.flag
      count := by
        have hc := h.count
        simp only [due, hp] at hc
        simp only [Service.serve, due, List.length_append, List.length_singleton]
        omega
      entering := fun hp' => by cases hp'
      bound := h.bound
      limit := h.limit }
  | remove hp =>
    simp only [look, hp] at hok
    cases hok
    unfold Service.remove
    rcases exec (TxtCollector.removeFile env _ _) s.collector with ⟨⟨e⟩ | ⟨u⟩, c⟩
    · exact h.goto rfl rfl (by simp [due, hp]) (by simp)
    · exact h.goto rfl rfl (by simp [due, hp]) (by simp)
  | loop hp | finish hp | found hp | watch hp | switch hp | none hp | nameless hp | take hp
  | read hp =>
    simp only [look, hp] at hok
    cases hok
    exact h.goto rfl rfl (by simp [due, hp]) (by simp)

/-- A step that is not enabled does not look. -/
theorem look_of_next_none (h : Service.next env s a = none) : look s a = pure () := by
  cases a with
  | toFalse => cases h
  | advance draw =>
    simp only [look]
    cases hp : s.place with
    | entering | stopping =>
      simp only [Service.next, Service.advance, hp] at h
      cases h
    | testing | rechecking =>
      simp only [Service.next, Service.advance, hp] at h
      cases h
    | _ => rfl
  | _ => rfl

theorem counted_step (h : Counted limit s m) {u : Unit} (hok : exec (look s a) m = (.ok u, m')) :
    Counted limit (Service.step env s a) m' := by
  unfold Service.step
  cases hn : Service.next env s a with
  | none =>
    rw [look_of_next_none hn] at hok
    cases hok
    exact h
  | some t => exact counted_goes h (Service.goes_of_next hn) hok

/-- What becomes of a look that fails. -/
theorem exec_withBlock_error {α : Type} {f : LpStruct → α × LpStruct} {e : Fault}
    (h : Counted limit s m) (herr : exec (Loopctrl.withBlock f) m = (.error e, m')) :
    e = .segv ∧ m' = m := by
  rw [Loopctrl.exec_withBlock f h.handler] at herr
  by_cases hl : m.attached < m.limit
  · rw [if_pos hl] at herr
    cases herr
  · rw [if_neg hl] at herr
    cases herr
    exact ⟨rfl, rfl⟩

theorem exec_discard_error {x : Exec Fault Shm Bool} {e : Fault}
    (h : exec (discard x) m = (.error e, m')) : exec x m = (.error e, m') := by
  unfold discard at h
  rw [show (Functor.mapConst () x : Exec Fault Shm Unit) = (fun _ => ()) <$> x from rfl,
    exec_map] at h
  rcases hx : exec x m with ⟨⟨e'⟩ | ⟨b⟩, m₁⟩
  · rw [hx] at h
    cases h
    rfl
  · rw [hx] at h
    cases h

/-- **No look raises an exception of `loopctrl`**: one that fails is a read through the address
-1. -/
theorem exec_look_error (h : Counted limit s m) {e : Fault}
    (herr : exec (look s a) m = (.error e, m')) : e = .segv ∧ m' = m := by
  cases a with
  | toFalse =>
    rw [look, Loopctrl.toFalse] at herr
    exact exec_withBlock_error h herr
  | advance draw =>
    simp only [look] at herr
    cases hp : s.place with
    | entering =>
      simp only [hp, Loopctrl.toTrue] at herr
      exact exec_withBlock_error h herr
    | stopping =>
      simp only [hp, Loopctrl.toFalse] at herr
      exact exec_withBlock_error h herr
    | testing | rechecking =>
      simp only [hp, Loopctrl.running] at herr
      exact exec_withBlock_error h (exec_discard_error herr)
    | _ =>
      simp only [hp] at herr
      cases herr
  | _ => cases herr

end Step

/-! ## Runs -/

/-- The process lives and its looks have been counted, or a look has killed it. -/
structure Sound (limit : Nat) (p : Linked β) : Prop where
  counted : Counted limit p.service p.shm
  fault : p.fault = none ∨ p.fault = some .segv

variable {env : Env β} {p : Linked β} {limit : Nat}

theorem step_of_fault (h : p.fault ≠ none) (a : Move) : step env p a = p :=
  if_pos (Option.isSome_iff_ne_none.2 h)

theorem run_of_fault (h : p.fault ≠ none) (moves : List Move) : run (step env) p moves = p := by
  induction moves with
  | nil => rfl
  | cons a moves ih => rw [run_cons, step_of_fault h, ih]

/-- A step on the flag in the block is a step of the service, or the last thing the process does. -/
theorem sound_step (env : Env β) (h : Sound limit p) (hf : p.fault = none) (a : Move) :
    Sound limit (step env p a) ∧
      ((step env p a).fault = none ∧
          (step env p a).service = Service.step env p.service a ∨
        (step env p a).fault = some .segv ∧ (step env p a).service = p.service) := by
  have hsync : { p.service with flag := p.shm.block.keepRunning } = p.service := by
    rw [← h.counted.flag]
  unfold step
  rw [hf, if_neg (by simp), hsync]
  rcases hx : exec (look p.service a) p.shm with ⟨⟨e⟩ | ⟨u⟩, m⟩
  · obtain ⟨rfl, rfl⟩ := exec_look_error h.counted hx
    exact ⟨⟨h.counted, .inr rfl⟩, .inr ⟨rfl, rfl⟩⟩
  · exact ⟨⟨counted_step h.counted hx, .inl rfl⟩, .inl ⟨rfl, rfl⟩⟩

/-- **The service on the flag is the service**, up to the step that kills it. -/
theorem service_linked (env : Env β) (h : Sound limit p) (moves : List Move) :
    Sound limit (run (step env) p moves) ∧
      ∃ done, done <+: moves ∧ ((run (step env) p moves).fault = none → done = moves) ∧
        (run (step env) p moves).service = run (Service.step env) p.service done := by
  induction moves generalizing p with
  | nil => exact ⟨h, [], List.prefix_rfl, fun _ => rfl, rfl⟩
  | cons a moves ih =>
    by_cases hf : p.fault = none
    · obtain ⟨hs, ⟨-, hserv⟩ | ⟨hdead, hserv⟩⟩ := sound_step env h hf a
      · obtain ⟨hrun, done, hpre, hall, hserv'⟩ := ih hs
        refine ⟨hrun, a :: done, List.prefix_cons_inj a |>.2 hpre, fun hn => ?_, ?_⟩
        · rw [hall hn]
        · rw [run_cons, hserv', hserv, run_cons]
      · -- the process is dead, and stays where it is
        have hne : (step env p a).fault ≠ none := by simp [hdead]
        rw [run_cons, run_of_fault hne]
        exact ⟨hs, [], List.nil_prefix, fun hn => absurd hn hne, hserv⟩
    · rw [run_of_fault hf]
      exact ⟨h, [], List.nil_prefix, fun hn => absurd hn hf, rfl⟩

theorem sound_start (broker : β) (cmdPrefix : Str) (disk : List (Str × Str)) (limit : Nat) :
    Sound limit (start broker cmdPrefix disk limit) where
  counted := {
    handler := rfl
    flag := rfl
    count := Nat.le_refl _
    entering := fun _ => rfl
    bound := Nat.zero_le _
    limit := rfl }
  fault := .inl rfl

/-- **The limit on attached blocks is a limit on commands**: on the flag in shared memory the
process runs as the service does, and for as long as it lives as far; with `limit` blocks at its
disposal it serves fewer than half as many commands; and what ends it early is never an exception of
`loopctrl`, always a read through the address -1. -/
theorem served_le_limit (env : Env β) (broker : β) (cmdPrefix : Str) (disk : List (Str × Str))
    (limit : Nat) (moves : List Move) :
    let p := run (step env) (start broker cmdPrefix disk limit) moves
    (∃ done, done <+: moves ∧ (p.fault = none → done = moves) ∧
      p.service = run (Service.step env) (Service.start broker cmdPrefix disk) done) ∧
    (p.service.calls ≠ [] → 2 * p.service.calls.length + 1 ≤ limit) ∧
    (p.fault = none ∨ p.fault = some .segv) := by
  intro p
  obtain ⟨hs, hserv⟩ := service_linked env (sound_start broker cmdPrefix disk limit) moves
  refine ⟨hserv, fun hc => ?_, hs.fault⟩
  have hcount := hs.counted.count
  have hbound := hs.counted.bound
  have hdue : 1 ≤ due p.service.place := by
    cases hp : p.service.place with
    | entering => exact absurd (hs.counted.entering hp) hc
    | _ => simp [due]
  exact Nat.le_trans (Nat.add_le_add_left hdue _) (Nat.le_trans hcount hbound)

end Linked

end Spooler
