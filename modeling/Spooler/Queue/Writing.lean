import Spooler.Queue.Events
import Spooler.Queue.Order
import Spooler.Foundations.Simulation
import Spooler.Writer.Apart

/-!
# The service and its writer

The service of `Spooler.Queue.Service` with `serializer` behind `callback`: the three files of a
response are made in the work directory, with an event for each where the watch stands, and any
operation on them may fail. When `serializer` raises an exception, `callback` returns
`COLLECTOR_ABORT` and `run` lowers the flag and throws. **Where the prefix keeps responses and
commands apart the service runs as if the responses went elsewhere** (`commands_run`): what it does
about commands is a run of the service without a writer, over the command files alone.
-/

namespace Spooler

open Foundations Serializer

variable {β : Type}

/-! ## The work directory -/

/-- The name that a path of the work directory stands for. -/
def nameOf (workDir path : Str) : Option Str :=
  if workDir.isPrefixOf path then some (path.drop workDir.length) else none

/-- The files of the work directory, by path. -/
def filesOf (workDir : Str) (disk : List (Str × Str)) (path : Str) : Option Str :=
  (nameOf workDir path).bind fun name => disk.lookup name

/-- The file `name` has these contents, or is not there. -/
def store (disk : List (Str × Str)) (name : Str) (contents : Option Str) : List (Str × Str) :=
  (disk.filter fun f => f.1 ≠ name) ++ contents.toList.map fun data => (name, data)

/-- The work directory with the files at these paths as they are in `files`; what lies elsewhere is
left out. -/
def storeAll (workDir : Str) (files : Str → Option Str) (paths : List Str)
    (disk : List (Str × Str)) : List (Str × Str) :=
  paths.foldl (fun disk path => match nameOf workDir path with
    | some name => store disk name (files path)
    | none => disk) disk

/-! ## The service with its writer -/

/-- A response handed to `serializer`, with what became of it. -/
structure Reply where
  name : Str
  response : ResponsePacket
  outcomes : Outcomes
  /-- The exception raised, if any. -/
  raised : Option Excp

/-- The service with its responses. -/
structure Writing (β : Type) where
  service : Service β
  replies : List Reply := []
  /-- The exception that `run` ended with because of a response. -/
  died : Option Excp := none

/-- The steps; the outcomes of the operations on the response files come with the one that makes
them. -/
inductive Deed
  | move (a : Move)
  | serve (draw : Draw) (o : Outcomes)

namespace Writing

/-- `MSG_COLLECTOR_ABORT`, as `run` throws it. -/
def abort : Excp := .spooler .collectorExp "Coletor interrompido.".toList

/-- The response that `callback` has for the packet in hand. -/
def response (env : Env β) (draw : Draw) (c : TxtCollector β) : ResponsePacket :=
  (TxtCollector.serve env draw c.failure c.packet c.session c.broker).response

/-- What `serializer` does with it. -/
def written (env : Env β) (draw : Draw) (o : Outcomes) (c : TxtCollector β) :
    Except Excp PUnit × Dir :=
  call o env.indeterminate c.cmdfile (response env draw c) (filesOf env.workDir c.disk)

/-- The response files of a call, as they are made in the work directory. -/
def put (env : Env β) (cmdfile : Str) (d : Dir) (s : Service β) : Service β :=
  { s with
    collector := { s.collector with
      disk := storeAll env.workDir d.files (outputsOf cmdfile) s.collector.disk }
    events := if s.fq.watch then s.events ++ d.created.filterMap (nameOf env.workDir)
      else s.events }

/-- The packet of the file in hand is served and the response written. -/
def serve (env : Env β) (draw : Draw) (o : Outcomes) (name : Str) (p : Writing β) : Writing β :=
  let c := p.service.collector
  let s := p.service.serve env draw name
  if c.mute then { p with service := s }
  else
    let w := written env draw o c
    let s := put env c.cmdfile w.2 s
    match w.1 with
    | .ok _ =>
      { p with service := s, replies := p.replies ++ [⟨name, response env draw c, o, none⟩] }
    | .error e =>
      { service := { s with flag := false }
        replies := p.replies ++ [⟨name, response env draw c, o, some e⟩]
        died := some abort }

/-- Steps that need no process. -/
def outside : Move → Bool
  | .deliver _ _ => true
  | .toFalse => true
  | _ => false

/-- A step, where it is enabled: the process takes none once it has died, and serves only by
`Deed.serve`. -/
def next (env : Env β) (p : Writing β) : Deed → Option (Writing β)
  | .move a =>
    if p.died.isSome && !outside a then none
    else match a, p.service.place with
      | .advance _, .serving _ => none
      | a, _ => (Service.next env p.service a).map fun s => { p with service := s }
  | .serve draw o =>
    if p.died.isSome then none
    else match p.service.place with
      | .serving name => some (p.serve env draw o name)
      | _ => none

/-- A step; one that is not enabled changes nothing. -/
def step (env : Env β) (p : Writing β) (d : Deed) : Writing β := (next env p d).getD p

/-- The service in front of `run`, on a work directory with some files in it. -/
def start (broker : β) (cmdPrefix : Str) (disk : List (Str × Str)) : Writing β where
  service := Service.start broker cmdPrefix disk

end Writing

/-! ## The command files alone -/

section Lists

variable {α : Type}

/-- A part of a list, as far as it is kept, is a part of what is kept. -/
theorem take_countP (p : α → Bool) (l : List α) (k : Nat) :
    (l.filter p).take ((l.take k).countP p) = (l.take k).filter p := by
  conv_lhs => rw [← List.take_append_drop k l]
  rw [List.filter_append, List.countP_eq_length_filter]
  simp

theorem drop_countP (p : α → Bool) (l : List α) (k : Nat) :
    (l.filter p).drop ((l.take k).countP p) = (l.drop k).filter p := by
  conv_lhs => rw [← List.take_append_drop k l]
  rw [List.filter_append, List.countP_eq_length_filter]
  simp

theorem any_filter_self (p : α → Bool) (l : List α) : (l.filter p).any p = l.any p := by
  induction l with
  | nil => rfl
  | cons a l ih => cases h : p a <;> simp [h, ih]

variable {keep : Str → Bool} {disk : List (Str × Str)} {name : Str}

theorem lookup_filter (keep : Str → Bool) (h : keep name = true) (disk : List (Str × Str)) :
    (disk.filter fun f => keep f.1).lookup name = disk.lookup name := by
  induction disk with
  | nil => rfl
  | cons f disk ih =>
    obtain ⟨n, data⟩ := f
    by_cases hn : name = n
    · subst hn
      simp [h]
    · have hb : (name == n) = false := by simpa using hn
      cases hk : keep n <;> simp [hk, List.lookup_cons, hb, ih]

/-- A file that is not kept can come and go. -/
theorem filter_store (h : keep name = false) (contents : Option Str) :
    (store disk name contents).filter (fun f => keep f.1) =
      disk.filter fun f => keep f.1 := by
  have hnew : (contents.toList.map fun data => (name, data)).filter (fun f => keep f.1) = [] := by
    cases contents <;> simp [h]
  rw [store, List.filter_append, hnew, List.append_nil, List.filter_filter]
  refine List.filter_congr fun f _ => ?_
  by_cases hf : f.1 = name
  · simp [hf, h]
  · simp [hf]

theorem filter_storeAll {workDir : Str} {paths : List Str}
    (h : ∀ path ∈ paths, ∀ n, nameOf workDir path = some n → keep n = false)
    (files : Str → Option Str) (disk : List (Str × Str)) :
    (storeAll workDir files paths disk).filter (fun f => keep f.1) =
      disk.filter fun f => keep f.1 := by
  unfold storeAll
  induction paths generalizing disk with
  | nil => rfl
  | cons path paths ih =>
    rw [List.foldl_cons, ih fun path' hp => h path' (List.mem_cons_of_mem _ hp)]
    cases hn : nameOf workDir path with
    | none => rfl
    | some n => exact filter_store (h path List.mem_cons_self n hn) _

/-- What is missing once the file is taken out. -/
theorem filter_removed (disk : List (Str × Str)) (name : Str) :
    (disk.filter fun f => f ∉ disk.filter fun f => f.1 ≠ name) =
      disk.filter fun f => f.1 = name := by
  refine List.filter_congr fun f hf => ?_
  simp [hf]

theorem filter_filter_comm (p q : Str × Str → Bool) :
    (disk.filter p).filter q = (disk.filter q).filter p := by
  rw [List.filter_filter, List.filter_filter]
  exact List.filter_congr fun f _ => Bool.and_comm _ _

end Lists

namespace Writing

/-- The files of the commands. -/
def only (s : Service β) (disk : List (Str × Str)) : List (Str × Str) :=
  disk.filter fun f => s.fq.selects f.1

/-- The service over the command files alone. -/
def commands (s : Service β) : Service β :=
  { s with
    collector := { s.collector with disk := only s s.collector.disk }
    events := s.events.filter s.fq.selects
    delivered := only s s.delivered }

/-- The command file in hand and those in the queue, with a path the writer can use. -/
structure Parted (env : Env β) (cmdPrefix : Str) (s : Service β) : Prop where
  cmdPrefix : s.fq.cmdPrefix = cmdPrefix
  queue : ∀ name ∈ s.fq.queue, s.fq.selects name = true
  hand : ∀ name ∈ Service.inHand s.place, s.fq.selects name = true
  audible : s.collector.mute = false
  cmdfile : ∀ name, s.place = .serving name →
    s.collector.cmdfile = env.workDir ++ name
  plain : ∀ f ∈ s.delivered, '/' ∉ f.1
  known : (commands s).Known

section Step

variable {env : Env β} {cmdPrefix : Str} {s t : Service β}

open Service (Goes)

/-- What a step of the service means for the commands. -/
def image (s : Service β) : Move → List Move
  | .deliver name data => if s.fq.selects name then [.deliver name data] else []
  | .directoryScan listing => [.directoryScan (listing.filter s.fq.selects)]
  | .kernelScan k => [.kernelScan ((s.events.take k).countP s.fq.selects)]
  | a => [a]

theorem mem_only {f : Str × Str} {l : List (Str × Str)} :
    f ∈ only s l ↔ f ∈ l ∧ s.fq.selects f.1 = true := List.mem_filter

theorem only_deliver (s : Service β) (c : TxtCollector β) (name data : Str) :
    only s (c.deliver name data).disk = if s.fq.selects name then
      ((only s c.disk).filter fun f => f.1 ≠ name) ++ [(name, data)] else only s c.disk := by
  have hdisk : (c.deliver name data).disk = store c.disk name (some data) := rfl
  cases hsel : s.fq.selects name with
  | true =>
    rw [hdisk, store, only, List.filter_append, filter_filter_comm]
    simp [only, hsel]
  | false =>
    rw [hdisk, only, filter_store hsel]
    rfl

theorem commands_deliver (env : Env β) (s : Service β) (name data : Str) :
    commands { s with
        collector := s.collector.deliver name data
        events := if s.fq.watch then s.events ++ [name] else s.events
        delivered := s.delivered ++ [(name, data)] } =
      run (Service.step env) (commands s) (image s (.deliver name data)) := by
  show ({ s with
    collector := { s.collector with
      disk := only s (s.collector.deliver name data).disk }
    events := (if s.fq.watch then s.events ++ [name]
      else s.events).filter s.fq.selects
    delivered := only s (s.delivered ++ [(name, data)]) } : Service β) = _
  rw [only_deliver]
  cases hsel : s.fq.selects name with
  | true =>
    have hg : Service.step env (commands s) (.deliver name data) = _ :=
      Service.step_of_goes .deliver
    have hv : only s (s.delivered ++ [(name, data)]) =
        only s s.delivered ++ [(name, data)] := by simp [only, hsel]
    have he : (if s.fq.watch then s.events ++ [name]
        else s.events).filter s.fq.selects =
          if s.fq.watch then s.events.filter s.fq.selects ++ [name]
          else s.events.filter s.fq.selects := by
      split <;> simp [hsel]
    simp only [image, hsel, if_true, run_cons, run_nil, hg, hv, he]
    rfl
  | false =>
    have hv : only s (s.delivered ++ [(name, data)]) =
        only s s.delivered := by simp [only, hsel]
    have he : (if s.fq.watch then s.events ++ [name]
        else s.events).filter s.fq.selects =
          s.events.filter s.fq.selects := by
      split <;> simp [hsel]
    simp only [image, hsel, Bool.false_eq_true, if_false, run_nil, hv, he]
    rfl

theorem names_commands : (commands s).names = s.names.filter s.fq.selects := by
  rw [Service.names, Service.names, List.filter_map]
  rfl

/-- The passes of a scan over the command files. -/
theorem directoryScan_filter (fq : FileQueue) (listing : List Str) :
    fq.directoryScan (listing.filter fq.selects) = fq.directoryScan listing := by
  rw [FileQueue.directoryScan, FileQueue.directoryScan, any_filter_self, List.filter_filter]
  simp only [Bool.and_self]

theorem kernelScan_take (fq : FileQueue) (events : List Str) (k : Nat) :
    fq.kernelScan ((events.filter fq.selects).take ((events.take k).countP fq.selects)) =
      fq.kernelScan (events.take k) := by
  rw [FileQueue.kernelScan, FileQueue.kernelScan, take_countP, List.filter_filter]
  simp only [Bool.and_self]

/-- The command file in hand is removed from among the command files. -/
theorem commands_remove (h : (commands s).Known) {name : Str} {res : TxtReader.ReadResult}
    (hp : s.place = .removing name res) (hs : s.fq.selects name = true) :
    commands (s.remove env name res) =
      (commands s).remove env name res := by
  obtain ⟨data, rfl⟩ := h.read name res hp
  have hlookup : (commands s).collector.disk.lookup name = s.collector.disk.lookup name :=
    lookup_filter _ hs _
  cases hd : s.collector.disk.lookup name with
  | none =>
    rw [Service.remove_missing data hd, Service.remove_missing data (hlookup.trans hd)]
    rfl
  | some data' =>
    have hout : ∀ disk : List (Str × Str), (only s disk).filter (fun f => f.1 = name) =
        disk.filter fun f => f.1 = name := fun disk => by
      rw [only, List.filter_filter]
      refine List.filter_congr fun f _ => ?_
      by_cases hf : f.1 = name
      · simp [hf, hs]
      · simp [hf]
    have hin : ∀ disk : List (Str × Str), only s (disk.filter fun f => f.1 ≠ name) =
        (only s disk).filter fun f => f.1 ≠ name := fun disk => filter_filter_comm _ _
    rw [Service.remove_eq data hd, Service.remove_eq data (hlookup.trans hd), filter_removed,
      filter_removed]
    show ({ s with
      collector := { s.collector with
        failure := _
        cmdfile := env.workDir ++ name
        disk := only s (s.collector.disk.filter fun f => f.1 ≠ name) }
      events := s.events.filter s.fq.selects
      delivered := only s s.delivered
      removed := s.removed ++ s.collector.disk.filter fun f => f.1 = name
      place := .serving name } : Service β) = _
    rw [hin, ← hout]
    rfl

theorem commands_goes {a : Move} (h : Parted env cmdPrefix s) (hg : Goes env s a t)
    (hs : ∀ draw name, a = .advance draw → s.place ≠ .serving name) :
    commands t =
      run (Service.step env) (commands s) (image s a) := by
  cases hg with
  | deliver => exact commands_deliver env s _ _
  | toFalse => rfl
  | interrupt hp => exact (Service.step_of_goes (s := commands s) (.interrupt hp)).symm
  | fail hp => exact (Service.step_of_goes (s := commands s) (.fail hp)).symm
  | enter hp => exact (Service.step_of_goes (s := commands s) (.enter hp)).symm
  | loop hp hr => exact (Service.step_of_goes (s := commands s) (.loop hp hr)).symm
  | finish hp hr => exact (Service.step_of_goes (s := commands s) (.finish hp hr)).symm
  | test hp hf => exact (Service.step_of_goes (s := commands s) (.test hp hf)).symm
  | halt hp hf => exact (Service.step_of_goes (s := commands s) (.halt hp hf)).symm
  | found hp hq => exact (Service.step_of_goes (s := commands s) (.found hp hq)).symm
  | watch hp hq he => exact (Service.step_of_goes (s := commands s) (.watch hp hq he)).symm
  | none hp hq => exact (Service.step_of_goes (s := commands s) (.none hp hq)).symm
  | nameless hp hq => exact (Service.step_of_goes (s := commands s) (.nameless hp hq)).symm
  | take hp hq hn => exact (Service.step_of_goes (s := commands s) (.take hp hq hn)).symm
  | recheck hp hf => exact (Service.step_of_goes (s := commands s) (.recheck hp hf)).symm
  | stop hp hf => exact (Service.step_of_goes (s := commands s) (.stop hp hf)).symm
  | stopped hp => exact (Service.step_of_goes (s := commands s) (.stopped hp)).symm
  | switch hp =>
    rename_i gotOne
    cases gotOne <;> exact (Service.step_of_goes (s := commands s) (.switch hp)).symm
  | directoryScan hp hq hd hl =>
    rename_i listing
    have hl' : (listing.filter s.fq.selects).Perm (commands s).names :=
      names_commands ▸ hl.filter _
    have hg : Service.step env (commands s)
        (.directoryScan (listing.filter s.fq.selects)) = _ :=
      Service.step_of_goes (.directoryScan hp hq hd hl')
    have hf : (commands s).fq.directoryScan (listing.filter s.fq.selects) =
        s.fq.directoryScan listing := directoryScan_filter _ _
    rw [hf] at hg
    exact hg.symm
  | kernelScan hp =>
    rename_i k
    have hg : Service.step env (commands s)
        (.kernelScan ((s.events.take k).countP s.fq.selects)) = _ :=
      Service.step_of_goes (.kernelScan hp)
    have hk : (commands s).fq.kernelScan ((commands s).events.take
        ((s.events.take k).countP s.fq.selects)) =
          s.fq.kernelScan (s.events.take k) := kernelScan_take _ _ _
    have he : (commands s).events.drop ((s.events.take k).countP s.fq.selects) =
        (s.events.drop k).filter s.fq.selects := drop_countP _ _ _
    rw [hk, he] at hg
    exact hg.symm
  | read hp =>
    rename_i draw name
    have hg : Service.step env (commands s) (.advance draw) = _ := Service.step_of_goes (.read hp)
    have hl : (commands s).collector.disk.lookup name = s.collector.disk.lookup name :=
      lookup_filter _ (h.hand name (by simp [hp, Service.inHand])) _
    rw [TxtCollector.exec_readFile, hl] at hg
    exact hg.symm
  | remove hp =>
    rename_i draw name res
    have hs : s.fq.selects name = true := h.hand name (by simp [hp, Service.inHand])
    rw [commands_remove h.known hp hs]
    have hg : Service.step env (commands s) (.advance draw) = _ :=
      Service.step_of_goes (.remove hp)
    exact hg.symm
  | serve hp => exact absurd hp (hs _ _ rfl)

theorem nameOf_eq_some {workDir path n : Str} (h : nameOf workDir path = some n) :
    path = workDir ++ n := by
  unfold nameOf at h
  split at h
  · rename_i hp
    obtain ⟨t, rfl⟩ := List.isPrefixOf_iff_prefix.1 hp
    rw [List.drop_left' rfl] at h
    rw [← Option.some.inj h]
  · cases h

theorem selects_iff {q : FileQueue} {name : Str} :
    q.selects name = true ↔ q.cmdPrefix <+: name := by
  rw [FileQueue.selects_eq, List.isPrefixOf_iff_prefix]

/-- No file made for a command file is one. -/
theorem selects_output (hapart : Apart env.workDir cmdPrefix) {q : FileQueue}
    (hq : q.cmdPrefix = cmdPrefix) {name : Str} (hplain : '/' ∉ name) (hs : q.selects name = true)
    {path : Str} (hp : path ∈ outputsOf (env.workDir ++ name)) {n : Str}
    (hn : nameOf env.workDir path = some n) : q.selects n = false := by
  rw [Bool.eq_false_iff]
  intro hsel
  rw [selects_iff, hq] at hs hsel
  exact hapart name hplain hs path hp n (nameOf_eq_some hn) hsel

theorem created_subset {o : Outcomes} {indeterminate : PacketType} {path : Str}
    {pkt : ResponsePacket} {files : Str → Option Str} :
    ∀ k ∈ (call o indeterminate path pkt files).2.created, k ∈ outputsOf path := by
  intro k hk
  unfold outputsOf
  cases hpos : Str.find cmdName path with
  | none =>
    have hcall : (call o indeterminate path pkt files).2.created = [] := by
      have hpos' : Str.find "arqcmd".toList path = none := hpos
      simp only [call, serializer, hpos', exec_throw]
    rw [hcall] at hk
    cases hk
  | some pos =>
    have hfiles := (call_files o indeterminate pkt files hpos rfl rfl).1 k hk
    simpa using hfiles

theorem Parted.plain_of_serving (h : Parted env cmdPrefix s) {name : Str}
    (hp : s.place = .serving name) : '/' ∉ name := by
  have hin : name ∈ Service.inHand (commands s).place := by simp [commands, hp, Service.inHand]
  obtain ⟨f, hf, rfl⟩ := List.mem_map.1 (h.known.hand hin)
  exact h.plain f (mem_only.1 hf).1

theorem commands_put {cmdfile : Str} {d : Dir}
    (hout : ∀ path ∈ outputsOf cmdfile, ∀ n, nameOf env.workDir path = some n →
      s.fq.selects n = false)
    (hcreated : ∀ path ∈ d.created, path ∈ outputsOf cmdfile) :
    commands (put env cmdfile d s) = commands s := by
  have hdisk : only s (storeAll env.workDir d.files (outputsOf cmdfile) s.collector.disk) =
      only s s.collector.disk := filter_storeAll hout _ _
  have hnew : (d.created.filterMap (nameOf env.workDir)).filter s.fq.selects = [] := by
    rw [List.filter_eq_nil_iff]
    intro n hn
    obtain ⟨path, hk, hn⟩ := List.mem_filterMap.1 hn
    rw [hout path (hcreated path hk) n hn]
    exact Bool.false_ne_true
  have hevents : (if s.fq.watch then s.events ++ d.created.filterMap (nameOf env.workDir)
      else s.events).filter s.fq.selects = s.events.filter s.fq.selects := by
    split
    · rw [List.filter_append, hnew, List.append_nil]
    · rfl
  show ({ s with
    collector := { s.collector with
      disk := only s (storeAll env.workDir d.files (outputsOf cmdfile) s.collector.disk) }
    events := (if s.fq.watch then s.events ++ d.created.filterMap (nameOf env.workDir)
      else s.events).filter s.fq.selects
    delivered := only s s.delivered } : Service β) = _
  rw [hdisk, hevents]
  rfl

/-- A step that leaves the files as they are, or takes one of the commands. -/
theorem Parted.goto (h : Parted env cmdPrefix s) (hl : (commands t).Known)
    (hp : t.fq.cmdPrefix = s.fq.cmdPrefix) (hd : t.delivered = s.delivered)
    (hq : ∀ name ∈ t.fq.queue, s.fq.selects name = true)
    (hh : ∀ name ∈ Service.inHand t.place, s.fq.selects name = true)
    (hm : t.collector.mute = false)
    (hc : ∀ name, t.place = .serving name → t.collector.cmdfile = env.workDir ++ name) :
    Parted env cmdPrefix t where
  cmdPrefix := hp.trans h.cmdPrefix
  queue := fun name hn => (FileQueue.selects_congr hp name).trans (hq name hn)
  hand := fun name hn => (FileQueue.selects_congr hp name).trans (hh name hn)
  audible := hm
  cmdfile := hc
  plain := hd ▸ h.plain
  known := hl

/-- The names that a client delivers have no slash. -/
def Plain : Move → Prop
  | .deliver name _ => '/' ∉ name
  | _ => True

theorem parted_goes {a : Move} (h : Parted env cmdPrefix s) (hg : Goes env s a t)
    (hs : ∀ draw name, a = .advance draw → s.place ≠ .serving name) (ha : Plain a) :
    Parted env cmdPrefix t := by
  have hl : (commands t).Known := by
    rw [commands_goes h hg hs]
    exact run_preserves (I := Service.Known) (fun _ a hs => Service.known_step hs a) h.known _ _
      (run_mem_visited _ _ _)
  cases hg with
  | deliver =>
    exact {
      cmdPrefix := h.cmdPrefix
      queue := h.queue
      hand := h.hand
      audible := h.audible
      cmdfile := h.cmdfile
      plain := fun f hf => (List.mem_append.1 hf).elim (h.plain f) fun hf => by
        obtain rfl := List.mem_singleton.1 hf
        exact ha
      known := hl }
  | toFalse => exact h.goto hl rfl rfl h.queue h.hand h.audible h.cmdfile
  | directoryScan hp hq hd hp' =>
    refine h.goto hl rfl rfl (fun name hn => ?_) (by simp [Service.inHand]) h.audible (by simp)
    rw [FileQueue.directoryScan_queue, hq, List.nil_append] at hn
    exact (List.mem_filter.1 hn).2
  | kernelScan hp =>
    refine h.goto hl rfl rfl (fun name hn => ?_) (by simp [Service.inHand]) h.audible (by simp)
    exact (List.mem_append.1 hn).elim (h.queue name) fun hn => (List.mem_filter.1 hn).2
  | take hp hq hn =>
    rename_i name rest
    refine h.goto hl rfl rfl (fun n hr => h.queue n (hq ▸ List.mem_cons_of_mem _ hr))
      (fun n hr => ?_) h.audible (by simp)
    have hne : name.isEmpty = false := by simpa using hn
    simp only [Service.inHand, hne, Bool.false_eq_true, if_false, List.mem_singleton] at hr
    rw [hr]
    exact h.queue name (hq ▸ List.mem_cons_self)
  | nameless hp hq =>
    exact h.goto hl rfl rfl (fun n hr => h.queue n (hq ▸ List.mem_cons_of_mem _ hr))
      (by simp [Service.inHand]) h.audible (by simp)
  | recheck hp hf =>
    rename_i name
    refine h.goto hl rfl rfl h.queue (fun n hn => ?_) h.audible (by simp)
    obtain rfl := List.mem_singleton.1 hn
    refine h.hand n ?_
    -- with the flag up there is a name in hand
    have hne : n ≠ [] := by
      rintro rfl
      exact absurd (hf.symm.trans (h.known.down hp)) (by simp)
    simp [hp, Service.inHand, hne]
  | read hp =>
    refine h.goto hl rfl rfl h.queue (fun n hn => h.hand n ?_) rfl (by simp)
    simpa [hp, Service.inHand] using hn
  | remove hp =>
    rename_i draw name res
    have hsel : s.fq.selects name = true := h.hand name (by simp [hp, Service.inHand])
    obtain ⟨data, rfl⟩ := h.known.read name res hp
    cases hd : s.collector.disk.lookup name with
    | none =>
      rw [Service.remove_missing data hd] at hl ⊢
      exact h.goto hl rfl rfl h.queue (by simp [Service.inHand]) h.audible (by simp)
    | some data' =>
      rw [Service.remove_eq data hd] at hl ⊢
      refine h.goto hl rfl rfl h.queue (fun n hn => ?_) h.audible fun n hn => ?_
      · rwa [List.mem_singleton.1 hn]
      · cases hn
        rfl
  | serve hp => exact absurd hp (hs _ _ rfl)
  | switch hp =>
    rename_i gotOne
    refine h.goto hl (FileQueue.switchScan_cmdPrefix _ _) rfl (fun name hn => ?_)
      (by simp [Service.inHand]) h.audible (by simp)
    cases gotOne <;> exact h.queue name hn
  | halt hp hf =>
    exact h.goto hl rfl rfl h.queue (by simp [Service.inHand]) h.audible (by simp)
  | interrupt hp | fail hp | enter hp | loop hp hr | finish hp hr | test hp hf | found hp hq
  | watch hp hq he | none hp hq | stop hp hf | stopped hp =>
    exact h.goto hl rfl rfl h.queue (by simp [Service.inHand]) h.audible (by simp)

/-! ## The writer's steps -/

/-- What a step of the service with its writer can be. -/
inductive Does (env : Env β) : Writing β → Deed → Writing β → Prop
  | move {p : Writing β} {a : Move} {t : Service β} : Goes env p.service a t →
      (∀ draw name, a = .advance draw → p.service.place ≠ .serving name) →
      (p.died = none ∨ outside a = true) → Does env p (.move a) { p with service := t }
  | serve {p : Writing β} {draw : Draw} {o : Outcomes} {name : Str} : p.died = none →
      p.service.place = .serving name → Does env p (.serve draw o) (p.serve env draw o name)

variable {p q : Writing β}

/-- In front of `run` there are the command files of the directory. -/
theorem commands_start (broker : β) (cmdPrefix : Str) (disk : List (Str × Str)) :
    commands (start broker cmdPrefix disk).service =
      Service.start broker cmdPrefix (disk.filter fun f => cmdPrefix.isPrefixOf f.1) := by
  have hsel : ∀ f ∈ disk, (start broker cmdPrefix disk).service.fq.selects f.1 =
      cmdPrefix.isPrefixOf f.1 := fun f _ => FileQueue.selects_eq _ _
  have honly : only (start broker cmdPrefix disk).service disk =
      disk.filter fun f => cmdPrefix.isPrefixOf f.1 := List.filter_congr hsel
  rw [← honly]
  rfl

theorem does_of_next {d : Deed} (h : next env p d = some q) : Does env p d q := by
  cases d with
  | serve draw o =>
    simp only [next] at h
    cases hd : p.died with
    | some e => simp [hd] at h
    | none =>
      cases hp : p.service.place with
      | serving name =>
        simp only [hd, hp, Option.isSome_none, Bool.false_eq_true, if_false] at h
        cases h
        exact .serve hd hp
      | _ => simp [hd, hp] at h
  | move a =>
    simp only [next] at h
    cases hb : p.died.isSome && !outside a with
    | true => simp [hb] at h
    | false =>
      have halive : p.died = none ∨ outside a = true := by
        cases hd : p.died with
        | none => exact .inl rfl
        | some e => exact .inr (by simpa [hd] using hb)
      rw [hb, if_neg Bool.false_ne_true] at h
      split at h
      · cases h
      · rename_i hns
        obtain ⟨t, ht, rfl⟩ := Option.map_eq_some_iff.1 h
        exact .move (Service.goes_of_next ht) (fun draw name ha hp => hns draw name ha hp) halive

/-- What a step means for the commands. -/
def meaning (env : Env β) (p : Writing β) (d : Deed) : List Move :=
  match next env p d with
  | none => []
  | some q =>
    match d with
    | .move a => image p.service a
    | .serve draw _ => .advance draw :: if q.died.isSome then [.toFalse] else []

/-- The deeds of clients whose names have no slash. -/
def Decent : Deed → Prop
  | .move a => Plain a
  | .serve _ _ => True

/-- **A response is no event for the commands**, but the last one, when it could not be written. -/
theorem commands_serve (hapart : Apart env.workDir cmdPrefix) (h : Parted env cmdPrefix p.service)
    (hd : p.died = none) {name : Str} (hp : p.service.place = .serving name) (draw : Draw)
    (o : Outcomes) : commands (p.serve env draw o name).service =
      run (Service.step env) (commands p.service)
        (.advance draw :: if (p.serve env draw o name).died.isSome then [.toFalse] else []) := by
  have hm : p.service.collector.mute = false := h.audible
  have hsel : p.service.fq.selects name = true := h.hand name (by simp [hp, Service.inHand])
  have hput : commands (put env p.service.collector.cmdfile
      (written env draw o p.service.collector).2 (p.service.serve env draw name)) =
        (commands p.service).serve env draw name := by
    refine commands_put (fun path hk n hn => ?_) created_subset
    rw [h.cmdfile name hp] at hk
    exact selects_output hapart h.cmdPrefix (h.plain_of_serving hp) hsel hk hn
  have hstep : Service.step env (commands p.service) (.advance draw) = _ :=
    Service.step_of_goes (.serve hp)
  rw [run_cons, hstep, ← hput]
  simp only [serve, hm, Bool.false_eq_true, if_false]
  rcases (written env draw o p.service.collector).1 with e | u
  · rfl
  · simp [hd]

theorem parted_serve (hapart : Apart env.workDir cmdPrefix) (h : Parted env cmdPrefix p.service)
    (hd : p.died = none) {name : Str} (hp : p.service.place = .serving name) (draw : Draw)
    (o : Outcomes) : Parted env cmdPrefix (p.serve env draw o name).service := by
  have hl : (commands (p.serve env draw o name).service).Known := by
    rw [commands_serve hapart h hd hp]
    exact run_preserves (I := Service.Known) (fun _ a hs => Service.known_step hs a) h.known _ _
      (run_mem_visited _ _ _)
  have hm : p.service.collector.mute = false := h.audible
  simp only [serve, hm, Bool.false_eq_true, if_false] at hl ⊢
  rcases hw : (written env draw o p.service.collector).1 with e | u <;>
  · simp only [hw] at hl ⊢
    exact h.goto hl rfl rfl h.queue (by simp [put, Service.serve, Service.inHand]) h.audible
      (by simp [put, Service.serve])

theorem commands_step (hapart : Apart env.workDir cmdPrefix) (h : Parted env cmdPrefix p.service)
    {d : Deed} (hd : Decent d) : Parted env cmdPrefix (step env p d).service ∧
      commands (step env p d).service =
        run (Service.step env) (commands p.service) (meaning env p d) := by
  unfold step meaning
  cases hn : next env p d with
  | none => exact ⟨h, rfl⟩
  | some q =>
    cases does_of_next hn with
    | move hg hs _ => exact ⟨parted_goes h hg hs hd, commands_goes h hg hs⟩
    | serve hdied hp =>
      exact ⟨parted_serve hapart h hdied hp _ _, commands_serve hapart h hdied hp _ _⟩

end Step

section Runs

variable (env : Env β) (broker : β) {cmdPrefix : Str} {disk : List (Str × Str)}

theorem parted_start (hplain : ∀ f ∈ disk, '/' ∉ f.1) :
    Parted env cmdPrefix (start broker cmdPrefix disk).service where
  cmdPrefix := rfl
  queue := fun _ hn => absurd hn List.not_mem_nil
  hand := fun _ hn => absurd hn List.not_mem_nil
  audible := rfl
  cmdfile := fun _ hp => by cases hp
  plain := hplain
  known := commands_start broker cmdPrefix disk ▸ Service.known_start broker cmdPrefix _

variable (hplain : ∀ f ∈ disk, '/' ∉ f.1) (hapart : Apart env.workDir cmdPrefix)
  {deeds : List Deed} (hdeeds : ∀ d ∈ deeds, Decent d)

include hplain hapart hdeeds

theorem parted_run :
    Parted env cmdPrefix (run (step env) (start broker cmdPrefix disk) deeds).service ∧
    commands (run (step env) (start broker cmdPrefix disk) deeds).service =
      run (Service.step env) (commands (start broker cmdPrefix disk).service)
        (outputs (step env) (meaning env) (start broker cmdPrefix disk) deeds) := by
  refine run_simulates (R := fun (p : Writing β) s =>
      Parted env cmdPrefix p.service ∧ commands p.service = s) (C := Decent) ?_
    ⟨parted_start env broker hplain, rfl⟩ hdeeds
  rintro p s d hd ⟨h, rfl⟩
  exact commands_step hapart h hd

/-- **The responses do not disturb the commands**: where the prefix keeps the two apart, the service
with its writer does about the command files what the service without one does on them alone,
whatever happens to the responses; a response that can not be written is a stop request. -/
theorem commands_run : commands (run (step env) (start broker cmdPrefix disk) deeds).service =
    run (Service.step env)
      (Service.start broker cmdPrefix (disk.filter fun f => cmdPrefix.isPrefixOf f.1))
      (outputs (step env) (meaning env) (start broker cmdPrefix disk) deeds) := by
  rw [← commands_start]
  exact (parted_run env broker hplain hapart hdeeds).2

end Runs

/-- The temporary file of the first response can not be removed: the process ends, and for the
commands this is a stop request behind the first one. -/
theorem commands_run_died :
    let env : Env Unit :=
      { workDir := "/ecf/".toList, trade := fun _ pkt b => (pkt, b), indeterminate := .notTyped }
    let draw : Draw := { valor := 0, strfry := id, strfry_perm := List.Perm.refl }
    let reset : Str := unlines ["<ecf_sgi_begin>".toList, "ecf_reset_request".toList,
      "<ecf_sgi_end>".toList]
    let go : Deed := .move (.advance draw)
    let deeds := [go, go, go, .move (.directoryScan ["arqcmd.1".toList, "leiame".toList]), go, go,
      go, go, go, go, .serve draw { semFalhas with unlinkTmp := some "EACCES".toList }, go]
    let disk := [("arqcmd.1".toList, reset), ("leiame".toList, [])]
    let p := run (step env) (start () "arqcmd".toList disk) deeds
    p.died.isSome ∧ p.service.calls.length = 1 ∧
      commands p.service = run (Service.step env)
        (Service.start () "arqcmd".toList
          (disk.filter fun f => "arqcmd".toList.isPrefixOf f.1))
        (outputs (step env) (meaning env) (start () "arqcmd".toList disk) deeds) :=
  ⟨by decide, by decide, commands_run _ () (by decide)
    (apart_of_contains (by decide) (by decide) (by decide)) (by simp [Decent, Plain])⟩

end Writing

end Spooler
