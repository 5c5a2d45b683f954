import Spooler.Queue.System

/-!
# Delivered files over runs of the system

Two results about the runs of `Sys`, from any work directory:

* **`covered_of_noHandoverDelivery`**: once the watch is there, every command file on disk is in
  the queue, being processed or announced by an unread event, in every run without a delivery
  between the directory pass that finds nothing and the adding of the watch;
* **`survives_iff_filesPresent`**: the process survives, and every file it consumed was answered
  once, exactly in the runs in which a name still has its file when `accept` gets to it.
-/

namespace Spooler.Sys

open Foundations

variable {β : Type} {env : Env β} {s t : Sys β}

/-! ## No file is overlooked -/

/-- Once the watch is there, every command file on disk is known to the collector. -/
def Covered (s : Sys β) : Prop :=
  s.fq.watch = true → ∀ name ∈ s.names, s.isCmd name = true →
    name ∈ s.fq.queue ∨ s.pc = .processing name ∨ name ∈ s.events

/-- The directory is no longer read, or has just been read to no avail, and the watch is not there
yet. -/
def InHandover (s : Sys β) : Prop :=
  s.fq.watch = false ∧ (s.fq.scanType = .eventScan ∨ s.pc = .scanned false)

/-- The step does not deliver a command file during the handover. -/
def NoHandoverDelivery (s : Sys β) : Act → Prop
  | .deliver name _ => InHandover s → s.isCmd name = false
  | _ => True

/-- The invariant behind `Covered`: during the handover there is no command file on disk. -/
structure Watched (s : Sys β) : Prop where
  covered : Covered s
  handover : InHandover s → ∀ name ∈ s.names, s.isCmd name = false

/-- Between two files, every command file on disk is in the queue or announced. -/
theorem Watched.waits (h : Watched s) (hpc : ∀ name, s.pc ≠ .processing name)
    (hw : s.fq.watch = true) {n : Str} (hmem : n ∈ s.names) (hc : s.isCmd n = true) :
    n ∈ s.fq.queue ∨ n ∈ s.events := by
  rcases h.covered hw n hmem hc with hq | hp | he
  · exact .inl hq
  · exact absurd hp (hpc n)
  · exact .inr he

theorem watched_start (broker : β) (cmdPrefix : Str) (disk : List (Str × Str)) :
    Watched (start broker cmdPrefix disk) := by
  refine ⟨fun h => ?_, fun h => ?_⟩
  · simp [start] at h
  · simp [InHandover, start] at h

theorem mem_names_deliver {name data : Str} {c : TxtCollector β} {n : Str}
    (h : n ∈ (c.deliver name data).disk.map Prod.fst) : n = name ∨ n ∈ c.disk.map Prod.fst := by
  simp only [TxtCollector.deliver, List.map_append, List.map_cons, List.map_nil, List.mem_append,
    List.mem_singleton, List.mem_map, List.mem_filter] at h ⊢
  rcases h with ⟨f, ⟨hf, -⟩, rfl⟩ | rfl
  · exact .inr ⟨f, hf, rfl⟩
  · exact .inl rfl

theorem watched_deliver (h : Watched s) {name data : Str}
    (hn : InHandover s → s.isCmd name = false)
    (ht : next env s (.deliver name data) = some t) : Watched t := by
  obtain rfl := Option.some.inj ht
  refine ⟨fun hw n hmem hc => ?_, fun hh n hmem => ?_⟩
  · have hw' : s.fq.watch = true := hw
    simp only [hw', if_true]
    rcases mem_names_deliver hmem with rfl | hmem
    · simp
    · rcases h.covered hw' n hmem hc with hq | hp | he
      · exact .inl hq
      · exact .inr (.inl hp)
      · exact .inr (.inr (List.mem_append_left _ he))
  · rcases mem_names_deliver hmem with rfl | hmem
    · exact hn hh
    · exact h.handover hh n hmem

theorem watched_directoryScan (h : Watched s) {listing : List Str}
    (ht : next env s (.directoryScan listing) = some t) : Watched t := by
  obtain ⟨hpc, -, hperm, rfl⟩ := next_directoryScan ht
  refine ⟨fun hw n hmem hc => ?_, fun ⟨hw, hh⟩ n hmem => ?_⟩
  · rcases h.waits (by simp [hpc]) hw hmem hc with hq | he
    · exact .inl (List.mem_append_left _ hq)
    · exact .inr (.inr he)
  · rcases hh with hev | hsc
    · exact h.handover ⟨hw, .inl hev⟩ n hmem
    · -- the pass found nothing among the entries of the directory
      have hany : listing.any s.fq.selects = false := by simpa using hsc
      have hn : n ∈ listing := hperm.mem_iff.2 hmem
      have hsel : s.fq.selects n = false := by
        simpa using List.any_eq_false.1 hany n hn
      exact hsel

theorem watched_switchScan (h : Watched s) (ht : next env s .switchScan = some t) : Watched t := by
  obtain ⟨gotOne, hpc, rfl⟩ := next_switchScan ht
  have hcmd : ∀ n, (s.fq.switchScan gotOne).selects n = s.fq.selects n :=
    FileQueue.selects_congr (FileQueue.switchScan_cmdPrefix _ _)
  refine ⟨fun hw n hmem hc => ?_, fun ⟨hw, hh⟩ n hmem => ?_⟩
  · rw [FileQueue.switchScan_watch] at hw
    simp only [isCmd, hcmd] at hc
    rw [FileQueue.switchScan_queue]
    rcases h.waits (by simp [hpc]) hw hmem hc with hq | he
    · exact .inl hq
    · exact .inr (.inr he)
  · rw [FileQueue.switchScan_watch] at hw
    have hh' : InHandover s := by
      rcases hh with hev | hsc
      · rcases gotOne with _ | _
        · exact ⟨hw, .inr hpc⟩
        · exact ⟨hw, .inl hev⟩
      · cases hsc
    simp only [isCmd, hcmd]
    exact h.handover hh' n hmem

theorem watched_startMonitoring (h : Watched s) (ht : next env s .startMonitoring = some t) :
    Watched t := by
  obtain ⟨hpc, hev, rfl⟩ := next_startMonitoring ht
  refine ⟨fun _ n hmem hc => ?_, fun ⟨hw, _⟩ => ?_⟩
  · rcases hw : s.fq.watch with _ | _
    · -- the watch is new: the handover has left no command file behind
      have hno : s.isCmd n = false := h.handover ⟨hw, .inl hev⟩ n hmem
      rw [show s.isCmd n = true from hc] at hno
      cases hno
    · rcases h.waits (by simp [hpc]) hw hmem hc with hq | he
      · exact .inl hq
      · exact .inr (.inr he)
  · cases hw

theorem watched_kernelScan (h : Watched s) {k : Nat}
    (ht : next env s (.kernelScan k) = some t) : Watched t := by
  obtain ⟨hpc, rfl⟩ := next_kernelScan ht
  refine ⟨fun hw n hmem hc => ?_, fun ⟨hw, hh⟩ n hmem => ?_⟩
  · rcases h.waits (by simp [hpc]) hw hmem hc with hq | he
    · exact .inl (List.mem_append_left _ hq)
    · rw [← List.take_append_drop k s.events] at he
      rcases List.mem_append.1 he with he | he
      · exact .inl (List.mem_append_right _ (List.mem_filter.2 ⟨he, hc⟩))
      · exact .inr (.inr he)
  · rcases hh with hev | hsc
    · exact h.handover ⟨hw, .inl hev⟩ n hmem
    · cases hsc

theorem watched_pop (h : Watched s) (ht : next env s .pop = some t) : Watched t := by
  obtain ⟨name, rest, hpc, hq, rfl⟩ := next_pop ht
  refine ⟨fun hw n hmem hc => ?_, fun ⟨hw, hh⟩ n hmem => ?_⟩
  · rcases h.waits (by simp [hpc]) hw hmem hc with hin | he
    · rw [hq] at hin
      rcases List.mem_cons.1 hin with rfl | hin
      · exact .inr (.inl rfl)
      · exact .inl hin
    · exact .inr (.inr he)
  · rcases hh with hev | hsc
    · exact h.handover ⟨hw, .inl hev⟩ n hmem
    · cases hsc

theorem watched_accept (h : Watched s) {draw : Draw} (ht : next env s (.accept draw) = some t) :
    Watched t := by
  obtain ⟨name, hpc, hcase⟩ := next_accept ht
  rcases hcase with ⟨data, hd, rfl⟩ | ⟨hd, e, c, hdisk, rfl⟩
  · have hsub : ∀ n ∈ (TxtCollector.afterAccept env draw name data s.collector).disk.map Prod.fst,
        n ∈ s.names ∧ n ≠ name := by
      intro n hmem
      obtain ⟨f, hf, rfl⟩ := List.mem_map.1 hmem
      have hf' := List.mem_filter.1 hf
      exact ⟨List.mem_map_of_mem hf'.1, by simpa using hf'.2⟩
    refine ⟨fun hw n hmem hc => ?_, fun ⟨hw, hh⟩ n hmem => ?_⟩
    · obtain ⟨hmem, hne⟩ := hsub n hmem
      rcases h.covered hw n hmem hc with hq | hp | he
      · exact .inl hq
      · rw [hpc, Pc.processing.injEq] at hp
        exact absurd hp.symm hne
      · exact .inr (.inr he)
    · rcases hh with hev | hsc
      · exact h.handover ⟨hw, .inl hev⟩ n (hsub n hmem).1
      · cases hsc
  · have hnames : ∀ n ∈ c.disk.map Prod.fst, n ∈ s.names := by
      intro n hmem
      rwa [hdisk] at hmem
    refine ⟨fun hw n hmem hc => ?_, fun ⟨hw, hh⟩ n hmem => ?_⟩
    · rcases h.covered hw n (hnames n hmem) hc with hq | hp | he
      · exact .inl hq
      · -- the file of the name in process is the one that is missing
        rw [hpc, Pc.processing.injEq] at hp
        exact absurd hd (mem_names_iff.1 (hp ▸ hnames n hmem))
      · exact .inr (.inr he)
    · rcases hh with hev | hsc
      · exact h.handover ⟨hw, .inl hev⟩ n (hnames n hmem)
      · cases hsc

/-- **One step keeps the invariant**, unless it delivers a command file during the handover. -/
theorem watched_step (h : Watched s) {a : Act} (ha : NoHandoverDelivery s a) :
    Watched (step env s a) := by
  refine step_of_next h fun t ht => ?_
  cases a with
  | deliver name data => exact watched_deliver h ha ht
  | directoryScan listing => exact watched_directoryScan h ht
  | switchScan => exact watched_switchScan h ht
  | startMonitoring => exact watched_startMonitoring h ht
  | kernelScan k => exact watched_kernelScan h ht
  | pop => exact watched_pop h ht
  | accept draw => exact watched_accept h ht

/-- **No command file is lost** in a run without a delivery between the directory pass that finds
nothing and the adding of the watch. -/
theorem covered_of_noHandoverDelivery (env : Env β) (broker : β) (cmdPrefix : Str)
    (disk : List (Str × Str)) (acts : List Act)
    (h : AllSteps (step env) NoHandoverDelivery (start broker cmdPrefix disk) acts) :
    ∀ t ∈ visited (step env) (start broker cmdPrefix disk) acts, Covered t := by
  have hw : ∀ t ∈ visited (step env) (start broker cmdPrefix disk) acts, Watched t :=
    run_preserves_of_allSteps (I := Watched) (fun s a hs ha => watched_step hs ha)
      (watched_start broker cmdPrefix disk) h
  exact fun t ht => (hw t ht).covered

instance (s : Sys β) : Decidable (Covered s) :=
  inferInstanceAs (Decidable (s.fq.watch = true → ∀ name ∈ s.names, s.isCmd name = true → _))

instance (s : Sys β) : Decidable (InHandover s) :=
  inferInstanceAs (Decidable (_ ∧ _))

instance (s : Sys β) : (a : Act) → Decidable (NoHandoverDelivery s a)
  | .deliver name _ => inferInstanceAs (Decidable (InHandover s → s.isCmd name = false))
  | .directoryScan _ => isTrue trivial
  | .switchScan => isTrue trivial
  | .startMonitoring => isTrue trivial
  | .kernelScan _ => isTrue trivial
  | .pop => isTrue trivial
  | .accept _ => isTrue trivial

/-- An environment in which nothing is traded. -/
def semBroker : Env Unit :=
  { workDir := [], trade := fun _ pkt b => (pkt, b), indeterminate := .notTyped }

/-- A file that was there at the start is served, and one that comes with an event is taken up. -/
def duasEntregas : List Act :=
  [.directoryScan ["arqcmd1".toList], .switchScan, .pop,
    .accept { valor := 0, strfry := id, strfry_perm := List.Perm.refl },
    .directoryScan [], .switchScan, .startMonitoring, .deliver "arqcmd2".toList [],
    .kernelScan 1, .pop]

/-- The run makes no delivery in the handover, and overlooks nothing. -/
theorem covered_example :
    AllSteps (step semBroker) NoHandoverDelivery
        (start () "arqcmd".toList [("arqcmd1".toList, [])]) duasEntregas ∧
      ∀ t ∈ visited (step semBroker) (start () "arqcmd".toList [("arqcmd1".toList, [])])
        duasEntregas, Covered t :=
  ⟨by decide, covered_of_noHandoverDelivery _ _ _ _ _ (by decide)⟩

/-- A file delivered behind the last directory pass and in front of the adding of the watch is
overlooked. -/
theorem handover_delivery_is_lost :
    ¬ ∀ t ∈ visited (step semBroker) (start () "arqcmd".toList [])
      [.directoryScan [], .switchScan, .deliver "arqcmd1".toList [], .startMonitoring],
      Covered t := by
  decide

/-! ## No file ends the process -/

/-- The process is there, and the files answered are the files consumed, each once and in the same
order. -/
def Survives (env : Env β) (s : Sys β) : Prop :=
  (∀ e, s.pc ≠ .terminated e) ∧
    s.collector.written.map Prod.fst = s.consumed.map (env.workDir ++ ·)

/-- The step does not have `accept` look for a file that is gone. -/
def FilePresent (s : Sys β) : Act → Prop
  | .accept _ => ∀ name, s.pc = .processing name → name ∈ s.names
  | _ => True

theorem survives_start (env : Env β) (broker : β) (cmdPrefix : Str) (disk : List (Str × Str)) :
    Survives env (start broker cmdPrefix disk) :=
  ⟨fun e h => (by cases h), rfl⟩

/-- Every step but `accept` keeps the process and its books. -/
theorem survives_of_ne_accept (h : Survives env s) {a : Act} (ha : ∀ draw, a ≠ .accept draw) :
    Survives env (step env s a) := by
  refine step_of_next h fun t ht => ?_
  cases a with
  | deliver name data =>
    obtain rfl := Option.some.inj ht
    exact h
  | directoryScan listing =>
    obtain ⟨-, -, -, rfl⟩ := next_directoryScan ht
    exact ⟨fun e he => (by cases he), h.2⟩
  | switchScan =>
    obtain ⟨_, -, rfl⟩ := next_switchScan ht
    exact ⟨fun e he => (by cases he), h.2⟩
  | startMonitoring =>
    obtain ⟨-, -, rfl⟩ := next_startMonitoring ht
    exact ⟨fun e he => (by cases he), h.2⟩
  | kernelScan k =>
    obtain ⟨-, rfl⟩ := next_kernelScan ht
    exact ⟨fun e he => (by cases he), h.2⟩
  | pop =>
    obtain ⟨_, _, -, -, rfl⟩ := next_pop ht
    exact ⟨fun e he => (by cases he), h.2⟩
  | accept draw => exact absurd rfl (ha draw)

/-- **`accept` keeps the process exactly when the file is there.** -/
theorem survives_accept_iff (h : Survives env s) (draw : Draw) :
    Survives env (step env s (.accept draw)) ↔ FilePresent s (.accept draw) := by
  unfold step
  rcases hn : next env s (.accept draw) with _ | t
  · -- not enabled: `accept` has no name to process
    refine ⟨fun _ name hpc => ?_, fun _ => h⟩
    simp only [next, hpc] at hn
    split at hn <;> cases hn
  · obtain ⟨name, hpc, ⟨data, hd, rfl⟩ | ⟨hd, e, c, -, rfl⟩⟩ := next_accept hn
    · refine ⟨fun _ name' hpc' => ?_, fun _ => ⟨fun e he => (by cases he), ?_⟩⟩
      · rw [hpc, Pc.processing.injEq] at hpc'
        exact hpc' ▸ mem_names_of_lookup hd
      · simp [TxtCollector.afterAccept, h.2]
    · refine ⟨fun hs => absurd rfl (hs.1 e), fun hp => ?_⟩
      exact absurd hd (mem_names_iff.1 (hp name hpc))

theorem survives_step_iff (h : Survives env s) (a : Act) :
    Survives env (step env s a) ↔ FilePresent s a := by
  cases a with
  | accept draw => exact survives_accept_iff h draw
  | _ => exact iff_of_true (survives_of_ne_accept h (by simp)) trivial

/-- **When the collector survives a run and answers each file it consumes once**: when every name
still has its file at the moment `accept` processes it. -/
theorem survives_iff_filesPresent (env : Env β) (broker : β) (cmdPrefix : Str)
    (disk : List (Str × Str)) (acts : List Act) :
    (∀ t ∈ visited (step env) (start broker cmdPrefix disk) acts, Survives env t) ↔
      AllSteps (step env) FilePresent (start broker cmdPrefix disk) acts :=
  forall_visited_iff (I := Survives env) (fun _ a h => survives_step_iff h a)
    (survives_start env broker cmdPrefix disk) acts

/-- Two events for one file end the process. -/
theorem second_notification_is_fatal :
    ¬ ∀ t ∈ visited (step { workDir := [], trade := fun _ pkt b => (pkt, b)
                            indeterminate := .notTyped })
      (start () "arqcmd".toList [])
      [.directoryScan [], .switchScan, .startMonitoring, .deliver "arqcmd1".toList [],
        .deliver "arqcmd1".toList [], .kernelScan 2,
        .pop, .accept { valor := 0, strfry := id, strfry_perm := List.Perm.refl },
        .pop, .accept { valor := 0, strfry := id, strfry_perm := List.Perm.refl }],
      Survives { workDir := [], trade := fun _ pkt b => (pkt, b), indeterminate := .notTyped }
        t := by
  intro h
  refine (h _ (run_mem_visited _ _ _)).1 _ rfl

end Spooler.Sys
