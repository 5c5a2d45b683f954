import Spooler.Queue.Service

/-!
# The steps of the service, one by one

`Service.next` as a relation with one rule for each thing that can happen (`Goes`): the guard of the
rule is all that the step tests, its result all that the step changes. Every step that is enabled is
one of them (`goes_of_next`), so what the steps keep is shown rule by rule: first of all that the
process deals with names that were delivered, and no others (`Known`).
-/

namespace Spooler.Service

open Foundations

variable {β : Type}

/-- What can happen to the service. -/
inductive Goes (env : Env β) : Service β → Move → Service β → Prop
  | deliver {s : Service β} {name data : Str} :
      Goes env s (.deliver name data) { s with
        collector := s.collector.deliver name data
        events := if s.fq.watch then s.events ++ [name] else s.events
        delivered := s.delivered ++ [(name, data)] }
  | toFalse {s : Service β} : Goes env s .toFalse { s with flag := false }
  | interrupt {s : Service β} : s.place = .polling →
      Goes env s .interrupt { s with place := .leaving }
  | fail {s : Service β} {e : Excp} : s.place = .scanning ∨ s.place = .polling →
      Goes env s (.fail e) { s with place := .terminated e }
  | directoryScan {s : Service β} {listing : List Str} : s.place = .scanning → s.fq.queue = [] →
      s.fq.scanType = .dirScan → listing.Perm s.names →
      Goes env s (.directoryScan listing) { s with
        fq := (s.fq.directoryScan listing).2, place := .scanned (s.fq.directoryScan listing).1 }
  | kernelScan {s : Service β} {k : Nat} : s.place = .polling →
      Goes env s (.kernelScan k) { s with
        fq := s.fq.kernelScan (s.events.take k), events := s.events.drop k, place := .scanning }
  | enter {s : Service β} {draw : Draw} : s.place = .entering →
      Goes env s (.advance draw) { s with flag := true, place := .looping }
  | loop {s : Service β} {draw : Draw} : s.place = .looping → s.running = true →
      Goes env s (.advance draw) { s with place := .testing }
  | finish {s : Service β} {draw : Draw} : s.place = .looping → s.running = false →
      Goes env s (.advance draw) { s with place := .returned s.code }
  | test {s : Service β} {draw : Draw} : s.place = .testing → s.flag = true →
      Goes env s (.advance draw) { s with running := true, place := .scanning }
  | halt {s : Service β} {draw : Draw} : s.place = .testing → s.flag = false →
      Goes env s (.advance draw) { s with running := false, place := .rechecking [] }
  | found {s : Service β} {draw : Draw} : s.place = .scanning → s.fq.queue ≠ [] →
      Goes env s (.advance draw) { s with place := .leaving }
  | watch {s : Service β} {draw : Draw} : s.place = .scanning → s.fq.queue = [] →
      s.fq.scanType = .eventScan →
      Goes env s (.advance draw) { s with fq := s.fq.startMonitoring, place := .polling }
  | switch {s : Service β} {draw : Draw} {gotOne : Bool} : s.place = .scanned gotOne →
      Goes env s (.advance draw) { s with fq := s.fq.switchScan gotOne, place := .scanning }
  | none {s : Service β} {draw : Draw} : s.place = .leaving → s.fq.queue = [] →
      Goes env s (.advance draw) { s with place := .testing }
  | nameless {s : Service β} {draw : Draw} {rest : List Str} : s.place = .leaving →
      s.fq.queue = [] :: rest →
      Goes env s (.advance draw) { s with fq := { s.fq with queue := rest }, place := .testing }
  | take {s : Service β} {draw : Draw} {name : Str} {rest : List Str} : s.place = .leaving →
      s.fq.queue = name :: rest → name ≠ [] →
      Goes env s (.advance draw) { s with
        fq := { s.fq with queue := rest }, place := .rechecking name }
  | recheck {s : Service β} {draw : Draw} {name : Str} : s.place = .rechecking name →
      s.flag = true →
      Goes env s (.advance draw) { s with running := true, place := .reading name }
  | stop {s : Service β} {draw : Draw} {name : Str} : s.place = .rechecking name →
      s.flag = false →
      Goes env s (.advance draw) { s with running := false, place := .stopping }
  | read {s : Service β} {draw : Draw} {name : Str} : s.place = .reading name →
      Goes env s (.advance draw) { s with
        collector := (exec (TxtCollector.readFile name) s.collector).2
        place := .removing name (TxtReader.readPacket (s.collector.disk.lookup name)) }
  | remove {s : Service β} {draw : Draw} {name : Str} {res : TxtReader.ReadResult} :
      s.place = .removing name res → Goes env s (.advance draw) (s.remove env name res)
  | serve {s : Service β} {draw : Draw} {name : Str} : s.place = .serving name →
      Goes env s (.advance draw) (s.serve env draw name)
  | stopped {s : Service β} {draw : Draw} : s.place = .stopping →
      Goes env s (.advance draw) { s with flag := false, code := .stop, place := .looping }

section Inversion

variable {env : Env β} {s t : Service β}

theorem goes_of_scan {draw : Draw} (hp : s.place = .scanning) (h : s.scan = some t) :
    Goes env s (.advance draw) t := by
  unfold scan at h
  by_cases hq : s.fq.queue ≠ []
  · rw [if_pos hq] at h
    cases h
    exact .found hp hq
  · rw [if_neg hq] at h
    by_cases he : s.fq.scanType = .eventScan
    · rw [if_pos he] at h
      cases h
      exact .watch hp (not_not.1 hq) he
    · rw [if_neg he] at h
      cases h

theorem goes_leave {draw : Draw} (hp : s.place = .leaving) :
    Goes env s (.advance draw) s.leave := by
  unfold leave
  rcases hq : s.fq.queue with _ | ⟨name, rest⟩
  · exact .none hp hq
  · rcases name with _ | ⟨c, name⟩
    · exact .nameless hp hq
    · exact .take hp hq (by simp)

theorem goes_of_advance {draw : Draw} (h : s.advance env draw = some t) :
    Goes env s (.advance draw) t := by
  unfold advance at h
  cases hp : s.place with
  | entering =>
    simp only [hp] at h
    cases h
    exact .enter hp
  | looping =>
    rcases hr : s.running with _ | _ <;> simp only [hp, hr, if_true] at h <;> cases h
    · have hg : Goes env s (.advance draw) _ := .finish hp hr
      simpa [hr] using hg
    · have hg : Goes env s (.advance draw) _ := .loop hp hr
      simpa [hr] using hg
  | testing =>
    rcases hf : s.flag with _ | _ <;> simp only [hp, hf, if_true] at h <;> cases h
    · have hg : Goes env s (.advance draw) _ := .halt hp hf
      simpa [hf] using hg
    · have hg : Goes env s (.advance draw) _ := .test hp hf
      simpa [hf] using hg
  | scanning =>
    simp only [hp] at h
    exact goes_of_scan hp h
  | scanned gotOne =>
    simp only [hp] at h
    cases h
    exact .switch hp
  | polling =>
    simp only [hp] at h
    cases h
  | leaving =>
    simp only [hp] at h
    cases h
    exact goes_leave hp
  | rechecking name =>
    rcases hf : s.flag with _ | _ <;> simp only [hp, hf, if_true] at h <;> cases h
    · have hg : Goes env s (.advance draw) _ := .stop hp hf
      simpa [hf] using hg
    · have hg : Goes env s (.advance draw) _ := .recheck hp hf
      simpa [hf] using hg
  | reading name =>
    simp only [hp] at h
    cases h
    exact .read hp
  | removing name res =>
    simp only [hp] at h
    cases h
    exact .remove hp
  | serving name =>
    simp only [hp] at h
    cases h
    exact .serve hp
  | stopping =>
    simp only [hp] at h
    cases h
    exact .stopped hp
  | returned code =>
    simp only [hp] at h
    cases h
  | terminated e =>
    simp only [hp] at h
    cases h

/-- **A step that is enabled is one of the rules.** -/
theorem goes_of_next {a : Move} (h : next env s a = some t) : Goes env s a t := by
  cases a with
  | deliver name data =>
    cases h
    exact .deliver
  | toFalse =>
    cases h
    exact .toFalse
  | interrupt =>
    by_cases hp : s.place = .polling
    · simp only [next, if_pos hp] at h
      cases h
      exact .interrupt hp
    · simp only [next, if_neg hp] at h
      cases h
  | fail e =>
    by_cases hp : s.place = .scanning ∨ s.place = .polling
    · simp only [next, if_pos hp] at h
      cases h
      exact .fail hp
    · simp only [next, if_neg hp] at h
      cases h
  | directoryScan listing =>
    simp only [next] at h
    split at h
    · rename_i hg
      cases h
      exact .directoryScan hg.1 hg.2.1 hg.2.2.1 hg.2.2.2
    · cases h
  | kernelScan k =>
    by_cases hp : s.place = .polling
    · simp only [next, if_pos hp] at h
      cases h
      exact .kernelScan hp
    · simp only [next, if_neg hp] at h
      cases h
  | advance draw => exact goes_of_advance h

/-- A step is one of the rules or changes nothing. -/
theorem step_cases (env : Env β) (s : Service β) (a : Move) :
    step env s a = s ∨ Goes env s a (step env s a) := by
  unfold step
  rcases h : next env s a with _ | t
  · exact .inl rfl
  · exact .inr (goes_of_next h)

/-- **Each of the rules is a step that is enabled.** -/
theorem step_of_goes {a : Move} (h : Goes env s a t) : step env s a = t := by
  unfold step
  cases h with
  | deliver | toFalse => rfl
  | interrupt hp | kernelScan hp | fail hp => rw [next, if_pos hp, Option.getD_some]
  | directoryScan hp hq hd hl => rw [next, if_pos ⟨hp, hq, hd, hl⟩, Option.getD_some]
  | found hp hq => simp only [next, advance, hp, scan, if_pos hq, Option.getD_some]
  | watch hp hq he =>
    simp only [next, advance, hp, scan, if_neg (not_not.2 hq), if_pos he, Option.getD_some]
  | loop hp hr | finish hp hr => simp [next, advance, hp, hr]
  | test hp hf | halt hp hf | recheck hp hf | stop hp hf => simp [next, advance, hp, hf]
  | none hp hq => simp [next, advance, hp, leave, hq]
  | nameless hp hq => simp [next, advance, hp, leave, hq]
  | take hp hq hn => simp [next, advance, hp, leave, hq, hn]
  | enter hp | switch hp | read hp | remove hp | serve hp | stopped hp =>
    simp only [next, advance, hp, Option.getD_some]

end Inversion

/-! ## The removal of a file -/

section Removal

variable {env : Env β} {s : Service β} {name : Str}

theorem remove_eq {data' : Str} (data : Option Str)
    (h : s.collector.disk.lookup name = some data') :
    let res := TxtReader.readPacket data
    s.remove env name res = { s with
      collector := { s.collector with
        failure := (res.excp.isSome && !res.eof) || s.collector.failure
        cmdfile := env.workDir ++ name
        disk := s.collector.disk.filter fun f => f.1 ≠ name }
      removed := s.removed ++ s.collector.disk.filter fun f =>
        f ∉ s.collector.disk.filter fun f => f.1 ≠ name
      place := .serving name } := by
  intro res
  rw [remove, TxtCollector.exec_removeFile data h]

theorem remove_missing (data : Option Str) (h : s.collector.disk.lookup name = none) :
    s.remove env name (TxtReader.readPacket data) =
      { s with place := .terminated TxtCollector.missingFile } := by
  rw [remove, TxtCollector.exec_removeFile_missing data h]

end Removal

/-! ## The names that the process deals with -/

/-- The file in hand, until it is served. -/
def inHand : Place → List Str
  | .rechecking name => if name.isEmpty then [] else [name]
  | .reading name => [name]
  | .removing name _ => [name]
  | .serving name => [name]
  | _ => []

/-- The names in the directory, in hand, in the queue and in the events were delivered. -/
structure Known (s : Service β) : Prop where
  names : ∀ name ∈ s.names, name ∈ s.delivered.map Prod.fst
  waits : ∀ name ∈ inHand s.place ++ (s.fq.queue ++ s.events), name ∈ s.delivered.map Prod.fst
  read : ∀ name res, s.place = .removing name res → ∃ data, res = TxtReader.readPacket data
  /-- `accept` leaves its loop without a name only when the flag is down. -/
  down : s.place = .rechecking [] → s.flag = false

section Known

variable {env : Env β} {s t : Service β}

theorem Known.hand (h : Known s) {name : Str} (hn : name ∈ inHand s.place) :
    name ∈ s.delivered.map Prod.fst := h.waits name (List.mem_append_left _ hn)

/-- A step that brings no name. -/
theorem Known.goto (h : Known s) (hd : t.delivered = s.delivered) (hn : t.names ⊆ s.names)
    (hw : ∀ name ∈ inHand t.place ++ (t.fq.queue ++ t.events),
      name ∈ inHand s.place ++ (s.fq.queue ++ s.events) ∨ name ∈ s.names)
    (hr : ∀ name res, t.place = .removing name res → ∃ data, res = TxtReader.readPacket data)
    (hdown : t.place = .rechecking [] → t.flag = false) : Known t where
  names := fun name hm => hd ▸ h.names name (hn hm)
  waits := fun name hm => hd ▸ (hw name hm).elim (h.waits name) (h.names name)
  read := hr
  down := hdown

/-- The process goes from one place to another, with no file taken on. -/
theorem Known.move (h : Known s) (hd : t.delivered = s.delivered) (hn : t.names ⊆ s.names)
    (hhand : inHand t.place ⊆ inHand s.place) (hq : t.fq.queue = s.fq.queue)
    (he : t.events = s.events)
    (hr : ∀ name res, t.place = .removing name res → ∃ data, res = TxtReader.readPacket data)
    (hdown : t.place = .rechecking [] → t.flag = false) : Known t := by
  refine h.goto hd hn (fun name hm => .inl ?_) hr hdown
  rw [hq, he] at hm
  exact (List.mem_append.1 hm).elim (fun hm => List.mem_append_left _ (hhand hm))
    (List.mem_append_right _)

/-- **What the process deals with has been delivered.** -/
theorem known_goes (h : Known s) {a : Move} (hg : Goes env s a t) : Known t := by
  cases hg with
  | deliver =>
    rename_i name data
    have hnew : ∀ n, n ∈ s.delivered.map Prod.fst ∨ n = name →
        n ∈ (s.delivered ++ [(name, data)]).map Prod.fst := by
      rintro n (hn | rfl) <;> simp_all
    refine ⟨fun n hn => hnew n ?_, fun n hn => hnew n ?_, h.read, h.down⟩
    · simp only [names, TxtCollector.deliver, List.map_append, List.mem_append] at hn
      refine hn.imp (fun hn => h.names n ?_) fun hn => by simpa using hn
      exact (List.filter_sublist.map Prod.fst).subset hn
    · simp only at hn
      split at hn
      · rw [← List.append_assoc, ← List.append_assoc, List.append_assoc (inHand _)] at hn
        exact (List.mem_append.1 hn).imp (h.waits n) fun hn => List.mem_singleton.1 hn
      · exact .inl (h.waits n hn)
  | toFalse => exact { h with down := fun _ => rfl }
  | directoryScan hp hq hd hl =>
    refine h.goto rfl (List.Subset.refl _) (fun n hn => ?_) (by simp) (by simp)
    simp only [inHand, hp, List.nil_append, FileQueue.directoryScan_queue, hq, List.mem_append,
      List.mem_filter] at hn ⊢
    exact hn.symm.imp id fun hn => hl.mem_iff.1 hn.1
  | kernelScan hp =>
    refine h.goto rfl (List.Subset.refl _) (fun n hn => .inl ?_) (by simp) (by simp)
    simp only [inHand, hp, List.nil_append, FileQueue.kernelScan, List.mem_append,
      List.mem_filter] at hn ⊢
    rcases hn with (hn | hn) | hn
    · exact .inl hn
    · exact .inr (List.mem_of_mem_take hn.1)
    · exact .inr (List.mem_of_mem_drop hn)
  | take hp hq hn =>
    refine h.goto rfl (List.Subset.refl _) (fun n hm => .inl ?_) (by simp) (by simp [hn])
    simpa [inHand, hp, hq, hn] using hm
  | nameless hp hq =>
    refine h.goto rfl (List.Subset.refl _) (fun n hm => .inl ?_) (by simp) (by simp)
    rw [hp, hq]
    exact List.mem_cons_of_mem _ hm
  | recheck hp hf =>
    rename_i name
    -- with the flag up there is a name in hand
    have hne : name ≠ [] := by
      rintro rfl
      cases hf.symm.trans (h.down hp)
    exact h.move rfl (List.Subset.refl _) (by simp [hp, inHand, hne]) rfl rfl (by simp) (by simp)
  | read hp =>
    refine h.move rfl (List.Subset.refl _) (by simp [hp, inHand]) rfl rfl (fun n res hr => ?_)
      (by simp)
    cases hr
    exact ⟨_, rfl⟩
  | remove hp =>
    rename_i name res
    obtain ⟨data, rfl⟩ := h.read name res hp
    cases hl : s.collector.disk.lookup name with
    | none =>
      rw [remove_missing data hl]
      exact h.move rfl (List.Subset.refl _) (by simp [inHand]) rfl rfl (by simp) (by simp)
    | some data' =>
      rw [remove_eq data hl]
      exact h.move rfl (List.filter_sublist.map Prod.fst).subset (by simp [hp, inHand]) rfl rfl
        (by simp) (by simp)
  | serve hp =>
    exact h.move rfl (List.Subset.refl _) (by simp [serve, inHand]) rfl rfl (by simp [serve])
      (by simp [serve])
  | switch hp =>
    exact h.move rfl (List.Subset.refl _) (by simp [inHand]) (by simp) rfl (by simp) (by simp)
  | halt hp hf =>
    exact h.move rfl (List.Subset.refl _) (by simp [inHand]) rfl rfl (by simp) fun _ => hf
  | enter hp | interrupt hp | fail hp | loop hp | finish hp | test hp | found hp | watch hp
  | none hp | stop hp | stopped hp =>
    exact h.move rfl (List.Subset.refl _) (by simp [inHand]) rfl rfl (by simp) (by simp)

theorem known_step (h : Known s) (a : Move) : Known (step env s a) := by
  rcases step_cases env s a with hs | hg
  · rwa [hs]
  · exact known_goes h hg

theorem known_start (broker : β) (cmdPrefix : Str) (disk : List (Str × Str)) :
    Known (start broker cmdPrefix disk) where
  names := fun _ hn => hn
  waits := fun _ hn => absurd hn List.not_mem_nil
  read := fun _ _ hp => by cases hp
  down := fun hp => by cases hp

end Known

end Spooler.Service
