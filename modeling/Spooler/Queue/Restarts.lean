import Spooler.Queue.Ledger
import Spooler.Queue.Steps

/-!
# Restarts

The process may end at any point, killed, dead or returned, and be started again on the same work
directory (`Turn.restart`). What it had in memory is gone: the queue, the events, the session, the
packet it had read. `accept` removes a file before its packet is served. **So, with each name
delivered once, no command is served twice in all the lives of the service, and each end of a life
loses at most one, whose file had been removed by then** (`served_at_most_once`).
-/

namespace Spooler

open Foundations

variable {β : Type}

/-- The service through its lives; the record of the current one is in `service`. -/
structure Lives (β : Type) where
  service : Service β
  /-- The calls of earlier lives. -/
  served : List Call := []
  /-- The calls that were about to be made when a life ended. -/
  lost : List Call := []
  /-- The files removed in earlier lives. -/
  gone : List (Str × Str) := []

/-- A step of the service, or the end of the process and the start of another one, with the driver
it builds. -/
inductive Turn (β : Type)
  | move (a : Move)
  | restart (broker : β)

/-- The turn begins a life. -/
def Turn.begins : Turn β → Bool
  | move _ => false
  | restart _ => true

namespace Lives

/-- A turn, where it is enabled. -/
def next (env : Env β) (p : Lives β) : Turn β → Option (Lives β)
  | .move a => (Service.next env p.service a).map fun s => { p with service := s }
  | .restart broker => some {
      service := Service.start broker p.service.fq.cmdPrefix p.service.collector.disk
      served := p.served ++ p.service.calls
      lost := p.lost ++ p.service.inCall
      gone := p.gone ++ p.service.removed }

/-- A turn; one that is not enabled changes nothing. -/
def step (env : Env β) (p : Lives β) (a : Turn β) : Lives β := (next env p a).getD p

/-- The first life. -/
def start (broker : β) (cmdPrefix : Str) (disk : List (Str × Str)) : Lives β where
  service := Service.start broker cmdPrefix disk

/-- The files of all lives, and the calls. -/
def ever (p : Lives β) : List (Str × Str) := p.gone ++ p.service.delivered
def calls (p : Lives β) : List Call := p.served ++ p.service.calls

/-- The turn delivers no file under a name that was used before, in this life or an earlier one. -/
def Fresh (p : Lives β) : Turn β → Prop
  | .move (.deliver name _) => name ∉ p.ever.map Prod.fst
  | _ => True

instance (p : Lives β) : (a : Turn β) → Decidable (Fresh p a)
  | .move (.deliver name _) => inferInstanceAs (Decidable (name ∉ p.ever.map Prod.fst))
  | .restart _ | .move .toFalse | .move .interrupt | .move (.fail _) | .move (.directoryScan _)
  | .move (.kernelScan _) | .move (.advance _) => inferInstanceAs (Decidable True)

/-- The books of all lives. -/
structure Books (p : Lives β) : Prop where
  ledger : p.service.Ledger
  history : (p.served ++ p.lost).Perm (p.gone.map Service.callOf)
  once : (p.ever.map Prod.fst).Nodup

section Step

variable {env : Env β} {p q : Lives β}

open Service (Goes)

/-- Only a delivery brings a file. -/
theorem delivered_of_goes {s t : Service β} {a : Move} (hg : Goes env s a t)
    (ha : ∀ name data, a ≠ .deliver name data) : t.delivered = s.delivered := by
  cases hg with
  | deliver => exact absurd rfl (ha _ _)
  | remove hp =>
    unfold Service.remove
    split <;> rfl
  | _ => rfl

theorem Fresh.service {a : Move} (h : Fresh p (.move a)) : p.service.Fresh a := by
  cases a with
  | deliver name data =>
    intro hn
    rw [Fresh, ever, List.map_append] at h
    exact h (List.mem_append_right _ hn)
  | _ => trivial

theorem books_move (h : Books p) {a : Move} {t : Service β}
    (ht : Service.next env p.service a = some t) (hf : Fresh p (.move a)) :
    Books { p with service := t } := by
  have hl : t.Ledger := by
    have hstep : (Service.step env p.service a).Ledger := Service.ledger_step h.ledger hf.service
    rwa [Service.step, ht, Option.getD_some] at hstep
  have hg := Service.goes_of_next ht
  refine ⟨hl, h.history, ?_⟩
  have honce := h.once
  cases a with
  | deliver name data =>
    cases hg
    show ((p.gone ++ (p.service.delivered ++ [(name, data)])).map Prod.fst).Nodup
    rw [← List.append_assoc, List.map_append]
    exact Service.nodup_concat honce hf
  | _ =>
    show ((p.gone ++ t.delivered).map Prod.fst).Nodup
    rw [delivered_of_goes hg (by simp)]
    exact honce

/-- The files taken have had their calls, or lost them. -/
theorem Books.perm_calls (h : Books p) : (p.calls ++ (p.lost ++ p.service.inCall)).Perm
    ((p.gone ++ p.service.removed).map Service.callOf) := by
  have hsides : (p.calls ++ (p.lost ++ p.service.inCall)).Perm
      ((p.served ++ p.lost) ++ (p.service.calls ++ p.service.inCall)) := by
    simp only [calls, List.append_assoc]
    refine List.Perm.append_left _ ?_
    simp only [← List.append_assoc]
    exact List.Perm.append_right _ List.perm_append_comm
  rw [List.map_append]
  refine hsides.trans ?_
  rw [h.ledger.served]
  exact h.history.append_right _

theorem Books.perm_files (h : Books p) :
    (p.gone ++ p.service.removed ++ p.service.collector.disk).Perm p.ever := by
  rw [ever, List.append_assoc]
  exact (List.perm_append_comm.trans h.ledger.files).append_left _

theorem books_restart (h : Books p) (broker : β) : Books {
    service := Service.start broker p.service.fq.cmdPrefix p.service.collector.disk
    served := p.served ++ p.service.calls
    lost := p.lost ++ p.service.inCall
    gone := p.gone ++ p.service.removed } where
  ledger := Service.ledger_start _ _ h.ledger.nodup_names
  history := h.perm_calls
  once := ((h.perm_files.map Prod.fst).nodup_iff).2 h.once

theorem books_step (h : Books p) {a : Turn β} (hf : Fresh p a) : Books (step env p a) := by
  unfold step
  cases hn : next env p a with
  | none => exact h
  | some q =>
    rw [Option.getD_some]
    cases a with
    | restart broker =>
      cases hn
      exact books_restart h broker
    | move a =>
      obtain ⟨t, ht, rfl⟩ := Option.map_eq_some_iff.1 hn
      exact books_move h ht hf

theorem lost_step (p : Lives β) (a : Turn β) :
    (step env p a).lost.length ≤ p.lost.length + if a.begins then 1 else 0 := by
  have hone : p.service.inCall.length ≤ 1 := by
    unfold Service.inCall
    split <;> simp
  unfold step
  cases hn : next env p a with
  | none => exact Nat.le_add_right _ _
  | some q =>
    rw [Option.getD_some]
    cases a with
    | restart broker =>
      cases hn
      rw [List.length_append]
      exact Nat.add_le_add_left hone _
    | move a =>
      obtain ⟨t, -, rfl⟩ := Option.map_eq_some_iff.1 hn
      exact Nat.le_add_right _ _

theorem lost_run (env : Env β) (p : Lives β) (turns : List (Turn β)) :
    (run (step env) p turns).lost.length ≤ p.lost.length + turns.countP Turn.begins := by
  induction turns generalizing p with
  | nil => exact Nat.le_refl _
  | cons a turns ih =>
    rw [run_cons, List.countP_cons]
    have hstep : (step env p a).lost.length ≤ _ := lost_step p a
    have hrest := ih (step env p a)
    omega

/-- Where a file of any life is, and how often it was served. -/
theorem Books.fate (h : Books p) {f : Str × Str} (hf : f ∈ p.ever) :
    (f ∈ p.service.collector.disk ∧ (p.calls.map Prod.fst).count f.1 = 0) ∨
      f.1 ∉ p.service.names ∧ (Service.callOf f ∈ p.calls ∧ (p.calls.map Prod.fst).count f.1 = 1 ∨
        Service.callOf f ∈ p.lost ++ p.service.inCall ∧
          (p.calls.map Prod.fst).count f.1 = 0) := by
  have hfst : ((p.gone ++ p.service.removed).map Service.callOf).map Prod.fst =
      (p.gone ++ p.service.removed).map Prod.fst := by
    rw [List.map_map]
    rfl
  have hcalls := h.perm_calls.map Prod.fst
  rw [hfst, List.map_append] at hcalls
  have honce := ((h.perm_files.map Prod.fst).nodup_iff).2 h.once
  rw [List.map_append, List.nodup_append] at honce
  have hnodup := hcalls.nodup_iff.2 honce.1
  rcases List.mem_append.1 (h.perm_files.mem_iff.2 hf) with htaken | hdisk
  · have hin := List.mem_map_of_mem (f := Prod.fst) htaken
    refine .inr ⟨fun hname => honce.2.2 _ hin _ hname rfl, ?_⟩
    rw [List.nodup_append] at hnodup
    rcases List.mem_append.1 (h.perm_calls.mem_iff.2 (List.mem_map_of_mem htaken)) with hc | hl
    · exact .inl ⟨hc, hnodup.1.count.trans (if_pos (List.mem_map_of_mem hc))⟩
    · refine .inr ⟨hl, List.count_eq_zero.2 fun hc => ?_⟩
      exact hnodup.2.2 _ hc _ (List.mem_map_of_mem hl) rfl
  · refine .inl ⟨hdisk, List.count_eq_zero.2 fun hc => ?_⟩
    exact honce.2.2 _ (hcalls.mem_iff.1 (List.mem_append_left _ hc)) _
      (List.mem_map_of_mem hdisk) rfl

end Step

/-- **At most once, however often the service is killed**: in any run of lives in which each name is
delivered once a file is waiting in the work directory and was never served, or was taken and served
exactly once, or was taken and its call is lost, or about to be made; and each restart loses one
call at most. -/
theorem served_at_most_once (env : Env β) (broker : β) (cmdPrefix : Str)
    {disk : List (Str × Str)} (hdisk : (disk.map Prod.fst).Nodup) (turns : List (Turn β))
    (hfresh : AllSteps (step env) Fresh (start broker cmdPrefix disk) turns) :
    let p := run (step env) (start broker cmdPrefix disk) turns
    (∀ f ∈ p.ever,
      (f ∈ p.service.collector.disk ∧ (p.calls.map Prod.fst).count f.1 = 0) ∨
      f.1 ∉ p.service.names ∧
        (Service.callOf f ∈ p.calls ∧ (p.calls.map Prod.fst).count f.1 = 1 ∨
          Service.callOf f ∈ p.lost ++ p.service.inCall ∧
            (p.calls.map Prod.fst).count f.1 = 0)) ∧
      p.lost.length ≤ turns.countP Turn.begins := by
  intro p
  have hstart : Books (start broker cmdPrefix disk) := by
    refine ⟨Service.ledger_start broker cmdPrefix hdisk, List.Perm.nil, ?_⟩
    simpa [ever, start, Service.start] using hdisk
  have h : Books p := run_preserves_of_allSteps (I := Books) (fun _ _ h hf => books_step h hf)
    hstart hfresh _ (run_mem_visited _ _ _)
  refine ⟨fun f hf => h.fate hf, ?_⟩
  have hlost := lost_run env (start broker cmdPrefix disk) turns
  rwa [show (start broker cmdPrefix disk).lost.length = 0 from rfl, Nat.zero_add] at hlost

/-- The process is killed between the removal of the first file and its call; the second one is
served in the next life. -/
theorem served_at_most_once_killed :
    let env : Env Unit :=
      { workDir := "/ecf/".toList, trade := fun _ pkt b => (pkt, b), indeterminate := .notTyped }
    let reset : Str := unlines ["<ecf_sgi_begin>".toList, "ecf_reset_request".toList,
      "<ecf_sgi_end>".toList]
    let draw : Draw := { valor := 0, strfry := id, strfry_perm := List.Perm.refl }
    let go : Turn Unit := .move (.advance draw)
    let disk := [("arqcmd.1".toList, reset), ("arqcmd.2".toList, reset)]
    let turns : List (Turn Unit) := [go, go, go,
      .move (.directoryScan ["arqcmd.1".toList, "arqcmd.2".toList]), go, go, go, go, go, go,
      .restart (), go, go, go, .move (.directoryScan ["arqcmd.2".toList]), go, go, go, go, go, go,
      go]
    let p := run (step env) (start () "arqcmd".toList disk) turns
    p.lost.length = 1 ∧ p.calls.length = 1 ∧ p.service.names = [] ∧
      (∀ f ∈ p.ever,
        (f ∈ p.service.collector.disk ∧ (p.calls.map Prod.fst).count f.1 = 0) ∨
        f.1 ∉ p.service.names ∧
          (Service.callOf f ∈ p.calls ∧ (p.calls.map Prod.fst).count f.1 = 1 ∨
            Service.callOf f ∈ p.lost ++ p.service.inCall ∧
              (p.calls.map Prod.fst).count f.1 = 0)) ∧
      p.lost.length ≤ turns.countP Turn.begins :=
  ⟨by decide, by decide, by decide, served_at_most_once _ () _ (by decide) _ (by decide)⟩

end Lives

end Spooler
