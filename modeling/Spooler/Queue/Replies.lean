import Spooler.Queue.Ledger
import Spooler.Queue.Writing

/-!
# What becomes of the responses

The responses of the service of `Spooler.Queue.Writing`, as a list of replies, one for each call of
`callback`. **At most one command is left without its response by a failing writer, and it is the
last one served; every other file is waiting, or is the one in the very act** (`one_reply_each`).
**A response whose file operations all succeeded is on the disk at the end**, and its lock file with
it (`response_kept`), whatever happened to the others: nothing that the service does touches it, but
the answer to a command whose name is that of the first one with `.lck`.
-/

namespace Spooler

open Foundations Serializer

variable {β : Type}

namespace Writing

/-! ## The files of a call -/

theorem lookup_store (disk : List (Str × Str)) (name n : Str) (contents : Option Str) :
    (store disk name contents).lookup n = if n = name then contents else disk.lookup n := by
  rw [store, List.lookup_append]
  by_cases h : n = name
  · have hnone : (disk.filter fun f => f.1 ≠ name).lookup n = none := by
      rw [List.lookup_eq_none_iff]
      intro f hf
      have hne : f.1 ≠ name := by simpa using (List.mem_filter.1 hf).2
      simpa [h] using hne.symm
    rw [hnone, if_pos h, h]
    cases contents <;> simp
  · have hkeep : (disk.filter fun f => f.1 ≠ name).lookup n = disk.lookup n :=
      lookup_filter (fun m => m ≠ name) (by simpa using h) disk
    rw [hkeep, if_neg h]
    cases contents with
    | none => simp
    | some data =>
      have hb : (n == name) = false := by simpa using h
      simp [List.lookup_cons, hb]

theorem nameOf_append (workDir n : Str) : nameOf workDir (workDir ++ n) = some n := by
  unfold nameOf
  rw [if_pos (List.isPrefixOf_iff_prefix.2 (List.prefix_append _ _)), List.drop_left' rfl]

theorem filesOf_append (workDir : Str) (disk : List (Str × Str)) (n : Str) :
    filesOf workDir disk (workDir ++ n) = disk.lookup n := by
  rw [filesOf, nameOf_append, Option.bind_some]

/-- The files at the paths are those of the call, the others what they were. -/
theorem filesOf_storeAll (workDir : Str) (files : Str → Option Str) (paths : List Str)
    (disk : List (Str × Str)) (n : Str) :
    filesOf workDir (storeAll workDir files paths disk) (workDir ++ n) =
      if workDir ++ n ∈ paths then files (workDir ++ n)
      else filesOf workDir disk (workDir ++ n) := by
  unfold storeAll
  induction paths generalizing disk with
  | nil => rfl
  | cons path paths ih =>
    rw [List.foldl_cons, ih]
    by_cases hin : workDir ++ n ∈ paths
    · rw [if_pos hin, if_pos (List.mem_cons_of_mem _ hin)]
    · rw [if_neg hin]
      by_cases hp : workDir ++ n = path
      · rw [if_pos (hp ▸ List.mem_cons_self), ← hp, nameOf_append, filesOf_append, lookup_store,
          if_pos rfl]
      · rw [if_neg (by simp [hp, hin])]
        cases hm : nameOf workDir path with
        | none => rfl
        | some m =>
          have hne : n ≠ m := fun he => hp (he ▸ (nameOf_eq_some hm).symm)
          rw [filesOf_append, filesOf_append, lookup_store, if_neg hne]

/-- A call in which nothing goes wrong leaves its lock file. -/
theorem call_lock {o : Outcomes} {indeterminate : PacketType} {path : Str} {pkt : ResponsePacket}
    (files : Str → Option Str) {pos : Nat} (hpos : Str.find cmdName path = some pos)
    (hfine : o.Fine (TxtWriter.writePacket indeterminate pkt)) :
    (call o indeterminate path pkt files).2.files (path.replace pos 6 rspName ++ lckSuffix) =
      some [] := by
  obtain ⟨htr, -, -⟩ := names_ne path pos
  rw [call_eq_body o indeterminate pkt files hpos]
  generalize hlines : TxtWriter.writePacket indeterminate pkt = lines at hfine
  have hne : TxtWriter.text lines ≠ [] := hlines ▸ text_ne_nil
  obtain ⟨d, hd, -, -, hnone, -⟩ := exec_upToUnlink o files htr hne
  have hu : ¬ UnlinkFails o files (path.replace pos 6 tmpName) := by
    rintro (hu | ⟨hu, -⟩)
    · exact hu hfine.unlinkTmp
    · cases hfine.openTmp.symm.trans hu
  rw [exec_tryCatch, ← bind_assoc, exec_bind_ok hd,
    exec_bind_ok (exec_sysUnlink_ok o files hnone hu)]
  simp [writeLck, hfine.openLck, exec_bind, OStream.insert, OStream.close]

/-! ## One reply for each call -/

/-- The exception of a call, if it raised one. -/
def failed : Except Excp PUnit → Option Excp
  | .ok _ => none
  | .error e => some e

/-- All responses were written without an exception, or all but the last one, and the process is
dead, with the flag down. -/
def Told (p : Writing β) : Prop :=
  (p.died = none ∧ ∀ r ∈ p.replies, r.raised = none) ∨
    (p.died = some abort ∧ p.service.flag = false ∧
      ∃ rs r, p.replies = rs ++ [r] ∧ r.raised.isSome ∧ ∀ x ∈ rs, x.raised = none)

section Step

variable {env : Env β} {cmdPrefix : Str} {p : Writing β} {draw : Draw} {o : Outcomes} {name : Str}

open Service (Goes)

/-- What serving a command adds to the replies and makes of the disk. -/
theorem serve_spec (env : Env β) (draw : Draw) (o : Outcomes)
    (hm : p.service.collector.mute = false) (hd : p.died = none) (name : Str) :
    let c := p.service.collector
    let w := written env draw o c
    let q := p.serve env draw o name
    q.replies = p.replies ++ [⟨name, response env draw c, o, failed w.1⟩] ∧
      q.died = (failed w.1).map (fun _ => abort) ∧ (q.died ≠ none → q.service.flag = false) ∧
      q.service.collector.disk = storeAll env.workDir w.2.files (outputsOf c.cmdfile) c.disk ∧
      q.service.calls.map Prod.fst = p.service.calls.map Prod.fst ++ [name] := by
  simp only [serve, hm, Bool.false_eq_true, if_false]
  rcases (written env draw o p.service.collector).1 with e | u
  · simp only [failed, Option.map_some]
    refine ⟨trivial, trivial, fun _ => trivial, ?_, ?_⟩
    · rfl
    · rw [put, Service.serve, List.map_append]
      rfl
  · simp only [failed, Option.map_none]
    refine ⟨trivial, hd, fun h => absurd hd h, ?_, ?_⟩
    · rfl
    · rw [put, Service.serve, List.map_append]
      rfl

/-- Only serving makes a call. -/
theorem calls_of_goes {s t : Service β} {a : Move} (hg : Goes env s a t)
    (hs : ∀ draw name, a = .advance draw → s.place ≠ .serving name) : t.calls = s.calls := by
  cases hg with
  | serve hp => exact absurd hp (hs _ _ rfl)
  | remove hp =>
    unfold Service.remove
    split <;> rfl
  | _ => rfl

theorem flag_of_outside {s t : Service β} {a : Move} (hg : Goes env s a t)
    (ha : outside a = true) (hf : s.flag = false) : t.flag = false := by
  cases hg with
  | deliver => exact hf
  | toFalse => rfl
  | _ => cases ha

theorem told_step (h : Parted env cmdPrefix p.service) (ht : Told p) (d : Deed) :
    Told (step env p d) := by
  unfold step
  cases hn : next env p d with
  | none => exact ht
  | some q =>
    cases does_of_next hn with
    | move hg hs ha =>
      rcases ht with ht | ⟨hd, hf, hr⟩
      · exact .inl ht
      · have hout := ha.resolve_left (by simp [hd])
        exact .inr ⟨hd, flag_of_outside hg hout hf, hr⟩
    | serve hd hp =>
      rename_i draw o name
      have hr := ht.resolve_right fun hc => by simp [hd] at hc
      obtain ⟨hreplies, hdied, hflag, -⟩ :=
        serve_spec env draw o h.audible hd name
      rcases hw : failed (written env draw o p.service.collector).1 with _ | e
      · refine .inl ⟨by rw [Option.getD_some, hdied, hw]; rfl, fun r hmem => ?_⟩
        rw [Option.getD_some, hreplies] at hmem
        rcases List.mem_append.1 hmem with hmem | hmem
        · exact hr.2 r hmem
        · rw [List.mem_singleton.1 hmem, hw]
      · have hdead : (p.serve env draw o name).died = some abort := by
          rw [hdied, hw]
          rfl
        exact .inr ⟨hdead, hflag (by simp [hdead]), _, _, hreplies, by simp [hw], hr.2⟩

theorem names_step (h : Parted env cmdPrefix p.service)
    (hn : p.replies.map Reply.name = p.service.calls.map Prod.fst) (d : Deed) :
    (step env p d).replies.map Reply.name = (step env p d).service.calls.map Prod.fst := by
  unfold step
  cases hnext : next env p d with
  | none => exact hn
  | some q =>
    cases does_of_next hnext with
    | move hg hs ha =>
      rw [Option.getD_some, calls_of_goes hg hs]
      exact hn
    | serve hd hp =>
      rename_i draw o name
      obtain ⟨hreplies, -, -, -, hcalls⟩ :=
        serve_spec env draw o h.audible hd name
      rw [Option.getD_some, hreplies, hcalls, List.map_append, hn]
      rfl

/-! ## The response stays -/

/-- The response file of the reply and its lock file are in the work directory. -/
def Kept (env : Env β) (p : Writing β) (r : Reply) : Prop :=
  ∃ rsp ∈ rspPath (env.workDir ++ r.name),
    filesOf env.workDir p.service.collector.disk rsp =
      some (TxtWriter.text (TxtWriter.writePacket env.indeterminate r.response)) ∧
    filesOf env.workDir p.service.collector.disk (rsp ++ lckSuffix) = some []

/-- The lock file of neither is the response file of the other. -/
def NoClash (r r' : Reply) : Prop :=
  r.name ≠ r'.name ++ lckSuffix ∧ r'.name ≠ r.name ++ lckSuffix

/-- Clients put command files into the directory, and no others. -/
def Courteous (cmdPrefix : Str) : Deed → Prop
  | .move (.deliver name _) => cmdPrefix <+: name ∧ '/' ∉ name
  | _ => True

theorem Courteous.decent {d : Deed} (h : Courteous cmdPrefix d) : Decent d := by
  cases d with
  | serve draw o => trivial
  | move a =>
    cases a with
    | deliver name data => exact h.2
    | _ => trivial

/-- A step that serves nothing leaves every file alone that is not a command file. -/
theorem lookup_of_goes {s t : Service β} {a : Move} (h : Parted env cmdPrefix s)
    (hg : Goes env s a t) (hs : ∀ draw name, a = .advance draw → s.place ≠ .serving name)
    (ha : Courteous cmdPrefix (.move a)) {n : Str} (hn : ¬ cmdPrefix <+: n) :
    t.collector.disk.lookup n = s.collector.disk.lookup n := by
  cases hg with
  | deliver =>
    rename_i name data
    have hne : n ≠ name := fun he => hn (he ▸ ha.1)
    exact (lookup_store s.collector.disk name n (some data)).trans (if_neg hne)
  | remove hp =>
    rename_i draw name res
    have hsel : s.fq.selects name = true := h.hand name (by simp [hp, Service.inHand])
    obtain ⟨data, rfl⟩ := h.known.read name res hp
    have hne : n ≠ name := fun he => hn (by
      rw [← h.cmdPrefix, he]
      exact selects_iff.1 hsel)
    cases hd : s.collector.disk.lookup name with
    | none => rw [Service.remove_missing data hd]
    | some data' =>
      rw [Service.remove_eq data hd]
      exact lookup_filter (fun m => m ≠ name) (by simpa using hne) _
  | serve hp => exact absurd hp (hs _ _ rfl)
  | _ => rfl

section Names

variable {i : Nat} (hdir : env.workDir.getLast? = some '/') (hno : ¬ cmdName <:+: env.workDir)
  (hpre : Str.find cmdName cmdPrefix = some i)

include hdir hno hpre

theorem find_name {name : Str} (hname : cmdPrefix <+: name) :
    Str.find cmdName name = some i ∧
      Str.find cmdName (env.workDir ++ name) = some (i + env.workDir.length) := by
  obtain ⟨r, rfl⟩ := hname
  have hf := Str.find_append hpre r
  exact ⟨hf, by rw [find_in_dir hdir hno, hf, Option.map_some]⟩

theorem rspPath_name {name : Str} (hname : cmdPrefix <+: name) :
    rspPath (env.workDir ++ name) = some (env.workDir ++ name.replace i 6 rspName) := by
  have hf : Str.find "arqcmd".toList (env.workDir ++ name) = some (i + env.workDir.length) :=
    (find_name hdir hno hpre hname).2
  rw [rspPath, hf, Option.map_some, replace_in_dir]

/-- The response file and its lock file are not taken for command files. -/
theorem not_prefix_response {name : Str} (hname : cmdPrefix <+: name) (hplain : '/' ∉ name) :
    ¬ cmdPrefix <+: name.replace i 6 rspName ∧
      ¬ cmdPrefix <+: name.replace i 6 rspName ++ lckSuffix := by
  obtain ⟨hf, -⟩ := find_name hdir hno hpre hname
  have hapart : Apart env.workDir cmdPrefix :=
    apart_of_contains hdir hno (Str.contains_iff.1 (Option.isSome_iff_exists.2 ⟨i, hpre⟩))
  have hout := hapart name hplain hname
  rw [outputsOf_in_dir hdir hno hf] at hout
  exact ⟨hout _ (by simp) _ rfl, hout _ (by simp) _ rfl⟩

/-- The response file of one command and its lock file are not files of another one. -/
theorem notMem_outputsOf {a b : Str} (ha : cmdPrefix <+: a) (hb : cmdPrefix <+: b) (hne : a ≠ b)
    (hab : a ≠ b ++ lckSuffix) (hba : b ≠ a ++ lckSuffix) :
    env.workDir ++ a.replace i 6 rspName ∉ outputsOf (env.workDir ++ b) ∧
      env.workDir ++ (a.replace i 6 rspName ++ lckSuffix) ∉ outputsOf (env.workDir ++ b) := by
  obtain ⟨hfa, -⟩ := find_name hdir hno hpre ha
  obtain ⟨hfb, -⟩ := find_name hdir hno hpre hb
  have hinj : ∀ {t u x y : Str}, t.length = 6 → u.length = 6 →
      a.replace i 6 t ++ x = b.replace i 6 u ++ y → t = u ∧ a ++ x = b ++ y :=
    replace_append_inj hfa hfb
  rw [outputsOf_in_dir hdir hno hfb]
  simp only [List.mem_cons, List.append_cancel_left_eq, List.not_mem_nil, or_false, not_or]
  refine ⟨⟨fun h => ?_, fun h => ?_, fun h => ?_⟩, fun h => ?_, fun h => ?_, fun h => ?_⟩
  · exact absurd (hinj (x := []) (y := []) rfl rfl (by simpa using h)).1 (by decide)
  · exact hne (by simpa using (hinj (x := []) (y := []) rfl rfl (by simpa using h)).2)
  · exact hab (by simpa using (hinj (x := []) rfl rfl (by simpa using h)).2)
  · exact absurd (hinj (y := []) rfl rfl (by simpa using h)).1 (by decide)
  · exact hba (by simpa using (hinj (y := []) rfl rfl (by simpa using h)).2.symm)
  · exact hne (by simpa using (hinj rfl rfl h).2)

/-- A call in which nothing goes wrong leaves the response and its lock file. -/
theorem kept_call {name : Str} (hname : cmdPrefix <+: name) {o : Outcomes} {pkt : ResponsePacket}
    {files : Str → Option Str} {disk : List (Str × Str)}
    (hfine : o.Fine (TxtWriter.writePacket env.indeterminate pkt)) :
    let w := call o env.indeterminate (env.workDir ++ name) pkt files
    let after := storeAll env.workDir w.2.files (outputsOf (env.workDir ++ name)) disk
    filesOf env.workDir after (env.workDir ++ name.replace i 6 rspName) =
        some (TxtWriter.text (TxtWriter.writePacket env.indeterminate pkt)) ∧
      filesOf env.workDir after (env.workDir ++ name.replace i 6 rspName ++ lckSuffix) =
        some [] := by
  obtain ⟨hf, hpos⟩ := find_name hdir hno hpre hname
  have hrsp := replace_in_dir env.workDir name i rspName
  have hwhole := ((call_files o env.indeterminate pkt files hpos rfl hrsp).2.2 hfine).2
  have hlock := call_lock files hpos hfine
  rw [hrsp, List.append_assoc] at hlock
  simp only [List.append_assoc, filesOf_storeAll, hwhole, hlock]
  rw [outputsOf_in_dir hdir hno hf]
  simp

end Names

/-- The deed delivers no file under a name that was used before. -/
def Fresh (p : Writing β) : Deed → Prop
  | .move a => p.service.Fresh a
  | .serve _ _ => True

instance (p : Writing β) : (d : Deed) → Decidable (Fresh p d)
  | .move a => inferInstanceAs (Decidable (p.service.Fresh a))
  | .serve _ _ => inferInstanceAs (Decidable True)

theorem fresh_image {s : Service β} {a : Move} (h : s.Fresh a) :
    AllSteps (Service.step env) Service.Fresh (commands s) (image s a) := by
  cases a with
  | deliver name data =>
    simp only [image]
    split
    · refine ⟨fun hn => h ?_, trivial⟩
      exact (List.filter_sublist.map Prod.fst).subset hn
    · trivial
  | _ => exact ⟨trivial, trivial⟩

theorem fresh_meaning {d : Deed} (h : Fresh p d) :
    AllSteps (Service.step env) Service.Fresh (commands p.service) (meaning env p d) := by
  unfold meaning
  cases next env p d with
  | none => trivial
  | some q =>
    cases d with
    | move a => exact fresh_image h
    | serve draw o =>
      refine ⟨trivial, ?_⟩
      split
      · exact ⟨trivial, trivial⟩
      · trivial

/-- The books of the commands are kept. -/
theorem ledger_commands (hapart : Apart env.workDir cmdPrefix) (h : Parted env cmdPrefix p.service)
    (hl : (commands p.service).Ledger) {d : Deed} (hd : Decent d) (hf : Fresh p d) :
    (commands (step env p d).service).Ledger := by
  rw [(commands_step hapart h hd).2]
  exact run_preserves_of_allSteps (I := Service.Ledger)
    (fun _ _ hs ha => Service.ledger_step hs ha) hl (fresh_meaning hf) _ (run_mem_visited _ _ _)

/-- Each name is served once. -/
theorem nodup_calls {s : Service β} (h : s.Ledger) :
    ((s.calls ++ s.inCall).map Prod.fst).Nodup := by
  have hfst : (s.removed.map Service.callOf).map Prod.fst = s.removed.map Prod.fst := by
    rw [List.map_map]
    rfl
  have hn := (h.files.map Prod.fst).nodup_iff.2 h.once
  rw [List.map_append] at hn
  rw [h.served, hfst]
  exact (List.nodup_append.1 hn).2.1

/-- Where a command file is, and how many replies it has. -/
theorem fate (h : (commands p.service).Ledger) {f : Str × Str}
    (hsel : p.service.fq.selects f.1 = true) (hf : f ∈ p.service.delivered)
    (hn : p.replies.map Reply.name = p.service.calls.map Prod.fst) :
    (f ∈ p.service.collector.disk ∧ (p.replies.map Reply.name).count f.1 = 0) ∨
      (f.1 ∉ p.service.names ∧ (p.replies.map Reply.name).count f.1 =
        if p.service.place = .serving f.1 then 0 else 1) := by
  rw [hn]
  have honce := (h.files.map Prod.fst).nodup_iff.2 h.once
  rw [List.map_append, List.nodup_append] at honce
  have hcalls : ((commands p.service).calls ++ (commands p.service).inCall).map Prod.fst =
      (commands p.service).removed.map Prod.fst := by
    rw [h.served, List.map_map]
    rfl
  have hnodup := nodup_calls h
  rcases List.mem_append.1 (h.files.mem_iff.2 (mem_only.2 ⟨hf, hsel⟩)) with hd | hr
  · refine .inl ⟨(mem_only.1 hd).1, List.count_eq_zero.2 fun hc => ?_⟩
    have hin : f.1 ∈ (commands p.service).removed.map Prod.fst := by
      rw [← hcalls, List.map_append]
      exact List.mem_append_left _ hc
    exact honce.2.2 _ (List.mem_map_of_mem hd) _ hin rfl
  · have hin := List.mem_map_of_mem (f := Prod.fst) hr
    refine .inr ⟨fun hname => ?_, ?_⟩
    · refine honce.2.2 f.1 ?_ _ hin rfl
      show f.1 ∈ (commands p.service).names
      rw [names_commands]
      exact List.mem_filter.2 ⟨hname, hsel⟩
    · rw [← hcalls, List.map_append, List.mem_append] at hin
      rw [List.map_append, List.nodup_append] at hnodup
      split
      · rename_i hp
        have hact : f.1 ∈ (commands p.service).inCall.map Prod.fst := by
          have hp' : (commands p.service).place = .serving f.1 := hp
          simp [Service.inCall, hp']
        exact List.count_eq_zero.2 fun hc => hnodup.2.2 _ hc _ hact rfl
      · rename_i hp
        refine hnodup.1.count.trans (if_pos (hin.resolve_right fun hact => hp ?_))
        obtain ⟨c, hc, hname⟩ := List.mem_map.1 hact
        unfold Service.inCall at hc
        split at hc
        · rename_i name hplace
          rw [List.mem_singleton.1 hc] at hname
          rw [← hname]
          exact hplace
        · cases hc

/-- The replies are those to the commands served, and the ones in which nothing went wrong are on
the disk. -/
structure Keeping (env : Env β) (cmdPrefix : Str) (p : Writing β) : Prop where
  parted : Parted env cmdPrefix p.service
  ledger : (commands p.service).Ledger
  names : p.replies.map Reply.name = p.service.calls.map Prod.fst
  plain : ∀ r ∈ p.replies, cmdPrefix <+: r.name ∧ '/' ∉ r.name
  kept : ∀ r ∈ p.replies,
    r.outcomes.Fine (TxtWriter.writePacket env.indeterminate r.response) →
      (∀ r' ∈ p.replies, NoClash r r') → Kept env p r

section Keeping

variable (hdir : env.workDir.getLast? = some '/') (hno : ¬ cmdName <:+: env.workDir)
  (hpre : cmdName <:+: cmdPrefix)

include hdir hno hpre

theorem keeping_move {a : Move} {t : Service β} (h : Keeping env cmdPrefix p)
    (hg : Goes env p.service a t)
    (hs : ∀ draw name, a = .advance draw → p.service.place ≠ .serving name)
    (ha : Courteous cmdPrefix (.move a)) (hl : (commands t).Ledger) :
    Keeping env cmdPrefix { p with service := t } where
  parted := parted_goes h.parted hg hs ha.decent
  ledger := hl
  names := by
    show _ = t.calls.map Prod.fst
    rw [calls_of_goes hg hs]
    exact h.names
  plain := h.plain
  kept := fun r hr hfine hclash => by
    obtain ⟨i, hi⟩ := Option.isSome_iff_exists.1 (Str.contains_iff.2 hpre)
    obtain ⟨hname, hplain⟩ := h.plain r hr
    obtain ⟨hrsp, hlck⟩ := not_prefix_response hdir hno hi hname hplain
    obtain ⟨rsp, hmem, hwhole, hlock⟩ := h.kept r hr hfine hclash
    refine ⟨rsp, hmem, ?_⟩
    rw [rspPath_name hdir hno hi hname] at hmem
    obtain rfl := Option.some.inj hmem
    simp only [List.append_assoc, filesOf_append] at hwhole hlock ⊢
    exact ⟨(lookup_of_goes h.parted hg hs ha hrsp).trans hwhole,
      (lookup_of_goes h.parted hg hs ha hlck).trans hlock⟩

theorem keeping_serve (h : Keeping env cmdPrefix p) (hd : p.died = none)
    (hp : p.service.place = .serving name)
    (hl : (commands (p.serve env draw o name).service).Ledger) :
    Keeping env cmdPrefix (p.serve env draw o name) := by
  obtain ⟨i, hi⟩ := Option.isSome_iff_exists.1 (Str.contains_iff.2 hpre)
  have hapart : Apart env.workDir cmdPrefix := apart_of_contains hdir hno hpre
  have hcmd := h.parted.cmdfile name hp
  have hname : cmdPrefix <+: name := by
    rw [← h.parted.cmdPrefix]
    exact selects_iff.1 (h.parted.hand name (by simp [hp, Service.inHand]))
  have hplain := h.parted.plain_of_serving hp
  -- the command was not served before
  have hnew : ∀ r ∈ p.replies, r.name ≠ name := by
    have hn := nodup_calls h.ledger
    have hcalls : (commands p.service).calls.map Prod.fst = p.replies.map Reply.name :=
      h.names.symm
    have hin : (commands p.service).inCall.map Prod.fst = [name] := by
      simp only [Service.inCall, commands, hp, List.map_cons, List.map_nil]
    rw [List.map_append, hcalls, hin, List.nodup_append] at hn
    exact fun r hr => hn.2.2 _ (List.mem_map_of_mem hr) _ (List.mem_singleton_self _)
  obtain ⟨hreplies, -, -, hdisk, hcalls⟩ :=
    serve_spec env draw o h.parted.audible hd name
  exact {
    parted := parted_serve hapart h.parted hd hp draw o
    ledger := hl
    names := by
      rw [hreplies, hcalls, List.map_append, h.names]
      rfl
    plain := fun r hr => by
      rw [hreplies] at hr
      rcases List.mem_append.1 hr with hr | hr
      · exact h.plain r hr
      · rw [List.mem_singleton.1 hr]
        exact ⟨hname, hplain⟩
    kept := fun r hr hfine hclash => by
      rw [hreplies] at hr hclash
      rcases List.mem_append.1 hr with hr | hr
      · -- an older response is not touched
        obtain ⟨hrname, -⟩ := h.plain r hr
        obtain ⟨rsp, hmem, hwhole, hlock⟩ := h.kept r hr hfine fun r' hr' =>
          hclash r' (List.mem_append_left _ hr')
        obtain ⟨hab, hba⟩ := hclash _ (List.mem_append_right _ List.mem_cons_self)
        obtain ⟨hout, hout'⟩ := notMem_outputsOf hdir hno hi hrname hname (hnew r hr) hab hba
        refine ⟨rsp, hmem, ?_⟩
        rw [rspPath_name hdir hno hi hrname] at hmem
        obtain rfl := Option.some.inj hmem
        rw [List.append_assoc] at *
        rw [hdisk, hcmd, filesOf_storeAll, filesOf_storeAll, if_neg hout, if_neg hout']
        exact ⟨hwhole, hlock⟩
      · obtain rfl := List.mem_singleton.1 hr
        refine ⟨_, rspPath_name hdir hno hi hname, ?_⟩
        rw [hdisk, written, hcmd]
        exact kept_call hdir hno hi hname hfine }

theorem keeping_step (h : Keeping env cmdPrefix p) {d : Deed} (hd : Courteous cmdPrefix d)
    (hf : Fresh p d) : Keeping env cmdPrefix (step env p d) := by
  have hl : (commands (step env p d).service).Ledger :=
    ledger_commands (apart_of_contains hdir hno hpre) h.parted h.ledger hd.decent hf
  unfold step at hl ⊢
  cases hn : next env p d with
  | none => exact h
  | some q =>
    rw [hn] at hl
    cases does_of_next hn with
    | move hg hs ha => exact keeping_move hdir hno hpre h hg hs hd hl
    | serve hdied hp => exact keeping_serve hdir hno hpre h hdied hp hl

end Keeping

end Step

section Runs

variable (env : Env β) (broker : β) {cmdPrefix : Str} {disk : List (Str × Str)}

theorem ledger_start (hdisk : (disk.map Prod.fst).Nodup) :
    (commands (start broker cmdPrefix disk).service).Ledger := by
  rw [commands_start]
  exact Service.ledger_start broker cmdPrefix (hdisk.sublist (List.filter_sublist.map Prod.fst))

section Apart

variable (hplain : ∀ f ∈ disk, '/' ∉ f.1) (hapart : Apart env.workDir cmdPrefix)
  {deeds : List Deed} (hdeeds : ∀ d ∈ deeds, Decent d)

include hplain hapart hdeeds

theorem told_run :
    Parted env cmdPrefix (run (step env) (start broker cmdPrefix disk) deeds).service ∧
    (run (step env) (start broker cmdPrefix disk) deeds).replies.map Reply.name =
      (run (step env) (start broker cmdPrefix disk) deeds).service.calls.map Prod.fst ∧
    Told (run (step env) (start broker cmdPrefix disk) deeds) := by
  refine run_preserves_of_allSteps (I := fun (p : Writing β) => Parted env cmdPrefix p.service ∧
    p.replies.map Reply.name = p.service.calls.map Prod.fst ∧ Told p) (C := fun _ d => Decent d)
    ?_ ⟨parted_start env broker hplain, rfl, .inl ⟨rfl, by simp [start]⟩⟩
    ((allSteps_const _ _ _ _).2 hdeeds) _ (run_mem_visited _ _ _)
  rintro p d ⟨h, hn, ht⟩ hd
  exact ⟨(commands_step hapart h hd).1, names_step h hn d, told_step h ht d⟩

theorem ledger_run (hdisk : (disk.map Prod.fst).Nodup)
    (hfresh : AllSteps (step env) Fresh (start broker cmdPrefix disk) deeds) :
    (commands (run (step env) (start broker cmdPrefix disk) deeds).service).Ledger := by
  refine (run_preserves_of_allSteps (I := fun (p : Writing β) => Parted env cmdPrefix p.service ∧
    (commands p.service).Ledger) (C := fun p d => Decent d ∧ Fresh p d) ?_
    ⟨parted_start env broker hplain, ledger_start broker hdisk⟩
    ((allSteps_and _ _ _ _ _).2 ⟨(allSteps_const _ _ _ _).2 hdeeds, hfresh⟩) _
    (run_mem_visited _ _ _)).2
  rintro p d ⟨h, hl⟩ ⟨hd, hf⟩
  exact ⟨(commands_step hapart h hd).1, ledger_commands hapart h hl hd hf⟩

end Apart

/-- **Every command has one reply**, whatever happens to the files of the responses: with each name
delivered once, a command file is waiting, or has been taken and has one reply, or will have it with
the next step; and all replies were written without an exception, but the last one where the process
died of it. -/
theorem one_reply_each (hdisk : (disk.map Prod.fst).Nodup) (hplain : ∀ f ∈ disk, '/' ∉ f.1)
    (hapart : Apart env.workDir cmdPrefix) {deeds : List Deed} (hdeeds : ∀ d ∈ deeds, Decent d)
    (hfresh : AllSteps (step env) Fresh (start broker cmdPrefix disk) deeds) :
    let p := run (step env) (start broker cmdPrefix disk) deeds
    (∀ f ∈ p.service.delivered, cmdPrefix <+: f.1 →
      (f ∈ p.service.collector.disk ∧ (p.replies.map Reply.name).count f.1 = 0) ∨
      (f.1 ∉ p.service.names ∧ (p.replies.map Reply.name).count f.1 =
        if p.service.place = .serving f.1 then 0 else 1)) ∧ Told p := by
  intro p
  obtain ⟨h, hn, ht⟩ := told_run env broker hplain hapart hdeeds
  have hl := ledger_run env broker hplain hapart hdeeds hdisk hfresh
  refine ⟨fun f hf hpre => ?_, ht⟩
  have hsel : p.service.fq.selects f.1 = true := by
    rw [selects_iff, h.cmdPrefix]
    exact hpre
  exact fate hl hsel hf hn

theorem keeping_run (hdir : env.workDir.getLast? = some '/') (hno : ¬ cmdName <:+: env.workDir)
    (hpre : cmdName <:+: cmdPrefix) (hdisk : (disk.map Prod.fst).Nodup)
    (hplain : ∀ f ∈ disk, '/' ∉ f.1) {deeds : List Deed}
    (hdeeds : ∀ d ∈ deeds, Courteous cmdPrefix d)
    (hfresh : AllSteps (step env) Fresh (start broker cmdPrefix disk) deeds) :
    Keeping env cmdPrefix (run (step env) (start broker cmdPrefix disk) deeds) := by
  have hstart : Keeping env cmdPrefix (start broker cmdPrefix disk) := {
    parted := parted_start env broker hplain
    ledger := ledger_start broker hdisk
    names := rfl
    plain := by simp [start]
    kept := by simp [start] }
  exact run_preserves_of_allSteps (I := Keeping env cmdPrefix)
    (C := fun p d => Courteous cmdPrefix d ∧ Fresh p d)
    (fun _ _ h hd => keeping_step hdir hno hpre h hd.1 hd.2) hstart
    ((allSteps_and _ _ _ _ _).2 ⟨(allSteps_const _ _ _ _).2 hdeeds, hfresh⟩) _
    (run_mem_visited _ _ _)

/-- **A response that was written stays**: with clients that deliver command files only, each name
once, every reply whose file operations all succeeded is in its file at the end of the run, with its
lock file, unless another command is named like it with `.lck` behind. -/
theorem response_kept (hdir : env.workDir.getLast? = some '/') (hno : ¬ cmdName <:+: env.workDir)
    (hpre : cmdName <:+: cmdPrefix) (hdisk : (disk.map Prod.fst).Nodup)
    (hplain : ∀ f ∈ disk, '/' ∉ f.1) {deeds : List Deed}
    (hdeeds : ∀ d ∈ deeds, Courteous cmdPrefix d)
    (hfresh : AllSteps (step env) Fresh (start broker cmdPrefix disk) deeds) :
    let p := run (step env) (start broker cmdPrefix disk) deeds
    ∀ r ∈ p.replies, r.outcomes.Fine (TxtWriter.writePacket env.indeterminate r.response) →
      (∀ r' ∈ p.replies, NoClash r r') → Kept env p r :=
  (keeping_run env broker hdir hno hpre hdisk hplain hdeeds hfresh).kept

end Runs

/-- The first response can not be cleared of its temporary file; the second command waits for the
next process. -/
theorem one_reply_each_died :
    let env : Env Unit :=
      { workDir := "/ecf/".toList, trade := fun _ pkt b => (pkt, b), indeterminate := .notTyped }
    let draw : Draw := { valor := 0, strfry := id, strfry_perm := List.Perm.refl }
    let reset : Str := unlines ["<ecf_sgi_begin>".toList, "ecf_reset_request".toList,
      "<ecf_sgi_end>".toList]
    let go : Deed := .move (.advance draw)
    let disk := [("arqcmd.1".toList, reset), ("arqcmd.2".toList, reset)]
    let p := run (step env) (start () "arqcmd".toList disk) [go, go, go,
      .move (.directoryScan ["arqcmd.1".toList, "arqcmd.2".toList]), go, go, go, go, go, go,
      .serve draw { semFalhas with unlinkTmp := some "EACCES".toList }, go]
    p.died = some abort ∧ p.service.delivered.length = 2 ∧
      (∀ f ∈ p.service.delivered, "arqcmd".toList <+: f.1 →
        (f ∈ p.service.collector.disk ∧ (p.replies.map Reply.name).count f.1 = 0) ∨
        (f.1 ∉ p.service.names ∧ (p.replies.map Reply.name).count f.1 =
          if p.service.place = .serving f.1 then 0 else 1)) ∧ Told p :=
  ⟨by decide, by decide, one_reply_each _ () (by decide) (by decide)
    (apart_of_contains (by decide) (by decide) (by decide)) (by simp [Decent, Plain]) (by decide)⟩

/-- The disk is full when the second response is copied; the first one stays. -/
theorem response_kept_first :
    let env : Env Unit :=
      { workDir := "/ecf/".toList, trade := fun _ pkt b => (pkt, b), indeterminate := .notTyped }
    let draw : Draw := { valor := 0, strfry := id, strfry_perm := List.Perm.refl }
    let reset : Str := unlines ["<ecf_sgi_begin>".toList, "ecf_reset_request".toList,
      "<ecf_sgi_end>".toList]
    let go : Deed := .move (.advance draw)
    let disk := [("arqcmd.1".toList, reset), ("arqcmd.2".toList, reset)]
    let p := run (step env) (start () "arqcmd".toList disk) [go, go, go,
      .move (.directoryScan ["arqcmd.1".toList, "arqcmd.2".toList]), go, go, go, go, go, go,
      .serve draw semFalhas, go, go, go, go, go, go, go, .serve draw discoCheio]
    let answer : ResponsePacket := { type := some .tpReset, retCode := pktResponseOk }
    p.replies = [⟨"arqcmd.1".toList, answer, semFalhas, none⟩,
      ⟨"arqcmd.2".toList, answer, discoCheio, none⟩] ∧
        Kept env p ⟨"arqcmd.1".toList, answer, semFalhas, none⟩ := by
  refine ⟨rfl, response_kept _ () (by decide) (by decide) (by decide) (by decide) (by decide)
    (by simp [Courteous]) (by decide) _ List.mem_cons_self (fine_semFalhas _) fun r' hr' => ?_⟩
  rcases List.mem_cons.1 hr' with rfl | hr'
  · exact ⟨by decide, by decide⟩
  · rw [List.mem_singleton.1 hr']
    exact ⟨by decide, by decide⟩

end Writing

end Spooler
