import Spooler.Writer.Names

/-!
# Responses beside command files

The spooler writes its responses into the directory from which it collects commands. What keeps the
two apart is the prefix of the settings: `file_queue` takes every name that begins with it, and
`serializer` knows nothing of it. **No file that `serializer` makes for a collected name is
collected itself exactly when the prefix contains `arqcmd`**, `apart_iff`: any other prefix has a
name whose response begins with it.
-/

namespace Spooler

namespace Str

/-- A text is found behind a character that it does not contain where it is found there. -/
theorem find_past {pat d : Str} {c : Char} (hc : c ∉ pat) (hne : pat ≠ []) (h : ¬ pat <:+: d)
    (t : Str) : find pat (d ++ c :: t) = (find pat t).map (· + (d.length + 1)) := by
  induction d with
  | nil =>
    have hno : ¬ pat.isPrefixOf (c :: t) = true := by
      rw [List.isPrefixOf_iff_prefix, List.prefix_cons_iff]
      rintro (rfl | ⟨u, rfl, -⟩)
      · exact hne rfl
      · exact hc List.mem_cons_self
    rw [List.nil_append, find, if_neg hno]
    rfl
  | cons b d ih =>
    rw [List.infix_cons_iff, not_or] at h
    have hno : ¬ pat.isPrefixOf (b :: (d ++ c :: t)) = true := by
      rw [List.isPrefixOf_iff_prefix, ← List.cons_append]
      rintro ⟨u, hu⟩
      rcases List.append_eq_append_iff.1 hu with ⟨as, has, -⟩ | ⟨bs, hbs, hcs⟩
      · exact h.1 ⟨as, has.symm⟩
      · cases bs with
        | nil => exact h.1 ⟨[], by rw [hbs, List.append_nil, List.append_nil]⟩
        | cons x bs =>
          obtain rfl : c = x := List.head_eq_of_cons_eq hcs
          exact hc (hbs ▸ List.mem_append_right _ List.mem_cons_self)
    rw [List.cons_append, find, if_neg hno, ih h.2, Option.map_map]
    rfl

end Str

namespace Serializer

/-- The files that `serializer` makes for the command file at `path`. -/
def outputsOf (path : Str) : List Str :=
  match Str.find cmdName path with
  | some pos =>
    [path.replace pos 6 tmpName, path.replace pos 6 rspName,
      path.replace pos 6 rspName ++ lckSuffix]
  | none => []

/-- No file made for a command file of the directory is taken for one. -/
def Apart (dir cmdPrefix : Str) : Prop :=
  ∀ name, '/' ∉ name → cmdPrefix <+: name → ∀ k ∈ outputsOf (dir ++ name), ∀ n,
    k = dir ++ n → ¬ cmdPrefix <+: n

variable {dir : Str}

theorem find_in_dir (hdir : dir.getLast? = some '/') (hno : ¬ cmdName <:+: dir) (name : Str) :
    Str.find cmdName (dir ++ name) = (Str.find cmdName name).map (· + dir.length) := by
  obtain ⟨d, rfl⟩ := List.getLast?_eq_some_iff.1 hdir
  have hd : ¬ cmdName <:+: d := fun hinf => hno (hinf.trans (List.prefix_append d ['/']).isInfix)
  rw [List.append_assoc, List.singleton_append, List.length_append]
  exact Str.find_past (by decide) (by decide) hd name

theorem replace_in_dir (dir name : Str) (i : Nat) (t : Str) :
    (dir ++ name).replace (i + dir.length) 6 t = dir ++ name.replace i 6 t := by
  have hdrop : (dir ++ name).drop (i + dir.length + 6) = name.drop (i + 6) := by
    rw [show i + dir.length + 6 = dir.length + (i + 6) from by omega, List.drop_append]
    simp
  rw [Str.replace, Str.replace, hdrop, Nat.add_comm i, List.take_length_add_append]
  simp only [List.append_assoc]

/-- Behind a command file whose name holds the prefix `arqcmd` there are three files beside it. -/
theorem outputsOf_in_dir (hdir : dir.getLast? = some '/') (hno : ¬ cmdName <:+: dir) {name : Str}
    {i : Nat} (hi : Str.find cmdName name = some i) :
    outputsOf (dir ++ name) = [dir ++ name.replace i 6 tmpName, dir ++ name.replace i 6 rspName,
      dir ++ (name.replace i 6 rspName ++ lckSuffix)] := by
  unfold outputsOf
  rw [find_in_dir hdir hno, hi, Option.map_some]
  simp only [replace_in_dir, List.append_assoc]

/-- What is put in the place of `arqcmd`, and the names it is put into, can be told from the
result. -/
theorem replace_append_inj {a b t u x y : Str} {i : Nat} (ha : Str.find cmdName a = some i)
    (hb : Str.find cmdName b = some i) (ht : t.length = 6) (hu : u.length = 6)
    (h : a.replace i 6 t ++ x = b.replace i 6 u ++ y) : t = u ∧ a ++ x = b ++ y := by
  have hcut : ∀ {s : Str}, Str.find cmdName s = some i →
      (s.take i).length = i ∧ s = s.take i ++ (cmdName ++ s.drop (i + 6)) := by
    intro s hs
    obtain ⟨r, hr⟩ := Str.find_eq_some hs
    have hlen : i + 6 ≤ s.length := Str.add_length_le_of_find (by decide) hs
    have hdrop : s.drop (i + 6) = r := by
      rw [← List.drop_drop, ← hr]
      exact List.drop_left' rfl
    exact ⟨List.length_take_of_le (by omega), by rw [hdrop, hr, List.take_append_drop]⟩
  obtain ⟨hla, hea⟩ := hcut ha
  obtain ⟨hlb, heb⟩ := hcut hb
  simp only [Str.replace, List.append_assoc] at h
  obtain ⟨htake, hrest⟩ := List.append_inj h (hla.trans hlb.symm)
  obtain ⟨htu, hdrop⟩ := List.append_inj hrest (ht.trans hu.symm)
  refine ⟨htu, ?_⟩
  rw [hea, heb, htake, List.append_assoc, List.append_assoc, List.append_assoc, List.append_assoc,
    hdrop]

/-- A prefix that holds `arqcmd` is not one of a name with something else in its place. -/
theorem not_prefix_replace {cmdPrefix r t : Str} {i : Nat}
    (hi : Str.find cmdName cmdPrefix = some i) (ht : t.length = 6) (hne : t ≠ cmdName) :
    ¬ cmdPrefix <+: (cmdPrefix ++ r).replace i 6 t := by
  intro hpre
  have hfound := Str.find_eq_some hi
  have hlen : i + 6 ≤ cmdPrefix.length := Str.add_length_le_of_find (by decide) hi
  obtain ⟨u, hu⟩ := hpre
  -- what stands at the place of `arqcmd`, on both sides
  have hat := congrArg (fun s => (s.drop i).take 6) hu
  have hl : ((cmdPrefix ++ u).drop i).take 6 = cmdName := by
    obtain ⟨v, hv⟩ := hfound
    rw [List.drop_append_of_le_length (by omega), ← hv, List.append_assoc]
    exact List.take_left' rfl
  have hr : (((cmdPrefix ++ r).replace i 6 t).drop i).take 6 = t := by
    have htake : ((cmdPrefix ++ r).take i).length = i := by
      rw [List.length_take_of_le]
      rw [List.length_append]
      omega
    rw [Str.replace, List.append_assoc, List.drop_left' htake, List.take_left' ht]
  simp only [hl, hr] at hat
  exact hne hat.symm

/-- `arqcmd` does not overlap with itself. -/
theorem cmdName_no_overlap {x bs u : Str} (hx : x ≠ []) (hbs : bs ≠ []) (h₁ : cmdName = x ++ bs)
    (h₂ : bs ++ u = cmdName) : False := by
  obtain ⟨c, x', rfl⟩ := List.exists_cons_of_ne_nil hx
  obtain ⟨b, bs', rfl⟩ := List.exists_cons_of_ne_nil hbs
  have hb : b = 'a' := (List.cons.inj h₂).1
  have hmem : b ∈ "rqcmd".toList := by
    have htail : "rqcmd".toList = x' ++ b :: bs' := (List.cons.inj h₁).2
    rw [htail]
    exact List.mem_append_right _ List.mem_cons_self
  rw [hb] at hmem
  exact absurd hmem (by decide)

/-- A text without `arqcmd` that one is put behind. -/
theorem find_cmdName_concat {s : Str} (h : ¬ cmdName <:+: s) :
    Str.find cmdName (s ++ cmdName) = some s.length := by
  have hc : cmdName <:+: s ++ cmdName := (List.suffix_append s cmdName).isInfix
  cases hf : Str.find cmdName (s ++ cmdName) with
  | none => exact absurd hc (Str.not_infix_of_find hf)
  | some j =>
    have hj : j ≤ s.length := Str.le_of_find (r := []) hf (List.append_nil _).symm
    rcases Nat.lt_or_ge j s.length with hlt | hge
    · exfalso
      obtain ⟨u, hu⟩ := Str.find_eq_some hf
      rw [List.drop_append_of_le_length hj] at hu
      have hx : s.drop j ≠ [] := by simpa using hlt
      have hin : s.drop j <:+: s := (List.drop_suffix j s).isInfix
      rcases List.append_eq_append_iff.1 hu with ⟨as, has, -⟩ | ⟨bs, hbs, hcs⟩
      · exact h ((has ▸ (List.prefix_append cmdName as).isInfix).trans hin)
      · cases bs with
        | nil =>
          rw [List.append_nil] at hbs
          exact h (hbs ▸ hin)
        | cons b bs => exact cmdName_no_overlap hx (by simp) hbs hcs.symm
    · exact congrArg some (Nat.le_antisymm hj hge)

theorem apart_of_contains (hdir : dir.getLast? = some '/') (hno : ¬ cmdName <:+: dir)
    {cmdPrefix : Str} (h : cmdName <:+: cmdPrefix) : Apart dir cmdPrefix := by
  rintro name - ⟨r, rfl⟩ k hk n hn hpre
  cases hf : Str.find cmdName cmdPrefix with
  | none => exact Str.not_infix_of_find hf h
  | some i =>
    rw [outputsOf_in_dir hdir hno (Str.find_append hf r)] at hk
    have hrsp : ¬ cmdPrefix <+: (cmdPrefix ++ r).replace i 6 rspName :=
      not_prefix_replace hf rfl (by decide)
    simp only [List.mem_cons, List.not_mem_nil, or_false] at hk
    rcases hk with rfl | rfl | rfl
    · rw [← List.append_cancel_left hn] at hpre
      exact not_prefix_replace hf rfl (by decide) hpre
    · rw [← List.append_cancel_left hn] at hpre
      exact hrsp hpre
    · rw [← List.append_cancel_left hn] at hpre
      refine hrsp (List.prefix_of_prefix_length_le hpre (List.prefix_append _ _) ?_)
      have hlen := Str.add_length_le_of_find (by decide) hf
      have h6 : cmdName.length = 6 := rfl
      have hr6 : rspName.length = 6 := rfl
      simp only [Str.replace, List.length_append, List.length_take, List.length_drop]
      omega

/-- **When the spooler leaves its own responses alone**: in a directory whose path ends with a slash
and does not contain `arqcmd`, and with a prefix that is part of a file name, no file made for a
collected name is collected itself exactly when the prefix contains `arqcmd`. -/
theorem apart_iff (hdir : dir.getLast? = some '/') (hno : ¬ cmdName <:+: dir) {cmdPrefix : Str}
    (hp : '/' ∉ cmdPrefix) : Apart dir cmdPrefix ↔ cmdName <:+: cmdPrefix := by
  refine ⟨fun h => ?_, apart_of_contains hdir hno⟩
  by_contra hinf
  -- the response to this command begins with the prefix
  have hname : '/' ∉ cmdPrefix ++ cmdName := fun hmem =>
    (List.mem_append.1 hmem).elim hp (by decide)
  have hout := outputsOf_in_dir hdir hno (find_cmdName_concat hinf)
  have hrep : (cmdPrefix ++ cmdName).replace cmdPrefix.length 6 rspName = cmdPrefix ++ rspName := by
    have hcut := replace_append cmdPrefix cmdName [] rspName
    rw [List.append_nil, List.append_nil] at hcut
    exact hcut
  rw [hrep] at hout
  refine h _ hname (List.prefix_append _ _) (dir ++ (cmdPrefix ++ rspName)) ?_
    (cmdPrefix ++ rspName) rfl (List.prefix_append _ _)
  rw [hout]
  simp

/-- The usual prefix in a directory of its own; with a shorter one the responses are
collected. -/
theorem apart_spool : Apart "/var/spool/ecf/".toList "arqcmd".toList ∧
    ¬ Apart "/var/spool/ecf/".toList "arq".toList :=
  ⟨(apart_iff (by decide) (by decide) (by decide)).2 (by decide),
    fun h => absurd ((apart_iff (by decide) (by decide) (by decide)).1 h) (by decide)⟩

end Serializer

end Spooler
