import Mathlib.Data.List.Nodup
import Spooler.Writer.TxtWriter

/-!
# Which values a response carries

`write_packet` writes the values at the even places of each parameter, and a parameter without
values repeats those of the parameter before it (`paramLoop_eq`). **`escreveValores_iff`**: the
values of a packet are all written, once each, exactly when no parameter has more than one and
those without any come first.
-/

namespace Spooler

namespace TxtWriter

/-- The lines in front of the return code. -/
def cabecalho (indeterminate : PacketType) (pkt : ResponsePacket) : List Str :=
  let tp := pkt.type.getD indeterminate
  [PacketTags.beginTag, PacketTags.type tp ++ pkt.contextTag] ++
  (if tp = .tpBeginSession ∨ tp = .tpStatus then [serverLine.flatten] else []) ++
  if tp = .tpBeginSession ∧ pkt.retCode ≠ pktResponseOk then []
  else [sessionIdTag ++ pkt.session]

/-- The lines between the return code and the end tag are the values of the parameters. -/
def LinhasSaoValores (indeterminate : PacketType) (pkt : ResponsePacket) : Prop :=
  (writePacket indeterminate pkt).map List.flatten =
    cabecalho indeterminate pkt ++ Str.intoString pkt.retCode ::
      (values pkt ++ [PacketTags.endTag])

/-- Packets whose parameters have as many values. -/
def MesmaForma (p q : ResponsePacket) : Prop :=
  p.params.map (·.val.length) = q.params.map (·.val.length)

/-- Each value is written once and in its place, whatever the values are: the lines of every
packet of this form with values free of newlines are its values. -/
def EscreveValores (pkt : ResponsePacket) : Prop :=
  ∀ i pkt', MesmaForma pkt pkt' → (∀ v ∈ values pkt', '\n' ∉ v) → LinhasSaoValores i pkt'

/-- No parameter has more than one value, and none without values follows one with a value. -/
structure UmPorParametro (qs : List PktParam) : Prop where
  um : ∀ q ∈ qs, q.val.length ≤ 1
  vazios : qs.Pairwise fun p q => q.val = [] → p.val = []

theorem umPorParametro_iff {p q : ResponsePacket} (h : MesmaForma p q) :
    UmPorParametro p.params ↔ UmPorParametro q.params := by
  have key : ∀ qs : List PktParam, UmPorParametro qs ↔
      (∀ n ∈ qs.map (·.val.length), n ≤ 1) ∧
        (qs.map (·.val.length)).Pairwise fun m n => n = 0 → m = 0 := by
    intro qs
    rw [List.pairwise_map, List.forall_mem_map]
    simp only [List.length_eq_zero_iff]
    exact ⟨fun h => ⟨h.um, h.vazios⟩, fun h => ⟨h.1, h.2⟩⟩
  rw [key, key, h]

theorem linhasSaoValores_iff (i : PacketType) (pkt : ResponsePacket) :
    LinhasSaoValores i pkt ↔ escritos [] pkt.params = values pkt := by
  have hcab : (writePacket i pkt).map List.flatten =
      cabecalho i pkt ++ Str.intoString pkt.retCode ::
        (escritos [] pkt.params ++ [PacketTags.endTag]) := by
    have hv : ((escritos [] pkt.params).map fun v => [v]).map List.flatten =
        escritos [] pkt.params := by
      rw [List.map_map]
      exact List.map_id'' (fun v => List.append_nil v) _
    simp only [writePacket, cabecalho, paramLoop_eq, List.map_append, hv, apply_ite (List.map _)]
    simp
  rw [LinhasSaoValores, hcab, List.append_cancel_left_eq, List.cons.injEq,
    List.append_cancel_right_eq]
  exact and_iff_right rfl

/-! ## Enough -/

/-- Behind a value only parameters with one value follow. -/
theorem escritos_um {vals : List Str} {qs : List PktParam} (h : UmPorParametro qs)
    (hvals : vals ≠ [] → ∀ q ∈ qs, q.val ≠ []) :
    escritos vals qs = qs.flatMap (·.val) := by
  induction qs generalizing vals with
  | nil => rfl
  | cons q qs ih =>
    have hrest : UmPorParametro qs :=
      ⟨fun p hp => h.um p (List.mem_cons_of_mem _ hp), (List.pairwise_cons.1 h.vazios).2⟩
    have hpos := (List.pairwise_cons.1 h.vazios).1
    rw [escritos, List.flatMap_cons]
    rcases hq : q.val with _ | ⟨v, _ | ⟨w, ws⟩⟩
    · obtain rfl : vals = [] := by
        by_contra hne
        exact hvals hne q (List.mem_cons_self ..) hq
      rw [if_pos rfl, ih hrest (fun hne => absurd rfl hne)]
      rfl
    · rw [if_neg (List.cons_ne_nil _ _), ih hrest fun _ p hp hnil => ?_]
      · rfl
      · rw [hpos p hp hnil] at hq
        cases hq
    · have hlen := h.um q (List.mem_cons_self ..)
      rw [hq] at hlen
      simp at hlen

/-! ## Necessary -/

theorem mem_of_mem_alternados {x : Str} {vs : List Str} (h : x ∈ alternados vs) : x ∈ vs := by
  induction vs using alternados.induct with
  | case1 => exact h
  | case2 v => exact h
  | case3 v w vs ih =>
    rw [alternados, List.mem_cons] at h
    rcases h with rfl | h
    · exact List.mem_cons_self ..
    · exact List.mem_cons_of_mem _ (List.mem_cons_of_mem _ (ih h))

/-- Only values of the parameters and of the object they are assigned to are written. -/
theorem mem_of_mem_escritos {x : Str} {vals : List Str} {qs : List PktParam}
    (h : x ∈ escritos vals qs) : x ∈ alternados vals ∨ x ∈ qs.flatMap (·.val) := by
  induction qs generalizing vals with
  | nil => cases h
  | cons q qs ih =>
    have hq : x ∈ alternados (if q.val = [] then vals else q.val) →
        x ∈ alternados vals ∨ x ∈ (q :: qs).flatMap (·.val) := by
      split
      · exact .inl
      · exact fun hx => .inr (List.mem_append_left _ (mem_of_mem_alternados hx))
    rcases List.mem_append.1 h with h | h
    · exact hq h
    · rcases ih h with h | h
      · exact hq h
      · exact .inr (List.mem_append_right _ h)

/-- Where the values are pairwise different, each has to be written in its place: the second value
of a parameter is not written, and a parameter without values would repeat one. -/
theorem umPorParametro_of_escritos {vals : List Str} {qs : List PktParam}
    (hnodup : (qs.flatMap (·.val)).Nodup) (hvals : ∀ v ∈ vals, v ∉ qs.flatMap (·.val))
    (h : escritos vals qs = qs.flatMap (·.val)) :
    UmPorParametro qs ∧ (vals ≠ [] → ∀ q ∈ qs, q.val ≠ []) := by
  induction qs generalizing vals with
  | nil => exact ⟨⟨by simp, List.Pairwise.nil⟩, by simp⟩
  | cons q qs ih =>
    rw [escritos] at h
    rw [List.flatMap_cons] at h hvals hnodup
    rcases hq : q.val with _ | ⟨v, vs⟩
    · rw [hq, List.nil_append] at h hvals hnodup
      rw [if_pos rfl] at h
      obtain rfl : vals = [] := by
        rcases vals with _ | ⟨v, vs⟩
        · rfl
        · rw [alternados_cons, List.cons_append] at h
          exact absurd (h ▸ List.mem_cons_self ..) (hvals v (List.mem_cons_self ..))
      obtain ⟨hum, -⟩ := ih hnodup hvals h
      refine ⟨⟨List.forall_mem_cons.2 ⟨by simp [hq], hum.um⟩,
        List.pairwise_cons.2 ⟨fun _ _ _ => hq, hum.vazios⟩⟩, fun hne => absurd rfl hne⟩
    · rw [hq] at h hvals hnodup
      rw [if_neg (List.cons_ne_nil _ _), alternados_cons, List.cons_append, List.cons_append] at h
      have h := (List.cons.inj h).2
      obtain ⟨hown, hqs, hdis⟩ := List.nodup_append'.1 hnodup
      obtain rfl : vs = [] := by
        rcases vs with _ | ⟨w, ws⟩
        · rfl
        · exfalso
          have hw : w ∉ ws := (List.nodup_cons.1 (List.nodup_cons.1 hown).2).1
          have hmem : w ∈ alternados ws ++ escritos (v :: w :: ws) qs := by
            rw [show alternados ws ++ _ = _ from h]
            exact List.mem_cons_self ..
          rcases List.mem_append.1 hmem with hmem | hmem
          · exact hw (mem_of_mem_alternados hmem)
          rcases mem_of_mem_escritos hmem with hmem | hmem
          · rcases List.mem_cons.1 (alternados_cons v (w :: ws) ▸ hmem) with rfl | hmem
            · exact (List.nodup_cons.1 hown).1 (List.mem_cons_self ..)
            · exact hw (mem_of_mem_alternados hmem)
          · exact hdis (List.mem_cons_of_mem _ (List.mem_cons_self ..)) hmem
      obtain ⟨hum, hpos⟩ := ih hqs (fun x hx => hdis hx) h
      have hpos := hpos (List.cons_ne_nil _ _)
      refine ⟨⟨List.forall_mem_cons.2 ⟨by simp [hq], hum.um⟩,
        List.pairwise_cons.2 ⟨fun p hp hnil => absurd hnil (hpos p hp), hum.vazios⟩⟩,
        fun _ => List.forall_mem_cons.2 ⟨by simp [hq], hpos⟩⟩

/-! ## Values of one's own choice -/

/-- The parameters with other values, all different: runs of `a` of growing length. -/
def marcados : Nat → List PktParam → List PktParam
  | _, [] => []
  | k, q :: qs =>
    { q with val := (List.range' k q.val.length).map fun n => List.replicate n 'a' } ::
      marcados (k + q.val.length) qs

theorem length_marcados (k : Nat) (qs : List PktParam) :
    (marcados k qs).map (·.val.length) = qs.map (·.val.length) := by
  induction qs generalizing k with
  | nil => rfl
  | cons q qs ih => simp [marcados, ih]

theorem values_marcados (k : Nat) (qs : List PktParam) :
    ∃ n, (marcados k qs).flatMap (·.val) =
      (List.range' k n).map fun n => List.replicate n 'a' := by
  induction qs generalizing k with
  | nil => exact ⟨0, rfl⟩
  | cons q qs ih =>
    obtain ⟨n, hn⟩ := ih (k + q.val.length)
    refine ⟨q.val.length + n, ?_⟩
    rw [marcados, List.flatMap_cons, hn, ← List.map_append, List.range'_append_1]

theorem nodup_marcados (k : Nat) (qs : List PktParam) :
    ((marcados k qs).flatMap (·.val)).Nodup := by
  obtain ⟨n, hn⟩ := values_marcados k qs
  rw [hn]
  refine List.Nodup.map (fun m n h => ?_) List.nodup_range'
  simpa using congrArg List.length h

theorem newline_notMem_marcados (k : Nat) (qs : List PktParam) :
    ∀ v ∈ (marcados k qs).flatMap (·.val), '\n' ∉ v := by
  obtain ⟨n, hn⟩ := values_marcados k qs
  rw [hn]
  intro v hv hnl
  obtain ⟨m, -, rfl⟩ := List.mem_map.1 hv
  exact absurd (List.eq_of_mem_replicate hnl) (by decide)

/-- **The values are written once each exactly when no parameter has more than one and those
without any come first**; and where they are pairwise different, the lines are the values in no
other packet. -/
theorem escreveValores_iff (pkt : ResponsePacket) :
    (EscreveValores pkt ↔ UmPorParametro pkt.params) ∧
      ((values pkt).Nodup → ∀ i, LinhasSaoValores i pkt ↔ UmPorParametro pkt.params) := by
  refine ⟨⟨fun h => ?_, fun h i pkt' hforma _ => ?_⟩, fun hnodup i => ?_⟩
  · have hforma : MesmaForma pkt { pkt with params := marcados 0 pkt.params } :=
      (length_marcados 0 pkt.params).symm
    have hlinhas := h .notTyped _ hforma (newline_notMem_marcados 0 pkt.params)
    rw [umPorParametro_iff hforma]
    exact (umPorParametro_of_escritos (nodup_marcados 0 pkt.params) (by simp)
      ((linhasSaoValores_iff _ _).1 hlinhas)).1
  · rw [umPorParametro_iff hforma] at h
    exact (linhasSaoValores_iff _ _).2 (escritos_um h fun hne => absurd rfl hne)
  · rw [linhasSaoValores_iff]
    exact ⟨fun h => (umPorParametro_of_escritos hnodup (by simp) h).1,
      fun h => escritos_um h fun hne => absurd rfl hne⟩

/-- A response with a message of two lines. -/
def duasLinhas : ResponsePacket :=
  { params := [{ name := "erro".toList, val := ["a".toList, "b".toList] }] }

/-- **A line that is not written**: the second one of the message. -/
theorem escreveValores_duasLinhas :
    (writePacket .tpStatus duasLinhas).map List.flatten =
        cabecalho .tpStatus duasLinhas ++ [Str.intoString 0, "a".toList, PacketTags.endTag] ∧
      ¬ LinhasSaoValores .tpStatus duasLinhas ∧ ¬ EscreveValores duasLinhas := by
  have hlinhas : ¬ LinhasSaoValores .tpStatus duasLinhas := by
    rw [linhasSaoValores_iff]
    decide
  exact ⟨by decide, hlinhas, fun h => hlinhas (h .tpStatus _ rfl (by decide))⟩

end TxtWriter

end Spooler
