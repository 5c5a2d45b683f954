import Spooler.Foundations.LittleEndian
import Spooler.Queue.FileQueue

/-!
# The events of the watch

The loop of `kernel_scan` over the buffer that `read` fills: events back to back, each a header with
the length of the name behind it, padded with NULs, or no name. The loop takes its step from the
event it has just read. **It visits the events that the kernel wrote, each once**, and queues the
names with the prefix, `kernelLoop_eventq`.
-/

namespace Spooler

open Foundations LittleEndian

/-- The name in an event: its bytes, the NUL that ends it and the padding behind that. -/
structure EventName where
  bytes : List UInt8
  padding : ℕ
  nonzero : 0 ∉ bytes

/-- `struct inotify_event`, as the kernel writes it. -/
structure InotifyEvent where
  wd : UInt32
  mask : UInt32
  cookie : UInt32
  name : Option EventName

namespace InotifyEvent

/-- The bytes behind the header. -/
def field (e : InotifyEvent) : List UInt8 :=
  match e.name with
  | some n => n.bytes ++ 0 :: List.replicate n.padding 0
  | none => []

/-- `len`. -/
def len (e : InotifyEvent) : ℕ := e.field.length

/-- The members of the header in front of `len`. -/
def front (e : InotifyEvent) : List UInt8 :=
  split 4 e.wd.toNat ++ (split 4 e.mask.toNat ++ split 4 e.cookie.toNat)

def encode (e : InotifyEvent) : List UInt8 := e.front ++ (split 4 e.len ++ e.field)

/-- Bytes as characters of a `std::string`. -/
def chars (bytes : List UInt8) : Str := bytes.map fun b => Char.ofNat b.toNat

/-- The name that comes with the event. -/
def nameStr (e : InotifyEvent) : Option Str := e.name.map fun n => chars n.bytes

end InotifyEvent

open InotifyEvent

/-- `sizeof(struct inotify_event)`. -/
def notifyEventSize : ℕ := 16

/-- `NOTIFY_EVENT_QUEUE_LEN`. -/
def notifyEventQueueLen : ℕ := notifyEventSize * 2048

/-- The bytes that `read` delivers. -/
def encodeAll (evs : List InotifyEvent) : List UInt8 := evs.flatMap encode

/-- `eventq`, zeroed and then read into. -/
def eventq (evs : List InotifyEvent) : List UInt8 :=
  encodeAll evs ++ List.replicate (notifyEventQueueLen - (encodeAll evs).length) 0

/-- The locals of `kernel_scan` with the queue, and what its loop has come by: the indexes of the
events, with the names read. -/
structure Scan where
  queue : List Str
  gotOne : Bool := false
  visited : List (ℕ × Option Str) := []

namespace FileQueue

/-- The body of the loop for an event with a name. -/
def takeName (q : FileQueue) (tmpName : Str) (s : Scan) : Scan :=
  if q.selects tmpName then { s with gotOne := true, queue := s.queue ++ [tmpName] } else s

/-- The body of the loop, with `ev->len`; `none` is a read outside of `eventq`. -/
def visit (q : FileQueue) (memory : List UInt8) (ptr : ℕ) (s : Scan) : Option (ℕ × Scan) := do
  let len ← readWord 4 memory (ptr + 12)
  if len ≠ 0 then
    let tmpName ← cString (memory.drop (ptr + notifyEventSize))
    let tmpName := chars tmpName
    some (len, q.takeName tmpName { s with visited := s.visited ++ [(ptr, some tmpName)] })
  else some (len, { s with visited := s.visited ++ [(ptr, none)] })

/-- The loop of `kernel_scan`, over indexes. -/
def kernelLoop (q : FileQueue) (memory : List UInt8) (bytes ptr : ℕ) (s : Scan) : Option Scan :=
  if ptr < bytes then
    match q.visit memory ptr s with
    | some (len, s) => kernelLoop q memory bytes (ptr + (notifyEventSize + len)) s
    | none => none
  else some s
termination_by bytes - ptr
decreasing_by
  unfold notifyEventSize
  omega

/-- The test of `directory_scan`. -/
def findsPrefix (q : FileQueue) (tmpName : Str) : Bool := Str.find q.cmdPrefix tmpName = some 0

/-! ## The tests -/

theorem selects_eq (q : FileQueue) (name : Str) :
    q.selects name = q.cmdPrefix.isPrefixOf name := by
  rw [Bool.eq_iff_iff, selects, decide_eq_true_eq, List.isPrefixOf_iff_prefix,
    List.prefix_iff_eq_take, eq_comm]

theorem findsPrefix_eq (q : FileQueue) (name : Str) :
    q.findsPrefix name = q.cmdPrefix.isPrefixOf name := by
  rw [Bool.eq_iff_iff, findsPrefix, decide_eq_true_eq, List.isPrefixOf_iff_prefix]
  constructor
  · exact fun h => Str.find_eq_some h
  · rintro ⟨t, rfl⟩
    exact Str.find_self_append _ t

/-! ## One event -/

theorem length_encode (e : InotifyEvent) : e.encode.length = notifyEventSize + e.len := by
  simp only [encode, front, len, List.length_append, length_split, notifyEventSize]
  omega

/-- What an event does to the locals. -/
def afterEvent (q : FileQueue) (ptr : ℕ) (e : InotifyEvent) (s : Scan) : Scan :=
  let s := { s with visited := s.visited ++ [(ptr, e.nameStr)] }
  match e.nameStr with
  | some name => q.takeName name s
  | none => s

/-- The length is read where the kernel put it. -/
theorem readWord_len {e : InotifyEvent} (h : e.len < 256 ^ 4) (pre post : List UInt8) :
    readWord 4 (pre ++ (e.encode ++ post)) (pre.length + 12) = some e.len := by
  have hfront : (pre ++ e.front).length = pre.length + 12 := by
    simp only [front, List.length_append, length_split]
  have hword := readWord_append h (pre ++ e.front) (e.field ++ post)
  rw [hfront] at hword
  simpa only [encode, List.append_assoc] using hword

/-- What lies behind the header. -/
theorem drop_header (e : InotifyEvent) (pre post : List UInt8) :
    (pre ++ (e.encode ++ post)).drop (pre.length + notifyEventSize) = e.field ++ post := by
  have hheader : (pre ++ (e.front ++ split 4 e.len)).length = pre.length + notifyEventSize := by
    simp only [front, List.length_append, length_split, notifyEventSize]
  have hsplit : pre ++ (e.encode ++ post) =
      (pre ++ (e.front ++ split 4 e.len)) ++ (e.field ++ post) := by
    simp only [encode, List.append_assoc]
  rw [hsplit, List.drop_left' hheader]

/-- **An event is read as it was written**, wherever it lies. -/
theorem visit_encode (q : FileQueue) {e : InotifyEvent} (h : e.len < 256 ^ 4)
    (pre post : List UInt8) (s : Scan) : q.visit (pre ++ (e.encode ++ post)) pre.length s =
      some (e.len, q.afterEvent pre.length e s) := by
  rw [visit, readWord_len h, drop_header, Option.bind_eq_bind, Option.bind_some]
  unfold afterEvent nameStr
  cases hn : e.name with
  | none =>
    have hlen : e.len = 0 := by rw [len, field, hn, List.length_nil]
    rw [hlen, if_neg (by simp)]
    rfl
  | some n =>
    have hfield : e.field = n.bytes ++ 0 :: List.replicate n.padding 0 := by rw [field, hn]
    have hlen : e.len ≠ 0 := by
      rw [len, hfield, List.length_append, List.length_cons]
      omega
    rw [if_pos hlen, hfield, List.append_assoc, List.cons_append, cString_append n.nonzero]
    rfl

/-! ## The events of a buffer -/

/-- The indexes of events back to back from an index on, with their names. -/
def visits (ptr : ℕ) : List InotifyEvent → List (ℕ × Option Str)
  | [] => []
  | e :: evs => (ptr, e.nameStr) :: visits (ptr + e.encode.length) evs

/-- The names that come with the events. -/
def eventNames (evs : List InotifyEvent) : List Str := evs.filterMap nameStr

/-- What the events do to the locals. -/
def afterEvents (q : FileQueue) (ptr : ℕ) (evs : List InotifyEvent) (s : Scan) : Scan where
  queue := s.queue ++ (eventNames evs).filter q.selects
  gotOne := s.gotOne || (eventNames evs).any q.selects
  visited := s.visited ++ visits ptr evs

theorem afterEvents_cons (q : FileQueue) (ptr : ℕ) (e : InotifyEvent) (evs : List InotifyEvent)
    (s : Scan) : q.afterEvents ptr (e :: evs) s =
      q.afterEvents (ptr + e.encode.length) evs (q.afterEvent ptr e s) := by
  unfold afterEvents afterEvent eventNames takeName
  cases hn : e.nameStr with
  | none => simp [visits, hn]
  | some name => cases hsel : q.selects name <;> simp [visits, hn, hsel]

/-- **The loop over events back to back**: one pass for each, from the first to the last byte. -/
theorem kernelLoop_encodeAll (q : FileQueue) {evs : List InotifyEvent}
    (h : ∀ e ∈ evs, e.len < 256 ^ 4) (pre post : List UInt8) (s : Scan) :
    q.kernelLoop (pre ++ (encodeAll evs ++ post)) (pre.length + (encodeAll evs).length)
      pre.length s = some (q.afterEvents pre.length evs s) := by
  induction evs generalizing pre s with
  | nil =>
    unfold kernelLoop
    rw [if_neg (by simp [encodeAll])]
    simp [afterEvents, eventNames, visits]
  | cons e evs ih =>
    rw [List.forall_mem_cons] at h
    have hall : encodeAll (e :: evs) = e.encode ++ encodeAll evs := List.flatMap_cons
    have hlen := length_encode e
    have hptr : (pre ++ e.encode).length = pre.length + (notifyEventSize + e.len) := by
      rw [List.length_append, hlen]
    have hstop : pre.length + (encodeAll (e :: evs)).length =
        (pre ++ e.encode).length + (encodeAll evs).length := by
      rw [hall, List.length_append, List.length_append, Nat.add_assoc]
    have hlt : pre.length < (pre ++ e.encode).length + (encodeAll evs).length := by
      rw [hptr, notifyEventSize]
      omega
    have hrest := ih h.2 (pre ++ e.encode) (q.afterEvent pre.length e s)
    rw [hptr, List.append_assoc, ← hptr] at hrest
    rw [hstop, hall, List.append_assoc]
    unfold kernelLoop
    rw [if_pos hlt, visit_encode q h.1]
    change q.kernelLoop _ _ (pre.length + (notifyEventSize + e.len)) _ = _
    rw [← hptr, hrest, afterEvents_cons, List.length_append]

/-- The queue is that of `kernelScan` with the names of the events. -/
theorem afterEvents_queue (q : FileQueue) (evs : List InotifyEvent) (ptr : ℕ) :
    (q.afterEvents ptr evs { queue := q.queue }).queue = (q.kernelScan (eventNames evs)).queue :=
  rfl

theorem len_lt_of_fit {evs : List InotifyEvent}
    (hfit : (encodeAll evs).length ≤ notifyEventQueueLen) : ∀ e ∈ evs, e.len < 256 ^ 4 := by
  intro e he
  have hinfix : e.encode.length ≤ (encodeAll evs).length :=
    (List.sublist_flatten_of_mem (List.mem_map_of_mem he)).length_le
  rw [length_encode] at hinfix
  have hq : notifyEventQueueLen < 256 ^ 4 := by decide
  omega

/-- **The loop of `kernel_scan`** ends, having visited the events in the buffer, each once and in
their order, and having queued the names that begin with the prefix: those that the test of
`directory_scan` selects. -/
theorem kernelLoop_eventq (q : FileQueue) (evs : List InotifyEvent)
    (hfit : (encodeAll evs).length ≤ notifyEventQueueLen) :
    ∃ s, q.kernelLoop (eventq evs) (encodeAll evs).length 0 { queue := q.queue } = some s ∧
      s.visited = visits 0 evs ∧
      s.queue = q.queue ++ (eventNames evs).filter q.cmdPrefix.isPrefixOf ∧
      s.gotOne = (eventNames evs).any q.cmdPrefix.isPrefixOf ∧
      (eventNames evs).filter q.findsPrefix =
        (eventNames evs).filter q.cmdPrefix.isPrefixOf := by
  have hloop := q.kernelLoop_encodeAll (len_lt_of_fit hfit) []
    (List.replicate (notifyEventQueueLen - (encodeAll evs).length) 0) { queue := q.queue }
  have hselects : q.selects = q.cmdPrefix.isPrefixOf := funext q.selects_eq
  have hfinds : q.findsPrefix = q.cmdPrefix.isPrefixOf := funext q.findsPrefix_eq
  rw [List.nil_append, List.length_nil, Nat.zero_add] at hloop
  refine ⟨_, hloop, ?_, ?_, ?_, by rw [hfinds]⟩
  · exact List.nil_append _
  · rw [afterEvents, hselects]
  · rw [afterEvents, hselects]
    exact Bool.false_or _

/-- An event without a name, and one with the name "ar" and three bytes of padding. -/
theorem kernelLoop_eventq_two :
    let evs : List InotifyEvent :=
      [⟨1, 8, 0, none⟩, ⟨1, 8, 0, some ⟨[97, 114], 3, by decide⟩⟩]
    ∃ s, ({ cmdPrefix := ['a'] } : FileQueue).kernelLoop (eventq evs) (encodeAll evs).length 0
        { queue := [] } = some s ∧
      s.visited = [(0, none), (16, some ['a', 'r'])] ∧ s.queue = [['a', 'r']] := by
  obtain ⟨s, hloop, hvisited, hqueue, -⟩ := kernelLoop_eventq { cmdPrefix := ['a'] }
    [⟨1, 8, 0, none⟩, ⟨1, 8, 0, some ⟨[97, 114], 3, by decide⟩⟩] (by decide)
  exact ⟨s, hloop, hvisited, hqueue⟩

end FileQueue

end Spooler
