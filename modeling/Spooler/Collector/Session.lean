import Spooler.Text.Strings
import Mathlib.Algebra.Group.Nat.Defs

/-!
# The session

`class session`: the identifier of the one open session, empty when there is none. A new
identifier is drawn from `random` and `strfry`; whatever they give, it is not empty
(`generate_created`).
-/

namespace Spooler

/-- What one call of `session::generate` draws: the value of `random()` and the anagram `strfry`
makes of a string. -/
structure Draw where
  valor : Nat
  strfry : Str → Str
  strfry_perm : ∀ s, (strfry s).Perm s

/-- `class session`. -/
structure Session where
  sessionId : Str := []
  deriving DecidableEq, Repr

namespace Session

/-- The field `snprintf(buff, 19, "%19x", valor)` leaves: the hexadecimal digits right-justified in
19 columns, of which the buffer takes 18. -/
def formatField (valor : Nat) : Str :=
  let digits := Nat.toDigits 16 (valor % 2 ^ 32)
  (List.replicate (19 - digits.length) ' ' ++ digits).take 18

/-- The text of `buff` at the end of `session::generate`. -/
def buff (d : Draw) : Str :=
  d.strfry ((formatField d.valor).map fun c => if Str.isSpace c then '0' else c)

/-- `session::created`. -/
def created (s : Session) : Bool := !s.sessionId.isEmpty

/-- `session::generate`. -/
def generate (s : Session) (d : Draw) : Session :=
  if !s.created then { sessionId := "sgi_id_".toList ++ buff d } else s

/-- `session::match`. -/
def matches' (s : Session) (ssid : Str) : Bool := Str.strIequals ssid s.sessionId

/-- `session::reset`. -/
def reset (_ : Session) : Session := { sessionId := [] }

theorem created_iff {s : Session} : s.created = true ↔ s.sessionId ≠ [] := by
  simp [created]

@[simp] theorem reset_sessionId (s : Session) : s.reset.sessionId = [] := rfl

/-- A generated identifier is never empty. -/
theorem generate_created (s : Session) (d : Draw) : (s.generate d).created = true := by
  unfold generate
  rcases h : s.created with _ | _
  · simp [created]
  · simp [h]

end Session

end Spooler
