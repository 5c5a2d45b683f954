import Spooler.Text.Strings
import Spooler.Foundations.Exec

/-!
# Exceptions

`spooler_exp` and the classes derived from it (`excp.h`), with the two exceptions of the standard
library that the code can meet: `std::out_of_range` of the string operations and
`std::ios::failure` of the streams. Only the first kind is caught by name. A write past the end of a
buffer stands beside them: from there on nothing is known of the process.
-/

namespace Spooler

open Foundations

/-- The classes of `excp.h`. -/
inductive SpoolerExp
  | spoolerExp
  | cmdtagExp
  | collectorExp
  | datapairExp
  | ecfExp
  | fsExp
  | loopctrlExp
  | packetExp
  | pktParamExp
  | rqtReaderExp
  | cortarPapelExp
  | aliquotaExp
  | ctrlExp
  deriving DecidableEq, Repr

/-- How the code can end other than by returning. -/
inductive Excp
  /-- An exception of `excp.h`, with the text of `what()`. -/
  | spooler (cls : SpoolerExp) (what : Str)
  /-- `std::out_of_range`. -/
  | outOfRange
  /-- `std::ios::failure`. -/
  | iosFailure
  /-- Not an exception: `sprintf` has written past the end of its buffer. -/
  | overrun
  deriving DecidableEq, Repr

namespace Excp

/-- `catch (spooler_exp&)` takes the exception. -/
def isSpooler : Excp → Bool
  | spooler _ _ => true
  | _ => false

/-- `catch` of one class takes the exception: `cortar_papel_exp` derives from `rqt_reader_exp`,
and every class from `spooler_exp`. -/
def isA (cls : SpoolerExp) : Excp → Bool
  | spooler c _ =>
    c = cls || cls = .spoolerExp || (c = .cortarPapelExp && cls = .rqtReaderExp)
  | _ => false

theorem isSpooler_of_isA {cls : SpoolerExp} {e : Excp} (h : e.isA cls = true) :
    e.isSpooler = true := by
  cases e with
  | spooler c w => rfl
  | outOfRange => cases h
  | iosFailure => cases h
  | overrun => cases h

/-- `catch (spooler_exp&)` is enough. -/
abbrev DoSpooler (e : Excp) : Prop := e.isSpooler = true

/-- What the driver can raise, with amounts of any size. -/
abbrev DoDriver (e : Excp) : Prop := e.isSpooler = true ∨ e = .overrun

/-- What it can raise with amounts that fit in their buffers, or not. -/
abbrev DoBuffer (cabe : Prop) (e : Excp) : Prop := e.isSpooler = true ∨ ¬cabe ∧ e = .overrun

end Excp

/-- The code keeps `I` and raises exceptions of the spooler only. -/
abbrev SoSpooler {σ α : Type} (I : σ → Prop) (x : Exec Excp σ α) : Prop :=
  Contained I Excp.DoSpooler x

/-- The code keeps `I`, and raises exceptions of the spooler only when what it writes fits. -/
abbrev SoSeCabe {σ α : Type} (cabe : Prop) (I : σ → Prop) (x : Exec Excp σ α) : Prop :=
  Contained I (Excp.DoBuffer cabe) x

section SoSeCabe

variable {σ α : Type} {cabe : Prop} {I : σ → Prop} {x : Exec Excp σ α}

theorem SoSeCabe.soSpooler (h : SoSeCabe cabe I x) (hcabe : cabe) : SoSpooler I x :=
  h.mono fun _ he => he.resolve_right fun hover => hover.1 hcabe

theorem SoSeCabe.doDriver (h : SoSeCabe cabe I x) : Contained I Excp.DoDriver x :=
  h.mono fun _ he => he.imp_right And.right

theorem SoSpooler.doDriver (h : SoSpooler I x) : Contained I Excp.DoDriver x :=
  h.mono fun _ => Or.inl

theorem SoSpooler.soSeCabe (h : SoSpooler I x) : SoSeCabe cabe I x := h.mono fun _ => Or.inl

end SoSeCabe

namespace Str

/-- `s.substr(pos)`. -/
def substrFrom (s : Str) (pos : Nat) : Except Excp Str :=
  if pos ≤ s.length then .ok (s.drop pos) else .error .outOfRange

/-- `s.substr(pos, n)`. -/
def substr (s : Str) (pos n : Nat) : Except Excp Str :=
  if pos ≤ s.length then .ok ((s.drop pos).take n) else .error .outOfRange

/-- `s.at(pos)`. -/
def at' (s : Str) (pos : Nat) : Except Excp Char :=
  match s[pos]? with
  | some c => .ok c
  | none => .error .outOfRange

theorem substr_ok {s : Str} {pos : Nat} (h : pos ≤ s.length) (n : Nat) :
    substr s pos n = .ok ((s.drop pos).take n) := if_pos h

theorem substrFrom_ok {s : Str} {pos : Nat} (h : pos ≤ s.length) :
    substrFrom s pos = .ok (s.drop pos) := if_pos h

theorem substr_error {s : Str} {pos : Nat} (h : s.length < pos) (n : Nat) :
    substr s pos n = .error .outOfRange := if_neg (by omega)

end Str

end Spooler
