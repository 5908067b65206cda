/-!
# Notes

What a scan or an analysis reports about its course. A note belongs to an operation, which is the
region that is being mined, or to none.
-/

namespace FunctionBounds

/-- How much a note matters. -/
inductive Severity where
  | debug
  | info
  | warning
  deriving DecidableEq, Repr

/-- One thing that happened. -/
structure Note where
  severity : Severity
  text : String
  /-- The operation during which it happened. -/
  operation : Option String := none
  deriving DecidableEq, Repr

namespace Note

def debug (text : String) : Note := ⟨.debug, text, none⟩
def info (text : String) : Note := ⟨.info, text, none⟩
def warning (text : String) : Note := ⟨.warning, text, none⟩

/-- The same note, made during an operation. -/
def during (operation : String) (n : Note) : Note := { n with operation := some operation }

end Note

/-- A result and the notes made on the way to it. The notes stay when the result is an error. -/
structure Noted (ε α : Type) where
  result : Except ε α
  notes : List Note := []

namespace Noted

variable {ε α β : Type}

/-- A note and nothing else. -/
def note (n : Note) : Noted ε Unit := ⟨.ok (), [n]⟩

/-- Several notes and nothing else. -/
def noteAll (ns : List Note) : Noted ε Unit := ⟨.ok (), ns⟩

/-- A result without notes. -/
def of (result : Except ε α) : Noted ε α := ⟨result, []⟩

/-- A step and, if it succeeds, the step after it. -/
def andThen (x : Noted ε α) (f : α → Noted ε β) : Noted ε β :=
  match x.result with
  | .ok a => ⟨(f a).result, x.notes ++ (f a).notes⟩
  | .error e => ⟨.error e, x.notes⟩

instance : Monad (Noted ε) where
  pure a := of (.ok a)
  bind := andThen

/-- The same step with its errors renamed. -/
def mapError {δ : Type} (f : ε → δ) (x : Noted ε α) : Noted δ α :=
  ⟨x.result.mapError f, x.notes⟩

end Noted

end FunctionBounds
