/-!
# Traits of an executable

What the headers of every format tell.
-/

namespace FunctionBounds

/-- What the headers of every format tell. -/
structure Traits where
  entryPoint : Nat
  /-- The code of the processor. -/
  machine : Nat
  is64Bit : Bool
  formatName : String
  isExecutable : Bool
  /-- The name of the processor. -/
  arch : String
  deriving DecidableEq, Repr

end FunctionBounds
