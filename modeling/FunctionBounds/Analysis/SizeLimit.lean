import FunctionBounds.Number.Shortest

/-!
# Size limits

* `SizeLimit`: the size of the largest file that is read.
* `SizeLimit.allows`: whether a file of a size is read.
-/

namespace FunctionBounds

/-- The size of the largest file that is read. It may have a fraction. -/
inductive SizeLimit where
  | integer (n : Int)
  | real (x : Binary64)
  deriving DecidableEq, Repr

namespace SizeLimit

/-- Whether a file of a size is read. What is no number allows every size. -/
def allows (l : SizeLimit) (size : Nat) : Bool :=
  match l with
  | integer n => size ≤ n
  | real x => !x.isBelow size

/-- A limit in decimal, with the digits of its integer part in groups of three. -/
def text : SizeLimit → String
  | integer n => Text.grouped n
  | real x => x.text

end SizeLimit

end FunctionBounds
