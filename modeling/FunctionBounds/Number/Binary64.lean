import FunctionBounds.Text.Number

/-!
# Binary numbers with a fraction

Numbers of 64 bits: a sign, 53 binary digits and a binary exponent.

* `Binary64.ofDecimal`: the number nearest to a decimal; a half goes to the even neighbour.
* `Binary64.isBelow`: whether a number is less than a natural number.
-/

namespace FunctionBounds

/-- A binary number with a fraction, an infinity, or no number. -/
inductive Binary64 where
  | nan
  | infinite (isNegative : Bool)
  /-- The number `m` times two to the power of `q`, with its sign. -/
  | finite (isNegative : Bool) (m : Nat) (q : Int)
  deriving DecidableEq, Repr

namespace Binary64

/-- The binary digits of a number. -/
def precision : Nat := 53

/-- The least exponent. -/
def minExponent : Int := -1074

/-- The greatest exponent. -/
def maxExponent : Int := 971

/-- `n` times two to the power of `e`, where `e` counts only if it is positive. -/
def shifted (n : Nat) (e : Int) : Nat := n <<< e.toNat

/-- `n` times ten to the power of `e`, where `e` counts only if it is positive. -/
def scaled (n : Nat) (e : Int) : Nat := n * Nat.pow 10 e.toNat

/-- The greatest `e` for which two to the power of `e` is not above a quotient. -/
def binaryLog (num den : Nat) : Int :=
  let e : Int := (num.log2 : Int) - den.log2
  if shifted den e ≤ shifted num (-e) then e else e - 1

/-- The number nearest to a positive quotient. -/
def ofQuotient (isNegative : Bool) (num den : Nat) : Binary64 :=
  let q := max (binaryLog num den - (precision - 1)) minExponent
  let m := Text.roundedQuotient (shifted num (-q)) (shifted den q)
  let (m, q) := if m = 1 <<< precision then (1 <<< (precision - 1), q + 1) else (m, q)
  if maxExponent < q then .infinite isNegative else .finite isNegative m q

/-- The number nearest to `digits` times ten to the power of `exponent`. Where the decimal has more
than 310 digits in front of its point, or 330 zeros behind it, the outcome is plain. -/
def ofDecimal (isNegative : Bool) (digits : Nat) (exponent : Int) : Binary64 :=
  let length := (Nat.toDigits 10 digits).length
  if digits = 0 ∨ exponent + length < -330 then .finite isNegative 0 minExponent
  else if 310 < exponent + length then .infinite isNegative
  else ofQuotient isNegative (scaled digits exponent) (scaled 1 (-exponent))

/-- Whether a number is zero. -/
def isZero : Binary64 → Bool
  | finite _ m _ => m == 0
  | _ => false

/-- Whether a number is less than a natural number. What is no number is not. -/
def isBelow (x : Binary64) (n : Nat) : Bool :=
  match x with
  | nan => false
  | infinite isNegative => isNegative
  | finite true m _ => m != 0 || n != 0
  | finite false m q => shifted m q < shifted n (-q)

end Binary64

end FunctionBounds
