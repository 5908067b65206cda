import FunctionBounds.Number.Binary64

/-!
# The shortest decimal of a number

* `Binary64.isReadBack`: whether a decimal lies among those that are nearest to a number.
* `Binary64.shortest`: the fewest digits that are read back, and of those the nearest.
* `Binary64.text`: a number in decimal, with its integer part in groups of three.
-/

namespace FunctionBounds

/-- A decimal: `digits` times ten to the power of `exponent`. -/
structure Decimal where
  digits : Nat
  exponent : Int
  deriving DecidableEq, Repr

namespace Binary64

/-- How `digits` times ten to the power of `exponent` compares with `n` times two to the power of
`e`. -/
def compareScaled (d : Decimal) (n : Nat) (e : Int) : Ordering :=
  compare (shifted (scaled d.digits d.exponent) (-e)) (scaled (shifted n e) (-d.exponent))

/-- Whether a decimal lies among the numbers that are nearest to `m` times two to the power of `q`.
They reach half of the way to both neighbours, the lower one of which is nearer at a power of two,
and the ends belong to an even `m`. -/
def isReadBack (m : Nat) (q : Int) (d : Decimal) : Bool :=
  let isNarrow := m == 1 <<< (precision - 1) && minExponent < q
  let low := compareScaled d (if isNarrow then 4 * m - 1 else 4 * m - 2) (q - 2)
  let high := compareScaled d (4 * m + 2) (q - 2)
  let isEven := m % 2 == 0
  (low == .gt || isEven && low == .eq) && (high == .lt || isEven && high == .eq)

/-- The least `k` for which ten to the power of `k` is above `m` times two to the power of `q`. The
binary logarithm leaves three to choose from. -/
def decimalLength (m : Nat) (q : Int) : Int :=
  let estimate := Int.fdiv (((m.log2 : Int) + q) * 30103) 100000
  let isAbove := fun k => compareScaled ⟨1, k⟩ m q == .gt
  if isAbove estimate then estimate
  else if isAbove (estimate + 1) then estimate + 1
  else estimate + 2

/-- The decimal nearest to a number among those that end at the power of ten of `exponent` and are
read back. Of two at the same distance it is the even one. -/
def nearestOnGrid (m : Nat) (q exponent : Int) : Option Decimal :=
  let num := scaled (shifted m q) (-exponent)
  let den := shifted (scaled 1 exponent) (-q)
  let below : Decimal := ⟨num / den, exponent⟩
  let above : Decimal := ⟨num / den + 1, exponent⟩
  match isReadBack m q below, isReadBack m q above with
  | true, true => some ⟨Text.roundedQuotient num den, exponent⟩
  | true, false => some below
  | false, true => some above
  | false, false => none

/-- A decimal without zeros at its end; there are at most as many as `steps`. -/
def withoutZeros : Nat → Decimal → Decimal
  | 0, d => d
  | steps + 1, d =>
    if d.digits % 10 = 0 then withoutZeros steps ⟨d.digits / 10, d.exponent + 1⟩ else d

/-- The fewest digits that are read back as `m` times two to the power of `q`, which is not zero.
Seventeen are always enough. -/
def shortest (m : Nat) (q : Int) : Decimal :=
  let length := decimalLength m q
  let found := (List.range 17).findSome? fun n => nearestOnGrid m q (length - (n + 1 : Nat))
  withoutZeros 17 (found.getD ⟨shifted m q, 0⟩)

/-! ## Text -/

/-- Zeros. -/
def zeros (n : Int) : List Char := List.replicate n.toNat '0'

/-- A decimal with its point among the digits. -/
def positional (digits : List Char) (exponent : Int) : String :=
  let point := digits.length + exponent
  let whole := digits.take point.toNat ++ zeros exponent
  let fraction := zeros (-point) ++ digits.drop point.toNat
  let part := fun (cs : List Char) => if cs.isEmpty then ['0'] else cs
  Text.groupedDigits (part whole) ++ "." ++ String.ofList (part fraction)

/-- A decimal with one digit in front of its point and an exponent of at least two digits. -/
def scientific (digits : List Char) (exponent : Int) : String :=
  let fraction := if digits.length = 1 then "" else "." ++ String.ofList (digits.drop 1)
  let exponent := exponent + digits.length - 1
  let sign := if exponent < 0 then "-" else "+"
  String.ofList (digits.take 1) ++ fraction ++ "e" ++ sign ++
    Text.zeroPadded 2 (toString exponent.natAbs)

/-- The least exponent of the first digit for which the point stands among the digits. -/
def minPositional : Int := -4

/-- The greatest exponent of the first digit for which the point stands among the digits. -/
def maxPositional : Int := 15

/-- A number that is not negative. -/
def magnitudeText (m : Nat) (q : Int) : String :=
  if m = 0 then "0.0"
  else
    let d := shortest m q
    let digits := Nat.toDigits 10 d.digits
    let first := d.exponent + digits.length - 1
    if minPositional ≤ first ∧ first ≤ maxPositional then positional digits d.exponent
    else scientific digits d.exponent

/-- A number in decimal, with the digits of its integer part in groups of three. -/
def text : Binary64 → String
  | nan => "nan"
  | infinite isNegative => if isNegative then "-inf" else "inf"
  | finite isNegative m q => (if isNegative then "-" else "") ++ magnitudeText m q

end Binary64

end FunctionBounds
